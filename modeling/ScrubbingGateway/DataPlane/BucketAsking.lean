import ScrubbingGateway.DataPlane.BucketBound
import ScrubbingGateway.DataPlane.Stages

/-!
# Asking a bucket in one step

The programs that ask a bucket always return. What they answer and leave is a function of the
kernel: nothing but the clock and the bucket of the key changes, and the answer is an error only
when there is no room for a new bucket.
-/

namespace ScrubbingGateway.DataPlane

open Prog

namespace Kernel

/-- The clock has been read once. -/
def ticked (k : Kernel) : Kernel := k.withRuntime k.runtime.tick

/-- What a bucket decides about a packet now, and the bucket it leaves. -/
def served (k : Kernel) (l : Limiter) (map : BucketMap) (key : UInt32) (len : UInt64) :
    Bool × RlBucket :=
  l.serve k.runtime.cpuCount k.runtime.noRefill ((k.runtime.buckets map).lookup key)
    ⟨k.runtime.clock 0, len⟩

def setBucket (k : Kernel) (map : BucketMap) (key : UInt32) (bucket : RlBucket) : Kernel :=
  k.withRuntime (k.runtime.setBucket map key bucket)

/-- A bucket of a service is made when it is missing. -/
def askBucket (k : Kernel) (l : Limiter) (map : BucketMap) (key : UInt32) (len : UInt64) :
    Option Bool × Kernel :=
  if k.runtime.bucketRoom map key then
    (some (k.served l map key len).1, k.ticked.setBucket map key (k.served l map key len).2)
  else (none, k.ticked)

/-- The node bucket has to be there. -/
def askNode (k : Kernel) (config : FairNodeConfig) (len : UInt64) : Option Bool × Kernel :=
  if ((k.runtime.buckets .nodeBurstState).lookup 0).isSome then
    let result := k.served (fairNodeLimiter config) .nodeBurstState 0 len
    (some result.1, k.ticked.setBucket .nodeBurstState 0 result.2)
  else (none, k.ticked)

end Kernel

section Asking

variable {k : Kernel} {α : Type}

theorem eval_ask {c : PacketCall} {f : c.Answer → PacketProg α} :
    eval packetMachine (ask c >>= f) k = eval packetMachine (f (c.exec k).1) (c.exec k).2 := rfl

theorem eval_rlCpuCount : eval packetMachine rlCpuCount k = (.returned k.runtime.cpuCount, k) := rfl

theorem eval_rlTestNoRefill :
    eval packetMachine rlTestNoRefill k = (.returned k.runtime.noRefill, k) := by
  rw [rlTestNoRefill, eval_ask]
  simp only [PacketCall.exec, Runtime.noRefill]
  cases k.runtime.rateLimitConfig with
  | none | some => rfl

theorem bucketRoom_of_lookup {r : Runtime} {map : BucketMap} {key : UInt32} {bucket : RlBucket}
    (found : (r.buckets map).lookup key = some bucket) : r.bucketRoom map key = true := by
  rw [Runtime.bucketRoom, found]
  rfl

theorem eval_bucketAdmit (l : Limiter) (map : BucketMap) (key : UInt32) (len : UInt64) :
    eval packetMachine (l.bucketAdmit map key len) k =
      (.returned (k.askBucket l map key len).1, (k.askBucket l map key len).2) := by
  have unmoved : k.ticked.runtime.buckets = k.runtime.buckets := rfl
  have room : k.ticked.runtime.bucketRoom map key = k.runtime.bucketRoom map key := rfl
  rw [Limiter.bucketAdmit, eval_bind eval_rlCpuCount, eval_bind eval_rlTestNoRefill, eval_ask]
  show eval packetMachine (ask (.bucketLookup map key) >>= _) k.ticked = _
  rw [eval_ask, Kernel.askBucket, Kernel.served]
  simp only [PacketCall.exec, unmoved]
  cases found : (k.runtime.buckets map).lookup key with
  | none =>
    rw [← room]
    show eval packetMachine (if (PacketCall.exec (.bucketUpdate map key _) k.ticked).1 = true then _
      else _) (PacketCall.exec (.bucketUpdate map key _) k.ticked).2 = _
    rw [PacketCall.exec]
    split <;> rfl
  | some bucket =>
    rw [if_pos (bucketRoom_of_lookup found)]
    rfl

theorem eval_fairNodeAdmit (config : FairNodeConfig) (len : UInt64) :
    eval packetMachine (fairNodeAdmit config len) k =
      (.returned (k.askNode config len).1, (k.askNode config len).2) := by
  have unmoved : k.ticked.runtime.buckets = k.runtime.buckets := rfl
  rw [fairNodeAdmit, eval_bind eval_rlCpuCount, eval_bind eval_rlTestNoRefill, eval_ask]
  show eval packetMachine (ask (.bucketLookup .nodeBurstState 0) >>= _) k.ticked = _
  rw [eval_ask, Kernel.askNode, Kernel.served]
  simp only [PacketCall.exec, unmoved]
  cases found : (k.runtime.buckets .nodeBurstState).lookup 0 with
  | none | some => rfl

theorem eval_config (prog : PacketProg α) (k : Kernel) :
    (eval packetMachine prog k).2.config = k.config := by
  induction prog generalizing k with
  | ret | fail | unfinished => rfl
  | call q next ih => exact (ih _ _).trans (q.exec_config k)

theorem askBucket_config (k : Kernel) (l : Limiter) (map : BucketMap) (key : UInt32)
    (len : UInt64) : (k.askBucket l map key len).2.config = k.config := by
  unfold Kernel.askBucket
  split <;> rfl

theorem exec_of_looks {q : PacketCall} (looks : ¬ q.Plain) (k : Kernel) : (q.exec k).2 = k := by
  cases q with
  | activeConfig | outer | inner | fairNodeConfig | gblMeta => rfl
  | _ => exact absurd trivial looks

end Asking

end ScrubbingGateway.DataPlane
