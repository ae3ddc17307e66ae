import ScrubbingGateway.DataPlane.Isolation

/-!
# Buckets and the limiters they are asked with

The active slot holds a limiter for every bucket a packet can ask. A packet asks each bucket with
that limiter, so it leaves every bucket it uses stamped with the version of the limiter and within
its burst capacity, provided that a bucket with this stamp was within the capacity before.
-/

namespace ScrubbingGateway.DataPlane

open Prog

/-! ## Burst capacity -/

namespace Limiter

/-- A bucket holds no more than the burst capacity in any dimension that counts. -/
def WithinBurst (l : Limiter) (ncpus : UInt32) (noRefill : Bool) (bucket : RlBucket) : Prop :=
  ∀ d, l.counts d = true → bucket.tokens d ≤ rlBurst (l.rate d) ncpus noRefill

variable {l : Limiter} {ncpus : UInt32} {noRefill : Bool} {bucket : RlBucket} {a : Arrival}

theorem withinBurst_iff : l.WithinBurst ncpus noRefill bucket ↔
    (l.ppsSet = true → bucket.ppsTokens ≤ rlBurst l.pps ncpus noRefill) ∧
      (l.bpsSet = true → bucket.bpsTokens ≤ rlBurst l.bps ncpus noRefill) := by
  constructor
  · intro within
    exact ⟨within .packets, within .bytes⟩
  · rintro ⟨packets, bytes⟩ d
    cases d with
    | packets => exact packets
    | bytes => exact bytes

instance : Decidable (l.WithinBurst ncpus noRefill bucket) := decidable_of_iff' _ withinBurst_iff

theorem withinBurst_reset (now : UInt64) :
    l.WithinBurst ncpus noRefill (l.reset now ncpus noRefill) := by
  intro d _
  cases d <;> exact UInt64.le_refl _

theorem WithinBurst.refill (within : l.WithinBurst ncpus false bucket) :
    l.WithinBurst ncpus false (l.refill bucket a.now ncpus) := by
  by_cases same : a.now ≤ bucket.lastNs
  · rwa [Limiter.refill, if_pos same]
  · intro d counted
    rw [refill_tokens l d ncpus same, dimStep, Limiter.refillDim, counted, if_pos rfl]
    exact UInt64.le_iff_toNat_le.mpr (rlRefillDim_refilled (within d counted)).tokens_le

theorem WithinBurst.consume (within : l.WithinBurst ncpus noRefill bucket) (a : Arrival) :
    l.WithinBurst ncpus noRefill (l.consume bucket a.pktLen).2 := by
  intro d counted
  have taken := consume_tokens bucket a counted
  refine UInt64.le_trans (UInt64.le_iff_toNat_le.mpr ?_) (within d counted)
  omega

theorem refill_cfgVersion : (l.refill bucket a.now ncpus).cfgVersion = bucket.cfgVersion := by
  unfold refill
  split <;> rfl

theorem ready_withinBurst (sound : bucket.cfgVersion = l.version →
      l.WithinBurst ncpus noRefill bucket) :
    (l.ready bucket a.now ncpus noRefill).cfgVersion = l.version ∧
      l.WithinBurst ncpus noRefill (l.ready bucket a.now ncpus noRefill) := by
  unfold ready
  split
  · exact ⟨rfl, withinBurst_reset a.now⟩
  next stamped =>
    rw [ne_eq, not_not] at stamped
    cases noRefill with
    | true => exact ⟨stamped, sound stamped⟩
    | false => exact ⟨refill_cfgVersion.trans stamped, (sound stamped).refill⟩

/-- Whatever a packet found, it leaves a bucket of the limiter's version within the capacity. -/
theorem serve_withinBurst {bucket? : Option RlBucket}
    (sound : ∀ bucket, bucket? = some bucket → bucket.cfgVersion = l.version →
      l.WithinBurst ncpus noRefill bucket) :
    (l.serve ncpus noRefill bucket? a).2.cfgVersion = l.version ∧
      l.WithinBurst ncpus noRefill (l.serve ncpus noRefill bucket? a).2 := by
  cases bucket? with
  | none => exact ⟨consume_cfgVersion, (withinBurst_reset a.now).consume a⟩
  | some bucket =>
    obtain ⟨stamped, within⟩ := ready_withinBurst (a := a) (sound bucket rfl)
    exact ⟨consume_cfgVersion.trans stamped, within.consume a⟩

end Limiter

/-! ## What packets are metered with -/

/-- All that a bucket is judged by. -/
structure Metering where
  config : ConfigMaps
  ncpus : UInt32
  noRefill : Bool

def Kernel.metering (k : Kernel) : Metering := ⟨k.config, k.runtime.cpuCount, k.runtime.noRefill⟩

variable {map : BucketMap} {key : UInt32} {bucket : RlBucket}

namespace Metering

/-- A bucket with the stamp of its limiter is within the limiter's burst capacity. -/
def Sound (m : Metering) (map : BucketMap) (key : UInt32) (bucket : RlBucket) : Prop :=
  ∀ l, limiterOf m.config map key = some l → bucket.cfgVersion = l.version →
    l.WithinBurst m.ncpus m.noRefill bucket

/-- A bucket was filled for its limiter. -/
def Filled (m : Metering) (map : BucketMap) (key : UInt32) (bucket : RlBucket) : Prop :=
  ∀ l, limiterOf m.config map key = some l →
    bucket.cfgVersion = l.version ∧ l.WithinBurst m.ncpus m.noRefill bucket

theorem Filled.sound {m : Metering} (filled : m.Filled map key bucket) : m.Sound map key bucket :=
  fun l limited _ => (filled l limited).2

end Metering

def Kernel.Sound (k : Kernel) : Prop :=
  ∀ map key bucket, (k.runtime.buckets map).lookup key = some bucket →
    k.metering.Sound map key bucket

/-- The bucket a call fills. A packet that asks a bucket writes it back, or makes a new one. -/
def PacketCall.uses : PacketCall → Option (BucketMap × UInt32)
  | .bucketWrite map key _ | .bucketUpdate map key _ => some (map, key)
  | _ => none

variable {q : PacketCall}

theorem PacketCall.uses_of_looks (looks : ¬ q.Plain) : q.uses = none := by
  cases q <;> first | rfl | exact absurd trivial looks

namespace Metering

/-- The buckets a program writes were filled for their limiters. -/
def Writes (m : Metering) : PacketCall → Prop
  | .bucketWrite map key bucket | .bucketUpdate map key bucket => m.Filled map key bucket
  | _ => True

/-- An answer some kernel with sound buckets gives. -/
def Reads (m : Metering) (q : PacketCall) (answer : q.Answer) : Prop :=
  ∃ k : Kernel, k.metering = m ∧ k.Sound ∧ answer = (q.exec k).1

end Metering

/-- A program fills buckets for their limiters, as long as it finds sound ones. -/
abbrev Meters {α : Type} (m : Metering) (p : PacketProg α) : Prop := Asks m.Writes m.Reads p

/-- A program that uses no bucket. -/
abbrev UsesNone {α : Type} (p : PacketProg α) : Prop := Asks (·.uses = none) (fun _ _ => True) p

section Rules

variable {m : Metering} {α : Type}

theorem writes_of_unused (unused : q.uses = none) : m.Writes q := by
  cases q <;> trivial

theorem UsesNone.meters {p : PacketProg α} (unused : UsesNone p) : Meters m p :=
  Asks.mono unused (fun _ none => writes_of_unused none) fun _ _ _ => trivial

theorem BooksProg.usesNone {p : PacketProg α} (books : BooksProg p) : UsesNone p := by
  refine Asks.mono books (fun q allowed => ?_) fun _ _ _ => trivial
  cases q <;> first | rfl | exact allowed.elim

theorem recordDrop_usesNone (pkt : PktMeta) (reason : DropReason) :
    UsesNone (recordDrop pkt reason) :=
  asks_ask rfl fun _ => (counted_books pkt reason).usesNone

theorem redirectOut_usesNone (frame : Frame) (pkt : PktMeta) :
    UsesNone (redirectOut frame pkt) := by
  refine (nexthopRewrite_books frame pkt).usesNone.bind fun rewritten? => ?_
  cases rewritten? with
  | none => exact recordDrop_usesNone pkt _
  | some rewritten => exact (sent_books pkt rewritten).usesNone

theorem meters_ask (unused : q.uses = none) {f : q.Answer → PacketProg α}
    (rest : ∀ answer, Meters m (f answer)) : Meters m (ask q >>= f) :=
  ⟨writes_of_unused unused, fun answer _ => rest answer⟩

theorem meters_rlCpuCount {f : UInt32 → PacketProg α} (rest : Meters m (f m.ncpus)) :
    Meters m (rlCpuCount >>= f) := by
  refine ⟨trivial, ?_⟩
  rintro answer ⟨k, rfl, _, rfl⟩
  exact rest

theorem meters_rlTestNoRefill {f : Bool → PacketProg α} (rest : Meters m (f m.noRefill)) :
    Meters m (rlTestNoRefill >>= f) := by
  refine ⟨trivial, ?_⟩
  rintro answer ⟨k, rfl, _, rfl⟩
  have read : k.metering.noRefill = k.runtime.rateLimitConfig.any (· != 0) := rfl
  rw [read] at rest
  simp only [PacketCall.exec]
  cases configured : k.runtime.rateLimitConfig with
  | none | some =>
    rw [configured] at rest
    exact rest

theorem filled_serve {l : Limiter} {bucket? : Option RlBucket} {a : Arrival}
    (limited : limiterOf m.config map key = some l)
    (sound : ∀ bucket, bucket? = some bucket → m.Sound map key bucket) :
    m.Filled map key (l.serve m.ncpus m.noRefill bucket? a).2 := by
  intro l' limited'
  cases limited.symm.trans limited'
  exact Limiter.serve_withinBurst fun bucket found => sound bucket found l limited

theorem meters_bucketLookup {f : Option RlBucket → PacketProg α}
    (rest : ∀ bucket?, (∀ bucket, bucket? = some bucket → m.Sound map key bucket) →
      Meters m (f bucket?)) : Meters m (ask (.bucketLookup map key) >>= f) := by
  refine ⟨trivial, ?_⟩
  rintro answer ⟨k, rfl, sound, rfl⟩
  exact rest _ fun bucket found => sound map key bucket found

theorem meters_bucketAdmit {l : Limiter} (len : UInt64)
    (limited : limiterOf m.config map key = some l) : Meters m (l.bucketAdmit map key len) := by
  refine meters_rlCpuCount (meters_rlTestNoRefill (meters_ask rfl fun now => ?_))
  refine meters_bucketLookup fun bucket? sound => ?_
  have filled := filled_serve (a := ⟨now, len⟩) limited sound
  cases bucket? with
  | none =>
    refine ⟨filled, fun inserted _ => ?_⟩
    show Meters m (if inserted = true then _ else _)
    split <;> trivial
  | some bucket => exact ⟨filled, fun _ _ => trivial⟩

theorem meters_fairNodeAdmit {config : FairNodeConfig} (len : UInt64)
    (limited : limiterOf m.config .nodeBurstState 0 = some (fairNodeLimiter config)) :
    Meters m (fairNodeAdmit config len) := by
  refine meters_rlCpuCount (meters_rlTestNoRefill (meters_ask rfl fun now => ?_))
  refine meters_bucketLookup fun bucket? sound => ?_
  have filled := filled_serve (a := ⟨now, len⟩) limited sound
  cases bucket? with
  | none => trivial
  | some bucket => exact ⟨filled, fun _ _ => trivial⟩

/-- Every frame asks the buckets it uses with the limiters of the active slot. -/
theorem Staged.meters {frame : Frame} {owner : UInt32} {stage : Stage} {p : PacketProg Verdict}
    (staged : Staged m.config frame owner stage p) : Meters m p := by
  have dropped (pkt : PktMeta) (reason : DropReason) : Meters m (recordDrop pkt reason) :=
    (recordDrop_usesNone pkt reason).meters
  have redirected (pkt : PktMeta) : Meters m (redirectOut frame pkt) :=
    (redirectOut_usesNone frame pkt).meters
  induction staged with
  | look looks _ ih =>
    refine ⟨writes_of_unused (PacketCall.uses_of_looks looks), ?_⟩
    rintro answer ⟨k, same, _, rfl⟩
    exact ih k (congrArg Metering.config same)
  | control _ ih => exact meters_ask rfl ih
  | falsePositive _ ih => exact meters_ask rfl fun _ => ih
  | bucket _ limited _ full _ ih =>
    refine (meters_bucketAdmit _ limited).bind fun admitted? => ?_
    cases admitted? with
    | none => exact full ▸ dropped _ _
    | some admitted => exact ih admitted
  | node limited _ missing refused passed =>
    refine (meters_fairNodeAdmit _ limited).bind fun admitted? => ?_
    cases admitted? with
    | none => exact missing ▸ dropped _ _
    | some admitted =>
      cases admitted with
      | false => exact refused ▸ dropped _ _
      | true => exact passed ▸ redirected _
  | drop => exact dropped _ _
  | out | arp => exact redirected _
  | bypass => exact meters_ask rfl fun _ => meters_ask rfl fun _ => trivial

end Rules

/-! ## The buckets after a packet -/

/-- The buckets a program uses. -/
def usedBy {α : Type} (prog : PacketProg α) (k : Kernel) : List (BucketMap × UInt32) :=
  (calls packetMachine prog k).filterMap PacketCall.uses

/-- Every bucket is sound, and those that were used are filled for their limiters. -/
structure Kernel.Metered (k : Kernel) (used : List (BucketMap × UInt32)) : Prop where
  sound : k.Sound
  filled : ∀ map key, (map, key) ∈ used → ∀ bucket,
    (k.runtime.buckets map).lookup key = some bucket → k.metering.Filled map key bucket

section Packet

variable {k : Kernel} {used : List (BucketMap × UInt32)}

theorem exec_metering (q : PacketCall) (k : Kernel) : (q.exec k).2.metering = k.metering := by
  cases q with
  | bucketUpdate | svcStatInsert =>
    rw [PacketCall.exec]
    split <;> rfl
  | svcStatAddClean | svcStatAddDrop =>
    rw [PacketCall.exec, Runtime.modifySvcStat]
    split <;> rfl
  | _ => rfl

theorem exec_buckets (unused : q.uses = none) (k : Kernel) :
    (q.exec k).2.runtime.buckets = k.runtime.buckets := by
  cases q with
  | svcStatInsert id =>
    rw [PacketCall.exec]
    split <;> rfl
  | svcStatAddClean | svcStatAddDrop =>
    rw [PacketCall.exec, Runtime.modifySvcStat]
    split <;> rfl
  | _ => first | rfl | cases unused

theorem Kernel.Metered.congr {k' : Kernel} (metered : k.Metered used)
    (metering : k'.metering = k.metering) (buckets : k'.runtime.buckets = k.runtime.buckets) :
    k'.Metered used := by
  refine ⟨fun map key bucket found => ?_, fun map key member bucket found => ?_⟩
  · rw [metering]
    exact metered.sound map key bucket (buckets ▸ found)
  · rw [metering]
    exact metered.filled map key member bucket (buckets ▸ found)

theorem Kernel.Metered.setBucket (metered : k.Metered used)
    (filled : k.metering.Filled map key bucket) :
    (k.setBucket map key bucket).Metered (used ++ [(map, key)]) := by
  have cases' (map' : BucketMap) (key' : UInt32) (bucket' : RlBucket)
      (found : ((k.setBucket map key bucket).runtime.buckets map').lookup key' = some bucket') :
      (map' = map ∧ key' = key ∧ bucket' = bucket) ∨
        (map', key') ≠ (map, key) ∧ (k.runtime.buckets map').lookup key' = some bucket' := by
    rw [buckets_setBucket] at found
    split at found
    next same =>
      rw [Table.lookup_insert_ite] at found
      split at found
      next sameKey => exact .inl ⟨same, sameKey, (Option.some.inj found).symm⟩
      next otherKey => exact .inr ⟨fun eq => otherKey (congrArg Prod.snd eq), found⟩
    next other => exact .inr ⟨fun eq => other (congrArg Prod.fst eq), found⟩
  refine ⟨fun map' key' bucket' found => ?_, fun map' key' member bucket' found => ?_⟩
  · rcases cases' map' key' bucket' found with ⟨rfl, rfl, rfl⟩ | ⟨_, before⟩
    · exact filled.sound
    · exact metered.sound map' key' bucket' before
  · rcases cases' map' key' bucket' found with ⟨rfl, rfl, rfl⟩ | ⟨other, before⟩
    · exact filled
    · have earlier : (map', key') ∈ used := by
        rcases List.mem_append.mp member with earlier | here
        · exact earlier
        · exact absurd (List.mem_singleton.mp here) other
      exact metered.filled map' key' earlier bucket' before

theorem Kernel.Metered.exec (metered : k.Metered used) (writes : k.metering.Writes q) :
    (q.exec k).2.Metered (used ++ q.uses.toList) := by
  cases uses : q.uses with
  | none =>
    rw [Option.toList_none, List.append_nil]
    exact metered.congr (exec_metering q k) (exec_buckets uses k)
  | some used =>
    cases q with
    | bucketWrite map key bucket =>
      cases uses
      exact metered.setBucket writes
    | bucketUpdate map key bucket =>
      cases uses
      rw [PacketCall.exec]
      split
      · exact metered.setBucket writes
      next full =>
        -- there is no such bucket
        refine ⟨metered.sound, fun map' key' member bucket' found => ?_⟩
        rcases List.mem_append.mp member with earlier | here
        · exact metered.filled map' key' earlier bucket' found
        · cases List.mem_singleton.mp here
          exact absurd (bucketRoom_of_lookup found) full
    | _ => cases uses

theorem Meters.eval {α : Type} {prog : PacketProg α} (meters : Meters k.metering prog)
    (metered : k.Metered used) :
    (eval packetMachine prog k).2.Metered (used ++ usedBy prog k) := by
  induction prog generalizing k used with
  | ret | fail | unfinished => exact (List.append_nil used).symm ▸ metered
  | call q next ih =>
    have answered : k.metering.Reads q (q.exec k).1 := ⟨k, rfl, metered.sound, rfl⟩
    have rest : Meters (q.exec k).2.metering (next (q.exec k).1) := by
      rw [exec_metering]
      exact meters.2 _ answered
    have later := ih _ rest (metered.exec meters.1)
    have split : used ++ usedBy (.call q next) k =
        (used ++ q.uses.toList) ++ usedBy (next (q.exec k).1) (q.exec k).2 := by
      rw [List.append_assoc]
      show _ ++ (q :: calls packetMachine _ _).filterMap _ = _
      cases uses : q.uses with
      | none => rw [List.filterMap_cons_none uses]; rfl
      | some used => rw [List.filterMap_cons_some uses]; rfl
    rw [split]
    exact later

/-- After a packet, the buckets it used hold no more than their burst capacity. -/
theorem Kernel.Metered.receive (metered : k.Metered used) (incoming : Incoming) :
    (receive k incoming).Metered
      (used ++ usedBy (xdpGateway incoming.frame) (k.at incoming.clock)) := by
  have now : (k.at incoming.clock).Metered used := metered.congr rfl rfl
  exact (xdpGateway_staged _ incoming.frame).meters.eval now

end Packet

end ScrubbingGateway.DataPlane
