import ScrubbingGateway.DataPlane.Buckets
import ScrubbingGateway.DataPlane.ConfigMaps
import ScrubbingGateway.DataPlane.Parse

/-!
# Runtime maps and the helper calls of the packet program

The maps a packet updates, as one CPU sees them, and the calls the program makes: lookups in the
configuration, bucket updates, counters, the sampling ring and the final redirect.
-/

namespace ScrubbingGateway.DataPlane

/-- The maps of token buckets. `nodeBurstState` is an array with one entry, the others are hash
maps keyed by the service id. -/
inductive BucketMap where
  | svcRlState
  | vipCeilingState
  | serviceIngressCapState
  | svcCommittedState
  | svcBurstState
  | nodeBurstState
deriving DecidableEq, Repr

def BucketMap.maxEntries : BucketMap → Nat
  | nodeBurstState => 1
  | _ => 1024

structure Nexthop where
  dstMac : List UInt8
  srcMac : List UInt8
  resolved : UInt8
deriving DecidableEq, Repr

structure SvcStat where
  cleanPkts : UInt64
  cleanBytes : UInt64
  dropPkts : UInt64
  dropBytes : UInt64
  dropByReason : UInt32 → UInt64

def SvcStat.zero : SvcStat := ⟨0, 0, 0, 0, fun _ => 0⟩

structure SampleConfig where
  ratePerSec : UInt64
  burst : UInt64
deriving DecidableEq, Repr

structure SampleBucket where
  tokens : UInt64
  lastNs : UInt64
deriving DecidableEq, Repr

inductive SampleStat where
  | emitted
  | suppressed
  | lost
deriving DecidableEq, Repr

inductive BloomFpStage where
  | whitelist
  | global
deriving DecidableEq, Repr

structure DropEvent where
  tsNs : UInt64
  srcIp : UInt32
  dstIp : UInt32
  serviceId : UInt32
  sport : UInt16
  dport : UInt16
  reason : UInt8
  ipProto : UInt8
deriving DecidableEq, Repr

inductive XdpAction where
  | drop
  | pass
  | redirect
deriving DecidableEq, Repr

structure BypassStat where
  pkts : UInt64
  bytes : UInt64
deriving DecidableEq, Repr

structure Runtime where
  rlNcpus : UInt32
  rateLimitConfig : Option UInt32
  nodeControl : Option UInt32
  txDevmap : Bool
  nexthopMap : Table UInt32 Nexthop
  buckets : BucketMap → Table UInt32 RlBucket
  counterMap : UInt32 → Option UInt64
  svcStatMap : Table UInt32 SvcStat
  bypassCounter : Option BypassStat
  bloomStats : BloomFpStage → Option UInt64
  sampleConfig : Option SampleConfig
  sampleBucket : Option SampleBucket
  sampleStats : SampleStat → Option UInt64
  ringbufRoom : Nat
  ringbuf : List DropEvent
  /-- The readings of the clock, the next one first. -/
  clock : Nat → UInt64

/-- All the state a packet program runs on. -/
structure Kernel where
  config : ConfigMaps
  runtime : Runtime

inductive PacketCall where
  | activeConfig
  | outer (o : Outer) (slot : UInt32)
  | inner (o : Outer) (id : MapId) (key : o.Key)
  | fairNodeConfig (slot : UInt32)
  | gblMeta (slot : UInt32)
  | nodeControl
  | rateLimitConfig
  | cpuCount
  | ktimeGetNs
  | bucketLookup (map : BucketMap) (key : UInt32)
  /-- A write through the pointer a lookup gave. -/
  | bucketWrite (map : BucketMap) (key : UInt32) (bucket : RlBucket)
  | bucketUpdate (map : BucketMap) (key : UInt32) (bucket : RlBucket)
  | nexthopLookup (key : UInt32)
  | counterAdd (key : UInt32)
  | svcStatLookup (id : UInt32)
  /-- An update with `BPF_NOEXIST` of a zeroed record. -/
  | svcStatInsert (id : UInt32)
  | svcStatAddClean (id : UInt32) (bytes : UInt16)
  | svcStatAddDrop (id : UInt32) (bytes : UInt16) (reason : UInt32)
  | bypassAdd (bytes : UInt16)
  | bloomFpAdd (stage : BloomFpStage)
  | sampleConfig
  | sampleBucketLookup
  | sampleBucketWrite (bucket : SampleBucket)
  | sampleStatAdd (stat : SampleStat)
  | ringbufReserve
  | ringbufSubmit (event : DropEvent)
  | redirectMap

namespace PacketCall

abbrev Answer : PacketCall → Type
  | activeConfig => Option ActiveConfig
  | outer _ _ => Option MapId
  | inner o _ _ => Option o.Val
  | fairNodeConfig _ => Option FairNodeConfig
  | gblMeta _ => Option GblMeta
  | nodeControl | rateLimitConfig => Option UInt32
  | cpuCount => UInt32
  | ktimeGetNs => UInt64
  | bucketLookup _ _ => Option RlBucket
  | nexthopLookup _ => Option Nexthop
  | sampleConfig => Option SampleConfig
  | sampleBucketLookup => Option SampleBucket
  | bucketUpdate _ _ _ | svcStatLookup _ | svcStatInsert _ | ringbufReserve => Bool
  | bucketWrite _ _ _ | counterAdd _ | svcStatAddClean _ _ | svcStatAddDrop _ _ _ => Unit
  | bypassAdd _ | bloomFpAdd _ | sampleBucketWrite _ | sampleStatAdd _ | ringbufSubmit _ => Unit
  | redirectMap => XdpAction

end PacketCall

namespace Runtime

variable (r : Runtime)

def setBucket (map : BucketMap) (key : UInt32) (bucket : RlBucket) : Runtime :=
  { r with buckets := Function.update r.buckets map ((r.buckets map).insert key bucket) }

/-- A hash map insert succeeds while the map has room or already holds the key. -/
def bucketRoom (map : BucketMap) (key : UInt32) : Bool :=
  ((r.buckets map).lookup key).isSome ||
    (r.buckets map).entries.length < map.maxEntries

def tick : Runtime := { r with clock := fun n => r.clock (n + 1) }

def addCounter (key : UInt32) : Runtime :=
  { r with counterMap := Function.update r.counterMap key ((r.counterMap key).map (· + 1)) }

def setSvcStat (id : UInt32) (stat : SvcStat) : Runtime :=
  { r with svcStatMap := r.svcStatMap.insert id stat }

def addBypass (bytes : UInt16) : Runtime :=
  { r with bypassCounter := r.bypassCounter.map (fun stat =>
      ⟨stat.pkts + 1, stat.bytes + bytes.toUInt64⟩) }

def addBloomFp (stage : BloomFpStage) : Runtime :=
  { r with bloomStats := Function.update r.bloomStats stage ((r.bloomStats stage).map (· + 1)) }

def addSampleStat (stat : SampleStat) : Runtime :=
  { r with sampleStats := Function.update r.sampleStats stat ((r.sampleStats stat).map (· + 1)) }

def submit (event : DropEvent) : Runtime :=
  { r with ringbufRoom := r.ringbufRoom - 1, ringbuf := r.ringbuf ++ [event] }

/-- Change the record of a service, if it has one. -/
def modifySvcStat (id : UInt32) (change : SvcStat → SvcStat) : Runtime :=
  match r.svcStatMap.lookup id with
  | some stat => r.setSvcStat id (change stat)
  | none => r

end Runtime

namespace SvcStat

def addClean (stat : SvcStat) (bytes : UInt16) : SvcStat :=
  { stat with cleanPkts := stat.cleanPkts + 1, cleanBytes := stat.cleanBytes + bytes.toUInt64 }

def addDrop (stat : SvcStat) (bytes : UInt16) (reason : UInt32) : SvcStat :=
  { stat with
    dropPkts := stat.dropPkts + 1
    dropBytes := stat.dropBytes + bytes.toUInt64
    dropByReason := Function.update stat.dropByReason reason (stat.dropByReason reason + 1) }

end SvcStat

def svcStatMaxEntries : Nat := 1024

namespace Kernel

def withRuntime (k : Kernel) (runtime : Runtime) : Kernel := { k with runtime }

end Kernel

namespace PacketCall

/-- What a call answers and does. The configuration is only read. -/
def exec : (c : PacketCall) → Kernel → c.Answer × Kernel
  | activeConfig, k => (k.config.activeConfig, k)
  | outer o slot, k => (k.config.outer o slot, k)
  | inner o id key, k => ((k.config.inner o)[id]?.bind fun t => Inner.find o t key, k)
  | fairNodeConfig slot, k => (k.config.fairNodeConfig slot, k)
  | gblMeta slot, k => (k.config.gblMeta slot, k)
  | nodeControl, k => (k.runtime.nodeControl, k)
  | rateLimitConfig, k => (k.runtime.rateLimitConfig, k)
  | cpuCount, k => (k.runtime.rlNcpus, k)
  | ktimeGetNs, k => (k.runtime.clock 0, k.withRuntime k.runtime.tick)
  | bucketLookup map key, k => ((k.runtime.buckets map).lookup key, k)
  | bucketWrite map key bucket, k => ((), k.withRuntime (k.runtime.setBucket map key bucket))
  | bucketUpdate map key bucket, k =>
    if k.runtime.bucketRoom map key then
      (true, k.withRuntime (k.runtime.setBucket map key bucket))
    else (false, k)
  | nexthopLookup key, k => (k.runtime.nexthopMap.lookup key, k)
  | counterAdd key, k => ((), k.withRuntime (k.runtime.addCounter key))
  | svcStatLookup id, k => ((k.runtime.svcStatMap.lookup id).isSome, k)
  | svcStatInsert id, k =>
    if (k.runtime.svcStatMap.lookup id).isNone ∧
        k.runtime.svcStatMap.entries.length < svcStatMaxEntries then
      (true, k.withRuntime (k.runtime.setSvcStat id .zero))
    else (false, k)
  | svcStatAddClean id bytes, k =>
    ((), k.withRuntime (k.runtime.modifySvcStat id (·.addClean bytes)))
  | svcStatAddDrop id bytes reason, k =>
    ((), k.withRuntime (k.runtime.modifySvcStat id (·.addDrop bytes reason)))
  | bypassAdd bytes, k =>
    ((), k.withRuntime (k.runtime.addBypass bytes))
  | bloomFpAdd stage, k =>
    ((), k.withRuntime (k.runtime.addBloomFp stage))
  | sampleConfig, k => (k.runtime.sampleConfig, k)
  | sampleBucketLookup, k => (k.runtime.sampleBucket, k)
  | sampleBucketWrite bucket, k =>
    ((), k.withRuntime { k.runtime with sampleBucket := some bucket })
  | sampleStatAdd stat, k =>
    ((), k.withRuntime (k.runtime.addSampleStat stat))
  | ringbufReserve, k => (0 < k.runtime.ringbufRoom, k)
  | ringbufSubmit event, k =>
    ((), k.withRuntime (k.runtime.submit event))
  | redirectMap, k => (if k.runtime.txDevmap then .redirect else .drop, k)

/-- The error answers of the calls. -/
def fault : (c : PacketCall) → c.Answer
  | activeConfig => none
  | outer _ _ => none
  | inner _ _ _ => none
  | fairNodeConfig _ => none
  | gblMeta _ => none
  | nodeControl | rateLimitConfig => none
  | cpuCount => (0 : UInt32)
  | ktimeGetNs => (0 : UInt64)
  | bucketLookup _ _ => none
  | nexthopLookup _ => none
  | sampleConfig => none
  | sampleBucketLookup => none
  | bucketUpdate _ _ _ | svcStatLookup _ | svcStatInsert _ | ringbufReserve => false
  | bucketWrite _ _ _ | counterAdd _ | svcStatAddClean _ _ | svcStatAddDrop _ _ _ => ()
  | bypassAdd _ | bloomFpAdd _ | sampleBucketWrite _ | sampleStatAdd _ | ringbufSubmit _ => ()
  | redirectMap => XdpAction.drop

theorem exec_config (c : PacketCall) (k : Kernel) : (c.exec k).2.config = k.config := by
  cases c with
  | bucketUpdate | svcStatInsert =>
    simp only [exec]
    split <;> rfl
  | _ => rfl

end PacketCall

def packetMachine : Machine Kernel PacketCall PacketCall.Answer where
  exec := PacketCall.exec
  fault := PacketCall.fault

/-- A part of the packet program. -/
abbrev PacketProg (α : Type) : Type := Prog PacketCall PacketCall.Answer α

def ask (c : PacketCall) : PacketProg c.Answer := Prog.request c

end ScrubbingGateway.DataPlane
