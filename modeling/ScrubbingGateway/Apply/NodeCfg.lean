import ScrubbingGateway.DataPlane.ConfigMaps

/-!
# The decoded snapshot and the budgets derived from it

The records of `xdpgw-apply.c`, the arithmetic of `fair_budget.h`, and the plan of the global
bloom filter. Counts are the lengths of the lists they go with.
-/

namespace ScrubbingGateway.Apply

open DataPlane

structure CfgRule where
  srcLo : UInt16
  srcHi : UInt16
  dstLo : UInt16
  dstHi : UInt16
  proto : UInt8
  flags : UInt8
deriving DecidableEq, Repr

structure CfgSource where
  prefixlen : UInt32
  addr : UInt32
deriving DecidableEq, Repr

structure CfgService where
  dstPrefixlen : UInt32
  dstAddr : UInt32
  dpId : UInt32
  enabled : UInt8
  wlFlags : UInt8
  reserved0 : UInt8
  vipFlags : UInt8
  committedBps : UInt64
  ceilingBps : UInt64
  vipPps : UInt64
  vipBps : UInt64
  servicePps : UInt64
  serviceBps : UInt64
  svcRlFlags : UInt8
  rules : List CfgRule
  wl : List CfgSource
deriving DecidableEq, Repr

def schemaVersion : UInt32 := 4
def kindServiceFull : UInt32 := 1
def kindGlobalDeny : UInt32 := 2

structure NodeCfg where
  schemaVersion : UInt32
  snapshotKind : UInt32
  services : List CfgService
  globalRevision : UInt64
  globalEntries : List CfgSource
deriving DecidableEq, Repr

def applyConfigVersion : UInt32 := 1
def globalDenyMaxEntries : Nat := 1048576
def gblLpmMaxEntries : Nat := 1024 * 1024
def gblBloomMaxEntries : Nat := 2 * 1024 * 1024
def gblExpandFloor : UInt32 := 16
def gblBloomPrefix : UInt32 := 24

/-! ## Fair budgets -/

def fairRateMax : UInt64 := 16000000000

structure FairBudget where
  committedBps : UInt64
  burstBps : UInt64
  capBps : UInt64
  capPps : UInt64
deriving DecidableEq, Repr

def clampFairRate (value : UInt64) : UInt64 :=
  if value > fairRateMax then fairRateMax else value

def fairRateProduct (left right : UInt64) : UInt64 :=
  if left = 0 ∨ right = 0 then 0
  else if left > fairRateMax / right then fairRateMax
  else left * right

def fairBudget (committedBps ceilingBps k refPkt : UInt64) : FairBudget :=
  let committed := clampFairRate committedBps
  let ceiling := clampFairRate ceilingBps
  let cap := fairRateProduct ceiling k
  { committedBps := committed, burstBps := ceiling - committed, capBps := cap,
    capPps := cap / refPkt }

def nodeHeadroom (capacity sumCommitted : UInt64) : UInt64 :=
  if capacity > sumCommitted then capacity - sumCommitted else 0

/-- The saturating sum `apply_write_service` keeps. -/
def addCommitted (sum committed : UInt64) : UInt64 :=
  if 0xffffffffffffffff - sum < committed then 0xffffffffffffffff else sum + committed

/-- A decimal setting in the helper's environment, after `strtoull`. -/
inductive EnvNumber where
  | unset
  | invalid
  | value (n : UInt64)
deriving DecidableEq, Repr

def EnvNumber.orDefault : EnvNumber → UInt64 → Option UInt64
  | unset, fallback => some fallback
  | invalid, _ => none
  | value n, _ => some n

structure Env where
  nodeCleanCapacityBps : EnvNumber
  fairK : EnvNumber
  fairRefPkt : EnvNumber
deriving DecidableEq, Repr

structure Knobs where
  capacity : UInt64
  k : UInt64
  refPkt : UInt64
deriving DecidableEq, Repr

def applyNodeKnobs (env : Env) : Option Knobs := do
  let capacity ← env.nodeCleanCapacityBps.orDefault 5000000000
  let k ← env.fairK.orDefault 3
  let refPkt ← env.fairRefPkt.orDefault 512
  if k = 0 ∨ refPkt = 0 then none
  else some { capacity := clampFairRate capacity, k, refPkt }

/-! ## Global deny entries -/

def prefixMask (prefixlen : UInt32) : UInt32 :=
  if prefixlen = 0 then 0 else 0xffffffff <<< (32 - prefixlen)

def globalEntryValid (entry : CfgSource) : Bool :=
  entry.prefixlen ≤ 32 && (entry.addr &&& ~~~(prefixMask entry.prefixlen)) == 0

def globalEntriesSorted (previous current : CfgSource) : Bool :=
  if previous.prefixlen ≠ current.prefixlen then previous.prefixlen < current.prefixlen
  else previous.addr < current.addr

/-- Every entry is canonical and comes after the one before it. -/
def globalEntriesOk : Option CfgSource → List CfgSource → Bool
  | _, [] => true
  | previous, entry :: rest =>
    globalEntryValid entry && previous.all (globalEntriesSorted · entry) &&
      globalEntriesOk (some entry) rest

/-- The number of `/24` buckets an entry of the bloom filter covers. -/
def bloomBuckets (prefixlen : UInt32) : Nat :=
  if prefixlen < gblBloomPrefix then 2 ^ (gblBloomPrefix - prefixlen).toNat else 1

structure BloomPlan where
  flags : UInt8
  fill : Nat
deriving DecidableEq, Repr

/-- The loop of `global_bloom_plan` over the entries, with the flags and the fill so far. -/
def planEntries : List CfgSource → BloomPlan → BloomPlan
  | [], plan => plan
  | entry :: rest, plan =>
    if entry.prefixlen < gblExpandFloor then
      planEntries rest { plan with flags := plan.flags ||| gblHasBroad }
    else if plan.fill > gblBloomMaxEntries - bloomBuckets entry.prefixlen then
      planEntries rest { plan with flags := plan.flags ||| gblHasBroad }
    else planEntries rest { plan with fill := plan.fill + bloomBuckets entry.prefixlen }

def globalBloomPlan (node : NodeCfg) : Option BloomPlan :=
  if node.globalEntries.length > globalDenyMaxEntries
      ∨ node.globalEntries.length > gblLpmMaxEntries then none
  else if globalEntriesOk none node.globalEntries then
    let flags : UInt8 := if node.globalEntries.isEmpty then 0 else gblActive
    let plan := planEntries node.globalEntries ⟨flags, 0⟩
    some { plan with fill := if plan.flags &&& gblHasBroad ≠ 0 then 0 else plan.fill }
  else none

/-- The bloom keys of an entry that is not broad: the `/24` networks it covers. -/
def bloomKeys (entry : CfgSource) : List UInt32 :=
  if entry.prefixlen < gblExpandFloor then []
  else (List.range (bloomBuckets entry.prefixlen)).map fun i =>
    (entry.addr &&& src24Mask) + UInt32.ofNat i * 256

end ScrubbingGateway.Apply
