import ScrubbingGateway.Lib.Raise
import ScrubbingGateway.Lib.Wire

/-!
# The snapshot the worker writes

`serialize_node_snapshot` of `applier.py`. Python integers are unbounded, and `struct.pack` raises
when one does not fit its field.
-/

namespace ScrubbingGateway.Control

open Wire

/-! ## Rows the snapshot is made from -/

/-- Prefix lengths are written as numerals. -/
instance neZero_prefixLengths : NeZero 33 := ⟨by decide⟩

/-- A network as `ipaddress.ip_network` reads its text with `strict=False`, host bits and all. -/
inductive IpNetwork where
  | v4 (address : UInt32) (prefixlen : Fin 33)
  | v6 (text : String)
deriving DecidableEq, Repr

inductive RuleProtocol where
  | any | icmp | tcp | udp
deriving DecidableEq, Repr

structure AllowRule where
  priority : Int
  protocol : RuleProtocol
  srcPortLo : Option Int
  srcPortHi : Option Int
  dstPortLo : Option Int
  dstPortHi : Option Int
  enabled : Bool
deriving DecidableEq, Repr

/-- Rates in hundredths of a Gbps, as `Numeric(10, 2)` holds them. -/
structure ServicePlan where
  committedCleanGbps : Int
  ceilingCleanGbps : Int
deriving DecidableEq, Repr

structure ServiceConfig where
  dpId : Int
  cidrOrIp : IpNetwork
  enabled : Bool
  vipPps : Option Int
  vipBps : Option Int
  servicePps : Option Int
  serviceBps : Option Int
  plan : Option ServicePlan
  rules : List AllowRule
  /-- The source networks of the whitelist entries. -/
  whitelist : List IpNetwork
deriving DecidableEq, Repr

/-! ## Packing -/

inductive SnapshotError where
  | valueError (message : String)
  | structError
deriving DecidableEq, Repr

/-- One item of a `struct.pack` format in little-endian mode: an unsigned integer of a width, or
the four bytes of `4s`. -/
inductive PackItem where
  | uint (width : Nat) (value : Int)
  | address (value : UInt32)
deriving DecidableEq, Repr

/-- The network-order bytes of an address. -/
def beBytes (addr : UInt32) : Bytes := (leBytes 4 addr.toNat).reverse

def PackItem.pack : PackItem → Except SnapshotError Bytes
  | uint width value =>
    if 0 ≤ value ∧ value < 256 ^ width then .ok (leBytes width value.toNat) else .error .structError
  | address value => .ok (beBytes value)

def structPack (items : List PackItem) : Except SnapshotError Bytes :=
  (items.mapM PackItem.pack).map List.flatten

/-! ## The fields of the records -/

structure PackedRule where
  srcLo : Int
  srcHi : Int
  dstLo : Int
  dstHi : Int
  proto : Int
  flags : Int
deriving DecidableEq, Repr

structure PackedSource where
  prefixlen : Int
  addr : UInt32
deriving DecidableEq, Repr

/-- The values `serialize_node_snapshot` packs for a service. -/
structure PackedService where
  dstPrefixlen : Int
  dstAddr : UInt32
  dpId : Int
  enabled : Int
  wlFlags : Int
  reserved0 : Int
  committedBps : Int
  ceilingBps : Int
  vipPps : Int
  vipBps : Int
  vipFlags : Int
  servicePps : Int
  serviceBps : Int
  svcRlFlags : Int
  rules : List PackedRule
  wl : List PackedSource
deriving DecidableEq, Repr

def magic : Bytes := [0x58, 0x44, 0x50, 0x47, 0x57, 0x41, 0x50, 0x31]

def bloomPrefix : Int := 24

/-- The address with its host bits cleared. -/
def networkAddress (address : UInt32) (prefixlen : Fin 33) : UInt32 :=
  UInt32.ofNat (address.toNat / 2 ^ (32 - prefixlen.val) * 2 ^ (32 - prefixlen.val))

def cidrParts : IpNetwork → Except SnapshotError PackedSource
  | .v4 address prefixlen => .ok ⟨prefixlen.val, networkAddress address prefixlen⟩
  | .v6 text => .error (.valueError ("apply snapshots require IPv4 CIDRs: " ++ text))

/-- `int(x * 1_000_000_000)` of a number of hundredths. -/
def gbps (hundredths : Int) : Int := hundredths * 10000000

def planRates : Option ServicePlan → Int × Int
  | none => (0, 0)
  | some plan => (gbps plan.committedCleanGbps, gbps plan.ceilingCleanGbps)

/-- `_vip_flags` and `_svc_rl_flags`: which of two limits are set. -/
def limitFlags (pps bps : Option Int) : Int :=
  (if pps.isSome then 1 else 0) + (if bps.isSome then 2 else 0)

def ruleFlags (rule : AllowRule) : Int := if rule.enabled then 1 else 0

def listFlags (entries : List PackedSource) (active : Bool) : Int :=
  if active then 1 + (if entries.any fun entry => entry.prefixlen < bloomPrefix then 2 else 0)
  else 0

def protocolNumber : RuleProtocol → Int
  | .any => 0
  | .icmp => 1
  | .tcp => 6
  | .udp => 17

def packedRule (rule : AllowRule) : PackedRule where
  srcLo := rule.srcPortLo.getD 0
  srcHi := rule.srcPortHi.getD 65535
  dstLo := rule.dstPortLo.getD 0
  dstHi := rule.dstPortHi.getD 65535
  proto := protocolNumber rule.protocol
  flags := ruleFlags rule

def packedService (service : ServiceConfig) : Except SnapshotError PackedService := do
  let dst ← cidrParts service.cidrOrIp
  let whitelist ← service.whitelist.mapM cidrParts
  let rates := planRates service.plan
  return {
    dstPrefixlen := dst.prefixlen
    dstAddr := dst.addr
    dpId := service.dpId
    enabled := if service.enabled then 1 else 0
    wlFlags := listFlags whitelist (!whitelist.isEmpty)
    reserved0 := 0
    committedBps := rates.1
    ceilingBps := rates.2
    vipPps := service.vipPps.getD 0
    vipBps := service.vipBps.getD 0
    vipFlags := limitFlags service.vipPps service.vipBps
    servicePps := service.servicePps.getD 0
    serviceBps := service.serviceBps.getD 0
    svcRlFlags := limitFlags service.servicePps service.serviceBps
    rules := service.rules.map packedRule
    wl := whitelist }

/-! ## The writer -/

def packRule (rule : PackedRule) : Except SnapshotError Bytes :=
  structPack [.uint 2 rule.srcLo, .uint 2 rule.srcHi, .uint 2 rule.dstLo, .uint 2 rule.dstHi,
    .uint 1 rule.proto, .uint 1 rule.flags]

def packSource (source : PackedSource) : Except SnapshotError Bytes :=
  structPack [.uint 4 source.prefixlen, .address source.addr]

/-- Pack a list of records one after another. -/
def packAll {α : Type} (pack : α → Except SnapshotError Bytes) (list : List α) :
    Except SnapshotError Bytes :=
  (list.mapM pack).map List.flatten

def appendSourceList (entries : List PackedSource) : Except SnapshotError Bytes := do
  let count ← structPack [.uint 4 entries.length]
  let rest ← packAll packSource entries
  return count ++ rest

def packService (s : PackedService) : Except SnapshotError Bytes := do
  let head ← structPack [.uint 4 s.dstPrefixlen, .address s.dstAddr, .uint 4 s.dpId,
    .uint 1 s.enabled, .uint 1 s.wlFlags, .uint 1 s.reserved0, .uint 8 s.committedBps,
    .uint 8 s.ceilingBps, .uint 8 s.vipPps, .uint 8 s.vipBps, .uint 1 s.vipFlags,
    .uint 8 s.servicePps, .uint 8 s.serviceBps, .uint 1 s.svcRlFlags, .uint 2 s.rules.length]
  let rules ← packAll packRule s.rules
  let wl ← appendSourceList s.wl
  return head ++ rules ++ wl

def packHeader (serviceCount : Nat) : Except SnapshotError Bytes := do
  let header ← structPack [.uint 4 4, .uint 4 1, .uint 4 serviceCount]
  return magic ++ header

/-- The snapshot of records whose values are known. -/
def packSnapshot (services : List PackedService) : Except SnapshotError Bytes := do
  let header ← packHeader services.length
  let body ← packAll packService services
  return header ++ body

def serializeNodeSnapshot (node : List ServiceConfig) : Except SnapshotError Bytes := do
  let header ← packHeader node.length
  let body ← packAll (fun service => do packService (← packedService service)) node
  return header ++ body

end ScrubbingGateway.Control
