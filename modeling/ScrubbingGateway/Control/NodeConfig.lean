import Mathlib.Data.List.Sort
import ScrubbingGateway.Control.NodeSnapshot

/-!
# The services a node snapshot is made of

What the request schemas, the service layer and the columns let into the tables (`AdmittedRows`),
and `load_node_config`, which turns the tables into the node the worker serializes.
-/

namespace ScrubbingGateway.Control

/-! ## Validators -/

def BigInteger (v : Int) : Prop := -2 ^ 63 ≤ v ∧ v < 2 ^ 63

def IntegerColumn (v : Int) : Prop := -2 ^ 31 ≤ v ∧ v < 2 ^ 31

/-- The values of a `Numeric(10, 2)` column, in hundredths. -/
def NumericColumn (hundredths : Int) : Prop := -10 ^ 10 < hundredths ∧ hundredths < 10 ^ 10

/-- `validate_port_range`: both bounds in order, or neither. -/
def validatePortRange : (lo hi : Option Int) → Bool
  | none, none => true
  | some lo, some hi => 0 ≤ lo && hi ≤ 65535 && lo ≤ hi
  | _, _ => false

def maxRulesPerService : Nat := 16

/-- `parse_ipv4_cidr`: an IPv4 network without host bits. -/
def parseIpv4Cidr : IpNetwork → Bool
  | .v4 address prefixlen => networkAddress address prefixlen == address
  | .v6 _ => false

/-- `reject_reserved`: neither everything nor a part of `0.0.0.0/8`. -/
def rejectReserved : IpNetwork → Bool
  | .v4 address prefixlen =>
    !((address == 0 && prefixlen.val == 0) || (address.toNat / 2 ^ 24 == 0 && prefixlen.val ≥ 8))
  | .v6 _ => true

def validatePlan (plan : ServicePlan) : Bool :=
  !(plan.committedCleanGbps < 0 || plan.ceilingCleanGbps < 0 ||
    plan.committedCleanGbps > plan.ceilingCleanGbps)

/-- A destination is a single host. -/
def singleHost : IpNetwork → Bool
  | .v4 _ prefixlen => prefixlen.val == 32
  | .v6 _ => false

/-! ## Admitted rows -/

structure AdmittedRule (rule : AllowRule) : Prop where
  priority : IntegerColumn rule.priority
  srcPorts : validatePortRange rule.srcPortLo rule.srcPortHi = true
  dstPorts : validatePortRange rule.dstPortLo rule.dstPortHi = true

/-- A service with its plan, rules and whitelist, in any state the API can leave it in. -/
structure AdmittedService (s : ServiceConfig) : Prop where
  /-- The id comes from a sequence that starts with 1. -/
  dpId : 1 ≤ s.dpId ∧ IntegerColumn s.dpId
  destination : parseIpv4Cidr s.cidrOrIp = true ∧ rejectReserved s.cidrOrIp = true ∧
    singleHost s.cidrOrIp = true
  -- the two rates of the whitelist have no lower bound in the request schemas
  vipPps : ∀ v ∈ s.vipPps, BigInteger v
  vipBps : ∀ v ∈ s.vipBps, BigInteger v
  servicePps : ∀ v ∈ s.servicePps, 0 ≤ v ∧ BigInteger v
  serviceBps : ∀ v ∈ s.serviceBps, 0 ≤ v ∧ BigInteger v
  plan : ∀ p ∈ s.plan, validatePlan p = true ∧ NumericColumn p.committedCleanGbps ∧
    NumericColumn p.ceilingCleanGbps
  rules : s.rules.length ≤ maxRulesPerService ∧ (∀ rule ∈ s.rules, AdmittedRule rule) ∧
    (s.rules.map AllowRule.priority).Nodup
  whitelist : (∀ n ∈ s.whitelist, parseIpv4Cidr n = true ∧ rejectReserved n = true) ∧
    s.whitelist.Nodup

/-- The service tables as a whole: ids and destinations are unique. -/
structure AdmittedRows (rows : List ServiceConfig) : Prop where
  services : ∀ s ∈ rows, AdmittedService s
  dpIds : (rows.map ServiceConfig.dpId).Nodup
  destinations : (rows.map ServiceConfig.cidrOrIp).Nodup

/-! ## Loading -/

/-- The text of a network, by which the whitelist is sorted. -/
def IpNetwork.text : IpNetwork → String
  | .v4 address prefixlen =>
    let octet (i : Nat) : String := toString (address.toNat / 2 ^ (8 * i) % 256)
    octet 3 ++ "." ++ octet 2 ++ "." ++ octet 1 ++ "." ++ octet 0 ++ "/" ++ toString prefixlen.val
  | .v6 text => text

def serviceConfig (s : ServiceConfig) : ServiceConfig :=
  { s with
    rules := s.rules.insertionSort fun a b => a.priority ≤ b.priority
    whitelist := s.whitelist.insertionSort fun a b => ¬ b.text < a.text }

def loadNodeConfig (rows : List ServiceConfig) : List ServiceConfig :=
  ((rows.filter ServiceConfig.enabled).insertionSort fun a b => a.dpId ≤ b.dpId).map serviceConfig

/-! ## What loading keeps -/

theorem enabled_perm (rows : List ServiceConfig) :
    ((rows.filter ServiceConfig.enabled).insertionSort fun a b => a.dpId ≤ b.dpId).Perm
      (rows.filter ServiceConfig.enabled) :=
  List.perm_insertionSort _ _

theorem serviceConfig_rules_perm (s : ServiceConfig) : (serviceConfig s).rules.Perm s.rules :=
  List.perm_insertionSort _ _

theorem serviceConfig_whitelist_perm (s : ServiceConfig) :
    (serviceConfig s).whitelist.Perm s.whitelist :=
  List.perm_insertionSort _ _

theorem mem_loadNodeConfig (rows : List ServiceConfig) (s : ServiceConfig) :
    s ∈ loadNodeConfig rows ↔ ∃ row ∈ rows, row.enabled = true ∧ serviceConfig row = s := by
  simp only [loadNodeConfig, List.mem_map, List.mem_insertionSort, List.mem_filter, and_assoc]

theorem length_loadNodeConfig (rows : List ServiceConfig) :
    (loadNodeConfig rows).length = (rows.filter ServiceConfig.enabled).length := by
  rw [loadNodeConfig, List.length_map, List.length_insertionSort]

theorem AdmittedService.serviceConfig {s : ServiceConfig} (admitted : AdmittedService s) :
    AdmittedService (serviceConfig s) where
  __ := admitted
  rules := by
    have perm := serviceConfig_rules_perm s
    obtain ⟨few, each, priorities⟩ := admitted.rules
    refine ⟨perm.length_eq.trans_le few, fun rule member => each rule (perm.mem_iff.mp member), ?_⟩
    exact (perm.map _).nodup_iff.mpr priorities
  whitelist := by
    have perm := serviceConfig_whitelist_perm s
    obtain ⟨each, distinct⟩ := admitted.whitelist
    exact ⟨fun n member => each n (perm.mem_iff.mp member), perm.nodup_iff.mpr distinct⟩

/-- Loading keeps apart what is told apart by a field it does not change. -/
theorem nodup_loadNodeConfig {rows : List ServiceConfig} {β : Type} (field : ServiceConfig → β)
    (same : ∀ s, field (serviceConfig s) = field s) (nodup : (rows.map field).Nodup) :
    ((loadNodeConfig rows).map field).Nodup := by
  rw [loadNodeConfig, List.map_map, show field ∘ serviceConfig = field from funext same,
    ((enabled_perm rows).map field).nodup_iff]
  exact (List.filter_sublist.map field).nodup nodup

/-- A loaded node is again admitted, in the order the snapshot has it. -/
theorem AdmittedRows.loadNodeConfig {rows : List ServiceConfig} (admitted : AdmittedRows rows) :
    AdmittedRows (loadNodeConfig rows) := by
  constructor
  · intro s member
    obtain ⟨row, inRows, _, rfl⟩ := (mem_loadNodeConfig rows s).mp member
    exact (admitted.services row inRows).serviceConfig
  · exact nodup_loadNodeConfig _ (fun _ => rfl) admitted.dpIds
  · exact nodup_loadNodeConfig _ (fun _ => rfl) admitted.destinations

end ScrubbingGateway.Control
