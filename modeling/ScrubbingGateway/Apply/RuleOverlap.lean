import ScrubbingGateway.Apply.RuleBlocks

/-!
# Overlap warnings

`rulematch.py` tells from two rules alone whether they overlap. What it says is compared with the
packets that the entries of both rules match in the data plane.
-/

namespace ScrubbingGateway.Apply

open DataPlane Control

/-! ## `rulematch.py` -/

/-- Both bounds of a range of ports, or neither. -/
abbrev PortRange : Type := Option Int × Option Int

structure PortRangeError where
  message : String
deriving DecidableEq, Repr

structure RuleView where
  id : String
  protocol : RuleProtocol
  srcPort : PortRange
  dstPort : PortRange
deriving DecidableEq, Repr

def requirePortRange (range : PortRange) : Except PortRangeError Unit :=
  if validatePortRange range.1 range.2 then .ok ()
  else if range.1.isSome && range.2.isSome then
    .error ⟨"Port range must satisfy 0 <= lo <= hi <= 65535"⟩
  else .error ⟨"Port range must include both bounds or neither"⟩

def protocolsIntersect (a b : RuleProtocol) : Bool := a == b || a == .any || b == .any

def portRangesIntersect (a b : PortRange) : Except PortRangeError Bool := do
  requirePortRange a
  requirePortRange b
  if a = (none, none) ∨ b = (none, none) then return true
  else
    match a, b with
    | (some aLo, some aHi), (some bLo, some bHi) => return aLo ≤ bHi && bLo ≤ aHi
    | _, _ => return false

/-- Python's `and` goes on only after a true operand. -/
def rulesOverlap (a b : RuleView) : Except PortRangeError Bool := do
  if protocolsIntersect a.protocol b.protocol then
    if ← portRangesIntersect a.srcPort b.srcPort then portRangesIntersect a.dstPort b.dstPort
    else return false
  else return false

def findOverlaps (existing : List RuleView) (candidate : RuleView) :
    Except PortRangeError (List RuleView) :=
  existing.filterM fun rule => rulesOverlap rule candidate

def viewFromRule (rule : AllowRule) : RuleView where
  id := toString rule.priority
  protocol := rule.protocol
  srcPort := (rule.srcPortLo, rule.srcPortHi)
  dstPort := (rule.dstPortLo, rule.dstPortHi)

/-- `_overlap_warnings`, given the other rules of the service in the order of their priorities. -/
def overlapWarnings (existing : List AllowRule) (candidate : RuleView) :
    Except PortRangeError (List String) := do
  let overlaps ← findOverlaps (existing.map viewFromRule) candidate
  return overlaps.map fun view => "Overlaps rule priority " ++ view.id

/-! ## Valid ranges -/

structure RuleView.Valid (view : RuleView) : Prop where
  src : validatePortRange view.srcPort.1 view.srcPort.2 = true
  dst : validatePortRange view.dstPort.1 view.dstPort.2 = true

/-- What the comparison comes to when both ranges are valid: a range that is missing meets all. -/
def rangesMeet : PortRange → PortRange → Bool
  | (some aLo, some aHi), (some bLo, some bHi) => aLo ≤ bHi && bLo ≤ aHi
  | _, _ => true

theorem bounds_of_valid {lo hi : Int} (valid : validatePortRange (some lo) (some hi) = true) :
    0 ≤ lo ∧ hi ≤ 65535 ∧ lo ≤ hi := by
  simpa [validatePortRange, and_assoc] using valid

theorem cases_of_valid {range : PortRange} (valid : validatePortRange range.1 range.2 = true) :
    range = (none, none) ∨ ∃ lo hi, range = (some lo, some hi) := by
  obtain ⟨lo, hi⟩ := range
  cases lo with
  | none =>
    cases hi with
    | none => exact .inl rfl
    | some h => cases valid
  | some l =>
    cases hi with
    | none => cases valid
    | some h => exact .inr ⟨l, h, rfl⟩

section Ranges

variable {a b : PortRange}

theorem portRangesIntersect_eq (validA : validatePortRange a.1 a.2 = true)
    (validB : validatePortRange b.1 b.2 = true) :
    portRangesIntersect a b = .ok (rangesMeet a b) := by
  have checkedA : requirePortRange a = .ok () := if_pos validA
  have checkedB : requirePortRange b = .ok () := if_pos validB
  unfold portRangesIntersect
  rw [checkedA, checkedB]
  rcases cases_of_valid validA with rfl | ⟨aLo, aHi, rfl⟩
  · rfl
  · rcases cases_of_valid validB with rfl | ⟨bLo, bHi, rfl⟩
    · rfl
    · rfl

theorem rangesMeet_comm (a b : PortRange) : rangesMeet a b = rangesMeet b a := by
  obtain ⟨aLo, aHi⟩ := a
  obtain ⟨bLo, bHi⟩ := b
  cases aLo <;> cases aHi <;> cases bLo <;> cases bHi <;> simp [rangesMeet, Bool.and_comm]

theorem inConfiguredRange_some {lo hi : Int} {port : UInt16} :
    InConfiguredRange (some lo) (some hi) (some port) ↔
      lo ≤ (port.toNat : Int) ∧ (port.toNat : Int) ≤ hi := by
  simp [InConfiguredRange]

theorem inConfiguredRange_unset (port : Option UInt16) : InConfiguredRange none none port := by
  simp [InConfiguredRange]

theorem exists_port {n : Int} (low : 0 ≤ n) (high : n ≤ 65535) :
    ∃ port : UInt16, (port.toNat : Int) = n := by
  have small : n.toNat < 2 ^ 16 := by omega
  refine ⟨UInt16.ofNat n.toNat, ?_⟩
  rw [UInt16.toNat_ofNat_of_lt' small]
  omega

/-- Ranges that meet share a port: the larger of their lower bounds. -/
theorem common_of_rangesMeet (validA : validatePortRange a.1 a.2 = true)
    (validB : validatePortRange b.1 b.2 = true) (meet : rangesMeet a b = true) :
    ∃ port : UInt16, InConfiguredRange a.1 a.2 (some port) ∧
      InConfiguredRange b.1 b.2 (some port) := by
  rcases cases_of_valid validA with rfl | ⟨aLo, aHi, rfl⟩
  · rcases cases_of_valid validB with rfl | ⟨bLo, bHi, rfl⟩
    · exact ⟨0, inConfiguredRange_unset _, inConfiguredRange_unset _⟩
    · obtain ⟨low, high, ordered⟩ := bounds_of_valid validB
      obtain ⟨port, first⟩ := exists_port low (ordered.trans high)
      exact ⟨port, inConfiguredRange_unset _, inConfiguredRange_some.mpr (by omega)⟩
  · obtain ⟨lowA, highA, orderedA⟩ := bounds_of_valid validA
    rcases cases_of_valid validB with rfl | ⟨bLo, bHi, rfl⟩
    · obtain ⟨port, first⟩ := exists_port lowA (orderedA.trans highA)
      exact ⟨port, inConfiguredRange_some.mpr (by omega), inConfiguredRange_unset _⟩
    · obtain ⟨lowB, highB, orderedB⟩ := bounds_of_valid validB
      simp only [rangesMeet, Bool.and_eq_true, decide_eq_true_eq] at meet
      obtain ⟨port, first⟩ := exists_port (n := max aLo bLo) (by omega) (by omega)
      exact ⟨port, inConfiguredRange_some.mpr (by omega), inConfiguredRange_some.mpr (by omega)⟩

/-- Ranges that one packet satisfies meet, whether it has ports or not. -/
theorem rangesMeet_of_common (validA : validatePortRange a.1 a.2 = true)
    (validB : validatePortRange b.1 b.2 = true) {port : Option UInt16}
    (inA : InConfiguredRange a.1 a.2 port) (inB : InConfiguredRange b.1 b.2 port) :
    rangesMeet a b = true := by
  rcases cases_of_valid validA with rfl | ⟨aLo, aHi, rfl⟩
  · rfl
  · rcases cases_of_valid validB with rfl | ⟨bLo, bHi, rfl⟩
    · rfl
    · obtain ⟨p, isPort, aboveA, belowA⟩ := inA aLo rfl aHi rfl
      obtain ⟨q, isPort', aboveB, belowB⟩ := inB bLo rfl bHi rfl
      cases isPort.symm.trans isPort'
      simp only [rangesMeet, Bool.and_eq_true, decide_eq_true_eq]
      omega

end Ranges

section Views

variable {a b : RuleView}

/-- What the comparison of two views with valid ranges comes to. -/
def viewsMeet (a b : RuleView) : Bool :=
  protocolsIntersect a.protocol b.protocol && rangesMeet a.srcPort b.srcPort &&
    rangesMeet a.dstPort b.dstPort

theorem rulesOverlap_eq (validA : a.Valid) (validB : b.Valid) :
    rulesOverlap a b = .ok (viewsMeet a b) := by
  unfold rulesOverlap viewsMeet
  rw [portRangesIntersect_eq validA.src validB.src, portRangesIntersect_eq validA.dst validB.dst]
  cases protocolsIntersect a.protocol b.protocol with
  | false => rfl
  | true => cases rangesMeet a.srcPort b.srcPort <;> rfl

theorem viewsMeet_comm (a b : RuleView) : viewsMeet a b = viewsMeet b a := by
  have protocols : protocolsIntersect a.protocol b.protocol =
      protocolsIntersect b.protocol a.protocol := by
    cases a.protocol <;> cases b.protocol <;> rfl
  rw [viewsMeet, viewsMeet, protocols, rangesMeet_comm a.srcPort, rangesMeet_comm a.dstPort]

end Views

/-! ## Packets that two rules match -/

/-- The rule switched on, as the data plane has it. -/
def enabledForm (rule : AllowRule) : RuleEntry := installedRule { rule with enabled := true }

/-- Rules of protocols without ports have no ranges. -/
def PortsUnset (rule : AllowRule) : Prop :=
  rule.protocol = .icmp ∨ rule.protocol = .any →
    rule.srcPortLo = none ∧ rule.srcPortHi = none ∧ rule.dstPortLo = none ∧ rule.dstPortHi = none

instance (rule : AllowRule) : Decidable (PortsUnset rule) := inferInstanceAs (Decidable (_ → _))

section Rules

variable {a b rule : AllowRule} {pkt : PktMeta}

theorem portsApply_of_unset (unset : PortsUnset rule) :
    PortsApply { rule with enabled := true } := by
  cases same : rule.protocol with
  | any =>
    obtain ⟨src, _, dst, _⟩ := unset (.inr same)
    exact .inr (.inr (.inr ⟨src, dst⟩))
  | icmp =>
    obtain ⟨src, _, dst, _⟩ := unset (.inl same)
    exact .inr (.inr (.inr ⟨src, dst⟩))
  | tcp => exact .inr (.inl rfl)
  | udp => exact .inr (.inr (.inl rfl))

/-- A packet of a protocol, with ports if it is one that has them. -/
def packetOf (protocol : RuleProtocol) (sport dport : UInt16) : PktMeta :=
  { PktMeta.init [] with ipProto := installedProto protocol, sport, dport }

/-- The protocol of a packet for two rules: that of one of them, or TCP if they leave it open. -/
def sharedProtocol (p q : RuleProtocol) : RuleProtocol :=
  if p ≠ .any then p else if q ≠ .any then q else .tcp

theorem sharedProtocol_ne_any (p q : RuleProtocol) : sharedProtocol p q ≠ .any := by
  cases p <;> cases q <;> decide

theorem sharedProtocol_of_intersect {p q : RuleProtocol} (meet : protocolsIntersect p q = true) :
    (p = .any ∨ sharedProtocol p q = p) ∧ (q = .any ∨ sharedProtocol p q = q) := by
  revert meet
  cases p <;> cases q <;> decide

theorem hasRuleProtocol_packetOf {protocol : RuleProtocol} (other : protocol ≠ .any)
    (sport dport : UInt16) : HasRuleProtocol (packetOf protocol sport dport) := by
  cases protocol with
  | any => exact absurd rfl other
  | icmp => exact .inr (.inr rfl)
  | tcp => exact .inl rfl
  | udp => exact .inr (.inl rfl)

theorem means_packetOf (unset : PortsUnset rule) {protocol : RuleProtocol} (other : protocol ≠ .any)
    (fits : rule.protocol = .any ∨ protocol = rule.protocol) {sport dport : UInt16}
    (src : InConfiguredRange rule.srcPortLo rule.srcPortHi (some sport))
    (dst : InConfiguredRange rule.dstPortLo rule.dstPortHi (some dport)) :
    RuleMeans { rule with enabled := true } (packetOf protocol sport dport) := by
  have number : rule.protocol = .any ∨
      ((packetOf protocol sport dport).ipProto.toNat : Int) = protocolNumber rule.protocol := by
    rcases fits with any | rfl
    · exact .inl any
    · exact .inr ((protocolNumber_eq_iff _ other _).mpr rfl)
  by_cases ports : rule.protocol = .tcp ∨ rule.protocol = .udp
  · have present : packetPorts (packetOf protocol sport dport) = some (sport, dport) :=
      packetPorts_of_protocol ports number
    exact ⟨rfl, number, by rw [present]; exact src, by rw [present]; exact dst⟩
  · -- without ranges it does not matter whether the packet has ports
    have portless : rule.protocol = .icmp ∨ rule.protocol = .any := by
      cases same : rule.protocol <;> simp_all
    obtain ⟨srcLo, srcHi, dstLo, dstHi⟩ := unset portless
    constructor
    · rfl
    · exact number
    · simp [InConfiguredRange, srcLo]
    · simp [InConfiguredRange, dstLo]

theorem intersect_of_numbers {p q : RuleProtocol} {proto : UInt8}
    (left : p = .any ∨ (proto.toNat : Int) = protocolNumber p)
    (right : q = .any ∨ (proto.toNat : Int) = protocolNumber q) :
    protocolsIntersect p q = true := by
  rcases left with rfl | left
  · cases q <;> rfl
  · rcases right with rfl | right
    · cases p <;> rfl
    · have same : protocolNumber p = protocolNumber q := left.symm.trans right
      cases p <;> cases q <;> first | rfl | exact absurd same (by decide)

end Rules

/-- There is a TCP, UDP or ICMP packet that the entries of both rules match. -/
def SharePacket (a b : AllowRule) : Prop :=
  ∃ pkt, HasRuleProtocol pkt ∧ ruleMatches (enabledForm a) pkt = true ∧
    ruleMatches (enabledForm b) pkt = true

theorem enabledForm_matches_iff {rule : AllowRule} (valid : (viewFromRule rule).Valid)
    (unset : PortsUnset rule) {pkt : PktMeta} (ruled : HasRuleProtocol pkt) :
    ruleMatches (enabledForm rule) pkt = true ↔ RuleMeans { rule with enabled := true } pkt :=
  ruleMatches_iff_means valid.src valid.dst (portsApply_of_unset unset) ruled

theorem viewsMeet_iff_sharePacket {a b : AllowRule} (validA : (viewFromRule a).Valid)
    (validB : (viewFromRule b).Valid) (unsetA : PortsUnset a) (unsetB : PortsUnset b) :
    viewsMeet (viewFromRule a) (viewFromRule b) = true ↔ SharePacket a b := by
  have meansA {pkt : PktMeta} (ruled : HasRuleProtocol pkt) :=
    enabledForm_matches_iff validA unsetA ruled
  have meansB {pkt : PktMeta} (ruled : HasRuleProtocol pkt) :=
    enabledForm_matches_iff validB unsetB ruled
  rw [viewsMeet, Bool.and_eq_true, Bool.and_eq_true]
  constructor
  · -- a packet of the common protocol, with a common port on either side
    rintro ⟨⟨protocols, srcMeet⟩, dstMeet⟩
    obtain ⟨sport, srcA, srcB⟩ := common_of_rangesMeet validA.src validB.src srcMeet
    obtain ⟨dport, dstA, dstB⟩ := common_of_rangesMeet validA.dst validB.dst dstMeet
    obtain ⟨fitsA, fitsB⟩ := sharedProtocol_of_intersect protocols
    have other := sharedProtocol_ne_any a.protocol b.protocol
    have ruled := hasRuleProtocol_packetOf other sport dport
    refine ⟨_, ruled, (meansA ruled).mpr ?_, (meansB ruled).mpr ?_⟩
    · exact means_packetOf unsetA other fitsA srcA dstA
    · exact means_packetOf unsetB other fitsB srcB dstB
  · rintro ⟨pkt, ruled, matchA, matchB⟩
    obtain ⟨_, protocolA, srcA, dstA⟩ := (meansA ruled).mp matchA
    obtain ⟨_, protocolB, srcB, dstB⟩ := (meansB ruled).mp matchB
    refine ⟨⟨intersect_of_numbers protocolA protocolB, ?_⟩, ?_⟩
    · exact rangesMeet_of_common validA.src validB.src srcA srcB
    · exact rangesMeet_of_common validA.dst validB.dst dstA dstB

/-- Two rules overlap exactly if the data plane has a packet that the entries of both match. -/
theorem rulesOverlap_iff_sharePacket (a b : AllowRule) (validA : (viewFromRule a).Valid)
    (validB : (viewFromRule b).Valid) (unsetA : PortsUnset a) (unsetB : PortsUnset b) :
    (rulesOverlap (viewFromRule a) (viewFromRule b) = .ok true ↔ SharePacket a b) ∧
      rulesOverlap (viewFromRule a) (viewFromRule b) =
        rulesOverlap (viewFromRule b) (viewFromRule a) := by
  rw [rulesOverlap_eq validA validB, rulesOverlap_eq validB validA, Except.ok.injEq,
    viewsMeet_comm (viewFromRule b)]
  exact ⟨viewsMeet_iff_sharePacket validA validB unsetA unsetB, rfl⟩

/-- HTTPS and the ports from 400 on. -/
def highPorts : AllowRule := ⟨20, .tcp, none, none, some 400, some 500, true⟩

/-- A packet to port 443 is matched by both. -/
theorem httpsRule_overlaps_highPorts :
    rulesOverlap (viewFromRule httpsRule) (viewFromRule highPorts) = .ok true ∧
      SharePacket httpsRule highPorts := by
  have overlap : rulesOverlap (viewFromRule httpsRule) (viewFromRule highPorts) = .ok true := by
    decide
  exact ⟨overlap, (rulesOverlap_iff_sharePacket httpsRule highPorts ⟨by decide, by decide⟩
    ⟨by decide, by decide⟩ (by decide) (by decide)).1.mp overlap⟩

/-! ## The warnings of a request -/

/-- A request about a rule is answered with a warning for every other rule that shares a packet with
it, and with no other warning. -/
theorem overlapWarnings_exact {existing : List AllowRule} {candidate : AllowRule}
    (valid : ∀ rule ∈ candidate :: existing, (viewFromRule rule).Valid)
    (unset : ∀ rule ∈ candidate :: existing, PortsUnset rule) :
    ∃ warnings, overlapWarnings existing (viewFromRule candidate) = .ok warnings ∧
      ∀ warning, warning ∈ warnings ↔ ∃ rule ∈ existing, SharePacket rule candidate ∧
        "Overlaps rule priority " ++ toString rule.priority = warning := by
  obtain ⟨validNew, valid⟩ := List.forall_mem_cons.mp valid
  obtain ⟨unsetNew, unset⟩ := List.forall_mem_cons.mp unset
  have found : findOverlaps (existing.map viewFromRule) (viewFromRule candidate) =
      .ok ((existing.map viewFromRule).filter (viewsMeet · (viewFromRule candidate))) := by
    apply Raise.filterM_eq_ok
    intro view member
    obtain ⟨rule, listed, rfl⟩ := List.mem_map.mp member
    exact rulesOverlap_eq (valid rule listed) validNew
  refine ⟨_, by rw [overlapWarnings, found]; rfl, fun warning => ?_⟩
  have shared {rule : AllowRule} (listed : rule ∈ existing) :=
    viewsMeet_iff_sharePacket (valid rule listed) validNew (unset rule listed) unsetNew
  simp only [List.filter_map, List.map_map, List.mem_map, List.mem_filter, and_assoc]
  exact exists_congr fun rule => and_congr_right fun listed => and_congr_left' (shared listed)

theorem highPorts_warned : ∃ warnings,
    overlapWarnings [httpsRule] (viewFromRule highPorts) = .ok warnings ∧
      ∀ warning, warning ∈ warnings ↔ ∃ rule ∈ [httpsRule], SharePacket rule highPorts ∧
        "Overlaps rule priority " ++ toString rule.priority = warning := by
  refine overlapWarnings_exact (List.forall_mem_cons.mpr ⟨⟨by decide, by decide⟩, ?_⟩) (by decide)
  exact List.forall_mem_singleton.mpr ⟨by decide, by decide⟩

end ScrubbingGateway.Apply
