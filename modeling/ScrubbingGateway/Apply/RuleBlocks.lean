import ScrubbingGateway.Apply.Deployment
import ScrubbingGateway.Control.ServiceEdits
import ScrubbingGateway.DataPlane.RuleSelection

/-!
# Rules from the tables to the packets

The worker sorts the rules of a service by priority, packs and numbers them, and the packet program
takes the first one that matches. What a rule matches there is compared with what its fields say.
-/

namespace ScrubbingGateway.Apply

open Wire DataPlane Control Prog

/-! ## Ranks -/

theorem countP_lt_getElem {α : Type} {key : α → Int} {l : List α}
    (increasing : l.Pairwise fun a b => key a < key b) (i : Nat) (inside : i < l.length) :
    l.countP (fun a => decide (key a < key l[i])) = i := by
  -- the first element comes before every other one, and before no element at its own index
  induction l generalizing i with
  | nil => exact absurd inside (Nat.not_lt_zero i)
  | cons a rest ih =>
    obtain ⟨first, increasing⟩ := List.pairwise_cons.mp increasing
    cases i with
    | zero =>
      rw [List.countP_eq_zero]
      intro b member
      rcases List.mem_cons.mp member with rfl | later
      · simp
      · simpa using (first b later).le
    | succ i =>
      have inside : i < rest.length := Nat.lt_of_succ_lt_succ inside
      have here : key a < key rest[i] := first _ (List.getElem_mem _)
      simp [here, ih increasing i inside]

/-- How many rules come before a rule by priority. -/
def priorityRank (rules : List AllowRule) (rule : AllowRule) : Nat :=
  rules.countP fun other => decide (other.priority < rule.priority)

/-! ## Blocks -/

def installedRule (rule : AllowRule) : RuleEntry := ruleEntry (ofPackedRule (packedRule rule))

/-- A block holds rules in an order. -/
structure HoldsRules (block : RuleBlock) (rules : List AllowRule) : Prop where
  few : rules.length ≤ ruleMax
  count : block.ruleCount.toNat = rules.length
  entry : ∀ (i : Fin ruleMax) (inside : i.val < rules.length),
    block.rules i = installedRule rules[i.val]

theorem holdsRules_cfgOf {s : ServiceConfig} (few : s.rules.length ≤ ruleMax) :
    HoldsRules (ruleBlock (cfgOf s)) s.rules := by
  have rules_eq : (cfgOf s).rules = s.rules.map fun rule => ofPackedRule (packedRule rule) := by
    simp only [cfgOf, ofPacked, recordOf, List.map_map]
    rfl
  refine ⟨few, ?_, fun i inside => ?_⟩
  · have small : s.rules.length < 2 ^ 16 := few.trans_lt (by decide)
    simp only [ruleBlock, rules_eq, List.length_map]
    exact UInt16.toNat_ofNat_of_lt' small
  · simp only [ruleBlock, rules_eq, List.getElem?_map, List.getElem?_eq_getElem inside]
    rfl

section Blocks

variable {rows : List ServiceConfig} {k : ConfigMaps} {slot : UInt32} {s : ServiceConfig}

theorem block_of_deployed (deployed : Deployed (loadNodeConfig rows) k slot)
    (distinct : (rows.map ServiceConfig.dpId).Nodup) (member : s ∈ rows) (enabled : s.enabled = true)
    {id : UInt32} (own : (id.toNat : Int) = s.dpId) :
    ∃ block, slotLookup k slot .ruleBlockMap id = some block ∧
      HoldsRules block (serviceConfig s).rules := by
  have loaded : serviceConfig s ∈ loadNodeConfig rows :=
    (mem_loadNodeConfig rows _).mpr ⟨s, member, enabled, rfl⟩
  obtain ⟨knobs, held⟩ := deployed.serviceSlot
  have ids := nodup_dpIds_of_serialized deployed.serialized
    (nodup_loadNodeConfig ServiceConfig.dpId (fun _ => rfl) distinct)
  -- the identifier of the row survives the record of the snapshot
  have named : (cfgOf (serviceConfig s)).dpId = id := by
    have same := dpId_of_accepted (deployed.serialized.services _ loaded)
    rw [← UInt32.toNat_inj]
    exact_mod_cast same.trans own.symm
  refine ⟨ruleBlock (cfgOf (serviceConfig s)), ?_, ?_⟩
  · rw [slotLookup_iff_of_ne_serviceMap held ids (by decide) (by decide)]
    exact ⟨_, List.mem_map_of_mem loaded, named, rfl⟩
  · apply holdsRules_cfgOf
    -- the loader has refused a service with more rules than a block holds
    have checked := deployed.checked _ loaded
    simp only [serviceOk, Bool.not_eq_true', Bool.or_eq_false_iff, decide_eq_false_iff_not,
      (cfgOf_counts (serviceConfig s)).1] at checked
    omega

theorem increasing_rules (priorities : (s.rules.map AllowRule.priority).Nodup) :
    (serviceConfig s).rules.Pairwise fun a b => a.priority < b.priority := by
  have ordered : (serviceConfig s).rules.Pairwise fun a b => a.priority ≤ b.priority := by
    have total : Std.Total fun a b : AllowRule => a.priority ≤ b.priority :=
      ⟨fun a b => Int.le_total _ _⟩
    have trans : IsTrans AllowRule fun a b => a.priority ≤ b.priority :=
      ⟨fun _ _ _ => Int.le_trans⟩
    exact List.pairwise_insertionSort _ _
  have apart : (serviceConfig s).rules.Pairwise fun a b => a.priority ≠ b.priority := by
    have nodup := ((serviceConfig_rules_perm s).map AllowRule.priority).nodup_iff.mpr priorities
    exact List.pairwise_map.mp nodup
  exact (ordered.and apart).imp fun ⟨le, ne⟩ => lt_of_le_of_ne le ne

end Blocks

/-! ## Selection -/

section Selection

variable {block : RuleBlock} {rules : List AllowRule} {pkt : PktMeta}

theorem HoldsRules.matchingRule_eq_none_iff (holds : HoldsRules block rules) :
    matchingRule block pkt = none ↔
      ∀ rule ∈ rules, ruleMatches (installedRule rule) pkt = false := by
  rw [DataPlane.matchingRule_eq_none_iff, holds.count, List.forall_mem_iff_getElem]
  constructor
  · intro none i inside
    rw [← holds.entry ⟨i, inside.trans_le holds.few⟩ inside]
    exact none ⟨i, inside.trans_le holds.few⟩ inside
  · intro none i inside
    rw [holds.entry i inside]
    exact none i.val inside

/-- The rule of smallest priority among those that match is the one selected. -/
theorem HoldsRules.matchingRule_of_first (holds : HoldsRules block rules)
    (increasing : rules.Pairwise fun a b => a.priority < b.priority) {i : Fin ruleMax}
    (inside : i.val < rules.length) (met : ruleMatches (installedRule rules[i.val]) pkt = true)
    (first : ∀ other ∈ rules, ruleMatches (installedRule other) pkt = true →
      rules[i.val].priority ≤ other.priority) :
    matchingRule block pkt = some i := by
  rw [matchingRule_eq_some_iff, holds.count, holds.entry i inside]
  refine ⟨⟨inside, met⟩, fun j before inside' => ?_⟩
  rw [holds.entry j inside', Bool.eq_false_iff]
  intro matched
  -- an earlier entry that matched would have a smaller priority
  have smaller : rules[j.val].priority < rules[i.val].priority :=
    List.pairwise_iff_getElem.mp increasing _ _ inside' inside before
  exact absurd (first _ (List.getElem_mem _) matched) (Int.not_le.mpr smaller)

end Selection

/-- A packet at the allow stage of a deployed service is dropped as not allowed exactly when none of
the service's rules matches it. Otherwise the rule of smallest priority among those that match is
selected, and its rank by priority is recorded. -/
theorem first_match_by_priority (rows : List ServiceConfig)
    (distinct : (rows.map ServiceConfig.dpId).Nodup) (k : Kernel) (slot : UInt32)
    (deployed : Deployed (loadNodeConfig rows) k.config slot) (s : ServiceConfig) (member : s ∈ rows)
    (enabled : s.enabled = true) (priorities : (s.rules.map AllowRule.priority).Nodup)
    (frame : Frame) (pkt : PktMeta) (own : (pkt.serviceId.toNat : Int) = s.dpId) :
    (DropsFor packetMachine .notAllowed (allowRuleStage frame pkt slot) k ↔
      ∀ rule ∈ s.rules, ruleMatches (installedRule rule) pkt = false) ∧
    ∀ rule ∈ s.rules, ruleMatches (installedRule rule) pkt = true →
      (∀ other ∈ s.rules, ruleMatches (installedRule other) pkt = true →
        rule.priority ≤ other.priority) →
      ∃ block i, slotLookup k.config slot .ruleBlockMap pkt.serviceId = some block ∧
        block.rules i = installedRule rule ∧
        eval packetMachine (selectRule pkt slot) k = (.returned (.ok i), k) ∧
        (recordedRuleIdx (.ok i)).toNat = priorityRank s.rules rule := by
  obtain ⟨block, found, holds⟩ := block_of_deployed deployed distinct member enabled own
  have sorted := serviceConfig_rules_perm s
  constructor
  · rw [dropsFor_notAllowed_iff found, holds.matchingRule_eq_none_iff]
    exact forall_congr' fun rule => by rw [sorted.mem_iff]
  · intro rule listed met first
    have increasing := increasing_rules priorities
    -- the loaded list is the stored one in the order of priorities
    obtain ⟨n, inside, rfl⟩ := List.getElem_of_mem (sorted.mem_iff.mpr listed)
    have bound := inside.trans_le holds.few
    have selected := holds.matchingRule_of_first (i := ⟨n, bound⟩) increasing inside met
      fun other loaded => first other (sorted.mem_iff.mp loaded)
    refine ⟨block, ⟨n, bound⟩, found, holds.entry ⟨n, bound⟩ inside, ?_, ?_⟩
    · rw [eval_selectRule found, selected]
      rfl
    · -- sixteen rules are counted in a byte
      have byte : (recordedRuleIdx (.ok ⟨n, bound⟩)).toNat = n :=
        UInt8.toNat_ofNat_of_lt' (bound.trans (by decide))
      rw [byte, priorityRank, ← sorted.countP_eq]
      exact (countP_lt_getElem increasing n inside).symm

/-- A service whose rules were stored in another order than their priorities. -/
def shuffledConfig : ServiceConfig :=
  { oneServiceConfig with
    rules := [⟨30, .any, none, none, none, none, true⟩,
      ⟨10, .tcp, none, none, some 443, some 443, true⟩,
      ⟨20, .tcp, none, none, some 80, some 90, true⟩] }

/-- The packet of a connection to a port. -/
def tcpPacket (dport : UInt16) : PktMeta :=
  { PktMeta.init [] with serviceId := 7, ipProto := ipprotoTcp, sport := 40000, dport }

def shuffledKernel : Kernel := ⟨mapsWith (loadNodeConfig [shuffledConfig]), oneServiceKernel.runtime⟩

set_option maxRecDepth 20000 in
theorem shuffledConfig_deployed :
    Deployed (loadNodeConfig [shuffledConfig]) shuffledKernel.config 1 := by
  have written : serializeNodeSnapshot (loadNodeConfig [shuffledConfig]) =
      .ok (snapshotBytes (loadNodeConfig [shuffledConfig])) := by decide +kernel
  have parsed : parseSnapshot (snapshotBytes (loadNodeConfig [shuffledConfig])) =
      some (snapshotCfg (loadNodeConfig [shuffledConfig])) := by decide +kernel
  have applied : steps configMachine ⟨applyNodeCfg defaultEnv 65536
      (snapshotCfg (loadNodeConfig [shuffledConfig])), loadedMaps⟩ (List.replicate 100 .works) =
      ⟨.ret (), mapsWith (loadNodeConfig [shuffledConfig])⟩ := rfl
  exact ⟨written, parsed, applied, ⟨1, 1⟩, rfl, rfl⟩

/-- Port 80 matches the rules of priorities 20 and 30; the former has rank 1. -/
theorem shuffledConfig_selects :
    ∃ i, eval packetMachine (selectRule (tcpPacket 80) 1) shuffledKernel =
        (.returned (.ok i), shuffledKernel) ∧ (recordedRuleIdx (.ok i)).toNat = 1 := by
  obtain ⟨_, i, _, _, selected, recorded⟩ :=
    (first_match_by_priority [shuffledConfig] (by decide) shuffledKernel 1 shuffledConfig_deployed
      shuffledConfig List.mem_cons_self rfl (by decide) [] (tcpPacket 80) rfl).2
      ⟨20, .tcp, none, none, some 80, some 90, true⟩ (by decide) (by decide) (by decide)
  exact ⟨i, selected, recorded⟩

/-! ## What a rule means -/

/-- The ports of a packet; an ICMP packet has none. -/
def packetPorts (pkt : PktMeta) : Option (UInt16 × UInt16) :=
  if pkt.ipProto = ipprotoTcp ∨ pkt.ipProto = ipprotoUdp then some (pkt.sport, pkt.dport) else none

/-- A port lies in a range, if there is one. -/
def InConfiguredRange (lo hi : Option Int) (port : Option UInt16) : Prop :=
  ∀ l ∈ lo, ∀ h ∈ hi, ∃ p ∈ port, l ≤ (p.toNat : Int) ∧ (p.toNat : Int) ≤ h

/-- A rule says of a packet that it is allowed. -/
structure RuleMeans (rule : AllowRule) (pkt : PktMeta) : Prop where
  enabled : rule.enabled = true
  protocol : rule.protocol = .any ∨ (pkt.ipProto.toNat : Int) = protocolNumber rule.protocol
  src : InConfiguredRange rule.srcPortLo rule.srcPortHi ((packetPorts pkt).map Prod.fst)
  dst : InConfiguredRange rule.dstPortLo rule.dstPortHi ((packetPorts pkt).map Prod.snd)

/-- The ranges of a rule come into play: its protocol is one with ports, or it has no ranges. -/
def PortsApply (rule : AllowRule) : Prop :=
  rule.enabled = false ∨ rule.protocol = .tcp ∨ rule.protocol = .udp ∨
    (rule.srcPortLo = none ∧ rule.dstPortLo = none)

instance (rule : AllowRule) : Decidable (PortsApply rule) :=
  inferInstanceAs (Decidable (_ ∨ _ ∨ _ ∨ _))

def HasRuleProtocol (pkt : PktMeta) : Prop :=
  pkt.ipProto = ipprotoTcp ∨ pkt.ipProto = ipprotoUdp ∨ pkt.ipProto = ipprotoIcmp

/-- A range that passed the check is installed as it is, and a missing one as all ports. -/
theorem portInRange_iff {lo hi : Option Int} (valid : validatePortRange lo hi = true)
    (port : UInt16) :
    portInRange port (UInt16.ofNat (lo.getD 0).toNat) (UInt16.ofNat (hi.getD 65535).toNat) = true ↔
      InConfiguredRange lo hi (some port) := by
  have installedLo := (inWidth_port valid).1.u16
  have installedHi := (inWidth_port valid).2.u16
  simp only [portInRange, ge_iff_le, Bool.and_eq_true, decide_eq_true_eq, UInt16.le_iff_toNat_le]
  -- a check that passed has both ends or neither
  cases lo with
  | none =>
    cases hi with
    | none =>
      have small := port.toNat_lt
      simp only [Option.getD_none] at installedLo installedHi
      simp only [InConfiguredRange, Option.getD_none, Option.not_mem_none, false_implies,
        implies_true, iff_true]
      omega
    | some h => cases valid
  | some l =>
    cases hi with
    | none => cases valid
    | some h =>
      simp only [Option.getD_some] at installedLo installedHi
      simp only [InConfiguredRange, Option.getD_some, Option.mem_def, Option.some.injEq, forall_eq',
        exists_eq_left']
      omega

theorem inConfiguredRange_none {lo hi : Option Int} (valid : validatePortRange lo hi = true) :
    InConfiguredRange lo hi none ↔ lo = none := by
  cases lo with
  | none => simp [InConfiguredRange]
  | some l =>
    cases hi with
    | none => cases valid
    | some h => simp [InConfiguredRange]

section Meaning

variable {rule : AllowRule} {pkt : PktMeta}

/-- The number of a protocol in the block. -/
def installedProto : RuleProtocol → UInt8
  | .any => ruleProtoAny
  | .icmp => ipprotoIcmp
  | .tcp => ipprotoTcp
  | .udp => ipprotoUdp

theorem proto_installedRule (rule : AllowRule) :
    (installedRule rule).proto = installedProto rule.protocol := by
  simp only [installedRule, ruleEntry, ofPackedRule, packedRule]
  cases rule.protocol <;> rfl

theorem flags_installedRule (rule : AllowRule) :
    (installedRule rule).flags &&& ruleEnabled ≠ 0 ↔ rule.enabled = true := by
  simp only [installedRule, ruleEntry, ofPackedRule, packedRule, ruleFlags]
  cases rule.enabled <;> decide

theorem protocolNumber_eq_iff (protocol : RuleProtocol) (other : protocol ≠ .any) (proto : UInt8) :
    (proto.toNat : Int) = protocolNumber protocol ↔ proto = installedProto protocol := by
  have number : protocolNumber protocol = ((installedProto protocol).toNat : Int) := by
    cases protocol with
    | any => exact absurd rfl other
    | icmp | tcp | udp => rfl
  rw [number, Int.ofNat_inj, UInt8.toNat_inj]

theorem ruleProtoMatches_installed_iff (ruled : HasRuleProtocol pkt) :
    ruleProtoMatches (installedRule rule) pkt = true ↔
      rule.protocol = .any ∨ (pkt.ipProto.toNat : Int) = protocolNumber rule.protocol := by
  rw [ruleProtoMatches, proto_installedRule]
  by_cases any : rule.protocol = .any
  · rw [any]
    -- a rule for any protocol still asks for one of the three
    rcases ruled with tcp | udp | icmp
    · simp [installedProto, tcp]
    · simp [installedProto, udp]
    · simp [installedProto, icmp]
  · have numbered : installedProto rule.protocol ≠ ruleProtoAny := by
      cases same : rule.protocol with
      | any => exact absurd same any
      | icmp | tcp | udp => decide
    rw [if_neg numbered, beq_iff_eq, or_iff_right any, protocolNumber_eq_iff _ any]

/-- Ports are looked at for TCP and UDP rules only. -/
theorem rulePortsMatch_installed_iff (src : validatePortRange rule.srcPortLo rule.srcPortHi = true)
    (dst : validatePortRange rule.dstPortLo rule.dstPortHi = true) :
    rulePortsMatch (installedRule rule) pkt = true ↔
      (rule.protocol = .tcp ∨ rule.protocol = .udp →
        InConfiguredRange rule.srcPortLo rule.srcPortHi (some pkt.sport) ∧
        InConfiguredRange rule.dstPortLo rule.dstPortHi (some pkt.dport)) := by
  have ported : ((installedRule rule).proto ≠ ipprotoTcp ∧
      (installedRule rule).proto ≠ ipprotoUdp) ↔ ¬ (rule.protocol = .tcp ∨ rule.protocol = .udp) := by
    rw [proto_installedRule]
    cases rule.protocol <;> decide
  rw [← portInRange_iff src, ← portInRange_iff dst, rulePortsMatch]
  split
  next other => exact iff_of_true rfl fun ports => absurd ports (ported.mp other)
  next ports =>
    have ports := not_not.mp (mt ported.mpr ports)
    rw [Bool.and_eq_true]
    exact ⟨fun inside _ => inside, fun inside => inside ports⟩

theorem packetPorts_of_protocol (ports : rule.protocol = .tcp ∨ rule.protocol = .udp)
    (protocol : rule.protocol = .any ∨ (pkt.ipProto.toNat : Int) = protocolNumber rule.protocol) :
    packetPorts pkt = some (pkt.sport, pkt.dport) := by
  have other : rule.protocol ≠ .any := by
    rcases ports with tcp | udp
    · simp [tcp]
    · simp [udp]
  have same := (protocolNumber_eq_iff _ other _).mp (protocol.resolve_left other)
  apply if_pos
  rcases ports with tcp | udp
  · exact Or.inl (by rw [same, tcp]; rfl)
  · exact Or.inr (by rw [same, udp]; rfl)

theorem ruleMatches_iff_means (src : validatePortRange rule.srcPortLo rule.srcPortHi = true)
    (dst : validatePortRange rule.dstPortLo rule.dstPortHi = true) (applies : PortsApply rule)
    (ruled : HasRuleProtocol pkt) :
    ruleMatches (installedRule rule) pkt = true ↔ RuleMeans rule pkt := by
  simp only [ruleMatches, Bool.and_eq_true, decide_eq_true_eq, flags_installedRule,
    ruleProtoMatches_installed_iff ruled, rulePortsMatch_installed_iff src dst]
  constructor
  · rintro ⟨⟨enabled, protocol⟩, ranges⟩
    rcases applies with off | tcp | udp | ⟨noSrc, noDst⟩
    · rw [enabled] at off
      cases off
    · -- the protocol matches, so the packet has ports
      have present := packetPorts_of_protocol (Or.inl tcp) protocol
      obtain ⟨inSrc, inDst⟩ := ranges (Or.inl tcp)
      exact ⟨enabled, protocol, by rw [present]; exact inSrc, by rw [present]; exact inDst⟩
    · have present := packetPorts_of_protocol (Or.inr udp) protocol
      obtain ⟨inSrc, inDst⟩ := ranges (Or.inr udp)
      exact ⟨enabled, protocol, by rw [present]; exact inSrc, by rw [present]; exact inDst⟩
    · -- without ranges there is nothing to ask of the ports
      constructor
      · exact enabled
      · exact protocol
      · simp [InConfiguredRange, noSrc]
      · simp [InConfiguredRange, noDst]
  · rintro ⟨enabled, protocol, inSrc, inDst⟩
    refine ⟨⟨enabled, protocol⟩, fun ports => ?_⟩
    rw [packetPorts_of_protocol ports protocol] at inSrc inDst
    exact ⟨inSrc, inDst⟩

/-- An ICMP packet, which has no ports. -/
def icmpPacket : PktMeta := { PktMeta.init [] with serviceId := 7, ipProto := ipprotoIcmp }

/-- A rule means what it says exactly if its ranges come into play; an ICMP packet tells. -/
theorem means_iff_portsApply (src : validatePortRange rule.srcPortLo rule.srcPortHi = true)
    (dst : validatePortRange rule.dstPortLo rule.dstPortHi = true) :
    (∀ pkt, HasRuleProtocol pkt →
      (ruleMatches (installedRule rule) pkt = true ↔ RuleMeans rule pkt)) ↔ PortsApply rule := by
  constructor
  · intro means
    -- a range on a rule of a protocol without ports: the data plane ignores the range and matches an
    -- ICMP packet, none of whose ports lies in it
    by_contra without
    simp only [PortsApply, not_or, not_and_or, Bool.not_eq_false] at without
    obtain ⟨enabled, noTcp, noUdp, configured⟩ := without
    have protocol : rule.protocol = .any ∨
        (icmpPacket.ipProto.toNat : Int) = protocolNumber rule.protocol := by
      cases same : rule.protocol with
      | any => exact Or.inl rfl
      | icmp => exact Or.inr rfl
      | tcp => exact absurd same noTcp
      | udp => exact absurd same noUdp
    have ruled : HasRuleProtocol icmpPacket := Or.inr (Or.inr rfl)
    have met : ruleMatches (installedRule rule) icmpPacket = true := by
      simp only [ruleMatches, Bool.and_eq_true, decide_eq_true_eq, flags_installedRule,
        ruleProtoMatches_installed_iff ruled, rulePortsMatch_installed_iff src dst]
      exact ⟨⟨enabled, protocol⟩, fun ports => absurd ports (not_or.mpr ⟨noTcp, noUdp⟩)⟩
    have portless : packetPorts icmpPacket = none := by decide
    obtain ⟨_, _, inSrc, inDst⟩ := (means icmpPacket ruled).mp met
    rw [portless] at inSrc inDst
    rcases configured with some_ | some_
    · exact some_ ((inConfiguredRange_none src).mp inSrc)
    · exact some_ ((inConfiguredRange_none dst).mp inDst)
  · exact fun applies pkt ruled => ruleMatches_iff_means src dst applies ruled

end Meaning

/-- Whatever requests a rule went through, once it is deployed it matches the TCP, UDP and ICMP
packets it is meant for exactly if its port ranges come into play. -/
theorem deployed_rule_means_iff (dpId : Int) (request : ServiceConfig.NewService)
    (created : ServiceConfig) (create : ServiceConfig.createService dpId request = .ok created)
    (changes : List Change) (rows : List ServiceConfig)
    (distinct : (rows.map ServiceConfig.dpId).Nodup)
    (member : changes.foldl Change.submit created ∈ rows)
    (enabled : (changes.foldl Change.submit created).enabled = true) (k : ConfigMaps)
    (slot : UInt32) (deployed : Deployed (loadNodeConfig rows) k slot) (id : UInt32)
    (own : (id.toNat : Int) = (changes.foldl Change.submit created).dpId) :
    ∃ block, slotLookup k slot .ruleBlockMap id = some block ∧
      ∀ rule ∈ (changes.foldl Change.submit created).rules, ∃ i : Fin ruleMax,
        i.val < block.ruleCount.toNat ∧ block.rules i = installedRule rule ∧
        ((∀ pkt, HasRuleProtocol pkt → (ruleMatches (block.rules i) pkt = true ↔
          RuleMeans rule pkt)) ↔ PortsApply rule) := by
  obtain ⟨block, found, holds⟩ := block_of_deployed deployed distinct member enabled own
  refine ⟨block, found, fun rule listed => ?_⟩
  -- every request checks the ranges it stores, so those of the deployed rule are valid
  have fresh : ∀ rule ∈ created.rules, checkRule rule = .ok () := by
    rw [(ServiceConfig.createService_ok create).2.2]
    exact List.forall_mem_nil _
  have checked := Change.checked_rules fresh changes rule listed
  obtain ⟨src, dst⟩ := validRanges_of_checked checked
  have loaded := (serviceConfig_rules_perm _).mem_iff.mpr listed
  obtain ⟨n, inside, rfl⟩ := List.getElem_of_mem loaded
  have entry := holds.entry ⟨n, inside.trans_le holds.few⟩ inside
  have counted : n < block.ruleCount.toNat := by
    rw [holds.count]
    exact inside
  refine ⟨⟨n, inside.trans_le holds.few⟩, counted, entry, ?_⟩
  rw [entry]
  exact means_iff_portsApply src dst

def newService : ServiceConfig.NewService :=
  ⟨.v4 0xcb007101 32, none, none, none, none, ⟨100, 250⟩⟩

def createdConfig : ServiceConfig :=
  { oneServiceConfig with
    enabled := false, vipPps := none, serviceBps := none, rules := [], whitelist := [] }

/-- A rule is added to the new service, and the service enabled. -/
def addAndEnable (rule : AllowRule) : List Change := [.createRule rule, .setEnabled true]

def withRule (rule : AllowRule) : ServiceConfig :=
  (addAndEnable rule).foldl Change.submit createdConfig

/-- Connections to port 443. -/
def httpsRule : AllowRule := ⟨10, .tcp, none, none, some 443, some 443, true⟩

def anyHttpsRule : AllowRule := { httpsRule with protocol := .any }

set_option maxRecDepth 20000 in
theorem httpsRule_deployed : Deployed (loadNodeConfig [withRule httpsRule])
    (mapsWith (loadNodeConfig [withRule httpsRule])) 1 := by
  have written : serializeNodeSnapshot (loadNodeConfig [withRule httpsRule]) =
      .ok (snapshotBytes (loadNodeConfig [withRule httpsRule])) := by decide +kernel
  have parsed : parseSnapshot (snapshotBytes (loadNodeConfig [withRule httpsRule])) =
      some (snapshotCfg (loadNodeConfig [withRule httpsRule])) := by decide +kernel
  have applied : steps configMachine ⟨applyNodeCfg defaultEnv 65536
      (snapshotCfg (loadNodeConfig [withRule httpsRule])), loadedMaps⟩ (List.replicate 100 .works) =
      ⟨.ret (), mapsWith (loadNodeConfig [withRule httpsRule])⟩ := rfl
  exact ⟨written, parsed, applied, ⟨1, 1⟩, rfl, rfl⟩

theorem httpsRule_means :
    ∃ block i, slotLookup (mapsWith (loadNodeConfig [withRule httpsRule])) 1 .ruleBlockMap 7 =
      some block ∧ ∀ pkt, HasRuleProtocol pkt →
        (ruleMatches (block.rules i) pkt = true ↔ RuleMeans httpsRule pkt) := by
  obtain ⟨block, found, each⟩ := deployed_rule_means_iff 7 newService createdConfig rfl
    (addAndEnable httpsRule) [withRule httpsRule] (by decide) List.mem_cons_self rfl
    _ 1 httpsRule_deployed 7 rfl
  obtain ⟨i, _, _, means⟩ := each httpsRule (by decide)
  exact ⟨block, i, found, means.mpr (by decide)⟩

set_option maxRecDepth 20000 in
/-- With any protocol, the rule for port 443 lets port 80 and pings through. -/
theorem anyHttpsRule_ignores_ports :
    ServiceConfig.createService 7 newService = .ok createdConfig ∧
      (withRule anyHttpsRule).rules = [anyHttpsRule] ∧
      Deployed (loadNodeConfig [withRule anyHttpsRule])
        (mapsWith (loadNodeConfig [withRule anyHttpsRule])) 1 ∧
      (∃ block, slotLookup (mapsWith (loadNodeConfig [withRule anyHttpsRule])) 1 .ruleBlockMap 7 =
        some block ∧ block.ruleCount = 1 ∧
        ruleMatches (block.rules ⟨0, by decide⟩) (tcpPacket 80) = true ∧
        ruleMatches (block.rules ⟨0, by decide⟩) icmpPacket = true) ∧
      ¬ RuleMeans anyHttpsRule (tcpPacket 80) ∧ ¬ RuleMeans anyHttpsRule icmpPacket := by
  have written : serializeNodeSnapshot (loadNodeConfig [withRule anyHttpsRule]) =
      .ok (snapshotBytes (loadNodeConfig [withRule anyHttpsRule])) := by decide +kernel
  have parsed : parseSnapshot (snapshotBytes (loadNodeConfig [withRule anyHttpsRule])) =
      some (snapshotCfg (loadNodeConfig [withRule anyHttpsRule])) := by decide +kernel
  have applied : steps configMachine ⟨applyNodeCfg defaultEnv 65536
      (snapshotCfg (loadNodeConfig [withRule anyHttpsRule])), loadedMaps⟩
      (List.replicate 100 .works) =
      ⟨.ret (), mapsWith (loadNodeConfig [withRule anyHttpsRule])⟩ := rfl
  refine ⟨rfl, rfl, ⟨written, parsed, applied, ⟨1, 1⟩, rfl, rfl⟩, ?_, ?_, ?_⟩
  · exact ⟨_, rfl, rfl, rfl, rfl⟩
  · rintro ⟨_, _, _, dst⟩
    have present : packetPorts (tcpPacket 80) = some (40000, 80) := by decide
    rw [present] at dst
    obtain ⟨_, ⟨⟩, below, _⟩ := dst 443 rfl 443 rfl
    exact absurd below (by decide)
  · rintro ⟨_, _, _, dst⟩
    have portless : packetPorts icmpPacket = none := by decide
    rw [portless] at dst
    obtain ⟨_, ⟨⟩, _⟩ := dst 443 rfl 443 rfl

end ScrubbingGateway.Apply
