import ScrubbingGateway.DataPlane.ListStages

/-!
# Which rule is selected

The allow stage scans the rules of a block in their order and stops at the first one that matches,
whose index it records in the packet. What happens to the packet afterwards is not the business of
the rules any more.
-/

namespace ScrubbingGateway.DataPlane

open Prog

section Select

variable {k : Kernel} {frame : Frame} {pkt : PktMeta} {slot : UInt32} {block : RuleBlock}

theorem matchingRule_eq_some_iff {i : Fin ruleMax} :
    matchingRule block pkt = some i ↔
      (i.val < block.ruleCount.toNat ∧ ruleMatches (block.rules i) pkt = true) ∧
        ∀ j < i, j.val < block.ruleCount.toNat → ruleMatches (block.rules j) pkt = false := by
  unfold matchingRule
  rw [List.find?_eq_some_iff_getElem]
  simp only [List.getElem_finRange, List.length_finRange, Bool.and_eq_true, decide_eq_true_eq,
    lt_min_iff, Bool.not_eq_true', Bool.and_eq_false_imp]
  constructor
  · rintro ⟨⟨⟨counted, _⟩, met⟩, n, bound, rfl, earlier⟩
    refine ⟨⟨counted, met⟩, fun j before inside => ?_⟩
    exact earlier j.val before ⟨inside, j.isLt⟩
  · rintro ⟨⟨counted, met⟩, earlier⟩
    refine ⟨⟨⟨counted, i.isLt⟩, met⟩, i.val, i.isLt, rfl, ?_⟩
    rintro j before ⟨inside, _⟩
    exact earlier ⟨j, before.trans i.isLt⟩ before inside

theorem matchingRule_eq_none_iff :
    matchingRule block pkt = none ↔
      ∀ i : Fin ruleMax, i.val < block.ruleCount.toNat → ruleMatches (block.rules i) pkt = false := by
  unfold matchingRule
  rw [List.find?_eq_none]
  simp only [List.mem_finRange, Bool.and_eq_true, decide_eq_true_eq, lt_min_iff, not_and,
    Bool.not_eq_true, forall_const]
  exact forall_congr' fun i => ⟨fun none inside => none ⟨inside, i.isLt⟩,
    fun none inside => none inside.1⟩

variable (found : slotLookup k.config slot .ruleBlockMap pkt.serviceId = some block)
include found

theorem eval_selectRule :
    eval packetMachine (selectRule pkt slot) k =
      (.returned ((matchingRule block pkt).elim (.error .notAllowed) .ok), k) := by
  obtain ⟨id, installed, inside⟩ := Option.bind_eq_some_iff.mp found
  -- both lookups only read
  have there : PacketCall.exec (.outer .ruleBlockMap slot) k = (some id, k) := by
    rw [← installed]
    rfl
  have read : PacketCall.exec (.inner .ruleBlockMap id pkt.serviceId) k = (some block, k) := by
    rw [← inside]
    rfl
  unfold selectRule
  rw [eval_ask, there]
  dsimp only
  rw [eval_ask, read]
  dsimp only
  cases matchingRule block pkt <;> rfl

theorem dropsFor_notAllowed_iff :
    DropsFor packetMachine .notAllowed (allowRuleStage frame pkt slot) k ↔
      matchingRule block pkt = none := by
  obtain ⟨inner, installed, inside⟩ := Option.bind_eq_some_iff.mp found
  have there : packetMachine.exec (.outer .ruleBlockMap slot) k = (some inner, k) := by
    rw [← installed]
    rfl
  have read : packetMachine.exec (.inner .ruleBlockMap inner pkt.serviceId) k = (some block, k) := by
    rw [← inside]
    rfl
  unfold allowRuleStage selectRule
  rw [bind_assoc, dropsFor_ask there nofun]
  dsimp only
  rw [bind_assoc, dropsFor_ask read nofun]
  dsimp only
  cases matchingRule block pkt with
  | none => exact iff_of_true (dropsFor_recordDrop .notAllowed) rfl
  | some i =>
    have stays : Stays (listScope slot (.rateLimitDrop :: fairReasons) allowOuters)
        (admitSelected frame { pkt with ruleIdx := recordedRuleIdx (.ok i) } slot) :=
      stays_admitSelected (fun _ => id) fun _ => id
    exact iff_of_false (not_dropsFor_within stays.within (by decide)) nofun

end Select

end ScrubbingGateway.DataPlane
