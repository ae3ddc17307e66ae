import ScrubbingGateway.Apply.Atomicity
import ScrubbingGateway.Apply.Capacity

/-!
# Applies that nothing disturbs

A service apply whose calls all work publishes its snapshot, when the slot it starts from is
complete and the services fit, are well formed, and have destinations and ids of their own.
-/

namespace ScrubbingGateway.Apply

open DataPlane Prog

/-- Every outer map refers to an inner map in the slot, and the flags of the deny list are there. -/
structure Complete (k : ConfigMaps) (slot : UInt32) : Prop where
  placed : ∀ o, (k.outer o slot).isSome = true
  gblMeta : (k.gblMeta slot).isSome = true

/-- A snapshot the helper has nothing to object to. -/
structure Acceptable (node : NodeCfg) : Prop where
  schema : node.schemaVersion = schemaVersion
  fitting : Fitting node.services
  writable : ∀ s ∈ node.services, Writable s
  destinations : (snapshotKeys node.services .serviceMap).Nodup
  ids : (node.services.map CfgService.dpId).Nodup

theorem Frozen.complete {slot : UInt32} {before now : ConfigMaps} (frozen : Frozen slot before now)
    (complete : Complete before slot) : Complete now slot := by
  refine ⟨fun o => ?_, ?_⟩
  · rw [frozen.outer o]
    exact complete.placed o
  · rw [frozen.gblMeta]
    exact complete.gblMeta

section Calls

variable {k : ConfigMaps} {active : ActiveConfig} {slot : UInt32}

theorem applyReadActive_runs (read : k.activeConfig = some active)
    (valid : active.activeSlot < serviceSlots) :
    Works (fun slots now => slots = .ofActive active ∧ now = k) applyReadActive k := by
  refine Runs.bind ?_
  show Works _ (Prog.expect k.activeConfig) k
  rw [read]
  exact (Runs.require (fun _ => ⟨rfl, rfl⟩) (.inr (decide_eq_true valid))).bind

theorem fairNodeUpdate_runs (valid : slot < serviceSlots) (v : FairNodeConfig) :
    Works (fun _ now => now = k.setFairNode slot v) (fairNodeUpdate slot v) k := by
  show Works _ (Prog.require (ConfigCall.exec (.fairNodeUpdate slot v) k).1)
    (ConfigCall.exec (.fairNodeUpdate slot v) k).2
  rw [ConfigCall.exec, if_pos valid]
  exact rfl

theorem fairNodeLookup_runs {v : FairNodeConfig} (found : k.fairNodeConfig slot = some v) :
    Works (fun answer now => answer = v ∧ now = k) (fairNodeLookup slot) k := by
  show Works _ (Prog.expect (k.fairNodeConfig slot)) k
  rw [found]
  exact ⟨rfl, rfl⟩

theorem gblMetaLookup_runs {v : GblMeta} (found : k.gblMeta slot = some v) :
    Works (fun answer now => answer = v ∧ now = k) (gblMetaLookup slot) k := by
  show Works _ (Prog.expect (k.gblMeta slot)) k
  rw [found]
  exact ⟨rfl, rfl⟩

section

variable (valid : slot < serviceSlots)
include valid

theorem gblMetaUpdate_runs (v : GblMeta) : Works (fun _ _ => True) (gblMetaUpdate slot v) k := by
  show Works _ (Prog.require (ConfigCall.exec (.gblMetaUpdate slot v) k).1)
    (ConfigCall.exec (.gblMetaUpdate slot v) k).2
  rw [ConfigCall.exec, if_pos valid]
  exact trivial

theorem applyInstallInner_runs {o : Outer} {fd : MapId} (live : fd < (k.inner o).length) :
    Works (fun _ now => now = k.setOuter o slot fd live) (applyInstallInner o slot fd) k := by
  show Works _ (Prog.require (ConfigCall.exec (.outerUpdate o slot fd) k).1)
    (ConfigCall.exec (.outerUpdate o slot fd) k).2
  rw [ConfigCall.exec, dif_pos live, if_pos valid]
  exact rfl

theorem installServiceInners_runs {fd : Outer → MapId}
    (live : ∀ o ∈ serviceOuters, fd o < (k.inner o).length) :
    Works (fun _ now => now.inner = k.inner) (installServiceInners fd slot) k := by
  refine Runs.forEach (fun _ _ (now : ConfigMaps) => now.inner = k.inner) serviceOuters ?_ () rfl
  intro done o rest whole _ now same
  have member : o ∈ serviceOuters := by simp [whole]
  have live' : fd o < (now.inner o).length := by
    rw [same]
    exact live o member
  refine (applyInstallInner_runs valid live').mono ?_
  rintro _ _ rfl
  exact same

theorem applyCopyOuterInner_runs {o : Outer} {source : UInt32} (complete : Complete k source)
    (away : slot ≠ source) :
    Works (fun _ now => Complete now source) (applyCopyOuterInner o source slot) k := by
  obtain ⟨id, installed⟩ := Option.isSome_iff_exists.mp (complete.placed o)
  refine (applyInnerFd_runs installed).seq ?_
  rintro _ _ ⟨rfl, rfl⟩
  refine (applyInstallInner_runs valid (ConfigMaps.outer_live _ _ _ _ installed)).mono ?_
  rintro _ _ rfl
  refine ⟨fun o' => ?_, complete.gblMeta⟩
  simp only [ConfigMaps.setOuter, away.symm, and_false, if_false]
  exact complete.placed o'

end

theorem carryForwardFeed_runs {slots : Slots} (valid : slots.inactiveSlot < serviceSlots)
    (away : slots.inactiveSlot ≠ slots.activeSlot) (complete : Complete k slots.activeSlot) :
    Works (fun _ _ => True) (carryForwardFeed slots) k := by
  refine ((applyCopyOuterInner_runs valid complete away).mono fun _ now complete => ?_).bind
  refine ((applyCopyOuterInner_runs valid complete away).mono fun _ now complete => ?_).bind
  refine ((applyCopyOuterInner_runs valid complete away).mono fun _ now complete => ?_).bind
  obtain ⟨v, found⟩ := Option.isSome_iff_exists.mp complete.gblMeta
  refine (gblMetaLookup_runs found).seq ?_
  rintro _ _ ⟨rfl, rfl⟩
  exact gblMetaUpdate_runs valid _

end Calls

/-! ## The stages -/

theorem other_slot_valid {slot : UInt32} (valid : slot < serviceSlots) :
    1 - slot < serviceSlots := by
  have small : slot.toNat < 2 := valid
  show (1 - slot).toNat < 2
  rw [UInt32.toNat_sub]
  simp only [UInt32.reduceToNat]
  omega

section Stages

variable {before : ConfigMaps} {active : ActiveConfig} {env : Env} {node : NodeCfg} {knobs : Knobs}

theorem buildInactiveSlot_runs (read : before.activeConfig = some active)
    (valid : active.activeSlot < serviceSlots) (complete : Complete before active.activeSlot)
    (known : applyNodeKnobs env = some knobs) (acceptable : Acceptable node) :
    Works (fun build _ => build =
        ⟨.ofActive active, knobs.capacity, committedSum knobs node.services⟩)
      (buildInactiveSlot env 65536 node) before := by
  have here : Untouched active.activeSlot before before := .refl _ _
  refine (Runs.require (fun _ => ?_) (.inr (beq_iff_eq.mpr acceptable.schema))).bind
  refine (applyReadActive_runs read valid).seq ?_
  rintro _ _ ⟨rfl, rfl⟩
  rw [known]
  -- what a stage leaves, if it returns, was established for every run of it
  refine ((fillInners_works acceptable.fitting acceptable.writable knobs
    fun o _ => complete.placed o).and
    (fillInners_building here knobs 65536 node.services).ends).seq ?_
  rintro ⟨fd, _⟩ written ⟨_, building, rfl⟩
  have slotValid : (Slots.ofActive active).inactiveSlot < serviceSlots := other_slot_valid valid
  refine (fairNodeUpdate_runs slotValid _).seq ?_
  rintro _ _ rfl
  have live : ∀ o ∈ serviceOuters, fd o < (written.inner o).length := by
    intro o member
    obtain ⟨t, found, _⟩ := building.filled o member
    exact (List.getElem?_eq_some_iff.mp found).1
  refine (installServiceInners_runs (k := written.setFairNode _ _) slotValid live).seq ?_
  intro _ _ _
  rfl

end Stages

/-! ## Reading the candidate back -/

section Verifying

variable {k : ConfigMaps} {fd : Outer → MapId} {slot : UInt32} {knobs : Knobs}
  {services : List CfgService}

theorem slotInners_runs (holds : ∀ o ∈ serviceOuters, k.outer o slot = some (fd o)) :
    Works (fun fd' now => now = k ∧ ∀ o ∈ serviceOuters, fd' o = fd o) (slotInners slot) k := by
  refine Runs.forEach
    (fun done (fd' : Outer → MapId) (now : ConfigMaps) => now = k ∧ ∀ o ∈ done, fd' o = fd o)
    serviceOuters ?_ _ ⟨rfl, by simp⟩
  rintro done o rest whole fd' _ ⟨rfl, same⟩
  refine (applyInnerFd_runs (holds o (by simp [whole]))).seq ?_
  rintro _ _ ⟨rfl, rfl⟩
  refine ⟨rfl, fun o' member => ?_⟩
  by_cases here : o' = o
  · rw [here, Function.update_self]
  · rw [Function.update_of_ne here]
    exact same o' (by simpa [here] using member)

theorem innerLookup_runs {o : Outer} {id : MapId} {key : o.Key} {t : Inner o} {v : o.Val}
    (found : (k.inner o)[id]? = some t) (stored : Inner.find o t key = some v) :
    Works (fun answer now => answer = v ∧ now = k) (innerLookup o id key) k := by
  show Works _
    (Prog.expect ((k.inner o)[id]?.bind fun t => Inner.find o t key)) k
  rw [found, Option.bind_some, stored]
  exact ⟨rfl, rfl⟩

theorem verifyService_runs
    (filled : ∀ o ∈ serviceOuters, ∃ t, (k.inner o)[fd o]? = some t ∧
      ∀ key, t.lookup key = serviceRows knobs services o key)
    (destinations : (snapshotKeys services .serviceMap).Nodup)
    (ids : (services.map CfgService.dpId).Nodup) {s : CfgService} (member : s ∈ services) :
    Works (fun _ now => now = k) (verifyService (fd .serviceMap) (fd .ruleBlockMap) s) k := by
  unfold verifyService
  split
  · rfl
  next enabled =>
    obtain ⟨entries, entriesAt, entryRows⟩ := filled .serviceMap (by decide)
    obtain ⟨blocks, blocksAt, blockRows⟩ := filled .ruleBlockMap (by decide)
    have entry : entries.lookup (serviceKey s.dstPrefixlen s.dstAddr) = some (serviceVal s) := by
      rw [entryRows, serviceRows, latest_of_nodup (fun s => serviceKey s.dstPrefixlen s.dstAddr)
        destinations member, Option.map_some]
    have block : blocks.lookup s.dpId = some (ruleBlock s) := by
      rw [blockRows, serviceRows, latest_of_nodup CfgService.dpId ids member, Option.map_some]
    refine (innerLookup_runs (o := .serviceMap) entriesAt
      (PrefixTrie.longestMatch_of_lookup entry)).seq ?_
    rintro _ _ ⟨rfl, rfl⟩
    refine (Runs.require (fun _ => ?_) (.inr (by simp [serviceVal, enabled]))).bind
    refine (innerLookup_runs (o := .ruleBlockMap) blocksAt block).seq ?_
    rintro _ _ ⟨rfl, rfl⟩
    exact Runs.require (fun _ => rfl) (.inr (by simp [ruleBlock]))

theorem verifySlot_runs {node : NodeCfg} {build : ServiceBuild} (acceptable : Acceptable node)
    (holds : ∀ o ∈ serviceOuters, k.outer o build.slots.inactiveSlot = some (fd o))
    (filled : ∀ o ∈ serviceOuters, ∃ t, (k.inner o)[fd o]? = some t ∧
      ∀ key, t.lookup key = serviceRows knobs node.services o key)
    (fairNode : k.fairNodeConfig build.slots.inactiveSlot =
      some (fairNodeConfigOf build.nodeCapacityBps build.sumCommittedBps))
    (gblMeta : k.gblMeta build.slots.inactiveSlot = k.gblMeta build.slots.activeSlot)
    (present : (k.gblMeta build.slots.activeSlot).isSome = true) :
    Works (fun _ _ => True) (verifySlot node build) k := by
  refine (slotInners_runs holds).seq ?_
  rintro fd' _ ⟨rfl, same⟩
  rw [same .serviceMap (by decide), same .ruleBlockMap (by decide)]
  refine (Runs.forEach (fun _ _ now => now = _) node.services ?_ () rfl).seq ?_
  · rintro done s rest whole _ _ rfl
    exact verifyService_runs filled acceptable.destinations acceptable.ids (by simp [whole])
  rintro _ _ rfl
  refine (fairNodeLookup_runs fairNode).seq ?_
  rintro _ _ ⟨rfl, rfl⟩
  refine (Runs.require (fun _ => ?_) (.inr (by simp [fairNodeConfigOf]))).bind
  obtain ⟨v, flags⟩ := Option.isSome_iff_exists.mp present
  refine (gblMetaLookup_runs flags).seq ?_
  rintro _ _ ⟨rfl, rfl⟩
  refine (gblMetaLookup_runs (gblMeta.trans flags)).seq ?_
  rintro _ _ ⟨rfl, rfl⟩
  exact Runs.require (fun _ => trivial) (.inr (by simp))

end Verifying

/-! ## The whole apply -/

section Applying

variable {k : ConfigMaps} {active : ActiveConfig} {env : Env} {node : NodeCfg} {knobs : Knobs}

section

variable (read : k.activeConfig = some active) (valid : active.activeSlot < serviceSlots)
  (complete : Complete k active.activeSlot) (known : applyNodeKnobs env = some knobs)
  (acceptable : Acceptable node)
include read valid complete known acceptable

theorem applyNodeCfg_runs : Works (fun _ _ => True) (applyNodeCfg env 65536 node) k := by
  have away : (Slots.ofActive active).inactiveSlot ≠ (Slots.ofActive active).activeSlot :=
    other_slot_ne valid
  refine ((buildInactiveSlot_runs read valid complete known acceptable).and
    (buildInactiveSlot_candidate read 65536).ends).seq ?_
  rintro _ built ⟨rfl, -, -, knobs', fd, mid, known', candidate, placing, holds⟩
  obtain rfl : knobs = knobs' := Option.some.inj (known.symm.trans known')
  have untouched := placing.untouched candidate.untouched
  have complete' : Complete built active.activeSlot := untouched.toFrozen.complete complete
  refine ((carryForwardFeed_runs (other_slot_valid valid) away complete').and
    (carryForwardFeed_holds away candidate placing holds).ends).seq ?_
  rintro _ now ⟨-, untouched, inner, holds, fairNode, gblMeta⟩
  have installed : ∀ o ∈ serviceOuters,
      now.outer o (Slots.ofActive active).inactiveSlot = some (fd o) := by
    intro o member
    rw [holds o (List.mem_append_left _ member), serviceWant, if_pos member]
  have filled := candidate.filled
  have verified : Works (fun _ _ => True)
      (verifySlot node ⟨.ofActive active, knobs.capacity, committedSum knobs node.services⟩)
      now := by
    rw [← inner] at filled
    exact verifySlot_runs acceptable installed filled (fairNode.trans candidate.fairNode)
      (gblMeta.trans untouched.gblMeta.symm) (untouched.toFrozen.complete complete).gblMeta
  refine verified.seq ?_
  intro _ _ _
  trivial

/-- The helper can publish any acceptable service snapshot. -/
theorem exists_swapped (service : node.snapshotKind = kindServiceFull) :
    ∃ run : ApplyRun, run.node = node ∧
      eval configMachine (applySnapshot env 65536 node) k = (.returned (), run.after k) ∧
      Swapped k (.ofActive active)
        ((slotConfiguration k active.activeSlot).withServices knobs node.services)
        (run.after k) := by
  obtain ⟨_, now, ran, _⟩ := (applyNodeCfg_runs read valid complete known acceptable).returns
  have whole : eval configMachine (applySnapshot env 65536 node) k = (.returned (), now) := by
    rw [applySnapshot, if_pos service]
    exact ran
  let run : ApplyRun := ⟨env, 65536, node,
    List.replicate (calls configMachine (applySnapshot env 65536 node) k).length .works⟩
  have reached : run.reached k = ⟨.ret (), now⟩ := steps_of_eval whole
  have after : run.after k = now := congrArg Running.state reached
  have committed : run.committed k = true := by rw [ApplyRun.committed, reached]
  obtain ⟨c, published, swapped⟩ := after_swapped run read committed
  rw [ApplyRun.publishes, if_pos service, known] at published
  cases published
  exact ⟨run, rfl, after ▸ whole, swapped⟩

end

theorem isSome_slotRows (k : ConfigMaps) (slot : UInt32) (o : Outer) :
    (slotRows k slot o).isSome = (k.outer o slot).isSome := by
  unfold slotRows
  cases found : k.outer o slot with
  | none => rfl
  | some id =>
    have live := k.outer_live o slot id found
    rw [Option.bind_some, List.getElem?_eq_getElem live]
    rfl

/-- A complete slot, after an acceptable snapshot has been published over it. -/
theorem exists_published (read : k.activeConfig = some active)
    (valid : active.activeSlot < serviceSlots) (complete : Complete k active.activeSlot)
    (known : applyNodeKnobs env = some knobs) (acceptable : Acceptable node)
    (service : node.snapshotKind = kindServiceFull) :
    ∃ run : ApplyRun, run.node = node ∧ ∃ active', (run.after k).activeConfig = some active' ∧
      active'.activeSlot < serviceSlots ∧ Complete (run.after k) active'.activeSlot ∧
      slotConfiguration (run.after k) active'.activeSlot =
        (slotConfiguration k active.activeSlot).withServices knobs node.services := by
  obtain ⟨run, rfl, _, swapped⟩ := exists_swapped read valid complete known acceptable service
  refine ⟨run, rfl, _, swapped.active, other_slot_valid valid, ⟨fun o => ?_, ?_⟩,
    swapped.configuration⟩
  · -- an outer map refers to something just when the configuration has rows of its kind
    rw [← isSome_slotRows]
    show ((slotConfiguration _ _).rows o).isSome = true
    rw [swapped.configuration]
    show (if o ∈ serviceOuters then some _ else slotRows k active.activeSlot o).isSome = true
    split
    · rfl
    · rw [isSome_slotRows]
      exact complete.placed o
  · show (slotConfiguration _ _).gblMeta.isSome = true
    rw [swapped.configuration]
    exact complete.gblMeta

/-! ## After any history -/

/-- The active slot is one of the two and lacks nothing. -/
def Ready (k : ConfigMaps) : Prop :=
  ∃ active, k.activeConfig = some active ∧ active.activeSlot < serviceSlots ∧
    Complete k active.activeSlot

theorem complete_iff {slot : UInt32} : Complete k slot ↔
    (∀ o, ((slotConfiguration k slot).rows o).isSome = true) ∧
      (slotConfiguration k slot).gblMeta.isSome = true := by
  simp only [slotConfiguration, isSome_slotRows]
  exact ⟨fun complete => ⟨complete.1, complete.2⟩, fun both => ⟨both.1, both.2⟩⟩

/-- Whether it commits, fails or is stopped, an apply leaves a complete slot active. -/
theorem Ready.after (ready : Ready k) (run : ApplyRun) : Ready (run.after k) := by
  obtain ⟨active, read, valid, complete⟩ := ready
  cases done : run.committed k with
  | true =>
    obtain ⟨c, published, swapped⟩ := after_swapped run read done
    refine ⟨_, swapped.active, other_slot_valid valid, ?_⟩
    rw [complete_iff] at complete ⊢
    rw [swapped.configuration]
    unfold ApplyRun.publishes at published
    split_ifs at published <;> obtain ⟨_, _, rfl⟩ := Option.map_eq_some_iff.mp published
    · refine ⟨fun o => ?_, complete.2⟩
      simp only [Configuration.withServices]
      split <;> simp [complete.1 o]
    · refine ⟨fun o => ?_, rfl⟩
      simp only [Configuration.withDeny]
      split <;> simp [complete.1 o]
  | false =>
    have untouched := after_untouched run read done
    exact ⟨active, untouched.active.trans read, valid, untouched.toFrozen.complete complete⟩

theorem Ready.afterRuns (ready : Ready k) (runs : List ApplyRun) : Ready (afterRuns k runs) := by
  induction runs generalizing k with
  | nil => exact ready
  | cons run runs ih => exact ih (ready.after run)

end Applying

/-- No history of applies that failed, were stopped or went through blocks the next one: if its own
calls work, an acceptable service snapshot is published over the deny list that is in force. -/
theorem applies_never_wedged (k : ConfigMaps) (ready : Ready k) (runs : List ApplyRun) (env : Env)
    (knobs : Knobs) (known : applyNodeKnobs env = some knobs) (node : NodeCfg)
    (acceptable : Acceptable node) (service : node.snapshotKind = kindServiceFull) :
    ∃ c now, activeConfiguration (afterRuns k runs) = some c ∧
      eval configMachine (applySnapshot env 65536 node) (afterRuns k runs) = (.returned (), now) ∧
      activeConfiguration now = some (c.withServices knobs node.services) := by
  obtain ⟨active, read, valid, complete⟩ := ready.afterRuns runs
  obtain ⟨run, _, ran, swapped⟩ := exists_swapped read valid complete known acceptable service
  refine ⟨_, _, activeConfiguration_of_active read, ran, ?_⟩
  rw [activeConfiguration_of_active swapped.active, ← swapped.configuration]

theorem nestedNode_acceptable : Acceptable nestedNode where
  schema := rfl
  fitting := ⟨by decide, by decide, by decide⟩
  writable := by
    intro s member
    simp only [nestedNode, List.mem_cons, List.not_mem_nil, or_false] at member
    rcases member with rfl | rfl <;> exact ⟨by decide, by decide⟩
  destinations := by decide
  ids := by decide

/-- Two services after a deny list that was published and a snapshot that failed. -/
theorem nestedNode_not_wedged : ∃ c now,
    activeConfiguration (afterRuns loadedMaps [denyOneRun, failedServiceRun]) = some c ∧
      eval configMachine (applySnapshot defaultEnv 65536 nestedNode)
        (afterRuns loadedMaps [denyOneRun, failedServiceRun]) = (.returned (), now) ∧
      activeConfiguration now =
        some (c.withServices ⟨5000000000, 3, 512⟩ [networkService, hostService]) :=
  applies_never_wedged _ ⟨⟨0, 0⟩, rfl, by decide, fun _ => rfl, rfl⟩ _ _ _ rfl _
    nestedNode_acceptable rfl

end ScrubbingGateway.Apply
