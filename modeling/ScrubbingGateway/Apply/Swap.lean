import ScrubbingGateway.Apply.Build

/-!
# Installing a candidate and publishing it

A whole apply either leaves everything reachable through the active slot untouched, or has returned
and swapped the slots (`Swapped`), with one part of the configuration replaced by the snapshot and
the rest carried forward.
-/

namespace ScrubbingGateway.Apply

open DataPlane Prog

/-- Since `mid` only entries of outer maps have changed, and none in the active slot. -/
structure Placing (slot : UInt32) (mid now : ConfigMaps) : Prop where
  active : now.activeConfig = mid.activeConfig
  inner : now.inner = mid.inner
  fairNode : now.fairNodeConfig = mid.fairNodeConfig
  gblMeta : now.gblMeta = mid.gblMeta
  outer : ∀ o, now.outer o slot = mid.outer o slot

/-- The outer maps of the given kinds hold the wanted ids in a slot. -/
def Holds (kinds : List Outer) (slot : UInt32) (want : Outer → Option MapId) (now : ConfigMaps) :
    Prop :=
  ∀ o ∈ kinds, now.outer o slot = want o

/-- The apply is over: the other slot is active and holds a configuration. An inner map it refers
to was referred to before, or is new. -/
structure Swapped (before : ConfigMaps) (slots : Slots) (c : Configuration) (now : ConfigMaps) :
    Prop where
  active : now.activeConfig = some ⟨slots.inactiveSlot, slots.version + 1⟩
  configuration : slotConfiguration now slots.inactiveSlot = c
  frozen : Frozen slots.activeSlot before now
  origin : ∀ o id, now.outer o slots.inactiveSlot = some id →
    before.outer o slots.activeSlot = some id ∨ (before.inner o).length ≤ id

variable {o : Outer} {id : MapId}

namespace Placing

variable {slot other : UInt32} {before mid now : ConfigMaps}

theorem refl (slot : UInt32) (k : ConfigMaps) : Placing slot k k :=
  ⟨rfl, rfl, rfl, rfl, fun _ => rfl⟩

theorem untouched (placing : Placing slot mid now) (start : Untouched slot before mid) :
    Untouched slot before now where
  active := placing.active.trans start.active
  outer o := (placing.outer o).trans (start.outer o)
  inner o id old := by rw [placing.inner, start.inner o id old]
  grows o := by
    rw [placing.inner]
    exact start.grows o
  fairNode := by rw [placing.fairNode, start.fairNode]
  gblMeta := by rw [placing.gblMeta, start.gblMeta]

theorem setOuter (placing : Placing slot mid now) (live : id < (now.inner o).length)
    (away : other ≠ slot) : Placing slot mid (now.setOuter o other id live) := by
  refine ⟨placing.active, placing.inner, placing.fairNode, placing.gblMeta, ?_⟩
  intro o'
  simp only [ConfigMaps.setOuter, Ne.symm away, and_false, if_false]
  exact placing.outer o'

end Placing

variable {slot : UInt32} {now : ConfigMaps}

theorem Holds.setOuter {kinds : List Outer} {want : Outer → Option MapId}
    (holds : Holds kinds slot want now) (live : id < (now.inner o).length)
    (wanted : want o = some id) : Holds (kinds ++ [o]) slot want (now.setOuter o slot id live) := by
  intro o' member
  by_cases same : o' = o
  · subst same
    simp only [ConfigMaps.setOuter, and_self, if_true, wanted]
  · simp only [ConfigMaps.setOuter, same, false_and, if_false]
    exact holds o' (by simpa [same] using member)

namespace Untouched

variable {slot other : UInt32} {before now : ConfigMaps}

theorem refl (slot : UInt32) (k : ConfigMaps) : Untouched slot k k := ⟨.refl slot k, rfl⟩

variable (untouched : Untouched slot before now)
include untouched

theorem setFairNode (v : FairNodeConfig) (away : other ≠ slot) :
    Untouched slot before (now.setFairNode other v) :=
  ⟨untouched.toFrozen.setFairNode v away, untouched.active⟩

theorem setGblMeta (v : GblMeta) (away : other ≠ slot) :
    Untouched slot before (now.setGblMeta other v) :=
  ⟨untouched.toFrozen.setGblMeta v away, untouched.active⟩

theorem carried_rows (same : now.outer o other = before.outer o slot) :
    slotRows now other o = slotRows before slot o := by
  unfold slotRows
  rw [same]
  cases found : before.outer o slot with
  | none => rfl
  | some id =>
    simp only [Option.bind_some]
    rw [untouched.inner o id (before.outer_live o slot id found)]

end Untouched

section Stages

variable {slots : Slots} {before mid now : ConfigMaps} {want : Outer → Option MapId}

theorem install_placing {done : List Outer} (o : Outer) (fd : MapId)
    (start : Untouched slots.activeSlot before mid) (away : slots.inactiveSlot ≠ slots.activeSlot)
    (wanted : want o = some fd)
    (placing : Placing slots.activeSlot mid now) (holds : Holds done slots.inactiveSlot want now) :
    Spares slots.activeSlot before (fun _ now => Placing slots.activeSlot mid now ∧
        Holds (done ++ [o]) slots.inactiveSlot want now)
      (applyInstallInner o slots.inactiveSlot fd) now :=
  always_applyInstallInner (placing.untouched start) fun live =>
    ⟨placing.setOuter live away, holds.setOuter live wanted⟩

theorem copy_placing {done : List Outer} (o : Outer)
    (start : Untouched slots.activeSlot before mid) (away : slots.inactiveSlot ≠ slots.activeSlot)
    (wanted : want o = before.outer o slots.activeSlot)
    (placing : Placing slots.activeSlot mid now) (holds : Holds done slots.inactiveSlot want now) :
    Spares slots.activeSlot before (fun _ now => Placing slots.activeSlot mid now ∧
        Holds (done ++ [o]) slots.inactiveSlot want now)
      (applyCopyOuterInner o slots.activeSlot slots.inactiveSlot) now := by
  have untouched := placing.untouched start
  refine always_applyCopyOuterInner untouched fun id found => ?_
  refine ⟨placing.setOuter _ away, holds.setOuter _ ?_⟩
  rw [wanted, ← untouched.outer o, found]

/-- The commit of a candidate that is complete in the inactive slot. -/
theorem always_commit_swapped {c : Configuration}
    (untouched : Untouched slots.activeSlot before now)
    (parts : ∀ o, now.outer o slots.inactiveSlot = before.outer o slots.activeSlot ∧
        c.rows o = slotRows before slots.activeSlot o ∨
      ∃ id t, now.outer o slots.inactiveSlot = some id ∧ (before.inner o).length ≤ id ∧
        (now.inner o)[id]? = some t ∧ c.rows o = some t.lookup)
    (fairNode : now.fairNodeConfig slots.inactiveSlot = c.fairNode)
    (gblMeta : now.gblMeta slots.inactiveSlot = c.gblMeta) :
    Spares slots.activeSlot before
      (fun _ now => Swapped before slots c now) (commit slots) now := by
  refine ⟨untouched, ⟨rfl, ?_, untouched.toFrozen.setActive _, ?_⟩, untouched⟩
  · refine Configuration.ext (funext fun o => ?_) fairNode gblMeta
    show slotRows now slots.inactiveSlot o = c.rows o
    rcases parts o with ⟨same, kept⟩ | ⟨id, t, placed, -, found, new⟩
    · rw [kept, untouched.carried_rows same]
    · simp only [slotRows, placed, Option.bind_some, found, Option.map_some, new]
  · intro o id found
    rcases parts o with ⟨same, -⟩ | ⟨id', t, placed, fresh, -, -⟩
    · exact Or.inl (same ▸ found)
    · cases (placed.symm.trans found)
      exact Or.inr fresh

theorem quiet_applyInnerFd (o : Outer) (slot : UInt32) :
    Quiet configMachine (applyInnerFd o slot) :=
  ((Quiet.request fun _ => rfl).bind fun _ => Quiet.expect _).bind fun _ =>
    (Quiet.request fun _ => rfl).bind fun _ => Quiet.expect _

theorem quiet_innerLookup (o : Outer) (fd : MapId) (key : o.Key) :
    Quiet configMachine (innerLookup o fd key) :=
  (Quiet.request fun _ => rfl).bind fun _ => Quiet.expect _

theorem quiet_fairNodeLookup (slot : UInt32) : Quiet configMachine (fairNodeLookup slot) :=
  (Quiet.request fun _ => rfl).bind fun _ => Quiet.expect _

theorem quiet_gblMetaLookup (slot : UInt32) : Quiet configMachine (gblMetaLookup slot) :=
  (Quiet.request fun _ => rfl).bind fun _ => Quiet.expect _

theorem quiet_verifyService (serviceFd ruleFd : MapId) (service : CfgService) :
    Quiet configMachine (verifyService serviceFd ruleFd service) := by
  unfold verifyService
  split
  · exact Quiet.ret ()
  · exact (quiet_innerLookup _ _ _).bind fun _ => (Quiet.require _).bind fun _ =>
      (quiet_innerLookup _ _ _).bind fun _ => Quiet.require _

theorem quiet_verifySlot (node : NodeCfg) (build : ServiceBuild) :
    Quiet configMachine (verifySlot node build) :=
  (Quiet.forEach (fun _ _ => (quiet_applyInnerFd _ _).bind fun _ => Quiet.ret _) _ _).bind fun _ =>
    (Quiet.forEach (fun _ _ => quiet_verifyService _ _ _) _ _).bind fun _ =>
      (quiet_fairNodeLookup _).bind fun _ => (Quiet.require _).bind fun _ =>
        (quiet_gblMetaLookup _).bind fun _ => (quiet_gblMetaLookup _).bind fun _ =>
          Quiet.require _

theorem quiet_verifyOuterIds (o : Outer) (slots : Slots) (same : Bool) :
    Quiet configMachine (verifyOuterIds o slots same) :=
  ((Quiet.request fun _ => rfl).bind fun _ => Quiet.expect _).bind fun _ =>
    ((Quiet.request fun _ => rfl).bind fun _ => Quiet.expect _).bind fun _ => Quiet.require _

theorem quiet_verifyGlobalLpm (lpmFd : MapId) (node : NodeCfg) :
    Quiet configMachine (verifyGlobalLpm lpmFd node) :=
  (Quiet.request fun _ => rfl).bind fun _ => (Quiet.expect _).bind fun _ =>
    (Quiet.require _).bind fun _ =>
      Quiet.forEach (fun _ _ => (quiet_innerLookup _ _ _).bind fun _ => Quiet.require _) _ _

theorem quiet_verifyGlobalDenySlot (node : NodeCfg) (slots : Slots) (built : BloomPlan) :
    Quiet configMachine (verifyGlobalDenySlot node slots built) :=
  (Quiet.require _).bind fun _ => (Quiet.expect _).bind fun _ => (Quiet.require _).bind fun _ =>
    (Quiet.forEach (fun _ _ => quiet_verifyOuterIds _ _ _) _ _).bind fun _ =>
      (quiet_verifyOuterIds _ _ _).bind fun _ => (quiet_verifyOuterIds _ _ _).bind fun _ =>
        (quiet_verifyOuterIds _ _ _).bind fun _ => (quiet_fairNodeLookup _).bind fun _ =>
          (quiet_fairNodeLookup _).bind fun _ => (Quiet.require _).bind fun _ =>
            (quiet_gblMetaLookup _).bind fun _ => (Quiet.require _).bind fun _ =>
              (quiet_applyInnerFd _ _).bind fun _ => quiet_verifyGlobalLpm _ _

end Stages

/-! ## A service snapshot -/

/-- The kinds a service apply carries forward. -/
def feedOuters : List Outer := [.globalBlacklistBloom, .globalBlacklistLpm, .udpBlockedPortBitmap]

/-- What a service apply wants in the inactive slot. -/
def serviceWant (before : ConfigMaps) (slots : Slots) (fd : Outer → MapId) (o : Outer) :
    Option MapId :=
  if o ∈ serviceOuters then some (fd o) else before.outer o slots.activeSlot

/-- The candidate of a service apply before its feed part is carried forward. -/
structure ServiceCandidate (before : ConfigMaps) (slots : Slots) (knobs : Knobs)
    (services : List CfgService) (fd : Outer → MapId) (mid : ConfigMaps) : Prop where
  untouched : Untouched slots.activeSlot before mid
  fresh : ∀ o ∈ serviceOuters, (before.inner o).length ≤ fd o
  filled : ∀ o ∈ serviceOuters, ∃ t, (mid.inner o)[fd o]? = some t ∧
    ∀ key, t.lookup key = serviceRows knobs services o key
  fairNode : mid.fairNodeConfig slots.inactiveSlot =
    some (fairNodeConfigOf knobs.capacity (committedSum knobs services))

variable {mid : ConfigMaps}

section ServiceApply

variable {before : ConfigMaps} {active : ActiveConfig} {env : Env} {node : NodeCfg}

theorem installServiceInners_holds {slots : Slots} (fd : Outer → MapId)
    (start : Untouched slots.activeSlot before mid) (away : slots.inactiveSlot ≠ slots.activeSlot) :
    Spares slots.activeSlot before (fun _ now => Placing slots.activeSlot mid now ∧
        Holds serviceOuters slots.inactiveSlot (serviceWant before slots fd) now)
      (installServiceInners fd slots.inactiveSlot) mid := by
  refine Always.forEach (fun done _ now => Placing slots.activeSlot mid now ∧
    Holds done slots.inactiveSlot (serviceWant before slots fd) now)
    serviceOuters ?_ () ⟨.refl _ _, by simp [Holds]⟩
  rintro done o rest whole _ now ⟨placing, holds⟩
  have member : o ∈ serviceOuters := by simp [whole]
  exact install_placing o (fd o) start away (if_pos member) placing holds

theorem fillInners_building (here : Untouched slot before before) (knobs : Knobs) (fuel : Nat)
    (services : List CfgService) :
    Spares slot before (fun filled now =>
        Building before serviceOuters filled.1 (serviceRows knobs services) now ∧
        filled.2 = committedSum knobs services)
      (fillInners knobs fuel slot services) before := by
  refine (createServiceInners_building here _).bind fun fd created empty => ?_
  exact (writeServices_building here knobs fuel services empty).bind fun _ _ written => written

theorem buildInactiveSlot_candidate (read : before.activeConfig = some active) (fuel : Nat) :
    Always configMachine (Untouched active.activeSlot before)
      (fun build now => build.slots = .ofActive active ∧ active.activeSlot < serviceSlots ∧
        ∃ knobs fd mid, applyNodeKnobs env = some knobs ∧
          ServiceCandidate before build.slots knobs node.services fd mid ∧
          Placing build.slots.activeSlot mid now ∧
          Holds serviceOuters build.slots.inactiveSlot (serviceWant before build.slots fd) now)
      (buildInactiveSlot env fuel node) before := by
  have here : Untouched active.activeSlot before before := .refl _ _
  refine Always.require_bind here fun _ => ?_
  refine always_applyReadActive_bind read here fun valid => ?_
  have away : (Slots.ofActive active).inactiveSlot ≠ (Slots.ofActive active).activeSlot :=
    other_slot_ne valid
  refine Always.expect_bind here fun knobs known => ?_
  refine (fillInners_building here knobs fuel node.services).bind ?_
  rintro ⟨fd, _⟩ written ⟨building, rfl⟩
  have untouched := building.untouched here
  refine Always.andThen (always_fairNodeUpdate untouched rfl) fun _ => ?_
  have start := untouched.setFairNode
    (fairNodeConfigOf knobs.capacity (committedSum knobs node.services)) away
  -- the candidate is complete but for its outer entries
  have candidate : ServiceCandidate before (.ofActive active) knobs node.services fd _ :=
    ⟨start, building.fresh, building.filled, if_pos rfl⟩
  refine (installServiceInners_holds fd start away).bind ?_
  rintro _ now ⟨placing, holds⟩
  exact ⟨rfl, valid, knobs, fd, _, known, candidate, placing, holds⟩

theorem carryForwardFeed_holds {slots : Slots} {knobs : Knobs} {services : List CfgService}
    {fd : Outer → MapId} (away : slots.inactiveSlot ≠ slots.activeSlot)
    (candidate : ServiceCandidate before slots knobs services fd mid)
    (placing : Placing slots.activeSlot mid now)
    (holds : Holds serviceOuters slots.inactiveSlot (serviceWant before slots fd) now) :
    Spares slots.activeSlot before
      (fun _ now => Untouched slots.activeSlot before now ∧ now.inner = mid.inner ∧
        Holds (serviceOuters ++ feedOuters) slots.inactiveSlot (serviceWant before slots fd) now ∧
        now.fairNodeConfig slots.inactiveSlot = mid.fairNodeConfig slots.inactiveSlot ∧
        now.gblMeta slots.inactiveSlot = before.gblMeta slots.activeSlot)
      (carryForwardFeed slots) now := by
  have start := candidate.untouched
  refine (copy_placing .globalBlacklistBloom start away rfl placing holds).bind ?_
  rintro _ now ⟨placing, holds⟩
  refine (copy_placing .globalBlacklistLpm start away rfl placing holds).bind ?_
  rintro _ now ⟨placing, holds⟩
  refine (copy_placing .udpBlockedPortBitmap start away rfl placing holds).bind ?_
  rintro _ now ⟨placing, holds⟩
  have untouched := placing.untouched start
  refine ⟨untouched, Always.expect_bind untouched ?_, untouched⟩
  intro v (found : now.gblMeta slots.activeSlot = some v)
  refine always_gblMetaUpdate untouched ⟨untouched.setGblMeta v away, placing.inner, holds, ?_, ?_⟩
  · exact congrFun placing.fairNode _
  · rw [← untouched.gblMeta, found]
    exact if_pos rfl

/-- A service apply replaces the service part and carries the rest forward. -/
theorem applyNodeCfg_swapped (read : before.activeConfig = some active) (fuel : Nat) :
    Always configMachine (Untouched active.activeSlot before)
      (fun _ now => ∃ knobs, applyNodeKnobs env = some knobs ∧
        Swapped before (.ofActive active) ((slotConfiguration before active.activeSlot).withServices
          knobs node.services) now)
      (applyNodeCfg env fuel node) before := by
  refine (buildInactiveSlot_candidate read fuel).bind ?_
  rintro ⟨slots, capacity, sum⟩ now ⟨rfl, valid, knobs, fd, mid, known, candidate, placing, holds⟩
  have away : (Slots.ofActive active).inactiveSlot ≠ (Slots.ofActive active).activeSlot :=
    other_slot_ne valid
  refine (carryForwardFeed_holds away candidate placing holds).bind ?_
  rintro _ now ⟨untouched, inner, holds, fairNode, gblMeta⟩
  refine Always.andThen ((quiet_verifySlot node _).always untouched) fun _ => ?_
  refine (always_commit_swapped untouched ?_ (fairNode.trans candidate.fairNode) gblMeta).mono
    (fun _ => id) fun _ now swapped => ⟨knobs, known, swapped⟩
  intro o
  have held := holds o (by cases o <;> decide)
  by_cases service : o ∈ serviceOuters
  · right
    obtain ⟨t, found, rows⟩ := candidate.filled o service
    refine ⟨fd o, t, ?_, candidate.fresh o service, ?_, ?_⟩
    · rw [held, serviceWant, if_pos service]
    · rw [inner, found]
    · simp only [Configuration.withServices, if_pos service, Option.some.injEq]
      exact (funext rows).symm
  · left
    rw [held, serviceWant, if_neg service]
    exact ⟨rfl, if_neg service⟩

end ServiceApply

/-! ## A global deny snapshot -/

/-- The kinds a deny apply carries forward. -/
def carriedOuters : List Outer := serviceOuters ++ [.udpBlockedPortBitmap]

section DenyApply

variable {before : ConfigMaps} {active : ActiveConfig} {slots : Slots} {node : NodeCfg}

theorem carryForwardServiceConfig_holds (away : slots.inactiveSlot ≠ slots.activeSlot) :
    Spares slots.activeSlot before (fun _ now => Untouched slots.activeSlot before now ∧
        Holds carriedOuters slots.inactiveSlot (before.outer · slots.activeSlot) now ∧
        now.fairNodeConfig slots.inactiveSlot = before.fairNodeConfig slots.activeSlot)
      (carryForwardServiceConfig slots) before := by
  have here : Untouched slots.activeSlot before before := .refl _ _
  have copied : Spares slots.activeSlot before (fun _ now => Placing slots.activeSlot before now ∧
        Holds serviceOuters slots.inactiveSlot (before.outer · slots.activeSlot) now)
      (Prog.forEach (fun _ o => applyCopyOuterInner o slots.activeSlot slots.inactiveSlot)
        serviceOuters ()) before := by
    refine Always.forEach (fun done _ now => Placing slots.activeSlot before now ∧
      Holds done slots.inactiveSlot (before.outer · slots.activeSlot) now)
      serviceOuters ?_ () ⟨.refl _ _, by simp [Holds]⟩
    rintro done o _ _ _ now ⟨placing, holds⟩
    exact copy_placing o here away rfl placing holds
  refine copied.bind ?_
  rintro _ now ⟨placing, holds⟩
  refine (copy_placing .udpBlockedPortBitmap here away rfl placing holds).bind ?_
  rintro _ now ⟨placing, holds⟩
  have untouched := placing.untouched here
  refine ⟨untouched, Always.expect_bind untouched ?_, untouched⟩
  intro v (found : now.fairNodeConfig slots.activeSlot = some v)
  refine always_fairNodeUpdate untouched ⟨untouched.setFairNode v away, holds, ?_⟩
  rw [← untouched.fairNode, found]
  exact if_pos rfl

/-- Both fresh maps are asked for; the build goes on only when both are there. -/
theorem createDenyInners_bind {α : Type} {Post : α → ConfigMaps → Prop} {srcSlot : UInt32}
    {f : MapId → MapId → ConfigProg α} (start : Untouched slot before mid)
    (rest : ∀ bloomFd lpmFd now,
      Building mid denyOuters (denyFd bloomFd lpmFd) (fun _ _ => none) now →
      Spares slot before Post (f bloomFd lpmFd) now) :
    Spares slot before Post (do
      let bloomFd? ← (createInnerLike .globalBlacklistBloom srcSlot).attempt
      let lpmFd? ← (createInnerLike .globalBlacklistLpm srcSlot).attempt
      let bloomFd ← Prog.expect bloomFd?
      let lpmFd ← Prog.expect lpmFd?
      f bloomFd lpmFd) mid := by
  have bloom : Spares slot before (fun fd now => Building mid [.globalBlacklistBloom]
        (Function.update (fun _ => 0) .globalBlacklistBloom fd) (fun _ _ => none) now)
      (createInnerLike .globalBlacklistBloom srcSlot) mid :=
    always_createInnerLike start ((Building.refl mid _ _).create _)
  refine bloom.attempt.bind ?_
  rintro (_ | bloomFd) now created
  · -- without the bloom filter the other map is still created, and then the build gives up
    have lpm : Spares slot before (fun _ => Untouched slot before)
        (createInnerLike .globalBlacklistLpm srcSlot) now :=
      always_createInnerLike created ⟨created.toFrozen.addInner _ _, created.active⟩
    refine lpm.attempt.bind ?_
    rintro (_ | lpmFd) now untouched <;> exact untouched
  · have building : Building mid [.globalBlacklistBloom] _ _ now := created
    have lpm : Spares slot before
      (fun fd now => Building mid denyOuters (denyFd bloomFd fd) (fun _ _ => none) now)
        (createInnerLike .globalBlacklistLpm srcSlot) now :=
      always_createInnerLike (building.untouched start) (building.create _)
    refine lpm.attempt.bind ?_
    rintro (_ | lpmFd) now created
    · exact created
    · exact rest bloomFd lpmFd now created

/-- What a deny apply wants in the inactive slot. -/
def denyWant (before : ConfigMaps) (slots : Slots) (fd : Outer → MapId) (o : Outer) :
    Option MapId :=
  if o ∈ denyOuters then some (fd o) else before.outer o slots.activeSlot

theorem buildGlobalDenySlot_installed (away : slots.inactiveSlot ≠ slots.activeSlot)
    (start : Untouched slots.activeSlot before mid)
    (carried : Holds carriedOuters slots.inactiveSlot (before.outer · slots.activeSlot) mid) :
    Spares slots.activeSlot before (fun plan now => globalBloomPlan node = some plan ∧
        Untouched slots.activeSlot before now ∧
        now.fairNodeConfig = mid.fairNodeConfig ∧
        now.gblMeta slots.inactiveSlot = some ⟨plan.flags⟩ ∧
        ∃ fd, Holds (carriedOuters ++ denyOuters) slots.inactiveSlot
          (denyWant before slots fd) now ∧
          ∀ o ∈ denyOuters, (mid.inner o).length ≤ fd o ∧ ∃ t, (now.inner o)[fd o]? = some t ∧
            ∀ key, t.lookup key = denyRows plan.flags node.globalEntries o key)
      (buildGlobalDenySlot node slots) mid := by
  refine Always.require_bind start fun _ => ?_
  refine Always.expect_bind start fun plan planned => ?_
  refine createDenyInners_bind start fun bloomFd lpmFd now empty => ?_
  refine (writeGlobalEntries_building start plan.flags node.globalEntries empty).bind ?_
  intro _ written building
  have untouched := building.untouched start
  refine Always.andThen (always_gblMetaUpdate untouched rfl) fun _ => ?_
  have marked := untouched.setGblMeta ⟨plan.flags⟩ away
  have holds : Holds carriedOuters slots.inactiveSlot
      (denyWant before slots (denyFd bloomFd lpmFd)) (written.setGblMeta slots.inactiveSlot
        ⟨plan.flags⟩) := by
    intro o member
    have other : o ∉ denyOuters := by
      revert member
      cases o <;> decide
    rw [denyWant, if_neg other]
    exact (congrFun (congrFun building.outer o) _).trans (carried o member)
  refine (install_placing .globalBlacklistBloom bloomFd marked away rfl (.refl _ _) holds).bind ?_
  rintro _ now ⟨placing, holds⟩
  refine (install_placing .globalBlacklistLpm lpmFd marked away rfl placing holds).bind ?_
  rintro _ now ⟨placing, holds⟩
  refine ⟨planned, placing.untouched marked, placing.fairNode.trans building.fairNode, ?_,
    denyFd bloomFd lpmFd, ?_, ?_⟩
  · rw [placing.gblMeta]
    exact if_pos rfl
  · rwa [List.append_assoc] at holds
  · intro o member
    rw [placing.inner]
    exact ⟨building.fresh o member, building.filled o member⟩

/-- A deny apply replaces the global deny part and carries the rest forward. -/
theorem applyGlobalDenyCfg_swapped (read : before.activeConfig = some active) :
    Always configMachine (Untouched active.activeSlot before)
      (fun _ now => ∃ plan, globalBloomPlan node = some plan ∧
        Swapped before (.ofActive active) ((slotConfiguration before active.activeSlot).withDeny
          plan node.globalEntries) now)
      (applyGlobalDenyCfg node) before := by
  refine always_applyReadActive_bind read (.refl _ _) fun valid => ?_
  have away : (Slots.ofActive active).inactiveSlot ≠ (Slots.ofActive active).activeSlot :=
    other_slot_ne valid
  refine (carryForwardServiceConfig_holds away).bind ?_
  rintro _ mid ⟨start, carried, fairNode⟩
  refine (buildGlobalDenySlot_installed away start carried).bind ?_
  rintro plan now ⟨planned, untouched, sameFairNode, gblMeta, fd, holds, filled⟩
  refine Always.andThen ((quiet_verifyGlobalDenySlot node _ plan).always untouched) fun _ => ?_
  refine (always_commit_swapped untouched ?_ ((congrFun sameFairNode _).trans fairNode)
    gblMeta).mono (fun _ => id) fun _ now swapped => ⟨plan, planned, swapped⟩
  intro o
  have held := holds o (by cases o <;> decide)
  by_cases deny : o ∈ denyOuters
  · right
    obtain ⟨fresh, t, found, rows⟩ := filled o deny
    refine ⟨fd o, t, ?_, Nat.le_trans (start.grows o) fresh, found, ?_⟩
    · rw [held, denyWant, if_pos deny]
    · simp only [Configuration.withDeny, if_pos deny, Option.some.injEq]
      exact (funext rows).symm
  · left
    rw [held, denyWant, if_neg deny]
    exact ⟨rfl, if_neg deny⟩

end DenyApply

end ScrubbingGateway.Apply
