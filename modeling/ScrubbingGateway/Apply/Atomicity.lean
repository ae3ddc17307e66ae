import ScrubbingGateway.Apply.Swap

/-!
# Histories of applies

Applies run one at a time under the lock. Each is given the fate of every call it makes; one whose
fates run out has been stopped there. What the active slot holds is always what the committed
snapshots say.
-/

namespace ScrubbingGateway.Apply

open DataPlane Prog

/-- One run of the helper: its environment, its snapshot, and which of its calls work. -/
structure ApplyRun where
  env : Env
  fuel : Nat
  node : NodeCfg
  fates : List Fate

namespace ApplyRun

/-- How far a run has come. -/
def reached (run : ApplyRun) (k : ConfigMaps) :
    Running ConfigMaps ConfigCall ConfigCall.Answer Unit :=
  steps configMachine ⟨applySnapshot run.env run.fuel run.node, k⟩ run.fates

def after (k : ConfigMaps) (run : ApplyRun) : ConfigMaps := (run.reached k).state

/-- The helper exits with success. -/
def committed (run : ApplyRun) (k : ConfigMaps) : Bool :=
  match (run.reached k).prog with
  | .ret _ => true
  | _ => false

/-- The configuration a run makes of the one it finds. -/
def publishes (run : ApplyRun) (c : Configuration) : Option Configuration :=
  if run.node.snapshotKind = kindServiceFull then
    (applyNodeKnobs run.env).map fun knobs => c.withServices knobs run.node.services
  else if run.node.snapshotKind = kindGlobalDeny then
    (globalBloomPlan run.node).map fun plan => c.withDeny plan run.node.globalEntries
  else none

end ApplyRun

def afterRuns (k : ConfigMaps) (runs : List ApplyRun) : ConfigMaps := runs.foldl ApplyRun.after k

/-- The runs of a history that committed, in order. -/
def commits : ConfigMaps → List ApplyRun → List ApplyRun
  | _, [] => []
  | k, run :: rest =>
    if run.committed k then run :: commits (run.after k) rest else commits (run.after k) rest

/-! ## The two parts of a configuration -/

namespace Configuration

def servicePart (c : Configuration) : Configuration where
  rows o := if o ∈ serviceOuters then c.rows o else none
  fairNode := c.fairNode
  gblMeta := none

def denyPart (c : Configuration) : Configuration where
  rows o := if o ∈ denyOuters then c.rows o else none
  fairNode := none
  gblMeta := c.gblMeta

/-- The service part a service snapshot stands for. -/
def ofServices (knobs : Knobs) (services : List CfgService) : Configuration where
  rows o := if o ∈ serviceOuters then some (serviceRows knobs services o) else none
  fairNode := some (fairNodeConfigOf knobs.capacity (committedSum knobs services))
  gblMeta := none

/-- The deny part a deny snapshot stands for. -/
def ofDeny (plan : BloomPlan) (entries : List CfgSource) : Configuration where
  rows o := if o ∈ denyOuters then some (denyRows plan.flags entries o) else none
  fairNode := none
  gblMeta := some ⟨plan.flags⟩

@[simp] theorem withServices_servicePart (knobs : Knobs) (services : List CfgService)
    (c : Configuration) :
    (c.withServices knobs services).servicePart = ofServices knobs services := by
  refine Configuration.ext (funext fun o => ?_) rfl rfl
  by_cases service : o ∈ serviceOuters <;> simp [servicePart, withServices, ofServices, service]

@[simp] theorem withServices_denyPart (knobs : Knobs) (services : List CfgService)
    (c : Configuration) : (c.withServices knobs services).denyPart = c.denyPart := by
  refine Configuration.ext (funext fun o => ?_) rfl rfl
  cases o <;> rfl

@[simp] theorem withDeny_denyPart (plan : BloomPlan) (entries : List CfgSource)
    (c : Configuration) : (c.withDeny plan entries).denyPart = ofDeny plan entries := by
  refine Configuration.ext (funext fun o => ?_) rfl rfl
  by_cases deny : o ∈ denyOuters <;> simp [denyPart, withDeny, ofDeny, deny]

@[simp] theorem withDeny_servicePart (plan : BloomPlan) (entries : List CfgSource)
    (c : Configuration) : (c.withDeny plan entries).servicePart = c.servicePart := by
  refine Configuration.ext (funext fun o => ?_) rfl rfl
  cases o <;> rfl

end Configuration

namespace ApplyRun

def servicePart? (run : ApplyRun) : Option Configuration :=
  if run.node.snapshotKind = kindServiceFull then
    (applyNodeKnobs run.env).map fun knobs => .ofServices knobs run.node.services
  else none

def denyPart? (run : ApplyRun) : Option Configuration :=
  if run.node.snapshotKind = kindGlobalDeny then
    (globalBloomPlan run.node).map fun plan => .ofDeny plan run.node.globalEntries
  else none

end ApplyRun

/-- An inner map is reachable through the active slot. -/
def Published (k : ConfigMaps) (o : Outer) (id : MapId) : Prop :=
  ∃ active, k.activeConfig = some active ∧ k.outer o active.activeSlot = some id

/-! ## One run -/

section OneRun

variable {k : ConfigMaps} {active : ActiveConfig}

theorem applySnapshot_swapped (run : ApplyRun) (read : k.activeConfig = some active) :
    Always configMachine (Untouched active.activeSlot k)
      (fun _ now => ∃ c, run.publishes (slotConfiguration k active.activeSlot) = some c ∧
        Swapped k (.ofActive active) c now)
      (applySnapshot run.env run.fuel run.node) k := by
  unfold applySnapshot
  split
  next service =>
    refine (applyNodeCfg_swapped read run.fuel).mono (fun _ => id) ?_
    rintro _ now ⟨knobs, known, swapped⟩
    exact ⟨_, by rw [ApplyRun.publishes, if_pos service, known, Option.map_some], swapped⟩
  next notService =>
    split
    next deny =>
      refine (applyGlobalDenyCfg_swapped read).mono (fun _ => id) ?_
      rintro _ now ⟨plan, planned, swapped⟩
      refine ⟨_, ?_, swapped⟩
      rw [ApplyRun.publishes, if_neg notService, if_pos deny, planned, Option.map_some]
    · exact Untouched.refl _ _

theorem after_untouched (run : ApplyRun) (read : k.activeConfig = some active)
    (notCommitted : run.committed k = false) : Untouched active.activeSlot k (run.after k) := by
  refine ((applySnapshot_swapped run read).steps run.fates).inv ?_
  intro a returned
  have reached : (run.reached k).prog = .ret a := returned
  simp only [ApplyRun.committed, reached] at notCommitted
  cases notCommitted

theorem after_swapped (run : ApplyRun) (read : k.activeConfig = some active)
    (committed : run.committed k = true) :
    ∃ c, run.publishes (slotConfiguration k active.activeSlot) = some c ∧
      Swapped k (.ofActive active) c (run.after k) := by
  have always : Always _ _ _ (run.reached k).prog (run.reached k).state :=
    (applySnapshot_swapped run read).steps run.fates
  unfold ApplyRun.committed at committed
  unfold ApplyRun.after
  split at committed
  next a returned =>
    rw [returned] at always
    exact always
  · cases committed

theorem activeConfiguration_of_active (read : k.activeConfig = some active) :
    activeConfiguration k = some (slotConfiguration k active.activeSlot) := by
  rw [activeConfiguration, read, Option.map_some]

theorem Frozen.slotConfiguration {slot : UInt32} {before now : ConfigMaps}
    (frozen : Frozen slot before now) :
    slotConfiguration now slot = slotConfiguration before slot := by
  refine Configuration.ext (funext fun o => ?_) frozen.fairNode frozen.gblMeta
  show slotRows now slot o = slotRows before slot o
  unfold slotRows
  rw [frozen.outer o]
  cases found : before.outer o slot with
  | none => rfl
  | some id =>
    rw [Option.bind_some, Option.bind_some, frozen.inner o id (before.outer_live _ _ _ found)]

/-- What one run does to the active configuration and its version. -/
theorem after_active (run : ApplyRun) (read : k.activeConfig = some active) :
    ∃ active', (run.after k).activeConfig = some active' ∧
      if run.committed k then
        active'.version = active.version + 1 ∧
          run.publishes (slotConfiguration k active.activeSlot) =
            some (slotConfiguration (run.after k) active'.activeSlot)
      else active' = active ∧
        slotConfiguration (run.after k) active'.activeSlot =
          slotConfiguration k active.activeSlot := by
  cases done : run.committed k with
  | true =>
    obtain ⟨c, published, swapped⟩ := after_swapped run read done
    exact ⟨_, swapped.active, rfl, published.trans (congrArg some swapped.configuration.symm)⟩
  | false =>
    have untouched := after_untouched run read done
    exact ⟨active, untouched.active.trans read, rfl, untouched.toFrozen.slotConfiguration⟩

/-- A map that exists and is not published is not published by a run, and goes on existing. -/
theorem after_not_published (run : ApplyRun) (read : k.activeConfig = some active) {o : Outer}
    {id : MapId} (old : id < (k.inner o).length) (hidden : ¬ Published k o id) :
    id < ((run.after k).inner o).length ∧ ¬ Published (run.after k) o id := by
  cases done : run.committed k with
  | true =>
    obtain ⟨c, -, swapped⟩ := after_swapped run read done
    refine ⟨Nat.lt_of_lt_of_le old (swapped.frozen.grows o), ?_⟩
    rintro ⟨active', read', found⟩
    cases read'.symm.trans swapped.active
    rcases swapped.origin o id found with carried | fresh
    · exact hidden ⟨active, read, carried⟩
    · exact Nat.not_lt.mpr fresh old
  | false =>
    have untouched := after_untouched run read done
    refine ⟨Nat.lt_of_lt_of_le old (untouched.grows o), ?_⟩
    rintro ⟨active', read', found⟩
    cases (read'.symm.trans untouched.active).trans read
    exact hidden ⟨active, read, (untouched.outer o).symm.trans found⟩

end OneRun

/-! ## Whole histories -/

section Histories

variable {active : ActiveConfig} {k : ConfigMaps}

/-- A part of the configuration is what the last committed run that carries it says. -/
theorem part_afterRuns (part : Configuration → Configuration)
    (part? : ApplyRun → Option Configuration)
    (replaces : ∀ (run : ApplyRun) (c c' : Configuration), run.publishes c = some c' →
      part c' = (part? run).getD (part c)) (runs : List ApplyRun)
    (read : k.activeConfig = some active) :
    (activeConfiguration (afterRuns k runs)).map part =
      ((commits k runs).reverse.findSome? part?).or ((activeConfiguration k).map part) := by
  induction runs generalizing k active with
  | nil => rfl
  | cons run rest ih =>
    obtain ⟨active', read', step⟩ := after_active run read
    have tail := ih read'
    rw [activeConfiguration_of_active read', Option.map_some] at tail
    rw [activeConfiguration_of_active read, Option.map_some]
    show (activeConfiguration (afterRuns (run.after k) rest)).map part = _
    rw [tail, commits]
    cases done : run.committed k with
    | true =>
      simp only [done, if_true] at step ⊢
      rw [replaces run _ _ step.2, List.reverse_cons, List.findSome?_append, Option.or_assoc]
      cases here : part? run <;> simp [here]
    | false =>
      simp only [done, Bool.false_eq_true, if_false] at step ⊢
      rw [step.2]

theorem version_afterRuns (runs : List ApplyRun) (read : k.activeConfig = some active) :
    ∃ active', (afterRuns k runs).activeConfig = some active' ∧
      active'.version = active.version + UInt32.ofNat (commits k runs).length := by
  induction runs generalizing k active with
  | nil => exact ⟨active, read, by simp [commits]⟩
  | cons run rest ih =>
    obtain ⟨active', read', step⟩ := after_active run read
    obtain ⟨last, found, version⟩ := ih read'
    refine ⟨last, found, ?_⟩
    rw [version, commits]
    cases done : run.committed k with
    | true =>
      simp only [done, if_true] at step ⊢
      rw [step.1, List.length_cons, UInt32.ofNat_add, UInt32.add_assoc, UInt32.add_comm 1]
      rfl
    | false =>
      simp only [done, Bool.false_eq_true, if_false] at step ⊢
      rw [step.1]

theorem afterRuns_not_published (runs : List ApplyRun) (read : k.activeConfig = some active)
    {o : Outer} {id : MapId} (old : id < (k.inner o).length) (hidden : ¬ Published k o id) :
    ¬ Published (afterRuns k runs) o id := by
  induction runs generalizing k active with
  | nil => exact hidden
  | cons run rest ih =>
    obtain ⟨active', read', -⟩ := after_active run read
    obtain ⟨old', hidden'⟩ := after_not_published run read old hidden
    exact ih read' old' hidden'

theorem servicePart_replaced (run : ApplyRun) (c c' : Configuration)
    (published : run.publishes c = some c') :
    c'.servicePart = run.servicePart?.getD c.servicePart := by
  unfold ApplyRun.publishes at published
  unfold ApplyRun.servicePart?
  split at published
  next service =>
    obtain ⟨knobs, known, rfl⟩ := Option.map_eq_some_iff.mp published
    rw [if_pos service, known]
    exact Configuration.withServices_servicePart ..
  next notService =>
    split at published
    · obtain ⟨plan, -, rfl⟩ := Option.map_eq_some_iff.mp published
      rw [if_neg notService]
      exact Configuration.withDeny_servicePart ..
    · cases published

theorem denyPart_replaced (run : ApplyRun) (c c' : Configuration)
    (published : run.publishes c = some c') :
    c'.denyPart = run.denyPart?.getD c.denyPart := by
  unfold ApplyRun.publishes at published
  unfold ApplyRun.denyPart?
  split at published
  next service =>
    obtain ⟨knobs, -, rfl⟩ := Option.map_eq_some_iff.mp published
    rw [if_neg (by rw [service]; decide)]
    exact Configuration.withServices_denyPart ..
  · split at published
    next deny =>
      obtain ⟨plan, planned, rfl⟩ := Option.map_eq_some_iff.mp published
      rw [if_pos deny, planned]
      exact Configuration.withDeny_denyPart ..
    · cases published

end Histories

/-- What makes a history of applies atomic, seen from the state it starts in. -/
structure AtomicHistory (k : ConfigMaps) (active : ActiveConfig) (runs : List ApplyRun) :
    Prop where
  /-- The service part is that of the last committed service snapshot, or the first one. -/
  servicePart : (activeConfiguration (afterRuns k runs)).map Configuration.servicePart =
    ((commits k runs).reverse.findSome? ApplyRun.servicePart?).or
      ((activeConfiguration k).map Configuration.servicePart)
  /-- The deny part is that of the last committed deny snapshot, or the first one. -/
  denyPart : (activeConfiguration (afterRuns k runs)).map Configuration.denyPart =
    ((commits k runs).reverse.findSome? ApplyRun.denyPart?).or
      ((activeConfiguration k).map Configuration.denyPart)
  /-- The version counts the commits. -/
  version : (afterRuns k runs).activeConfig.map ActiveConfig.version =
    some (active.version + UInt32.ofNat (commits k runs).length)
  /-- A further run leaves all that is reachable through the active slot alone until it commits. -/
  untouched : ∀ (run : ApplyRun) (now : ActiveConfig),
    (afterRuns k runs).activeConfig = some now → run.committed (afterRuns k runs) = false →
      Untouched now.activeSlot (afterRuns k runs) (run.after (afterRuns k runs))
  /-- What a run that does not commit has built is never published, whatever runs follow. -/
  unpublished : ∀ (run : ApplyRun) (later : List ApplyRun) (o : Outer) (id : MapId),
    run.committed (afterRuns k runs) = false →
      ((afterRuns k runs).inner o).length ≤ id →
        id < ((run.after (afterRuns k runs)).inner o).length →
          ¬ Published (afterRuns (run.after (afterRuns k runs)) later) o id

/-- Every history of applies is atomic, whichever of their calls fail and wherever they stop. -/
theorem applies_atomic (k : ConfigMaps) (active : ActiveConfig)
    (read : k.activeConfig = some active) (runs : List ApplyRun) :
    AtomicHistory k active runs := by
  obtain ⟨last, found, version⟩ := version_afterRuns runs read
  constructor
  · exact part_afterRuns _ _ servicePart_replaced runs read
  · exact part_afterRuns _ _ denyPart_replaced runs read
  · rw [found, Option.map_some, version]
  · intro run now read' notCommitted
    exact after_untouched run read' notCommitted
  · intro run later o id notCommitted new built
    have untouched := after_untouched run found notCommitted
    refine afterRuns_not_published later (untouched.active.trans found) built ?_
    -- what the active slot refers to existed before the run
    rintro ⟨active', read', published⟩
    cases (read'.symm.trans untouched.active).trans found
    rw [untouched.outer o] at published
    exact Nat.not_lt.mpr new ((afterRuns k runs).outer_live o _ id published)

def defaultEnv : Env := ⟨.unset, .unset, .unset⟩

/-- A service for a network, with one whitelisted address. -/
def networkService : CfgService where
  dstPrefixlen := 24
  dstAddr := 0xcb007100
  dpId := 7
  enabled := 1
  wlFlags := 1
  reserved0 := 0
  vipFlags := 1
  committedBps := 1000
  ceilingBps := 2000
  vipPps := 10
  vipBps := 0
  servicePps := 0
  serviceBps := 0
  svcRlFlags := 0
  rules := []
  wl := [⟨32, 0x08080808⟩]

/-- A service for one address of the network. -/
def hostService : CfgService :=
  { networkService with dstPrefixlen := 32, dstAddr := 0xcb007101, dpId := 8, wlFlags := 0, wl := [] }

def nestedNode : NodeCfg := ⟨schemaVersion, kindServiceFull, [networkService, hostService], 0, []⟩

/-- A deny snapshot with one address, all of whose calls work. -/
def denyOneRun : ApplyRun where
  env := defaultEnv
  fuel := 0
  node := ⟨schemaVersion, kindGlobalDeny, [], 1, [⟨32, 0x01020304⟩]⟩
  fates := List.replicate 80 .works

/-- A service snapshot without services that fails when its first map is installed. -/
def failedServiceRun : ApplyRun where
  env := defaultEnv
  fuel := 0
  node := ⟨schemaVersion, kindServiceFull, [], 0, []⟩
  fates := List.replicate 23 .works ++ [.faults]

theorem loaded_deny_then_failed_atomic :
    (commits loadedMaps [denyOneRun, failedServiceRun]).length = 1 ∧
      AtomicHistory loadedMaps ⟨0, 0⟩ [denyOneRun, failedServiceRun] :=
  ⟨by decide, applies_atomic loadedMaps ⟨0, 0⟩ rfl [denyOneRun, failedServiceRun]⟩

end ScrubbingGateway.Apply
