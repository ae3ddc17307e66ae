import Mathlib.Logic.Basic

/-!
# Deterministic labelled transition systems

A step may be disabled, which is how a blocked lock request or a refused operation is written.
The run rules below carry every safety argument of the development.
-/

namespace Transition

variable {State Label : Type}

/-- The state after a list of labels, or nothing when one of them is disabled. -/
def run (step : State → Label → Option State) : State → List Label → Option State
  | s, [] => some s
  | s, l :: ls => (step s l).bind fun next => run step next ls

variable {step : State → Label → Option State}

variable {ls : List Label} {s final : State} {l : Label}

theorem run_cons_some (ran : run step s (l :: ls) = some final) :
    ∃ next, step s l = some next ∧ run step next ls = some final := by
  simpa only [run, Option.bind_eq_some_iff] using ran

theorem run_append (s : State) (ls ms : List Label) :
    run step s (ls ++ ms) = (run step s ls).bind fun mid => run step mid ms := by
  induction ls generalizing s with
  | nil => rfl
  | cons l ls ih =>
    simp only [List.cons_append, run]
    cases step s l with
    | none => rfl
    | some next => exact ih next

variable {Inv : State → Prop}

theorem run_invariant (preserved : ∀ s l next, Inv s → step s l = some next → Inv next)
    (start : Inv s) (ran : run step s ls = some final) : Inv final := by
  induction ls generalizing s with
  | nil =>
    cases ran
    exact start
  | cons l ls ih =>
    obtain ⟨next, stepped, rest⟩ := run_cons_some ran
    exact ih (preserved s l next start stepped) rest

/-- Every transition that a list of labels takes meets a condition. -/
def RunAll (step : State → Label → Option State) (P : State → Label → State → Prop) :
    State → List Label → Prop
  | _, [] => True
  | s, l :: ls => ∀ next, step s l = some next → P s l next ∧ RunAll step P next ls

instance decidableRunAll {P : State → Label → State → Prop} [∀ s l next, Decidable (P s l next)] :
    (s : State) → (ls : List Label) → Decidable (RunAll step P s ls)
  | _, [] => .isTrue trivial
  | s, l :: ls =>
    match stepped : step s l with
    | none => .isTrue fun next reached => by rw [stepped] at reached; cases reached
    | some next =>
      have := decidableRunAll (P := P) next ls
      decidable_of_iff (P s l next ∧ RunAll step P next ls)
        ⟨fun here next' reached => by rw [stepped] at reached; cases reached; exact here,
          fun all => all next stepped⟩

variable {P : State → Label → State → Prop}

/-- An invariant of the transitions that meet a condition holds after a run of such transitions. -/
theorem run_invariant_of_runAll
    (preserved : ∀ s l next, Inv s → P s l next → step s l = some next → Inv next)
    {s final : State} (start : Inv s) (all : RunAll step P s ls)
    (ran : run step s ls = some final) : Inv final := by
  induction ls generalizing s with
  | nil =>
    cases ran
    exact start
  | cons l ls ih =>
    obtain ⟨next, stepped, rest⟩ := run_cons_some ran
    obtain ⟨here, later⟩ := all next stepped
    exact ih (preserved s l next start here stepped) later rest

/-- A condition on the labels alone. -/
theorem RunAll.of_forall {C : Label → Prop} (all : ∀ l ∈ ls, C l) (s : State) :
    RunAll step (fun _ l _ => C l) s ls := by
  induction ls generalizing s with
  | nil => trivial
  | cons l ls ih =>
    intro next _
    exact ⟨all l List.mem_cons_self, ih (fun l' member => all l' (List.mem_cons_of_mem l member)) next⟩

theorem RunAll.of_always (always : ∀ s l next, P s l next) (s : State) (ls : List Label) :
    RunAll step P s ls := by
  induction ls generalizing s with
  | nil => trivial
  | cons l ls ih =>
    intro next _
    exact ⟨always s l next, ih next⟩

variable {Q : State → Label → State → Prop}

/-- What transitions with a condition do from states that meet an invariant, those of a run do. -/
theorem RunAll.of_invariant
    (preserved : ∀ s l next, Inv s → P s l next → step s l = some next → Inv next)
    (good : ∀ s l next, Inv s → P s l next → Q s l next) (start : Inv s) (all : RunAll step P s ls) :
    RunAll step Q s ls := by
  induction ls generalizing s with
  | nil => trivial
  | cons l ls ih =>
    intro next stepped
    obtain ⟨here, later⟩ := all next stepped
    exact ⟨good s l next start here, ih (preserved s l next start here stepped) later⟩

theorem RunAll.append {ms : List Label} (first : RunAll step P s ls)
    (second : ∀ mid, run step s ls = some mid → RunAll step P mid ms) :
    RunAll step P s (ls ++ ms) := by
  induction ls generalizing s with
  | nil => exact second s rfl
  | cons l ls ih =>
    intro next stepped
    obtain ⟨here, later⟩ := first next stepped
    refine ⟨here, ih later fun mid ran => second mid ?_⟩
    rw [run, stepped]
    exact ran

theorem RunAll.suffix {mid : State} {ms : List Label} (all : RunAll step P s (ls ++ ms))
    (ran : run step s ls = some mid) : RunAll step P mid ms := by
  induction ls generalizing s with
  | nil =>
    cases ran
    exact all
  | cons l ls ih =>
    obtain ⟨next, stepped, rest⟩ := run_cons_some ran
    exact ih (all next stepped).2 rest

/-- A run of transitions that all meet a condition leads from one state to another. -/
def Reaches (step : State → Label → Option State) (P : State → Label → State → Prop)
    (s final : State) : Prop :=
  ∃ ls, run step s ls = some final ∧ RunAll step P s ls

namespace Reaches

variable {P : State → Label → State → Prop} {s mid final : State}

theorem refl (s : State) : Reaches step P s s := ⟨[], rfl, trivial⟩

theorem trans (first : Reaches step P s mid) (second : Reaches step P mid final) :
    Reaches step P s final := by
  obtain ⟨ls, ran, all⟩ := first
  obtain ⟨ms, ran', all'⟩ := second
  refine ⟨ls ++ ms, ?_, all.append fun mid' reached => ?_⟩
  · rw [run_append, ran]
    exact ran'
  · cases ran.symm.trans reached
    exact all'

theorem single (stepped : step s l = some mid) (here : P s l mid) : Reaches step P s mid := by
  refine ⟨[l], ?_, ?_⟩
  · rw [run, stepped]
    rfl
  · intro next reached
    cases stepped.symm.trans reached
    exact ⟨here, trivial⟩

/-- Induction over a number of rounds. -/
theorem iterate {Round : Nat → State → Prop} (n : Nat)
    (round : ∀ i s, i < n → Round i s → ∃ next, Reaches step P s next ∧ Round (i + 1) next)
    (start : Round 0 s) : ∃ final, Reaches step P s final ∧ Round n final := by
  induction n with
  | zero => exact ⟨s, refl s, start⟩
  | succ n ih =>
    obtain ⟨mid, reached, here⟩ := ih fun i s below => round i s (by omega)
    obtain ⟨final, onward, there⟩ := round n mid (by omega) here
    exact ⟨final, reached.trans onward, there⟩

end Reaches

/-- Two conditions agree along a run when they agree at states that meet an invariant, and the
second keeps the invariant. -/
theorem runAll_iff_of_invariant
    (agree : ∀ s l next, Inv s → step s l = some next → (P s l next ↔ Q s l next))
    (preserved : ∀ s l next, Inv s → step s l = some next → Q s l next → Inv next) (start : Inv s)
    (ls : List Label) : RunAll step P s ls ↔ RunAll step Q s ls := by
  induction ls generalizing s with
  | nil => rfl
  | cons l ls ih =>
    constructor
    · intro all next stepped
      have here := (agree s l next start stepped).mp (all next stepped).1
      exact ⟨here, (ih (preserved s l next start stepped here)).mp (all next stepped).2⟩
    · intro all next stepped
      have here := (all next stepped).1
      exact ⟨(agree s l next start stepped).mpr here,
        (ih (preserved s l next start stepped here)).mpr (all next stepped).2⟩

end Transition
