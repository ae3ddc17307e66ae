import Mathlib.Data.List.Forall2

/-!
# Functions that may raise

How a computation in `Except` comes to a result, statement by statement.
-/

namespace Raise

variable {ε α β : Type} {f : α → Except ε β} {x : Except ε α} {r : β}

/-- Peels one statement off a function that may raise. -/
theorem bind_eq_ok : (x >>= f) = .ok r ↔ ∃ a, x = .ok a ∧ f a = .ok r := by
  cases x with
  | error | ok => simp [bind, Except.bind]

/-- A check that raises was passed. -/
theorem ite_error_eq_ok {c : Prop} [Decidable c] {e : ε} {a : α} :
    (if c then .error e else x) = .ok a ↔ ¬ c ∧ x = .ok a := by
  split <;> simp [*]

/-- A check that is made on a condition only. -/
theorem when_eq_ok {c : Prop} [Decidable c] {x : Except ε Unit} {y : Unit → Except ε α} {a : α} :
    (if c then x >>= y else y ()) = .ok a ↔ (c → x = .ok ()) ∧ y () = .ok a := by
  split <;> simp [*, bind_eq_ok, Unique.exists_iff]

theorem map_eq_ok {f : α → β} : x.map f = .ok r ↔ ∃ a, x = .ok a ∧ f a = r := by
  cases x with
  | error | ok => simp [Except.map]

theorem toOption_eq_some {ε α : Type} {x : Except ε α} {a : α} :
    x.toOption = some a ↔ x = .ok a := by
  cases x <;> simp [Except.toOption]

variable {results : List β} {list : List α}

/-- A list of results is the list of the results. -/
theorem mapM_eq_ok :
    list.mapM f = .ok results ↔ List.Forall₂ (fun a b => f a = .ok b) list results := by
  induction list generalizing results with
  | nil => simp [pure, Except.pure, eq_comm]
  | cons a rest ih =>
    simp only [List.mapM_cons, bind_eq_ok, ih, List.forall₂_cons_left_iff, pure, Except.pure,
      Except.ok.injEq, eq_comm (b := results), exists_and_left]

theorem mapM_eq_ok_map {g : α → β} :
    list.mapM f = .ok (list.map g) ↔ ∀ a ∈ list, f a = .ok (g a) := by
  rw [mapM_eq_ok, List.forall₂_map_right_iff, List.forall₂_same]

/-- With the elements found so far, the last one first. -/
theorem filterAuxM_eq_ok {f : α → Except ε Bool} {keep : α → Bool}
    (answers : ∀ a ∈ list, f a = .ok (keep a)) (found : List α) :
    list.filterAuxM f found = .ok ((list.filter keep).reverse ++ found) := by
  induction list generalizing found with
  | nil => rfl
  | cons a rest ih =>
    obtain ⟨first, answers⟩ := List.forall_mem_cons.mp answers
    cases kept : keep a <;> simp [List.filterAuxM, first, kept, bind, Except.bind, ih answers]

theorem filterM_eq_ok {f : α → Except ε Bool} {keep : α → Bool}
    (answers : ∀ a ∈ list, f a = .ok (keep a)) : list.filterM f = .ok (list.filter keep) := by
  rw [List.filterM, filterAuxM_eq_ok answers, List.append_nil]
  exact congrArg Except.ok (List.reverse_reverse _)

theorem exists_of_forall₂ {R : α → β → Prop} (all : List.Forall₂ R list results) {b : β}
    (member : b ∈ results) : ∃ a ∈ list, R a b := by
  induction all with
  | nil => cases member
  | @cons a b' rest rest' first _ ih =>
    rcases List.mem_cons.mp member with rfl | later
    · exact ⟨a, List.mem_cons_self, first⟩
    · obtain ⟨a', member', related⟩ := ih later
      exact ⟨a', List.mem_cons_of_mem _ member', related⟩

/-- Every element of a list that gives results gives one. -/
theorem ok_of_mapM (all : list.mapM f = .ok results) {a : α} (member : a ∈ list) :
    ∃ b, f a = .ok b := by
  obtain ⟨b, _, given⟩ := exists_of_forall₂ (mapM_eq_ok.mp all).flip member
  exact ⟨b, given⟩

theorem mapM_bind {γ : Type} {g : β → Except ε γ}
    (all : List.Forall₂ (fun a b => f a = .ok b) list results) :
    list.mapM (fun a => f a >>= g) = results.mapM g := by
  induction all with
  | nil => rw [List.mapM_nil, List.mapM_nil]
  | cons first _ ih =>
    rw [List.mapM_cons, List.mapM_cons, first, ih]
    rfl

end Raise
