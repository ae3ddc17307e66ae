import Mathlib.Data.List.Sort

/-!
# Order statistics of a list

The element of a rank is the one that fewer elements lie below than the rank says and at least that
many do not exceed. It is unique, so neither the order of the list nor the way it is found matters,
and it grows with the elements.
-/

namespace OrderStatistic

variable {α : Type} [LinearOrder α] {list list' : List α} {rank : Nat} {v v' : α}

/-- The element of a rank, counted from one. -/
structure HasRank (list : List α) (rank : Nat) (v : α) : Prop where
  below : list.countP (fun a => decide (a < v)) < rank
  upTo : rank ≤ list.countP (fun a => decide (a ≤ v))

/-- Raising elements does not lower the element of a rank. -/
theorem HasRank.mono (has : HasRank list rank v) (has' : HasRank list' rank v')
    (raised : List.Forall₂ (· ≤ ·) list list') : v ≤ v' := by
  by_contra lower
  have fewer : list'.countP (fun a => decide (a ≤ v')) ≤ list.countP (fun a => decide (a < v)) := by
    clear has has'
    induction raised with
    | nil => exact le_rfl
    | @cons a a' list list' le _ ih =>
      rw [List.countP_cons, List.countP_cons]
      refine Nat.add_le_add ih ?_
      by_cases small : a' ≤ v'
      · simp [small, lt_of_le_of_lt (le.trans small) (not_le.mp lower)]
      · simp [small]
  exact absurd has.below (Nat.not_lt.mpr (has'.upTo.trans fewer))

theorem HasRank.perm (has : HasRank list rank v) (same : list.Perm list') : HasRank list' rank v :=
  ⟨same.countP_eq _ ▸ has.below, same.countP_eq _ ▸ has.upTo⟩

theorem HasRank.unique (has : HasRank list rank v) (has' : HasRank list rank v') : v = v' :=
  le_antisymm (has.mono has' (List.forall₂_refl list)) (has'.mono has (List.forall₂_refl list))

/-- In a sorted list the element of a rank stands at its place. -/
theorem hasRank_getElem (ordered : list.Pairwise (· ≤ ·)) {i : Nat} (inside : i < list.length) :
    HasRank list (i + 1) list[i] := by
  induction list generalizing i with
  | nil => cases inside
  | cons a rest ih =>
    obtain ⟨least, ordered⟩ := List.pairwise_cons.mp ordered
    cases i with
    | zero =>
      have none : rest.countP (fun b => decide (b < a)) = 0 :=
        List.countP_eq_zero.mpr fun b member => by simpa using least b member
      exact ⟨by simp [none], by simp⟩
    | succ j =>
      have inRest : j < rest.length := Nat.lt_of_succ_lt_succ inside
      obtain ⟨below, upTo⟩ := ih ordered inRest
      have first : a ≤ rest[j] := least _ (List.getElem_mem _)
      constructor
      · rw [List.getElem_cons_succ, List.countP_cons]
        split <;> omega
      · rw [List.getElem_cons_succ, List.countP_cons_of_pos (by simpa using first)]
        omega

end OrderStatistic
