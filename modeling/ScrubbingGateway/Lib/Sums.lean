import Mathlib.Data.List.Nodup
import Mathlib.Data.UInt
import Mathlib.Logic.Function.Basic

/-!
# Sums of counters

Counters of 64 bits wrap around, so their sums do, too. A sum over distinct indices grows by what
one of its counters grows.
-/

namespace Sums

variable {α : Type} [DecidableEq α]

theorem sum_map_update {indices : List α} (distinct : indices.Nodup) (f : α → UInt64) (i : α)
    (amount : UInt64) :
    (indices.map (Function.update f i (f i + amount))).sum =
      (indices.map f).sum + if i ∈ indices then amount else 0 := by
  induction indices with
  | nil => simp
  | cons first rest ih =>
    obtain ⟨absent, distinct⟩ := List.nodup_cons.mp distinct
    rw [List.map_cons, List.sum_cons, ih distinct, List.map_cons, List.sum_cons]
    by_cases same : i = first
    · subst same
      simp only [Function.update_self, absent, List.mem_cons, true_or, if_true, if_false,
        UInt64.add_zero]
      rw [UInt64.add_assoc, UInt64.add_comm amount, ← UInt64.add_assoc]
    · have other : first ≠ i := Ne.symm same
      simp only [Function.update_of_ne other, List.mem_cons, same, false_or, UInt64.add_assoc]

end Sums
