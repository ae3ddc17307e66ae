import ScrubbingGateway.Lib.OrderStatistic

/-!
# The billed percentile

A billing period is charged by the nearest-rank 95th percentile of its five-minute samples
(`billing_metrics.py`). The product `0.95 * n` is taken exactly, not in floating point.
-/

namespace ScrubbingGateway.Control

open OrderStatistic

/-- `math.ceil(0.95 * n)`, in exact numbers. -/
def p95Rank (n : Nat) : Nat := (95 * n + 99) / 100

def p95NearestRank (samples : List Int) : Int :=
  if samples = [] then 0
  else (samples.insertionSort (· ≤ ·))[p95Rank samples.length - 1]?.getD 0

variable {samples : List Int}

theorem p95NearestRank_spec (nonempty : samples ≠ []) :
    p95NearestRank samples ∈ samples ∧
      HasRank samples (p95Rank samples.length) (p95NearestRank samples) := by
  have some : 0 < samples.length := List.length_pos_of_ne_nil nonempty
  have same := List.perm_insertionSort (· ≤ ·) samples
  have inside : p95Rank samples.length - 1 < (samples.insertionSort (· ≤ ·)).length := by
    rw [same.length_eq, p95Rank]
    omega
  have positive : p95Rank samples.length - 1 + 1 = p95Rank samples.length := by
    rw [p95Rank]
    omega
  rw [p95NearestRank, if_neg nonempty, List.getElem?_eq_getElem inside,
    Option.getD_some]
  refine ⟨same.mem_iff.mp (List.getElem_mem inside), ?_⟩
  have has := hasRank_getElem (List.pairwise_insertionSort (· ≤ ·) samples) inside
  rw [positive] at has
  exact has.perm same

/-- The percentile is a sample that at least 95 percent do not exceed and fewer than 95 percent lie
below. So it does not depend on their order, and raising one never lowers it. -/
theorem p95_nearestRank (samples : List Int) (nonempty : samples ≠ []) :
    (p95NearestRank samples ∈ samples ∧
      95 * samples.length ≤
        100 * samples.countP (fun a => decide (a ≤ p95NearestRank samples)) ∧
      100 * samples.countP (fun a => decide (a < p95NearestRank samples)) <
        95 * samples.length) ∧
    (∀ other, other.Perm samples → p95NearestRank other = p95NearestRank samples) ∧
    ∀ i raised, (∀ old ∈ samples[i]?, old ≤ raised) →
      p95NearestRank samples ≤ p95NearestRank (samples.set i raised) := by
  obtain ⟨member, has⟩ := p95NearestRank_spec nonempty
  refine ⟨⟨member, ?_, ?_⟩, fun other same => ?_, fun i raised higher => ?_⟩
  · have upTo := has.upTo
    rw [p95Rank] at upTo
    omega
  · have below := has.below
    rw [p95Rank] at below
    omega
  · have others : other ≠ [] := fun none => nonempty (List.perm_nil.mp (none ▸ same).symm)
    have has' := (p95NearestRank_spec others).2.perm same
    rw [same.length_eq] at has'
    exact has'.unique has
  · have others : samples.set i raised ≠ [] := by simpa using nonempty
    have has' := (p95NearestRank_spec others).2
    rw [List.length_set] at has'
    refine has.mono has' (List.forall₂_iff_get.mpr ⟨List.length_set.symm, fun j inside _ => ?_⟩)
    rw [List.get_eq_getElem, List.get_eq_getElem, List.getElem_set]
    split
    next here =>
      subst here
      exact higher _ (List.getElem?_eq_getElem inside)
    · exact le_rfl

/-- Of the samples 10, 20 and 30 it is the last one. -/
theorem p95_nearestRank_three : p95NearestRank [30, 10, 20] = 30 ∧
    p95NearestRank [10, 20, 30] = p95NearestRank [30, 10, 20] :=
  ⟨by decide +kernel, (p95_nearestRank [30, 10, 20] (by decide)).2.1 _ (by decide)⟩

end ScrubbingGateway.Control
