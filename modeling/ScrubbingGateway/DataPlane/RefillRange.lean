import ScrubbingGateway.DataPlane.BucketBound

/-!
# The range of the refill

From which rate on the product of time and rate leaves its 64 bits, and which rates earn a token.
-/

namespace ScrubbingGateway.DataPlane

/-! ## Products in range -/

/-- The multiplications that `rl_refill_dim` makes. -/
def refillProducts (tokens rate burst elapsed : UInt64) (ncpus : UInt32) : List WordOp :=
  let denom := nsecPerSec * ncpus.toUInt64
  .mul nsecPerSec ncpus.toUInt64 ::
    if rate = 0 ∨ tokens ≥ burst then []
    else
      let earned := elapsed * rate / denom
      .mul elapsed rate ::
        if earned = 0 then []
        else [.mul (if earned > burst - tokens then burst - tokens else earned) denom]

/-- The refill of a dimension does what it would do without a bound on the numbers. -/
structure RefillExact (tokens rate elapsed : UInt64) (ncpus : UInt32) : Prop where
  products : ∀ op ∈ refillProducts tokens rate (rlBurst rate ncpus false) elapsed ncpus, op.Exact
  granted : (rlRefillDim tokens rate (rlBurst rate ncpus false) elapsed ncpus).1.toNat =
    tokens.toNat + min (elapsed.toNat * rate.toNat / refillPeriod ncpus)
      ((rlBurst rate ncpus false).toNat - tokens.toNat)

variable {rate elapsed : UInt64}

theorem refillProducts_exact (small : (WordOp.mul elapsed rate).Exact) (tokens burst : UInt64)
    (ncpus : UInt32) : ∀ op ∈ refillProducts tokens rate burst elapsed ncpus, op.Exact := by
  have denom : (WordOp.mul nsecPerSec ncpus.toUInt64).Exact := by
    have := ncpus.toNat_lt
    simp only [WordOp.Exact, UInt32.toNat_toUInt64, show nsecPerSec.toNat = 1000000000 from rfl]
    omega
  unfold refillProducts
  simp only [List.forall_mem_cons]
  refine ⟨denom, ?_⟩
  split
  · exact List.forall_mem_nil _
  next opened =>
    rw [List.forall_mem_cons]
    refine ⟨small, ?_⟩
    split
    · exact List.forall_mem_nil _
    · -- the grant times the denominator is at most the product it was divided from
      simp only [List.forall_mem_singleton, WordOp.Exact, toNat_grant _ _ _ (not_or.mp opened).2,
        denom_toNat]
      exact grantedTokens_mul_lt _ _ _ _ _

theorem refillExact_of_small (small : (WordOp.mul elapsed rate).Exact) (tokens : UInt64)
    (ncpus : UInt32) : RefillExact tokens rate elapsed ncpus := by
  constructor
  · exact refillProducts_exact small _ _ _
  · rw [(rlRefillDim_spec _ _ _ _ _).1, grantedTokens, earnedTokens, Nat.mod_eq_of_lt small]

/-- A second at the rate does not leave 64 bits. -/
def RateInRange (rate : UInt64) : Prop := rate.toNat * 1000000000 < 2 ^ 64

instance (rate : UInt64) : Decidable (RateInRange rate) := inferInstanceAs (Decidable (_ < _))

theorem RateInRange.exact_ (inRange : RateInRange rate) (capped : elapsed ≤ nsecPerSec) :
    (WordOp.mul elapsed rate).Exact := by
  have within : elapsed.toNat ≤ 1000000000 := UInt64.le_iff_toNat_le.mp capped
  calc elapsed.toNat * rate.toNat
      ≤ 1000000000 * rate.toNat := Nat.mul_le_mul_right _ within
    _ = rate.toNat * 1000000000 := Nat.mul_comm _ _
    _ < 2 ^ 64 := inRange

theorem rlBurst_pos (positive : rate ≠ 0) (ncpus : UInt32) :
    0 < (rlBurst rate ncpus false).toNat := by
  rw [rlBurst_toNat positive]
  exact Nat.lt_of_lt_of_le Nat.one_pos (Nat.le_max_left _ _)

/-- The rates at which no refill leaves its range. -/
theorem refillExact_iff_rateInRange (rate : UInt64) :
    (∀ tokens elapsed ncpus, elapsed ≤ nsecPerSec → RefillExact tokens rate elapsed ncpus) ↔
      RateInRange rate := by
  constructor
  · intro exact_
    by_cases zero : rate = 0
    · rw [zero]
      decide
    · -- an empty bucket after a second on a single CPU
      have made := (exact_ 0 nsecPerSec 1 (UInt64.le_refl _)).products
      have opened : ¬ (rate = 0 ∨ (0 : UInt64) ≥ rlBurst rate 1 false) := by
        rintro (none | full)
        · exact zero none
        · have := rlBurst_pos zero 1
          exact absurd (UInt64.le_iff_toNat_le.mp full) (Nat.not_le.mpr this)
      rw [refillProducts, if_neg opened] at made
      have product := made (.mul nsecPerSec rate) (by simp)
      rw [RateInRange, Nat.mul_comm]
      exact product
  · exact fun inRange tokens elapsed ncpus capped =>
      refillExact_of_small (inRange.exact_ capped) tokens ncpus

/-! ## Small quotas -/

/-- An empty bucket earns a token in a time. The time that counts is at most a second, so a rate
below the number of CPUs never earns one; the product of a rate out of range wraps around. -/
def EarnsToken (rate : UInt64) (ncpus : UInt32) (gap : Nat) : Prop :=
  if RateInRange rate then ncpus.toNat ≤ rate.toNat
  else refillPeriod ncpus ≤ min gap 1000000000 * rate.toNat % 2 ^ 64

instance (rate : UInt64) (ncpus : UInt32) (gap : Nat) : Decidable (EarnsToken rate ncpus gap) :=
  inferInstanceAs (Decidable (if RateInRange rate then _ else _))

variable {bucket : RlBucket} {now : UInt64}

theorem capped_elapsed (bucket : RlBucket) (now : UInt64) :
    Limiter.elapsed bucket now ≤ nsecPerSec := by
  rw [UInt64.le_iff_toNat_le, Limiter.elapsed, UInt64.toNat_clip]
  exact Nat.min_le_left _ _

theorem refill_tokens_toNat {l : Limiter} {d : Dim} (counted : l.counts d = true) (ncpus : UInt32)
    (later : ¬ now ≤ bucket.lastNs) :
    ((l.refill bucket now ncpus).tokens d).toNat = (bucket.tokens d).toNat +
      grantedTokens (bucket.tokens d) (l.rate d) (rlBurst (l.rate d) ncpus false)
        (Limiter.elapsed bucket now) ncpus := by
  have stepped := refill_tokens (a := ⟨now, 0⟩) l d ncpus later
  rw [stepped, dimStep, Limiter.refillDim, counted, if_pos rfl]
  exact (rlRefillDim_spec _ _ _ _ _).1

theorem earnsToken_iff {ncpus : UInt32} {gap : Nat}
    (due : 2 * refillPeriod ncpus ≤ gap * rate.toNat) :
    refillPeriod ncpus ≤ min gap 1000000000 * rate.toNat % 2 ^ 64 ↔ EarnsToken rate ncpus gap := by
  unfold EarnsToken
  split
  next inRange =>
    have within : min gap 1000000000 * rate.toNat < 2 ^ 64 := by
      refine Nat.lt_of_le_of_lt (Nat.mul_le_mul_right _ (Nat.min_le_right _ _)) ?_
      rw [Nat.mul_comm]
      exact inRange
    rw [refillPeriod] at due
    -- the time that is due covers the gap, so only the cap of a second can fall short
    rw [Nat.mod_eq_of_lt within, ← Nat.mul_min_mul_right, le_min_iff, refillPeriod]
    constructor
    · rintro ⟨_, enough⟩
      exact Nat.le_of_mul_le_mul_left enough (by decide)
    · exact fun enough => ⟨by omega, Nat.mul_le_mul_left _ enough⟩
  · exact Iff.rfl

/-- An empty bucket whose stamp lies twice the time of a token back has a token after its refill
exactly when the rate earns one within a second. -/
theorem empty_refill_token_iff (l : Limiter) (d : Dim) (ncpus : UInt32) (bucket : RlBucket)
    (now : UInt64) (counted : l.counts d = true) (rate_pos : 1 ≤ l.rate d) (cpus : 1 ≤ ncpus)
    (empty : bucket.tokens d = 0)
    (due : 2 * refillPeriod ncpus ≤ (now.toNat - bucket.lastNs.toNat) * (l.rate d).toNat) :
    1 ≤ (l.refill bucket now ncpus).tokens d ↔
      EarnsToken (l.rate d) ncpus (now.toNat - bucket.lastNs.toNat) := by
  have cpus_pos : 1 ≤ ncpus.toNat := UInt32.le_iff_toNat_le.mp cpus
  have period_pos : 0 < refillPeriod ncpus := Nat.mul_pos (by decide) cpus_pos
  have later : bucket.lastNs < now := by
    rw [UInt64.lt_iff_toNat_lt]
    refine Nat.lt_of_sub_ne_zero fun zero => ?_
    rw [zero, Nat.zero_mul] at due
    omega
  have rate_ne : l.rate d ≠ 0 := by
    intro zero
    rw [zero] at rate_pos
    exact absurd rate_pos (by decide)
  have room := rlBurst_pos rate_ne ncpus
  rw [UInt64.le_iff_toNat_le, refill_tokens_toNat counted ncpus (UInt64.not_le.mpr later), empty,
    ← earnsToken_iff due, ← toNat_elapsed (UInt64.le_of_lt later)]
  -- a token is granted exactly when one is earned
  rw [← Nat.one_le_div_iff period_pos]
  change 1 ≤ (0 : UInt64).toNat + min (earnedTokens _ _ _) _ ↔ 1 ≤ earnedTokens _ _ _
  simp only [UInt64.toNat_zero]
  omega

/-- One packet a second on one CPU. -/
theorem onePacketASecond_token : 1 ≤ (onePacketASecond.refill ⟨1, 0, 0, 0⟩ 2000000000 1).ppsTokens :=
  (empty_refill_token_iff onePacketASecond .packets 1 ⟨1, 0, 0, 0⟩ 2000000000 rfl (by decide)
    (by decide) rfl (by decide)).mpr (by decide)

/-- One packet a second on two CPUs: after an hour an empty bucket is still empty. -/
theorem onePacketASecond_starved :
    onePacketASecond.counts .packets = true ∧ 1 ≤ onePacketASecond.rate .packets ∧
      2 * refillPeriod 2 ≤ 3600000000000 * (onePacketASecond.rate .packets).toNat ∧
      ¬ 1 ≤ (onePacketASecond.refill ⟨1, 0, 0, 0⟩ 3600000000000 2).tokens .packets := by
  decide

end ScrubbingGateway.DataPlane
