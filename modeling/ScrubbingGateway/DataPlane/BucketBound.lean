import ScrubbingGateway.DataPlane.Policy
import ScrubbingGateway.Lib.TokenBucket
import ScrubbingGateway.Lib.Transition
import ScrubbingGateway.Lib.WordOps

/-!
# What one bucket admits in a window

A bucket of the packet program, seen in one of its dimensions, is a token bucket whose refill keeps
its credit up to the rounding of the time stamp. It keeps the window bound as long as no packet
finds the stamp further back than the bucket needs to fill up: a refill that stops at the capacity
leaves the stamp behind, and the time it did not use is granted again to later packets.
-/

namespace ScrubbingGateway.DataPlane

open TokenBucket

/-! ## The refill of one dimension -/

/-- The nanoseconds it takes to earn the rate once. -/
def refillPeriod (ncpus : UInt32) : Nat := 1000000000 * ncpus.toNat

theorem denom_toNat (ncpus : UInt32) :
    (nsecPerSec * ncpus.toUInt64).toNat = refillPeriod ncpus := by
  have fits : 1000000000 * ncpus.toNat < 2 ^ 64 := by
    have := ncpus.toNat_lt
    omega
  rw [UInt64.toNat_mul, UInt32.toNat_toUInt64]
  exact Nat.mod_eq_of_lt fits

/-- The tokens earned in a time, from a product of 64 bits. -/
def earnedTokens (rate elapsed : UInt64) (ncpus : UInt32) : Nat :=
  elapsed.toNat * rate.toNat % 2 ^ 64 / refillPeriod ncpus

/-- The tokens granted are the earned ones, as far as there is room. -/
def grantedTokens (tokens rate burst elapsed : UInt64) (ncpus : UInt32) : Nat :=
  min (earnedTokens rate elapsed ncpus) (burst.toNat - tokens.toNat)

/-- How far the stamp moves for a grant. -/
def grantAdvance (grant rate elapsed period : Nat) : Nat :=
  if grant = 0 then 0 else min elapsed (max 1 (grant * period / rate))

section Dimension

variable {tokens rate burst elapsed : UInt64} {ncpus : UInt32}

theorem toNat_earned (rate elapsed : UInt64) (ncpus : UInt32) :
    (elapsed * rate / (nsecPerSec * ncpus.toUInt64)).toNat = earnedTokens rate elapsed ncpus := by
  rw [UInt64.toNat_div, UInt64.toNat_mul, denom_toNat, earnedTokens]

/-- A grant never costs more than the product it was computed from, so it can be multiplied back. -/
theorem grantedTokens_mul_le (tokens rate burst elapsed : UInt64) (ncpus : UInt32) :
    grantedTokens tokens rate burst elapsed ncpus * refillPeriod ncpus ≤
      elapsed.toNat * rate.toNat % 2 ^ 64 :=
  (Nat.mul_le_mul_right _ (Nat.min_le_left _ _)).trans (Nat.div_mul_le_self _ _)

theorem grantedTokens_mul_lt (tokens rate burst elapsed : UInt64) (ncpus : UInt32) :
    grantedTokens tokens rate burst elapsed ncpus * refillPeriod ncpus < 2 ^ 64 :=
  (grantedTokens_mul_le ..).trans_lt (Nat.mod_lt _ (by decide))

theorem toNat_grant (rate elapsed : UInt64) (ncpus : UInt32) (room : ¬ tokens ≥ burst) :
    (if elapsed * rate / (nsecPerSec * ncpus.toUInt64) > burst - tokens then burst - tokens
      else elapsed * rate / (nsecPerSec * ncpus.toUInt64)).toNat =
      grantedTokens tokens rate burst elapsed ncpus := by
  have space : (burst - tokens).toNat = burst.toNat - tokens.toNat :=
    UInt64.toNat_sub_of_le _ _ (UInt64.le_of_lt (UInt64.not_le.mp room))
  rw [UInt64.toNat_clip, toNat_earned, space, Nat.min_comm]
  rfl

theorem toNat_advance {grant denom : UInt64} (small : grant.toNat * denom.toNat < 2 ^ 64)
    (rate elapsed : UInt64) :
    (if (if grant * denom / rate = 0 then 1 else grant * denom / rate) > elapsed then elapsed
      else if grant * denom / rate = 0 then 1 else grant * denom / rate).toNat =
      min elapsed.toNat (max 1 (grant.toNat * denom.toNat / rate.toNat)) := by
  have quotient : (grant * denom / rate).toNat = grant.toNat * denom.toNat / rate.toNat := by
    rw [UInt64.toNat_div, UInt64.toNat_mul, Nat.mod_eq_of_lt small]
  -- the branch that replaces a step of zero by one is a maximum
  have atLeast : (if grant * denom / rate = 0 then 1 else grant * denom / rate).toNat =
      max 1 (grant.toNat * denom.toNat / rate.toNat) := by
    rw [← quotient]
    split
    next zero =>
      rw [zero]
      rfl
    next positive =>
      have : (grant * denom / rate).toNat ≠ 0 := fun zero => positive (UInt64.toNat_inj.mp zero)
      omega
  rw [UInt64.toNat_clip, atLeast]

theorem rlRefillDim_spec (tokens rate burst elapsed : UInt64) (ncpus : UInt32) :
    (rlRefillDim tokens rate burst elapsed ncpus).1.toNat =
        tokens.toNat + grantedTokens tokens rate burst elapsed ncpus ∧
      (rlRefillDim tokens rate burst elapsed ncpus).2.toNat =
        grantAdvance (grantedTokens tokens rate burst elapsed ncpus) rate.toNat elapsed.toNat
          (refillPeriod ncpus) := by
  -- both early returns grant nothing and leave the stamp alone
  have nothing (none : grantedTokens tokens rate burst elapsed ncpus = 0) :
      tokens.toNat = tokens.toNat + grantedTokens tokens rate burst elapsed ncpus ∧
        (0 : UInt64).toNat = grantAdvance (grantedTokens tokens rate burst elapsed ncpus)
          rate.toNat elapsed.toNat (refillPeriod ncpus) := by
    rw [none]
    exact ⟨rfl, rfl⟩
  unfold rlRefillDim
  dsimp only
  split
  next closed =>
    apply nothing
    rcases closed with rfl | full
    · simp [grantedTokens, earnedTokens]
    · exact Nat.min_eq_zero_iff.mpr (Or.inr (Nat.sub_eq_zero_of_le (UInt64.le_iff_toNat_le.mp full)))
  next opened =>
    obtain ⟨_, room⟩ := not_or.mp opened
    have earned := toNat_earned rate elapsed ncpus
    split
    next zero =>
      apply nothing
      rw [zero] at earned
      exact Nat.min_eq_zero_iff.mpr (Or.inl earned.symm)
    next positive =>
      have granted := toNat_grant rate elapsed ncpus room
      have small := grantedTokens_mul_lt tokens rate burst elapsed ncpus
      rw [← granted, ← denom_toNat] at small
      have advance := toNat_advance small rate elapsed
      rw [granted, denom_toNat] at advance
      -- the earned tokens and the room are both positive
      have some_ : grantedTokens tokens rate burst elapsed ncpus ≠ 0 := by
        have worth : earnedTokens rate elapsed ncpus ≠ 0 :=
          fun zero => positive (UInt64.toNat_inj.mp (earned.trans zero))
        have := UInt64.lt_iff_toNat_lt.mp (UInt64.not_le.mp room)
        simp only [grantedTokens]
        omega
      -- the grant is cut to the room, so the sum stays below the burst
      have fits : tokens.toNat + grantedTokens tokens rate burst elapsed ncpus < 2 ^ 64 := by
        have := burst.toNat_lt
        have := UInt64.lt_iff_toNat_lt.mp (UInt64.not_le.mp room)
        simp only [grantedTokens]
        omega
      constructor
      · rw [UInt64.toNat_add, granted, Nat.mod_eq_of_lt fits]
      · rw [grantAdvance, if_neg some_]
        exact advance

end Dimension

theorem grantAdvance_le (grant rate elapsed period : Nat) :
    grantAdvance grant rate elapsed period ≤ elapsed := by
  unfold grantAdvance
  split
  · exact Nat.zero_le _
  · exact Nat.min_le_left _ _

/-- The step of the stamp pays for the grant, up to one nanosecond. -/
theorem grant_le_advance {grant rate elapsed period : Nat}
    (worth : grant * period ≤ elapsed * rate) :
    grant * period ≤ (grantAdvance grant rate elapsed period + 1) * rate := by
  unfold grantAdvance
  split
  next none => simp [none]
  · rcases Nat.eq_zero_or_pos rate with rfl | positive
    · exact worth
    · rw [Nat.add_one_mul, ← Nat.mul_min_mul_right]
      have quotient := Nat.lt_div_mul_add (a := grant * period) positive
      have stepped := Nat.mul_le_mul_right rate (Nat.le_max_right 1 (grant * period / rate))
      omega

/-- What the refill of a dimension does to its tokens, and by how much it moves the stamp. -/
structure Refilled (tokens rate burst elapsed period tokens' advance : Nat) : Prop where
  tokens_le : tokens' ≤ burst
  advance_le : advance ≤ elapsed
  earned_le : tokens' * period ≤ tokens * period + (advance + 1) * rate

theorem rlRefillDim_refilled {tokens rate burst elapsed : UInt64} {ncpus : UInt32}
    (room : tokens ≤ burst) :
    Refilled tokens.toNat rate.toNat burst.toNat elapsed.toNat (refillPeriod ncpus)
      (rlRefillDim tokens rate burst elapsed ncpus).1.toNat
      (rlRefillDim tokens rate burst elapsed ncpus).2.toNat := by
  obtain ⟨filled, advance⟩ := rlRefillDim_spec tokens rate burst elapsed ncpus
  rw [filled, advance]
  have space : grantedTokens tokens rate burst elapsed ncpus ≤ burst.toNat - tokens.toNat :=
    Nat.min_le_right _ _
  rw [UInt64.le_iff_toNat_le] at room
  -- the product of time and rate may wrap around, which only makes the grant smaller
  have paid := grant_le_advance
    ((grantedTokens_mul_le tokens rate burst elapsed ncpus).trans (Nat.mod_le _ _))
  refine ⟨by omega, grantAdvance_le .., ?_⟩
  rw [Nat.add_mul]
  exact Nat.add_le_add_left paid _

/-! ## One packet -/

/-- The two dimensions of a bucket. -/
inductive Dim where
  | packets
  | bytes
deriving DecidableEq, Repr

structure Arrival where
  now : UInt64
  pktLen : UInt64
deriving DecidableEq, Repr

def Dim.cost (a : Arrival) : Dim → UInt64
  | packets => 1
  | bytes => a.pktLen

def RlBucket.tokens (b : RlBucket) : Dim → UInt64
  | .packets => b.ppsTokens
  | .bytes => b.bpsTokens

/-- A bucket seen in one dimension. -/
def RlBucket.view (b : RlBucket) (d : Dim) : Bucket := ⟨(b.tokens d).toNat, b.lastNs.toNat⟩

namespace Limiter

def rate (l : Limiter) : Dim → UInt64
  | .packets => l.pps
  | .bytes => l.bps

def counts (l : Limiter) : Dim → Bool
  | .packets => l.ppsSet
  | .bytes => l.bpsSet

/-- Rate, period and burst capacity of one dimension on one of `ncpus` CPUs. -/
def params (l : Limiter) (d : Dim) (ncpus : UInt32) : Params where
  rate := (l.rate d).toNat
  period := refillPeriod ncpus
  capacity := max 1 ((l.rate d).toNat / ncpus.toNat)

/-- What a packet finds its bucket to decide, and the bucket it leaves. -/
def serve (l : Limiter) (ncpus : UInt32) (testNoRefill : Bool) (bucket? : Option RlBucket)
    (a : Arrival) : Bool × RlBucket :=
  match bucket? with
  | none => l.consume (l.reset a.now ncpus testNoRefill) a.pktLen
  | some bucket => l.consume (l.ready bucket a.now ncpus testNoRefill) a.pktLen

end Limiter

theorem rlBurst_toNat {rate : UInt64} {ncpus : UInt32} (rate_pos : rate ≠ 0) :
    (rlBurst rate ncpus false).toNat = max 1 (rate.toNat / ncpus.toNat) := by
  have quotient : (rate / ncpus.toUInt64).toNat = rate.toNat / ncpus.toNat := by
    rw [UInt64.toNat_div, UInt32.toNat_toUInt64]
  rw [rlBurst, if_neg rate_pos, if_neg (by decide), ← quotient]
  split
  next zero =>
    rw [zero]
    rfl
  next positive =>
    refine (Nat.max_eq_right ?_).symm
    rw [Nat.one_le_iff_ne_zero]
    exact fun zero => positive (UInt64.toNat_inj.mp zero)

section Serve

variable {l : Limiter} {d : Dim} {ncpus : UInt32} {bucket : RlBucket} {a : Arrival}

theorem consume_tokens (bucket : RlBucket) (a : Arrival) (counted : l.counts d = true) :
    ((l.consume bucket a.pktLen).2.tokens d).toNat +
        (if (l.consume bucket a.pktLen).1 then (d.cost a).toNat else 0) =
      (bucket.tokens d).toNat := by
  unfold Limiter.consume rlBucketConsumeRaw
  split
  next enough =>
    rw [Bool.and_eq_true] at enough
    cases d with
    | packets =>
      have counted' : l.ppsSet = true := counted
      have one_le : (1 : UInt64) ≤ bucket.ppsTokens := by simpa [counted'] using enough.1
      simp only [RlBucket.tokens, Dim.cost, counted', if_true]
      rw [UInt64.toNat_sub_of_le _ _ one_le]
      exact Nat.sub_add_cancel (UInt64.le_iff_toNat_le.mp one_le)
    | bytes =>
      have counted' : l.bpsSet = true := counted
      have len_le : a.pktLen ≤ bucket.bpsTokens := by simpa [counted'] using enough.2
      simp only [RlBucket.tokens, Dim.cost, counted', if_true]
      rw [UInt64.toNat_sub_of_le _ _ len_le]
      exact Nat.sub_add_cancel (UInt64.le_iff_toNat_le.mp len_le)
  · simp

theorem consume_lastNs : (l.consume bucket a.pktLen).2.lastNs = bucket.lastNs := by
  unfold Limiter.consume rlBucketConsumeRaw
  split <;> rfl

theorem consume_cfgVersion : (l.consume bucket a.pktLen).2.cfgVersion = bucket.cfgVersion := by
  unfold Limiter.consume rlBucketConsumeRaw
  split <;> rfl

theorem toNat_elapsed {now : UInt64} (after : bucket.lastNs ≤ now) :
    (Limiter.elapsed bucket now).toNat = min (now.toNat - bucket.lastNs.toNat) 1000000000 := by
  rw [Limiter.elapsed, UInt64.toNat_clip, UInt64.toNat_sub_of_le _ _ after, Nat.min_comm]
  rfl

theorem elapsed_le {now : UInt64} (after : bucket.lastNs ≤ now) :
    (Limiter.elapsed bucket now).toNat ≤ now.toNat - bucket.lastNs.toNat := by
  rw [toNat_elapsed after]
  exact Nat.min_le_left _ _

theorem refillDim_advance_le (counts : Bool) (tokens rate elapsed : UInt64) (ncpus : UInt32) :
    (Limiter.refillDim counts tokens rate elapsed ncpus).2.toNat ≤ elapsed.toNat := by
  unfold Limiter.refillDim
  split
  · rw [(rlRefillDim_spec ..).2]
    exact grantAdvance_le ..
  · exact Nat.zero_le _

/-- What a bucket of the current version always meets in a dimension. -/
structure Filled (l : Limiter) (d : Dim) (ncpus : UInt32) (bucket : RlBucket) (now : UInt64) :
    Prop where
  version : bucket.cfgVersion = l.version
  tokens_le : bucket.tokens d ≤ rlBurst (l.rate d) ncpus false
  lastNs_le : bucket.lastNs ≤ now

/-- The refill of one dimension of a bucket at a time. -/
def dimStep (l : Limiter) (ncpus : UInt32) (bucket : RlBucket) (now : UInt64) (d : Dim) :
    UInt64 × UInt64 :=
  Limiter.refillDim (l.counts d) (bucket.tokens d) (l.rate d) (Limiter.elapsed bucket now) ncpus

theorem dimStep_refilled (counted : l.counts d = true) (filled : Filled l d ncpus bucket a.now) :
    Refilled (bucket.tokens d).toNat (l.rate d).toNat (rlBurst (l.rate d) ncpus false).toNat
      (Limiter.elapsed bucket a.now).toNat (refillPeriod ncpus)
      (dimStep l ncpus bucket a.now d).1.toNat (dimStep l ncpus bucket a.now d).2.toNat := by
  rw [dimStep, Limiter.refillDim, counted, if_pos rfl]
  exact rlRefillDim_refilled filled.tokens_le

theorem refill_tokens (l : Limiter) (d : Dim) (ncpus : UInt32) (later : ¬ a.now ≤ bucket.lastNs) :
    (l.refill bucket a.now ncpus).tokens d = (dimStep l ncpus bucket a.now d).1 := by
  rw [Limiter.refill, if_neg later]
  cases d <;> rfl

theorem dimStep_advance_le (l : Limiter) (ncpus : UInt32) (d : Dim) {now : UInt64}
    (after : bucket.lastNs ≤ now) :
    (dimStep l ncpus bucket now d).2.toNat ≤ now.toNat - bucket.lastNs.toNat :=
  (refillDim_advance_le ..).trans (elapsed_le after)

/-- Neither step exceeds the elapsed time, so the stamp does not wrap around. -/
theorem refill_lastNs {now : UInt64} (after : bucket.lastNs ≤ now) (later : ¬ now ≤ bucket.lastNs) :
    (l.refill bucket now ncpus).lastNs.toNat = bucket.lastNs.toNat +
      max (dimStep l ncpus bucket now .packets).2.toNat
        (dimStep l ncpus bucket now .bytes).2.toNat := by
  have packets_le := dimStep_advance_le l ncpus .packets after
  have bytes_le := dimStep_advance_le l ncpus .bytes after
  have last_le := UInt64.le_iff_toNat_le.mp after
  have now_lt := now.toNat_lt
  have moved : (l.refill bucket now ncpus).lastNs = bucket.lastNs +
      max (dimStep l ncpus bucket now .packets).2 (dimStep l ncpus bucket now .bytes).2 := by
    rw [Limiter.refill, if_neg later]
    rfl
  rw [moved, UInt64.toNat_add, UInt64.toNat_max, Nat.mod_eq_of_lt (by omega)]

/-- The stamp moves at least as far as the dimension's own refill moves it, and not past now. -/
theorem refill_lastNs_bounds (l : Limiter) (d : Dim) (ncpus : UInt32)
    (after : bucket.lastNs ≤ a.now) (later : ¬ a.now ≤ bucket.lastNs) :
    bucket.lastNs.toNat + (dimStep l ncpus bucket a.now d).2.toNat ≤
        (l.refill bucket a.now ncpus).lastNs.toNat ∧
      (l.refill bucket a.now ncpus).lastNs.toNat ≤ a.now.toNat := by
  have packets_le := dimStep_advance_le l ncpus .packets after
  have bytes_le := dimStep_advance_le l ncpus .bytes after
  have last_le := UInt64.le_iff_toNat_le.mp after
  rw [refill_lastNs after later]
  refine ⟨?_, by omega⟩
  cases d <;> omega

/-- A refill keeps the credit of a dimension, up to the rounding of the stamp. -/
theorem refill_credit (counted : l.counts d = true) (filled : Filled l d ncpus bucket a.now) :
    Filled l d ncpus (l.refill bucket a.now ncpus) a.now ∧
      credit (l.params d ncpus) ((l.refill bucket a.now ncpus).view d) a.now.toNat ≤
        credit (l.params d ncpus) (bucket.view d) a.now.toNat + (l.params d ncpus).rate := by
  by_cases same : a.now ≤ bucket.lastNs
  · rw [Limiter.refill, if_pos same]
    exact ⟨filled, Nat.le_add_right _ _⟩
  · obtain ⟨moved, bounded⟩ := refill_lastNs_bounds l d ncpus filled.lastNs_le same
    have refilled := dimStep_refilled counted filled
    have tokens_eq := refill_tokens l d ncpus same
    refine ⟨⟨?_, ?_, UInt64.le_iff_toNat_le.mpr bounded⟩, ?_⟩
    · rw [← filled.version, Limiter.refill, if_neg same]
    · rw [tokens_eq]
      exact UInt64.le_iff_toNat_le.mpr refilled.tokens_le
    · have earned := refilled.earned_le
      simp only [credit, RlBucket.view, Limiter.params, tokens_eq]
      -- time that moved into the stamp is no longer credit
      obtain ⟨rest, rest_eq⟩ := Nat.exists_eq_add_of_le (moved.trans bounded)
      have spare : a.now.toNat - (l.refill bucket a.now ncpus).lastNs.toNat ≤ rest := by omega
      have whole : a.now.toNat - bucket.lastNs.toNat =
          (dimStep l ncpus bucket a.now d).2.toNat + rest := by omega
      rw [whole]
      have spare_worth := Nat.mul_le_mul_right (l.rate d).toNat spare
      linarith

end Serve

/-! ## Runs of packets -/

section Runs

variable (l : Limiter) (d : Dim) (ncpus : UInt32) (testNoRefill : Bool)

/-- What a packet spends in a dimension, and when. -/
def spending (bucket? : Option RlBucket) (a : Arrival) : Event where
  time := a.now.toNat
  spent := if (l.serve ncpus testNoRefill bucket? a).1 then (d.cost a).toNat else 0

/-- What the packets of a run spend, one after another. -/
def spendings : Option RlBucket → List Arrival → List Event
  | _, [] => []
  | bucket?, a :: rest =>
    spending l d ncpus testNoRefill bucket? a ::
      spendings (some (l.serve ncpus testNoRefill bucket? a).2) rest

def serveStep (bucket? : Option RlBucket) (a : Arrival) : Option (Option RlBucket) :=
  some (some (l.serve ncpus testNoRefill bucket? a).2)

/-- A bucket before the first packet of a config version: there is none, it is left from another
version, or it is the zeroed entry of an array. -/
def Unused : Option RlBucket → Prop
  | none => True
  | some bucket => bucket.cfgVersion ≠ l.version ∨ bucket = ⟨0, 0, 0, 0⟩

/-- The refill is not switched off, and a packet that finds a bucket of its version comes no later
than the bucket is full: the time since the stamp earns at most what the bucket has room for. -/
def Timely (bucket? : Option RlBucket) (a : Arrival) : Prop :=
  testNoRefill = false ∧
    ∀ bucket, bucket? = some bucket → bucket.cfgVersion = l.version →
      (a.now.toNat - bucket.lastNs.toNat) * (l.rate d).toNat ≤
        ((l.params d ncpus).capacity - (bucket.tokens d).toNat) * refillPeriod ncpus

def AllTimely (start : Option RlBucket) (arrivals : List Arrival) : Prop :=
  Transition.RunAll (serveStep l ncpus testNoRefill)
    (fun bucket? a _ => Timely l d ncpus testNoRefill bucket? a) start arrivals

def InOrder (arrivals : List Arrival) : Prop := arrivals.Pairwise fun a b => a.now ≤ b.now

variable {l d ncpus testNoRefill} {bucket ready : RlBucket} {a : Arrival} {b : Bucket}

theorem Filled.later {now now' : UInt64} (filled : Filled l d ncpus bucket now)
    (le : now ≤ now') : Filled l d ncpus bucket now' :=
  { filled with lastNs_le := UInt64.le_trans filled.lastNs_le le }

theorem Filled.consume (filled : Filled l d ncpus ready a.now) (counted : l.counts d = true) :
    Filled l d ncpus (l.consume ready a.pktLen).2 a.now := by
  refine ⟨?_, ?_, ?_⟩
  · rw [consume_cfgVersion, filled.version]
  · have taken := consume_tokens ready a counted
    refine UInt64.le_iff_toNat_le.mpr (Nat.le_trans ?_ (UInt64.le_iff_toNat_le.mp filled.tokens_le))
    omega
  · rw [consume_lastNs]
    exact filled.lastNs_le

theorem consume_served (filled : Filled l d ncpus ready a.now) (counted : l.counts d = true)
    (kept : credit (l.params d ncpus) (ready.view d) a.now.toNat ≤
      credit (l.params d ncpus) b a.now.toNat + (l.params d ncpus).rate) :
    Served (l.params d ncpus) b
      ⟨a.now.toNat, if (l.consume ready a.pktLen).1 then (d.cost a).toNat else 0⟩
      ((l.consume ready a.pktLen).2.view d) := by
  have taken := consume_tokens ready a counted
  refine ⟨UInt64.le_iff_toNat_le.mp (filled.consume counted).lastNs_le, le_trans (le_of_eq ?_) kept⟩
  simp only [credit, RlBucket.view, consume_lastNs]
  rw [← taken, Nat.add_mul]
  omega

theorem reset_filled (l : Limiter) (d : Dim) (ncpus : UInt32) (now : UInt64) :
    Filled l d ncpus (l.reset now ncpus false) now := by
  refine ⟨rfl, ?_, UInt64.le_refl _⟩
  cases d <;> exact UInt64.le_refl _

theorem reset_credit (rate_pos : l.rate d ≠ 0) (now : UInt64) :
    credit (l.params d ncpus) ((l.reset now ncpus false).view d) now.toNat =
      (l.params d ncpus).capacity * (l.params d ncpus).period := by
  have tokens_eq : (l.reset now ncpus false).tokens d = rlBurst (l.rate d) ncpus false := by
    cases d <;> rfl
  have stamp_eq : (l.reset now ncpus false).lastNs = now := rfl
  simp only [credit, RlBucket.view, tokens_eq, stamp_eq, rlBurst_toNat rate_pos, Nat.sub_self,
    Nat.zero_mul, Nat.add_zero, Limiter.params]

/-- A packet that comes in time finds no more credit than the capacity. -/
theorem Timely.credit_le (timely : Timely l d ncpus testNoRefill (some bucket) a)
    (filled : Filled l d ncpus bucket a.now) (rate_pos : l.rate d ≠ 0) :
    credit (l.params d ncpus) (bucket.view d) a.now.toNat ≤
      (l.params d ncpus).capacity * (l.params d ncpus).period := by
  have in_time := timely.2 bucket rfl filled.version
  have tokens_le := UInt64.le_iff_toNat_le.mp filled.tokens_le
  rw [rlBurst_toNat rate_pos] at tokens_le
  have tokens_le' : (bucket.tokens d).toNat ≤ (l.params d ncpus).capacity := tokens_le
  calc credit (l.params d ncpus) (bucket.view d) a.now.toNat
      ≤ (bucket.tokens d).toNat * refillPeriod ncpus +
          ((l.params d ncpus).capacity - (bucket.tokens d).toNat) * refillPeriod ncpus :=
        Nat.add_le_add_left in_time _
    _ = (l.params d ncpus).capacity * (l.params d ncpus).period := by
        rw [← Nat.add_mul, Nat.add_sub_cancel' tokens_le']
        rfl

theorem serve_filled (filled : Filled l d ncpus bucket a.now) (counted : l.counts d = true) :
    Served (l.params d ncpus) (bucket.view d) (spending l d ncpus false (some bucket) a)
        ((l.serve ncpus false (some bucket) a).2.view d) ∧
      Filled l d ncpus (l.serve ncpus false (some bucket) a).2 a.now := by
  have ready_eq : l.ready bucket a.now ncpus false = l.refill bucket a.now ncpus := by
    rw [Limiter.ready, if_neg (not_not.mpr filled.version), if_neg (by decide)]
  obtain ⟨refilled, kept⟩ := refill_credit counted filled
  simp only [spending, Limiter.serve, ready_eq]
  exact ⟨consume_served refilled counted kept, refilled.consume counted⟩

theorem serve_unused {bucket? : Option RlBucket} (counted : l.counts d = true)
    (stale : ∀ bucket, bucket? = some bucket → bucket.cfgVersion ≠ l.version) :
    Served (l.params d ncpus) ((l.reset a.now ncpus false).view d)
        (spending l d ncpus false bucket? a) ((l.serve ncpus false bucket? a).2.view d) ∧
      Filled l d ncpus (l.serve ncpus false bucket? a).2 a.now := by
  have serve_eq : l.serve ncpus false bucket? a =
      l.consume (l.reset a.now ncpus false) a.pktLen := by
    cases bucket? with
    | none => rfl
    | some bucket => rw [Limiter.serve, Limiter.ready, if_pos (stale bucket rfl)]
  have filled := reset_filled l d ncpus a.now
  simp only [spending, serve_eq]
  exact ⟨consume_served filled counted (Nat.le_add_right _ _), filled.consume counted⟩

theorem spendings_after {start : Option RlBucket} {arrivals : List Arrival} {now : UInt64}
    (after : ∀ a ∈ arrivals, now ≤ a.now) :
    ∀ e ∈ spendings l d ncpus testNoRefill start arrivals, now.toNat ≤ e.time := by
  induction arrivals generalizing start with
  | nil =>
    intro e member
    cases member
  | cons a rest ih =>
    intro e member
    rcases List.mem_cons.mp member with rfl | member
    · exact UInt64.le_iff_toNat_le.mp (after a List.mem_cons_self)
    · exact ih (fun a' later => after a' (List.mem_cons_of_mem _ later)) e member

/-- From a bucket of the version on, a run of packets in time is a timely run. -/
theorem spendings_timelyRun (counted : l.counts d = true) (rate_pos : l.rate d ≠ 0)
    {arrivals : List Arrival} (inOrder : InOrder arrivals) {bucket : RlBucket}
    (filled : ∀ a ∈ arrivals, Filled l d ncpus bucket a.now)
    (timely : AllTimely l d ncpus false (some bucket) arrivals) :
    TimelyRun (l.params d ncpus) (bucket.view d)
      (spendings l d ncpus false (some bucket) arrivals) := by
  induction arrivals generalizing bucket with
  | nil => exact .nil _
  | cons a rest ih =>
    obtain ⟨first_le, inOrder⟩ := List.pairwise_cons.mp inOrder
    obtain ⟨here, timely⟩ := timely _ rfl
    have filledHere := filled a List.mem_cons_self
    obtain ⟨served, filledNext⟩ := serve_filled filledHere counted
    refine .cons (UInt64.le_iff_toNat_le.mp filledHere.lastNs_le)
      (here.credit_le filledHere rate_pos) served (spendings_after first_le) ?_
    exact ih inOrder (fun later member => filledNext.later (first_le later member)) timely

end Runs

/-- A bucket that no packet finds later than it is full keeps the window bound: in every window it
admits at most its burst and what the rate earns in the window, with a nanosecond more for each
packet. -/
theorem timely_spendings_windowBound (l : Limiter) (d : Dim) (ncpus : UInt32)
    (testNoRefill : Bool) (start : Option RlBucket) (arrivals : List Arrival)
    (counted : l.counts d = true) (rate_pos : l.rate d ≠ 0) (unused : Unused l start)
    (inOrder : InOrder arrivals) (timely : AllTimely l d ncpus testNoRefill start arrivals) :
    WindowBound (l.params d ncpus) (spendings l d ncpus testNoRefill start arrivals) := by
  cases arrivals with
  | nil => exact (TimelyRun.nil ⟨0, 0⟩).windowBound
  | cons a rest =>
    obtain ⟨here, timelyRest⟩ := timely _ rfl
    obtain ⟨first_le, inOrderRest⟩ := List.pairwise_cons.mp inOrder
    obtain rfl : testNoRefill = false := here.1
    by_cases stale : ∀ bucket, start = some bucket → bucket.cfgVersion ≠ l.version
    · obtain ⟨served, filled⟩ := serve_unused (a := a) counted stale
      refine (TimelyRun.cons ?_ (reset_credit rate_pos a.now).le served (spendings_after first_le)
        (spendings_timelyRun counted rate_pos inOrderRest ?_ timelyRest)).windowBound
      · exact le_rfl
      · exact fun later member => filled.later (first_le later member)
    · -- the zeroed entry of an array already has the version 0
      push Not at stale
      obtain ⟨bucket, rfl, version⟩ := stale
      rcases unused with other | rfl
      · exact absurd version other
      · refine (spendings_timelyRun counted rate_pos inOrder ?_ timely).windowBound
        intro later _
        refine ⟨version, ?_, UInt64.le_iff_toNat_le.mpr (Nat.zero_le _)⟩
        cases d <;> exact UInt64.le_iff_toNat_le.mpr (Nat.zero_le _)

/-- A service limited to one packet a second. -/
def onePacketASecond : Limiter := svcLimiter ⟨1, ppsSetFlag, 1, 0⟩

/-- The second packet comes just when the bucket is full again. -/
def steadyArrivals : List Arrival := [⟨1000000000, 60⟩, ⟨2000000000, 60⟩]

theorem steadyArrivals_windowBound :
    (spendings onePacketASecond .packets 1 false none steadyArrivals).map Event.spent = [1, 1] ∧
      WindowBound (onePacketASecond.params .packets 1)
        (spendings onePacketASecond .packets 1 false none steadyArrivals) := by
  refine ⟨by decide, timely_spendings_windowBound onePacketASecond .packets 1 false none
    steadyArrivals rfl (by decide) trivial (by simp [InOrder, steadyArrivals]) ?_⟩
  intro next stepped
  cases stepped
  refine ⟨⟨rfl, by rintro bucket ⟨⟩⟩, ?_⟩
  intro next stepped
  cases stepped
  refine ⟨⟨rfl, ?_⟩, trivial⟩
  rintro bucket ⟨⟩ _
  decide

/-- After two idle seconds the second packet refills the bucket and moves the stamp by one second
only, so the third one, at the same time, is given the other second. -/
def idleArrivals : List Arrival := [⟨1000000000, 60⟩, ⟨3000000000, 60⟩, ⟨3000000000, 60⟩]

theorem idleArrivals_exceed_windowBound :
    onePacketASecond.counts .packets = true ∧ onePacketASecond.rate .packets ≠ 0 ∧
      Unused onePacketASecond none ∧ InOrder idleArrivals ∧
      ¬ WindowBound (onePacketASecond.params .packets 1)
        (spendings onePacketASecond .packets 1 false none idleArrivals) := by
  refine ⟨rfl, by decide, trivial, by simp [InOrder, idleArrivals], ?_⟩
  intro bound
  have window := bound 3000000000 3000000000 le_rfl
  revert window
  decide

end ScrubbingGateway.DataPlane
