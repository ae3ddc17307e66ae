import ScrubbingGateway.Lib.TokenBucket

/-!
# Fluid buckets

A fluid bucket fills continuously, up to a capacity, and counts parts of a token. It is what a rate
limit promises: whoever conforms to it should be let through. A bucket of whole tokens keeps the
promise if its refill loses no credit and leaves no whole token unearned.
-/

namespace TokenBucket

/-- The level of a fluid bucket at a time, in parts of which a token has `period` many. -/
structure Fluid where
  level : Nat
  time : Nat
deriving DecidableEq, Repr

namespace Fluid

def full (p : Params) (now : Nat) : Fluid := ⟨p.capacity * p.period, now⟩

def levelAt (p : Params) (f : Fluid) (now : Nat) : Nat :=
  min (p.capacity * p.period) (f.level + (now - f.time) * p.rate)

def spend (p : Params) (f : Fluid) (e : Event) : Fluid :=
  ⟨f.levelAt p e.time - e.spent * p.period, e.time⟩

/-- Every event finds the tokens it spends. -/
def Conforms (p : Params) : Fluid → List Event → Prop
  | _, [] => True
  | f, e :: rest => e.spent * p.period ≤ f.levelAt p e.time ∧ Conforms p (f.spend p e) rest

instance decidableConforms (p : Params) : (f : Fluid) → (events : List Event) →
    Decidable (Conforms p f events)
  | _, [] => inferInstanceAs (Decidable True)
  | f, e :: rest =>
    haveI := decidableConforms p (f.spend p e) rest
    inferInstanceAs (Decidable (_ ∧ _))

end Fluid

/-- What a refill has to do for a conforming sender. -/
structure Keeps (p : Params) (b : Bucket) (now : Nat) (b' : Bucket) : Prop where
  stamp_le : b'.stamp ≤ now
  /-- No credit is lost, except for what is over the capacity. -/
  kept : min (p.capacity * p.period) (credit p b now) ≤ credit p b' now
  /-- All whole tokens are there, or the bucket is full. -/
  whole : b'.tokens = p.capacity ∨ credit p b now < (b'.tokens + 1) * p.period

/-- The credit of a bucket is worth at least the level of a fluid bucket. -/
structure Backed (p : Params) (f : Fluid) (b : Bucket) : Prop where
  stamp_le : b.stamp ≤ f.time
  level_le : f.level ≤ credit p b f.time

variable {p : Params} {f : Fluid} {b b' : Bucket} {e : Event}

theorem Backed.full {now : Nat} (full : b.tokens = p.capacity) (stamp_le : b.stamp ≤ now) :
    Backed p (Fluid.full p now) b := by
  constructor
  · exact stamp_le
  · simp only [Fluid.full, credit, full]
    exact Nat.le_add_right _ _

theorem Backed.levelAt_le (backed : Backed p f b) {now : Nat} (later : f.time ≤ now) :
    f.levelAt p now ≤ min (p.capacity * p.period) (credit p b now) := by
  rw [credit_later backed.stamp_le later]
  exact min_le_min_left _ (Nat.add_le_add_right backed.level_le _)

/-- A refill whose step is paid for by its grant loses no credit. -/
theorem credit_le_of_paid {grant step now : Nat} (paid : step * p.rate ≤ grant * p.period)
    (within : b.stamp + step ≤ now) :
    credit p b now ≤ credit p ⟨b.tokens + grant, b.stamp + step⟩ now := by
  obtain ⟨rest, rfl⟩ := Nat.exists_eq_add_of_le within
  have before : b.stamp + step + rest - b.stamp = step + rest := by omega
  simp only [credit, before, Nat.add_sub_cancel_left]
  linarith

/-- What a conforming sender spends is there after the refill. -/
theorem Keeps.affords (keeps : Keeps p b e.time b') (backed : Backed p f b)
    (later : f.time ≤ e.time) (period_pos : 0 < p.period)
    (conforms : e.spent * p.period ≤ f.levelAt p e.time) : e.spent ≤ b'.tokens := by
  have worth := conforms.trans (backed.levelAt_le later)
  rcases keeps.whole with full | below
  · -- nobody spends more than the capacity
    rw [full]
    exact Nat.le_of_mul_le_mul_right (worth.trans (Nat.min_le_left _ _)) period_pos
  · have spent_lt := (worth.trans (Nat.min_le_right _ _)).trans_lt below
    exact Nat.lt_succ_iff.mp (Nat.lt_of_mul_lt_mul_right spent_lt)

theorem Keeps.backed (keeps : Keeps p b e.time b') (backed : Backed p f b)
    (later : f.time ≤ e.time) (enough : e.spent ≤ b'.tokens) :
    Backed p (f.spend p e) ⟨b'.tokens - e.spent, b'.stamp⟩ := by
  constructor
  · exact keeps.stamp_le
  · have worth := (backed.levelAt_le later).trans keeps.kept
    simp only [Fluid.spend, credit, Nat.sub_mul] at worth ⊢
    have spent_le := Nat.mul_le_mul_right p.period enough
    omega

end TokenBucket
