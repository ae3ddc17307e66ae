import Mathlib.Algebra.GroupWithZero.Nat
import Mathlib.Logic.Basic

/-!
# Operations on 64-bit words

The operations a computation makes on words, and when such an operation gives the number it would
give without a bound.
-/

/-- An operation on two words that can leave the range of a word. -/
inductive WordOp where
  | add (x y : UInt64)
  | sub (x y : UInt64)
  | mul (x y : UInt64)
deriving DecidableEq, Repr

namespace WordOp

/-- The operation neither wraps around nor underflows. -/
def Exact : WordOp → Prop
  | add x y => x.toNat + y.toNat < 2 ^ 64
  | sub x y => y.toNat ≤ x.toNat
  | mul x y => x.toNat * y.toNat < 2 ^ 64

instance (op : WordOp) : Decidable op.Exact :=
  match op with
  | add _ _ => inferInstanceAs (Decidable (_ < _))
  | sub _ _ => inferInstanceAs (Decidable (_ ≤ _))
  | mul _ _ => inferInstanceAs (Decidable (_ < _))

theorem Exact.toNat_mul {x y : UInt64} (exact_ : (mul x y).Exact) :
    (x * y).toNat = x.toNat * y.toNat := by
  rw [UInt64.toNat_mul]
  exact Nat.mod_eq_of_lt exact_

theorem Exact.toNat_sub {x y : UInt64} (exact_ : (sub x y).Exact) :
    (x - y).toNat = x.toNat - y.toNat :=
  UInt64.toNat_sub_of_le _ _ (UInt64.le_iff_toNat_le.mpr exact_)

end WordOp

/-- A value cut at a limit. -/
theorem UInt64.toNat_clip (value limit : UInt64) :
    (if value > limit then limit else value).toNat = min limit.toNat value.toNat := by
  split
  next above =>
    have := UInt64.lt_iff_toNat_lt.mp above
    omega
  next below =>
    have := UInt64.le_iff_toNat_le.mp (UInt64.not_lt.mp below)
    omega
