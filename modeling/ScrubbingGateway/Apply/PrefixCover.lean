import ScrubbingGateway.Apply.Atomicity
import ScrubbingGateway.DataPlane.ListStages

/-!
# Prefixes and the addresses they cover

The entries of the source lists, the masks that the helper and the packet program cut addresses
with, and the rows of a slot as lookups see them.
-/

namespace ScrubbingGateway.Apply

open DataPlane Prog

/-- An address has the first bits of an entry. -/
def CfgSource.Covers (e : CfgSource) (src : UInt32) : Prop :=
  e.addr.toNat / 2 ^ (32 - e.prefixlen.toNat) = src.toNat / 2 ^ (32 - e.prefixlen.toNat)

instance (e : CfgSource) (src : UInt32) : Decidable (e.Covers src) :=
  inferInstanceAs (Decidable (_ = _))

example : CfgSource.Covers ⟨16, 0x0A010000⟩ 0x0A01FFFF ∧
    ¬ CfgSource.Covers ⟨16, 0x0A010000⟩ 0x0A020000 := by
  decide

/-! ## Masks -/

theorem toNat_and_src24Mask (a : UInt32) : (a &&& src24Mask).toNat = a.toNat / 256 * 256 := by
  have mask : src24Mask.toNat = (2 ^ 24 - 1) * 2 ^ 8 := by decide
  have small : a.toNat < 2 ^ 32 := a.toNat_lt
  rw [UInt32.toNat_and, mask]
  apply Nat.eq_of_testBit_eq
  intro i
  rw [Nat.testBit_and, Nat.testBit_mul_two_pow, Nat.testBit_two_pow_sub_one,
    show a.toNat / 256 * 256 = a.toNat / 2 ^ 8 * 2 ^ 8 from rfl, Nat.testBit_mul_two_pow,
    Nat.testBit_div_two_pow]
  by_cases low : 8 ≤ i
  · rw [decide_eq_true low, Bool.true_and, Bool.true_and, show i - 8 + 8 = i by omega]
    by_cases high : i - 8 < 24
    · rw [decide_eq_true high, Bool.and_true]
    · -- an address has no bits that high
      have below : a.toNat < 2 ^ i := small.trans_le (Nat.pow_le_pow_right Nat.two_pos (by omega))
      rw [Nat.testBit_lt_two_pow below, Bool.false_and]
  · rw [decide_eq_false low, Bool.false_and, Bool.and_false, Bool.false_and]

theorem toNat_not_prefixMask {prefixlen : UInt32} (short : prefixlen.toNat ≤ 32) :
    (~~~(prefixMask prefixlen)).toNat = 2 ^ (32 - prefixlen.toNat) - 1 := by
  have all : ∀ p : Fin 33, (~~~(prefixMask (UInt32.ofNat p))).toNat = 2 ^ (32 - p.val) - 1 := by
    decide
  have this := all ⟨prefixlen.toNat, by omega⟩
  rwa [UInt32.ofNat_toNat] at this

theorem canonical_of_valid {e : CfgSource} (valid : globalEntryValid e = true) :
    e.prefixlen.toNat ≤ 32 ∧ e.addr.toNat % 2 ^ (32 - e.prefixlen.toNat) = 0 := by
  obtain ⟨short, clear⟩ := Bool.and_eq_true_iff.mp valid
  have short : e.prefixlen.toNat ≤ 32 := UInt32.le_iff_toNat_le.mp (of_decide_eq_true short)
  constructor
  · exact short
  · have zero := congrArg UInt32.toNat (eq_of_beq clear)
    rwa [UInt32.toNat_and, toNat_not_prefixMask short, Nat.and_two_pow_sub_one_eq_mod] at zero

theorem bucket_of_long {a s length : Nat} (short : length ≤ 32) (long : 24 ≤ length)
    (covers : a / 2 ^ (32 - length) = s / 2 ^ (32 - length)) : s / 256 = a / 256 := by
  have split : 2 ^ (32 - length) * 2 ^ (length - 24) = 256 := by
    rw [← Nat.pow_add, show 32 - length + (length - 24) = 8 by omega]
  rw [← split, ← Nat.div_div_eq_div_mul, ← Nat.div_div_eq_div_mul, covers]

/-! ## The rows of a slot -/

theorem applyReadActive_never {before : ConfigMaps} (read : before.activeConfig = none) :
    Always configMachine (fun _ => True) (fun _ _ => False) applyReadActive before := by
  refine ⟨trivial, ?_, trivial⟩
  change Always configMachine _ _ (Prog.expect before.activeConfig >>= _) before
  rw [read]
  trivial

/-- A lookup through a slot is one in the table that holds the slot's rows. -/
theorem inner_of_slotRows {k : ConfigMaps} {slot : UInt32} {o : Outer}
    {rows : o.Key → Option o.Val} (held : slotRows k slot o = some rows) :
    ∃ id t, k.outer o slot = some id ∧ t.lookup = rows ∧
      ∀ key, slotLookup k slot o key = Inner.find o t key := by
  obtain ⟨id, installed, found⟩ := Option.bind_eq_some_iff.mp held
  obtain ⟨t, inside, rfl⟩ := Option.map_eq_some_iff.mp found
  refine ⟨id, t, installed, rfl, fun key => ?_⟩
  rw [slotLookup, installed, Option.bind_some, inside, Option.bind_some]

end ScrubbingGateway.Apply
