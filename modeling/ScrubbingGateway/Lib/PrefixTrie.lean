import ScrubbingGateway.Lib.Table

/-!
# Longest-prefix-match tables

A prefix is kept as its length and the number its leading bits spell, so that two keys that differ
only in bits behind the prefix are the same key.
-/

structure BitPrefix where
  length : Nat
  bits : Nat
deriving DecidableEq, Repr

namespace BitPrefix

/-- The first `length` bits of a `width` bit number. -/
def ofNumber (width length number : Nat) : BitPrefix := ⟨length, number / 2 ^ (width - length)⟩

/-- The prefix of a number of `length` bits. -/
def Covers (p : BitPrefix) (length bits : Nat) : Prop :=
  p.length ≤ length ∧ p.bits = bits / 2 ^ (length - p.length)

instance (p : BitPrefix) (length bits : Nat) : Decidable (p.Covers length bits) :=
  inferInstanceAs (Decidable (_ ∧ _))

theorem covers_self (length bits : Nat) : Covers ⟨length, bits⟩ length bits := by
  simp [Covers]

/-- What covers a number with its last bit cut off covers the number. -/
theorem Covers.succ {p : BitPrefix} {length bits : Nat} (covers : p.Covers length (bits / 2)) :
    p.Covers (length + 1) bits := by
  obtain ⟨shorter, spelled⟩ := covers
  refine ⟨by omega, ?_⟩
  rw [spelled, Nat.div_div_eq_div_mul, ← Nat.pow_succ', Nat.succ_sub shorter]

/-- A covering prefix is the whole number or covers it with its last bit cut off. -/
theorem Covers.cases_succ {p : BitPrefix} {length bits : Nat} (covers : p.Covers (length + 1) bits) :
    p = ⟨length + 1, bits⟩ ∨ p.Covers length (bits / 2) := by
  obtain ⟨shorter, spelled⟩ := covers
  rcases Nat.lt_or_ge length p.length with whole | short
  · left
    have same : p.length = length + 1 := by omega
    rw [same, Nat.sub_self, Nat.pow_zero, Nat.div_one] at spelled
    cases p
    simp_all
  · right
    refine ⟨short, ?_⟩
    rw [spelled, Nat.div_div_eq_div_mul, ← Nat.pow_succ', Nat.succ_sub short]

end BitPrefix

abbrev PrefixTrie (V : Type) : Type := Table BitPrefix V

namespace PrefixTrie

variable {V : Type}

/-- The value stored under the longest prefix of `bits`, a number of `length` bits. -/
def longestMatch (t : PrefixTrie V) : (length bits : Nat) → Option V
  | 0, bits => t.lookup ⟨0, bits⟩
  | length + 1, bits =>
    match t.lookup ⟨length + 1, bits⟩ with
    | some v => some v
    | none => longestMatch t length (bits / 2)

variable {t : PrefixTrie V} {v : V}

/-- What a lookup finds is stored under a prefix of the number. -/
theorem covers_of_longestMatch {length bits : Nat} (found : t.longestMatch length bits = some v) :
    ∃ key : BitPrefix, key.Covers length bits ∧ t.lookup key = some v := by
  induction length generalizing bits with
  | zero => exact ⟨_, BitPrefix.covers_self 0 bits, found⟩
  | succ length ih =>
    rw [longestMatch] at found
    split at found
    next stored =>
      cases found
      exact ⟨_, BitPrefix.covers_self (length + 1) bits, stored⟩
    · obtain ⟨key, covers, stored⟩ := ih found
      exact ⟨key, covers.succ, stored⟩

/-- No prefix is longer than the whole number. -/
theorem longestMatch_of_lookup {length bits : Nat} (stored : t.lookup ⟨length, bits⟩ = some v) :
    t.longestMatch length bits = some v := by
  cases length with
  | zero => exact stored
  | succ length => rw [longestMatch, stored]

/-- A lookup matches exactly when some stored prefix covers the number. -/
theorem isSome_longestMatch_iff (t : PrefixTrie V) (length bits : Nat) :
    (t.longestMatch length bits).isSome = true ↔
      ∃ key : BitPrefix, key.Covers length bits ∧ (t.lookup key).isSome = true := by
  constructor
  · intro found
    obtain ⟨v, found⟩ := Option.isSome_iff_exists.mp found
    obtain ⟨key, covers, stored⟩ := covers_of_longestMatch found
    exact ⟨key, covers, by rw [stored]; rfl⟩
  · rintro ⟨key, covers, stored⟩
    -- going down, a stored prefix is met at its own length at the latest
    induction length generalizing bits with
    | zero =>
      obtain ⟨short, spelled⟩ := covers
      have whole : key = ⟨0, bits⟩ := by
        cases key
        simp_all
      rwa [whole] at stored
    | succ length ih =>
      rw [longestMatch]
      split
      · rfl
      next missing =>
        rcases covers.cases_succ with rfl | shorter
        · rw [missing] at stored
          cases stored
        · exact ih _ shorter

/-- A lookup returns the value of the longest stored prefix that covers the number. -/
theorem longestMatch_eq_some_iff (t : PrefixTrie V) (length bits : Nat) (v : V) :
    t.longestMatch length bits = some v ↔
      ∃ key : BitPrefix, key.Covers length bits ∧ t.lookup key = some v ∧
        ∀ key' : BitPrefix, key'.Covers length bits → (t.lookup key').isSome = true →
          key'.length ≤ key.length := by
  induction length generalizing bits with
  | zero =>
    constructor
    · intro found
      exact ⟨⟨0, bits⟩, BitPrefix.covers_self 0 bits, found, fun _ covers _ => covers.1⟩
    · rintro ⟨key, ⟨short, spelled⟩, stored, _⟩
      have whole : key = ⟨0, bits⟩ := by
        cases key
        simp_all
      rwa [whole] at stored
  | succ length ih =>
    rw [longestMatch]
    cases here : t.lookup ⟨length + 1, bits⟩ with
    | some w =>
      constructor
      · intro found
        cases found
        exact ⟨_, BitPrefix.covers_self (length + 1) bits, here, fun _ covers _ => covers.1⟩
      · rintro ⟨key, covers, stored, longest⟩
        have whole := longest _ (BitPrefix.covers_self (length + 1) bits) (by rw [here]; rfl)
        rcases covers.cases_succ with rfl | shorter
        · exact here.symm.trans stored
        · exact absurd (shorter.1.trans_lt (Nat.lt_succ_self length)) (Nat.not_lt.mpr whole)
    | none =>
      -- the whole number is not stored, so the question is about one bit less
      have missing {key : BitPrefix} (covers : key.Covers (length + 1) bits)
          (stored : (t.lookup key).isSome = true) : key.Covers length (bits / 2) := by
        rcases covers.cases_succ with rfl | shorter
        · rw [here] at stored
          cases stored
        · exact shorter
      rw [ih]
      constructor
      · rintro ⟨key, covers, stored, longest⟩
        exact ⟨key, covers.succ, stored, fun key' covers' stored' =>
          longest key' (missing covers' stored') stored'⟩
      · rintro ⟨key, covers, stored, longest⟩
        exact ⟨key, missing covers (by rw [stored]; rfl), stored, fun key' covers' stored' =>
          longest key' covers'.succ stored'⟩

end PrefixTrie
