import Mathlib.Data.List.Basic
import Mathlib.Tactic.Ring

/-!
# Byte strings with fixed-width fields

Little-endian numbers and readers over a byte string. A reader is exact for an encoding when it
accepts precisely the encodings of valid values, each followed by anything; records and repeated
records of exact readers are exact.
-/

abbrev Bytes : Type := List UInt8

namespace Wire

variable {α β : Type}

/-- A reader takes a value off the front of a byte string. -/
abbrev Reader (α : Type) : Type := Bytes → Option (α × Bytes)

/-- The little-endian bytes of a number, cut to a width. -/
def leBytes : (width : Nat) → Nat → Bytes
  | 0, _ => []
  | width + 1, n => UInt8.ofNat n :: leBytes width (n / 256)

def leNat : Bytes → Nat
  | [] => 0
  | b :: rest => b.toNat + 256 * leNat rest

def take (width : Nat) : Reader Bytes := fun c =>
  if width ≤ c.length then some (c.take width, c.drop width) else none

def readLe (width : Nat) : Reader Nat := fun c =>
  (take width c).map fun (bytes, rest) => (leNat bytes, rest)

/-- Read a number of records one after another. -/
def readMany (get : Reader α) : Nat → Reader (List α)
  | 0, c => some ([], c)
  | n + 1, c => do
    let (a, c) ← get c
    let (rest, c) ← readMany get n c
    return (a :: rest, c)

/-- A reader accepts exactly the encodings of valid values. -/
def Exact (get : Reader α) (put : α → Bytes) (Valid : α → Prop) : Prop :=
  ∀ c a rest, get c = some (a, rest) ↔ Valid a ∧ c = put a ++ rest

theorem length_leBytes (width n : Nat) : (leBytes width n).length = width := by
  induction width generalizing n with
  | zero => rfl
  | succ width ih => rw [leBytes, List.length_cons, ih]

theorem leNat_leBytes {width n : Nat} (small : n < 256 ^ width) : leNat (leBytes width n) = n := by
  induction width generalizing n with
  | zero =>
    rw [Nat.pow_zero] at small
    exact (Nat.lt_one_iff.mp small).symm
  | succ width ih =>
    have quotient : n / 256 < 256 ^ width := by
      rw [Nat.pow_succ] at small
      exact Nat.div_lt_of_lt_mul (by rwa [Nat.mul_comm])
    rw [leBytes, leNat, ih quotient, UInt8.toNat_ofNat']
    exact Nat.mod_add_div n 256

theorem leNat_lt (bytes : Bytes) : leNat bytes < 256 ^ bytes.length := by
  induction bytes with
  | nil => exact Nat.one_pos
  | cons b rest ih =>
    have byte := b.toNat_lt
    rw [leNat, List.length_cons, Nat.pow_succ]
    omega

theorem leBytes_leNat (bytes : Bytes) : leBytes bytes.length (leNat bytes) = bytes := by
  induction bytes with
  | nil => rfl
  | cons b rest ih =>
    have byte : b.toNat < 256 := b.toNat_lt
    have low : (b.toNat + 256 * leNat rest) % 256 = b.toNat := by omega
    have high : (b.toNat + 256 * leNat rest) / 256 = leNat rest := by omega
    rw [List.length_cons, leNat, leBytes, high, ih]
    congr 1
    rw [← UInt8.toNat_inj, UInt8.toNat_ofNat']
    exact low

theorem take_exact (width : Nat) : Exact (take width) id (fun bytes => bytes.length = width) := by
  intro c bytes rest
  unfold take
  split
  next enough =>
    rw [Option.some_inj, Prod.mk.injEq]
    constructor
    · rintro ⟨rfl, rfl⟩
      exact ⟨List.length_take_of_le enough, (List.take_append_drop width c).symm⟩
    · rintro ⟨rfl, rfl⟩
      exact ⟨List.take_left, List.drop_left⟩
  next short =>
    refine ⟨nofun, ?_⟩
    rintro ⟨rfl, rfl⟩
    rw [id, List.length_append] at short
    exact absurd (Nat.le_add_right _ _) short

theorem readLe_exact (width : Nat) : Exact (readLe width) (leBytes width) (· < 256 ^ width) := by
  intro c n rest
  rw [readLe, Option.map_eq_some_iff]
  constructor
  · rintro ⟨⟨bytes, rest'⟩, taken, same⟩
    obtain ⟨length, rfl⟩ := (take_exact width c bytes rest').mp taken
    cases same
    subst length
    exact ⟨leNat_lt bytes, by rw [leBytes_leNat]; rfl⟩
  · rintro ⟨small, rfl⟩
    refine ⟨(leBytes width n, rest), ?_, by simp only [leNat_leBytes small]⟩
    exact (take_exact width _ _ _).mpr ⟨length_leBytes width n, rfl⟩

variable {get : Reader α} {put : α → Bytes} {Valid : α → Prop}

section

variable (exact' : Exact get put Valid)
include exact'

/-- A reader of another representation of the same values. -/
theorem Exact.map (into : α → β) (back : β → α) (valid : ∀ b, Valid (back b))
    (into_back : ∀ b, into (back b) = b) (back_into : ∀ a, Valid a → back (into a) = a) :
    Exact (fun c => (get c).map fun (a, rest) => (into a, rest)) (put ∘ back)
      (fun _ => True) := by
  intro c b rest
  rw [Option.map_eq_some_iff]
  constructor
  · rintro ⟨⟨a, rest'⟩, got, same⟩
    obtain ⟨validA, rfl⟩ := (exact' c a rest').mp got
    cases same
    exact ⟨trivial, by rw [Function.comp_apply, back_into a validA]⟩
  · rintro ⟨_, rfl⟩
    exact ⟨(back b, rest), (exact' _ _ _).mpr ⟨valid b, rfl⟩, by simp only [into_back]⟩

theorem readMany_exact (n : Nat) :
    Exact (readMany get n) (List.flatMap put)
      (fun list => list.length = n ∧ ∀ a ∈ list, Valid a) := by
  induction n with
  | zero =>
    intro c list rest
    rw [readMany, Option.some_inj, Prod.mk.injEq]
    constructor
    · rintro ⟨rfl, rfl⟩
      exact ⟨⟨rfl, nofun⟩, rfl⟩
    · rintro ⟨⟨empty, _⟩, rfl⟩
      obtain rfl := List.length_eq_zero_iff.mp empty
      exact ⟨rfl, rfl⟩
  | succ n ih =>
    intro c list rest
    simp only [readMany, Option.bind_eq_bind, Option.bind_eq_some_iff, Prod.exists, Option.pure_def,
      Option.some_inj, Prod.mk.injEq]
    constructor
    · rintro ⟨a, c', got, more, c'', gotMore, rfl, rfl⟩
      obtain ⟨validA, rfl⟩ := (exact' c a c').mp got
      obtain ⟨⟨length, valid⟩, rfl⟩ := (ih c' more c'').mp gotMore
      refine ⟨⟨by rw [List.length_cons, length], List.forall_mem_cons.mpr ⟨validA, valid⟩⟩, ?_⟩
      rw [List.flatMap_cons, List.append_assoc]
    · rintro ⟨⟨length, valid⟩, rfl⟩
      cases list with
      | nil => cases length
      | cons a more =>
        obtain ⟨validA, validMore⟩ := List.forall_mem_cons.mp valid
        refine ⟨a, more.flatMap put ++ rest, ?_, more, rest, ?_, rfl, rfl⟩
        · exact (exact' _ _ _).mpr ⟨validA, by rw [List.flatMap_cons, List.append_assoc]⟩
        · exact (ih _ _ _).mpr ⟨⟨Nat.succ_inj.mp length, validMore⟩, rfl⟩

/-- What it takes for a reader to go on with another one. -/
theorem Exact.bind_some {f : α × Bytes → Option β} {c : Bytes} {b : β} :
    get c >>= f = some b ↔ ∃ a rest, (Valid a ∧ c = put a ++ rest) ∧ f (a, rest) = some b := by
  rw [Option.bind_eq_bind, Option.bind_eq_some_iff, Prod.exists]
  simp only [exact' c]

/-- Reading what was put goes on with it. -/
theorem Exact.bind_put {a : α} (valid : Valid a) (rest : Bytes) (f : α × Bytes → Option β) :
    get (put a ++ rest) >>= f = f (a, rest) := by
  rw [(exact' _ a rest).mpr ⟨valid, rfl⟩]
  rfl

end

/-! ## Network order -/

def join16 (hi lo : UInt8) : UInt16 := UInt16.ofNat (hi.toNat * 256 + lo.toNat)

def putBe16 (v : UInt16) : Bytes := [UInt8.ofNat (v.toNat / 256), UInt8.ofNat v.toNat]

def join32 (hi lo : UInt16) : UInt32 := UInt32.ofNat (hi.toNat * 65536 + lo.toNat)

def putBe32 (v : UInt32) : Bytes :=
  putBe16 (UInt16.ofNat (v.toNat / 65536)) ++ putBe16 (UInt16.ofNat v.toNat)

theorem putBe16_join16 (hi lo : UInt8) : putBe16 (join16 hi lo) = [hi, lo] := by
  have high : hi.toNat < 256 := hi.toNat_lt
  have low : lo.toNat < 256 := lo.toNat_lt
  have number : (join16 hi lo).toNat = hi.toNat * 256 + lo.toNat :=
    UInt16.toNat_ofNat_of_lt' (by show _ < 65536; omega)
  rw [putBe16, number]
  congr 1
  · rw [← UInt8.toNat_inj, UInt8.toNat_ofNat']
    omega
  · congr 1
    rw [← UInt8.toNat_inj, UInt8.toNat_ofNat']
    omega

theorem join16_putBe16 (v : UInt16) :
    join16 (UInt8.ofNat (v.toNat / 256)) (UInt8.ofNat v.toNat) = v := by
  have small : v.toNat < 65536 := v.toNat_lt
  rw [join16, ← UInt16.toNat_inj, UInt16.toNat_ofNat', UInt8.toNat_ofNat', UInt8.toNat_ofNat']
  omega

theorem putBe16_append_inj {a b : UInt16} {x y : Bytes} (same : putBe16 a ++ x = putBe16 b ++ y) :
    a = b ∧ x = y := by
  simp only [putBe16, List.cons_append, List.nil_append, List.cons.injEq] at same
  obtain ⟨hi, lo, rest⟩ := same
  rw [← join16_putBe16 a, hi, lo, join16_putBe16]
  exact ⟨rfl, rest⟩

theorem putBe32_join32 (hi lo : UInt16) : putBe32 (join32 hi lo) = putBe16 hi ++ putBe16 lo := by
  have high : hi.toNat < 65536 := hi.toNat_lt
  have low : lo.toNat < 65536 := lo.toNat_lt
  have number : (join32 hi lo).toNat = hi.toNat * 65536 + lo.toNat :=
    UInt32.toNat_ofNat_of_lt' (by show _ < 4294967296; omega)
  have upper : UInt16.ofNat ((join32 hi lo).toNat / 65536) = hi := by
    rw [number, ← UInt16.toNat_inj, UInt16.toNat_ofNat']
    omega
  have lower : UInt16.ofNat (join32 hi lo).toNat = lo := by
    rw [number, ← UInt16.toNat_inj, UInt16.toNat_ofNat']
    omega
  rw [putBe32, upper, lower]

theorem join32_putBe32 (v : UInt32) :
    join32 (UInt16.ofNat (v.toNat / 65536)) (UInt16.ofNat v.toNat) = v := by
  have small : v.toNat < 4294967296 := v.toNat_lt
  rw [join32, ← UInt32.toNat_inj, UInt32.toNat_ofNat', UInt16.toNat_ofNat', UInt16.toNat_ofNat']
  omega

theorem exists_byte (c : Bytes) (long : 1 ≤ c.length) :
    ∃ b rest, c = [b] ++ rest ∧ rest.length + 1 = c.length := by
  cases c with
  | nil => exact absurd long (by decide)
  | cons b rest => exact ⟨b, rest, rfl, rfl⟩

theorem exists_be16 (c : Bytes) (long : 2 ≤ c.length) :
    ∃ v rest, c = putBe16 v ++ rest ∧ rest.length + 2 = c.length := by
  obtain ⟨hi, c1, rfl, _⟩ := exists_byte c (by omega)
  obtain ⟨lo, rest, rfl, _⟩ := exists_byte c1 (by simpa using long)
  exact ⟨join16 hi lo, rest, by rw [putBe16_join16]; rfl, rfl⟩

theorem exists_be32 (c : Bytes) (long : 4 ≤ c.length) :
    ∃ v rest, c = putBe32 v ++ rest ∧ rest.length + 4 = c.length := by
  obtain ⟨hi, c1, rfl, length⟩ := exists_be16 c (by omega)
  obtain ⟨lo, rest, rfl, _⟩ := exists_be16 c1 (by omega)
  exact ⟨join32 hi lo, rest, by rw [putBe32_join32, List.append_assoc], by omega⟩

/-! ## The order of numbers and bytes -/

/-- The order of byte strings of one length is decided by the last byte where all others agree. -/
theorem concat_lt_concat_iff {xs ys : Bytes} (same : xs.length = ys.length) (a b : UInt8) :
    xs ++ [a] < ys ++ [b] ↔ xs < ys ∨ xs = ys ∧ a < b := by
  induction xs generalizing ys with
  | nil =>
    obtain rfl := List.length_eq_zero_iff.mp same.symm
    simp [List.cons_lt_cons_iff]
  | cons x xs ih =>
    cases ys with
    | nil => cases same
    | cons y ys =>
      have tails := ih (Nat.succ_inj.mp same)
      simp only [List.cons_append, List.cons_lt_cons_iff, tails, List.cons.injEq]
      constructor
      · rintro (first | ⟨rfl, less | ⟨rfl, last⟩⟩)
        · exact .inl (.inl first)
        · exact .inl (.inr ⟨rfl, less⟩)
        · exact .inr ⟨⟨rfl, rfl⟩, last⟩
      · rintro ((first | ⟨rfl, less⟩) | ⟨⟨rfl, rfl⟩, last⟩)
        · exact .inl first
        · exact .inr ⟨rfl, .inl less⟩
        · exact .inr ⟨rfl, .inr ⟨rfl, last⟩⟩

/-- With the highest byte first, byte strings are ordered like their numbers. -/
theorem reverse_leBytes_lt_iff {width m n : Nat} (smallM : m < 256 ^ width)
    (smallN : n < 256 ^ width) :
    (leBytes width m).reverse < (leBytes width n).reverse ↔ m < n := by
  induction width generalizing m n with
  | zero =>
    rw [Nat.pow_zero] at smallM smallN
    simp only [leBytes, List.reverse_nil]
    exact iff_of_false (List.lt_irrefl []) (by omega)
  | succ width ih =>
    rw [Nat.pow_succ] at smallM smallN
    have quotientM : m / 256 < 256 ^ width := Nat.div_lt_of_lt_mul (by rwa [Nat.mul_comm])
    have quotientN : n / 256 < 256 ^ width := Nat.div_lt_of_lt_mul (by rwa [Nat.mul_comm])
    have lengths : (leBytes width (m / 256)).reverse.length =
        (leBytes width (n / 256)).reverse.length := by
      rw [List.length_reverse, List.length_reverse, length_leBytes, length_leBytes]
    have sameBytes : (leBytes width (m / 256)).reverse = (leBytes width (n / 256)).reverse ↔
        m / 256 = n / 256 := by
      constructor
      · intro same
        rw [← leNat_leBytes quotientM, List.reverse_inj.mp same, leNat_leBytes quotientN]
      · intro same
        rw [same]
    rw [leBytes, leBytes, List.reverse_cons, List.reverse_cons, concat_lt_concat_iff lengths,
      ih quotientM quotientN, sameBytes, UInt8.lt_iff_toNat_lt, UInt8.toNat_ofNat',
      UInt8.toNat_ofNat']
    omega

end Wire
