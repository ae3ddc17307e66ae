import Mathlib.Data.Prod.Lex
import Mathlib.Order.Basic
import ScrubbingGateway.Control.NodeConfig

/-!
# The networks of the deny tables

The values of the `CIDR` columns of `blacklist_entry` and `whitelist_entry`, the order PostgreSQL
sorts them in, and `_digest` of `feed_reconcile.py`, the hash of a joined list of them.
-/

namespace ScrubbingGateway.Control

/-- An IPv4 network without host bits: `parse_ipv4_cidr` lets nothing else into the tables. -/
structure Cidr where
  address : UInt32
  prefixlen : Fin 33
  canonical : networkAddress address prefixlen = address
deriving DecidableEq

namespace Cidr

theorem canonical_host (address : UInt32) : networkAddress address 32 = address := by
  simp [networkAddress]

theorem canonical_nine : networkAddress 0x09000000 8 = 0x09000000 := by
  decide

theorem canonical_ten : networkAddress 0x0A000000 8 = 0x0A000000 := by
  decide

theorem canonical_testNet3 : networkAddress 0xCB007100 24 = 0xCB007100 := by
  decide

def host (address : UInt32) : Cidr := ⟨address, 32, canonical_host address⟩

def network (c : Cidr) : IpNetwork := .v4 c.address c.prefixlen

def text (c : Cidr) : String := c.network.text

/-- The operator `&&`: one of the two contains the other. -/
def overlaps (a b : Cidr) : Bool :=
  networkAddress a.address (min a.prefixlen b.prefixlen) ==
    networkAddress b.address (min a.prefixlen b.prefixlen)

/-- `ORDER BY source_cidr`. On networks without host bits the comparison of the common bits, then
of the lengths, then of the addresses is the one of the addresses, then of the lengths. -/
def sortKey (c : Cidr) : Nat ×ₗ Nat := toLex (c.address.toNat, c.prefixlen.val)

theorem sortKey_injective : Function.Injective sortKey := by
  rintro ⟨a, p, ha⟩ ⟨b, q, hb⟩ same
  simp only [sortKey, EmbeddingLike.apply_eq_iff_eq, Prod.mk.injEq] at same
  obtain ⟨address, prefixlen⟩ := same
  obtain rfl := UInt32.toNat_inj.mp address
  obtain rfl := Fin.ext prefixlen
  rfl

instance : LinearOrder Cidr := LinearOrder.lift' sortKey sortKey_injective

end Cidr

/-! ## Texts -/

/-- Joining words that do not contain the separator loses nothing, unless the only word is empty. -/
theorem intercalate_injective {α : Type} [DecidableEq α] {sep : α} {xs ys : List (List α)}
    (plainLeft : ∀ w ∈ xs, sep ∉ w ∧ w ≠ []) (plainRight : ∀ w ∈ ys, sep ∉ w ∧ w ≠ [])
    (same : [sep].intercalate xs = [sep].intercalate ys) : xs = ys := by
  have joined (ws : List (List α)) (plain : ∀ w ∈ ws, sep ∉ w ∧ w ≠ []) (some : ws ≠ []) :
      [sep].intercalate ws ≠ [] := by
    obtain ⟨w, rest, rfl⟩ := List.exists_cons_of_ne_nil some
    have first := (plain w List.mem_cons_self).2
    cases rest <;> simp [List.intercalate, first]
  have splits (ws : List (List α)) (plain : ∀ w ∈ ws, sep ∉ w ∧ w ≠ []) (some : ws ≠ []) :
      ([sep].intercalate ws).splitOn sep = ws :=
    List.splitOn_intercalate sep (fun w member => (plain w member).1) some
  by_cases left : xs = []
  · by_contra other
    refine joined ys plainRight (fun right => other (left.trans right.symm)) ?_
    rw [← same, left]
    rfl
  · by_cases right : ys = []
    · refine absurd ?_ (joined xs plainLeft left)
      rw [same, right]
      rfl
    · rw [← splits xs plainLeft left, same, splits ys plainRight right]

theorem not_mem_toDigits {c : Char} (other : c.isDigit = false) (n : Nat) :
    c ∉ Nat.toDigits 10 n := by
  intro member
  rw [Nat.isDigit_of_mem_toDigits (by decide) (by decide) member] at other
  cases other

namespace Cidr

/-- The four decimal octets, the highest first. -/
def octets (c : Cidr) : List (List Char) :=
  [3, 2, 1, 0].map fun i => Nat.toDigits 10 (c.address.toNat / 2 ^ (8 * i) % 256)

theorem toList_text (c : Cidr) :
    c.text.toList = ['/'].intercalate
      [['.'].intercalate c.octets, Nat.toDigits 10 c.prefixlen.val] := by
  simp [text, network, IpNetwork.text, octets, List.intercalate, Nat.toList_repr]

theorem octet_not_mem {c : Cidr} {sep : Char} (other : sep.isDigit = false) :
    ∀ w ∈ c.octets, sep ∉ w ∧ w ≠ [] := by
  intro w member
  simp only [octets, List.mem_map] at member
  obtain ⟨i, _, rfl⟩ := member
  exact ⟨not_mem_toDigits other _, Nat.toDigits_ne_nil⟩

theorem not_mem_octets (c : Cidr) {sep : Char} (digit : sep.isDigit = false) (dot : sep ≠ '.') :
    sep ∉ ['.'].intercalate c.octets := by
  simp only [octets, List.map_cons, List.map_nil, List.intercalate, List.intersperse_cons_cons,
    List.intersperse_singleton, List.flatten_cons, List.flatten_nil, List.append_nil,
    List.mem_append, List.mem_singleton, dot, false_or, not_or]
  exact ⟨not_mem_toDigits digit _, not_mem_toDigits digit _, not_mem_toDigits digit _,
    not_mem_toDigits digit _⟩

theorem text_ne_nil (c : Cidr) : c.text.toList ≠ [] := by
  rw [toList_text]
  simp [List.intercalate]

theorem newline_not_mem_text (c : Cidr) : '\n' ∉ c.text.toList := by
  rw [toList_text]
  simp only [List.intercalate, List.intersperse_cons_cons, List.intersperse_singleton,
    List.flatten_cons, List.flatten_nil, List.append_nil, List.mem_append, List.mem_singleton,
    not_or]
  exact ⟨c.not_mem_octets (by decide) (by decide), by decide, not_mem_toDigits (by decide) _⟩

theorem address_eq_of_octets {a b : Nat} (small : a < 2 ^ 32) (small' : b < 2 ^ 32)
    (same : ∀ i ∈ [3, 2, 1, 0], a / 2 ^ (8 * i) % 256 = b / 2 ^ (8 * i) % 256) : a = b := by
  have o3 := same 3 (by simp)
  have o2 := same 2 (by simp)
  have o1 := same 1 (by simp)
  have o0 := same 0 (by simp)
  omega

theorem text_injective : Function.Injective text := by
  intro a b same
  have lists := congrArg String.toList same
  rw [toList_text, toList_text] at lists
  have plain (c : Cidr) :
      ∀ w ∈ [['.'].intercalate c.octets, Nat.toDigits 10 c.prefixlen.val], '/' ∉ w ∧ w ≠ [] := by
    simp only [List.mem_cons, List.not_mem_nil, or_false, forall_eq_or_imp, forall_eq]
    exact ⟨⟨c.not_mem_octets (by decide) (by decide), by simp [octets, List.intercalate]⟩,
      not_mem_toDigits (by decide) _, Nat.toDigits_ne_nil⟩
  have parts := intercalate_injective (plain a) (plain b) lists
  simp only [List.cons.injEq, and_true] at parts
  obtain ⟨addresses, lengths⟩ := parts
  have digits := intercalate_injective (octet_not_mem (by decide)) (octet_not_mem (by decide))
    addresses
  have number {m n : Nat} (eq : Nat.toDigits 10 m = Nat.toDigits 10 n) : m = n :=
    by rw [← Nat.ofDigitChars_toDigits (b := 10) (n := m) (by decide) (by decide), eq,
      Nat.ofDigitChars_toDigits (by decide) (by decide)]
  refine sortKey_injective ?_
  have address : a.address.toNat = b.address.toNat := by
    refine address_eq_of_octets a.address.toNat_lt b.address.toNat_lt ?_
    intro i member
    exact number (List.map_inj_left.mp digits i member)
  rw [sortKey, sortKey, address, number lengths]

end Cidr

/-! ## The digest -/

section Digest

variable {Digest : Type} (sha256 : String → Digest) (xs ys : List Cidr)

/-- What is hashed. -/
def digestInput (cidrs : List Cidr) : String := "\n".intercalate (cidrs.map Cidr.text)

def digest (cidrs : List Cidr) : Digest := sha256 (digestInput cidrs)

/-- The hash function has no collision on what is hashed of these two lists. -/
def NoCollision : Prop :=
  sha256 (digestInput xs) = sha256 (digestInput ys) → digestInput xs = digestInput ys

instance [DecidableEq Digest] : Decidable (NoCollision sha256 xs ys) :=
  inferInstanceAs (Decidable (_ → _))

variable {sha256 xs ys}

theorem NoCollision.digest_eq_iff (apart : NoCollision sha256 xs ys) :
    digest sha256 xs = digest sha256 ys ↔ xs = ys := by
  refine ⟨fun same => ?_, congrArg _⟩
  have texts := congrArg String.toList (apart same)
  rw [digestInput, digestInput, String.toList_intercalate, String.toList_intercalate, List.map_map,
    List.map_map] at texts
  have plain (list : List Cidr) :
      ∀ w ∈ list.map (String.toList ∘ Cidr.text), '\n' ∉ w ∧ w ≠ [] := by
    intro w member
    obtain ⟨c, _, rfl⟩ := List.mem_map.mp member
    exact ⟨c.newline_not_mem_text, c.text_ne_nil⟩
  have lists := intercalate_injective (plain xs) (plain ys) texts
  exact List.map_injective_iff.mpr
    (fun _ _ eq => Cidr.text_injective (String.toList_inj.mp eq)) lists

end Digest

end ScrubbingGateway.Control
