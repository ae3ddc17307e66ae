import Mathlib.Algebra.GroupWithZero.Nat
import Mathlib.Data.List.AList
import Mathlib.Data.List.Induction
import Mathlib.Data.List.Sort
import Mathlib.Data.Set.Card

/-!
# Tables with a primary key

Database tables and kernel hash maps are association lists with distinct keys.
-/

abbrev Table (K R : Type) : Type := AList (fun _ : K => R)

namespace Table

variable {K R : Type} [DecidableEq K]

variable (t : Table K R) (keep : R → Bool)

theorem lookup_insert_ite (k k' : K) (r : R) :
    (t.insert k r).lookup k' = if k' = k then some r else t.lookup k' := by
  split
  next same =>
    subst same
    exact AList.lookup_insert t
  next other => exact AList.lookup_insert_ne other

theorem lookup_erase_ite (k k' : K) :
    (t.erase k).lookup k' = if k' = k then none else t.lookup k' := by
  split
  next same =>
    subst same
    exact AList.lookup_erase k' t
  next other => exact AList.lookup_erase_ne other

variable {k k' : K} {r : R}

theorem lookup_insert_eq_some {t : Table K R} {r' : R} :
    (t.insert k r).lookup k' = some r' ↔ k' = k ∧ r = r' ∨ k' ≠ k ∧ t.lookup k' = some r' := by
  rw [lookup_insert_ite]
  split <;> simp [*]

theorem lookup_erase_eq_some {t : Table K R} :
    (t.erase k).lookup k' = some r ↔ k' ≠ k ∧ t.lookup k' = some r := by
  rw [lookup_erase_ite]
  split <;> simp [*]

theorem length_insert (k : K) (r : R) :
    (t.insert k r).entries.length =
      if k ∈ t then t.entries.length else t.entries.length + 1 := by
  have size (t : Table K R) : t.keys.length = t.entries.length := List.length_map _
  rw [← size, AList.keys_insert, List.length_cons, ← size]
  split
  next present =>
    have positive : 0 < t.keys.length := List.length_pos_of_mem present
    rw [List.length_erase_of_mem present]
    omega
  next absent => rw [List.erase_of_not_mem absent]

omit [DecidableEq K] in
/-- A table that holds listed keys only has fewer rows than the list while one of them is missing. -/
theorem length_lt_of_listed {t : Table K R} {keys : List K} (inside : ∀ k ∈ t, k ∈ keys)
    (listed : k ∈ keys) (absent : k ∉ t) : t.entries.length < keys.length := by
  -- with the new key the table would still hold distinct listed keys only
  have distinct : (k :: t.keys).Nodup := List.nodup_cons.mpr ⟨absent, t.nodupKeys⟩
  have sub : k :: t.keys ⊆ keys := by
    intro k' member
    rcases List.mem_cons.mp member with rfl | old
    · exact listed
    · exact inside k' old
  have fits := (List.subperm_of_subset distinct sub).length_le
  have size : t.keys.length = t.entries.length := List.length_map _
  rw [List.length_cons, size] at fits
  exact fits

/-- The table of a list of keyed rows. Of several rows with one key the last one counts. -/
def ofPairs (list : List (K × R)) : Table K R :=
  list.foldl (fun t e => t.insert e.1 e.2) ∅

theorem lookup_ofPairs (list : List (K × R)) (k : K) :
    (ofPairs list).lookup k = (list.reverse.find? fun e => e.1 = k).map Prod.snd := by
  induction list using List.reverseRecOn with
  | nil => rfl
  | append_singleton list e ih =>
    rw [ofPairs, List.foldl_append, List.foldl_cons, List.foldl_nil, lookup_insert_ite,
      List.reverse_append, List.reverse_singleton, List.singleton_append, List.find?_cons]
    by_cases same : k = e.1
    · simp [same]
    · simp only [same, Ne.symm same, if_false, decide_false]
      exact ih

theorem mem_of_lookup_ofPairs {list : List (K × R)} (found : (ofPairs list).lookup k = some r) :
    (k, r) ∈ list := by
  rw [lookup_ofPairs, Option.map_eq_some_iff] at found
  obtain ⟨⟨k', r'⟩, first, rfl⟩ := found
  have key := List.find?_some first
  simp only [decide_eq_true_eq] at key
  subst key
  exact List.mem_reverse.mp (List.mem_of_find?_eq_some first)

theorem lookup_ofPairs_eq_none {list : List (K × R)} :
    (ofPairs list).lookup k = none ↔ ∀ r, (k, r) ∉ list := by
  rw [lookup_ofPairs, Option.map_eq_none_iff, List.find?_eq_none]
  constructor
  · intro none r member
    exact none (k, r) (List.mem_reverse.mpr member) (decide_eq_true rfl)
  · rintro none ⟨k', r⟩ member same
    exact none r (of_decide_eq_true same ▸ List.mem_reverse.mp member)

/-- The table without the rows a predicate rejects. -/
def filterRows : Table K R :=
  ⟨t.entries.filter fun e => keep e.2,
    (List.filter_sublist.map Sigma.fst).nodup t.nodupKeys⟩

/-- The rows a predicate selects, in the order a comparison on keyed rows gives. -/
def selectKeys (le : K × R → K × R → Bool) : List K :=
  ((t.entries.map fun e => (e.1, e.2)).filter fun e => keep e.2).insertionSort
    (fun a b => le a b = true) |>.map Prod.fst

section

variable (le : K × R → K × R → Bool)

theorem mem_selectKeys (k : K) :
    k ∈ t.selectKeys keep le ↔ ∃ r, t.lookup k = some r ∧ keep r = true := by
  simp only [selectKeys, List.mem_map, List.mem_insertionSort, List.mem_filter, Prod.exists,
    exists_and_right, exists_eq_right]
  constructor
  · rintro ⟨r, ⟨e, member, same⟩, kept⟩
    refine ⟨r, ?_, kept⟩
    cases same
    exact AList.mem_lookup_iff.mpr member
  · rintro ⟨r, found, kept⟩
    exact ⟨r, ⟨⟨k, r⟩, AList.mem_lookup_iff.mp found, rfl⟩, kept⟩

omit [DecidableEq K] in
theorem length_selectKeys_le : (t.selectKeys keep le).length ≤ t.entries.length := by
  rw [selectKeys, List.length_map, List.length_insertionSort]
  exact (List.length_filter_le _ _).trans_eq (List.length_map _)

omit [DecidableEq K] in
theorem nodup_selectKeys : (t.selectKeys keep le).Nodup := by
  have perm := (List.perm_insertionSort (fun a b => le a b = true)
    ((t.entries.map fun e => (e.1, e.2)).filter fun e => keep e.2)).map Prod.fst
  rw [selectKeys, perm.nodup_iff]
  have sub : List.Sublist
      (((t.entries.map fun e => (e.1, e.2)).filter fun e => keep e.2).map Prod.fst)
      ((t.entries.map fun e => (e.1, e.2)).map Prod.fst) := List.filter_sublist.map _
  refine sub.nodup ?_
  rw [List.map_map]
  exact t.nodupKeys

end

/-- The table without the keyed rows a predicate rejects. -/
def filterKeyed (keep : K → R → Bool) : Table K R :=
  ⟨t.entries.filter fun e => keep e.1 e.2,
    (List.filter_sublist.map Sigma.fst).nodup t.nodupKeys⟩

theorem lookup_filterKeyed (keep : K → R → Bool) (k : K) :
    (t.filterKeyed keep).lookup k = (t.lookup k).filter (keep k) := by
  ext r
  rw [Option.filter_eq_some_iff]
  simp only [← Option.mem_def, AList.mem_lookup_iff, filterKeyed, List.mem_filter]

theorem lookup_filterRows (k : K) : (t.filterRows keep).lookup k = (t.lookup k).filter keep :=
  lookup_filterKeyed t (fun _ => keep) k

section Counting

variable (P : R → Prop)

theorem finite_keys : {k | ∃ r, t.lookup k = some r ∧ P r}.Finite := by
  refine (List.finite_toSet t.keys).subset ?_
  rintro k ⟨r, found, _⟩
  exact AList.mem_keys.mp (AList.lookup_isSome.mp (Option.isSome_of_mem found))

/-- How many keys have a row with a property. -/
theorem ncard_keys [DecidablePred P] :
    {k | ∃ r, t.lookup k = some r ∧ P r}.ncard = t.entries.countP fun e => P e.2 := by
  have same : {k | ∃ r, t.lookup k = some r ∧ P r} =
      ((t.filterRows P).entries.keys.toFinset : Set K) := by
    ext k
    rw [List.coe_toFinset, Set.mem_ofPred_eq, Set.mem_ofPred_eq, ← AList.keys, ← AList.mem_keys,
      ← AList.lookup_isSome, lookup_filterRows]
    cases t.lookup k <;> simp
  rw [same, Set.ncard_coe_finset, List.toFinset_card_of_nodup (t.filterRows P).nodupKeys,
    List.countP_eq_length_filter]
  exact List.length_map _

end Counting

variable {R' : Type}

omit [DecidableEq K] in
theorem keys_mapped (f : R → R') :
    (t.entries.map fun e => (⟨e.1, f e.2⟩ : Sigma fun _ : K => R')).keys = t.keys := by
  simp [List.keys, AList.keys]

/-- The table with every row replaced. -/
def mapRows (f : R → R') : Table K R' :=
  ⟨t.entries.map fun e => ⟨e.1, f e.2⟩, by rw [List.NodupKeys, keys_mapped]; exact t.nodupKeys⟩

/-- The table with every row replaced by one that depends on its key. -/
def mapKeyed (f : K → R → R) : Table K R where
  entries := t.entries.map fun e => ⟨e.1, f e.1 e.2⟩
  nodupKeys := by
    have keys : (t.entries.map fun e => (⟨e.1, f e.1 e.2⟩ : Sigma fun _ : K => R)).keys = t.keys := by
      simp [List.keys, AList.keys]
    rw [List.NodupKeys, keys]
    exact t.nodupKeys

theorem lookup_mapKeyed (f : K → R → R) (k : K) :
    (t.mapKeyed f).lookup k = (t.lookup k).map (f k) := by
  ext r
  simp only [← Option.mem_def, Option.mem_map, AList.mem_lookup_iff, mapKeyed, List.mem_map]
  constructor
  · rintro ⟨e, member, same⟩
    cases same
    exact ⟨e.2, member, rfl⟩
  · rintro ⟨r, member, rfl⟩
    exact ⟨⟨k, r⟩, member, rfl⟩

theorem lookup_mapRows (f : R → R) (k : K) : (t.mapRows f).lookup k = (t.lookup k).map f :=
  lookup_mapKeyed t (fun _ => f) k

/-- The rows with their keys. -/
def pairs : List (K × R) := t.entries.map fun e => (e.1, e.2)

theorem mem_pairs {t : Table K R} : (k, r) ∈ t.pairs ↔ t.lookup k = some r := by
  rw [pairs, List.mem_map, ← Option.mem_def, AList.mem_lookup_iff]
  constructor
  · rintro ⟨e, member, same⟩
    cases same
    exact member
  · intro member
    exact ⟨_, member, rfl⟩

omit [DecidableEq K] in
theorem pairs_filterRows : (t.filterRows keep).pairs = t.pairs.filter fun e => keep e.2 := by
  simp only [pairs, filterRows, List.filter_map, Function.comp_def]

variable {t₁ t₂ : Table K R}

omit [DecidableEq K] in
/-- Tables that agree on the rows a predicate selects answer every query for such rows alike. -/
theorem filter_pairs_congr {keep : R → Bool} (same : t₁.filterRows keep = t₂.filterRows keep)
    {cond : K × R → Bool} (only : ∀ e, cond e = true → keep e.2 = true) :
    t₁.pairs.filter cond = t₂.pairs.filter cond := by
  have narrow (t : Table K R) : t.pairs.filter cond = (t.filterRows keep).pairs.filter cond := by
    rw [pairs_filterRows, List.filter_filter]
    apply List.filter_congr
    intro e _
    cases holds : cond e with
    | false => rfl
    | true => rw [only e holds, Bool.and_self]
  rw [narrow t₁, narrow t₂, same]

theorem filter_lookup_congr {keep : R → Bool} (same : t₁.filterRows keep = t₂.filterRows keep)
    (k : K) : (t₁.lookup k).filter keep = (t₂.lookup k).filter keep := by
  rw [← lookup_filterRows, ← lookup_filterRows, same]

/-- No two rows agree in a column. -/
def Unique {C : Type} (column : R → C) : Prop :=
  ∀ i j a b, t.lookup i = some a → t.lookup j = some b → column a = column b → i = j

/-- A row whose value is new, or that takes the place of the row with its value. -/
theorem Unique.insert {C : Type} {column : R → C} {t : Table K R} (unique : t.Unique column)
    (free : ∀ i a, t.lookup i = some a → column a = column r → i = k) :
    Unique (t.insert k r) column := by
  intro i j a b left right same
  rcases lookup_insert_eq_some.mp left with ⟨isNew, rfl⟩ | ⟨_, left⟩ <;>
    rcases lookup_insert_eq_some.mp right with ⟨isNew', rfl⟩ | ⟨_, right⟩
  · exact isNew.trans isNew'.symm
  · exact isNew.trans (free j b right same.symm).symm
  · exact (free i a left same).trans isNew'.symm
  · exact unique i j a b left right same

/-- The sum of a quantity over the rows. -/
def total (f : R → Nat) : Nat := (t.entries.map fun e => f e.2).sum

/-- Writing a row replaces its old share of the sum by the new one. -/
theorem total_insert (f : R → Nat) (k : K) (r : R) :
    total (t.insert k r) f + ((t.lookup k).map f).getD 0 = t.total f + f r := by
  unfold total
  rw [AList.entries_insert, List.map_cons, List.sum_cons]
  by_cases present : k ∈ t.keys
  · -- the old row stands between the rows that stay
    obtain ⟨old, before, after, fresh, split, erased⟩ := List.exists_of_kerase present
    have found : t.lookup k = some old := by
      rw [← Option.mem_def, AList.mem_lookup_iff, split]
      exact List.mem_append_right _ List.mem_cons_self
    rw [erased, found, split]
    simp only [List.map_append, List.map_cons, List.sum_append, List.sum_cons, Option.map_some,
      Option.getD_some]
    omega
  · have missing : t.lookup k = none := AList.lookup_eq_none.mpr present
    rw [List.kerase_of_notMem_keys present, missing]
    simp only [Option.map_none, Option.getD_none]
    omega

end Table
