import ScrubbingGateway.Apply.Codec
import ScrubbingGateway.Apply.DenyMembership
import ScrubbingGateway.Control.GlobalDeny

/-!
# The writer and the parser of the global deny list agree

`serialize_global_snapshot` of `applier.py` sorts the packed entries as Python tuples, and
`parse_global_deny` accepts entries in strictly increasing order only. The two orders are one, so a
set of networks and a revision have a single accepted encoding.
-/

namespace ScrubbingGateway.Control

open Wire

/-! ## The writer -/

/-- `_strict_ipv4_cidr_parts`: host bits raise. A network of version 6 is taken to have none. -/
def strictIpv4CidrParts : IpNetwork → Except SnapshotError PackedSource
  | .v4 address prefixlen =>
    if networkAddress address prefixlen = address then .ok ⟨prefixlen.val, address⟩
    else .error (.valueError ((IpNetwork.v4 address prefixlen).text ++ " has host bits set"))
  | .v6 text => .error (.valueError ("global deny snapshots require IPv4 CIDRs: " ++ text))

/-- The order of the tuples `(prefixlen, packed)`: the lengths first, then the bytes. -/
def PackedSource.TupleLe (a b : PackedSource) : Prop :=
  a.prefixlen < b.prefixlen ∨ a.prefixlen = b.prefixlen ∧ beBytes a.addr ≤ beBytes b.addr

instance : DecidableRel PackedSource.TupleLe := fun _ _ => inferInstanceAs (Decidable (_ ∨ _))

def serializeGlobalSnapshot (revision : Int) (cidrs : List IpNetwork) :
    Except SnapshotError Bytes :=
  if cidrs.length > maxGlobalDenyEntries then
    .error (.valueError ("Global deny entry limit is " ++ toString maxGlobalDenyEntries))
  else do
    let parts ← cidrs.mapM strictIpv4CidrParts
    let entries := parts.insertionSort PackedSource.TupleLe
    let header ← structPack [.uint 4 4, .uint 4 2, .uint 8 revision, .uint 4 entries.length]
    let body ← packAll packSource entries
    return magic ++ header ++ body

/-! ## The order of the tuples -/

theorem beBytes_lt_iff (a b : UInt32) : beBytes a < beBytes b ↔ a < b := by
  rw [beBytes, beBytes, reverse_leBytes_lt_iff a.toNat_lt b.toNat_lt, UInt32.lt_iff_toNat_lt]

namespace PackedSource

/-- The numbers that decide the order. -/
def key (source : PackedSource) : Int ×ₗ Nat := toLex (source.prefixlen, source.addr.toNat)

theorem key_injective : Function.Injective key := by
  rintro ⟨p, a⟩ ⟨q, b⟩ same
  simp only [key, EmbeddingLike.apply_eq_iff_eq, Prod.mk.injEq] at same
  obtain ⟨rfl, addr⟩ := same
  rw [UInt32.toNat_inj.mp addr]

theorem tupleLe_iff {a b : PackedSource} : a.TupleLe b ↔ a.key ≤ b.key := by
  have bytes : beBytes a.addr ≤ beBytes b.addr ↔ a.addr.toNat ≤ b.addr.toNat := by
    rw [← UInt32.le_iff_toNat_le, ← List.not_lt, beBytes_lt_iff, UInt32.not_lt]
  rw [TupleLe, bytes, key, key, Prod.Lex.toLex_le_toLex]

instance : Std.Total TupleLe :=
  ⟨fun a b => (le_total a.key b.key).imp tupleLe_iff.mpr tupleLe_iff.mpr⟩

instance : IsTrans PackedSource TupleLe :=
  ⟨fun _ _ _ ab bc => tupleLe_iff.mpr ((tupleLe_iff.mp ab).trans (tupleLe_iff.mp bc))⟩

instance : Std.Antisymm TupleLe :=
  ⟨fun _ _ ab ba => key_injective (le_antisymm (tupleLe_iff.mp ab) (tupleLe_iff.mp ba))⟩

theorem insertionSort_eq_of_perm {xs ys : List PackedSource} (perm : xs.Perm ys) :
    xs.insertionSort TupleLe = ys.insertionSort TupleLe := by
  have sorted : (xs.insertionSort TupleLe).Perm (ys.insertionSort TupleLe) :=
    (List.perm_insertionSort _ _).trans (perm.trans (List.perm_insertionSort _ _).symm)
  exact sorted.eq_of_pairwise' (List.pairwise_insertionSort _ _) (List.pairwise_insertionSort _ _)

end PackedSource

end ScrubbingGateway.Control

namespace ScrubbingGateway.Apply

open Wire Raise DataPlane Control

/-! ## Networks and entries -/

def denyEntry (c : Cidr) : CfgSource := ⟨UInt32.ofNat c.prefixlen.val, c.address⟩

theorem toNat_prefixlen_denyEntry (c : Cidr) : (denyEntry c).prefixlen.toNat = c.prefixlen.val :=
  UInt32.toNat_ofNat_of_lt' (c.prefixlen.isLt.trans (by decide))

theorem packed_denyEntry (c : Cidr) : (denyEntry c).packed = ⟨c.prefixlen.val, c.address⟩ := by
  rw [CfgSource.packed, toNat_prefixlen_denyEntry]
  rfl

theorem packed_injective : Function.Injective CfgSource.packed := by
  rintro ⟨p, a⟩ ⟨q, b⟩ same
  simp only [CfgSource.packed, PackedSource.mk.injEq, Int.natCast_inj] at same
  obtain ⟨lengths, rfl⟩ := same
  rw [UInt32.toNat_inj.mp lengths]

theorem denyEntry_injective : Function.Injective denyEntry := by
  rintro ⟨a, p, _⟩ ⟨b, q, _⟩ same
  have packed := congrArg CfgSource.packed same
  rw [packed_denyEntry, packed_denyEntry] at packed
  simp only [PackedSource.mk.injEq, Int.natCast_inj] at packed
  obtain ⟨lengths, rfl⟩ := packed
  obtain rfl := Fin.ext lengths
  rfl

theorem networkAddress_eq_iff {address : UInt32} {prefixlen : Fin 33} :
    networkAddress address prefixlen = address ↔
      address.toNat % 2 ^ (32 - prefixlen.val) = 0 := by
  have small : address.toNat / 2 ^ (32 - prefixlen.val) * 2 ^ (32 - prefixlen.val) < 2 ^ 32 :=
    (Nat.div_mul_le_self _ _).trans_lt address.toNat_lt
  have split := Nat.div_add_mod' address.toNat (2 ^ (32 - prefixlen.val))
  rw [← UInt32.toNat_inj, networkAddress, UInt32.toNat_ofNat_of_lt' small]
  omega

theorem globalEntryValid_iff {e : CfgSource} :
    globalEntryValid e = true ↔ ∃ c, denyEntry c = e := by
  constructor
  · intro valid
    obtain ⟨short, clear⟩ := canonical_of_valid valid
    refine ⟨⟨e.addr, ⟨e.prefixlen.toNat, Nat.lt_succ_of_le short⟩,
      networkAddress_eq_iff.mpr clear⟩, ?_⟩
    rw [denyEntry, UInt32.ofNat_toNat]
  · rintro ⟨c, rfl⟩
    have length := toNat_prefixlen_denyEntry c
    have short : (denyEntry c).prefixlen.toNat ≤ 32 := by
      rw [length]
      exact Nat.le_of_lt_succ c.prefixlen.isLt
    rw [globalEntryValid, Bool.and_eq_true_iff, beq_iff_eq, decide_eq_true_eq,
      UInt32.le_iff_toNat_le, ← UInt32.toNat_inj, UInt32.toNat_and, toNat_not_prefixMask short,
      Nat.and_two_pow_sub_one_eq_mod, length]
    exact ⟨Nat.le_of_lt_succ c.prefixlen.isLt, networkAddress_eq_iff.mp c.canonical⟩

/-- The helper compares entries as the worker's tuples are ordered, and leaves no room for equal
ones. -/
theorem globalEntriesSorted_iff {previous current : CfgSource} :
    globalEntriesSorted previous current = true ↔ previous.packed.key < current.packed.key := by
  have lengths : previous.prefixlen = current.prefixlen ↔
      (previous.prefixlen.toNat : Int) = current.prefixlen.toNat := by
    rw [Int.natCast_inj, UInt32.toNat_inj]
  rw [PackedSource.key, PackedSource.key, Prod.Lex.toLex_lt_toLex, globalEntriesSorted]
  simp only [CfgSource.packed]
  split
  next other =>
    rw [decide_eq_true_eq, UInt32.lt_iff_toNat_lt, Int.ofNat_lt, ← lengths]
    simp only [other, false_and, or_false]
  next same =>
    obtain same := not_not.mp same
    rw [decide_eq_true_eq, UInt32.lt_iff_toNat_lt, same]
    simp only [lt_irrefl, false_or, true_and]

/-- The loop of the parser checks every entry, and each one against the entry before it. -/
theorem globalEntriesOk_iff_isChain {previous : Option CfgSource} {entries : List CfgSource} :
    globalEntriesOk previous entries = true ↔
      (∀ e ∈ entries, globalEntryValid e = true) ∧
      (previous.toList ++ entries).IsChain fun a b => a.packed.key < b.packed.key := by
  induction entries generalizing previous with
  | nil => cases previous <;> simp [globalEntriesOk]
  | cons e rest ih =>
    have step : globalEntriesOk previous (e :: rest) = true ↔
        (globalEntryValid e = true ∧ previous.all (globalEntriesSorted · e) = true) ∧
          globalEntriesOk (some e) rest = true := by
      simp only [globalEntriesOk, Bool.and_eq_true]
    rw [step, ih, List.forall_mem_cons]
    cases previous with
    | none => simp only [Option.all_none, Option.toList, List.nil_append, List.cons_append]; tauto
    | some p =>
      simp only [Option.all_some, globalEntriesSorted_iff, Option.toList, List.nil_append,
        List.cons_append, List.isChain_cons_cons]
      tauto

/-- What the parser accepts are the entries of networks in strictly increasing order. -/
theorem globalEntriesOk_iff {entries : List CfgSource} :
    globalEntriesOk none entries = true ↔
      ∃ cidrs : List Cidr, cidrs.map denyEntry = entries ∧
        cidrs.Pairwise fun a b => (denyEntry a).packed.key < (denyEntry b).packed.key := by
  have trans : IsTrans CfgSource fun a b => a.packed.key < b.packed.key :=
    ⟨fun _ _ _ ab bc => ab.trans bc⟩
  rw [globalEntriesOk_iff_isChain, Option.toList_none, List.nil_append,
    List.isChain_iff_pairwise]
  simp only [globalEntryValid_iff]
  constructor
  · rintro ⟨valid, sorted⟩
    obtain ⟨cidrs, rfl⟩ : entries ∈ Set.range (List.map denyEntry) := by
      rw [Set.range_list_map]
      exact valid
    rw [List.pairwise_map] at sorted
    exact ⟨cidrs, rfl, sorted⟩
  · rintro ⟨cidrs, rfl, sorted⟩
    rw [List.pairwise_map, List.forall_mem_map]
    exact ⟨fun c _ => ⟨c, rfl⟩, sorted⟩

/-! ## The parser -/

/-- The body of a deny snapshot. -/
def putDeny (deny : UInt64 × List CfgSource) : Bytes :=
  leBytes 8 deny.1.toNat ++ (leBytes 4 deny.2.length ++ deny.2.flatMap putSource)

theorem length_putSource (source : CfgSource) : (putSource source).length = globalEntrySize := by
  simp [putSource, beBytes, length_leBytes, globalEntrySize]

theorem length_flatMap_putSource (entries : List CfgSource) :
    (entries.flatMap putSource).length = globalEntrySize * entries.length := by
  induction entries with
  | nil => rfl
  | cons e rest ih =>
    rw [List.flatMap_cons, List.length_append, length_putSource, ih, List.length_cons]
    ring

theorem rdU32le_count {β : Type} {n : Nat} (small : n < 2 ^ 32) (rest : Bytes)
    (f : UInt32 × Bytes → Option β) :
    rdU32le (leBytes 4 n ++ rest) >>= f = f (UInt32.ofNat n, rest) := by
  have count : (UInt32.ofNat n).toNat = n := UInt32.toNat_ofNat_of_lt' small
  conv_lhs => rw [← count]
  exact rdU32le_exact.bind_put trivial rest f

theorem parseGlobalDeny_exact : Exact parseGlobalDeny putDeny fun deny =>
    deny.2.length ≤ globalDenyMaxEntries ∧ globalEntriesOk none deny.2 = true := by
  rintro c ⟨revision, entries⟩ rest
  constructor
  · intro parsed
    simp only [parseGlobalDeny, rdU64le_exact.bind_some, rdU32le_exact.bind_some,
      Option.ite_none_left_eq_some, (readMany_exact parseSource_exact _).bind_some,
      Option.ite_none_right_eq_some, Option.pure_def, Option.some_inj, Prod.mk.injEq,
      true_and] at parsed
    obtain ⟨_, _, rfl, count, _, rfl, bounded, _, _, ⟨⟨length, _⟩, rfl⟩, ok, ⟨rfl, rfl⟩, rfl⟩ :=
      parsed
    refine ⟨⟨length.trans_le (Nat.not_lt.mp (not_or.mp bounded).1), ok⟩, ?_⟩
    simp only [putDeny, length, List.append_assoc]
  · rintro ⟨⟨few, ok⟩, rfl⟩
    have small : entries.length < 2 ^ 32 := few.trans_lt (by decide)
    -- the entries themselves are long enough for their number
    have bounded : ¬ (entries.length > globalDenyMaxEntries ∨
        entries.length > (entries.flatMap putSource ++ rest).length / globalEntrySize) := by
      rw [List.length_append, length_flatMap_putSource,
        Nat.mul_add_div (by decide : 0 < globalEntrySize)]
      exact not_or.mpr ⟨Nat.not_lt.mpr few, Nat.not_lt.mpr (Nat.le_add_right _ _)⟩
    unfold parseGlobalDeny
    simp only [putDeny, List.append_assoc]
    rw [rdU64le_exact.bind_put trivial]
    dsimp only
    rw [rdU32le_count small]
    dsimp only
    rw [UInt32.toNat_ofNat_of_lt' small, if_neg bounded,
      (readMany_exact parseSource_exact _).bind_put ⟨rfl, fun _ _ => trivial⟩]
    dsimp only
    rw [if_pos ok]
    rfl

def putDenySnapshot (revision : UInt64) (entries : List CfgSource) : Bytes :=
  headed kindGlobalDeny (putDeny (revision, entries))

theorem length_putDenySnapshot (revision : UInt64) (entries : List CfgSource) :
    (putDenySnapshot revision entries).length = 28 + 8 * entries.length := by
  rw [putDenySnapshot, length_headed, putDeny]
  simp only [List.length_append, length_leBytes, length_flatMap_putSource, globalEntrySize]
  omega

/-- The parser accepts as a deny snapshot exactly the bytes of sorted entries, not too many of
them. -/
theorem parseSnapshot_globalDeny (bytes : Bytes) (node : NodeCfg) :
    parseSnapshot bytes = some node ∧ node.snapshotKind = kindGlobalDeny ↔
      node = ⟨schemaVersion, kindGlobalDeny, [], node.globalRevision, node.globalEntries⟩ ∧
      bytes = putDenySnapshot node.globalRevision node.globalEntries ∧
      node.globalEntries.length ≤ globalDenyMaxEntries ∧
      globalEntriesOk none node.globalEntries = true := by
  have other : ¬ kindGlobalDeny = kindServiceFull := by decide
  constructor
  · rintro ⟨parsed, isDeny⟩
    obtain ⟨kind, body, rfl, size, parsed⟩ := parseSnapshot_eq_some.mp parsed
    rw [kind_of_parseBody parsed] at isDeny
    subst isDeny
    rw [parseBody, if_neg other, if_pos rfl] at parsed
    obtain ⟨⟨revision, entries⟩, rest, ⟨valid, rfl⟩, ended⟩ :=
      parseGlobalDeny_exact.bind_some.mp parsed
    obtain ⟨rfl, made⟩ := Option.ite_none_right_eq_some.mp ended
    cases made
    refine ⟨rfl, ?_, valid⟩
    rw [List.append_nil, putDenySnapshot]
  · rintro ⟨shape, rfl, few, ok⟩
    refine ⟨?_, by rw [shape]⟩
    have size : (putDenySnapshot node.globalRevision node.globalEntries).length ≤ applyMaxBytes := by
      rw [length_putDenySnapshot, applyMaxBytes]
      rw [globalDenyMaxEntries] at few
      omega
    have body : parseBody kindGlobalDeny (putDeny (node.globalRevision, node.globalEntries)) =
        some ⟨schemaVersion, kindGlobalDeny, [], node.globalRevision, node.globalEntries⟩ := by
      rw [parseBody, if_neg other, if_pos rfl, ← List.append_nil (putDeny _),
        parseGlobalDeny_exact.bind_put ⟨few, ok⟩]
      rfl
    rw [shape]
    exact (parseSnapshot_headed size).trans body

/-! ## Both together -/

/-- The networks in the order of their tuples. -/
def wireOrder (cidrs : List Cidr) : List Cidr :=
  cidrs.insertionSort fun a b => (denyEntry a).packed.TupleLe (denyEntry b).packed

theorem perm_wireOrder (cidrs : List Cidr) : (wireOrder cidrs).Perm cidrs :=
  List.perm_insertionSort _ cidrs

theorem map_packed_wireOrder (cidrs : List Cidr) :
    ((wireOrder cidrs).map denyEntry).map CfgSource.packed =
      ((cidrs.map denyEntry).map CfgSource.packed).insertionSort PackedSource.TupleLe := by
  simp only [List.map_map]
  exact List.map_insertionSort _ _ _ _ fun _ _ _ _ => Iff.rfl

theorem strictParts_networks (cidrs : List Cidr) :
    (cidrs.map Cidr.network).mapM strictIpv4CidrParts =
      .ok ((cidrs.map denyEntry).map CfgSource.packed) := by
  rw [mapM_eq_ok, List.forall₂_map_left_iff, List.map_map, List.forall₂_map_right_iff,
    List.forall₂_same]
  intro c _
  rw [Cidr.network, strictIpv4CidrParts, if_pos c.canonical, Function.comp_apply, packed_denyEntry]

variable {cidrs : List Cidr}

theorem serializeGlobalSnapshot_networks (few : cidrs.length ≤ maxGlobalDenyEntries)
    (revision : UInt64) :
    serializeGlobalSnapshot revision.toNat (cidrs.map Cidr.network) =
      .ok (putDenySnapshot revision ((wireOrder cidrs).map denyEntry)) := by
  have length : (wireOrder cidrs).length = cidrs.length := (perm_wireOrder cidrs).length_eq
  have small : (wireOrder cidrs).length < 256 ^ 4 := length.trans_lt (few.trans_lt (by decide))
  have header : structPack [.uint 4 4, .uint 4 2, .uint 8 revision.toNat,
      .uint 4 (wireOrder cidrs).length] = .ok (leBytes 4 4 ++ (leBytes 4 2 ++
        (leBytes 8 revision.toNat ++ leBytes 4 (wireOrder cidrs).length))) :=
    structPack_cons rfl (structPack_cons rfl (structPack_cons (pack_u64 _)
      (structPack_last (pack_uint small))))
  have body : packAll packSource (((wireOrder cidrs).map denyEntry).map CfgSource.packed) =
      .ok (((wireOrder cidrs).map denyEntry).flatMap putSource) :=
    packAll_map fun source _ => packSource_packed source
  rw [serializeGlobalSnapshot, List.length_map, if_neg (Nat.not_lt.mpr few)]
  refine bind_eq_ok.mpr ⟨_, strictParts_networks cidrs, ?_⟩
  simp only [← map_packed_wireOrder, List.length_map]
  refine bind_eq_ok.mpr ⟨_, header, bind_eq_ok.mpr ⟨_, body, congrArg Except.ok ?_⟩⟩
  simp only [putDenySnapshot, headed, putDeny, List.length_map, List.append_assoc]
  rfl

theorem globalEntriesOk_wireOrder (nodup : cidrs.Nodup) :
    globalEntriesOk none ((wireOrder cidrs).map denyEntry) = true := by
  rw [globalEntriesOk_iff]
  refine ⟨wireOrder cidrs, rfl, ?_⟩
  have sorted : (((wireOrder cidrs).map denyEntry).map CfgSource.packed).Pairwise
      PackedSource.TupleLe := by
    rw [map_packed_wireOrder]
    exact List.pairwise_insertionSort _ _
  have distinct : (wireOrder cidrs).Nodup := (perm_wireOrder cidrs).nodup_iff.mpr nodup
  rw [List.map_map, List.pairwise_map] at sorted
  refine (sorted.and distinct).imp fun {a b} ⟨le, ne⟩ => ?_
  refine lt_of_le_of_ne (PackedSource.tupleLe_iff.mp le) fun same => ne ?_
  exact denyEntry_injective (packed_injective (PackedSource.key_injective same))

theorem wireOrder_eq_self
    (sorted : cidrs.Pairwise fun a b => (denyEntry a).packed.key < (denyEntry b).packed.key) :
    wireOrder cidrs = cidrs :=
  List.Pairwise.insertionSort_eq (sorted.imp fun less => PackedSource.tupleLe_iff.mpr less.le)

theorem serialize_of_parsed {bytes : Bytes} {cfg : NodeCfg}
    (parsed : parseSnapshot bytes = some cfg) (kind : cfg.snapshotKind = kindGlobalDeny) :
    ∃ cidrs : List Cidr, cidrs.Nodup ∧ cfg.globalEntries = cidrs.map denyEntry ∧
      serializeGlobalSnapshot cfg.globalRevision.toNat (cidrs.map Cidr.network) = .ok bytes := by
  obtain ⟨_, written, few, ok⟩ := (parseSnapshot_globalDeny bytes cfg).mp ⟨parsed, kind⟩
  obtain ⟨cidrs, entries, sorted⟩ := globalEntriesOk_iff.mp ok
  have few' : cidrs.length ≤ maxGlobalDenyEntries := by
    rwa [← entries, List.length_map] at few
  refine ⟨cidrs, sorted.imp fun less same => ?_, entries.symm, ?_⟩
  · rw [same] at less
    exact lt_irrefl _ less
  · rw [serializeGlobalSnapshot_networks few', wireOrder_eq_self sorted, entries, ← written]

theorem parse_of_serialized (nodup : cidrs.Nodup) (few : cidrs.length ≤ maxGlobalDenyEntries)
    (revision : UInt64) :
    ∃ bytes cfg, serializeGlobalSnapshot revision.toNat (cidrs.map Cidr.network) = .ok bytes ∧
      parseSnapshot bytes = some cfg ∧ cfg.snapshotKind = kindGlobalDeny ∧
      cfg.globalRevision = revision ∧ cfg.globalEntries.Perm (cidrs.map denyEntry) := by
  have length : ((wireOrder cidrs).map denyEntry).length ≤ globalDenyMaxEntries := by
    rw [List.length_map, (perm_wireOrder cidrs).length_eq]
    exact few
  have parsed := (parseSnapshot_globalDeny _ ⟨schemaVersion, kindGlobalDeny, [], revision,
    (wireOrder cidrs).map denyEntry⟩).mpr ⟨rfl, rfl, length, globalEntriesOk_wireOrder nodup⟩
  exact ⟨_, _, serializeGlobalSnapshot_networks few revision, parsed.1, parsed.2, rfl,
    (perm_wireOrder cidrs).map denyEntry⟩

theorem serialize_eq_of_perm {xs ys : List Cidr} (perm : xs.Perm ys)
    (few : xs.length ≤ maxGlobalDenyEntries) (revision : UInt64) :
    serializeGlobalSnapshot revision.toNat (xs.map Cidr.network) =
      serializeGlobalSnapshot revision.toNat (ys.map Cidr.network) := by
  have order : (wireOrder xs).map denyEntry = (wireOrder ys).map denyEntry := by
    refine List.map_injective_iff.mpr packed_injective ?_
    rw [map_packed_wireOrder, map_packed_wireOrder]
    exact PackedSource.insertionSort_eq_of_perm ((perm.map denyEntry).map CfgSource.packed)
  rw [serializeGlobalSnapshot_networks few, order,
    serializeGlobalSnapshot_networks (perm.length_eq ▸ few)]

/-- The writer and the parser of the deny list are inverse to each other, and a set of networks and
a revision have one accepted encoding. -/
theorem globalDeny_roundTrip :
    (∀ (cidrs : List Cidr) (revision : UInt64), cidrs.Nodup →
      cidrs.length ≤ maxGlobalDenyEntries →
      ∃ bytes cfg, serializeGlobalSnapshot revision.toNat (cidrs.map Cidr.network) = .ok bytes ∧
        parseSnapshot bytes = some cfg ∧ cfg.snapshotKind = kindGlobalDeny ∧
        cfg.globalRevision = revision ∧ cfg.globalEntries.Perm (cidrs.map denyEntry)) ∧
    (∀ bytes cfg, parseSnapshot bytes = some cfg → cfg.snapshotKind = kindGlobalDeny →
      ∃ cidrs : List Cidr, cidrs.Nodup ∧ cfg.globalEntries = cidrs.map denyEntry ∧
        serializeGlobalSnapshot cfg.globalRevision.toNat (cidrs.map Cidr.network) = .ok bytes) ∧
    (∀ (cidrs : List Cidr) (revision : UInt64), cidrs.Nodup →
      cidrs.length ≤ maxGlobalDenyEntries →
      ∃! bytes, ∃ cfg, parseSnapshot bytes = some cfg ∧ cfg.snapshotKind = kindGlobalDeny ∧
        cfg.globalRevision = revision ∧
        ∀ c, denyEntry c ∈ cfg.globalEntries ↔ c ∈ cidrs) := by
  refine ⟨fun cidrs revision nodup few => parse_of_serialized nodup few revision,
    fun bytes cfg parsed kind => serialize_of_parsed parsed kind, ?_⟩
  intro cidrs revision nodup few
  obtain ⟨bytes, cfg, written, parsed, kind, rev, perm⟩ := parse_of_serialized nodup few revision
  refine ⟨bytes, ⟨cfg, parsed, kind, rev, fun c => ?_⟩, ?_⟩
  · rw [perm.mem_iff, List.mem_map_of_injective denyEntry_injective]
  · -- another accepted encoding is written from a list with the same members
    rintro other ⟨cfg', parsed', kind', rev', members⟩
    obtain ⟨cidrs', nodup', entries, written'⟩ := serialize_of_parsed parsed' kind'
    have same : cidrs'.Perm cidrs := by
      refine (List.perm_ext_iff_of_nodup nodup' nodup).mpr fun c => ?_
      rw [← members c, entries, List.mem_map_of_injective denyEntry_injective]
    rw [rev', serialize_eq_of_perm same (same.length_eq ▸ few), written] at written'
    exact (Except.ok.inj written').symm

/-- Two networks and a host, not in the order of the wire. -/
def deniedNetworks : List Cidr :=
  [Cidr.host 0xC0000201, ⟨0x0A000000, 8, Cidr.canonical_ten⟩, ⟨0x09000000, 8, Cidr.canonical_nine⟩]

theorem deniedNetworks_roundTrip :
    ∃ bytes cfg, serializeGlobalSnapshot 7 (deniedNetworks.map Cidr.network) = .ok bytes ∧
      parseSnapshot bytes = some cfg ∧ cfg.globalRevision = 7 ∧
      cfg.globalEntries = [⟨8, 0x09000000⟩, ⟨8, 0x0A000000⟩, ⟨32, 0xC0000201⟩] ∧
      ∃ cidrs : List Cidr, cfg.globalEntries = cidrs.map denyEntry ∧
        serializeGlobalSnapshot 7 (cidrs.map Cidr.network) = .ok bytes := by
  obtain ⟨bytes, cfg, written, parsed, kind, revision, _⟩ :=
    globalDeny_roundTrip.1 deniedNetworks 7 (by decide) (by decide)
  obtain ⟨cidrs, _, entries, again⟩ := globalDeny_roundTrip.2.1 bytes cfg parsed kind
  rw [revision] at again
  refine ⟨bytes, cfg, written, parsed, revision, ?_, cidrs, entries, again⟩
  have read : (serializeGlobalSnapshot 7 (deniedNetworks.map Cidr.network)).toOption.bind
      (fun b => (parseSnapshot b).map NodeCfg.globalEntries) =
        some [⟨8, 0x09000000⟩, ⟨8, 0x0A000000⟩, ⟨32, 0xC0000201⟩] := by
    decide +kernel
  have written : serializeGlobalSnapshot 7 (deniedNetworks.map Cidr.network) = .ok bytes := written
  rw [written] at read
  simpa only [Except.toOption, Option.bind_some, parsed, Option.map_some, Option.some_inj] using read

end ScrubbingGateway.Apply
