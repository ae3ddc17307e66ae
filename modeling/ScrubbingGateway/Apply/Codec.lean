import ScrubbingGateway.Apply.Snapshot
import ScrubbingGateway.Control.NodeSnapshot

/-!
# The writer and the parser agree

The worker's writer and the helper's parser are inverse to each other on service snapshots: the
parser accepts exactly what the writer makes of records in range.
-/

namespace ScrubbingGateway.Apply

open Wire Raise DataPlane Control

/-! ## The reads are exact -/

theorem rdU8_exact : Exact rdU8 (fun v => leBytes 1 v.toNat) (fun _ => True) :=
  (readLe_exact 1).map UInt8.ofNat UInt8.toNat (fun v => v.toNat_lt) (fun _ => UInt8.ofNat_toNat)
    fun _ small => UInt8.toNat_ofNat_of_lt' small

theorem rdU16le_exact : Exact rdU16le (fun v => leBytes 2 v.toNat) (fun _ => True) :=
  (readLe_exact 2).map UInt16.ofNat UInt16.toNat (fun v => v.toNat_lt) (fun _ => UInt16.ofNat_toNat)
    fun _ small => UInt16.toNat_ofNat_of_lt' small

theorem rdU32le_exact : Exact rdU32le (fun v => leBytes 4 v.toNat) (fun _ => True) :=
  (readLe_exact 4).map UInt32.ofNat UInt32.toNat (fun v => v.toNat_lt) (fun _ => UInt32.ofNat_toNat)
    fun _ small => UInt32.toNat_ofNat_of_lt' small

theorem rdU64le_exact : Exact rdU64le (fun v => leBytes 8 v.toNat) (fun _ => True) :=
  (readLe_exact 8).map UInt64.ofNat UInt64.toNat (fun v => v.toNat_lt) (fun _ => UInt64.ofNat_toNat)
    fun _ small => UInt64.toNat_ofNat_of_lt' small

theorem rdBe32_exact : Exact rdBe32 beBytes (fun _ => True) := by
  refine (take_exact 4).map (fun bytes => UInt32.ofNat (leNat bytes.reverse)) beBytes
    (fun v => ?_) (fun v => ?_) fun bytes length => ?_
  · rw [beBytes, List.length_reverse, length_leBytes]
  · rw [beBytes, List.reverse_reverse, leNat_leBytes v.toNat_lt, UInt32.ofNat_toNat]
  · have small := leNat_lt bytes.reverse
    have back := leBytes_leNat bytes.reverse
    rw [List.length_reverse, length] at small back
    rw [beBytes, UInt32.toNat_ofNat_of_lt' small, back, List.reverse_reverse]

/-! ## The bytes of a record -/

def putSource (source : CfgSource) : Bytes :=
  leBytes 4 source.prefixlen.toNat ++ beBytes source.addr

def putSources (wl : List CfgSource) : Bytes := leBytes 4 wl.length ++ wl.flatMap putSource

def putRule (rule : CfgRule) : Bytes :=
  leBytes 2 rule.srcLo.toNat ++ (leBytes 2 rule.srcHi.toNat ++ (leBytes 2 rule.dstLo.toNat ++
    (leBytes 2 rule.dstHi.toNat ++ (leBytes 1 rule.proto.toNat ++ leBytes 1 rule.flags.toNat))))

def putHead (s : CfgService) : Bytes :=
  leBytes 4 s.dstPrefixlen.toNat ++ (beBytes s.dstAddr ++ (leBytes 4 s.dpId.toNat ++
    (leBytes 1 s.enabled.toNat ++ (leBytes 1 s.wlFlags.toNat ++ (leBytes 1 s.reserved0.toNat ++
    (leBytes 8 s.committedBps.toNat ++ (leBytes 8 s.ceilingBps.toNat ++
    (leBytes 8 s.vipPps.toNat ++ (leBytes 8 s.vipBps.toNat ++ (leBytes 1 s.vipFlags.toNat ++
    (leBytes 8 s.servicePps.toNat ++ (leBytes 8 s.serviceBps.toNat ++
    (leBytes 1 s.svcRlFlags.toNat ++ leBytes 2 s.rules.length)))))))))))))

def putService (s : CfgService) : Bytes := putHead s ++ (s.rules.flatMap putRule ++ putSources s.wl)

def putServices (services : List CfgService) : Bytes :=
  leBytes 4 services.length ++ services.flatMap putService

/-- What the parser checks of a record beyond its widths. -/
structure CfgService.Valid (s : CfgService) : Prop where
  reserved0 : s.reserved0 = 0
  rules : s.rules.length ≤ ruleMax
  wl : s.wl.length ≤ applyMaxListEntries

/-- The counts of a record fit their fields. -/
structure CfgService.Counted (s : CfgService) : Prop where
  rules : s.rules.length < 256 ^ 2
  wl : s.wl.length < 256 ^ 4

variable {s : CfgService} {services : List CfgService} {records : List PackedService}

theorem CfgService.Valid.counted (valid : s.Valid) : s.Counted :=
  ⟨valid.rules.trans_lt (by decide), valid.wl.trans_lt (by decide)⟩

theorem parseSource_exact : Exact parseSource putSource (fun _ => True) := by
  intro c source rest
  simp only [parseSource, rdU32le_exact.bind_some, rdBe32_exact.bind_some,
    Option.pure_def, Option.some_inj, Prod.mk.injEq, true_and]
  constructor
  · rintro ⟨prefixlen, c', rfl, addr, c'', rfl, rfl, rfl⟩
    rw [putSource, List.append_assoc]
  · rintro rfl
    rw [putSource, List.append_assoc]
    exact ⟨_, _, rfl, _, _, rfl, rfl, rfl⟩

theorem parseRule_exact : Exact parseRule putRule (fun _ => True) := by
  intro c rule rest
  simp only [parseRule, rdU16le_exact.bind_some, rdU8_exact.bind_some,
    Option.pure_def, Option.some_inj, Prod.mk.injEq, true_and]
  constructor
  · rintro ⟨srcLo, _, rfl, srcHi, _, rfl, dstLo, _, rfl, dstHi, _, rfl, proto, _, rfl, flags, _,
      rfl, rfl, rfl⟩
    simp only [putRule, List.append_assoc]
  · rintro rfl
    simp only [putRule, List.append_assoc]
    exact ⟨_, _, rfl, _, _, rfl, _, _, rfl, _, _, rfl, _, _, rfl, _, _, rfl, rfl, rfl⟩

theorem counted_exact {α : Type} {get : Reader α} {put : α → Bytes} {Valid : α → Prop}
    (exact' : Exact get put Valid) {limit : Nat} (small : limit < 2 ^ 32) :
    Exact (fun c => rdU32le c >>= fun x =>
        if x.1.toNat > limit then none else readMany get x.1.toNat x.2)
      (fun list => leBytes 4 list.length ++ list.flatMap put)
      (fun list => list.length ≤ limit ∧ ∀ a ∈ list, Valid a) := by
  intro c list rest
  simp only [rdU32le_exact.bind_some, true_and]
  constructor
  · rintro ⟨count, c', rfl, got⟩
    split at got
    · cases got
    next few =>
      obtain ⟨⟨length, valid⟩, rfl⟩ := (readMany_exact exact' _ _ _ _).mp got
      refine ⟨⟨length.trans_le (Nat.not_lt.mp few), valid⟩, ?_⟩
      rw [length, List.append_assoc]
  · rintro ⟨⟨few, valid⟩, rfl⟩
    have count : (UInt32.ofNat list.length).toNat = list.length :=
      UInt32.toNat_ofNat_of_lt' (few.trans_lt small)
    refine ⟨UInt32.ofNat list.length, list.flatMap put ++ rest, ?_, ?_⟩
    · rw [count, List.append_assoc]
    · rw [count, if_neg (Nat.not_lt.mpr few)]
      exact (readMany_exact exact' _ _ _ _).mpr ⟨⟨rfl, valid⟩, rfl⟩

theorem parseSourceList_exact :
    Exact parseSourceList putSources (fun wl => wl.length ≤ applyMaxListEntries) := by
  intro c wl rest
  refine (counted_exact parseSource_exact (by decide) c wl rest).trans ?_
  simp only [implies_true, and_true]
  rfl

theorem parseService_head (zero : s.reserved0 = 0) (few : s.rules.length < 256 ^ 2) (c : Bytes) :
    parseService (putHead s ++ c) =
      if s.rules.length > ruleMax then none
      else readMany parseRule s.rules.length c >>= fun x =>
        parseSourceList x.2 >>= fun y => some ({ s with rules := x.1, wl := y.1 }, y.2) := by
  have count : (UInt16.ofNat s.rules.length).toNat = s.rules.length :=
    UInt16.toNat_ofNat_of_lt' few
  have counted (rest : Bytes) {β : Type} (f : UInt16 × Bytes → Option β) :
      rdU16le (leBytes 2 s.rules.length ++ rest) >>= f = f (UInt16.ofNat s.rules.length, rest) := by
    conv_lhs => rw [← count]
    exact rdU16le_exact.bind_put trivial rest f
  unfold parseService
  simp only [putHead, List.append_assoc]
  simp only [rdU8_exact.bind_put trivial, rdU32le_exact.bind_put trivial,
    rdU64le_exact.bind_put trivial, rdBe32_exact.bind_put trivial, counted]
  rw [if_neg (not_not.mpr zero), count]
  rfl

theorem parseService_put (zero : s.reserved0 = 0) (few : s.rules.length ≤ ruleMax) (c : Bytes) :
    parseService (putHead s ++ (s.rules.flatMap putRule ++ c)) =
      parseSourceList c >>= fun x => some ({ s with wl := x.1 }, x.2) := by
  rw [parseService_head zero (few.trans_lt (by decide)), if_neg (Nat.not_lt.mpr few),
    (readMany_exact parseRule_exact _).bind_put ⟨rfl, fun _ _ => trivial⟩]

theorem parseService_exact : Exact parseService putService CfgService.Valid := by
  intro c s rest
  constructor
  · intro parsed
    simp only [parseService, rdU8_exact.bind_some, rdU16le_exact.bind_some,
      rdU32le_exact.bind_some, rdU64le_exact.bind_some, rdBe32_exact.bind_some, true_and] at parsed
    obtain ⟨dstPrefixlen, _, rfl, dstAddr, _, rfl, dpId, _, rfl, enabled, _, rfl, wlFlags, _, rfl,
      reserved0, _, rfl, committedBps, _, rfl, ceilingBps, _, rfl, vipPps, _, rfl, vipBps, _, rfl,
      vipFlags, _, rfl, servicePps, _, rfl, serviceBps, _, rfl, svcRlFlags, _, rfl, ruleCount, _,
      rfl, parsed⟩ := parsed
    split at parsed
    · cases parsed
    next zero =>
    split at parsed
    · cases parsed
    next few =>
    obtain ⟨rules, _, ⟨⟨length, _⟩, _⟩, parsed⟩ :=
      (readMany_exact parseRule_exact _).bind_some.mp parsed
    obtain ⟨wl, _, ⟨wlFew, _⟩, parsed⟩ := parseSourceList_exact.bind_some.mp parsed
    obtain ⟨rfl, rfl⟩ := Prod.mk.inj (Option.some.inj parsed)
    refine ⟨⟨not_not.mp zero, length.trans_le (Nat.not_lt.mp few), wlFew⟩, ?_⟩
    subst_vars
    simp only [putService, putHead, length, List.append_assoc]
  · rintro ⟨valid, rfl⟩
    have reads := parseService_put valid.reserved0 valid.rules (putSources s.wl ++ rest)
    rw [parseSourceList_exact.bind_put valid.wl] at reads
    simpa only [putService, List.append_assoc] using reads

theorem parseServices_exact : Exact parseServices putServices
    (fun services => services.length ≤ applyMaxServices ∧ ∀ s ∈ services, s.Valid) :=
  counted_exact parseService_exact (by decide)

def putSnapshot (services : List CfgService) : Bytes :=
  snapshotMagic ++ (leBytes 4 schemaVersion.toNat ++ (leBytes 4 kindServiceFull.toNat ++
    putServices services))

/-- The header of a snapshot of a kind, and what follows it. -/
def headed (kind : UInt32) (body : Bytes) : Bytes :=
  snapshotMagic ++ (leBytes 4 schemaVersion.toNat ++ (leBytes 4 kind.toNat ++ body))

theorem length_headed (kind : UInt32) (body : Bytes) :
    (headed kind body).length = 16 + body.length := by
  simp only [headed, List.length_append, length_leBytes, show snapshotMagic.length = 8 from rfl]
  omega

/-- The parser reads the header and goes on with the body of the kind. -/
theorem parseSnapshot_headed {kind : UInt32} {body : Bytes}
    (size : (headed kind body).length ≤ applyMaxBytes) :
    parseSnapshot (headed kind body) = parseBody kind body := by
  have sized : ¬ ((headed kind body).length < snapshotHeaderSize ∨
      (headed kind body).length > applyMaxBytes) := by
    refine not_or.mpr ⟨?_, Nat.not_lt.mpr size⟩
    rw [length_headed, snapshotHeaderSize]
    omega
  have magic (rest : Bytes) (f : Bytes × Bytes → Option NodeCfg) :
      take 8 (snapshotMagic ++ rest) >>= f = f (snapshotMagic, rest) :=
    (take_exact 8).bind_put rfl rest f
  rw [parseSnapshot, if_neg sized, headed, magic]
  dsimp only
  rw [if_neg (not_not.mpr rfl), rdU32le_exact.bind_put trivial]
  dsimp only
  rw [if_neg (not_not.mpr rfl), rdU32le_exact.bind_put trivial]

variable {bytes : Bytes} {node : NodeCfg}

/-- Whatever the parser accepts has the header of a kind and is no larger than a file may be. -/
theorem parseSnapshot_eq_some :
    parseSnapshot bytes = some node ↔
      ∃ kind body, bytes = headed kind body ∧ bytes.length ≤ applyMaxBytes ∧
        parseBody kind body = some node := by
  constructor
  · intro parsed
    unfold parseSnapshot at parsed
    split at parsed
    · cases parsed
    next sized =>
    simp only [(take_exact 8).bind_some] at parsed
    obtain ⟨magic, c, ⟨_, rfl⟩, parsed⟩ := parsed
    split at parsed
    · cases parsed
    next isMagic =>
    simp only [rdU32le_exact.bind_some, true_and] at parsed
    obtain ⟨schema, c, rfl, parsed⟩ := parsed
    split at parsed
    · cases parsed
    next isSchema =>
    simp only [rdU32le_exact.bind_some, true_and] at parsed
    obtain ⟨kind, body, rfl, parsed⟩ := parsed
    refine ⟨kind, body, ?_, Nat.not_lt.mp (not_or.mp sized).2, parsed⟩
    rw [headed, not_not.mp isMagic, not_not.mp isSchema, id]
  · rintro ⟨kind, body, rfl, size, parsed⟩
    rw [parseSnapshot_headed size, parsed]

theorem kind_of_parseBody {kind : UInt32} {body : Bytes} (parsed : parseBody kind body = some node) :
    node.snapshotKind = kind := by
  unfold parseBody at parsed
  split at parsed
  · obtain ⟨⟨services, rest⟩, _, parsed⟩ := Option.bind_eq_some_iff.mp parsed
    obtain ⟨_, parsed⟩ := Option.ite_none_right_eq_some.mp parsed
    cases parsed
    rfl
  · split at parsed
    · obtain ⟨⟨⟨revision, entries⟩, rest⟩, _, parsed⟩ := Option.bind_eq_some_iff.mp parsed
      obtain ⟨_, parsed⟩ := Option.ite_none_right_eq_some.mp parsed
      cases parsed
      rfl
    · cases parsed

/-- The parser accepts as a service snapshot exactly the bytes of valid records, within the size of
a file. -/
theorem parseSnapshot_serviceFull (bytes : Bytes) (node : NodeCfg) :
    parseSnapshot bytes = some node ∧ node.snapshotKind = kindServiceFull ↔
      node = ⟨schemaVersion, kindServiceFull, node.services, 0, []⟩ ∧
      bytes = putSnapshot node.services ∧ bytes.length ≤ applyMaxBytes ∧
      node.services.length ≤ applyMaxServices ∧ ∀ s ∈ node.services, s.Valid := by
  constructor
  · rintro ⟨parsed, isFull⟩
    obtain ⟨kind, body, rfl, size, parsed⟩ := parseSnapshot_eq_some.mp parsed
    rw [kind_of_parseBody parsed] at isFull
    subst isFull
    rw [parseBody, if_pos rfl] at parsed
    obtain ⟨services, rest, ⟨valid, rfl⟩, ended⟩ := parseServices_exact.bind_some.mp parsed
    obtain ⟨rfl, made⟩ := Option.ite_none_right_eq_some.mp ended
    cases made
    refine ⟨rfl, ?_, size, valid⟩
    rw [List.append_nil]
    rfl
  · rintro ⟨shape, rfl, size, valid⟩
    refine ⟨?_, by rw [shape]⟩
    have body : parseBody kindServiceFull (putServices node.services) =
        some ⟨schemaVersion, kindServiceFull, node.services, 0, []⟩ := by
      rw [parseBody, if_pos rfl, ← List.append_nil (putServices _),
        parseServices_exact.bind_put valid]
      rfl
    rw [shape]
    exact (parseSnapshot_headed size).trans body

theorem parseService_put_valid (zero : s.reserved0 = 0) (counted : s.Counted) {rest : Bytes}
    {got : CfgService × Bytes} (parsed : parseService (putService s ++ rest) = some got) :
    s.Valid := by
  have few : s.rules.length ≤ ruleMax := by
    rw [putService, List.append_assoc, parseService_head zero counted.rules] at parsed
    split at parsed
    · cases parsed
    next within => exact Nat.not_lt.mp within
  refine ⟨zero, few, ?_⟩
  have count : (UInt32.ofNat s.wl.length).toNat = s.wl.length :=
    UInt32.toNat_ofNat_of_lt' counted.wl
  rw [putService, List.append_assoc, List.append_assoc, parseService_put zero few,
    Option.bind_eq_bind, Option.bind_eq_some_iff] at parsed
  obtain ⟨read, listed, _⟩ := parsed
  rw [parseSourceList, putSources, List.append_assoc, ← count,
    rdU32le_exact.bind_put trivial] at listed
  obtain ⟨within, listed⟩ := Option.ite_none_left_eq_some.mp listed
  exact count ▸ Nat.not_lt.mp within

theorem readMany_put_valid (zero : ∀ s ∈ services, s.reserved0 = 0)
    (counted : ∀ s ∈ services, s.Counted) {rest : Bytes} {got : List CfgService × Bytes}
    (parsed : readMany parseService services.length (services.flatMap putService ++ rest) =
      some got) : ∀ s ∈ services, s.Valid := by
  induction services generalizing got with
  | nil => nofun
  | cons s services ih =>
    rw [List.forall_mem_cons] at zero counted ⊢
    rw [List.length_cons, readMany, List.flatMap_cons, List.append_assoc] at parsed
    have valid : s.Valid := by
      obtain ⟨first, read, _⟩ := Option.bind_eq_some_iff.mp parsed
      exact parseService_put_valid zero.1 counted.1 read
    rw [parseService_exact.bind_put valid] at parsed
    obtain ⟨more, read, _⟩ := Option.bind_eq_some_iff.mp parsed
    exact ⟨valid, ih zero.2 counted.2 read⟩

/-- What the parser makes of the bytes of records, however many there are. -/
theorem parseSnapshot_put_some (count : services.length < 256 ^ 4)
    (zero : ∀ s ∈ services, s.reserved0 = 0) (counted : ∀ s ∈ services, s.Counted) {cfg : NodeCfg}
    (parsed : parseSnapshot (putSnapshot services) = some cfg) :
    cfg = ⟨schemaVersion, kindServiceFull, services, 0, []⟩ := by
  have number : (UInt32.ofNat services.length).toNat = services.length :=
    UInt32.toNat_ofNat_of_lt' count
  have body : (putSnapshot services).length ≤ applyMaxBytes ∧
      ∃ got, parseServices (putServices services ++ []) = some got := by
    obtain ⟨_, _, _, size, _⟩ := parseSnapshot_eq_some.mp parsed
    have headedSize : (headed kindServiceFull (putServices services)).length ≤ applyMaxBytes := size
    refine ⟨size, ?_⟩
    have inBody := (parseSnapshot_headed headedSize).symm.trans parsed
    rw [parseBody, if_pos rfl, ← List.append_nil (putServices _)] at inBody
    obtain ⟨got, read, _⟩ := Option.bind_eq_some_iff.mp inBody
    exact ⟨got, read⟩
  obtain ⟨size, got, read⟩ := body
  rw [parseServices, putServices, List.append_assoc, ← number, rdU32le_exact.bind_put trivial]
    at read
  dsimp only at read
  rw [number] at read
  split at read
  · cases read
  next within =>
  have valid := readMany_put_valid zero counted read
  have whole := (parseSnapshot_serviceFull (putSnapshot services)
    ⟨schemaVersion, kindServiceFull, services, 0, []⟩).mpr
    ⟨rfl, rfl, size, Nat.not_lt.mp within, valid⟩
  rw [parsed] at whole
  exact Option.some.inj whole.1

/-! ## The writer on the values of a record -/

/-- The values of a record, as the worker packs them. -/
def CfgSource.packed (source : CfgSource) : PackedSource := ⟨source.prefixlen.toNat, source.addr⟩

def CfgRule.packed (rule : CfgRule) : PackedRule where
  srcLo := rule.srcLo.toNat
  srcHi := rule.srcHi.toNat
  dstLo := rule.dstLo.toNat
  dstHi := rule.dstHi.toNat
  proto := rule.proto.toNat
  flags := rule.flags.toNat

def CfgService.packed (s : CfgService) : PackedService where
  dstPrefixlen := s.dstPrefixlen.toNat
  dstAddr := s.dstAddr
  dpId := s.dpId.toNat
  enabled := s.enabled.toNat
  wlFlags := s.wlFlags.toNat
  reserved0 := s.reserved0.toNat
  committedBps := s.committedBps.toNat
  ceilingBps := s.ceilingBps.toNat
  vipPps := s.vipPps.toNat
  vipBps := s.vipBps.toNat
  vipFlags := s.vipFlags.toNat
  servicePps := s.servicePps.toNat
  serviceBps := s.serviceBps.toNat
  svcRlFlags := s.svcRlFlags.toNat
  rules := s.rules.map CfgRule.packed
  wl := s.wl.map CfgSource.packed

theorem pack_uint {width n : Nat} (small : n < 256 ^ width) :
    PackItem.pack (.uint width n) = .ok (leBytes width n) := by
  have inRange : (0 : Int) ≤ n ∧ (n : Int) < 256 ^ width :=
    ⟨Int.natCast_nonneg n, by exact_mod_cast small⟩
  rw [PackItem.pack, if_pos inRange, Int.toNat_natCast]

theorem pack_u8 (v : UInt8) :
    PackItem.pack (.uint 1 v.toNat) = .ok (leBytes 1 v.toNat) := pack_uint v.toNat_lt

theorem pack_u16 (v : UInt16) :
    PackItem.pack (.uint 2 v.toNat) = .ok (leBytes 2 v.toNat) := pack_uint v.toNat_lt

theorem pack_u32 (v : UInt32) :
    PackItem.pack (.uint 4 v.toNat) = .ok (leBytes 4 v.toNat) := pack_uint v.toNat_lt

theorem pack_u64 (v : UInt64) :
    PackItem.pack (.uint 8 v.toNat) = .ok (leBytes 8 v.toNat) := pack_uint v.toNat_lt

theorem pack_address (v : UInt32) : PackItem.pack (.address v) = .ok (beBytes v) := rfl

theorem structPack_cons {item : PackItem} {items : List PackItem} {rest : Bytes}
    (first : item.pack = .ok bytes) (more : structPack items = .ok rest) :
    structPack (item :: items) = .ok (bytes ++ rest) := by
  unfold structPack at more ⊢
  rw [List.mapM_cons, first]
  cases packed : items.mapM PackItem.pack with
  | error e =>
    rw [packed] at more
    cases more
  | ok parts =>
    rw [packed] at more
    cases more
    rfl

theorem structPack_last {item : PackItem} (packs : item.pack = .ok bytes) :
    structPack [item] = .ok bytes := by
  have alone : structPack [item] = .ok (bytes ++ []) := structPack_cons packs rfl
  rwa [List.append_nil] at alone

theorem packRule_packed (rule : CfgRule) : packRule rule.packed = .ok (putRule rule) :=
  structPack_cons (pack_u16 _) (structPack_cons (pack_u16 _) (structPack_cons (pack_u16 _)
    (structPack_cons (pack_u16 _) (structPack_cons (pack_u8 _) (structPack_last (pack_u8 _))))))

theorem packSource_packed (source : CfgSource) :
    packSource source.packed = .ok (putSource source) :=
  structPack_cons (pack_u32 _) (structPack_last (pack_address _))

theorem packAll_map {α β : Type} {pack : β → Except SnapshotError Bytes} {into : α → β}
    {put : α → Bytes} {list : List α} (packs : ∀ a ∈ list, pack (into a) = .ok (put a)) :
    packAll pack (list.map into) = .ok (list.flatMap put) := by
  have parts : (list.map into).mapM pack = .ok (list.map put) := by
    rw [mapM_eq_ok, List.forall₂_map_left_iff, List.forall₂_map_right_iff, List.forall₂_same]
    exact packs
  rw [packAll, parts, List.flatMap_def]
  rfl

theorem packService_packed (counted : s.Counted) : packService s.packed = .ok (putService s) := by
  have ruleCount : PackItem.pack (.uint 2 s.packed.rules.length) =
      .ok (leBytes 2 s.rules.length) := by
    rw [CfgService.packed, List.length_map]
    exact pack_uint counted.rules
  have head : structPack [.uint 4 s.packed.dstPrefixlen, .address s.packed.dstAddr,
      .uint 4 s.packed.dpId, .uint 1 s.packed.enabled, .uint 1 s.packed.wlFlags,
      .uint 1 s.packed.reserved0, .uint 8 s.packed.committedBps, .uint 8 s.packed.ceilingBps,
      .uint 8 s.packed.vipPps, .uint 8 s.packed.vipBps, .uint 1 s.packed.vipFlags,
      .uint 8 s.packed.servicePps, .uint 8 s.packed.serviceBps, .uint 1 s.packed.svcRlFlags,
      .uint 2 s.packed.rules.length] = .ok (putHead s) := by
    exact structPack_cons (pack_u32 _) (structPack_cons (pack_address _) (structPack_cons
      (pack_u32 _) (structPack_cons (pack_u8 _) (structPack_cons (pack_u8 _) (structPack_cons
      (pack_u8 _) (structPack_cons (pack_u64 _) (structPack_cons (pack_u64 _) (structPack_cons
      (pack_u64 _) (structPack_cons (pack_u64 _) (structPack_cons (pack_u8 _) (structPack_cons
      (pack_u64 _) (structPack_cons (pack_u64 _) (structPack_cons (pack_u8 _)
      (structPack_last ruleCount))))))))))))))
  have rules : packAll packRule s.packed.rules = .ok (s.rules.flatMap putRule) :=
    packAll_map fun rule _ => packRule_packed rule
  have sources : packAll packSource s.packed.wl = .ok (s.wl.flatMap putSource) :=
    packAll_map fun source _ => packSource_packed source
  have wlCount : structPack [.uint 4 s.packed.wl.length] = .ok (leBytes 4 s.wl.length) := by
    rw [CfgService.packed, List.length_map, structPack_last (pack_uint counted.wl)]
  rw [packService, head, rules, appendSourceList, sources, wlCount]
  show Except.ok ((putHead s ++ s.rules.flatMap putRule) ++ putSources s.wl) = _
  rw [putService, List.append_assoc]

theorem packSnapshot_packed (few : services.length < 256 ^ 4)
    (counted : ∀ s ∈ services, s.Counted) :
    packSnapshot (services.map CfgService.packed) = .ok (putSnapshot services) := by
  have header : structPack [.uint 4 4, .uint 4 1, .uint 4 services.length] =
      .ok (leBytes 4 4 ++ (leBytes 4 1 ++ leBytes 4 services.length)) := by
    exact structPack_cons rfl (structPack_cons rfl (structPack_last (pack_uint few)))
  rw [packSnapshot, List.length_map, packHeader, header,
    packAll_map fun s member => packService_packed (counted s member)]
  show Except.ok ((Control.magic ++ (leBytes 4 4 ++ (leBytes 4 1 ++ leBytes 4 services.length))) ++
    services.flatMap putService) = _
  simp only [putSnapshot, putServices, List.append_assoc]
  rfl

/-! ## Records in range -/

/-- An integer fits an unsigned field of a width. -/
def InWidth (width : Nat) (v : Int) : Prop := 0 ≤ v ∧ v < 256 ^ width

instance (width : Nat) (v : Int) : Decidable (InWidth width v) :=
  inferInstanceAs (Decidable (0 ≤ v ∧ v < 256 ^ width))

structure FitsRule (rule : PackedRule) : Prop where
  srcLo : InWidth 2 rule.srcLo
  srcHi : InWidth 2 rule.srcHi
  dstLo : InWidth 2 rule.dstLo
  dstHi : InWidth 2 rule.dstHi
  proto : InWidth 1 rule.proto
  flags : InWidth 1 rule.flags

/-- The values of a record fit their fields. -/
structure InFields (s : PackedService) : Prop where
  dstPrefixlen : InWidth 4 s.dstPrefixlen
  dpId : InWidth 4 s.dpId
  enabled : InWidth 1 s.enabled
  wlFlags : InWidth 1 s.wlFlags
  committedBps : InWidth 8 s.committedBps
  ceilingBps : InWidth 8 s.ceilingBps
  vipPps : InWidth 8 s.vipPps
  vipBps : InWidth 8 s.vipBps
  vipFlags : InWidth 1 s.vipFlags
  servicePps : InWidth 8 s.servicePps
  serviceBps : InWidth 8 s.serviceBps
  svcRlFlags : InWidth 1 s.svcRlFlags
  rules : ∀ rule ∈ s.rules, FitsRule rule
  wl : ∀ source ∈ s.wl, InWidth 4 source.prefixlen

/-- The values of a record fit their fields, and its lists the limits of the wire format. -/
structure Fits (s : PackedService) : Prop extends InFields s where
  ruleCount : s.rules.length ≤ ruleMax
  wlCount : s.wl.length ≤ applyMaxListEntries

variable {v : Int}

theorem InWidth.toNat_lt {width : Nat} (fits : InWidth width v) : v.toNat < 256 ^ width := by
  have small : (v.toNat : Int) < 256 ^ width := by
    rw [Int.toNat_of_nonneg fits.1]
    exact fits.2
  exact_mod_cast small

theorem InWidth.u8 (fits : InWidth 1 v) : ((UInt8.ofNat v.toNat).toNat : Int) = v := by
  rw [UInt8.toNat_ofNat_of_lt' fits.toNat_lt, Int.toNat_of_nonneg fits.1]

theorem InWidth.u16 (fits : InWidth 2 v) : ((UInt16.ofNat v.toNat).toNat : Int) = v := by
  rw [UInt16.toNat_ofNat_of_lt' fits.toNat_lt, Int.toNat_of_nonneg fits.1]

theorem InWidth.u32 (fits : InWidth 4 v) : ((UInt32.ofNat v.toNat).toNat : Int) = v := by
  rw [UInt32.toNat_ofNat_of_lt' fits.toNat_lt, Int.toNat_of_nonneg fits.1]

theorem InWidth.u64 (fits : InWidth 8 v) : ((UInt64.ofNat v.toNat).toNat : Int) = v := by
  rw [UInt64.toNat_ofNat_of_lt' fits.toNat_lt, Int.toNat_of_nonneg fits.1]

def ofPackedRule (rule : PackedRule) : CfgRule where
  srcLo := UInt16.ofNat rule.srcLo.toNat
  srcHi := UInt16.ofNat rule.srcHi.toNat
  dstLo := UInt16.ofNat rule.dstLo.toNat
  dstHi := UInt16.ofNat rule.dstHi.toNat
  proto := UInt8.ofNat rule.proto.toNat
  flags := UInt8.ofNat rule.flags.toNat

def ofPackedSource (source : PackedSource) : CfgSource :=
  ⟨UInt32.ofNat source.prefixlen.toNat, source.addr⟩

/-- The record of fixed-width values for values that fit. -/
def ofPacked (s : PackedService) : CfgService where
  dstPrefixlen := UInt32.ofNat s.dstPrefixlen.toNat
  dstAddr := s.dstAddr
  dpId := UInt32.ofNat s.dpId.toNat
  enabled := UInt8.ofNat s.enabled.toNat
  wlFlags := UInt8.ofNat s.wlFlags.toNat
  reserved0 := 0
  vipFlags := UInt8.ofNat s.vipFlags.toNat
  committedBps := UInt64.ofNat s.committedBps.toNat
  ceilingBps := UInt64.ofNat s.ceilingBps.toNat
  vipPps := UInt64.ofNat s.vipPps.toNat
  vipBps := UInt64.ofNat s.vipBps.toNat
  servicePps := UInt64.ofNat s.servicePps.toNat
  serviceBps := UInt64.ofNat s.serviceBps.toNat
  svcRlFlags := UInt8.ofNat s.svcRlFlags.toNat
  rules := s.rules.map ofPackedRule
  wl := s.wl.map ofPackedSource

theorem packed_ofPackedRule {rule : PackedRule} (fits : FitsRule rule) :
    (ofPackedRule rule).packed = rule := by
  simp only [ofPackedRule, CfgRule.packed, fits.srcLo.u16, fits.srcHi.u16, fits.dstLo.u16,
    fits.dstHi.u16, fits.proto.u8, fits.flags.u8]

theorem packed_ofPacked {s : PackedService} (fits : InFields s) (reserved : s.reserved0 = 0) :
    (ofPacked s).packed = s := by
  have rules : (s.rules.map ofPackedRule).map CfgRule.packed = s.rules := by
    rw [List.map_map]
    exact (List.map_congr_left fun rule member =>
      packed_ofPackedRule (fits.rules rule member)).trans (List.map_id _)
  have sources : (s.wl.map ofPackedSource).map CfgSource.packed = s.wl := by
    rw [List.map_map]
    refine (List.map_congr_left fun source member => ?_).trans (List.map_id _)
    simp only [Function.comp_apply, ofPackedSource, CfgSource.packed,
      (fits.wl source member).u32, id]
  obtain ⟨⟩ := s
  simp only at reserved rules sources
  subst reserved
  simp only [ofPacked, CfgService.packed, rules, sources, fits.dstPrefixlen.u32, fits.dpId.u32,
    fits.enabled.u8, fits.wlFlags.u8, fits.committedBps.u64, fits.ceilingBps.u64, fits.vipPps.u64,
    fits.vipBps.u64, fits.vipFlags.u8, fits.servicePps.u64, fits.serviceBps.u64,
    fits.svcRlFlags.u8]
  rfl

theorem map_packed_ofPacked (fits : ∀ s ∈ records, InFields s)
    (reserved : ∀ s ∈ records, s.reserved0 = 0) :
    (records.map ofPacked).map CfgService.packed = records := by
  rw [List.map_map]
  exact (List.map_congr_left fun s member =>
    packed_ofPacked (fits s member) (reserved s member)).trans (List.map_id _)

theorem packSnapshot_ofPacked (fits : ∀ s ∈ records, InFields s)
    (reserved : ∀ s ∈ records, s.reserved0 = 0) (few : records.length < 256 ^ 4)
    (counted : ∀ s ∈ records, (ofPacked s).Counted) :
    packSnapshot records = .ok (putSnapshot (records.map ofPacked)) := by
  have back := map_packed_ofPacked fits reserved
  have written := packSnapshot_packed ((List.length_map ofPacked).trans_lt few)
    (List.forall_mem_map.mpr counted)
  rwa [back] at written

theorem ofPacked_valid {s : PackedService} (fits : Fits s) : (ofPacked s).Valid := by
  refine ⟨rfl, ?_, ?_⟩
  · rw [ofPacked, List.length_map]
    exact fits.ruleCount
  · rw [ofPacked, List.length_map]
    exact fits.wlCount

theorem packedService_reserved0 {service : ServiceConfig} {s : PackedService}
    (packed : packedService service = .ok s) : s.reserved0 = 0 := by
  unfold packedService at packed
  cases dst : cidrParts service.cidrOrIp with
  | error e =>
    rw [dst] at packed
    cases packed
  | ok dstParts =>
    cases wl : service.whitelist.mapM cidrParts with
    | error e =>
      rw [dst, wl] at packed
      cases packed
    | ok whitelist =>
      rw [dst, wl] at packed
      cases packed
      rfl

/-! ## The worker's node -/

theorem serializeNodeSnapshot_eq {node : List ServiceConfig}
    (packed : node.mapM packedService = .ok records) :
    serializeNodeSnapshot node = packSnapshot records := by
  have all := mapM_eq_ok.mp packed
  rw [serializeNodeSnapshot, packSnapshot, all.length_eq, packAll, packAll, mapM_bind all]

/-- The writer and the parser of service snapshots are inverse to each other: a node whose values
fit is written and read back, value by value and in order, and whatever the parser accepts is what
the writer makes of the records it read. -/
theorem serviceFull_roundTrip :
    (∀ node records, node.mapM packedService = .ok records → node.length ≤ applyMaxServices →
      (∀ s ∈ records, Fits s) →
      ∃ bytes, serializeNodeSnapshot node = .ok bytes ∧ (bytes.length ≤ applyMaxBytes →
        ∃ cfg, parseSnapshot bytes = some cfg ∧ cfg.snapshotKind = kindServiceFull ∧
          cfg.services.map CfgService.packed = records)) ∧
    (∀ bytes cfg, parseSnapshot bytes = some cfg → cfg.snapshotKind = kindServiceFull →
      packSnapshot (cfg.services.map CfgService.packed) = .ok bytes) := by
  constructor
  · intro node records packed few fits
    have all := mapM_eq_ok.mp packed
    have reserved (s : PackedService) (member : s ∈ records) : s.reserved0 = 0 := by
      obtain ⟨service, _, made⟩ := exists_of_forall₂ all member
      exact packedService_reserved0 made
    have few' : (records.map ofPacked).length ≤ applyMaxServices := by
      rwa [List.length_map, ← all.length_eq]
    have valid : ∀ s ∈ records.map ofPacked, s.Valid :=
      List.forall_mem_map.mpr fun s member => ofPacked_valid (fits s member)
    refine ⟨putSnapshot (records.map ofPacked), ?_, ?_⟩
    · rw [serializeNodeSnapshot_eq packed]
      refine packSnapshot_ofPacked (fun s member => (fits s member).toInFields) reserved
        (all.length_eq ▸ few.trans_lt (by decide)) fun s member => ?_
      exact (ofPacked_valid (fits s member)).counted
    · intro size
      have parsed := (parseSnapshot_serviceFull _
        ⟨schemaVersion, kindServiceFull, records.map ofPacked, 0, []⟩).mpr
        ⟨rfl, rfl, size, few', valid⟩
      refine ⟨_, parsed.1, parsed.2, ?_⟩
      exact map_packed_ofPacked (fun s member => (fits s member).toInFields) reserved
  · intro bytes cfg parsed kind
    obtain ⟨_, same, _, few, valid⟩ := (parseSnapshot_serviceFull bytes cfg).mp ⟨parsed, kind⟩
    rw [packSnapshot_packed (few.trans_lt (by decide)) fun s member => (valid s member).counted,
      same]

/-- A service with a rule and a whitelisted network. -/
def oneServiceConfig : ServiceConfig where
  dpId := 7
  cidrOrIp := .v4 0xcb007101 32
  enabled := true
  vipPps := some 1000
  vipBps := none
  servicePps := none
  serviceBps := some 5000000
  plan := some ⟨100, 250⟩
  rules := [⟨10, .tcp, none, none, some 443, some 443, true⟩]
  whitelist := [.v4 0x08080800 24]

theorem oneServiceConfig_roundTrip :
    ∃ records bytes cfg, [oneServiceConfig].mapM packedService = .ok records ∧
      serializeNodeSnapshot [oneServiceConfig] = .ok bytes ∧ bytes.length = 109 ∧
      parseSnapshot bytes = some cfg ∧ cfg.services.map CfgService.packed = records ∧
      packSnapshot (cfg.services.map CfgService.packed) = .ok bytes := by
  obtain ⟨records, packed⟩ : ∃ records, [oneServiceConfig].mapM packedService = .ok records :=
    ⟨_, rfl⟩
  have fits : ∀ s ∈ records, Fits s := by
    cases packed
    intro s member
    obtain rfl := List.mem_singleton.mp member
    refine ⟨⟨by decide, by decide, by decide, by decide, by decide, by decide, by decide, by decide,
      by decide, by decide, by decide, by decide, ?_, by decide⟩, by decide, by decide⟩
    intro rule member
    obtain rfl := List.mem_singleton.mp member
    exact ⟨by decide, by decide, by decide, by decide, by decide, by decide⟩
  obtain ⟨bytes, written, parses⟩ := serviceFull_roundTrip.1 _ records packed (by decide) fits
  have size : bytes.length = 109 := by
    have sized : (serializeNodeSnapshot [oneServiceConfig]).map List.length = .ok 109 := by
      decide +kernel
    rw [written] at sized
    exact Except.ok.inj sized
  obtain ⟨cfg, parsed, kind, same⟩ := parses (by rw [size]; decide)
  exact ⟨records, bytes, cfg, packed, written, size, parsed, same,
    serviceFull_roundTrip.2 bytes cfg parsed kind⟩

end ScrubbingGateway.Apply
