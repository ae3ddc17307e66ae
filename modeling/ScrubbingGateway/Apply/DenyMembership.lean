import ScrubbingGateway.Apply.PrefixCover

/-!
# The global deny list is plain membership

The helper plans which entries go into the Bloom filter, gives the filter up if one of them is too
broad or they are too many, and the packet program asks the filter first. What comes out is whether
some entry covers the source.
-/

namespace ScrubbingGateway.Apply

open DataPlane Prog

/-! ## The plan -/

/-- The flags a plan starts with are kept, and are marked as broad if any entry is too broad for the
filter. -/
theorem flags_planEntries (entries : List CfgSource) (plan : BloomPlan) :
    (planEntries entries plan).flags = plan.flags ∧
        (∀ e ∈ entries, ¬ e.prefixlen < gblExpandFloor) ∨
      (planEntries entries plan).flags = plan.flags ||| gblHasBroad := by
  induction entries generalizing plan with
  | nil => exact Or.inl ⟨rfl, fun _ member => nomatch member⟩
  | cons e rest ih =>
    have marked : (planEntries rest { plan with flags := plan.flags ||| gblHasBroad }).flags =
        plan.flags ||| gblHasBroad := by
      rcases ih { plan with flags := plan.flags ||| gblHasBroad } with ⟨kept, _⟩ | broad
      · exact kept
      · rw [broad, UInt8.or_assoc, UInt8.or_self]
    unfold planEntries
    split
    · exact Or.inr marked
    next narrow =>
      split
      · -- the filter would overflow
        exact Or.inr marked
      · rcases ih { plan with fill := plan.fill + bloomBuckets e.prefixlen } with ⟨kept, all⟩ | broad
        · exact Or.inl ⟨kept, List.forall_mem_cons.mpr ⟨narrow, all⟩⟩
        · exact Or.inr broad

variable {entries : List CfgSource}

theorem valid_of_globalEntriesOk {previous : Option CfgSource}
    (ok : globalEntriesOk previous entries = true) : ∀ e ∈ entries, globalEntryValid e = true := by
  induction entries generalizing previous with
  | nil => exact fun _ member => nomatch member
  | cons e rest ih =>
    simp only [globalEntriesOk, Bool.and_eq_true] at ok
    exact List.forall_mem_cons.mpr ⟨ok.1.1, ih ok.2⟩

/-- What a plan that was accepted says about its entries. -/
structure Planned (entries : List CfgSource) (flags : UInt8) : Prop where
  valid : ∀ e ∈ entries, globalEntryValid e = true
  active : entries ≠ [] → flags &&& gblActive ≠ 0
  narrow : flags &&& gblHasBroad = 0 → ∀ e ∈ entries, ¬ e.prefixlen < gblExpandFloor

theorem planned_of_globalBloomPlan {node : NodeCfg} {plan : BloomPlan}
    (planned : globalBloomPlan node = some plan) : Planned node.globalEntries plan.flags := by
  unfold globalBloomPlan at planned
  split at planned
  · cases planned
  obtain ⟨ok, planned⟩ := Option.ite_none_right_eq_some.mp planned
  have flags := flags_planEntries node.globalEntries
    ⟨if node.globalEntries.isEmpty then 0 else gblActive, 0⟩
  cases planned
  constructor
  · exact valid_of_globalEntriesOk ok
  · intro some_
    have started : (if node.globalEntries.isEmpty then 0 else gblActive) = gblActive := by
      simp [some_]
    rw [started] at flags ⊢
    rcases flags with ⟨kept, _⟩ | broad
    · rw [kept]
      decide
    · rw [broad]
      decide
  · intro unmarked
    rcases flags with ⟨_, all⟩ | broad
    · exact all
    · -- a marked plan is not unmarked
      rw [broad] at unmarked
      split at unmarked <;> exact absurd unmarked (by decide)

/-! ## The filter -/

/-- A canonical prefix that is no longer than a `/24` covers the `/24`s from its own on. -/
theorem bucket_of_short {a s n : Nat} (canonical : a % (2 ^ n * 256) = 0)
    (covers : a / (2 ^ n * 256) = s / (2 ^ n * 256)) : ∃ i < 2 ^ n, s / 256 = a / 256 + i := by
  refine ⟨s / 256 % 2 ^ n, Nat.mod_lt _ (Nat.two_pow_pos n), ?_⟩
  have cut (x : Nat) : x / (2 ^ n * 256) = x / 256 / 2 ^ n := by
    rw [Nat.mul_comm, Nat.div_div_eq_div_mul]
  have start : a / 256 = 2 ^ n * (a / 256 / 2 ^ n) := by
    have whole : a = 2 ^ n * 256 * (a / (2 ^ n * 256)) := by
      have := Nat.div_add_mod a (2 ^ n * 256)
      omega
    rw [← cut]
    calc a / 256 = 256 * (2 ^ n * (a / (2 ^ n * 256))) / 256 := by
          rw [← Nat.mul_assoc, Nat.mul_comm 256, ← whole]
      _ = 2 ^ n * (a / (2 ^ n * 256)) := Nat.mul_div_cancel_left _ (by decide)
  rw [cut, cut] at covers
  rw [start, covers]
  exact (Nat.div_add_mod _ _).symm

theorem bucket_of_covers {e : CfgSource} {src : UInt32} (valid : globalEntryValid e = true)
    (narrow : ¬ e.prefixlen < gblExpandFloor) (covers : e.Covers src) :
    ∃ i < bloomBuckets e.prefixlen, i < 256 ∧ src.toNat / 256 = e.addr.toNat / 256 + i := by
  obtain ⟨short, canonical⟩ := canonical_of_valid valid
  have floor : 16 ≤ e.prefixlen.toNat := Nat.not_lt.mp (UInt32.lt_iff_toNat_lt.not.mp narrow)
  unfold CfgSource.Covers at covers
  unfold bloomBuckets
  split
  next expanded =>
    have below : e.prefixlen.toNat < 24 := UInt32.lt_iff_toNat_lt.mp expanded
    have width : (gblBloomPrefix - e.prefixlen).toNat = 24 - e.prefixlen.toNat :=
      UInt32.toNat_sub_of_le _ _ (UInt32.le_iff_toNat_le.mpr below.le)
    have size : 2 ^ (32 - e.prefixlen.toNat) = 2 ^ (24 - e.prefixlen.toNat) * 256 := by
      rw [show 32 - e.prefixlen.toNat = 24 - e.prefixlen.toNat + 8 by omega, Nat.pow_add]
    rw [size] at canonical covers
    obtain ⟨i, lt, same⟩ := bucket_of_short canonical covers
    rw [width]
    have few : 2 ^ (24 - e.prefixlen.toNat) ≤ 2 ^ 8 :=
      Nat.pow_le_pow_right Nat.two_pos (by omega)
    exact ⟨i, lt, lt.trans_le few, same⟩
  next single =>
    have above : 24 ≤ e.prefixlen.toNat := Nat.not_lt.mp (UInt32.lt_iff_toNat_lt.not.mp single)
    exact ⟨0, Nat.one_pos, by decide, bucket_of_long short above covers⟩

theorem mem_bloomKeys {e : CfgSource} {src : UInt32} (valid : globalEntryValid e = true)
    (narrow : ¬ e.prefixlen < gblExpandFloor) (covers : e.Covers src) :
    src &&& src24Mask ∈ bloomKeys e := by
  obtain ⟨i, lt, few, same⟩ := bucket_of_covers valid narrow covers
  have bound : src.toNat < 2 ^ 32 := src.toNat_lt
  rw [bloomKeys, if_neg narrow, List.mem_map]
  refine ⟨i, List.mem_range.mpr lt, ?_⟩
  rw [← UInt32.toNat_inj, UInt32.toNat_add, UInt32.toNat_mul, UInt32.toNat_ofNat',
    toNat_and_src24Mask, toNat_and_src24Mask, same, show (256 : UInt32).toNat = 256 from rfl]
  omega

/-! ## The trie -/

theorem covers_blLpmKey {e : CfgSource} (short : e.prefixlen.toNat ≤ 32) (src : UInt32) :
    (blLpmKey e.prefixlen e.addr).Covers 32 src.toNat ↔ e.Covers src :=
  and_iff_right short

theorem isSome_find_lpm {flags : UInt8} {t : Inner .globalBlacklistLpm}
    (rows : t.lookup = denyRows flags entries .globalBlacklistLpm)
    (valid : ∀ e ∈ entries, globalEntryValid e = true) (src : UInt32) :
    (Inner.find .globalBlacklistLpm t (blLpmKey 32 src)).isSome = true ↔
      ∃ e ∈ entries, e.Covers src := by
  have whole : blLpmKey 32 src = ⟨32, src.toNat⟩ := by
    simp [blLpmKey, BitPrefix.ofNumber]
  have stored (key : BitPrefix) : (t.lookup key).isSome = true ↔
      ∃ e ∈ entries, key = blLpmKey e.prefixlen e.addr := by
    have row : t.lookup key = denyRows flags entries .globalBlacklistLpm key := congrFun rows key
    rw [row]
    simp only [denyRows]
    split <;> simp_all
  change (PrefixTrie.longestMatch t (blLpmKey 32 src).length (blLpmKey 32 src).bits).isSome = true ↔ _
  rw [whole, PrefixTrie.isSome_longestMatch_iff]
  constructor
  · rintro ⟨key, covers, present⟩
    obtain ⟨e, member, rfl⟩ := (stored key).mp present
    exact ⟨e, member, (covers_blLpmKey (canonical_of_valid (valid e member)).1 src).mp covers⟩
  · rintro ⟨e, member, covers⟩
    refine ⟨blLpmKey e.prefixlen e.addr, ?_, (stored _).mpr ⟨e, member, rfl⟩⟩
    exact (covers_blLpmKey (canonical_of_valid (valid e member)).1 src).mpr covers

/-! ## A slot that holds a deny list -/

/-- The deny part of a slot is the one of a list. -/
structure DenySlot (k : ConfigMaps) (slot : UInt32) (flags : UInt8) (entries : List CfgSource) :
    Prop where
  gblMeta : k.gblMeta slot = some ⟨flags⟩
  bloom : slotRows k slot .globalBlacklistBloom = some (denyRows flags entries .globalBlacklistBloom)
  lpm : slotRows k slot .globalBlacklistLpm = some (denyRows flags entries .globalBlacklistLpm)

/-- A deny apply that went through leaves its list in the slot it made active. -/
theorem denySlot_of_applied {node : NodeCfg} {before after : ConfigMaps} {fates : List Fate}
    (applied : steps configMachine ⟨applyGlobalDenyCfg node, before⟩ fates = ⟨.ret (), after⟩)
    {slot : UInt32} (at' : ActiveSlot after slot) :
    ∃ plan, globalBloomPlan node = some plan ∧ DenySlot after slot plan.flags node.globalEntries := by
  cases read : before.activeConfig with
  | none =>
    -- without an active config the helper gives up
    have never : Always configMachine (fun _ => True) (fun _ _ => False) (applyGlobalDenyCfg node)
        before := (applyReadActive_never read).bind fun _ _ => False.elim
    exact (never.returned applied).elim
  | some active =>
    obtain ⟨plan, planned, swapped⟩ := (applyGlobalDenyCfg_swapped read).returned applied
    obtain ⟨now, published, rfl⟩ := at'
    obtain rfl := Option.some.inj (swapped.active.symm.trans published)
    have configuration := swapped.configuration
    refine ⟨plan, planned, ?_, ?_, ?_⟩
    · exact congrArg Configuration.gblMeta configuration
    · exact congrArg (fun c => c.rows .globalBlacklistBloom) configuration
    · exact congrArg (fun c => c.rows .globalBlacklistLpm) configuration

theorem globalDenyStage_drops_iff_covered {noise : BloomNoise} {k : Kernel} {slot : UInt32}
    {flags : UInt8} (held : DenySlot k.config slot flags entries)
    (planned : Planned entries flags) (frame : Frame) (pkt : PktMeta) :
    DropsFor (noisyMachine noise) .blacklistDrop (globalDenyStage frame pkt slot) k ↔
      ∃ e ∈ entries, e.Covers pkt.srcIp := by
  obtain ⟨bloom, bt, bloomAt, bloomRows, inBloom⟩ := inner_of_slotRows held.bloom
  obtain ⟨lpm, lt, lpmAt, lpmRows, inLpm⟩ := inner_of_slotRows held.lpm
  have member : (slotLookup k.config slot .globalBlacklistLpm (blLpmKey 32 pkt.srcIp)).isSome = true ↔
      ∃ e ∈ entries, e.Covers pkt.srcIp := by
    rw [inLpm]
    exact isSome_find_lpm lpmRows planned.valid pkt.srcIp
  rw [globalDenyStage_drops_iff held.gblMeta bloomAt lpmAt, member]
  intro hit
  obtain ⟨e, listed, covers⟩ := member.mp hit
  constructor
  · exact planned.active (List.ne_nil_of_mem listed)
  · intro narrow
    rw [inBloom]
    change (bt.lookup _).isSome = true
    have row := congrFun bloomRows (pkt.srcIp &&& src24Mask)
    have key := mem_bloomKeys (planned.valid e listed) (planned.narrow narrow e listed) covers
    rw [row]
    simp only [denyRows]
    rw [if_pos ⟨narrow, e, listed, key⟩]
    rfl

/-- After a deny apply that went through, a packet that the port and bogon checks let through is
dropped as blacklisted exactly if some entry of the list covers its source, whatever the Bloom
filter says of addresses that are not in it. -/
theorem denied_iff_listed (node : NodeCfg) (before after : ConfigMaps) (fates : List Fate)
    (applied : steps configMachine ⟨applyGlobalDenyCfg node, before⟩ fates = ⟨.ret (), after⟩)
    (noise : BloomNoise) (runtime : Runtime) (slot : UInt32) (at' : ActiveSlot after slot)
    (frame : Frame) (pkt : PktMeta)
    (sourcePort : ¬ (pkt.ipProto = ipprotoUdp ∧ ampPortHardcoded pkt.sport))
    (notBogon : bogonSrc pkt.srcIp = false) (portAllowed : PortAllowed ⟨after, runtime⟩ pkt slot) :
    DropsFor (noisyMachine noise) .blacklistDrop (denyFilterStage frame pkt slot) ⟨after, runtime⟩ ↔
      ∃ e ∈ node.globalEntries, e.Covers pkt.srcIp := by
  obtain ⟨plan, planned, held⟩ := denySlot_of_applied applied at'
  rw [denyFilterStage_drops_iff sourcePort notBogon portAllowed]
  exact globalDenyStage_drops_iff_covered held (planned_of_globalBloomPlan planned) frame pkt

/-- A `/22`, which is expanded, and a single address. -/
def denyTwo : NodeCfg :=
  ⟨schemaVersion, kindGlobalDeny, [], 2, [⟨22, 0x01020400⟩, ⟨32, 0x08080808⟩]⟩

/-- The maps after both were applied. -/
def denyTwoMaps : ConfigMaps :=
  (steps configMachine ⟨applyGlobalDenyCfg denyTwo, loadedMaps⟩ (List.replicate 100 .works)).state

def tcpFrom (src : UInt32) : PktMeta :=
  { PktMeta.init [] with srcIp := src, ipProto := ipprotoTcp }

theorem denyTwo_denied :
    DropsFor (noisyMachine allNoise) .blacklistDrop (denyFilterStage [] (tcpFrom 0x010207FF) 1)
        ⟨denyTwoMaps, oneServiceKernel.runtime⟩ ∧
      ¬ DropsFor (noisyMachine allNoise) .blacklistDrop (denyFilterStage [] (tcpFrom 0x08080809) 1)
        ⟨denyTwoMaps, oneServiceKernel.runtime⟩ := by
  have applied : steps configMachine ⟨applyGlobalDenyCfg denyTwo, loadedMaps⟩
      (List.replicate 100 .works) = ⟨.ret (), denyTwoMaps⟩ := rfl
  have at' : ActiveSlot denyTwoMaps 1 := ⟨⟨1, 1⟩, rfl, rfl⟩
  have tcp : ipprotoTcp ≠ ipprotoUdp := by decide
  have member (src : UInt32) (notBogon : bogonSrc src = false) :=
    denied_iff_listed denyTwo loadedMaps denyTwoMaps _ applied allNoise oneServiceKernel.runtime 1
      at' [] (tcpFrom src) (fun both => tcp both.1) notBogon (fun udp => absurd udp tcp)
  constructor
  · exact (member _ (by decide)).mpr (by decide)
  · exact fun dropped => absurd ((member _ (by decide)).mp dropped) (by decide)

end ScrubbingGateway.Apply
