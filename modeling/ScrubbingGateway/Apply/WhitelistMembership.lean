import ScrubbingGateway.Apply.Deployment

/-!
# Whitelists are exact and scoped

The worker computes the flags of a whitelist and packs its networks, the helper reads them and
builds a filter and a trie that all services share, and the packet program asks the filter and the
trie. What comes out for a service is whether a network of its own whitelist covers the source.
-/

namespace ScrubbingGateway.Apply

open Wire Raise DataPlane Control Prog

/-! ## The networks of a whitelist -/

/-- An address has the first bits of a network. -/
def networkCovers : IpNetwork → UInt32 → Prop
  | .v4 address prefixlen, src =>
    address.toNat / 2 ^ (32 - prefixlen.val) = src.toNat / 2 ^ (32 - prefixlen.val)
  | .v6 _, _ => False

instance (n : IpNetwork) (src : UInt32) : Decidable (networkCovers n src) :=
  match n with
  | .v4 _ _ => inferInstanceAs (Decidable (_ = _))
  | .v6 _ => inferInstanceAs (Decidable False)

/-- The entry the helper reads for a network. -/
def wireSource (n : IpNetwork) : CfgSource := ofPackedSource (v4Source n)

theorem wl_cfgOf (s : ServiceConfig) : (cfgOf s).wl = s.whitelist.map wireSource := by
  simp only [cfgOf, ofPacked, recordOf, List.map_map]
  rfl

theorem prefixlen_wireSource (n : IpNetwork) :
    ((wireSource n).prefixlen.toNat : Int) = (v4Source n).prefixlen := by
  have range := v4Source_prefixlen n
  simp only [wireSource, ofPackedSource, UInt32.toNat_ofNat']
  omega

theorem short_wireSource (n : IpNetwork) : (wireSource n).prefixlen.toNat ≤ 32 := by
  have range := v4Source_prefixlen n
  have same := prefixlen_wireSource n
  omega

theorem covers_wireSource {n : IpNetwork} (v4 : isV4 n = true) (src : UInt32) :
    (wireSource n).Covers src ↔ networkCovers n src := by
  cases n with
  | v6 text => cases v4
  | v4 address prefixlen =>
    have length : (wireSource (.v4 address prefixlen)).prefixlen.toNat = prefixlen.val :=
      Int.ofNat_inj.mp (prefixlen_wireSource (.v4 address prefixlen))
    have below : address.toNat / 2 ^ (32 - prefixlen.val) * 2 ^ (32 - prefixlen.val) < 2 ^ 32 :=
      (Nat.div_mul_le_self _ _).trans_lt address.toNat_lt
    have cleared : (wireSource (.v4 address prefixlen)).addr.toNat =
        address.toNat / 2 ^ (32 - prefixlen.val) * 2 ^ (32 - prefixlen.val) :=
      UInt32.toNat_ofNat_of_lt' below
    rw [CfgSource.Covers, length, cleared, Nat.mul_div_cancel _ (Nat.two_pow_pos _)]
    rfl

/-! ## The flags -/

/-- A whitelist with entries is active, and one that is not marked as broad has no entry that is
missing in the filter. -/
theorem wlFlags_cfgOf (s : ServiceConfig) :
    (s.whitelist ≠ [] → (cfgOf s).wlFlags &&& wlActive ≠ 0) ∧
      ((cfgOf s).wlFlags &&& wlHasBroad = 0 →
        ∀ n ∈ s.whitelist, wlBloomPrefix ≤ (wireSource n).prefixlen) := by
  have flags : (cfgOf s).wlFlags = UInt8.ofNat
      (listFlags (s.whitelist.map v4Source) (!(s.whitelist.map v4Source).isEmpty)).toNat := rfl
  by_cases empty : s.whitelist = []
  · simp [empty]
  have active : (!(s.whitelist.map v4Source).isEmpty) = true := by simp [empty]
  rw [flags, active, listFlags, if_pos rfl]
  split
  next broad =>
    -- three: active and broad
    exact ⟨fun _ => by decide, fun unmarked => absurd unmarked (by decide)⟩
  next narrow =>
    refine ⟨fun _ => by decide, fun _ n member => ?_⟩
    simp only [List.any_map, List.any_eq_true, Function.comp_apply, decide_eq_true_eq, not_exists,
      not_and, not_lt] at narrow
    have long := narrow n member
    have same := prefixlen_wireSource n
    rw [UInt32.le_iff_toNat_le, show wlBloomPrefix.toNat = 24 from rfl]
    rw [bloomPrefix] at long
    omega

/-! ## The trie and the filter -/

theorem covers_wlLpmKey {e : CfgSource} (short : e.prefixlen.toNat ≤ 32) (id id' src : UInt32) :
    (wlLpmKey (32 + e.prefixlen) id e.addr).Covers 64 (id'.toNat * 2 ^ 32 + src.toNat) ↔
      id = id' ∧ e.Covers src := by
  have long : 32 + e.prefixlen.toNat ≤ 64 := by omega
  rw [wlLpmKey_eq short, BitPrefix.Covers, and_iff_right long, idBits_div short,
    idBits_inj (leading_lt short _) (leading_lt short _), UInt32.toNat_inj]
  rfl

theorem isSome_find_whitelist {knobs : Knobs} {services : List CfgService}
    {t : Inner .whitelistLpm} (rows : t.lookup = serviceRows knobs services .whitelistLpm)
    (short : ∀ s ∈ services, ∀ e ∈ s.wl, e.prefixlen.toNat ≤ 32) (id src : UInt32) :
    (Inner.find .whitelistLpm t (wlLpmKey 64 id src)).isSome = true ↔
      ∃ s ∈ services, s.dpId = id ∧ ∃ e ∈ s.wl, e.Covers src := by
  have whole : wlLpmKey 64 id src = ⟨64, id.toNat * 2 ^ 32 + src.toNat⟩ := by
    simp [wlLpmKey, BitPrefix.ofNumber]
  have stored (key : BitPrefix) : (t.lookup key).isSome = true ↔
      ∃ s ∈ services, ∃ e ∈ s.wl, key = wlLpmKey (32 + e.prefixlen) s.dpId e.addr := by
    have row : t.lookup key = serviceRows knobs services .whitelistLpm key := congrFun rows key
    rw [row]
    simp only [serviceRows]
    split <;> simp_all
  change (PrefixTrie.longestMatch t (wlLpmKey 64 id src).length
    (wlLpmKey 64 id src).bits).isSome = true ↔ _
  rw [whole, PrefixTrie.isSome_longestMatch_iff]
  constructor
  · rintro ⟨key, covers, present⟩
    obtain ⟨s, member, e, listed, rfl⟩ := (stored key).mp present
    obtain ⟨same, covered⟩ := (covers_wlLpmKey (short s member e listed) _ _ _).mp covers
    exact ⟨s, member, same, e, listed, covered⟩
  · rintro ⟨s, member, rfl, e, listed, covered⟩
    refine ⟨wlLpmKey (32 + e.prefixlen) s.dpId e.addr, ?_, (stored _).mpr ⟨s, member, e, listed, rfl⟩⟩
    exact (covers_wlLpmKey (short s member e listed) _ _ _).mpr ⟨rfl, covered⟩

theorem wlBloomKey_of_covers {e : CfgSource} {src : UInt32} (short : e.prefixlen.toNat ≤ 32)
    (long : wlBloomPrefix ≤ e.prefixlen) (covers : e.Covers src) (id : UInt32) :
    wlBloomKey id src = wlBloomKey id e.addr := by
  have same := bucket_of_long short (UInt32.le_iff_toNat_le.mp long) covers
  have masked : src &&& src24Mask = e.addr &&& src24Mask := by
    rw [← UInt32.toNat_inj, toNat_and_src24Mask, toNat_and_src24Mask, same]
  rw [wlBloomKey, wlBloomKey, masked]

theorem whitelistHit_iff_covered {noise : BloomNoise} {k : Kernel} {slot : UInt32} {knobs : Knobs}
    {services : List CfgService} (held : ServiceSlot k.config slot knobs services)
    (distinct : (services.map CfgService.dpId).Nodup)
    (short : ∀ s ∈ services, ∀ e ∈ s.wl, e.prefixlen.toNat ≤ 32) {s : CfgService}
    (member : s ∈ services) (active : s.wl ≠ [] → s.wlFlags &&& wlActive ≠ 0)
    (narrow : s.wlFlags &&& wlHasBroad = 0 → ∀ e ∈ s.wl, wlBloomPrefix ≤ e.prefixlen)
    (frame : Frame) (pkt : PktMeta) (own : pkt.serviceId = s.dpId) :
    WhitelistHit (noisyMachine noise) frame pkt slot (serviceVal s) k ↔
      ∃ e ∈ s.wl, e.Covers pkt.srcIp := by
  obtain ⟨bloom, bt, bloomAt, bloomRows, inBloom⟩ :=
    inner_of_slotRows (held .whitelistBloom (by decide))
  obtain ⟨lpm, lt, lpmAt, lpmRows, inLpm⟩ := inner_of_slotRows (held .whitelistLpm (by decide))
  have listed : (slotLookup k.config slot .whitelistLpm
      (wlLpmKey 64 pkt.serviceId pkt.srcIp)).isSome = true ↔ ∃ e ∈ s.wl, e.Covers pkt.srcIp := by
    rw [inLpm, isSome_find_whitelist lpmRows short]
    constructor
    · rintro ⟨s', member', same, covered⟩
      -- no other service has the id
      have : s' = s := List.inj_on_of_nodup_map distinct member' member (same.trans own)
      exact this ▸ covered
    · exact fun covered => ⟨s, member, own.symm, covered⟩
  rw [whitelistStage_hits_iff bloomAt lpmAt, listed]
  intro hit
  obtain ⟨e, entry, covers⟩ := listed.mp hit
  constructor
  · exact active (List.ne_nil_of_mem entry)
  · intro unmarked
    have long := narrow unmarked e entry
    have key := wlBloomKey_of_covers (short s member e entry) long covers pkt.serviceId
    rw [inBloom, key, own]
    change (bt.lookup _).isSome = true
    have row := congrFun bloomRows (wlBloomKey s.dpId e.addr)
    rw [row]
    simp only [serviceRows]
    rw [if_pos ⟨s, member, e, entry, long, rfl⟩]
    rfl

/-! ## The helper comes to an end -/

@[grind ←] theorem total_innerUpdate (o : Outer) (fd : MapId) (key : o.Key) (val : o.Val) :
    Total (innerUpdate o fd key val) := by
  grind [innerUpdate]

@[grind ←] theorem total_applyInnerFd (o : Outer) (slot : UInt32) : Total (applyInnerFd o slot) := by
  grind [applyInnerFd, outerLookup, fdById]

@[grind ←] theorem total_applyInstallInner (o : Outer) (slot : UInt32) (fd : MapId) :
    Total (applyInstallInner o slot fd) := by
  grind [applyInstallInner]

section

variable (fd : Outer → MapId)

theorem total_writeWhitelistEntry (id : UInt32) (source : CfgSource) :
    Total (writeWhitelistEntry fd id source) := by
  grind [writeWhitelistEntry]

/-- The index of the loop reaches the end of a list it can count. -/
theorem total_writeWhitelist (id : UInt32) {wl : List CfgSource} (few : wl.length < 65536)
    (fuel : Nat) (i : UInt16) (enough : wl.length < i.toNat + fuel) (inside : i.toNat ≤ wl.length) :
    Total (writeWhitelist fd id wl fuel i) := by
  induction fuel generalizing i with
  | zero => omega
  | succ fuel ih =>
    unfold writeWhitelist
    split
    · trivial
    next source found =>
      obtain ⟨more, _⟩ := List.getElem?_eq_some_iff.mp found
      -- below 65536 the index does not wrap around
      have next : (i + 1).toNat = i.toNat + 1 := by
        rw [UInt16.toNat_add]
        simp only [UInt16.reduceToNat]
        omega
      apply (total_writeWhitelistEntry fd id source).bind
      intro _
      apply ih <;> omega

theorem total_applyWriteService_of_whitelist (knobs : Knobs) (fuel : Nat) (sum : UInt64)
    (s : CfgService) (whitelist : serviceOk s = true → Total (writeWhitelist fd s.dpId s.wl fuel 0)) :
    Total (applyWriteService fd knobs fuel sum s) := by
  cases ok : serviceOk s with
  | false =>
    rw [applyWriteService, ok]
    trivial
  | true =>
    have written := whitelist ok
    unfold applyWriteService
    repeat' refine Total.bind ?_ fun _ => ?_
    all_goals grind

theorem total_applyWriteService (knobs : Knobs) {fuel : Nat} (enough : 65536 ≤ fuel) (sum : UInt64)
    {s : CfgService} (few : s.wl.length < 65536) :
    Total (applyWriteService fd knobs fuel sum s) := by
  apply total_applyWriteService_of_whitelist
  intro _
  apply total_writeWhitelist fd s.dpId few fuel 0 _ (Nat.zero_le _)
  exact few.trans_le (enough.trans (Nat.le_add_left _ _))

end

theorem total_createServiceInners (slot : UInt32) : Total (createServiceInners slot) := by
  grind [createServiceInners, createInnerLike, create]

theorem total_buildInactiveSlot (env : Env) {fuel : Nat} (enough : 65536 ≤ fuel) {node : NodeCfg}
    (few : ∀ s ∈ node.services, s.wl.length < 65536) : Total (buildInactiveSlot env fuel node) := by
  have written (fd : Outer → MapId) (knobs : Knobs) : ∀ s ∈ node.services, ∀ sum,
      Total (applyWriteService fd knobs fuel sum s) :=
    fun s member sum => total_applyWriteService fd knobs enough sum (few s member)
  unfold buildInactiveSlot fillInners
  repeat' refine Total.bind ?_ fun _ => ?_
  all_goals grind [applyReadActive, activeLookup, total_createServiceInners, fairNodeUpdate,
    installServiceInners]

theorem total_carryForwardFeed (slots : Slots) : Total (carryForwardFeed slots) := by
  have copied (o : Outer) :
      Total (applyCopyOuterInner o slots.activeSlot slots.inactiveSlot) := by
    grind [applyCopyOuterInner]
  grind [carryForwardFeed, gblMetaLookup, gblMetaUpdate]

theorem total_verifySlot (node : NodeCfg) (build : ServiceBuild) : Total (verifySlot node build) := by
  have inners (slot : UInt32) : Total (slotInners slot) := by grind [slotInners]
  have verified (serviceFd ruleFd : MapId) (s : CfgService) :
      Total (verifyService serviceFd ruleFd s) := by
    grind [verifyService, innerLookup]
  unfold verifySlot
  repeat' refine Total.bind ?_ fun _ => ?_
  all_goals grind [fairNodeLookup, gblMetaLookup]

/-- A service apply returns or gives up, as long as the whitelists are short enough for the index. -/
theorem total_applyNodeCfg (env : Env) {fuel : Nat} (enough : 65536 ≤ fuel) {node : NodeCfg}
    (few : ∀ s ∈ node.services, s.wl.length < 65536) : Total (applyNodeCfg env fuel node) := by
  have built := total_buildInactiveSlot env enough few
  grind [applyNodeCfg, total_carryForwardFeed, total_verifySlot, commit]

/-! ## From the services to the packets -/

theorem short_wl_cfgOf (node : List ServiceConfig) :
    ∀ s ∈ node.map cfgOf, ∀ e ∈ s.wl, e.prefixlen.toNat ≤ 32 := by
  refine List.forall_mem_map.mpr fun s _ => ?_
  rw [wl_cfgOf]
  exact List.forall_mem_map.mpr fun n _ => short_wireSource n

/-- Whitelists that the index of the loop can count are applied to an end, and after an apply that
went through the whitelist lookup for a service hits exactly when a network of its own whitelist
covers the source, whatever the other services list and the Bloom filter says of addresses that are
not in it. -/
theorem whitelisted_iff_listed (node : List ServiceConfig)
    (distinct : (node.map ServiceConfig.dpId).Nodup)
    (few : ∀ s ∈ node, s.whitelist.length < 65536) (bytes : Bytes)
    (written : serializeNodeSnapshot node = .ok bytes) (cfg : NodeCfg)
    (parsed : parseSnapshot bytes = some cfg) (env : Env) (fuel : Nat) (enough : 65536 ≤ fuel)
    (before : ConfigMaps) :
    (∃ n, ∀ fates : List Fate, n ≤ fates.length →
      Prog.Over (steps configMachine ⟨applyNodeCfg env fuel cfg, before⟩ fates).prog) ∧
    ∀ fates after,
      steps configMachine ⟨applyNodeCfg env fuel cfg, before⟩ fates = ⟨.ret (), after⟩ →
      ∀ slot, ActiveSlot after slot →
      ∀ key service, slotLookup after slot .serviceMap key = some service →
      ∀ s ∈ node, (service.serviceId.toNat : Int) = s.dpId →
      ∀ (noise : BloomNoise) (runtime : Runtime) (frame : Frame) (pkt : PktMeta),
        WhitelistHit (noisyMachine noise) frame { pkt with serviceId := service.serviceId } slot
            service ⟨after, runtime⟩ ↔
          ∃ n ∈ s.whitelist, networkCovers n pkt.srcIp := by
  have serialized := serialized_of_written written
  obtain rfl := parsed_services written parsed
  constructor
  · have counted : ∀ s ∈ node.map cfgOf, s.wl.length < 65536 := by
      refine List.forall_mem_map.mpr fun s member => ?_
      rw [(cfgOf_counts s).2]
      exact few s member
    have total : Total (applyNodeCfg env fuel
        ⟨schemaVersion, kindServiceFull, node.map cfgOf, 0, []⟩) :=
      total_applyNodeCfg env enough counted
    exact total.ends before
  intro fates after applied slot at' key service found s member own noise runtime frame pkt
  obtain ⟨knobs, _, _, configured⟩ := configuration_of_applied applied at'
  have held := serviceSlot_of_configuration configured
  obtain ⟨c, inSnapshot, rfl⟩ := service_of_lookup held found
  obtain ⟨s', member', rfl⟩ := List.mem_map.mp inSnapshot
  -- the id names the service
  have sameId : s'.dpId = s.dpId := (dpId_of_accepted (serialized.services s' member')).symm.trans own
  obtain rfl : s' = s := List.inj_on_of_nodup_map distinct member' member sameId
  obtain ⟨active, narrow⟩ := wlFlags_cfgOf s'
  have listed : (cfgOf s').wl ≠ [] → s'.whitelist ≠ [] := by
    rw [wl_cfgOf]
    exact fun some_ none_ => some_ (by rw [none_, List.map_nil])
  rw [whitelistHit_iff_covered held (nodup_dpIds_of_serialized serialized distinct)
    (short_wl_cfgOf node) inSnapshot (fun some_ => active (listed some_))
    (fun unmarked => by
      rw [wl_cfgOf]
      exact List.forall_mem_map.mpr (narrow unmarked)) frame _ rfl, wl_cfgOf]
  constructor
  · rintro ⟨e, entry, covers⟩
    obtain ⟨n, inList, rfl⟩ := List.mem_map.mp entry
    exact ⟨n, inList, (covers_wireSource (serialized.whitelists s' member n inList) _).mp covers⟩
  · rintro ⟨n, inList, covers⟩
    refine ⟨wireSource n, List.mem_map_of_mem inList, ?_⟩
    exact (covers_wireSource (serialized.whitelists s' member n inList) _).mpr covers

/-- A service that lists all of the network a `/24` of which the other one lists. -/
def broadServiceConfig : ServiceConfig :=
  { oneServiceConfig with
    dpId := 8, cidrOrIp := .v4 0xcb007102 32, whitelist := [.v4 0x08000000 8] }

def twoServices : List ServiceConfig := [oneServiceConfig, broadServiceConfig]

def twoServicesBytes : Bytes := (serializeNodeSnapshot twoServices).toOption.getD []

def twoServicesCfg : NodeCfg := ⟨schemaVersion, kindServiceFull, twoServices.map cfgOf, 0, []⟩

/-- The maps after both were applied. -/
def twoServicesMaps : ConfigMaps :=
  (steps configMachine ⟨applyNodeCfg defaultEnv 65536 twoServicesCfg, loadedMaps⟩
    (List.replicate 100 .works)).state

theorem twoServices_written : serializeNodeSnapshot twoServices = .ok twoServicesBytes := by
  decide +kernel

theorem twoServices_parsed : parseSnapshot twoServicesBytes = some twoServicesCfg := by
  decide +kernel

set_option maxRecDepth 20000 in
theorem twoServices_applied :
    steps configMachine ⟨applyNodeCfg defaultEnv 65536 twoServicesCfg, loadedMaps⟩
      (List.replicate 100 .works) = ⟨.ret (), twoServicesMaps⟩ := rfl

def packetFrom (src serviceId : UInt32) : PktMeta :=
  { PktMeta.init [] with srcIp := src, serviceId }

set_option maxRecDepth 20000 in
theorem twoServices_scoped :
    WhitelistHit (noisyMachine allNoise) [] (packetFrom 0x08080805 7) 1
        (serviceVal (cfgOf oneServiceConfig)) ⟨twoServicesMaps, oneServiceKernel.runtime⟩ ∧
      ¬ WhitelistHit (noisyMachine allNoise) [] (packetFrom 0x08090909 7) 1
        (serviceVal (cfgOf oneServiceConfig)) ⟨twoServicesMaps, oneServiceKernel.runtime⟩ ∧
      WhitelistHit (noisyMachine allNoise) [] (packetFrom 0x08090909 8) 1
        (serviceVal (cfgOf broadServiceConfig)) ⟨twoServicesMaps, oneServiceKernel.runtime⟩ := by
  have at' : ActiveSlot twoServicesMaps 1 := ⟨⟨1, 1⟩, rfl, rfl⟩
  have one : slotLookup twoServicesMaps 1 .serviceMap (serviceKey 32 0xcb007101) =
      some (serviceVal (cfgOf oneServiceConfig)) := rfl
  have broad : slotLookup twoServicesMaps 1 .serviceMap (serviceKey 32 0xcb007102) =
      some (serviceVal (cfgOf broadServiceConfig)) := rfl
  have exact_ := (whitelisted_iff_listed twoServices (by decide) (by decide) twoServicesBytes
    twoServices_written twoServicesCfg twoServices_parsed defaultEnv 65536 (Nat.le_refl _)
    loadedMaps).2 _ _ twoServices_applied 1 at'
  have ofOne (src : UInt32) := exact_ _ _ one oneServiceConfig List.mem_cons_self (by decide)
    allNoise oneServiceKernel.runtime [] (packetFrom src 7)
  have ofBroad (src : UInt32) := exact_ _ _ broad broadServiceConfig
    (List.mem_cons_of_mem _ List.mem_cons_self) (by decide) allNoise oneServiceKernel.runtime []
    (packetFrom src 8)
  refine ⟨?_, ?_, ?_⟩
  · exact (ofOne _).mpr (by decide)
  · exact fun hit => absurd ((ofOne _).mp hit) (by decide)
  · exact (ofBroad _).mpr (by decide)

end ScrubbingGateway.Apply
