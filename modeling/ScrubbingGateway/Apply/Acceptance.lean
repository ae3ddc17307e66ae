import ScrubbingGateway.Apply.Capacity
import ScrubbingGateway.Apply.Codec
import ScrubbingGateway.Control.NodeConfig

/-!
# From the service tables to the kernel maps

Which tables the API admits can be applied: the node is loaded, serialized, parsed by the helper and
written into fresh maps. One service whose rates cannot be packed stops the apply of all others.
-/

namespace ScrubbingGateway.Apply

open Wire Raise DataPlane Control Prog

/-! ## The record of an admitted service -/

/-- The prefix of an IPv4 network. -/
def v4Source : IpNetwork → PackedSource
  | .v4 address prefixlen => ⟨prefixlen.val, networkAddress address prefixlen⟩
  | .v6 _ => ⟨0, 0⟩

def isV4 : IpNetwork → Bool
  | .v4 _ _ => true
  | .v6 _ => false

/-- The values packed for a service whose networks are IPv4. -/
def recordOf (s : ServiceConfig) : PackedService where
  dstPrefixlen := (v4Source s.cidrOrIp).prefixlen
  dstAddr := (v4Source s.cidrOrIp).addr
  dpId := s.dpId
  enabled := if s.enabled then 1 else 0
  wlFlags := listFlags (s.whitelist.map v4Source) (!(s.whitelist.map v4Source).isEmpty)
  reserved0 := 0
  committedBps := (planRates s.plan).1
  ceilingBps := (planRates s.plan).2
  vipPps := s.vipPps.getD 0
  vipBps := s.vipBps.getD 0
  vipFlags := limitFlags s.vipPps s.vipBps
  servicePps := s.servicePps.getD 0
  serviceBps := s.serviceBps.getD 0
  svcRlFlags := limitFlags s.servicePps s.serviceBps
  rules := s.rules.map packedRule
  wl := s.whitelist.map v4Source

/-- The record as the helper reads it. -/
def cfgOf (s : ServiceConfig) : CfgService := ofPacked (recordOf s)

variable {n : IpNetwork} {bytes : Bytes}

theorem cidrParts_v4 (parses : parseIpv4Cidr n = true) : cidrParts n = .ok (v4Source n) := by
  cases n with
  | v4 address prefixlen => rfl
  | v6 text => cases parses

variable {s : ServiceConfig} {node : List ServiceConfig}

theorem packedService_admitted (admitted : AdmittedService s) :
    packedService s = .ok (recordOf s) := by
  have sources : s.whitelist.mapM cidrParts = .ok (s.whitelist.map v4Source) := by
    rw [mapM_eq_ok_map]
    exact fun n member => cidrParts_v4 (admitted.whitelist.1 n member).1
  rw [packedService, cidrParts_v4 admitted.destination.1, sources]
  rfl

theorem packed_node (admitted : ∀ s ∈ node, AdmittedService s) :
    node.mapM packedService = .ok (node.map recordOf) := by
  rw [mapM_eq_ok_map]
  exact fun s member => packedService_admitted (admitted s member)

theorem v4Source_prefixlen (n : IpNetwork) :
    0 ≤ (v4Source n).prefixlen ∧ (v4Source n).prefixlen ≤ 32 := by
  cases n with
  | v4 address prefixlen =>
    have := prefixlen.isLt
    simp only [v4Source]
    omega
  | v6 text => simp [v4Source]

/-! ### Its values fit their fields -/

/-- The packet and byte rates of the whitelist are not negative. -/
def NonNegativeVip (s : ServiceConfig) : Prop :=
  (∀ v ∈ s.vipPps, 0 ≤ v) ∧ ∀ v ∈ s.vipBps, 0 ≤ v

theorem inWidth_rate {rate : Option Int} (range : ∀ v ∈ rate, 0 ≤ v ∧ BigInteger v) :
    InWidth 8 (rate.getD 0) := by
  cases rate with
  | none => decide
  | some v =>
    obtain ⟨positive, _, small⟩ := range v rfl
    exact ⟨positive, small.trans (by decide)⟩

theorem inWidth_limitFlags (pps bps : Option Int) : InWidth 1 (limitFlags pps bps) := by
  unfold limitFlags
  split <;> split <;> decide

theorem inWidth_port {lo hi : Option Int} (valid : validatePortRange lo hi = true) :
    InWidth 2 (lo.getD 0) ∧ InWidth 2 (hi.getD 65535) := by
  cases lo <;> cases hi
  case none.none => decide
  case none.some => cases valid
  case some.none => cases valid
  case some.some lo hi =>
    simp only [validatePortRange, Bool.and_eq_true, decide_eq_true_eq] at valid
    simp only [InWidth, Option.getD_some]
    omega

theorem fitsRule_admitted {rule : AllowRule} (admitted : AdmittedRule rule) :
    FitsRule (packedRule rule) := by
  obtain ⟨srcLo, srcHi⟩ := inWidth_port admitted.srcPorts
  obtain ⟨dstLo, dstHi⟩ := inWidth_port admitted.dstPorts
  refine ⟨srcLo, srcHi, dstLo, dstHi, ?_, ?_⟩
  · cases h : rule.protocol <;> simp only [packedRule, h] <;> decide
  · cases h : rule.enabled <;> simp only [packedRule, ruleFlags, h] <;> decide

theorem planRates_admitted {plan : Option ServicePlan}
    (admitted : ∀ p ∈ plan, validatePlan p = true ∧ NumericColumn p.committedCleanGbps ∧
      NumericColumn p.ceilingCleanGbps) :
    0 ≤ (planRates plan).1 ∧ (planRates plan).1 ≤ (planRates plan).2 ∧
      (planRates plan).2 < 2 ^ 64 := by
  cases plan with
  | none => decide
  | some p =>
    obtain ⟨ordered, _, small⟩ := admitted p rfl
    simp only [validatePlan, Bool.not_eq_true', Bool.or_eq_false_iff, decide_eq_false_iff_not]
      at ordered
    simp only [NumericColumn] at small
    simp only [planRates, gbps]
    omega

theorem inFields_admitted (admitted : AdmittedService s) (vip : NonNegativeVip s) :
    InFields (recordOf s) where
  dstPrefixlen := by
    have := v4Source_prefixlen s.cidrOrIp
    simp only [InWidth, recordOf]
    omega
  dpId := by
    have := admitted.dpId
    simp only [IntegerColumn] at this
    simp only [InWidth, recordOf]
    omega
  enabled := by
    cases h : s.enabled <;> simp only [recordOf, h] <;> decide
  wlFlags := by
    dsimp only [recordOf, listFlags]
    split
    · split <;> decide
    · decide
  committedBps := by
    have := planRates_admitted admitted.plan
    simp only [InWidth, recordOf]
    omega
  ceilingBps := by
    have := planRates_admitted admitted.plan
    simp only [InWidth, recordOf]
    omega
  vipPps := inWidth_rate fun v given => ⟨vip.1 v given, admitted.vipPps v given⟩
  vipBps := inWidth_rate fun v given => ⟨vip.2 v given, admitted.vipBps v given⟩
  vipFlags := inWidth_limitFlags _ _
  servicePps := inWidth_rate admitted.servicePps
  serviceBps := inWidth_rate admitted.serviceBps
  svcRlFlags := inWidth_limitFlags _ _
  rules := List.forall_mem_map.mpr fun rule member =>
    fitsRule_admitted (admitted.rules.2.1 rule member)
  wl := by
    refine List.forall_mem_map.mpr fun n _ => ?_
    have := v4Source_prefixlen n
    simp only [InWidth]
    omega

/-! ### The helper's checks pass -/

theorem cfgOf_counts (s : ServiceConfig) :
    (cfgOf s).rules.length = s.rules.length ∧ (cfgOf s).wl.length = s.whitelist.length := by
  simp only [cfgOf, ofPacked, recordOf, List.length_map, and_self]

theorem cfgOf_writable (admitted : AdmittedService s) : Writable (cfgOf s) := by
  constructor
  · have destination := v4Source_prefixlen s.cidrOrIp
    have id := admitted.dpId
    have rates := planRates_admitted admitted.plan
    have few := admitted.rules.1
    simp only [IntegerColumn] at id
    simp only [maxRulesPerService] at few
    have prefixOk : ¬ (cfgOf s).dstPrefixlen > 32 := by
      rw [gt_iff_lt, UInt32.lt_iff_toNat_lt]
      simp only [cfgOf, ofPacked, recordOf, UInt32.toNat_ofNat', UInt32.reduceToNat]
      omega
    have idOk : ¬ (cfgOf s).dpId = 0 := by
      rw [← UInt32.toNat_inj]
      simp only [cfgOf, ofPacked, recordOf, UInt32.toNat_ofNat', UInt32.reduceToNat]
      omega
    have enabledOk : ¬ (cfgOf s).enabled > 1 := by
      cases h : s.enabled <;> simp only [cfgOf, ofPacked, recordOf, h] <;> decide
    have ratesOk : ¬ (cfgOf s).committedBps > (cfgOf s).ceilingBps := by
      rw [gt_iff_lt, UInt64.lt_iff_toNat_lt]
      simp only [cfgOf, ofPacked, recordOf, UInt64.toNat_ofNat']
      omega
    have rulesOk : ¬ (cfgOf s).rules.length > ruleMax := by
      rw [(cfgOf_counts s).1, ruleMax]
      omega
    simp only [serviceOk, Bool.not_eq_true', Bool.or_eq_false_iff, decide_eq_false_iff_not,
      beq_eq_false_iff_ne, bne_eq_false_iff_eq]
    exact ⟨⟨⟨⟨⟨prefixOk, idOk⟩, enabledOk⟩, rfl⟩, rulesOk⟩, ratesOk⟩
  · refine List.forall_mem_map.mpr (List.forall_mem_map.mpr fun n _ => ?_)
    have range := v4Source_prefixlen n
    rw [UInt32.le_iff_toNat_le]
    simp only [ofPackedSource, UInt32.toNat_ofNat', UInt32.reduceToNat]
    omega

/-! ### Its keys are its own -/

theorem idBits_div {length : Nat} (short : length ≤ 32) (id address : Nat) :
    (id * 2 ^ 32 + address) / 2 ^ (64 - (32 + length)) =
      id * 2 ^ length + address / 2 ^ (32 - length) := by
  have width : 64 - (32 + length) = 32 - length := by omega
  have factor : 2 ^ 32 = 2 ^ length * 2 ^ (32 - length) := by
    rw [← Nat.pow_add, Nat.add_sub_cancel' short]
  rw [width, factor, ← Nat.mul_assoc, Nat.mul_comm _ (2 ^ (32 - length)),
    Nat.mul_add_div (Nat.two_pow_pos _)]

theorem wlLpmKey_eq {prefixlen : UInt32} (short : prefixlen.toNat ≤ 32) (id address : UInt32) :
    wlLpmKey (32 + prefixlen) id address = ⟨32 + prefixlen.toNat,
      id.toNat * 2 ^ prefixlen.toNat + address.toNat / 2 ^ (32 - prefixlen.toNat)⟩ := by
  have length : (32 + prefixlen).toNat = 32 + prefixlen.toNat := by
    rw [UInt32.toNat_add]
    simp only [UInt32.reduceToNat]
    omega
  rw [wlLpmKey, BitPrefix.ofNumber, length, idBits_div short]

theorem leading_lt {length : Nat} (short : length ≤ 32) (address : UInt32) :
    address.toNat / 2 ^ (32 - length) < 2 ^ length := by
  apply Nat.div_lt_of_lt_mul
  rw [← Nat.pow_add, Nat.sub_add_cancel short]
  exact address.toNat_lt

theorem idBits_inj {id id' size low low' : Nat} (small : low < size) (small' : low' < size) :
    id * size + low = id' * size + low' ↔ id = id' ∧ low = low' := by
  constructor
  · intro same
    have ids := congrArg (· / size) same
    have pos : 0 < size := Nat.zero_lt_of_lt small
    simp only [Nat.mul_comm _ size, Nat.mul_add_div pos, Nat.div_eq_of_lt small,
      Nat.div_eq_of_lt small', Nat.add_zero] at ids
    subst ids
    exact ⟨rfl, Nat.add_left_cancel same⟩
  · rintro ⟨rfl, rfl⟩
    rfl

theorem wlLpmKey_inj {id id' address address' : UInt32} {length length' : Fin 33}
    (canonical : networkAddress address length = address)
    (canonical' : networkAddress address' length' = address')
    (same : wlLpmKey (32 + UInt32.ofNat length.val) id address =
      wlLpmKey (32 + UInt32.ofNat length'.val) id' address') :
    id = id' ∧ length = length' ∧ address = address' := by
  have lengthOf (l : Fin 33) : (UInt32.ofNat l.val).toNat = l.val :=
    UInt32.toNat_ofNat_of_lt' (l.isLt.trans (by decide))
  have short (l : Fin 33) : l.val ≤ 32 := Nat.le_of_lt_succ l.isLt
  rw [wlLpmKey_eq ((lengthOf length).trans_le (short length)),
    wlLpmKey_eq ((lengthOf length').trans_le (short length')), lengthOf, lengthOf,
    BitPrefix.mk.injEq] at same
  obtain ⟨sameLength, sameBits⟩ := same
  have lengths : length = length' := Fin.ext (Nat.add_left_cancel sameLength)
  subst lengths
  obtain ⟨ids, quotients⟩ := (idBits_inj (leading_lt (short length) address)
    (leading_lt (short length) address')).mp sameBits
  refine ⟨UInt32.toNat_inj.mp ids, rfl, ?_⟩
  rw [← canonical, ← canonical', networkAddress, networkAddress, quotients]

theorem parseIpv4Cidr_eq (parses : parseIpv4Cidr n = true) :
    ∃ address prefixlen, n = .v4 address prefixlen ∧ networkAddress address prefixlen = address := by
  cases n with
  | v4 address prefixlen => exact ⟨address, prefixlen, rfl, eq_of_beq parses⟩
  | v6 text => cases parses

theorem dpId_inj {s' : ServiceConfig} (admitted : AdmittedService s)
    (admitted' : AdmittedService s') (same : (cfgOf s).dpId = (cfgOf s').dpId) :
    s.dpId = s'.dpId := by
  have range := admitted.dpId
  have range' := admitted'.dpId
  simp only [IntegerColumn] at range range'
  have number := congrArg UInt32.toNat same
  simp only [cfgOf, ofPacked, recordOf, UInt32.toNat_ofNat'] at number
  omega

theorem nodup_dpIds (admitted : AdmittedRows node) :
    ((node.map cfgOf).map CfgService.dpId).Nodup := by
  have distinct := admitted.dpIds
  rw [List.map_map]
  unfold List.Nodup at distinct ⊢
  rw [List.pairwise_map] at distinct ⊢
  refine distinct.imp_of_mem fun {s s'} member member' other same => other ?_
  exact dpId_inj (admitted.services s member) (admitted.services s' member') same

def sourceKey (s : ServiceConfig) (n : IpNetwork) : BitPrefix :=
  wlLpmKey (32 + (ofPackedSource (v4Source n)).prefixlen) (cfgOf s).dpId (v4Source n).addr

theorem snapshotKeys_cfgOf (node : List ServiceConfig) :
    snapshotKeys (node.map cfgOf) .whitelistLpm =
      node.flatMap fun s => s.whitelist.map (sourceKey s) := by
  simp only [snapshotKeys, List.flatMap_map]
  congr 1
  funext s
  simp only [cfgOf, ofPacked, recordOf, List.map_map]
  rfl

theorem sourceKey_inj {s' : ServiceConfig} {n' : IpNetwork} (parses : parseIpv4Cidr n = true)
    (parses' : parseIpv4Cidr n' = true) (same : sourceKey s n = sourceKey s' n') :
    (cfgOf s).dpId = (cfgOf s').dpId ∧ n = n' := by
  obtain ⟨address, length, rfl, canonical⟩ := parseIpv4Cidr_eq parses
  obtain ⟨address', length', rfl, canonical'⟩ := parseIpv4Cidr_eq parses'
  simp only [sourceKey, v4Source, ofPackedSource, Int.toNat_natCast, canonical, canonical'] at same
  obtain ⟨ids, rfl, rfl⟩ := wlLpmKey_inj canonical canonical' same
  exact ⟨ids, rfl⟩

/-- Neither two services nor two entries of one whitelist share a key. -/
theorem nodup_sourceKeys (admitted : AdmittedRows node) :
    (snapshotKeys (node.map cfgOf) .whitelistLpm).Nodup := by
  rw [snapshotKeys_cfgOf, List.nodup_flatMap]
  have parses {s : ServiceConfig} (member : s ∈ node) {n : IpNetwork} (listed : n ∈ s.whitelist) :
      parseIpv4Cidr n = true := ((admitted.services s member).whitelist.1 n listed).1
  constructor
  · intro s member
    refine List.Nodup.map_on ?_ (admitted.services s member).whitelist.2
    intro n listed n' listed' same
    exact (sourceKey_inj (parses member listed) (parses member listed') same).2
  · have distinct := nodup_dpIds admitted
    rw [List.map_map] at distinct
    unfold List.Nodup at distinct
    rw [List.pairwise_map] at distinct
    refine distinct.imp_of_mem fun {s s'} member member' other => ?_
    intro key inFirst inSecond
    obtain ⟨n, listed, rfl⟩ := List.mem_map.mp inFirst
    obtain ⟨n', listed', same⟩ := List.mem_map.mp inSecond
    exact other (sourceKey_inj (parses member listed) (parses member' listed') same.symm).1

/-! ## What a written snapshot says about the values -/

theorem structPack_ok {items : List PackItem} (packed : structPack items = .ok bytes)
    {item : PackItem} (member : item ∈ items) : ∃ part, item.pack = .ok part := by
  obtain ⟨parts, packedParts, _⟩ := map_eq_ok.mp packed
  exact ok_of_mapM packedParts member

theorem structPack_inWidth {items : List PackItem} (packed : structPack items = .ok bytes)
    {width : Nat} {v : Int} (member : .uint width v ∈ items) : InWidth width v := by
  obtain ⟨part, fits⟩ := structPack_ok packed member
  rw [PackItem.pack] at fits
  split at fits
  next range => exact range
  · cases fits

theorem packAll_ok {α : Type} {pack : α → Except SnapshotError Bytes} {list : List α}
    (packed : packAll pack list = .ok bytes) : ∀ a ∈ list, ∃ part, pack a = .ok part := by
  obtain ⟨parts, packedParts, _⟩ := map_eq_ok.mp packed
  exact fun a member => ok_of_mapM packedParts member

/-- What `struct.pack` has accepted of a service. -/
structure Accepted (r : PackedService) : Prop extends InFields r where
  ruleCount : r.rules.length < 256 ^ 2
  wlCount : r.wl.length < 256 ^ 4

theorem accepted_of_packed {r : PackedService} (packed : packService r = .ok bytes) :
    Accepted r := by
  obtain ⟨head, packedHead, packed⟩ := bind_eq_ok.mp packed
  obtain ⟨rules, packedRules, packed⟩ := bind_eq_ok.mp packed
  obtain ⟨wl, packedWl, _⟩ := bind_eq_ok.mp packed
  obtain ⟨count, packedCount, packedWl⟩ := bind_eq_ok.mp packedWl
  obtain ⟨sources, packedSources, _⟩ := bind_eq_ok.mp packedWl
  have inHead {width : Nat} {v : Int} (member : _) : InWidth width v :=
    structPack_inWidth packedHead member
  have ruleCount : InWidth 2 r.rules.length := inHead (by simp)
  have wlCount : InWidth 4 r.wl.length := structPack_inWidth packedCount (by simp)
  have fields : InFields r := by
    constructor
    case rules =>
      intro rule member
      obtain ⟨part, packedRule⟩ := packAll_ok packedRules rule member
      constructor <;> exact structPack_inWidth packedRule (by simp)
    case wl =>
      intro source member
      obtain ⟨part, packedSource⟩ := packAll_ok packedSources source member
      exact structPack_inWidth packedSource (by simp)
    all_goals exact inHead (by simp)
  exact ⟨fields, by exact_mod_cast ruleCount.2, by exact_mod_cast wlCount.2⟩

theorem v4Source_of_cidrParts {source : PackedSource} (packed : cidrParts n = .ok source) :
    source = v4Source n ∧ isV4 n = true := by
  cases n with
  | v4 address prefixlen =>
    cases packed
    exact ⟨rfl, rfl⟩
  | v6 text => cases packed

theorem recordOf_of_packed {r : PackedService} (packed : packedService s = .ok r) :
    r = recordOf s ∧ ∀ n ∈ s.whitelist, isV4 n = true := by
  obtain ⟨dst, packedDst, packed⟩ := bind_eq_ok.mp packed
  obtain ⟨whitelist, packedSources, packed⟩ := bind_eq_ok.mp packed
  obtain ⟨rfl, _⟩ := v4Source_of_cidrParts packedDst
  have each := (mapM_eq_ok.mp packedSources).imp fun _ _ => v4Source_of_cidrParts
  have sources : s.whitelist.map v4Source = whitelist := by
    rw [← List.forall₂_eq_eq_eq, List.forall₂_map_left_iff]
    exact each.imp fun _ _ both => both.1.symm
  subst sources
  cases packed
  refine ⟨rfl, fun n member => ?_⟩
  rw [List.forall₂_map_right_iff, List.forall₂_same] at each
  exact (each n member).2

/-- What a snapshot that was written says about its node. -/
structure Serialized (node : List ServiceConfig) : Prop where
  count : node.length < 256 ^ 4
  packed : node.mapM packedService = .ok (node.map recordOf)
  services : ∀ s ∈ node, Accepted (recordOf s)
  whitelists : ∀ s ∈ node, ∀ n ∈ s.whitelist, isV4 n = true

theorem serialized_of_written (written : serializeNodeSnapshot node = .ok bytes) :
    Serialized node := by
  obtain ⟨header, packedHeader, packed⟩ := bind_eq_ok.mp written
  obtain ⟨body, packedBody, _⟩ := bind_eq_ok.mp packed
  obtain ⟨fields, packedFields, _⟩ := bind_eq_ok.mp packedHeader
  have count : InWidth 4 node.length := structPack_inWidth packedFields (by simp)
  have each (s : ServiceConfig) (member : s ∈ node) :
      packedService s = .ok (recordOf s) ∧ Accepted (recordOf s) ∧
        ∀ n ∈ s.whitelist, isV4 n = true := by
    obtain ⟨part, packedPart⟩ := packAll_ok packedBody s member
    obtain ⟨r, record, packedRecord⟩ := bind_eq_ok.mp packedPart
    obtain ⟨rfl, v4⟩ := recordOf_of_packed record
    exact ⟨record, accepted_of_packed packedRecord, v4⟩
  constructor
  · exact_mod_cast count.2
  · rw [mapM_eq_ok_map]
    exact fun s member => (each s member).1
  · exact fun s member => (each s member).2.1
  · exact fun s member => (each s member).2.2

/-- The rates of a service are packed only when they are not negative. -/
theorem nonNegativeVip_of_accepted (accepted : Accepted (recordOf s)) : NonNegativeVip s := by
  constructor
  · intro v given
    have positive := accepted.vipPps.1
    simpa only [recordOf, Option.mem_def.mp given, Option.getD_some] using positive
  · intro v given
    have positive := accepted.vipBps.1
    simpa only [recordOf, Option.mem_def.mp given, Option.getD_some] using positive

theorem Accepted.counted (accepted : Accepted (recordOf s)) : (cfgOf s).Counted := by
  constructor
  · rw [cfgOf, ofPacked, List.length_map]
    exact accepted.ruleCount
  · rw [cfgOf, ofPacked, List.length_map]
    exact accepted.wlCount

theorem cfgOf_counted (admitted : AdmittedService s) (few : s.whitelist.length < 256 ^ 4) :
    (cfgOf s).Counted := by
  have rules := admitted.rules.1
  simp only [maxRulesPerService] at rules
  exact ⟨by rw [(cfgOf_counts s).1]; omega, by rwa [(cfgOf_counts s).2]⟩

/-! ## The size of a snapshot -/

theorem length_flatMap_const {α : Type} {put : α → Bytes} {size : Nat}
    (sized : ∀ a, (put a).length = size) (list : List α) :
    (list.flatMap put).length = list.length * size := by
  rw [List.length_flatMap, List.map_congr_left fun a _ => sized a, List.map_const',
    List.sum_replicate_nat]

theorem length_putService (s : CfgService) :
    (putService s).length = 71 + s.rules.length * 10 + s.wl.length * 8 := by
  have rule (r : CfgRule) : (putRule r).length = 10 := by
    simp only [putRule, List.length_append, length_leBytes]
  have source (e : CfgSource) : (putSource e).length = 8 := by
    simp only [putSource, beBytes, List.length_append, List.length_reverse, length_leBytes]
  simp only [putService, putHead, putSources, beBytes, List.length_append, List.length_reverse,
    length_leBytes, length_flatMap_const rule, length_flatMap_const source]
  omega

theorem length_services_le {services : List CfgService}
    (few : ∀ s ∈ services, s.rules.length ≤ 16) :
    (services.flatMap putService).length ≤ services.length * 231 + whitelistTotal services * 8 := by
  induction services with
  | nil => exact Nat.zero_le _
  | cons s services ih =>
    rw [List.forall_mem_cons] at few
    have rest := ih few.2
    simp only [whitelistTotal, List.flatMap_cons, List.length_append, length_putService,
      List.length_cons, List.map_cons, List.sum_cons] at rest ⊢
    omega

theorem putSnapshot_size {services : List CfgService} (fitting : Fitting services)
    (few : ∀ s ∈ services, s.rules.length ≤ 16) :
    (putSnapshot services).length ≤ applyMaxBytes := by
  have body := length_services_le few
  have count := fitting.count
  have total := fitting.whitelists
  simp only [putSnapshot, putServices, List.length_append, length_leBytes, applyMaxBytes,
    show snapshotMagic.length = 8 from rfl]
  omega

/-! ## Which nodes are accepted -/

/-- What it takes to apply some services together. -/
structure Deployable (services : List ServiceConfig) : Prop where
  vip : ∀ s ∈ services, NonNegativeVip s
  count : services.length ≤ 1024
  whitelists : (services.map fun s => s.whitelist.length).sum ≤ 65536
  indexed : ∀ s ∈ services, s.whitelist.length < 65536

/-- The worker serializes a node, and the helper parses it and writes its services into the maps
it creates like those of a slot. -/
def NodeAccepted (knobs : Knobs) (slot : UInt32) (k : ConfigMaps) (node : List ServiceConfig) :
    Prop :=
  ∃ bytes cfg fuel sum now, serializeNodeSnapshot node = .ok bytes ∧
    parseSnapshot bytes = some cfg ∧
    eval configMachine (fillInners knobs fuel slot cfg.services) k = (.returned sum, now)

theorem fitting_cfgOf_iff (node : List ServiceConfig) :
    Fitting (node.map cfgOf) ↔ node.length ≤ 1024 ∧
      (node.map fun s => s.whitelist.length).sum ≤ 65536 ∧
      ∀ s ∈ node, s.whitelist.length < 65536 := by
  have total : whitelistTotal (node.map cfgOf) = (node.map fun s => s.whitelist.length).sum := by
    rw [whitelistTotal, List.map_map]
    exact congrArg List.sum (List.map_congr_left fun s _ => (cfgOf_counts s).2)
  have indexed : (∀ s ∈ node.map cfgOf, s.wl.length < 65536) ↔
      ∀ s ∈ node, s.whitelist.length < 65536 := by
    simp only [List.forall_mem_map, (cfgOf_counts _).2]
  rw [← total, ← indexed, ← List.length_map cfgOf]
  exact ⟨fun fits => ⟨fits.1, fits.2, fits.3⟩, fun bounds => ⟨bounds.1, bounds.2.1, bounds.2.2⟩⟩

theorem serialize_put (admitted : ∀ s ∈ node, AdmittedService s)
    (vip : ∀ s ∈ node, NonNegativeVip s) (count : node.length < 256 ^ 4)
    (counted : ∀ s ∈ node, s.whitelist.length < 256 ^ 4) :
    serializeNodeSnapshot node = .ok (putSnapshot (node.map cfgOf)) := by
  rw [serializeNodeSnapshot_eq (packed_node admitted)]
  have written := packSnapshot_ofPacked
    (List.forall_mem_map.mpr fun s member => inFields_admitted (admitted s member) (vip s member))
    (List.forall_mem_map.mpr fun _ _ => rfl) ((List.length_map recordOf).trans_lt count)
    (List.forall_mem_map.mpr fun s member => cfgOf_counted (admitted s member) (counted s member))
  rwa [List.map_map] at written

section Node

variable {knobs : Knobs} {slot : UInt32} {k : ConfigMaps}

theorem rules_cfgOf (admitted : AdmittedRows node) :
    ∀ s ∈ node.map cfgOf, s.rules.length ≤ 16 := by
  refine List.forall_mem_map.mpr fun s member => ?_
  rw [(cfgOf_counts s).1]
  exact (admitted.services s member).rules.1

theorem parsed_services {cfg : NodeCfg}
    (written : serializeNodeSnapshot node = .ok bytes) (parsed : parseSnapshot bytes = some cfg) :
    cfg = ⟨schemaVersion, kindServiceFull, node.map cfgOf, 0, []⟩ := by
  have serialized := serialized_of_written written
  have counted : ∀ s ∈ node, (cfgOf s).Counted :=
    fun s member => (serialized.services s member).counted
  -- the bytes are those of the records, so the helper has read just these
  have put := packSnapshot_ofPacked
    (List.forall_mem_map.mpr fun s member => (serialized.services s member).toInFields)
    (List.forall_mem_map.mpr fun _ _ => rfl)
    ((List.length_map recordOf).trans_lt serialized.count) (List.forall_mem_map.mpr counted)
  rw [serializeNodeSnapshot_eq serialized.packed, put, List.map_map] at written
  cases written
  exact parseSnapshot_put_some ((List.length_map cfgOf).trans_lt serialized.count)
    (List.forall_mem_map.mpr fun _ _ => rfl) (List.forall_mem_map.mpr counted) parsed

theorem deployable_of_accepted (admitted : AdmittedRows node)
    (accepted : NodeAccepted knobs slot k node) : Deployable node := by
  obtain ⟨bytes, cfg, fuel, sum, now, written, parsed, ran⟩ := accepted
  obtain rfl := parsed_services written parsed
  have vip : ∀ s ∈ node, NonNegativeVip s := fun s member =>
    nonNegativeVip_of_accepted ((serialized_of_written written).services s member)
  have fitting := fillInners_fitting (nodup_dpIds admitted) (nodup_sourceKeys admitted) ran
  obtain ⟨few, whitelists, indexed⟩ := (fitting_cfgOf_iff node).mp fitting
  exact ⟨vip, few, whitelists, indexed⟩

theorem accepted_of_deployable (admitted : AdmittedRows node) (placed : Placed k slot)
    (deployable : Deployable node) : NodeAccepted knobs slot k node := by
  have fitting := (fitting_cfgOf_iff node).mpr
    ⟨deployable.count, deployable.whitelists, deployable.indexed⟩
  have written := serialize_put admitted.services deployable.vip
    (deployable.count.trans_lt (by decide))
    fun s member => (deployable.indexed s member).trans (by decide)
  have valid : ∀ s ∈ node.map cfgOf, s.Valid := by
    refine List.forall_mem_map.mpr fun s member => ⟨rfl, ?_, ?_⟩
    · exact rules_cfgOf admitted _ (List.mem_map_of_mem member)
    · rw [(cfgOf_counts s).2]
      exact (deployable.indexed s member).le.trans (by decide)
  have parsed := (parseSnapshot_serviceFull (putSnapshot (node.map cfgOf))
    ⟨schemaVersion, kindServiceFull, node.map cfgOf, 0, []⟩).mpr
    ⟨rfl, rfl, putSnapshot_size fitting (rules_cfgOf admitted),
      (fitting.count.trans (by decide)), valid⟩
  have writable : ∀ s ∈ node.map cfgOf, Writable s :=
    List.forall_mem_map.mpr fun s member => cfgOf_writable (admitted.services s member)
  obtain ⟨sum, now, ran, _⟩ := (fillInners_works fitting writable knobs placed).returns
  exact ⟨_, _, 65536, sum, now, written, parsed.1, ran⟩

end Node

/-- Sorting and loading keep what matters for the apply. -/
theorem deployable_load_iff (rows : List ServiceConfig) :
    Deployable (loadNodeConfig rows) ↔ Deployable (rows.filter ServiceConfig.enabled) := by
  have lengths (s : ServiceConfig) : (serviceConfig s).whitelist.length = s.whitelist.length :=
    (serviceConfig_whitelist_perm s).length_eq
  have total : ((loadNodeConfig rows).map fun s => s.whitelist.length).sum =
      ((rows.filter ServiceConfig.enabled).map fun s => s.whitelist.length).sum := by
    rw [loadNodeConfig, List.map_map, ← ((enabled_perm rows).map _).sum_nat]
    exact congrArg List.sum (List.map_congr_left fun s _ => lengths s)
  have all {P : ServiceConfig → Prop} (same : ∀ s, P (serviceConfig s) ↔ P s) :
      (∀ s ∈ loadNodeConfig rows, P s) ↔ ∀ s ∈ rows.filter ServiceConfig.enabled, P s := by
    simp only [loadNodeConfig, List.forall_mem_map, List.mem_insertionSort, same]
  constructor
  · rintro ⟨vip, count, whitelists, indexed⟩
    exact ⟨(all fun _ => Iff.rfl).mp vip, length_loadNodeConfig rows ▸ count, total ▸ whitelists,
      (all fun s => by rw [lengths s]).mp indexed⟩
  · rintro ⟨vip, count, whitelists, indexed⟩
    exact ⟨(all fun _ => Iff.rfl).mpr vip, (length_loadNodeConfig rows).trans_le count,
      total.trans_le whitelists, (all fun s => by rw [lengths s]).mpr indexed⟩

/-- The tables that the API and the schema admit are applied exactly when no enabled service has a
negative whitelist rate, and the enabled services fit the maps and the whitelist index. -/
theorem tables_accepted_iff_deployable (rows : List ServiceConfig) (admitted : AdmittedRows rows)
    (knobs : Knobs) (slot : UInt32) (k : ConfigMaps) (placed : Placed k slot) :
    NodeAccepted knobs slot k (loadNodeConfig rows) ↔
      Deployable (rows.filter ServiceConfig.enabled) := by
  rw [← deployable_load_iff]
  constructor
  · exact deployable_of_accepted admitted.loadNodeConfig
  · exact accepted_of_deployable admitted.loadNodeConfig placed

/-- The settings of the helper without an environment. -/
def defaultKnobs : Knobs := ⟨5000000000, 3, 512⟩

theorem oneServiceConfig_admitted : AdmittedService oneServiceConfig where
  dpId := ⟨by decide, by decide, by decide⟩
  destination := by decide
  vipPps v given := by
    cases given
    exact ⟨by decide, by decide⟩
  vipBps v given := by cases given
  servicePps v given := by cases given
  serviceBps v given := by
    cases given
    exact ⟨by decide, by decide, by decide⟩
  plan p given := by
    cases given
    exact ⟨by decide, ⟨by decide, by decide⟩, by decide, by decide⟩
  rules := by
    refine ⟨by decide, fun rule member => ?_, by decide⟩
    obtain rfl := List.mem_singleton.mp member
    exact ⟨⟨by decide, by decide⟩, by decide, by decide⟩
  whitelist := by decide

theorem oneServiceConfig_accepted :
    NodeAccepted defaultKnobs 0 loadedMaps (loadNodeConfig [oneServiceConfig]) := by
  have admitted : AdmittedRows [oneServiceConfig] :=
    ⟨List.forall_mem_singleton.mpr oneServiceConfig_admitted, by decide, by decide⟩
  refine (tables_accepted_iff_deployable [oneServiceConfig] admitted defaultKnobs 0 loadedMaps
    fun _ _ => rfl).mpr ⟨?_, by decide, by decide, by decide⟩
  refine List.forall_mem_singleton.mpr ⟨fun v given => ?_, nofun⟩
  cases given
  decide

/-- A service of another tenant, with a packet rate for its whitelist of minus one. -/
def negativeVipConfig : ServiceConfig :=
  { oneServiceConfig with dpId := 8, cidrOrIp := .v4 0xcb007102 32, vipPps := some (-1) }

theorem negativeVipConfig_admitted : AdmittedService negativeVipConfig where
  __ := oneServiceConfig_admitted
  dpId := ⟨by decide, by decide, by decide⟩
  destination := by decide
  vipPps v given := by
    cases given
    exact ⟨by decide, by decide⟩

/-- One service with a negative rate, and no snapshot of the node is written any more. -/
theorem negativeVipConfig_blocks_node :
    AdmittedRows [oneServiceConfig, negativeVipConfig] ∧
    serializeNodeSnapshot (loadNodeConfig [oneServiceConfig, negativeVipConfig]) =
      .error .structError ∧
    ¬ NodeAccepted defaultKnobs 0 loadedMaps
      (loadNodeConfig [oneServiceConfig, negativeVipConfig]) := by
  have raised : serializeNodeSnapshot (loadNodeConfig [oneServiceConfig, negativeVipConfig]) =
      .error .structError := by decide +kernel
  refine ⟨⟨?_, by decide, by decide⟩, raised, ?_⟩
  · exact List.forall_mem_cons.mpr
      ⟨oneServiceConfig_admitted, List.forall_mem_singleton.mpr negativeVipConfig_admitted⟩
  · rintro ⟨bytes, cfg, fuel, sum, now, written, _⟩
    rw [raised] at written
    cases written

end ScrubbingGateway.Apply
