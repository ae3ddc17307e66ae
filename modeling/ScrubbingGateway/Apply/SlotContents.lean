import ScrubbingGateway.Apply.PrefixCover

/-!
# What a built slot holds

The helper fills seven fresh maps in one loop over the services of a snapshot. Once the slot is built
and verified, what a lookup in it returns can be read off the snapshot, whatever was in the maps
before and in whatever order the services came.
-/

namespace ScrubbingGateway.Apply

open DataPlane Prog

/-- The network of a service, as the key of the service map. -/
def CfgService.destination (s : CfgService) : BitPrefix := serviceKey s.dstPrefixlen s.dstAddr

/-- What a snapshot prescribes as the answer of a lookup. A service is found by the longest network
that covers the destination, the rest by the id of the service. -/
def Prescribes (knobs : Knobs) (services : List CfgService) : (o : Outer) → o.Key → o.Val → Prop
  | .serviceMap, key, v => ∃ s ∈ services, s.destination.Covers key.length key.bits ∧
      v = serviceVal s ∧ ∀ s' ∈ services, s'.destination.Covers key.length key.bits →
        s'.destination.length ≤ s.destination.length
  | .ruleBlockMap, id, v => ∃ s ∈ services, s.dpId = id ∧ v = ruleBlock s
  | .whitelistBloom, key, _ => ∃ s ∈ services, ∃ e ∈ s.wl, e.prefixlen ≥ wlBloomPrefix ∧
      key = wlBloomKey s.dpId e.addr
  | .whitelistLpm, key, v => v = 1 ∧ ∃ s ∈ services, ∃ e ∈ s.wl,
      (wlLpmKey (32 + e.prefixlen) s.dpId e.addr).Covers key.length key.bits
  | .vipConfigMap, id, v => ∃ s ∈ services, s.dpId = id ∧ s.wlFlags &&& wlActive ≠ 0 ∧
      v = vipConfig s
  | .svcRlConfigMap, id, v => ∃ s ∈ services, s.dpId = id ∧ v = svcRlConfig s
  | .fairConfigMap, id, v => ∃ s ∈ services, s.dpId = id ∧ v = fairConfig knobs s
  | .globalBlacklistBloom, _, _ | .globalBlacklistLpm, _, _ | .udpBlockedPortBitmap, _, _ => False

/-! ## The rows of a snapshot -/

/-- If only one service can meet a condition, the last one that does is the one that does. -/
theorem latest_eq_some_iff {condition : CfgService → Bool} {services : List CfgService}
    (unique : ∀ s ∈ services, ∀ s' ∈ services, condition s = true → condition s' = true → s = s')
    {s : CfgService} :
    latest condition services = some s ↔ s ∈ services ∧ condition s = true := by
  constructor
  · exact fun found => ⟨mem_of_latest found, met_of_latest found⟩
  · rintro ⟨member, met⟩
    obtain ⟨s', found⟩ := Option.isSome_iff_exists.mp (latest_isSome member met)
    rw [found, unique s' (mem_of_latest found) s member (met_of_latest found) met]

section Rows

variable {knobs : Knobs} {services : List CfgService}

theorem latestById_iff (distinct : (services.map CfgService.dpId).Nodup) {id : UInt32} {α : Type}
    {value : CfgService → α} {v : α} :
    (latest (fun s => id == s.dpId) services).map value = some v ↔
      ∃ s ∈ services, s.dpId = id ∧ v = value s := by
  have unique : ∀ s ∈ services, ∀ s' ∈ services, (id == s.dpId) = true → (id == s'.dpId) = true →
      s = s' := by
    intro s member s' member' met met'
    exact List.inj_on_of_nodup_map distinct member member'
      ((eq_of_beq met).symm.trans (eq_of_beq met'))
  simp only [Option.map_eq_some_iff, latest_eq_some_iff unique, beq_iff_eq]
  constructor
  · rintro ⟨s, ⟨member, same⟩, rfl⟩
    exact ⟨s, member, same.symm, rfl⟩
  · rintro ⟨s, member, same, rfl⟩
    exact ⟨s, ⟨member, same.symm⟩, rfl⟩

theorem serviceRow_iff (distinct : (services.map CfgService.destination).Nodup) {key : BitPrefix}
    {v : ServiceVal} :
    serviceRows knobs services .serviceMap key = some v ↔
      ∃ s ∈ services, s.destination = key ∧ v = serviceVal s := by
  have unique : ∀ s ∈ services, ∀ s' ∈ services,
      (key == serviceKey s.dstPrefixlen s.dstAddr) = true →
      (key == serviceKey s'.dstPrefixlen s'.dstAddr) = true → s = s' := by
    intro s member s' member' met met'
    exact List.inj_on_of_nodup_map distinct member member'
      ((eq_of_beq met).symm.trans (eq_of_beq met'))
  simp only [serviceRows, Option.map_eq_some_iff, latest_eq_some_iff unique, beq_iff_eq]
  constructor
  · rintro ⟨s, ⟨member, same⟩, rfl⟩
    exact ⟨s, member, same.symm, rfl⟩
  · rintro ⟨s, member, same, rfl⟩
    exact ⟨s, ⟨member, same.symm⟩, rfl⟩

theorem vipRow_iff (distinct : (services.map CfgService.dpId).Nodup) {id : UInt32}
    {v : RateConfig} :
    serviceRows knobs services .vipConfigMap id = some v ↔
      Prescribes knobs services .vipConfigMap id v := by
  have unique : ∀ s ∈ services, ∀ s' ∈ services,
      (s.wlFlags &&& wlActive != 0 && id == s.dpId) = true →
      (s'.wlFlags &&& wlActive != 0 && id == s'.dpId) = true → s = s' := by
    intro s member s' member' met met'
    simp only [Bool.and_eq_true, beq_iff_eq] at met met'
    exact List.inj_on_of_nodup_map distinct member member' (met.2.symm.trans met'.2)
  simp only [serviceRows, Prescribes, Option.map_eq_some_iff, latest_eq_some_iff unique,
    Bool.and_eq_true, bne_iff_ne, beq_iff_eq]
  constructor
  · rintro ⟨s, ⟨member, active, same⟩, rfl⟩
    exact ⟨s, member, same.symm, active, rfl⟩
  · rintro ⟨s, member, same, active, rfl⟩
    exact ⟨s, ⟨member, active, same.symm⟩, rfl⟩

theorem isSome_serviceRow_iff (distinct : (services.map CfgService.destination).Nodup)
    {key : BitPrefix} :
    (serviceRows knobs services .serviceMap key).isSome = true ↔
      ∃ s ∈ services, s.destination = key := by
  rw [Option.isSome_iff_exists]
  constructor
  · rintro ⟨v, row⟩
    obtain ⟨s, member, same, _⟩ := (serviceRow_iff distinct).mp row
    exact ⟨s, member, same⟩
  · rintro ⟨s, member, same⟩
    exact ⟨serviceVal s, (serviceRow_iff distinct).mpr ⟨s, member, same, rfl⟩⟩

end Rows

/-! ## The lookups in a slot -/

/-- The rows of the services in a slot are those of a snapshot. -/
def ServiceSlot (k : ConfigMaps) (slot : UInt32) (knobs : Knobs) (services : List CfgService) :
    Prop :=
  ∀ o ∈ serviceOuters, slotRows k slot o = some (serviceRows knobs services o)

section Lookups

variable {k : ConfigMaps} {slot : UInt32} {knobs : Knobs} {services : List CfgService}

theorem find_serviceMap_iff {t : Inner .serviceMap}
    (rows : t.lookup = serviceRows knobs services .serviceMap)
    (distinct : (services.map CfgService.destination).Nodup) (key : BitPrefix) (v : ServiceVal) :
    Inner.find .serviceMap t key = some v ↔ Prescribes knobs services .serviceMap key v := by
  change PrefixTrie.longestMatch t key.length key.bits = some v ↔ _
  have row (key : BitPrefix) : t.lookup key = serviceRows knobs services .serviceMap key :=
    congrFun rows key
  simp only [PrefixTrie.longestMatch_eq_some_iff, row, serviceRow_iff distinct,
    isSome_serviceRow_iff distinct, Prescribes]
  constructor
  · rintro ⟨_, covers, ⟨s, member, rfl, value⟩, longest⟩
    exact ⟨s, member, covers, value, fun s' member' covers' =>
      longest _ covers' ⟨s', member', rfl⟩⟩
  · rintro ⟨s, member, covers, value, longest⟩
    refine ⟨s.destination, covers, ⟨s, member, rfl, value⟩, ?_⟩
    rintro _ covers' ⟨s', member', rfl⟩
    exact longest s' member' covers'

theorem find_whitelistLpm_iff {t : Inner .whitelistLpm}
    (rows : t.lookup = serviceRows knobs services .whitelistLpm) (key : BitPrefix) (v : UInt8) :
    Inner.find .whitelistLpm t key = some v ↔ Prescribes knobs services .whitelistLpm key v := by
  change PrefixTrie.longestMatch t key.length key.bits = some v ↔ _
  have row (key : BitPrefix) : t.lookup key = serviceRows knobs services .whitelistLpm key :=
    congrFun rows key
  -- every entry has the value one, so it does not matter which of them is found
  have stored (key : BitPrefix) : (t.lookup key).isSome = true ↔
      ∃ s ∈ services, ∃ e ∈ s.wl, key = wlLpmKey (32 + e.prefixlen) s.dpId e.addr := by
    rw [row]
    simp only [serviceRows]
    split <;> simp_all
  have one {key : BitPrefix} {v : UInt8} (found : t.lookup key = some v) : v = 1 := by
    rw [row] at found
    obtain ⟨_, found⟩ := Option.ite_none_right_eq_some.mp found
    exact (Option.some.inj found).symm
  constructor
  · intro found
    obtain ⟨key', covers, here⟩ := PrefixTrie.covers_of_longestMatch found
    obtain ⟨s, member, e, listed, rfl⟩ := (stored key').mp (by rw [here]; rfl)
    exact ⟨one here, s, member, e, listed, covers⟩
  · rintro ⟨rfl, s, member, e, listed, covers⟩
    have some_ := (PrefixTrie.isSome_longestMatch_iff t key.length key.bits).mpr
      ⟨_, covers, (stored _).mpr ⟨s, member, e, listed, rfl⟩⟩
    obtain ⟨v, found⟩ := Option.isSome_iff_exists.mp some_
    obtain ⟨_, _, here⟩ := PrefixTrie.covers_of_longestMatch found
    rw [found, one here]

/-- Every lookup by the id of a service, and in the whitelist, answers what the snapshot
prescribes. -/
theorem slotLookup_iff_of_ne_serviceMap (held : ServiceSlot k slot knobs services)
    (ids : (services.map CfgService.dpId).Nodup) {o : Outer} (member : o ∈ serviceOuters)
    (other : o ≠ .serviceMap) (key : o.Key) (v : o.Val) :
    slotLookup k slot o key = some v ↔ Prescribes knobs services o key v := by
  obtain ⟨_, t, _, rows, find⟩ := inner_of_slotRows (held o member)
  rw [find]
  have row (key : o.Key) : t.lookup key = serviceRows knobs services o key := congrFun rows key
  cases o with
  | serviceMap => exact absurd rfl other
  | whitelistLpm => exact find_whitelistLpm_iff rows key v
  | ruleBlockMap | svcRlConfigMap | fairConfigMap =>
    exact (Eq.congr_left (row key)).trans (latestById_iff ids)
  | vipConfigMap => exact (Eq.congr_left (row key)).trans (vipRow_iff ids)
  | whitelistBloom =>
    change t.lookup key = some v ↔ _
    rw [row]
    simp [serviceRows, Prescribes]
  | globalBlacklistBloom | globalBlacklistLpm | udpBlockedPortBitmap =>
    exact absurd member (by decide)

/-- Every lookup in the slot answers what the snapshot prescribes, and nothing else. -/
theorem slotLookup_iff_prescribes (held : ServiceSlot k slot knobs services)
    (ids : (services.map CfgService.dpId).Nodup)
    (destinations : (services.map CfgService.destination).Nodup) {o : Outer}
    (member : o ∈ serviceOuters) (key : o.Key) (v : o.Val) :
    slotLookup k slot o key = some v ↔ Prescribes knobs services o key v := by
  by_cases other : o = .serviceMap
  · subst other
    obtain ⟨_, t, _, rows, find⟩ := inner_of_slotRows (held .serviceMap member)
    rw [find]
    exact find_serviceMap_iff rows destinations key v
  · exact slotLookup_iff_of_ne_serviceMap held ids member other key v

end Lookups

/-! ## Building a slot -/

/-- What `apply_node_cfg` does before it commits: build the inactive slot, carry the feed part
forward and verify. -/
def prepareNodeCfg (env : Env) (fuel : Nat) (node : NodeCfg) : ConfigProg ServiceBuild := do
  let build ← buildInactiveSlot env fuel node
  carryForwardFeed build.slots
  verifySlot node build
  return build

theorem applyNodeCfg_eq_prepare (env : Env) (fuel : Nat) (node : NodeCfg) :
    applyNodeCfg env fuel node =
      prepareNodeCfg env fuel node >>= fun build => commit build.slots := by
  simp only [applyNodeCfg, prepareNodeCfg, bind_assoc, pure_bind]

theorem buildInactiveSlot_never {before : ConfigMaps} (read : before.activeConfig = none)
    (env : Env) (fuel : Nat) (node : NodeCfg) :
    Always configMachine (fun _ => True) (fun _ _ => False) (buildInactiveSlot env fuel node)
      before :=
  Always.require_bind trivial fun _ => (applyReadActive_never read).bind fun _ _ => False.elim

section Prepared

variable {env : Env} {fuel : Nat} {node : NodeCfg} {before after : ConfigMaps}

theorem prepareNodeCfg_holds {active : ActiveConfig} (read : before.activeConfig = some active)
    (fuel : Nat) :
    Always configMachine (Untouched active.activeSlot before)
      (fun build now => ∃ knobs, applyNodeKnobs env = some knobs ∧
        ServiceSlot now build.slots.inactiveSlot knobs node.services)
      (prepareNodeCfg env fuel node) before := by
  apply (buildInactiveSlot_candidate read fuel).bind
  rintro ⟨slots, capacity, sum⟩ now ⟨rfl, valid, knobs, fd, mid, known, candidate, placing, holds⟩
  have away : (Slots.ofActive active).inactiveSlot ≠ (Slots.ofActive active).activeSlot :=
    other_slot_ne valid
  apply (carryForwardFeed_holds away candidate placing holds).bind
  rintro _ now ⟨untouched, inner, holds, _, _⟩
  apply Always.andThen ((quiet_verifySlot node _).always untouched)
  intro _
  refine ⟨knobs, known, fun o member => ?_⟩
  -- the slot refers to the fresh map, which holds the rows
  have held := holds o (List.mem_append_left _ member)
  rw [serviceWant, if_pos member] at held
  obtain ⟨t, found, rows⟩ := candidate.filled o member
  rw [slotRows, held, Option.bind_some, inner, found, Option.map_some, funext rows]

theorem serviceSlot_of_prepared {fates : List Fate} {build : ServiceBuild}
    (prepared : steps configMachine ⟨prepareNodeCfg env fuel node, before⟩ fates =
      ⟨.ret build, after⟩) :
    ∃ knobs, applyNodeKnobs env = some knobs ∧
      ServiceSlot after build.slots.inactiveSlot knobs node.services := by
  cases read : before.activeConfig with
  | none =>
    have gaveUp : Always configMachine (fun _ => True) (fun _ _ => False)
        (prepareNodeCfg env fuel node) before :=
      (buildInactiveSlot_never read env fuel node).bind fun _ _ => False.elim
    exact (gaveUp.returned prepared).elim
  | some active => exact (prepareNodeCfg_holds read fuel).returned prepared

end Prepared

/-- Once the slot of a snapshot with different ids and destinations is built and verified, each
lookup in it returns what the snapshot prescribes for the key, and nothing for other keys. -/
theorem slot_answers_snapshot (env : Env) (fuel : Nat) (node : NodeCfg)
    (ids : (node.services.map CfgService.dpId).Nodup)
    (destinations : (node.services.map CfgService.destination).Nodup)
    (before after : ConfigMaps) (fates : List Fate) (build : ServiceBuild)
    (prepared : steps configMachine ⟨prepareNodeCfg env fuel node, before⟩ fates =
      ⟨.ret build, after⟩) :
    ∃ knobs, applyNodeKnobs env = some knobs ∧ ∀ o ∈ serviceOuters, ∀ key v,
      slotLookup after build.slots.inactiveSlot o key = some v ↔
        Prescribes knobs node.services o key v := by
  obtain ⟨knobs, known, held⟩ := serviceSlot_of_prepared prepared
  exact ⟨knobs, known, fun o member => slotLookup_iff_prescribes held ids destinations member⟩

/-- The maps with both services in the free slot. -/
def nestedMaps : ConfigMaps :=
  (steps configMachine ⟨prepareNodeCfg defaultEnv 65536 nestedNode, loadedMaps⟩
    (List.replicate 100 .works)).state

set_option maxRecDepth 20000 in
theorem nestedNode_answers :
    slotLookup nestedMaps 1 .serviceMap (serviceKey 32 0xcb007101) =
        some (serviceVal hostService) ∧
      slotLookup nestedMaps 1 .vipConfigMap 7 = some (vipConfig networkService) ∧
      slotLookup nestedMaps 1 .vipConfigMap 8 = none := by
  have prepared : steps configMachine ⟨prepareNodeCfg defaultEnv 65536 nestedNode, loadedMaps⟩
      (List.replicate 100 .works) = ⟨.ret ⟨⟨0, 1, 0⟩, 5000000000, 2000⟩, nestedMaps⟩ := rfl
  obtain ⟨knobs, _, answers⟩ := slot_answers_snapshot defaultEnv 65536 nestedNode (by decide)
    (by decide) loadedMaps nestedMaps _ _ prepared
  refine ⟨?_, ?_, ?_⟩
  · rw [answers .serviceMap (by decide)]
    exact ⟨hostService, by simp [nestedNode], by decide, rfl, by decide⟩
  · rw [answers .vipConfigMap (by decide)]
    exact ⟨networkService, by simp [nestedNode], rfl, by decide, rfl⟩
  · rw [Option.eq_none_iff_forall_ne_some]
    intro v found
    obtain ⟨s, member, id, active, _⟩ := (answers .vipConfigMap (by decide) 8 v).mp found
    simp only [nestedNode, List.mem_cons, List.not_mem_nil, or_false] at member
    rcases member with rfl | rfl
    · exact absurd id (by decide)
    · exact active (by decide)

end ScrubbingGateway.Apply
