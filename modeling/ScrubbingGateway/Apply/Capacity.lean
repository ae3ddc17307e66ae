import ScrubbingGateway.Apply.Swap

/-!
# When the writes of a snapshot succeed

The per-service writes go into freshly created inner maps of bounded size. Services whose keys are
pairwise distinct are written to the end exactly when they fit the maps and no whitelist is too long
for the index of its loop.
-/

namespace ScrubbingGateway.Apply

open DataPlane Prog

/-- The keys that services put into the inner maps. -/
def snapshotKeys (services : List CfgService) : (o : Outer) → List o.Key
  | .serviceMap => services.map fun s => serviceKey s.dstPrefixlen s.dstAddr
  | .ruleBlockMap | .vipConfigMap | .svcRlConfigMap | .fairConfigMap =>
    services.map CfgService.dpId
  | .whitelistBloom => services.flatMap fun s => s.wl.map fun e => wlBloomKey s.dpId e.addr
  | .whitelistLpm =>
    services.flatMap fun s => s.wl.map fun e => wlLpmKey (32 + e.prefixlen) s.dpId e.addr
  | .globalBlacklistBloom | .globalBlacklistLpm | .udpBlockedPortBitmap => []

/-- The entries of all whitelists. -/
def whitelistTotal (services : List CfgService) : Nat :=
  (services.map fun s => s.wl.length).sum

/-- What the checks of `apply_write_service` ask of a service. -/
structure Writable (s : CfgService) : Prop where
  ok : serviceOk s = true
  sources : ∀ e ∈ s.wl, e.prefixlen ≤ 32

/-- The services fit the inner maps and the index of the whitelist loop. -/
structure Fitting (services : List CfgService) : Prop where
  count : services.length ≤ 1024
  whitelists : whitelistTotal services ≤ 65536
  indexed : ∀ s ∈ services, s.wl.length < 65536

/-! ## Services that fit are written -/

/-- The maps exist and hold none but the given keys. -/
def Confined (fd : Outer → MapId) (keys : (o : Outer) → List o.Key) (k : ConfigMaps) : Prop :=
  ∀ o ∈ serviceOuters, ∃ t, (k.inner o)[fd o]? = some t ∧ ∀ key ∈ t, key ∈ keys o

def Roomy (keys : (o : Outer) → List o.Key) : Prop :=
  ∀ o limit, o.maxEntries = some limit → (keys o).length ≤ limit

theorem length_snapshotKeys_lpm (services : List CfgService) :
    (snapshotKeys services .whitelistLpm).length = whitelistTotal services := by
  simp only [snapshotKeys, whitelistTotal, List.length_flatMap, List.length_map]

variable {services : List CfgService}

theorem Fitting.roomy (fitting : Fitting services) : Roomy (snapshotKeys services) := by
  intro o limit bounded
  cases o <;> cases bounded
  case whitelistLpm => exact (length_snapshotKeys_lpm services).trans_le fitting.whitelists
  case globalBlacklistLpm => exact Nat.zero_le _
  case udpBlockedPortBitmap => exact Nat.zero_le _
  all_goals exact (List.length_map _).trans_le fitting.count

variable {keys : (o : Outer) → List o.Key}

theorem hasRoom_of_listed (roomy : Roomy keys) {o : Outer} {t : Inner o}
    (inside : ∀ key ∈ t, key ∈ keys o) {key : o.Key} (listed : key ∈ keys o)
    (valid : o.keyValid key = true) : Inner.hasRoom o t key = true := by
  rw [Inner.hasRoom, valid, Bool.true_and, Bool.or_eq_true]
  by_cases present : key ∈ t
  · exact .inl (AList.lookup_isSome.mpr present)
  · right
    rw [Option.all_eq_true]
    intro limit bounded
    exact decide_eq_true ((Table.length_lt_of_listed inside listed present).trans_le
      (roomy o limit bounded))

/-- The program returns, if every call works. -/
abbrev Works {α : Type} (Post : α → ConfigMaps → Prop) (p : ConfigProg α) (k : ConfigMaps) : Prop :=
  Runs configMachine False Post p k

section Confining

variable {fd : Outer → MapId} {keys : (o : Outer) → List o.Key} {k : ConfigMaps}

theorem innerUpdate_confined (roomy : Roomy keys) (confined : Confined fd keys k) {o : Outer}
    (member : o ∈ serviceOuters) {key : o.Key} (listed : key ∈ keys o)
    (valid : o.keyValid key = true) (val : o.Val) :
    Works (fun _ now => Confined fd keys now) (innerUpdate o (fd o) key val) k := by
  obtain ⟨t, found, inside⟩ := confined o member
  have room := hasRoom_of_listed roomy inside listed valid
  have executed : ConfigCall.exec (.innerUpdate o (fd o) key val) k =
      (true, k.setInner o (fd o) (t.insert key val)) := by
    simp only [ConfigCall.exec, found, room, if_true]
  show Works _
    (Prog.require (ConfigCall.exec (.innerUpdate o (fd o) key val) k).1)
    (ConfigCall.exec (.innerUpdate o (fd o) key val) k).2
  rw [executed]
  refine Runs.require (fun _ => ?_) (.inr rfl)
  intro o' member'
  by_cases same : o' = o
  · subst same
    have live : fd o' < (k.inner o').length := (List.getElem?_eq_some_iff.mp found).1
    refine ⟨t.insert key val, ?_, ?_⟩
    · simp only [ConfigMaps.setInner, Function.update_self]
      exact List.getElem?_set_self live
    · intro key' present
      rcases (AList.mem_insert t).mp present with rfl | old
      · exact listed
      · exact inside key' old
  · simp only [ConfigMaps.setInner, Function.update_of_ne same]
    exact confined o' member'

theorem innerUpdateWhen_confined (roomy : Roomy keys) (confined : Confined fd keys k)
    (condition : Prop) [Decidable condition] {o : Outer} (member : o ∈ serviceOuters)
    {key : o.Key} (listed : key ∈ keys o) (valid : o.keyValid key = true) (val : o.Val) :
    Works (fun _ now => Confined fd keys now)
      (Prog.when condition (innerUpdate o (fd o) key val)) k := by
  unfold Prog.when
  split
  · exact innerUpdate_confined roomy confined member listed valid val
  · exact confined

end Confining

section Writing

variable {fd : Outer → MapId} {services : List CfgService} {s : CfgService} {k : ConfigMaps}

theorem writeWhitelistEntry_confined (roomy : Roomy keys) {id : UInt32} {e : CfgSource}
    (bloomListed : wlBloomKey id e.addr ∈ keys .whitelistBloom)
    (lpmListed : wlLpmKey (32 + e.prefixlen) id e.addr ∈ keys .whitelistLpm)
    (short : e.prefixlen ≤ 32) (confined : Confined fd keys k) :
    Works (fun _ now => Confined fd keys now) (writeWhitelistEntry fd id e) k := by
  have valid : Outer.keyValid .whitelistLpm (wlLpmKey (32 + e.prefixlen) id e.addr) = true := by
    have length : (32 + e.prefixlen).toNat ≤ 64 := by
      have number : e.prefixlen.toNat ≤ 32 := short
      rw [UInt32.toNat_add]
      simp only [UInt32.reduceToNat]
      omega
    exact decide_eq_true length
  refine (Runs.require (fun _ => ?_) (.inr (decide_eq_true short))).bind
  refine (innerUpdateWhen_confined (o := .whitelistBloom) roomy confined
    (e.prefixlen ≥ wlBloomPrefix) (by decide) bloomListed rfl ()).seq ?_
  intro _ now confined
  exact innerUpdate_confined roomy confined (by decide) lpmListed valid _

/-- A whitelist that is short enough for the index is written to its end. -/
theorem writeWhitelist_confined (fitting : Fitting services) (member : s ∈ services)
    (writable : Writable s) (fuel : Nat) (i : UInt16) (begun : i.toNat ≤ s.wl.length)
    (enough : s.wl.length < i.toNat + fuel) (confined : Confined fd (snapshotKeys services) k) :
    Works (fun _ now => Confined fd (snapshotKeys services) now)
      (writeWhitelist fd s.dpId s.wl fuel i) k := by
  induction fuel generalizing i k with
  | zero => omega
  | succ fuel ih =>
    rw [writeWhitelist]
    cases found : s.wl[i.toNat]? with
    | none => exact confined
    | some e =>
      have inside : i.toNat < s.wl.length := (List.getElem?_eq_some_iff.mp found).1
      have short := fitting.indexed s member
      have next : (i + 1).toNat = i.toNat + 1 := by
        rw [UInt16.toNat_add]
        simp only [UInt16.reduceToNat]
        omega
      have listed : e ∈ s.wl := List.mem_of_getElem? found
      have bloomListed : wlBloomKey s.dpId e.addr ∈ snapshotKeys services .whitelistBloom :=
        List.mem_flatMap.mpr ⟨s, member, List.mem_map_of_mem listed⟩
      have lpmListed : wlLpmKey (32 + e.prefixlen) s.dpId e.addr ∈
          snapshotKeys services .whitelistLpm :=
        List.mem_flatMap.mpr ⟨s, member, List.mem_map.mpr ⟨e, listed, rfl⟩⟩
      refine (writeWhitelistEntry_confined fitting.roomy bloomListed lpmListed
        (writable.sources e listed) confined).seq ?_
      intro _ now confined
      exact ih (i + 1) (by omega) (by omega) confined

theorem keyValid_of_serviceOk (ok : serviceOk s = true) :
    Outer.keyValid .serviceMap (serviceKey s.dstPrefixlen s.dstAddr) = true := by
  simp only [serviceOk, Bool.not_eq_true', Bool.or_eq_false_iff, decide_eq_false_iff_not] at ok
  have length : s.dstPrefixlen.toNat ≤ 32 := Nat.not_lt.mp ok.1.1.1.1.1
  exact decide_eq_true length

theorem applyWriteService_confined (fitting : Fitting services) (member : s ∈ services)
    (writable : Writable s) (knobs : Knobs) (sum : UInt64)
    (confined : Confined fd (snapshotKeys services) k) :
    Works (fun _ now => Confined fd (snapshotKeys services) now)
      (applyWriteService fd knobs 65536 sum s) k := by
  have roomy := fitting.roomy
  have listed : s.dpId ∈ services.map CfgService.dpId := List.mem_map_of_mem member
  have destination : serviceKey s.dstPrefixlen s.dstAddr ∈ snapshotKeys services .serviceMap :=
    List.mem_map.mpr ⟨s, member, rfl⟩
  have valid := keyValid_of_serviceOk writable.ok
  refine (Runs.require (fun _ => ?_) (.inr writable.ok)).bind
  refine (innerUpdate_confined roomy confined (by decide) destination valid _).seq ?_
  intro _ now confined
  refine (innerUpdate_confined (o := .ruleBlockMap) roomy confined (by decide) listed rfl
    _).seq ?_
  intro _ now confined
  have short := fitting.indexed s member
  refine (writeWhitelist_confined fitting member writable 65536 0 (Nat.zero_le _)
    (by simp only [UInt16.reduceToNat]; omega) confined).seq ?_
  intro _ now confined
  refine (innerUpdateWhen_confined (o := .vipConfigMap) roomy confined _ (by decide) listed rfl
    _).seq ?_
  intro _ now confined
  refine (innerUpdate_confined (o := .svcRlConfigMap) roomy confined (by decide) listed rfl
    _).seq ?_
  intro _ now confined
  refine (innerUpdate_confined (o := .fairConfigMap) roomy confined (by decide) listed rfl
    _).seq ?_
  intro _ now confined
  exact confined

end Writing

/-- Every service-scoped outer has an inner map in a slot. -/
def Placed (k : ConfigMaps) (slot : UInt32) : Prop :=
  ∀ o ∈ serviceOuters, (k.outer o slot).isSome = true

variable {slot : UInt32} {mid : ConfigMaps} {k : ConfigMaps}

theorem applyInnerFd_runs {o : Outer} {id : MapId} (installed : k.outer o slot = some id) :
    Works (fun fd now => fd = id ∧ now = k) (applyInnerFd o slot) k := by
  have live := k.outer_live o slot id installed
  refine Runs.bind ?_
  show Works _ (Prog.expect (k.outer o slot)) k
  rw [installed]
  show Works _
    (Prog.expect (if id < (k.inner o).length then some id else none)) k
  rw [if_pos live]
  exact ⟨rfl, rfl⟩

theorem createInnerLike_runs {o : Outer} {id : MapId} (installed : k.outer o slot = some id) :
    Works (fun _ now => now.outer = k.outer) (createInnerLike o slot) k := by
  have live := k.outer_live o slot id installed
  refine (applyInnerFd_runs installed).seq ?_
  rintro fd now ⟨rfl, rfl⟩
  show Works _ (Prog.expect (ConfigCall.exec (.create o fd) now).1)
    (ConfigCall.exec (.create o fd) now).2
  simp only [ConfigCall.exec, if_pos live]
  exact rfl

theorem createServiceInners_runs (placed : Placed k slot) :
    Works (fun _ now => now.outer = k.outer) (createServiceInners slot) k := by
  refine Runs.forEach (fun _ _ (now : ConfigMaps) => now.outer = k.outer) serviceOuters ?_ _ rfl
  intro done o rest whole fd now unmoved
  have member : o ∈ serviceOuters := by simp [whole]
  obtain ⟨id, installed⟩ := Option.isSome_iff_exists.mp (placed o member)
  rw [← unmoved] at installed
  refine (createInnerLike_runs installed).seq ?_
  intro _ later same
  exact same.trans unmoved

variable {fd : Outer → MapId}

theorem Building.confined (building : Building mid serviceOuters fd (fun _ _ => none) k)
    (keys : (o : Outer) → List o.Key) : Confined fd keys k := by
  intro o member
  obtain ⟨t, found, empty⟩ := building.filled o member
  refine ⟨t, found, fun key present => ?_⟩
  rw [← AList.lookup_isSome, empty] at present
  cases present

theorem fillInners_works (fitting : Fitting services) (writable : ∀ s ∈ services, Writable s)
    (knobs : Knobs) (placed : Placed k slot) :
    Works (fun _ _ => True) (fillInners knobs 65536 slot services) k := by
  refine ((createServiceInners_runs placed).and
    (createServiceInners_building (Untouched.refl slot k) slot).ends).seq ?_
  rintro fd now ⟨_, building⟩
  refine (Runs.forEach (fun _ _ now => Confined fd (snapshotKeys services) now) services ?_ 0
    (building.confined _)).seq ?_
  · intro done s rest whole sum now confined
    have member : s ∈ services := by simp [whole]
    exact applyWriteService_confined fitting member (writable s member) knobs sum confined
  intro _ _ _
  trivial

/-! ## Written services fit -/

/-- No inner map created since `mid` holds more than its maximum. -/
def Bounded (mid k : ConfigMaps) : Prop :=
  ∀ o id t, (mid.inner o).length ≤ id → (k.inner o)[id]? = some t →
    ∀ limit, o.maxEntries = some limit → t.entries.length ≤ limit

theorem Bounded.start (k : ConfigMaps) : Bounded k k := by
  intro o id t new found
  have live : id < (k.inner o).length := (List.getElem?_eq_some_iff.mp found).1
  omega

theorem length_insert_le {o : Outer} {t : Inner o} {key : o.Key} {val : o.Val}
    (room : Inner.hasRoom o t key = true) {limit : Nat} (bounded : o.maxEntries = some limit)
    (within : t.entries.length ≤ limit) : (t.insert key val).entries.length ≤ limit := by
  rw [Table.length_insert]
  split
  · exact within
  next absent =>
    simp only [Inner.hasRoom, bounded, Option.all_some, Bool.and_eq_true, Bool.or_eq_true,
      AList.lookup_isSome, absent, false_or, decide_eq_true_eq] at room
    exact room.2

section

variable (bounded : Bounded mid k)
include bounded

theorem Bounded.congr {k' : ConfigMaps} (same : k'.inner = k.inner) : Bounded mid k' := by
  intro o id t new found
  rw [same] at found
  exact bounded o id t new found

/-- Only the maps of one kind change: each of them is an old one or within its maximum. -/
theorem Bounded.update {k' : ConfigMaps} {o : Outer} {maps : List (Inner o)}
    (changed : k'.inner = Function.update k.inner o maps)
    (within : ∀ id t, (mid.inner o).length ≤ id → maps[id]? = some t →
      (k.inner o)[id]? = some t ∨ ∀ limit, o.maxEntries = some limit → t.entries.length ≤ limit) :
    Bounded mid k' := by
  intro o' id t new found
  rw [changed] at found
  by_cases same : o' = o
  · subst same
    rw [Function.update_self] at found
    rcases within id t new found with old | small
    · exact bounded o' id t new old
    · exact small
  · rw [Function.update_of_ne same] at found
    exact bounded o' id t new found

theorem Bounded.addInner (o : Outer) : Bounded mid (k.addInner o ∅) := by
  refine bounded.update rfl fun id t _ found => ?_
  rw [List.getElem?_append] at found
  split at found
  · exact .inl found
  · -- the new map is empty
    cases List.mem_singleton.mp (List.mem_of_getElem? found)
    exact .inr fun limit _ => Nat.zero_le limit

theorem Bounded.setInner {o : Outer} {fd : MapId} {old : Inner o}
    (opened : (k.inner o)[fd]? = some old) {key : o.Key} (val : o.Val)
    (room : Inner.hasRoom o old key = true) :
    Bounded mid (k.setInner o fd (old.insert key val)) := by
  refine bounded.update rfl fun id t new found => ?_
  rw [List.getElem?_set] at found
  split at found
  next here =>
    subst here
    split at found
    · cases found
      exact .inr fun limit isLimit =>
        length_insert_le room isLimit (bounded o fd old new opened limit isLimit)
    · cases found
  · exact .inl found

/-- The kernel refuses an update that would overfill a map. -/
theorem Bounded.exec (c : ConfigCall) : Bounded mid (configMachine.exec c k).2 := by
  cases c with
  | create o like =>
    simp only [configMachine, ConfigCall.exec]
    split
    · exact bounded.addInner o
    · exact bounded
  | innerUpdate o fd key val =>
    simp only [configMachine, ConfigCall.exec]
    cases opened : (k.inner o)[fd]? with
    | none => exact bounded
    | some old =>
      by_cases room : Inner.hasRoom o old key = true
      · simp only [room, if_true]
        exact bounded.setInner opened val room
      · simp only [room]
        exact bounded
  | outerUpdate o slot fd =>
    simp only [configMachine, ConfigCall.exec]
    split
    · split
      · exact bounded.congr rfl
      · exact bounded
    · exact bounded
  | fairNodeUpdate slot v | gblMetaUpdate slot v =>
    simp only [configMachine, ConfigCall.exec]
    split
    · exact bounded.congr rfl
    · exact bounded
  | activeUpdate config => exact bounded.congr rfl
  | _ => exact bounded

end

/-- With 65536 entries or more the index of the whitelist loop never reaches the end. -/
theorem writeWhitelist_short {id : UInt32} {wl : List CfgSource} (fuel : Nat) (i : UInt16)
    (k : ConfigMaps) :
    Ends configMachine (fun _ _ => wl.length < 65536) (writeWhitelist fd id wl fuel i) k := by
  induction fuel generalizing i k with
  | zero => trivial
  | succ fuel ih =>
    rw [writeWhitelist]
    cases found : wl[i.toNat]? with
    | none =>
      have past : wl.length ≤ i.toNat := List.getElem?_eq_none_iff.mp found
      exact past.trans_lt i.toNat_lt
    | some e => exact Runs.bind (Runs.of_forall fun _ now => ih (i + 1) now)

variable {knobs : Knobs} {fuel : Nat}

theorem applyWriteService_short {sum : UInt64} {s : CfgService} (k : ConfigMaps) :
    Ends configMachine (fun _ _ => s.wl.length < 65536) (applyWriteService fd knobs fuel sum s)
      k := by
  refine Runs.bind (Runs.of_forall fun _ now => ?_)
  refine Runs.bind (Runs.of_forall fun _ now => ?_)
  refine Runs.bind (Runs.of_forall fun _ now => ?_)
  refine (writeWhitelist_short fuel 0 now).seq ?_
  intro _ _ short
  exact Runs.of_forall fun _ _ => short

theorem writeServices_short (services : List CfgService) (k : ConfigMaps) :
    Ends configMachine (fun _ _ => ∀ s ∈ services, s.wl.length < 65536)
      (Prog.forEach (applyWriteService fd knobs fuel) services 0) k := by
  refine Runs.forEach (fun done (_ : UInt64) (_ : ConfigMaps) => ∀ s ∈ done, s.wl.length < 65536)
    services ?_ 0 (by simp)
  intro done s _ _ _ now before
  refine (applyWriteService_short now).mono ?_
  intro _ _ short s' member
  rcases List.mem_append.mp member with earlier | last
  · exact before s' earlier
  · rw [List.mem_singleton.mp last]
    exact short

theorem fillInners_ends (knobs : Knobs) (fuel : Nat) (slot : UInt32) (services : List CfgService)
    (k : ConfigMaps) :
    Ends configMachine (fun _ now =>
        (∃ fd, Building k serviceOuters fd (serviceRows knobs services) now) ∧
        Bounded k now ∧ ∀ s ∈ services, s.wl.length < 65536)
      (fillInners knobs fuel slot services) k := by
  have bounded : Ends configMachine (fun _ now => Bounded k now) (fillInners knobs fuel slot
      services) k :=
    Runs.of_preserved (fun c now within => within.exec c) (Bounded.start k)
  have written : Ends configMachine (fun _ now =>
      (∃ fd, Building k serviceOuters fd (serviceRows knobs services) now) ∧
      ∀ s ∈ services, s.wl.length < 65536) (fillInners knobs fuel slot services) k := by
    have short : Ends configMachine (fun _ _ => ∀ s ∈ services, s.wl.length < 65536)
        (fillInners knobs fuel slot services) k := by
      refine (Runs.of_forall fun _ _ => trivial : Ends _ (fun _ _ => True) _ _).seq fun fd now _ => ?_
      exact (writeServices_short services now).bind
    refine ((fillInners_building (Untouched.refl slot k) knobs fuel services).ends.and short).mono ?_
    rintro ⟨fd, _⟩ later ⟨⟨built, _⟩, short⟩
    exact ⟨⟨fd, built⟩, short⟩
  refine (written.and bounded).mono ?_
  rintro _ now ⟨⟨built, short⟩, within⟩
  exact ⟨built, within, short⟩

theorem length_le_of_present {now : ConfigMaps} {rows : Rows}
    (building : Building mid serviceOuters fd rows now) (bounded : Bounded mid now) {o : Outer}
    (member : o ∈ serviceOuters) {keys : List o.Key} (distinct : keys.Nodup)
    (present : ∀ key ∈ keys, (rows o key).isSome = true) {limit : Nat}
    (isLimit : o.maxEntries = some limit) : keys.length ≤ limit := by
  obtain ⟨t, found, holds⟩ := building.filled o member
  have sub : keys ⊆ t.keys := by
    intro key listed
    rw [← AList.mem_keys, ← AList.lookup_isSome, holds]
    exact present key listed
  calc keys.length ≤ t.keys.length := (List.subperm_of_subset distinct sub).length_le
    _ = t.entries.length := List.length_map _
    _ ≤ limit := bounded o (fd o) t (building.fresh o member) found limit isLimit

theorem fillInners_fitting (ids : (services.map CfgService.dpId).Nodup)
    (sources : (snapshotKeys services .whitelistLpm).Nodup) {now : ConfigMaps}
    {sum : (Outer → MapId) × UInt64}
    (ran : eval configMachine (fillInners knobs fuel slot services) k = (.returned sum, now)) :
    Fitting services := by
  obtain ⟨⟨fd, building⟩, bounded, short⟩ :=
    (fillInners_ends knobs fuel slot services k).returned ran
  refine ⟨?_, ?_, short⟩
  · have present : ∀ id ∈ services.map CfgService.dpId,
        (serviceRows knobs services .ruleBlockMap id).isSome = true := by
      intro id listed
      obtain ⟨s, member, rfl⟩ := List.mem_map.mp listed
      simp only [serviceRows, latest, Option.isSome_map, List.find?_isSome, List.mem_reverse]
      exact ⟨s, member, beq_self_eq_true _⟩
    have fits := length_le_of_present (o := .ruleBlockMap) building bounded (by decide) ids present
      rfl
    rwa [List.length_map] at fits
  · have present : ∀ key ∈ snapshotKeys services .whitelistLpm,
        (serviceRows knobs services .whitelistLpm key).isSome = true := by
      intro key listed
      obtain ⟨s, member, inList⟩ := List.mem_flatMap.mp listed
      obtain ⟨e, source, rfl⟩ := List.mem_map.mp inList
      rw [serviceRows, if_pos ⟨s, member, e, source, rfl⟩]
      rfl
    rw [← length_snapshotKeys_lpm]
    exact length_le_of_present (o := .whitelistLpm) building bounded (by decide) sources present rfl

end ScrubbingGateway.Apply
