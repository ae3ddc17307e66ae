import Mathlib.Data.List.Dedup
import ScrubbingGateway.Apply.PrefixCover
import ScrubbingGateway.Apply.Undisturbed
import ScrubbingGateway.DataPlane.BucketKeys

/-!
# Bucket state over the life of services

A service gets a data-plane id that no service had before it, and its buckets are made when packets
reach it. They are never removed, so what fills the bucket maps is not how many services are
enabled at a time, but how many ever were.
-/

namespace ScrubbingGateway.Apply.BucketRuns

open DataPlane Prog Transition

/-- What the tables and the worker hold, as far as it decides which buckets there are, and the
kernel. -/
structure World where
  /-- The last value of `service_dp_id_seq`. -/
  lastDpId : Nat
  /-- The rows of `protected_service`, with their `enabled` column. -/
  services : Table UInt32 Bool
  /-- The services of the snapshot the worker loaded last. -/
  loaded : List UInt32
  kernel : Kernel

inductive Label where
  | create
  | setEnabled (dpId : UInt32) (enabled : Bool)
  | delete (dpId : UInt32)
  /-- `load_node_config` -/
  | load
  /-- The helper runs on the loaded services or on the deny list, to its end or not. -/
  | apply (run : ApplyRun)
  | receive (incoming : Incoming)

namespace World

/-- The enabled services in the order of their ids. -/
def enabledIds (w : World) : List UInt32 := w.services.selectKeys id fun a b => a.1 ≤ b.1

def step (w : World) : Label → Option World
  | .create =>
    -- the column is a signed 32-bit integer
    if w.lastDpId + 1 < 2 ^ 31 then
      some { w with
        lastDpId := w.lastDpId + 1
        services := w.services.insert (UInt32.ofNat (w.lastDpId + 1)) false }
    else none
  | .setEnabled dpId enabled =>
    if (w.services.lookup dpId).isSome then
      some { w with services := w.services.insert dpId enabled }
    else none
  | .delete dpId =>
    -- an enabled service is not deleted (409)
    if w.services.lookup dpId = some false then
      some { w with services := w.services.erase dpId }
    else none
  | .load => some { w with loaded := w.enabledIds }
  | .apply run =>
    if run.node.snapshotKind = kindServiceFull →
        run.node.services.map CfgService.dpId = w.loaded then
      some { w with kernel := { w.kernel with config := run.after w.kernel.config } }
    else none
  | .receive incoming => some { w with kernel := receive w.kernel incoming }

def initial (k : Kernel) : World := ⟨0, ∅, [], k⟩

end World

/-- The maps as the loader leaves them, without any bucket of a service. -/
structure Fresh (k : Kernel) : Prop where
  config : k.config = loadedMaps
  buckets : ∀ map, map ≠ .nodeBurstState → k.runtime.buckets map = ∅

/-- A packet to an enabled service would be dropped for a map error by one of the stages that ask
its buckets. -/
def Lost (w : World) (incoming : Incoming) : Prop :=
  (∃ id, ServedAs w.kernel.config incoming.frame id) ∧
    (passage (w.kernel.at incoming.clock) incoming.frame).Starved

/-- No packet of a run is lost. -/
def NotLost (w : World) (label : Label) (_ : World) : Prop :=
  ∀ incoming, label = .receive incoming → ¬ Lost w incoming

/-- The maximum of the services that are enabled at one time. -/
def FewEnabled (_ : World) (_ : Label) (next : World) : Prop := next.enabledIds.length ≤ 1024

def Label.enables : Label → Option UInt32
  | .setEnabled dpId true => some dpId
  | _ => none

/-- The different services that were enabled at some time. -/
def everEnabled (labels : List Label) : List UInt32 := (labels.filterMap Label.enables).dedup

/-! ## What a configuration serves -/

/-- A configuration serves listed services only, each with its fairness config. -/
structure Serving (ids : List UInt32) (c : Configuration) : Prop where
  listed : ∀ rows, c.rows .serviceMap = some rows → ∀ key service, rows key = some service →
    service.serviceId ∈ ids ∧
      ∃ fair, c.rows .fairConfigMap = some fair ∧ (fair service.serviceId).isSome = true
  limits : (c.rows .svcRlConfigMap).isSome = true

/-- The service a frame finds has a row of the active slot, under a prefix of the destination. -/
theorem row_of_serviceFor {c : ConfigMaps} {active : ActiveConfig}
    (read : c.activeConfig = some active) {frame : Frame} {service : ServiceVal}
    (found : serviceFor c frame = some service) :
    ∃ rows key, slotRows c active.activeSlot .serviceMap = some rows ∧ rows key = some service ∧
      key.Covers 32 (serviceKey 32 (parsedPacket frame).dstIp).bits := by
  obtain ⟨_, found⟩ := Option.ite_none_right_eq_some.mp found
  rw [read, Option.bind_some] at found
  obtain ⟨map, installed, looked⟩ := Option.bind_eq_some_iff.mp found
  obtain ⟨t, stored, hit⟩ := Option.bind_eq_some_iff.mp looked
  obtain ⟨key, covers, entry⟩ := PrefixTrie.covers_of_longestMatch hit
  refine ⟨t.lookup, key, ?_, entry, covers⟩
  rw [slotRows, installed, Option.bind_some, stored, Option.map_some]

variable {ids : List UInt32}

theorem serving_withServices {services : List CfgService} (knobs : Knobs) (c : Configuration)
    (known : ∀ s ∈ services, s.dpId ∈ ids) : Serving ids (c.withServices knobs services) := by
  refine ⟨fun rows same key service found => ?_, rfl⟩
  cases same
  -- the entry was written for a service of the snapshot, and so was its fairness config
  obtain ⟨s, last, rfl⟩ := Option.map_eq_some_iff.mp found
  have member := mem_of_latest last
  refine ⟨known s member, serviceRows knobs services .fairConfigMap, rfl, ?_⟩
  show ((latest (fun s' => s.dpId == s'.dpId) services).map (fairConfig knobs)).isSome = true
  rw [Option.isSome_map]
  exact latest_isSome member (beq_self_eq_true s.dpId)

theorem Serving.withDeny {c : Configuration} (serving : Serving ids c) (plan : BloomPlan)
    (entries : List CfgSource) : Serving ids (c.withDeny plan entries) :=
  ⟨serving.listed, serving.limits⟩

/-- A run of the helper goes on serving listed services only. -/
theorem Serving.publishes {c c' : Configuration} (serving : Serving ids c) {run : ApplyRun}
    (published : run.publishes c = some c')
    (known : run.node.snapshotKind = kindServiceFull → ∀ s ∈ run.node.services, s.dpId ∈ ids) :
    Serving ids c' := by
  unfold ApplyRun.publishes at published
  split at published
  next full =>
    obtain ⟨knobs, _, rfl⟩ := Option.map_eq_some_iff.mp published
    exact serving_withServices knobs c (known full)
  · split at published
    · obtain ⟨plan, _, rfl⟩ := Option.map_eq_some_iff.mp published
      exact serving.withDeny plan _
    · cases published

/-! ## The invariant -/

/-- Only listed services are enabled, loaded, served and have buckets. -/
structure Inv (ids : List UInt32) (w : World) : Prop where
  enabled : ∀ id, w.services.lookup id = some true → id ∈ ids
  loaded : ∀ id ∈ w.loaded, id ∈ ids
  buckets : ∀ map, map ≠ .nodeBurstState → ∀ id ∈ w.kernel.runtime.buckets map, id ∈ ids
  serving : ∃ active, w.kernel.config.activeConfig = some active ∧
    Serving ids (slotConfiguration w.kernel.config active.activeSlot)

section Invariant

variable {ids : List UInt32} {w next : World}

theorem inv_initial {k : Kernel} (fresh : Fresh k) : Inv ids (.initial k) where
  enabled id found := by cases found
  loaded id member := by cases member
  buckets map keyed id present := by
    have none : k.runtime.buckets map = ∅ := fresh.buckets map keyed
    rw [show (World.initial k).kernel.runtime.buckets map = ∅ from none] at present
    exact absurd present (AList.notMem_empty id)
  serving := by
    refine ⟨⟨0, 0⟩, ?_, ?_⟩
    · show k.config.activeConfig = _
      rw [fresh.config]
      rfl
    · show Serving ids (slotConfiguration k.config 0)
      rw [fresh.config]
      refine ⟨fun rows same key service found => ?_, rfl⟩
      cases same
      cases found

variable (inv : Inv ids w)
include inv

theorem Inv.served {frame : Frame} {service : ServiceVal}
    (found : serviceFor w.kernel.config frame = some service) :
    service.serviceId ∈ ids ∧ Configured w.kernel.config service.serviceId := by
  obtain ⟨active, read, serving⟩ := inv.serving
  obtain ⟨rows, key, installed, entry, _⟩ := row_of_serviceFor read found
  obtain ⟨listed, fair, fairRows, present⟩ := serving.listed rows installed key service entry
  refine ⟨listed, ?_⟩
  rintro slot ⟨active', read', rfl⟩
  cases read.symm.trans read'
  constructor
  · obtain ⟨_, t, _, rfl, find⟩ := inner_of_slotRows fairRows
    rw [find]
    exact present
  · have limits := serving.limits
    obtain ⟨rates, same⟩ := Option.isSome_iff_exists.mp limits
    obtain ⟨ratesMap, ratesInstalled, _⟩ := Option.bind_eq_some_iff.mp same
    rw [ratesInstalled]
    rfl

theorem Inv.apply (run : ApplyRun) (fromLoaded : run.node.snapshotKind = kindServiceFull →
      run.node.services.map CfgService.dpId = w.loaded) :
    Inv ids { w with kernel := { w.kernel with config := run.after w.kernel.config } } := by
  refine ⟨inv.enabled, inv.loaded, inv.buckets, ?_⟩
  obtain ⟨active, read, serving⟩ := inv.serving
  obtain ⟨active', read', outcome⟩ := after_active run read
  refine ⟨active', read', ?_⟩
  split at outcome
  · refine serving.publishes outcome.2 fun full s member => inv.loaded s.dpId ?_
    rw [← fromLoaded full]
    exact List.mem_map_of_mem member
  · show Serving ids (slotConfiguration (run.after w.kernel.config) active'.activeSlot)
    rw [outcome.2]
    exact serving

theorem Inv.receive (incoming : Incoming) :
    Inv ids { w with kernel := DataPlane.receive w.kernel incoming } := by
  have config : (DataPlane.receive w.kernel incoming).config = w.kernel.config := eval_config ..
  refine ⟨inv.enabled, inv.loaded, fun map keyed id present => ?_, ?_⟩
  · have staged := xdpGateway_staged (w.kernel.at incoming.clock).config incoming.frame
    rcases staged.grows rfl map keyed id present with before | ⟨service, found, rfl, _⟩
    · exact inv.buckets map keyed id before
    · exact (inv.served found).1
  · show ∃ active, (DataPlane.receive w.kernel incoming).config.activeConfig = some active ∧
      Serving ids (slotConfiguration (DataPlane.receive w.kernel incoming).config _)
    rw [config]
    exact inv.serving

theorem Inv.step {label : Label} (listed : ∀ id, label.enables = some id → id ∈ ids)
    (stepped : w.step label = some next) : Inv ids next := by
  cases label with
  | create =>
    simp only [World.step] at stepped
    split at stepped <;> cases stepped
    refine ⟨fun id found => ?_, inv.loaded, inv.buckets, inv.serving⟩
    rcases Table.lookup_insert_eq_some.mp found with ⟨_, off⟩ | ⟨_, found⟩
    · cases off
    · exact inv.enabled id found
  | setEnabled dpId enabled =>
    simp only [World.step] at stepped
    split at stepped <;> cases stepped
    refine ⟨fun id found => ?_, inv.loaded, inv.buckets, inv.serving⟩
    rcases Table.lookup_insert_eq_some.mp found with ⟨rfl, rfl⟩ | ⟨_, found⟩
    · exact listed id rfl
    · exact inv.enabled id found
  | delete dpId =>
    simp only [World.step] at stepped
    split at stepped <;> cases stepped
    refine ⟨fun id found => ?_, inv.loaded, inv.buckets, inv.serving⟩
    exact inv.enabled id (Table.lookup_erase_eq_some.mp found).2
  | load =>
    cases stepped
    refine ⟨inv.enabled, fun id member => ?_, inv.buckets, inv.serving⟩
    obtain ⟨_, found, rfl⟩ := (Table.mem_selectKeys w.services _ _ id).mp member
    exact inv.enabled id found
  | apply run =>
    simp only [World.step] at stepped
    split at stepped <;> cases stepped
    next fromLoaded => exact inv.apply run fromLoaded
  | receive incoming =>
    cases stepped
    exact inv.receive incoming

/-- With at most as many listed services as a bucket map has entries, no packet is lost. -/
theorem Inv.not_lost (few : ids.length ≤ 1024) (incoming : Incoming) : ¬ Lost w incoming := by
  rintro ⟨⟨id, service, found, rfl, _⟩, starved⟩
  obtain ⟨listed, configured⟩ := inv.served found
  have owner : ownerOf w.kernel.config incoming.frame = service.serviceId := by
    rw [ownerOf, found]
    rfl
  have fits : BucketsFit service.serviceId (w.kernel.at incoming.clock) := by
    intro map keyed
    have limit : map.maxEntries = 1024 := by
      cases map with
      | nodeBurstState => exact absurd rfl keyed
      | _ => rfl
    by_cases present : service.serviceId ∈ w.kernel.runtime.buckets map
    · exact Bool.or_eq_true_iff.mpr (.inl (AList.lookup_isSome.mpr present))
    · have shorter := Table.length_lt_of_listed (inv.buckets map keyed) listed present
      refine Bool.or_eq_true_iff.mpr (.inr (decide_eq_true ?_))
      rw [limit]
      exact shorter.trans_le few
  have staged := xdpGateway_staged w.kernel.config incoming.frame
  rw [owner] at staged
  exact staged.not_starved (k := w.kernel.at incoming.clock) (p := .start) rfl configured fits rfl
    rfl starved

end Invariant

/-- In every run in which at most 1024 different services are ever enabled, no packet to an enabled
service is dropped for want of a bucket. -/
theorem not_lost_of_few_services (k : Kernel) (fresh : Fresh k) (labels : List Label)
    (few : (everEnabled labels).length ≤ 1024) :
    RunAll World.step NotLost (.initial k) labels := by
  have listed : ∀ label ∈ labels, ∀ id, label.enables = some id → id ∈ everEnabled labels := by
    intro label member id enables
    exact List.mem_dedup.mpr (List.mem_filterMap.mpr ⟨label, member, enables⟩)
  have start : Inv (everEnabled labels) (.initial k) := inv_initial fresh
  refine RunAll.of_invariant ?_ ?_ start (RunAll.of_forall listed _)
  · intro w label next inv known stepped
    exact inv.step known stepped
  · intro w label next inv _ incoming _
    exact inv.not_lost few incoming

/-! ## Services that come and go -/

/-- A service for 203.0.113.1 under some id. -/
def hostService (dpId : UInt32) : CfgService where
  dstPrefixlen := 32
  dstAddr := 0xcb007101
  dpId := dpId
  enabled := 1
  wlFlags := 0
  reserved0 := 0
  vipFlags := 0
  committedBps := 1000000
  ceilingBps := 1000000
  vipPps := 0
  vipBps := 0
  servicePps := 0
  serviceBps := 0
  svcRlFlags := 0
  rules := []
  wl := []

def hostNode (dpId : UInt32) : NodeCfg where
  schemaVersion := schemaVersion
  snapshotKind := kindServiceFull
  services := [hostService dpId]
  globalRevision := 0
  globalEntries := []

def hostKnobs : Knobs := ⟨5000000000, 3, 512⟩

theorem hostNode_acceptable {dpId : UInt32} (positive : dpId ≠ 0) : Acceptable (hostNode dpId) where
  schema := rfl
  fitting := ⟨by simp [hostNode], by simp [hostNode, hostService, whitelistTotal],
    by simp [hostNode, hostService]⟩
  writable := by
    intro s member
    cases List.mem_singleton.mp member
    refine ⟨?_, by simp [hostService]⟩
    simp only [serviceOk, hostService, Bool.not_eq_true', Bool.or_eq_false_iff]
    exact ⟨⟨⟨⟨⟨rfl, beq_false_of_ne positive⟩, rfl⟩, rfl⟩, rfl⟩, rfl⟩
  destinations := List.nodup_singleton _
  ids := List.nodup_singleton _

theorem hostService_enabled {dpId : UInt32} : (serviceVal (hostService dpId)).enabled ≠ 0 := by
  show (1 : UInt8) ≠ 0
  decide

def hostFrame : Incoming := ⟨tcpFrame, fun _ => 5000000000⟩

def loadedKernel : Kernel := ⟨loadedMaps, oneServiceKernel.runtime⟩

/-- The id of the service that comes after so many others. -/
def dpIdAt (n : Nat) : UInt32 := UInt32.ofNat (n + 1)

def dpIdsTo (n : Nat) : List UInt32 := (List.range n).map dpIdAt

variable {n : Nat}

theorem dpIdAt_toNat (small : n < 2 ^ 31) : (dpIdAt n).toNat = n + 1 := by
  rw [dpIdAt, UInt32.toNat_ofNat']
  omega

theorem dpIdAt_ne_zero (small : n < 2 ^ 31) : dpIdAt n ≠ 0 := by
  intro zero
  have number := dpIdAt_toNat small
  rw [zero] at number
  cases number

theorem dpIdAt_inj {m : Nat} (small : m < 2 ^ 31) (small' : n < 2 ^ 31) (same : dpIdAt m = dpIdAt n) :
    m = n := by
  have number := congrArg UInt32.toNat same
  rw [dpIdAt_toNat small, dpIdAt_toNat small'] at number
  omega

theorem nodup_dpIdsTo (small : n < 2 ^ 31) : (dpIdsTo n).Nodup := by
  refine List.Nodup.map_on ?_ List.nodup_range
  intro i below j below' same
  rw [List.mem_range] at below below'
  exact dpIdAt_inj (by omega) (by omega) same

theorem dpIdAt_not_mem (small : n < 2 ^ 31) : dpIdAt n ∉ dpIdsTo n := by
  intro member
  obtain ⟨i, below, same⟩ := List.mem_map.mp member
  rw [List.mem_range] at below
  have := dpIdAt_inj (by omega) small same
  omega

theorem mem_dpIdsTo_succ (n : Nat) (id : UInt32) :
    id ∈ dpIdsTo (n + 1) ↔ id ∈ dpIdsTo n ∨ id = dpIdAt n := by
  simp [dpIdsTo, List.range_succ]

/-- After so many services have come, seen a packet and gone. -/
structure Round (n : Nat) (w : World) : Prop where
  last : w.lastDpId = n
  gone : w.services = ∅
  published : ∃ active, w.kernel.config.activeConfig = some active ∧
    active.activeSlot < serviceSlots ∧ Complete w.kernel.config active.activeSlot
  control : ∀ bypass ∈ w.kernel.runtime.nodeControl, bypass = 0
  capped : ∀ id, id ∈ w.kernel.runtime.buckets .serviceIngressCapState ↔ id ∈ dpIdsTo n

/-- The next service is enabled and published. -/
structure Up (n : Nat) (w : World) : Prop where
  last : w.lastDpId = n + 1
  alone : w.services = AList.insert (dpIdAt n) true ∅
  published : ∃ active c, w.kernel.config.activeConfig = some active ∧
    active.activeSlot < serviceSlots ∧ Complete w.kernel.config active.activeSlot ∧
    slotConfiguration w.kernel.config active.activeSlot =
      Configuration.withServices hostKnobs [hostService (dpIdAt n)] c
  control : ∀ bypass ∈ w.kernel.runtime.nodeControl, bypass = 0
  capped : ∀ id, id ∈ w.kernel.runtime.buckets .serviceIngressCapState ↔ id ∈ dpIdsTo n

section Rounds

variable {n : Nat} {w : World}

theorem fewEnabled_of_single {before : World} {label : Label} {id : UInt32} {enabled : Bool}
    (single : w.services = AList.insert id enabled ∅) : FewEnabled before label w := by
  have rows := w.services.length_selectKeys_le (fun enabled => enabled) fun a b => a.1 ≤ b.1
  have one : w.services.entries.length = 1 := by
    rw [single]
    rfl
  exact rows.trans (by omega)

theorem round_initial : Round 0 (.initial loadedKernel) where
  last := rfl
  gone := rfl
  published := ⟨⟨0, 0⟩, rfl, by decide, fun _ => rfl, rfl⟩
  control := by
    intro bypass read
    cases read
    rfl
  capped id := by
    refine ⟨fun present => absurd present (AList.notMem_empty id), fun member => ?_⟩
    cases member

theorem Round.up (round : Round n w) (small : n + 1 < 2 ^ 31) :
    ∃ next, Reaches World.step FewEnabled w next ∧ Up n next := by
  obtain ⟨active, read, valid, complete⟩ := round.published
  obtain ⟨run, node, active', read', valid', complete', configuration⟩ :=
    exists_published read valid complete (show applyNodeKnobs defaultEnv = some hostKnobs from rfl)
      (hostNode_acceptable (dpIdAt_ne_zero (n := n) (by omega))) rfl
  -- the worlds after each step
  let created : World := { w with
    lastDpId := n + 1, services := AList.insert (dpIdAt n) false ∅ }
  let enabled : World := { created with services := AList.insert (dpIdAt n) true ∅ }
  let loaded : World := { enabled with loaded := [dpIdAt n] }
  let applied : World := { loaded with
    kernel := { w.kernel with config := run.after w.kernel.config } }
  have creates : w.step .create = some created := by
    simp only [World.step, round.last, round.gone, if_pos small]
    rfl
  have enables : created.step (.setEnabled (dpIdAt n) true) = some enabled := by
    have present : (created.services.lookup (dpIdAt n)).isSome = true := by
      rw [show created.services = AList.insert (dpIdAt n) false ∅ from rfl, AList.lookup_insert]
      rfl
    simp only [World.step, if_pos present]
    simp [created, enabled]
  have loads : enabled.step .load = some loaded := rfl
  have applies : loaded.step (.apply run) = some applied := by
    have matching : run.node.snapshotKind = kindServiceFull →
        run.node.services.map CfgService.dpId = loaded.loaded := by
      intro _
      rw [node]
      rfl
    simp only [World.step, if_pos matching]
    rfl
  refine ⟨applied, ?_, ⟨rfl, rfl, ?_, round.control, round.capped⟩⟩
  · exact (((Reaches.single creates (fewEnabled_of_single rfl)).trans
      (Reaches.single enables (fewEnabled_of_single rfl))).trans
      (Reaches.single loads (fewEnabled_of_single rfl))).trans
      (Reaches.single applies (fewEnabled_of_single rfl))
  · exact ⟨active', _, read', valid', complete', configuration⟩

theorem Up.found (up : Up n w) :
    serviceFor w.kernel.config tcpFrame = some (serviceVal (hostService (dpIdAt n))) ∧
      ∃ active, w.kernel.config.activeConfig = some active ∧
        slotLookup w.kernel.config active.activeSlot .fairConfigMap (dpIdAt n) =
          some (fairConfig hostKnobs (hostService (dpIdAt n))) := by
  obtain ⟨active, c, read, _, _, configuration⟩ := up.published
  have rows (o : Outer) (member : o ∈ serviceOuters) :
      slotRows w.kernel.config active.activeSlot o =
        some (serviceRows hostKnobs [hostService (dpIdAt n)] o) := by
    show (slotConfiguration w.kernel.config active.activeSlot).rows o = _
    rw [configuration]
    exact if_pos member
  refine ⟨?_, active, read, ?_⟩
  · have reaches : reachesLookup tcpFrame = true := by decide +kernel
    have destination : serviceKey 32 (parsedPacket tcpFrame).dstIp = serviceKey 32 0xcb007101 := by
      decide +kernel
    rw [serviceFor, if_pos reaches, read, Option.bind_some, destination]
    obtain ⟨_, t, _, held, find⟩ := inner_of_slotRows (rows .serviceMap (by decide))
    rw [find]
    refine PrefixTrie.longestMatch_of_lookup ((congrFun held _).trans ?_)
    simp [serviceRows, latest, hostService]
  · obtain ⟨_, t, _, held, find⟩ := inner_of_slotRows (rows .fairConfigMap (by decide))
    refine (find _).trans ((congrFun held _).trans ?_)
    simp [serviceRows, latest, hostService]

theorem Up.length_capState (up : Up n w) (small : n < 2 ^ 31) :
    (w.kernel.runtime.buckets .serviceIngressCapState).entries.length = n := by
  let t := w.kernel.runtime.buckets .serviceIngressCapState
  have perm : t.keys.Perm (dpIdsTo n) :=
    (List.perm_ext_iff_of_nodup t.nodupKeys (nodup_dpIdsTo small)).mpr up.capped
  have size : t.keys.length = t.entries.length := List.length_map _
  rw [← size, perm.length_eq, dpIdsTo, List.length_map, List.length_range]

theorem Up.round (up : Up n w) (below : n < 1024) :
    ∃ next, Reaches World.step FewEnabled w next ∧ Round (n + 1) next := by
  obtain ⟨found, active, read, fair⟩ := up.found
  have room : (w.kernel.at hostFrame.clock).runtime.bucketRoom .serviceIngressCapState
      (dpIdAt n) = true := by
    refine Bool.or_eq_true_iff.mpr (.inr (decide_eq_true ?_))
    show (w.kernel.runtime.buckets .serviceIngressCapState).entries.length < 1024
    rw [up.length_capState (by omega)]
    exact below
  have staged := xdpGateway_staged (w.kernel.at hostFrame.clock).config tcpFrame
  -- the packet adds its own key to the state of the caps, and no other one
  have capped : ∀ id, id ∈ (receive w.kernel hostFrame).runtime.buckets .serviceIngressCapState ↔
      id ∈ dpIdsTo (n + 1) := by
    intro id
    rw [mem_dpIdsTo_succ, ← up.capped]
    constructor
    · intro present
      rcases staged.grows rfl _ (by decide) id present with before | ⟨service, found', rfl, _⟩
      · exact .inl before
      · cases found.symm.trans found'
        exact .inr rfl
    · rintro (before | rfl)
      · exact eval_keeps _ (w.kernel.at hostFrame.clock) _ id before
      · exact mem_capState_of_room (k := w.kernel.at hostFrame.clock) found hostService_enabled
          read fair up.control room
  have config : (receive w.kernel hostFrame).config = w.kernel.config := eval_config ..
  have control : (receive w.kernel hostFrame).runtime.nodeControl =
      w.kernel.runtime.nodeControl := (eval_nodeControl staged rfl).symm
  -- the three steps of the round, each with the world it leads to
  let received : World := { w with kernel := receive w.kernel hostFrame }
  let disabled : World := { received with services := AList.insert (dpIdAt n) false ∅ }
  let deleted : World := { disabled with services := ∅ }
  have receives : w.step (.receive hostFrame) = some received := rfl
  have disables : received.step (.setEnabled (dpIdAt n) false) = some disabled := by
    have present : (received.services.lookup (dpIdAt n)).isSome = true := by
      rw [show received.services = _ from up.alone, AList.lookup_insert]
      rfl
    simp only [World.step, if_pos present]
    simp [received, disabled, up.alone]
  have deletes : disabled.step (.delete (dpIdAt n)) = some deleted := by
    have present : disabled.services.lookup (dpIdAt n) = some false := AList.lookup_insert _
    simp only [World.step, if_pos present]
    have gone : disabled.services.erase (dpIdAt n) = ∅ := by
      refine AList.ext ?_
      exact List.kerase_cons_eq rfl
    rw [gone]
  refine ⟨deleted, ?_, ⟨up.last, rfl, ?_, ?_, capped⟩⟩
  · -- at most one service is enabled all the time
    exact ((Reaches.single receives (fewEnabled_of_single up.alone)).trans
      (Reaches.single disables (fewEnabled_of_single rfl))).trans
      (Reaches.single deletes (Nat.zero_le 1024))
  · obtain ⟨active, c, read, valid, complete, _⟩ := up.published
    show ∃ active, (receive w.kernel hostFrame).config.activeConfig = some active ∧ _ ∧
      Complete (receive w.kernel hostFrame).config _
    rw [config]
    exact ⟨active, read, valid, complete⟩
  · show ∀ bypass ∈ (receive w.kernel hostFrame).runtime.nodeControl, bypass = 0
    rw [control]
    exact up.control

theorem Up.lost (up : Up 1024 w) : Lost w hostFrame := by
  obtain ⟨found, active, read, fair⟩ := up.found
  refine ⟨⟨_, _, found, rfl, hostService_enabled⟩, ?_⟩
  refine starved_of_full (k := w.kernel.at hostFrame.clock) found hostService_enabled read fair
    up.control ?_
  have absent : dpIdAt 1024 ∉ w.kernel.runtime.buckets .serviceIngressCapState := by
    rw [up.capped]
    exact dpIdAt_not_mem (by decide)
  have missing : (w.kernel.runtime.buckets .serviceIngressCapState).lookup (dpIdAt 1024) = none :=
    AList.lookup_eq_none.mpr absent
  have size := up.length_capState (by decide)
  show (((w.kernel.runtime.buckets .serviceIngressCapState).lookup (dpIdAt 1024)).isSome ||
    decide ((w.kernel.runtime.buckets .serviceIngressCapState).entries.length < 1024)) = false
  rw [missing, size]
  rfl

end Rounds

/-- One service, from its creation to its first packet. -/
def hostLabels : List Label :=
  [.create, .setEnabled 1 true, .load,
    .apply ⟨defaultEnv, 65536, hostNode 1, List.replicate 100 .works⟩, .receive hostFrame]

theorem hostLabels_not_lost :
    (run World.step (.initial loadedKernel) hostLabels).isSome = true ∧
      (everEnabled hostLabels).length ≤ 1024 ∧
      RunAll World.step NotLost (.initial loadedKernel) hostLabels :=
  ⟨by decide +kernel, by decide,
    not_lost_of_few_services loadedKernel ⟨rfl, fun _ _ => rfl⟩ hostLabels (by decide)⟩

/-- Services that come and go one at a time use up the buckets. -/
theorem bucketState_runs_out :
    ∃ labels, RunAll World.step FewEnabled (.initial loadedKernel) labels ∧
      (run World.step (.initial loadedKernel) labels).isSome = true ∧
      ¬ RunAll World.step NotLost (.initial loadedKernel) labels := by
  have round (i : Nat) (w : World) (below : i < 1024) (here : Round i w) :
      ∃ next, Reaches World.step FewEnabled w next ∧ Round (i + 1) next := by
    obtain ⟨mid, reached, up⟩ := here.up (by omega)
    obtain ⟨next, onward, there⟩ := up.round below
    exact ⟨next, reached.trans onward, there⟩
  obtain ⟨last, reached, there⟩ := Reaches.iterate 1024 round round_initial
  obtain ⟨final, onward, up⟩ := there.up (by decide)
  obtain ⟨labels, ran, few⟩ := reached.trans onward
  refine ⟨labels ++ [.receive hostFrame], few.append ?_, ?_, ?_⟩
  · intro mid reached next stepped
    cases ran.symm.trans reached
    cases stepped
    exact ⟨fewEnabled_of_single up.alone, trivial⟩
  · rw [run_append, ran]
    rfl
  · intro all
    have later := all.suffix ran
    exact (later _ rfl).1 hostFrame rfl up.lost

end ScrubbingGateway.Apply.BucketRuns
