import ScrubbingGateway.Apply.BucketRuns

/-!
# Next hops and the destinations of services

The next hop of a service is kept under its data-plane id, not under its destination. It is written
after the configuration has been published, by two parties: the queue that `handle_service_update`
fills, and the periodic pass over the enabled services. When a service changes its destination,
what is left of the old one stands next to the new one under the same id.
-/

namespace ScrubbingGateway.Apply.NextHops

open DataPlane Prog Transition

/-- The columns of a service that decide about its next hop. -/
structure Row where
  destination : UInt32
  enabled : Bool
deriving DecidableEq, Repr

/-- The items of the resolver's queue. -/
inductive Request where
  | resolve (dpId ip : UInt32)
  | evict (dpId : UInt32)
deriving DecidableEq, Repr

/-- `resolve_once` in progress. -/
structure Pass where
  /-- The services still to be resolved. -/
  todo : List (UInt32 × UInt32)
  enabled : List UInt32
  /-- The ids still to be evicted, once the next-hop table has been read. -/
  evictions : Option (List UInt32)

/-- `handle_service_update` in progress: the row it loaded, and whether its apply is done. -/
structure Job where
  dpId : UInt32
  row : Row
  applied : Bool

/-- What `dpstat resolve-nexthop` did to the table. -/
inductive Resolution where
  | stored (dstMac srcMac : List UInt8)
  | unresolved (srcMac : List UInt8)
  | failed

structure World where
  /-- The last value of `service_dp_id_seq`. -/
  lastDpId : Nat
  /-- The rows of `protected_service`. -/
  rows : Table UInt32 Row
  job : Option Job
  /-- The ids and destinations of the snapshot the worker loaded last. -/
  loaded : List (UInt32 × UInt32)
  queue : List Request
  pass : Option Pass
  kernel : Kernel

inductive Label where
  | create (destination : UInt32)
  | setDestination (dpId destination : UInt32)
  | setEnabled (dpId : UInt32) (enabled : Bool)
  | delete (dpId : UInt32)
  /-- The handler loads the config of its service. -/
  | startJob (dpId : UInt32)
  /-- `load_node_config` -/
  | load
  /-- The helper runs on the loaded services or on the deny list, to its end or not. -/
  | apply (run : ApplyRun)
  /-- The handler puts its request on the queue, if its apply succeeded. -/
  | finishJob
  /-- The first request of the queue is carried out. -/
  | drain (resolution : Resolution)
  | startPass (services : List (UInt32 × UInt32))
  | passResolve (resolution : Resolution)
  | passReadActive (works : Bool)
  | passEvict (dpId : UInt32) (works : Bool)
  | endPass
  | receive (incoming : Incoming)

namespace World

/-- The enabled services with their destinations, in the order of their ids. -/
def enabledServices (w : World) : List (UInt32 × UInt32) :=
  (w.rows.selectKeys (·.enabled) fun a b => a.1 ≤ b.1).filterMap fun dpId =>
    (w.rows.lookup dpId).map fun row => (dpId, row.destination)

/-- Some other service has the destination. -/
def taken (w : World) (dpId destination : UInt32) : Bool :=
  w.rows.entries.any fun e => e.1 != dpId && e.2.destination == destination

def setNexthops (w : World) (nexthops : Table UInt32 Nexthop) : World :=
  { w with kernel := w.kernel.withRuntime { w.kernel.runtime with nexthopMap := nexthops } }

end World

section

variable (belongs : List UInt8 → UInt32 → Bool)

/-- A resolve for an address stores a MAC that belongs to the address, or marks the entry as
unresolved, or leaves the table as it is. -/
def Resolution.exec (dpId ip : UInt32) (nexthops : Table UInt32 Nexthop) :
    Resolution → Option (Table UInt32 Nexthop)
  | stored dstMac srcMac =>
    if belongs dstMac ip then some (nexthops.insert dpId ⟨dstMac, srcMac, 1⟩) else none
  | unresolved srcMac => some (nexthops.insert dpId ⟨List.replicate 6 0, srcMac, 0⟩)
  | failed => some nexthops

def Resolution.worked : Resolution → Bool
  | failed => false
  | _ => true

/-- An eviction may fail too. -/
def evict (dpId : UInt32) (works : Bool) (nexthops : Table UInt32 Nexthop) :
    Table UInt32 Nexthop :=
  if works then nexthops.erase dpId else nexthops

def Request.exec (request : Request) (nexthops : Table UInt32 Nexthop) (resolution : Resolution) :
    Option (Table UInt32 Nexthop) :=
  match request with
  | resolve dpId ip => resolution.exec belongs dpId ip nexthops
  | .evict dpId => some (NextHops.evict dpId resolution.worked nexthops)

namespace World

def step (w : World) : Label → Option World
  | .create destination =>
    if w.lastDpId + 1 < 2 ^ 31 ∧ w.taken 0 destination = false then
      some { w with
        lastDpId := w.lastDpId + 1
        rows := w.rows.insert (UInt32.ofNat (w.lastDpId + 1)) ⟨destination, false⟩ }
    else none
  | .setDestination dpId destination =>
    (w.rows.lookup dpId).bind fun row =>
      if w.taken dpId destination then none
      else some { w with rows := w.rows.insert dpId { row with destination } }
  | .setEnabled dpId enabled =>
    (w.rows.lookup dpId).map fun row =>
      { w with rows := w.rows.insert dpId { row with enabled } }
  | .delete dpId =>
    (w.rows.lookup dpId).bind fun row =>
      if row.enabled then none else some { w with rows := w.rows.erase dpId }
  | .startJob dpId =>
    if w.job.isSome then none
    else (w.rows.lookup dpId).map fun row => { w with job := some ⟨dpId, row, false⟩ }
  | .load => some { w with loaded := w.enabledServices }
  | .apply run =>
    let kernel := { w.kernel with config := run.after w.kernel.config }
    if run.node.snapshotKind = kindServiceFull then
      if run.node.services.map (fun s => (s.dpId, s.dstPrefixlen, s.dstAddr)) =
          w.loaded.map (fun s => (s.1, 32, s.2)) then
        let applied := run.committed w.kernel.config
        some { w with kernel, job := w.job.map fun job => { job with applied } }
      else none
    else some { w with kernel }
  | .finishJob =>
    w.job.map fun job =>
      let request := if job.row.enabled then .resolve job.dpId job.row.destination
        else .evict job.dpId
      { w with job := none, queue := if job.applied then w.queue ++ [request] else w.queue }
  | .drain resolution =>
    match w.queue with
    | [] => none
    | request :: queue =>
      (request.exec belongs w.kernel.runtime.nexthopMap resolution).map fun nexthops =>
        { w with queue }.setNexthops nexthops
  | .startPass services =>
    if w.pass.isNone ∧ services.Perm w.enabledServices then
      some { w with pass := some ⟨services, services.map Prod.fst, none⟩ }
    else none
  | .passResolve resolution =>
    w.pass.bind fun pass =>
      match pass.todo with
      | [] => none
      | (dpId, ip) :: todo =>
        (resolution.exec belongs dpId ip w.kernel.runtime.nexthopMap).map fun nexthops =>
          { w with pass := some { pass with todo } }.setNexthops nexthops
  | .passReadActive works =>
    w.pass.bind fun pass =>
      -- an unreadable table counts as empty
      let active := if works then w.kernel.runtime.nexthopMap.keys else []
      if pass.todo = [] then
        some { w with pass := some { pass with
          evictions := some (active.filter (· ∉ pass.enabled)) } }
      else none
  | .passEvict dpId works =>
    w.pass.bind fun pass => pass.evictions.bind fun evictions =>
      if dpId ∈ evictions then
        some (setNexthops
          { w with pass := some { pass with evictions := some (evictions.erase dpId) } }
          (NextHops.evict dpId works w.kernel.runtime.nexthopMap))
      else none
  | .endPass => some { w with pass := none }
  | .receive incoming => some { w with kernel := DataPlane.receive w.kernel incoming }

def initial (k : Kernel) : World := ⟨0, ∅, none, [], [], none, k⟩

end World

/-- The next hop a frame leaves with. -/
def rewrittenWith (k : Kernel) (incoming : Incoming) : Option Nexthop :=
  match eval packetMachine (xdpGateway incoming.frame) (k.at incoming.clock) with
  | (.returned v, _) => v.rewritten
  | _ => none

/-- A packet is rewritten with a MAC that belongs to its destination. -/
def WellForwarded (w : World) : Label → World → Prop
  | .receive incoming, _ => ∀ nh ∈ rewrittenWith w.kernel incoming,
    belongs nh.dstMac (parsedPacket incoming.frame).dstIp = true
  | _, _ => True

end

/-! ## What is left of a destination -/

/-- The ids and destinations the worker holds in its memory. -/
def World.mentions (w : World) : List (UInt32 × UInt32) :=
  w.job.toList.map (fun job => (job.dpId, job.row.destination)) ++ w.loaded ++
    w.queue.filterMap (fun
      | .resolve dpId ip => some (dpId, ip)
      | .evict _ => none) ++
    w.pass.toList.flatMap (·.todo)

/-- The service entries packets can find. -/
def activeServices (c : ConfigMaps) : List ServiceVal :=
  (c.activeConfig.bind fun active =>
    (c.outer .serviceMap active.activeSlot).bind fun id => (c.inner .serviceMap)[id]?).toList.flatMap
      fun t => t.entries.map fun e => e.2

/-- Nothing is left of the destination of a service but its row. -/
structure Withdrawn (w : World) (dpId : UInt32) : Prop where
  unmentioned : ∀ s ∈ w.mentions, s.1 ≠ dpId
  unpublished : ∀ service ∈ activeServices w.kernel.config, service.serviceId ≠ dpId
  unresolved : ∀ nh ∈ w.kernel.runtime.nexthopMap.lookup dpId, nh.resolved = 0

instance (w : World) (dpId : UInt32) : Decidable (Withdrawn w dpId) :=
  -- the lists are searched, not the types of their elements, which are finite as well
  haveI : Decidable (∀ s ∈ w.mentions, s.1 ≠ dpId) := List.decidableBAll _ _
  haveI : Decidable (∀ service ∈ activeServices w.kernel.config, service.serviceId ≠ dpId) :=
    List.decidableBAll _ _
  decidable_of_iff ((∀ s ∈ w.mentions, s.1 ≠ dpId) ∧
      (∀ service ∈ activeServices w.kernel.config, service.serviceId ≠ dpId) ∧
      ∀ nh ∈ w.kernel.runtime.nexthopMap.lookup dpId, nh.resolved = 0)
    ⟨fun ⟨unmentioned, unpublished, unresolved⟩ => ⟨unmentioned, unpublished, unresolved⟩,
      fun withdrawn => ⟨withdrawn.unmentioned, withdrawn.unpublished, withdrawn.unresolved⟩⟩

/-- A service changes its destination only when it is withdrawn. -/
def MovesWithdrawn (w : World) : Label → World → Prop
  | .setDestination dpId destination, _ =>
    ∀ row ∈ w.rows.lookup dpId, row.destination ≠ destination → Withdrawn w dpId
  | _, _ => True

/-! ## The invariant -/

/-- The service entries of a configuration lead to the homes of their services. -/
def Serves (home : UInt32 → Option UInt32) (c : Configuration) : Prop :=
  ∀ rows, c.rows .serviceMap = some rows → ∀ key service, rows key = some service →
    ∃ ip, home service.serviceId = some ip ∧ key = serviceKey 32 ip

/-- Every usable next hop belongs to the home of its service. -/
def Belonging (belongs : List UInt8 → UInt32 → Bool) (home : UInt32 → Option UInt32)
    (nexthops : Table UInt32 Nexthop) : Prop :=
  ∀ id nh, nexthops.lookup id = some nh → nh.resolved ≠ 0 →
    ∃ ip, home id = some ip ∧ belongs nh.dstMac ip = true

/-- Every service has one destination, wherever it is known. -/
structure Sited (belongs : List UInt8 → UInt32 → Bool) (home : UInt32 → Option UInt32)
    (w : World) : Prop where
  issued : ∀ id, (home id).isSome = true → id.toNat ≤ w.lastDpId
  rows : ∀ id row, w.rows.lookup id = some row → home id = some row.destination
  mentions : ∀ s ∈ w.mentions, home s.1 = some s.2
  serving : ∃ active, w.kernel.config.activeConfig = some active ∧
    Serves home (slotConfiguration w.kernel.config active.activeSlot)
  nexthops : Belonging belongs home w.kernel.runtime.nexthopMap

/-- The services of a world have homes. -/
def Settled (belongs : List UInt8 → UInt32 → Bool) (w : World) : Prop :=
  ∃ home, Sited belongs home w

section Invariant

variable {belongs : List UInt8 → UInt32 → Bool} {home : UInt32 → Option UInt32} {w next : World}

theorem mem_activeServices {c : ConfigMaps} {active : ActiveConfig}
    (read : c.activeConfig = some active) {rows : BitPrefix → Option ServiceVal}
    (installed : slotRows c active.activeSlot .serviceMap = some rows) {key : BitPrefix}
    {service : ServiceVal} (found : rows key = some service) : service ∈ activeServices c := by
  obtain ⟨map, mapped, looked⟩ := Option.bind_eq_some_iff.mp installed
  obtain ⟨t, stored, rfl⟩ := Option.map_eq_some_iff.mp looked
  rw [activeServices, read, Option.bind_some, mapped, Option.bind_some, stored]
  refine List.mem_flatMap.mpr ⟨t, List.mem_singleton.mpr rfl, ?_⟩
  exact List.mem_map.mpr ⟨⟨key, service⟩, AList.mem_lookup_iff.mp found, rfl⟩

theorem Sited.withdrawn (sited : Sited belongs home w) {id : UInt32} (homeless : home id = none) :
    Withdrawn w id where
  unmentioned s member same := by
    cases homeless.symm.trans (same ▸ sited.mentions s member)
  unpublished service member same := by
    obtain ⟨active, read, serves⟩ := sited.serving
    rw [activeServices, read, Option.bind_some] at member
    obtain ⟨t, found, entry⟩ := List.mem_flatMap.mp member
    obtain ⟨map, mapped, stored⟩ := Option.bind_eq_some_iff.mp (Option.mem_toList.mp found)
    obtain ⟨e, listed, rfl⟩ := List.mem_map.mp entry
    have rows : (slotConfiguration w.kernel.config active.activeSlot).rows .serviceMap =
        some t.lookup := by
      show slotRows _ _ _ = _
      rw [slotRows, mapped, Option.bind_some, stored, Option.map_some]
    obtain ⟨ip, known, _⟩ := serves _ rows e.1 e.2 (AList.mem_lookup_iff.mpr listed)
    cases homeless.symm.trans (same ▸ known)
  unresolved nh found := by
    by_contra resolved
    obtain ⟨ip, known, _⟩ := sited.nexthops id nh found resolved
    cases homeless.symm.trans known

theorem Sited.settle (sited : Sited belongs home w) {id ip : UInt32} (withdrawn : Withdrawn w id)
    {row : Row} (destination : row.destination = ip) {last : Nat} (issued : id.toNat ≤ last)
    (later : w.lastDpId ≤ last) :
    Sited belongs (Function.update home id (some ip))
      { w with lastDpId := last, rows := w.rows.insert id row } := by
  have elsewhere {other ip' : UInt32} (known : home other = some ip') (ne : other ≠ id) :
      Function.update home id (some ip) other = some ip' := by
    rw [Function.update_of_ne ne, known]
  refine ⟨?_, ?_, ?_, ?_, ?_⟩
  · intro other known
    by_cases same : other = id
    · rw [same]
      exact issued
    · rw [Function.update_of_ne same] at known
      exact (sited.issued other known).trans later
  · intro other row' found
    rcases Table.lookup_insert_eq_some.mp found with ⟨rfl, rfl⟩ | ⟨different, found⟩
    · rw [Function.update_self, destination]
    · exact elsewhere (sited.rows other row' found) different
  · intro s member
    exact elsewhere (sited.mentions s member) (withdrawn.unmentioned s member)
  · obtain ⟨active, read, serves⟩ := sited.serving
    refine ⟨active, read, fun rows installed key service found => ?_⟩
    obtain ⟨ip', known, keyed⟩ := serves rows installed key service found
    have published := mem_activeServices read installed found
    exact ⟨ip', elsewhere known (withdrawn.unpublished service published), keyed⟩
  · intro other nh found resolved
    obtain ⟨ip', known, mac⟩ := sited.nexthops other nh found resolved
    refine ⟨ip', elsewhere known ?_, mac⟩
    rintro rfl
    exact resolved (withdrawn.unresolved nh found)

/-- A step that only forgets destinations, or repeats known ones. -/
theorem Sited.mono (sited : Sited belongs home w) (last : next.lastDpId = w.lastDpId)
    (rows : ∀ id row, next.rows.lookup id = some row → home id = some row.destination)
    (mentions : ∀ s ∈ next.mentions, home s.1 = some s.2) (kernel : next.kernel = w.kernel) :
    Sited belongs home next where
  issued id known := last ▸ sited.issued id known
  rows := rows
  mentions := mentions
  serving := kernel ▸ sited.serving
  nexthops := kernel ▸ sited.nexthops

variable {nexthops : Table UInt32 Nexthop} {dpId : UInt32} {resolution : Resolution}
  {s : UInt32 × UInt32}

theorem Sited.setNexthops (sited : Sited belongs home w)
    (belonging : Belonging belongs home nexthops) : Sited belongs home (w.setNexthops nexthops) :=
  ⟨sited.issued, sited.rows, sited.mentions, sited.serving, belonging⟩

theorem Belonging.resolve {nexthops' : Table UInt32 Nexthop} {ip : UInt32}
    (belonging : Belonging belongs home nexthops) (known : home dpId = some ip)
    (ran : resolution.exec belongs dpId ip nexthops = some nexthops') :
    Belonging belongs home nexthops' := by
  intro id nh found resolved
  cases resolution with
  | stored dstMac srcMac =>
    obtain ⟨mac, ⟨⟩⟩ := Option.ite_none_right_eq_some.mp ran
    rcases Table.lookup_insert_eq_some.mp found with ⟨rfl, rfl⟩ | ⟨_, found⟩
    · exact ⟨ip, known, mac⟩
    · exact belonging id nh found resolved
  | unresolved srcMac =>
    cases ran
    rcases Table.lookup_insert_eq_some.mp found with ⟨_, rfl⟩ | ⟨_, found⟩
    · exact absurd rfl resolved
    · exact belonging id nh found resolved
  | failed =>
    cases ran
    exact belonging id nh found resolved

theorem Belonging.evict (belonging : Belonging belongs home nexthops) (dpId : UInt32)
    (works : Bool) : Belonging belongs home (evict dpId works nexthops) := by
  intro id nh found resolved
  unfold NextHops.evict at found
  split at found
  · exact belonging id nh (Table.lookup_erase_eq_some.mp found).2 resolved
  · exact belonging id nh found resolved

theorem mem_mentions : s ∈ w.mentions ↔
    (∃ job, w.job = some job ∧ s = (job.dpId, job.row.destination)) ∨ s ∈ w.loaded ∨
      .resolve s.1 s.2 ∈ w.queue ∨ ∃ pass, w.pass = some pass ∧ s ∈ pass.todo := by
  have queued : s ∈ w.queue.filterMap (fun
      | .resolve dpId ip => some (dpId, ip)
      | .evict _ => none) ↔ .resolve s.1 s.2 ∈ w.queue := by
    rw [List.mem_filterMap]
    constructor
    · rintro ⟨request, member, same⟩
      cases request with
      | resolve dpId ip =>
        cases same
        exact member
      | evict dpId => cases same
    · intro member
      exact ⟨_, member, rfl⟩
  simp only [World.mentions, List.mem_append, queued, List.mem_map, Option.mem_toList,
    List.mem_flatMap, or_assoc, eq_comm (a := s)]

section

variable (sited : Sited belongs home w)
include sited

theorem Sited.enabled (member : s ∈ w.enabledServices) : home s.1 = some s.2 := by
  obtain ⟨dpId, _, found⟩ := List.mem_filterMap.mp member
  obtain ⟨row, stored, rfl⟩ := Option.map_eq_some_iff.mp found
  exact sited.rows dpId row stored

/-! ### Steps of the tables -/

theorem Sited.create {destination : UInt32}
    (stepped : w.step belongs (.create destination) = some next) : Settled belongs next := by
  obtain ⟨allowed, ⟨⟩⟩ := Option.ite_none_right_eq_some.mp stepped
  have number : (UInt32.ofNat (w.lastDpId + 1)).toNat = w.lastDpId + 1 := by
    rw [UInt32.toNat_ofNat']
    omega
  have homeless : home (UInt32.ofNat (w.lastDpId + 1)) = none := by
    by_contra known
    have issued := sited.issued _ (Option.isSome_iff_ne_none.mpr known)
    omega
  exact ⟨_, sited.settle (sited.withdrawn homeless) rfl number.le (Nat.le_succ _)⟩

theorem Sited.insertRow {row : Row} (known : home dpId = some row.destination) :
    Sited belongs home { w with rows := w.rows.insert dpId row } := by
  refine sited.mono rfl (fun id row' found => ?_) sited.mentions rfl
  rcases Table.lookup_insert_eq_some.mp found with ⟨rfl, rfl⟩ | ⟨_, found⟩
  · exact known
  · exact sited.rows id row' found

theorem Sited.setDestination {destination : UInt32}
    (moves : MovesWithdrawn w (.setDestination dpId destination) next)
    (stepped : w.step belongs (.setDestination dpId destination) = some next) :
    Settled belongs next := by
  obtain ⟨row, found, stepped⟩ := Option.bind_eq_some_iff.mp stepped
  have known := sited.rows dpId row found
  split at stepped
  · cases stepped
  · cases stepped
    by_cases same : row.destination = destination
    · exact ⟨home, sited.insertRow (same ▸ known)⟩
    · have issued := sited.issued dpId (by rw [known]; rfl)
      exact ⟨_, sited.settle (moves row found same) rfl issued le_rfl⟩

theorem Sited.delete (dpId : UInt32) : Sited belongs home { w with rows := w.rows.erase dpId } := by
  refine sited.mono rfl (fun id row found => ?_) sited.mentions rfl
  exact sited.rows id row (Table.lookup_erase_eq_some.mp found).2

/-! ### Steps of the worker -/

theorem Sited.startJob {row : Row} (found : w.rows.lookup dpId = some row) (applied : Bool) :
    Sited belongs home { w with job := some ⟨dpId, row, applied⟩ } := by
  refine sited.mono rfl sited.rows (fun s member => ?_) rfl
  rcases mem_mentions.mp member with ⟨job, same, rfl⟩ | rest
  · cases same
    exact sited.rows dpId row found
  · exact sited.mentions s (mem_mentions.mpr (.inr rest))

theorem Sited.load : Sited belongs home { w with loaded := w.enabledServices } := by
  refine sited.mono rfl sited.rows (fun s member => ?_) rfl
  have enabled := sited.enabled (s := s)
  have known := sited.mentions s
  simp only [mem_mentions] at member known
  grind

theorem Sited.finishJob (stepped : w.step belongs .finishJob = some next) :
    Sited belongs home next := by
  obtain ⟨job, working, rfl⟩ := Option.map_eq_some_iff.mp stepped
  refine sited.mono rfl sited.rows (fun s member => ?_) rfl
  rcases mem_mentions.mp member with ⟨_, none, _⟩ | loaded | queued | pass
  · cases none
  · exact sited.mentions s (mem_mentions.mpr (.inr (.inl loaded)))
  · dsimp only at queued
    split at queued
    · rcases List.mem_append.mp queued with before | new
      · exact sited.mentions s (mem_mentions.mpr (.inr (.inr (.inl before))))
      · -- the new request is for the row the job loaded
        have request := List.mem_singleton.mp new
        split at request
        · obtain ⟨sameId, sameIp⟩ := Request.resolve.inj request
          exact sited.mentions s (mem_mentions.mpr (.inl ⟨job, working, Prod.ext sameId sameIp⟩))
        · cases request
    · exact sited.mentions s (mem_mentions.mpr (.inr (.inr (.inl queued))))
  · exact sited.mentions s (mem_mentions.mpr (.inr (.inr (.inr pass))))

theorem Sited.drain (stepped : w.step belongs (.drain resolution) = some next) :
    Sited belongs home next := by
  simp only [World.step] at stepped
  split at stepped
  · cases stepped
  next request queue queued =>
    obtain ⟨nexthops, ran, rfl⟩ := Option.map_eq_some_iff.mp stepped
    have shorter : Sited belongs home { w with queue } := by
      refine sited.mono rfl sited.rows (fun s member => ?_) rfl
      have known := sited.mentions s
      simp only [mem_mentions, queued, List.mem_cons] at member known
      grind
    refine shorter.setNexthops ?_
    cases request with
    | resolve dpId ip =>
      have first : .resolve dpId ip ∈ w.queue := queued ▸ List.mem_cons_self
      exact sited.nexthops.resolve
        (sited.mentions (dpId, ip) (mem_mentions.mpr (.inr (.inr (.inl first))))) ran
    | evict dpId =>
      cases ran
      exact sited.nexthops.evict dpId _

theorem Sited.setPass {pass? : Option Pass}
    (known : ∀ pass, pass? = some pass → ∀ s ∈ pass.todo, home s.1 = some s.2) :
    Sited belongs home { w with pass := pass? } := by
  refine sited.mono rfl sited.rows (fun s member => ?_) rfl
  have before := sited.mentions s
  simp only [mem_mentions] at member before
  grind

theorem Sited.todo {pass : Pass} (running : w.pass = some pass) (member : s ∈ pass.todo) :
    home s.1 = some s.2 :=
  sited.mentions s (mem_mentions.mpr (.inr (.inr (.inr ⟨pass, running, member⟩))))

theorem Sited.passResolve (stepped : w.step belongs (.passResolve resolution) = some next) :
    Sited belongs home next := by
  obtain ⟨pass, running, stepped⟩ := Option.bind_eq_some_iff.mp stepped
  split at stepped
  · cases stepped
  next dpId ip todo listed =>
    obtain ⟨nexthops, ran, rfl⟩ := Option.map_eq_some_iff.mp stepped
    have first : home dpId = some ip :=
      sited.todo (s := (dpId, ip)) running (listed ▸ List.mem_cons_self)
    refine Sited.setNexthops (sited.setPass ?_) (sited.nexthops.resolve first ran)
    rintro _ ⟨⟩ s member
    exact sited.todo running (listed ▸ List.mem_cons_of_mem _ member)

theorem Sited.passEvict {works : Bool}
    (stepped : w.step belongs (.passEvict dpId works) = some next) : Sited belongs home next := by
  obtain ⟨pass, running, stepped⟩ := Option.bind_eq_some_iff.mp stepped
  obtain ⟨evictions, _, stepped⟩ := Option.bind_eq_some_iff.mp stepped
  split at stepped
  · cases stepped
    refine Sited.setNexthops (sited.setPass ?_) (sited.nexthops.evict dpId works)
    rintro _ ⟨⟩ s member
    exact sited.todo running member
  · cases stepped

end

/-! ### Applies and packets -/

theorem serves_withServices {services : List CfgService} (knobs : Knobs) (c : Configuration)
    (known : ∀ s ∈ services, s.dstPrefixlen = 32 ∧ home s.dpId = some s.dstAddr) :
    Serves home (c.withServices knobs services) := by
  intro rows same key service found
  cases same
  obtain ⟨s, last, rfl⟩ := Option.map_eq_some_iff.mp found
  obtain ⟨host, sited⟩ := known s (mem_of_latest last)
  have keyed : key = serviceKey s.dstPrefixlen s.dstAddr := eq_of_beq (met_of_latest last)
  exact ⟨s.dstAddr, sited, host ▸ keyed⟩

/-- A run of the helper on services at their homes publishes them there. -/
theorem Serves.publishes {c c' : Configuration} (serves : Serves home c) {run : ApplyRun}
    (published : run.publishes c = some c')
    (known : run.node.snapshotKind = kindServiceFull → ∀ s ∈ run.node.services,
      s.dstPrefixlen = 32 ∧ home s.dpId = some s.dstAddr) : Serves home c' := by
  unfold ApplyRun.publishes at published
  split at published
  next full =>
    obtain ⟨knobs, _, rfl⟩ := Option.map_eq_some_iff.mp published
    exact serves_withServices knobs c (known full)
  · split at published
    · obtain ⟨plan, _, rfl⟩ := Option.map_eq_some_iff.mp published
      exact serves
    · cases published

theorem Sited.applied (sited : Sited belongs home w) (run : ApplyRun)
    (known : run.node.snapshotKind = kindServiceFull → ∀ s ∈ run.node.services,
      s.dstPrefixlen = 32 ∧ home s.dpId = some s.dstAddr) :
    Sited belongs home { w with kernel := { w.kernel with config := run.after w.kernel.config } } := by
  refine ⟨sited.issued, sited.rows, sited.mentions, ?_, sited.nexthops⟩
  obtain ⟨active, read, serves⟩ := sited.serving
  obtain ⟨active', read', outcome⟩ := after_active run read
  refine ⟨active', read', ?_⟩
  split at outcome
  · exact serves.publishes outcome.2 known
  · show Serves home (slotConfiguration (run.after w.kernel.config) active'.activeSlot)
    rw [outcome.2]
    exact serves

theorem Sited.apply (sited : Sited belongs home w) {run : ApplyRun}
    (stepped : w.step belongs (.apply run) = some next) : Sited belongs home next := by
  simp only [World.step] at stepped
  split at stepped
  next full =>
    obtain ⟨snapshot, ⟨⟩⟩ := Option.ite_none_right_eq_some.mp stepped
    have known : ∀ s ∈ run.node.services,
        s.dstPrefixlen = 32 ∧ home s.dpId = some s.dstAddr := by
      intro s member
      have listed := List.mem_map_of_mem (f := fun s => (s.dpId, s.dstPrefixlen, s.dstAddr)) member
      rw [snapshot] at listed
      obtain ⟨loaded, isLoaded, same⟩ := List.mem_map.mp listed
      obtain ⟨sameId, sameLength, sameIp⟩ : loaded.1 = s.dpId ∧ 32 = s.dstPrefixlen ∧
          loaded.2 = s.dstAddr := by simpa using same
      refine ⟨sameLength.symm, ?_⟩
      rw [← sameId, ← sameIp]
      exact sited.mentions loaded (mem_mentions.mpr (.inr (.inl isLoaded)))
    have done := sited.applied run fun _ => known
    refine done.mono rfl done.rows (fun s member => ?_) rfl
    -- the job keeps the row it loaded
    rcases mem_mentions.mp member with ⟨job, working, rfl⟩ | rest
    · obtain ⟨before, was, rfl⟩ := Option.map_eq_some_iff.mp working
      exact sited.mentions _ (mem_mentions.mpr (.inl ⟨before, was, rfl⟩))
    · exact done.mentions s (mem_mentions.mpr (.inr rest))
  next other =>
    cases stepped
    exact sited.applied run fun full => absurd full other

theorem Sited.receive (sited : Sited belongs home w) (incoming : Incoming) :
    Sited belongs home { w with kernel := DataPlane.receive w.kernel incoming } := by
  have staged := xdpGateway_staged (w.kernel.at incoming.clock).config incoming.frame
  have config : (DataPlane.receive w.kernel incoming).config = w.kernel.config := eval_config ..
  have nexthops : (DataPlane.receive w.kernel incoming).runtime.nexthopMap =
      w.kernel.runtime.nexthopMap :=
    staged.related (R := fun k k' => k'.runtime.nexthopMap = k.runtime.nexthopMap) rfl
      (fun first second => second.trans first)
      (fun same => (congrArg (fun steady => steady.2.2.2.2.1) same).symm)
      (fun k l map len _ _ => by unfold Kernel.askBucket; split <;> rfl)
      (fun k config len => by unfold Kernel.askNode; split <;> rfl)
  refine ⟨sited.issued, sited.rows, sited.mentions, ?_, ?_⟩
  · show ∃ active, (DataPlane.receive w.kernel incoming).config.activeConfig = some active ∧ _
    rw [config]
    exact sited.serving
  · show Belonging belongs home (DataPlane.receive w.kernel incoming).runtime.nexthopMap
    rw [nexthops]
    exact sited.nexthops

theorem Sited.step {label : Label} (sited : Sited belongs home w)
    (moves : MovesWithdrawn w label next) (stepped : w.step belongs label = some next) :
    Settled belongs next := by
  cases label with
  -- a label that moves a destination picks a new home; all others keep the old one
  | create destination => exact sited.create stepped
  | setDestination dpId destination => exact sited.setDestination moves stepped
  | setEnabled dpId enabled =>
    obtain ⟨row, found, rfl⟩ := Option.map_eq_some_iff.mp stepped
    exact ⟨home, sited.insertRow (sited.rows dpId row found)⟩
  | delete dpId =>
    obtain ⟨row, _, stepped⟩ := Option.bind_eq_some_iff.mp stepped
    split at stepped
    · cases stepped
    · cases stepped
      exact ⟨home, sited.delete dpId⟩
  | startJob dpId =>
    obtain ⟨_, stepped⟩ := Option.ite_none_left_eq_some.mp stepped
    obtain ⟨row, found, rfl⟩ := Option.map_eq_some_iff.mp stepped
    exact ⟨home, sited.startJob found false⟩
  | load =>
    cases stepped
    exact ⟨home, sited.load⟩
  | apply run => exact ⟨home, sited.apply stepped⟩
  | finishJob => exact ⟨home, sited.finishJob stepped⟩
  | drain resolution => exact ⟨home, sited.drain stepped⟩
  | startPass services =>
    obtain ⟨listed, ⟨⟩⟩ := Option.ite_none_right_eq_some.mp stepped
    refine ⟨home, sited.setPass ?_⟩
    rintro _ ⟨⟩ s member
    -- a pass goes over the services that are enabled when it starts
    exact sited.enabled (listed.2.mem_iff.mp member)
  | passResolve resolution => exact ⟨home, sited.passResolve stepped⟩
  | passReadActive works =>
    obtain ⟨pass, running, stepped⟩ := Option.bind_eq_some_iff.mp stepped
    obtain ⟨_, ⟨⟩⟩ := Option.ite_none_right_eq_some.mp stepped
    refine ⟨home, sited.setPass ?_⟩
    rintro _ ⟨⟩ s member
    exact sited.todo running member
  | passEvict dpId works => exact ⟨home, sited.passEvict stepped⟩
  | endPass =>
    cases stepped
    exact ⟨home, sited.setPass fun pass none => nomatch none⟩
  | receive incoming =>
    cases stepped
    exact ⟨home, sited.receive incoming⟩

theorem eq_of_covers {ip dst : UInt32}
    (covers : (serviceKey 32 ip).Covers 32 (serviceKey 32 dst).bits) : ip = dst := by
  have spelled := covers.2
  have whole : 32 - UInt32.toNat 32 = 0 := rfl
  simp only [serviceKey, BitPrefix.ofNumber, whole, Nat.pow_zero, Nat.div_one] at spelled
  exact UInt32.toNat_inj.mp spelled

theorem Sited.home_of_serviceFor (sited : Sited belongs home w) {frame : Frame}
    {service : ServiceVal} (found : serviceFor w.kernel.config frame = some service) :
    home service.serviceId = some (parsedPacket frame).dstIp := by
  obtain ⟨active, read, serves⟩ := sited.serving
  obtain ⟨rows, key, installed, entry, covers⟩ := BucketRuns.row_of_serviceFor read found
  obtain ⟨ip, known, rfl⟩ := serves rows installed key service entry
  rw [known, eq_of_covers covers]

theorem Sited.wellForwarded (sited : Sited belongs home w) (label : Label) :
    WellForwarded belongs w label next := by
  cases label with
  | receive incoming =>
    intro nh sent
    unfold rewrittenWith at sent
    split at sent
    next v k' ran =>
      have staged := xdpGateway_staged (w.kernel.at incoming.clock).config incoming.frame
      have rewritten := (staged.rewrites (k := w.kernel.at incoming.clock) rfl rfl).returned ran
      obtain ⟨⟨service, found, owner, _⟩, stored, resolved⟩ := rewritten nh sent
      obtain ⟨ip, known, mac⟩ := sited.nexthops _ nh stored resolved
      have atHome := sited.home_of_serviceFor found
      rw [owner, known] at atHome
      rw [← Option.some.inj atHome]
      exact mac
    · cases sent
  | _ => trivial

end Invariant

/-- If services change their destinations only while they are withdrawn, every packet that is
rewritten gets a MAC that belongs to its destination. -/
theorem packets_wellForwarded (belongs : List UInt8 → UInt32 → Bool) (k : Kernel)
    (fresh : BucketRuns.Fresh k) (unresolved : k.runtime.nexthopMap = ∅) (labels : List Label)
    (moves : RunAll (World.step belongs) MovesWithdrawn (.initial k) labels) :
    RunAll (World.step belongs) (WellForwarded belongs) (.initial k) labels := by
  have start : Settled belongs (.initial k) := by
    refine ⟨fun _ => none, ?_⟩
    refine ⟨fun id known => (nomatch known), fun id row found => (nomatch found),
      fun s member => (nomatch member), ⟨⟨0, 0⟩, ?_, ?_⟩, ?_⟩
    · show k.config.activeConfig = _
      rw [fresh.config]
      rfl
    · show Serves _ (slotConfiguration k.config 0)
      rw [fresh.config]
      intro rows same key service found
      cases same
      cases found
    · intro id nh found
      rw [show (World.initial k).kernel.runtime.nexthopMap = ∅ from unresolved] at found
      cases found
  refine RunAll.of_invariant ?_ ?_ start moves
  · rintro w label next ⟨home, sited⟩ moves stepped
    exact sited.step moves stepped
  · rintro w label next ⟨home, sited⟩ _
    exact sited.wellForwarded label

/-! ## A destination that changes -/

instance (w : World) (label : Label) (next : World) : Decidable (MovesWithdrawn w label next) := by
  unfold MovesWithdrawn
  split <;> infer_instance

instance (belongs : List UInt8 → UInt32 → Bool) (w : World) (label : Label) (next : World) :
    Decidable (WellForwarded belongs w label next) := by
  unfold WellForwarded
  split <;> infer_instance

/-- The MAC of an address in the network of the examples. -/
def hostMac (ip : UInt32) : List UInt8 :=
  [2, 0, (ip >>> 24).toUInt8, (ip >>> 16).toUInt8, (ip >>> 8).toUInt8, ip.toUInt8]

def hostBelongs (mac : List UInt8) (ip : UInt32) : Bool := mac == hostMac ip

def oldAddress : UInt32 := 0xcb007101
def newAddress : UInt32 := 0xcb007102

def movingKernel : Kernel :=
  ⟨loadedMaps, { oneServiceKernel.runtime with nexthopMap := ∅ }⟩

/-- Service 1 at an address, open on port 443. -/
def movingService (destination : UInt32) : CfgService :=
  { BucketRuns.hostService 1 with
    dstAddr := destination
    rules := [⟨0, 65535, 443, 443, ipprotoTcp, ruleEnabled⟩] }

/-- A service job, from the row to the request. -/
def movingJob (services : List CfgService) : List Label :=
  [.startJob 1, .load,
    .apply ⟨defaultEnv, 65536, { BucketRuns.hostNode 1 with services },
      List.replicate 100 .works⟩,
    .finishJob]

def resolved (destination : UInt32) : Label :=
  .drain (.stored (hostMac destination) [2, 0, 0, 0, 0, 2])

def packetTo (lastByte : UInt8) : Label := .receive ⟨tcpFrame.set 33 lastByte, fun _ => 5000000000⟩

/-- The service comes into being and gets its first packet. -/
def arrival : List Label :=
  [.create oldAddress, .setEnabled 1 true] ++ movingJob [movingService oldAddress] ++
    [resolved oldAddress, packetTo 1]

/-- The service is disabled, moves, and is enabled again. -/
def carefulMove : List Label :=
  arrival ++ [.setEnabled 1 false] ++ movingJob [] ++
    [.drain (.unresolved []), .setDestination 1 newAddress, .setEnabled 1 true] ++
    movingJob [movingService newAddress] ++ [resolved newAddress, packetTo 2]

/-- The service moves while it is enabled, and a packet comes before its resolve. -/
def hastyMove : List Label :=
  arrival ++ [.setDestination 1 newAddress] ++ movingJob [movingService newAddress] ++ [packetTo 2]

theorem carefulMove_wellForwarded :
    (run (World.step hostBelongs) (.initial movingKernel) carefulMove).isSome = true ∧
      RunAll (World.step hostBelongs) MovesWithdrawn (.initial movingKernel) carefulMove ∧
      RunAll (World.step hostBelongs) (WellForwarded hostBelongs) (.initial movingKernel)
        carefulMove := by
  have moves : RunAll (World.step hostBelongs) MovesWithdrawn (.initial movingKernel)
      carefulMove := by decide +kernel
  exact ⟨by decide +kernel, moves,
    packets_wellForwarded hostBelongs movingKernel ⟨rfl, fun _ _ => rfl⟩ rfl carefulMove moves⟩

/-- A packet to the new address leaves with the MAC of the old one. -/
theorem hastyMove_not_wellForwarded :
    (run (World.step hostBelongs) (.initial movingKernel) hastyMove).isSome = true ∧
      ¬ RunAll (World.step hostBelongs) (WellForwarded hostBelongs) (.initial movingKernel)
        hastyMove := by
  decide +kernel

end ScrubbingGateway.Apply.NextHops
