import ScrubbingGateway.DataPlane.Gateway
import ScrubbingGateway.Lib.Sums

/-!
# Service statistics across CPUs

`svc_stat_map` keeps one record per CPU under every service id. Packets add to the record of their
CPU; `dpstat` sums the records of a service. A sum over the CPUs grows by what each packet adds, up
to the wrap-around of 64 bits.
-/

namespace ScrubbingGateway.DataPlane

/-- The map of service statistics on a machine with `ncpus` CPUs. -/
abbrev SvcStats (ncpus : Nat) : Type := Table UInt32 (Fin ncpus → SvcStat)

variable {ncpus : Nat}

namespace SvcStats

/-- `svc_stat_get`: the map with a record of the service, unless it is full. -/
def svcStatGet (stats : SvcStats ncpus) (id : UInt32) : Option (SvcStats ncpus) :=
  if (stats.lookup id).isSome then some stats
  else if stats.entries.length < svcStatMaxEntries then some (stats.insert id fun _ => .zero)
  else none

/-- Change the record of one CPU, if the service has records. -/
def modify (stats : SvcStats ncpus) (cpu : Fin ncpus) (id : UInt32) (change : SvcStat → SvcStat) :
    SvcStats ncpus :=
  match stats.lookup id with
  | some records => stats.insert id (Function.update records cpu (change (records cpu)))
  | none => stats

/-- What a packet does to the map, given what it does to a record. -/
def count (stats : SvcStats ncpus) (cpu : Fin ncpus) (id : UInt32) (change : SvcStat → SvcStat) :
    SvcStats ncpus :=
  if id = 0 then stats
  else match stats.svcStatGet id with
    | some present => present.modify cpu id change
    | none => stats

def svcStatClean (stats : SvcStats ncpus) (cpu : Fin ncpus) (pkt : PktMeta) : SvcStats ncpus :=
  stats.count cpu pkt.serviceId fun stat => stat.addClean pkt.frameLen

def svcStatDrop (stats : SvcStats ncpus) (cpu : Fin ncpus) (pkt : PktMeta) (reason : UInt32) :
    SvcStats ncpus :=
  stats.count cpu pkt.serviceId fun stat => stat.addDrop pkt.frameLen reason

/-- Whether a packet of a service finds a record to add to. -/
def counts (stats : SvcStats ncpus) (id : UInt32) : Bool :=
  id != 0 && (stats.svcStatGet id).isSome

end SvcStats

/-! ## Reading -/

def SvcStat.plus (a b : SvcStat) : SvcStat where
  cleanPkts := a.cleanPkts + b.cleanPkts
  cleanBytes := a.cleanBytes + b.cleanBytes
  dropPkts := a.dropPkts + b.dropPkts
  dropBytes := a.dropBytes + b.dropBytes
  dropByReason reason := a.dropByReason reason + b.dropByReason reason

/-- `read_percpu_svc_stat`: the sum of the records of a service. -/
def readPercpuSvcStat (records : Fin ncpus → SvcStat) : SvcStat :=
  (List.finRange ncpus).foldl (fun sum cpu => sum.plus (records cpu)) .zero

structure ServiceCounters where
  dpId : UInt32
  counters : SvcStat

/-- `read_service_snapshots`: the services in the order of their ids. -/
def readServiceSnapshots (stats : SvcStats ncpus) : List ServiceCounters :=
  (stats.entries.map fun e => ⟨e.1, readPercpuSvcStat e.2⟩).insertionSort
    fun a b => a.dpId ≤ b.dpId

structure TelemetrySnapshot where
  tsNs : Nat
  activeVersion : UInt32
  services : List ServiceCounters

/-- `dpstat snapshot`, as far as the meters read it: `none` when there is no `active_config`. -/
def takeSnapshot (config : ConfigMaps) (stats : SvcStats ncpus) (tsNs : Nat) :
    Option TelemetrySnapshot :=
  config.activeConfig.map fun active => ⟨tsNs, active.version, readServiceSnapshots stats⟩

theorem mem_readServiceSnapshots (stats : SvcStats ncpus) (c : ServiceCounters) :
    c ∈ readServiceSnapshots stats ↔
      ∃ records, stats.lookup c.dpId = some records ∧ c.counters = readPercpuSvcStat records := by
  simp only [readServiceSnapshots, List.mem_insertionSort, List.mem_map]
  constructor
  · rintro ⟨⟨id, records⟩, member, rfl⟩
    exact ⟨records, AList.mem_lookup_iff.mpr member, rfl⟩
  · rintro ⟨records, found, same⟩
    obtain ⟨dpId, counters⟩ := c
    cases same
    exact ⟨⟨dpId, records⟩, AList.mem_lookup_iff.mp found, rfl⟩

theorem nodup_readServiceSnapshots (stats : SvcStats ncpus) :
    ((readServiceSnapshots stats).map ServiceCounters.dpId).Nodup := by
  have perm := (List.perm_insertionSort (fun a b : ServiceCounters => a.dpId ≤ b.dpId)
    (stats.entries.map fun e => ⟨e.1, readPercpuSvcStat e.2⟩)).map ServiceCounters.dpId
  rw [readServiceSnapshots, perm.nodup_iff, List.map_map]
  exact stats.nodupKeys

/-! ## Sums over the CPUs -/

def sumOver (cpus : List (Fin ncpus)) (f : Fin ncpus → UInt64) : UInt64 := (cpus.map f).sum

theorem foldl_cleanBytes (records : Fin ncpus → SvcStat) (cpus : List (Fin ncpus)) (sum : SvcStat) :
    (cpus.foldl (fun sum cpu => sum.plus (records cpu)) sum).cleanBytes =
      sum.cleanBytes + sumOver cpus fun cpu => (records cpu).cleanBytes := by
  induction cpus generalizing sum with
  | nil => simp [sumOver]
  | cons cpu cpus ih =>
    rw [List.foldl_cons, ih]
    simp only [sumOver, SvcStat.plus, List.map_cons, List.sum_cons, UInt64.add_assoc]

theorem readPercpuSvcStat_cleanBytes (records : Fin ncpus → SvcStat) :
    (readPercpuSvcStat records).cleanBytes =
      sumOver (List.finRange ncpus) fun cpu => (records cpu).cleanBytes := by
  rw [readPercpuSvcStat, foldl_cleanBytes]
  simp [SvcStat.zero]

/-- The clean bytes `dpstat` reports for a service; nothing is reported as zero. -/
def cleanTotal (stats : SvcStats ncpus) (id : UInt32) : UInt64 :=
  ((stats.lookup id).map fun records => (readPercpuSvcStat records).cleanBytes).getD 0

namespace SvcStats

variable {present stats : SvcStats ncpus} {id : UInt32}

theorem lookup_svcStatGet (got : stats.svcStatGet id = some present) (id' : UInt32) :
    present.lookup id' = if id' = id then some ((stats.lookup id).getD fun _ => .zero)
      else stats.lookup id' := by
  unfold svcStatGet at got
  split at got
  next found =>
    cases got
    obtain ⟨records, found⟩ := Option.isSome_iff_exists.mp found
    split
    next same => rw [same, found, Option.getD_some]
    · rfl
  next absent =>
    split at got
    · cases got
      rw [Table.lookup_insert_ite, Option.not_isSome_iff_eq_none.mp absent, Option.getD_none]
    · cases got

theorem cleanTotal_svcStatGet (got : stats.svcStatGet id = some present) (id' : UInt32) :
    cleanTotal present id' = cleanTotal stats id' := by
  unfold cleanTotal
  rw [lookup_svcStatGet got]
  split
  next same =>
    subst same
    cases stats.lookup id' with
    | some records => rfl
    | none =>
      -- a fresh record is zero on every CPU
      have zeros (cpus : List (Fin ncpus)) : sumOver cpus (fun _ => 0) = 0 := by
        induction cpus with
        | nil => rfl
        | cons cpu cpus ih => simpa only [sumOver, List.map_cons, List.sum_cons, UInt64.zero_add]
      simp only [Option.getD_none, Option.map_some, Option.getD_some, Option.map_none,
        readPercpuSvcStat_cleanBytes, SvcStat.zero, zeros]
  · rfl

theorem cleanTotal_count (stats : SvcStats ncpus) (cpu : Fin ncpus) (id : UInt32)
    {change : SvcStat → SvcStat} {bytes : UInt64}
    (adds : ∀ stat, (change stat).cleanBytes = stat.cleanBytes + bytes) (id' : UInt32) :
    cleanTotal (stats.count cpu id change) id' =
      cleanTotal stats id' + if id' = id ∧ stats.counts id = true then bytes else 0 := by
  unfold count counts
  split
  next zero => simp [zero]
  next nonzero =>
    cases got : stats.svcStatGet id with
    | none => simp
    | some present =>
      have found : present.lookup id = some ((stats.lookup id).getD fun _ => .zero) := by
        rw [lookup_svcStatGet got, if_pos rfl]
      rw [← cleanTotal_svcStatGet got]
      simp only [modify, found, Option.isSome_some, bne_iff_ne, ne_eq, nonzero,
        not_false_eq_true, Bool.and_true, and_true]
      generalize ((stats.lookup id).getD fun _ => SvcStat.zero) = records at found
      by_cases same : id' = id
      · subst same
        have updated :
            (fun cpu' => (Function.update records cpu (change (records cpu)) cpu').cleanBytes)
            = Function.update (fun cpu' => (records cpu').cleanBytes) cpu
              ((records cpu).cleanBytes + bytes) := by
          funext cpu'
          by_cases here : cpu' = cpu
          · subst here
            simp only [Function.update_self, adds]
          · simp only [Function.update_of_ne here]
        simp only [cleanTotal, AList.lookup_insert, found, Option.map_some, Option.getD_some,
          readPercpuSvcStat_cleanBytes, updated, if_true,
          sumOver, Sums.sum_map_update (List.nodup_finRange ncpus) _ cpu, List.mem_finRange]
      · simp only [cleanTotal, AList.lookup_insert_ne same, same, if_false, UInt64.add_zero]

theorem lookup_count_isSome (stats : SvcStats ncpus) (cpu : Fin ncpus) (id : UInt32)
    (change : SvcStat → SvcStat) (id' : UInt32) :
    ((stats.count cpu id change).lookup id').isSome =
      ((stats.lookup id').isSome || (decide (id' = id) && stats.counts id)) := by
  unfold count counts
  split
  next zero => simp [zero]
  next nonzero =>
    cases got : stats.svcStatGet id with
    | none => simp
    | some present =>
      have found : present.lookup id = some ((stats.lookup id).getD fun _ => .zero) := by
        rw [lookup_svcStatGet got, if_pos rfl]
      simp only [modify, found, Table.lookup_insert_ite]
      by_cases same : id' = id
      · simp [same, nonzero]
      · simp [same, lookup_svcStatGet got]

end SvcStats

/-! ## The packet program on one CPU -/

/-- The map as the packet program on one CPU sees it. -/
structure CpuView (cpu : Fin ncpus) (stats : SvcStats ncpus) (k : Kernel) : Prop where
  lookup : ∀ id, k.runtime.svcStatMap.lookup id = (stats.lookup id).map fun records => records cpu
  size : k.runtime.svcStatMap.entries.length = stats.entries.length

namespace CpuView

open Prog

variable {cpu : Fin ncpus} {stats : SvcStats ncpus} {k : Kernel}

variable (view : CpuView cpu stats k)
include view

section

variable (id : UInt32)

theorem isSome : (k.runtime.svcStatMap.lookup id).isSome = (stats.lookup id).isSome := by
  rw [view.lookup, Option.isSome_map]

theorem insert (records : Fin ncpus → SvcStat) :
    CpuView cpu (stats.insert id records)
      (k.withRuntime (k.runtime.setSvcStat id (records cpu))) where
  lookup id' := by
    show (k.runtime.svcStatMap.insert id (records cpu)).lookup id' = _
    rw [Table.lookup_insert_ite, Table.lookup_insert_ite, view.lookup]
    split <;> rfl
  size := by
    show (k.runtime.svcStatMap.insert id (records cpu)).entries.length = _
    have present : id ∈ k.runtime.svcStatMap ↔ id ∈ stats := by
      rw [← AList.lookup_isSome, ← AList.lookup_isSome, view.isSome]
    simp only [Table.length_insert, present, view.size]

theorem svcStatGet :
    Runs packetMachine False (fun found now =>
        match stats.svcStatGet id with
        | some present => found = true ∧ CpuView cpu present now
        | none => found = false ∧ CpuView cpu stats now)
      (DataPlane.svcStatGet id) k := by
  have here := view.isSome id
  have asked {q : PacketCall} {f : q.Answer → PacketProg Bool} {Post : Bool → Kernel → Prop}
      {k : Kernel} : Runs packetMachine False Post (ask q >>= f) k ↔
        Runs packetMachine False Post (f (q.exec k).1) (q.exec k).2 := Iff.rfl
  unfold DataPlane.svcStatGet SvcStats.svcStatGet
  by_cases found : (stats.lookup id).isSome = true
  · simp [asked, PacketCall.exec, here, found, Runs, pure, view]
  · have missing := Option.not_isSome_iff_eq_none.mp (here ▸ found)
    by_cases room : stats.entries.length < svcStatMaxEntries
    · -- the new record is found by the second lookup
      have stored : ((k.runtime.svcStatMap.insert id SvcStat.zero).lookup id).isSome = true := by simp
      simp only [asked, PacketCall.exec, found, missing, view.size, room, Option.isSome_none,
        Option.isNone_none, and_self, if_true, Bool.false_eq_true, if_false]
      exact ⟨stored, view.insert id fun _ => .zero⟩
    · simp [asked, PacketCall.exec, found, missing, view.size, room, Runs, pure, view]

theorem modify (change : SvcStat → SvcStat) :
    CpuView cpu (stats.modify cpu id change)
      (k.withRuntime (k.runtime.modifySvcStat id change)) := by
  unfold SvcStats.modify Runtime.modifySvcStat
  rw [view.lookup]
  cases stats.lookup id with
  | none => exact view
  | some records =>
    have written := view.insert id (Function.update records cpu (change (records cpu)))
    rwa [Function.update_self] at written

/-- A packet that adds to the record of its service on one CPU counts as it does across them. -/
theorem count {change : SvcStat → SvcStat} (add : PacketProg Unit)
    (adds : ∀ k, Runs packetMachine False
      (fun _ now => now = k.withRuntime (k.runtime.modifySvcStat id change)) add k) :
    Runs packetMachine False (fun _ now => CpuView cpu (stats.count cpu id change) now)
      (if id = 0 then .ret () else DataPlane.svcStatGet id >>= fun found =>
        if found = true then add else .ret ()) k := by
  unfold SvcStats.count
  split
  · exact view
  · refine (view.svcStatGet id).seq ?_
    intro found now got
    cases present : stats.svcStatGet id with
    | none =>
      rw [present] at got
      rw [if_neg (by rw [got.1]; exact Bool.false_ne_true)]
      exact got.2
    | some present' =>
      rw [present] at got
      rw [if_pos got.1]
      refine (adds now).mono ?_
      rintro _ _ rfl
      exact got.2.modify id change

end

theorem svcStatClean (pkt : PktMeta) :
    Runs packetMachine False (fun _ now => CpuView cpu (stats.svcStatClean cpu pkt) now)
      (DataPlane.svcStatClean pkt) k :=
  view.count pkt.serviceId (ask (.svcStatAddClean pkt.serviceId pkt.frameLen)) fun _ => rfl

theorem svcStatDrop (pkt : PktMeta) (reason : UInt32) :
    Runs packetMachine False (fun _ now => CpuView cpu (stats.svcStatDrop cpu pkt reason) now)
      (DataPlane.svcStatDrop pkt reason) k :=
  view.count pkt.serviceId (ask (.svcStatAddDrop pkt.serviceId pkt.frameLen reason)) fun _ => rfl

end CpuView

end ScrubbingGateway.DataPlane
