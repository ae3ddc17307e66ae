import ScrubbingGateway.Apply.Atomicity
import ScrubbingGateway.Control.BillingMeter
import ScrubbingGateway.Lib.Transition

/-!
# Billed and counted bytes

The data plane, the applies and the billing meter side by side, over one load of the program. Every
byte the data plane counts falls into at most one window, as long as the active version stays; a
tick that finds another version attributes what the previous reading had counted once more.
-/

namespace ScrubbingGateway.Control

open DataPlane Apply

/-- The state of the machine, followed by its history: the bytes counted so far, at the reading that
is not stored yet, at the previous reading and at the first one, and the bytes of previous readings
that were attributed again. -/
structure Metering (ncpus : Nat) where
  config : ConfigMaps
  stats : SvcStats ncpus
  meter : BillingMeter
  samples : Samples
  taken : Option TelemetrySnapshot
  counted : UInt32 → Nat
  countedTaken : UInt32 → Nat
  countedPrevious : UInt32 → Nat
  baseline : Option (UInt32 → Nat)
  reattributed : ServiceId → Nat

inductive MeteringEvent (ncpus : Nat) where
  | forwarded (cpu : Fin ncpus) (pkt : PktMeta)
  | dropped (cpu : Fin ncpus) (pkt : PktMeta) (reason : UInt32)
  /-- A run of the helper, which may fail or stop anywhere. -/
  | applied (run : ApplyRun)
  /-- A tick has read a snapshot. -/
  | read (tsNs : Nat)
  /-- The transaction of the tick, with the services it finds. -/
  | stored (services : List ServiceId) (sampleTs : Nat) (works : Bool)

namespace Metering

variable {ncpus : Nat} (dpIdOf : ServiceId → UInt32)

/-- A freshly loaded program and a freshly started meter. -/
def initial (config : ConfigMaps) : Metering ncpus where
  config := config
  stats := ∅
  meter := .fresh
  samples := ∅
  taken := none
  counted _ := 0
  countedTaken _ := 0
  countedPrevious _ := 0
  baseline := none
  reattributed _ := 0

/-- What a tick at another active version attributes to a service although the previous reading
had it. -/
def again (meter : BillingMeter) (snapshot : TelemetrySnapshot) (services : List ServiceId)
    (serviceId : ServiceId) : Nat :=
  if (elapsed meter snapshot).isSome && meter.versionReset snapshot &&
      observed dpIdOf services snapshot serviceId then
    (meter.previous.lookup (dpIdOf serviceId)).getD 0
  else 0

def store (s : Metering ncpus) (snapshot : TelemetrySnapshot) (services : List ServiceId)
    (sampleTs : Nat) : Metering ncpus :=
  let after := sampleOnce dpIdOf s.meter snapshot sampleTs s.samples services
  let advances := s.meter.previousTsNs.isNone || (elapsed s.meter snapshot).isSome
  { s with
    meter := after.1
    samples := after.2
    taken := none
    countedPrevious := if advances then s.countedTaken else s.countedPrevious
    baseline := if s.meter.previousTsNs.isNone then some s.countedTaken else s.baseline
    reattributed := fun id => s.reattributed id + again dpIdOf s.meter snapshot services id }

def step (s : Metering ncpus) : MeteringEvent ncpus → Option (Metering ncpus)
  | .forwarded cpu pkt => some { s with
      stats := s.stats.svcStatClean cpu pkt
      counted := fun id => s.counted id +
        if id = pkt.serviceId ∧ s.stats.counts pkt.serviceId = true then pkt.frameLen.toNat else 0 }
  | .dropped cpu pkt reason => some { s with stats := s.stats.svcStatDrop cpu pkt reason }
  | .applied run => some { s with config := run.after s.config }
  | .read tsNs =>
    if s.taken.isSome then none
    else (takeSnapshot s.config s.stats tsNs).map fun snapshot =>
      { s with taken := some snapshot, countedTaken := s.counted }
  | .stored services sampleTs works =>
    s.taken.map fun snapshot =>
      if works then s.store dpIdOf snapshot services sampleTs else { s with taken := none }

/-- The clean bytes counted for a service since the first reading. -/
def sinceBaseline (s : Metering ncpus) (dpId : UInt32) : Nat :=
  match s.baseline with
  | none => 0
  | some base => s.counted dpId - base dpId

end Metering

/-! ## Readings and counts -/

/-- The services of a snapshot report some counts, up to the wrap-around. -/
structure Reading (services : List ServiceCounters) (counts : UInt32 → Nat) : Prop where
  exact : ∀ c ∈ services, c.counters.cleanBytes = UInt64.ofNat (counts c.dpId)
  complete : ∀ id, counts id ≠ 0 → ∃ c ∈ services, c.dpId = id
  distinct : (services.map ServiceCounters.dpId).Nodup

/-- What the meter remembers are some counts. -/
structure Remembers (previous : Table UInt32 Nat) (counts : UInt32 → Nat) : Prop where
  exact : ∀ id bytes, previous.lookup id = some bytes → bytes = counts id % 2 ^ 64
  complete : ∀ id, previous.lookup id = none → counts id = 0

theorem Reading.remembers {snapshot : TelemetrySnapshot} {counts : UInt32 → Nat}
    (reading : Reading snapshot.services counts) :
    Remembers (BillingMeter.setPrevious snapshot).previous counts where
  exact id bytes found := by
    obtain ⟨c, reported, same⟩ := List.mem_map.mp (Table.mem_of_lookup_ofPairs found)
    cases same
    rw [reading.exact c reported, UInt64.toNat_ofNat']
  complete id absent := by
    by_contra counted
    obtain ⟨c, reported, rfl⟩ := reading.complete id counted
    exact Table.lookup_ofPairs_eq_none.mp absent _ (List.mem_map_of_mem reported)

/-- A window holds at most what was counted since the previous reading, and what that reading had
when the version has changed. -/
theorem windowBytes_le {previous : Table UInt32 Nat} {before now : UInt32 → Nat}
    (remembers : Remembers previous before) {id : UInt32} (later : before id ≤ now id)
    (versionReset : Bool) :
    windowBytes versionReset (previous.lookup id) (now id % 2 ^ 64) + before id ≤
      now id + if versionReset then (previous.lookup id).getD 0 else 0 := by
  cases found : previous.lookup id with
  | none =>
    have zero := remembers.complete id found
    cases versionReset <;> simp [windowBytes, isReset, zero]
    omega
  | some bytes =>
    have same := remembers.exact id bytes found
    cases versionReset with
    | true =>
      simp only [windowBytes, isReset, Bool.true_or, if_true, Option.getD_some]
      omega
    | false =>
      simp only [windowBytes, isReset, Bool.false_or, Option.any_some, decide_eq_true_eq]
      -- a counter that fell has wrapped around, so at least what it shows was added
      split <;> simp <;> omega

/-! ## The invariant -/

/-- The map shows what was counted, the readings show what was counted when they were taken, and no
service has been billed more than the previous reading accounts for. -/
structure MeteringInv {ncpus : Nat} (dpIdOf : ServiceId → UInt32) (s : Metering ncpus) : Prop where
  total : ∀ id, cleanTotal s.stats id = UInt64.ofNat (s.counted id)
  absent : ∀ id, s.stats.lookup id = none → s.counted id = 0
  taken : ∀ snapshot, s.taken = some snapshot → Reading snapshot.services s.countedTaken
  takenLater : ∀ id, s.taken.isSome = true → s.countedPrevious id ≤ s.countedTaken id ∧
    s.countedTaken id ≤ s.counted id
  previousLater : ∀ id, s.countedPrevious id ≤ s.counted id
  remembers : s.meter.previousTsNs.isSome = true → Remembers s.meter.previous s.countedPrevious
  started : s.meter.previousTsNs.isSome = s.baseline.isSome
  billed : ∀ base, s.baseline = some base → ∀ serviceId,
    billedBytes s.samples serviceId + base (dpIdOf serviceId) ≤
      s.countedPrevious (dpIdOf serviceId) + s.reattributed serviceId
  unbilled : s.baseline = none → ∀ serviceId, billedBytes s.samples serviceId = 0

namespace MeteringInv

variable {ncpus : Nat} {dpIdOf : ServiceId → UInt32} {s : Metering ncpus}

theorem initial (config : ConfigMaps) :
    MeteringInv dpIdOf (Metering.initial config : Metering ncpus) where
  total _ := rfl
  absent _ _ := rfl
  taken _ found := by cases found
  takenLater _ found := by cases found
  previousLater _ := Nat.le_refl _
  remembers found := by cases found
  started := rfl
  billed _ found := by cases found
  unbilled _ _ := rfl

theorem reading (inv : MeteringInv dpIdOf s) :
    Reading (readServiceSnapshots s.stats) s.counted where
  exact c reported := by
    obtain ⟨records, found, same⟩ := (mem_readServiceSnapshots _ _).mp reported
    have total := inv.total c.dpId
    rw [cleanTotal, found] at total
    rw [same]
    exact total
  complete id counted := by
    cases found : s.stats.lookup id with
    | none => exact absurd (inv.absent id found) counted
    | some records =>
      exact ⟨⟨id, readPercpuSvcStat records⟩,
        (mem_readServiceSnapshots _ _).mpr ⟨records, found, rfl⟩, rfl⟩
  distinct := nodup_readServiceSnapshots _

theorem count (inv : MeteringInv dpIdOf s) (cpu : Fin ncpus) (id : UInt32)
    (change : SvcStat → SvcStat) (bytes : UInt16)
    (adds : ∀ stat, (change stat).cleanBytes = stat.cleanBytes + bytes.toUInt64) :
    MeteringInv dpIdOf { s with
      stats := s.stats.count cpu id change
      counted := fun id' => s.counted id' +
        if id' = id ∧ s.stats.counts id = true then bytes.toNat else 0 } where
  __ := inv
  total id' := by
    rw [SvcStats.cleanTotal_count s.stats cpu id adds, inv.total, UInt64.ofNat_add]
    split
    · congr 1
      rw [← UInt64.toNat_inj, UInt16.toNat_toUInt64, UInt64.toNat_ofNat']
      have := bytes.toNat_lt
      omega
    · rfl
  absent id' none := by
    have isSome := SvcStats.lookup_count_isSome s.stats cpu id change id'
    rw [none, Option.isSome_none] at isSome
    simp only [Bool.false_eq, Bool.or_eq_false_iff, Bool.and_eq_false_iff, decide_eq_false_iff_not]
      at isSome
    have before := inv.absent id' (Option.isNone_iff_eq_none.mp
      (Option.isSome_eq_false_iff.mp isSome.1))
    show s.counted id' + (if id' = id ∧ s.stats.counts id = true then bytes.toNat else 0) = 0
    rw [before, if_neg]
    rintro ⟨same, counts⟩
    rcases isSome.2 with other | refused
    · exact other same
    · rw [counts] at refused
      cases refused
  takenLater id' found := by
    obtain ⟨later, below⟩ := inv.takenLater id' found
    exact ⟨later, below.trans (Nat.le_add_right _ _)⟩
  previousLater id' := (inv.previousLater id').trans (Nat.le_add_right _ _)

variable {snapshot : TelemetrySnapshot}

variable (inv : MeteringInv dpIdOf s)
include inv

theorem read {tsNs : Nat} (made : takeSnapshot s.config s.stats tsNs = some snapshot) :
    MeteringInv dpIdOf { s with taken := some snapshot, countedTaken := s.counted } where
  __ := inv
  taken snapshot' found := by
    cases found
    obtain ⟨active, _, rfl⟩ := Option.map_eq_some_iff.mp made
    exact inv.reading
  takenLater id _ := ⟨inv.previousLater id, Nat.le_refl _⟩

theorem discard : MeteringInv dpIdOf { s with taken := none } where
  __ := inv
  taken _ found := by cases found
  takenLater _ found := by cases found

theorem billed_tick (taken : s.taken = some snapshot)
    (running : s.meter.previousTsNs.isSome = true) {elapsedSeconds : Nat}
    (ticked : elapsed s.meter snapshot = some elapsedSeconds) (services : List ServiceId)
    (sampleTs : Nat) (serviceId : ServiceId) :
    bytesFor serviceId (observedSamples s.meter (serviceCache dpIdOf services) snapshot sampleTs
        elapsedSeconds) + s.countedPrevious (dpIdOf serviceId) ≤
      s.countedTaken (dpIdOf serviceId) +
        Metering.again dpIdOf s.meter snapshot services serviceId := by
  have reading := inv.taken snapshot taken
  have later := (inv.takenLater (dpIdOf serviceId) (by rw [taken]; rfl)).1
  rcases bytesFor_observed reading.distinct with nothing | ⟨c, reported, own, reports, bound⟩
  · rw [nothing]
    omega
  · have window := windowBytes_le (inv.remembers running) later (s.meter.versionReset snapshot)
    have shown := reading.exact c reported
    rw [own] at shown bound
    rw [shown, UInt64.toNat_ofNat'] at bound
    rw [Metering.again, ticked, reports, Option.isSome_some, Bool.true_and, Bool.and_true]
    omega

theorem store (taken : s.taken = some snapshot) (services : List ServiceId) (sampleTs : Nat) :
    MeteringInv dpIdOf (s.store dpIdOf snapshot services sampleTs) := by
  have reading := inv.taken snapshot taken
  have later (id : UInt32) := inv.takenLater id (by rw [taken]; rfl)
  unfold Metering.store sampleOnce
  cases running : s.meter.previousTsNs with
  | none =>
    -- the first reading is the baseline
    have started := inv.started
    rw [running, Option.isSome_none] at started
    have unbilled := inv.unbilled (Option.isNone_iff_eq_none.mp
      (Option.isSome_eq_false_iff.mp started.symm))
    have nothing (id : ServiceId) : Metering.again dpIdOf s.meter snapshot services id = 0 := by
      simp [Metering.again, elapsed, running]
    simp only [Option.isNone_none, Bool.true_or, if_true]
    exact {
      total := inv.total
      absent := inv.absent
      taken := nofun
      takenLater := nofun
      previousLater := fun id => (later id).2
      remembers := fun _ => reading.remembers
      started := rfl
      billed := by
        rintro base ⟨⟩ serviceId
        dsimp only
        rw [unbilled, nothing]
        omega
      unbilled := nofun }
  | some previousTsNs =>
    have isRunning : s.meter.previousTsNs.isSome = true := by rw [running]; rfl
    cases ticked : elapsed s.meter snapshot with
    | none =>
      -- less than a second has passed, and the reading is forgotten
      have nothing (id : ServiceId) : Metering.again dpIdOf s.meter snapshot services id = 0 := by
        simp [Metering.again, ticked]
      simp only [Option.isNone_some, Option.isSome_none, Bool.or_self, Bool.false_eq_true, if_false,
        nothing, Nat.add_zero]
      exact inv.discard
    | some elapsedSeconds =>
      simp only [Option.isNone_some, Option.isSome_some, Bool.false_or, if_true,
        Bool.false_eq_true, if_false]
      exact {
        total := inv.total
        absent := inv.absent
        taken := nofun
        takenLater := nofun
        previousLater := fun id => (later id).2
        remembers := fun _ => reading.remembers
        started := by rw [← inv.started, isRunning]; rfl
        billed := by
          intro base found serviceId
          have before := inv.billed base found serviceId
          have tick := inv.billed_tick taken isRunning ticked services sampleTs serviceId
          have added := billedBytes_foldl (observedSamples s.meter (serviceCache dpIdOf services)
            snapshot sampleTs elapsedSeconds ++ missingSamples (serviceCache dpIdOf services)
            snapshot sampleTs elapsedSeconds) s.samples serviceId
          rw [bytesFor_append, bytesFor_missing, Nat.add_zero] at added
          dsimp only
          omega
        unbilled := by
          intro none
          have started := inv.started
          rw [isRunning, none] at started
          cases started }

theorem step {event : MeteringEvent ncpus} {next : Metering ncpus}
    (stepped : s.step dpIdOf event = some next) : MeteringInv dpIdOf next := by
  cases event with
  | forwarded cpu pkt =>
    cases stepped
    exact inv.count cpu pkt.serviceId _ pkt.frameLen fun _ => rfl
  | dropped cpu pkt reason =>
    cases stepped
    have counted := inv.count cpu pkt.serviceId (fun stat => stat.addDrop pkt.frameLen reason) 0
      fun stat => by simp [SvcStat.addDrop]
    simpa [SvcStats.svcStatDrop] using counted
  | applied run =>
    cases stepped
    exact { inv with }
  | read tsNs =>
    obtain ⟨_, stepped⟩ := Option.ite_none_left_eq_some.mp stepped
    obtain ⟨snapshot, made, rfl⟩ := Option.map_eq_some_iff.mp stepped
    exact inv.read made
  | stored services sampleTs works =>
    obtain ⟨snapshot, taken, rfl⟩ := Option.map_eq_some_iff.mp stepped
    cases works with
    | true => exact inv.store taken services sampleTs
    | false => exact inv.discard

end MeteringInv

/-- In every run of the data plane, the applies and the meter a service is billed at most the clean
bytes counted since the first reading, and once more those of the previous reading for every sample
taken at another active version. -/
theorem billedBytes_le_counted {ncpus : Nat} (dpIdOf : ServiceId → UInt32) (config : ConfigMaps)
    (events : List (MeteringEvent ncpus)) (final : Metering ncpus)
    (ran : Transition.run (Metering.step dpIdOf) (Metering.initial config) events = some final)
    (serviceId : ServiceId) :
    billedBytes final.samples serviceId ≤
      final.sinceBaseline (dpIdOf serviceId) + final.reattributed serviceId := by
  have inv : MeteringInv dpIdOf final :=
    Transition.run_invariant (fun _ _ _ inv stepped => inv.step stepped)
      (MeteringInv.initial config) ran
  unfold Metering.sinceBaseline
  cases first : final.baseline with
  | none =>
    rw [inv.unbilled first]
    exact Nat.zero_le _
  | some base =>
    have billed := inv.billed base first serviceId
    have later := inv.previousLater (dpIdOf serviceId)
    dsimp only
    omega

/-- A forwarded packet of a service. -/
def cleanPacket (frameLen : UInt16) : PktMeta :=
  { PktMeta.init [] with serviceId := 7, frameLen }

/-- A service with 1000 bytes at the first reading and 100 more at the second, and one apply in
between. -/
def oneApplyRun : List (MeteringEvent 1) :=
  [.forwarded 0 (cleanPacket 1000), .read 1000000000, .stored [5] 1 true,
    .forwarded 0 (cleanPacket 100), .applied denyOneRun, .read 6000000000, .stored [5] 2 true]

/-- What a run leaves: the billed bytes of service 5, those counted since the first reading, and
those attributed again. -/
def billOf (events : List (MeteringEvent 1)) : Option (Nat × Nat × Nat) :=
  (Transition.run (Metering.step fun _ => 7) (Metering.initial loadedMaps) events).map fun s =>
    (billedBytes s.samples 5, s.sinceBaseline 7, s.reattributed 5)

theorem oneApplyRun_billed :
    ∃ final, Transition.run (Metering.step fun _ => 7) (Metering.initial loadedMaps) oneApplyRun =
        some final ∧
      billedBytes final.samples 5 ≤ final.sinceBaseline 7 + final.reattributed 5 := by
  have bill : billOf oneApplyRun = some (1100, 100, 1000) := by decide +kernel
  obtain ⟨final, ran, _⟩ := Option.map_eq_some_iff.mp bill
  exact ⟨final, ran, billedBytes_le_counted (fun _ => 7) loadedMaps oneApplyRun final ran 5⟩

/-- One apply between two ticks, and a service that has sent 100 bytes is billed 1100. -/
theorem oneApplyRun_overcounts :
    ∃ final, Transition.run (Metering.step fun _ => 7) (Metering.initial loadedMaps) oneApplyRun =
        some final ∧
      billedBytes final.samples 5 = 1100 ∧ final.sinceBaseline 7 = 100 ∧
      ¬ billedBytes final.samples 5 ≤ final.sinceBaseline 7 := by
  have bill : billOf oneApplyRun = some (1100, 100, 1000) := by decide +kernel
  obtain ⟨final, ran, same⟩ := Option.map_eq_some_iff.mp bill
  obtain ⟨billed, counted⟩ := Prod.mk.inj same
  have since := (Prod.mk.inj counted).1
  refine ⟨final, ran, billed, since, ?_⟩
  rw [billed, since]
  decide

end ScrubbingGateway.Control
