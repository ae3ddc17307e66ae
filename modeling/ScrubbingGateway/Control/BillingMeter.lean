import ScrubbingGateway.Control.Records
import ScrubbingGateway.DataPlane.SvcStats

/-!
# The billing meter

`BillingMeter.sample_once` of `worker/billing.py`: the cumulative counters of a snapshot become one
sample per service and window. Python integers are natural numbers here; the elapsed time may be
negative.
-/

namespace ScrubbingGateway.Control

open DataPlane

def nanosecondsPerSecond : Int := 1000000000

/-- What the meter remembers between two ticks. -/
structure BillingMeter where
  previous : Table UInt32 Nat
  previousTsNs : Option Nat
  previousVersion : Option UInt32

namespace BillingMeter

/-- A meter that has just been started. -/
def fresh : BillingMeter := ⟨∅, none, none⟩

def setPrevious (snapshot : TelemetrySnapshot) : BillingMeter where
  previous := .ofPairs (snapshot.services.map fun c => (c.dpId, c.counters.cleanBytes.toNat))
  previousTsNs := some snapshot.tsNs
  previousVersion := some snapshot.activeVersion

def versionReset (meter : BillingMeter) (snapshot : TelemetrySnapshot) : Bool :=
  some snapshot.activeVersion != meter.previousVersion

end BillingMeter

structure BillingSample where
  serviceId : ServiceId
  dpId : UInt32
  sampleTs : Nat
  cleanBps : Nat
  windowSeconds : Nat
  isReset : Bool
deriving DecidableEq, Repr

/-- The table of samples, with its unique key. -/
abbrev Samples : Type := Table (ServiceId × Nat) BillingSample

/-- An insert that does nothing on a conflict. -/
def upsertSample (samples : Samples) (sample : BillingSample) : Samples :=
  if (sample.serviceId, sample.sampleTs) ∈ samples then samples
  else samples.insert (sample.serviceId, sample.sampleTs) sample

def isReset (versionReset : Bool) (previousBytes : Option Nat) (cleanBytes : Nat) : Bool :=
  versionReset || previousBytes.any fun previous => cleanBytes < previous

def windowBytes (versionReset : Bool) (previousBytes : Option Nat) (cleanBytes : Nat) : Nat :=
  if isReset versionReset previousBytes cleanBytes then cleanBytes
  else match previousBytes with
    | none => 0
    | some previous => cleanBytes - previous

section Sampling

-- the id of a service in the data plane, a column that never changes
variable (dpIdOf : ServiceId → UInt32)

/-- `_refresh_service_cache` from the services that exist. -/
def serviceCache (services : List ServiceId) : Table UInt32 ServiceId :=
  .ofPairs (services.map fun id => (dpIdOf id, id))

variable (meter : BillingMeter) (cache : Table UInt32 ServiceId) (snapshot : TelemetrySnapshot)
  (sampleTs : Nat) (elapsedSeconds : Nat)

/-- The sample of a service that the snapshot reports. -/
def observedSample (counters : ServiceCounters) (serviceId : ServiceId) : BillingSample :=
  let cleanBytes := counters.counters.cleanBytes.toNat
  let previousBytes := meter.previous.lookup counters.dpId
  { serviceId, dpId := counters.dpId, sampleTs
    cleanBps :=
      windowBytes (meter.versionReset snapshot) previousBytes cleanBytes / elapsedSeconds
    windowSeconds := elapsedSeconds
    isReset := isReset (meter.versionReset snapshot) previousBytes cleanBytes }

def observedSamples : List BillingSample :=
  snapshot.services.filterMap fun counters =>
    (cache.lookup counters.dpId).map
      (observedSample meter snapshot sampleTs elapsedSeconds counters)

/-- The zero samples of the services that the snapshot does not report. -/
def missingSamples : List BillingSample :=
  (cache.entries.filter fun e => !(snapshot.services.any fun c => c.dpId == e.1)).map fun e =>
    { serviceId := e.2, dpId := e.1, sampleTs, cleanBps := 0, windowSeconds := elapsedSeconds,
      isReset := false }

/-- The whole seconds since the last tick, when there was one and at least one has passed. -/
def elapsed : Option Nat :=
  meter.previousTsNs.bind fun previousTsNs =>
    let seconds := ((snapshot.tsNs : Int) - previousTsNs) / nanosecondsPerSecond
    if seconds ≤ 0 then none else some seconds.toNat

/-- `sample_once` with a snapshot, when the database works. -/
def sampleOnce (samples : Samples) (services : List ServiceId) : BillingMeter × Samples :=
  match meter.previousTsNs with
  | none => (.setPrevious snapshot, samples)
  | some _ =>
    match elapsed meter snapshot with
    | none => (meter, samples)
    | some elapsedSeconds =>
      let cache := serviceCache dpIdOf services
      (.setPrevious snapshot,
        (observedSamples meter cache snapshot sampleTs elapsedSeconds ++
          missingSamples cache snapshot sampleTs elapsedSeconds).foldl upsertSample samples)

end Sampling

/-! ## Billed bytes -/

def BillingSample.bytes (sample : BillingSample) : Nat := sample.cleanBps * sample.windowSeconds

def billedBytes (samples : Samples) (serviceId : ServiceId) : Nat :=
  ((samples.entries.filter fun e => e.1.1 = serviceId).map fun e => e.2.bytes).sum

def bytesFor (serviceId : ServiceId) (list : List BillingSample) : Nat :=
  ((list.filter fun sample => sample.serviceId = serviceId).map BillingSample.bytes).sum

theorem billedBytes_upsert (samples : Samples) (sample : BillingSample) (serviceId : ServiceId) :
    billedBytes (upsertSample samples sample) serviceId ≤
      billedBytes samples serviceId + bytesFor serviceId [sample] := by
  unfold upsertSample
  split
  · exact Nat.le_add_right _ _
  next absent =>
    rw [billedBytes, AList.entries_insert_of_notMem absent, List.filter_cons]
    by_cases own : sample.serviceId = serviceId
    · simp [own, billedBytes, bytesFor, Nat.add_comm]
    · simp [own, billedBytes]

theorem billedBytes_foldl (list : List BillingSample) (samples : Samples) (serviceId : ServiceId) :
    billedBytes (list.foldl upsertSample samples) serviceId ≤
      billedBytes samples serviceId + bytesFor serviceId list := by
  induction list generalizing samples with
  | nil => exact Nat.le_add_right _ _
  | cons sample list ih =>
    have first := billedBytes_upsert samples sample serviceId
    have rest := ih (upsertSample samples sample)
    have split : bytesFor serviceId (sample :: list) =
        bytesFor serviceId [sample] + bytesFor serviceId list := by
      rw [bytesFor, List.filter_cons]
      by_cases own : sample.serviceId = serviceId <;> simp [own, bytesFor]
    rw [List.foldl_cons, split]
    omega

theorem bytesFor_eq_zero {serviceId : ServiceId} {list : List BillingSample}
    (nothing : ∀ sample ∈ list, sample.serviceId = serviceId → sample.bytes = 0) :
    bytesFor serviceId list = 0 := by
  rw [bytesFor, List.sum_eq_zero_iff_forall_eq_nat]
  intro bytes member
  obtain ⟨sample, kept, rfl⟩ := List.mem_map.mp member
  obtain ⟨inList, own⟩ := List.mem_filter.mp kept
  exact nothing sample inList (of_decide_eq_true own)

theorem bytesFor_append (serviceId : ServiceId) (list more : List BillingSample) :
    bytesFor serviceId (list ++ more) = bytesFor serviceId list + bytesFor serviceId more := by
  simp only [bytesFor, List.filter_append, List.map_append, List.sum_append]

theorem serviceCache_dpId {dpIdOf : ServiceId → UInt32} {services : List ServiceId} {dpId : UInt32}
    {serviceId : ServiceId} (found : (serviceCache dpIdOf services).lookup dpId = some serviceId) :
    dpIdOf serviceId = dpId := by
  obtain ⟨id, _, same⟩ := List.mem_map.mp (Table.mem_of_lookup_ofPairs found)
  cases same
  rfl

section Windows

variable {dpIdOf : ServiceId → UInt32} {meter : BillingMeter} {snapshot : TelemetrySnapshot}
  {sampleTs elapsedSeconds : Nat} {services : List ServiceId} {serviceId : ServiceId}

/-- The service has a sample in a tick because the snapshot reports it. -/
def observed (dpIdOf : ServiceId → UInt32) (services : List ServiceId)
    (snapshot : TelemetrySnapshot) (serviceId : ServiceId) : Bool :=
  snapshot.services.any fun c => (serviceCache dpIdOf services).lookup c.dpId = some serviceId

theorem observed_iff : observed dpIdOf services snapshot serviceId = true ↔
    ∃ c ∈ snapshot.services, (serviceCache dpIdOf services).lookup c.dpId = some serviceId := by
  simp only [observed, List.any_eq_true, decide_eq_true_eq]

/-- The samples of one tick give a service the bytes of at most one window, that of its own id. -/
theorem bytesFor_observed (distinct : (snapshot.services.map ServiceCounters.dpId).Nodup) :
    bytesFor serviceId (observedSamples meter (serviceCache dpIdOf services) snapshot sampleTs
        elapsedSeconds) = 0 ∨
      ∃ c ∈ snapshot.services, c.dpId = dpIdOf serviceId ∧
        observed dpIdOf services snapshot serviceId = true ∧
        bytesFor serviceId (observedSamples meter (serviceCache dpIdOf services) snapshot sampleTs
          elapsedSeconds) ≤
          windowBytes (meter.versionReset snapshot) (meter.previous.lookup c.dpId)
            c.counters.cleanBytes.toNat := by
  have none (list : List ServiceCounters)
      (others : ∀ c ∈ list, (serviceCache dpIdOf services).lookup c.dpId ≠ some serviceId) :
      bytesFor serviceId (list.filterMap fun c =>
        ((serviceCache dpIdOf services).lookup c.dpId).map
          (observedSample meter snapshot sampleTs elapsedSeconds c)) = 0 := by
    refine bytesFor_eq_zero fun sample member same => ?_
    obtain ⟨c, inList, made⟩ := List.mem_filterMap.mp member
    obtain ⟨serviceId', found, rfl⟩ := Option.map_eq_some_iff.mp made
    have sameService : serviceId' = serviceId := same
    exact (others c inList (sameService ▸ found)).elim
  by_cases reports : observed dpIdOf services snapshot serviceId = true
  · right
    obtain ⟨c, reported, cached⟩ := observed_iff.mp reports
    have own := serviceCache_dpId cached
    refine ⟨c, reported, own.symm, reports, ?_⟩
    obtain ⟨before, after, whole⟩ := List.append_of_mem reported
    -- every other record of the snapshot belongs to another service
    rw [whole, List.map_append, List.map_cons, List.nodup_append, List.nodup_cons] at distinct
    obtain ⟨_, ⟨notAfter, _⟩, disjoint⟩ := distinct
    have noneBefore := none before fun c' inList found => disjoint _ (List.mem_map_of_mem inList) _
      List.mem_cons_self ((serviceCache_dpId found).symm.trans own)
    have noneAfter := none after fun c' inList found =>
      notAfter ((serviceCache_dpId found).symm.trans own ▸ List.mem_map_of_mem inList)
    rw [observedSamples, whole, List.filterMap_append, bytesFor_append, noneBefore,
      List.filterMap_cons, cached]
    dsimp only [Option.map_some]
    rw [← List.singleton_append, bytesFor_append, noneAfter, Nat.zero_add, Nat.add_zero]
    simpa [bytesFor, observedSample, BillingSample.bytes] using Nat.div_mul_le_self _ _
  · left
    exact none _ fun c inList found => reports (observed_iff.mpr ⟨c, inList, found⟩)

theorem bytesFor_missing (cache : Table UInt32 ServiceId) :
    bytesFor serviceId (missingSamples cache snapshot sampleTs elapsedSeconds) = 0 := by
  refine bytesFor_eq_zero fun sample member _ => ?_
  obtain ⟨e, _, rfl⟩ := List.mem_map.mp member
  exact Nat.zero_mul _

end Windows

end ScrubbingGateway.Control
