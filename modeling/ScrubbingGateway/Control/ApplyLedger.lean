import ScrubbingGateway.Control.ApplyState
import ScrubbingGateway.Lib.Raise

/-!
# The apply ledger

The transactions of `app/services/apply.py` and of `bump_version` over the service and job
tables. A raised exception rolls its transaction back, so each function returns the new ledger or
the exception; identifiers that `uuid4` draws and the creation time are arguments.
-/

namespace ScrubbingGateway.Control

open Raise

structure Ledger where
  services : Table ServiceId ProtectedService
  jobs : Table JobId AgentJob

namespace Ledger

def setService (l : Ledger) (serviceId : ServiceId) (service : ProtectedService) : Ledger :=
  { l with services := l.services.insert serviceId service }

def setJob (l : Ledger) (jobId : JobId) (job : AgentJob) : Ledger :=
  { l with jobs := l.jobs.insert jobId job }

@[simp] theorem setService_jobs (l : Ledger) (serviceId : ServiceId)
    (service : ProtectedService) : (l.setService serviceId service).jobs = l.jobs := rfl

@[simp] theorem setService_lookup (l : Ledger) (serviceId other : ServiceId)
    (service : ProtectedService) : (l.setService serviceId service).services.lookup other =
      if other = serviceId then some service else l.services.lookup other :=
  Table.lookup_insert_ite _ _ _ _

@[simp] theorem setJob_services (l : Ledger) (jobId : JobId) (job : AgentJob) :
    (l.setJob jobId job).services = l.services := rfl

@[simp] theorem setJob_lookup (l : Ledger) (jobId other : JobId) (job : AgentJob) :
    (l.setJob jobId job).jobs.lookup other =
      if other = jobId then some job else l.jobs.lookup other :=
  Table.lookup_insert_ite _ _ _ _

def loadJobForUpdate (l : Ledger) (jobId : JobId) : Except Raised AgentJob :=
  match l.jobs.lookup jobId with
  | some job => .ok job
  | none => .error (.httpException 404 "Apply job not found")

def loadServiceForUpdate (l : Ledger) (serviceId : ServiceId) : Except Raised ProtectedService :=
  match l.services.lookup serviceId with
  | some service => .ok service
  | none => .error (.httpException 404 "Service not found")

variable {l : Ledger} {jobId : JobId} {serviceId : ServiceId} {service : ProtectedService}
  {job : AgentJob}

theorem loadJobForUpdate_ok :
    l.loadJobForUpdate jobId = .ok job ↔ l.jobs.lookup jobId = some job := by
  unfold loadJobForUpdate
  cases l.jobs.lookup jobId <;> simp

theorem loadServiceForUpdate_ok : l.loadServiceForUpdate serviceId = .ok service ↔
      l.services.lookup serviceId = some service := by
  unfold loadServiceForUpdate
  cases l.services.lookup serviceId <;> simp

/-- A job of another type has no `target_id`, and no service row has a null key. -/
def targetId (target : JobTarget) : Except Raised ServiceId :=
  match target with
  | .service serviceId => .ok serviceId
  | .feedSyncRun _ | .globalDeny => .error (.httpException 404 "Service not found")

theorem targetId_ok {target : JobTarget} :
    targetId target = .ok serviceId ↔ target = .service serviceId := by
  cases target <;> simp [targetId]

def superseded (service : ProtectedService) (job : AgentJob) : Bool :=
  service.version != job.version

def markSuperseded (job : AgentJob) : AgentJob :=
  { job with status := .superseded }

/-- The common body of the three `mark_*` functions. -/
def markJob (l : Ledger) (jobId : JobId) (next : ApplyStatus)
    (check : ProtectedService → AgentJob → Except Raised Unit)
    (serviceUpdate : ProtectedService → AgentJob → ProtectedService)
    (jobUpdate : AgentJob → AgentJob) : Except Raised Ledger := do
  let job ← l.loadJobForUpdate jobId
  if isTerminal job.status then return l
  let serviceId ← targetId job.target
  let service ← l.loadServiceForUpdate serviceId
  if superseded service job then return l.setJob jobId (markSuperseded job)
  assertTransition service.applyStatus next
  check service job
  return (l.setService serviceId (serviceUpdate service job)).setJob jobId (jobUpdate job)

variable {check : ProtectedService → AgentJob → Except Raised Unit} {l' : Ledger}
  {next : ApplyStatus}

theorem markJob_ok {serviceUpdate : ProtectedService → AgentJob → ProtectedService}
    {jobUpdate : AgentJob → AgentJob}
    (marked : l.markJob jobId next check serviceUpdate jobUpdate = .ok l') :
    ∃ job, l.jobs.lookup jobId = some job ∧
      ((isTerminal job.status = true ∧ l' = l) ∨
        ∃ serviceId service, isTerminal job.status = false ∧ job.target = .service serviceId ∧
          l.services.lookup serviceId = some service ∧
          ((service.version ≠ job.version ∧ l' = l.setJob jobId (markSuperseded job)) ∨
            (service.version = job.version ∧ next ∈ legalApply service.applyStatus ∧
              check service job = .ok () ∧
              l' = (l.setService serviceId (serviceUpdate service job)).setJob jobId
                (jobUpdate job)))) := by
  obtain ⟨job, found, marked⟩ := bind_eq_ok.mp marked
  refine ⟨job, loadJobForUpdate_ok.mp found, ?_⟩
  split at marked
  next terminal =>
    cases marked
    exact Or.inl ⟨terminal, rfl⟩
  next live =>
    obtain ⟨serviceId, target, marked⟩ := bind_eq_ok.mp marked
    obtain ⟨service, loaded, marked⟩ := bind_eq_ok.mp marked
    refine Or.inr ⟨serviceId, service, by simpa using live, targetId_ok.mp target,
      loadServiceForUpdate_ok.mp loaded, ?_⟩
    split at marked
    next stale =>
      cases marked
      exact Or.inl ⟨by simpa [superseded] using stale, rfl⟩
    next current =>
      obtain ⟨_, legal, marked⟩ := bind_eq_ok.mp marked
      obtain ⟨_, checked, marked⟩ := bind_eq_ok.mp marked
      cases marked
      exact Or.inr ⟨by simpa [superseded] using current,
        (assertTransition_ok_iff _ _).mp legal, checked, rfl⟩

theorem markJob_superseded (next : ApplyStatus)
    (check : ProtectedService → AgentJob → Except Raised Unit)
    (serviceUpdate : ProtectedService → AgentJob → ProtectedService)
    (jobUpdate : AgentJob → AgentJob) (found : l.jobs.lookup jobId = some job)
    (live : isTerminal job.status = false) (target : job.target = .service serviceId)
    (loaded : l.services.lookup serviceId = some service) (stale : service.version ≠ job.version) :
    l.markJob jobId next check serviceUpdate jobUpdate =
      .ok (l.setJob jobId (markSuperseded job)) := by
  have isStale : superseded service job = true := by simpa [superseded] using stale
  simp only [markJob, loadJobForUpdate_ok.mpr found, targetId_ok.mpr target,
    loadServiceForUpdate_ok.mpr loaded, live, isStale, bind, Except.bind]
  rfl

theorem markJob_current (serviceUpdate : ProtectedService → AgentJob → ProtectedService)
    (jobUpdate : AgentJob → AgentJob) (found : l.jobs.lookup jobId = some job)
    (live : isTerminal job.status = false) (target : job.target = .service serviceId)
    (loaded : l.services.lookup serviceId = some service) (current : service.version = job.version)
    (legal : next ∈ legalApply service.applyStatus) (checked : check service job = .ok ()) :
    l.markJob jobId next check serviceUpdate jobUpdate =
      .ok ((l.setService serviceId (serviceUpdate service job)).setJob jobId (jobUpdate job)) := by
  have isCurrent : superseded service job = false := by simpa [superseded] using current
  simp only [markJob, loadJobForUpdate_ok.mpr found, targetId_ok.mpr target,
    loadServiceForUpdate_ok.mpr loaded, live, isCurrent, (assertTransition_ok_iff _ _).mpr legal,
    checked, bind, Except.bind]
  rfl

def markApplying (l : Ledger) (jobId : JobId) : Except Raised Ledger :=
  l.markJob jobId .applying (fun _ _ => .ok ())
    (fun service _ => { service with applyStatus := .applying })
    (fun job => { job with status := .applying, attempts := job.attempts + 1 })

def markActive (l : Ledger) (jobId : JobId) : Except Raised Ledger :=
  l.markJob jobId .active
    (fun service job => assertActiveVersionAdvances service.activeVersion job.version)
    (fun service job =>
      { service with applyStatus := .active, activeVersion := some job.version })
    (fun job => { job with status := .succeeded })

def applyErrorLimit : Nat := 2000

def markFailed (l : Ledger) (jobId : JobId) (error : String) : Except Raised Ledger :=
  l.markJob jobId .failed (fun _ _ => .ok ())
    (fun service _ => { service with applyStatus := .failed })
    (fun job => { job with
      status := .failed, error := some (String.ofList (error.toList.take applyErrorLimit)) })

def jobForTargetVersion (l : Ledger) (serviceId : ServiceId) (version : Nat) : Option JobId :=
  (l.jobs.entries.find? fun e =>
    decide (e.2.target = .service serviceId ∧ e.2.version = version)).map Sigma.fst

theorem jobForTargetVersion_some {version : Nat}
    (found : l.jobForTargetVersion serviceId version = some jobId) :
    ∃ job, l.jobs.lookup jobId = some job ∧ job.target = .service serviceId ∧
      job.version = version := by
  simp only [jobForTargetVersion, Option.map_eq_some_iff] at found
  obtain ⟨entry, hit, rfl⟩ := found
  have matched := List.find?_some hit
  simp only [decide_eq_true_eq] at matched
  exact ⟨entry.2, AList.mem_lookup_iff.mpr (List.mem_of_find?_eq_some hit), matched⟩

theorem jobForTargetVersion_none {version : Nat} :
    l.jobForTargetVersion serviceId version = none ↔
      ∀ jobId job, l.jobs.lookup jobId = some job → job.target = .service serviceId →
        job.version ≠ version := by
  simp only [jobForTargetVersion, Option.map_eq_none_iff, List.find?_eq_none, decide_eq_true_eq]
  constructor
  · intro absent jobId job found target same
    exact absent ⟨jobId, job⟩ (AList.mem_lookup_iff.mp found) ⟨target, same⟩
  · intro absent entry member matched
    exact absent entry.1 entry.2 (AList.mem_lookup_iff.mpr member) matched.1 matched.2

/-- `INSERT ... ON CONFLICT DO NOTHING`, and the row already there on a conflict. -/
def insertOrGetJob (l : Ledger) (serviceId : ServiceId) (version : Nat) (trigger : ChangeTrigger)
    (jobId : JobId) (createdAt : Nat) : Ledger × JobId :=
  match l.jobForTargetVersion serviceId version with
  | some existing => (l, existing)
  | none =>
    (l.setJob jobId
      { target := .service serviceId, version := version, trigger := trigger, status := .queued,
        error := none, attempts := 0, createdAt := createdAt }, jobId)

def enqueueServiceUpdate (l : Ledger) (serviceId : ServiceId) (service : ProtectedService)
    (trigger : ChangeTrigger) (jobId : JobId) (createdAt : Nat) :
    Except Raised (Ledger × JobId) := do
  unless service.applyStatus = .queued do
    assertTransition service.applyStatus .queued
  let (inserted, job) := l.insertOrGetJob serviceId service.version trigger jobId createdAt
  return (inserted.setService serviceId { service with applyStatus := .queued }, job)

theorem enqueueServiceUpdate_ok {trigger : ChangeTrigger} {job : JobId} {createdAt : Nat}
    (enqueued : l.enqueueServiceUpdate serviceId service trigger jobId createdAt = .ok (l', job)) :
    (service.applyStatus = .queued ∨ .queued ∈ legalApply service.applyStatus) ∧
      l' = (l.insertOrGetJob serviceId service.version trigger jobId createdAt).1.setService
        serviceId { service with applyStatus := .queued } ∧
      job = (l.insertOrGetJob serviceId service.version trigger jobId createdAt).2 := by
  simp only [enqueueServiceUpdate] at enqueued
  split at enqueued
  next queued =>
    cases enqueued
    exact ⟨Or.inl queued, rfl, rfl⟩
  · obtain ⟨_, legal, enqueued⟩ := bind_eq_ok.mp enqueued
    cases enqueued
    exact ⟨Or.inr ((assertTransition_ok_iff _ _).mp legal), rfl, rfl⟩

/-- The row `create_service` adds, with its first job. -/
def createService (l : Ledger) (serviceId : ServiceId) (jobId : JobId) (createdAt : Nat) :
    Except Raised (Ledger × JobId) :=
  if serviceId ∈ l.services ∨ jobId ∈ l.jobs then
    .error .sqlAlchemyError
  else
    let service := { applyStatus := .pending, version := 1, activeVersion := none }
    (l.setService serviceId service).enqueueServiceUpdate serviceId service .service jobId createdAt

/-- The row goes with the jobs that reference it (`ON DELETE CASCADE`). -/
def deleteService (l : Ledger) (serviceId : ServiceId) : Ledger :=
  { services := l.services.erase serviceId
    jobs := Table.filterRows l.jobs fun job => decide (job.target ≠ .service serviceId) }

/-- The serial reading of `bump_version`: no other session changed the row since it was loaded. -/
def bumpVersion (l : Ledger) (serviceId : ServiceId) :
    Except Raised (Ledger × ProtectedService) := do
  let service ← l.loadServiceForUpdate serviceId
  assertTransition service.applyStatus .pending
  let bumped := { service with version := service.version + 1, applyStatus := .pending }
  return (l.setService serviceId bumped, bumped)

/-- The current-version job is requeued, or inserted when it is missing. -/
def requeueCurrentJob (l : Ledger) (serviceId : ServiceId) (version : Nat) (jobId : JobId)
    (createdAt : Nat) : Ledger × JobId :=
  match l.jobForTargetVersion serviceId version with
  | none =>
    (l.setJob jobId
      { target := .service serviceId, version := version, trigger := .service,
        status := .queued, error := none, attempts := 0, createdAt := createdAt }, jobId)
  | some current =>
    match l.jobs.lookup current with
    | none => (l, current)
    | some job => (l.setJob current { job with status := .queued, error := none }, current)

def retry (l : Ledger) (serviceId : ServiceId) (jobId : JobId) (createdAt : Nat) :
    Except Raised (Ledger × JobId) := do
  let locked ← l.loadServiceForUpdate serviceId
  if locked.applyStatus ≠ .failed then
    throw (.notFailed "Apply status must be failed to retry")
  assertTransition locked.applyStatus .queued
  let (requeued, job) := l.requeueCurrentJob serviceId locked.version jobId createdAt
  return (requeued.setService serviceId { locked with applyStatus := .queued }, job)

theorem retry_ok {job : JobId} {createdAt : Nat}
    (retried : l.retry serviceId jobId createdAt = .ok (l', job)) :
    ∃ locked, l.services.lookup serviceId = some locked ∧ locked.applyStatus = .failed ∧
      l' = (l.requeueCurrentJob serviceId locked.version jobId createdAt).1.setService
        serviceId { locked with applyStatus := .queued } := by
  obtain ⟨locked, loaded, retried⟩ := bind_eq_ok.mp retried
  refine ⟨locked, loadServiceForUpdate_ok.mp loaded, ?_⟩
  obtain ⟨failed, retried⟩ := Raise.ite_error_eq_ok.mp retried
  obtain ⟨_, _, retried⟩ := bind_eq_ok.mp retried
  cases retried
  exact ⟨by simpa using failed, rfl⟩

theorem retry_notFailed {row : ProtectedService} (found : l.services.lookup serviceId = some row)
    (notFailed : row.applyStatus ≠ .failed) (jobId : JobId) (createdAt : Nat) :
    l.retry serviceId jobId createdAt =
      .error (.notFailed "Apply status must be failed to retry") := by
  simp only [retry, loadServiceForUpdate_ok.mpr found, notFailed, bind, Except.bind, ne_eq,
    not_false_eq_true, if_true]
  rfl

end Ledger

end ScrubbingGateway.Control
