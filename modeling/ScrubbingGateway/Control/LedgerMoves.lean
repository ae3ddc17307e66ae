import ScrubbingGateway.Control.LedgerVersions

/-!
# What a ledger transaction does

Every transaction of the apply ledger but a deletion writes one service row together with one of
the service's jobs. `Move` lists the ways it can do so; what holds of whole runs is derived from this
list.
-/

namespace ScrubbingGateway.Control

open Raise

def JobOf (l : Ledger) (serviceId : ServiceId) (jobId : JobId) (job : AgentJob) : Prop :=
  l.jobs.lookup jobId = some job ∧ job.target = .service serviceId

theorem JobOf.service_eq {l : Ledger} {jobId : JobId} {job other : AgentJob} {a b : ServiceId}
    (first : JobOf l a jobId job) (second : JobOf l b jobId other) : a = b := by
  have same := Option.some.inj (first.1.symm.trans second.1)
  have target := second.2
  rw [← same, first.2] at target
  exact JobTarget.service.inj target

namespace Ledger

/-- One row and one job are written, and nothing else. -/
structure Wrote (l : Ledger) (serviceId : ServiceId) (row : ProtectedService) (jobId : JobId)
    (job : AgentJob) (l' : Ledger) : Prop where
  services : ∀ other, l'.services.lookup other =
    if other = serviceId then some row else l.services.lookup other
  jobs : ∀ other, l'.jobs.lookup other = if other = jobId then some job else l.jobs.lookup other

/-- The row and the job that a transaction may write for a service. -/
inductive Move (l : Ledger) (serviceId : ServiceId) (jobId : JobId) :
    ProtectedService → AgentJob → Prop where
  | created {job : AgentJob} (missing : l.services.lookup serviceId = none)
      (fresh : l.jobs.lookup jobId = none) (target : job.target = .service serviceId)
      (version : job.version = 1) (queued : job.status = .queued) :
      Move l serviceId jobId ⟨.queued, 1, none⟩ job
  | edited {row : ProtectedService} {job : AgentJob}
      (found : l.services.lookup serviceId = some row) (fresh : l.jobs.lookup jobId = none)
      (target : job.target = .service serviceId) (version : job.version = row.version + 1)
      (queued : job.status = .queued) :
      Move l serviceId jobId { row with version := row.version + 1, applyStatus := .queued } job
  | claimed {row : ProtectedService} {job : AgentJob}
      (found : l.services.lookup serviceId = some row) (ofJob : JobOf l serviceId jobId job)
      (current : row.version = job.version) (queued : row.applyStatus = .queued) :
      Move l serviceId jobId { row with applyStatus := .applying }
        { job with status := .applying, attempts := job.attempts + 1 }
  | activated {row : ProtectedService} {job : AgentJob}
      (found : l.services.lookup serviceId = some row) (ofJob : JobOf l serviceId jobId job)
      (current : row.version = job.version) (applying : row.applyStatus = .applying) :
      Move l serviceId jobId
        { row with applyStatus := .active, activeVersion := some job.version }
        { job with status := .succeeded }
  | failed {row : ProtectedService} {job : AgentJob} {error : Option String}
      (found : l.services.lookup serviceId = some row) (ofJob : JobOf l serviceId jobId job)
      (current : row.version = job.version) (applying : row.applyStatus = .applying) :
      Move l serviceId jobId { row with applyStatus := .failed }
        { job with status := .failed, error := error }
  | retried {row : ProtectedService} {job : AgentJob}
      (found : l.services.lookup serviceId = some row) (ofJob : JobOf l serviceId jobId job)
      (current : row.version = job.version) (failed : row.applyStatus = .failed)
      (wasFailed : job.status = .failed) :
      Move l serviceId jobId { row with applyStatus := .queued }
        { job with status := .queued, error := none }
  | superseded {row : ProtectedService} {job : AgentJob}
      (found : l.services.lookup serviceId = some row) (ofJob : JobOf l serviceId jobId job)
      (stale : row.version ≠ job.version) (live : isTerminal job.status = false) :
      Move l serviceId jobId row (markSuperseded job)

variable {l l' : Ledger} {serviceId : ServiceId} {jobId : JobId} {row' : ProtectedService}
  {job' : AgentJob}

theorem Move.target (move : Move l serviceId jobId row' job') :
    job'.target = .service serviceId := by
  cases move with
  | created _ _ target | edited _ _ target => exact target
  | claimed _ ofJob | activated _ ofJob | failed _ ofJob | retried _ ofJob | superseded _ ofJob =>
    exact ofJob.2

theorem Move.before (move : Move l serviceId jobId row' job') :
    l.jobs.lookup jobId = none ∨ ∃ job, JobOf l serviceId jobId job ∧ job.version = job'.version := by
  cases move with
  | created _ fresh | edited _ fresh => exact Or.inl fresh
  | claimed _ ofJob | activated _ ofJob | failed _ ofJob | retried _ ofJob | superseded _ ofJob =>
    exact Or.inr ⟨_, ofJob, rfl⟩

variable {job : AgentJob} {row : ProtectedService} {createdAt : Nat} {other : ServiceId}
  {key : JobId}

theorem Move.other_job (move : Move l serviceId jobId row' job') (ofJob : JobOf l other key job)
    (different : other ≠ serviceId) : key ≠ jobId := by
  rintro rfl
  rcases move.before with fresh | ⟨old, ofOld, _⟩
  · rw [ofJob.1] at fresh
    cases fresh
  · exact different (ofJob.service_eq ofOld)

theorem Wrote.isSome (wrote : Wrote l serviceId row' jobId job' l')
    (found : l.services.lookup serviceId = some row) (other : ServiceId) :
    (l'.services.lookup other).isSome = (l.services.lookup other).isSome := by
  rw [wrote.services]
  split
  next same => rw [same, found]; rfl
  · rfl

theorem Wrote.jobOf (wrote : Wrote l serviceId row' jobId job' l')
    (target : job'.target = .service serviceId) :
    JobOf l' other key job ↔
      (key = jobId ∧ job = job' ∧ other = serviceId) ∨ (key ≠ jobId ∧ JobOf l other key job) := by
  simp only [JobOf, wrote.jobs]
  by_cases same : key = jobId
  · simp only [same, if_true, Option.some.injEq, true_and, ne_eq, not_true_eq_false, false_and,
      or_false]
    constructor
    · rintro ⟨rfl, isTarget⟩
      rw [target] at isTarget
      exact ⟨rfl, (JobTarget.service.inj isTarget).symm⟩
    · rintro ⟨rfl, rfl⟩
      exact ⟨rfl, target⟩
  · simp [same]

theorem Move.version_le (move : Move l serviceId jobId row' job')
    (found : l.services.lookup serviceId = some row) : row.version ≤ row'.version := by
  cases move with
  | created missing =>
    rw [missing] at found
    cases found
  | edited old =>
    cases old.symm.trans found
    exact Nat.le_succ _
  | claimed old | activated old | failed old | retried old | superseded old =>
    exact (congrArg ProtectedService.version (Option.some.inj (found.symm.trans old))).le

/-- No job is put ahead of its service, and no service is taken back. -/
theorem Move.below (move : Move l serviceId jobId row' job')
    (wrote : Wrote l serviceId row' jobId job' l') (below : JobsBelow l) :
    JobsBelow l' ∧ Grows l l' := by
  have grows : Grows l l' := by
    intro other row found
    rw [wrote.services]
    split
    next same => exact ⟨row', rfl, move.version_le (same ▸ found)⟩
    · exact ⟨row, found, le_refl _⟩
  refine ⟨fun key job other found target => ?_, grows⟩
  rcases (wrote.jobOf move.target).mp ⟨found, target⟩ with ⟨rfl, rfl, rfl⟩ | ⟨_, ofOld⟩
  · rw [wrote.services, if_pos rfl]
    refine ⟨row', rfl, ?_⟩
    cases move with
    | created _ _ _ version | edited _ _ _ version => exact version.le
    | claimed _ _ current | activated _ _ current | failed _ _ current | retried _ _ current =>
      exact current.ge
    | superseded old ofJob =>
      obtain ⟨_, again, le⟩ := below _ _ _ ofJob.1 ofJob.2
      cases old.symm.trans again
      exact le
  · obtain ⟨row, rowFound, le⟩ := below key job other ofOld.1 ofOld.2
    obtain ⟨new, newFound, le'⟩ := grows other row rowFound
    exact ⟨new, newFound, le.trans le'⟩

/-! ## The transactions -/

/-- The transaction wrote nothing, or made one of the moves on a row that is there: it wrote the row
back, or gave it the status that the transaction is for. -/
def Moved (l : Ledger) (next : ApplyStatus) (jobId : JobId) (l' : Ledger) : Prop :=
  l' = l ∨ ∃ serviceId old row job, l.services.lookup serviceId = some old ∧
    Move l serviceId jobId row job ∧ Wrote l serviceId row jobId job l' ∧
    (row = old ∨
      row.version = old.version ∧ row.applyStatus = next ∧ next ∈ legalApply old.applyStatus)

variable {next : ApplyStatus}

section

variable (moved : Moved l next jobId l')
include moved

theorem Moved.below (below : JobsBelow l) : JobsBelow l' ∧ Grows l l' := by
  rcases moved with rfl | ⟨_, _, _, _, _, move, wrote, _⟩
  · exact ⟨below, grows_of_services rfl⟩
  · exact move.below wrote below

theorem Moved.isSome (serviceId : ServiceId) :
    (l'.services.lookup serviceId).isSome = (l.services.lookup serviceId).isSome := by
  rcases moved with rfl | ⟨_, _, _, _, found, _, wrote, _⟩
  · rfl
  · exact wrote.isSome found serviceId

theorem Moved.target (ofJob : JobOf l serviceId jobId job)
    (found' : l'.jobs.lookup jobId = some job') : ∃ s, job'.target = .service s := by
  rcases moved with rfl | ⟨s, _, _, _, _, move, wrote, _⟩
  · cases ofJob.1.symm.trans found'
    exact ⟨serviceId, ofJob.2⟩
  · rw [wrote.jobs, if_pos rfl] at found'
    cases found'
    exact ⟨s, move.target⟩

end

theorem wrote_setJob (l : Ledger) (serviceId : ServiceId) (row : ProtectedService) (jobId : JobId)
    (job : AgentJob) :
    Wrote l serviceId row jobId job ((l.setService serviceId row).setJob jobId job) :=
  ⟨fun other => by rw [setJob_services, setService_lookup], fun other => by
    rw [setJob_lookup, setService_jobs]⟩

theorem wrote_setService (l : Ledger) (serviceId : ServiceId) (row : ProtectedService)
    (jobId : JobId) (job : AgentJob) :
    Wrote l serviceId row jobId job ((l.setJob jobId job).setService serviceId row) :=
  ⟨fun other => by rw [setService_lookup, setJob_services], fun other => by
    rw [setService_jobs, setJob_lookup]⟩

/-- The row is written back as it was. -/
theorem wrote_back (found : l.services.lookup serviceId = some row) (jobId : JobId)
    (job : AgentJob) : Wrote l serviceId row jobId job (l.setJob jobId job) := by
  refine ⟨fun other => ?_, fun other => setJob_lookup l jobId other job⟩
  split
  next same => rw [setJob_services, same, found]
  · rfl

/-- The job is written back as it was. -/
theorem wrote_row (l : Ledger) (found : l.jobs.lookup jobId = some job) (row : ProtectedService) :
    Wrote l serviceId row jobId job (l.setService serviceId row) := by
  refine ⟨fun other => setService_lookup l serviceId other row, fun other => ?_⟩
  split
  next same => rw [setService_jobs, same, found]
  · rfl

/-- The three `mark_*` functions share everything but the move of a current job. -/
theorem markJob_moved {check : ProtectedService → AgentJob → Except Raised Unit}
    {serviceUpdate : ProtectedService → AgentJob → ProtectedService}
    {jobUpdate : AgentJob → AgentJob}
    (marked : l.markJob jobId next check serviceUpdate jobUpdate = .ok l')
    (kept : ∀ row job, (serviceUpdate row job).version = row.version ∧
      (serviceUpdate row job).applyStatus = next)
    (moves : ∀ s row job, l.services.lookup s = some row → JobOf l s jobId job →
      row.version = job.version → next ∈ legalApply row.applyStatus →
      Move l s jobId (serviceUpdate row job) (jobUpdate job)) : Moved l next jobId l' := by
  obtain ⟨job, found, ⟨_, same⟩ | ⟨s, row, live, target, loaded, stale | current⟩⟩ :=
    markJob_ok marked
  · exact Or.inl same
  · obtain ⟨isStale, rfl⟩ := stale
    exact Or.inr ⟨s, row, row, _, loaded, .superseded loaded ⟨found, target⟩ isStale live,
      wrote_back loaded jobId _, Or.inl rfl⟩
  · obtain ⟨isCurrent, legal, _, rfl⟩ := current
    obtain ⟨version, status⟩ := kept row job
    exact Or.inr ⟨s, row, _, _, loaded, moves s row job loaded ⟨found, target⟩ isCurrent legal,
      wrote_setJob l s _ jobId _, Or.inr ⟨version, status, legal⟩⟩

theorem markApplying_moved (marked : l.markApplying jobId = .ok l') :
    Moved l .applying jobId l' := by
  apply markJob_moved marked (fun _ _ => ⟨rfl, rfl⟩)
  intro s row job found ofJob current legal
  refine .claimed found ofJob current ?_
  cases status : row.applyStatus <;> simp_all [legalApply]

theorem markActive_moved (marked : l.markActive jobId = .ok l') : Moved l .active jobId l' := by
  apply markJob_moved marked (fun _ _ => ⟨rfl, rfl⟩)
  intro s row job found ofJob current legal
  refine .activated found ofJob current ?_
  cases status : row.applyStatus <;> simp_all [legalApply]

theorem markFailed_moved {error : String} (marked : l.markFailed jobId error = .ok l') :
    Moved l .failed jobId l' := by
  apply markJob_moved marked (fun _ _ => ⟨rfl, rfl⟩)
  intro s row job found ofJob current legal
  refine .failed found ofJob current ?_
  cases status : row.applyStatus <;> simp_all [legalApply]

/-- `bump_version` and then `enqueue_service_update`, as every edit of a service calls them. -/
def editService (l : Ledger) (serviceId : ServiceId) (trigger : ChangeTrigger) (jobId : JobId)
    (createdAt : Nat) : Except Raised (Ledger × JobId) := do
  let (bumped, service) ← l.bumpVersion serviceId
  bumped.enqueueServiceUpdate serviceId service trigger jobId createdAt

theorem bumpVersion_ok {bumped : ProtectedService}
    (stepped : l.bumpVersion serviceId = .ok (l', bumped)) :
    ∃ row, l.services.lookup serviceId = some row ∧
      bumped = { row with version := row.version + 1, applyStatus := .pending } ∧
      l' = l.setService serviceId bumped := by
  obtain ⟨row, loaded, stepped⟩ := bind_eq_ok.mp stepped
  obtain ⟨_, _, stepped⟩ := bind_eq_ok.mp stepped
  cases stepped
  exact ⟨row, loadServiceForUpdate_ok.mp loaded, rfl, rfl⟩

def queuedJob (serviceId : ServiceId) (version : Nat) (trigger : ChangeTrigger)
    (createdAt : Nat) : AgentJob where
  target := .service serviceId
  version := version
  trigger := trigger
  status := .queued
  error := none
  attempts := 0
  createdAt := createdAt

theorem insertOrGetJob_fresh {version : Nat} (trigger : ChangeTrigger) (jobId : JobId)
    (createdAt : Nat)
    (none : ∀ key job, JobOf l serviceId key job → job.version ≠ version) :
    l.insertOrGetJob serviceId version trigger jobId createdAt =
      (l.setJob jobId (queuedJob serviceId version trigger createdAt), jobId) := by
  have missing : l.jobForTargetVersion serviceId version = .none :=
    jobForTargetVersion_none.mpr fun key job found target => none key job ⟨found, target⟩
  simp only [insertOrGetJob, missing, queuedJob]

theorem editService_moved {trigger : ChangeTrigger} {job : JobId} (below : JobsBelow l)
    (fresh : l.jobs.lookup jobId = none)
    (edited : l.editService serviceId trigger jobId createdAt = .ok (l', job)) :
    ∃ row new, l.services.lookup serviceId = some row ∧
      Move l serviceId jobId { row with version := row.version + 1, applyStatus := .queued } new ∧
      Wrote l serviceId { row with version := row.version + 1, applyStatus := .queued } jobId new
        l' := by
  obtain ⟨⟨mid, bumped⟩, stepped, enqueued⟩ := bind_eq_ok.mp edited
  obtain ⟨row, found, rfl, rfl⟩ := bumpVersion_ok stepped
  obtain ⟨_, rfl, _⟩ := enqueueServiceUpdate_ok enqueued
  -- no job is ahead of its service's row
  have none : ∀ key other, JobOf (l.setService serviceId
      { row with version := row.version + 1, applyStatus := .pending }) serviceId key other →
      other.version ≠ row.version + 1 := by
    intro key other ofOther
    obtain ⟨old, oldFound, le⟩ := below key other serviceId ofOther.1 ofOther.2
    rw [found] at oldFound
    cases oldFound
    omega
  rw [insertOrGetJob_fresh trigger jobId createdAt none]
  refine ⟨row, queuedJob serviceId (row.version + 1) trigger createdAt, found,
    .edited found fresh rfl rfl rfl, ?_, ?_⟩
  · intro other
    simp only [setService_lookup, setJob_services]
    split <;> rfl
  · intro other
    rw [setService_jobs, setJob_lookup, setService_jobs]

theorem createService_moved {job : JobId} (below : JobsBelow l)
    (created : l.createService serviceId jobId createdAt = .ok (l', job)) :
    ∃ new, l.services.lookup serviceId = none ∧ Move l serviceId jobId ⟨.queued, 1, none⟩ new ∧
      Wrote l serviceId ⟨.queued, 1, none⟩ jobId new l' := by
  obtain ⟨fresh, created⟩ := Raise.ite_error_eq_ok.mp created
  rw [not_or] at fresh
  have missing := AList.lookup_eq_none.mpr fresh.1
  obtain ⟨_, rfl, _⟩ := enqueueServiceUpdate_ok created
  have none : ∀ key other, JobOf (l.setService serviceId ⟨.pending, 1, none⟩) serviceId key
      other → other.version ≠ 1 := by
    intro key other ofOther
    obtain ⟨row, found, _⟩ := below key other serviceId ofOther.1 ofOther.2
    rw [missing] at found
    cases found
  rw [insertOrGetJob_fresh .service jobId createdAt none]
  refine ⟨queuedJob serviceId 1 .service createdAt, missing,
    .created missing (AList.lookup_eq_none.mpr fresh.2) rfl rfl rfl, ?_, ?_⟩
  · intro other
    simp only [setService_lookup, setJob_services]
    split <;> rfl
  · intro other
    rw [setService_jobs, setJob_lookup, setService_jobs]

/-! ## Queued rows -/

/-- Between transactions no row is pending, and a queued one has its job in the queue. -/
def Rested (l : Ledger) : Prop :=
  ∀ serviceId row, l.services.lookup serviceId = some row → row.applyStatus ≠ .pending ∧
    (row.applyStatus = .queued →
      ∃ jobId job, JobOf l serviceId jobId job ∧ job.version = row.version ∧ job.status = .queued)

theorem Rested.move (rested : Rested l) (move : Move l serviceId jobId row' job')
    (wrote : Wrote l serviceId row' jobId job' l') : Rested l' := by
  have written : JobOf l' serviceId jobId job' :=
    (wrote.jobOf move.target).mpr (Or.inl ⟨rfl, rfl, rfl⟩)
  intro other row found
  rw [wrote.services] at found
  split at found
  next same =>
    subst same
    cases found
    cases move with
    | created _ _ _ version queued | edited _ _ _ version queued =>
      exact ⟨by simp, fun _ => ⟨jobId, job', written, version, queued⟩⟩
    | claimed | activated | failed => exact ⟨by simp, by simp⟩
    | retried _ _ current _ _ =>
      exact ⟨by simp, fun _ => ⟨jobId, _, written, current.symm, rfl⟩⟩
    | superseded found ofJob stale =>
      obtain ⟨started, queued⟩ := rested other _ found
      refine ⟨started, fun isQueued => ?_⟩
      obtain ⟨key, job, ofKey, version, jobQueued⟩ := queued isQueued
      -- the queued job has the current version, so it is not the one that is superseded
      have different : key ≠ jobId := by
        rintro rfl
        have same := Option.some.inj (ofKey.1.symm.trans ofJob.1)
        exact stale (version.symm.trans (congrArg AgentJob.version same))
      exact ⟨key, job, (wrote.jobOf ofJob.2).mpr (Or.inr ⟨different, ofKey⟩), version, jobQueued⟩
  next different =>
    obtain ⟨started, queued⟩ := rested other row found
    refine ⟨started, fun isQueued => ?_⟩
    obtain ⟨key, job, ofKey, version, jobQueued⟩ := queued isQueued
    have kept := move.other_job ofKey different
    exact ⟨key, job, (wrote.jobOf move.target).mpr (Or.inr ⟨kept, ofKey⟩), version, jobQueued⟩

theorem Rested.moved (rested : Rested l) (moved : Moved l next jobId l') : Rested l' := by
  rcases moved with rfl | ⟨_, _, _, _, _, move, wrote, _⟩
  · exact rested
  · exact rested.move move wrote

theorem deleteService_services (l : Ledger) (serviceId other : ServiceId) :
    (l.deleteService serviceId).services.lookup other =
      if other = serviceId then none else l.services.lookup other :=
  Table.lookup_erase_ite l.services serviceId other

theorem deleteService_jobs (l : Ledger) (serviceId : ServiceId) {jobId : JobId} :
    (l.deleteService serviceId).jobs.lookup jobId = some job ↔
      l.jobs.lookup jobId = some job ∧ job.target ≠ .service serviceId := by
  simp only [deleteService, Table.lookup_filterRows, Option.filter_eq_some_iff, decide_eq_true_eq]

theorem Rested.deleteService (rested : Rested l) (serviceId : ServiceId) :
    Rested (l.deleteService serviceId) := by
  intro other row found
  obtain ⟨different, found⟩ := Table.lookup_erase_eq_some.mp found
  obtain ⟨started, queued⟩ := rested other row found
  refine ⟨started, fun isQueued => ?_⟩
  obtain ⟨key, job, ofKey, rest⟩ := queued isQueued
  have survives : job.target ≠ .service serviceId := by
    rw [ofKey.2]
    simpa using different
  exact ⟨key, job, ⟨(deleteService_jobs l serviceId).mpr ⟨ofKey.1, survives⟩, ofKey.2⟩, rest⟩

/-- A row is made active only by the job of its version. -/
theorem Move.active_cases (move : Move l serviceId jobId row' job')
    (active : row'.applyStatus = .active) :
    l.services.lookup serviceId = some row' ∨
      ∃ row job, l.services.lookup serviceId = some row ∧ JobOf l serviceId jobId job ∧
        job.version = row.version := by
  cases move with
  | created | edited | claimed | failed | retried => cases active
  | activated found ofJob current _ => exact Or.inr ⟨_, _, found, ofJob, current.symm⟩
  | superseded found => exact Or.inl found

end Ledger

end ScrubbingGateway.Control
