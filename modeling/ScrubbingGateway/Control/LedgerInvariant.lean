import ScrubbingGateway.Control.LedgerMoves

/-!
# The ledger invariant

What one transaction after another keeps true of a service row and its jobs: each version has at
most one job, and the job of the current version is in the state that the row's apply status
calls for. The invariant is stated service by service, so that a transaction on one service is
only reasoned about there.
-/

namespace ScrubbingGateway.Control

open Raise

variable {l l' : Ledger} {jobId : JobId} {job : AgentJob} {serviceId : ServiceId}
  {row : ProtectedService} {createdAt : Nat}

/-- The two ledgers hold the same row and the same jobs for a service. -/
structure SameFor (l l' : Ledger) (serviceId : ServiceId) : Prop where
  row : l'.services.lookup serviceId = l.services.lookup serviceId
  jobs : ∀ jobId job, JobOf l' serviceId jobId job ↔ JobOf l serviceId jobId job

/-- The states the current-version job may be in under each apply status. -/
def expectedJob : ApplyStatus → List JobStatus
  | .pending => []
  | .queued => [.queued, .failed]
  | .applying => [.applying]
  | .active => [.succeeded]
  | .failed => [.failed]

/-- The active version trails the configured one until the row is active. -/
def ActiveVersionOk (row : ProtectedService) : Prop :=
  (row.applyStatus = .active → row.activeVersion = some row.version) ∧
    ∀ v, row.activeVersion = some v →
      v ≤ row.version ∧ (row.applyStatus ≠ .active → v < row.version)

structure ServiceInv (l : Ledger) (serviceId : ServiceId) : Prop where
  unique : ∀ j₁ j₂ job₁ job₂, JobOf l serviceId j₁ job₁ → JobOf l serviceId j₂ job₂ →
    job₁.version = job₂.version → j₁ = j₂
  expected : ∀ row jobId job, l.services.lookup serviceId = some row →
    JobOf l serviceId jobId job → job.version = row.version →
    job.status ∈ expectedJob row.applyStatus
  currentExists : ∀ row, l.services.lookup serviceId = some row → row.applyStatus ≠ .pending →
    ∃ jobId job, JobOf l serviceId jobId job ∧ job.version = row.version
  active : ∀ row, l.services.lookup serviceId = some row → ActiveVersionOk row

structure LedgerInv (l : Ledger) : Prop where
  jobsBelow : JobsBelow l
  services : ∀ serviceId, ServiceInv l serviceId

theorem SameFor.refl (l : Ledger) (serviceId : ServiceId) : SameFor l l serviceId :=
  ⟨rfl, fun _ _ => Iff.rfl⟩

theorem SameFor.trans {a b c : Ledger} (first : SameFor a b serviceId)
    (second : SameFor b c serviceId) : SameFor a c serviceId :=
  ⟨second.row.trans first.row, fun jobId job =>
    (second.jobs jobId job).trans (first.jobs jobId job)⟩

theorem ServiceInv.congr (same : SameFor l l' serviceId) (inv : ServiceInv l serviceId) :
    ServiceInv l' serviceId where
  unique := by
    intro j₁ j₂ job₁ job₂ of₁ of₂
    exact inv.unique j₁ j₂ job₁ job₂ ((same.jobs _ _).mp of₁) ((same.jobs _ _).mp of₂)
  expected := by
    intro row jobId job found ofJob
    rw [same.row] at found
    exact inv.expected row jobId job found ((same.jobs _ _).mp ofJob)
  currentExists := by
    intro row found started
    rw [same.row] at found
    obtain ⟨jobId, job, ofJob, version⟩ := inv.currentExists row found started
    exact ⟨jobId, job, (same.jobs _ _).mpr ofJob, version⟩
  active := by
    intro row found
    rw [same.row] at found
    exact inv.active row found

theorem jobOf_setJob (l : Ledger) (serviceId : ServiceId) (jobId other : JobId)
    (new job : AgentJob) : JobOf (l.setJob jobId new) serviceId other job ↔
      (other = jobId ∧ job = new ∧ new.target = .service serviceId) ∨
        (other ≠ jobId ∧ JobOf l serviceId other job) := by
  by_cases same : other = jobId
  · simp only [JobOf, Ledger.setJob_lookup, same, if_true, Option.some.injEq]
    constructor
    · rintro ⟨rfl, target⟩
      simp [target]
    · simp +contextual
  · simp [JobOf, same]

theorem sameFor_setJob {new : AgentJob}
    (old : ∀ job, l.jobs.lookup jobId = some job → job.target ≠ .service serviceId)
    (target : new.target ≠ .service serviceId) : SameFor l (l.setJob jobId new) serviceId := by
  refine ⟨rfl, fun other job => ?_⟩
  rw [jobOf_setJob]
  constructor
  · rintro (⟨_, _, isTarget⟩ | ⟨_, ofJob⟩)
    · exact absurd isTarget target
    · exact ofJob
  · intro ofJob
    refine Or.inr ⟨?_, ofJob⟩
    rintro rfl
    exact old job ofJob.1 ofJob.2

open Ledger

section Writes

variable {row' : ProtectedService} {job' : AgentJob}

theorem Ledger.Wrote.sameFor {other : ServiceId} (wrote : Wrote l serviceId row' jobId job' l')
    (target : job'.target = .service serviceId)
    (own : ∀ job, l.jobs.lookup jobId = some job → job.target = .service serviceId)
    (different : other ≠ serviceId) : SameFor l l' other := by
  refine ⟨by rw [wrote.services, if_neg different], fun key job => ?_⟩
  rw [wrote.jobOf target]
  constructor
  · rintro (⟨_, _, same⟩ | ⟨_, ofJob⟩)
    · exact absurd same different
    · exact ofJob
  · refine fun ofJob => Or.inr ⟨?_, ofJob⟩
    rintro rfl
    exact different (ofJob.service_eq ⟨ofJob.1, own job ofJob.1⟩)

/-- A write keeps the invariant if its job is the only one of its version, and is as the row calls
for or of an older version than a row that stays. -/
theorem LedgerInv.wrote (inv : LedgerInv l) (wrote : Wrote l serviceId row' jobId job' l')
    (below : JobsBelow l') (target : job'.target = .service serviceId)
    (own : ∀ job, l.jobs.lookup jobId = some job → job.target = .service serviceId)
    (unique : ∀ key job, JobOf l serviceId key job → job.version = job'.version → key = jobId)
    (state : job'.version = row'.version ∧ job'.status ∈ expectedJob row'.applyStatus ∨
      job'.version ≠ row'.version ∧ l.services.lookup serviceId = some row' ∧
        ∀ job, JobOf l serviceId jobId job → job.version ≠ row'.version)
    (active : ActiveVersionOk row') : LedgerInv l' := by
  refine ⟨below, fun other => ?_⟩
  by_cases same : other = serviceId
  swap
  · exact (inv.services other).congr (wrote.sameFor target own same)
  subst same
  have only : ∀ row, l'.services.lookup other = some row → row = row' := by
    simp [wrote.services, eq_comm]
  have written : JobOf l' other jobId job' := (wrote.jobOf target).mpr (.inl ⟨rfl, rfl, rfl⟩)
  constructor
  · intro j₁ j₂ job₁ job₂ of₁ of₂ version
    rcases (wrote.jobOf target).mp of₁ with ⟨rfl, rfl, _⟩ | ⟨_, old₁⟩ <;>
      rcases (wrote.jobOf target).mp of₂ with ⟨rfl, rfl, _⟩ | ⟨_, old₂⟩
    · rfl
    · exact (unique j₂ job₂ old₂ version.symm).symm
    · exact unique j₁ job₁ old₁ version
    · exact (inv.services other).unique j₁ j₂ job₁ job₂ old₁ old₂ version
  · intro row key job found ofJob version
    cases only row found
    rcases (wrote.jobOf target).mp ofJob with ⟨rfl, rfl, _⟩ | ⟨different, old⟩
    · rcases state with ⟨_, expected⟩ | ⟨stale, _⟩
      · exact expected
      · exact absurd version stale
    · rcases state with ⟨current, _⟩ | ⟨_, kept, _⟩
      · exact absurd (unique key job old (version.trans current.symm)) different
      · exact (inv.services other).expected _ key job kept old version
  · intro row found started
    cases only row found
    rcases state with ⟨current, _⟩ | ⟨_, kept, stale⟩
    · exact ⟨jobId, job', written, current⟩
    · obtain ⟨key, job, ofJob, version⟩ := (inv.services other).currentExists _ kept started
      refine ⟨key, job, (wrote.jobOf target).mpr (.inr ⟨?_, ofJob⟩), version⟩
      rintro rfl
      exact stale job ofJob version
  · intro row found
    exact only row found ▸ active

end Writes

theorem activeOk_status {status : ApplyStatus} (active : ActiveVersionOk row)
    (inactive : row.applyStatus ≠ .active) (new : status ≠ .active) :
    ActiveVersionOk { row with applyStatus := status } :=
  ⟨fun isActive => absurd isActive new, fun v has =>
    ⟨(active.2 v has).1, fun _ => (active.2 v has).2 inactive⟩⟩

section

variable (inv : LedgerInv l)
include inv

theorem LedgerInv.move {row' : ProtectedService} {job' : AgentJob}
    (move : Move l serviceId jobId row' job') (wrote : Wrote l serviceId row' jobId job' l') :
    LedgerInv l' := by
  refine inv.wrote wrote (move.below wrote inv.jobsBelow).1 move.target ?_ ?_ ?_ ?_
  · intro job found
    rcases move.before with fresh | ⟨old, ofOld, _⟩
    · cases fresh.symm.trans found
    · cases ofOld.1.symm.trans found
      exact ofOld.2
  · intro key job ofJob version
    cases move with
    | created missing | edited missing _ _ newVersion =>
      -- no job is ahead of its row
      obtain ⟨row, found, le⟩ := inv.jobsBelow key job serviceId ofJob.1 ofJob.2
      cases missing.symm.trans found
      all_goals omega
    | claimed _ ofOld | activated _ ofOld | failed _ ofOld | retried _ ofOld | superseded _ ofOld =>
      exact (inv.services serviceId).unique key jobId job _ ofJob ofOld version
  · cases move with
    | created _ _ _ version queued | edited _ _ _ version queued =>
      exact .inl ⟨version, by simp [expectedJob, queued]⟩
    | claimed _ _ current | activated _ _ current | failed _ _ current | retried _ _ current =>
      exact .inl ⟨current.symm, by simp [expectedJob]⟩
    | superseded found ofOld stale =>
      refine .inr ⟨stale.symm, found, fun job ofJob => ?_⟩
      cases ofOld.1.symm.trans ofJob.1
      exact stale.symm
  · have active := fun row found => (inv.services serviceId).active row found
    cases move with
    | created => simp [ActiveVersionOk]
    | activated _ _ current => simp [ActiveVersionOk, current]
    | edited found =>
      refine ⟨by simp, fun v has => ?_⟩
      have le := ((active _ found).2 v has).1
      simp only
      omega
    | claimed found _ _ status | failed found _ _ status | retried found _ _ status =>
      exact activeOk_status (active _ found) (by simp [status]) (by simp)
    | superseded found => exact active _ found

theorem LedgerInv.moved {next : ApplyStatus} (moved : Moved l next jobId l') : LedgerInv l' := by
  rcases moved with rfl | ⟨_, _, _, _, _, move, wrote, _⟩
  · exact inv
  · exact inv.move move wrote

theorem bumpVersion_inv {bumped : ProtectedService}
    (stepped : l.bumpVersion serviceId = .ok (l', bumped)) : LedgerInv l' := by
  obtain ⟨service, loaded, stepped⟩ := bind_eq_ok.mp stepped
  obtain ⟨_, _, stepped⟩ := bind_eq_ok.mp stepped
  cases stepped
  have found := loadServiceForUpdate_ok.mp loaded
  refine ⟨jobsBelow_setService inv.jobsBelow (by simp +contextual [found]), fun other => ?_⟩
  by_cases same : other = serviceId
  swap
  · exact (inv.services other).congr ⟨by simp [same], fun _ _ => by rfl⟩
  subst same
  have only : ∀ row, (l.setService other { service with
      version := service.version + 1, applyStatus := .pending }).services.lookup other = some row →
      row = { service with version := service.version + 1, applyStatus := .pending } := by
    simp [eq_comm]
  refine ⟨(inv.services other).unique, ?_, ?_, ?_⟩
  · -- no job is ahead of the old version, so none has the new one
    intro row jobId job rowFound ofJob isCurrent
    cases only row rowFound
    obtain ⟨old, oldFound, le⟩ := inv.jobsBelow jobId job other ofJob.1 ofJob.2
    cases found.symm.trans oldFound
    simp only at isCurrent
    omega
  · exact fun row rowFound started => absurd (only row rowFound ▸ rfl) started
  · intro row rowFound
    cases only row rowFound
    refine ⟨by simp, fun v has => ?_⟩
    have le := (((inv.services other).active service found).2 v has).1
    simp only
    omega

theorem enqueueServiceUpdate_inv {trigger : ChangeTrigger} {job : JobId}
    (found : l.services.lookup serviceId = some row) (fresh : l.jobs.lookup jobId = none)
    (enqueued : l.enqueueServiceUpdate serviceId row trigger jobId createdAt = .ok (l', job)) :
    LedgerInv l' := by
  obtain ⟨legal, rfl, _⟩ := enqueueServiceUpdate_ok enqueued
  have active : ActiveVersionOk { row with applyStatus := .queued } := by
    refine activeOk_status ((inv.services serviceId).active row found) ?_ (by simp)
    intro isActive
    simp [isActive, legalApply] at legal
  have up : ∀ old, l.services.lookup serviceId = some old → old.version ≤ row.version := by
    simp [found]
  unfold insertOrGetJob
  split
  next existing hit =>
    obtain ⟨job, jobFound, target, version⟩ := jobForTargetVersion_some hit
    have ofJob : JobOf l serviceId existing job := ⟨jobFound, target⟩
    have expected := (inv.services serviceId).expected row existing job found ofJob version
    -- the row was queued or failed: a pending row has no job of its version
    have stillExpected : job.status ∈ expectedJob .queued := by
      rcases legal with queued | legal
      · rwa [queued] at expected
      · cases status : row.applyStatus <;> simp_all [legalApply, expectedJob]
    refine inv.wrote (wrote_row l jobFound _) (jobsBelow_setService inv.jobsBelow up) target ?_ ?_
      (.inl ⟨version, stillExpected⟩) active
    · intro old oldFound
      cases jobFound.symm.trans oldFound
      exact target
    · exact fun key old ofOld same =>
        (inv.services serviceId).unique key existing old job ofOld ofJob same
  next missing =>
    have absent := jobForTargetVersion_none.mp missing
    refine inv.wrote (wrote_setService l serviceId _ jobId _) ?_ rfl (by simp [fresh]) ?_
      (.inl ⟨rfl, by simp [expectedJob]⟩) active
    · exact jobsBelow_setService (jobsBelow_setJob inv.jobsBelow (by simp [found])) up
    · exact fun key old ofOld same => absurd same (absent key old ofOld.1 ofOld.2)

/-- A failed row has a failed job of its version, so `retry` requeues that job. -/
theorem retry_current (found : l.services.lookup serviceId = some row)
    (failed : row.applyStatus = .failed) (jobId : JobId) (createdAt : Nat) :
    ∃ current job, JobOf l serviceId current job ∧ job.version = row.version ∧
      job.status = .failed ∧ l.retry serviceId jobId createdAt = .ok
        ((l.setJob current { job with status := .queued, error := none }).setService serviceId
          { row with applyStatus := .queued }, current) := by
  obtain ⟨existing, other, ofOther, otherVersion⟩ :=
    (inv.services serviceId).currentExists row found (by simp [failed])
  cases hit : l.jobForTargetVersion serviceId row.version with
  | none =>
    exact absurd otherVersion (jobForTargetVersion_none.mp hit existing other ofOther.1
      ofOther.2)
  | some current =>
    obtain ⟨job, jobFound, target, version⟩ := jobForTargetVersion_some hit
    have expected := (inv.services serviceId).expected row current job found
      ⟨jobFound, target⟩ version
    rw [failed] at expected
    refine ⟨current, job, ⟨jobFound, target⟩, version, by simpa [expectedJob] using expected, ?_⟩
    have queued : assertTransition .failed .queued = .ok () := rfl
    simp only [Ledger.retry, loadServiceForUpdate_ok.mpr found, failed,
      requeueCurrentJob, hit, jobFound, queued, bind, Except.bind, ne_eq,
      not_true_eq_false, if_false]
    rfl

/-- A retry moves the failed job of the current version, under its own identifier. -/
theorem retry_moved {job : JobId} (retried : l.retry serviceId jobId createdAt = .ok (l', job)) :
    ∃ row old, l.services.lookup serviceId = some row ∧ JobOf l serviceId job old ∧
      old.status = .failed ∧
      Move l serviceId job { row with applyStatus := .queued }
        { old with status := .queued, error := none } ∧
      Wrote l serviceId { row with applyStatus := .queued } job
        { old with status := .queued, error := none } l' := by
  obtain ⟨row, found, failed, _⟩ := retry_ok retried
  obtain ⟨current, old, ofOld, version, wasFailed, equation⟩ :=
    retry_current inv found failed jobId createdAt
  rw [equation] at retried
  simp only [Except.ok.injEq, Prod.mk.injEq] at retried
  obtain ⟨rfl, rfl⟩ := retried
  exact ⟨row, old, found, ofOld, wasFailed, .retried found ofOld version.symm failed wasFailed,
    wrote_setService l serviceId _ current _⟩

theorem retry_inv {job : JobId} (retried : l.retry serviceId jobId createdAt = .ok (l', job)) :
    LedgerInv l' := by
  obtain ⟨_, _, _, _, _, move, wrote⟩ := retry_moved inv retried
  exact inv.move move wrote

end

theorem jobOf_deleteService {other : ServiceId} :
    JobOf (l.deleteService serviceId) other jobId job ↔
      other ≠ serviceId ∧ JobOf l other jobId job := by
  simp only [JobOf, deleteService_jobs]
  constructor
  · rintro ⟨⟨found, kept⟩, target⟩
    exact ⟨fun same => kept (same ▸ target), found, target⟩
  · rintro ⟨different, found, target⟩
    exact ⟨⟨found, by simpa [target] using different⟩, target⟩

section

variable (inv : LedgerInv l)
include inv

theorem deleteService_inv : LedgerInv (l.deleteService serviceId) := by
  have rows := deleteService_services l serviceId
  refine ⟨?_, fun other => ?_⟩
  · intro jobId job other found target
    obtain ⟨different, ofJob⟩ := jobOf_deleteService.mp ⟨found, target⟩
    rw [rows, if_neg different]
    exact inv.jobsBelow jobId job other ofJob.1 ofJob.2
  · by_cases same : other = serviceId
    · subst same
      have noRow : ∀ row, (l.deleteService other).services.lookup other ≠ some row := by simp [rows]
      have noJobs : ∀ key job, ¬ JobOf (l.deleteService other) other key job :=
        fun key job ofJob => (jobOf_deleteService.mp ofJob).1 rfl
      exact ⟨fun j₁ _ job₁ _ of₁ => absurd of₁ (noJobs j₁ job₁),
        fun _ key found _ ofJob => absurd ofJob (noJobs key found),
        fun row found => absurd found (noRow row), fun row found => absurd found (noRow row)⟩
    · refine (inv.services other).congr ⟨?_, fun key job => ?_⟩
      · rw [rows, if_neg same]
      · rw [jobOf_deleteService]
        exact ⟨fun h => h.2, fun h => ⟨same, h⟩⟩

/-! ## Active versions -/

theorem Ledger.Move.activeVersion_grows (move : Move l serviceId jobId row' job')
    (found : l.services.lookup serviceId = some row) {v : Nat} (was : row.activeVersion = some v) :
    ∃ v', row'.activeVersion = some v' ∧ v ≤ v' := by
  cases move with
  | created missing =>
    rw [missing] at found
    cases found
  | activated old _ current _ =>
    cases old.symm.trans found
    have le := (((inv.services serviceId).active row found).2 v was).1
    exact ⟨_, rfl, le.trans_eq current⟩
  | edited old | claimed old | failed old | retried old | superseded old =>
    cases old.symm.trans found
    exact ⟨v, was, le_refl v⟩

/-! ## Marks that do not raise -/

theorem LedgerInv.row_applying (found : l.services.lookup serviceId = some row)
    (ofJob : JobOf l serviceId jobId job) (applying : job.status = .applying)
    (current : row.version = job.version) : row.applyStatus = .applying := by
  have expected := (inv.services serviceId).expected row jobId job found ofJob current.symm
  cases status : row.applyStatus <;> simp_all [expectedJob]

/-- A job is claimed without an exception unless it is already applying. -/
theorem markApplying_ok (found : l.services.lookup serviceId = some row)
    (ofJob : JobOf l serviceId jobId job)
    (free : row.version = job.version → job.status ≠ .applying) :
    ∃ l', l.markApplying jobId = .ok l' := by
  cases terminal : isTerminal job.status with
  | true =>
    refine ⟨l, ?_⟩
    simp only [markApplying, markJob, loadJobForUpdate_ok.mpr ofJob.1, bind, Except.bind, terminal,
      if_true]
    rfl
  | false =>
    by_cases current : row.version = job.version
    · -- a queued job of the current version belongs to a queued row
      have queued : row.applyStatus = .queued := by
        have expected := (inv.services serviceId).expected row jobId job found ofJob current.symm
        have idle := free current
        cases status : job.status <;> cases rowStatus : row.applyStatus <;>
          simp_all [isTerminal, expectedJob]
      exact ⟨_, markJob_current _ _ ofJob.1 terminal ofJob.2 found current
        (by simp [queued, legalApply]) rfl⟩
    · exact ⟨_, markJob_superseded _ _ _ _ ofJob.1 terminal ofJob.2 found current⟩

end

theorem markJob_of_applying {next : ApplyStatus}
    {check : ProtectedService → AgentJob → Except Raised Unit}
    (serviceUpdate : ProtectedService → AgentJob → ProtectedService)
    (jobUpdate : AgentJob → AgentJob) (inv : LedgerInv l) (ofJob : JobOf l serviceId jobId job)
    (applying : job.status = .applying) (legal : next ∈ legalApply .applying)
    (checked : ∀ row, l.services.lookup serviceId = some row → row.version = job.version →
      row.applyStatus = .applying → check row job = .ok ()) :
    ∃ l', l.markJob jobId next check serviceUpdate jobUpdate = .ok l' := by
  obtain ⟨row, found, _⟩ := inv.jobsBelow jobId job serviceId ofJob.1 ofJob.2
  have live : isTerminal job.status = false := by rw [applying]; rfl
  by_cases current : row.version = job.version
  · have status := inv.row_applying found ofJob applying current
    exact ⟨_, markJob_current serviceUpdate jobUpdate ofJob.1 live ofJob.2 found current
      (status ▸ legal) (checked row found current status)⟩
  · exact ⟨_, markJob_superseded _ _ _ _ ofJob.1 live ofJob.2 found current⟩

theorem ledgerInv_empty : LedgerInv ⟨∅, ∅⟩ := by
  refine ⟨?_, fun serviceId => ⟨?_, ?_, ?_, ?_⟩⟩ <;> simp [JobsBelow, JobOf]

end ScrubbingGateway.Control
