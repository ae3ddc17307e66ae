import ScrubbingGateway.Control.JobLifecycle

/-!
# The job processor

`app/worker/processor.py`. Each transaction commits on its own, so a run that raises keeps what it
committed before: the functions return the database beside the result.
-/

namespace ScrubbingGateway.Control

inductive HandlerOutcome where
  | returned
  | raised (error : String)
  | databaseError
  deriving DecidableEq, Repr

/-- What the processor does not decide itself: the outcome of a job's handler, whether the terminal
mark keeps meeting database errors, and the identifier and time of a new job. Handlers apply a
configuration or run a feed and write no service row and no service job. -/
structure WorkerEnv where
  handler : Db → JobId → HandlerOutcome × Db
  handler_frame : ∀ db jobId serviceId, SameFor db.ledger (handler db jobId).2.ledger serviceId
  markFault : Db → JobId → Bool
  newJob : Db → JobId × Nat

variable (db : Db)

def claimJob (jobId : JobId) : Except Raised (Db × Bool) :=
  match db.ledger.jobs.lookup jobId with
  | none => .ok (db, false)
  | some job =>
    match job.jobType with
    | .serviceUpdate =>
      if db.maintenanceEnabled then .ok (db, false) else ServiceJobLifecycle.claim db jobId
    | .feedSync => .ok (FeedSyncJobLifecycle.claim db jobId)
    | .globalDenyApply => .ok (GlobalDenyJobLifecycle.claim db jobId)

def succeedJob (jobId : JobId) (job : AgentJob) : Except Raised Db :=
  match job.jobType with
  | .serviceUpdate => ServiceJobLifecycle.succeed db jobId
  | .feedSync => FeedSyncJobLifecycle.succeed db jobId none
  | .globalDenyApply => .ok (GlobalDenyJobLifecycle.succeed db jobId)

def failJob (jobId : JobId) (job : AgentJob) (error : String) : Except Raised Db :=
  match job.jobType with
  | .serviceUpdate => ServiceJobLifecycle.fail db jobId error
  | .feedSync => .ok (FeedSyncJobLifecycle.fail db jobId error)
  | .globalDenyApply => .ok (GlobalDenyJobLifecycle.fail db jobId error)

def finishJob (jobId : JobId) (job : AgentJob) : Option String → Except Raised Db
  | none => succeedJob db jobId job
  | some error => failJob db jobId job error

/-- A fault stands for `TERMINAL_MARK_ATTEMPTS` operational errors in a row. -/
def markTerminal (env : WorkerEnv) (db : Db) (jobId : JobId) (error : Option String) :
    Except Raised Db :=
  if env.markFault db jobId then
    .error .sqlAlchemyError
  else
    match db.ledger.jobs.lookup jobId with
    | none => .ok db
    | some job => finishJob db jobId job error

/-- A transaction that raises is rolled back. -/
def commitOrRollback : Except Raised Db → Db × Except Raised Unit
  | .ok after => (after, .ok ())
  | .error e => (db, .error e)

/-- A database error of the handler is raised again; any other exception fails the job. -/
def afterHandler (env : WorkerEnv) (jobId : JobId) :
    HandlerOutcome × Db → Db × Except Raised Unit
  | (.databaseError, handled) => (handled, .error .sqlAlchemyError)
  | (.returned, handled) => commitOrRollback handled (markTerminal env handled jobId none)
  | (.raised error, handled) =>
    commitOrRollback handled (markTerminal env handled jobId (some error))

def processJob (env : WorkerEnv) (db : Db) (jobId : JobId) : Db × Except Raised Unit :=
  match claimJob db jobId with
  | .error e => (db, .error e)
  | .ok (claimed, proceed) =>
    if proceed then afterHandler env jobId (env.handler claimed jobId) else (claimed, .ok ())

def recoverOrphan (env : WorkerEnv) (db : Db) (jobId : JobId) (job : AgentJob) :
    Except Raised Db :=
  match job.target with
  | .service serviceId =>
    ServiceJobLifecycle.recover db jobId serviceId (env.newJob db).1 (env.newJob db).2
  | .feedSyncRun _ => .ok (FeedSyncJobLifecycle.recover db jobId)
  | .globalDeny => .ok (GlobalDenyJobLifecycle.recover db jobId)

def processAll (env : WorkerEnv) : Db → List JobId → Nat → Db × Except Raised Nat
  | db, [], processed => (db, .ok processed)
  | db, jobId :: rest, processed =>
    match processJob env db jobId with
    | (after, .error e) => (after, .error e)
    | (after, .ok _) => processAll env after rest (processed + 1)

def recoverAll (env : WorkerEnv) : Db → List JobId → Nat → Db × Except Raised Nat
  | db, [], processed => (db, .ok processed)
  | db, jobId :: rest, processed =>
    match db.ledger.jobs.lookup jobId with
    | none => recoverAll env db rest processed
    | some job =>
      if job.status ≠ .applying then recoverAll env db rest processed
      else
        match recoverOrphan env db jobId job with
        | .error e => (db, .error e)
        | .ok after => recoverAll env after rest (processed + 1)

/-- `ORDER BY created_at, id`. -/
def queueOrder (a b : JobId × AgentJob) : Bool :=
  decide (a.2.createdAt < b.2.createdAt ∨ (a.2.createdAt = b.2.createdAt ∧ a.1 ≤ b.1))

def queuedIds (excludeFeedSync : Bool) : List JobId :=
  Table.selectKeys db.ledger.jobs (fun job => job.status == .queued &&
    !(excludeFeedSync && job.jobType == .feedSync)) queueOrder

def applyingIds : List JobId :=
  Table.selectKeys db.ledger.jobs (fun job => job.status == .applying) queueOrder

def reconcileOnce (env : WorkerEnv) (db : Db) (includeOrphans excludeFeedSync : Bool) :
    Db × Except Raised Nat :=
  match processAll env db (queuedIds db excludeFeedSync) 0 with
  | (after, .error e) => (after, .error e)
  | (after, .ok processed) =>
    if includeOrphans then recoverAll env after (applyingIds after) processed
    else (after, .ok processed)

/-! ## Service jobs -/

variable {db} {serviceId : ServiceId} {jobId : JobId} {job : AgentJob}

theorem claimJob_service (ofJob : JobOf db.ledger serviceId jobId job) : claimJob db jobId =
    if db.maintenanceEnabled then .ok (db, false) else ServiceJobLifecycle.claim db jobId := by
  simp only [claimJob, ofJob.1, AgentJob.jobType, ofJob.2]

theorem finishJob_service {error : Option String} (target : job.target = .service serviceId) :
    finishJob db jobId job error = match error with
      | none => ServiceJobLifecycle.succeed db jobId
      | some error => ServiceJobLifecycle.fail db jobId error := by
  cases error <;> simp only [finishJob, succeedJob, failJob, AgentJob.jobType, target]

open Ledger in
/-- The terminal mark of a job that is applying is always legal. -/
theorem finishJob_moved (inv : LedgerInv db.ledger) (ofJob : JobOf db.ledger serviceId jobId job)
    (applying : job.status = .applying) (error : Option String) :
    ∃ l next, finishJob db jobId job error = .ok { db with ledger := l } ∧
      Moved db.ledger next jobId l ∧ (next = .active ∨ error ≠ none ∧ next = .failed) := by
  rw [finishJob_service ofJob.2]
  cases error with
  | none =>
    obtain ⟨l, marked⟩ : ∃ l, db.ledger.markActive jobId = .ok l := by
      refine markJob_of_applying _ _ inv ofJob applying (by simp [legalApply]) ?_
      -- a row that is not active yet has an older active version, if any
      intro row found current status
      have active := ((inv.services serviceId).active row found).2
      exact assertActiveVersionAdvances_ok fun v has =>
        current ▸ (active v has).2 (by simp [status])
    refine ⟨l, .active, ?_, markActive_moved marked, .inl rfl⟩
    simp only [ServiceJobLifecycle.succeed, marked]
    rfl
  | some text =>
    obtain ⟨l, marked⟩ : ∃ l, db.ledger.markFailed jobId text = .ok l :=
      markJob_of_applying _ _ inv ofJob applying (by simp [legalApply]) fun _ _ _ _ => rfl
    refine ⟨l, .failed, ?_, markFailed_moved marked, .inr ⟨by simp, rfl⟩⟩
    simp only [ServiceJobLifecycle.fail, marked]
    rfl

end ScrubbingGateway.Control
