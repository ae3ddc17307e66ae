import ScrubbingGateway.Control.LedgerInvariant

/-!
# Job lifecycles

`app/worker/feed_jobs.py`: how a job of each type is claimed, finished, failed and recovered. The
redaction that `_scrub_error` applies to feed and deny errors is left to the caller, which passes
the scrubbed text.
-/

namespace ScrubbingGateway.Control

/-- The tables the worker's transactions touch, and the maintenance switch. -/
structure Db where
  ledger : Ledger
  runs : Table RunId FeedSyncRun
  sources : Table SourceId ThreatFeedSource
  maintenanceEnabled : Bool

namespace Db

def setJob (db : Db) (jobId : JobId) (job : AgentJob) : Db :=
  { db with ledger := db.ledger.setJob jobId job }

def setRun (db : Db) (runId : RunId) (run : FeedSyncRun) : Db :=
  { db with runs := db.runs.insert runId run }

def setSource (db : Db) (sourceId : SourceId) (source : ThreatFeedSource) : Db :=
  { db with sources := db.sources.insert sourceId source }

end Db

/-- No service row and no service job differs. -/
def ServiceFrame (db db' : Db) : Prop :=
  ∀ serviceId, SameFor db.ledger db'.ledger serviceId

/-- The job under this identifier, if any, is not a service job. -/
def NotServiceJob (db : Db) (jobId : JobId) : Prop :=
  ∀ serviceId job, ¬ JobOf db.ledger serviceId jobId job

theorem ServiceFrame.refl (db : Db) : ServiceFrame db db :=
  fun serviceId => SameFor.refl db.ledger serviceId

theorem ServiceFrame.trans {a b c : Db} (first : ServiceFrame a b) (second : ServiceFrame b c) :
    ServiceFrame a c :=
  fun serviceId => (first serviceId).trans (second serviceId)

variable {db db' : Db} {jobId : JobId}

theorem ServiceFrame.notServiceJob (frame : ServiceFrame db db') (other : NotServiceJob db jobId) :
    NotServiceJob db' jobId :=
  fun serviceId job ofJob => other serviceId job (((frame serviceId).jobs jobId job).mp ofJob)

variable {job : AgentJob}

theorem notServiceJob_of_target (found : db.ledger.jobs.lookup jobId = some job)
    (other : ∀ serviceId, job.target ≠ .service serviceId) : NotServiceJob db jobId := by
  intro serviceId again ofAgain
  cases found.symm.trans ofAgain.1
  exact other serviceId ofAgain.2

theorem Db.setJob_frame {new : AgentJob} (other : NotServiceJob db jobId)
    (found : db.ledger.jobs.lookup jobId = some job) (target : new.target = job.target) :
    ServiceFrame db (db.setJob jobId new) := by
  intro serviceId
  refine sameFor_setJob ?_ ?_
  · intro old oldFound isTarget
    exact other serviceId old ⟨oldFound, isTarget⟩
  · intro isTarget
    exact other serviceId job ⟨found, target.symm.trans isTarget⟩

/-- What a transaction on a job writes that is not a service job: the job itself, the status of its
run and that of the source. -/
inductive Written (db : Db) (jobId : JobId) : Db → Prop where
  | same : Written db jobId db
  | job {after : Db} {job new : AgentJob} (written : Written db jobId after)
      (found : after.ledger.jobs.lookup jobId = some job) (target : new.target = job.target) :
      Written db jobId (after.setJob jobId new)
  | run {after : Db} {runId : RunId} {run new : FeedSyncRun} (written : Written db jobId after)
      (found : after.runs.lookup runId = some run) (source : run.feedSourceId = new.feedSourceId)
      (trigger : run.trigger = new.trigger) (dry : run.dryRun = new.dryRun) :
      Written db jobId (after.setRun runId new)
  | source {after : Db} {sourceId : SourceId} {source new : ThreatFeedSource}
      (written : Written db jobId after) (found : after.sources.lookup sourceId = some source)
      (deleted : new.deleted = source.deleted) : Written db jobId (after.setSource sourceId new)

theorem Written.frame (written : Written db jobId db') (other : NotServiceJob db jobId) :
    ServiceFrame db db' := by
  induction written with
  | same => exact ServiceFrame.refl db
  | job _ found target ih => exact ih.trans (Db.setJob_frame (ih.notServiceJob other) found target)
  | run _ _ _ _ _ ih | source _ _ _ ih => exact ih

def orphanError : String := "worker restarted mid-apply"

def maxRecoveryAttempts : Nat := 3

namespace ServiceJobLifecycle

def claim (db : Db) (jobId : JobId) : Except Raised (Db × Bool) := do
  let ledger ← db.ledger.markApplying jobId
  -- the job is read again with `populate_existing`
  let claimed := (ledger.jobs.lookup jobId).any fun job => job.status == .applying
  return ({ db with ledger := ledger }, claimed)

def succeed (db : Db) (jobId : JobId) : Except Raised Db := do
  return { db with ledger := ← db.ledger.markActive jobId }

def fail (db : Db) (jobId : JobId) (error : String) : Except Raised Db := do
  return { db with ledger := ← db.ledger.markFailed jobId error }

/-- `newJobId` and `now` serve the job that `retry` inserts when the current one is missing. -/
def recover (db : Db) (jobId : JobId) (serviceId : ServiceId) (newJobId : JobId) (now : Nat) :
    Except Raised Db := do
  let ledger ← db.ledger.markFailed jobId orphanError
  if serviceId ∉ ledger.services then return { db with ledger := ledger }
  let (retried, _) ← ledger.retry serviceId newJobId now
  return { db with ledger := retried }

end ServiceJobLifecycle

namespace FeedSyncJobLifecycle

/-- A feed job with its run and source, when all three rows are there and the source is live. -/
inductive Loaded where
  | missing
  | noRun (job : AgentJob)
  | noSource (job : AgentJob) (runId : RunId) (run : FeedSyncRun)
  | live (job : AgentJob) (runId : RunId) (run : FeedSyncRun) (sourceId : SourceId)
      (source : ThreatFeedSource)

/-- `_locked_job`, `_locked_run` and `_locked_source`; a deleted source counts as absent. -/
def load (db : Db) (jobId : JobId) : Loaded :=
  match db.ledger.jobs.lookup jobId with
  | none => .missing
  | some job =>
    match job.target with
    | .service _ | .globalDeny => .noRun job
    | .feedSyncRun runId =>
      match db.runs.lookup runId with
      | none => .noRun job
      | some run =>
        match db.sources.lookup run.feedSourceId with
        | none => .noSource job runId run
        | some source =>
          if source.deleted then .noSource job runId run
          else .live job runId run run.feedSourceId source

/-- The rows a loaded feed job comes with. -/
def Loaded.Found (db : Db) (jobId : JobId) : Loaded → Prop
  | .missing => True
  | .noRun job => db.ledger.jobs.lookup jobId = some job
  | .noSource job runId run =>
    db.ledger.jobs.lookup jobId = some job ∧ db.runs.lookup runId = some run
  | .live job runId run sourceId source => db.ledger.jobs.lookup jobId = some job ∧
    db.runs.lookup runId = some run ∧ db.sources.lookup sourceId = some source

theorem load_found (db : Db) (jobId : JobId) : (load db jobId).Found db jobId := by
  unfold load
  split
  · trivial
  next job found =>
  split
  · exact found
  · exact found
  split
  · exact found
  next run runFound =>
  split
  · exact ⟨found, runFound⟩
  next source sourceFound =>
  split
  · exact ⟨found, runFound⟩
  · exact ⟨found, runFound, sourceFound⟩

def finishNoop (db : Db) (jobId : JobId) (job : AgentJob) (run : Option (RunId × FeedSyncRun)) :
    Db :=
  let finished := db.setJob jobId { job with status := .succeeded, error := none }
  match run with
  | none => finished
  | some (runId, run) => finished.setRun runId { run with status := .success, error := none }

/-- What the three transactions share: a job that is not `waiting`, or whose run is not `busy`, is
skipped, and one whose run or source has gone is finished. -/
def act {α : Type} (db : Db) (jobId : JobId) (waiting : JobStatus) (busy : FeedSyncStatus)
    (done : Db → α) (write : AgentJob → RunId → FeedSyncRun → SourceId → ThreatFeedSource → α) : α :=
  match load db jobId with
  | .missing => done db
  | .noRun job => if job.status ≠ waiting then done db else done (finishNoop db jobId job none)
  | .noSource job runId run =>
    if job.status ≠ waiting then done db else done (finishNoop db jobId job (some (runId, run)))
  | .live job runId run sourceId source =>
    if job.status ≠ waiting then done db
    else if run.status ≠ busy then done db else write job runId run sourceId source

def claim (db : Db) (jobId : JobId) : Db × Bool :=
  act db jobId .queued .queued (·, false) fun job runId run _ _ =>
    ((db.setJob jobId { job with
        status := .applying, error := none, attempts := job.attempts + 1 }).setRun runId
      { run with status := .running, error := none }, true)

def succeed (db : Db) (jobId : JobId) (outcome : Option FeedSyncStatus) : Except Raised Db :=
  act db jobId .applying .running .ok fun job runId run sourceId source =>
    let finalStatus := outcome.getD .success
    if finalStatus = .success ∨ finalStatus = .partialSuccess then
      .ok (((db.setJob jobId { job with status := .succeeded, error := none }).setRun runId
        { run with status := finalStatus, error := none }).setSource sourceId
        { source with lastStatus := some finalStatus, lastError := none })
    else
      .error (.valueError "Feed success outcome must be success or partial")

def fail (db : Db) (jobId : JobId) (error : String) : Db :=
  act db jobId .applying .running id fun job runId run sourceId source =>
    ((db.setJob jobId { job with status := .failed, error := some error }).setRun runId
      { run with status := .failed, error := some error }).setSource sourceId
      { source with lastStatus := some .failed, lastError := some error }

def recover (db : Db) (jobId : JobId) : Db :=
  let failed := fail db jobId orphanError
  match load failed jobId with
  | .missing | .noRun _ | .noSource _ _ _ => failed
  | .live job runId run _ _ =>
    if job.status ≠ .failed ∨ maxRecoveryAttempts ≤ job.attempts then failed
    else (failed.setJob jobId { job with status := .queued, error := none }).setRun runId
      { run with status := .queued, error := none }

variable {db after : Db} {jobId : JobId}

theorem act_cases {α : Type} {waiting : JobStatus} {busy : FeedSyncStatus} {result : α}
    {done : Db → α} {write : AgentJob → RunId → FeedSyncRun → SourceId → ThreatFeedSource → α}
    (acted : result = act db jobId waiting busy done write) :
    (∃ after, Written db jobId after ∧ result = done after) ∨
      ∃ job runId run sourceId source, (Loaded.live job runId run sourceId source).Found db jobId ∧
        result = write job runId run sourceId source := by
  have found := load_found db jobId
  unfold act at acted
  cases loaded : load db jobId with
  | missing => exact .inl ⟨db, .same, by rwa [loaded] at acted⟩
  | noRun job =>
    simp only [loaded] at acted found
    split_ifs at acted
    · exact .inl ⟨db, .same, acted⟩
    · exact .inl ⟨finishNoop db jobId job none, .job .same found rfl, acted⟩
  | noSource job runId run =>
    simp only [loaded] at acted found
    split_ifs at acted
    · exact .inl ⟨db, .same, acted⟩
    · exact .inl ⟨finishNoop db jobId job (some (runId, run)),
        .run (.job .same found.1 rfl) found.2 rfl rfl rfl, acted⟩
  | live job runId run sourceId source =>
    simp only [loaded] at acted found
    split_ifs at acted
    · exact .inl ⟨db, .same, acted⟩
    · exact .inl ⟨db, .same, acted⟩
    · exact .inr ⟨job, runId, run, sourceId, source, found, acted⟩

/-- Without an outcome the final status is `success`, which is never refused. -/
theorem succeed_none_ok (db : Db) (jobId : JobId) : ∃ after, succeed db jobId none = .ok after := by
  rcases act_cases (succeed.eq_1 db jobId none) with ⟨after, _, same⟩ | ⟨_, _, _, _, _, _, same⟩
  · exact ⟨_, same⟩
  · exact ⟨_, same⟩

theorem claim_written (db : Db) (jobId : JobId) : Written db jobId (claim db jobId).1 := by
  rcases act_cases (claim.eq_1 db jobId) with ⟨after, written, same⟩ |
    ⟨_, _, _, _, _, ⟨found, runFound, _⟩, same⟩ <;> rw [same]
  · exact written
  · exact .run (.job .same found rfl) runFound rfl rfl rfl

theorem succeed_written {outcome : Option FeedSyncStatus}
    (done : succeed db jobId outcome = .ok after) : Written db jobId after := by
  rcases act_cases (done.symm.trans (succeed.eq_1 db jobId outcome)) with ⟨_, written, ⟨⟩⟩ |
    ⟨_, _, _, _, _, ⟨found, runFound, sourceFound⟩, same⟩
  · exact written
  · dsimp only at same
    split at same
    · cases same
      exact .source (.run (.job .same found rfl) runFound rfl rfl rfl) sourceFound rfl
    · cases same

theorem fail_written (db : Db) (jobId : JobId) (error : String) :
    Written db jobId (fail db jobId error) := by
  rcases act_cases (fail.eq_1 db jobId error) with ⟨after, written, same⟩ |
    ⟨_, _, _, _, _, ⟨found, runFound, sourceFound⟩, same⟩ <;> rw [same]
  · exact written
  · exact .source (.run (.job .same found rfl) runFound rfl rfl rfl) sourceFound rfl

theorem recover_written (db : Db) (jobId : JobId) : Written db jobId (recover db jobId) := by
  have failed := fail_written db jobId orphanError
  have found := load_found (fail db jobId orphanError) jobId
  unfold recover
  dsimp only
  cases loaded : load (fail db jobId orphanError) jobId with
  | missing | noRun | noSource => exact failed
  | live job runId run sourceId source =>
    rw [loaded] at found
    dsimp only
    split
    · exact failed
    · exact .run (.job failed found.1 rfl) found.2.1 rfl rfl rfl

end FeedSyncJobLifecycle

namespace GlobalDenyJobLifecycle

/-- What the three transactions share: a job that is not `waiting` is skipped. -/
def act {α : Type} (db : Db) (jobId : JobId) (waiting : JobStatus) (skip : α)
    (write : AgentJob → α) : α :=
  match db.ledger.jobs.lookup jobId with
  | none => skip
  | some job => if job.status ≠ waiting then skip else write job

def claim (db : Db) (jobId : JobId) : Db × Bool :=
  act db jobId .queued (db, false) fun job => (db.setJob jobId { job with
    status := .applying, error := none, attempts := job.attempts + 1 }, true)

def succeed (db : Db) (jobId : JobId) : Db :=
  act db jobId .applying db fun job =>
    db.setJob jobId { job with status := .succeeded, error := none }

def fail (db : Db) (jobId : JobId) (error : String) : Db :=
  act db jobId .applying db fun job =>
    db.setJob jobId { job with status := .failed, error := some error }

def recover (db : Db) (jobId : JobId) : Db :=
  let failed := fail db jobId orphanError
  match failed.ledger.jobs.lookup jobId with
  | none => failed
  | some job =>
    if job.status ≠ .failed ∨ maxRecoveryAttempts ≤ job.attempts then failed
    else failed.setJob jobId { job with status := .queued, error := none }

theorem act_of {α : Type} {db : Db} {jobId : JobId} {waiting : JobStatus} {skip : α}
    {write : AgentJob → α} (P : α → Prop) (skipped : P skip)
    (written : ∀ job, db.ledger.jobs.lookup jobId = some job → P (write job)) :
    P (act db jobId waiting skip write) := by
  unfold act
  split
  · exact skipped
  next job found =>
    split
    · exact skipped
    · exact written job found

variable (db : Db) (jobId : JobId)

theorem claim_written : Written db jobId (claim db jobId).1 :=
  act_of (fun claimed : Db × Bool => Written db jobId claimed.1) .same
    fun _ found => .job .same found rfl

theorem succeed_written : Written db jobId (succeed db jobId) :=
  act_of (Written db jobId) .same fun _ found => .job .same found rfl

theorem fail_written (error : String) : Written db jobId (fail db jobId error) :=
  act_of (Written db jobId) .same fun _ found => .job .same found rfl

theorem recover_written : Written db jobId (recover db jobId) := by
  have failed := fail_written db jobId orphanError
  unfold recover
  dsimp only
  split
  · exact failed
  next job found =>
    split
    · exact failed
    · exact .job failed found rfl

end GlobalDenyJobLifecycle

end ScrubbingGateway.Control
