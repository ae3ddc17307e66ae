import ScrubbingGateway.Control.Processor

/-!
# Startup recovery

When the worker starts it reconciles the ledger: queued jobs are processed, then every job that a
crashed worker left in `applying` is recovered. Recovery fails the job and retries its service,
which is only legal while the service is in status `failed`. A job that was superseded while the
worker was down does not fail its service, and this is where startup recovery breaks.
-/

namespace ScrubbingGateway.Control

open Raise

/-- The ledger transactions. An edit is `bumpVersion` followed by `enqueue`. -/
inductive LedgerOp where
  | createService (serviceId : ServiceId) (jobId : JobId) (now : Nat)
  | deleteService (serviceId : ServiceId)
  | bumpVersion (serviceId : ServiceId)
  | enqueue (serviceId : ServiceId) (trigger : ChangeTrigger) (jobId : JobId) (now : Nat)
  | markApplying (jobId : JobId)
  | markActive (jobId : JobId)
  | markFailed (jobId : JobId) (error : String)
  | retry (serviceId : ServiceId) (jobId : JobId) (now : Nat)
  deriving DecidableEq, Repr

def LedgerOp.apply (l : Ledger) : LedgerOp → Except Raised Ledger
  | .createService serviceId jobId now => (l.createService serviceId jobId now).map Prod.fst
  | .deleteService serviceId => .ok (l.deleteService serviceId)
  | .bumpVersion serviceId => (l.bumpVersion serviceId).map Prod.fst
  | .enqueue serviceId trigger jobId now =>
    if jobId ∈ l.jobs then .error .sqlAlchemyError else do
    let service ← l.loadServiceForUpdate serviceId
    let (enqueued, _) ← l.enqueueServiceUpdate serviceId service trigger jobId now
    return enqueued
  | .markApplying jobId => l.markApplying jobId
  | .markActive jobId => l.markActive jobId
  | .markFailed jobId error => l.markFailed jobId error
  | .retry serviceId jobId now => (l.retry serviceId jobId now).map Prod.fst

/-- The databases that transactions lead to, one after another. A transaction that raises and a
worker that crashes between two of them leave the database as it is; transactions on feeds, deny
jobs and the maintenance switch may change anything but service rows and service jobs. -/
inductive Reachable : Db → Prop where
  | empty (db : Db) : db.ledger = ⟨∅, ∅⟩ → Reachable db
  | transaction {db : Db} {ledger : Ledger} (op : LedgerOp) : Reachable db →
      op.apply db.ledger = .ok ledger → Reachable { db with ledger := ledger }
  | other {db db' : Db} : Reachable db → ServiceFrame db db' → Reachable db'

variable {db : Db} {l l' : Ledger} {jobId : JobId} {serviceId : ServiceId} {job : AgentJob}

theorem LedgerInv.congr {db' : Db} (frame : ServiceFrame db db') (inv : LedgerInv db.ledger) :
    LedgerInv db'.ledger := by
  refine ⟨?_, fun serviceId => (inv.services serviceId).congr (frame serviceId)⟩
  intro jobId job serviceId found target
  have ofJob := ((frame serviceId).jobs jobId job).mp ⟨found, target⟩
  rw [(frame serviceId).row]
  exact inv.jobsBelow jobId job serviceId ofJob.1 ofJob.2

theorem map_fst_ok {α β : Type} {x : Except Raised (α × β)} {a : α}
    (mapped : x.map Prod.fst = .ok a) : ∃ b, x = .ok (a, b) := by
  cases x with
  | error e => cases mapped
  | ok pair =>
    cases mapped
    exact ⟨pair.2, rfl⟩

theorem LedgerOp.apply_inv (op : LedgerOp) (inv : LedgerInv l) (applied : op.apply l = .ok l') :
    LedgerInv l' := by
  cases op with
  | createService serviceId jobId now =>
    obtain ⟨_, created⟩ := map_fst_ok applied
    obtain ⟨_, _, move, wrote⟩ := Ledger.createService_moved inv.jobsBelow created
    exact inv.move move wrote
  | deleteService serviceId =>
    cases applied
    exact deleteService_inv inv
  | bumpVersion serviceId =>
    obtain ⟨_, bumped⟩ := map_fst_ok applied
    exact bumpVersion_inv inv bumped
  | enqueue serviceId trigger jobId now =>
    obtain ⟨fresh, applied⟩ := Raise.ite_error_eq_ok.mp applied
    obtain ⟨service, loaded, applied⟩ := bind_eq_ok.mp applied
    obtain ⟨⟨enqueued, job⟩, done, applied⟩ := bind_eq_ok.mp applied
    cases applied
    exact enqueueServiceUpdate_inv inv (Ledger.loadServiceForUpdate_ok.mp loaded)
      (AList.lookup_eq_none.mpr fresh) done
  | markApplying jobId => exact inv.moved (Ledger.markApplying_moved applied)
  | markActive jobId => exact inv.moved (Ledger.markActive_moved applied)
  | markFailed jobId error => exact inv.moved (Ledger.markFailed_moved applied)
  | retry serviceId jobId now =>
    obtain ⟨_, retried⟩ := map_fst_ok applied
    exact retry_inv inv retried

theorem Reachable.ledgerInv (reachable : Reachable db) : LedgerInv db.ledger := by
  induction reachable with
  | empty db isEmpty =>
    rw [isEmpty]
    exact ledgerInv_empty
  | transaction op _ applied ih => exact op.apply_inv ih applied
  | other _ frame ih => exact ih.congr frame

/-- A job left in `applying` whose service has moved on to another version. -/
def Orphaned (l : Ledger) (serviceId : ServiceId) (jobId : JobId) : Prop :=
  ∃ job row, JobOf l serviceId jobId job ∧ job.status = .applying ∧
    l.services.lookup serviceId = some row ∧ row.version ≠ job.version

/-- A superseded applying job is there only under a failed service, and at most once. -/
def Recoverable (l : Ledger) : Prop :=
  ∀ serviceId jobId, Orphaned l serviceId jobId →
    (∃ row, l.services.lookup serviceId = some row ∧ row.applyStatus = .failed) ∧
      ∀ other, Orphaned l serviceId other → other = jobId

def Harmless {α : Type} (result : Except Raised α) : Prop :=
  (∀ text, result ≠ .error (.notFailed text)) ∧
    ∀ text, result ≠ .error (.illegalTransition text)

/-- Recovery raises neither exception, and when it returns no service job is applying. -/
def StartupTotal (result : Db × Except Raised Nat) : Prop :=
  Harmless result.2 ∧
    ∀ processed, result.2 = .ok processed → ∀ jobId job,
      result.1.ledger.jobs.lookup jobId = some job → job.jobType = .serviceUpdate →
        job.status ≠ .applying

/-! ## Phase one: the queued jobs -/

/-- The job is not applying, or it has the version of its row. -/
def Settled (l : Ledger) (jobId : JobId) : Prop := ∀ serviceId, ¬ Orphaned l serviceId jobId

/-- Rows keep their version, and one that changes was not failed and gets an allowed status. -/
def RowsKept (Allowed : ApplyStatus → Prop) (l l' : Ledger) : Prop :=
  ∀ serviceId, l'.services.lookup serviceId = l.services.lookup serviceId ∨
    ∃ row row', l.services.lookup serviceId = some row ∧
      l'.services.lookup serviceId = some row' ∧ row.applyStatus ≠ .failed ∧
      row'.version = row.version ∧ Allowed row'.applyStatus

/-- What processing a job may do to the service part of the ledger. -/
structure Touches (Allowed : ApplyStatus → Prop) (jobId : JobId) (l l' : Ledger) : Prop where
  inv : LedgerInv l'
  rows : RowsKept Allowed l l'
  jobs : ∀ serviceId other job, other ≠ jobId →
    (JobOf l' serviceId other job ↔ JobOf l serviceId other job)
  settled : Settled l jobId → Settled l' jobId

theorem orphaned_congr {other : JobId}
    (version : (l'.services.lookup serviceId).map ProtectedService.version =
      (l.services.lookup serviceId).map ProtectedService.version)
    (jobs : ∀ job, job.status = .applying →
      (JobOf l' serviceId other job ↔ JobOf l serviceId other job)) :
    Orphaned l' serviceId other ↔ Orphaned l serviceId other := by
  constructor
  · rintro ⟨job, row', ofJob, applying, found', stale⟩
    rw [found'] at version
    obtain ⟨row, found, sameVersion⟩ := Option.map_eq_some_iff.mp version.symm
    exact ⟨job, row, (jobs job applying).mp ofJob, applying, found, by omega⟩
  · rintro ⟨job, row, ofJob, applying, found, stale⟩
    rw [found] at version
    obtain ⟨row', found', sameVersion⟩ := Option.map_eq_some_iff.mp version
    exact ⟨job, row', (jobs job applying).mpr ofJob, applying, found', by omega⟩

section Touched

variable {Allowed : ApplyStatus → Prop} {a b c : Ledger}

theorem RowsKept.trans (first : RowsKept Allowed a b) (second : RowsKept Allowed b c) :
    RowsKept Allowed a c := by
  intro serviceId
  rcases second serviceId with same | ⟨row, row', found, found', live, version, allowed⟩
  · rw [same]
    exact first serviceId
  · rcases first serviceId with same | ⟨old, _, oldFound, again, oldLive, oldVersion, _⟩
    · exact .inr ⟨row, row', same ▸ found, found', live, version, allowed⟩
    · cases found.symm.trans again
      exact .inr ⟨old, row', oldFound, found', oldLive, version.trans oldVersion, allowed⟩

theorem RowsKept.version (kept : RowsKept Allowed l l') (serviceId : ServiceId) :
    (l'.services.lookup serviceId).map ProtectedService.version =
      (l.services.lookup serviceId).map ProtectedService.version := by
  rcases kept serviceId with same | ⟨row, row', found, found', _, version, _⟩
  · rw [same]
  · simp [found, found', version]

theorem Touches.trans (first : Touches Allowed jobId a b) (second : Touches Allowed jobId b c) :
    Touches Allowed jobId a c where
  inv := second.inv
  rows := first.rows.trans second.rows
  jobs serviceId other job different :=
    (second.jobs serviceId other job different).trans (first.jobs serviceId other job different)
  settled before := second.settled (first.settled before)

theorem Touches.of_frame {db' : Db} (inv : LedgerInv db.ledger) (frame : ServiceFrame db db') :
    Touches Allowed jobId db.ledger db'.ledger where
  inv := inv.congr frame
  rows serviceId := .inl (frame serviceId).row
  jobs serviceId other job _ := (frame serviceId).jobs other job
  settled before serviceId orphaned := before serviceId <|
    (orphaned_congr (by rw [(frame serviceId).row]) fun job _ =>
      (frame serviceId).jobs jobId job).mp orphaned

/-- A failed row is never marked, and a job that is claimed is current. -/
theorem Touches.of_moved {next : ApplyStatus} (inv : LedgerInv l)
    (moved : Ledger.Moved l next jobId l') (illegal : next ∉ legalApply .failed)
    (allowed : Allowed next) : Touches Allowed jobId l l' := by
  have inv' := inv.moved moved
  rcases moved with rfl | ⟨s, old, row, job, found, move, wrote, status⟩
  · exact ⟨inv, fun _ => .inl rfl, fun _ _ _ _ => Iff.rfl, fun before => before⟩
  refine ⟨inv', fun serviceId => ?_, fun serviceId other job different => ?_, fun _ other => ?_⟩
  · rw [wrote.services]
    split
    next same =>
      subst same
      rcases status with rfl | ⟨version, rfl, legal⟩
      · exact .inl found.symm
      · exact .inr ⟨old, row, found, rfl, fun failed => illegal (failed ▸ legal), version, allowed⟩
    · exact .inl rfl
  · rw [wrote.jobOf move.target]
    simp [different]
  · rintro ⟨new, row', ofNew, applying, found', stale⟩
    rcases (wrote.jobOf move.target).mp ofNew with ⟨_, rfl, rfl⟩ | ⟨different, _⟩
    · rw [wrote.services, if_pos rfl] at found'
      cases found'
      cases move with
      | claimed _ _ current => exact stale current
      | created _ _ _ _ queued | edited _ _ _ _ queued => cases queued.symm.trans applying
      | activated | failed | retried | superseded => cases applying
    · exact different rfl

/-- A job that goes on to its handler is applying. -/
theorem claimJob_touches (Allowed : ApplyStatus → Prop) (allowed : Allowed .applying)
    (inv : LedgerInv db.ledger)
    (idle : ∀ serviceId job, JobOf db.ledger serviceId jobId job → job.status ≠ .applying) :
    ∃ claimed proceed, claimJob db jobId = .ok (claimed, proceed) ∧
      Touches Allowed jobId db.ledger claimed.ledger ∧
      (proceed = true → ∀ serviceId job, JobOf claimed.ledger serviceId jobId job →
        job.status = .applying) := by
  have framed {after : Db} (other : NotServiceJob db jobId) (frame : ServiceFrame db after)
      (proceed : Bool) : Touches Allowed jobId db.ledger after.ledger ∧ (proceed = true →
        ∀ serviceId job, JobOf after.ledger serviceId jobId job → job.status = .applying) :=
    ⟨.of_frame inv frame, fun _ s job ofJob => absurd ofJob (frame.notServiceJob other s job)⟩
  cases found : db.ledger.jobs.lookup jobId with
  | none =>
    refine ⟨db, false, by simp [claimJob, found], framed ?_ (ServiceFrame.refl db) false⟩
    intro s job ofJob
    cases found.symm.trans ofJob.1
  | some job =>
    cases target : job.target with
    | service serviceId =>
      have ofJob : JobOf db.ledger serviceId jobId job := ⟨found, target⟩
      rw [claimJob_service ofJob]
      cases db.maintenanceEnabled with
      | true => exact ⟨db, false, rfl, .of_frame inv (ServiceFrame.refl db), by simp⟩
      | false =>
        obtain ⟨row, rowFound, _⟩ := inv.jobsBelow jobId job serviceId found target
        obtain ⟨l', marked⟩ := markApplying_ok inv rowFound ofJob fun _ => idle serviceId job ofJob
        refine ⟨{ db with ledger := l' }, (l'.jobs.lookup jobId).any fun job =>
          job.status == .applying, ?_,
          .of_moved inv (Ledger.markApplying_moved marked) (by decide) allowed, ?_⟩
        · simp [ServiceJobLifecycle.claim, marked, bind, Except.bind, pure, Except.pure]
        · intro proceed s again ofAgain
          simpa [ofAgain.1] using proceed
    | feedSyncRun runId =>
      have other := notServiceJob_of_target found (by simp [target])
      exact ⟨_, (FeedSyncJobLifecycle.claim db jobId).2,
        by simp [claimJob, found, AgentJob.jobType, target],
        framed other ((FeedSyncJobLifecycle.claim_written db jobId).frame other) _⟩
    | globalDeny =>
      have other := notServiceJob_of_target found (by simp [target])
      exact ⟨_, (GlobalDenyJobLifecycle.claim db jobId).2,
        by simp [claimJob, found, AgentJob.jobType, target],
        framed other ((GlobalDenyJobLifecycle.claim_written db jobId).frame other) _⟩

theorem finishJob_touches (Allowed : ApplyStatus → Prop) {error : Option String}
    (active : Allowed .active) (failed : error ≠ none → Allowed .failed) (inv : LedgerInv db.ledger)
    (found : db.ledger.jobs.lookup jobId = some job)
    (applying : ∀ serviceId job, JobOf db.ledger serviceId jobId job → job.status = .applying) :
    ∃ after, finishJob db jobId job error = .ok after ∧
      Touches Allowed jobId db.ledger after.ledger := by
  cases target : job.target with
  | service serviceId =>
    have ofJob : JobOf db.ledger serviceId jobId job := ⟨found, target⟩
    obtain ⟨l, _, done, moved, rfl | ⟨given, rfl⟩⟩ :=
      finishJob_moved inv ofJob (applying serviceId job ofJob) error
    · exact ⟨_, done, .of_moved inv moved (by decide) active⟩
    · exact ⟨_, done, .of_moved inv moved (by decide) (failed given)⟩
  | feedSyncRun runId =>
    have other := notServiceJob_of_target found (by simp [target])
    cases error with
    | none =>
      obtain ⟨after, done⟩ := FeedSyncJobLifecycle.succeed_none_ok db jobId
      refine ⟨after, ?_, .of_frame inv ((FeedSyncJobLifecycle.succeed_written done).frame other)⟩
      simpa [finishJob, succeedJob, AgentJob.jobType, target] using done
    | some text =>
      exact ⟨_, by simp [finishJob, failJob, AgentJob.jobType, target],
        .of_frame inv ((FeedSyncJobLifecycle.fail_written db jobId text).frame other)⟩
  | globalDeny =>
    have other := notServiceJob_of_target found (by simp [target])
    cases error with
    | none =>
      exact ⟨_, by simp [finishJob, succeedJob, AgentJob.jobType, target],
        .of_frame inv ((GlobalDenyJobLifecycle.succeed_written db jobId).frame other)⟩
    | some text =>
      exact ⟨_, by simp [finishJob, failJob, AgentJob.jobType, target],
        .of_frame inv ((GlobalDenyJobLifecycle.fail_written db jobId text).frame other)⟩

end Touched

/-- A handler that fails on no job, and a database without faults. -/
def WorkerEnv.Succeeds (env : WorkerEnv) : Prop :=
  (∀ db jobId, (env.handler db jobId).1 = .returned) ∧ ∀ db jobId, env.markFault db jobId = false

/-- No row becomes failed in an environment that succeeds. -/
def WorkerEnv.Allows (env : WorkerEnv) (status : ApplyStatus) : Prop :=
  env.Succeeds → status ≠ .failed

theorem harmless_ok {α : Type} (a : α) : Harmless (.ok a : Except Raised α) := by
  simp [Harmless]

theorem Harmless.error {α β : Type} {e : Raised}
    (harmless : Harmless (.error e : Except Raised α)) : Harmless (.error e : Except Raised β) := by
  simpa [Harmless] using harmless

/-- After its handler a job is left as it is by a database error, which no succeeding environment
has, or its terminal mark is written. -/
theorem afterHandler_cases (env : WorkerEnv) (claimed : Db) (jobId : JobId) :
    (¬ env.Succeeds ∧ afterHandler env jobId (env.handler claimed jobId) =
        ((env.handler claimed jobId).2, .error .sqlAlchemyError)) ∨
      ∃ error, (env.Succeeds → error = none) ∧
        env.markFault (env.handler claimed jobId).2 jobId = false ∧
        afterHandler env jobId (env.handler claimed jobId) =
          commitOrRollback (env.handler claimed jobId).2
            (markTerminal env (env.handler claimed jobId).2 jobId error) := by
  have succeeded : env.Succeeds → (env.handler claimed jobId).1 = .returned := fun ok => ok.1 _ _
  generalize env.handler claimed jobId = result at succeeded ⊢
  obtain ⟨outcome, handled⟩ := result
  cases fault : env.markFault handled jobId with
  | true =>
    refine Or.inl ⟨fun ok => by simp [ok.2] at fault, ?_⟩
    cases outcome <;> simp [afterHandler, markTerminal, fault, commitOrRollback]
  | false =>
    cases outcome with
    | databaseError => exact Or.inl ⟨(fun ok => by cases succeeded ok), rfl⟩
    | returned => exact Or.inr ⟨none, fun _ => rfl, rfl, rfl⟩
    | raised error => exact Or.inr ⟨some error, (fun ok => by cases succeeded ok), rfl, rfl⟩

theorem processJob_spec (env : WorkerEnv) (inv : LedgerInv db.ledger)
    (idle : ∀ serviceId job, JobOf db.ledger serviceId jobId job → job.status ≠ .applying) :
    Touches env.Allows jobId db.ledger (processJob env db jobId).1.ledger ∧
      Harmless (processJob env db jobId).2 ∧
      (env.Succeeds → (processJob env db jobId).2 = .ok ()) := by
  obtain ⟨claimed, proceed, claim, touches, applying⟩ :=
    claimJob_touches env.Allows (fun _ => nofun) inv idle
  simp only [processJob, claim]
  cases proceed with
  | false => exact ⟨touches, harmless_ok _, fun _ => rfl⟩
  | true =>
    have frame : ServiceFrame claimed (env.handler claimed jobId).2 := env.handler_frame claimed jobId
    have handled := touches.trans (.of_frame touches.inv frame)
    simp only [if_true]
    rcases afterHandler_cases env claimed jobId with ⟨fails, stopped⟩ | ⟨error, succeeds, fault, marks⟩
    · rw [stopped]
      exact ⟨handled, by simp [Harmless], fun ok => absurd ok fails⟩
    · rw [marks, markTerminal, fault]
      simp only [Bool.false_eq_true, if_false]
      cases found : (env.handler claimed jobId).2.ledger.jobs.lookup jobId with
      | none => exact ⟨handled, harmless_ok _, fun _ => rfl⟩
      | some job =>
        obtain ⟨after, done, marked⟩ := finishJob_touches env.Allows (fun _ => nofun)
          (fun given ok => absurd (succeeds ok) given) handled.inv found fun s job ofJob =>
            applying rfl s job (((frame s).jobs jobId job).mp ofJob)
        simp only [done, commitOrRollback]
        exact ⟨handled.trans marked, harmless_ok _, fun _ => trivial⟩

/-- What the first phase does to the ledger, and how it ends. -/
structure PhaseOne (env : WorkerEnv) (l : Ledger) (result : Db × Except Raised Nat) : Prop where
  inv : LedgerInv result.1.ledger
  rows : RowsKept env.Allows l result.1.ledger
  orphaned : ∀ serviceId jobId, Orphaned result.1.ledger serviceId jobId ↔
    Orphaned l serviceId jobId
  harmless : Harmless result.2
  succeeds : env.Succeeds → ∃ processed, result.2 = .ok processed

/-- Induction over the queue; the invariant is that the jobs still to come are not applying, which
holds because processing a job changes no other service job. -/
theorem processAll_spec (env : WorkerEnv) (ids : List JobId) (db : Db) (processed : Nat)
    (nodup : ids.Nodup) (inv : LedgerInv db.ledger)
    (idle : ∀ jobId ∈ ids, ∀ serviceId job, JobOf db.ledger serviceId jobId job →
      job.status ≠ .applying) :
    PhaseOne env db.ledger (processAll env db ids processed) := by
  induction ids generalizing db processed with
  | nil =>
    exact ⟨inv, fun _ => .inl rfl, fun _ _ => Iff.rfl, harmless_ok _, fun _ => ⟨processed, rfl⟩⟩
  | cons jobId rest ih =>
    obtain ⟨notIn, restNodup⟩ := List.nodup_cons.mp nodup
    have idleHere := idle jobId List.mem_cons_self
    obtain ⟨touches, harmless, succeeds⟩ := processJob_spec env inv idleHere
    simp only [processAll]
    rcases step : processJob env db jobId with ⟨after, result⟩
    rw [step] at touches harmless succeeds
    have orphaned (serviceId : ServiceId) (other : JobId) :
        Orphaned after.ledger serviceId other ↔ Orphaned db.ledger serviceId other := by
      by_cases same : other = jobId
      · subst same
        have before : Settled db.ledger other := by
          rintro serviceId ⟨job, _, ofJob, applying, _⟩
          exact idleHere serviceId job ofJob applying
        exact iff_of_false (touches.settled before serviceId) (before serviceId)
      · exact orphaned_congr (touches.rows.version serviceId) fun job _ =>
          touches.jobs serviceId other job same
    cases result with
    | error e =>
      exact ⟨touches.inv, touches.rows, orphaned, harmless.error, fun ok => nomatch succeeds ok⟩
    | ok _ =>
      have later := ih after (processed + 1) restNodup touches.inv (by
        intro other member serviceId job ofJob
        have different : other ≠ jobId := by
          rintro rfl
          exact notIn member
        exact idle other (List.mem_cons_of_mem _ member) serviceId job
          ((touches.jobs serviceId other job different).mp ofJob))
      exact ⟨later.inv, touches.rows.trans later.rows,
        fun s other => (later.orphaned s other).trans (orphaned s other), later.harmless,
        later.succeeds⟩

/-! ## Phase two: the jobs left applying -/

/-- What recovering one job does when it does not raise. -/
structure Recovered (l l' : Ledger) (jobId : JobId) : Prop where
  gone : ∀ serviceId job, JobOf l' serviceId jobId job → job.status ≠ .applying
  applying : ∀ serviceId other job, other ≠ jobId → job.status = .applying →
    (JobOf l' serviceId other job ↔ JobOf l serviceId other job)
  row : ∀ serviceId, ((∀ job, ¬ JobOf l serviceId jobId job) ∧
      l'.services.lookup serviceId = l.services.lookup serviceId) ∨
    ∃ row row' job, l.services.lookup serviceId = some row ∧
      l'.services.lookup serviceId = some row' ∧ row'.version = row.version ∧
      row'.applyStatus = .queued ∧ JobOf l serviceId jobId job ∧ job.status = .applying ∧
      (row.version ≠ job.version → row.applyStatus = .failed)

theorem Recovered.orphaned_iff (recovered : Recovered l l' jobId) (serviceId : ServiceId)
    (other : JobId) : Orphaned l' serviceId other ↔ other ≠ jobId ∧ Orphaned l serviceId other := by
  have version : (l'.services.lookup serviceId).map ProtectedService.version =
      (l.services.lookup serviceId).map ProtectedService.version := by
    rcases recovered.row serviceId with ⟨_, same⟩ | ⟨row, row', _, found, found', sameVersion, _⟩
    · rw [same]
    · simp [found, found', sameVersion]
  by_cases different : other = jobId
  · subst different
    refine iff_of_false ?_ fun orphaned => orphaned.1 rfl
    rintro ⟨job, _, ofJob, applying, _⟩
    exact recovered.gone serviceId job ofJob applying
  · rw [orphaned_congr version fun job applying =>
      recovered.applying serviceId other job different applying]
    simp [different]

/-- A service whose orphans recovery cannot handle. -/
def Doomed (l : Ledger) (serviceId : ServiceId) : Prop :=
  ∃ jobId, Orphaned l serviceId jobId ∧
    ((∀ row, l.services.lookup serviceId = some row → row.applyStatus ≠ .failed) ∨
      ∃ other, other ≠ jobId ∧ Orphaned l serviceId other)

theorem recoverable_iff : Recoverable l ↔ ∀ serviceId, ¬ Doomed l serviceId := by
  simp only [Recoverable, Doomed, ne_eq, not_exists, not_and, not_or, not_forall, not_not,
    exists_prop, not_imp_not]

/-- Recovery neither dooms a service nor saves it. -/
theorem Recovered.doomed_iff (inv : LedgerInv l) (recovered : Recovered l l' jobId)
    (serviceId : ServiceId) : Doomed l' serviceId ↔ Doomed l serviceId := by
  rcases recovered.row serviceId with ⟨otherService, same⟩ | ⟨row, row', job, found, found', _,
    queued, ofJob, applying, failedIfStale⟩
  · have kept (key : JobId) : Orphaned l' serviceId key ↔ Orphaned l serviceId key := by
      rw [recovered.orphaned_iff, and_iff_right_iff_imp]
      rintro ⟨job, _, ofJob, _⟩ rfl
      exact otherService job ofJob
    simp only [Doomed, kept, same]
  · -- the row is queued now, so one orphan that is not the recovered job is enough
    have after : Doomed l' serviceId ↔ ∃ other, other ≠ jobId ∧ Orphaned l serviceId other := by
      simp [Doomed, found', queued, recovered.orphaned_iff]
    rw [after]
    by_cases current : row.version = job.version
    · have rowApplying := inv.row_applying found ofJob applying current
      constructor
      · rintro ⟨other, _, orphaned⟩
        exact ⟨other, orphaned, Or.inl (by simp [found, rowApplying])⟩
      · rintro ⟨other, orphaned, _⟩
        refine ⟨other, ?_, orphaned⟩
        rintro rfl
        obtain ⟨_, _, ofJob₂, _, found₂, stale⟩ := orphaned
        cases found.symm.trans found₂
        cases ofJob.1.symm.trans ofJob₂.1
        exact stale current
    · constructor
      · rintro ⟨other, different, orphaned⟩
        exact ⟨jobId, ⟨job, row, ofJob, applying, found, current⟩, .inr ⟨other, different, orphaned⟩⟩
      · rintro ⟨orphan, orphaned, never | ⟨other, different, otherOrphaned⟩⟩
        · exact absurd (failedIfStale current) (never row found)
        · by_cases isRecovered : orphan = jobId
          · exact ⟨other, isRecovered ▸ different, otherOrphaned⟩
          · exact ⟨orphan, isRecovered, orphaned⟩

/-- The shape of recovery once the job is marked: the service exists and is retried. -/
theorem recoverOrphan_eq (env : WorkerEnv) {row : ProtectedService} {ledger : Ledger}
    (target : job.target = .service serviceId)
    (marked : db.ledger.markFailed jobId orphanError = .ok ledger)
    (found : ledger.services.lookup serviceId = some row) :
    recoverOrphan env db jobId job =
      (ledger.retry serviceId (env.newJob db).1 (env.newJob db).2).map
        fun retried => { db with ledger := retried.1 } := by
  have present : serviceId ∈ ledger.services := by
    rw [← AList.lookup_isSome, found]
    rfl
  simp only [recoverOrphan, target, ServiceJobLifecycle.recover, marked, bind, Except.bind,
    present, not_true_eq_false, if_false]
  cases ledger.retry serviceId (env.newJob db).1 (env.newJob db).2 with
  | error | ok => rfl

/-- The mark of an applying job fails the service if the job is current. -/
theorem markFailed_applying {row : ProtectedService} (inv : LedgerInv l)
    (found : l.services.lookup serviceId = some row) (ofJob : JobOf l serviceId jobId job)
    (applying : job.status = .applying) (error : String) :
    ∃ l' row' job', l.markFailed jobId error = .ok l' ∧
      Ledger.Wrote l serviceId row' jobId job' l' ∧ job'.target = .service serviceId ∧
      job'.status ≠ .applying ∧ row'.version = row.version ∧
      (row'.applyStatus = .failed ↔ row.version = job.version ∨ row.applyStatus = .failed) := by
  have live : isTerminal job.status = false := by rw [applying]; rfl
  by_cases current : row.version = job.version
  · have status := inv.row_applying found ofJob applying current
    exact ⟨_, _, _, Ledger.markJob_current _ _ ofJob.1 live ofJob.2 found current
      (by simp [status, legalApply]) rfl, Ledger.wrote_setJob .., ofJob.2, by simp, rfl,
      by simp [current]⟩
  · exact ⟨_, row, _, Ledger.markJob_superseded _ _ _ _ ofJob.1 live ofJob.2 found current,
      Ledger.wrote_back found _ _, ofJob.2, by simp [Ledger.markSuperseded], rfl, by simp [current]⟩

/-- The orphan is marked, and the job of the current version, the marked one or another, is queued
again. -/
theorem Recovered.of_wrote {mid : Ledger} {row row₁ row₂ : ProtectedService}
    {job₁ job₂ old : AgentJob} {key : JobId} (ofJob : JobOf l serviceId jobId job)
    (applying : job.status = .applying) (found : l.services.lookup serviceId = some row)
    (failedIfStale : row.version ≠ job.version → row.applyStatus = .failed)
    (first : Ledger.Wrote l serviceId row₁ jobId job₁ mid) (target₁ : job₁.target = .service serviceId)
    (idle₁ : job₁.status ≠ .applying) (ofOld : JobOf mid serviceId key old)
    (oldIdle : old.status ≠ .applying) (second : Ledger.Wrote mid serviceId row₂ key job₂ l')
    (target₂ : job₂.target = .service serviceId) (idle₂ : job₂.status ≠ .applying)
    (version : row₂.version = row.version) (queued : row₂.applyStatus = .queued) :
    Recovered l l' jobId where
  gone := by
    rintro other new ⟨newFound, _⟩
    rw [second.jobs, first.jobs, if_pos rfl] at newFound
    split at newFound
    all_goals
      cases newFound
      assumption
  applying := by
    intro other another new different isApplying
    rw [second.jobOf target₂]
    have middle : JobOf mid other another new ↔ JobOf l other another new := by
      rw [first.jobOf target₁]
      simp [different]
    by_cases isKey : another = key
    · -- the job that is queued again was not applying
      subst isKey
      refine iff_of_false ?_ fun ofNew => ?_
      · rintro (⟨_, rfl, _⟩ | ⟨ne, _⟩)
        · exact idle₂ isApplying
        · exact ne rfl
      · cases ofOld.1.symm.trans (middle.mpr ofNew).1
        exact oldIdle isApplying
    · simp [isKey, middle]
  row := by
    intro other
    rw [second.services, first.services]
    split
    next same =>
      subst same
      exact Or.inr ⟨row, row₂, job, found, rfl, version, queued, ofJob, applying, failedIfStale⟩
    next different => exact Or.inl ⟨fun _ ofThird => different (ofThird.service_eq ofJob), rfl⟩

/-- Recovering one applying job: it raises exactly on a superseded job of a service that is not
failed. -/
theorem recoverOrphan_spec (env : WorkerEnv) (inv : LedgerInv db.ledger)
    (found : db.ledger.jobs.lookup jobId = some job) (applying : job.status = .applying) :
    (∃ serviceId row text, JobOf db.ledger serviceId jobId job ∧
        db.ledger.services.lookup serviceId = some row ∧ row.version ≠ job.version ∧
        row.applyStatus ≠ .failed ∧ recoverOrphan env db jobId job = .error (.notFailed text)) ∨
      ∃ after, recoverOrphan env db jobId job = .ok after ∧ LedgerInv after.ledger ∧
        Recovered db.ledger after.ledger jobId := by
  have framed : ∀ after, NotServiceJob db jobId → ServiceFrame db after →
      LedgerInv after.ledger ∧ Recovered db.ledger after.ledger jobId := by
    intro after other frame
    refine ⟨inv.congr frame, ?_, ?_, ?_⟩
    · exact fun serviceId new ofNew => absurd ofNew (frame.notServiceJob other serviceId new)
    · exact fun serviceId key new _ _ => (frame serviceId).jobs key new
    · exact fun serviceId => Or.inl ⟨other serviceId, (frame serviceId).row⟩
  cases target : job.target with
  | service serviceId =>
    obtain ⟨row, rowFound, _⟩ := inv.jobsBelow jobId job serviceId found target
    have ofJob : JobOf db.ledger serviceId jobId job := ⟨found, target⟩
    obtain ⟨mid, row₁, job₁, marked, first, target₁, idle₁, version, failedIff⟩ :=
      markFailed_applying inv rowFound ofJob applying orphanError
    have markedRow : mid.services.lookup serviceId = some row₁ := by rw [first.services, if_pos rfl]
    rw [recoverOrphan_eq env target marked markedRow]
    by_cases failed : row₁.applyStatus = .failed
    · have markedInv := inv.moved (Ledger.markFailed_moved marked)
      obtain ⟨key, old, ofOld, _, oldFailed, retried⟩ :=
        retry_current markedInv markedRow failed (env.newJob db).1 (env.newJob db).2
      refine Or.inr ⟨_, by rw [retried]; rfl, retry_inv markedInv retried, ?_⟩
      exact .of_wrote ofJob applying rowFound (fun stale => (failedIff.mp failed).resolve_left stale)
        first target₁ idle₁ ofOld (by simp [oldFailed]) (Ledger.wrote_setService ..) ofOld.2
        (by simp) version rfl
    · obtain ⟨stale, notFailed⟩ := not_or.mp (failedIff.not.mp failed)
      refine Or.inl ⟨serviceId, row, "Apply status must be failed to retry", ofJob, rowFound, stale,
        notFailed, ?_⟩
      rw [Ledger.retry_notFailed markedRow failed]
      rfl
  | feedSyncRun runId =>
    have other := notServiceJob_of_target found (by simp [target])
    refine Or.inr ⟨FeedSyncJobLifecycle.recover db jobId, by simp [recoverOrphan, target], ?_⟩
    exact framed _ other ((FeedSyncJobLifecycle.recover_written db jobId).frame other)
  | globalDeny =>
    have other := notServiceJob_of_target found (by simp [target])
    refine Or.inr ⟨GlobalDenyJobLifecycle.recover db jobId, by simp [recoverOrphan, target], ?_⟩
    exact framed _ other ((GlobalDenyJobLifecycle.recover_written db jobId).frame other)

/-- By induction over the jobs, which always cover the service jobs that are still
applying. From a recoverable ledger nothing is raised and no applying job is left; with a doomed
service some recovery raises `NotFailedError`. -/
theorem recoverAll_spec (env : WorkerEnv) (ids : List JobId) (db : Db) (processed : Nat)
    (inv : LedgerInv db.ledger)
    (covered : ∀ serviceId jobId job, JobOf db.ledger serviceId jobId job →
      job.status = .applying → jobId ∈ ids) :
    (Recoverable db.ledger → StartupTotal (recoverAll env db ids processed)) ∧
      ∀ serviceId, Doomed db.ledger serviceId →
        ∃ text, (recoverAll env db ids processed).2 = .error (.notFailed text) := by
  induction ids generalizing db processed with
  | nil =>
    refine ⟨fun _ => ⟨harmless_ok _, fun _ _ jobId job found isService applying => ?_⟩, ?_⟩
    · cases target : job.target with
      | service serviceId => cases covered serviceId jobId job ⟨found, target⟩ applying
      | feedSyncRun | globalDeny => simp [AgentJob.jobType, target] at isService
    · rintro serviceId ⟨jobId, ⟨job, _, ofJob, applying, _⟩, _⟩
      cases covered serviceId jobId job ofJob applying
  | cons jobId rest ih =>
    simp only [recoverAll]
    have skip : (∀ serviceId job, JobOf db.ledger serviceId jobId job → job.status ≠ .applying) →
        ∀ serviceId other job, JobOf db.ledger serviceId other job → job.status = .applying →
          other ∈ rest := by
      intro idle serviceId other job ofJob applying
      rcases List.mem_cons.mp (covered serviceId other job ofJob applying) with rfl | member
      · exact absurd applying (idle serviceId job ofJob)
      · exact member
    cases found : db.ledger.jobs.lookup jobId with
    | none =>
      refine ih db processed inv (skip fun serviceId job ofJob => ?_)
      cases found.symm.trans ofJob.1
    | some job =>
      by_cases applying : job.status = .applying
      · simp only [applying, ne_eq, not_true_eq_false, if_false]
        rcases recoverOrphan_spec env inv found applying with
          ⟨serviceId, row, text, ofJob, rowFound, stale, notFailed, raised⟩ | ⟨after, done,
            afterInv, recovered⟩
        · refine ⟨fun recoverable => ?_, fun _ _ => ⟨text, by rw [raised]⟩⟩
          exact absurd ⟨jobId, ⟨job, row, ofJob, applying, rowFound, stale⟩,
            Or.inl (by simpa [rowFound] using notFailed)⟩ (recoverable_iff.mp recoverable serviceId)
        · rw [done]
          have later := ih after (processed + 1) afterInv (by
            intro serviceId other new ofNew newApplying
            have different : other ≠ jobId := by
              rintro rfl
              exact recovered.gone serviceId new ofNew newApplying
            have before := (recovered.applying _ _ _ different newApplying).mp ofNew
            rcases List.mem_cons.mp (covered serviceId other new before newApplying) with
              same | member
            · exact absurd same different
            · exact member)
          simp only [recoverable_iff, recovered.doomed_iff inv] at later ⊢
          exact later
      · simp only [applying, ne_eq, not_false_eq_true, if_true]
        refine ih db processed inv (skip fun serviceId other ofOther => ?_)
        rw [← Option.some.inj (found.symm.trans ofOther.1)]
        exact applying

theorem queuedIds_idle (db : Db) (excludeFeedSync : Bool) :
    ∀ jobId ∈ queuedIds db excludeFeedSync, ∀ serviceId job,
      JobOf db.ledger serviceId jobId job → job.status ≠ .applying := by
  intro jobId member serviceId job ofJob applying
  obtain ⟨other, found, kept⟩ := (Table.mem_selectKeys _ _ _ _).mp member
  rw [← Option.some.inj (ofJob.1.symm.trans found), applying] at kept
  simp at kept

theorem mem_applyingIds (ofJob : JobOf db.ledger serviceId jobId job)
    (applying : job.status = .applying) : jobId ∈ applyingIds db :=
  (Table.mem_selectKeys _ _ _ _).mpr ⟨job, ofJob.1, by simp [applying]⟩

/-- A worker whose handlers and database never fail. -/
def succeedingEnv : WorkerEnv where
  handler := fun db _ => (.returned, db)
  handler_frame := fun db _ serviceId => SameFor.refl db.ledger serviceId
  markFault := fun _ _ => false
  newJob := fun _ => (0, 0)

/-- On every reachable ledger: startup recovery is total, whatever the handlers and the database
do, if and only if no applying job has been superseded except a single one of a failed service. -/
theorem startupTotal_iff_recoverable {db : Db} (reachable : Reachable db) :
    (∀ env excludeFeedSync, StartupTotal (reconcileOnce env db true excludeFeedSync)) ↔
      Recoverable db.ledger := by
  have inv := reachable.ledgerInv
  have phaseOne := fun env excludeFeedSync => processAll_spec env (queuedIds db excludeFeedSync) db
    0 (Table.nodup_selectKeys _ _ _) inv (queuedIds_idle db excludeFeedSync)
  constructor
  · intro total
    refine recoverable_iff.mpr fun serviceId ⟨jobId, orphaned, why⟩ => ?_
    -- run a worker that never fails: no service becomes failed in phase one
    have spec := phaseOne succeedingEnv true
    have ok : succeedingEnv.Succeeds := ⟨fun _ _ => rfl, fun _ _ => rfl⟩
    obtain ⟨processed, done⟩ := spec.succeeds ok
    have stillDoomed : Doomed (processAll succeedingEnv db (queuedIds db true) 0).1.ledger
        serviceId := by
      refine ⟨jobId, (spec.orphaned _ _).mpr orphaned, ?_⟩
      rcases why with notFailed | ⟨other, different, otherOrphaned⟩
      · refine Or.inl fun row' found' => ?_
        rcases spec.rows serviceId with same | ⟨_, _, _, again, _, _, allowed⟩
        · exact notFailed row' (same ▸ found')
        · cases found'.symm.trans again
          exact allowed ok
      · exact Or.inr ⟨other, different, (spec.orphaned _ _).mpr otherOrphaned⟩
    have outcome := (total succeedingEnv true).1.1
    unfold reconcileOnce at outcome
    rcases phase : processAll succeedingEnv db (queuedIds db true) 0 with ⟨after, result⟩
    rw [phase] at spec done stillDoomed outcome
    simp only at done
    subst done
    simp only [if_true] at outcome
    obtain ⟨text, raised⟩ := (recoverAll_spec succeedingEnv (applyingIds after) after processed
      spec.inv fun _ _ _ => mem_applyingIds).2 serviceId stillDoomed
    exact outcome text raised
  · intro recoverable env excludeFeedSync
    have spec := phaseOne env excludeFeedSync
    unfold reconcileOnce
    rcases phase : processAll env db (queuedIds db excludeFeedSync) 0 with ⟨after, result⟩
    rw [phase] at spec
    cases result with
    | error e => exact ⟨spec.harmless, fun _ isOk => by cases isOk⟩
    | ok processed =>
      simp only [if_true]
      refine (recoverAll_spec env _ after processed spec.inv fun _ _ _ => mem_applyingIds).1 ?_
      intro serviceId jobId orphaned
      obtain ⟨⟨row, found, failed⟩, unique⟩ :=
        recoverable serviceId jobId ((spec.orphaned serviceId jobId).mp orphaned)
      refine ⟨?_, fun other isOrphan => unique other ((spec.orphaned serviceId other).mp isOrphan)⟩
      -- a failed row is not changed by the first phase
      rcases spec.rows serviceId with same | ⟨old, _, oldFound, _, live, _⟩
      · exact ⟨row, same.trans found, failed⟩
      · cases found.symm.trans oldFound
        exact absurd failed live

/-- The database after a list of ledger transactions, those that raise being rolled back. -/
def afterOps (ops : List LedgerOp) : Db :=
  { ledger := ops.foldl (fun l op => match op.apply l with
      | .ok after => after
      | .error _ => l) ⟨∅, ∅⟩
    runs := ∅
    sources := ∅
    maintenanceEnabled := false }

theorem reachable_afterOps (ops : List LedgerOp) : Reachable (afterOps ops) := by
  induction ops using List.reverseRecOn with
  | nil => exact .empty _ rfl
  | append_singleton ops op ih =>
    cases applied : op.apply (afterOps ops).ledger with
    | error e =>
      have same : afterOps (ops ++ [op]) = afterOps ops := by
        simp_all [afterOps]
      rw [same]
      exact ih
    | ok ledger =>
      have next : afterOps (ops ++ [op]) = { afterOps ops with ledger := ledger } := by
        simp_all [afterOps]
      rw [next]
      exact .transaction op ih applied

/-- A worker crashed while applying version 1. -/
def crashed : List LedgerOp := [.createService 1 1 0, .markApplying 1]

theorem crashed_startup_total :
    Recoverable (afterOps crashed).ledger ∧
      ((∀ env excludeFeedSync,
          StartupTotal (reconcileOnce env (afterOps crashed) true excludeFeedSync)) ↔
        Recoverable (afterOps crashed).ledger) := by
  refine ⟨?_, startupTotal_iff_recoverable (reachable_afterOps crashed)⟩
  rintro serviceId jobId ⟨job, row, ofJob, applying, found, stale⟩
  have only : (afterOps crashed).ledger.jobs.entries = [⟨1, ⟨.service 1, 1, .service, .applying,
    none, 1, 0⟩⟩] := by decide
  have member := AList.mem_lookup_iff.mp ofJob.1
  rw [only] at member
  simp only [List.mem_singleton, Sigma.mk.injEq, heq_eq_eq] at member
  obtain ⟨rfl, rfl⟩ := member
  have isService := JobTarget.service.inj ofJob.2
  subst isService
  have row₁ : (afterOps crashed).ledger.services.lookup 1 = some ⟨.applying, 1, none⟩ := by decide
  rw [row₁] at found
  cases found
  exact absurd rfl stale

/-- The service was edited while version 1 was applying; the worker crashed before its mark. -/
def overtaken : List LedgerOp :=
  crashed ++ [.bumpVersion 1, .enqueue 1 .service 2 1]

/-- Recovery after `overtaken` activates version 2, supersedes the job of version 1 and then
retries a service that is not failed. -/
theorem overtaken_startup_raises :
    Reachable (afterOps overtaken) ∧
      ¬ StartupTotal (reconcileOnce succeedingEnv (afterOps overtaken) true true) := by
  refine ⟨reachable_afterOps overtaken, fun total => ?_⟩
  exact total.1.1 "Apply status must be failed to retry" (by decide)

end ScrubbingGateway.Control
