import ScrubbingGateway.Control.Processor
import ScrubbingGateway.Control.ServiceEdits
import ScrubbingGateway.Lib.Transition

/-!
# Edits and the worker

Requests that edit services, one after another, between the transactions of one worker. The worker
holds no transaction from the claim of a job to its terminal mark: it reads the job, loads the
service, loads the node, runs the helper and then marks, and may stop at any of these points. A
transaction that raises changes nothing.
-/

namespace ScrubbingGateway.Control.ServiceRuns

open ScrubbingGateway.Control Ledger

/-- Where `process_job` is. -/
inductive Worker where
  | idle
  | claimed (jobId : JobId)
  /-- The handler has the job, with the service it is for. -/
  | reading (jobId : JobId) (serviceId : ServiceId)
  | loading (jobId : JobId)
  | loaded (jobId : JobId) (node : List ServiceConfig)
  | finished (jobId : JobId) (error : Option String)

def Worker.job : Worker → Option JobId
  | idle => none
  | claimed jobId | reading jobId _ | loading jobId | loaded jobId _ | finished jobId _ => some jobId

/-- The tables, the next value of `service_dp_id_seq`, the services of the last snapshot that the
data plane committed, and the worker. -/
structure World where
  db : Db
  configs : Table ServiceId ServiceConfig
  nextDpId : Int
  committed : List ServiceConfig
  worker : Worker

/-- How the helper ends: a failure may be reported after the snapshot has taken effect. -/
inductive Outcome where
  | applied
  | failed (error : String) (tookEffect : Bool)

inductive Label where
  | createService (serviceId : ServiceId) (request : ServiceConfig.NewService) (jobId : JobId)
      (now : Nat)
  | edit (serviceId : ServiceId) (change : Change) (jobId : JobId) (now : Nat)
  | deleteService (serviceId : ServiceId)
  | retry (serviceId : ServiceId) (jobId : JobId) (now : Nat)
  | setMaintenance (enabled : Bool)
  | deliver (jobId : JobId)
  | readJob
  | loadService
  | loadNode
  | apply (outcome : Outcome)
  | mark
  /-- A crash, a database error in the handler, or a mark that keeps meeting database errors. -/
  | abandon
  | recover (jobId newJobId : JobId) (now : Nat)

namespace World

def setLedger (w : World) (ledger : Ledger) : World := { w with db := { w.db with ledger := ledger } }

/-- The rows `load_node_config` selects from. -/
def rows (w : World) : List ServiceConfig := w.configs.entries.map Sigma.snd

/-- An identifier that `uuid4` may draw: no job has it, and none that the worker still holds had. -/
def freshJob (w : World) (jobId : JobId) : Bool :=
  decide (jobId ∉ w.db.ledger.jobs) && decide (w.worker.job ≠ some jobId)

end World

/-! ## Requests -/

def createService (w : World) (serviceId : ServiceId) (request : ServiceConfig.NewService)
    (jobId : JobId) (now : Nat) : Except Raised World := do
  let service ← ServiceConfig.createService w.nextDpId request
  let (ledger, _) ← w.db.ledger.createService serviceId jobId now
  return { w.setLedger ledger with
    configs := w.configs.insert serviceId service
    nextDpId := w.nextDpId + 1 }

def requireService (w : World) (serviceId : ServiceId) : Except Raised ServiceConfig :=
  match w.configs.lookup serviceId with
  | some service => .ok service
  | none => .error (.httpException 404 "Service not found")

def editService (w : World) (serviceId : ServiceId) (change : Change) (jobId : JobId)
    (now : Nat) : Except Raised World := do
  let service ← requireService w serviceId
  if change.noop service then return w
  let edited ← change.perform service
  let (ledger, _) ← w.db.ledger.editService serviceId change.trigger jobId now
  return { w.setLedger ledger with configs := w.configs.insert serviceId edited }

def deleteService (w : World) (serviceId : ServiceId) : Except Raised World := do
  let service ← requireService w serviceId
  if service.enabled then throw (.httpException 409 "Disable service first")
  return { w.setLedger (w.db.ledger.deleteService serviceId) with
    configs := w.configs.erase serviceId }

def retry (w : World) (serviceId : ServiceId) (jobId : JobId) (now : Nat) :
    Except Raised World := do
  let (ledger, _) ← w.db.ledger.retry serviceId jobId now
  return w.setLedger ledger

/-! ## The worker -/

def ofService (job : AgentJob) : Bool := job.jobType == .serviceUpdate

/-- `claim_job` of a delivered service job; what it raises leaves `process_job` and the ledger as it
was. -/
def deliver (w : World) (jobId : JobId) : World :=
  match claimJob w.db jobId with
  | .ok (db, true) => { w with db := db, worker := .claimed jobId }
  | .ok (db, false) => { w with db := db }
  | .error _ => w

def readJob (w : World) (jobId : JobId) : World :=
  match (w.db.ledger.jobs.lookup jobId).map AgentJob.target with
  | some (.service serviceId) => { w with worker := .reading jobId serviceId }
  | _ => { w with worker := .idle }

def loadService (w : World) (jobId : JobId) (serviceId : ServiceId) : World :=
  if serviceId ∈ w.configs then { w with worker := .loading jobId }
  else { w with worker := .finished jobId (some "RuntimeError: service missing") }

def applySnapshot (w : World) (jobId : JobId) (node : List ServiceConfig) : Outcome → World
  | .applied => { w with committed := node, worker := .finished jobId none }
  | .failed error tookEffect =>
    { w with
      committed := if tookEffect then node else w.committed
      worker := .finished jobId (some error) }

/-- `_mark_terminal`, which does nothing for a job that is gone. -/
def markTerminal (w : World) (jobId : JobId) (error : Option String) : Except Raised Db :=
  match w.db.ledger.jobs.lookup jobId with
  | none => .ok w.db
  | some job => finishJob w.db jobId job error

def mark (w : World) (jobId : JobId) (error : Option String) : World :=
  match markTerminal w jobId error with
  | .ok db => { w with db := db, worker := .idle }
  | .error _ => { w with worker := .idle }

/-- Recovery of one orphan at startup. -/
def recover (w : World) (jobId newJobId : JobId) (now : Nat) : Option World :=
  match w.db.ledger.jobs.lookup jobId with
  | none => none
  | some job =>
    match job.target with
    | .service serviceId =>
      if job.status = .applying then
        (ServiceJobLifecycle.recover w.db jobId serviceId newJobId now).toOption.map fun db =>
          { w with db := db }
      else none
    | .feedSyncRun _ | .globalDeny => none

def step (w : World) : Label → Option World
  | .createService serviceId request jobId now =>
    if w.freshJob jobId then (createService w serviceId request jobId now).toOption else none
  | .edit serviceId change jobId now =>
    if w.freshJob jobId then (editService w serviceId change jobId now).toOption else none
  | .deleteService serviceId => (deleteService w serviceId).toOption
  | .retry serviceId jobId now =>
    if w.freshJob jobId then (retry w serviceId jobId now).toOption else none
  | .setMaintenance enabled => some { w with db := { w.db with maintenanceEnabled := enabled } }
  | .deliver jobId =>
    match w.worker, w.db.ledger.jobs.lookup jobId with
    | .idle, some job => if ofService job then some (deliver w jobId) else none
    | _, _ => none
  | .readJob =>
    match w.worker with
    | .claimed jobId => some (readJob w jobId)
    | _ => none
  | .loadService =>
    match w.worker with
    | .reading jobId serviceId => some (loadService w jobId serviceId)
    | _ => none
  | .loadNode =>
    match w.worker with
    | .loading jobId => some { w with worker := .loaded jobId (loadNodeConfig w.rows) }
    | _ => none
  | .apply outcome =>
    match w.worker with
    | .loaded jobId node => some (applySnapshot w jobId node outcome)
    | _ => none
  | .mark =>
    match w.worker with
    | .finished jobId error => some (mark w jobId error)
    | _ => none
  | .abandon => some { w with worker := .idle }
  | .recover jobId newJobId now =>
    match w.worker with
    | .idle => recover w jobId newJobId now
    | _ => none

/-! ## What holds between any two steps -/

def Current (l : Ledger) (serviceId : ServiceId) (jobId : JobId) (row : ProtectedService) : Prop :=
  ∃ job, JobOf l serviceId jobId job ∧ job.version = row.version

/-- A row of the ledger with the configuration stored beside it. -/
def World.Row (w : World) (serviceId : ServiceId) (row : ProtectedService)
    (service : ServiceConfig) : Prop :=
  w.db.ledger.services.lookup serviceId = some row ∧ w.configs.lookup serviceId = some service

structure TablesOk (w : World) : Prop where
  ledger : LedgerInv w.db.ledger
  rested : Rested w.db.ledger
  configured : ∀ s, (w.configs.lookup s).isSome = (w.db.ledger.services.lookup s).isSome
  drawn : ∀ s service, w.configs.lookup s = some service → service.dpId < w.nextDpId
  distinct : ∀ s t a b, w.configs.lookup s = some a → w.configs.lookup t = some b →
    a.dpId = b.dpId → s = t

/-- What the worker has applied, has loaded or is about to report, by the version of its job. -/
structure WorkerOk (w : World) : Prop where
  live : ∀ s row service, w.Row s row service → row.applyStatus = .active →
    Shows w.committed service
  held : ∀ j job, w.worker.job = some j → w.db.ledger.jobs.lookup j = some job →
    job.status = .applying ∧ ∃ s, job.target = .service s
  node : ∀ j node, w.worker = .loaded j node → ∀ s row service, w.Row s row service →
    row.applyStatus = .active ∨ Current w.db.ledger s j row → Shows node service
  applied : ∀ j, w.worker = .finished j none → ∀ s row service, w.Row s row service →
    Current w.db.ledger s j row → Shows w.committed service

structure Inv (w : World) : Prop where
  tables : TablesOk w
  worker : WorkerOk w

/-! ## What a step can be -/

/-- What a step can be, with what it finds and writes. -/
inductive Stepped (w : World) : Label → World → Prop where
  | same {label} : Stepped w label w
  | createService {serviceId request jobId now service l job} (free : w.worker.job ≠ some jobId)
      (missing : w.db.ledger.services.lookup serviceId = none)
      (move : Move w.db.ledger serviceId jobId ⟨.queued, 1, none⟩ job)
      (wrote : Wrote w.db.ledger serviceId ⟨.queued, 1, none⟩ jobId job l)
      (dpId : service.dpId = w.nextDpId) :
      Stepped w (.createService serviceId request jobId now)
        { w.setLedger l with
          configs := w.configs.insert serviceId service
          nextDpId := w.nextDpId + 1 }
  | edit {serviceId change jobId now row service edited l job} (free : w.worker.job ≠ some jobId)
      (before : w.Row serviceId row service)
      (move : Move w.db.ledger serviceId jobId
        { row with version := row.version + 1, applyStatus := .queued } job)
      (wrote : Wrote w.db.ledger serviceId
        { row with version := row.version + 1, applyStatus := .queued } jobId job l)
      (dpId : edited.dpId = service.dpId) :
      Stepped w (.edit serviceId change jobId now)
        { w.setLedger l with configs := w.configs.insert serviceId edited }
  | deleteService {serviceId service} (configured : w.configs.lookup serviceId = some service) :
      Stepped w (.deleteService serviceId)
        { w.setLedger (w.db.ledger.deleteService serviceId) with
          configs := w.configs.erase serviceId }
  | retry {serviceId jobId now key l}
      (retried : w.db.ledger.retry serviceId jobId now = .ok (l, key)) :
      Stepped w (.retry serviceId jobId now) (w.setLedger l)
  | setMaintenance {enabled} : Stepped w (.setMaintenance enabled)
      { w with db := { w.db with maintenanceEnabled := enabled } }
  | deliver {jobId l worker} (idle : w.worker = .idle)
      (marked : w.db.ledger.markApplying jobId = .ok l)
      (claims : worker = .idle ∨ worker = .claimed jobId ∧ ∃ job s,
        JobOf l s jobId job ∧ job.status = .applying) :
      Stepped w (.deliver jobId) { w.setLedger l with worker := worker }
  /-- The worker goes on, or gives up, without a write. -/
  | turn {label worker} (holds : ∀ j, worker.job = some j → w.worker.job = some j)
      (unloaded : ∀ j node, worker ≠ .loaded j node) (unreported : ∀ j, worker ≠ .finished j none) :
      Stepped w label { w with worker := worker }
  | loadNode {jobId} (here : w.worker = .loading jobId) :
      Stepped w .loadNode { w with worker := .loaded jobId (loadNodeConfig w.rows) }
  | apply {jobId node outcome} (here : w.worker = .loaded jobId node) :
      Stepped w (.apply outcome) (applySnapshot w jobId node outcome)
  | activated {jobId l} (here : w.worker = .finished jobId none)
      (marked : w.db.ledger.markActive jobId = .ok l) :
      Stepped w .mark { w.setLedger l with worker := .idle }
  | failed {jobId error l} (here : w.worker = .finished jobId (some error))
      (marked : w.db.ledger.markFailed jobId error = .ok l) :
      Stepped w .mark { w.setLedger l with worker := .idle }
  | recover {jobId newJobId now l} (idle : w.worker = .idle)
      (marked : w.db.ledger.markFailed jobId orphanError = .ok l) :
      Stepped w (.recover jobId newJobId now) (w.setLedger l)
  | recoverRetry {serviceId jobId newJobId now key l retried} (idle : w.worker = .idle)
      (marked : w.db.ledger.markFailed jobId orphanError = .ok l)
      (again : l.retry serviceId newJobId now = .ok (retried, key)) :
      Stepped w (.recover jobId newJobId now) (w.setLedger retried)

variable {w w' : World} {serviceId : ServiceId} {jobId : JobId} {row : ProtectedService}
  {l : Ledger} {now : Nat} {service : ServiceConfig}

theorem World.freshJob_iff (fresh : w.freshJob jobId = true) :
    w.db.ledger.jobs.lookup jobId = none ∧ w.worker.job ≠ some jobId := by
  rw [World.freshJob, Bool.and_eq_true, decide_eq_true_eq, decide_eq_true_eq] at fresh
  exact ⟨AList.lookup_eq_none.mpr fresh.1, fresh.2⟩

theorem requireService_ok :
    requireService w serviceId = .ok service ↔ w.configs.lookup serviceId = some service := by
  unfold requireService
  cases w.configs.lookup serviceId <;> simp

variable {job : AgentJob}

theorem ofService_iff : ofService job = true ↔ ∃ serviceId, job.target = .service serviceId := by
  unfold ofService AgentJob.jobType
  cases job.target <;> simp

section Steps

variable {label : Label} {next : World}

theorem stepped_editService {change : Change} (inv : Inv w) (fresh : w.freshJob jobId = true)
    (done : editService w serviceId change jobId now = .ok next) :
    Stepped w (.edit serviceId change jobId now) next := by
  obtain ⟨service, required, done⟩ := Raise.bind_eq_ok.mp done
  simp only at done
  split at done
  · cases done
    exact .same
  · obtain ⟨edited, performed, done⟩ := Raise.bind_eq_ok.mp done
    obtain ⟨⟨l, job⟩, inserted, done⟩ := Raise.bind_eq_ok.mp done
    cases done
    obtain ⟨isNew, free⟩ := World.freshJob_iff fresh
    obtain ⟨row, new, found, move, wrote⟩ :=
      editService_moved inv.tables.ledger.jobsBelow isNew inserted
    exact .edit free ⟨found, requireService_ok.mp required⟩ move wrote
      (Change.perform_spec performed).1

theorem stepped_deliver (idle : w.worker = .idle) (ofJob : JobOf w.db.ledger serviceId jobId job) :
    Stepped w (.deliver jobId) (deliver w jobId) := by
  unfold deliver
  rw [claimJob_service ofJob]
  by_cases maintenance : w.db.maintenanceEnabled = true
  · simp only [maintenance, if_true]
    exact .same
  rw [if_neg maintenance]
  cases claimed : ServiceJobLifecycle.claim w.db jobId with
  | error e => exact .same
  | ok result =>
    obtain ⟨l, marked, claimed⟩ := Raise.bind_eq_ok.mp claimed
    cases claimed
    cases holds : (l.jobs.lookup jobId).any fun job => job.status == .applying with
    | false =>
      have delivered : Stepped w (.deliver jobId) { w.setLedger l with worker := w.worker } :=
        .deliver idle marked (.inl idle)
      exact delivered
    | true =>
      refine .deliver idle marked (.inr ⟨rfl, ?_⟩)
      obtain ⟨new, found, applying⟩ := (Option.any_eq_true ..).mp holds
      obtain ⟨s, target⟩ := Moved.target (markApplying_moved marked) ofJob found
      exact ⟨new, s, ⟨found, target⟩, by simpa using applying⟩

theorem stepped_mark {error : Option String} (inv : Inv w)
    (here : w.worker = .finished jobId error) : Stepped w .mark (mark w jobId error) := by
  unfold mark markTerminal
  cases known : w.db.ledger.jobs.lookup jobId with
  | none => exact .turn nofun nofun nofun
  | some job =>
    obtain ⟨_, s, target⟩ := inv.worker.held jobId job (by rw [here]; rfl) known
    simp only [finishJob_service target]
    cases error with
    | none =>
      simp only [ServiceJobLifecycle.succeed]
      cases marked : w.db.ledger.markActive jobId with
      | error e => exact .turn nofun nofun nofun
      | ok l => exact .activated here marked
    | some error =>
      simp only [ServiceJobLifecycle.fail]
      cases marked : w.db.ledger.markFailed jobId error with
      | error e => exact .turn nofun nofun nofun
      | ok l => exact .failed here marked

/-- Recovery is a failure of the orphan and then a retry of its service. -/
theorem recover_ok {newJobId : JobId} (recovered : recover w jobId newJobId now = some w') :
    ∃ job serviceId l, JobOf w.db.ledger serviceId jobId job ∧
      w.db.ledger.markFailed jobId orphanError = .ok l ∧
      (w' = w.setLedger l ∨ ∃ retried key, l.retry serviceId newJobId now = .ok (retried, key) ∧
        w' = w.setLedger retried) := by
  unfold recover at recovered
  split at recovered
  · cases recovered
  next job known =>
    split at recovered
    next serviceId target =>
      split at recovered
      · obtain ⟨db, done, rfl⟩ := Option.map_eq_some_iff.mp recovered
        obtain ⟨l, marked, done⟩ := Raise.bind_eq_ok.mp (Raise.toOption_eq_some.mp done)
        refine ⟨job, serviceId, l, ⟨known, target⟩, marked, ?_⟩
        simp only at done
        split at done
        · cases done
          exact Or.inl rfl
        · obtain ⟨⟨retried, key⟩, again, done⟩ := Raise.bind_eq_ok.mp done
          cases done
          exact Or.inr ⟨retried, key, again, rfl⟩
      · cases recovered
    · cases recovered
    · cases recovered

theorem stepped_of_step (inv : Inv w) (stepped : step w label = some next) :
    Stepped w label next := by
  cases label with
  | createService serviceId request jobId now =>
    obtain ⟨fresh, done⟩ := Option.ite_none_right_eq_some.mp stepped
    obtain ⟨service, made, done⟩ := Raise.bind_eq_ok.mp (Raise.toOption_eq_some.mp done)
    obtain ⟨⟨l, job⟩, inserted, done⟩ := Raise.bind_eq_ok.mp done
    cases done
    obtain ⟨new, missing, move, wrote⟩ := createService_moved inv.tables.ledger.jobsBelow inserted
    exact .createService (World.freshJob_iff fresh).2 missing move wrote
      (ServiceConfig.createService_ok made).1
  | edit serviceId change jobId now =>
    obtain ⟨fresh, done⟩ := Option.ite_none_right_eq_some.mp stepped
    exact stepped_editService inv fresh (Raise.toOption_eq_some.mp done)
  | deleteService serviceId =>
    obtain ⟨service, required, done⟩ := Raise.bind_eq_ok.mp (Raise.toOption_eq_some.mp stepped)
    obtain ⟨_, ⟨⟩⟩ := Raise.ite_error_eq_ok.mp done
    exact .deleteService (requireService_ok.mp required)
  | retry serviceId jobId now =>
    obtain ⟨_, done⟩ := Option.ite_none_right_eq_some.mp stepped
    obtain ⟨⟨l, key⟩, retried, done⟩ := Raise.bind_eq_ok.mp (Raise.toOption_eq_some.mp done)
    cases done
    exact .retry retried
  | setMaintenance enabled =>
    cases stepped
    exact .setMaintenance
  | abandon =>
    cases stepped
    exact .turn nofun nofun nofun
  | deliver jobId =>
    simp only [step] at stepped
    split at stepped
    next job idle found =>
      obtain ⟨isService, ⟨⟩⟩ := Option.ite_none_right_eq_some.mp stepped
      obtain ⟨s, target⟩ := ofService_iff.mp isService
      exact stepped_deliver idle ⟨found, target⟩
    · cases stepped
  -- the worker's labels ask for the state that the worker is in
  | readJob =>
    simp only [step] at stepped
    split at stepped
    next jobId here =>
      cases stepped
      unfold readJob
      split
      · exact .turn (fun j same => by rw [here]; exact same) nofun nofun
      · exact .turn nofun nofun nofun
    · cases stepped
  | loadService =>
    simp only [step] at stepped
    split at stepped
    next here =>
      cases stepped
      unfold loadService
      split <;> exact .turn (fun j same => by rw [here]; exact same) nofun nofun
    · cases stepped
  | loadNode =>
    simp only [step] at stepped
    split at stepped
    next here => cases stepped; exact .loadNode here
    · cases stepped
  | apply outcome =>
    simp only [step] at stepped
    split at stepped
    next here => cases stepped; exact .apply here
    · cases stepped
  | mark =>
    simp only [step] at stepped
    split at stepped
    next here => cases stepped; exact stepped_mark inv here
    · cases stepped
  | recover jobId newJobId now =>
    simp only [step] at stepped
    split at stepped
    next idle =>
      obtain ⟨_, _, l, _, marked, rfl | ⟨retried, key, again, rfl⟩⟩ := recover_ok stepped
      · exact .recover idle marked
      · exact .recoverRetry idle marked again
    · cases stepped

end Steps

/-! ## Transactions beside the worker -/

/-- A transaction beside the worker: an active row is as it was, and so is a row that the worker's
job is current for; the job itself is untouched or gone. -/
structure Spares (w w' : World) : Prop where
  worker : w'.worker = w.worker
  committed : w'.committed = w.committed
  active : ∀ s row service, w'.Row s row service → row.applyStatus = .active →
    w.Row s row service
  job : ∀ j job, w.worker.job = some j → w'.db.ledger.jobs.lookup j = some job →
    w.db.ledger.jobs.lookup j = some job
  current : ∀ j s row service, w.worker.job = some j → w'.Row s row service →
    Current w'.db.ledger s j row → ∃ old, w.Row s old service ∧ Current w.db.ledger s j old

theorem Spares.workerOk (spares : Spares w w') (ok : WorkerOk w) : WorkerOk w' where
  live := by
    intro s row service found active
    rw [spares.committed]
    exact ok.live s row service (spares.active s row service found active) active
  held := by
    intro j job holds found
    rw [spares.worker] at holds
    exact ok.held j job holds (spares.job j job holds found)
  node := by
    intro j node holds s row service found status
    rw [spares.worker] at holds
    rcases status with active | current
    · exact ok.node j node holds s row service (spares.active s row service found active)
        (Or.inl active)
    · obtain ⟨old, oldFound, oldCurrent⟩ :=
        spares.current j s row service (by rw [holds]; rfl) found current
      exact ok.node j node holds s old service oldFound (Or.inr oldCurrent)
  applied := by
    intro j holds s row service found current
    rw [spares.worker] at holds
    rw [spares.committed]
    obtain ⟨old, oldFound, oldCurrent⟩ :=
      spares.current j s row service (by rw [holds]; rfl) found current
    exact ok.applied j holds s old service oldFound oldCurrent

/-- The ledger moves for one service whose configuration may change with it: a row is not made
active, and the configuration stays unless the version is new. -/
theorem spares_of_move (w' : World) (below : JobsBelow w.db.ledger)
    (move : Move w.db.ledger serviceId jobId row job)
    (wrote : Wrote w.db.ledger serviceId row jobId job w'.db.ledger) (worker : w'.worker = w.worker)
    (committed : w'.committed = w.committed) (inactive : row.applyStatus = .active →
      w.db.ledger.services.lookup serviceId = some row) (free : w.worker.job ≠ some jobId)
    (others : ∀ s, s ≠ serviceId → w'.configs.lookup s = w.configs.lookup s)
    (own : ∀ old, w.db.ledger.services.lookup serviceId = some old → old.version = row.version →
      w'.configs.lookup serviceId = w.configs.lookup serviceId) : Spares w w' where
  worker := worker
  committed := committed
  active := by
    rintro s r service ⟨found, configured⟩ active
    rw [wrote.services] at found
    split at found
    next same =>
      subst same
      cases found
      have unchanged := inactive active
      rw [own row unchanged rfl] at configured
      exact ⟨unchanged, configured⟩
    next different =>
      rw [others s different] at configured
      exact ⟨found, configured⟩
  job := by
    intro j held holds found
    rw [wrote.jobs] at found
    split at found
    next same => exact absurd (same ▸ holds) free
    · exact found
  current := by
    rintro j s r service holds ⟨found, configured⟩ ⟨held, ofHeld, version⟩
    have ofOld : JobOf w.db.ledger s j held := by
      rcases (wrote.jobOf move.target).mp ofHeld with ⟨same, _, _⟩ | ⟨_, ofOld⟩
      · exact absurd (same ▸ holds) free
      · exact ofOld
    obtain ⟨old, oldFound, le⟩ := below j held s ofOld.1 ofOld.2
    rw [wrote.services] at found
    split at found
    next same =>
      subst same
      cases found
      -- a job is never ahead of its row, so the version cannot have moved
      have kept : old.version = row.version :=
        Nat.le_antisymm (move.version_le oldFound) (version ▸ le)
      rw [own old oldFound kept] at configured
      exact ⟨old, ⟨oldFound, configured⟩, held, ofOld, version.trans kept.symm⟩
    next different =>
      rw [others s different] at configured
      exact ⟨r, ⟨found, configured⟩, held, ofOld, version⟩

/-! ## Transactions on the ledger alone -/

theorem TablesOk.setLedger (ok : TablesOk w) (ledger : LedgerInv l) (rested : Rested l)
    (same : ∀ s, (l.services.lookup s).isSome = (w.db.ledger.services.lookup s).isSome) :
    TablesOk (w.setLedger l) where
  ledger := ledger
  rested := rested
  configured := fun s => (ok.configured s).trans (same s).symm
  drawn := ok.drawn
  distinct := ok.distinct

section

variable (inv : Inv w)
include inv

theorem Inv.moved {next : ApplyStatus} (idle : w.worker = .idle)
    (moved : Moved w.db.ledger next jobId l) (inactive : next ≠ .active) : Inv (w.setLedger l) := by
  have tables : TablesOk (w.setLedger l) :=
    inv.tables.setLedger (inv.tables.ledger.moved moved) (inv.tables.rested.moved moved) moved.isSome
  rcases moved with rfl | ⟨serviceId, old, row, new, found, move, wrote, status⟩
  · exact ⟨tables, inv.worker⟩
  · have spares : Spares w (w.setLedger l) := by
      apply spares_of_move (w.setLedger l) inv.tables.ledger.jobsBelow move wrote rfl rfl
      · intro active
        rcases status with rfl | ⟨_, isNext, _⟩
        · exact found
        · exact absurd (isNext.symm.trans active) inactive
      · simp [idle, Worker.job]
      · exact fun s _ => rfl
      · exact fun _ _ _ => rfl
    exact ⟨tables, spares.workerOk inv.worker⟩

theorem Inv.retried {job : JobId} (retried : w.db.ledger.retry serviceId jobId now = .ok (l, job)) :
    Inv (w.setLedger l) := by
  obtain ⟨row, old, found, ofOld, wasFailed, move, wrote⟩ := retry_moved inv.tables.ledger retried
  have spares : Spares w (w.setLedger l) := by
    apply spares_of_move (w.setLedger l) inv.tables.ledger.jobsBelow move wrote rfl rfl
    · exact nofun
    · -- the job that is requeued has failed, the one the worker holds is applying
      intro holds
      have applying := (inv.worker.held job old holds ofOld.1).1
      rw [wasFailed] at applying
      cases applying
    · exact fun s _ => rfl
    · exact fun _ _ _ => rfl
  exact ⟨inv.tables.setLedger (inv.tables.ledger.move move wrote)
    (inv.tables.rested.move move wrote) (wrote.isSome found), spares.workerOk inv.worker⟩

/-! ## Requests -/

/-- A row is written for a new version, with its configuration. -/
theorem Inv.store (move : Move w.db.ledger serviceId jobId row job)
    (wrote : Wrote w.db.ledger serviceId row jobId job w'.db.ledger)
    (stored : w'.configs = w.configs.insert serviceId service) (worker : w'.worker = w.worker)
    (committed : w'.committed = w.committed) (free : w.worker.job ≠ some jobId)
    (queued : row.applyStatus = .queued)
    (newVersion : ∀ old, w.db.ledger.services.lookup serviceId = some old →
      old.version ≠ row.version) (later : w.nextDpId ≤ w'.nextDpId)
    (drawn : service.dpId < w'.nextDpId)
    (own : ∀ t other, t ≠ serviceId → w.configs.lookup t = some other →
      other.dpId ≠ service.dpId) : Inv w' := by
  have tables := inv.tables
  constructor
  · constructor
    · exact tables.ledger.move move wrote
    · exact tables.rested.move move wrote
    · intro s
      rw [stored, Table.lookup_insert_ite, wrote.services]
      split
      · rfl
      · exact tables.configured s
    · intro s other found
      rcases Table.lookup_insert_eq_some.mp (stored ▸ found) with ⟨_, rfl⟩ | ⟨_, found⟩
      · exact drawn
      · exact (tables.drawn s other found).trans_le later
    · show w'.configs.Unique ServiceConfig.dpId
      rw [stored]
      refine Table.Unique.insert tables.distinct fun t other found same => ?_
      exact by_contra fun different => own t other different found same
  · apply Spares.workerOk _ inv.worker
    apply spares_of_move w' tables.ledger.jobsBelow move wrote worker committed
    · intro active
      cases queued.symm.trans active
    · exact free
    · exact fun s different => stored ▸ AList.lookup_insert_ne different
    · exact fun old found same => absurd same (newVersion old found)

theorem Inv.deleteService (serviceId : ServiceId) :
    Inv { w.setLedger (w.db.ledger.deleteService serviceId) with
      configs := w.configs.erase serviceId } := by
  have kept : ∀ s service, (w.configs.erase serviceId).lookup s = some service →
      w.configs.lookup s = some service :=
    fun s service found => (Table.lookup_erase_eq_some.mp found).2
  have keptRow : ∀ s row, (w.db.ledger.deleteService serviceId).services.lookup s = some row →
      w.db.ledger.services.lookup s = some row :=
    fun s row found => (Table.lookup_erase_eq_some.mp found).2
  have keptJob : ∀ j job, (w.db.ledger.deleteService serviceId).jobs.lookup j = some job →
      w.db.ledger.jobs.lookup j = some job :=
    fun j job found => ((deleteService_jobs w.db.ledger serviceId).mp found).1
  constructor
  · constructor
    · exact deleteService_inv inv.tables.ledger
    · exact inv.tables.rested.deleteService serviceId
    · intro s
      simp only [World.setLedger, Table.lookup_erase_ite, deleteService_services]
      split
      · rfl
      · exact inv.tables.configured s
    · exact fun s service found => inv.tables.drawn s service (kept s service found)
    · exact fun s t a b foundA foundB =>
        inv.tables.distinct s t a b (kept s a foundA) (kept t b foundB)
  · apply Spares.workerOk _ inv.worker
    constructor
    · rfl
    · rfl
    · exact fun s row service found _ => ⟨keptRow s row found.1, kept s service found.2⟩
    · exact fun j job _ found => keptJob j job found
    · rintro j s row service _ found ⟨job, ofJob, version⟩
      exact ⟨row, ⟨keptRow s row found.1, kept s service found.2⟩, job,
        ⟨keptJob j job ofJob.1, ofJob.2⟩, version⟩

/-! ## Steps of the worker -/

theorem Inv.hold (worker : Worker) (unloaded : ∀ j node, worker ≠ .loaded j node)
    (unreported : ∀ j, worker ≠ .finished j none)
    (held : ∀ j job, worker.job = some j → w.db.ledger.jobs.lookup j = some job →
      job.status = .applying ∧ ∃ s, job.target = .service s) : Inv { w with worker := worker } where
  tables := { inv.tables with }
  worker := ⟨inv.worker.live, held, fun j node same => absurd same (unloaded j node),
    fun j same => absurd same (unreported j)⟩

theorem Inv.idle : Inv { w with worker := .idle } :=
  inv.hold .idle nofun nofun nofun

end

theorem World.mem_rows : service ∈ w.rows ↔ ∃ s, w.configs.lookup s = some service := by
  simp only [World.rows, List.mem_map]
  constructor
  · rintro ⟨entry, member, rfl⟩
    exact ⟨entry.1, AList.mem_lookup_iff.mpr member⟩
  · rintro ⟨s, found⟩
    exact ⟨⟨s, service⟩, AList.mem_lookup_iff.mp found, rfl⟩

theorem TablesOk.rows_distinct (ok : TablesOk w) : (w.rows.map ServiceConfig.dpId).Nodup := by
  rw [World.rows, List.map_map]
  apply List.Nodup.map_on _ (List.NodupKeys.nodup w.configs.nodupKeys)
  rintro ⟨s, a⟩ foundA ⟨t, b⟩ foundB same
  have key := ok.distinct s t a b (AList.mem_lookup_iff.mpr foundA) (AList.mem_lookup_iff.mpr foundB)
    same
  subst key
  cases (AList.mem_lookup_iff.mpr foundA).symm.trans (AList.mem_lookup_iff.mpr foundB)
  rfl

theorem Inv.loadNode (inv : Inv w) (here : w.worker = .loading jobId) :
    Inv { w with worker := .loaded jobId (loadNodeConfig w.rows) } := by
  have holds : w.worker.job = some jobId := by rw [here]; rfl
  constructor
  · exact { inv.tables with }
  · constructor
    · exact inv.worker.live
    · exact fun j job isHeld found => inv.worker.held j job (holds.trans isHeld) found
    · intro j node same s row service found _
      cases same
      exact loadNodeConfig_shows inv.tables.rows_distinct (World.mem_rows.mpr ⟨s, found.2⟩)
    · exact nofun

theorem Inv.applySnapshot {node : List ServiceConfig} (inv : Inv w)
    (here : w.worker = .loaded jobId node) (outcome : Outcome) :
    Inv (applySnapshot w jobId node outcome) := by
  have holds : w.worker.job = some jobId := by rw [here]; rfl
  have tables : ∀ committed worker, TablesOk { w with committed := committed, worker := worker } :=
    fun _ _ => { inv.tables with }
  have held : ∀ j job, some jobId = some j → w.db.ledger.jobs.lookup j = some job →
      job.status = .applying ∧ ∃ s, job.target = .service s :=
    fun j job isHeld found => inv.worker.held j job (holds.trans isHeld) found
  have live : ∀ s row service, w.Row s row service → row.applyStatus = .active →
      Shows node service := fun s row service found active =>
    inv.worker.node jobId node here s row service found (Or.inl active)
  cases outcome with
  | applied =>
    refine ⟨tables _ _, live, held, nofun, ?_⟩
    intro j same s row service found current
    cases same
    exact inv.worker.node jobId node here s row service found (Or.inr current)
  | failed error tookEffect =>
    refine ⟨tables _ _, ?_, held, nofun, nofun⟩
    cases tookEffect with
    | true => exact live
    | false => exact inv.worker.live

/-- The mark of a job that was applied: the services it makes active are in the committed
snapshot. -/
theorem Inv.activated (inv : Inv w) (here : w.worker = .finished jobId none)
    (moved : Moved w.db.ledger .active jobId l) : Inv { w.setLedger l with worker := .idle } := by
  constructor
  · exact inv.idle.tables.setLedger (inv.tables.ledger.moved moved) (inv.tables.rested.moved moved)
      moved.isSome
  · refine ⟨?_, nofun, nofun, nofun⟩
    rintro s row service ⟨found, configured⟩ active
    rcases moved with rfl | ⟨serviceId, _, new, newJob, _, move, wrote, _⟩
    · exact inv.worker.live s row service ⟨found, configured⟩ active
    · rw [show ({ w.setLedger l with worker := .idle } : World).db.ledger = l from rfl,
        wrote.services] at found
      split at found
      next same =>
        subst same
        cases found
        rcases move.active_cases active with unchanged | ⟨old, oldJob, oldFound, ofJob, current⟩
        · exact inv.worker.live s row service ⟨unchanged, configured⟩ active
        · exact inv.worker.applied jobId here s old service ⟨oldFound, configured⟩
            ⟨oldJob, ofJob, current⟩
      · exact inv.worker.live s row service ⟨found, configured⟩ active

/-! ## Runs -/

theorem Inv.step {next : World} {label : Label} (inv : Inv w) (stepped : step w label = some next) :
    Inv next := by
  cases stepped_of_step inv stepped with
  | same => exact inv
  | createService free missing move wrote dpId =>
    refine inv.store move wrote rfl rfl rfl free rfl ?_ ?_ ?_ ?_
    · intro old found
      cases missing.symm.trans found
    · exact Int.le.intro 1 rfl
    · exact dpId.trans_lt (Int.lt_succ _)
    · exact fun t other _ found => (dpId.symm ▸ inv.tables.drawn t other found).ne
  | edit free before move wrote dpId =>
    refine inv.store move wrote rfl rfl rfl free rfl ?_ ?_ ?_ ?_
    · intro old found
      cases before.1.symm.trans found
      exact (Nat.succ_ne_self _).symm
    · exact le_refl _
    · exact dpId.trans_lt (inv.tables.drawn _ _ before.2)
    · exact fun t other different found same =>
        different (inv.tables.distinct t _ other _ found before.2 (same.trans dpId))
  | deleteService => exact inv.deleteService _
  | retry retried => exact inv.retried retried
  | setMaintenance => exact ⟨{ inv.tables with }, { inv.worker with }⟩
  | deliver idle marked claims =>
    have moved := inv.moved idle (markApplying_moved marked) nofun
    rcases claims with rfl | ⟨rfl, job, s, ofJob, applying⟩
    · exact moved.idle
    · apply moved.hold (.claimed _) nofun nofun
      rintro j claimed ⟨⟩ found
      cases ofJob.1.symm.trans found
      exact ⟨applying, s, ofJob.2⟩
  | turn holds unloaded unreported =>
    exact inv.hold _ unloaded unreported fun j job isHeld found =>
      inv.worker.held j job (holds j isHeld) found
  | loadNode here => exact inv.loadNode here
  | apply here => exact inv.applySnapshot here _
  | activated here marked => exact inv.activated here (markActive_moved marked)
  | failed _ marked => exact inv.idle.moved rfl (markFailed_moved marked) nofun
  | recover idle marked => exact inv.moved idle (markFailed_moved marked) nofun
  | recoverRetry idle marked again =>
    exact (inv.moved idle (markFailed_moved marked) nofun).retried again

/-- Empty service tables beside any others, an empty data plane and an idle worker. -/
def initial (runs : Table RunId FeedSyncRun) (sources : Table SourceId ThreatFeedSource)
    (maintenanceEnabled : Bool) : World where
  db := ⟨⟨∅, ∅⟩, runs, sources, maintenanceEnabled⟩
  configs := ∅
  nextDpId := 1
  committed := []
  worker := .idle

theorem initial_inv (runs : Table RunId FeedSyncRun) (sources : Table SourceId ThreatFeedSource)
    (maintenanceEnabled : Bool) : Inv (initial runs sources maintenanceEnabled) := by
  constructor
  · refine ⟨ledgerInv_empty, ?_, ?_, ?_, ?_⟩ <;> simp [initial, Rested]
  · exact ⟨by simp [initial, World.Row], nofun, nofun, nofun⟩

end ScrubbingGateway.Control.ServiceRuns
