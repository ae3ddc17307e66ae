import ScrubbingGateway.Control.LedgerMoves
import ScrubbingGateway.Lib.Transition
import Mathlib.Logic.Function.Basic

/-!
# Concurrent service mutations

Every mutating request runs in a session of its own: a plain load of the service row, the
`SELECT ... FOR UPDATE` of `bump_version`, the increment, the job insert and the commit. Requests
interleave at these statements; the worker's ledger transactions run between them.
-/

namespace ScrubbingGateway.Control.VersionBump

abbrev SessionId := Nat

/-- A request's session. `identity` holds the attribute values the session first loaded, `object`
the same mapped object with the changes it has flushed. -/
inductive Session where
  | idle
  | opened (serviceId : ServiceId) (trigger : ChangeTrigger)
  | loaded (serviceId : ServiceId) (trigger : ChangeTrigger) (identity : ProtectedService)
  | locked (serviceId : ServiceId) (trigger : ChangeTrigger) (identity : ProtectedService)
  | bumped (serviceId : ServiceId) (trigger : ChangeTrigger) (identity object : ProtectedService)
  | enqueued (serviceId : ServiceId) (identity object : ProtectedService)
      (inserted : Option (JobId × AgentJob))
  deriving DecidableEq, Repr

/-- The service a session has loaded, with the values of that first load. -/
def Session.loadedRow : Session → Option (ServiceId × ProtectedService)
  | .idle | .opened _ _ => none
  | .loaded serviceId _ identity | .locked serviceId _ identity
  | .bumped serviceId _ identity _ | .enqueued serviceId identity _ _ => some (serviceId, identity)

/-- The service whose row lock a session holds. -/
def Session.holds : Session → Option ServiceId
  | .idle | .opened _ _ | .loaded _ _ _ => none
  | .locked serviceId _ _ | .bumped serviceId _ _ _ | .enqueued serviceId _ _ _ => some serviceId

/-- The committed tables, the open sessions and the row locks. -/
structure World where
  ledger : Ledger
  sessions : SessionId → Session
  rowLock : ServiceId → Option SessionId

def World.setSession (w : World) (sid : SessionId) (session : Session) : World :=
  { w with sessions := Function.update w.sessions sid session }

/-- The worker transactions that lock a service row and leave its version alone. -/
inductive WorkerOp where
  | markApplying (jobId : JobId)
  | markActive (jobId : JobId)
  | markFailed (jobId : JobId) (error : String)
  | retry (serviceId : ServiceId) (jobId : JobId) (createdAt : Nat)

def WorkerOp.apply : WorkerOp → Ledger → Except Raised Ledger
  | .markApplying jobId, l => l.markApplying jobId
  | .markActive jobId, l => l.markActive jobId
  | .markFailed jobId error, l => l.markFailed jobId error
  | .retry serviceId jobId createdAt, l =>
    if jobId ∈ l.jobs then .error .sqlAlchemyError
    else (l.retry serviceId jobId createdAt).map Prod.fst

def WorkerOp.serviceId : WorkerOp → Ledger → Option ServiceId
  | .markApplying jobId, l | .markActive jobId, l | .markFailed jobId _, l =>
    (l.jobs.lookup jobId).bind fun job => (Ledger.targetId job.target).toOption
  | .retry serviceId _ _, _ => some serviceId

inductive Label where
  | createService (serviceId : ServiceId) (jobId : JobId) (createdAt : Nat)
  | openRequest (sid : SessionId) (serviceId : ServiceId) (trigger : ChangeTrigger)
  | loadService (sid : SessionId)
  | lockService (sid : SessionId)
  | bumpVersion (sid : SessionId)
  | enqueue (sid : SessionId) (jobId : JobId) (createdAt : Nat)
  | commit (sid : SessionId)
  | rollback (sid : SessionId)
  | worker (op : WorkerOp)

/-- The plain load reads the committed row into the identity map. -/
def loadService (w : World) (sid : SessionId) : Option World :=
  match w.sessions sid with
  | .opened serviceId trigger =>
    (w.ledger.services.lookup serviceId).map fun row =>
      w.setSession sid (.loaded serviceId trigger row)
  | _ => none

/-- `SELECT ... FOR UPDATE` waits for the lock. The row it returns is already in the identity map,
so the session goes on with the attribute values it loaded before. -/
def lockService (w : World) (sid : SessionId) : Option World :=
  match w.sessions sid with
  | .loaded serviceId trigger identity =>
    if w.rowLock serviceId = none ∧ serviceId ∈ w.ledger.services then
      some { w.setSession sid (.locked serviceId trigger identity) with
        rowLock := Function.update w.rowLock serviceId (some sid) }
    else none
  | _ => none

def bumpVersion (w : World) (sid : SessionId) : Option World :=
  match w.sessions sid with
  | .locked serviceId trigger identity =>
    match assertTransition identity.applyStatus .pending with
    | .error _ => none
    | .ok _ => some (w.setSession sid (.bumped serviceId trigger identity
        { identity with version := identity.version + 1, applyStatus := .pending }))
  | _ => none

def enqueue (w : World) (sid : SessionId) (jobId : JobId) (createdAt : Nat) : Option World :=
  match w.sessions sid with
  | .bumped serviceId trigger identity object =>
    if jobId ∈ w.ledger.jobs then none else
    match w.ledger.enqueueServiceUpdate serviceId object trigger jobId createdAt with
    | .error _ => none
    | .ok (after, _) =>
      -- the insert is visible to this session alone until it commits
      some (w.setSession sid (.enqueued serviceId identity { object with applyStatus := .queued }
        ((after.jobs.lookup jobId).map fun job => (jobId, job))))
  | _ => none

/-- The primary key rejects an identifier that is already used. -/
def insertJob (l : Ledger) : Option (JobId × AgentJob) → Option Ledger
  | none => some l
  | some (jobId, job) => if jobId ∈ l.jobs then none else some (l.setJob jobId job)

/-- The `UPDATE` writes the columns that changed since the load, the others keep their value. -/
def writtenRow (row object : ProtectedService) : ProtectedService :=
  { row with version := object.version, applyStatus := object.applyStatus }

/-- The commit publishes the changed columns and the inserted job, and frees the row lock. -/
def commit (w : World) (sid : SessionId) : Option World :=
  match w.sessions sid with
  | .enqueued serviceId _ object inserted =>
    (w.ledger.services.lookup serviceId).bind fun row =>
    (insertJob (w.ledger.setService serviceId (writtenRow row object)) inserted).map fun ledger =>
        { ledger := ledger
          sessions := Function.update w.sessions sid .idle
          rowLock := Function.update w.rowLock serviceId none }
  | _ => none

def rollback (w : World) (sid : SessionId) : World :=
  match (w.sessions sid).holds with
  | none => w.setSession sid .idle
  | some serviceId => { w.setSession sid .idle with
      rowLock := Function.update w.rowLock serviceId none }

def worker (w : World) (op : WorkerOp) : Option World :=
  match op.serviceId w.ledger with
  | none => none
  | some serviceId =>
    if w.rowLock serviceId = none then
      match op.apply w.ledger with
      | .error _ => none
      | .ok ledger => some { w with ledger := ledger }
    else none

def step (w : World) : Label → Option World
  | .createService serviceId jobId createdAt =>
    match w.ledger.createService serviceId jobId createdAt with
    | .error _ => none
    | .ok (ledger, _) => some { w with ledger := ledger }
  | .openRequest sid serviceId trigger =>
    if w.sessions sid = .idle then some (w.setSession sid (.opened serviceId trigger)) else none
  | .loadService sid => loadService w sid
  | .lockService sid => lockService w sid
  | .bumpVersion sid => bumpVersion w sid
  | .enqueue sid jobId createdAt => enqueue w sid jobId createdAt
  | .commit sid => commit w sid
  | .rollback sid => some (rollback w sid)
  | .worker op => worker w op

/-- No rows, no open session, no lock. -/
def World.initial : World :=
  { ledger := ⟨∅, ∅⟩, sessions := fun _ => .idle, rowLock := fun _ => none }

/-- What a committing request is promised: the version of its service is now strictly larger, and
the commit itself brought a queued job for the new version. -/
def CommitBumps (before : World) (label : Label) (after : World) : Prop :=
  ∀ sid, label = .commit sid →
    ∃ serviceId identity old new jobId job,
      (before.sessions sid).loadedRow = some (serviceId, identity) ∧
      before.ledger.services.lookup serviceId = some old ∧
      after.ledger.services.lookup serviceId = some new ∧
      old.version < new.version ∧
      before.ledger.jobs.lookup jobId = none ∧
      after.ledger.jobs.lookup jobId = some job ∧
      job.target = .service serviceId ∧ job.version = new.version ∧ job.status = .queued

/-- The committed row still has the version that the session's plain load read. -/
def LoadedCurrent (w : World) (sid : SessionId) : Prop :=
  ∃ serviceId identity row, (w.sessions sid).loadedRow = some (serviceId, identity) ∧
    w.ledger.services.lookup serviceId = some row ∧ identity.version = row.version

def CommitCurrent (before : World) (label : Label) (_after : World) : Prop :=
  ∀ sid, label = .commit sid → LoadedCurrent before sid

variable {l l' : Ledger}

theorem workerOp_below {op : WorkerOp} (below : JobsBelow l) (applied : op.apply l = .ok l') :
    JobsBelow l' ∧ Grows l l' := by
  cases op with
  | markApplying => exact (Ledger.markApplying_moved applied).below below
  | markActive => exact (Ledger.markActive_moved applied).below below
  | markFailed => exact (Ledger.markFailed_moved applied).below below
  | retry serviceId jobId createdAt =>
    obtain ⟨_, applied⟩ := Raise.ite_error_eq_ok.mp applied
    obtain ⟨_, result, rfl⟩ := Raise.map_eq_ok.mp applied
    exact retry_below below result

/-- The first load is not ahead of the committed row. -/
def LoadedBelow (l : Ledger) (serviceId : ServiceId) (identity : ProtectedService) : Prop :=
  ∃ row, l.services.lookup serviceId = some row ∧ identity.version ≤ row.version

/-- Nothing was inserted only if a job for the next version is already there, which a session that
loaded the current row does not meet. -/
def InsertedOk (l : Ledger) (serviceId : ServiceId) (identity object : ProtectedService) :
    Option (JobId × AgentJob) → Prop
  | some (_, job) =>
    job.target = .service serviceId ∧ job.version = object.version ∧ job.status = .queued
  | none => ∃ row, l.services.lookup serviceId = some row ∧ identity.version < row.version

def SessionOk (l : Ledger) : Session → Prop
  | .idle | .opened _ _ => True
  | .loaded serviceId _ identity | .locked serviceId _ identity =>
    LoadedBelow l serviceId identity
  | .bumped serviceId _ identity object =>
    LoadedBelow l serviceId identity ∧ object.version = identity.version + 1
  | .enqueued serviceId identity object inserted =>
    LoadedBelow l serviceId identity ∧ object.version = identity.version + 1 ∧
      InsertedOk l serviceId identity object inserted

variable {serviceId : ServiceId} {identity : ProtectedService}

theorem LoadedBelow.mono (grows : Grows l l') (below : LoadedBelow l serviceId identity) :
    LoadedBelow l' serviceId identity := by
  obtain ⟨row, found, le⟩ := below
  obtain ⟨row', found', le'⟩ := grows serviceId row found
  exact ⟨row', found', le.trans le'⟩

variable {session : Session}

theorem SessionOk.mono (grows : Grows l l') (ok : SessionOk l session) : SessionOk l' session := by
  cases session with
  | idle | opened => trivial
  | loaded | locked => exact LoadedBelow.mono grows ok
  | bumped serviceId trigger identity object => exact ⟨LoadedBelow.mono grows ok.1, ok.2⟩
  | enqueued serviceId identity object inserted =>
    refine ⟨LoadedBelow.mono grows ok.1, ok.2.1, ?_⟩
    cases inserted with
    | some entry => exact ok.2.2
    | none =>
      obtain ⟨row, found, lt⟩ := ok.2.2
      obtain ⟨row', found', le⟩ := grows serviceId row found
      exact ⟨row', found', lt.trans_le le⟩

structure Inv (w : World) : Prop where
  jobsBelow : JobsBelow w.ledger
  lockHeld : ∀ sid serviceId, (w.sessions sid).holds = some serviceId →
    w.rowLock serviceId = some sid
  sessionsOk : ∀ sid, SessionOk w.ledger (w.sessions sid)

theorem inv_initial : Inv World.initial where
  jobsBelow := by
    intro jobId job serviceId found
    simp [World.initial] at found
  lockHeld := by
    intro sid serviceId holds
    cases holds
  sessionsOk := fun _ => trivial

variable {w after : World} {sid : SessionId} {ledger : Ledger}

/-- A session moves on, perhaps with a lock it takes or gives back. -/
theorem inv_update {rowLock : ServiceId → Option SessionId} (inv : Inv w) (below : JobsBelow ledger)
    (grows : Grows w.ledger ledger) (ok : SessionOk ledger session)
    (own : ∀ serviceId, session.holds = some serviceId → rowLock serviceId = some sid)
    (others : ∀ other serviceId, other ≠ sid → w.rowLock serviceId = some other →
      rowLock serviceId = some other) :
    Inv ⟨ledger, Function.update w.sessions sid session, rowLock⟩ where
  jobsBelow := below
  lockHeld := by
    intro other serviceId held
    simp only [Function.update_apply] at held
    split at held
    next same => exact same ▸ own serviceId held
    next different => exact others other serviceId different (inv.lockHeld other serviceId held)
  sessionsOk := by
    intro other
    simp only [Function.update_apply]
    split
    · exact ok
    · exact (inv.sessionsOk other).mono grows

theorem inv_setSession (inv : Inv w) (ok : SessionOk w.ledger session)
    (holds : ∀ serviceId, session.holds = some serviceId →
      (w.sessions sid).holds = some serviceId) : Inv (w.setSession sid session) :=
  inv_update inv inv.jobsBelow (grows_of_services rfl) ok
    (fun serviceId held => inv.lockHeld sid serviceId (holds serviceId held)) fun _ _ _ lock => lock

theorem inv_release (inv : Inv w) (held : (w.sessions sid).holds = some serviceId)
    (below : JobsBelow ledger) (grows : Grows w.ledger ledger) :
    Inv { ledger := ledger
          sessions := Function.update w.sessions sid .idle
          rowLock := Function.update w.rowLock serviceId none } := by
  refine inv_update inv below grows trivial (by simp [Session.holds]) ?_
  intro other service different lock
  rw [Function.update_of_ne]
  · exact lock
  · rintro rfl
    rw [inv.lockHeld sid service held] at lock
    exact different (Option.some.inj lock).symm

theorem inv_ledger (inv : Inv w) (below : JobsBelow ledger) (grows : Grows w.ledger ledger) :
    Inv { w with ledger := ledger } where
  jobsBelow := below
  lockHeld := inv.lockHeld
  sessionsOk := fun sid => (inv.sessionsOk sid).mono grows

theorem commit_cases (committed : commit w sid = some after) :
    ∃ serviceId identity object inserted row ledger,
      w.sessions sid = .enqueued serviceId identity object inserted ∧
      w.ledger.services.lookup serviceId = some row ∧
      insertJob (w.ledger.setService serviceId (writtenRow row object)) inserted = some ledger ∧
      after = { ledger := ledger
                sessions := Function.update w.sessions sid .idle
                rowLock := Function.update w.rowLock serviceId none } := by
  unfold commit at committed
  split at committed
  next serviceId identity object inserted session =>
    obtain ⟨row, found, committed⟩ := Option.bind_eq_some_iff.mp committed
    obtain ⟨ledger, published, same⟩ := Option.map_eq_some_iff.mp committed
    exact ⟨serviceId, identity, object, inserted, row, ledger, session, found, published, same.symm⟩
  · cases committed

variable {inserted : Option (JobId × AgentJob)}

theorem insertJob_cases (published : insertJob l inserted = some l') :
    (inserted = none ∧ l' = l) ∨
      ∃ jobId job, inserted = some (jobId, job) ∧ l.jobs.lookup jobId = none ∧
        l' = l.setJob jobId job := by
  cases inserted with
  | none =>
    cases published
    exact Or.inl ⟨rfl, rfl⟩
  | some entry =>
    obtain ⟨jobId, job⟩ := entry
    obtain ⟨fresh, ⟨⟩⟩ := Option.ite_none_left_eq_some.mp published
    exact Or.inr ⟨jobId, job, rfl, AList.lookup_eq_none.mpr fresh, rfl⟩

theorem loadedCurrent_iff {object row : ProtectedService}
    (session : w.sessions sid = .enqueued serviceId identity object inserted)
    (found : w.ledger.services.lookup serviceId = some row) :
    LoadedCurrent w sid ↔ identity.version = row.version := by
  simp [LoadedCurrent, session, Session.loadedRow, found]

section

variable (inv : Inv w)
include inv

/-- The heart of the matter: with the invariant, a commit keeps its promise exactly when its
session had loaded the row that is being overwritten. -/
theorem commitBumps_iff (committed : commit w sid = some after) :
    CommitBumps w (.commit sid) after ↔ LoadedCurrent w sid := by
  obtain ⟨serviceId, identity, object, inserted, row, ledger, session, found, published, rfl⟩ :=
    commit_cases committed
  have ok := inv.sessionsOk sid
  rw [session] at ok
  obtain ⟨⟨row', found', le⟩, bumped, insertedOk⟩ := ok
  cases found.symm.trans found'
  rw [loadedCurrent_iff session found]
  constructor
  · intro promised
    obtain ⟨service, loaded, old, new, _, _, loadedRow, oldFound, newFound, lt, _⟩ :=
      promised sid rfl
    simp only [session, Session.loadedRow, Option.some.injEq, Prod.mk.injEq] at loadedRow
    obtain ⟨rfl, rfl⟩ := loadedRow
    cases found.symm.trans oldFound
    have newVersion : new.version = object.version := by
      rcases insertJob_cases published with ⟨_, rfl⟩ | ⟨_, _, _, _, rfl⟩ <;>
      · simp only [Ledger.setJob_services, Ledger.setService_lookup, if_true,
          Option.some.injEq] at newFound
        rw [← newFound, writtenRow]
    omega
  · rintro same other ⟨⟩
    rcases insertJob_cases published with ⟨rfl, _⟩ | ⟨jobId, job, rfl, fresh, rfl⟩
    · obtain ⟨_, rowFound, lt⟩ := insertedOk
      cases found.symm.trans rowFound
      omega
    · obtain ⟨target, version, queued⟩ := insertedOk
      refine ⟨serviceId, identity, row, writtenRow row object, jobId, job,
        by rw [session]; rfl, found, by simp, ?_, fresh, by simp, target, version, queued⟩
      simp only [writtenRow]
      omega

theorem inv_commit (committed : commit w sid = some after) (current : LoadedCurrent w sid) :
    Inv after := by
  obtain ⟨serviceId, identity, object, inserted, row, ledger, session, found, published, rfl⟩ :=
    commit_cases committed
  have ok := inv.sessionsOk sid
  rw [session] at ok
  obtain ⟨_, bumped, insertedOk⟩ := ok
  have same := (loadedCurrent_iff session found).mp current
  have up : ∀ old, w.ledger.services.lookup serviceId = some old →
      old.version ≤ (writtenRow row object).version := by
    intro old oldFound
    cases found.symm.trans oldFound
    simp only [writtenRow]
    omega
  have below := jobsBelow_setService inv.jobsBelow up
  have grows := grows_setService up
  refine inv_release inv (by rw [session]; rfl) ?_ ?_
  · rcases insertJob_cases published with ⟨_, rfl⟩ | ⟨jobId, job, rfl, _, rfl⟩
    · exact below
    · refine jobsBelow_setJob below fun other isTarget => ?_
      rw [insertedOk.1] at isTarget
      cases isTarget
      exact ⟨writtenRow row object, by simp, insertedOk.2.1.le⟩
  · rcases insertJob_cases published with ⟨_, rfl⟩ | ⟨jobId, job, _, _, rfl⟩
    · exact grows
    · exact grows.trans (grows_of_services rfl)

theorem inv_loadService (stepped : loadService w sid = some after) : Inv after := by
  unfold loadService at stepped
  split at stepped
  next serviceId trigger session =>
    obtain ⟨row, found, rfl⟩ := Option.map_eq_some_iff.mp stepped
    exact inv_setSession inv ⟨row, found, le_refl _⟩ (by simp [Session.holds])
  · cases stepped

theorem inv_lockService (stepped : lockService w sid = some after) : Inv after := by
  unfold lockService at stepped
  split at stepped
  next serviceId trigger identity session =>
    obtain ⟨free, ⟨⟩⟩ := Option.ite_none_right_eq_some.mp stepped
    have ok := inv.sessionsOk sid
    rw [session] at ok
    refine inv_update inv inv.jobsBelow (grows_of_services rfl) ok ?_ ?_
    · rintro service ⟨⟩
      exact Function.update_self ..
    · intro other service _ lock
      rw [Function.update_of_ne]
      · exact lock
      · rintro rfl
        cases free.1.symm.trans lock
  · cases stepped

theorem inv_bumpVersion (stepped : bumpVersion w sid = some after) : Inv after := by
  unfold bumpVersion at stepped
  split at stepped
  next serviceId trigger identity session =>
    rw [assertTransition_pending] at stepped
    cases stepped
    have ok := inv.sessionsOk sid
    rw [session] at ok
    refine inv_setSession inv ⟨ok, rfl⟩ ?_
    intro held holds
    rw [session]
    exact holds
  · cases stepped

theorem inv_enqueue {jobId : JobId} {createdAt : Nat}
    (stepped : enqueue w sid jobId createdAt = some after) : Inv after := by
  unfold enqueue at stepped
  split at stepped
  next serviceId trigger identity object session =>
    obtain ⟨fresh, stepped⟩ := Option.ite_none_left_eq_some.mp stepped
    split at stepped
    · cases stepped
    next ledger job enqueued =>
      cases stepped
      have ok := inv.sessionsOk sid
      rw [session] at ok
      obtain ⟨⟨row, found, le⟩, bumped⟩ := ok
      obtain ⟨_, rfl, _⟩ := Ledger.enqueueServiceUpdate_ok enqueued
      refine inv_setSession inv ⟨⟨row, found, le⟩, bumped, ?_⟩ ?_
      · -- a conflict means that a job of the next version exists, so the row is ahead
        unfold Ledger.insertOrGetJob
        split
        next existing conflict =>
          obtain ⟨other, otherFound, target, version⟩ := Ledger.jobForTargetVersion_some conflict
          obtain ⟨row', found', le'⟩ := inv.jobsBelow existing other serviceId otherFound target
          simp only [Ledger.setService_jobs, AList.lookup_eq_none.mpr fresh, Option.map_none]
          exact ⟨row', found', by omega⟩
        · simp [InsertedOk]
      · intro held holds
        rw [session]
        exact holds
  · cases stepped

theorem inv_step {label : Label} (stepped : step w label = some after)
    (current : CommitCurrent w label after) : Inv after := by
  cases label with
  | createService serviceId jobId createdAt =>
    simp only [step] at stepped
    split at stepped
    · cases stepped
    next ledger job created =>
      cases stepped
      obtain ⟨_, _, move, wrote⟩ := Ledger.createService_moved inv.jobsBelow created
      obtain ⟨below, grows⟩ := move.below wrote inv.jobsBelow
      exact inv_ledger inv below grows
  | openRequest sid serviceId trigger =>
    obtain ⟨_, ⟨⟩⟩ := Option.ite_none_right_eq_some.mp stepped
    exact inv_setSession inv trivial (by simp [Session.holds])
  | loadService sid => exact inv_loadService inv stepped
  | lockService sid => exact inv_lockService inv stepped
  | bumpVersion sid => exact inv_bumpVersion inv stepped
  | enqueue sid jobId createdAt => exact inv_enqueue inv stepped
  | commit sid => exact inv_commit inv stepped (current sid rfl)
  | rollback sid =>
    cases stepped
    unfold rollback
    split
    · exact inv_setSession inv trivial (by simp [Session.holds])
    next serviceId held => exact inv_release inv held inv.jobsBelow (grows_of_services rfl)
  | worker op =>
    simp only [step, worker] at stepped
    split at stepped
    · cases stepped
    · obtain ⟨_, stepped⟩ := Option.ite_none_right_eq_some.mp stepped
      split at stepped
      · cases stepped
      next ledger applied =>
        cases stepped
        obtain ⟨below, grows⟩ := workerOp_below inv.jobsBelow applied
        exact inv_ledger inv below grows

end

/-- Along every interleaving, every commit raises its service's version and brings its own queued
job if and only if every commit comes from a session whose plain load read the version that is
still committed (the row lock keeps it so from the locked read to the commit). -/
theorem commits_bump_iff_loaded_current (labels : List Label) :
    Transition.RunAll step CommitBumps World.initial labels ↔
      Transition.RunAll step CommitCurrent World.initial labels := by
  refine Transition.runAll_iff_of_invariant ?_ ?_ inv_initial labels
  · intro w label after inv stepped
    cases label with
    | commit sid =>
      rw [commitBumps_iff inv stepped]
      exact ⟨fun current other isCommit => by cases isCommit; exact current,
        fun current => current sid rfl⟩
    | _ => simp [CommitBumps, CommitCurrent]
  · intro w label after inv stepped current
    exact inv_step inv stepped current

/-- Two requests load version 1 of one service before either takes the row lock. -/
def racingRequests : List Label :=
  [.createService 7 1 0, .openRequest 0 7 .service, .openRequest 1 7 .rule, .loadService 0,
    .loadService 1, .lockService 0, .bumpVersion 0, .enqueue 0 2 1, .commit 0, .lockService 1,
    .bumpVersion 1, .enqueue 1 3 2]

/-- The second request of `racingRequests` commits version 2 over version 2 and has no job. -/
theorem racingRequests_lose_bump :
    ∃ before after, Transition.run step World.initial racingRequests = some before ∧
      step before (.commit 1) = some after ∧ ¬ CommitBumps before (.commit 1) after := by
  refine ⟨_, _, rfl, rfl, ?_⟩
  intro promised
  obtain ⟨serviceId, identity, old, new, _, _, loaded, oldFound, newFound, lt, _⟩ :=
    promised 1 rfl
  cases loaded
  cases oldFound
  cases newFound
  exact absurd lt (by decide)

end ScrubbingGateway.Control.VersionBump
