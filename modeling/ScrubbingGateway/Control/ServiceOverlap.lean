import ScrubbingGateway.Control.ApplyTruth

/-!
# Requests that overlap

A request loads its service when it starts and takes the row lock later. The locked read hands out
the object that the session has already, with the values of its first load, so a request does not
see what others have committed since. A request that finds the row as it loaded it does what it does
in the serial runs.
-/

namespace ScrubbingGateway.Control.ServiceRuns.Overlap

open ScrubbingGateway.Control Ledger

abbrev SessionId := Nat

/-- A service with the values that a session first loaded. -/
structure Loaded where
  serviceId : ServiceId
  row : ProtectedService
  service : ServiceConfig

structure State where
  base : World
  sessions : Table SessionId Loaded

inductive Request where
  | edit (change : Change) (jobId : JobId) (now : Nat)
  | delete
  | retry (jobId : JobId) (now : Nat)

inductive Label where
  /-- A step of the worker, or a request that nothing comes between. -/
  | alone (label : ServiceRuns.Label)
  | load (sid : SessionId) (serviceId : ServiceId)
  /-- A request from its row lock to its commit. -/
  | commit (sid : SessionId) (request : Request)
  | rollback (sid : SessionId)

/-! ## What a request writes -/

/-- An `UPDATE` sets a column only if its value is not the one that was loaded. -/
def written {α : Type} [DecidableEq α] (loaded new stored : α) : α :=
  if new = loaded then stored else new

theorem written_self {α : Type} [DecidableEq α] (loaded new : α) :
    written loaded new loaded = new := by
  unfold written
  split
  next same => exact same.symm
  · rfl

def writtenPlan : Option ServicePlan → Option ServicePlan → Option ServicePlan → Option ServicePlan
  | some loaded, some new, some stored =>
    some ⟨written loaded.committedCleanGbps new.committedCleanGbps stored.committedCleanGbps,
      written loaded.ceilingCleanGbps new.ceilingCleanGbps stored.ceilingCleanGbps⟩
  | _, new, _ => new

theorem writtenPlan_self (loaded new : Option ServicePlan) : writtenPlan loaded new loaded = new := by
  cases loaded <;> cases new <;> simp [writtenPlan, written_self]

/-- The columns of the service and of its plan that a request changes, over what is stored. Rules
and list entries are rows of their own, which the request reads and writes at its end. -/
def write (loaded stored : ServiceConfig) (change : Change) : Except Raised ServiceConfig :=
  match change with
  | .updateService .. | .setEnabled _ | .sizePlan _ => do
    let new ← change.perform loaded
    return { stored with
      cidrOrIp := written loaded.cidrOrIp new.cidrOrIp stored.cidrOrIp
      enabled := written loaded.enabled new.enabled stored.enabled
      vipPps := written loaded.vipPps new.vipPps stored.vipPps
      vipBps := written loaded.vipBps new.vipBps stored.vipBps
      servicePps := written loaded.servicePps new.servicePps stored.servicePps
      serviceBps := written loaded.serviceBps new.serviceBps stored.serviceBps
      plan := writtenPlan loaded.plan new.plan stored.plan }
  | _ => change.perform stored

/-- `bump_version` and `enqueue_service_update` on the object of the session. -/
def editLoaded (l : Ledger) (serviceId : ServiceId) (loaded : ProtectedService)
    (trigger : ChangeTrigger) (jobId : JobId) (createdAt : Nat) :
    Except Raised (Ledger × JobId) := do
  let stored ← l.loadServiceForUpdate serviceId
  assertTransition loaded.applyStatus .pending
  let (inserted, job) := l.insertOrGetJob serviceId (loaded.version + 1) trigger jobId createdAt
  return (inserted.setService serviceId
    { stored with version := loaded.version + 1, applyStatus := .queued }, job)

/-- `retry` on the object of the session; the job is read under its own lock. -/
def retryLoaded (l : Ledger) (serviceId : ServiceId) (loaded : ProtectedService) (jobId : JobId)
    (createdAt : Nat) : Except Raised (Ledger × JobId) := do
  let stored ← l.loadServiceForUpdate serviceId
  if loaded.applyStatus ≠ .failed then
    throw (.notFailed "Apply status must be failed to retry")
  assertTransition loaded.applyStatus .queued
  let (requeued, job) := l.requeueCurrentJob serviceId loaded.version jobId createdAt
  return (requeued.setService serviceId { stored with applyStatus := .queued }, job)

def commitEdit (w : World) (loaded : Loaded) (change : Change) (jobId : JobId) (now : Nat) :
    Except Raised World := do
  if change.noop loaded.service then return w
  let stored ← requireService w loaded.serviceId
  let edited ← write loaded.service stored change
  let (ledger, _) ← editLoaded w.db.ledger loaded.serviceId loaded.row change.trigger jobId now
  return { w.setLedger ledger with configs := w.configs.insert loaded.serviceId edited }

def commitDelete (w : World) (loaded : Loaded) : Except Raised World := do
  if loaded.service.enabled then throw (.httpException 409 "Disable service first")
  return { w.setLedger (w.db.ledger.deleteService loaded.serviceId) with
    configs := w.configs.erase loaded.serviceId }

def commitRetry (w : World) (loaded : Loaded) (jobId : JobId) (now : Nat) : Except Raised World := do
  let (ledger, _) ← retryLoaded w.db.ledger loaded.serviceId loaded.row jobId now
  return w.setLedger ledger

def commit (w : World) (loaded : Loaded) : Request → Option World
  | .edit change jobId now =>
    if w.freshJob jobId then (commitEdit w loaded change jobId now).toOption else none
  | .delete => (commitDelete w loaded).toOption
  | .retry jobId now =>
    if w.freshJob jobId then (commitRetry w loaded jobId now).toOption else none

/-- `uuid4` draws no identifier that a session still holds. -/
def State.taken (s : State) : ServiceRuns.Label → Bool
  | .createService serviceId .. => s.sessions.entries.any fun e => e.2.serviceId == serviceId
  | _ => false

def step (s : State) : Label → Option State
  | .alone label =>
    if s.taken label then none
    else (ServiceRuns.step s.base label).map fun base => { s with base := base }
  | .load sid serviceId =>
    match s.sessions.lookup sid, s.base.db.ledger.services.lookup serviceId,
        s.base.configs.lookup serviceId with
    | none, some row, some service =>
      some { s with sessions := s.sessions.insert sid ⟨serviceId, row, service⟩ }
    | _, _, _ => none
  | .commit sid request =>
    (s.sessions.lookup sid).bind fun loaded =>
      (commit s.base loaded request).map fun base => ⟨base, s.sessions.erase sid⟩
  | .rollback sid => some { s with sessions := s.sessions.erase sid }

def State.initial (runs : Table RunId FeedSyncRun) (sources : Table SourceId ThreatFeedSource)
    (maintenanceEnabled : Bool) : State :=
  ⟨ServiceRuns.initial runs sources maintenanceEnabled, ∅⟩

/-! ## Requests that find the row as they loaded it -/

/-- The version is the one that was loaded; for a retry, so is the apply status. -/
def Loaded.current (loaded : Loaded) (w : World) (request : Request) : Bool :=
  (w.db.ledger.services.lookup loaded.serviceId).any fun row =>
    loaded.row.version == row.version && match request with
      | .retry .. => loaded.row.applyStatus == row.applyStatus
      | .edit .. | .delete => true

/-- Every commit finds the row as its session loaded it. -/
def CommitCurrent (s : State) (label : Label) (_ : State) : Prop :=
  match label with
  | .commit sid request => (s.sessions.lookup sid).all (·.current s.base request) = true
  | _ => True

instance (s : State) (label : Label) (next : State) : Decidable (CommitCurrent s label next) := by
  unfold CommitCurrent
  cases label <;> infer_instance

def Request.label (serviceId : ServiceId) : Request → ServiceRuns.Label
  | .edit change jobId now => .edit serviceId change jobId now
  | .delete => .deleteService serviceId
  | .retry jobId now => .retry serviceId jobId now

/-- What a step is in the serial system; loading and giving up are nothing there. -/
def serial (s : State) : Label → Option ServiceRuns.Label
  | .alone label => some label
  | .commit sid request => (s.sessions.lookup sid).map fun loaded => request.label loaded.serviceId
  | .load .. | .rollback _ => none

section Commit

variable {w : World} {loaded : Loaded} {row : ProtectedService} {l : Ledger}

theorem write_self (service : ServiceConfig) (change : Change) :
    write service service change = change.perform service := by
  cases change with
  | updateService =>
    simp only [write, Change.perform, ServiceConfig.updateService, written_self, writtenPlan_self]
    split <;> rfl
  | setEnabled => simp only [write, Change.perform, written_self, writtenPlan_self]; rfl
  | sizePlan plan =>
    simp only [write, Change.perform, ServiceConfig.sizePlan, written_self, writtenPlan_self]
    split
    · rfl
    · split <;> rfl
  | _ => rfl

theorem insertOrGetJob_setService (serviceId : ServiceId) (a : ProtectedService) (version : Nat)
    (trigger : ChangeTrigger) (jobId : JobId) (createdAt : Nat) :
    (l.setService serviceId a).insertOrGetJob serviceId version trigger jobId createdAt =
      ((l.insertOrGetJob serviceId version trigger jobId createdAt).1.setService serviceId a,
        (l.insertOrGetJob serviceId version trigger jobId createdAt).2) := by
  simp only [insertOrGetJob, jobForTargetVersion, setService_jobs]
  split <;> rfl

theorem editLoaded_current (found : l.services.lookup loaded.serviceId = some row)
    (same : loaded.row.version = row.version) (trigger : ChangeTrigger) (jobId : JobId)
    (createdAt : Nat) :
    editLoaded l loaded.serviceId loaded.row trigger jobId createdAt =
      l.editService loaded.serviceId trigger jobId createdAt := by
  have bumped : l.bumpVersion loaded.serviceId =
      .ok (l.setService loaded.serviceId
        { row with version := row.version + 1, applyStatus := .pending },
        { row with version := row.version + 1, applyStatus := .pending }) := by
    simp only [bumpVersion, loadServiceForUpdate_ok.mpr found, assertTransition_pending, bind,
      Except.bind]
    rfl
  simp only [editLoaded, Ledger.editService, bumped, loadServiceForUpdate_ok.mpr found,
    assertTransition_pending, enqueueServiceUpdate, insertOrGetJob_setService, same, bind,
    Except.bind]
  simp only [setService, AList.insert_insert]
  rfl

theorem commit_current {request : Request} (current : loaded.current w request = true)
    (configured : w.configs.lookup loaded.serviceId = some loaded.service) :
    commit w loaded request = ServiceRuns.step w (request.label loaded.serviceId) := by
  obtain ⟨row, found, same⟩ := (Option.any_eq_true ..).mp current
  rw [Bool.and_eq_true, beq_iff_eq] at same
  have required := requireService_ok.mpr configured
  cases request with
  | edit change jobId now =>
    have edits : commitEdit w loaded change jobId now =
        editService w loaded.serviceId change jobId now := by
      simp only [commitEdit, editService, required, write_self,
        editLoaded_current found same.1, bind, Except.bind]
    simp only [commit, Request.label, ServiceRuns.step, edits]
  | delete =>
    have deletes : commitDelete w loaded = deleteService w loaded.serviceId := by
      simp only [commitDelete, deleteService, required, bind, Except.bind]
    simp only [commit, Request.label, ServiceRuns.step, deletes]
  | retry jobId now =>
    have retries : commitRetry w loaded jobId now = retry w loaded.serviceId jobId now := by
      simp only [commitRetry, ServiceRuns.retry, retryLoaded, Ledger.retry,
        loadServiceForUpdate_ok.mpr found, same.1, beq_iff_eq.mp same.2, bind, Except.bind]
    simp only [commit, Request.label, ServiceRuns.step, retries]

end Commit

/-! ## What a serial step leaves of a row -/

variable {s : ServiceId} {row : ProtectedService} {l l' : Ledger}

theorem row_le {t : ServiceId} {j : JobId} {old new : ProtectedService} {job : AgentJob}
    (move : Move l s j row job) (wrote : Wrote l s row j job l')
    (found : l.services.lookup t = some old) (found' : l'.services.lookup t = some new) :
    old.version ≤ new.version := by
  rw [wrote.services] at found'
  split at found'
  next same =>
    subst same
    cases found'
    exact move.version_le found
  · cases found.symm.trans found'
    exact le_refl _

theorem version_le (inv : LedgerInv l) (evolves : Evolves l l') {row' : ProtectedService}
    (found : l.services.lookup s = some row) (found' : l'.services.lookup s = some row') :
    row.version ≤ row'.version := by
  cases evolves with
  | same =>
    cases found.symm.trans found'
    exact le_refl _
  | moved move wrote => exact row_le move wrote found found'
  | deleted t =>
    cases found.symm.trans (Table.lookup_erase_eq_some.mp found').2
    exact le_refl _
  | recovered marked retried =>
    have moved := markFailed_moved marked
    have present := moved.isSome s
    rw [found] at present
    obtain ⟨mid, midFound⟩ := Option.isSome_iff_exists.mp present
    obtain ⟨_, _, _, _, _, move, wrote⟩ := retry_moved (inv.moved moved) retried
    refine le_trans ?_ (row_le move wrote midFound found')
    rcases moved with rfl | ⟨_, _, _, _, _, first, firstWrote, _⟩
    · cases found.symm.trans midFound
      exact le_refl _
    · exact row_le first firstWrote found midFound

/-- A row that a step did not create was there before, at no later version, and its configuration is
the same if the version is. -/
theorem row_before {w w' : World} {label : ServiceRuns.Label} {row' : ProtectedService}
    {service' : ServiceConfig} (inv : Inv w) (stepped : ServiceRuns.step w label = some w')
    (others : ∀ request jobId now, label ≠ .createService s request jobId now)
    (after : w'.Row s row' service') :
    ∃ row service, w.Row s row service ∧ row.version ≤ row'.version ∧
      (row.version = row'.version → service' = service) := by
  have unmoved (before : w.Row s row' service') :
      ∃ row service, w.Row s row service ∧ row.version ≤ row'.version ∧
        (row.version = row'.version → service' = service) :=
    ⟨row', service', before, le_refl _, fun _ => rfl⟩
  have stored (configs : w'.configs = w.configs) :
      ∃ row service, w.Row s row service ∧ row.version ≤ row'.version ∧
        (row.version = row'.version → service' = service) := by
    have configured := configs ▸ after.2
    have present := inv.tables.configured s
    rw [configured] at present
    obtain ⟨row, found⟩ := Option.isSome_iff_exists.mp present.symm
    exact ⟨row, service', ⟨found, configured⟩,
      version_le inv.tables.ledger (step_evolves inv stepped) found after.1, fun _ => rfl⟩
  cases stepped_of_step inv stepped with
  | @createService serviceId request jobId now _ _ _ _ _ _ wrote =>
    have different : s ≠ serviceId := fun same => others request jobId now (same ▸ rfl)
    obtain ⟨found, configured⟩ := after
    refine unmoved ⟨?_, (AList.lookup_insert_ne different).symm.trans configured⟩
    rw [← found]
    exact ((wrote.services s).trans (if_neg different)).symm
  | @edit serviceId _ _ _ row service _ l _ _ before _ wrote =>
    have rows := wrote.services s
    rw [show l.services.lookup s = some row' from after.1] at rows
    by_cases same : s = serviceId
    · subst same
      cases rows.trans (if_pos rfl)
      exact ⟨row, service, before, Nat.le_succ _,
        fun equal => absurd equal (Nat.succ_ne_self _).symm⟩
    · exact unmoved ⟨(rows.trans (if_neg same)).symm,
        (AList.lookup_insert_ne same).symm.trans after.2⟩
  | deleteService =>
    exact unmoved ⟨(Table.lookup_erase_eq_some.mp after.1).2,
      (Table.lookup_erase_eq_some.mp after.2).2⟩
  | @apply _ _ outcome => exact stored (by cases outcome <;> rfl)
  | _ => exact stored rfl

/-! ## Runs -/

/-- The session is not ahead of the stored row, and has its configuration if the versions agree. -/
def Loaded.Behind (loaded : Loaded) (w : World) : Prop :=
  ∀ row service, w.Row loaded.serviceId row service → loaded.row.version ≤ row.version ∧
    (loaded.row.version = row.version → service = loaded.service)

structure Ok (s : State) : Prop where
  inv : Inv s.base
  behind : ∀ sid loaded, s.sessions.lookup sid = some loaded → loaded.Behind s.base

variable {s next : State} {label : Label} {loaded : Loaded}

theorem Loaded.Behind.step {w w' : World} {label : ServiceRuns.Label} (behind : loaded.Behind w)
    (inv : Inv w) (stepped : ServiceRuns.step w label = some w')
    (others : ∀ request jobId now, label ≠ .createService loaded.serviceId request jobId now) :
    loaded.Behind w' := by
  intro row' service' after
  obtain ⟨row, service, before, le, kept⟩ := row_before inv stepped others after
  obtain ⟨notAhead, same⟩ := behind row service before
  refine ⟨notAhead.trans le, fun equal => ?_⟩
  rw [kept (by omega), same (by omega)]

theorem Ok.configured {request : Request} (ok : Ok s) {sid : SessionId}
    (found : s.sessions.lookup sid = some loaded) (current : loaded.current s.base request = true) :
    s.base.configs.lookup loaded.serviceId = some loaded.service := by
  obtain ⟨row, stored, same⟩ := (Option.any_eq_true ..).mp current
  rw [Bool.and_eq_true, beq_iff_eq] at same
  have present := ok.inv.tables.configured loaded.serviceId
  rw [stored] at present
  obtain ⟨service, configured⟩ := Option.isSome_iff_exists.mp present
  rw [configured, (ok.behind sid loaded found row service ⟨stored, configured⟩).2 same.1]

/-- With current commits, a step of overlapping requests is one of the serial system or none. -/
theorem step_serial (ok : Ok s) (current : CommitCurrent s label next)
    (stepped : step s label = some next) :
    (serial s label = none ∧ next.base = s.base) ∨
      ∃ l, serial s label = some l ∧ ServiceRuns.step s.base l = some next.base := by
  cases label with
  | alone label =>
    obtain ⟨_, stepped⟩ := Option.ite_none_left_eq_some.mp stepped
    obtain ⟨base, done, rfl⟩ := Option.map_eq_some_iff.mp stepped
    exact .inr ⟨label, rfl, done⟩
  | load sid serviceId =>
    simp only [step] at stepped
    split at stepped
    · cases stepped
      exact .inl ⟨rfl, rfl⟩
    · cases stepped
  | commit sid request =>
    obtain ⟨loaded, found, stepped⟩ := Option.bind_eq_some_iff.mp stepped
    obtain ⟨base, done, rfl⟩ := Option.map_eq_some_iff.mp stepped
    have isCurrent : loaded.current s.base request = true := by
      simpa [CommitCurrent, found] using current
    refine .inr ⟨request.label loaded.serviceId, by rw [serial, found]; rfl, ?_⟩
    rw [← commit_current isCurrent (ok.configured found isCurrent), done]
  | rollback sid =>
    cases stepped
    exact .inl ⟨rfl, rfl⟩

/-- The sessions after a step were behind before it, and it did not create their services. -/
theorem Ok.sessions (ok : Ok s) (stepped : step s label = some next) {sid : SessionId}
    (opened : next.sessions.lookup sid = some loaded) :
    loaded.Behind s.base ∧ ∀ l, serial s label = some l →
      ∀ request jobId now, l ≠ .createService loaded.serviceId request jobId now := by
  cases label with
  | alone label =>
    obtain ⟨free, stepped⟩ := Option.ite_none_left_eq_some.mp stepped
    obtain ⟨base, _, rfl⟩ := Option.map_eq_some_iff.mp stepped
    refine ⟨ok.behind sid loaded opened, ?_⟩
    rintro _ ⟨⟩ request jobId now rfl
    exact free (List.any_eq_true.mpr ⟨_, AList.mem_lookup_iff.mp opened, beq_self_eq_true _⟩)
  | load sid' serviceId =>
    refine ⟨?_, by simp [serial]⟩
    simp only [step] at stepped
    split at stepped
    next row service _ found configured =>
      cases stepped
      rcases Table.lookup_insert_eq_some.mp opened with ⟨_, rfl⟩ | ⟨_, opened⟩
      · rintro row' service' ⟨found', configured'⟩
        cases found.symm.trans found'
        cases configured.symm.trans configured'
        exact ⟨le_refl _, fun _ => rfl⟩
      · exact ok.behind sid loaded opened
    · cases stepped
  | commit sid' request =>
    obtain ⟨_, found, stepped⟩ := Option.bind_eq_some_iff.mp stepped
    obtain ⟨base, _, rfl⟩ := Option.map_eq_some_iff.mp stepped
    refine ⟨ok.behind sid loaded (Table.lookup_erase_eq_some.mp opened).2, fun l isLabel => ?_⟩
    rw [serial, found] at isLabel
    cases isLabel
    cases request <;> exact nofun
  | rollback sid' =>
    cases stepped
    exact ⟨ok.behind sid loaded (Table.lookup_erase_eq_some.mp opened).2, by simp [serial]⟩

theorem Ok.step (ok : Ok s) (current : CommitCurrent s label next)
    (stepped : Overlap.step s label = some next) : Ok next := by
  rcases step_serial ok current stepped with ⟨_, same⟩ | ⟨l, isLabel, done⟩
  · refine ⟨same ▸ ok.inv, fun sid loaded opened => ?_⟩
    rw [same]
    exact (ok.sessions stepped opened).1
  · refine ⟨ok.inv.step done, fun sid loaded opened => ?_⟩
    obtain ⟨behind, others⟩ := ok.sessions stepped opened
    exact behind.step ok.inv done (others l isLabel)

theorem initial_ok (runs : Table RunId FeedSyncRun) (sources : Table SourceId ThreatFeedSource)
    (maintenanceEnabled : Bool) : Ok (.initial runs sources maintenanceEnabled) :=
  ⟨initial_inv runs sources maintenanceEnabled, by simp [State.initial]⟩

end ScrubbingGateway.Control.ServiceRuns.Overlap
