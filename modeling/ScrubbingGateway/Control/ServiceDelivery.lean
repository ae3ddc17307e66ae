import ScrubbingGateway.Control.ServiceOverlap

/-!
# Deliveries of service jobs

A job identifier can be delivered more than once, and a job can be left applying when its terminal
mark fails. Which deliveries are then processed quietly, and which raise.
-/

namespace ScrubbingGateway.Control.ServiceRuns

open ScrubbingGateway.Control Ledger

/-- What leaves `process_job` at a step: the exception of a claim or of a terminal mark. -/
def raises (w : World) : Label → Option Raised
  | .deliver jobId =>
    match w.worker, claimJob w.db jobId with
    | .idle, .error e => some e
    | _, _ => none
  | .mark =>
    match w.worker with
    | .finished jobId error =>
      match markTerminal w jobId error with
      | .ok _ => none
      | .error e => some e
    | _ => none
  | _ => none

def IllegalTransition : Option Raised → Prop
  | some (.illegalTransition _) => True
  | _ => False

/-- A job that is applying, and of its service's version, is delivered once more. -/
def Redelivered (w : World) (label : Label) : Prop :=
  w.worker = .idle ∧ w.db.maintenanceEnabled = false ∧
    ∃ jobId s row job, label = .deliver jobId ∧ w.db.ledger.services.lookup s = some row ∧
      JobOf w.db.ledger s jobId job ∧ job.version = row.version ∧ job.status = .applying

/-! ## Claims -/

variable {l : Ledger} {s : ServiceId} {row : ProtectedService} {jobId : JobId} {job : AgentJob}

theorem markApplying_redelivered (inv : LedgerInv l) (found : l.services.lookup s = some row)
    (ofJob : JobOf l s jobId job) (current : job.version = row.version)
    (applying : job.status = .applying) :
    l.markApplying jobId =
      .error (.illegalTransition "Illegal apply transition: applying -> applying") := by
  have status := inv.row_applying found ofJob applying current.symm
  have isCurrent : superseded row job = false := by simp [superseded, current]
  have live : isTerminal job.status = false := by rw [applying]; rfl
  have illegal : assertTransition row.applyStatus .applying =
      .error (.illegalTransition "Illegal apply transition: applying -> applying") := by
    rw [status]
    rfl
  simp only [markApplying, markJob, loadJobForUpdate_ok.mpr ofJob.1, targetId_ok.mpr ofJob.2,
    loadServiceForUpdate_ok.mpr found, live, isCurrent, illegal, bind, Except.bind]
  rfl

/-- The terminal mark of the job the worker holds is always legal. -/
theorem Inv.markTerminal_ok {w : World} {error : Option String} (inv : Inv w)
    (here : w.worker = .finished jobId error) : ∃ db, markTerminal w jobId error = .ok db := by
  unfold markTerminal
  cases known : w.db.ledger.jobs.lookup jobId with
  | none => exact ⟨_, rfl⟩
  | some job =>
    obtain ⟨applying, s, target⟩ := inv.worker.held jobId job (by rw [here]; rfl) known
    obtain ⟨_, _, done, _⟩ := finishJob_moved inv.tables.ledger ⟨known, target⟩ applying error
    exact ⟨_, done⟩

/-! ## Deliveries -/

theorem claimJob_error {db : Db} {e : Raised} (raised : claimJob db jobId = .error e) :
    db.maintenanceEnabled = false ∧ db.ledger.markApplying jobId = .error e ∧
      ∃ s job, JobOf db.ledger s jobId job := by
  cases known : db.ledger.jobs.lookup jobId with
  | none => simp [claimJob, known] at raised
  | some job =>
    cases target : job.target with
    | feedSyncRun | globalDeny => simp [claimJob, known, AgentJob.jobType, target] at raised
    | service s =>
      rw [claimJob_service ⟨known, target⟩] at raised
      split at raised
      · cases raised
      next maintenance =>
        refine ⟨by simpa using maintenance, ?_, s, job, known, target⟩
        cases marked : db.ledger.markApplying jobId with
        | error | ok =>
          simp only [ServiceJobLifecycle.claim, marked, bind, Except.bind] at raised
          cases raised
          try rfl

theorem Redelivered.raises {w : World} {label : Label} (inv : Inv w)
    (redelivered : Redelivered w label) : raises w label =
      some (.illegalTransition "Illegal apply transition: applying -> applying") := by
  obtain ⟨idle, maintenance, jobId, s, row, job, rfl, found, ofJob, current, applying⟩ := redelivered
  have marked := markApplying_redelivered inv.tables.ledger found ofJob current applying
  have claimed : claimJob w.db jobId =
      .error (.illegalTransition "Illegal apply transition: applying -> applying") := by
    rw [claimJob_service ofJob, maintenance]
    simp only [ServiceJobLifecycle.claim, marked, bind, Except.bind]
    rfl
  simp only [ServiceRuns.raises, idle, claimed]

theorem Inv.redelivered_of_raises {w : World} {label : Label} {e : Raised} (inv : Inv w)
    (raised : raises w label = some e) : Redelivered w label := by
  unfold ServiceRuns.raises at raised
  split at raised
  next jobId =>
    split at raised
    next e' idle claimed =>
      obtain ⟨maintenance, marked, s, job, ofJob⟩ := claimJob_error claimed
      obtain ⟨row, found, _⟩ := inv.tables.ledger.jobsBelow jobId job s ofJob.1 ofJob.2
      -- any other claim goes through
      by_contra other
      obtain ⟨l, quiet⟩ := markApplying_ok inv.tables.ledger found ofJob fun current applying =>
        other ⟨idle, maintenance, jobId, s, row, job, rfl, found, ofJob, current.symm, applying⟩
      cases marked.symm.trans quiet
    · cases raised
  · split at raised
    next jobId error here =>
      obtain ⟨db, done⟩ := inv.markTerminal_ok here
      simp only [done] at raised
      cases raised
    · cases raised
  · cases raised

/-- When every commit finds the row as its session loaded it, a step of `process_job` raises exactly
when an applying job of the current version is delivered again, and no handler runs for a job that is
terminal. -/
theorem delivery_raises_iff_redelivered (runs : Table RunId FeedSyncRun)
    (sources : Table SourceId ThreatFeedSource) (maintenanceEnabled : Bool)
    {labels : List Overlap.Label} {s : Overlap.State}
    (current : Transition.RunAll Overlap.step Overlap.CommitCurrent
      (.initial runs sources maintenanceEnabled) labels)
    (ran : Transition.run Overlap.step (.initial runs sources maintenanceEnabled) labels = some s) :
    (∀ label, IllegalTransition (raises s.base label) ↔ Redelivered s.base label) ∧
      ∀ jobId job, s.base.worker.job = some jobId → s.base.db.ledger.jobs.lookup jobId = some job →
        isTerminal job.status = false := by
  have preserved : ∀ s label next, Overlap.Ok s → Overlap.CommitCurrent s label next →
      Overlap.step s label = some next → Overlap.Ok next :=
    fun _ _ _ ok here stepped => ok.step here stepped
  have inv : Inv s.base := (Transition.run_invariant_of_runAll preserved
    (Overlap.initial_ok runs sources maintenanceEnabled) current ran).inv
  constructor
  · intro label
    constructor
    · intro illegal
      cases raised : raises s.base label with
      | none => simp [raised, IllegalTransition] at illegal
      | some e => exact inv.redelivered_of_raises raised
    · intro redelivered
      rw [redelivered.raises inv]
      trivial
  · intro jobId job holds known
    rw [(inv.worker.held jobId job holds known).1]
    rfl

/-- What leaves `process_job` if a label comes next. -/
def raisesAfter (labels : List Overlap.Label) (label : Label) : Option (Option Raised) :=
  (Transition.run Overlap.step (.initial ∅ ∅ false) labels).map fun s => raises s.base label

theorem illegal_of_raisesAfter {labels : List Overlap.Label} {label : Label} {message : String}
    (evaluated : raisesAfter labels label = some (some (.illegalTransition message))) :
    ∃ s, Transition.run Overlap.step (.initial ∅ ∅ false) labels = some s ∧
      IllegalTransition (raises s.base label) := by
  obtain ⟨s, ran, raised⟩ := Option.map_eq_some_iff.mp evaluated
  exact ⟨s, ran, by rw [raised]; trivial⟩

def newService : Overlap.Label :=
  .alone (.createService 1 ⟨.v4 0x0A000001 32, none, none, none, none, ⟨100, 200⟩⟩ 1 0)

/-- The first job is claimed while a request is open, and the worker stops after it has claimed the
second. -/
def claimedOnce : List Overlap.Label :=
  [newService, .load 0 1, .alone (.deliver 1), .alone .abandon,
    .commit 0 (.edit (.setEnabled true) 2 1), .alone (.deliver 2), .alone .abandon]

theorem claimedOnce_redelivered :
    ∃ s, Transition.run Overlap.step (.initial ∅ ∅ false) claimedOnce = some s ∧
      Redelivered s.base (.deliver 2) ∧ ¬ IllegalTransition (raises s.base .mark) := by
  have current : Transition.RunAll Overlap.step Overlap.CommitCurrent (.initial ∅ ∅ false)
      claimedOnce := by
    decide +kernel
  have evaluated : raisesAfter claimedOnce (.deliver 2) =
      some (some (.illegalTransition "Illegal apply transition: applying -> applying")) := by
    decide +kernel
  obtain ⟨s, ran, illegal⟩ := illegal_of_raisesAfter evaluated
  have raisesIff := (delivery_raises_iff_redelivered ∅ ∅ false current ran).1
  refine ⟨s, ran, (raisesIff (.deliver 2)).mp illegal, ?_⟩
  intro marked
  obtain ⟨_, _, _, _, _, _, other, _⟩ := (raisesIff .mark).mp marked
  cases other

/-- Two requests load version 1, and the second commits when the worker has applied the first. -/
def overtakenEdit : List Overlap.Label :=
  [newService, .load 0 1, .load 1 1, .commit 0 (.edit (.setEnabled true) 2 1), .alone (.deliver 2),
    .alone .readJob, .alone .loadService, .alone .loadNode, .alone (.apply .applied),
    .commit 1 (.edit (.updateService none (some 5) none none none) 3 2)]

/-- A delivery raises when the job is already applying, and a mark when the edit of another request
has been overtaken. -/
theorem claimedOnce_raises_on_redelivery :
    (∃ s, Transition.run Overlap.step (.initial ∅ ∅ false) claimedOnce = some s ∧
      IllegalTransition (raises s.base (.deliver 2))) ∧
    ∃ s, Transition.run Overlap.step (.initial ∅ ∅ false) overtakenEdit = some s ∧
      IllegalTransition (raises s.base .mark) := by
  have delivered : raisesAfter claimedOnce (.deliver 2) =
      some (some (.illegalTransition "Illegal apply transition: applying -> applying")) := by
    decide +kernel
  have marked : raisesAfter overtakenEdit .mark =
      some (some (.illegalTransition "Illegal apply transition: queued -> active")) := by
    decide +kernel
  exact ⟨illegal_of_raisesAfter delivered, illegal_of_raisesAfter marked⟩

end ScrubbingGateway.Control.ServiceRuns
