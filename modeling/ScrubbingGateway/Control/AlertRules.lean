import Mathlib.Algebra.Order.Ring.Rat
import ScrubbingGateway.Control.AlertRouting
import ScrubbingGateway.Control.StartupRecovery

/-!
# The alert rules

The catalog of `alert_rules.py`, what each rule makes of the inputs of a tick, and how the inputs
that are about jobs are read off the ledger. Metrics are exact rationals.
-/

namespace ScrubbingGateway.Control.AlertRules

open AlertRouting (AlertScope AlertSeverity)
open Accounts (TenantId)

inductive RuleKey where
  | mapError | xdpDegraded | nearCapacity | applyFailed | workerBacklog | feedFailed
  | committedNotHonored | attackOnset | bloomFalsePositive | bypassOrMaintenance | whitelistOverlap
  deriving DecidableEq, Repr

def RuleKey.name : RuleKey → String
  | mapError => "map_error"
  | xdpDegraded => "xdp_degraded"
  | nearCapacity => "near_capacity"
  | applyFailed => "apply_failed"
  | workerBacklog => "worker_backlog"
  | feedFailed => "feed_failed"
  | committedNotHonored => "committed_not_honored"
  | attackOnset => "attack_onset"
  | bloomFalsePositive => "bloom_false_positive"
  | bypassOrMaintenance => "bypass_or_maintenance"
  | whitelistOverlap => "whitelist_overlap"

structure RuleDef where
  key : RuleKey
  scope : AlertScope
  severity : AlertSeverity
  fireThreshold : ℚ
  clearThreshold : ℚ
  defaultEnabled : Bool := true
  silenceInMaintenance : Bool := false
  criticalThreshold : Option ℚ := none

def mapErrorRule : RuleDef :=
  { key := .mapError, scope := .node, severity := .critical
    fireThreshold := 0, clearThreshold := 0 }

def applyFailedRule : RuleDef :=
  { key := .applyFailed, scope := .node, severity := .critical
    fireThreshold := 1, clearThreshold := 0, silenceInMaintenance := true }

def bypassRule : RuleDef :=
  { key := .bypassOrMaintenance, scope := .node, severity := .critical
    fireThreshold := 1, clearThreshold := 0 }

def RULES : List RuleDef :=
  [ mapErrorRule,
    { key := .xdpDegraded, scope := .node, severity := .critical
      fireThreshold := 1, clearThreshold := 0 },
    { key := .nearCapacity, scope := .node, severity := .warning
      fireThreshold := 9 / 10, clearThreshold := 17 / 20, criticalThreshold := some 1 },
    applyFailedRule,
    { key := .workerBacklog, scope := .node, severity := .warning
      fireThreshold := 100, clearThreshold := 80, silenceInMaintenance := true },
    { key := .feedFailed, scope := .node, severity := .warning
      fireThreshold := 1, clearThreshold := 0 },
    { key := .committedNotHonored, scope := .service, severity := .warning
      fireThreshold := 1, clearThreshold := 1 },
    { key := .attackOnset, scope := .service, severity := .warning
      fireThreshold := 1 / 10, clearThreshold := 1 / 20 },
    { key := .bloomFalsePositive, scope := .node, severity := .warning
      fireThreshold := 1000, clearThreshold := 900 },
    bypassRule,
    { key := .whitelistOverlap, scope := .service, severity := .warning
      fireThreshold := 1, clearThreshold := 0 } ]

structure EffectiveRule where
  enabled : Bool
  severity : AlertSeverity
  fireThreshold : ℚ
  clearThreshold : ℚ

def RuleDef.effective (rule : RuleDef) : EffectiveRule :=
  ⟨rule.defaultEnabled, rule.severity, rule.fireThreshold, rule.clearThreshold⟩

structure NodeAlertInputs where
  mapErrorCount : Option Int := none
  xdpMode : Option String := none
  nodeCleanBps : Option Int := none
  nodeCapacityBps : Option Int := none
  applyFailedCount : Option Int := none
  jobBacklog : Option Int := none
  stuckApplying : Option Bool := none
  telemetryStale : Option Bool := none
  feedFailureCount : Option Int := none
  bloomFalsePositives : Option Int := none
  bypassEnabled : Option Bool := none
  maintenanceEnabled : Option Bool := none

structure ServiceAlertInputs where
  scopeKey : String
  tenantId : TenantId
  cleanBps : Option Int := none
  committedBps : Option Int := none
  dropBps : Option Int := none
  totalBps : Option Int := none
  whitelistOverlapCount : Option Int := none

structure RuleObservation where
  ruleKey : RuleKey
  scope : AlertScope
  scopeKey : String
  tenantId : Option TenantId
  severity : AlertSeverity
  metricValue : ℚ
  firing : Bool

/-! ## Evaluation -/

section Evaluation

variable (rule : RuleDef) (effective : EffectiveRule)

def nodeObservation (metricValue : ℚ) (firing : Bool)
    (severity : AlertSeverity := effective.severity) : RuleObservation :=
  ⟨rule.key, .node, "node", none, severity, metricValue, firing⟩

def serviceObservation (service : ServiceAlertInputs) (metricValue : ℚ) (firing : Bool) :
    RuleObservation :=
  ⟨rule.key, .service, service.scopeKey, some service.tenantId, effective.severity, metricValue,
    firing⟩

/-- The rules that fire from a number of events on. -/
def countObservation (count : Option Int) : Option RuleObservation :=
  count.map fun n => nodeObservation rule effective n (effective.fireThreshold ≤ n)

/-- `_worker_health_observation`. The metric is that of the first condition which fires, or of the
first one if none does. -/
def workerHealthObservation (node : NodeAlertInputs) : Option RuleObservation :=
  let flag (b : Bool) : ℚ × Bool := (if b then 1 else 0, b)
  let conditions :=
    (node.jobBacklog.map fun n => ((n : ℚ), decide (effective.fireThreshold ≤ n))).toList ++
      (node.stuckApplying.map flag).toList ++ (node.telemetryStale.map flag).toList
  ((conditions.find? (·.2)).or conditions.head?).map fun condition =>
    nodeObservation rule effective condition.1 (conditions.any (·.2))

def evaluateNode (node : NodeAlertInputs) : Option RuleObservation :=
  match rule.key with
  | .mapError =>
    node.mapErrorCount.map fun n => nodeObservation rule effective n (effective.fireThreshold < n)
  | .xdpDegraded =>
    node.xdpMode.map fun mode =>
      let degraded := mode.toLower ∈ ["generic", "offline", "off", "detached"]
      nodeObservation rule effective (if degraded then 1 else 0) degraded
  | .nearCapacity => do
    let clean ← node.nodeCleanBps
    let capacity ← node.nodeCapacityBps
    if capacity ≤ 0 then none else
    let ratio : ℚ := clean / capacity
    let severity := if rule.criticalThreshold.any (· ≤ ratio) then .critical else effective.severity
    return nodeObservation rule effective ratio (effective.fireThreshold ≤ ratio) severity
  | .applyFailed => countObservation rule effective node.applyFailedCount
  | .workerBacklog => workerHealthObservation rule effective node
  | .feedFailed => countObservation rule effective node.feedFailureCount
  | .bloomFalsePositive => countObservation rule effective node.bloomFalsePositives
  | .bypassOrMaintenance =>
    if node.bypassEnabled.isNone ∧ node.maintenanceEnabled.isNone then none else
    let active := node.bypassEnabled.getD false || node.maintenanceEnabled.getD false
    some (nodeObservation rule effective (if active then 1 else 0) active)
  | .committedNotHonored | .attackOnset | .whitelistOverlap => none

def evaluateService (service : ServiceAlertInputs) : Option RuleObservation :=
  match rule.key with
  | .committedNotHonored => do
    let clean ← service.cleanBps
    let committed ← service.committedBps
    if committed ≤ 0 then none else
    return serviceObservation rule effective service clean (clean < committed)
  | .attackOnset => do
    let drop ← service.dropBps
    let total ← service.totalBps
    if total ≤ 0 then none else
    let share : ℚ := drop / total
    return serviceObservation rule effective service share (effective.fireThreshold ≤ share)
  | .whitelistOverlap =>
    service.whitelistOverlapCount.map fun n =>
      serviceObservation rule effective service n (effective.fireThreshold ≤ n)
  | _ => none

end Evaluation

/-- The observations of a rule in one tick, none if it is disabled. -/
def evaluateRule (rule : RuleDef) (effective : EffectiveRule) (node : NodeAlertInputs)
    (services : List ServiceAlertInputs) : List RuleObservation :=
  if effective.enabled = false then [] else
  match rule.scope with
  | .node => (evaluateNode rule effective node).toList
  | .service => services.filterMap (evaluateService rule effective)

def evaluate (node : NodeAlertInputs) (services : List ServiceAlertInputs)
    (effective : RuleDef → EffectiveRule) : List RuleObservation :=
  RULES.flatMap fun rule => evaluateRule rule (effective rule) node services

/-! ## Failed jobs -/

/-- The counts of `_job_inputs`, put into inputs that have the rest. -/
def withJobs (inputs : NodeAlertInputs) (l : Ledger) : NodeAlertInputs :=
  { inputs with
    jobBacklog := some (l.jobs.entries.countP fun e => e.2.status = .queued)
    applyFailedCount := some (if l.jobs.entries.any fun e => e.2.status = .failed then 1 else 0) }

/-- What a job brings up to date. -/
inductive Subject where
  | service (id : ServiceId)
  | source (id : SourceId)
  | denyList
  deriving DecidableEq, Repr

def subject (db : Db) (job : AgentJob) : Option Subject :=
  match job.target with
  | .service id => some (.service id)
  | .feedSyncRun runId => (db.runs.lookup runId).map fun run => .source run.feedSourceId
  | .globalDeny => some .denyList

/-- The jobs of a service are ordered by version, others by the time they were created. -/
def rank (job : AgentJob) : Nat :=
  match job.target with
  | .service _ => job.version
  | .feedSyncRun _ | .globalDeny => job.createdAt

/-- No job about the same thing comes after it. -/
def Latest (db : Db) (job : AgentJob) : Prop :=
  ∀ id other, db.ledger.jobs.lookup id = some other → subject db other = subject db job →
    rank other ≤ rank job

/-- Whatever had failed has been done since. -/
def Repaired (db : Db) : Prop :=
  ∀ id job, db.ledger.jobs.lookup id = some job → Latest db job → job.status ≠ .failed

theorem any_failed_iff (l : Ledger) : (l.jobs.entries.any fun e => e.2.status = .failed) = true ↔
    ∃ id job, l.jobs.lookup id = some job ∧ job.status = .failed := by
  rw [List.any_eq_true]
  constructor
  · rintro ⟨⟨id, job⟩, member, failed⟩
    exact ⟨id, job, AList.mem_lookup_iff.mpr member, of_decide_eq_true failed⟩
  · rintro ⟨id, job, found, failed⟩
    exact ⟨⟨id, job⟩, AList.mem_lookup_iff.mp found, decide_eq_true failed⟩

/-- The rule fires as long as any job of the table has failed. -/
theorem applyFailed_firing (inputs : NodeAlertInputs) (l : Ledger) :
    (evaluateNode applyFailedRule applyFailedRule.effective (withJobs inputs l)).map (·.firing) =
      some (l.jobs.entries.any fun e => e.2.status = .failed) := by
  show some (decide ((1 : ℚ) ≤ ((if _ then 1 else 0 : Int) : ℚ))) = _
  cases l.jobs.entries.any fun e => e.2.status = .failed <;> rfl

/-- Once everything is repaired, the rule is quiet exactly if no failed job is left in the table
that a later one has made up for. -/
theorem applyFailed_quiet_iff (db : Db) (repaired : Repaired db) (inputs : NodeAlertInputs) :
    (evaluateNode applyFailedRule applyFailedRule.effective (withJobs inputs db.ledger)).map
        (·.firing) = some false ↔
      ∀ id job, db.ledger.jobs.lookup id = some job → ¬ Latest db job → job.status ≠ .failed := by
  rw [applyFailed_firing, Option.some.injEq, ← Bool.not_eq_true, any_failed_iff]
  constructor
  · intro none id job found _ failed
    exact none ⟨id, job, found, failed⟩
  · rintro others ⟨id, job, found, failed⟩
    by_cases latest : Latest db job
    · exact repaired id job found latest failed
    · exact others id job found latest failed

/-- A service that could not be applied at first, and then was by a retry. -/
def repairedByRetry : List LedgerOp :=
  [.createService 1 1 0, .markApplying 1, .markFailed 1 "refused", .retry 1 2 1, .markApplying 1,
    .markActive 1]

theorem repairedByRetry_quiet :
    (evaluateNode applyFailedRule applyFailedRule.effective
      (withJobs {} (afterOps repairedByRetry).ledger)).map (·.firing) = some false := by
  have jobs : (afterOps repairedByRetry).ledger.jobs.entries =
      [⟨1, ⟨.service 1, 1, .service, .succeeded, none, 2, 0⟩⟩] := by decide
  have done (id : JobId) (job : AgentJob)
      (found : (afterOps repairedByRetry).ledger.jobs.lookup id = some job) :
      job.status ≠ .failed := by
    have member := AList.mem_lookup_iff.mp found
    rw [jobs, List.mem_singleton] at member
    cases member
    decide
  exact (applyFailed_quiet_iff _ (fun id job found _ => done id job found) {}).mpr
    fun id job found _ => done id job found

/-- A service whose first version could not be applied, and whose second one was. -/
def repairedByEdit : List LedgerOp :=
  [.createService 1 1 0, .markApplying 1, .markFailed 1 "refused", .bumpVersion 1,
    .enqueue 1 .service 2 1, .markApplying 2, .markActive 2]

/-- The job of the version that was given up is reported for ever. -/
theorem repairedByEdit_reported :
    Reachable (afterOps repairedByEdit) ∧ Repaired (afterOps repairedByEdit) ∧
      (evaluateNode applyFailedRule applyFailedRule.effective
        (withJobs {} (afterOps repairedByEdit).ledger)).map (·.firing) = some true := by
  have jobs : (afterOps repairedByEdit).ledger.jobs.entries =
      [⟨2, ⟨.service 1, 2, .service, .succeeded, none, 1, 1⟩⟩,
        ⟨1, ⟨.service 1, 1, .service, .failed, some "refused", 1, 0⟩⟩] := by decide
  have second : (afterOps repairedByEdit).ledger.jobs.lookup 2 =
      some ⟨.service 1, 2, .service, .succeeded, none, 1, 1⟩ := by decide
  refine ⟨reachable_afterOps _, fun id job found latest => ?_, ?_⟩
  · have member := AList.mem_lookup_iff.mp found
    rw [jobs, List.mem_pair] at member
    rcases member with same | same
    · cases same
      decide
    · -- the second version is later
      cases same
      exact absurd (latest 2 _ second rfl) (by decide)
  · rw [applyFailed_firing, jobs]
    rfl

/-! ## Failed jobs that are left behind -/

section Histories

open Ledger

variable {l l' : Ledger} {target : JobTarget} {jobId : JobId} {serviceId : ServiceId}

/-- The version that a service is configured with. -/
def configured (l : Ledger) : JobTarget → Option Nat
  | .service id => (l.services.lookup id).map ProtectedService.version
  | .feedSyncRun _ | .globalDeny => none

/-- The job of the configured version has failed. -/
def Failing (l : Ledger) (target : JobTarget) : Prop :=
  ∃ id job, l.jobs.lookup id = some job ∧ job.target = target ∧ job.status = .failed ∧
    configured l target = some job.version

/-- A job that is not of the configured version has failed. -/
def GivenUp (l : Ledger) (target : JobTarget) : Prop :=
  ∃ id job, l.jobs.lookup id = some job ∧ job.target = target ∧ job.status = .failed ∧
    configured l target ≠ some job.version

variable {row : ProtectedService} {job : AgentJob}

/-- A write leaves nothing behind if the service keeps its version, and a failed job that is replaced
or written is of that version. -/
theorem givenUp_wrote (wrote : Wrote l serviceId row jobId job l')
    (isTarget : job.target = .service serviceId) (kept : ∀ id old, JobOf l serviceId id old →
      configured l (.service serviceId) = some row.version)
    (before : ∀ old, l.jobs.lookup jobId = some old → old.status = .failed →
      old.target = .service serviceId ∧ old.version = row.version)
    (after : job.status = .failed → job.version = row.version) :
    GivenUp l' target ↔ GivenUp l target := by
  have written : configured l' (.service serviceId) = some row.version := by
    simp [configured, wrote.services]
  have same (id : JobId) (old : AgentJob) (found : l.jobs.lookup id = some old) :
      configured l' old.target = configured l old.target := by
    cases own : old.target with
    | service other =>
      by_cases isService : other = serviceId
      · subst isService
        rw [written, kept id old ⟨found, own⟩]
      · simp [configured, wrote.services, isService]
    | feedSyncRun _ | globalDeny => rfl
  constructor
  · rintro ⟨id, old, found, rfl, failed, stale⟩
    rw [wrote.jobs] at found
    split at found
    · cases found
      rw [isTarget, written] at stale
      exact absurd (congrArg some (after failed).symm) stale
    · exact ⟨id, old, found, rfl, failed, same id old found ▸ stale⟩
  · rintro ⟨id, old, found, rfl, failed, stale⟩
    have different : id ≠ jobId := by
      rintro rfl
      obtain ⟨own, version⟩ := before old found failed
      rw [own, kept id old ⟨found, own⟩, version] at stale
      exact stale rfl
    exact ⟨id, old, by rw [wrote.jobs, if_neg different, found], rfl, failed,
      (same id old found).symm ▸ stale⟩

theorem move_givenUp (below : JobsBelow l) (move : Move l serviceId jobId row job)
    (wrote : Wrote l serviceId row jobId job l')
    (unedited : ∀ old, l.services.lookup serviceId = some old → row.version = old.version) :
    GivenUp l' target ↔ GivenUp l target := by
  refine givenUp_wrote wrote move.target ?_ ?_ ?_
  · intro id old ofOld
    obtain ⟨stored, found, _⟩ := below id old serviceId ofOld.1 ofOld.2
    simp [configured, found, unedited stored found]
  · intro old found failed
    cases move with
    | created _ fresh | edited _ fresh => cases fresh.symm.trans found
    | claimed _ ofJob current | activated _ ofJob current | failed _ ofJob current
    | retried _ ofJob current =>
      cases ofJob.1.symm.trans found
      exact ⟨ofJob.2, current.symm⟩
    | superseded _ ofJob _ live =>
      cases ofJob.1.symm.trans found
      rw [failed] at live
      cases live
  · intro failed
    cases move with
    | created _ _ _ version | edited _ _ _ version => exact version
    | claimed _ _ current | activated _ _ current | failed _ _ current | retried _ _ current =>
      exact current.symm
    | superseded => cases failed

theorem moved_givenUp {next : ApplyStatus} (below : JobsBelow l) (moved : Moved l next jobId l') :
    GivenUp l' target ↔ GivenUp l target := by
  rcases moved with rfl | ⟨s, old, row, job, found, move, wrote, same⟩
  · rfl
  · refine move_givenUp below move wrote fun stored again => ?_
    cases found.symm.trans again
    rcases same with rfl | ⟨version, _⟩
    · rfl
    · exact version

theorem enqueueServiceUpdate_givenUp {trigger : ChangeTrigger} {now : Nat} {job : JobId}
    (found : l.services.lookup serviceId = some row) (fresh : l.jobs.lookup jobId = none)
    (enqueued : l.enqueueServiceUpdate serviceId row trigger jobId now = .ok (l', job)) :
    GivenUp l' target ↔ GivenUp l target := by
  obtain ⟨_, rfl, _⟩ := enqueueServiceUpdate_ok enqueued
  have kept : ∀ id old, JobOf l serviceId id old →
      configured l (.service serviceId) = some row.version := by simp [configured, found]
  unfold insertOrGetJob
  split
  next existing hit =>
    obtain ⟨job, jobFound, isTarget, version⟩ := jobForTargetVersion_some hit
    refine givenUp_wrote (wrote_row l jobFound _) isTarget kept (fun old again _ => ?_)
      fun _ => version
    cases jobFound.symm.trans again
    exact ⟨isTarget, version⟩
  · exact givenUp_wrote (wrote_setService l serviceId _ jobId _) rfl kept (by simp [fresh]) nofun

/-- An edit leaves the failed job of the version that it replaces behind. -/
theorem bumpVersion_givenUp {bumped : ProtectedService} (below : JobsBelow l)
    (done : l.bumpVersion serviceId = .ok (l', bumped)) :
    GivenUp l' target ↔ GivenUp l target ∨ Failing l target ∧ target = .service serviceId := by
  obtain ⟨row, found, rfl, rfl⟩ := bumpVersion_ok done
  by_cases own : target = .service serviceId
  · subst own
    constructor
    · rintro ⟨id, job, there, own, failed, _⟩
      by_cases current : configured l (.service serviceId) = some job.version
      · exact .inr ⟨⟨id, job, there, own, failed, current⟩, rfl⟩
      · exact .inl ⟨id, job, there, own, failed, current⟩
    · intro either
      obtain ⟨id, job, there, own, failed⟩ : ∃ id job, l.jobs.lookup id = some job ∧
          job.target = .service serviceId ∧ job.status = .failed := by
        rcases either with ⟨id, job, there, own, failed, _⟩ | ⟨⟨id, job, there, own, failed, _⟩, _⟩
        all_goals exact ⟨id, job, there, own, failed⟩
      obtain ⟨old, oldFound, le⟩ := below id job serviceId there own
      cases found.symm.trans oldFound
      refine ⟨id, job, there, own, failed, ?_⟩
      simp only [configured, setService_lookup, if_true, Option.map_some, ne_eq,
        Option.some.injEq]
      omega
  · have version : configured (l.setService serviceId
        { row with version := row.version + 1, applyStatus := .pending }) target =
        configured l target := by
      cases target with
      | service id => simp [configured, show id ≠ serviceId from fun same => own (same ▸ rfl)]
      | feedSyncRun _ | globalDeny => rfl
    simp [GivenUp, version, own]

theorem deleteService_givenUp :
    GivenUp (l.deleteService serviceId) target ↔ GivenUp l target ∧ target ≠ .service serviceId := by
  have version (other : target ≠ .service serviceId) :
      configured (l.deleteService serviceId) target = configured l target := by
    cases target with
    | service id =>
      have different : id ≠ serviceId := fun same => other (same ▸ rfl)
      simp [configured, deleteService_services, different]
    | feedSyncRun _ | globalDeny => rfl
  constructor
  · rintro ⟨id, job, there, rfl, failed, stale⟩
    obtain ⟨there, other⟩ := (deleteService_jobs l serviceId).mp there
    rw [version other] at stale
    exact ⟨⟨id, job, there, rfl, failed, stale⟩, other⟩
  · rintro ⟨⟨id, job, there, rfl, failed, stale⟩, other⟩
    rw [← version other] at stale
    exact ⟨id, job, (deleteService_jobs l serviceId).mpr ⟨there, other⟩, rfl, failed, stale⟩

/-- An edit of a failing service leaves a failed job behind, and only the deletion of the service
removes it. -/
theorem apply_givenUp (op : LedgerOp) (inv : LedgerInv l) (applied : op.apply l = .ok l') :
    GivenUp l' target ↔
      (GivenUp l target ∧ ∀ id, op = .deleteService id → target ≠ .service id) ∨
        (Failing l target ∧ ∃ id, op = .bumpVersion id ∧ target = .service id) := by
  cases op with
  | bumpVersion serviceId =>
    obtain ⟨_, bumped⟩ := map_fst_ok applied
    simpa using bumpVersion_givenUp inv.jobsBelow bumped
  | deleteService serviceId =>
    cases applied
    simpa using deleteService_givenUp
  | createService serviceId jobId now =>
    obtain ⟨_, created⟩ := map_fst_ok applied
    obtain ⟨_, missing, move, wrote⟩ := createService_moved inv.jobsBelow created
    simpa using move_givenUp inv.jobsBelow move wrote (by simp [missing])
  | enqueue serviceId trigger jobId now =>
    obtain ⟨fresh, applied⟩ := Raise.ite_error_eq_ok.mp applied
    obtain ⟨row, loaded, applied⟩ := Raise.bind_eq_ok.mp applied
    obtain ⟨⟨_, _⟩, enqueued, applied⟩ := Raise.bind_eq_ok.mp applied
    cases applied
    simpa using enqueueServiceUpdate_givenUp (loadServiceForUpdate_ok.mp loaded)
      (AList.lookup_eq_none.mpr fresh) enqueued
  | retry serviceId jobId now =>
    obtain ⟨_, retried⟩ := map_fst_ok applied
    obtain ⟨row, _, found, _, _, move, wrote⟩ := retry_moved inv retried
    simpa using move_givenUp inv.jobsBelow move wrote (by simp [found])
  | markApplying => simpa using moved_givenUp inv.jobsBelow (markApplying_moved applied)
  | markActive => simpa using moved_givenUp inv.jobsBelow (markActive_moved applied)
  | markFailed => simpa using moved_givenUp inv.jobsBelow (markFailed_moved applied)

theorem Failing.bumped (failing : Failing l (.service serviceId)) :
    ∃ after, (LedgerOp.bumpVersion serviceId).apply l = .ok after := by
  obtain ⟨_, _, _, _, _, version⟩ := failing
  obtain ⟨row, found, _⟩ := Option.map_eq_some_iff.mp version
  have legal : assertTransition row.applyStatus .pending = .ok () := by
    cases row.applyStatus <;> rfl
  simp only [LedgerOp.apply, bumpVersion, loadServiceForUpdate_ok.mpr found, bind,
    Except.bind, legal]
  exact ⟨_, rfl⟩

/-- The step of a history, in which an operation that raises leaves the ledger as it is. -/
theorem givenUp_afterOps_append (ops : List LedgerOp) (op : LedgerOp) :
    GivenUp (afterOps (ops ++ [op])).ledger target ↔
      (GivenUp (afterOps ops).ledger target ∧ ∀ id, op = .deleteService id → target ≠ .service id) ∨
        (Failing (afterOps ops).ledger target ∧ ∃ id, op = .bumpVersion id ∧ target = .service id) := by
  cases applied : op.apply (afterOps ops).ledger with
  | ok after =>
    have next : (afterOps (ops ++ [op])).ledger = after := by simp_all [afterOps]
    rw [next]
    exact apply_givenUp op (reachable_afterOps ops).ledgerInv applied
  | error e =>
    have same : (afterOps (ops ++ [op])).ledger = (afterOps ops).ledger := by simp_all [afterOps]
    rw [same]
    constructor
    · intro givenUp
      refine .inl ⟨givenUp, ?_⟩
      rintro id rfl
      cases applied
    · rintro (⟨givenUp, _⟩ | ⟨failing, id, rfl, rfl⟩)
      · exact givenUp
      · obtain ⟨_, bumped⟩ := failing.bumped
        cases bumped.symm.trans applied

/-- The service was edited while the job of its version had failed, and not deleted since. -/
def EditedFailing (ops : List LedgerOp) (serviceId : ServiceId) : Prop :=
  ∃ before after, ops = before ++ .bumpVersion serviceId :: after ∧
    Failing (afterOps before).ledger (.service serviceId) ∧ .deleteService serviceId ∉ after

theorem editedFailing_append (ops : List LedgerOp) (op : LedgerOp) :
    EditedFailing (ops ++ [op]) serviceId ↔
      (EditedFailing ops serviceId ∧ op ≠ .deleteService serviceId) ∨
        (Failing (afterOps ops).ledger (.service serviceId) ∧ op = .bumpVersion serviceId) := by
  constructor
  · rintro ⟨before, after, split, failing, kept⟩
    rcases List.eq_nil_or_concat after with rfl | ⟨after, last, rfl⟩
    · obtain ⟨rfl, last⟩ := List.append_inj' split rfl
      cases last
      exact .inr ⟨failing, rfl⟩
    · rw [List.concat_eq_append, ← List.cons_append, ← List.append_assoc] at split
      obtain ⟨rfl, last⟩ := List.append_inj' split rfl
      cases last
      simp only [List.concat_eq_append, List.mem_append, List.mem_singleton, not_or] at kept
      exact .inl ⟨⟨before, after, rfl, failing, kept.1⟩, Ne.symm kept.2⟩
  · rintro (⟨⟨before, after, rfl, failing, kept⟩, other⟩ | ⟨failing, rfl⟩)
    · exact ⟨before, after ++ [op], by simp, failing, by simp [kept, Ne.symm other]⟩
    · exact ⟨ops, [], rfl, failing, by simp⟩

/-- A history leaves failed jobs behind for the services that it edits while they are failing. -/
theorem givenUp_afterOps_iff (ops : List LedgerOp) (target : JobTarget) :
    GivenUp (afterOps ops).ledger target ↔
      ∃ id, target = .service id ∧ EditedFailing ops id := by
  induction ops using List.reverseRecOn with
  | nil => simp [GivenUp, EditedFailing, afterOps]
  | append_singleton ops op ih =>
    simp only [givenUp_afterOps_append, ih, editedFailing_append]
    constructor
    · rintro (⟨⟨id, rfl, edited⟩, kept⟩ | ⟨failing, id, rfl, rfl⟩)
      · exact ⟨id, rfl, .inl ⟨edited, fun deleted => kept id deleted rfl⟩⟩
      · exact ⟨id, rfl, .inr ⟨failing, rfl⟩⟩
    · rintro ⟨id, rfl, ⟨edited, kept⟩ | ⟨failing, rfl⟩⟩
      · refine .inl ⟨⟨id, rfl, edited⟩, ?_⟩
        rintro _ rfl same
        cases same
        exact kept rfl
      · exact .inr ⟨failing, id, rfl, rfl⟩

/-- Once everything is repaired, the failed jobs are those that were left behind. -/
theorem givenUp_of_failed {db : Db} (below : JobsBelow db.ledger) (repaired : Repaired db)
    (found : db.ledger.jobs.lookup jobId = some job) (failed : job.status = .failed) :
    GivenUp db.ledger job.target := by
  refine ⟨jobId, job, found, rfl, failed, fun current => ?_⟩
  refine repaired jobId job found (fun id other there same => ?_) failed
  cases own : job.target with
  | service serviceId =>
    -- no job of the service is ahead of its row
    obtain ⟨row, rowFound, version⟩ := Option.map_eq_some_iff.mp (own ▸ current)
    have others : other.target = .service serviceId := by
      cases target : other.target with
      | service id => simpa [subject, own, target] using same
      | feedSyncRun runId => simp [subject, own, target] at same
      | globalDeny => simp [subject, own, target] at same
    obtain ⟨_, again, le⟩ := below id other serviceId there others
    cases rowFound.symm.trans again
    rw [rank, rank, others, own]
    exact le.trans_eq version
  | feedSyncRun _ | globalDeny =>
    rw [own] at current
    cases current

/-- Over histories: once everything is repaired, the rule is quiet exactly if no service was edited
while its job had failed, those apart that were deleted since. -/
theorem applyFailed_quiet_after_iff (ops : List LedgerOp) (repaired : Repaired (afterOps ops))
    (inputs : NodeAlertInputs) :
    (evaluateNode applyFailedRule applyFailedRule.effective
        (withJobs inputs (afterOps ops).ledger)).map (·.firing) = some false ↔
      ∀ serviceId, ¬ EditedFailing ops serviceId := by
  rw [applyFailed_firing, Option.some.injEq, ← Bool.not_eq_true, any_failed_iff]
  constructor
  · intro none serviceId edited
    obtain ⟨id, job, found, _, failed, _⟩ :=
      (givenUp_afterOps_iff ops (.service serviceId)).mpr ⟨serviceId, rfl, edited⟩
    exact none ⟨id, job, found, failed⟩
  · rintro none ⟨id, job, found, failed⟩
    have below := (reachable_afterOps ops).ledgerInv.jobsBelow
    obtain ⟨serviceId, _, edited⟩ :=
      (givenUp_afterOps_iff ops _).mp (givenUp_of_failed below repaired found failed)
    exact none serviceId edited

end Histories
end ScrubbingGateway.Control.AlertRules
