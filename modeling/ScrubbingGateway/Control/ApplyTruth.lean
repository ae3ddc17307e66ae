import ScrubbingGateway.Control.ServiceRuns

/-!
# What an apply status says

In every run the apply status of a service tells where its current version stands: in the queue,
with the worker, or in the data plane.
-/

namespace ScrubbingGateway.Control.ServiceRuns

open ScrubbingGateway.Control Ledger

/-- Every row's apply status agrees with its versions, its jobs and the committed snapshot. -/
structure Truthful (w : World) : Prop where
  active : ∀ s row, w.db.ledger.services.lookup s = some row → row.applyStatus = .active →
    row.activeVersion = some row.version
  applying : ∀ s row, w.db.ledger.services.lookup s = some row →
    (row.applyStatus = .applying ↔ ∃ j job, JobOf w.db.ledger s j job ∧
      job.version = row.version ∧ job.status = .applying)
  queued : ∀ s row, w.db.ledger.services.lookup s = some row → row.applyStatus = .queued →
    ∃ j job, JobOf w.db.ledger s j job ∧ job.version = row.version ∧ job.status = .queued
  live : ∀ s row service, w.Row s row service → row.applyStatus = .active →
    snapshotOf w.committed service.dpId =
      if service.enabled then [serviceConfig service] else []

variable {w next : World} {jobId : JobId} {s : ServiceId} {row : ProtectedService} {job : AgentJob}

theorem Inv.truthful (inv : Inv w) : Truthful w where
  active := fun s row found => ((inv.tables.ledger.services s).active row found).1
  applying := by
    intro s row found
    constructor
    · intro isApplying
      obtain ⟨j, job, ofJob, current⟩ :=
        (inv.tables.ledger.services s).currentExists row found (by simp [isApplying])
      have expected := (inv.tables.ledger.services s).expected row j job found ofJob current
      rw [isApplying] at expected
      exact ⟨j, job, ofJob, current, by simpa [expectedJob] using expected⟩
    · rintro ⟨j, job, ofJob, current, isApplying⟩
      have expected := (inv.tables.ledger.services s).expected row j job found ofJob current
      rw [isApplying] at expected
      -- no other status lets the current job be applying
      cases status : row.applyStatus <;> simp_all [expectedJob]
  queued := fun s row found => (inv.tables.rested s row found).2
  live := inv.worker.live

/-! ## One step at a time -/

/-- What one step may do to the ledger. -/
inductive Evolves (l : Ledger) : Ledger → Prop where
  | same : Evolves l l
  | moved {s : ServiceId} {j : JobId} {row : ProtectedService} {job : AgentJob} {l' : Ledger}
      (move : Move l s j row job) (wrote : Wrote l s row j job l') : Evolves l l'
  | deleted (s : ServiceId) : Evolves l (l.deleteService s)
  | recovered {s : ServiceId} {j newJob key : JobId} {now : Nat} {mid l' : Ledger}
      (marked : l.markFailed j orphanError = .ok mid)
      (retried : mid.retry s newJob now = .ok (l', key)) : Evolves l l'

variable {l l' : Ledger}

theorem Moved.evolves {next : ApplyStatus} (moved : Moved l next jobId l') : Evolves l l' := by
  rcases moved with rfl | ⟨_, _, _, _, _, move, wrote, _⟩
  · exact .same
  · exact .moved move wrote

/-- A service that both ledgers have keeps its active version or gets a later one. -/
def Grows (l l' : Ledger) : Prop :=
  ∀ s row row', l.services.lookup s = some row → l'.services.lookup s = some row' →
    ∀ v, row.activeVersion = some v → ∃ v', row'.activeVersion = some v' ∧ v ≤ v'

theorem Grows.refl (l : Ledger) : Grows l l := by
  intro s row row' found found' v was
  cases found.symm.trans found'
  exact ⟨v, was, le_refl v⟩

variable {j : JobId}

theorem Move.grows (inv : LedgerInv l) (move : Move l s j row job) (wrote : Wrote l s row j job l') :
    Grows l l' := by
  intro t old new found found' v was
  rw [wrote.services] at found'
  split at found'
  next same =>
    subst same
    cases found'
    exact move.activeVersion_grows inv found was
  · cases found.symm.trans found'
    exact ⟨v, was, le_refl v⟩

theorem Grows.trans {a b c : Ledger} (first : Grows a b) (second : Grows b c)
    (kept : ∀ s, (b.services.lookup s).isSome = (a.services.lookup s).isSome) : Grows a c := by
  intro s row row' found found' v was
  have present := kept s
  rw [found, Option.isSome_some] at present
  obtain ⟨mid, midFound⟩ := Option.isSome_iff_exists.mp present
  obtain ⟨v₁, has, le₁⟩ := first s row mid found midFound v was
  obtain ⟨v₂, has₂, le₂⟩ := second s mid row' midFound found' v₁ has
  exact ⟨v₂, has₂, le₁.trans le₂⟩

theorem Evolves.grows (inv : LedgerInv l) (evolves : Evolves l l') : Grows l l' := by
  cases evolves with
  | same => exact Grows.refl l
  | moved move wrote => exact Move.grows inv move wrote
  | deleted s =>
    intro t row row' found found' v was
    cases found.symm.trans (Table.lookup_erase_eq_some.mp found').2
    exact ⟨v, was, le_refl v⟩
  | @recovered s j newJob key now mid _ marked retried =>
    have moved := markFailed_moved marked
    have midInv := inv.moved moved
    obtain ⟨row, old, _, _, _, move, wrote⟩ := retry_moved midInv retried
    have first : Grows l mid := by
      rcases moved with rfl | ⟨_, _, _, _, _, firstMove, firstWrote, _⟩
      · exact Grows.refl mid
      · exact Move.grows inv firstMove firstWrote
    exact first.trans (Move.grows midInv move wrote) moved.isSome

theorem step_evolves {label : Label} (inv : Inv w) (stepped : step w label = some next) :
    Evolves w.db.ledger next.db.ledger := by
  cases stepped_of_step inv stepped with
  | createService _ _ move wrote | edit _ _ move wrote => exact .moved move wrote
  | deleteService => exact .deleted _
  | retry retried =>
    obtain ⟨_, _, _, _, _, move, wrote⟩ := retry_moved inv.tables.ledger retried
    exact .moved move wrote
  | deliver _ marked => exact Moved.evolves (markApplying_moved marked)
  | activated _ marked => exact Moved.evolves (markActive_moved marked)
  | failed _ marked | recover _ marked => exact Moved.evolves (markFailed_moved marked)
  | recoverRetry _ marked again => exact .recovered marked again
  -- the worker reads and applies without writing to the ledger
  | same | setMaintenance | turn | loadNode => exact .same
  | @apply _ _ outcome => cases outcome <;> exact .same

/-! ## Stale jobs -/

theorem markJob_stale {next : ApplyStatus}
    {check : ProtectedService → AgentJob → Except Raised Unit}
    {serviceUpdate : ProtectedService → AgentJob → ProtectedService}
    {jobUpdate : AgentJob → AgentJob}
    (marked : l.markJob jobId next check serviceUpdate jobUpdate = .ok l')
    (found : l.services.lookup s = some row) (ofJob : JobOf l s jobId job)
    (stale : job.version ≠ row.version) : l'.services = l.services := by
  obtain ⟨job', known, ⟨_, rfl⟩ | ⟨t, row', _, target, loaded, ⟨_, rfl⟩ | current⟩⟩ :=
    markJob_ok marked
  · rfl
  · rfl
  · have same : t = s := JobOf.service_eq ⟨known, target⟩ ofJob
    subst same
    cases known.symm.trans ofJob.1
    cases loaded.symm.trans found
    exact absurd current.1.symm stale

/-- What a step does to rows: active versions only grow; a claim or a mark of a job that is not
current leaves the service's row, and a recovery of such a job changes it by the retry alone. -/
structure StepTruthful (w : World) (label : Label) (next : World) : Prop where
  grows : Grows w.db.ledger next.db.ledger
  stale : ∀ s row j job, w.db.ledger.services.lookup s = some row → JobOf w.db.ledger s j job →
    job.version ≠ row.version → (label = .deliver j ∨ (label = .mark ∧ w.worker.job = some j)) →
    next.db.ledger.services.lookup s = some row
  orphan : ∀ s row j job newJob now, w.db.ledger.services.lookup s = some row →
    JobOf w.db.ledger s j job → job.version ≠ row.version → label = .recover j newJob now →
    ∃ l, w.db.ledger.markFailed j orphanError = .ok l ∧ l.services.lookup s = some row ∧
      (next.db.ledger = l ∨ ∃ key, l.retry s newJob now = .ok (next.db.ledger, key))

theorem stale_deliver (inv : Inv w) (stepped : step w (.deliver j) = some next)
    (found : w.db.ledger.services.lookup s = some row) (ofJob : JobOf w.db.ledger s j job)
    (stale : job.version ≠ row.version) : next.db.ledger.services.lookup s = some row := by
  cases stepped_of_step inv stepped with
  | same | turn => exact found
  | deliver _ marked => exact (markJob_stale marked found ofJob stale).symm ▸ found

theorem stale_mark (inv : Inv w) (stepped : step w .mark = some next)
    (holds : w.worker.job = some j) (found : w.db.ledger.services.lookup s = some row)
    (ofJob : JobOf w.db.ledger s j job) (stale : job.version ≠ row.version) :
    next.db.ledger.services.lookup s = some row := by
  cases stepped_of_step inv stepped with
  | same | turn => exact found
  | activated here marked | failed here marked =>
    rw [here] at holds
    cases holds
    exact (markJob_stale marked found ofJob stale).symm ▸ found

theorem stale_recover {newJob : JobId} {now : Nat}
    (stepped : step w (.recover j newJob now) = some next)
    (found : w.db.ledger.services.lookup s = some row) (ofJob : JobOf w.db.ledger s j job)
    (stale : job.version ≠ row.version) :
    ∃ l, w.db.ledger.markFailed j orphanError = .ok l ∧ l.services.lookup s = some row ∧
      (next.db.ledger = l ∨ ∃ key, l.retry s newJob now = .ok (next.db.ledger, key)) := by
  simp only [step] at stepped
  split at stepped
  · obtain ⟨job', serviceId, l, known, marked, done⟩ := recover_ok stepped
    have same : serviceId = s := known.service_eq ofJob
    subst same
    refine ⟨l, marked, ?_, ?_⟩
    · rw [markJob_stale marked found ofJob stale]
      exact found
    · rcases done with rfl | ⟨retried, key, again, rfl⟩
      · exact Or.inl rfl
      · exact Or.inr ⟨key, again⟩
  · cases stepped

theorem apply_status_truthful (runs : Table RunId FeedSyncRun)
    (sources : Table SourceId ThreatFeedSource) (maintenanceEnabled : Bool) {labels : List Label}
    {w : World}
    (ran : Transition.run step (initial runs sources maintenanceEnabled) labels = some w) :
    Truthful w ∧ ∀ label next, step w label = some next → StepTruthful w label next := by
  have inv : Inv w := Transition.run_invariant (fun _ _ _ inv stepped => inv.step stepped)
    (initial_inv runs sources maintenanceEnabled) ran
  refine ⟨inv.truthful, fun label next stepped => ⟨?_, ?_, ?_⟩⟩
  · exact (step_evolves inv stepped).grows inv.tables.ledger
  · rintro s row j job found ofJob stale (rfl | ⟨rfl, holds⟩)
    · exact stale_deliver inv stepped found ofJob stale
    · exact stale_mark inv stepped holds found ofJob stale
  · rintro s row j job newJob now found ofJob stale rfl
    exact stale_recover stepped found ofJob stale

/-- A service is created, enabled while its first job is applied, and applied again. -/
def enabledWhileApplying : List Label :=
  let request : ServiceConfig.NewService :=
    ⟨.v4 0x0A000001 32, none, none, none, none, ⟨100, 200⟩⟩
  [.createService 1 request 1 0, .deliver 1, .readJob, .loadService, .loadNode,
    .edit 1 (.setEnabled true) 2 1, .apply .applied, .mark,
    .deliver 2, .readJob, .loadService, .loadNode, .apply .applied, .mark]

theorem enabledWhileApplying_truthful :
    ∃ w service, Transition.run step (initial ∅ ∅ false) enabledWhileApplying = some w ∧
      w.Row 1 ⟨.active, 2, some 2⟩ service ∧ service.enabled = true ∧
      snapshotOf w.committed service.dpId = [serviceConfig service] := by
  have evaluated : ((Transition.run step (initial ∅ ∅ false) enabledWhileApplying).bind fun w =>
      (w.configs.lookup 1).map fun service => decide (service.enabled = true ∧
        w.db.ledger.services.lookup 1 = some ⟨.active, 2, some 2⟩)) = some true := by
    decide +kernel
  obtain ⟨w, ran, holds⟩ := Option.bind_eq_some_iff.mp evaluated
  obtain ⟨service, configured, isTrue⟩ := Option.map_eq_some_iff.mp holds
  obtain ⟨enabled, found⟩ := of_decide_eq_true isTrue
  have live := (apply_status_truthful ∅ ∅ false ran).1.live 1 _ service ⟨found, configured⟩ rfl
  rw [if_pos enabled] at live
  exact ⟨w, service, ran, ⟨found, configured⟩, enabled, live⟩

end ScrubbingGateway.Control.ServiceRuns
