import ScrubbingGateway.Control.ServiceOverlap

/-!
# Services that are live

When the ledger has come to rest, the data plane holds the enabled services: every service row is
then active, and what the committed snapshot holds for an active row is settled. The part that the
rows cannot settle is a snapshot entry without a row, which a deletion leaves behind when the
service is still live.
-/

namespace ScrubbingGateway.Control.ServiceRuns

open ScrubbingGateway.Control Ledger

/-- A service's job of the latest version. -/
def Latest (l : Ledger) (s : ServiceId) (j : JobId) (job : AgentJob) : Prop :=
  JobOf l s j job ∧ ∀ k other, JobOf l s k other → other.version ≤ job.version

/-- No service job is queued or applying, and no service's latest job failed. -/
structure Quiescent (w : World) : Prop where
  settled : ∀ s j job, JobOf w.db.ledger s j job → job.status ≠ .queued ∧ job.status ≠ .applying
  succeeded : ∀ s j job, Latest w.db.ledger s j job → job.status ≠ .failed

/-- The data plane holds exactly the enabled services. -/
def Converged (w : World) : Prop :=
  ∀ dpId, (∃ service ∈ w.committed, service.dpId = dpId) ↔
    ∃ s service, w.configs.lookup s = some service ∧ service.enabled = true ∧ service.dpId = dpId

/-! ## Snapshots without rows -/

/-- Neither the committed snapshot nor the one the worker is about to apply holds the service. -/
def gone (w : World) (serviceId : ServiceId) : Bool :=
  match w.configs.lookup serviceId with
  | none => true
  | some service =>
    (snapshotOf w.committed service.dpId).isEmpty &&
      match w.worker with
      | .loaded _ node => (snapshotOf node service.dpId).isEmpty
      | _ => true

/-- A service is deleted only when it is gone from the data plane. -/
def DeletesGone (w : World) (label : Label) (_ : World) : Prop :=
  match label with
  | .deleteService serviceId => gone w serviceId = true
  | _ => True

instance (w : World) (label : Label) (next : World) : Decidable (DeletesGone w label next) := by
  unfold DeletesGone
  cases label <;> infer_instance

/-- Every entry of a snapshot belongs to a service. -/
def Owned (w : World) (node : List ServiceConfig) : Prop :=
  ∀ entry ∈ node, ∃ s service, w.configs.lookup s = some service ∧ service.dpId = entry.dpId

structure NoStray (w : World) : Prop where
  committed : Owned w w.committed
  loaded : ∀ j node, w.worker = .loaded j node → Owned w node

/-- Every service stays, with its identifier. -/
def Keeps (w w' : World) : Prop :=
  ∀ s service, w.configs.lookup s = some service →
    ∃ service', w'.configs.lookup s = some service' ∧ service'.dpId = service.dpId

variable {w w' : World} {node : List ServiceConfig} {serviceId : ServiceId}

theorem Owned.keeps (owned : Owned w node) (keeps : Keeps w w') : Owned w' node := by
  intro entry member
  obtain ⟨s, service, found, same⟩ := owned entry member
  obtain ⟨service', found', dpId⟩ := keeps s service found
  exact ⟨s, service', found', dpId.trans same⟩

theorem NoStray.keeps (ok : NoStray w) (keeps : Keeps w w')
    (committed : w'.committed = w.committed) (worker : w'.worker = w.worker) : NoStray w' where
  committed := by
    rw [committed]
    exact ok.committed.keeps keeps
  loaded := by
    intro j node here
    rw [worker] at here
    exact (ok.loaded j node here).keeps keeps

theorem Keeps.refl (w : World) : Keeps w w := fun _ service found => ⟨service, found, rfl⟩

theorem keeps_insert {service : ServiceConfig}
    (stored : w'.configs = w.configs.insert serviceId service)
    (same : ∀ old, w.configs.lookup serviceId = some old → service.dpId = old.dpId) :
    Keeps w w' := by
  intro s old found
  rw [stored]
  by_cases isService : s = serviceId
  · subst isService
    exact ⟨service, by rw [Table.lookup_insert_ite, if_pos rfl], same old found⟩
  · exact ⟨old, by rw [Table.lookup_insert_ite, if_neg isService]; exact found, rfl⟩

theorem snapshotOf_isEmpty {dpId : Int} (empty : (snapshotOf node dpId).isEmpty = true)
    {entry : ServiceConfig} (member : entry ∈ node) : entry.dpId ≠ dpId := by
  intro same
  have inside : entry ∈ snapshotOf node dpId := List.mem_filter.mpr ⟨member, by simp [same]⟩
  rw [List.isEmpty_iff.mp empty] at inside
  exact absurd inside List.not_mem_nil

theorem Owned.delete {deleted : ServiceConfig} (owned : Owned w node)
    (found : w.configs.lookup serviceId = some deleted)
    (empty : (snapshotOf node deleted.dpId).isEmpty = true)
    (erased : w'.configs = w.configs.erase serviceId) : Owned w' node := by
  intro entry member
  obtain ⟨s, service, configured, same⟩ := owned entry member
  have different : s ≠ serviceId := by
    rintro rfl
    cases configured.symm.trans found
    exact snapshotOf_isEmpty empty member same.symm
  refine ⟨s, service, ?_, same⟩
  rw [erased, Table.lookup_erase_ite, if_neg different]
  exact configured

theorem NoStray.delete {service : ServiceConfig} (ok : NoStray w) (isGone : gone w serviceId = true)
    (found : w.configs.lookup serviceId = some service)
    (erased : w'.configs = w.configs.erase serviceId) (committed : w'.committed = w.committed)
    (worker : w'.worker = w.worker) : NoStray w' := by
  simp only [gone, found, Bool.and_eq_true] at isGone
  constructor
  · rw [committed]
    exact ok.committed.delete found isGone.1 erased
  · intro j node here
    rw [worker] at here
    have loaded := isGone.2
    rw [here] at loaded
    exact (ok.loaded j node here).delete found loaded erased

theorem NoStray.moveOn (ok : NoStray w) (configs : w'.configs = w.configs)
    (committed : w'.committed = w.committed) (unloaded : ∀ j node, w'.worker ≠ .loaded j node) :
    NoStray w' where
  committed := by
    rw [committed]
    apply ok.committed.keeps
    intro s service found
    exact ⟨service, by rw [configs]; exact found, rfl⟩
  loaded := fun j node here => absurd here (unloaded j node)

theorem loadNodeConfig_owned (w : World) : Owned w (loadNodeConfig w.rows) := by
  intro entry member
  obtain ⟨row, listed, _, same⟩ := loadNodeConfig_mem member
  obtain ⟨s, found⟩ := World.mem_rows.mp listed
  exact ⟨s, row, found, same⟩

theorem NoStray.applySnapshot {jobId : JobId} (ok : NoStray w)
    (here : w.worker = .loaded jobId node) (outcome : Outcome) :
    NoStray (applySnapshot w jobId node outcome) := by
  have owned := ok.loaded jobId node here
  cases outcome with
  | applied => exact ⟨owned, nofun⟩
  | failed error tookEffect =>
    refine ⟨?_, nofun⟩
    cases tookEffect with
    | true => exact owned
    | false => exact ok.committed

theorem NoStray.step {next : World} {label : Label} (inv : Inv w) (ok : NoStray w)
    (deletes : DeletesGone w label next) (stepped : step w label = some next) : NoStray next := by
  cases stepped_of_step inv stepped with
  | @createService serviceId _ _ _ _ _ _ _ missing =>
    refine ok.keeps (keeps_insert rfl ?_) rfl rfl
    -- no configuration is stored under the new identifier
    intro old configured
    have present := inv.tables.configured serviceId
    rw [configured, missing] at present
    cases present
  | edit _ before _ _ dpId =>
    refine ok.keeps (keeps_insert rfl ?_) rfl rfl
    intro old found
    cases before.2.symm.trans found
    exact dpId
  | deleteService configured => exact ok.delete deletes configured rfl rfl rfl
  | deliver _ _ claims =>
    refine ok.moveOn rfl rfl ?_
    rcases claims with rfl | ⟨rfl, _⟩ <;> exact nofun
  | turn _ unloaded => exact ok.moveOn rfl rfl unloaded
  | loadNode here =>
    -- the snapshot is made of the configurations that are stored now
    refine ⟨ok.committed, fun j node here => ?_⟩
    cases here
    exact loadNodeConfig_owned w
  | apply here => exact ok.applySnapshot here _
  | activated | failed => exact ok.moveOn rfl rfl nofun
  | same | retry | setMaintenance | recover | recoverRetry => exact ok.keeps (Keeps.refl w) rfl rfl

/-! ## At rest -/

theorem Inv.active_of_quiescent (inv : Inv w) (quiet : Quiescent w) {s : ServiceId}
    {row : ProtectedService} (found : w.db.ledger.services.lookup s = some row) :
    row.applyStatus = .active := by
  obtain ⟨started, inQueue⟩ := inv.tables.rested s row found
  obtain ⟨j, job, ofJob, current⟩ := (inv.tables.ledger.services s).currentExists row found started
  have expected := (inv.tables.ledger.services s).expected row j job found ofJob current
  -- no job is ahead of the row, so its current job is the latest one
  have latest : Latest w.db.ledger s j job := by
    refine ⟨ofJob, fun k other ofOther => ?_⟩
    obtain ⟨row', found', le⟩ := inv.tables.ledger.jobsBelow k other s ofOther.1 ofOther.2
    cases found.symm.trans found'
    exact current ▸ le
  have settled := quiet.settled s j job ofJob
  have succeeded := quiet.succeeded s j job latest
  cases status : row.applyStatus with
  | pending => exact absurd status started
  | queued =>
    rw [status] at expected
    simp only [expectedJob, List.mem_cons, List.not_mem_nil, or_false] at expected
    rcases expected with queued | failed
    · exact absurd queued settled.1
    · exact absurd failed succeeded
  | applying =>
    rw [status] at expected
    simp only [expectedJob, List.mem_singleton] at expected
    exact absurd expected settled.2
  | active => rfl
  | failed =>
    rw [status] at expected
    simp only [expectedJob, List.mem_singleton] at expected
    exact absurd expected succeeded

theorem Inv.converged (inv : Inv w) (ok : NoStray w) (quiet : Quiescent w) : Converged w := by
  have shows : ∀ s service, w.configs.lookup s = some service → Shows w.committed service := by
    intro s service configured
    have present := inv.tables.configured s
    rw [configured, Option.isSome_some] at present
    obtain ⟨row, found⟩ := Option.isSome_iff_exists.mp present.symm
    exact inv.worker.live s row service ⟨found, configured⟩ (inv.active_of_quiescent quiet found)
  intro dpId
  constructor
  · rintro ⟨entry, member, rfl⟩
    obtain ⟨s, service, configured, same⟩ := ok.committed entry member
    refine ⟨s, service, configured, ?_, same⟩
    have shown := shows s service configured
    have inside : entry ∈ snapshotOf w.committed service.dpId :=
      List.mem_filter.mpr ⟨member, by simp [same]⟩
    rw [shown] at inside
    by_contra disabled
    simp [disabled] at inside
  · rintro ⟨s, service, configured, enabled, rfl⟩
    have shown := shows s service configured
    rw [Shows, if_pos enabled] at shown
    have inside : serviceConfig service ∈ snapshotOf w.committed service.dpId := by simp [shown]
    exact ⟨serviceConfig service, (List.mem_filter.mp inside).1, rfl⟩

/-- A commit finds the row as its session loaded it, and a deletion finds its service gone from the
data plane. -/
def Orderly (s : Overlap.State) (label : Overlap.Label) (next : Overlap.State) : Prop :=
  Overlap.CommitCurrent s label next ∧
    ∀ l ∈ Overlap.serial s label, DeletesGone s.base l next.base

instance (s : Overlap.State) (label : Overlap.Label) (next : Overlap.State) :
    Decidable (Orderly s label next) :=
  inferInstanceAs (Decidable (_ ∧ _))

/-- In orderly runs, the data plane holds exactly the enabled services whenever the ledger is at
rest. -/
theorem quiescent_services_live (runs : Table RunId FeedSyncRun)
    (sources : Table SourceId ThreatFeedSource) (maintenanceEnabled : Bool)
    {labels : List Overlap.Label} {s : Overlap.State}
    (orderly : Transition.RunAll Overlap.step Orderly (.initial runs sources maintenanceEnabled)
      labels)
    (ran : Transition.run Overlap.step (.initial runs sources maintenanceEnabled) labels = some s)
    (quiet : Quiescent s.base) : Converged s.base := by
  have preserved : ∀ s label next, (Overlap.Ok s ∧ NoStray s.base) → Orderly s label next →
      Overlap.step s label = some next → Overlap.Ok next ∧ NoStray next.base := by
    rintro s label next ⟨ok, noStray⟩ ⟨current, deletes⟩ stepped
    refine ⟨ok.step current stepped, ?_⟩
    rcases Overlap.step_serial ok current stepped with ⟨_, same⟩ | ⟨l, isLabel, done⟩
    · rw [same]
      exact noStray
    · exact noStray.step ok.inv (deletes l isLabel) done
  -- nothing is committed yet, and no job is under way
  have start : NoStray (initial runs sources maintenanceEnabled) := by
    constructor
    · simp [initial, Owned]
    · simp [initial]
  obtain ⟨ok, noStray⟩ := Transition.run_invariant_of_runAll preserved
    ⟨Overlap.initial_ok runs sources maintenanceEnabled, start⟩ orderly ran
  exact ok.inv.converged noStray quiet

/-- The worker takes a job from its delivery to its mark. -/
def applied (jobId : JobId) : List Overlap.Label :=
  [.deliver jobId, .readJob, .loadService, .loadNode, .apply .applied, .mark].map .alone

/-- A service is enabled and live. -/
def madeLive : List Overlap.Label :=
  [.alone (.createService 1 ⟨.v4 0x0A000001 32, none, none, none, none, ⟨100, 200⟩⟩ 1 0),
    .alone (.edit 1 (.setEnabled true) 2 1), .alone (.deliver 1)] ++ applied 2

/-- The disabling is applied before the service is deleted, and a request that was overtaken gives
up. -/
def deletedWhenGone : List Overlap.Label :=
  madeLive ++ [.load 0 1, .load 1 1, .commit 0 (.edit (.setEnabled false) 3 2), .rollback 1] ++
    applied 3 ++ [.load 0 1, .commit 0 .delete]

theorem quiescent_of_settled {w : World} (settled : ∀ e ∈ w.db.ledger.jobs.entries,
    e.2.status ≠ .queued ∧ e.2.status ≠ .applying ∧ e.2.status ≠ .failed) : Quiescent w := by
  constructor
  · intro s j job ofJob
    have := settled ⟨j, job⟩ (AList.mem_lookup_iff.mp ofJob.1)
    exact ⟨this.1, this.2.1⟩
  · intro s j job latest
    exact (settled ⟨j, job⟩ (AList.mem_lookup_iff.mp latest.1.1)).2.2

theorem deletedWhenGone_converged :
    ∃ s, Transition.run Overlap.step (.initial ∅ ∅ false) deletedWhenGone = some s ∧
      Quiescent s.base ∧ Converged s.base := by
  have orderly : Transition.RunAll Overlap.step Orderly (.initial ∅ ∅ false) deletedWhenGone := by
    decide +kernel
  have evaluated : (Transition.run Overlap.step (.initial ∅ ∅ false) deletedWhenGone).map
      (fun s => decide (∀ e ∈ s.base.db.ledger.jobs.entries,
        e.2.status ≠ .queued ∧ e.2.status ≠ .applying ∧ e.2.status ≠ .failed)) = some true := by
    decide +kernel
  obtain ⟨s, ran, isTrue⟩ := Option.map_eq_some_iff.mp evaluated
  have quiet := quiescent_of_settled (of_decide_eq_true isTrue)
  exact ⟨s, ran, quiet, quiescent_services_live ∅ ∅ false orderly ran quiet⟩

/-- The service is deleted while its disabling is still queued. -/
def deletedWhileLive : List Overlap.Label :=
  madeLive ++ [.alone (.edit 1 (.setEnabled false) 3 2), .alone (.deleteService 1)]

/-- The service is disabled by a request that loaded it before another one, since applied, was
committed. -/
def overtakenDisable : List Overlap.Label :=
  madeLive ++ [.load 0 1, .load 1 1, .commit 0 (.edit (.addWhitelist (.v4 0x08080800 24)) 3 2)] ++
    applied 3 ++ [.commit 1 (.edit (.setEnabled false) 4 3)]

/-- Every job is settled and no service is enabled, but service 1 is live. -/
def LeftLive (w : World) : Prop :=
  (∀ e ∈ w.db.ledger.jobs.entries,
    e.2.status ≠ .queued ∧ e.2.status ≠ .applying ∧ e.2.status ≠ .failed) ∧
  (∀ e ∈ w.configs.entries, e.2.enabled = false) ∧ w.committed.map ServiceConfig.dpId = [1]

instance (w : World) : Decidable (LeftLive w) := inferInstanceAs (Decidable (_ ∧ _ ∧ _))

theorem LeftLive.diverged {labels : List Overlap.Label}
    (left : (Transition.run Overlap.step (.initial ∅ ∅ false) labels).map
      (fun s => decide (LeftLive s.base)) = some true) :
    ∃ s, Transition.run Overlap.step (.initial ∅ ∅ false) labels = some s ∧ Quiescent s.base ∧
      ¬ Converged s.base := by
  obtain ⟨s, ran, isTrue⟩ := Option.map_eq_some_iff.mp left
  obtain ⟨settled, disabled, live⟩ := of_decide_eq_true isTrue
  refine ⟨s, ran, quiescent_of_settled settled, fun converged => ?_⟩
  have inSnapshot : (1 : Int) ∈ s.base.committed.map ServiceConfig.dpId := by rw [live]; simp
  obtain ⟨t, service, configured, enabled, _⟩ := (converged 1).mp (List.mem_map.mp inSnapshot)
  rw [disabled ⟨t, service⟩ (AList.mem_lookup_iff.mp configured)] at enabled
  cases enabled

theorem deletedWhileLive_stays_live :
    (∃ s, Transition.run Overlap.step (.initial ∅ ∅ false) deletedWhileLive = some s ∧
      Quiescent s.base ∧ ¬ Converged s.base) ∧
    ∃ s, Transition.run Overlap.step (.initial ∅ ∅ false) overtakenDisable = some s ∧
      Quiescent s.base ∧ ¬ Converged s.base :=
  ⟨LeftLive.diverged (by decide +kernel), LeftLive.diverged (by decide +kernel)⟩

end ScrubbingGateway.Control.ServiceRuns
