import ScrubbingGateway.Control.FeedSources
import ScrubbingGateway.Lib.Transition

/-!
# Deleting a feed while its sync is under way

The requests on feeds and lists interleave with the worker's syncs. A sync claims its job, loads
the source, fetches without a transaction, and then reconciles in a transaction of its own, which
loads the run first and takes the locks later. A manual removal reads before it writes. Every other
transaction holds its locks from its first read on.
-/

namespace ScrubbingGateway.Control.FeedDeletion

abbrev SessionId := Nat

/-- A `_reconcile` that has loaded its run. -/
structure PendingReconcile where
  runId : RunId
  identity : FeedSyncRun
  parsed : ParseResult

/-- A `remove_blacklist` that has read its row and whether a feed asserts it. -/
structure PendingRemoval where
  entryId : EntryId
  hasAssertions : Bool

structure World (Digest : Type) where
  db : FeedDb Digest
  /-- The requests that have loaded their source. -/
  requests : Table SessionId (SourceId × ThreatFeedSource)
  /-- The runs whose source was loaded for a fetch. -/
  fetching : Finset RunId
  reconciles : Table SessionId PendingReconcile
  removals : Table SessionId PendingRemoval

inductive Label where
  | createSource (sourceId : SourceId) (name : String) (enabled : Bool)
  | openRequest (sid : SessionId) (sourceId : SourceId)
  | updateSource (sid : SessionId) (name : Option String) (enabled : Option Bool)
  | enqueueSync (sid : SessionId) (dryRun : Bool) (runId : RunId) (jobId : JobId) (createdAt : Nat)
  | scheduleSync (sourceId : SourceId) (runId : RunId) (jobId : JobId) (createdAt : Nat)
  | deleteSource (sid : SessionId) (runId : RunId) (jobId : JobId) (createdAt : Nat)
      (entryId : EntryId)
  | claim (jobId : JobId)
  | succeed (jobId : JobId) (outcome : Option FeedSyncStatus)
  | fail (jobId : JobId) (error : String)
  | recover (jobId : JobId)
  | startFetch (runId : RunId)
  | loadRun (sid : SessionId) (runId : RunId) (parsed : ParseResult)
  | reconcile (sid : SessionId) (entryId : EntryId)
  | addBlacklist (admin : Bool) (source : Cidr) (entryId : EntryId) (jobId : JobId)
      (createdAt : Nat)
  | readRemoval (sid : SessionId) (admin : Bool) (source : Cidr)
  | writeRemoval (sid : SessionId) (jobId : JobId) (createdAt : Nat)
  | changeWhitelist (whitelist : Table WhitelistId Cidr)

section Step

variable {Digest : Type}

/-- A committed transaction; one that raises leaves no trace. -/
def World.commit (w : World Digest) (result : Except Raised (FeedDb Digest)) :
    Option (World Digest) :=
  result.toOption.map fun db => { w with db := db }

/-- A lifecycle transaction, which touches the job, run and source tables only. -/
def World.lifecycle (w : World Digest) (base : Db) : World Digest :=
  { w with db := { w.db with toDb := base } }

/-- `load_source_for_fetch` of a claimed job: the run is there and its source is live. -/
def startFetch (w : World Digest) (runId : RunId) : Option (World Digest) :=
  let claimed := w.db.ledger.jobs.entries.any fun e =>
    decide (e.2.target = .feedSyncRun runId ∧ e.2.status = .applying)
  match w.db.runs.lookup runId with
  | none => none
  | some run =>
    match w.db.activeSource run.feedSourceId with
    | .error _ => none
    | .ok _ => if claimed then some { w with fetching := insert runId w.fetching } else none

/-- The first statement of `_reconcile`, for a fetch that returned at least one network. -/
def loadRun (w : World Digest) (sid : SessionId) (runId : RunId) (parsed : ParseResult) :
    Option (World Digest) :=
  if runId ∉ w.fetching ∨ parsed.cidrs = [] then none
  else (w.db.runs.lookup runId).map fun run =>
    { w with
      fetching := w.fetching.erase runId
      reconciles := w.reconciles.insert sid ⟨runId, run, parsed⟩ }

/-- What the scheduler asks of a source before it enqueues a sync. -/
def due (db : FeedDb Digest) (sourceId : SourceId) (source : ThreatFeedSource) : Bool :=
  source.enabled && !source.deleted && (db.inflightRun sourceId).isNone

variable [DecidableEq Digest] (sha256 : String → Digest)

def step (w : World Digest) : Label → Option (World Digest)
  | .createSource sourceId name enabled => w.commit (w.db.createSource sourceId name enabled)
  | .openRequest sid sourceId =>
    (w.db.activeSource sourceId).toOption.map fun source =>
      { w with requests := w.requests.insert sid (sourceId, source) }
  | .updateSource sid name enabled =>
    (w.requests.lookup sid).bind fun r => w.commit (w.db.updateSource r.1 r.2 name enabled)
  | .enqueueSync sid dryRun runId jobId createdAt =>
    let trigger := if dryRun then ChangeTrigger.feedDryRun else .feedManual
    (w.requests.lookup sid).bind fun r =>
      w.commit ((w.db.enqueueSync r.1 r.2 trigger dryRun runId jobId createdAt).map Prod.fst)
  | .scheduleSync sourceId runId jobId createdAt =>
    (w.db.sources.lookup sourceId).bind fun source =>
      -- `list_due_sources` locks the row in the statement that reads it
      if due w.db sourceId source then
        w.commit ((w.db.enqueueSync sourceId source .feedSchedule false runId jobId createdAt).map
          Prod.fst)
      else none
  | .deleteSource sid runId jobId createdAt entryId =>
    (w.requests.lookup sid).bind fun r =>
      w.commit (w.db.deleteSource sha256 r.1 r.2 runId jobId createdAt entryId)
  | .claim jobId => some (w.lifecycle (FeedSyncJobLifecycle.claim w.db.toDb jobId).1)
  | .succeed jobId outcome =>
    (FeedSyncJobLifecycle.succeed w.db.toDb jobId outcome).toOption.map w.lifecycle
  | .fail jobId error => some (w.lifecycle (FeedSyncJobLifecycle.fail w.db.toDb jobId error))
  | .recover jobId => some (w.lifecycle (FeedSyncJobLifecycle.recover w.db.toDb jobId))
  | .startFetch runId => startFetch w runId
  | .loadRun sid runId parsed => loadRun w sid runId parsed
  | .reconcile sid entryId =>
    (w.reconciles.lookup sid).bind fun p =>
      w.commit ((w.db.reconcile sha256 p.runId p.identity
        { p.identity with fetchedLines := p.parsed.physicalLineCount } p.parsed entryId).map
        Prod.fst)
  | .addBlacklist admin source entryId jobId createdAt =>
    w.commit (w.db.addBlacklist sha256 admin source entryId jobId createdAt)
  | .readRemoval sid admin source =>
    (w.db.readRemoval admin source).toOption.map fun r =>
      { w with removals := w.removals.insert sid ⟨r.1, r.2⟩ }
  | .writeRemoval sid jobId createdAt =>
    (w.removals.lookup sid).bind fun p =>
      w.commit (w.db.writeRemoval sha256 p.entryId p.hasAssertions jobId createdAt)
  | .changeWhitelist whitelist => some { w with db := { w.db with whitelist := whitelist } }

/-- No rows and nothing under way. -/
def World.initial (lower : String → String) : World Digest where
  db :=
    { lower, ledger := ⟨∅, ∅⟩, runs := ∅, sources := ∅, maintenanceEnabled := false, entries := ∅
      assertions := ∅, whitelist := ∅, denyState := none }
  requests := ∅
  fetching := ∅
  reconciles := ∅
  removals := ∅

end Step

/-! ## The property and the condition -/

variable {Digest : Type}

/-- Nothing is denied on behalf of a deleted source: it asserts nothing, and every denied network
is listed by hand or asserted by a source that is not deleted. -/
structure Purged (db : FeedDb Digest) : Prop where
  silent : ∀ sourceId, db.sourceDeleted sourceId = true →
    ∀ entryId, (sourceId, entryId) ∉ db.assertions
  justified : ∀ entryId entry, db.entries.lookup entryId = some entry →
    entry.source = .manual ∨
      ∃ sourceId, db.sourceDeleted sourceId = false ∧ (sourceId, entryId) ∈ db.assertions

/-- A sync loads its run before a deletion has taken the run over, and a removal that found
assertions writes while there still is one. -/
def Timely (w : World Digest) : Label → Bool
  | .loadRun _ runId _ =>
    (w.db.runs.lookup runId).all fun run => decide (run.trigger ≠ .feedDelete)
  | .writeRemoval sid _ _ =>
    (w.removals.lookup sid).all fun p => !p.hasAssertions || w.db.asserted p.entryId
  | _ => true

/-! ## The invariant of the tables -/

/-- Beside the property: the constraints of the rows, and a deletion is never a dry run. -/
structure TablesInv (db : FeedDb Digest) : Prop where
  rows : db.RowsOk
  silent : ∀ sourceId, db.sourceDeleted sourceId = true →
    ∀ entryId, (sourceId, entryId) ∉ db.assertions
  deletions : ∀ runId run, db.runs.lookup runId = some run → run.trigger = .feedDelete →
    run.dryRun = false

variable {db : FeedDb Digest}

theorem TablesInv.purged (inv : TablesInv db) : Purged db where
  silent := inv.silent
  justified := by
    intro entryId entry found
    cases owner : entry.source with
    | manual => exact Or.inl rfl
    | feed =>
      obtain ⟨sourceId, member⟩ := inv.rows.owned entryId entry found owner
      refine Or.inr ⟨sourceId, ?_, member⟩
      by_contra deleted
      exact inv.silent sourceId (by simpa using deleted) entryId member

/-- A transaction that changes neither a deletion mark nor a trigger, nor the deny rows. -/
theorem TablesInv.frame {base : Db} (inv : TablesInv db) (frame : FeedFrame db.toDb base) :
    TablesInv { db with toDb := base } where
  rows := inv.rows.congr rfl rfl
  silent := fun sourceId deleted => inv.silent sourceId (frame.deleted sourceId ▸ deleted)
  deletions := by
    intro runId run' found deletion
    obtain ⟨run, old, _, trigger, dry⟩ := frame.runs runId run' found
    rw [← dry]
    exact inv.deletions runId run old (trigger.trans deletion)

variable {runId : RunId} {jobId : JobId} {sourceId : SourceId} {identity : ThreatFeedSource}

theorem TablesInv.enqueueSync {after : FeedDb Digest} {trigger : ChangeTrigger} {dryRun : Bool}
    {newRunId : RunId} {createdAt : Nat} (inv : TablesInv db) (sync : trigger ≠ .feedDelete)
    (done : db.enqueueSync sourceId identity trigger dryRun newRunId jobId createdAt =
      .ok (after, runId)) : TablesInv after := by
  obtain ⟨base, rfl, deleted, runs⟩ := FeedDb.enqueueSync_ok done
  refine ⟨inv.rows.congr rfl rfl, fun s isDeleted => inv.silent s (deleted s ▸ isDeleted), ?_⟩
  intro r run found deletion
  rcases runs r run found with old | new
  · exact inv.deletions r run old deletion
  · exact absurd (new.symm.trans deletion) sync

section Rows

variable [DecidableEq Digest] {sha256 : String → Digest}

variable {db after : FeedDb Digest} {entryId : EntryId} {createdAt : Nat}

theorem TablesInv.materialized (done : FeedDb.Materialized sha256 db after) (inv : TablesInv db) :
    TablesInv after := by
  obtain ⟨ledger, rfl⟩ := done
  exact ⟨inv.rows.congr rfl rfl, inv.silent, inv.deletions⟩

theorem TablesInv.addBlacklist {admin : Bool} {source : Cidr} (inv : TablesInv db)
    (done : db.addBlacklist sha256 admin source entryId jobId createdAt = .ok after) :
    TablesInv after := by
  obtain ⟨id, free, _, materialized⟩ := FeedDb.addBlacklist_ok done
  refine TablesInv.materialized materialized
    ⟨inv.rows.setEntry (free inv.rows.unique) ?_, inv.silent, inv.deletions⟩
  intro feed
  cases feed

/-- Handing a row to the feeds needs an assertion; deleting it takes its assertions along. -/
theorem TablesInv.writeRemoval {hasAssertions : Bool} (inv : TablesInv db)
    (current : hasAssertions = true → db.asserted entryId = true)
    (done : db.writeRemoval sha256 entryId hasAssertions jobId createdAt = .ok after) :
    TablesInv after := by
  rcases FeedDb.writeRemoval_ok done with ⟨yes, entry, found, materialized⟩ | ⟨_, materialized⟩
  · refine TablesInv.materialized materialized
      ⟨inv.rows.setEntry ?_ fun _ => FeedDb.asserted_iff.mp (current yes), inv.silent,
        inv.deletions⟩
    exact fun i a other same => inv.rows.unique i entryId a entry other found same
  · refine TablesInv.materialized materialized
      ⟨inv.rows.deleteEntry entryId, fun s deleted e member => ?_, inv.deletions⟩
    exact inv.silent s deleted e (Finset.mem_of_mem_filter _ member)

omit [DecidableEq Digest] in
/-- Replacing the assertions of a source that is live, or that has no candidates. -/
theorem TablesInv.replaced {replaced : FeedDb Digest} {cidrs : List Cidr}
    {runs : Table RunId FeedSyncRun} {state : Option (GlobalDenyState Digest)}
    (spec : FeedDb.Replaced db sourceId cidrs replaced)
    (silent : ∀ s, s ≠ sourceId → db.sourceDeleted s = true → ∀ e, (s, e) ∉ db.assertions)
    (deletions : ∀ r run, db.runs.lookup r = some run → run.trigger = .feedDelete →
      run.dryRun = false) (source : db.sourceDeleted sourceId = true → cidrs = [])
    (keeps : FeedDb.StatsOnly replaced.runs runs) :
    TablesInv { replaced with denyState := state, runs := runs } := by
  have base : replaced.toDb = db.toDb := by rw [spec.frame]
  refine ⟨spec.ok.congr rfl rfl, ?_, ?_⟩
  · intro s deleted e member
    replace deleted : db.sourceDeleted s = true := by
      rw [← base]
      exact deleted
    by_cases own : s = sourceId
    · subst own
      obtain ⟨entry, _, candidate⟩ := (spec.own e).mp member
      rw [source deleted] at candidate
      cases candidate
    · exact silent s own deleted e ((spec.others s e own).mp member)
  · intro r run' found deletion
    obtain ⟨run, old, _, trigger, dry⟩ := keeps.keeps r run' found
    rw [base] at old
    rw [← dry]
    exact deletions r run old (trigger.trans deletion)

theorem TablesInv.reconcile {identity run : FeedSyncRun} {parsed : ParseResult}
    {result : ReconcileResult} (inv : TablesInv db) (sync : run.trigger ≠ .feedDelete)
    (done : db.reconcile sha256 runId identity run parsed entryId = .ok (after, result)) :
    TablesInv after := by
  rcases FeedDb.reconcile_ok done with ⟨rfl, _⟩ |
    ⟨source, found, guard, ⟨_, runs, rfl, keeps⟩ | ⟨_, replaced, runs, rows, rfl, keeps⟩⟩
  · exact inv
  · exact inv.frame ⟨fun _ => rfl, keeps.keeps⟩
  · refine TablesInv.replaced (FeedDb.replaceSource_ok inv.rows rows) (fun s _ => inv.silent s)
      inv.deletions ?_ keeps
    intro deleted
    rw [Db.sourceDeleted, found] at deleted
    exact absurd (guard deleted) sync

/-- The deletion: the source is marked and its assertions are gone when it commits. -/
theorem TablesInv.deleteSource (inv : TablesInv db)
    (done : db.deleteSource sha256 sourceId identity runId jobId createdAt entryId = .ok after) :
    TablesInv after := by
  obtain ⟨base, existing, run, result, deleting, done⟩ := FeedDb.deleteSource_ok done
  have wet : run.dryRun = false := by
    by_contra dry
    obtain ⟨r, inflight⟩ := deleting.dry (by simpa using dry)
    exact dry (inv.deletions r run (FeedDb.inflightRun_some inflight).1 deleting.trigger)
  obtain ⟨replaced, runs, rows, rfl, keeps⟩ := deleting.reconcile_ok wet done
  have rowsOk : FeedDb.RowsOk { db with toDb := base } := inv.rows.congr rfl rfl
  refine TablesInv.replaced (FeedDb.replaceSource_ok rowsOk rows) ?_ ?_ (fun _ => rfl) keeps
  · intro s other deleted
    rw [deleting.marked s, if_neg other] at deleted
    exact inv.silent s deleted
  · intro r run' found deletion
    rcases deleting.runs r run' found with old | dry
    · exact inv.deletions r run' old deletion
    · exact dry

end Rows

/-! ## Runs -/

/-- Beside the tables: no sync under way took its run for a deletion. -/
structure Inv (w : World Digest) : Prop where
  tables : TablesInv w.db
  pending : ∀ sid p, w.reconciles.lookup sid = some p → p.identity.trigger ≠ .feedDelete

theorem inv_initial (lower : String → String) : Inv (World.initial lower : World Digest) where
  tables :=
    { rows := FeedDb.rowsOk_empty rfl rfl
      silent := by intro s deleted; cases deleted
      deletions := by intro r run found; cases found }
  pending := by intro sid p found; cases found

variable {w next : World Digest}

theorem Inv.commit {result : Except Raised (FeedDb Digest)} (inv : Inv w)
    (stepped : w.commit result = some next) (kept : ∀ db, result = .ok db → TablesInv db) :
    Inv next := by
  cases result with
  | error e => cases stepped
  | ok db =>
    cases stepped
    exact ⟨kept db rfl, inv.pending⟩

theorem Inv.lifecycle {base : Db} (inv : Inv w) (frame : FeedFrame w.db.toDb base) :
    Inv (w.lifecycle base) :=
  ⟨inv.tables.frame frame, inv.pending⟩

theorem Inv.loadRun {sid : SessionId} {parsed : ParseResult} (inv : Inv w)
    (timely : Timely w (.loadRun sid runId parsed) = true)
    (stepped : loadRun w sid runId parsed = some next) : Inv next := by
  obtain ⟨_, stepped⟩ := Option.ite_none_left_eq_some.mp stepped
  obtain ⟨run, found, rfl⟩ := Option.map_eq_some_iff.mp stepped
  refine ⟨inv.tables, fun other p there => ?_⟩
  rcases Table.lookup_insert_eq_some.mp there with ⟨_, rfl⟩ | ⟨_, there⟩
  · simpa [Timely, found] using timely
  · exact inv.pending other p there

variable [DecidableEq Digest] {sha256 : String → Digest}

theorem Inv.step {label : Label} (inv : Inv w) (timely : Timely w label = true)
    (stepped : step sha256 w label = some next) : Inv next := by
  cases label with
  | createSource sourceId name enabled =>
    refine inv.commit stepped fun db done => ?_
    obtain ⟨base, rfl, frame⟩ := FeedDb.createSource_ok done
    exact inv.tables.frame frame
  -- the labels that only read keep the tables, and what is pending is as it was
  | openRequest sid sourceId =>
    obtain ⟨source, _, rfl⟩ := Option.map_eq_some_iff.mp stepped
    exact ⟨inv.tables, inv.pending⟩
  | updateSource sid name enabled =>
    obtain ⟨r, _, stepped⟩ := Option.bind_eq_some_iff.mp stepped
    refine inv.commit stepped fun db done => ?_
    obtain ⟨base, rfl, frame⟩ := FeedDb.updateSource_ok done
    exact inv.tables.frame frame
  | enqueueSync sid dryRun runId jobId createdAt =>
    obtain ⟨r, _, stepped⟩ := Option.bind_eq_some_iff.mp stepped
    refine inv.commit stepped fun db done => ?_
    obtain ⟨⟨after, run⟩, enqueued, rfl⟩ := Raise.map_eq_ok.mp done
    refine inv.tables.enqueueSync ?_ enqueued
    split <;> simp
  | scheduleSync sourceId runId jobId createdAt =>
    obtain ⟨source, _, stepped⟩ := Option.bind_eq_some_iff.mp stepped
    split at stepped
    · refine inv.commit stepped fun db done => ?_
      obtain ⟨⟨after, run⟩, enqueued, rfl⟩ := Raise.map_eq_ok.mp done
      exact inv.tables.enqueueSync (by simp) enqueued
    · cases stepped
  | deleteSource sid runId jobId createdAt entryId =>
    obtain ⟨r, _, stepped⟩ := Option.bind_eq_some_iff.mp stepped
    exact inv.commit stepped fun db done => inv.tables.deleteSource done
  -- the lifecycle of a job does not touch the rows of the feeds
  | claim jobId =>
    cases stepped
    exact inv.lifecycle (FeedSyncJobLifecycle.claim_written _ jobId).feedFrame
  | succeed jobId outcome =>
    obtain ⟨base, done, rfl⟩ := Option.map_eq_some_iff.mp stepped
    exact inv.lifecycle
      (FeedSyncJobLifecycle.succeed_written (Raise.toOption_eq_some.mp done)).feedFrame
  | fail jobId error =>
    cases stepped
    exact inv.lifecycle (FeedSyncJobLifecycle.fail_written _ jobId error).feedFrame
  | recover jobId =>
    cases stepped
    exact inv.lifecycle (FeedSyncJobLifecycle.recover_written _ jobId).feedFrame
  | startFetch runId =>
    -- a fetch begins; no table changes before its result is loaded
    simp only [FeedDeletion.step, startFetch] at stepped
    split at stepped
    · cases stepped
    · split at stepped
      · cases stepped
      · split at stepped
        · cases stepped
          exact ⟨inv.tables, inv.pending⟩
        · cases stepped
  | loadRun sid runId parsed => exact inv.loadRun timely stepped
  | reconcile sid entryId =>
    obtain ⟨p, found, stepped⟩ := Option.bind_eq_some_iff.mp stepped
    refine inv.commit stepped fun db done => ?_
    obtain ⟨⟨after, result⟩, reconciled, rfl⟩ := Raise.map_eq_ok.mp done
    refine inv.tables.reconcile ?_ reconciled
    -- the run was loaded for a sync, not for a deletion
    exact inv.pending sid p found
  | addBlacklist admin source entryId jobId createdAt =>
    exact inv.commit stepped fun db done => inv.tables.addBlacklist done
  | readRemoval sid admin source =>
    obtain ⟨r, _, rfl⟩ := Option.map_eq_some_iff.mp stepped
    exact ⟨inv.tables, inv.pending⟩
  | writeRemoval sid jobId createdAt =>
    obtain ⟨p, found, stepped⟩ := Option.bind_eq_some_iff.mp stepped
    refine inv.commit stepped fun db done => inv.tables.writeRemoval ?_ done
    -- a removal that acts on an assertion acts while the assertion is there
    simp only [Timely, found, Option.all_some, Bool.or_eq_true, Bool.not_eq_true'] at timely
    intro yes
    exact timely.resolve_left (by simp [yes])
  | changeWhitelist whitelist =>
    cases stepped
    exact ⟨⟨inv.tables.rows.congr rfl rfl, inv.tables.silent, inv.tables.deletions⟩, inv.pending⟩

/-- In every run in which no sync loads its run after a deletion took it over, and no removal acts
on an assertion that has gone, nothing is ever denied on behalf of a deleted source. -/
theorem deleted_sources_stay_purged {lower : String → String} {labels : List Label}
    {final : World Digest}
    (timely : Transition.RunAll (step sha256) (fun w label _ => Timely w label = true)
      (World.initial lower) labels)
    (ran : Transition.run (step sha256) (World.initial lower) labels = some final) :
    Purged final.db := by
  have inv : Inv final := Transition.run_invariant_of_runAll
    (fun _ _ _ inv condition stepped => inv.step condition stepped) (inv_initial lower) timely ran
  exact inv.tables.purged

/-! ## A sync that ends before and one that ends after the deletion -/

/-- The network 10.0.0.0/8. -/
def tenSlash8 : Cidr := ⟨0x0A000000, 8, Cidr.canonical_ten⟩

def tenFeed : ParseResult := ⟨1, [tenSlash8], 0, 0⟩

/-- A source whose sync has been claimed and is being fetched, and a request to delete it. -/
def fetchingFeed : List Label :=
  [.createSource 1 "feed" true, .openRequest 1 1, .enqueueSync 1 false 1 1 0, .claim 1,
    .startFetch 1]

def start : World String := .initial asciiLower

/-- The sync loads its run, the source is deleted, and then the sync goes on to reconcile. -/
def reconcileOverDeletion : List Label :=
  fetchingFeed ++ [.loadRun 2 1 tenFeed, .deleteSource 1 2 2 0 1, .reconcile 2 1]

def deletionDuringFetch : List Label :=
  fetchingFeed ++ [.deleteSource 1 2 2 0 1, .loadRun 2 1 tenFeed, .reconcile 2 1]

theorem reconcileOverDeletion_purged :
    ∃ final, Transition.run (step id) start reconcileOverDeletion = some final ∧
      Purged final.db := by
  have runs : (Transition.run (step id) start
      reconcileOverDeletion).isSome = true := by
    decide +kernel
  obtain ⟨final, ran⟩ := Option.isSome_iff_exists.mp runs
  exact ⟨final, ran, deleted_sources_stay_purged (by decide +kernel) ran⟩

/-- Here the source is deleted, and afterwards it asserts 10.0.0.0/8, which is denied. -/
theorem deletionDuringFetch_revives :
    ∃ final, Transition.run (step id) start deletionDuringFetch = some final ∧
      final.db.sourceDeleted 1 = true ∧ (1, 1) ∈ final.db.assertions ∧
      tenSlash8 ∈ final.db.globalCidrs ∧ ¬ Purged final.db := by
  have evaluated : (Transition.run (step id) start deletionDuringFetch).map
      (fun w => decide (w.db.sourceDeleted 1 = true ∧ (1, 1) ∈ w.db.assertions ∧
        tenSlash8 ∈ w.db.globalCidrs)) = some true := by
    decide +kernel
  obtain ⟨final, ran, holds⟩ := Option.map_eq_some_iff.mp evaluated
  obtain ⟨deleted, asserts, denied⟩ := of_decide_eq_true holds
  exact ⟨final, ran, deleted, asserts, denied, fun purged => purged.silent 1 deleted 1 asserts⟩

end ScrubbingGateway.Control.FeedDeletion
