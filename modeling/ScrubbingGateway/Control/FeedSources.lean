import ScrubbingGateway.Control.DenyRows

/-!
# Feed sources

`app/services/feeds.py`: the requests on a source and the runs they enqueue. A request loads its
source without a lock before the service function locks the row, and the session goes on with the
values of that first load (`identity`).
-/

namespace ScrubbingGateway.Control

open Raise

/-- The `UPDATE` of a source whose session loaded `identity` and changed it to `object`. -/
def ThreatFeedSource.written (row identity object : ThreatFeedSource) : ThreatFeedSource where
  name := changed row.name identity.name object.name
  enabled := changed row.enabled identity.enabled object.enabled
  deleted := changed row.deleted identity.deleted object.deleted
  syncSequence := changed row.syncSequence identity.syncSequence object.syncSequence
  lastStatus := changed row.lastStatus identity.lastStatus object.lastStatus
  lastError := changed row.lastError identity.lastError object.lastError

namespace FeedDb

variable {Digest : Type}

def sourceNotFound : Raised := .httpException 404 "Feed source not found"

def nameConflict : Raised := .httpException 409 "Feed source name already exists"

/-- `_ensure_name_available` and `uq_threat_feed_source_name`: another row has the name. -/
def nameTaken (db : FeedDb Digest) (name : String) (excludeSourceId : SourceId) : Bool :=
  db.sources.entries.any fun e => e.1 != excludeSourceId && db.lower e.2.name == db.lower name

def setSource (db : FeedDb Digest) (sourceId : SourceId) (source : ThreatFeedSource) :
    FeedDb Digest :=
  { db with toDb := db.toDb.setSource sourceId source }

/-- `create_source` of a payload that its validators accepted. -/
def createSource (db : FeedDb Digest) (sourceId : SourceId) (name : String) (enabled : Bool) :
    Except Raised (FeedDb Digest) :=
  if db.nameTaken name sourceId then .error nameConflict
  else if sourceId ∈ db.sources then .error .sqlAlchemyError
  else .ok (db.setSource sourceId
    { name, enabled, deleted := false, syncSequence := 0, lastStatus := none, lastError := none })

/-- `_active_source` of the router: the plain load at the start of a request. -/
def activeSource (db : FeedDb Digest) (sourceId : SourceId) : Except Raised ThreatFeedSource :=
  match db.sources.lookup sourceId with
  | none => .error sourceNotFound
  | some source => if source.deleted then .error sourceNotFound else .ok source

/-- `_active_source_for_update` and `enqueue_sync`'s check: the row is locked, but `deleted_at` is
the one the session loaded. -/
def lockSource (db : FeedDb Digest) (sourceId : SourceId) (identity : ThreatFeedSource) :
    Except Raised ThreatFeedSource :=
  match db.sources.lookup sourceId with
  | none => .error sourceNotFound
  | some row => if identity.deleted then .error sourceNotFound else .ok row

/-- `update_source`: the name and the switch, when the payload has them. -/
def updateSource (db : FeedDb Digest) (sourceId : SourceId) (identity : ThreatFeedSource)
    (name : Option String) (enabled : Option Bool) : Except Raised (FeedDb Digest) := do
  let row ← db.lockSource sourceId identity
  -- a name that differs in case only is not written
  let renamed := (name.filter fun name => db.lower name != db.lower identity.name).getD identity.name
  let object := { identity with name := renamed, enabled := enabled.getD identity.enabled }
  if renamed ≠ identity.name ∧ db.nameTaken renamed sourceId then throw nameConflict
  return db.setSource sourceId (row.written identity object)

/-- A feed job of this source that is queued or applying. -/
def inflightJob (db : FeedDb Digest) (sourceId : SourceId) (job : AgentJob) : Bool :=
  match job.target with
  | .feedSyncRun runId =>
    (decide (job.status = .queued) || decide (job.status = .applying)) &&
      (db.runs.lookup runId).any fun run => decide (run.feedSourceId = sourceId)
  | .service _ | .globalDeny => false

/-- `_inflight_run`: the oldest one. -/
def inflightRun (db : FeedDb Digest) (sourceId : SourceId) : Option (RunId × FeedSyncRun) :=
  (Table.selectKeys db.ledger.jobs (db.inflightJob sourceId) fun a b =>
    decide (a.2.createdAt < b.2.createdAt ∨ a.2.createdAt = b.2.createdAt ∧ a.1 ≤ b.1)).head?.bind
  fun jobId => (db.ledger.jobs.lookup jobId).bind fun job =>
    match job.target with
    | .feedSyncRun runId => (db.runs.lookup runId).map fun run => (runId, run)
    | .service _ | .globalDeny => none

/-- A run as `_enqueue_locked` inserts it. -/
def newRun (sourceId : SourceId) (source : ThreatFeedSource) (trigger : ChangeTrigger)
    (dryRun : Bool) : FeedSyncRun where
  feedSourceId := sourceId
  sourceName := source.name
  sequence := source.syncSequence
  trigger := trigger
  dryRun := dryRun
  status := .queued
  error := none
  fetchedLines := 0
  valid := 0
  duplicates := 0
  skippedInvalid := 0
  added := 0
  removed := 0
  overlapCount := 0
  globalChanged := false
  desiredRevision := none
  nodeMapVersion := none

/-- `_enqueue_locked`: the run under way, or a new one with its job. `object` is the source as the
session has it by then; the keys and `uq_feed_sync_run_source_sequence` are checked. -/
def enqueueLocked (db : FeedDb Digest) (sourceId : SourceId)
    (row identity object : ThreatFeedSource) (trigger : ChangeTrigger) (dryRun : Bool)
    (runId : RunId) (jobId : JobId) (createdAt : Nat) :
    Except Raised (FeedDb Digest × RunId × FeedSyncRun) :=
  match db.inflightRun sourceId with
  | some (existing, run) =>
    .ok (db.setSource sourceId (row.written identity object), existing, run)
  | none =>
    let numbered := { object with syncSequence := object.syncSequence + 1 }
    let run := newRun sourceId numbered trigger dryRun
    let job : AgentJob :=
      { target := .feedSyncRun runId, version := run.sequence, trigger, status := .queued,
        error := none, attempts := 0, createdAt }
    if runId ∈ db.runs ∨ jobId ∈ db.ledger.jobs ∨ db.runs.entries.any fun e =>
        decide (e.2.feedSourceId = sourceId ∧ e.2.sequence = run.sequence) then
      .error .sqlAlchemyError
    else
      .ok ({ db with toDb := ((db.toDb.setSource sourceId (row.written identity numbered)).setRun
        runId run).setJob jobId job }, runId, run)

/-- `enqueue_sync`; its callers pass the triggers of a manual, a scheduled and a dry run. -/
def enqueueSync (db : FeedDb Digest) (sourceId : SourceId) (identity : ThreatFeedSource)
    (trigger : ChangeTrigger) (dryRun : Bool) (runId : RunId) (jobId : JobId) (createdAt : Nat) :
    Except Raised (FeedDb Digest × RunId) := do
  let row ← db.lockSource sourceId identity
  let (after, run, _) ← db.enqueueLocked sourceId row identity identity trigger dryRun runId jobId
    createdAt
  return (after, run)

/-- The run under way is made the run of the deletion, and so is its job. -/
def retriggerRun (db : FeedDb Digest) (runId : RunId) (run : FeedSyncRun) :
    FeedDb Digest × FeedSyncRun :=
  if run.trigger = .feedDelete then (db, run)
  else
    let rewritten := { run with trigger := .feedDelete, dryRun := false }
    let withRun := db.toDb.setRun runId rewritten
    match db.ledger.jobs.entries.find? fun e => decide (e.2.target = .feedSyncRun runId) with
    | none => ({ db with toDb := withRun }, rewritten)
    | some e =>
      ({ db with toDb := withRun.setJob e.1 { e.2 with trigger := .feedDelete } }, rewritten)

variable [DecidableEq Digest] (sha256 : String → Digest)

/-- `delete_source`: the source is marked, a run is enqueued or taken over, and a reconcile with no
candidates withdraws the assertions. -/
def deleteSource (db : FeedDb Digest) (sourceId : SourceId) (identity : ThreatFeedSource)
    (runId : RunId) (jobId : JobId) (createdAt : Nat) (entryId : EntryId) :
    Except Raised (FeedDb Digest) := do
  let row ← db.lockSource sourceId identity
  let object := { identity with enabled := false, deleted := true }
  let (enqueued, existing, run) ←
    db.enqueueLocked sourceId row identity object .feedDelete false runId jobId createdAt
  let taken := enqueued.retriggerRun existing run
  return (← taken.1.reconcile sha256 existing taken.2 taken.2 .empty entryId).1

end FeedDb

/-! ## What the feed columns keep -/

def Db.sourceDeleted (db : Db) (sourceId : SourceId) : Bool :=
  (db.sources.lookup sourceId).any ThreatFeedSource.deleted

/-- No deletion mark and no trigger of a run changed, and no run is new. -/
structure FeedFrame (db db' : Db) : Prop where
  deleted : ∀ sourceId, db'.sourceDeleted sourceId = db.sourceDeleted sourceId
  runs : FeedDb.KeepsRuns db.runs db'.runs

theorem FeedDb.KeepsRuns.trans {a b c : Table RunId FeedSyncRun} (first : FeedDb.KeepsRuns a b)
    (second : FeedDb.KeepsRuns b c) : FeedDb.KeepsRuns a c := by
  intro runId run'' found
  obtain ⟨run', found', source', trigger', dry'⟩ := second runId run'' found
  obtain ⟨run, found, source, trigger, dry⟩ := first runId run' found'
  exact ⟨run, found, source.trans source', trigger.trans trigger', dry.trans dry'⟩

theorem FeedFrame.refl (db : Db) : FeedFrame db db where
  deleted := fun _ => rfl
  runs := fun _ run found => ⟨run, found, rfl, rfl, rfl⟩

variable {db db' : Db}

variable {run : FeedSyncRun} {runId : RunId}

theorem FeedFrame.setRun {new : FeedSyncRun} (frame : FeedFrame db db')
    (found : db'.runs.lookup runId = some run) (source : run.feedSourceId = new.feedSourceId)
    (trigger : run.trigger = new.trigger) (dry : run.dryRun = new.dryRun) :
    FeedFrame db (db'.setRun runId new) where
  deleted := frame.deleted
  runs := by
    refine frame.runs.trans fun other run' found' => ?_
    rcases Table.lookup_insert_eq_some.mp found' with ⟨rfl, rfl⟩ | ⟨_, found'⟩
    · exact ⟨run, found, source, trigger, dry⟩
    · exact ⟨run', found', rfl, rfl, rfl⟩

theorem Db.sourceDeleted_setSource (db : Db) (sourceId other : SourceId)
    (source : ThreatFeedSource) : (db.setSource sourceId source).sourceDeleted other =
      if other = sourceId then source.deleted else db.sourceDeleted other := by
  rw [Db.sourceDeleted, Db.setSource, Table.lookup_insert_ite]
  split
  · rfl
  · rfl

variable {source : ThreatFeedSource} {sourceId : SourceId}

theorem FeedFrame.setSource {new : ThreatFeedSource} (frame : FeedFrame db db')
    (found : db'.sources.lookup sourceId = some source) (deleted : new.deleted = source.deleted) :
    FeedFrame db (db'.setSource sourceId new) where
  deleted := by
    intro other
    rw [Db.sourceDeleted_setSource, ← frame.deleted other]
    split
    next same =>
      subst same
      rw [deleted, Db.sourceDeleted, found]
      rfl
    · rfl
  runs := frame.runs

theorem Written.feedFrame {jobId : JobId} (written : Written db jobId db') : FeedFrame db db' := by
  induction written with
  | same => exact FeedFrame.refl db
  | job _ _ _ ih => exact ⟨ih.deleted, ih.runs⟩
  | run _ found owner trigger dry ih => exact ih.setRun found owner trigger dry
  | source _ found deleted ih => exact ih.setSource found deleted

namespace FeedDb

variable {Digest : Type}

/-! ## Requests -/

variable {db after : FeedDb Digest} {sourceId : SourceId} {identity : ThreatFeedSource}
  {runId : RunId} {run : FeedSyncRun} {createdAt : Nat} {row : ThreatFeedSource}

theorem lockSource_ok (done : db.lockSource sourceId identity = .ok row) :
    db.sources.lookup sourceId = some row ∧ identity.deleted = false := by
  unfold lockSource at done
  split at done
  · cases done
  next found =>
    obtain ⟨live, ⟨⟩⟩ := Raise.ite_error_eq_ok.mp done
    exact ⟨found, by simpa using live⟩

theorem createSource_ok {name : String} {enabled : Bool}
    (done : db.createSource sourceId name enabled = .ok after) :
    ∃ base, after = { db with toDb := base } ∧ FeedFrame db.toDb base := by
  obtain ⟨_, done⟩ := Raise.ite_error_eq_ok.mp done
  split at done
  · cases done
  next fresh =>
    cases done
    refine ⟨_, rfl, fun other => ?_, (FeedFrame.refl db.toDb).runs⟩
    rw [Db.sourceDeleted_setSource]
    split
    next same =>
      subst same
      rw [Db.sourceDeleted, AList.lookup_eq_none.mpr fresh]
      rfl
    · rfl

theorem updateSource_ok {name : Option String} {enabled : Option Bool}
    (done : db.updateSource sourceId identity name enabled = .ok after) :
    ∃ base, after = { db with toDb := base } ∧ FeedFrame db.toDb base := by
  obtain ⟨row, locked, done⟩ := bind_eq_ok.mp done
  simp only at done
  split at done
  · cases done
  · cases done
    refine ⟨_, rfl, (FeedFrame.refl db.toDb).setSource (lockSource_ok locked).1 ?_⟩
    simp [ThreatFeedSource.written, changed]

theorem inflightRun_some (found : db.inflightRun sourceId = some (runId, run)) :
    db.runs.lookup runId = some run ∧ run.feedSourceId = sourceId := by
  simp only [inflightRun, Option.bind_eq_some_iff] at found
  obtain ⟨jobId, first, job, jobFound, found⟩ := found
  obtain ⟨job', jobFound', inflight⟩ :=
    (Table.mem_selectKeys _ _ _ jobId).mp (List.mem_of_head? first)
  rw [jobFound] at jobFound'
  cases jobFound'
  cases target : job.target with
  | service | globalDeny => simp [target] at found
  | feedSyncRun runId' =>
    simp only [target, Option.map_eq_some_iff, Prod.mk.injEq] at found
    obtain ⟨run', runFound, rfl, rfl⟩ := found
    simp only [inflightJob, target, runFound, Bool.and_eq_true, Option.any_some,
      decide_eq_true_eq] at inflight
    exact ⟨runFound, inflight.2⟩

/-- What `_enqueue_locked` leaves: the source as the session wrote it, the old runs and perhaps the
new one, and the run that it returns. -/
structure Enqueued (db : FeedDb Digest) (sourceId : SourceId) (deleted : Bool)
    (trigger : ChangeTrigger) (dryRun : Bool) (base : Db) (runId : RunId) (run : FeedSyncRun) :
    Prop where
  deletions : ∀ other, base.sourceDeleted other =
    if other = sourceId then deleted else db.sourceDeleted other
  runs : ∀ r run', base.runs.lookup r = some run' → db.runs.lookup r = some run' ∨
    (run'.feedSourceId = sourceId ∧ run'.trigger = trigger ∧ run'.dryRun = dryRun)
  found : base.runs.lookup runId = some run
  owner : run.feedSourceId = sourceId
  origin : db.inflightRun sourceId = some (runId, run) ∨ run.trigger = trigger ∧ run.dryRun = dryRun

variable {trigger : ChangeTrigger} {newRunId : RunId} {dryRun : Bool}

theorem enqueueLocked_ok {object : ThreatFeedSource}
    (done : db.enqueueLocked sourceId row identity object trigger dryRun newRunId jobId createdAt =
      .ok (after, runId, run)) :
    ∃ base, after = { db with toDb := base } ∧ Enqueued db sourceId
      (changed row.deleted identity.deleted object.deleted) trigger dryRun base runId run := by
  unfold enqueueLocked at done
  split at done
  next existing run' inflight =>
    cases done
    obtain ⟨found, owner⟩ := inflightRun_some inflight
    exact ⟨_, rfl, fun other => Db.sourceDeleted_setSource _ _ _ _, fun r run' old => Or.inl old,
      found, owner, Or.inl inflight⟩
  · simp only at done
    split at done
    · cases done
    · cases done
      refine ⟨_, rfl, fun other => Db.sourceDeleted_setSource _ _ _ _, ?_, ?_, rfl,
        Or.inr ⟨rfl, rfl⟩⟩
      · intro r run' found
        rcases Table.lookup_insert_eq_some.mp found with ⟨rfl, rfl⟩ | ⟨_, found⟩
        · exact .inr ⟨rfl, rfl, rfl⟩
        · exact .inl found
      · simp [Db.setJob, Db.setRun]

theorem enqueueSync_ok
    (done : db.enqueueSync sourceId identity trigger dryRun newRunId jobId createdAt =
      .ok (after, runId)) :
    ∃ base, after = { db with toDb := base } ∧
      (∀ other, base.sourceDeleted other = db.sourceDeleted other) ∧
      ∀ r run', base.runs.lookup r = some run' →
        db.runs.lookup r = some run' ∨ run'.trigger = trigger := by
  obtain ⟨row, locked, done⟩ := bind_eq_ok.mp done
  obtain ⟨⟨enqueued, existing, run⟩, first, done⟩ := bind_eq_ok.mp done
  cases done
  obtain ⟨base, rfl, spec⟩ := enqueueLocked_ok first
  refine ⟨base, rfl, fun other => ?_, fun r run' found => ?_⟩
  · rw [spec.deletions]
    split
    next same =>
      subst same
      simp [changed, Db.sourceDeleted, (lockSource_ok locked).1]
    · rfl
  · exact (spec.runs r run' found).imp id fun new => new.2.1

/-- After the takeover the run is a deletion, and the run rows differ in nothing else. -/
theorem retriggerRun_spec (db : FeedDb Digest) (runId : RunId) (run : FeedSyncRun) :
    ∃ base, (db.retriggerRun runId run).1 = { db with toDb := base } ∧
      base.sources = db.sources ∧
      (run.trigger = .feedDelete → (db.retriggerRun runId run).2 = run ∧ base.runs = db.runs) ∧
      (run.trigger ≠ .feedDelete → (db.retriggerRun runId run).2 =
          { run with trigger := .feedDelete, dryRun := false } ∧
        base.runs = db.runs.insert runId { run with trigger := .feedDelete, dryRun := false }) := by
  unfold retriggerRun
  split
  next already => exact ⟨db.toDb, rfl, rfl, fun _ => ⟨rfl, rfl⟩, fun other => absurd already other⟩
  next other =>
    dsimp only
    split
    · exact ⟨_, rfl, rfl, fun already => absurd already other, fun _ => ⟨rfl, rfl⟩⟩
    · exact ⟨_, rfl, rfl, fun already => absurd already other, fun _ => ⟨rfl, rfl⟩⟩

/-- What the reconcile of a deletion starts from: the source is marked, and the run is a deletion of
it. It is a dry run only if a deletion that was under way already was one. -/
structure Deleting (db : FeedDb Digest) (sourceId : SourceId) (base : Db) (run : FeedSyncRun) :
    Prop where
  marked : ∀ s, base.sourceDeleted s = if s = sourceId then true else db.sourceDeleted s
  runs : ∀ r run', base.runs.lookup r = some run' →
    db.runs.lookup r = some run' ∨ run'.dryRun = false
  trigger : run.trigger = .feedDelete
  owner : run.feedSourceId = sourceId
  dry : run.dryRun = true → ∃ r, db.inflightRun sourceId = some (r, run)

theorem deleting_of_enqueued {base : Db}
    (spec : Enqueued db sourceId true .feedDelete false base runId run) :
    ∃ base', ({ db with toDb := base }.retriggerRun runId run).1 = { db with toDb := base' } ∧
      Deleting db sourceId base' ({ db with toDb := base }.retriggerRun runId run).2 := by
  obtain ⟨base', retriggered, sources, kept, taken⟩ :=
    retriggerRun_spec { db with toDb := base } runId run
  have marked (s : SourceId) : base'.sourceDeleted s =
      if s = sourceId then true else db.sourceDeleted s := by
    rw [Db.sourceDeleted, sources]
    exact spec.deletions s
  have runs (r : RunId) (run' : FeedSyncRun) (found : base.runs.lookup r = some run') :
      db.runs.lookup r = some run' ∨ run'.dryRun = false :=
    (spec.runs r run' found).imp id fun new => new.2.2
  refine ⟨base', retriggered, ?_⟩
  by_cases already : run.trigger = .feedDelete
  · obtain ⟨same, sameRuns⟩ := kept already
    rw [same]
    refine ⟨marked, sameRuns ▸ runs, already, spec.owner, fun dry => ?_⟩
    rcases spec.origin with inflight | ⟨_, wet⟩
    · exact ⟨runId, inflight⟩
    · rw [dry] at wet
      cases wet
  · obtain ⟨same, inserted⟩ := taken already
    rw [same]
    refine ⟨marked, fun r run' found => ?_, rfl, spec.owner, fun dry => by cases dry⟩
    rcases Table.lookup_insert_eq_some.mp (inserted ▸ found) with ⟨_, rfl⟩ | ⟨_, found⟩
    · exact .inr rfl
    · exact runs r run' found

variable {sha256 : String → Digest} {entryId : EntryId}

theorem deleteSource_ok [DecidableEq Digest]
    (done : db.deleteSource sha256 sourceId identity runId jobId createdAt entryId = .ok after) :
    ∃ base existing run result, Deleting db sourceId base run ∧
      { db with toDb := base }.reconcile sha256 existing run run .empty entryId =
        .ok (after, result) := by
  obtain ⟨row, locked, done⟩ := bind_eq_ok.mp done
  obtain ⟨⟨enqueued, existing, run⟩, first, done⟩ := bind_eq_ok.mp done
  obtain ⟨⟨last, result⟩, second, done⟩ := bind_eq_ok.mp done
  cases done
  obtain ⟨base, rfl, spec⟩ := enqueueLocked_ok first
  rw [(lockSource_ok locked).2] at spec
  obtain ⟨base', retriggered, deleting⟩ := deleting_of_enqueued spec
  rw [retriggered] at second
  exact ⟨base', existing, _, result, deleting, second⟩

/-- A deletion that is not a dry run withdraws everything its source asserts. -/
theorem Deleting.reconcile_ok [DecidableEq Digest] {base : Db} {result : ReconcileResult}
    (deleting : Deleting db sourceId base run) (wet : run.dryRun = false)
    (done : { db with toDb := base }.reconcile sha256 runId run run .empty entryId =
      .ok (after, result)) :
    ∃ replaced runs, { db with toDb := base }.replaceSource sourceId [] entryId = .ok replaced ∧
      after = { replaced with
        denyState := some
          (materializeLocked sha256 replaced.lockedGlobalState replaced.globalCidrs).1
        runs := runs } ∧ StatsOnly replaced.runs runs := by
  rcases FeedDb.reconcile_ok done with ⟨_, _, refused⟩ |
    ⟨source, found, _, ⟨dry, _⟩ | ⟨_, replaced, runs, rows, rfl, only⟩⟩
  · -- the guard lets the deletion of a marked source through
    have there := deleting.marked sourceId
    rw [if_pos rfl, Db.sourceDeleted, Option.any_eq_true_iff_get] at there
    obtain ⟨some, _⟩ := there
    rw [deleting.owner] at refused
    exact absurd deleting.trigger (refused _ (Option.some_get some).symm).2
  · rw [wet] at dry
    cases dry
  · rw [deleting.owner] at rows
    exact ⟨replaced, runs, rows, rfl, only⟩

end FeedDb

end ScrubbingGateway.Control
