import ScrubbingGateway.Control.GlobalDeny

/-!
# What the deny transactions do to the rows

One lemma for each statement and each transaction, and the invariant they keep: the constraints of
the two tables, and that a feed-owned entry has an assertion.
-/

namespace ScrubbingGateway.Control.FeedDb

open Raise

variable {Digest : Type}

/-! ## Reading -/

variable {db : FeedDb Digest} {cidr : Cidr} {entryId : EntryId} {entry : BlacklistEntry}
  {jobId : JobId} {createdAt : Nat}

theorem mem_globalCidrs :
    cidr ∈ db.globalCidrs ↔
      ∃ entryId entry, db.entries.lookup entryId = some entry ∧ entry.sourceCidr = cidr := by
  simp only [globalCidrs, List.mem_insertionSort, List.mem_map]
  constructor
  · rintro ⟨e, member, same⟩
    exact ⟨e.1, e.2, AList.mem_lookup_iff.mpr member, same⟩
  · rintro ⟨entryId, entry, found, same⟩
    exact ⟨⟨entryId, entry⟩, AList.mem_lookup_iff.mp found, same⟩

theorem entryOf_some (found : db.entryOf cidr = some entryId) :
    ∃ entry, db.entries.lookup entryId = some entry ∧ entry.sourceCidr = cidr := by
  simp only [entryOf, Option.map_eq_some_iff] at found
  obtain ⟨e, hit, rfl⟩ := found
  have same := List.find?_some hit
  simp only [decide_eq_true_eq] at same
  exact ⟨e.2, AList.mem_lookup_iff.mpr (List.mem_of_find?_eq_some hit), same⟩

theorem entryOf_none :
    db.entryOf cidr = none ↔
      ∀ entryId entry, db.entries.lookup entryId = some entry → entry.sourceCidr ≠ cidr := by
  simp only [entryOf, Option.map_eq_none_iff, List.find?_eq_none, decide_eq_true_eq]
  constructor
  · intro absent entryId entry found
    exact absent ⟨entryId, entry⟩ (AList.mem_lookup_iff.mp found)
  · intro absent e member
    exact absent e.1 e.2 (AList.mem_lookup_iff.mpr member)

theorem asserted_iff :
    db.asserted entryId = true ↔ ∃ sourceId, (sourceId, entryId) ∈ db.assertions := by
  simp only [asserted, decide_eq_true_eq]
  constructor
  · rintro ⟨⟨sourceId, _⟩, member, rfl⟩
    exact ⟨sourceId, member⟩
  · rintro ⟨sourceId, member⟩
    exact ⟨(sourceId, entryId), member, rfl⟩

/-! ## The invariant of the rows -/

/-- The unique index `uq_blacklist_global_source_cidr`. -/
def UniqueCidrs (entries : Table EntryId BlacklistEntry) : Prop :=
  ∀ i j a b, entries.lookup i = some a → entries.lookup j = some b →
    a.sourceCidr = b.sourceCidr → i = j

variable {entries : Table EntryId BlacklistEntry}

theorem UniqueCidrs.insert (unique : UniqueCidrs entries)
    (free : ∀ i a, entries.lookup i = some a → a.sourceCidr = entry.sourceCidr → i = entryId) :
    UniqueCidrs (entries.insert entryId entry) :=
  Table.Unique.insert unique free

theorem UniqueCidrs.subset {fewer : Table EntryId BlacklistEntry} (unique : UniqueCidrs entries)
    (kept : ∀ i a, fewer.lookup i = some a → entries.lookup i = some a) : UniqueCidrs fewer :=
  fun i j a b left right => unique i j a b (kept i a left) (kept j b right)

/-- The unique index, the foreign key, and the reason a feed-owned entry is there. -/
structure RowsOk (db : FeedDb Digest) : Prop where
  unique : UniqueCidrs db.entries
  references : ∀ sourceId entryId, (sourceId, entryId) ∈ db.assertions → entryId ∈ db.entries
  owned : ∀ entryId entry, db.entries.lookup entryId = some entry → entry.source = .feed →
    ∃ sourceId, (sourceId, entryId) ∈ db.assertions

theorem rowsOk_empty (entries : db.entries = ∅) (assertions : db.assertions = ∅) : RowsOk db := by
  constructor <;> simp [UniqueCidrs, entries, assertions]

theorem RowsOk.congr {db' : FeedDb Digest} (ok : RowsOk db) (entries : db'.entries = db.entries)
    (assertions : db'.assertions = db.assertions) : RowsOk db' where
  unique := by rw [entries]; exact ok.unique
  references := by rw [entries, assertions]; exact ok.references
  owned := by rw [entries, assertions]; exact ok.owned

/-! ## Writing -/

@[simp] theorem lookup_setEntry (db : FeedDb Digest) (entryId e : EntryId)
    (entry : BlacklistEntry) : (db.setEntry entryId entry).entries.lookup e =
      if e = entryId then some entry else db.entries.lookup e :=
  Table.lookup_insert_ite _ _ _ _

@[simp] theorem lookup_deleteEntry (db : FeedDb Digest) (entryId e : EntryId) :
    (db.deleteEntry entryId).entries.lookup e =
      if e = entryId then none else db.entries.lookup e :=
  Table.lookup_erase_ite _ _ _

/-- What `_upsert_feed_entries` leaves: the old rows, and feed-owned rows for candidates. -/
structure Upserted (db : FeedDb Digest) (cidrs : List Cidr) (after : FeedDb Digest) : Prop where
  kept : ∀ entryId entry, db.entries.lookup entryId = some entry →
    after.entries.lookup entryId = some entry
  new : ∀ entryId entry, after.entries.lookup entryId = some entry →
    db.entries.lookup entryId = some entry ∨
      (entry.source = .feed ∧ entry.sourceCidr ∈ cidrs ∧ entryId ∉ db.entries)
  present : ∀ cidr ∈ cidrs, ∃ entryId entry, after.entries.lookup entryId = some entry ∧
    entry.sourceCidr = cidr
  unique : UniqueCidrs after.entries
  frame : after = { db with entries := after.entries }

variable {after : FeedDb Digest}

theorem Upserted.skip {rest : List Cidr} {existing : EntryId}
    (hit : db.entryOf cidr = some existing) (tail : Upserted db rest after) :
    Upserted db (cidr :: rest) after := by
  refine { tail with new := ?_, present := ?_ }
  · intro i a found
    exact (tail.new i a found).imp id fun ⟨feed, member, fresh⟩ =>
      ⟨feed, List.mem_cons_of_mem _ member, fresh⟩
  · intro c member
    rcases List.mem_cons.mp member with rfl | later
    · obtain ⟨entry, found, same⟩ := entryOf_some hit
      exact ⟨existing, entry, tail.kept existing entry found, same⟩
    · exact tail.present c later

theorem Upserted.add {rest : List Cidr} (fresh : entryId ∉ db.entries)
    (tail : Upserted (db.setEntry entryId ⟨cidr, .feed⟩) rest after) :
    Upserted db (cidr :: rest) after := by
  refine ⟨?_, ?_, ?_, tail.unique, tail.frame⟩
  · intro i a found
    refine tail.kept i a ?_
    rw [lookup_setEntry, if_neg]
    · exact found
    · rintro rfl
      rw [AList.lookup_eq_none.mpr fresh] at found
      cases found
  · intro i a found
    rcases tail.new i a found with old | ⟨feed, member, notThere⟩
    · rw [lookup_setEntry] at old
      split at old
      next isNew =>
        cases old
        exact Or.inr ⟨rfl, List.mem_cons_self, isNew ▸ fresh⟩
      · exact Or.inl old
    · refine Or.inr ⟨feed, List.mem_cons_of_mem _ member, fun old => notThere ?_⟩
      exact (AList.mem_insert _).mpr (Or.inr old)
  · intro c member
    rcases List.mem_cons.mp member with rfl | later
    · exact ⟨entryId, ⟨c, .feed⟩, tail.kept entryId _ (by simp), rfl⟩
    · exact tail.present c later

variable {cidrs : List Cidr}

theorem upsertFeedEntries_frame (done : db.upsertFeedEntries entryId cidrs = .ok after) :
    after = { db with entries := after.entries } := by
  induction cidrs generalizing db entryId with
  | nil =>
    cases done
    rfl
  | cons cidr rest ih =>
    unfold upsertFeedEntries at done
    split at done
    · exact ih done
    · split at done
      · cases done
      · have frame := ih done
        exact frame

variable {sourceId : SourceId}

theorem replaceSource_frame (done : db.replaceSource sourceId cidrs entryId = .ok after) :
    after = { db with entries := after.entries, assertions := after.assertions } := by
  obtain ⟨mid, upserted, done⟩ := bind_eq_ok.mp done
  cases done
  rw [upsertFeedEntries_frame upserted]
  rfl

theorem upsertFeedEntries_ok (unique : UniqueCidrs db.entries)
    (done : db.upsertFeedEntries entryId cidrs = .ok after) : Upserted db cidrs after := by
  induction cidrs generalizing db entryId with
  | nil =>
    cases done
    exact ⟨fun _ _ found => found, fun _ _ found => Or.inl found, by simp, unique, rfl⟩
  | cons cidr rest ih =>
    unfold upsertFeedEntries at done
    split at done
    next there =>
      obtain ⟨existing, hit⟩ := Option.isSome_iff_exists.mp there
      exact (ih unique done).skip hit
    next absent =>
      have free := entryOf_none.mp (Option.not_isSome_iff_eq_none.mp absent)
      obtain ⟨fresh, done⟩ := Raise.ite_error_eq_ok.mp done
      refine Upserted.add fresh (ih (unique.insert ?_) done)
      intro i a found same
      exact absurd same (free i a found)

theorem mem_withdrawn {a : SourceId × EntryId} :
    a ∈ db.withdrawn sourceId cidrs ↔
      a ∈ db.assertions ∧ a.1 = sourceId ∧
        ∃ entry, db.entries.lookup a.2 = some entry ∧ entry.sourceCidr ∉ cidrs := by
  simp only [withdrawn, Finset.mem_filter, Option.any_eq_true_iff_get, decide_eq_true_eq]
  refine and_congr_right fun _ => and_congr_right fun _ => ?_
  constructor
  · rintro ⟨there, outside⟩
    exact ⟨_, (Option.some_get there).symm, outside⟩
  · rintro ⟨entry, found, outside⟩
    exact ⟨by rw [found]; rfl, by simpa [found] using outside⟩

theorem mem_replaceSourceAssertions (db : FeedDb Digest) (sourceId : SourceId)
    (cidrs : List Cidr) (references : ∀ s e, (s, e) ∈ db.assertions → e ∈ db.entries)
    (s : SourceId) (e : EntryId) :
    (s, e) ∈ (db.replaceSourceAssertions sourceId cidrs).assertions ↔
      if s = sourceId then ∃ entry, db.entries.lookup e = some entry ∧ entry.sourceCidr ∈ cidrs
      else (s, e) ∈ db.assertions := by
  have inserted : (s, e) ∈ ((db.entries.entries.filter fun e =>
      decide (e.2.sourceCidr ∈ cidrs)).map fun e => (sourceId, e.1)).toFinset ↔
      s = sourceId ∧ ∃ entry, db.entries.lookup e = some entry ∧ entry.sourceCidr ∈ cidrs := by
    simp only [List.mem_toFinset, List.mem_map, List.mem_filter, decide_eq_true_eq, Prod.mk.injEq]
    constructor
    · rintro ⟨row, ⟨member, candidate⟩, rfl, rfl⟩
      exact ⟨rfl, row.2, AList.mem_lookup_iff.mpr member, candidate⟩
    · rintro ⟨rfl, entry, found, candidate⟩
      exact ⟨⟨e, entry⟩, ⟨AList.mem_lookup_iff.mp found, candidate⟩, rfl, rfl⟩
  rw [replaceSourceAssertions, Finset.mem_union, inserted, Finset.mem_sdiff, mem_withdrawn]
  split
  next own =>
    subst own
    constructor
    · rintro (⟨member, stays⟩ | ⟨_, candidate⟩)
      · -- an assertion that stays refers to an entry, which is a candidate
        obtain ⟨entry, found⟩ := Option.isSome_iff_exists.mp
          (AList.lookup_isSome.mpr (references s e member))
        refine ⟨entry, found, ?_⟩
        by_contra outside
        exact stays ⟨member, rfl, entry, found, outside⟩
      · exact candidate
    · exact fun candidate => Or.inr ⟨rfl, candidate⟩
  next other => simp [other]

theorem lookup_deleteOrphaned :
    db.deleteOrphanedFeedEntries.entries.lookup entryId = some entry ↔
      db.entries.lookup entryId = some entry ∧
        (entry.source = .feed → ∃ sourceId, (sourceId, entryId) ∈ db.assertions) := by
  rw [deleteOrphanedFeedEntries, Table.lookup_filterKeyed, Option.filter_eq_some_iff]
  refine and_congr_right fun _ => ?_
  rw [← asserted_iff]
  cases h : entry.source <;> simp [orphaned, h]

/-- What a reconcile leaves of the rows: the source asserts its candidates, no other source's
assertion and no manual entry changed, and every entry has a reason. -/
structure Replaced (db : FeedDb Digest) (sourceId : SourceId) (cidrs : List Cidr)
    (after : FeedDb Digest) : Prop where
  ok : RowsOk after
  own : ∀ e, (sourceId, e) ∈ after.assertions ↔
    ∃ entry, after.entries.lookup e = some entry ∧ entry.sourceCidr ∈ cidrs
  others : ∀ s e, s ≠ sourceId → ((s, e) ∈ after.assertions ↔ (s, e) ∈ db.assertions)
  present : ∀ cidr ∈ cidrs, ∃ e entry, after.entries.lookup e = some entry ∧
    entry.sourceCidr = cidr
  manual : ∀ e entry, entry.source = .manual →
    (after.entries.lookup e = some entry ↔ db.entries.lookup e = some entry)
  kept : ∀ s e entry, s ≠ sourceId → (s, e) ∈ db.assertions →
    (after.entries.lookup e = some entry ↔ db.entries.lookup e = some entry)
  frame : after = { db with entries := after.entries, assertions := after.assertions }

theorem replaceSource_ok (ok : RowsOk db)
    (done : db.replaceSource sourceId cidrs entryId = .ok after) :
    Replaced db sourceId cidrs after := by
  obtain ⟨mid, upserted, done⟩ := bind_eq_ok.mp done
  cases done
  have up := upsertFeedEntries_ok ok.unique upserted
  obtain ⟨rows, rfl⟩ : ∃ rows, mid = { db with entries := rows } := ⟨mid.entries, up.frame⟩
  have there (s : SourceId) (e : EntryId) (member : (s, e) ∈ db.assertions) :
      ∃ entry, db.entries.lookup e = some entry ∧ rows.lookup e = some entry := by
    obtain ⟨entry, found⟩ := Option.isSome_iff_exists.mp
      (AList.lookup_isSome.mpr (ok.references s e member))
    exact ⟨entry, found, up.kept e entry found⟩
  have references (s : SourceId) (e : EntryId) (member : (s, e) ∈ db.assertions) : e ∈ rows := by
    obtain ⟨entry, _, found⟩ := there s e member
    exact AList.lookup_isSome.mp (by rw [found]; rfl)
  have replaced := mem_replaceSourceAssertions { db with entries := rows } sourceId cidrs references
  -- an asserted entry survives the deletion of the orphans
  have survives {s : SourceId} {e : EntryId} {entry : BlacklistEntry}
      (member : (s, e) ∈ ({ db with entries := rows }.replaceSourceAssertions sourceId
        cidrs).assertions) (found : rows.lookup e = some entry) :
      ({ db with entries := rows }.replaceSourceAssertions sourceId
        cidrs).deleteOrphanedFeedEntries.entries.lookup e = some entry :=
    lookup_deleteOrphaned.mpr ⟨found, fun _ => ⟨s, member⟩⟩
  constructor
  case ok =>
    constructor
    case unique =>
      exact up.unique.subset fun i a found => (lookup_deleteOrphaned.mp found).1
    case references =>
      intro s e member
      have hit := (replaced s e).mp member
      split at hit
      · obtain ⟨entry, found, _⟩ := hit
        exact AList.lookup_isSome.mp (by rw [survives member found]; rfl)
      · obtain ⟨entry, _, found⟩ := there s e hit
        exact AList.lookup_isSome.mp (by rw [survives member found]; rfl)
    case owned =>
      intro e entry found feed
      exact (lookup_deleteOrphaned.mp found).2 feed
  case own =>
    intro e
    constructor
    · intro member
      have hit := (replaced sourceId e).mp member
      rw [if_pos rfl] at hit
      obtain ⟨entry, found, candidate⟩ := hit
      exact ⟨entry, survives member found, candidate⟩
    · rintro ⟨entry, found, candidate⟩
      refine (replaced sourceId e).mpr ?_
      rw [if_pos rfl]
      exact ⟨entry, (lookup_deleteOrphaned.mp found).1, candidate⟩
  case others =>
    intro s e other
    have hit := replaced s e
    rwa [if_neg other] at hit
  case present =>
    intro cidr candidate
    obtain ⟨e, entry, found, rfl⟩ := up.present cidr candidate
    refine ⟨e, entry, survives ((replaced sourceId e).mpr ?_) found, rfl⟩
    rw [if_pos rfl]
    exact ⟨entry, found, candidate⟩
  case manual =>
    intro e entry manual
    constructor
    · intro found
      rcases up.new e entry (lookup_deleteOrphaned.mp found).1 with old | ⟨feed, _⟩
      · exact old
      · rw [manual] at feed
        cases feed
    · intro found
      refine lookup_deleteOrphaned.mpr ⟨up.kept e entry found, fun feed => ?_⟩
      rw [manual] at feed
      cases feed
  case kept =>
    intro s e entry other member
    constructor
    · intro found
      rcases up.new e entry (lookup_deleteOrphaned.mp found).1 with old | ⟨_, _, fresh⟩
      · exact old
      · exact absurd (ok.references s e member) fresh
    · intro found
      refine survives ((replaced s e).mpr ?_) (up.kept e entry found)
      rwa [if_neg other]
  case frame => rfl

theorem RowsOk.deleteEntry (ok : RowsOk db) (entryId : EntryId) :
    RowsOk (db.deleteEntry entryId) where
  unique := ok.unique.subset fun i a found => by
    rw [lookup_deleteEntry] at found
    split at found
    · cases found
    · exact found
  references := by
    intro s e member
    simp only [FeedDb.deleteEntry, Finset.mem_filter] at member
    exact AList.mem_erase.mpr ⟨member.2, ok.references s e member.1⟩
  owned := by
    intro e entry found feed
    rw [lookup_deleteEntry] at found
    split at found
    · cases found
    next other =>
      obtain ⟨s, member⟩ := ok.owned e entry found feed
      exact ⟨s, Finset.mem_filter.mpr ⟨member, other⟩⟩

/-- Writing the row of a network keeps the invariant, if a feed-owned row is asserted. -/
theorem RowsOk.setEntry (ok : RowsOk db)
    (free : ∀ i a, db.entries.lookup i = some a → a.sourceCidr = entry.sourceCidr → i = entryId)
    (reason : entry.source = .feed → ∃ s, (s, entryId) ∈ db.assertions) :
    RowsOk (db.setEntry entryId entry) where
  unique := ok.unique.insert free
  references := fun s e member => (AList.mem_insert _).mpr (Or.inr (ok.references s e member))
  owned := by
    intro e row found feed
    rw [lookup_setEntry] at found
    split at found
    next same =>
      cases found
      subst same
      exact reason feed
    · exact ok.owned e row found feed

/-! ## Transactions -/

variable [DecidableEq Digest] {sha256 : String → Digest}

theorem materialize_ok {stateChanged : Bool}
    (done : db.materialize sha256 = .ok (after, stateChanged)) :
    after = { db with
      denyState := some (materializeLocked sha256 db.lockedGlobalState db.globalCidrs).1 } := by
  obtain ⟨_, _, done⟩ := bind_eq_ok.mp done
  cases done
  rfl

theorem enqueueGlobalConvergence_ok {enqueued : Bool}
    (done : db.enqueueGlobalConvergence jobId createdAt = .ok (after, enqueued)) :
    ∃ ledger, after = { db with ledger := ledger } := by
  unfold enqueueGlobalConvergence at done
  split at done
  · cases done
    exact ⟨db.ledger, rfl⟩
  next state _ =>
    split at done
    · cases done
      exact ⟨db.ledger, rfl⟩
    · split at done
      · cases done
        exact ⟨db.ledger, rfl⟩
      · split at done
        · cases done
          exact ⟨_, rfl⟩
        · simp only at done
          split at done
          · cases done
          · cases done
            exact ⟨_, rfl⟩

/-- The rows have become the desired set; beside it only jobs changed. -/
def Materialized (sha256 : String → Digest) (db after : FeedDb Digest) : Prop :=
  ∃ ledger, after = { db with
    denyState := some (materializeLocked sha256 db.lockedGlobalState db.globalCidrs).1
    ledger := ledger }

theorem materializeAndEnqueue_ok
    (done : db.materializeAndEnqueue sha256 jobId createdAt = .ok after) :
    Materialized sha256 db after := by
  obtain ⟨⟨materialized, stateChanged⟩, first, done⟩ := bind_eq_ok.mp done
  obtain rfl := materialize_ok first
  simp only at done
  split at done
  · obtain ⟨⟨enqueued, flag⟩, second, done⟩ := bind_eq_ok.mp done
    cases done
    obtain ⟨ledger, rfl⟩ := enqueueGlobalConvergence_ok second
    exact ⟨ledger, rfl⟩
  · cases done
    exact ⟨db.ledger, rfl⟩

/-- The run rows keep the columns that the lifecycle and the guards read. -/
def KeepsRuns (runs runs' : Table RunId FeedSyncRun) : Prop :=
  ∀ runId run', runs'.lookup runId = some run' → ∃ run, runs.lookup runId = some run ∧
    run.feedSourceId = run'.feedSourceId ∧ run.trigger = run'.trigger ∧ run.dryRun = run'.dryRun

omit [DecidableEq Digest] in
theorem storeRunStats_eq (db : FeedDb Digest) (runId : RunId) (identity object : FeedSyncRun) :
    db.storeRunStats runId identity object =
      { db with runs := (db.storeRunStats runId identity object).runs } := by
  unfold storeRunStats
  split <;> rfl

/-- The run rows differ in their statistics at most. -/
def StatsOnly (runs runs' : Table RunId FeedSyncRun) : Prop :=
  ∀ runId, (runs'.lookup runId).map
      (fun run => (run.feedSourceId, run.trigger, run.dryRun, run.status)) =
    (runs.lookup runId).map fun run => (run.feedSourceId, run.trigger, run.dryRun, run.status)

theorem StatsOnly.keeps {runs runs' : Table RunId FeedSyncRun} (only : StatsOnly runs runs') :
    KeepsRuns runs runs' := by
  intro runId run' found
  have same := only runId
  rw [found] at same
  obtain ⟨run, found, columns⟩ := Option.map_eq_some_iff.mp same.symm
  simp only [Prod.mk.injEq] at columns
  exact ⟨run, found, columns.1, columns.2.1, columns.2.2.1⟩

omit [DecidableEq Digest] in
theorem storeRunStats_only (db : FeedDb Digest) (runId : RunId) (identity object : FeedSyncRun) :
    StatsOnly db.runs (db.storeRunStats runId identity object).runs := by
  unfold storeRunStats
  split
  · exact fun _ => rfl
  next row found =>
    intro other
    rw [Table.lookup_insert_ite]
    split
    next same =>
      rw [same, found]
      rfl
    · rfl

/-- The three ways a reconcile ends: it is refused, it is a dry run, or it replaces the assertions
of its source and materializes the union. -/
theorem reconcile_ok {runId : RunId} {identity run : FeedSyncRun} {parsed : ParseResult}
    {result : ReconcileResult}
    (done : db.reconcile sha256 runId identity run parsed entryId = .ok (after, result)) :
    (after = db ∧ result.noop = true ∧ ∀ source,
      db.sources.lookup run.feedSourceId = some source →
        source.deleted = true ∧ run.trigger ≠ .feedDelete) ∨
    ∃ source, db.sources.lookup run.feedSourceId = some source ∧
      (source.deleted = true → run.trigger = .feedDelete) ∧
      ((run.dryRun = true ∧ ∃ runs, after = { db with runs := runs } ∧ StatsOnly db.runs runs) ∨
        (run.dryRun = false ∧ ∃ replaced runs,
          db.replaceSource run.feedSourceId parsed.cidrs entryId = .ok replaced ∧
          after = { replaced with
            denyState := some
              (materializeLocked sha256 replaced.lockedGlobalState replaced.globalCidrs).1
            runs := runs } ∧ StatsOnly replaced.runs runs)) := by
  unfold reconcile at done
  split at done
  next missing =>
    cases done
    refine Or.inl ⟨rfl, rfl, fun source found => ?_⟩
    rw [missing] at found
    cases found
  next source found =>
    split at done
    next refused =>
      cases done
      refine Or.inl ⟨rfl, rfl, fun source' found' => ?_⟩
      rw [found] at found'
      cases found'
      exact refused
    next guard =>
      refine Or.inr ⟨source, found, fun deleted => ?_, ?_⟩
      · by_contra other
        exact guard ⟨deleted, other⟩
      · split at done
        next dry =>
          obtain ⟨_, _, done⟩ := bind_eq_ok.mp done
          cases done
          exact Or.inl ⟨dry, _, storeRunStats_eq _ _ _ _, storeRunStats_only _ _ _ _⟩
        next wet =>
          obtain ⟨replaced, first, done⟩ := bind_eq_ok.mp done
          obtain ⟨⟨materialized, stateChanged⟩, second, done⟩ := bind_eq_ok.mp done
          cases done
          obtain rfl := materialize_ok second
          exact Or.inr ⟨by simpa using wet, replaced, _, first, storeRunStats_eq _ _ _ _,
            storeRunStats_only _ _ _ _⟩

theorem addBlacklist_ok {admin : Bool} {source : Cidr} {newId : EntryId}
    (done : db.addBlacklist sha256 admin source newId jobId createdAt = .ok after) :
    ∃ entryId,
      (UniqueCidrs db.entries →
        ∀ i a, db.entries.lookup i = some a → a.sourceCidr = source → i = entryId) ∧
      (∀ entry, db.entries.lookup entryId = some entry → entry = ⟨source, .feed⟩) ∧
      Materialized sha256 (db.setEntry entryId ⟨source, .manual⟩) after := by
  obtain ⟨_, _, done⟩ := bind_eq_ok.mp done
  split at done
  next absent =>
    obtain ⟨fresh, done⟩ := Raise.ite_error_eq_ok.mp done
    refine ⟨newId, ?_, ?_, materializeAndEnqueue_ok done⟩
    · exact fun _ i a found same => absurd same (entryOf_none.mp absent i a found)
    · intro entry found
      rw [AList.lookup_eq_none.mpr fresh] at found
      cases found
  next existing hit =>
    obtain ⟨row, found, same⟩ := entryOf_some hit
    split at done
    next network feed =>
      rw [found] at feed
      cases feed
      obtain rfl : network = source := same
      refine ⟨existing, ?_, ?_, materializeAndEnqueue_ok done⟩
      · exact fun unique i a other eq => unique i existing a _ other found eq
      · intro entry there
        rw [found] at there
        exact (Option.some.inj there).symm
    · cases done

omit [DecidableEq Digest] in
theorem readRemoval_ok {admin : Bool} {source : Cidr} {hasAssertions : Bool}
    (done : db.readRemoval admin source = .ok (entryId, hasAssertions)) :
    db.entries.lookup entryId = some ⟨source, .manual⟩ ∧
      hasAssertions = db.asserted entryId := by
  obtain ⟨_, _, read⟩ := bind_eq_ok.mp done
  clear done
  split at read
  · cases read
  next id hit =>
    obtain ⟨⟨network, owner⟩, found, same⟩ := entryOf_some hit
    obtain rfl : network = source := same
    split at read
    · cases read
    next notFeed =>
      cases read
      cases owner with
      | manual => exact ⟨found, rfl⟩
      | feed => exact absurd found (notFeed network)

theorem writeRemoval_ok {hasAssertions : Bool}
    (done : db.writeRemoval sha256 entryId hasAssertions jobId createdAt = .ok after) :
    (hasAssertions = true ∧ ∃ entry, db.entries.lookup entryId = some entry ∧
      Materialized sha256 (db.setEntry entryId { entry with source := .feed }) after) ∨
    (hasAssertions = false ∧ Materialized sha256 (db.deleteEntry entryId) after) := by
  unfold writeRemoval at done
  split at done
  next yes =>
    split at done
    · cases done
    next entry found => exact Or.inl ⟨yes, entry, found, materializeAndEnqueue_ok done⟩
  next no => exact Or.inr ⟨by simpa using no, materializeAndEnqueue_ok done⟩

end ScrubbingGateway.Control.FeedDb
