import ScrubbingGateway.Control.DenyUnion

/-!
# Dry runs

A dry run computes the deny set that a reconcile would leave with one query, in the order of the
texts; a real run changes the rows and reads the set back in the order of the networks. The sets
are the same, so everything agrees that does not depend on the order.
-/

namespace ScrubbingGateway.Control.FeedDb

open Raise

variable {Digest : Type} {db after : FeedDb Digest} {sourceId : SourceId} {cidrs : List Cidr}
  {entryId : EntryId} {cidr : Cidr}

/-! ## The overlap records -/

/-- A row of `feed_sync_overlap`, by the columns of its unique constraint. -/
abbrev Overlap := RunId × Cidr × WhitelistId

def persistOverlaps (db : FeedDb Digest) (runId : RunId) (cidrs : List Cidr) (overlapCount : Nat)
    (overlaps : Finset Overlap) : Finset Overlap :=
  if overlapCount = 0 then overlaps
  else overlaps ∪ (cidrs.flatMap fun cidr =>
    (db.whitelist.entries.filter fun e => cidr.overlaps e.2).map fun e =>
      (runId, cidr, e.1)).toFinset

/-- `reconcile` with the overlap records. -/
def reconcileRecording [DecidableEq Digest] (sha256 : String → Digest) (db : FeedDb Digest)
    (overlaps : Finset Overlap) (runId : RunId) (identity run : FeedSyncRun) (parsed : ParseResult)
    (entryId : EntryId) : Except Raised (FeedDb Digest × Finset Overlap × ReconcileResult) := do
  let (after, result) ← db.reconcile sha256 runId identity run parsed entryId
  let recorded :=
    if result.noop || run.dryRun then overlaps
    else after.persistOverlaps runId parsed.cidrs result.overlapCount overlaps
  return (after, recorded, result)

/-! ## The two ways to the new set -/

/-- New identifiers do not run into old ones. -/
theorem upsertFeedEntries_total (fresh : ∀ i, entryId ≤ i → i ∉ db.entries) :
    ∃ after, db.upsertFeedEntries entryId cidrs = .ok after := by
  induction cidrs generalizing db entryId with
  | nil => exact ⟨db, rfl⟩
  | cons cidr rest ih =>
    unfold upsertFeedEntries
    split
    · exact ih fresh
    · rw [if_neg (fresh entryId le_rfl)]
      refine ih fun i later taken => ?_
      rcases (AList.mem_insert _).mp taken with rfl | old
      · exact absurd later (Nat.not_succ_le_self _)
      · exact fresh i (Nat.le_of_succ_le later) old

theorem mem_prospective : cidr ∈ db.prospectiveGlobalCidrs sourceId cidrs ↔
    (∃ e entry, db.entries.lookup e = some entry ∧ entry.sourceCidr = cidr ∧
      (entry.source = .feed → (sourceId, e) ∈ db.assertions → entry.sourceCidr ∉ cidrs →
        ∃ s, s ≠ sourceId ∧ (s, e) ∈ db.assertions)) ∨ cidr ∈ cidrs := by
  have others (e : EntryId) : (∃ a ∈ db.assertions, a.2 = e ∧ a.1 ≠ sourceId) ↔
      ∃ s, s ≠ sourceId ∧ (s, e) ∈ db.assertions := by
    constructor
    · rintro ⟨a, member, rfl, other⟩
      exact ⟨a.1, other, member⟩
    · rintro ⟨s, other, member⟩
      exact ⟨(s, e), member, rfl, other⟩
  simp only [prospectiveGlobalCidrs, List.mem_insertionSort, List.mem_dedup, List.mem_append,
    List.mem_map, List.mem_filter, others, Bool.not_eq_true', Bool.and_eq_false_iff,
    Bool.not_eq_false', decide_eq_true_eq, decide_eq_false_iff_not]
  refine or_congr_left ⟨?_, ?_⟩
  · rintro ⟨e, ⟨member, kept⟩, same⟩
    refine ⟨e.1, e.2, AList.mem_lookup_iff.mpr member, same, fun feed own outside => ?_⟩
    rcases kept with (manual | stays) | other
    · exact absurd feed manual
    · exact absurd ⟨own, outside⟩ stays
    · exact other
  · rintro ⟨e, entry, found, same, kept⟩
    refine ⟨⟨e, entry⟩, ⟨AList.mem_lookup_iff.mp found, ?_⟩, same⟩
    by_cases gone : entry.source = .feed ∧ (sourceId, e) ∈ db.assertions ∧ entry.sourceCidr ∉ cidrs
    · exact Or.inr (kept gone.1 gone.2.1 gone.2.2)
    · exact Or.inl (not_and_or.mp gone)

/-- The query and the chain of statements arrive at the same networks. -/
theorem Replaced.mem_globalCidrs_iff (ok : RowsOk db) (spec : Replaced db sourceId cidrs after) :
    cidr ∈ after.globalCidrs ↔ cidr ∈ db.prospectiveGlobalCidrs sourceId cidrs := by
  rw [mem_globalCidrs, mem_prospective]
  constructor
  · rintro ⟨e, entry, found, rfl⟩
    cases owner : entry.source with
    | manual =>
      refine Or.inl ⟨e, entry, (spec.manual e entry owner).mp found, rfl, fun feed => ?_⟩
      rw [owner] at feed
      cases feed
    | feed =>
      obtain ⟨s, member⟩ := spec.ok.owned e entry found owner
      by_cases own : s = sourceId
      · subst own
        obtain ⟨entry', found', candidate⟩ := (spec.own e).mp member
        cases found.symm.trans found'
        exact Or.inr candidate
      · have before := (spec.others s e own).mp member
        exact Or.inl ⟨e, entry, (spec.kept s e entry own before).mp found, rfl,
          fun _ _ _ => ⟨s, own, before⟩⟩
  · rintro (⟨e, entry, found, rfl, reason⟩ | candidate)
    · by_cases candidate : entry.sourceCidr ∈ cidrs
      · exact spec.present _ candidate
      cases owner : entry.source with
      | manual => exact ⟨e, entry, (spec.manual e entry owner).mpr found, rfl⟩
      | feed =>
        have other : ∃ s, s ≠ sourceId ∧ (s, e) ∈ db.assertions := by
          obtain ⟨s, member⟩ := ok.owned e entry found owner
          by_cases own : s = sourceId
          · exact reason owner (own ▸ member) candidate
          · exact ⟨s, own, member⟩
        obtain ⟨s, own, member⟩ := other
        exact ⟨e, entry, (spec.kept s e entry own member).mpr found, rfl⟩
    · exact spec.present cidr candidate

/-- The networks stand in the order of their texts, too. -/
def TextOrdered (cidrs : List Cidr) : Prop := cidrs.Pairwise fun a b => ¬ b.text < a.text

instance : Decidable (TextOrdered cidrs) := inferInstanceAs (Decidable (List.Pairwise _ _))

theorem prospective_ordered (db : FeedDb Digest) (sourceId : SourceId) (cidrs : List Cidr) :
    TextOrdered (db.prospectiveGlobalCidrs sourceId cidrs) := by
  have : Std.Total fun a b : Cidr => ¬ b.text < a.text := ⟨fun a b => String.le_total _ _⟩
  have : IsTrans Cidr fun a b => ¬ b.text < a.text :=
    ⟨fun a b c first second => String.le_trans first second⟩
  exact List.pairwise_insertionSort _ _

theorem Replaced.perm (ok : RowsOk db) (spec : Replaced db sourceId cidrs after) :
    after.globalCidrs.Perm (db.prospectiveGlobalCidrs sourceId cidrs) := by
  refine (List.perm_ext_iff_of_nodup spec.ok.globalCidrs_nodup ?_).mpr fun c =>
    spec.mem_globalCidrs_iff ok
  exact (List.perm_insertionSort _ _).nodup_iff.mpr (List.nodup_dedup _)

/-- The query returns the old list exactly if the set stays and its order is that of the texts. -/
theorem Replaced.prospective_eq_iff (ok : RowsOk db) (spec : Replaced db sourceId cidrs after) :
    db.globalCidrs = db.prospectiveGlobalCidrs sourceId cidrs ↔
      db.globalCidrs = after.globalCidrs ∧ TextOrdered db.globalCidrs := by
  constructor
  · intro same
    refine ⟨?_, same ▸ prospective_ordered db sourceId cidrs⟩
    refine spec.ok.globalCidrs_eq ok fun c => ?_
    rw [spec.mem_globalCidrs_iff ok, same]
  · rintro ⟨same, ordered⟩
    have perm := same ▸ spec.perm ok
    refine perm.eq_of_pairwise (fun a b _ _ le ge => ?_) ordered (prospective_ordered _ _ _)
    exact Cidr.text_injective (String.le_antisymm le ge)

/-! ## What is reported -/

variable [DecidableEq Digest] {sha256 : String → Digest} {overlaps : Finset Overlap}
  {runId : RunId} {identity run : FeedSyncRun} {parsed : ParseResult} {source : ThreatFeedSource}

/-- The values of a reconcile that the run shows, or its error. -/
def reported (done : Except Raised (FeedDb Digest × Finset Overlap × ReconcileResult)) :
    Except Raised (Nat × Nat × Nat × Bool) :=
  done.map fun (_, _, result) =>
    (result.added, result.removed, result.overlapCount, result.globalChanged)

/-- What is reported when the new set is read as `effective`. -/
def reportOf (sha256 : String → Digest) (db : FeedDb Digest) (sourceId : SourceId)
    (cidrs effective : List Cidr) : Except Raised (Nat × Nat × Nat × Bool) :=
  (enforceCapacity effective).map fun _ =>
    ((db.sourceDeltaCounts sourceId cidrs).1, (db.sourceDeltaCounts sourceId cidrs).2,
      db.overlapCount cidrs, decide (digest sha256 db.globalCidrs ≠ digest sha256 effective))

section

variable (found : db.sources.lookup run.feedSourceId = some source)
include found

theorem reported_dry (live : source.deleted = false) :
    reported (db.reconcileRecording sha256 overlaps runId identity { run with dryRun := true }
      parsed entryId) = reportOf sha256 db run.feedSourceId parsed.cidrs
        (db.prospectiveGlobalCidrs run.feedSourceId parsed.cidrs) := by
  simp only [reconcileRecording, reconcile, found, live]
  unfold reportOf
  cases enforceCapacity (db.prospectiveGlobalCidrs run.feedSourceId parsed.cidrs) <;> rfl

theorem reported_wet (live : source.deleted = false)
    (replaced : db.replaceSource run.feedSourceId parsed.cidrs entryId = .ok after) :
    reported (db.reconcileRecording sha256 overlaps runId identity { run with dryRun := false }
      parsed entryId) =
        reportOf sha256 db run.feedSourceId parsed.cidrs after.globalCidrs := by
  simp only [reconcileRecording, reconcile, found, live, replaced, materialize, bind, Except.bind]
  unfold reportOf
  cases enforceCapacity after.globalCidrs <;> rfl

end

/-- A dry run on a live source reports what the real run reports of added and removed networks and
of overlaps, or the same error, and changes nothing but the columns of its run. Unless digests of
the lists that are compared collide, it reports whether the deny set changes as the real run does
exactly when that set would be too large, changes, or is in the order of its texts. -/
theorem dryRun_predicts_iff (ok : RowsOk db)
    (found : db.sources.lookup run.feedSourceId = some source) (live : source.deleted = false)
    (fresh : ∀ i, entryId ≤ i → i ∉ db.entries) :
    let sync dryRun := db.reconcileRecording sha256 overlaps runId identity
      { run with dryRun := dryRun } parsed entryId
    let effective := db.prospectiveGlobalCidrs run.feedSourceId parsed.cidrs
    ((reported (sync true)).map fun r => (r.1, r.2.1, r.2.2.1)) =
        ((reported (sync false)).map fun r => (r.1, r.2.1, r.2.2.1)) ∧
      (∀ after overlaps' result, sync true = .ok (after, overlaps', result) →
        after = { db with runs := after.runs } ∧ overlaps' = overlaps) ∧
      (NoCollision sha256 db.globalCidrs effective →
        NoCollision sha256 db.globalCidrs (effective.insertionSort fun a b => a ≤ b) →
        (reported (sync true) = reported (sync false) ↔
          maxGlobalDenyEntries < effective.length ∨
            (∃ c, ¬ (c ∈ effective ↔ c ∈ db.globalCidrs)) ∨ TextOrdered db.globalCidrs)) := by
  intro sync effective
  obtain ⟨upserted, done⟩ : ∃ upserted, db.upsertFeedEntries entryId parsed.cidrs = .ok upserted :=
    upsertFeedEntries_total fresh
  obtain ⟨replaced, wet⟩ : ∃ replaced,
      db.replaceSource run.feedSourceId parsed.cidrs entryId = .ok replaced :=
    ⟨_, bind_eq_ok.mpr ⟨upserted, done, rfl⟩⟩
  have spec := replaceSource_ok ok wet
  have capacity : enforceCapacity replaced.globalCidrs = enforceCapacity effective := by
    rw [enforceCapacity, enforceCapacity, (spec.perm ok).length_eq]
  have dryReport : reported (sync true) = _ := reported_dry found live
  have wetReport : reported (sync false) = _ := reported_wet found live wet
  rw [dryReport, wetReport]
  refine ⟨?_, fun after overlaps' result ran => ?_, ?_⟩
  · rw [reportOf, reportOf, capacity]
    cases enforceCapacity (db.prospectiveGlobalCidrs run.feedSourceId parsed.cidrs) <;> rfl
  · obtain ⟨⟨after', result'⟩, reconciled, ran⟩ := bind_eq_ok.mp ran
    cases ran
    refine ⟨?_, if_pos (Bool.or_true _)⟩
    rcases reconcile_ok reconciled with ⟨rfl, _⟩ | ⟨_, _, _, ⟨_, runs, rfl, _⟩ | ⟨dry, _⟩⟩
    · rfl
    · rfl
    · cases dry
  · intro apart apart'
    -- the rows are read in the order of the networks
    have sorted : replaced.globalCidrs = effective.insertionSort fun a b => a ≤ b :=
      ((spec.perm ok).trans (List.perm_insertionSort _ _).symm).eq_of_pairwise
        (fun _ _ _ _ => le_antisymm) (List.pairwise_insertionSort _ _)
        (List.pairwise_insertionSort _ _)
    rw [← sorted] at apart'
    by_cases large : maxGlobalDenyEntries < effective.length
    · have refused : enforceCapacity effective = .error _ := if_pos large
      refine iff_of_true ?_ (Or.inl large)
      rw [reportOf, reportOf, capacity, refused]
      rfl
    · have fits : enforceCapacity effective = .ok () := if_neg large
      have reports : reportOf sha256 db run.feedSourceId parsed.cidrs effective =
          reportOf sha256 db run.feedSourceId parsed.cidrs replaced.globalCidrs ↔
            (db.globalCidrs = effective ↔ db.globalCidrs = replaced.globalCidrs) := by
        simp [reportOf, fits, capacity.trans fits, Except.map, apart.digest_eq_iff,
          apart'.digest_eq_iff]
      rw [reports, spec.prospective_eq_iff ok, or_iff_right large]
      have changes : (∃ c, ¬ (c ∈ effective ↔ c ∈ db.globalCidrs)) ↔
          db.globalCidrs ≠ replaced.globalCidrs := by
        rw [← not_forall, not_iff_not]
        constructor
        · intro same
          exact spec.ok.globalCidrs_eq ok fun c => ((spec.mem_globalCidrs_iff ok).trans (same c)).symm
        · intro same c
          rw [same]
          exact (spec.mem_globalCidrs_iff ok).symm
      rw [changes]
      tauto

/-- 9.0.0.0/8 and 10.0.0.0/8. -/
def nine : Cidr := ⟨0x09000000, 8, Cidr.canonical_nine⟩

def ten : Cidr := ⟨0x0A000000, 8, Cidr.canonical_ten⟩

/-- Both networks are listed by hand, and there is a source. -/
def nineTen : FeedDb String :=
  (DenyChange.unsyncedSource.setEntry 1 ⟨nine, .manual⟩).setEntry 2 ⟨ten, .manual⟩

theorem nineTen_rowsOk : RowsOk nineTen := by
  have first : RowsOk (DenyChange.unsyncedSource.setEntry 1 ⟨nine, .manual⟩) :=
    (rowsOk_empty rfl rfl).setEntry (by simp [DenyChange.unsyncedSource]) nofun
  refine first.setEntry (fun i entry found same => ?_) nofun
  rw [lookup_setEntry] at found
  split at found
  · cases found
    exact absurd same (by decide)
  · cases found

theorem nineTen_fresh (i : EntryId) (large : 3 ≤ i) : i ∉ nineTen.entries := by
  intro taken
  simp only [nineTen, setEntry, AList.mem_insert, DenyChange.unsyncedSource, AList.notMem_empty,
    or_false] at taken
  rcases taken with rfl | rfl <;> exact absurd large (by decide)

/-- A run of the source for a feed with these networks. -/
def nineTenSync (cidrs : List Cidr) (dryRun : Bool) :=
  let run := newRun 1 ⟨"feed", true, false, 0, none, none⟩ .feedManual false
  nineTen.reconcileRecording id ∅ 1 run { run with dryRun := dryRun } ⟨1, cidrs, 0, 0⟩ 3

/-- A feed with a network of its own adds to the set, and the dry run says so. -/
theorem nineTenSync_predicted : reported (nineTenSync [.host 1] true) =
    reported (nineTenSync [.host 1] false) := by
  have apart (list : List Cidr) : NoCollision id nineTen.globalCidrs list := fun same => same
  exact ((dryRun_predicts_iff nineTen_rowsOk rfl rfl nineTen_fresh).2.2 (apart _) (apart _)).mpr
    (Or.inr (Or.inl ⟨.host 1, by decide +kernel⟩))

/-- A feed that asserts 9.0.0.0/8 leaves the set as it is, but 10.0.0.0/8 comes before 9.0.0.0/8 as a
text. -/
theorem nineTenSync_mispredicted :
    reported (nineTenSync [nine] false) = .ok (1, 0, 0, false) ∧
      reported (nineTenSync [nine] true) = .ok (1, 0, 0, true) := by
  decide +kernel

end ScrubbingGateway.Control.FeedDb
