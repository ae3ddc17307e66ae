import Mathlib.Data.Set.Lattice
import ScrubbingGateway.Control.FeedSources
import ScrubbingGateway.Lib.Transition

/-!
# The deny set is a union

What the deny tables are for, said without rows: the networks that are listed by hand, and those
that each source asserts. Every transaction on the tables acts on this listing, and the denied
networks are always its union.
-/

namespace ScrubbingGateway.Control

open Raise

/-! ## Listings -/

/-- Networks listed by hand, and the networks of each source. -/
@[ext] structure Listing (Source Network : Type) where
  manual : Set Network
  claims : Source → Set Network

namespace Listing

variable {Source Network : Type}

def denied (l : Listing Source Network) : Set Network := l.manual ∪ ⋃ s, l.claims s

def empty : Listing Source Network := ⟨∅, fun _ => ∅⟩

def add (l : Listing Source Network) (n : Network) : Listing Source Network :=
  { l with manual := insert n l.manual }

def remove (l : Listing Source Network) (n : Network) : Listing Source Network :=
  { l with manual := l.manual \ {n} }

def replace [DecidableEq Source] (l : Listing Source Network) (s : Source) (ns : Set Network) :
    Listing Source Network :=
  { l with claims := Function.update l.claims s ns }

end Listing

variable {sourceId : SourceId} {cidrs : List Cidr}

namespace FeedDb

variable {Digest : Type}

/-! ## The listing of the tables -/

/-- What the rows say. -/
def listing (db : FeedDb Digest) : Listing SourceId Cidr where
  manual := { c | ∃ e, db.entries.lookup e = some ⟨c, .manual⟩ }
  claims := fun s => { c | ∃ e entry, db.entries.lookup e = some entry ∧ entry.sourceCidr = c ∧
    (s, e) ∈ db.assertions }

variable {db : FeedDb Digest}

/-- The rows are the union, because a feed-owned row has an assertion. -/
theorem RowsOk.denied_listing (ok : RowsOk db) :
    db.listing.denied = { c | c ∈ db.globalCidrs } := by
  ext c
  simp only [Listing.denied, listing, Set.mem_union, Set.mem_ofPred_eq, Set.mem_iUnion,
    mem_globalCidrs]
  constructor
  · rintro (⟨e, found⟩ | ⟨s, e, entry, found, same, _⟩)
    · exact ⟨e, _, found, rfl⟩
    · exact ⟨e, entry, found, same⟩
  · rintro ⟨e, ⟨network, owner⟩, found, rfl⟩
    cases owner with
    | manual => exact Or.inl ⟨e, found⟩
    | feed =>
      obtain ⟨s, member⟩ := ok.owned e _ found rfl
      exact Or.inr ⟨s, e, _, found, rfl, member⟩

variable {db' : FeedDb Digest} {source : Cidr}

theorem listing_congr (entries : db'.entries = db.entries)
    (assertions : db'.assertions = db.assertions) : db'.listing = db.listing := by
  simp only [listing, entries, assertions]

theorem claims_congr (assertions : db'.assertions = db.assertions)
    (networks : ∀ s e, (s, e) ∈ db.assertions →
      (db'.entries.lookup e).map BlacklistEntry.sourceCidr =
      (db.entries.lookup e).map BlacklistEntry.sourceCidr) :
    db'.listing.claims = db.listing.claims := by
  have claimed (d : FeedDb Digest) (s : SourceId) (c : Cidr) : c ∈ d.listing.claims s ↔
      ∃ e, (d.entries.lookup e).map BlacklistEntry.sourceCidr = some c ∧ (s, e) ∈ d.assertions := by
    simp only [listing, Set.mem_ofPred_eq, Option.map_eq_some_iff]
    refine exists_congr fun e => ?_
    constructor
    · rintro ⟨entry, found, same, member⟩
      exact ⟨⟨entry, found, same⟩, member⟩
    · rintro ⟨⟨entry, found, same⟩, member⟩
      exact ⟨entry, found, same, member⟩
  funext s
  ext c
  rw [claimed, claimed, assertions]
  refine exists_congr fun e => and_congr_left fun member => ?_
  rw [networks s e member]

variable {entryId : EntryId}

theorem manual_remove (unique : UniqueCidrs db.entries)
    (manual : db.entries.lookup entryId = some ⟨source, .manual⟩)
    (gone : ∀ c, db'.entries.lookup entryId ≠ some ⟨c, .manual⟩)
    (others : ∀ e, e ≠ entryId → db'.entries.lookup e = db.entries.lookup e) :
    db'.listing.manual = db.listing.manual \ {source} := by
  ext c
  simp only [listing, Set.mem_ofPred_eq, Set.mem_sdiff, Set.mem_singleton_iff]
  constructor
  · rintro ⟨e, found⟩
    have other : e ≠ entryId := by
      rintro rfl
      exact gone c found
    rw [others e other] at found
    refine ⟨⟨e, found⟩, ?_⟩
    rintro rfl
    exact other (unique e entryId _ _ found manual rfl)
  · rintro ⟨⟨e, found⟩, different⟩
    refine ⟨e, ?_⟩
    rw [others e]
    · exact found
    · rintro rfl
      rw [manual] at found
      cases found
      exact different rfl

theorem RowsOk.listing_add (ok : RowsOk db)
    (feed : ∀ entry, db.entries.lookup entryId = some entry → entry = ⟨source, .feed⟩) :
    (db.setEntry entryId ⟨source, .manual⟩).listing = db.listing.add source := by
  rw [Listing.add, Listing.ext_iff]
  constructor
  · ext c
    simp only [listing, lookup_setEntry, Set.mem_ofPred_eq, Set.mem_insert_iff]
    constructor
    · rintro ⟨e, found⟩
      split at found
      · cases found
        exact Or.inl rfl
      · exact Or.inr ⟨e, found⟩
    · rintro (rfl | ⟨e, found⟩)
      · exact ⟨entryId, if_pos rfl⟩
      · refine ⟨e, ?_⟩
        rw [if_neg]
        · exact found
        · rintro rfl
          cases feed _ found
  · refine claims_congr rfl fun s e member => ?_
    rw [lookup_setEntry]
    split
    next same =>
      -- an asserted row is there, so it is the feed-owned row of the same network
      subst same
      obtain ⟨old, there⟩ := Option.isSome_iff_exists.mp
        (AList.lookup_isSome.mpr (ok.references s e member))
      rw [there, feed old there]
      rfl
    · rfl

theorem RowsOk.listing_release (ok : RowsOk db)
    (manual : db.entries.lookup entryId = some ⟨source, .manual⟩) :
    (db.setEntry entryId ⟨source, .feed⟩).listing = db.listing.remove source := by
  rw [Listing.remove, Listing.ext_iff]
  constructor
  · exact manual_remove ok.unique manual (by simp) fun e other => by simp [other]
  · refine claims_congr rfl fun s e member => ?_
    rw [lookup_setEntry]
    split
    next same =>
      subst same
      rw [manual]
      rfl
    · rfl

theorem RowsOk.listing_delete (ok : RowsOk db)
    (manual : db.entries.lookup entryId = some ⟨source, .manual⟩)
    (unasserted : ∀ s, (s, entryId) ∉ db.assertions) :
    (db.deleteEntry entryId).listing = db.listing.remove source := by
  have other (s : SourceId) (e : EntryId) (member : (s, e) ∈ db.assertions) : e ≠ entryId := by
    rintro rfl
    exact unasserted s member
  rw [Listing.remove, Listing.ext_iff]
  constructor
  · exact manual_remove ok.unique manual (by simp) fun e other => by simp [other]
  · refine claims_congr ?_ fun s e member => by simp [other s e member]
    exact Finset.filter_true_of_mem fun a member => other a.1 a.2 member

theorem Replaced.listing_replace {after : FeedDb Digest} (spec : Replaced db sourceId cidrs after) :
    after.listing = db.listing.replace sourceId { c | c ∈ cidrs } := by
  simp only [listing, Listing.replace, Listing.mk.injEq]
  constructor
  · ext c
    simp only [Set.mem_ofPred_eq]
    exact exists_congr fun e => spec.manual e ⟨c, .manual⟩ rfl
  · funext s
    by_cases own : s = sourceId
    · subst own
      rw [Function.update_self]
      ext c
      simp only [Set.mem_ofPred_eq]
      constructor
      · rintro ⟨e, entry, found, rfl, member⟩
        obtain ⟨entry', found', candidate⟩ := (spec.own e).mp member
        rw [found] at found'
        cases found'
        exact candidate
      · intro candidate
        obtain ⟨e, entry, found, rfl⟩ := spec.present c candidate
        exact ⟨e, entry, found, rfl, (spec.own e).mpr ⟨entry, found, candidate⟩⟩
    · rw [Function.update_of_ne own]
      ext c
      simp only [Set.mem_ofPred_eq]
      constructor
      · rintro ⟨e, entry, found, same, member⟩
        have before := (spec.others s e own).mp member
        exact ⟨e, entry, (spec.kept s e entry own before).mp found, same, before⟩
      · rintro ⟨e, entry, found, same, member⟩
        exact ⟨e, entry, (spec.kept s e entry own member).mpr found, same,
          (spec.others s e own).mpr member⟩

/-! ## The desired set -/

/-- `desired_revision`; a missing state row counts as the one that will be inserted. -/
def desiredRevision (db : FeedDb Digest) : Nat := db.lockedGlobalState.desiredRevision

theorem RowsOk.globalCidrs_nodup (ok : RowsOk db) : db.globalCidrs.Nodup := by
  rw [globalCidrs, (List.perm_insertionSort _ _).nodup_iff]
  refine List.Nodup.map_on ?_ (List.NodupKeys.nodup db.entries.nodupKeys)
  intro a memberA b memberB same
  have foundA := AList.mem_lookup_iff.mpr memberA
  have foundB := AList.mem_lookup_iff.mpr memberB
  have sameId := ok.unique a.1 b.1 a.2 b.2 foundA foundB same
  rw [sameId, foundB] at foundA
  exact Sigma.ext sameId (heq_of_eq (Option.some.inj foundA).symm)

/-- The order of the column makes one list of each set. -/
theorem RowsOk.globalCidrs_eq (ok : RowsOk db) (ok' : RowsOk db')
    (same : ∀ c, c ∈ db'.globalCidrs ↔ c ∈ db.globalCidrs) : db'.globalCidrs = db.globalCidrs := by
  have perm : db'.globalCidrs.Perm db.globalCidrs :=
    (List.perm_ext_iff_of_nodup ok'.globalCidrs_nodup ok.globalCidrs_nodup).mpr same
  exact perm.eq_of_pairwise (fun a b _ _ => le_antisymm) (List.pairwise_insertionSort _ _)
    (List.pairwise_insertionSort _ _)

variable [DecidableEq Digest] {sha256 : String → Digest}

/-- The digest is that of the set, the revision counts its changes, and what is active stays. -/
theorem materializeLocked_spec (sha256 : String → Digest) (state : GlobalDenyState Digest)
    (cidrs : List Cidr) :
    let next := (materializeLocked sha256 state cidrs).1
    next.desiredDigest = some (digest sha256 cidrs) ∧
      next.desiredRevision = (if state.desiredDigest = some (digest sha256 cidrs) then
        state.desiredRevision else state.desiredRevision + 1) ∧
      next.activeRevision = state.activeRevision ∧ next.activeDigest = state.activeDigest := by
  unfold materializeLocked
  by_cases same : state.desiredDigest = some (digest sha256 cidrs)
  · simp [same]
  · simp [same]

/-- The desired state follows the rows: neither changed, or the rows were materialized. -/
def Follows (sha256 : String → Digest) (db next : FeedDb Digest) : Prop :=
  (next.globalCidrs = db.globalCidrs ∧ next.denyState = db.denyState) ∨
    next.denyState = some (materializeLocked sha256 db.lockedGlobalState next.globalCidrs).1

/-- What the desired state says about the rows. -/
structure DesiredOk (sha256 : String → Digest) (db : FeedDb Digest) : Prop where
  current : ∀ state, db.denyState = some state →
    state.desiredDigest = some (digest sha256 db.globalCidrs)
  unset : db.denyState = none → db.globalCidrs = []

theorem DesiredOk.follows {next : FeedDb Digest} (ok : DesiredOk sha256 db)
    (follows : Follows sha256 db next) : DesiredOk sha256 next := by
  rcases follows with ⟨cidrs, state⟩ | state
  · constructor
    · rw [cidrs, state]
      exact ok.current
    · rw [cidrs, state]
      exact ok.unset
  · constructor
    · intro state' found
      rw [state] at found
      cases found
      exact (materializeLocked_spec ..).1
    · intro missing
      rw [state] at missing
      cases missing

/-- The rows are materialized for the first time. -/
def FirstMaterialized (db next : FeedDb Digest) : Prop :=
  db.denyState = none ∧ next.denyState ≠ none

/-- The revision counts the changes of the set, and the first materialization. -/
theorem DesiredOk.revision {next : FeedDb Digest} (ok : DesiredOk sha256 db)
    (follows : Follows sha256 db next) :
    (next.globalCidrs ≠ db.globalCidrs ∧ NoCollision sha256 db.globalCidrs next.globalCidrs ∨
      FirstMaterialized db next → next.desiredRevision = db.desiredRevision + 1) ∧
    (next.globalCidrs = db.globalCidrs → ¬ FirstMaterialized db next →
      next.desiredRevision = db.desiredRevision) := by
  rcases follows with ⟨cidrs, state⟩ | state
  · constructor
    · rintro (⟨different, _⟩ | ⟨missing, present⟩)
      · exact absurd cidrs different
      · exact absurd (state.trans missing) present
    · intro _ _
      rw [desiredRevision, desiredRevision, lockedGlobalState, lockedGlobalState, state]
  · have counted : next.desiredRevision =
        if db.lockedGlobalState.desiredDigest = some (digest sha256 next.globalCidrs) then
          db.desiredRevision else db.desiredRevision + 1 := by
      rw [desiredRevision, lockedGlobalState, state]
      exact (materializeLocked_spec ..).2.1
    rw [counted]
    cases old : db.denyState with
    | none =>
      -- the row has just been inserted, so it has no digest yet
      have fresh : db.lockedGlobalState.desiredDigest ≠ some (digest sha256 next.globalCidrs) := by
        rw [lockedGlobalState, old]
        exact fun absent => nomatch absent
      rw [if_neg fresh]
      refine ⟨fun _ => rfl, fun _ notFirst => ?_⟩
      refine absurd ⟨old, ?_⟩ notFirst
      rw [state]
      exact Option.some_ne_none _
    | some present =>
      have known : db.lockedGlobalState.desiredDigest = some (digest sha256 db.globalCidrs) := by
        rw [lockedGlobalState, old]
        exact ok.current present old
      rw [known]
      constructor
      · rintro (⟨different, apart⟩ | ⟨missing, _⟩)
        · rw [if_neg]
          intro same
          exact different (apart.digest_eq_iff.mp (Option.some.inj same)).symm
        · rw [old] at missing
          cases missing
      · intro same _
        rw [same, if_pos rfl]

end FeedDb

/-! ## Transactions one after another -/

/-- The transactions on the deny set. -/
inductive DenyChange where
  /-- `_reconcile` of the feed runner: it loads the run and reconciles its source. -/
  | reconcile (runId : RunId) (parsed : ParseResult) (entryId : EntryId)
  | addBlacklist (admin : Bool) (source : Cidr) (entryId : EntryId) (jobId : JobId)
      (createdAt : Nat)
  | removeBlacklist (admin : Bool) (source : Cidr) (jobId : JobId) (createdAt : Nat)
  /-- Only of a source with no run queued or under way. -/
  | deleteSource (sourceId : SourceId) (runId : RunId) (jobId : JobId) (createdAt : Nat)
      (entryId : EntryId)
  /-- Anything that happens to the other tables. -/
  | elsewhere (base : Db) (whitelist : Table WhitelistId Cidr)

namespace DenyChange

variable {Digest : Type}

/-- The source whose assertions the reconcile of this run replaces. -/
def reconciled (db : FeedDb Digest) (runId : RunId) : Option SourceId :=
  (db.runs.lookup runId).bind fun run => (db.sources.lookup run.feedSourceId).bind fun source =>
    if run.dryRun ∨ source.deleted ∧ run.trigger ≠ .feedDelete then none
    else some run.feedSourceId

/-- What the transaction is for. -/
def effect (db : FeedDb Digest) : DenyChange → Listing SourceId Cidr → Listing SourceId Cidr
  | .reconcile runId parsed _, l =>
    match reconciled db runId with
    | none => l
    | some sourceId => l.replace sourceId { c | c ∈ parsed.cidrs }
  | .addBlacklist _ source _ _ _, l => l.add source
  | .removeBlacklist _ source _ _, l => l.remove source
  | .deleteSource sourceId _ _ _ _, l => l.replace sourceId ∅
  | .elsewhere _ _, l => l

variable [DecidableEq Digest] (sha256 : String → Digest)

/-- The tables after the transaction; one that raises is rolled back. -/
def step (db : FeedDb Digest) : DenyChange → Option (FeedDb Digest)
  | .reconcile runId parsed entryId => (db.runs.lookup runId).bind fun run =>
    ((db.reconcile sha256 runId run { run with fetchedLines := parsed.physicalLineCount } parsed
      entryId).map Prod.fst).toOption
  | .addBlacklist admin source entryId jobId createdAt =>
    (db.addBlacklist sha256 admin source entryId jobId createdAt).toOption
  | .removeBlacklist admin source jobId createdAt =>
    (db.removeBlacklist sha256 admin source jobId createdAt).toOption
  | .deleteSource sourceId runId jobId createdAt entryId =>
    if (db.inflightRun sourceId).isSome then none
    else (db.sources.lookup sourceId).bind fun row =>
      (db.deleteSource sha256 sourceId row runId jobId createdAt entryId).toOption
  | .elsewhere base whitelist => some { db with toDb := base, whitelist := whitelist }

/-- The listing after a list of transactions. -/
def listed : FeedDb Digest → Listing SourceId Cidr → List DenyChange → Listing SourceId Cidr
  | _, l, [] => l
  | db, l, change :: rest =>
    match step sha256 db change with
    | none => l
    | some next => listed next (change.effect db l) rest

variable {sha256}

/-! ## What each transaction does -/

/-- A transaction acts on the listing, and the desired state follows. -/
structure Acts (sha256 : String → Digest) (db next : FeedDb Digest)
    (effect : Listing SourceId Cidr → Listing SourceId Cidr) : Prop where
  rows : FeedDb.RowsOk next
  listing : next.listing = effect db.listing
  follows : FeedDb.Follows sha256 db next

variable {db next : FeedDb Digest} {entryId : EntryId} {createdAt : Nat}

theorem acts_of_materialized {rows : FeedDb Digest}
    {effect : Listing SourceId Cidr → Listing SourceId Cidr} (ok : FeedDb.RowsOk rows)
    (listing : rows.listing = effect db.listing) (state : rows.denyState = db.denyState)
    (done : FeedDb.Materialized sha256 rows next) : Acts sha256 db next effect := by
  obtain ⟨ledger, rfl⟩ := done
  refine ⟨ok.congr rfl rfl, listing, Or.inr ?_⟩
  simp only [FeedDb.lockedGlobalState, state]
  rfl

theorem acts_of_replaced {replaced : FeedDb Digest} (sha256 : String → Digest)
    (runs : Table RunId FeedSyncRun) (spec : FeedDb.Replaced db sourceId cidrs replaced) :
    Acts sha256 db
      { replaced with
        denyState := some (FeedDb.materializeLocked sha256 replaced.lockedGlobalState
          replaced.globalCidrs).1
        runs := runs }
      fun l => l.replace sourceId { c | c ∈ cidrs } := by
  have state : replaced.denyState = db.denyState := by rw [spec.frame]
  refine ⟨spec.ok.congr rfl rfl, ?_, Or.inr ?_⟩
  · rw [← spec.listing_replace]
    exact FeedDb.listing_congr rfl rfl
  · simp only [FeedDb.lockedGlobalState, state]
    rfl

variable {jobId : JobId} {source : Cidr} {admin : Bool}

theorem addBlacklist_acts (ok : FeedDb.RowsOk db)
    (done : db.addBlacklist sha256 admin source entryId jobId createdAt = .ok next) :
    Acts sha256 db next fun l => l.add source := by
  obtain ⟨row, only, feed, materialized⟩ := FeedDb.addBlacklist_ok done
  refine acts_of_materialized ?_ (ok.listing_add feed) rfl materialized
  exact ok.setEntry (only ok.unique) nofun

theorem removeBlacklist_acts (ok : FeedDb.RowsOk db)
    (done : db.removeBlacklist sha256 admin source jobId createdAt = .ok next) :
    Acts sha256 db next fun l => l.remove source := by
  obtain ⟨⟨entryId, hasAssertions⟩, read, written⟩ := bind_eq_ok.mp done
  obtain ⟨manual, asserted⟩ := FeedDb.readRemoval_ok read
  rcases FeedDb.writeRemoval_ok written with ⟨yes, entry, found, materialized⟩ | ⟨no, materialized⟩
  · rw [manual] at found
    cases found
    refine acts_of_materialized ?_ (ok.listing_release manual) rfl materialized
    refine ok.setEntry (fun i a other same => ok.unique i entryId a _ other manual same) ?_
    exact fun _ => FeedDb.asserted_iff.mp (asserted.symm.trans yes)
  · refine acts_of_materialized (ok.deleteEntry entryId) (ok.listing_delete manual ?_) rfl
      materialized
    intro s member
    have yes := FeedDb.asserted_iff.mpr ⟨s, member⟩
    rw [← asserted, no] at yes
    cases yes

/-- Neither another source's assertion nor a manual row changed. -/
structure Untouched (sourceId : SourceId) (db next : FeedDb Digest) : Prop where
  assertions : ∀ s e, s ≠ sourceId → ((s, e) ∈ next.assertions ↔ (s, e) ∈ db.assertions)
  manual : ∀ e entry, entry.source = .manual →
    (next.entries.lookup e = some entry ↔ db.entries.lookup e = some entry)

theorem reconcile_acts {runId : RunId} {parsed : ParseResult} (ok : FeedDb.RowsOk db)
    (stepped : step sha256 db (.reconcile runId parsed entryId) = some next) :
    Acts sha256 db next (effect db (.reconcile runId parsed entryId)) ∧
      ∃ run, db.runs.lookup runId = some run ∧ Untouched run.feedSourceId db next := by
  obtain ⟨run, found, done⟩ := Option.bind_eq_some_iff.mp stepped
  obtain ⟨⟨after, result⟩, reconciles, rfl⟩ := map_eq_ok.mp (toOption_eq_some.mp done)
  -- a reconcile that is refused or dry leaves the rows and the state alone
  have quiet (same : FeedDb Digest) (entries : same.entries = db.entries)
      (assertions : same.assertions = db.assertions) (state : same.denyState = db.denyState)
      (idle : reconciled db runId = none) :
      Acts sha256 db same (effect db (.reconcile runId parsed entryId)) ∧
        Untouched run.feedSourceId db same := by
    refine ⟨⟨ok.congr entries assertions, ?_, Or.inl ⟨?_, state⟩⟩, ?_, ?_⟩
    · rw [FeedDb.listing_congr entries assertions]
      simp only [effect, idle]
    · rw [FeedDb.globalCidrs, FeedDb.globalCidrs, entries]
    · intro s e _
      rw [assertions]
    · intro e entry _
      rw [entries]
  rcases FeedDb.reconcile_ok reconciles with ⟨rfl, _, refused⟩ |
    ⟨source, there, allowed, ⟨dry, runs, rfl, _⟩ | ⟨wet, replaced, runs, rows, rfl, _⟩⟩
  · have idle : reconciled after runId = none := by
      cases there : after.sources.lookup run.feedSourceId with
      | none => simp [reconciled, found, there]
      | some source => simp [reconciled, found, there, refused source there]
    obtain ⟨acts, untouched⟩ := quiet after rfl rfl rfl idle
    exact ⟨acts, run, found, untouched⟩
  · have idle : reconciled db runId = none := by
      simp [reconciled, found, there, show run.dryRun = true from dry]
    obtain ⟨acts, untouched⟩ := quiet { db with runs := runs } rfl rfl rfl idle
    exact ⟨acts, run, found, untouched⟩
  · have spec := FeedDb.replaceSource_ok ok rows
    have active : reconciled db runId = some run.feedSourceId := by
      simp only [reconciled, found, there, Option.bind_some]
      rw [if_neg]
      rintro (dry | ⟨deleted, other⟩)
      · rw [show run.dryRun = false from wet] at dry
        cases dry
      · exact other (allowed deleted)
    have acts := acts_of_replaced sha256 runs spec
    refine ⟨⟨acts.rows, ?_, acts.follows⟩, run, found, spec.others, spec.manual⟩
    rw [acts.listing]
    simp only [effect, active]

theorem deleteSource_acts {identity : ThreatFeedSource} {runId : RunId} (ok : FeedDb.RowsOk db)
    (idle : db.inflightRun sourceId = none)
    (done : db.deleteSource sha256 sourceId identity runId jobId createdAt entryId = .ok next) :
    Acts sha256 db next fun l => l.replace sourceId ∅ := by
  obtain ⟨base, existing, run, result, deleting, reconciles⟩ := FeedDb.deleteSource_ok done
  have wet : run.dryRun = false := by
    by_contra dry
    obtain ⟨r, inflight⟩ := deleting.dry (by simpa using dry)
    rw [idle] at inflight
    cases inflight
  obtain ⟨replaced, runs, rows, rfl, _⟩ := deleting.reconcile_ok wet reconciles
  have moved : FeedDb.RowsOk { db with toDb := base } := ok.congr rfl rfl
  have acts := acts_of_replaced sha256 runs (FeedDb.replaceSource_ok moved rows)
  refine ⟨acts.rows, ?_, acts.follows⟩
  rw [acts.listing, show { c | c ∈ ([] : List Cidr) } = (∅ : Set Cidr) by simp]
  rfl

theorem step_acts {change : DenyChange} (ok : FeedDb.RowsOk db)
    (stepped : step sha256 db change = some next) : Acts sha256 db next (change.effect db) := by
  cases change with
  | reconcile runId parsed entryId => exact (reconcile_acts ok stepped).1
  | addBlacklist admin source entryId jobId createdAt =>
    exact addBlacklist_acts ok (toOption_eq_some.mp stepped)
  | removeBlacklist admin source jobId createdAt =>
    exact removeBlacklist_acts ok (toOption_eq_some.mp stepped)
  | deleteSource sourceId runId jobId createdAt entryId =>
    obtain ⟨idle, stepped⟩ := Option.ite_none_left_eq_some.mp stepped
    obtain ⟨row, _, done⟩ := Option.bind_eq_some_iff.mp stepped
    exact deleteSource_acts ok (by simpa using idle) (toOption_eq_some.mp done)
  | elsewhere base whitelist =>
    cases stepped
    exact ⟨ok.congr rfl rfl, rfl, Or.inl ⟨rfl, rfl⟩⟩

/-! ## Runs -/

/-- The tables are a picture of the listing. -/
structure Pictures (sha256 : String → Digest) (l : Listing SourceId Cidr) (db : FeedDb Digest) :
    Prop where
  rows : FeedDb.RowsOk db
  listing : db.listing = l
  desired : FeedDb.DesiredOk sha256 db

theorem Pictures.step {change : DenyChange} {l : Listing SourceId Cidr}
    (pictures : Pictures sha256 l db) (stepped : step sha256 db change = some next) :
    Pictures sha256 (change.effect db l) next := by
  have acts := step_acts pictures.rows stepped
  refine ⟨acts.rows, ?_, pictures.desired.follows acts.follows⟩
  rw [acts.listing, pictures.listing]

theorem Pictures.run {changes : List DenyChange} {final : FeedDb Digest}
    {l : Listing SourceId Cidr} (pictures : Pictures sha256 l db)
    (ran : Transition.run (DenyChange.step sha256) db changes = some final) :
    Pictures sha256 (listed sha256 db l changes) final := by
  induction changes generalizing db l with
  | nil =>
    cases ran
    exact pictures
  | cons change rest ih =>
    obtain ⟨next, stepped, later⟩ := Transition.run_cons_some ran
    rw [listed, stepped]
    exact ih (pictures.step stepped) later

/-- Nothing is denied and nothing has been materialized; the other tables are arbitrary. -/
structure NothingDenied (db : FeedDb Digest) : Prop where
  entries : db.entries = ∅
  assertions : db.assertions = ∅
  state : db.denyState = none

omit [DecidableEq Digest] in
theorem NothingDenied.pictures (nothing : NothingDenied db) :
    Pictures sha256 .empty db where
  rows := FeedDb.rowsOk_empty nothing.entries nothing.assertions
  listing := by
    simp [FeedDb.listing, Listing.empty, nothing.entries]
  desired :=
    { current := by
        intro state found
        rw [nothing.state] at found
        cases found
      unset := by
        intro _
        rw [FeedDb.globalCidrs, nothing.entries]
        rfl }

/-- The set of denied networks changes in this step. -/
def SetChanged (db next : FeedDb Digest) : Prop :=
  ∃ c, ¬ (c ∈ next.globalCidrs ↔ c ∈ db.globalCidrs)

/-- After any transactions the denied networks are those listed by hand together with those that
some source asserts. Every feed-owned entry has an assertion, the desired digest is that of the set,
a reconcile leaves the other sources and the manual entries alone, and the desired revision grows by
one when the set changes, unless its digest collides with the old one, or is materialized for the
first time, and stays otherwise. -/
theorem denied_networks_are_the_union {start db : FeedDb Digest} (nothing : NothingDenied start)
    {changes : List DenyChange}
    (ran : Transition.run (step sha256) start changes = some db) :
    (∀ c, c ∈ db.globalCidrs ↔
      c ∈ (listed sha256 start .empty changes).manual ∨
        ∃ s, c ∈ (listed sha256 start .empty changes).claims s) ∧
    db.listing = listed sha256 start .empty changes ∧
    (∀ e entry, db.entries.lookup e = some entry → entry.source = .feed →
      ∃ s, (s, e) ∈ db.assertions) ∧
    (∀ state, db.denyState = some state →
      state.desiredDigest = some (digest sha256 db.globalCidrs)) ∧
    (db.denyState = none → db.globalCidrs = []) ∧
    ∀ change next, step sha256 db change = some next →
      (∀ runId parsed entryId, change = .reconcile runId parsed entryId →
        ∃ run, db.runs.lookup runId = some run ∧ Untouched run.feedSourceId db next) ∧
      (SetChanged db next ∧ NoCollision sha256 db.globalCidrs next.globalCidrs ∨
        FeedDb.FirstMaterialized db next → next.desiredRevision = db.desiredRevision + 1) ∧
      (¬ SetChanged db next → ¬ FeedDb.FirstMaterialized db next →
        next.desiredRevision = db.desiredRevision) := by
  have pictures := nothing.pictures.run ran
  refine ⟨fun c => ?_, pictures.listing, pictures.rows.owned, pictures.desired.current,
    pictures.desired.unset, fun change next stepped => ⟨?_, ?_⟩⟩
  · have union := Set.ext_iff.mp pictures.rows.denied_listing c
    rw [pictures.listing] at union
    simpa only [Listing.denied, Set.mem_union, Set.mem_iUnion, Set.mem_ofPred_eq] using union.symm
  · rintro runId parsed entryId rfl
    exact (reconcile_acts pictures.rows stepped).2
  · have acts := step_acts pictures.rows stepped
    have counted := pictures.desired.revision acts.follows
    -- the list of the rows is determined by the set
    have unchanged : ¬ SetChanged db next ↔ next.globalCidrs = db.globalCidrs := by
      constructor
      · intro same
        refine pictures.rows.globalCidrs_eq acts.rows fun c => ?_
        by_contra different
        exact same ⟨c, different⟩
      · rintro same ⟨c, different⟩
        rw [same] at different
        exact different Iff.rfl
    rw [← not_iff_not, not_not] at unchanged
    rw [unchanged, not_not]
    exact counted

/-- The network 203.0.114.0/24. -/
def oneNetwork : Cidr := ⟨0xCB007200, 24, by decide⟩

/-- A system with one source that has never been synced. -/
def unsyncedSource : FeedDb String where
  lower := asciiLower
  ledger := ⟨∅, ∅⟩
  runs := ∅
  sources := AList.singleton 1 ⟨"feed", true, false, 0, none, none⟩
  maintenanceEnabled := false
  entries := ∅
  assertions := ∅
  whitelist := ∅
  denyState := none

/-- Two networks are listed by hand. A run of the source asserts one of them and a third, the one is
then removed from the list, which leaves it to the source, and the source is deleted. -/
def handedOver : List DenyChange :=
  let run := FeedDb.newRun 1 ⟨"feed", true, false, 0, none, none⟩ .feedManual false
  [.addBlacklist true oneNetwork 1 1 0, .addBlacklist true (.host 0x01010101) 2 2 0,
    .elsewhere { unsyncedSource.toDb with runs := AList.singleton 1 run } ∅,
    .reconcile 1 ⟨2, [oneNetwork, .host 0x01010102], 0, 0⟩ 3, .removeBlacklist true oneNetwork 3 0,
    .deleteSource 1 2 4 0 5]

theorem handedOver_is_the_union :
    ∃ db, Transition.run (step id) unsyncedSource handedOver = some db ∧
      db.globalCidrs = [.host 0x01010101] ∧
      ∀ c, c ∈ db.globalCidrs ↔
        c ∈ (listed id unsyncedSource .empty handedOver).manual ∨
          ∃ s, c ∈ (listed id unsyncedSource .empty handedOver).claims s := by
  have evaluated : (Transition.run (step id) unsyncedSource handedOver).map
      (fun db => decide (db.globalCidrs = [.host 0x01010101])) = some true := by
    decide +kernel
  obtain ⟨db, ran, left⟩ := Option.map_eq_some_iff.mp evaluated
  exact ⟨db, ran, of_decide_eq_true left,
    (denied_networks_are_the_union ⟨rfl, rfl, rfl⟩ ran).1⟩

/-- The deletion of the source materializes the empty set for the first time: the set stays empty,
and the revision goes from 0 to 1. -/
theorem deletion_of_unsynced_source_counts :
    ∃ db, Transition.run (step id) unsyncedSource [.deleteSource 1 1 1 0 1] = some db ∧
      unsyncedSource.globalCidrs = [] ∧ db.globalCidrs = [] ∧
      unsyncedSource.desiredRevision = 0 ∧ db.desiredRevision = 1 := by
  have evaluated : (Transition.run (step id) unsyncedSource [.deleteSource 1 1 1 0 1]).map
      (fun db => decide (unsyncedSource.globalCidrs = [] ∧ db.globalCidrs = [] ∧
        unsyncedSource.desiredRevision = 0 ∧ db.desiredRevision = 1)) = some true := by
    decide +kernel
  obtain ⟨db, ran, holds⟩ := Option.map_eq_some_iff.mp evaluated
  exact ⟨db, ran, of_decide_eq_true holds⟩

end DenyChange

end ScrubbingGateway.Control
