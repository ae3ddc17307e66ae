import Mathlib.Data.Finset.Card
import Mathlib.Data.Finset.Image
import Mathlib.Data.Finset.SDiff
import ScrubbingGateway.Control.Cidr
import ScrubbingGateway.Control.JobLifecycle

/-!
# The global deny set

`app/services/feed_reconcile.py` and the blacklist half of `app/services/lists.py`: the rows of the
deny set, who asserts them, and the desired revision that the worker brings to the data plane. Each
function is one transaction; an exception rolls it back.
-/

namespace ScrubbingGateway.Control

open Raise

abbrev EntryId := Nat
abbrev WhitelistId := Nat

inductive BlacklistSource where
  | manual | feed
deriving DecidableEq, Repr

/-- A row with `scope = 'global'`, the only scope that is left. -/
structure BlacklistEntry where
  sourceCidr : Cidr
  source : BlacklistSource
deriving DecidableEq

structure GlobalDenyState (Digest : Type) where
  desiredRevision : Nat
  activeRevision : Nat
  desiredDigest : Option Digest
  activeDigest : Option Digest
  applyStatus : ApplyStatus
  lastError : Option String
  lastNodeMapVersion : Option Nat
deriving DecidableEq, Repr

/-- The tables of the feeds and of the deny set. -/
structure FeedDb (Digest : Type) extends Db where
  /-- How CITEXT names, and `casefold`, leave the case out. -/
  lower : String → String
  entries : Table EntryId BlacklistEntry
  /-- `feed_blacklist_assertion`, by its primary key. -/
  assertions : Finset (SourceId × EntryId)
  whitelist : Table WhitelistId Cidr
  denyState : Option (GlobalDenyState Digest)

/-- What `parse_line_list` returns, without the diagnostics of single lines. -/
structure ParseResult where
  physicalLineCount : Nat
  cidrs : List Cidr
  invalidCount : Nat
  duplicateCount : Nat

def ParseResult.validDistinctCount (parsed : ParseResult) : Nat := parsed.cidrs.length

/-- `parse_line_list(b"")`. -/
def ParseResult.empty : ParseResult := ⟨0, [], 0, 0⟩

structure ReconcileResult where
  valid : Nat
  added : Nat
  removed : Nat
  overlapCount : Nat
  globalChanged : Bool
  desiredRevision : Option Nat
  noop : Bool
deriving DecidableEq, Repr

def maxGlobalDenyEntries : Nat := 1048576

def enforceCapacity (cidrs : List Cidr) : Except Raised Unit :=
  if maxGlobalDenyEntries < cidrs.length then
    .error (.valueError ("Global deny entry limit of " ++ toString maxGlobalDenyEntries ++
      " would be exceeded"))
  else .ok ()

/-- The value a column has after an `UPDATE`, which writes the columns whose value differs from the
one the session loaded. -/
def changed {α : Type} [DecidableEq α] (row identity object : α) : α :=
  if object = identity then row else object

namespace FeedDb

variable {Digest : Type}

/-! ## Statements on the rows -/

variable (db : FeedDb Digest) (sourceId : SourceId) (cidrs : List Cidr) (entryId : EntryId)

/-- `_global_cidrs`: the deny set in the order of the column. -/
def globalCidrs : List Cidr :=
  (db.entries.entries.map fun e => e.2.sourceCidr).insertionSort fun a b => a ≤ b

/-- The row that the unique index on `source_cidr` finds. -/
def entryOf (cidr : Cidr) : Option EntryId :=
  (db.entries.entries.find? fun e => decide (e.2.sourceCidr = cidr)).map Sigma.fst

/-- Some source asserts the entry. -/
def asserted : Bool :=
  decide (∃ a ∈ db.assertions, a.2 = entryId)

/-- The source asserts an entry with this network. -/
def asserts (cidr : Cidr) : Bool :=
  db.entries.entries.any fun e =>
    decide (e.2.sourceCidr = cidr) && decide ((sourceId, e.1) ∈ db.assertions)

/-- The assertions of a source whose network is not a candidate any more. -/
def withdrawn : Finset (SourceId × EntryId) :=
  db.assertions.filter fun a =>
    a.1 = sourceId ∧ (db.entries.lookup a.2).any fun entry => decide (entry.sourceCidr ∉ cidrs)

/-- `_source_delta_counts`; the candidate table has a primary key. -/
def sourceDeltaCounts : Nat × Nat :=
  ((cidrs.dedup.filter fun cidr => !db.asserts sourceId cidr).length,
    (db.withdrawn sourceId cidrs).card)

def overlapCount : Nat :=
  (cidrs.dedup.map fun cidr =>
    (db.whitelist.entries.filter fun e => cidr.overlaps e.2).length).sum

/-- `_upsert_feed_entries`: a row for each network that has none, under a new identifier. -/
def upsertFeedEntries (db : FeedDb Digest) (entryId : EntryId) :
    List Cidr → Except Raised (FeedDb Digest)
  | [] => .ok db
  | cidr :: rest =>
    if (db.entryOf cidr).isSome then db.upsertFeedEntries entryId rest
    else if entryId ∈ db.entries then .error .sqlAlchemyError
    else
      { db with entries := db.entries.insert entryId ⟨cidr, .feed⟩ }.upsertFeedEntries
        (entryId + 1) rest

def replaceSourceAssertions : FeedDb Digest :=
  { db with
    assertions := (db.assertions \ db.withdrawn sourceId cidrs) ∪
      ((db.entries.entries.filter fun e => decide (e.2.sourceCidr ∈ cidrs)).map fun e =>
        (sourceId, e.1)).toFinset }

/-- A feed-owned row that no source asserts. -/
def orphaned (entry : BlacklistEntry) : Bool :=
  decide (entry.source = .feed) && !db.asserted entryId

def deleteOrphanedFeedEntries : FeedDb Digest :=
  { db with entries := Table.filterKeyed db.entries fun entryId entry => !db.orphaned entryId entry }

/-- The row goes with the assertions that reference it (`ON DELETE CASCADE`). -/
def deleteEntry : FeedDb Digest :=
  { db with
    entries := db.entries.erase entryId
    assertions := db.assertions.filter fun a => a.2 ≠ entryId }

def setEntry (entry : BlacklistEntry) : FeedDb Digest :=
  { db with entries := db.entries.insert entryId entry }

/-- `_prospective_global_cidrs`, in the order of the texts. -/
def prospectiveGlobalCidrs : List Cidr :=
  let kept := db.entries.entries.filter fun e => !(decide (e.2.source = .feed) &&
    decide ((sourceId, e.1) ∈ db.assertions ∧ e.2.sourceCidr ∉ cidrs) &&
    !decide (∃ a ∈ db.assertions, a.2 = e.1 ∧ a.1 ≠ sourceId))
  ((kept.map fun e => e.2.sourceCidr) ++ cidrs).dedup.insertionSort fun a b => ¬ b.text < a.text

/-- The rows after one source asserts exactly these networks. -/
def replaceSource : Except Raised (FeedDb Digest) := do
  let upserted ← db.upsertFeedEntries entryId cidrs
  return (upserted.replaceSourceAssertions sourceId cidrs).deleteOrphanedFeedEntries

/-- The columns `_store_run_stats` sets, and `fetched_lines`, written to the run row. A column that
keeps the value the session loaded is not part of the `UPDATE`. -/
def storeRunStats (runId : RunId) (identity object : FeedSyncRun) : FeedDb Digest :=
  match db.runs.lookup runId with
  | none => db
  | some row =>
    { db with
      runs := db.runs.insert runId
        { row with
          fetchedLines := changed row.fetchedLines identity.fetchedLines object.fetchedLines
          valid := changed row.valid identity.valid object.valid
          duplicates := changed row.duplicates identity.duplicates object.duplicates
          skippedInvalid := changed row.skippedInvalid identity.skippedInvalid object.skippedInvalid
          added := changed row.added identity.added object.added
          removed := changed row.removed identity.removed object.removed
          overlapCount := changed row.overlapCount identity.overlapCount object.overlapCount
          globalChanged := changed row.globalChanged identity.globalChanged object.globalChanged
          desiredRevision :=
            changed row.desiredRevision identity.desiredRevision object.desiredRevision } }

end FeedDb

/-! ## Materializing the union -/

section Transactions

variable {Digest : Type}

/-- The row `_locked_global_state` inserts when there is none. -/
def GlobalDenyState.initial : GlobalDenyState Digest where
  desiredRevision := 0
  activeRevision := 0
  desiredDigest := none
  activeDigest := none
  applyStatus := .pending
  lastError := none
  lastNodeMapVersion := none

/-- `_locked_global_state` with `create=True`. -/
def FeedDb.lockedGlobalState (db : FeedDb Digest) : GlobalDenyState Digest :=
  db.denyState.getD .initial

variable [DecidableEq Digest] (sha256 : String → Digest)

def GlobalDenyState.needsApply (state : GlobalDenyState Digest) : Bool :=
  decide (state.desiredRevision ≠ state.activeRevision) ||
    decide (state.desiredDigest ≠ state.activeDigest)

namespace FeedDb

/-- `_materialize_locked`: the state after it, and whether it changed. -/
def materializeLocked (state : GlobalDenyState Digest) (cidrs : List Cidr) :
    GlobalDenyState Digest × Bool :=
  if state.desiredDigest ≠ some (digest sha256 cidrs) then
    ({ state with
      desiredDigest := some (digest sha256 cidrs)
      desiredRevision := state.desiredRevision + 1
      applyStatus := .pending }, true)
  else (state, false)

/-- The rows as they are now become the desired set. -/
def materialize (db : FeedDb Digest) : Except Raised (FeedDb Digest × Bool) := do
  enforceCapacity db.globalCidrs
  let materialized := materializeLocked sha256 db.lockedGlobalState db.globalCidrs
  return ({ db with denyState := some materialized.1 }, materialized.2)

/-! ## Reconciling one source -/

def noopResult : ReconcileResult := ⟨0, 0, 0, 0, false, none, true⟩

/-- The run object after `_store_run_stats`. -/
def runStats (run : FeedSyncRun) (parsed : ParseResult) (result : ReconcileResult) : FeedSyncRun :=
  { run with
    valid := parsed.validDistinctCount
    duplicates := parsed.duplicateCount
    skippedInvalid := parsed.invalidCount
    added := result.added
    removed := result.removed
    overlapCount := result.overlapCount
    globalChanged := result.globalChanged
    desiredRevision := result.desiredRevision }

/-- `reconcile`. The session loaded the run as `identity` and changed it to `run`; the source is
read under its row lock. `entryId` is the first of the new identifiers. -/
def reconcile (db : FeedDb Digest) (runId : RunId) (identity run : FeedSyncRun)
    (parsed : ParseResult) (entryId : EntryId) :
    Except Raised (FeedDb Digest × ReconcileResult) := do
  match db.sources.lookup run.feedSourceId with
  | none => return (db, noopResult)
  | some source =>
    if source.deleted ∧ run.trigger ≠ .feedDelete then return (db, noopResult)
    let sourceId := run.feedSourceId
    let counts := db.sourceDeltaCounts sourceId parsed.cidrs
    let overlapCount := db.overlapCount parsed.cidrs
    let before := digest sha256 db.globalCidrs
    if run.dryRun then
      let effective := db.prospectiveGlobalCidrs sourceId parsed.cidrs
      enforceCapacity effective
      let result : ReconcileResult :=
        { valid := parsed.validDistinctCount, added := counts.1, removed := counts.2, overlapCount
          globalChanged := decide (before ≠ digest sha256 effective), desiredRevision := none
          noop := false }
      return (db.storeRunStats runId identity (runStats run parsed result), result)
    let replaced ← db.replaceSource sourceId parsed.cidrs entryId
    let (materialized, stateChanged) ← replaced.materialize sha256
    let result : ReconcileResult :=
      { valid := parsed.validDistinctCount, added := counts.1, removed := counts.2, overlapCount
        globalChanged := decide (before ≠ digest sha256 replaced.globalCidrs)
        desiredRevision :=
          if stateChanged then some materialized.lockedGlobalState.desiredRevision else none
        noop := false }
    return (materialized.storeRunStats runId identity (runStats run parsed result), result)

/-! ## The manual list -/

/-- `_enqueue_global_convergence`: a job for the desired revision, unless one is under way. -/
def enqueueGlobalConvergence (db : FeedDb Digest) (jobId : JobId) (createdAt : Nat) :
    Except Raised (FeedDb Digest × Bool) :=
  match db.denyState with
  | none => .ok (db, false)
  | some state =>
    if !state.needsApply then .ok (db, false)
    else if db.ledger.jobs.entries.any fun e => decide (e.2.target = .globalDeny) &&
        (decide (e.2.status = .queued) || decide (e.2.status = .applying)) then .ok (db, false)
    else
      match db.ledger.jobs.entries.find? fun e =>
        decide (e.2.target = .globalDeny ∧ e.2.version = state.desiredRevision) with
      | some e =>
        .ok ({ db with toDb := db.toDb.setJob e.1 { e.2 with status := .queued, error := none } },
          true)
      | none =>
        let job : AgentJob :=
          { target := .globalDeny, version := state.desiredRevision, trigger := .globalDenyRetry,
            status := .queued, error := none, attempts := 0, createdAt }
        if jobId ∈ db.ledger.jobs then .error .sqlAlchemyError
        else .ok ({ db with toDb := db.toDb.setJob jobId job }, true)

/-- `_materialize_global_deny_and_enqueue`. -/
def materializeAndEnqueue (db : FeedDb Digest) (jobId : JobId) (createdAt : Nat) :
    Except Raised (FeedDb Digest) := do
  let (materialized, stateChanged) ← db.materialize sha256
  if stateChanged then return (← materialized.enqueueGlobalConvergence jobId createdAt).1
  return materialized

/-- `_require_admin_actor` and `_parse_source` of a network that `parse_ipv4_cidr` accepted. -/
def checkListRequest (admin : Bool) (source : Cidr) : Except Raised Unit :=
  if !admin then .error (.httpException 403 "Forbidden")
  else if !rejectReserved source.network then
    .error (.httpException 422 "Reserved CIDR range is not allowed")
  else .ok ()

def addBlacklist (db : FeedDb Digest) (admin : Bool) (source : Cidr) (entryId : EntryId)
    (jobId : JobId) (createdAt : Nat) : Except Raised (FeedDb Digest) := do
  checkListRequest admin source
  match db.entryOf source with
  | none =>
    if entryId ∈ db.entries then throw .sqlAlchemyError
    (db.setEntry entryId ⟨source, .manual⟩).materializeAndEnqueue sha256 jobId createdAt
  | some existing =>
    match db.entries.lookup existing with
    | some ⟨_, .feed⟩ =>
      (db.setEntry existing ⟨source, .manual⟩).materializeAndEnqueue sha256 jobId createdAt
    | _ => throw (.httpException 409 "List entry exists")

omit [DecidableEq Digest] in
/-- What `remove_blacklist` reads before it writes: the row and whether a feed asserts it. -/
def readRemoval (db : FeedDb Digest) (admin : Bool) (source : Cidr) :
    Except Raised (EntryId × Bool) := do
  checkListRequest admin source
  match db.entryOf source with
  | none => throw (.httpException 404 "Blacklist entry not found")
  | some entryId =>
    match db.entries.lookup entryId with
    | some ⟨_, .feed⟩ =>
      throw (.httpException 409 "Feed-managed blacklist entry cannot be deleted manually")
    | _ => return (entryId, db.asserted entryId)

/-- What `remove_blacklist` then writes. The `UPDATE` of a row that has gone raises. -/
def writeRemoval (db : FeedDb Digest) (entryId : EntryId) (hasAssertions : Bool) (jobId : JobId)
    (createdAt : Nat) : Except Raised (FeedDb Digest) := do
  if hasAssertions then
    match db.entries.lookup entryId with
    | none => throw .sqlAlchemyError
    | some entry =>
      (db.setEntry entryId { entry with source := .feed }).materializeAndEnqueue sha256 jobId
        createdAt
  else (db.deleteEntry entryId).materializeAndEnqueue sha256 jobId createdAt

/-- `remove_blacklist` when nothing happens between its reads and its writes. -/
def removeBlacklist (db : FeedDb Digest) (admin : Bool) (source : Cidr) (jobId : JobId)
    (createdAt : Nat) : Except Raised (FeedDb Digest) := do
  let (entryId, hasAssertions) ← db.readRemoval admin source
  db.writeRemoval sha256 entryId hasAssertions jobId createdAt

end FeedDb

end Transactions

end ScrubbingGateway.Control
