import ScrubbingGateway.Control.DenyUnion

/-!
# Bringing the deny set to the data plane

`_converge_desired_revision` of `app/worker/feed_runner.py`: one transaction loads the desired set,
the helper applies it outside of any transaction, and a second transaction records the outcome. The
lists may change at any point in between, and a failed apply may have taken effect.
-/

namespace ScrubbingGateway.Control

open Raise

structure GlobalDenySnapshot (Digest : Type) where
  revision : Nat
  digest : Digest
  cidrs : List Cidr

namespace FeedDb

variable {Digest : Type} [DecidableEq Digest] (sha256 : String → Digest)

/-- `load_global_snapshot`; nothing stands for `GlobalDenyRevisionMismatch`. -/
def loadGlobalSnapshot (db : FeedDb Digest) (expectedRevision : Nat) :
    Option (GlobalDenySnapshot Digest) :=
  match db.denyState with
  | none => none
  | some state =>
    if state.desiredRevision ≠ expectedRevision then none
    else if state.desiredDigest ≠ some (digest sha256 db.globalCidrs) then none
    else some ⟨state.desiredRevision, digest sha256 db.globalCidrs, db.globalCidrs⟩

/-- The first transaction of `_converge_desired_revision`: the snapshot to apply, if there is
anything to apply at the expected revision. -/
def loadDesiredRevision (db : FeedDb Digest) (expectedRevision : Nat) :
    Option (GlobalDenySnapshot Digest) :=
  match db.denyState with
  | none => none
  | some state =>
    if state.desiredRevision ≠ expectedRevision ∨ !state.needsApply then none
    else db.loadGlobalSnapshot sha256 expectedRevision

/-- The desired state is still the one that was applied. -/
def stillDesired (state : GlobalDenyState Digest) (snapshot : GlobalDenySnapshot Digest) : Bool :=
  decide (state.desiredRevision = snapshot.revision) &&
    decide (state.desiredDigest = some snapshot.digest)

/-- The state row is rewritten, unless it is missing or has moved on. -/
def recordOutcome (db : FeedDb Digest) (snapshot : GlobalDenySnapshot Digest)
    (record : GlobalDenyState Digest → GlobalDenyState Digest) : FeedDb Digest :=
  match db.denyState with
  | none => db
  | some state =>
    if stillDesired state snapshot then { db with denyState := some (record state) } else db

/-- The second transaction of `_converge_desired_revision`. -/
def markGlobalApplied (db : FeedDb Digest) (snapshot : GlobalDenySnapshot Digest)
    (nodeMapVersion : Nat) : FeedDb Digest :=
  db.recordOutcome snapshot fun state =>
    { state with
      activeRevision := snapshot.revision
      activeDigest := some snapshot.digest
      applyStatus := .active
      lastError := none
      lastNodeMapVersion := some nodeMapVersion }

/-- `_mark_global_apply_failed`; the error comes with the name of its type. -/
def markGlobalApplyFailed (db : FeedDb Digest) (snapshot : GlobalDenySnapshot Digest)
    (error : String) : FeedDb Digest :=
  db.recordOutcome snapshot fun state =>
    { state with applyStatus := .failed, lastError := some (error.take 2000).toString }

end FeedDb

namespace DenyConvergence

/-! ## The system -/

/-- How the helper ends. -/
inductive ApplyOutcome where
  | succeeded (nodeMapVersion : Nat)
  /-- The helper failed or was killed, before or after it committed the set. -/
  | failed (error : String) (tookEffect : Bool)

/-- Where the worker is in `_converge_desired_revision`. -/
inductive Worker (Digest : Type) where
  | idle
  | loaded (snapshot : GlobalDenySnapshot Digest)
  | returned (snapshot : GlobalDenySnapshot Digest) (outcome : ApplyOutcome)

structure World (Digest : Type) where
  db : FeedDb Digest
  /-- The deny set that the data plane committed last. -/
  committed : List Cidr
  worker : Worker Digest

/-- A transaction that may change the lists. What a session has read before it is arbitrary, so that
no assumption is made on how the requests interleave. -/
inductive ListChange where
  | reconcile (runId : RunId) (identity run : FeedSyncRun) (parsed : ParseResult)
      (entryId : EntryId)
  | addBlacklist (admin : Bool) (source : Cidr) (entryId : EntryId) (jobId : JobId)
      (createdAt : Nat)
  | removeBlacklist (admin : Bool) (source : Cidr) (jobId : JobId) (createdAt : Nat)
  | writeRemoval (entryId : EntryId) (hasAssertions : Bool) (jobId : JobId) (createdAt : Nat)
  | deleteSource (sourceId : SourceId) (identity : ThreatFeedSource) (runId : RunId)
      (jobId : JobId) (createdAt : Nat) (entryId : EntryId)
  | elsewhere (base : Db) (whitelist : Table WhitelistId Cidr)

inductive Label where
  | change (change : ListChange)
  | load (expectedRevision : Nat)
  | apply (outcome : ApplyOutcome)
  | mark
  | crash

variable {Digest : Type} [DecidableEq Digest] (sha256 : String → Digest)

def ListChange.commit (db : FeedDb Digest) : ListChange → Except Raised (FeedDb Digest)
  | .reconcile runId identity run parsed entryId =>
    (db.reconcile sha256 runId identity run parsed entryId).map Prod.fst
  | .addBlacklist admin source entryId jobId createdAt =>
    db.addBlacklist sha256 admin source entryId jobId createdAt
  | .removeBlacklist admin source jobId createdAt =>
    db.removeBlacklist sha256 admin source jobId createdAt
  | .writeRemoval entryId hasAssertions jobId createdAt =>
    db.writeRemoval sha256 entryId hasAssertions jobId createdAt
  | .deleteSource sourceId identity runId jobId createdAt entryId =>
    db.deleteSource sha256 sourceId identity runId jobId createdAt entryId
  | .elsewhere base whitelist => .ok { db with toDb := base, whitelist := whitelist }

/-- The deny set of the data plane after the helper has run. -/
def ApplyOutcome.committed (outcome : ApplyOutcome) (before applied : List Cidr) : List Cidr :=
  match outcome with
  | .succeeded _ => applied
  | .failed _ tookEffect => if tookEffect then applied else before

def step (w : World Digest) : Label → Option (World Digest)
  | .change change => (change.commit sha256 w.db).toOption.map fun db => { w with db := db }
  | .load expectedRevision =>
    match w.worker with
    | .idle => (w.db.loadDesiredRevision sha256 expectedRevision).map fun snapshot =>
      { w with worker := .loaded snapshot }
    | _ => none
  | .apply outcome =>
    match w.worker with
    | .loaded snapshot =>
      some { w with
        committed := outcome.committed w.committed snapshot.cidrs
        worker := .returned snapshot outcome }
    | _ => none
  | .mark =>
    match w.worker with
    | .returned snapshot (.succeeded nodeMapVersion) =>
      some { w with db := w.db.markGlobalApplied snapshot nodeMapVersion, worker := .idle }
    | .returned snapshot (.failed error _) =>
      some { w with db := w.db.markGlobalApplyFailed snapshot error, worker := .idle }
    | _ => none
  | .crash => some { w with worker := .idle }

/-! ## The desired state follows the rows -/

variable {sha256}

variable {db next : FeedDb Digest} {entryId : EntryId} {state : GlobalDenyState Digest}
  {w : World Digest}

theorem follows_of_materialized {rows : FeedDb Digest}
    (done : FeedDb.Materialized sha256 rows next) (state : rows.denyState = db.denyState) :
    FeedDb.Follows sha256 db next := by
  obtain ⟨ledger, rfl⟩ := done
  refine Or.inr ?_
  simp only [FeedDb.lockedGlobalState, state]
  rfl

theorem reconcile_follows {runId : RunId} {identity run : FeedSyncRun} {parsed : ParseResult}
    {result : ReconcileResult}
    (done : db.reconcile sha256 runId identity run parsed entryId = .ok (next, result)) :
    FeedDb.Follows sha256 db next := by
  rcases FeedDb.reconcile_ok done with ⟨rfl, _⟩ |
    ⟨_, _, _, ⟨_, runs, rfl, _⟩ | ⟨_, replaced, runs, rows, rfl, _⟩⟩
  · exact Or.inl ⟨rfl, rfl⟩
  · exact Or.inl ⟨rfl, rfl⟩
  · refine Or.inr ?_
    have denyState : replaced.denyState = db.denyState := by rw [FeedDb.replaceSource_frame rows]
    simp only [FeedDb.lockedGlobalState, denyState]
    rfl

theorem ListChange.commit_follows {change : ListChange}
    (done : change.commit sha256 db = .ok next) : FeedDb.Follows sha256 db next := by
  have written {entryId : EntryId} {hasAssertions : Bool} {jobId : JobId} {createdAt : Nat}
      (done : db.writeRemoval sha256 entryId hasAssertions jobId createdAt = .ok next) :
      FeedDb.Follows sha256 db next := by
    rcases FeedDb.writeRemoval_ok done with ⟨_, _, _, materialized⟩ | ⟨_, materialized⟩
    · exact follows_of_materialized materialized rfl
    · exact follows_of_materialized materialized rfl
  cases change with
  | reconcile runId identity run parsed entryId =>
    obtain ⟨⟨after, result⟩, reconciled, rfl⟩ := map_eq_ok.mp done
    exact reconcile_follows reconciled
  | addBlacklist admin source entryId jobId createdAt =>
    obtain ⟨row, _, _, materialized⟩ := FeedDb.addBlacklist_ok done
    exact follows_of_materialized materialized rfl
  | removeBlacklist admin source jobId createdAt =>
    obtain ⟨⟨entryId, hasAssertions⟩, _, rest⟩ := bind_eq_ok.mp done
    exact written rest
  | writeRemoval entryId hasAssertions jobId createdAt => exact written done
  | deleteSource sourceId identity runId jobId createdAt entryId =>
    obtain ⟨base, existing, run, result, _, reconciled⟩ := FeedDb.deleteSource_ok done
    have follows := reconcile_follows reconciled
    exact follows
  | elsewhere base whitelist =>
    cases done
    exact Or.inl ⟨rfl, rfl⟩

/-! ## The invariant -/

/-- What holds of the stored state. An equal revision means that the active set is the desired one,
and then it is what the data plane holds. -/
structure StateOk (sha256 : String → Digest) (rows committed : List Cidr)
    (state : GlobalDenyState Digest) : Prop where
  current : state.desiredDigest = some (digest sha256 rows)
  behind : state.activeRevision ≤ state.desiredRevision
  settled : state.activeRevision = state.desiredRevision →
    state.activeDigest = state.desiredDigest ∧ committed = rows
  status : state.applyStatus = .active → state.activeRevision = state.desiredRevision

/-- What a snapshot under way is to the stored state: it is ahead of the active revision, and it is
the desired set unless it has been overtaken. -/
structure SnapshotOk (sha256 : String → Digest) (rows : List Cidr) (state : GlobalDenyState Digest)
    (snapshot : GlobalDenySnapshot Digest) : Prop where
  digest : snapshot.digest = Control.digest sha256 snapshot.cidrs
  ahead : state.activeRevision < snapshot.revision
  issued : snapshot.revision ≤ state.desiredRevision
  newest : snapshot.revision = state.desiredRevision → snapshot.cidrs = rows

def Worker.snapshot : Worker Digest → Option (GlobalDenySnapshot Digest)
  | .idle => none
  | .loaded snapshot => some snapshot
  | .returned snapshot _ => some snapshot

structure Inv (sha256 : String → Digest) (w : World Digest) : Prop where
  state : ∀ state, w.db.denyState = some state →
    StateOk sha256 w.db.globalCidrs w.committed state
  snapshot : ∀ snapshot, w.worker.snapshot = some snapshot → ∃ state,
    w.db.denyState = some state ∧ SnapshotOk sha256 w.db.globalCidrs state snapshot
  applied : ∀ snapshot nodeMapVersion,
    w.worker = .returned snapshot (.succeeded nodeMapVersion) → w.committed = snapshot.cidrs

/-! ## List changes -/

variable {committed rows' : List Cidr}

/-- The set is new: the revision moves past everything that is active or under way. -/
theorem StateOk.advance (behind : state.activeRevision ≤ state.desiredRevision) :
    StateOk sha256 rows' committed
      { state with
        desiredDigest := some (digest sha256 rows')
        desiredRevision := state.desiredRevision + 1
        applyStatus := .pending } where
  current := rfl
  behind := Nat.le_succ_of_le behind
  settled := by
    intro same
    have strict : state.activeRevision = state.desiredRevision + 1 := same
    omega
  status := nofun

/-- A list change from a stored state: nothing moves, or the revision grows by one. -/
theorem StateOk.follows (apart : NoCollision sha256 db.globalCidrs next.globalCidrs)
    (found : db.denyState = some state) (ok : StateOk sha256 db.globalCidrs committed state)
    (follows : FeedDb.Follows sha256 db next) :
    ∃ state', next.denyState = some state' ∧ StateOk sha256 next.globalCidrs committed state' ∧
      state'.activeRevision = state.activeRevision ∧ state'.activeDigest = state.activeDigest ∧
      (state'.desiredRevision = state.desiredRevision ∧ next.globalCidrs = db.globalCidrs ∨
        state'.desiredRevision = state.desiredRevision + 1) := by
  rcases follows with ⟨rows, kept⟩ | materialized
  · refine ⟨state, kept.trans found, ?_, rfl, rfl, Or.inl ⟨rfl, rows⟩⟩
    rw [rows]
    exact ok
  · rw [FeedDb.lockedGlobalState, found, Option.getD_some, FeedDb.materializeLocked]
      at materialized
    split at materialized
    · exact ⟨_, materialized, .advance ok.behind, rfl, rfl, Or.inr rfl⟩
    next same =>
      -- the digest is that of the rows before, so the rows are the same
      have digests := (not_not.mp same).symm.trans ok.current
      have rows := (apart.digest_eq_iff.mp (Option.some.inj digests).symm).symm
      refine ⟨state, materialized, ?_, rfl, rfl, Or.inl ⟨rfl, rows⟩⟩
      rw [rows]
      exact ok

variable {snapshot : GlobalDenySnapshot Digest} {rows : List Cidr}

omit [DecidableEq Digest] in
theorem SnapshotOk.follows {state' : GlobalDenyState Digest}
    (ok : SnapshotOk sha256 rows state snapshot)
    (active : state'.activeRevision = state.activeRevision)
    (moved : state'.desiredRevision = state.desiredRevision ∧ rows' = rows ∨
      state'.desiredRevision = state.desiredRevision + 1) :
    SnapshotOk sha256 rows' state' snapshot where
  digest := ok.digest
  ahead := by
    rw [active]
    exact ok.ahead
  issued := by
    have issued := ok.issued
    omega
  newest := by
    intro same
    rcases moved with ⟨revision, rfl⟩ | revision
    · exact ok.newest (same.trans revision)
    · -- it has been overtaken
      have issued := ok.issued
      omega

theorem Inv.change (apart : NoCollision sha256 w.db.globalCidrs db.globalCidrs) (inv : Inv sha256 w)
    (follows : FeedDb.Follows sha256 w.db db) : Inv sha256 { w with db := db } := by
  cases found : w.db.denyState with
  | some state =>
    obtain ⟨state', found', ok, active, _, moved⟩ :=
      (inv.state state found).follows apart found follows
    refine ⟨?_, ?_, inv.applied⟩
    · intro other found''
      rw [found'] at found''
      cases found''
      exact ok
    · intro snapshot held
      obtain ⟨state'', found'', snapshotOk⟩ := inv.snapshot snapshot held
      rw [found] at found''
      cases found''
      exact ⟨state', found', snapshotOk.follows active moved⟩
  | none =>
    -- without a stored state no snapshot has been loaded
    have free : w.worker.snapshot = none := by
      cases held : w.worker.snapshot with
      | none => rfl
      | some snapshot =>
        obtain ⟨_, found', _⟩ := inv.snapshot snapshot held
        rw [found] at found'
        cases found'
    refine ⟨?_, ?_, inv.applied⟩
    · intro state' found'
      rcases follows with ⟨_, kept⟩ | materialized
      · rw [kept, found] at found'
        cases found'
      · rw [FeedDb.lockedGlobalState, found, Option.getD_none, FeedDb.materializeLocked]
          at materialized
        split at materialized
        · rw [materialized] at found'
          cases found'
          exact .advance (Nat.le_refl 0)
        next same =>
          apply absurd _ same
          rintro ⟨⟩
    · intro snapshot held
      rw [free] at held
      cases held

/-! ## The worker -/

theorem loadDesiredRevision_ok {expectedRevision : Nat}
    (loaded : db.loadDesiredRevision sha256 expectedRevision = some snapshot) :
    ∃ state, db.denyState = some state ∧ state.needsApply = true ∧
      snapshot = ⟨state.desiredRevision, digest sha256 db.globalCidrs, db.globalCidrs⟩ := by
  unfold FeedDb.loadDesiredRevision at loaded
  split at loaded
  · cases loaded
  next state found =>
    obtain ⟨due, loaded⟩ := Option.ite_none_left_eq_some.mp loaded
    simp only [FeedDb.loadGlobalSnapshot, found] at loaded
    split at loaded
    · cases loaded
    · split at loaded
      · cases loaded
      · cases loaded
        refine ⟨state, found, ?_, rfl⟩
        by_contra settled
        exact due (Or.inr (by simpa using settled))

theorem StateOk.ahead (ok : StateOk sha256 rows committed state) (due : state.needsApply = true) :
    state.activeRevision < state.desiredRevision := by
  apply Nat.lt_of_le_of_ne ok.behind
  intro same
  simp [GlobalDenyState.needsApply, same, (ok.settled same).1] at due

theorem recordOutcome_some {record : GlobalDenyState Digest → GlobalDenyState Digest}
    (found : db.denyState = some state) :
    db.recordOutcome snapshot record =
      if FeedDb.stillDesired state snapshot then { db with denyState := some (record state) }
      else db := by
  simp only [FeedDb.recordOutcome, found]

theorem stillDesired_iff :
    FeedDb.stillDesired state snapshot = true ↔
      state.desiredRevision = snapshot.revision ∧ state.desiredDigest = some snapshot.digest := by
  simp only [FeedDb.stillDesired, Bool.and_eq_true, decide_eq_true_eq]

section

variable (inv : Inv sha256 w)
include inv

theorem Inv.record {record : GlobalDenyState Digest → GlobalDenyState Digest}
    (recorded : ∀ state, w.db.denyState = some state → FeedDb.stillDesired state snapshot = true →
      StateOk sha256 w.db.globalCidrs w.committed (record state)) :
    Inv sha256 { w with db := w.db.recordOutcome snapshot record, worker := .idle } := by
  refine ⟨?_, nofun, nofun⟩
  cases found : w.db.denyState with
  | none =>
    intro state found'
    simp only [FeedDb.recordOutcome, found] at found'
    cases found'
  | some state =>
    simp only [recordOutcome_some found]
    split
    next desired =>
      intro state' found'
      cases found'
      exact recorded state found desired
    · intro state' found'
      exact inv.state state' found'

theorem Inv.mark_succeeded {nodeMapVersion : Nat}
    (returned : w.worker = .returned snapshot (.succeeded nodeMapVersion)) :
    Inv sha256
      { w with db := w.db.markGlobalApplied snapshot nodeMapVersion, worker := .idle } := by
  refine inv.record fun state found desired => ?_
  obtain ⟨revision, digests⟩ := stillDesired_iff.mp desired
  obtain ⟨state', found', snapshotOk⟩ := inv.snapshot snapshot (by rw [returned]; rfl)
  rw [found] at found'
  cases found'
  have rows : w.committed = w.db.globalCidrs :=
    (inv.applied snapshot nodeMapVersion returned).trans (snapshotOk.newest revision.symm)
  exact
    { current := (inv.state state found).current
      behind := revision.ge
      settled := fun _ => ⟨digests.symm, rows⟩
      status := fun _ => revision.symm }

theorem Inv.mark_failed {error : String} :
    Inv sha256
      { w with db := w.db.markGlobalApplyFailed snapshot error, worker := .idle } := by
  refine inv.record fun state found _ => ?_
  obtain ⟨current, behind, settled, _⟩ := inv.state state found
  exact ⟨current, behind, settled, nofun⟩

theorem Inv.load {expectedRevision : Nat}
    (loaded : w.db.loadDesiredRevision sha256 expectedRevision = some snapshot) :
    Inv sha256 { w with worker := .loaded snapshot } := by
  obtain ⟨state, found, due, rfl⟩ := loadDesiredRevision_ok loaded
  refine ⟨inv.state, ?_, nofun⟩
  intro held same
  cases same
  exact ⟨state, found,
    { digest := rfl
      ahead := (inv.state state found).ahead due
      issued := Nat.le_refl _
      newest := fun _ => rfl }⟩

theorem Inv.apply {outcome : ApplyOutcome} (loaded : w.worker = .loaded snapshot) :
    Inv sha256
      { w with
        committed := outcome.committed w.committed snapshot.cidrs
        worker := .returned snapshot outcome } := by
  obtain ⟨state, found, snapshotOk⟩ := inv.snapshot snapshot (by rw [loaded]; rfl)
  refine ⟨?_, ?_, ?_⟩
  · intro state' found'
    rw [found] at found'
    cases found'
    obtain ⟨current, behind, _, status⟩ := inv.state state found
    refine ⟨current, behind, ?_, status⟩
    -- nothing is settled while a snapshot is under way
    intro same
    have ahead := snapshotOk.ahead
    have issued := snapshotOk.issued
    omega
  · intro held same
    cases same
    exact ⟨state, found, snapshotOk⟩
  · intro held nodeMapVersion same
    cases same
    rfl

end

/-- The digest tells the deny set after a step from the one before it. -/
def ToldApart (sha256 : String → Digest) (w : World Digest) (_ : Label) (next : World Digest) : Prop :=
  NoCollision sha256 w.db.globalCidrs next.db.globalCidrs

theorem Inv.step {next : World Digest} {label : Label} (apart : ToldApart sha256 w label next)
    (inv : Inv sha256 w) (stepped : step sha256 w label = some next) : Inv sha256 next := by
  cases label with
  | change change =>
    obtain ⟨db, done, rfl⟩ := Option.map_eq_some_iff.mp stepped
    exact inv.change apart (ListChange.commit_follows (toOption_eq_some.mp done))
  | load expectedRevision =>
    simp only [DenyConvergence.step] at stepped
    split at stepped
    · obtain ⟨snapshot, loaded, rfl⟩ := Option.map_eq_some_iff.mp stepped
      exact inv.load loaded
    · cases stepped
  | apply outcome =>
    simp only [DenyConvergence.step] at stepped
    split at stepped
    next snapshot loaded =>
      cases stepped
      exact inv.apply loaded
    · cases stepped
  | mark =>
    simp only [DenyConvergence.step] at stepped
    split at stepped
    next snapshot nodeMapVersion returned =>
      cases stepped
      exact inv.mark_succeeded returned
    · cases stepped
      exact inv.mark_failed
    · cases stepped
  | crash =>
    cases stepped
    exact ⟨inv.state, nofun, nofun⟩

/-! ## What is recorded -/

/-- The revision and the digest that the stored state calls active. -/
def recorded (db : FeedDb Digest) : Nat × Option Digest :=
  (db.lockedGlobalState.activeRevision, db.lockedGlobalState.activeDigest)

theorem recorded_follows (follows : FeedDb.Follows sha256 db next) :
    recorded next = recorded db := by
  rcases follows with ⟨_, kept⟩ | materialized
  · rw [recorded, recorded, FeedDb.lockedGlobalState, FeedDb.lockedGlobalState, kept]
  · obtain ⟨_, _, revision, digests⟩ := FeedDb.materializeLocked_spec sha256
      db.lockedGlobalState next.globalCidrs
    rw [recorded, FeedDb.lockedGlobalState, materialized, Option.getD_some, revision, digests]
    rfl

/-- Only a success that is still the desired state is recorded. -/
theorem recorded_step {next : World Digest} {label : Label}
    (stepped : step sha256 w label = some next) (moved : recorded next.db ≠ recorded w.db) :
    ∃ snapshot nodeMapVersion, label = .mark ∧
      w.worker = .returned snapshot (.succeeded nodeMapVersion) ∧
      snapshot.revision = w.db.desiredRevision ∧
      recorded next.db = (snapshot.revision, some snapshot.digest) := by
  cases label with
  | change change =>
    obtain ⟨db, done, rfl⟩ := Option.map_eq_some_iff.mp stepped
    exact absurd (recorded_follows (ListChange.commit_follows (toOption_eq_some.mp done))) moved
  | load expectedRevision =>
    simp only [step] at stepped
    split at stepped
    · obtain ⟨snapshot, _, rfl⟩ := Option.map_eq_some_iff.mp stepped
      exact absurd rfl moved
    · cases stepped
  | apply outcome =>
    simp only [step] at stepped
    split at stepped
    · cases stepped
      exact absurd rfl moved
    · cases stepped
  | mark =>
    -- an outcome is written only over a state that still desires the revision of the snapshot
    have outcome (snapshot : GlobalDenySnapshot Digest)
        (record : GlobalDenyState Digest → GlobalDenyState Digest)
        (changes : recorded (w.db.recordOutcome snapshot record) ≠ recorded w.db) :
        ∃ state, w.db.denyState = some state ∧ state.desiredRevision = snapshot.revision ∧
          w.db.recordOutcome snapshot record = { w.db with denyState := some (record state) } := by
      cases found : w.db.denyState with
      | none =>
        simp only [FeedDb.recordOutcome, found] at changes
        exact absurd rfl changes
      | some state =>
        rw [recordOutcome_some found] at changes ⊢
        split at changes
        next desired =>
          rw [if_pos desired]
          exact ⟨state, rfl, (stillDesired_iff.mp desired).1, rfl⟩
        · exact absurd rfl changes
    simp only [step] at stepped
    split at stepped
    next snapshot nodeMapVersion returned =>
      cases stepped
      obtain ⟨state, found, revision, same⟩ := outcome snapshot _ moved
      refine ⟨snapshot, nodeMapVersion, rfl, returned, ?_, ?_⟩
      · rw [FeedDb.desiredRevision, FeedDb.lockedGlobalState, found]
        exact revision.symm
      · rw [FeedDb.markGlobalApplied, same]
        rfl
    -- a failure writes its error and leaves the active revision alone
    next snapshot error tookEffect returned =>
      cases stepped
      obtain ⟨state, found, _, same⟩ := outcome snapshot _ moved
      rw [FeedDb.markGlobalApplyFailed, same, recorded, recorded, FeedDb.lockedGlobalState,
        FeedDb.lockedGlobalState, found] at moved
      exact absurd rfl moved
    · cases stepped
  | crash =>
    cases stepped
    exact absurd rfl moved

/-- Whatever the lists, the worker and the helper do while no two deny sets that follow each other
collide, a stored state with nothing to apply means that the data plane holds the desired set. The
active revision only ever moves to the revision that is the desired one at that moment. -/
theorem settled_state_is_committed {start w : World Digest} (unset : start.db.denyState = none)
    (idle : start.worker = .idle) {labels : List Label}
    (apart : Transition.RunAll (step sha256) (ToldApart sha256) start labels)
    (ran : Transition.run (step sha256) start labels = some w) :
    (∀ state, w.db.denyState = some state → state.needsApply = false →
      w.committed = w.db.globalCidrs ∧
        state.desiredDigest = some (digest sha256 w.db.globalCidrs)) ∧
    (∀ state, w.db.denyState = some state → state.applyStatus = .active →
      state.needsApply = false) ∧
    ∀ label next, step sha256 w label = some next → recorded next.db ≠ recorded w.db →
      ∃ snapshot nodeMapVersion, label = .mark ∧
        w.worker = .returned snapshot (.succeeded nodeMapVersion) ∧
        snapshot.revision = w.db.desiredRevision ∧
        recorded next.db = (snapshot.revision, some snapshot.digest) := by
  have initial : Inv sha256 start := by
    refine ⟨?_, ?_, ?_⟩
    · intro state found
      rw [unset] at found
      cases found
    · rw [idle]
      nofun
    · rw [idle]
      nofun
  have inv : Inv sha256 w := by
    refine Transition.run_invariant_of_runAll ?_ initial apart ran
    exact fun _ _ _ inv apart stepped => inv.step apart stepped
  refine ⟨fun state found nothing => ?_, fun state found active => ?_,
    fun label next stepped moved => recorded_step stepped moved⟩
  · have ok := inv.state state found
    simp only [GlobalDenyState.needsApply, Bool.or_eq_false_iff, decide_eq_false_iff_not,
      not_not] at nothing
    exact ⟨(ok.settled nothing.1.symm).2, ok.current⟩
  · have ok := inv.state state found
    have same := ok.status active
    simp [GlobalDenyState.needsApply, same, (ok.settled same).1]

/-- A network is listed; the first apply takes effect but is reported as failed, the second is
recorded. -/
def retriedApply : List Label :=
  [.change (.addBlacklist true DenyChange.oneNetwork 1 1 0), .load 1,
    .apply (.failed "ApplyError: xdpgw-apply timed out" true), .mark, .load 1,
    .apply (.succeeded 7), .mark]

theorem retriedApply_committed :
    ∃ w, Transition.run (step id) ⟨DenyChange.unsyncedSource, [], .idle⟩ retriedApply = some w ∧
      recorded w.db = (1, w.db.lockedGlobalState.desiredDigest) ∧
      w.committed = w.db.globalCidrs ∧ w.db.globalCidrs = [DenyChange.oneNetwork] := by
  have evaluated : (Transition.run (step id) ⟨DenyChange.unsyncedSource, [], .idle⟩
      retriedApply).map (fun w => decide ((w.db.denyState.map GlobalDenyState.needsApply) =
        some false ∧ recorded w.db = (1, w.db.lockedGlobalState.desiredDigest) ∧
        w.db.globalCidrs = [DenyChange.oneNetwork])) = some true := by
    decide +kernel
  obtain ⟨w, ran, holds⟩ := Option.map_eq_some_iff.mp evaluated
  obtain ⟨nothing, active, rows⟩ := of_decide_eq_true holds
  obtain ⟨state, found, settled⟩ := Option.map_eq_some_iff.mp nothing
  have apart : Transition.RunAll (step id) (ToldApart id) ⟨DenyChange.unsyncedSource, [], .idle⟩
      retriedApply := Transition.RunAll.of_always (fun _ _ _ same => same) _ _
  have committed := (settled_state_is_committed rfl rfl apart ran).1 state found settled
  exact ⟨w, ran, active, committed.1, rows⟩

end DenyConvergence

end ScrubbingGateway.Control
