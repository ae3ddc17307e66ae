import ScrubbingGateway.Control.AuditTrail

/-!
# Deleting a tenant

`delete_tenant` counts the rows that it takes for blockers and leaves the rest to the database. Six
tables refer to the tenants, and the foreign key of each says what becomes of a row whose tenant is
deleted.
-/

namespace ScrubbingGateway.Control.TenantDeletion

open Transition
open RaiseState (Ends ends_bind ends_get ends_throw ends_modify orRaise)
open Sessions (UserId)
open Accounts (TenantId HttpError)
open Allocations (AllocationId)
open AuditTrail (Stores Actor getDb deleteTenant)

section Rows

variable (db : AuditTrail.Db) (id : TenantId)

def usersOf : Set UserId := {user | ∃ row, db.users.lookup user = some row ∧ row.tenantId = some id}

def unrevokedOf : Set AllocationId :=
  {a | ∃ row, db.allocations.lookup a = some row ∧ row.tenantId = id ∧ row.status ≠ .revoked}

/-- The tenant has neither users nor unrevoked allocations. -/
def Unblocked : Prop := usersOf db id = ∅ ∧ unrevokedOf db id = ∅

/-- The number of the users and that of the unrevoked allocations are named, each of them if there
are any, and nothing else is. -/
def Names (blockers : List String) : Prop :=
  ∀ b, b ∈ blockers ↔
    (usersOf db id ≠ ∅ ∧ b = "users:" ++ toString (usersOf db id).ncard) ∨
      (unrevokedOf db id ≠ ∅ ∧ b = "allocations:" ++ toString (unrevokedOf db id).ncard)

end Rows

/-- A deletion removes an unblocked tenant and is rejected with the blockers of any other one. -/
structure Matches (s : Stores) (id : TenantId) (actor : Actor) (ip : Option String) : Prop where
  removed : Unblocked s.db id →
    ∃ s', getDb (deleteTenant id actor ip) s = (.ok (), s') ∧ s'.db.tenants.lookup id = none
  rejected : ¬ Unblocked s.db id → ∃ blockers,
    getDb (deleteTenant id actor ip) s = (.error ⟨409, "Tenant has dependents", blockers⟩, s) ∧
      Names s.db id blockers

section Deleting

variable {s : Stores} {id : TenantId} {actor : Actor} {ip : Option String}

section Counting

variable {db : AuditTrail.Db}

theorem ncard_usersOf : (usersOf db id).ncard = db.userCount id := Table.ncard_keys ..

theorem ncard_unrevokedOf : (unrevokedOf db id).ncard = db.allocationCount id :=
  Table.ncard_keys ..

theorem userCount_eq_zero_iff : db.userCount id = 0 ↔ usersOf db id = ∅ := by
  rw [← ncard_usersOf]
  exact Set.ncard_eq_zero (Table.finite_keys ..)

theorem allocationCount_eq_zero_iff : db.allocationCount id = 0 ↔ unrevokedOf db id = ∅ := by
  rw [← ncard_unrevokedOf]
  exact Set.ncard_eq_zero (Table.finite_keys ..)

end Counting

/-- The blockers are counted right. -/
theorem deleteBlockers_names (db : AuditTrail.Db) (id : TenantId) :
    Names db id (db.deleteBlockers id) := by
  intro b
  rw [AuditTrail.Db.deleteBlockers, List.mem_append, ncard_usersOf, ncard_unrevokedOf, ne_eq, ne_eq,
    ← userCount_eq_zero_iff, ← allocationCount_eq_zero_iff]
  refine or_congr ?_ ?_
  all_goals
    split
    next zero => simp [zero]
    next nonzero => simp [nonzero]

theorem deleteBlockers_eq_nil_iff {db : AuditTrail.Db} :
    db.deleteBlockers id = [] ↔ Unblocked db id := by
  rw [Unblocked, ← userCount_eq_zero_iff, ← allocationCount_eq_zero_iff,
    AuditTrail.Db.deleteBlockers, List.append_eq_nil_iff]
  refine and_congr ?_ ?_
  all_goals
    split
    next zero => simp [zero]
    next nonzero => simp [nonzero]

/-- What may be left to hold up the deletion of an unblocked tenant. -/
theorem not_restricted_iff {db : AuditTrail.Db} (unblocked : Unblocked db id) :
    ¬ db.Restricted id ↔ (∀ e ∈ db.allocations.entries, e.2.tenantId ≠ id) ∧
      ∀ e ∈ db.services.entries, e.2.tenantId ≠ id := by
  have noUser : ¬ ∃ e ∈ db.users.entries, e.2.tenantId = some id := by
    rintro ⟨e, member, own⟩
    have inside : e.1 ∈ usersOf db id := ⟨e.2, AList.mem_lookup_iff.mpr member, own⟩
    rw [unblocked.1] at inside
    exact inside
  simp only [AuditTrail.Db.Restricted, or_iff_right noUser, not_or, not_exists, not_and, ne_eq]

theorem getDb_eq_error {α : Type} {body : AuditTrail.Endpoint α} {e : HttpError}
    (ends : Ends body (fun _ _ => False) (fun e' s' => e' = e ∧ s'.sessions = s.sessions) s) :
    getDb body s = (.error e, s) := by
  unfold getDb
  unfold Ends at ends
  split
  next raised =>
    rw [raised] at ends
    exact ends.elim
  next s' raised =>
    rw [raised] at ends
    obtain ⟨rfl, sessions⟩ := ends
    rw [sessions]

theorem getDb_eq_ok {α : Type} {body : AuditTrail.Endpoint α} {Returns : α → Stores → Prop}
    (ends : Ends body Returns (fun _ _ => False) s) :
    ∃ a s', getDb body s = (.ok a, s') ∧ Returns a s' := by
  unfold getDb
  unfold Ends at ends
  split
  next a s' returned =>
    rw [returned] at ends
    exact ⟨a, s', rfl, ends⟩
  next raised =>
    rw [raised] at ends
    exact ends.elim

variable {tenant : AuditTrail.Tenant} (found : s.db.tenants.lookup id = some tenant)
include found

theorem deleteTenant_of_blocked (blocked : s.db.deleteBlockers id ≠ []) :
    getDb (deleteTenant id actor ip) s =
      (.error ⟨409, "Tenant has dependents", s.db.deleteBlockers id⟩, s) := by
  apply getDb_eq_error
  simp [deleteTenant, found, orRaise, blocked]

theorem deleteTenant_of_restricted (free : s.db.deleteBlockers id = [])
    (restricted : s.db.Restricted id) :
    getDb (deleteTenant id actor ip) s = (.error TenantReads.internalServerError, s) := by
  apply getDb_eq_error
  have kept (event : AuditTrail.AuditEvent) : (s.record event).db.Restricted id := restricted
  simp [deleteTenant, found, orRaise, free, AuditTrail.Db.deleteRow, kept]

theorem deleteTenant_of_not_restricted (free : s.db.deleteBlockers id = [])
    (unrestricted : ¬ s.db.Restricted id) :
    ∃ s', getDb (deleteTenant id actor ip) s = (.ok (), s') ∧ s'.db.tenants.lookup id = none := by
  have kept (event : AuditTrail.AuditEvent) : ¬ (s.record event).db.Restricted id := unrestricted
  have ends : Ends (deleteTenant id actor ip) (fun _ s' => s'.db.tenants.lookup id = none)
      (fun _ _ => False) s := by
    simp [deleteTenant, found, orRaise, free, AuditTrail.Db.deleteRow, kept]
  obtain ⟨_, s', deleted⟩ := getDb_eq_ok ends
  exact ⟨s', deleted⟩

end Deleting

/-- A deletion does what its blockers say exactly if there are any, or if no allocation, revoked or
not, and no service of the tenant is left. -/
theorem tenantDeletion_matches_iff (s : Stores) (id : TenantId) (actor : Actor) (ip : Option String)
    (found : (s.db.tenants.lookup id).isSome = true) :
    Matches s id actor ip ↔ ¬ Unblocked s.db id ∨
      (∀ e ∈ s.db.allocations.entries, e.2.tenantId ≠ id) ∧
        ∀ e ∈ s.db.services.entries, e.2.tenantId ≠ id := by
  obtain ⟨tenant, found⟩ := Option.isSome_iff_exists.mp found
  by_cases unblocked : Unblocked s.db id
  · have free := deleteBlockers_eq_nil_iff.mpr unblocked
    rw [← not_restricted_iff unblocked, or_iff_right (not_not.mpr unblocked)]
    constructor
    · intro asSaid restricted
      obtain ⟨s', deleted, _⟩ := asSaid.removed unblocked
      cases (deleteTenant_of_restricted found free restricted).symm.trans deleted
    · intro unrestricted
      exact ⟨fun _ => deleteTenant_of_not_restricted found free unrestricted,
        fun blocked => absurd unblocked blocked⟩
  · have blocked := deleteBlockers_eq_nil_iff.not.mpr unblocked
    refine iff_of_true ⟨fun free => absurd free unblocked, fun _ => ?_⟩ (.inl unblocked)
    exact ⟨_, deleteTenant_of_blocked found blocked, deleteBlockers_names s.db id⟩

/-- Tenant 1 has two users, an allocation and a revoked one; tenant 2 has a channel, usage that was
billed and an alert. -/
def twoTenants : Stores where
  db :=
    { lower := asciiLower
      users := Table.ofPairs [(1, ⟨some 1, .tenantUser, "ann", "a", .active, 1, none⟩),
        (2, ⟨some 1, .tenantUser, "bob", "b", .disabled, 1, none⟩)]
      tenants := Table.ofPairs [(1, ⟨"acme", .active⟩), (2, ⟨"bolt", .suspended⟩)]
      services := ∅
      allocations := Table.ofPairs [(1, ⟨1, .host 0x0A000001, .active⟩),
        (2, ⟨1, .host 0x0A000002, .revoked⟩)]
      channels := Table.ofPairs [(1, some 2)]
      billingUsages := Table.ofPairs [(1, some 2)]
      alerts := Table.ofPairs [(1, some 2)]
      events := [] }
  sessions := ∅

theorem twoTenants_match : Matches twoTenants 1 none none ∧ Matches twoTenants 2 none none := by
  have blocked : ¬ Unblocked twoTenants.db 1 := deleteBlockers_eq_nil_iff.not.mp (by decide)
  exact ⟨(tenantDeletion_matches_iff twoTenants 1 none none rfl).mpr (.inl blocked),
    (tenantDeletion_matches_iff twoTenants 2 none none rfl).mpr (.inr ⟨by decide, by decide⟩)⟩

/-- The tables of the allocations beside tenants that have nothing else. -/
def storesOf (s : Allocations.State) : Stores where
  db :=
    { lower := asciiLower
      users := ∅
      tenants := s.tenants.mapRows fun status => ⟨"acme", status⟩
      services := s.services.mapRows fun service => ⟨service, false⟩
      allocations := s.allocations
      channels := ∅
      billingUsages := ∅
      alerts := ∅
      events := [] }
  sessions := ∅

def oneTenant : Allocations.World := .initial (AList.insert 1 .active ∅)

/-- The tenant was given a network once. -/
def formerAllocation : List Allocations.Label :=
  [.start (.allocate 1 1 ⟨0xCB007100, 24, Cidr.canonical_testNet3⟩)] ++ List.replicate 4 (.turn 0) ++
    [.start (.revoke 1)] ++ List.replicate 4 (.turn 1)

/-- Nothing blocks the deletion, and the revoked allocation makes it fail. -/
theorem formerAllocation_violates :
    ∃ p, run Allocations.World.step oneTenant formerAllocation = some p ∧
      Unblocked (storesOf p.state).db 1 ∧
      (getDb (deleteTenant 1 none none) (storesOf p.state)).1 =
        .error TenantReads.internalServerError :=
  ⟨_, rfl, deleteBlockers_eq_nil_iff.mp (by decide), rfl⟩

end ScrubbingGateway.Control.TenantDeletion
