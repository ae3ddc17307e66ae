import ScrubbingGateway.Control.Accounts
import ScrubbingGateway.Control.Cidr
import ScrubbingGateway.Control.Records

/-!
# Allocations and the destinations of services

`allocate`, `revoke`, `create_service` and `update_service` as transactions of single statements. A
transaction reads committed rows; what it writes is seen by nobody else until it commits, and holds
off other writes of the same row and, through the exclusion constraints, of overlapping networks.
-/

namespace ScrubbingGateway.Control

/-- The operators `>>=` and `<<=`: the second network lies in the first. -/
def Cidr.contains (outer inner : Cidr) : Bool :=
  outer.prefixlen ≤ inner.prefixlen && networkAddress inner.address outer.prefixlen == outer.address

namespace Allocations

open Prog
open Accounts (Role TenantId TenantStatus HttpError)

abbrev AllocationId := Nat

inductive CidrStatus where
  | active | revoked
deriving DecidableEq, Repr

structure AllocatedCidr where
  tenantId : TenantId
  cidr : Cidr
  status : CidrStatus
deriving DecidableEq

structure Service where
  tenantId : TenantId
  name : String
  cidrOrIp : Cidr
deriving DecidableEq

/-- What an UPDATE makes of a row: it writes the columns in which the object differs from the row it
was loaded from. -/
def Service.update (loaded service row : Service) : Service where
  tenantId := if service.tenantId = loaded.tenantId then row.tenantId else service.tenantId
  name := if service.name = loaded.name then row.name else service.name
  cidrOrIp := if service.cidrOrIp = loaded.cidrOrIp then row.cidrOrIp else service.cidrOrIp

/-! ## The database -/

/-- A row that a transaction has written and not committed. -/
inductive Write where
  | allocate (id : AllocationId) (row : AllocatedCidr)
  | revoke (id : AllocationId)
  | service (id : ServiceId) (row : Service)
deriving DecidableEq

def Write.row : Write → AllocationId ⊕ ServiceId
  | allocate id _ | revoke id => .inl id
  | service id _ => .inr id

/-- What a transaction has made sure of before it writes. -/
inductive Check where
  /-- `cidr_in_tenant_allocation` was true. -/
  | allocated (tenantId : TenantId) (target : Cidr)
  /-- `count_allocation_dependents` was empty. -/
  | unused (cidr : Cidr)
deriving DecidableEq

/-- The exclusion constraints: two writes that cannot both be committed. -/
def Write.excludes : Write → Write → Bool
  | allocate _ row, allocate _ row' => row.cidr.overlaps row'.cidr
  | service _ row, service _ row' => row.cidrOrIp.overlaps row'.cidrOrIp
  | _, _ => false

structure State where
  tenants : Table TenantId TenantStatus
  allocations : Table AllocationId AllocatedCidr
  services : Table ServiceId Service
  written : Table Nat Write
  /-- The service row that a transaction has locked with `SELECT ... FOR UPDATE`. -/
  locked : Table Nat ServiceId
  /-- The last check that a transaction has passed. -/
  passed : Table Nat Check

inductive Call where
  | selectTenant (id : TenantId)
  | selectAllocation (id : AllocationId)
  /-- The first active allocation that overlaps. -/
  | findConflict (cidr : Cidr)
  | insertAllocation (id : AllocationId) (row : AllocatedCidr)
  | servicesInCidr (cidr : Cidr)
  | updateRevoked (id : AllocationId)
  | cidrInTenantAllocation (tenantId : TenantId) (target : Cidr)
  /-- The first other service that overlaps. -/
  | findConflictingService (cidrOrIp : Cidr) (excludeServiceId : Option ServiceId)
  | insertService (id : ServiceId) (row : Service)
  | selectService (id : ServiceId)
  | lockService (id : ServiceId)
  | updateService (id : ServiceId) (loaded service : Service)
  | commit
  | rollback

def Call.Answer : Call → Type
  | selectTenant _ => Option TenantStatus
  | selectAllocation _ => Option AllocatedCidr
  | findConflict _ => Option AllocatedCidr
  | servicesInCidr _ => List Service
  | findConflictingService _ _ => Option Service
  | selectService _ => Option Service
  | insertAllocation .. | updateRevoked _ | cidrInTenantAllocation .. | insertService ..
  | lockService _ | updateService .. => Bool
  | commit | rollback => Unit

namespace State

variable (s : State)

def activeOverlap (cidr : Cidr) : Option AllocatedCidr :=
  (s.allocations.entries.map Sigma.snd).find? fun a => a.status = .active ∧ a.cidr.overlaps cidr

def overlapping (cidrOrIp : Cidr) (exclude : Option ServiceId) : Option Service :=
  (s.services.entries.find? fun e => some e.1 ≠ exclude ∧ e.2.cidrOrIp.overlaps cidrOrIp).map
    Sigma.snd

/-- Another transaction holds the row. -/
def Held (i : Nat) (row : AllocationId ⊕ ServiceId) : Prop :=
  (∃ e ∈ s.written.entries, e.1 ≠ i ∧ e.2.row = row) ∨
    ∃ e ∈ s.locked.entries, e.1 ≠ i ∧ .inr e.2 = row

instance (s : State) (i : Nat) (row : AllocationId ⊕ ServiceId) : Decidable (s.Held i row) :=
  inferInstanceAs (Decidable (_ ∨ _))

/-- Another transaction has written a row that excludes the write. -/
def Excluded (i : Nat) (w : Write) : Prop :=
  ∃ e ∈ s.written.entries, e.1 ≠ i ∧ e.2.excludes w = true

instance (s : State) (i : Nat) (w : Write) : Decidable (s.Excluded i w) :=
  inferInstanceAs (Decidable (∃ e ∈ s.written.entries, _))

/-- A statement writes a row, unless it has to wait or a constraint refuses it. -/
def write (i : Nat) (w : Write) (refused : Bool) : Option (Bool × State) :=
  if s.Held i w.row ∨ s.Excluded i w then none
  else if refused then some (false, s)
  else some (true, { s with written := s.written.insert i w })

/-- A check is noted if it was passed. -/
def pass (i : Nat) (check : Check) (holds : Bool) : State :=
  if holds then { s with passed := s.passed.insert i check } else s

/-- The end of a transaction gives its locks back. -/
def ended (i : Nat) : State :=
  { s with
    written := s.written.erase i
    locked := s.locked.erase i
    passed := s.passed.erase i }

/-- What a commit makes of the tables. -/
def apply : Write → State
  | .allocate id row => { s with allocations := s.allocations.insert id row }
  | .revoke id =>
    match s.allocations.lookup id with
    | some row => { s with allocations := s.allocations.insert id { row with status := .revoked } }
    | none => s
  | .service id row => { s with services := s.services.insert id row }

def commit (i : Nat) : State :=
  match s.written.lookup i with
  | some w => (s.apply w).ended i
  | none => s.ended i

def exec (i : Nat) : (c : Call) → State → Option (c.Answer × State)
  | .selectTenant id, s => some (s.tenants.lookup id, s)
  | .selectAllocation id, s => some (s.allocations.lookup id, s)
  | .findConflict cidr, s => some (s.activeOverlap cidr, s)
  | .insertAllocation id row, s =>
    s.write i (.allocate id row)
      ((s.allocations.lookup id).isSome || (s.activeOverlap row.cidr).isSome)
  | .servicesInCidr cidr, s =>
    let dependents := (s.services.entries.map Sigma.snd).filter fun service =>
      cidr.contains service.cidrOrIp
    some (dependents, s.pass i (.unused cidr) dependents.isEmpty)
  | .updateRevoked id, s => s.write i (.revoke id) (s.allocations.lookup id).isNone
  | .cidrInTenantAllocation tenantId target, s =>
    let allocated := s.allocations.entries.any fun e =>
      e.2.tenantId = tenantId ∧ e.2.status = .active ∧ e.2.cidr.contains target
    some (allocated, s.pass i (.allocated tenantId target) allocated)
  | .findConflictingService cidrOrIp exclude, s => some (s.overlapping cidrOrIp exclude, s)
  | .insertService id row, s =>
    s.write i (.service id row)
      ((s.services.lookup id).isSome || (s.overlapping row.cidrOrIp none).isSome)
  | .selectService id, s => some (s.services.lookup id, s)
  | .lockService id, s =>
    if s.Held i (.inr id) then none
    else if (s.services.lookup id).isNone then some (false, s)
    else some (true, { s with locked := s.locked.insert i id })
  | .updateService id loaded service, s =>
    match s.services.lookup id with
    | none => some (false, s)
    | some row =>
      s.write i (.service id (loaded.update service row))
        (s.overlapping (loaded.update service row).cidrOrIp (some id)).isSome
  | .commit, s => some ((), s.commit i)
  | .rollback, s => some ((), s.ended i)

end State

def database : Shared State Call Call.Answer where
  exec := State.exec

/-! ## Requests -/

abbrev Request (α : Type) : Type := ExceptT HttpError (Prog Call Call.Answer) α

def ask (c : Call) : Request c.Answer := Prog.ask c

def getDb {α : Type} (body : Request α) : Request α := transaction .commit .rollback body

/-- `_overlap_error` of the allocations. -/
def overlapError (conflict : AllocatedCidr) : HttpError :=
  ⟨409, "CIDR overlaps active allocation " ++ conflict.cidr.text, []⟩

/-- `id` is the primary key that the row gets. -/
def allocate (id : AllocationId) (tenantId : TenantId) (cidr : Cidr) : Request AllocatedCidr := do
  let tenant : Option TenantStatus ← ask (.selectTenant tenantId)
  match tenant with
  | none => throw ⟨404, "Tenant not found", []⟩
  | some .suspended => throw ⟨409, "Tenant is not active", []⟩
  | some .active =>
    let conflict : Option AllocatedCidr ← ask (.findConflict cidr)
    match conflict with
    | some conflict => throw (overlapError conflict)
    | none =>
      let allocation : AllocatedCidr := ⟨tenantId, cidr, .active⟩
      let inserted : Bool ← ask (.insertAllocation id allocation)
      match inserted with
      | true => return allocation
      | false =>
        -- the exclusion constraint: the conflict is looked up once more for the message
        let _ ← ask .rollback
        let conflict : Option AllocatedCidr ← ask (.findConflict cidr)
        match conflict with
        | some conflict => throw (overlapError conflict)
        | none => throw ⟨409, "CIDR overlaps an active allocation", []⟩

/-- What `revoke` asks of the database, and the events it records. -/
structure RevokeAccess (m : Type → Type) where
  selectAllocation : AllocationId → m (Option AllocatedCidr)
  servicesInCidr : Cidr → m (List Service)
  flush (id : AllocationId) (revoked : AllocatedCidr) : m Unit
  recordDenied (id : AllocationId) (blockers : List String) : m Unit
  recordRevoked (id : AllocationId) (revoked : AllocatedCidr) : m Unit

section Revoke

variable {m : Type → Type} [Monad m] [MonadExceptOf HttpError m] (access : RevokeAccess m)

/-- `count_allocation_dependents`: the services in the network, whoever owns them. -/
def countAllocationDependents (allocation : AllocatedCidr) : m (List String) := do
  return (← access.servicesInCidr allocation.cidr).map fun service =>
    "protected_service:" ++ service.name

def revoke (id : AllocationId) : m AllocatedCidr := do
  match ← access.selectAllocation id with
  | none => throw ⟨404, "Allocation not found", []⟩
  | some allocation =>
    if allocation.status = .revoked then return allocation
    else
      let blockers ← countAllocationDependents access allocation
      if blockers ≠ [] then
        access.recordDenied id blockers
        throw ⟨409, "Allocation is still in use", blockers⟩
      else
        access.flush id { allocation with status := .revoked }
        access.recordRevoked id { allocation with status := .revoked }
        return { allocation with status := .revoked }

end Revoke

/-- The audit events are left out. -/
def revocations : RevokeAccess Request where
  selectAllocation id := ask (.selectAllocation id)
  servicesInCidr cidr := ask (.servicesInCidr cidr)
  flush id _ := do
    let updated : Bool ← ask (.updateRevoked id)
    match updated with
    | true => return ()
    | false => throw ⟨500, "Internal Server Error", []⟩
  recordDenied _ _ := return ()
  recordRevoked _ _ := return ()

structure Actor where
  role : Role
  tenantId : Option TenantId
deriving DecidableEq, Repr

def authorizeActorForTenant {m : Type → Type} [Monad m] [MonadExceptOf HttpError m]
    (actor : Option Actor) (tenantId : TenantId) : m Unit :=
  match actor with
  | none => return ()
  | some actor =>
    if actor.role = .admin ∨ actor.tenantId = some tenantId then return ()
    else throw ⟨403, "Forbidden", []⟩

/-- `_require_destination_scope`, and the search for an overlapping service. -/
def requireDestination (tenantId : TenantId) (cidrOrIp : Cidr)
    (excludeServiceId : Option ServiceId) : Request Unit := do
  if cidrOrIp.prefixlen ≠ 32 then
    throw ⟨422, "Service destination must be a single host (e.g., a /32 CIDR)", []⟩
  else
    let allocated : Bool ← ask (.cidrInTenantAllocation tenantId cidrOrIp)
    match allocated with
    | false => throw ⟨403, "Forbidden", []⟩
    | true =>
      let conflict : Option Service ← ask (.findConflictingService cidrOrIp excludeServiceId)
      match conflict with
      | some conflict => throw ⟨409, "Service destination overlaps " ++ conflict.name, []⟩
      | none => return ()

/-- `id` is the primary key that the row gets. -/
def createService (id : ServiceId) (actor : Option Actor) (tenantId : TenantId) (name : String)
    (cidrOrIp : Cidr) : Request Service := do
  authorizeActorForTenant actor tenantId
  requireDestination tenantId cidrOrIp none
  let service : Service := ⟨tenantId, name, cidrOrIp⟩
  let inserted : Bool ← ask (.insertService id service)
  match inserted with
  | true => return service
  | false => throw ⟨409, "Service destination overlaps another service", []⟩

/-- The part of `update_service` about the destination. -/
def redirect (id : ServiceId) (service : Service) : Option Cidr → Request Service
  | none => return service
  | some cidrOrIp =>
    if cidrOrIp = service.cidrOrIp then return service
    else do
      requireDestination service.tenantId cidrOrIp (some id)
      return { service with cidrOrIp }

def updateService (id : ServiceId) (actor : Option Actor) (name : Option String)
    (cidrOrIp : Option Cidr) : Request Service := do
  let found : Option Service ← ask (.selectService id)
  match found with
  | none => throw ⟨404, "Service not found", []⟩
  | some loaded =>
    authorizeActorForTenant actor loaded.tenantId
    let service ← redirect id loaded cidrOrIp
    let service := { service with name := name.getD service.name }
    -- `bump_version` locks the row and flushes the object
    let locked : Bool ← ask (.lockService id)
    match locked with
    | false => throw ⟨404, "Service not found", []⟩
    | true =>
      let updated : Bool ← ask (.updateService id loaded service)
      match updated with
      | true => return service
      | false => throw ⟨500, "Internal Server Error", []⟩

inductive Op where
  | allocate (id : AllocationId) (tenantId : TenantId) (cidr : Cidr)
  | revoke (id : AllocationId)
  | createService (id : ServiceId) (actor : Option Actor) (tenantId : TenantId) (name : String)
      (cidrOrIp : Cidr)
  | updateService (id : ServiceId) (actor : Option Actor) (name : Option String)
      (cidrOrIp : Option Cidr)

inductive Reply where
  | allocation (row : AllocatedCidr)
  | service (row : Service)

def Op.prog : Op → Request Reply
  | allocate id tenantId cidr => do
    return .allocation (← getDb (Allocations.allocate id tenantId cidr))
  | revoke id => do
    return .allocation (← getDb (Allocations.revoke revocations id))
  | createService id actor tenantId name cidrOrIp => do
    return .service (← getDb (Allocations.createService id actor tenantId name cidrOrIp))
  | updateService id actor name cidrOrIp => do
    return .service (← getDb (Allocations.updateService id actor name cidrOrIp))

/-! ## Requests side by side -/

abbrev World : Type := Pool State Unit Call Call.Answer (Except HttpError Reply)

inductive Label where
  | start (op : Op)
  | turn (i : Nat)
  /-- A request is given up and its transaction rolled back. -/
  | abort (i : Nat)

namespace World

def step (p : World) : Label → Option World
  | .start op => some (p.start ⟨(), op.prog⟩)
  | .turn i => p.turn database i
  | .abort i =>
    match p.threads[i]? with
    | some ⟨_, .call _ _⟩ => some ⟨p.state.ended i, p.threads.set i ⟨(), .fail⟩⟩
    | _ => none

/-- Nothing has been allocated yet. -/
def initial (tenants : Table TenantId TenantStatus) : World where
  state :=
    { tenants, allocations := ∅, services := ∅, written := ∅, locked := ∅, passed := ∅ }
  threads := []

end World

end Allocations

end ScrubbingGateway.Control
