import Mathlib.Data.List.Infix
import ScrubbingGateway.Control.Allocations
import ScrubbingGateway.Control.TenantReads
import ScrubbingGateway.Lib.RaiseState

/-!
# The audit trail

The requests that are turned down with an audit event of their own: a login, a change of the own
password, and the deletion of a service, an allocation or a tenant that is in use. An event is a row
that the request writes in its transaction, next to its other rows.
-/

namespace ScrubbingGateway.Control.AuditTrail

open RaiseState
open Sessions (Sid UserId)
open Accounts (TenantId Role UserStatus TenantStatus User Principal HttpError LoginAccess
  TenantInactive)
open Allocations (AllocationId AllocatedCidr CidrStatus RevokeAccess authorizeActorForTenant)
open TenantReads (authorizeTenantResource internalServerError)

/-! ## Events -/

inductive Json where
  | null
  | flag (b : Bool)
  | text (s : String)
  | list (items : List Json)
  | object (fields : List (String × Json))

def secretKeyParts : List String := ["password", "token", "secret", "credential"]

def isSecretKey (key : String) : Bool :=
  secretKeyParts.any fun part => decide (part.toList <:+: key.toLower.toList)

mutual

def scrubValue : Json → Json
  | .object fields => .object (scrubMetadata fields)
  | .list items => .list (scrubItems items)
  | value => value

def scrubMetadata : List (String × Json) → List (String × Json)
  | [] => []
  | (key, value) :: rest =>
    if isSecretKey key then scrubMetadata rest
    else (key, scrubValue value) :: scrubMetadata rest

def scrubItems : List Json → List Json
  | [] => []
  | item :: rest => scrubValue item :: scrubItems rest

end

inductive Outcome where
  | success | denied
deriving DecidableEq, Repr

structure AuditEvent where
  actorUserId : Option UserId
  actorUsername : String
  action : String
  targetType : String
  targetId : Option String
  outcome : Outcome
  ipAddress : Option String
  metadata : List (String × Json)

/-! ## The database, and the sessions beside it -/

structure Tenant where
  name : String
  status : TenantStatus
deriving DecidableEq, Repr

structure ProtectedService extends Allocations.Service where
  enabled : Bool
deriving DecidableEq

structure Db where
  /-- `lower` in the collation of the database. -/
  lower : String → String
  users : Table UserId User
  tenants : Table TenantId Tenant
  services : Table ServiceId ProtectedService
  allocations : Table AllocationId AllocatedCidr
  /-- The tenants of the rows of `notification_channel`, `billing_usage` and `alert`. -/
  channels : Table Nat (Option TenantId)
  billingUsages : Table Nat (Option TenantId)
  alerts : Table Nat (Option TenantId)
  events : List AuditEvent

/-- The session store is no part of the transaction. -/
structure Stores where
  db : Db
  /-- The user and the version of a session. -/
  sessions : Table Sid (UserId × Nat)

abbrev Endpoint (α : Type) : Type := Body HttpError Stores α

/-- `get_db`: the session is committed when the endpoint returns and rolled back when it raises. -/
def getDb {α : Type} (endpoint : Endpoint α) (s : Stores) : Except HttpError α × Stores :=
  match perform endpoint s with
  | (.ok a, s') => (.ok a, s')
  | (.error e, s') => (.error e, { s' with db := s.db })

/-- `verify_password` and `hash_password` are those of a library. -/
structure Env where
  hashPassword : String → String
  verifyPassword : String → String → Bool
  now : Nat
  /-- The id of a new session. -/
  drawn : Sid

abbrev Actor : Type := Option (UserId × User)

variable (actor : Actor)

def auditEvent (action targetType : String) (targetId : Option String) (outcome : Outcome)
    (ip : Option String) (metadata : List (String × Json)) : AuditEvent where
  actorUserId := actor.map Prod.fst
  actorUsername :=
    match actor with
    | some (_, user) => user.username
    | none => "system"
  action := action
  targetType := targetType
  targetId := targetId
  outcome := outcome
  ipAddress := ip
  metadata := scrubMetadata metadata

def Stores.record (s : Stores) (event : AuditEvent) : Stores :=
  { s with db := { s.db with events := s.db.events ++ [event] } }

@[simp] theorem Stores.record_sessions (s : Stores) (event : AuditEvent) :
    (s.record event).sessions = s.sessions := rfl

def recordEvent (action targetType : String) (targetId : Option String) (outcome : Outcome)
    (ip : Option String) (metadata : List (String × Json)) : Endpoint Unit :=
  modify fun s => s.record (auditEvent actor action targetType targetId outcome ip metadata)

def setUser (id : UserId) (user : User) : Endpoint Unit :=
  modify fun s => { s with db := { s.db with users := s.db.users.insert id user } }

/-! ## `auth.py` -/

def logins (env : Env) : LoginAccess Endpoint where
  selectByUsername username := do
    let s ← get
    return Accounts.userByName s.db.lower s.db.users username
  selectTenant id := do
    let s ← get
    return (s.db.tenants.lookup id).map Tenant.status
  now := return env.now
  create id sessionVersion _ := do
    modify fun s => { s with sessions := s.sessions.insert env.drawn (id, sessionVersion) }
    return env.drawn
  flush id _ user := setUser id user
  recordFailed actor username ip :=
    recordEvent actor "auth.login.failed" "user" (actor.map fun actor => toString actor.1) .denied ip
      [("username", .text username)]
  recordLogin id user ip :=
    recordEvent (some (id, user)) "auth.login" "user" (some (toString id)) .success ip []

def login (env : Env) (username password : String) (ip : Option String) :
    Endpoint (Sid × UserId × User) :=
  Accounts.login (logins env) env.verifyPassword username password ip

/-! ## `users.py` -/

/-- The loop over the sessions of a user: the current one gets the new version, the others go. -/
def keepCurrent (id : UserId) (current : Sid) (version : Nat) (sessions : Table Sid (UserId × Nat)) :
    Table Sid (UserId × Nat) :=
  (sessions.pairs.filter fun e => e.2.1 = id).foldl
    (fun sessions e =>
      if e.1 = current then sessions.insert current (id, version) else sessions.erase e.1)
    sessions

def changeOwnPassword (env : Env) (id : UserId) (user : User) (currentSessionId : Sid)
    (currentPassword newPassword : String) (ip : Option String) : Endpoint Unit := do
  if env.verifyPassword currentPassword user.passwordHash = false then
    recordEvent (some (id, user)) "user.password.change_failed" "user" (some (toString id)) .denied
      ip []
    throw ⟨401, "Invalid credentials", []⟩
  else
    let user := { user with
      passwordHash := env.hashPassword newPassword, sessionVersion := user.sessionVersion + 1 }
    modify fun s =>
      { s with sessions := keepCurrent id currentSessionId user.sessionVersion s.sessions }
    setUser id user
    recordEvent (some (id, user)) "user.password.change" "user" (some (toString id)) .success ip []

/-! ## `services.py` -/

/-- What an actor may do is decided by role and tenant. -/
def Actor.scope (actor : Actor) : Option Allocations.Actor :=
  actor.map fun actor => ⟨actor.2.role, actor.2.tenantId⟩

def deleteService (id : ServiceId) (actor : Actor) (ip : Option String) : Endpoint Unit := do
  let s ← get
  let service ← orRaise ⟨404, "Service not found", []⟩ (s.db.services.lookup id)
  authorizeActorForTenant actor.scope service.tenantId
  if service.enabled then
    recordEvent actor "service.delete" "protected_service" (some (toString id)) .denied ip
      [("reason", .text "disable first"), ("dangerous", .flag true)]
    throw ⟨409, "Disable service first", []⟩
  else
    recordEvent actor "service.delete" "protected_service" (some (toString id)) .success ip
      [("dangerous", .flag true), ("tenant_id", .text (toString service.tenantId))]
    modify fun s => { s with db := { s.db with services := s.db.services.erase id } }

/-! ## `allocations.py` -/

def revocations (actor : Actor) (ip : Option String) : RevokeAccess Endpoint where
  selectAllocation id := do
    let s ← get
    return s.db.allocations.lookup id
  servicesInCidr cidr := do
    let s ← get
    return (s.db.services.entries.map fun e => e.2.toService).filter fun service =>
      cidr.contains service.cidrOrIp
  flush id revoked := modify fun s =>
    { s with db := { s.db with allocations := s.db.allocations.insert id revoked } }
  recordDenied id blockers :=
    recordEvent actor "allocation.revoke" "allocated_cidr" (some (toString id)) .denied ip
      [("blockers", .list (blockers.map .text))]
  recordRevoked id revoked :=
    recordEvent actor "allocation.revoke" "allocated_cidr" (some (toString id)) .success ip
      [("tenant_id", .text (toString revoked.tenantId)), ("cidr", .text revoked.cidr.text)]

def revoke (id : AllocationId) (actor : Actor) (ip : Option String) : Endpoint AllocatedCidr :=
  Allocations.revoke (revocations actor ip) id

/-! ## `tenants.py` -/

namespace Db

variable (db : Db) (id : TenantId)

def userCount : Nat := db.users.entries.countP fun e => e.2.tenantId = some id

def allocationCount : Nat :=
  db.allocations.entries.countP fun e => e.2.tenantId = id ∧ e.2.status ≠ .revoked

def deleteBlockers : List String :=
  (if db.userCount id = 0 then [] else ["users:" ++ toString (db.userCount id)]) ++
    if db.allocationCount id = 0 then []
    else ["allocations:" ++ toString (db.allocationCount id)]

/-- A foreign key with `ondelete="RESTRICT"` refers to the tenant. -/
def Restricted : Prop :=
  (∃ e ∈ db.users.entries, e.2.tenantId = some id) ∨
    (∃ e ∈ db.allocations.entries, e.2.tenantId = id) ∨
    ∃ e ∈ db.services.entries, e.2.tenantId = id

instance : Decidable (db.Restricted id) := inferInstanceAs (Decidable (_ ∨ _))

/-- The DELETE of the row; `none` is the violation of a foreign key. -/
def deleteRow : Option Db :=
  if db.Restricted id then none
  else
    let setNull (tenant : Option TenantId) := if tenant = some id then none else tenant
    some { db with
      tenants := db.tenants.erase id
      channels := db.channels.filterRows (· ≠ some id)
      billingUsages := db.billingUsages.mapRows setNull
      alerts := db.alerts.mapRows setNull }

end Db

def deleteTenant (id : TenantId) (actor : Actor) (ip : Option String) : Endpoint Unit := do
  let s ← get
  let tenant ← orRaise ⟨404, "Tenant not found", []⟩ (s.db.tenants.lookup id)
  let blockers := s.db.deleteBlockers id
  if blockers ≠ [] then
    recordEvent actor "tenant.delete" "tenant" (some (toString id)) .denied ip
      [("blockers", .list (blockers.map .text))]
    throw ⟨409, "Tenant has dependents", blockers⟩
  else
    recordEvent actor "tenant.delete" "tenant" (some (toString id)) .success ip
      [("name", .text tenant.name)]
    let s ← get
    let db ← orRaise internalServerError (s.db.deleteRow id)
    modify fun s => { s with db }

/-! ## Endpoints -/

def requireAdmin (principal : Principal) : Endpoint Unit :=
  if principal.role ≠ .admin then throw ⟨403, "Forbidden", []⟩ else return ()

def loadActor (db : Db) (principal : Principal) : Actor :=
  (db.users.lookup principal.userId).map fun user => (principal.userId, user)

/-- A service of another tenant is not found. -/
def loadServiceForPrincipal (db : Db) (id : ServiceId) (principal : Principal) :
    Option ProtectedService :=
  (db.services.lookup id).filter fun service =>
    (authorizeTenantResource principal (some service.tenantId)).isOk

/-- A request, and the principal of its session. -/
inductive Request where
  | login (username password : String)
  | changePassword (principal : Principal) (currentPassword newPassword : String)
  | deleteService (principal : Principal) (id : ServiceId)
  | revokeAllocation (principal : Principal) (id : AllocationId)
  | deleteTenant (principal : Principal) (id : TenantId)

inductive Reply where
  | principal (principal : Principal)
  | allocation (id : AllocationId) (allocation : AllocatedCidr)
  | noContent

/-- No endpoint passes the address of the client on. -/
def Request.endpoint (env : Env) : Request → Endpoint Reply
  | login username password => do
    let (sid, id, user) ← AuditTrail.login env username password none
    return .principal ⟨id, user.username, user.role, user.tenantId, sid⟩
  | changePassword principal currentPassword newPassword => do
    let s ← get
    let user ← orRaise ⟨401, "Not authenticated", []⟩ (s.db.users.lookup principal.userId)
    changeOwnPassword env principal.userId user principal.sessionId currentPassword newPassword none
    return .noContent
  | deleteService principal id => do
    let s ← get
    let _ ← orRaise ⟨404, "Service not found", []⟩ (loadServiceForPrincipal s.db id principal)
    AuditTrail.deleteService id (loadActor s.db principal) none
    return .noContent
  | revokeAllocation principal id => do
    requireAdmin principal
    let s ← get
    let allocation ← revoke id (loadActor s.db principal) none
    return .allocation id allocation
  | deleteTenant principal id => do
    requireAdmin principal
    let s ← get
    AuditTrail.deleteTenant id (loadActor s.db principal) none
    return .noContent

/-- What is stored when the endpoint is through, before the session is committed or rolled back. -/
def Request.session (env : Env) (s : Stores) (request : Request) : Stores :=
  (perform (request.endpoint env) s).2

def Request.after (env : Env) (s : Stores) (request : Request) : Stores :=
  (getDb (request.endpoint env) s).2

/-- The events that have come to the trail. -/
def newEvents (before after : Stores) : List AuditEvent :=
  after.db.events.drop before.db.events.length

/-! ## Which requests are denied -/

/-- An actor may act on what belongs to a tenant. -/
def MayAct (tenantId : TenantId) : Prop :=
  ∀ id user, actor = some (id, user) → user.role = .admin ∨ user.tenantId = some tenantId

/-- The request is turned down with an event: a login or a password that is wrong, or something to
delete that is in use. -/
def Request.Denied (env : Env) (s : Stores) : Request → Prop
  | login username password =>
    ∀ id user, Accounts.userByName s.db.lower s.db.users username = some (id, user) →
      env.verifyPassword password user.passwordHash = false ∨ user.status ≠ .active ∨
        TenantInactive user ((user.tenantId.bind s.db.tenants.lookup).map Tenant.status)
  | changePassword principal currentPassword _ =>
    ∃ user, s.db.users.lookup principal.userId = some user ∧
      env.verifyPassword currentPassword user.passwordHash = false
  | deleteService principal id =>
    ∃ service, loadServiceForPrincipal s.db id principal = some service ∧
      MayAct (loadActor s.db principal) service.tenantId ∧ service.enabled = true
  | revokeAllocation principal id =>
    principal.role = .admin ∧ ∃ allocation, s.db.allocations.lookup id = some allocation ∧
      allocation.status ≠ .revoked ∧
        ∃ e ∈ s.db.services.entries, allocation.cidr.contains e.2.cidrOrIp = true
  | deleteTenant principal id =>
    principal.role = .admin ∧ (∃ tenant, s.db.tenants.lookup id = some tenant) ∧
      ((∃ e ∈ s.db.users.entries, e.2.tenantId = some id) ∨
        ∃ e ∈ s.db.allocations.entries, e.2.tenantId = id ∧ e.2.status ≠ .revoked)

/-- An event about a denial has come to the trail. -/
def Denies (before after : Stores) : Prop :=
  ∃ event ∈ newEvents before after, event.outcome = .denied

/-- A function returns only if it is not to deny, and records a denial exactly if it is. -/
def Truthful {α : Type} (denied : Prop) (body : Endpoint α) (s : Stores) : Prop :=
  Ends body (fun _ s' => ¬denied ∧ ¬Denies s s') (fun _ s' => Denies s s' ↔ denied) s

section Trail

variable {env : Env} {s s' : Stores}

theorem newEvents_of_append {new : List AuditEvent} (grown : s'.db.events = s.db.events ++ new) :
    newEvents s s' = new := by
  rw [newEvents, grown, List.drop_left]

theorem not_denies_of_same (same : s'.db.events = s.db.events) : ¬Denies s s' := by
  have new : newEvents s s' = [] := newEvents_of_append (by rw [same, List.append_nil])
  simp [Denies, new]

@[simp] theorem not_denies_self : ¬Denies s s := not_denies_of_same rfl

theorem denies_iff_of_append {event : AuditEvent} (grown : s'.db.events = s.db.events ++ [event]) :
    Denies s s' ↔ event.outcome = .denied := by
  simp [Denies, newEvents_of_append grown]

variable {Raises : HttpError → Stores → Prop} {Returns : Unit → Stores → Prop} {ip : Option String}

@[simp] theorem ends_recordEvent {actor : Actor} {action targetType : String}
    {targetId : Option String} {outcome : Outcome} {metadata : List (String × Json)} :
    Ends (recordEvent actor action targetType targetId outcome ip metadata) Returns Raises s ↔
      Returns () (s.record (auditEvent actor action targetType targetId outcome ip metadata)) :=
  Iff.rfl

@[simp] theorem ends_setUser {id : UserId} {user : User} :
    Ends (setUser id user) Returns Raises s ↔
      Returns () { s with db := { s.db with users := s.db.users.insert id user } } :=
  Iff.rfl

variable {α : Type} {denied : Prop}

theorem Truthful.deny (holds : denied) (actor : Actor) (action targetType : String)
    (targetId : Option String) (ip : Option String) (metadata : List (String × Json))
    (e : HttpError) :
    Truthful denied
      (do
        recordEvent actor action targetType targetId .denied ip metadata
        throw e : Endpoint α) s := by
  simp only [Truthful, ends_bind, ends_recordEvent, ends_throw]
  rw [denies_iff_of_append rfl]
  exact ⟨fun _ => holds, fun _ => rfl⟩

theorem Truthful.refuse (fails : ¬denied) (e : HttpError) :
    Truthful denied (throw e : Endpoint α) s := by
  simp [Truthful, fails]

theorem truthful_get {next : Stores → Endpoint α} :
    Truthful denied (get >>= next) s ↔ Truthful denied (next s) s := by
  simp only [Truthful, ends_bind, ends_get]

/-- A query that changes nothing. -/
theorem Truthful.query {β : Type} {f : Stores → β} {next : β → Endpoint α}
    (rest : Truthful denied (next (f s)) s) :
    Truthful denied ((do let s ← get; return f s : Endpoint β) >>= next) s := by
  simpa only [Truthful, ends_bind, ends_get, ends_pure] using rest

theorem Truthful.orRaise {β : Type} {e : HttpError} {answer : Option β} {next : β → Endpoint α}
    (found : ∀ b, answer = some b → Truthful denied (next b) s)
    (missing : answer = none → ¬denied) :
    Truthful denied (RaiseState.orRaise e answer >>= next) s := by
  cases answer with
  | none => exact Truthful.refuse (missing rfl) e
  | some b => exact found b rfl

theorem Truthful.andReturn {β : Type} {body : Endpoint α} (truthful : Truthful denied body s)
    (reply : α → β) : Truthful denied (do return reply (← body)) s := by
  simpa only [Truthful, ends_bind, ends_pure] using truthful

theorem Truthful.requireAdmin {principal : Principal} {next : Unit → Endpoint α}
    (admin : principal.role = .admin → Truthful denied (next ()) s)
    (other : principal.role ≠ .admin → ¬denied) :
    Truthful denied (AuditTrail.requireAdmin principal >>= next) s := by
  unfold AuditTrail.requireAdmin
  split
  next forbidden => exact Truthful.refuse (other forbidden) _
  next allowed => exact admin (not_not.mp allowed)

theorem Truthful.authorizeActor {actor : Actor} {tenantId : TenantId} {next : Unit → Endpoint α}
    (may : MayAct actor tenantId → Truthful denied (next ()) s)
    (mayNot : ¬MayAct actor tenantId → ¬denied) :
    Truthful denied (authorizeActorForTenant actor.scope tenantId >>= next) s := by
  cases actor with
  | none => exact may nofun
  | some entry =>
    obtain ⟨id, user⟩ := entry
    have same : MayAct (some (id, user)) tenantId ↔
        user.role = .admin ∨ user.tenantId = some tenantId := by
      simp only [MayAct, Option.some.injEq, Prod.mk.injEq, and_imp, forall_eq',
        forall_apply_eq_imp_iff]
    rw [same] at may mayNot
    simp only [Actor.scope, Option.map_some, authorizeActorForTenant]
    split
    next allowed => exact may allowed
    next forbidden => exact Truthful.refuse (mayNot forbidden) _

/-! ## Each request -/

theorem truthful_failedLogin (holds : denied) (actor : Actor) (username : String)
    (ip : Option String) :
    Truthful denied (Accounts.failedLogin (logins env) actor username ip : Endpoint α) s :=
  Truthful.deny holds ..

theorem truthful_tenantOf {user : User} {next : Option TenantStatus → Endpoint α}
    (rest : Truthful denied
      (next ((user.tenantId.bind s.db.tenants.lookup).map Tenant.status)) s) :
    Truthful denied (Accounts.tenantOf (logins env).selectTenant user >>= next) s := by
  unfold Accounts.tenantOf
  cases own : user.tenantId with
  | none =>
    rw [own] at rest
    exact rest
  | some id =>
    rw [own] at rest
    exact Truthful.query rest

theorem truthful_login (username password : String) (ip : Option String) :
    Truthful ((Request.login username password).Denied env s) (login env username password ip) s := by
  rw [Request.Denied]
  refine Truthful.query ?_
  cases Accounts.userByName s.db.lower s.db.users username with
  | none => exact truthful_failedLogin (by simp) none username ip
  | some entry =>
    obtain ⟨id, user⟩ := entry
    simp only [Option.some.injEq, Prod.mk.injEq, and_imp, forall_eq', forall_apply_eq_imp_iff]
    refine truthful_tenantOf ?_
    -- the three checks, in order; each of them ends in the same failure
    split
    next wrong => exact truthful_failedLogin (.inl wrong) _ username ip
    next right =>
      split
      next disabled => exact truthful_failedLogin (.inr (.inl disabled)) _ username ip
      next active =>
        split
        next suspended => exact truthful_failedLogin (.inr (.inr suspended)) _ username ip
        next running =>
          simp only [Truthful, logins, ends_bind, ends_modify, ends_setUser, ends_recordEvent,
            ends_pure]
          rw [denies_iff_of_append rfl]
          exact ⟨not_or.mpr ⟨right, not_or.mpr ⟨active, running⟩⟩, by simp [auditEvent]⟩

theorem truthful_changeOwnPassword (id : UserId) (user : User) (current : Sid)
    (currentPassword newPassword : String) (ip : Option String) :
    Truthful (env.verifyPassword currentPassword user.passwordHash = false)
      (changeOwnPassword env id user current currentPassword newPassword ip) s := by
  unfold changeOwnPassword
  split
  next wrong => exact Truthful.deny wrong ..
  next right =>
    simp only [Truthful, ends_bind, ends_modify, ends_setUser, ends_recordEvent]
    rw [denies_iff_of_append rfl]
    simp [auditEvent, right]

theorem truthful_deleteService {service : ProtectedService} {id : ServiceId}
    (found : s.db.services.lookup id = some service) (actor : Actor) (ip : Option String) :
    Truthful (MayAct actor service.tenantId ∧ service.enabled = true) (deleteService id actor ip)
      s := by
  rw [deleteService, truthful_get, found]
  apply Truthful.authorizeActor
  · intro may
    dsimp only
    split
    next enabled => exact Truthful.deny ⟨may, enabled⟩ ..
    next disabled =>
      simp only [Truthful, ends_bind, ends_modify, ends_recordEvent]
      rw [denies_iff_of_append rfl]
      simp [auditEvent, disabled]
  · intro mayNot both
    exact mayNot both.1

theorem truthful_countAllocationDependents {allocation : AllocatedCidr} {actor : Actor}
    {next : List String → Endpoint α}
    (rest : ∀ blockers, (blockers ≠ [] ↔ ∃ e ∈ s.db.services.entries,
      allocation.cidr.contains e.2.cidrOrIp = true) → Truthful denied (next blockers) s) :
    Truthful denied
      (Allocations.countAllocationDependents (revocations actor ip) allocation >>= next) s := by
  simp only [Truthful, Allocations.countAllocationDependents, revocations, ends_bind, ends_get,
    ends_pure]
  exact rest _ (by simp)

theorem truthful_revoke (id : AllocationId) (actor : Actor) (ip : Option String) :
    Truthful (∃ allocation, s.db.allocations.lookup id = some allocation ∧
        allocation.status ≠ .revoked ∧
          ∃ e ∈ s.db.services.entries, allocation.cidr.contains e.2.cidrOrIp = true)
      (revoke id actor ip) s := by
  refine Truthful.query ?_
  cases s.db.allocations.lookup id with
  | none => exact Truthful.refuse (by simp) _
  | some allocation =>
    simp only [Option.some.injEq, exists_eq_left']
    split
    next revoked =>
      -- a second revocation returns the allocation and records nothing
      simp [Truthful, revoked]
    next active =>
      refine truthful_countAllocationDependents fun blockers used => ?_
      rw [← used]
      split
      next used => exact Truthful.deny ⟨active, used⟩ ..
      next free =>
        simp only [Truthful, revocations, ends_bind, ends_modify, ends_recordEvent, ends_pure]
        rw [denies_iff_of_append rfl]
        simp [auditEvent, free]

theorem deleteBlockers_ne_nil {db : Db} {id : TenantId} : db.deleteBlockers id ≠ [] ↔
    (∃ e ∈ db.users.entries, e.2.tenantId = some id) ∨
      ∃ e ∈ db.allocations.entries, e.2.tenantId = id ∧ e.2.status ≠ .revoked := by
  rw [Db.deleteBlockers, ne_eq, List.append_eq_nil_iff, not_and_or]
  simp [Db.userCount, Db.allocationCount, List.countP_eq_zero]

theorem truthful_deleteTenant (id : TenantId) (actor : Actor) (ip : Option String) :
    Truthful ((∃ tenant, s.db.tenants.lookup id = some tenant) ∧ s.db.deleteBlockers id ≠ [])
      (deleteTenant id actor ip) s := by
  rw [deleteTenant, truthful_get]
  apply Truthful.orRaise
  · intro tenant found
    dsimp only
    split
    next used => exact Truthful.deny ⟨⟨tenant, found⟩, used⟩ ..
    next free =>
      -- a foreign key may still be in the way; then the event that is lost is one of success
      simp only [Truthful, ends_bind, ends_get, ends_recordEvent, Db.deleteRow]
      split
      · simp only [orRaise, ends_throw]
        rw [denies_iff_of_append rfl]
        simp [auditEvent, free]
      · simp only [orRaise, ends_pure, ends_modify]
        rw [denies_iff_of_append rfl]
        simp [auditEvent, free]
  · rintro missing ⟨⟨tenant, found⟩, _⟩
    cases missing.symm.trans found

/-- Every endpoint records a denial exactly if the request is denied, and never returns then. -/
theorem truthful_endpoint (env : Env) (s : Stores) (request : Request) :
    Truthful (request.Denied env s) (request.endpoint env) s := by
  cases request with
  | login username password =>
    exact (truthful_login username password none).andReturn _
  | changePassword principal currentPassword newPassword =>
    simp only [Request.endpoint, truthful_get]
    apply Truthful.orRaise
    · intro user found
      simp only [Request.Denied, found, Option.some.injEq, exists_eq_left']
      exact (truthful_changeOwnPassword ..).andReturn _
    · rintro missing ⟨user, found, _⟩
      cases missing.symm.trans found
  | deleteService principal id =>
    simp only [Request.endpoint, truthful_get]
    apply Truthful.orRaise
    · intro service found
      simp only [Request.Denied, found, Option.some.injEq, exists_eq_left']
      -- the endpoint has found the service, so the function finds it again
      have row := (Option.filter_eq_some_iff.mp found).1
      exact (truthful_deleteService row _ none).andReturn _
    · rintro missing ⟨service, found, _⟩
      cases missing.symm.trans found
  | revokeAllocation principal id =>
    apply Truthful.requireAdmin
    · intro admin
      simp only [Request.Denied, truthful_get, admin, true_and]
      exact (truthful_revoke id _ none).andReturn _
    · intro other denied
      exact other denied.1
  | deleteTenant principal id =>
    apply Truthful.requireAdmin
    · intro admin
      simp only [Request.Denied, ← deleteBlockers_ne_nil, truthful_get, admin, true_and]
      exact (truthful_deleteTenant id _ none).andReturn _
    · intro other denied
      exact other denied.1

end Trail

/-- The denials that a request records are in the database after it exactly if there is none: the
error that goes with a denial takes the event away again. -/
theorem denials_committed_iff (env : Env) (s : Stores) (request : Request) :
    (∀ event ∈ newEvents s (request.session env s), event.outcome = .denied →
        event ∈ newEvents s (request.after env s)) ↔ ¬request.Denied env s := by
  have truthful := truthful_endpoint env s request
  unfold Request.session Request.after getDb
  unfold Truthful Ends at truthful
  match perform (request.endpoint env) s, truthful with
  | (.ok reply, s'), returned =>
    exact ⟨fun _ => returned.1, fun _ event member _ => member⟩
  | (.error e, s'), raised =>
    -- the error rolls the database back to what it was before the request
    have lost : newEvents s { s' with db := s.db } = [] :=
      newEvents_of_append (List.append_nil _).symm
    have recorded : Denies s s' ↔ request.Denied env s := raised
    rw [← recorded, Denies]
    simp [lost]

/-- An admin and a service that is enabled. -/
def oneService : Stores where
  db :=
    { lower := asciiLower
      users := Table.ofPairs [(1, ⟨none, .admin, "root", "secret", .active, 1, none⟩)]
      tenants := Table.ofPairs [(7, ⟨"acme", .active⟩)]
      services := Table.ofPairs [(3, ⟨⟨7, "web", .host 0x0A000001⟩, true⟩)]
      allocations := ∅
      channels := ∅
      billingUsages := ∅
      alerts := ∅
      events := [] }
  sessions := Table.ofPairs [(5, (1, 1))]

def plainEnv : Env := ⟨fun password => password, fun password hash => password == hash, 0, 6⟩

def deleteEnabled : Request := .deleteService ⟨1, "root", .admin, none, 5⟩ 3

/-- The refused deletion of the service is recorded in the session and not in the database. -/
theorem deleteEnabled_untraced :
    (∃ event ∈ newEvents oneService (deleteEnabled.session plainEnv oneService),
      event.action = "service.delete" ∧ event.targetId = some "3" ∧ event.outcome = .denied) ∧
    newEvents oneService (deleteEnabled.after plainEnv oneService) = [] := by
  constructor
  · refine ⟨_, List.mem_cons_self, rfl, rfl, rfl⟩
  · rfl

end ScrubbingGateway.Control.AuditTrail
