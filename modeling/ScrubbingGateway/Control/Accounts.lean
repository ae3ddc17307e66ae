import ScrubbingGateway.Control.Records
import ScrubbingGateway.Control.Sessions

/-!
# Users and their sessions

A request is a transaction of the database that also talks to the session store. A transaction reads
committed rows and its own; its UPDATE of a user row locks the row until it commits, and other
updates of the row wait. The object of the ORM is not read again when its UPDATE is sent.
-/

namespace ScrubbingGateway.Control.Accounts

open Prog
open Sessions (Sid UserId SessionData Redis Command StoreProg)

abbrev TenantId := Nat

inductive Role where
  | admin | tenantUser
deriving DecidableEq, Repr

inductive UserStatus where
  | active | disabled
deriving DecidableEq, Repr

inductive TenantStatus where
  | active | suspended
deriving DecidableEq, Repr

structure User where
  tenantId : Option TenantId
  role : Role
  username : String
  passwordHash : String
  status : UserStatus
  sessionVersion : Nat
  lastLoginAt : Option Nat
deriving DecidableEq, Repr

namespace User

/-- What an UPDATE makes of a row: it writes the columns in which the object differs from the row it
was loaded from. -/
def update (loaded user row : User) : User where
  tenantId := if user.tenantId = loaded.tenantId then row.tenantId else user.tenantId
  role := if user.role = loaded.role then row.role else user.role
  username := if user.username = loaded.username then row.username else user.username
  passwordHash :=
    if user.passwordHash = loaded.passwordHash then row.passwordHash else user.passwordHash
  status := if user.status = loaded.status then row.status else user.status
  sessionVersion :=
    if user.sessionVersion = loaded.sessionVersion then row.sessionVersion else user.sessionVersion
  lastLoginAt := if user.lastLoginAt = loaded.lastLoginAt then row.lastLoginAt else user.lastLoginAt

/-- The username an UPDATE writes. -/
def newUsername (loaded user : User) : Option String :=
  if user.username = loaded.username then none else some user.username

/-- A change of what a session stands for. -/
def Alters (user user' : User) : Prop :=
  user.tenantId ≠ user'.tenantId ∨ user.role ≠ user'.role ∨ user.passwordHash ≠ user'.passwordHash ∨
    user.status ≠ user'.status ∨ user.sessionVersion ≠ user'.sessionVersion

instance (user user' : User) : Decidable (user.Alters user') :=
  inferInstanceAs (Decidable (_ ∨ _))

end User

/-- An `HTTPException`, with what it names as in the way. -/
structure HttpError where
  statusCode : Nat
  detail : String
  blockers : List String
deriving DecidableEq, Repr

/-! ## The table of the users -/

def activeAdmin (user : User) : Bool := user.role == .admin && user.status == .active

/-- `username` is a CITEXT column: names are equal that are in `lower`, the function of the
database's collation. -/
def userByName (lower : String → String) (users : Table UserId User) (username : String) :
    Option (UserId × User) :=
  (users.entries.find? fun e => lower e.2.username = lower username).map fun e => (e.1, e.2)

theorem userByName_eq_some {lower : String → String} {users : Table UserId User} {username : String}
    {id : UserId} {user : User} (found : userByName lower users username = some (id, user)) :
    users.lookup id = some user ∧ lower user.username = lower username := by
  obtain ⟨e, first, ⟨⟩⟩ := Option.map_eq_some_iff.mp found
  exact ⟨AList.mem_lookup_iff.mpr (List.mem_of_find?_eq_some first),
    by simpa using List.find?_some first⟩

/-- The rows that the query of `_ensure_not_last_active_admin` finds. -/
def otherActiveAdmins (users : Table UserId User) (id : UserId) : List UserId :=
  (users.entries.filter fun e => activeAdmin e.2 && e.1 != id).map Sigma.fst

/-! ## `users.py` -/

/-- What the functions of `users.py` ask of the database and of the session store. -/
structure UserAccess (m : Type → Type) where
  selectUser : UserId → m (Option User)
  selectByUsername : String → m (Option (UserId × User))
  selectTenant : TenantId → m (Option TenantStatus)
  otherActiveAdmins : UserId → m (List UserId)
  revokeAll : UserId → m Unit
  /-- `db.flush` with one object that was loaded as another one. -/
  flush (id : UserId) (loaded user : User) : m Unit

section Users

variable {m : Type → Type} [Monad m] [MonadExceptOf HttpError m] (db : UserAccess m)

/-- `_get_existing_user`: `db.get` does not ask the database for an object the session holds. -/
def getExistingUser (held : Option User) (id : UserId) : m User :=
  match held with
  | some user => return user
  | none => do
    match ← db.selectUser id with
    | some user => return user
    | none => throw ⟨404, "User not found", []⟩

def validateRoleTenant (role : Role) (tenantId : Option TenantId) : m Unit :=
  match role, tenantId with
  | .admin, some _ => throw ⟨422, "Invalid role scope", []⟩
  | .admin, none => return ()
  | .tenantUser, none => throw ⟨422, "Invalid role scope", []⟩
  | .tenantUser, some id => do
    if (← db.selectTenant id).isNone then throw ⟨422, "Invalid role scope", []⟩

def ensureUniqueUsername (username : String) (excludeUserId : Option UserId) : m Unit := do
  match ← db.selectByUsername username with
  | some (id, _) =>
    if some id ≠ excludeUserId then throw ⟨409, "Username already exists", []⟩
  | none => return ()

variable (id : UserId) (user : User)

/-- `_ensure_not_last_active_admin`: `scalar_one_or_none` raises when there are several other admins,
and nobody catches that. -/
def ensureNotLastActiveAdmin : m Unit :=
  if activeAdmin user then do
    match ← db.otherActiveAdmins id with
    | [] => throw ⟨409, "Cannot remove last admin", []⟩
    | [_] => return ()
    | _ => throw ⟨500, "Internal Server Error", []⟩
  else return ()

def bumpVersionAndRevoke : m User := do
  db.revokeAll id
  return { user with sessionVersion := user.sessionVersion + 1 }

/-- The part of `update_user` about the username. -/
def rename : Option String → m User
  | none => return user
  | some username =>
    if username ≠ user.username then do
      ensureUniqueUsername db username (some id)
      return { user with username }
    else return user

/-- The part of `update_user` about the role and the tenant. -/
def rescope (role : Role) (tenantId : Option TenantId) : m User :=
  if role ≠ user.role ∨ tenantId ≠ user.tenantId then do
    if user.role = .admin ∧ role ≠ .admin then ensureNotLastActiveAdmin db id user
    bumpVersionAndRevoke db id { user with role, tenantId }
  else return user

/-- The tenant of a user after `update_user`. -/
def newTenantId (role : Option Role) (tenantId : Option TenantId) : Option TenantId :=
  if role.isSome ∨ tenantId.isSome then tenantId else user.tenantId

def updateUser (username : Option String) (role : Option Role) (tenantId : Option TenantId) :
    m User := do
  let loaded ← getExistingUser db none id
  validateRoleTenant db (role.getD loaded.role) (newTenantId loaded role tenantId)
  let user ← rename db id loaded username
  let user ← rescope db id user (role.getD loaded.role) (newTenantId loaded role tenantId)
  db.flush id loaded user
  return user

/-- The part of `set_status` about the status. -/
def restatus (status : UserStatus) : m User :=
  if user.status ≠ status then bumpVersionAndRevoke db id { user with status } else return user

def setStatus (held : Option User) (id : UserId) (status : UserStatus) : m User := do
  let loaded ← getExistingUser db held id
  if status = .disabled then ensureNotLastActiveAdmin db id loaded
  let user ← restatus db id loaded status
  db.flush id loaded user
  return user

def resetPassword (hashPassword : String → String) (id : UserId) (newPassword : String) :
    m User := do
  let loaded ← getExistingUser db none id
  let user ← bumpVersionAndRevoke db id { loaded with passwordHash := hashPassword newPassword }
  db.flush id loaded user
  return user

end Users

/-! ## `login` -/

/-- What `login` asks of the database and of the session store, and the events it records. -/
structure LoginAccess (m : Type → Type) where
  selectByUsername : String → m (Option (UserId × User))
  selectTenant : TenantId → m (Option TenantStatus)
  now : m Nat
  create (id : UserId) (sessionVersion : Nat) (ip : Option String) : m Sid
  flush (id : UserId) (loaded user : User) : m Unit
  recordFailed (actor : Option (UserId × User)) (username : String) (ip : Option String) : m Unit
  recordLogin (id : UserId) (user : User) (ip : Option String) : m Unit

section Login

variable {m : Type → Type} [Monad m] [MonadExceptOf HttpError m]

def tenantOf (selectTenant : TenantId → m (Option TenantStatus)) (user : User) :
    m (Option TenantStatus) :=
  match user.tenantId with
  | some id => selectTenant id
  | none => return none

/-- A user of a tenant that is missing or suspended. -/
def TenantInactive (user : User) (tenant : Option TenantStatus) : Prop :=
  user.role = .tenantUser ∧ tenant ≠ some .active

instance (user : User) (tenant : Option TenantStatus) : Decidable (TenantInactive user tenant) :=
  inferInstanceAs (Decidable (_ ∧ _))

variable (access : LoginAccess m)

def failedLogin {α : Type} (actor : Option (UserId × User)) (username : String)
    (ip : Option String) : m α := do
  access.recordFailed actor username ip
  throw ⟨401, "Invalid credentials", []⟩

def login (verifyPassword : String → String → Bool) (username password : String)
    (ip : Option String) : m (Sid × UserId × User) := do
  match ← access.selectByUsername username with
  | none => failedLogin access none username ip
  | some (id, user) =>
    let tenant ← tenantOf access.selectTenant user
    if verifyPassword password user.passwordHash = false then
      failedLogin access (some (id, user)) username ip
    else if user.status ≠ .active then failedLogin access (some (id, user)) username ip
    else if TenantInactive user tenant then failedLogin access (some (id, user)) username ip
    else
      let lastLoginAt := some (← access.now)
      let sid ← access.create id user.sessionVersion ip
      access.flush id user { user with lastLoginAt }
      access.recordLogin id { user with lastLoginAt } ip
      return (sid, id, { user with lastLoginAt })

end Login

/-! ## The database and Redis -/

inductive Call where
  | redis (c : Command)
  | newSessionId
  | selectUser (id : UserId)
  | selectByUsername (username : String)
  | selectTenant (id : TenantId)
  | otherActiveAdmins (id : UserId)
  /-- The UPDATE of an object that was loaded as another one. -/
  | flush (id : UserId) (loaded user : User)
  | commit
  | rollback

def Call.Answer : Call → Type
  | redis c => c.Answer
  | newSessionId => Sid
  | selectUser _ => Option User
  | selectByUsername _ => Option (UserId × User)
  | selectTenant _ => Option TenantStatus
  | otherActiveAdmins _ => List UserId
  | flush .. => Bool
  | commit | rollback => Unit

structure State where
  /-- `lower` in the collation of the database. -/
  lower : String → String
  redis : Redis
  users : Table UserId User
  tenants : Table TenantId TenantStatus
  /-- The row that a transaction has written and not committed. -/
  flushed : Table Nat (UserId × User)
  /-- The transactions that drew the session ids, which are numbered in their order. -/
  drawn : List Nat
  /-- The sessions that were written so far, with their user and version. -/
  written : List (Sid × UserId × Nat)
  /-- The sessions that were there when a change of their user was committed. -/
  cut : List Sid

namespace State

variable (s : State)

/-- The row as a transaction sees it. -/
def rowFor (i : Nat) (id : UserId) : Option User :=
  match s.flushed.lookup i with
  | some (id', row) => if id' = id then some row else s.users.lookup id
  | none => s.users.lookup id

/-- Another transaction holds the row, or has written a row with the new username. -/
def Waits (i : Nat) (id : UserId) (username : Option String) : Prop :=
  ∃ e ∈ s.flushed.entries, e.1 ≠ i ∧
    (e.2.1 = id ∨ username.map s.lower = some (s.lower e.2.2.username))

instance (s : State) (i : Nat) (id : UserId) (username : Option String) :
    Decidable (s.Waits i id username) :=
  inferInstanceAs (Decidable (∃ e ∈ s.flushed.entries, _))

/-- Another row has the new username. -/
def Taken (id : UserId) (username : Option String) : Prop :=
  ∃ e ∈ s.users.entries, e.1 ≠ id ∧ username.map s.lower = some (s.lower e.2.username)

instance (s : State) (id : UserId) (username : Option String) : Decidable (s.Taken id username) :=
  inferInstanceAs (Decidable (∃ e ∈ s.users.entries, _))

def flush (i : Nat) (id : UserId) (loaded user : User) : Option (Bool × State) :=
  if user = loaded then some (true, s)
  else
    match s.rowFor i id with
    | none => some (false, s)
    | some row =>
      if s.Waits i id (loaded.newUsername user) then none
      else if s.Taken id (loaded.newUsername user) then some (false, s)
      else some (true, { s with flushed := s.flushed.insert i (id, loaded.update user row) })

def sessionsOf (id : UserId) : List Sid :=
  (s.written.filter fun e => e.2.1 = id).map Prod.fst

def commit (i : Nat) : State :=
  match s.flushed.lookup i with
  | none => s
  | some (id, row) =>
    { s with
      users := s.users.insert id row
      flushed := s.flushed.erase i
      cut := s.cut ++
        if ∃ old, s.users.lookup id = some old ∧ old.Alters row then s.sessionsOf id else [] }

def rollback (i : Nat) : State :=
  { s with flushed := s.flushed.erase i }

/-- The sessions a command writes. -/
def writtenBy : Command → List (Sid × UserId × Nat)
  | .set sid session _ => [(sid, session.userId, session.sessionVersion)]
  | _ => []

def exec (i : Nat) : (c : Call) → State → Option (c.Answer × State)
  | .redis c, s =>
    some ((Redis.exec c s.redis).1,
      { s with redis := (Redis.exec c s.redis).2, written := s.written ++ writtenBy c })
  | .newSessionId, s => some (s.drawn.length, { s with drawn := s.drawn ++ [i] })
  | .selectUser id, s => some (s.rowFor i id, s)
  | .selectByUsername username, s => some (userByName s.lower s.users username, s)
  | .selectTenant id, s => some (s.tenants.lookup id, s)
  | .otherActiveAdmins id, s => some (Accounts.otherActiveAdmins s.users id, s)
  | .flush id loaded user, s => s.flush i id loaded user
  | .commit, s => some ((), s.commit i)
  | .rollback, s => some ((), s.rollback i)

end State

def accounts : Shared State Call Call.Answer where
  exec := State.exec

/-! ## Requests -/

/-- A request ends with an answer or with an `HTTPException`. -/
abbrev Request (α : Type) : Type := ExceptT HttpError (Prog Call Call.Answer) α

def ask (c : Call) : Request c.Answer := Prog.ask c

/-- A method of the session store. -/
def store {α : Type} : StoreProg α → Request α
  | .ret a => Prog.ret (.ok a)
  | .fail => Prog.fail
  | .unfinished => Prog.unfinished
  | .call c next => Prog.call (.redis c) fun answer => store (next answer)

def getDb {α : Type} (body : Request α) : Request α := transaction .commit .rollback body

/-- `verify_password` and `hash_password` are those of a library. -/
structure Env where
  settings : Sessions.Settings
  hashPassword : String → String
  verifyPassword : String → String → Bool

def flush (id : UserId) (loaded user : User) : Request Unit := do
  let done : Bool ← ask (.flush id loaded user)
  if done = false then throw ⟨500, "Internal Server Error", []⟩

def users : UserAccess Request where
  selectUser id := ask (.selectUser id)
  selectByUsername username := ask (.selectByUsername username)
  selectTenant id := ask (.selectTenant id)
  otherActiveAdmins id := ask (.otherActiveAdmins id)
  revokeAll id := store (Sessions.revokeAll id)
  flush := flush

/-- The audit events are left out. -/
def logins (settings : Sessions.Settings) : LoginAccess Request where
  selectByUsername username := ask (.selectByUsername username)
  selectTenant id := ask (.selectTenant id)
  now := ask (.redis .now)
  create id sessionVersion ip := do
    let drawn : Sid ← ask .newSessionId
    store (Sessions.create settings drawn id sessionVersion ip)
  flush := flush
  recordFailed _ _ _ := return ()
  recordLogin _ _ _ := return ()

structure Principal where
  userId : UserId
  username : String
  role : Role
  tenantId : Option TenantId
  sessionId : Sid
deriving DecidableEq, Repr

def resolveCurrentUser (env : Env) (sid : Sid) : Request Principal := do
  let session ← store (Sessions.get env.settings sid)
  match session with
  | none => throw ⟨401, "Not authenticated", []⟩
  | some session =>
    let found : Option User ← ask (.selectUser session.userId)
    match found with
    | none => throw ⟨401, "Not authenticated", []⟩
    | some user =>
      let tenant ← tenantOf users.selectTenant user
      if user.status ≠ .active ∨ user.sessionVersion ≠ session.sessionVersion ∨
          TenantInactive user tenant then
        throw ⟨401, "Not authenticated", []⟩
      return ⟨session.userId, user.username, user.role, user.tenantId, sid⟩

inductive Op where
  | login (username password : String) (ip : Option String)
  /-- The PATCH endpoint: `update_user`, and `set_status` when a status is given. -/
  | patch (id : UserId) (username : Option String) (role : Option Role)
      (tenantId : Option TenantId) (status : Option UserStatus)
  | resetPassword (id : UserId) (newPassword : String)
  | resolve (sid : Sid)

inductive Reply where
  | session (sid : Sid)
  | user (user : User)
  | principal (principal : Principal)

def Op.prog (env : Env) : Op → Request Reply
  | login username password ip => do
    let (sid, _) ← getDb
      (Accounts.login (logins env.settings) env.verifyPassword username password ip)
    return .session sid
  | patch id username role tenantId status => do
    return .user (← getDb do
      let user ← updateUser users id username role tenantId
      match status with
      | some status => setStatus users (some user) id status
      | none => return user)
  | resetPassword id newPassword => do
    return .user (← getDb (Accounts.resetPassword users env.hashPassword id newPassword))
  | resolve sid => do
    return .principal (← resolveCurrentUser env sid)

/-! ## Requests side by side -/

/-- A request, and the sessions that were to be cut off when it started. -/
structure Started where
  op : Op
  cut : List Sid

abbrev World : Type := Pool State Started Call Call.Answer (Except HttpError Reply)

inductive Label where
  | start (op : Op)
  | turn (i : Nat)
  /-- A request is given up and its transaction rolled back. -/
  | abort (i : Nat)
  | tick (seconds : Nat)

namespace World

def step (env : Env) (p : World) : Label → Option World
  | .start op => some (p.start ⟨⟨op, p.state.cut⟩, op.prog env⟩)
  | .turn i => p.turn accounts i
  | .abort i =>
    match p.threads[i]? with
    | some ⟨tag, .call _ _⟩ => some ⟨p.state.rollback i, p.threads.set i ⟨tag, .fail⟩⟩
    | _ => none
  | .tick seconds =>
    let redis := { p.state.redis with clock := p.state.redis.clock + seconds }
    some { p with state := { p.state with redis } }

/-- Nobody has logged in yet. -/
def initial (lower : String → String) (clock : Nat) (users : Table UserId User)
    (tenants : Table TenantId TenantStatus) : World where
  state :=
    { lower, redis := ⟨clock, ∅, ∅⟩, users, tenants, flushed := ∅, drawn := [], written := [],
      cut := [] }
  threads := []

end World

end ScrubbingGateway.Control.Accounts
