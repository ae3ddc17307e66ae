import ScrubbingGateway.Control.Accounts
import ScrubbingGateway.Lib.Raise

/-!
# The last admin

The requests of `users.py` one after another: each is a transaction of its own that sees what the
ones before it have committed, and that changes nothing if it raises. Every request that could take
the last active admin away asks for another one first.
-/

namespace ScrubbingGateway.Control.LastAdmin

open Sessions (UserId)
open Accounts (TenantId Role UserStatus TenantStatus User HttpError UserAccess activeAdmin newTenantId)

structure Directory where
  /-- `lower` in the collation of the database. -/
  lower : String → String
  users : Table UserId User
  tenants : Table TenantId TenantStatus

namespace Directory

variable (d : Directory)

/-- What a request reads; the row it writes is in the directory it leaves. -/
def access : UserAccess (Except HttpError) where
  selectUser id := .ok (d.users.lookup id)
  selectByUsername username := .ok (Accounts.userByName d.lower d.users username)
  selectTenant id := .ok (d.tenants.lookup id)
  otherActiveAdmins id := .ok (Accounts.otherActiveAdmins d.users id)
  revokeAll _ := .ok ()
  flush _ _ _ := .ok ()

def ensureNotLastActiveAdmin (id : UserId) (user : User) : Except HttpError Unit :=
  Accounts.ensureNotLastActiveAdmin d.access id user

def withUser (id : UserId) (user : User) : Directory := { d with users := d.users.insert id user }

/-- The new user gets an id that no user has. -/
def createUser (hash : String → String) (id : UserId) (username password : String) (role : Role)
    (tenantId : Option TenantId) : Except HttpError Directory := do
  Accounts.validateRoleTenant d.access role tenantId
  Accounts.ensureUniqueUsername d.access username none
  if (d.users.lookup id).isSome then throw ⟨500, "Internal Server Error", []⟩
  return d.withUser id
    { tenantId, role, username, passwordHash := hash password, status := .active,
      sessionVersion := 1, lastLoginAt := none }

def updateUser (id : UserId) (username : Option String) (role : Option Role)
    (tenantId : Option TenantId) : Except HttpError Directory := do
  return d.withUser id (← Accounts.updateUser d.access id username role tenantId)

def setStatus (id : UserId) (status : UserStatus) : Except HttpError Directory := do
  return d.withUser id (← Accounts.setStatus d.access none id status)

def deleteUser (id : UserId) : Except HttpError Directory := do
  let user ← Accounts.getExistingUser d.access none id
  d.ensureNotLastActiveAdmin id user
  return { d with users := d.users.erase id }

end Directory

/-! ## Requests -/

inductive Operation where
  | create (id : UserId) (username password : String) (role : Role) (tenantId : Option TenantId)
  | update (id : UserId) (username : Option String) (role : Option Role) (tenantId : Option TenantId)
  | setStatus (id : UserId) (status : UserStatus)
  | delete (id : UserId)
  /-- The endpoint that updates a user and sets the status in one transaction. -/
  | patch (id : UserId) (username : Option String) (role : Option Role)
      (tenantId : Option TenantId) (status : Option UserStatus)

def Operation.perform (hash : String → String) (d : Directory) :
    Operation → Except HttpError Directory
  | create id username password role tenantId => d.createUser hash id username password role tenantId
  | update id username role tenantId => d.updateUser id username role tenantId
  | setStatus id status => d.setStatus id status
  | delete id => d.deleteUser id
  | patch id username role tenantId status => do
    let d ← d.updateUser id username role tenantId
    match status with
    | some status => d.setStatus id status
    | none => return d

def Operation.commit (hash : String → String) (d : Directory) (op : Operation) : Directory :=
  (op.perform hash d).toOption.getD d

/-- The directory after requests, one after another. -/
def Directory.after (hash : String → String) (d : Directory) (ops : List Operation) : Directory :=
  ops.foldl (Operation.commit hash) d

def Directory.Refuses (hash : String → String) (d : Directory) (op : Operation) : Prop :=
  ∃ e, op.perform hash d = .error e

/-! ## The guard -/

/-- Somebody else who is an active admin. -/
def Directory.OtherAdmin (d : Directory) (id other : UserId) : Prop :=
  other ≠ id ∧ ∃ user, d.users.lookup other = some user ∧ activeAdmin user = true

section Guard

variable {d d' : Directory} {id : UserId} {user user' : User}

theorem mem_otherActiveAdmins {other : UserId} :
    other ∈ Accounts.otherActiveAdmins d.users id ↔ d.OtherAdmin id other := by
  simp only [Accounts.otherActiveAdmins, List.mem_map, List.mem_filter, Bool.and_eq_true,
    bne_iff_ne, Directory.OtherAdmin]
  constructor
  · rintro ⟨⟨_, user⟩, ⟨member, admin, other⟩, rfl⟩
    exact ⟨other, user, AList.mem_lookup_iff.mpr member, admin⟩
  · rintro ⟨different, user, found, admin⟩
    exact ⟨⟨other, user⟩, ⟨AList.mem_lookup_iff.mp found, admin, different⟩, rfl⟩

theorem nodup_otherActiveAdmins (d : Directory) (id : UserId) :
    (Accounts.otherActiveAdmins d.users id).Nodup :=
  (List.filter_sublist.map Sigma.fst).nodup d.users.nodupKeys

theorem ensureNotLastActiveAdmin_of_not (other : activeAdmin user = false) :
    d.ensureNotLastActiveAdmin id user = .ok () := by
  rw [Directory.ensureNotLastActiveAdmin, Accounts.ensureNotLastActiveAdmin, if_neg (by simp [other])]
  rfl

theorem ensureNotLastActiveAdmin_congr (same : activeAdmin user = activeAdmin user') :
    d.ensureNotLastActiveAdmin id user = d.ensureNotLastActiveAdmin id user' := by
  simp only [Directory.ensureNotLastActiveAdmin, Accounts.ensureNotLastActiveAdmin, same]

/-- The guard lets an active admin go when there is exactly one other. -/
theorem ensureNotLastActiveAdmin_eq_ok (admin : activeAdmin user = true) :
    d.ensureNotLastActiveAdmin id user = .ok () ↔ ∃! other, d.OtherAdmin id other := by
  rw [Directory.ensureNotLastActiveAdmin, Accounts.ensureNotLastActiveAdmin, if_pos admin]
  simp only [← mem_otherActiveAdmins, Directory.access, bind, Except.bind]
  have distinct := nodup_otherActiveAdmins d id
  -- the ids are distinct, so two of them are two admins
  match Accounts.otherActiveAdmins d.users id, distinct with
  | [], _ => simp [throw, throwThe, MonadExceptOf.throw]
  | [other], _ => simp [pure, Except.pure]
  | first :: second :: rest, distinct =>
    constructor
    · nofun
    · rintro ⟨other, _, only⟩
      have same : first = second := (only first (by simp)).trans (only second (by simp)).symm
      simp [same] at distinct

end Guard

/-! ## What a request that succeeds has done -/

variable {tenantId : Option TenantId} {hash : String → String} {password : String}
  {username : Option String} {role : Option Role}

section Spec

variable {d d' : Directory} {id : UserId} {user user' : User}

@[simp] theorem lookup_withUser (other : UserId) :
    (d.withUser id user).users.lookup other =
      if other = id then some user else d.users.lookup other :=
  Table.lookup_insert_ite d.users id other user

theorem getExistingUser_eq_ok :
    Accounts.getExistingUser d.access none id = .ok user ↔ d.users.lookup id = some user := by
  simp only [Accounts.getExistingUser, Directory.access, bind, Except.bind]
  cases d.users.lookup id <;> simp [pure, Except.pure, throw, throwThe, MonadExceptOf.throw]

theorem createUser_eq_ok {username : String} {role : Role}
    (done : d.createUser hash id username password role tenantId = .ok d') :
    d.users.lookup id = none ∧ ∃ user, d' = d.withUser id user := by
  obtain ⟨_, _, done⟩ := Raise.bind_eq_ok.mp done
  obtain ⟨_, _, done⟩ := Raise.bind_eq_ok.mp done
  obtain ⟨fresh, ⟨⟩⟩ := Raise.ite_error_eq_ok.mp done
  exact ⟨Option.not_isSome_iff_eq_none.mp fresh, _, rfl⟩

theorem rename_eq_ok (done : Accounts.rename d.access id user username = .ok user') :
    user'.role = user.role ∧ user'.status = user.status := by
  cases username with
  | none =>
    cases done
    exact ⟨rfl, rfl⟩
  | some username =>
    simp only [Accounts.rename] at done
    split at done
    · obtain ⟨_, _, ⟨⟩⟩ := Raise.bind_eq_ok.mp done
      exact ⟨rfl, rfl⟩
    · cases done
      exact ⟨rfl, rfl⟩

theorem rescope_eq_ok {role : Role}
    (done : Accounts.rescope d.access id user role tenantId = .ok user') :
    user'.role = role ∧ user'.status = user.status ∧
      (user.role = .admin → role ≠ .admin → d.ensureNotLastActiveAdmin id user = .ok ()) := by
  unfold Accounts.rescope at done
  split at done
  · obtain ⟨passed, ⟨⟩⟩ := Raise.when_eq_ok.mp done
    exact ⟨rfl, rfl, fun admin other => passed ⟨admin, other⟩⟩
  next same =>
    cases done
    rw [not_or, not_not] at same
    exact ⟨same.1.symm, rfl, fun admin other => absurd (same.1.trans admin) other⟩

theorem activeAdmin_congr (role : user'.role = user.role) (status : user'.status = user.status) :
    activeAdmin user' = activeAdmin user := by
  rw [activeAdmin, activeAdmin, role, status]

theorem updateUser_eq_ok (done : d.updateUser id username role tenantId = .ok d') :
    ∃ user user', d.users.lookup id = some user ∧ d' = d.withUser id user' ∧
      user'.status = user.status ∧ user'.role = role.getD user.role ∧
      (user.role = .admin → user'.role ≠ .admin → d.ensureNotLastActiveAdmin id user = .ok ()) := by
  obtain ⟨user', updated, ⟨⟩⟩ := Raise.bind_eq_ok.mp done
  obtain ⟨user, found, done⟩ := Raise.bind_eq_ok.mp updated
  obtain ⟨_, _, done⟩ := Raise.bind_eq_ok.mp done
  obtain ⟨renamed, named, done⟩ := Raise.bind_eq_ok.mp done
  obtain ⟨_, moved, ⟨⟩⟩ := Raise.bind_eq_ok.mp done
  -- the guard sees the renamed user, who is an active admin exactly if the stored one is
  obtain ⟨sameRole, sameStatus⟩ := rename_eq_ok named
  obtain ⟨newRole, keptStatus, guarded⟩ := rescope_eq_ok moved
  refine ⟨user, user', getExistingUser_eq_ok.mp found, rfl, keptStatus.trans sameStatus, newRole, ?_⟩
  intro admin demoted
  rw [← ensureNotLastActiveAdmin_congr (activeAdmin_congr sameRole sameStatus)]
  exact guarded (sameRole.trans admin) (newRole ▸ demoted)

theorem restatus_ok (d : Directory) (id : UserId) (user : User) (status : UserStatus) :
    ∃ user', Accounts.restatus d.access id user status = .ok user' ∧ user'.role = user.role ∧
      user'.status = status := by
  unfold Accounts.restatus
  split
  · exact ⟨_, rfl, rfl, rfl⟩
  next same => exact ⟨user, rfl, rfl, not_not.mp same⟩

theorem setStatus_eq_ok {status : UserStatus} : d.setStatus id status = .ok d' ↔
    ∃ user user', d.users.lookup id = some user ∧
      (status = .disabled → d.ensureNotLastActiveAdmin id user = .ok ()) ∧
      Accounts.restatus d.access id user status = .ok user' ∧ d' = d.withUser id user' := by
  constructor
  · intro done
    obtain ⟨user', updated, ⟨⟩⟩ := Raise.bind_eq_ok.mp done
    obtain ⟨user, found, done⟩ := Raise.bind_eq_ok.mp updated
    obtain ⟨passed, done⟩ := Raise.when_eq_ok.mp done
    obtain ⟨_, changed, ⟨⟩⟩ := Raise.bind_eq_ok.mp done
    exact ⟨user, user', getExistingUser_eq_ok.mp found, passed, changed, rfl⟩
  · rintro ⟨user, user', found, passed, changed, rfl⟩
    refine Raise.bind_eq_ok.mpr ⟨user', ?_, rfl⟩
    refine Raise.bind_eq_ok.mpr ⟨user, getExistingUser_eq_ok.mpr found, ?_⟩
    exact Raise.when_eq_ok.mpr ⟨passed, Raise.bind_eq_ok.mpr ⟨user', changed, rfl⟩⟩

theorem deleteUser_eq_ok : d.deleteUser id = .ok d' ↔
    ∃ user, d.users.lookup id = some user ∧ d.ensureNotLastActiveAdmin id user = .ok () ∧
      { d with users := d.users.erase id } = d' := by
  simp [Directory.deleteUser, Raise.bind_eq_ok, getExistingUser_eq_ok, Unique.exists_iff,
    pure, Except.pure]

end Spec

/-! ## An active admin remains -/

def HasActiveAdmin (d : Directory) : Prop :=
  ∃ id user, d.users.lookup id = some user ∧ activeAdmin user = true

variable {op : Operation}

section Remains

variable {d d' : Directory} {id : UserId} {user user' : User}

/-- Where a request changes one user only, an admin remains if that user stays an active admin or
there is another one. -/
theorem HasActiveAdmin.of_elsewhere (present : HasActiveAdmin d)
    (id : UserId) (elsewhere : ∀ other, other ≠ id → d'.users.lookup other = d.users.lookup other)
    (guarded : ∀ user, d.users.lookup id = some user → activeAdmin user = true →
      HasActiveAdmin d' ∨ ∃ other, d.OtherAdmin id other) : HasActiveAdmin d' := by
  have survives {other : UserId} (there : d.OtherAdmin id other) : HasActiveAdmin d' := by
    obtain ⟨different, user, found, admin⟩ := there
    exact ⟨other, user, (elsewhere other different).trans found, admin⟩
  obtain ⟨admin, user, found, active⟩ := present
  -- the admin there was is the user the request is about, or is left alone
  by_cases same : admin = id
  · subst same
    rcases guarded user found active with done | ⟨other, there⟩
    · exact done
    · exact survives there
  · exact survives ⟨same, user, found, active⟩

/-- A row is written: its user stays an active admin, was none, or has passed the guard. -/
theorem HasActiveAdmin.withUser (present : HasActiveAdmin d) (found : d.users.lookup id = some user)
    (guarded : activeAdmin user = true → activeAdmin user' = true ∨
      d.ensureNotLastActiveAdmin id user = .ok ()) : HasActiveAdmin (d.withUser id user') := by
  apply present.of_elsewhere id
  · intro other different
    rw [lookup_withUser, if_neg different]
  · intro row foundRow admin
    cases found.symm.trans foundRow
    rcases guarded admin with kept | passed
    · exact .inl ⟨id, user', by simp, kept⟩
    · exact .inr ((ensureNotLastActiveAdmin_eq_ok admin).mp passed).exists

variable {hash : String → String}

theorem HasActiveAdmin.createUser {username : String} {role : Role} (present : HasActiveAdmin d)
    (done : d.createUser hash id username password role tenantId = .ok d') : HasActiveAdmin d' := by
  obtain ⟨fresh, user, rfl⟩ := createUser_eq_ok done
  obtain ⟨admin, row, found, active⟩ := present
  have different : admin ≠ id := by
    rintro rfl
    cases fresh.symm.trans found
  exact ⟨admin, row, by rw [lookup_withUser, if_neg different, found], active⟩

theorem activeAdmin_iff : activeAdmin user = true ↔ user.role = .admin ∧ user.status = .active := by
  simp [activeAdmin]

variable (present : HasActiveAdmin d)
include present

theorem HasActiveAdmin.updateUser (done : d.updateUser id username role tenantId = .ok d') :
    HasActiveAdmin d' := by
  obtain ⟨user, user', found, rfl, status, _, guarded⟩ := updateUser_eq_ok done
  apply present.withUser found
  intro active
  obtain ⟨admin, on⟩ := activeAdmin_iff.mp active
  by_cases kept : user'.role = .admin
  · exact .inl (activeAdmin_iff.mpr ⟨kept, status.trans on⟩)
  · exact .inr (guarded admin kept)

theorem HasActiveAdmin.setStatus {status : UserStatus} (done : d.setStatus id status = .ok d') :
    HasActiveAdmin d' := by
  obtain ⟨user, user', found, guarded, changed, rfl⟩ := setStatus_eq_ok.mp done
  apply present.withUser found
  intro active
  cases status with
  | active =>
    obtain ⟨_, same, role, on⟩ := restatus_ok d id user .active
    cases same.symm.trans changed
    exact .inl (activeAdmin_iff.mpr ⟨role.trans (activeAdmin_iff.mp active).1, on⟩)
  | disabled => exact .inr (guarded rfl)

theorem HasActiveAdmin.deleteUser (done : d.deleteUser id = .ok d') : HasActiveAdmin d' := by
  obtain ⟨user, found, passed, rfl⟩ := deleteUser_eq_ok.mp done
  apply present.of_elsewhere id
  · intro other different
    rw [Table.lookup_erase_ite, if_neg different]
  · intro row foundRow admin
    cases found.symm.trans foundRow
    exact .inr ((ensureNotLastActiveAdmin_eq_ok admin).mp passed).exists

theorem HasActiveAdmin.perform (done : op.perform hash d = .ok d') : HasActiveAdmin d' := by
  cases op with
  | create => exact present.createUser done
  | update => exact present.updateUser done
  | setStatus => exact present.setStatus done
  | delete => exact present.deleteUser done
  | patch id username role tenantId status =>
    obtain ⟨updated, first, done⟩ := Raise.bind_eq_ok.mp done
    have middle := present.updateUser first
    cases status with
    | none =>
      cases done
      exact middle
    | some status => exact middle.setStatus done

theorem HasActiveAdmin.commit (op : Operation) : HasActiveAdmin (op.commit hash d) := by
  unfold Operation.commit
  cases outcome : op.perform hash d with
  | error e => exact present
  | ok d' => exact present.perform outcome

theorem HasActiveAdmin.after (ops : List Operation) : HasActiveAdmin (d.after hash ops) := by
  -- one request at a time; a refused one changes nothing
  induction ops generalizing d with
  | nil => exact present
  | cons op rest ih => exact ih (present.commit op)

end Remains

/-! ## Taking an admin away -/

namespace Directory

/-- A role and a tenant that go together. -/
def ValidScope (d : Directory) : Role → Option TenantId → Prop
  | .admin, tenantId => tenantId = none
  | .tenantUser, tenantId => ∃ id, tenantId = some id ∧ (d.tenants.lookup id).isSome

/-- Nobody else has the new name. -/
def FreeName (d : Directory) (id : UserId) (username : Option String) : Prop :=
  ∀ name, username = some name →
    ∀ other user, d.users.lookup other = some user → d.lower user.username = d.lower name → other = id

/-- An update that is not refused for what it asks for. -/
structure ValidUpdate (d : Directory) (id : UserId) (user : User) (username : Option String)
    (role : Option Role) (tenantId : Option TenantId) : Prop where
  scope : d.ValidScope (role.getD user.role) (newTenantId user role tenantId)
  name : d.FreeName id username

end Directory

/-- The request is to disable, to demote or to delete a user. -/
def Operation.Removes (d : Directory) (id : UserId) (user : User) : Operation → Prop
  | create .. => False
  | update id' username role tenantId =>
    id' = id ∧ d.ValidUpdate id user username role tenantId ∧ role = some .tenantUser
  | setStatus id' status => id' = id ∧ status = .disabled
  | delete id' => id' = id
  | patch id' username role tenantId status =>
    id' = id ∧ d.ValidUpdate id user username role tenantId ∧
      (role = some .tenantUser ∨ status = some .disabled)

section Removal

variable {d : Directory} {id : UserId} {user : User} {username : Option String} {role : Option Role}
  {tenantId : Option TenantId}

theorem validateRoleTenant_of_valid {role : Role} (valid : d.ValidScope role tenantId) :
    Accounts.validateRoleTenant d.access role tenantId = .ok () := by
  cases role with
  | admin =>
    cases valid
    rfl
  | tenantUser =>
    obtain ⟨tenant, rfl, exists'⟩ := valid
    obtain ⟨status, found⟩ := Option.isSome_iff_exists.mp exists'
    simp only [Accounts.validateRoleTenant, Directory.access, found]
    rfl

theorem ensureUniqueUsername_of_free {name : String} (free : d.FreeName id (some name)) :
    Accounts.ensureUniqueUsername d.access name (some id) = .ok () := by
  simp only [Accounts.ensureUniqueUsername, Directory.access, bind, Except.bind]
  cases existing : Accounts.userByName d.lower d.users name with
  | none => rfl
  | some entry =>
    obtain ⟨other, user⟩ := entry
    obtain ⟨found, same⟩ := Accounts.userByName_eq_some existing
    rw [free name rfl other user found same]
    exact if_neg (not_not.mpr rfl)

theorem rename_of_free (user : User) (free : d.FreeName id username) :
    ∃ user', Accounts.rename d.access id user username = .ok user' := by
  cases username with
  | none => exact ⟨user, rfl⟩
  | some name =>
    simp only [Accounts.rename]
    split
    · rw [ensureUniqueUsername_of_free free]
      exact ⟨_, rfl⟩
    · exact ⟨user, rfl⟩

theorem rescope_of_guard {role : Role}
    (passed : user.role = .admin → role ≠ .admin → d.ensureNotLastActiveAdmin id user = .ok ()) :
    ∃ user', Accounts.rescope d.access id user role tenantId = .ok user' := by
  unfold Accounts.rescope
  split
  · exact ⟨_, Raise.when_eq_ok.mpr ⟨fun demoted => passed demoted.1 demoted.2, rfl⟩⟩
  · exact ⟨_, rfl⟩

theorem updateUser_of_valid (found : d.users.lookup id = some user)
    (valid : d.ValidUpdate id user username role tenantId)
    (passed : user.role = .admin → role.getD user.role ≠ .admin →
      d.ensureNotLastActiveAdmin id user = .ok ()) :
    ∃ d', d.updateUser id username role tenantId = .ok d' := by
  obtain ⟨renamed, named⟩ := rename_of_free user valid.name
  obtain ⟨sameRole, sameStatus⟩ := rename_eq_ok named
  have moves : ∃ user', Accounts.rescope d.access id renamed (role.getD user.role)
      (newTenantId user role tenantId) = .ok user' := by
    apply rescope_of_guard
    rw [sameRole, ensureNotLastActiveAdmin_congr (activeAdmin_congr sameRole sameStatus)]
    exact passed
  obtain ⟨user', moved⟩ := moves
  -- the checks in the order in which the function makes them
  refine ⟨d.withUser id user', Raise.bind_eq_ok.mpr ⟨user', ?_, rfl⟩⟩
  apply Raise.bind_eq_ok.mpr
  refine ⟨user, getExistingUser_eq_ok.mpr found, Raise.bind_eq_ok.mpr ?_⟩
  refine ⟨(), validateRoleTenant_of_valid valid.scope, Raise.bind_eq_ok.mpr ?_⟩
  exact ⟨renamed, named, Raise.bind_eq_ok.mpr ⟨user', moved, rfl⟩⟩

theorem otherAdmin_withUser {user' : User} {other : UserId} :
    (d.withUser id user').OtherAdmin id other ↔ d.OtherAdmin id other := by
  refine and_congr_right fun different => ?_
  rw [lookup_withUser, if_neg different]

/-- The second half of a PATCH asks the guard again, about the user that the first half wrote. -/
theorem ensureNotLastActiveAdmin_withUser (user' : User) (admin : activeAdmin user = true)
    (passed : d.ensureNotLastActiveAdmin id user = .ok ()) :
    (d.withUser id user').ensureNotLastActiveAdmin id user' = .ok () := by
  cases kept : activeAdmin user' with
  | false => exact ensureNotLastActiveAdmin_of_not kept
  | true =>
    rw [ensureNotLastActiveAdmin_eq_ok kept]
    simp only [otherAdmin_withUser]
    exact (ensureNotLastActiveAdmin_eq_ok admin).mp passed

theorem patch_of_guard {status : Option UserStatus} (hash : String → String)
    (found : d.users.lookup id = some user) (admin : activeAdmin user = true)
    (valid : d.ValidUpdate id user username role tenantId)
    (passed : d.ensureNotLastActiveAdmin id user = .ok ()) :
    ∃ d', (Operation.patch id username role tenantId status).perform hash d = .ok d' := by
  obtain ⟨updated, first⟩ := updateUser_of_valid found valid fun _ _ => passed
  obtain ⟨_, user', _, rfl, _⟩ := updateUser_eq_ok first
  cases status with
  | none => exact ⟨_, Raise.bind_eq_ok.mpr ⟨_, first, rfl⟩⟩
  | some status =>
    have again := ensureNotLastActiveAdmin_withUser user' admin passed
    obtain ⟨_, changed, _⟩ := restatus_ok (d.withUser id user') id user' status
    exact ⟨_, Raise.bind_eq_ok.mpr ⟨_, first,
      setStatus_eq_ok.mpr ⟨user', _, by simp, fun _ => again, changed, rfl⟩⟩⟩

theorem guard_of_patch {status : Option UserStatus} {d' : Directory}
    (found : d.users.lookup id = some user) (admin : activeAdmin user = true)
    (removes : role = some .tenantUser ∨ status = some .disabled)
    (done : (Operation.patch id username role tenantId status).perform hash d = .ok d') :
    d.ensureNotLastActiveAdmin id user = .ok () := by
  obtain ⟨updated, first, done⟩ := Raise.bind_eq_ok.mp done
  obtain ⟨row, user', foundRow, rfl, sameStatus, newRole, guarded⟩ := updateUser_eq_ok first
  cases found.symm.trans foundRow
  obtain ⟨isAdmin, active⟩ := activeAdmin_iff.mp admin
  by_cases kept : user'.role = .admin
  · -- the role stays, so the status is what goes
    have disabled : status = some .disabled := by
      rcases removes with rfl | disabled
      · cases newRole.symm.trans kept
      · exact disabled
    subst disabled
    obtain ⟨again, _, foundAgain, passed, -⟩ := setStatus_eq_ok.mp done
    rw [lookup_withUser, if_pos rfl] at foundAgain
    cases foundAgain
    have stays : activeAdmin user' = true := activeAdmin_iff.mpr ⟨kept, sameStatus.trans active⟩
    have one := (ensureNotLastActiveAdmin_eq_ok stays).mp (passed rfl)
    simp only [otherAdmin_withUser] at one
    exact (ensureNotLastActiveAdmin_eq_ok admin).mpr one
  · exact guarded isAdmin kept

/-- A removal of an active admin succeeds exactly when the guard lets it. -/
theorem perform_removal_iff (hash : String → String) (found : d.users.lookup id = some user)
    (admin : activeAdmin user = true) (removes : op.Removes d id user) :
    (∃ d', op.perform hash d = .ok d') ↔ d.ensureNotLastActiveAdmin id user = .ok () := by
  -- each way to remove asks the guard once, about the stored row
  cases op with
  | create => exact removes.elim
  | update id' username role tenantId =>
    obtain ⟨rfl, valid, rfl⟩ := removes
    constructor
    · rintro ⟨d', done⟩
      obtain ⟨row, user', foundRow, _, _, newRole, guarded⟩ := updateUser_eq_ok done
      cases found.symm.trans foundRow
      exact guarded (activeAdmin_iff.mp admin).1 (by simp [newRole])
    · intro passed
      exact updateUser_of_valid found valid fun _ _ => passed
  | setStatus id' status =>
    obtain ⟨rfl, rfl⟩ := removes
    constructor
    · rintro ⟨d', done⟩
      obtain ⟨row, _, foundRow, passed, _⟩ := setStatus_eq_ok.mp done
      cases found.symm.trans foundRow
      exact passed rfl
    · intro passed
      obtain ⟨_, changed, _⟩ := restatus_ok d id' user .disabled
      exact ⟨_, setStatus_eq_ok.mpr ⟨user, _, found, fun _ => passed, changed, rfl⟩⟩
  | delete id' =>
    obtain rfl : id' = id := removes
    constructor
    · rintro ⟨d', done⟩
      obtain ⟨row, foundRow, passed, _⟩ := deleteUser_eq_ok.mp done
      cases found.symm.trans foundRow
      exact passed
    · intro passed
      exact ⟨_, deleteUser_eq_ok.mpr ⟨user, found, passed, rfl⟩⟩
  | patch id' username role tenantId status =>
    -- here it may be asked twice
    obtain ⟨rfl, valid, removes⟩ := removes
    constructor
    · rintro ⟨d', done⟩
      exact guard_of_patch found admin removes done
    · intro passed
      exact patch_of_guard hash found admin valid passed

end Removal

theorem refuses_removal_iff (hash : String → String) {d : Directory} {id : UserId} {user : User}
    (found : d.users.lookup id = some user) (admin : activeAdmin user = true)
    (removes : op.Removes d id user) : d.Refuses hash op ↔ ¬∃! other, d.OtherAdmin id other := by
  rw [← ensureNotLastActiveAdmin_eq_ok admin, ← perform_removal_iff hash found admin removes,
    Directory.Refuses]
  cases op.perform hash d <;> simp

/-- After any requests there is an active admin. Taking one away is refused only for the lack of
another one as long as there are no two others. -/
theorem last_admin_kept (hash : String → String) {d : Directory} (present : HasActiveAdmin d)
    (ops : List Operation) :
    HasActiveAdmin (d.after hash ops) ∧
      ∀ (op : Operation) (id : UserId) (user : User),
        (d.after hash ops).users.lookup id = some user → activeAdmin user = true →
        op.Removes (d.after hash ops) id user →
        (((d.after hash ops).Refuses hash op → ∀ other, ¬(d.after hash ops).OtherAdmin id other) ↔
          ∀ one two, (d.after hash ops).OtherAdmin id one → (d.after hash ops).OtherAdmin id two →
            one = two) := by
  refine ⟨present.after ops, ?_⟩
  intro op id user found admin removes
  rw [refuses_removal_iff hash found admin removes]
  constructor
  · -- two others make the query of the guard fail, and the request with it
    intro onlyLast one two first second
    by_contra different
    apply onlyLast _ one first
    rintro ⟨other, _, unique⟩
    exact different ((unique one first).trans (unique two second).symm)
  · intro atMostOne several other there
    exact several ⟨other, there, fun another also => atMostOne another other also there⟩

/-! ## Two admins and three -/

def adminRow (username : String) : User :=
  { tenantId := none, role := .admin, username, passwordHash := username, status := .active,
    sessionVersion := 1, lastLoginAt := none }

def oneAdmin : Directory := ⟨asciiLower, Table.ofPairs [(1, adminRow "root")], ∅⟩

theorem oneAdmin_hasActiveAdmin : HasActiveAdmin oneAdmin := ⟨1, adminRow "root", rfl, rfl⟩

def addSecond : Operation := .create 2 "second" "second" .admin none

def addThird : Operation := .create 3 "third" "third" .admin none

/-- With two admins each of them can be disabled. -/
theorem twoAdmins_kept :
    HasActiveAdmin (oneAdmin.after id [addSecond]) ∧
      (((oneAdmin.after id [addSecond]).Refuses id (.setStatus 1 .disabled) →
          ∀ other, ¬(oneAdmin.after id [addSecond]).OtherAdmin 1 other) ↔
        ∀ one two, (oneAdmin.after id [addSecond]).OtherAdmin 1 one →
          (oneAdmin.after id [addSecond]).OtherAdmin 1 two → one = two) := by
  have kept := last_admin_kept id oneAdmin_hasActiveAdmin [addSecond]
  exact ⟨kept.1, kept.2 (.setStatus 1 .disabled) 1 (adminRow "root") (by decide) rfl ⟨rfl, rfl⟩⟩

/-- Of three admins none can be disabled. -/
theorem threeAdmins_stuck :
    HasActiveAdmin oneAdmin ∧
      (Operation.setStatus 1 .disabled).Removes (oneAdmin.after id [addSecond, addThird]) 1
        (adminRow "root") ∧
      (oneAdmin.after id [addSecond, addThird]).users.lookup 1 = some (adminRow "root") ∧
      (oneAdmin.after id [addSecond, addThird]).OtherAdmin 1 2 ∧
      (oneAdmin.after id [addSecond, addThird]).Refuses id (.setStatus 1 .disabled) := by
  have second : (oneAdmin.after id [addSecond, addThird]).OtherAdmin 1 2 :=
    ⟨by decide, adminRow "second", by decide, rfl⟩
  have third : (oneAdmin.after id [addSecond, addThird]).OtherAdmin 1 3 :=
    ⟨by decide, adminRow "third", by decide, rfl⟩
  have found : (oneAdmin.after id [addSecond, addThird]).users.lookup 1 = some (adminRow "root") := by
    decide
  have removes : (Operation.setStatus 1 .disabled).Removes
      (oneAdmin.after id [addSecond, addThird]) 1 (adminRow "root") := ⟨rfl, rfl⟩
  refine ⟨oneAdmin_hasActiveAdmin, removes, found, second, ?_⟩
  rw [refuses_removal_iff id found rfl removes]
  rintro ⟨other, _, unique⟩
  exact absurd ((unique 2 second).trans (unique 3 third).symm) (by decide)

end ScrubbingGateway.Control.LastAdmin
