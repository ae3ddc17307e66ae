import ScrubbingGateway.Lib.Table
import ScrubbingGateway.Lib.Threads
import ScrubbingGateway.Lib.Transition

/-!
# The session store

Sessions are Redis keys. Every method of the store is a program of single Redis commands, and the
calls of any number of requests take turns at them.
-/

namespace ScrubbingGateway.Control.Sessions

open Transition Prog

abbrev Sid := Nat
abbrev UserId := Nat

structure SessionData where
  sid : Sid
  userId : UserId
  sessionVersion : Nat
  createdAt : Nat
  absoluteExpiry : Nat
  lastSeen : Nat
  ip : Option String
deriving DecidableEq, Repr

structure Redis where
  clock : Nat
  /-- `session:<sid>`, with the time at which the key expires. -/
  sessions : Table Sid (SessionData × Nat)
  /-- `user_sessions:<user_id>` -/
  userSessions : Table UserId (List Sid)

/-- The Redis commands of the store, and its clock. -/
inductive Command where
  | now
  | get (sid : Sid)
  | set (sid : Sid) (session : SessionData) (ex : Nat)
  | del (sids : List Sid)
  | sadd (userId : UserId) (sid : Sid)
  | srem (userId : UserId) (sid : Sid)
  | smembers (userId : UserId)
  | delUser (userId : UserId)
deriving DecidableEq, Repr

def Command.Answer : Command → Type
  | now => Nat
  | get _ => Option SessionData
  | smembers _ => List Sid
  | _ => Unit

namespace Redis

/-- The value of a session key, if the key is there and has not expired. -/
def session? (r : Redis) (sid : Sid) : Option SessionData :=
  (r.sessions.lookup sid).bind fun (session, expires) =>
    if r.clock < expires then some session else none

/-- The members of a user's set of sessions. -/
def members (r : Redis) (userId : UserId) : List Sid :=
  (r.userSessions.lookup userId).getD []

def exec : (c : Command) → Redis → c.Answer × Redis
  | .now, r => (r.clock, r)
  | .get sid, r => (r.session? sid, r)
  | .set sid session ex, r =>
    ((), { r with sessions := r.sessions.insert sid (session, r.clock + ex) })
  | .del sids, r => ((), { r with sessions := sids.foldl (fun t sid => t.erase sid) r.sessions })
  | .sadd userId sid, r =>
    ((), { r with userSessions := r.userSessions.insert userId ((r.members userId).insert sid) })
  | .srem userId sid, r =>
    ((), { r with userSessions := r.userSessions.insert userId ((r.members userId).erase sid) })
  | .smembers userId, r => (r.members userId, r)
  | .delUser userId, r => ((), { r with userSessions := r.userSessions.erase userId })

end Redis

/-! ## `RedisSessionStore` -/

structure Settings where
  idleSeconds : Nat
  absoluteSeconds : Nat

abbrev StoreProg (α : Type) : Type := Prog Command Command.Answer α

/-- `sid` is what `new_session_id` draws. -/
def create (settings : Settings) (sid : Sid) (userId : UserId) (sessionVersion : Nat)
    (ip : Option String) : StoreProg Sid := do
  let now : Nat ← request Command.now
  let session : SessionData :=
    { sid, userId, sessionVersion, createdAt := now
      absoluteExpiry := now + settings.absoluteSeconds, lastSeen := now, ip }
  request (Command.set sid session settings.idleSeconds)
  request (Command.sadd userId sid)
  return sid

def read (sid : Sid) : StoreProg (Option SessionData) := do
  let raw : Option SessionData ← request (Command.get sid)
  return raw.map fun session => { session with sid }

def isAbsoluteExpired (session : SessionData) : StoreProg Bool := do
  let now : Nat ← request Command.now
  return decide (session.absoluteExpiry ≤ now)

def revoke (sid : Sid) : StoreProg Unit := do
  let session ← read sid
  request (Command.del [sid])
  match session with
  | some session => request (Command.srem session.userId sid)
  | none => return ()

def get (settings : Settings) (sid : Sid) : StoreProg (Option SessionData) := do
  match ← read sid with
  | none => return none
  | some session =>
    if ← isAbsoluteExpired session then
      revoke sid
      return none
    else
      let now : Nat ← request Command.now
      let refreshed := { session with lastSeen := now }
      request (Command.set sid refreshed settings.idleSeconds)
      return some refreshed

def revokeAll (userId : UserId) : StoreProg Unit := do
  let sids : List Sid ← request (Command.smembers userId)
  if sids ≠ [] then
    request (Command.del sids)
  request (Command.delUser userId)

/-! ## Calls side by side -/

inductive Op where
  | create (sid : Sid) (userId : UserId) (sessionVersion : Nat) (ip : Option String)
  | get (sid : Sid)
  | revoke (sid : Sid)
deriving DecidableEq, Repr

inductive Reply where
  | created (sid : Sid)
  | session (session : Option SessionData)
  | revoked
deriving DecidableEq, Repr

namespace Op

def sid : Op → Sid
  | create sid .. | get sid | revoke sid => sid

/-- Whether the call draws its id. -/
def draws : Op → Bool
  | create .. => true
  | get _ | revoke _ => false

def prog (settings : Settings) : Op → StoreProg Reply
  | create sid userId sessionVersion ip => do
    return .created (← Sessions.create settings sid userId sessionVersion ip)
  | get sid => do
    return .session (← Sessions.get settings sid)
  | revoke sid => do
    Sessions.revoke sid
    return .revoked

end Op

/-- A call, and the ids whose revocation was complete when it started. -/
structure Started where
  op : Op
  revoked : List Sid

abbrev Call : Type := Thread Started Command Command.Answer Reply

abbrev Calls : Type := Pool Redis Started Command Command.Answer Reply

/-- The id a call has revoked, if it is a complete `revoke`. -/
def Call.revoked : Call → Option Sid
  | ⟨⟨.revoke sid, _⟩, .ret _⟩ => some sid
  | _ => none

inductive Label where
  | start (op : Op)
  | turn (i : Nat)
  | tick (seconds : Nat)
deriving DecidableEq, Repr

/-- Redis carries out one command at a time. -/
def commands : Shared Redis Command Command.Answer where
  exec _ c r := some (Redis.exec c r)

namespace Calls

def step (settings : Settings) (p : Calls) : Label → Option Calls
  | .start op =>
    -- an id that `new_session_id` draws has not been around before
    if op.draws ∧ ∃ t ∈ p.threads, t.tag.op.sid = op.sid then none
    else some (p.start ⟨⟨op, p.threads.filterMap Call.revoked⟩, op.prog settings⟩)
  | .turn i => p.turn commands i
  | .tick seconds => some { p with state := { p.state with clock := p.state.clock + seconds } }

end Calls

/-! ## Logout -/

def Command.writes (sid : Sid) : Command → Prop
  | set sid' .. => sid' = sid
  | _ => False

/-- An answer that Redis gives while the key is missing. -/
def Missing (sid : Sid) : (c : Command) → c.Answer → Prop
  | .get sid', session => sid' = sid → session = none
  | _, _ => True

/-- As long as the key is missing, the program does not write it. -/
def Settled {α : Type} (sid : Sid) (p : StoreProg α) : Prop :=
  Meets (fun c => ¬ c.writes sid) (Missing sid) (fun _ => True) p

/-- The key of a session is deleted by `revoke` only while no other call is about to write it. -/
def RevokesSettled (p : Calls) (label : Label) (_ : Calls) : Prop :=
  ∀ i tag sid next, label = .turn i → tag.op = .revoke sid →
    p.threads[i]? = some ⟨tag, .call (.del [sid]) next⟩ → ∀ t ∈ p.threads, Settled sid t.prog

/-- No `get` returns a session whose revocation was complete when it started. -/
def LogoutFinal (p : Calls) : Prop :=
  ∀ t ∈ p.threads, ∀ sid ∈ t.tag.revoked, t.tag.op = .get sid →
    ∀ session, t.prog ≠ .ret (.session (some session))

section Programs

variable {sid : Sid}

theorem meets_read (sid' : Sid) :
    Meets (fun c => ¬ c.writes sid) (Missing sid) (fun session => sid' = sid → session = none)
      (read sid') := by
  refine ⟨fun writes => writes, fun raw missing same => ?_⟩
  have none : raw = none := missing same
  rw [none]
  rfl

theorem settled_revoke (sid' : Sid) : Settled sid (revoke sid') := by
  refine (meets_read sid').bind fun session _ => ⟨fun writes => writes, fun _ _ => ?_⟩
  cases session with
  | none => trivial
  | some session => exact ⟨fun writes => writes, fun _ _ => trivial⟩

theorem meets_get (settings : Settings) (sid' : Sid) :
    Meets (fun c => ¬ c.writes sid) (Missing sid) (fun session => sid' = sid → session = none)
      (get settings sid') := by
  refine (meets_read sid').bind fun session read => ?_
  cases session with
  | none => exact fun _ => rfl
  | some session =>
    -- the key that was there is another one
    have other : sid' ≠ sid := fun same => nomatch read same
    refine ⟨fun writes => writes, fun now _ => ?_⟩
    show Meets _ _ _ (ite _ _ _)
    split
    · exact (settled_revoke sid').bind fun _ _ same => absurd same other
    · exact ⟨fun writes => writes, fun _ _ => ⟨other, fun _ _ same => absurd same other⟩⟩

theorem settled_create (settings : Settings) {sid' : Sid} (other : sid' ≠ sid) (userId : UserId)
    (sessionVersion : Nat) (ip : Option String) :
    Settled sid (create settings sid' userId sessionVersion ip) :=
  ⟨fun writes => writes, fun _ _ => ⟨other, fun _ _ => ⟨fun writes => writes, fun _ _ => trivial⟩⟩⟩

/-- A call that starts while the key is missing leaves it so, and does not find it. -/
theorem meets_prog (settings : Settings) {op : Op} (fresh : op.draws = true → op.sid ≠ sid) :
    Meets (fun c => ¬ c.writes sid) (Missing sid) (fun reply => op = .get sid → reply = .session none)
      (op.prog settings) := by
  cases op with
  | create sid' userId sessionVersion ip =>
    exact (settled_create settings (fresh rfl) userId sessionVersion ip).bind
      fun _ _ same => nomatch same
  | get sid' =>
    refine (meets_get settings sid').bind fun session none same => ?_
    rw [none (Op.get.inj same)]
  | revoke sid' => exact (settled_revoke sid').bind fun _ _ same => nomatch same

end Programs

section Commands

variable {sid : Sid} {c : Command} {r : Redis}

theorem lookup_foldl_erase (sids : List Sid) (t : Table Sid (SessionData × Nat)) :
    (sids.foldl (fun t sid => t.erase sid) t).lookup sid =
      if sid ∈ sids then none else t.lookup sid := by
  induction sids generalizing t with
  | nil => simp
  | cons sid' sids ih =>
    rw [List.foldl_cons, ih, Table.lookup_erase_ite]
    by_cases later : sid ∈ sids
    · simp [later]
    · by_cases same : sid = sid'
      · simp [same]
      · simp [later, same]

theorem missing_exec (missing : r.sessions.lookup sid = none) : Missing sid c (Redis.exec c r).1 := by
  cases c with
  | get sid' =>
    rintro rfl
    show r.session? sid' = none
    rw [Redis.session?, missing]
    rfl
  | _ => trivial

theorem lookup_exec (missing : r.sessions.lookup sid = none) (keeps : ¬ c.writes sid) :
    (Redis.exec c r).2.sessions.lookup sid = none := by
  cases c with
  | set sid' session ex => exact (AList.lookup_insert_ne (Ne.symm keeps)).trans missing
  | del sids =>
    refine (lookup_foldl_erase sids r.sessions).trans ?_
    rw [missing, ite_self]
  | _ => exact missing

end Commands

/-- The key is missing and stays so. -/
structure Gone (sid : Sid) (p : Calls) : Prop where
  named : ∃ t ∈ p.threads, t.tag.op.sid = sid
  missing : p.state.sessions.lookup sid = none
  settled : ∀ t ∈ p.threads, Settled sid t.prog

structure Inv (p : Calls) : Prop where
  /-- A `revoke` that has not made sure of it has still to delete the key. -/
  revoking : ∀ t ∈ p.threads, ∀ sid, t.tag.op = .revoke sid →
    Owes (· = .del [sid]) t.prog ∨ Gone sid p
  late : ∀ t ∈ p.threads, ∀ sid ∈ t.tag.revoked, Gone sid p ∧
    Meets (fun c => ¬ c.writes sid) (Missing sid)
      (fun reply => t.tag.op = .get sid → reply = .session none) t.prog

section Steps

variable {settings : Settings} {p p' : Calls} {sid : Sid} {i : Nat}

theorem turn_commands (turned : p.turn commands i = some p') :
    ∃ tag c next, p.threads[i]? = some ⟨tag, .call c next⟩ ∧
      p' = ⟨(Redis.exec c p.state).2, p.threads.set i ⟨tag, next (Redis.exec c p.state).1⟩⟩ := by
  obtain ⟨tag, c, next, answer, state, found, executed, rfl⟩ := Pool.turn_some turned
  have result : Redis.exec c p.state = (answer, state) := Option.some.inj executed
  rw [← show (Redis.exec c p.state).1 = answer from congrArg Prod.fst result,
    ← show (Redis.exec c p.state).2 = state from congrArg Prod.snd result]
  exact ⟨tag, c, next, found, rfl⟩

theorem Gone.meets (gone : Gone sid p) {c : Command} {next : c.Answer → StoreProg Reply}
    {Post : Reply → Prop}
    (meets : Meets (fun c => ¬ c.writes sid) (Missing sid) Post (.call c next)) :
    Meets (fun c => ¬ c.writes sid) (Missing sid) Post (next (Redis.exec c p.state).1) :=
  meets.2 _ (missing_exec gone.missing)

theorem Gone.turn (gone : Gone sid p) (turned : p.turn commands i = some p') : Gone sid p' := by
  obtain ⟨tag, c, next, found, rfl⟩ := turn_commands turned
  have settled := gone.settled _ (List.mem_of_getElem? found)
  exact ⟨Pool.exists_tag_set (P := fun tag => tag.op.sid = sid) found gone.named,
    lookup_exec gone.missing settled.1, Pool.forall_set (gone.meets settled) gone.settled⟩

theorem Gone.start (gone : Gone sid p) {op : Op} {revoked : List Sid}
    (fresh : ¬ (op.draws = true ∧ ∃ t ∈ p.threads, t.tag.op.sid = op.sid)) :
    Gone sid (p.start ⟨⟨op, revoked⟩, op.prog settings⟩) := by
  have other : op.draws = true → op.sid ≠ sid := by
    rintro draws rfl
    exact fresh ⟨draws, gone.named⟩
  refine ⟨?_, gone.missing, fun t member => ?_⟩
  · obtain ⟨t, member, named⟩ := gone.named
    exact ⟨t, Pool.mem_start.mpr (.inl member), named⟩
  · rcases Pool.mem_start.mp member with old | rfl
    · exact gone.settled t old
    · exact (meets_prog settings other).mono (fun _ keeps => keeps) (fun _ _ possible => possible)
        fun _ _ => trivial

theorem Gone.deleted {tag : Started} {next : Unit → StoreProg Reply}
    (found : p.threads[i]? = some ⟨tag, .call (.del [sid]) next⟩) (revokes : tag.op = .revoke sid)
    (settled : ∀ t ∈ p.threads, Settled sid t.prog) :
    Gone sid ⟨(Redis.exec (.del [sid]) p.state).2, p.threads.set i ⟨tag, next ()⟩⟩ := by
  have member := List.mem_of_getElem? found
  refine ⟨?_, ?_, Pool.forall_set ((settled _ member).2 () trivial) settled⟩
  · exact Pool.exists_tag_set (P := fun tag => tag.op.sid = sid) found
      ⟨_, member, congrArg Op.sid revokes⟩
  · refine (lookup_foldl_erase [sid] p.state.sessions).trans ?_
    rw [if_pos (List.mem_singleton.mpr rfl)]

theorem Inv.turn (inv : Inv p) (careful : RevokesSettled p (.turn i) p')
    (turned : p.turn commands i = some p') : Inv p' := by
  have kept {sid : Sid} (gone : Gone sid p) : Gone sid p' := gone.turn turned
  obtain ⟨tag, c, next, found, rfl⟩ := turn_commands turned
  have member := List.mem_of_getElem? found
  constructor
  case revoking =>
    refine Pool.forall_set ?_ ?_
    · intro sid revokes
      rcases inv.revoking _ member sid revokes with (now | later) | gone
      · -- this turn is the deletion
        subst now
        exact .inr (Gone.deleted found revokes (careful i tag sid next rfl revokes found))
      · exact .inl (later _)
      · exact .inr (kept gone)
    · intro t old sid revokes
      exact (inv.revoking t old sid revokes).imp_right kept
  case late =>
    refine Pool.forall_set ?_ ?_
    · intro sid revoked
      obtain ⟨gone, meets⟩ := inv.late _ member sid revoked
      exact ⟨kept gone, gone.meets meets⟩
    · intro t old sid revoked
      obtain ⟨gone, meets⟩ := inv.late t old sid revoked
      exact ⟨kept gone, meets⟩

/-- A complete `revoke` has nothing left to delete. -/
theorem Inv.gone_of_revoked (inv : Inv p) (revoked : sid ∈ p.threads.filterMap Call.revoked) :
    Gone sid p := by
  obtain ⟨t, member, returned⟩ := List.mem_filterMap.mp revoked
  unfold Call.revoked at returned
  split at returned
  · cases returned
    exact (inv.revoking _ member sid rfl).resolve_left fun owes => owes
  · cases returned

theorem Inv.start (inv : Inv p) {op : Op}
    (fresh : ¬ (op.draws = true ∧ ∃ t ∈ p.threads, t.tag.op.sid = op.sid)) :
    Inv (p.start ⟨⟨op, p.threads.filterMap Call.revoked⟩, op.prog settings⟩) := by
  constructor
  case revoking =>
    intro t member sid revokes
    rcases Pool.mem_start.mp member with old | rfl
    · exact (inv.revoking t old sid revokes).imp_right fun gone => gone.start fresh
    · cases revokes
      exact .inl (.inr fun _ => .inl rfl)
  case late =>
    intro t member sid revoked
    rcases Pool.mem_start.mp member with old | rfl
    · obtain ⟨gone, meets⟩ := inv.late t old sid revoked
      exact ⟨gone.start fresh, meets⟩
    · have gone := inv.gone_of_revoked revoked
      refine ⟨gone.start fresh, meets_prog settings ?_⟩
      rintro draws rfl
      exact fresh ⟨draws, gone.named⟩

theorem Inv.step {label : Label} (inv : Inv p) (careful : RevokesSettled p label p')
    (stepped : Calls.step settings p label = some p') : Inv p' := by
  cases label with
  | start op =>
    obtain ⟨fresh, ⟨⟩⟩ := Option.ite_none_left_eq_some.mp stepped
    exact inv.start fresh
  | turn i => exact inv.turn careful stepped
  | tick seconds =>
    cases stepped
    have kept {sid : Sid} (gone : Gone sid p) :
        Gone sid { p with state := { p.state with clock := p.state.clock + seconds } } :=
      ⟨gone.named, gone.missing, gone.settled⟩
    exact ⟨fun t member sid revokes => (inv.revoking t member sid revokes).imp_right kept,
      fun t member sid revoked => (inv.late t member sid revoked).imp_left kept⟩

end Steps

/-- If no other call is about to write a session when `revoke` deletes it, logout is final. -/
theorem logout_final (settings : Settings) (redis : Redis) (labels : List Label)
    (careful : RunAll (Calls.step settings) RevokesSettled ⟨redis, []⟩ labels) (p : Calls)
    (ran : run (Calls.step settings) ⟨redis, []⟩ labels = some p) : LogoutFinal p := by
  have start : Inv ⟨redis, []⟩ := ⟨fun _ member => (nomatch member), fun _ member => (nomatch member)⟩
  have preserved (p : Calls) (label : Label) (p' : Calls) (inv : Inv p)
      (careful : RevokesSettled p label p') (stepped : Calls.step settings p label = some p') :
      Inv p' := inv.step careful stepped
  have inv : Inv p := run_invariant_of_runAll preserved start careful ran
  intro t member sid revoked gets session returned
  have meets := (inv.late t member sid revoked).2
  rw [returned] at meets
  cases meets gets

/-! Session 7 is logged out while nothing else, or a request that has read it, is running. -/

def someSettings : Settings := ⟨1800, 28800⟩

def loggedIn : Redis where
  clock := 0
  sessions := AList.insert 7 (⟨7, 1, 1, 0, 28800, 0, none⟩, 1800) ∅
  userSessions := AList.insert 1 [7] ∅

def quietLogout : List Label :=
  [.start (.revoke 7), .turn 0, .turn 0, .turn 0, .start (.get 7), .turn 1]

/-- The request of thread 0 has read the session when it is deleted, and refreshes it afterwards. -/
def racedLogout : List Label :=
  [.start (.get 7), .turn 0, .start (.revoke 7), .turn 1, .turn 1, .turn 1,
    .turn 0, .turn 0, .turn 0, .start (.get 7), .turn 2, .turn 2, .turn 2, .turn 2]

theorem revokesSettled_of_call {p p' : Calls} {i : Nat} {tag : Started} {c : Command}
    {next : c.Answer → StoreProg Reply} (found : p.threads[i]? = some ⟨tag, .call c next⟩)
    (other : ∀ sid, c ≠ .del [sid]) : RevokesSettled p (.turn i) p' := by
  intro j tag' sid next' label revokes deletes
  cases label
  cases found.symm.trans deletes
  exact absurd rfl (other sid)

theorem quietLogout_final :
    RunAll (Calls.step someSettings) RevokesSettled ⟨loggedIn, []⟩ quietLogout ∧
      ∃ p, run (Calls.step someSettings) ⟨loggedIn, []⟩ quietLogout = some p ∧
        (p.threads[1]?.map fun t => t.tag.revoked) = some [7] ∧ LogoutFinal p := by
  have careful : RunAll (Calls.step someSettings) RevokesSettled ⟨loggedIn, []⟩ quietLogout := by
    intro _ stepped
    cases stepped
    refine ⟨fun _ _ _ _ label => (nomatch label), fun _ stepped => ?_⟩
    cases stepped
    refine ⟨revokesSettled_of_call rfl (fun _ same => nomatch same), fun _ stepped => ?_⟩
    cases stepped
    refine ⟨?_, fun _ stepped => ?_⟩
    · -- the deletion: only the call that makes it is there
      intro i tag sid next label revokes found t member
      cases label
      cases found
      cases List.mem_singleton.mp member
      exact ⟨fun writes => writes, fun _ _ => ⟨fun writes => writes, fun _ _ => trivial⟩⟩
    cases stepped
    refine ⟨revokesSettled_of_call rfl (fun _ same => nomatch same), fun _ stepped => ?_⟩
    cases stepped
    refine ⟨fun _ _ _ _ label => (nomatch label), fun _ stepped => ?_⟩
    cases stepped
    exact ⟨revokesSettled_of_call rfl (fun _ same => nomatch same), trivial⟩
  exact ⟨careful, _, rfl, rfl, logout_final someSettings loggedIn quietLogout careful _ rfl⟩

theorem racedLogout_not_final :
    ∃ p, run (Calls.step someSettings) ⟨loggedIn, []⟩ racedLogout = some p ∧ ¬ LogoutFinal p := by
  refine ⟨_, rfl, fun final => ?_⟩
  exact final _ (List.mem_of_getElem? (i := 2) rfl) 7 (by decide) rfl _ rfl

end ScrubbingGateway.Control.Sessions
