import ScrubbingGateway.Control.Accounts

/-!
# Changes of credentials and old sessions

A session carries the version of its user, and every change of the credentials raises the version of
the user row. If no UPDATE overwrites a version that its transaction has not seen, a session that was
there at the commit of a change is older than the row from then on.
-/

namespace ScrubbingGateway.Control.Accounts

open Prog Transition
open Sessions (Sid UserId SessionData Redis Command StoreProg)

/-- An UPDATE of the version finds the version that was loaded. -/
def Good (i : Nat) : Call → State → Prop
  | .flush id loaded user, s =>
    loaded.sessionVersion ≠ user.sessionVersion →
      ∀ row ∈ s.rowFor i id, row.sessionVersion = loaded.sessionVersion
  | _, _ => True

/-- No UPDATE overwrites a version that its transaction has not seen. -/
def NothingOverwritten (p : World) (label : Label) (_ : World) : Prop :=
  match label with
  | .turn i => p.NextGood Good i
  | _ => True

/-- A session that was there when a change of its user was committed is rejected from then on. -/
def CutOff (p : World) : Prop :=
  ∀ t ∈ p.threads, ∀ sid ∈ t.tag.cut, t.tag.op = .resolve sid →
    ∀ reply, t.prog ≠ .ret (.ok reply)

/-! ## The state -/

/-- A change of a row raises its version. -/
def User.Raises (row row' : User) : Prop :=
  row.Alters row' → row.sessionVersion < row'.sessionVersion

variable {row row' : User}

theorem User.Raises.le (raises : row.Raises row') : row.sessionVersion ≤ row'.sessionVersion := by
  by_cases alters : row.Alters row'
  · exact (raises alters).le
  · simp only [Alters, not_or, not_not] at alters
    exact alters.2.2.2.2.le

theorem User.Raises.refl (row : User) : row.Raises row := by
  intro alters
  simp [Alters] at alters

theorem User.Raises.trans {row'' : User} (first : row.Raises row') (second : row'.Raises row'') :
    row.Raises row'' := by
  intro alters
  by_cases early : row.Alters row'
  · exact (first early).trans_le second.le
  · -- nothing happened in the first part
    have late : row'.Alters row'' := by
      simp only [Alters, not_or, not_not] at early alters ⊢
      simpa only [early] using alters
    exact first.le.trans_lt (second late)

structure State.Sound (s : State) : Prop where
  stored : ∀ sid session expires, s.redis.sessions.lookup sid = some (session, expires) →
    (sid, session.userId, session.sessionVersion) ∈ s.written
  once : ∀ sid e e', (sid, e) ∈ s.written → (sid, e') ∈ s.written → e = e'
  drawn : ∀ sid e, (sid, e) ∈ s.written → sid < s.drawn.length
  current : ∀ sid u v row, (sid, u, v) ∈ s.written → s.users.lookup u = some row →
    v ≤ row.sessionVersion
  cut : ∀ sid ∈ s.cut, ∃ e, (sid, e) ∈ s.written
  behind : ∀ sid ∈ s.cut, ∀ u v row, (sid, u, v) ∈ s.written → s.users.lookup u = some row →
    v < row.sessionVersion
  raises : ∀ i id row', s.flushed.lookup i = some (id, row') →
    ∃ row, s.users.lookup id = some row ∧ row.Raises row'
  /-- A row has one writer. -/
  alone : ∀ i j id row row', s.flushed.lookup i = some (id, row) →
    s.flushed.lookup j = some (id, row') → i = j

def State.Unwritten (s : State) (sid : Sid) : Prop := ∀ e, (sid, e) ∉ s.written

/-- Nothing is taken back. -/
structure State.Before (s s' : State) : Prop where
  written : s.written ⊆ s'.written
  cut : s.cut ⊆ s'.cut
  drawn : s.drawn <+: s'.drawn
  rows : ∀ u row, s.users.lookup u = some row →
    ∃ row', s'.users.lookup u = some row' ∧ row.sessionVersion ≤ row'.sessionVersion

/-- Nobody else writes a session id that this request drew. -/
def State.Own (i : Nat) (s s' : State) : Prop :=
  ∀ sid, s.drawn[sid]? = some i → s.Unwritten sid → s'.Unwritten sid

def Rely (i : Nat) (s s' : State) : Prop := s'.Sound ∧ s.Before s' ∧ s.Own i s'

def Guar (i : Nat) (s s' : State) : Prop := s'.Sound ∧ s.Before s' ∧ ∀ j, j ≠ i → s.Own j s'

variable {sid : Sid} {version : Nat}

namespace State

variable {s s' s'' : State} {i : Nat}

theorem Before.refl (s : State) : s.Before s :=
  ⟨fun _ member => member, fun _ member => member, List.prefix_rfl, fun _ row found =>
    ⟨row, found, le_rfl⟩⟩

theorem Before.trans (first : s.Before s') (second : s'.Before s'') : s.Before s'' := by
  constructor
  case written => exact List.Subset.trans first.written second.written
  case cut => exact List.Subset.trans first.cut second.cut
  case drawn => exact first.drawn.trans second.drawn
  case rows =>
    intro u row found
    obtain ⟨row', found', older⟩ := first.rows u row found
    obtain ⟨row'', found'', older'⟩ := second.rows u row' found'
    exact ⟨row'', found'', older.trans older'⟩

theorem Before.drawnBy (before : s.Before s') (drew : s.drawn[sid]? = some i) :
    s'.drawn[sid]? = some i := by
  obtain ⟨rest, whole⟩ := before.drawn
  have inside := (List.getElem?_eq_some_iff.mp drew).1
  rw [← whole, List.getElem?_append_left inside]
  exact drew

theorem Before.reached (before : s.Before s') {id : UserId}
    (reached : ∃ row, s.users.lookup id = some row ∧ version ≤ row.sessionVersion) :
    ∃ row, s'.users.lookup id = some row ∧ version ≤ row.sessionVersion := by
  obtain ⟨row, found, le⟩ := reached
  obtain ⟨row', found', le'⟩ := before.rows id row found
  exact ⟨row', found', le.trans le'⟩

theorem Own.trans (first : s.Own i s') (before : s.Before s') (second : s'.Own i s'') :
    s.Own i s'' :=
  fun sid drew unwritten => second sid (before.drawnBy drew) (first sid drew unwritten)

end State

theorem rely_trans (i : Nat) (s now later : State) (first : Rely i s now)
    (second : Rely i now later) : Rely i s later :=
  ⟨second.1, first.2.1.trans second.2.1, first.2.2.trans first.2.1 second.2.2⟩

theorem rely_of_guar (i j : Nat) (s now : State) (other : i ≠ j) (guar : Guar i s now) :
    Rely j s now :=
  ⟨guar.1, guar.2.1, guar.2.2 j other.symm⟩

theorem rely_refl {s : State} (sound : s.Sound) (i : Nat) : Rely i s s :=
  ⟨sound, .refl s, fun _ _ unwritten => unwritten⟩

/-! ## The calls -/

variable {loaded : User} {after : State}

section Calls

variable {s : State} {i : Nat}

theorem guar_refl (sound : s.Sound) : Guar i s s :=
  ⟨sound, .refl s, fun _ _ _ _ unwritten => unwritten⟩

variable {sid : Sid} {session : SessionData}

/-- A command that writes no session only takes sessions away. -/
theorem lookup_of_exec {c : Command} {r : Redis} {entry : SessionData × Nat}
    (keeps : State.writtenBy c = []) (found : (Redis.exec c r).2.sessions.lookup sid = some entry) :
    r.sessions.lookup sid = some entry := by
  cases c with
  | set sid' session ex => cases keeps
  | del sids =>
    have erased := (Sessions.lookup_foldl_erase sids r.sessions).symm.trans found
    split at erased
    · cases erased
    · exact erased
  | _ => exact found

theorem guar_redis (sound : s.Sound) {redis : Redis}
    (fewer : ∀ sid entry, redis.sessions.lookup sid = some entry →
      s.redis.sessions.lookup sid = some entry) : Guar i s { s with redis } := by
  refine ⟨{ sound with stored := ?_ }, { State.Before.refl s with },
    fun _ _ _ _ unwritten => unwritten⟩
  intro sid session expires found
  exact sound.stored sid session expires (fewer _ _ found)

def State.wrote (s : State) (sid : Sid) (session : SessionData) (ex : Nat) : State :=
  { s with
    redis := (Redis.exec (.set sid session ex) s.redis).2
    written := s.written ++ [(sid, session.userId, session.sessionVersion)] }

theorem State.before_wrote (s : State) (sid : Sid) (session : SessionData) (ex : Nat) :
    s.Before (s.wrote sid session ex) :=
  { State.Before.refl s with written := List.subset_append_left _ _ }

variable {ex : Nat}

section

variable (sound : s.Sound)
include sound

theorem stored_wrote (sid' : Sid) (session' : SessionData) (expires : Nat)
    (found : (s.wrote sid session ex).redis.sessions.lookup sid' = some (session', expires)) :
    (sid', session'.userId, session'.sessionVersion) ∈ (s.wrote sid session ex).written := by
  rcases Table.lookup_insert_eq_some.mp found with ⟨rfl, here⟩ | ⟨_, entry⟩
  · cases here
    exact List.mem_append_right _ (List.mem_singleton.mpr rfl)
  · exact List.mem_append_left _ (sound.stored sid' session' expires entry)

theorem cut_wrote (sid' : Sid) (cut : sid' ∈ (s.wrote sid session ex).cut) :
    ∃ e, (sid', e) ∈ (s.wrote sid session ex).written := by
  obtain ⟨e, member⟩ := sound.cut sid' cut
  exact ⟨e, List.mem_append_left _ member⟩

theorem guar_refresh (known : (sid, session.userId, session.sessionVersion) ∈ s.written) :
    Guar i s (s.wrote sid session ex) := by
  have same {e : Sid × UserId × Nat} (member : e ∈ (s.wrote sid session ex).written) :
      e ∈ s.written := by
    rcases List.mem_append.mp member with old | new
    · exact old
    · cases List.mem_singleton.mp new
      exact known
  refine ⟨{ sound with
    stored := stored_wrote sound
    once := fun sid e e' member member' => sound.once sid e e' (same member) (same member')
    drawn := fun sid e member => sound.drawn sid e (same member)
    current := fun sid u v row member => sound.current sid u v row (same member)
    cut := cut_wrote sound
    behind := fun sid cut u v row member => sound.behind sid cut u v row (same member) },
    s.before_wrote sid session ex, fun _ _ _ _ unwritten e member => unwritten e (same member)⟩

theorem guar_create (drew : s.drawn[sid]? = some i) (unwritten : s.Unwritten sid)
    (current : ∀ row, s.users.lookup session.userId = some row →
      session.sessionVersion ≤ row.sessionVersion) : Guar i s (s.wrote sid session ex) := by
  -- an entry of the log is an old one under another id, or the new one
  have cases_written {sid' : Sid} {e : UserId × Nat}
      (member : (sid', e) ∈ (s.wrote sid session ex).written) :
      (sid', e) ∈ s.written ∧ sid' ≠ sid ∨
        sid' = sid ∧ e = (session.userId, session.sessionVersion) := by
    rcases List.mem_append.mp member with old | new
    · refine .inl ⟨old, ?_⟩
      rintro rfl
      exact unwritten e old
    · cases List.mem_singleton.mp new
      exact .inr ⟨rfl, rfl⟩
  refine ⟨?_, s.before_wrote sid session ex, ?_⟩
  · refine { sound with
      stored := stored_wrote sound, once := ?once, drawn := ?drawn, current := ?current,
      cut := cut_wrote sound, behind := ?behind }
    case once =>
      intro sid' e e' member member'
      rcases cases_written member with ⟨old, other⟩ | ⟨rfl, rfl⟩
      · rcases cases_written member' with ⟨old', _⟩ | ⟨here, _⟩
        · exact sound.once sid' e e' old old'
        · exact absurd here other
      · rcases cases_written member' with ⟨_, other⟩ | ⟨_, rfl⟩
        · exact absurd rfl other
        · rfl
    case drawn =>
      intro sid' e member
      rcases cases_written member with ⟨old, _⟩ | ⟨rfl, _⟩
      · exact sound.drawn sid' e old
      · exact (List.getElem?_eq_some_iff.mp drew).1
    case current =>
      intro sid' u v row member found
      rcases cases_written member with ⟨old, _⟩ | ⟨_, here⟩
      · exact sound.current sid' u v row old found
      · cases here
        exact current row found
    case behind =>
      intro sid' cut u v row member found
      rcases cases_written member with ⟨old, _⟩ | ⟨rfl, _⟩
      · exact sound.behind sid' cut u v row old found
      · -- a session that is cut off was written before
        obtain ⟨e, old⟩ := sound.cut sid' cut
        exact absurd old (unwritten e)
  · -- another request has drawn another id
    intro j other sid' drew' unwritten' e member
    rcases cases_written member with ⟨old, _⟩ | ⟨rfl, _⟩
    · exact unwritten' e old
    · exact other (Option.some.inj (drew'.symm.trans drew))

theorem guar_newSessionId : Guar i s { s with drawn := s.drawn ++ [i] } := by
  have before : s.Before { s with drawn := s.drawn ++ [i] } :=
    { State.Before.refl s with drawn := List.prefix_append _ _ }
  refine ⟨{ sound with drawn := ?_ }, before, fun _ _ _ _ unwritten => unwritten⟩
  intro sid e member
  rw [List.length_append]
  exact (sound.drawn sid e member).trans_le (Nat.le_add_right _ _)

theorem unwritten_next : s.Unwritten s.drawn.length :=
  fun e member => Nat.lt_irrefl _ (sound.drawn _ e member)

theorem guar_rollback : Guar i s (s.rollback i) := by
  -- the rows of the others stay
  have kept {j : Nat} {e : UserId × User} (found : (s.rollback i).flushed.lookup j = some e) :
      s.flushed.lookup j = some e := (Table.lookup_erase_eq_some.mp found).2
  refine ⟨{ sound with raises := ?_, alone := ?_ }, { State.Before.refl s with },
    fun _ _ _ _ unwritten => unwritten⟩
  · exact fun j id row' found => sound.raises j id row' (kept found)
  · exact fun j k id row row' found found' => sound.alone j k id row row' (kept found) (kept found')

theorem raises_rowFor {id : UserId} {seen : User} (sees : s.rowFor i id = some seen) :
    ∃ row, s.users.lookup id = some row ∧ row.Raises seen := by
  unfold State.rowFor at sees
  split at sees
  next id' row' own =>
    split at sees
    next here =>
      cases sees
      subst here
      exact sound.raises i id' seen own
    · exact ⟨seen, sees, .refl seen⟩
  · exact ⟨seen, sees, .refl seen⟩

end

/-- The object carries the next version if it differs in what a session stands for. -/
def User.Bumps (loaded user : User) : Prop :=
  loaded.Alters user → user.sessionVersion = loaded.sessionVersion + 1

theorem raises_update {user : User} (bumps : loaded.Bumps user)
    (good : loaded.sessionVersion ≠ user.sessionVersion →
      row.sessionVersion = loaded.sessionVersion) : row.Raises (loaded.update user row) := by
  by_cases altered : loaded.Alters user
  · intro _
    have next := bumps altered
    have changed : user.sessionVersion ≠ loaded.sessionVersion := by omega
    have same := good (Ne.symm changed)
    simp only [User.update, if_neg changed]
    omega
  · -- the columns that count are not among those that are written
    simp only [User.Alters, not_or, not_not] at altered
    obtain ⟨tenant, role, password, status, version⟩ := altered
    intro alters
    simp [User.Alters, User.update, tenant, role, password, status, version] at alters

theorem guar_flush (sound : s.Sound) {id : UserId} {user : User} {answer : Bool}
    (bumps : loaded.Bumps user) (good : Good i (.flush id loaded user) s)
    (flushed : s.flush i id loaded user = some (answer, after)) : Guar i s after := by
  unfold State.flush at flushed
  split at flushed
  · cases flushed
    exact guar_refl sound
  split at flushed
  · cases flushed
    exact guar_refl sound
  next row sees =>
    obtain ⟨free, flushed⟩ := Option.ite_none_left_eq_some.mp flushed
    split at flushed
    · cases flushed
      exact guar_refl sound
    cases flushed
    refine ⟨{ sound with raises := ?_, alone := ?_ }, { State.Before.refl s with },
      fun _ _ _ _ unwritten => unwritten⟩
    · -- the new row of this transaction raises the version with the columns it alters
      intro j id' row' found
      rcases Table.lookup_insert_eq_some.mp found with ⟨_, here⟩ | ⟨_, found⟩
      · cases here
        obtain ⟨old, committed, raises⟩ := raises_rowFor sound sees
        exact ⟨old, committed, raises.trans
          (raises_update bumps fun differs => good differs row sees)⟩
      · exact sound.raises j id' row' found
    · -- the lock: nobody else had written the row
      have others {j : Nat} {id' : UserId} {row' : User} (other : j ≠ i)
          (found : s.flushed.lookup j = some (id', row')) : id' ≠ id := by
        rintro rfl
        exact free ⟨⟨j, id', row'⟩, AList.mem_lookup_iff.mp found, other, .inl rfl⟩
      intro j k id' row₁ row₂ found found'
      rcases Table.lookup_insert_eq_some.mp found with ⟨rfl, here⟩ | ⟨other, old⟩ <;>
        rcases Table.lookup_insert_eq_some.mp found' with ⟨rfl, there⟩ | ⟨other', old'⟩
      · rfl
      · exact absurd (congrArg Prod.fst here).symm (others other' old')
      · exact absurd (congrArg Prod.fst there).symm (others other old)
      · exact sound.alone j k id' row₁ row₂ old old'

theorem mem_sessionsOf {id : UserId} (member : sid ∈ s.sessionsOf id) :
    ∃ v, (sid, id, v) ∈ s.written := by
  obtain ⟨⟨sid', u, v⟩, kept, rfl⟩ := List.mem_map.mp member
  obtain ⟨written, here⟩ := List.mem_filter.mp kept
  obtain rfl : u = id := of_decide_eq_true here
  exact ⟨v, written⟩

theorem guar_commit (sound : s.Sound) : Guar i s (s.commit i) := by
  unfold State.commit
  split
  · exact guar_refl sound
  next id row own =>
    obtain ⟨old, committed, raises⟩ := sound.raises i id row own
    -- a row that is there afterwards was there before, with no higher version
    have earlier {u : UserId} {row' : User} (found : (s.users.insert id row).lookup u = some row') :
        ∃ before, s.users.lookup u = some before ∧
          before.sessionVersion ≤ row'.sessionVersion := by
      rcases Table.lookup_insert_eq_some.mp found with ⟨rfl, rfl⟩ | ⟨_, found⟩
      · exact ⟨old, committed, raises.le⟩
      · exact ⟨row', found, le_rfl⟩
    -- the transactions still open are those of the others
    have kept {j : Nat} {e : UserId × User} (found : (s.flushed.erase i).lookup j = some e) :
        j ≠ i ∧ s.flushed.lookup j = some e := Table.lookup_erase_eq_some.mp found
    refine ⟨?_, ?_, fun _ _ _ _ unwritten => unwritten⟩
    · refine { sound with
        current := ?current, cut := ?cut, behind := ?behind, raises := ?raises, alone := ?alone }
      case current =>
        intro sid u v row' written found
        obtain ⟨before, there, le⟩ := earlier found
        exact (sound.current sid u v before written there).trans le
      case cut =>
        intro sid member
        rcases List.mem_append.mp member with before | now
        · exact sound.cut sid before
        · split at now
          · obtain ⟨v, written⟩ := mem_sessionsOf now
            exact ⟨_, written⟩
          · cases now
      case behind =>
        intro sid member u v row' written found
        rcases List.mem_append.mp member with before | now
        · obtain ⟨earlier, there, le⟩ := earlier found
          exact (sound.behind sid before u v earlier written there).trans_le le
        · split at now
          next altered =>
            -- the session is one of this user, and the change has raised the version
            obtain ⟨v', written'⟩ := mem_sessionsOf now
            cases sound.once sid _ _ written written'
            obtain ⟨old', committed', alters⟩ := altered
            cases committed.symm.trans committed'
            cases (AList.lookup_insert _).symm.trans found
            exact (sound.current sid id v old written committed).trans_lt (raises alters)
          · cases now
      case raises =>
        intro j id' row' found
        obtain ⟨other, there⟩ := kept found
        -- the lock: no other open transaction has written this user
        have elsewhere : id' ≠ id := by
          rintro rfl
          exact other (sound.alone j i id' row' row there own)
        rw [AList.lookup_insert_ne elsewhere]
        exact sound.raises j id' row' there
      case alone =>
        intro j k id' row₁ row₂ found found'
        exact sound.alone j k id' row₁ row₂ (kept found).2 (kept found').2
    · refine { State.Before.refl s with cut := List.subset_append_left _ _, rows := ?_ }
      intro u row' found
      rw [Table.lookup_insert_ite]
      split
      next here =>
        subst here
        cases committed.symm.trans found
        exact ⟨row, rfl, raises.le⟩
      · exact ⟨row', found, le_rfl⟩

end Calls

/-! ## The requests -/

/-- A request keeps its guarantee, and what it answers meets a condition. -/
abbrev Safe {α : Type} (i : Nat) (Post : α → State → Prop) (p : Request α) (s : State) : Prop :=
  Prog.Safe (State.exec i) (Good i) (Rely i) (Guar i) Post p s

/-- Calls that change nothing a session depends on. -/
def Call.Harmless : Call → Prop
  | redis c => State.writtenBy c = []
  | selectUser _ | selectByUsername _ | selectTenant _ | otherActiveAdmins _ => True
  | newSessionId | flush .. | commit | rollback => False

section Requests

variable {α β : Type} {i : Nat} {s : State} {Post : α → State → Prop}

theorem guar_of_harmless {c : Call} (harmless : c.Harmless) (sound : s.Sound) {answer : c.Answer}
    (executed : State.exec i c s = some (answer, after)) : Guar i s after := by
  cases c with
  | redis c =>
    cases executed
    have keeps : State.writtenBy c = [] := harmless
    rw [keeps, List.append_nil]
    exact guar_redis sound fun _ _ found => lookup_of_exec keeps found
  | selectUser | selectByUsername | selectTenant | otherActiveAdmins =>
    cases executed
    exact guar_refl sound
  | newSessionId | flush | commit | rollback => exact harmless.elim

theorem safe_of_asks {p : Request α} (asks : Asks Call.Harmless (fun _ _ => True) p.run) :
    Safe i (fun _ _ => True) p s :=
  .of_asks (fun _ _ _ _ _ harmless rely executed => guar_of_harmless harmless rely.1 executed) asks

theorem safe_frame {p : Request α} {Fact : State → Prop} (safe : Safe i Post p s)
    (lasts : ∀ s s' : State, s.Before s' → Fact s → Fact s') (fact : Fact s) :
    Safe i (fun a s => Fact s ∧ Post a s) p s :=
  safe.frame (fun _ _ rely => lasts _ _ rely.2.1) (fun _ _ guar => lasts _ _ guar.2.1) fact

theorem asks_store {p : StoreProg α}
    (asks : Asks (fun c => State.writtenBy c = []) (fun _ _ => True) p) :
    Asks Call.Harmless (fun _ _ => True) (store p).run := by
  induction p with
  | ret | fail | unfinished => trivial
  | call c next ih => exact ⟨asks.1, fun answer _ => ih answer (asks.2 answer trivial)⟩

theorem store_bind (p : StoreProg α) (f : α → StoreProg β) :
    store (p >>= f) = store p >>= fun a => store (f a) := by
  induction p with
  | ret | fail | unfinished => rfl
  | call c next ih => exact congrArg (Prog.call (Call.redis c)) (funext ih)

theorem asks_revoke (sid : Sid) :
    Asks (fun c => State.writtenBy c = []) (fun _ _ => True) (Sessions.revoke sid) := by
  refine ⟨rfl, fun raw _ => ⟨rfl, fun _ _ => ?_⟩⟩
  cases (raw : Option SessionData) with
  | none => trivial
  | some session => exact ⟨rfl, fun _ _ => trivial⟩

variable (id : UserId) (user : User)

theorem asks_revokeAll :
    Asks (fun c => State.writtenBy c = []) (fun _ _ => True) (Sessions.revokeAll id) := by
  refine ⟨rfl, fun (sids : List Sid) _ => ?_⟩
  cases sids with
  | nil => exact ⟨rfl, fun _ _ => trivial⟩
  | cons sid sids => exact ⟨rfl, fun _ _ => ⟨rfl, fun _ _ => trivial⟩⟩

theorem asks_validateRoleTenant (role : Role) (tenantId : Option TenantId) :
    Asks Call.Harmless (fun _ _ => True) (validateRoleTenant users role tenantId).run := by
  cases role with
  | admin => cases tenantId <;> trivial
  | tenantUser =>
    cases tenantId with
    | none => trivial
    | some id =>
      refine ⟨trivial, fun tenant _ => ?_⟩
      cases (tenant : Option TenantStatus) <;> trivial

theorem asks_ensureUniqueUsername (username : String) (id : Option UserId) :
    Asks Call.Harmless (fun _ _ => True) (ensureUniqueUsername users username id).run := by
  refine ⟨trivial, fun existing _ => ?_⟩
  match (existing : Option (UserId × User)) with
  | none => trivial
  | some (id', user) =>
    show Asks _ _ (ite _ _ _)
    split <;> trivial

theorem asks_ensureNotLastActiveAdmin :
    Asks Call.Harmless (fun _ _ => True) (ensureNotLastActiveAdmin users id user).run := by
  unfold ensureNotLastActiveAdmin
  split
  · refine ⟨trivial, fun others _ => ?_⟩
    match (others : List UserId) with
    | [] | [_] | _ :: _ :: _ => trivial
  · trivial

theorem asks_getExistingUser (held : Option User) (id : UserId) :
    Asks Call.Harmless (fun _ _ => True) (getExistingUser users held id).run := by
  cases held with
  | some user => trivial
  | none =>
    refine ⟨trivial, fun found _ => ?_⟩
    cases (found : Option User) <;> trivial

theorem asks_tenantOf :
    Asks Call.Harmless (fun _ _ => True) (tenantOf users.selectTenant user).run := by
  unfold tenantOf
  split
  · exact ⟨trivial, fun _ _ => trivial⟩
  · trivial

theorem safe_bumpVersionAndRevoke :
    Safe i (fun user' _ => user' = { user with sessionVersion := user.sessionVersion + 1 })
      (bumpVersionAndRevoke users id user) s :=
  (safe_of_asks (asks_store (asks_revokeAll id))).seq fun _ _ _ => .pure rfl

theorem safe_rename (username : Option String) :
    Safe i (fun user' _ => ∃ username, user' = { user with username })
      (rename users id user username) s := by
  cases username with
  | none => exact .pure ⟨user.username, rfl⟩
  | some username =>
    simp only [rename]
    split
    · exact (safe_of_asks (asks_ensureUniqueUsername username (some id))).seq
        fun _ _ _ => .pure ⟨username, rfl⟩
    · exact .pure ⟨user.username, rfl⟩

theorem safe_rescope (role : Role) (tenantId : Option TenantId) :
    Safe i (fun user' _ => user.Bumps user') (rescope users id user role tenantId) s := by
  have bump (s : State) : Safe i (fun user' _ => user.Bumps user')
      (bumpVersionAndRevoke users id { user with role, tenantId }) s := by
    refine (safe_bumpVersionAndRevoke id _).mono ?_
    rintro user' _ rfl _
    rfl
  unfold rescope
  split
  · dsimp only
    split
    · exact (safe_of_asks (asks_ensureNotLastActiveAdmin id user)).seq
        fun _ s _ => bump s
    · exact bump s
  · exact .pure fun alters => absurd alters (by simp [User.Alters])

theorem safe_restatus (status : UserStatus) :
    Safe i (fun user' _ => user.Bumps user') (restatus users id user status) s := by
  unfold restatus
  split
  · refine (safe_bumpVersionAndRevoke id _).mono ?_
    rintro user' _ rfl _
    rfl
  · exact .pure fun alters => absurd alters (by simp [User.Alters])

theorem safe_flush {id : UserId} {user : User} (bumps : loaded.Bumps user) :
    Safe i (fun _ _ => True) (flush id loaded user) s := by
  intro now rely good (answer : Bool) after executed
  refine ⟨guar_flush rely.1 bumps good executed, ?_⟩
  change Safe i _ (if answer = false then _ else _) after
  split
  · exact .throw _
  · exact .pure trivial

theorem safe_updateUser (username : Option String) (role : Option Role)
    (tenantId : Option TenantId) :
    Safe i (fun _ _ => True) (updateUser users id username role tenantId) s := by
  refine (safe_of_asks (asks_getExistingUser none id)).seq fun loaded s _ => ?_
  refine (safe_of_asks (asks_validateRoleTenant _ _)).seq fun _ s _ => ?_
  refine (safe_rename id loaded username).seq ?_
  rintro _ s ⟨username, rfl⟩
  refine (safe_rescope id _ _ _).seq fun user s bumps => ?_
  exact (safe_flush (show loaded.Bumps user from bumps)).seq fun _ _ _ => .pure trivial

theorem safe_setStatus (held : Option User) (id : UserId) (status : UserStatus) :
    Safe i (fun _ _ => True) (setStatus users held id status) s := by
  refine (safe_of_asks (asks_getExistingUser held id)).seq fun loaded s _ => ?_
  have rest (s : State) : Safe i (fun _ _ => True)
      (restatus users id loaded status >>= fun user =>
        users.flush id loaded user >>= fun _ => pure user) s :=
    (safe_restatus id loaded status).seq fun user s bumps =>
      (safe_flush bumps).seq fun _ _ _ => .pure trivial
  change Safe i _ (if status = .disabled then _ else _) s
  split
  · exact (safe_of_asks (asks_ensureNotLastActiveAdmin id loaded)).seq
      fun _ s _ => rest s
  · exact rest s

theorem safe_resetPassword (hash : String → String) (id : UserId) (newPassword : String) :
    Safe i (fun _ _ => True) (resetPassword users hash id newPassword) s := by
  refine (safe_of_asks (asks_getExistingUser none id)).seq fun loaded s _ => ?_
  refine (safe_bumpVersionAndRevoke id _).seq ?_
  rintro user s rfl
  exact (safe_flush fun _ => rfl).seq fun _ _ _ => .pure trivial

theorem safe_getDb {Result : α → Prop} {body : Request α}
    (safe : Safe i (fun a _ => Result a) body s) : Safe i (fun a _ => Result a) (getDb body) s := by
  refine Safe.transaction safe ?_ ?_
  · intro s now answer after rely _ executed
    cases executed
    exact guar_commit rely.1
  · intro s now answer after rely _ executed
    cases executed
    exact guar_rollback rely.1

theorem exec_now (s : State) : State.exec i (.redis .now) s = some (s.redis.clock, s) := by
  simp only [State.exec, State.writtenBy, List.append_nil]
  rfl

theorem exec_get (s : State) (sid : Sid) :
    State.exec i (.redis (.get sid)) s = some (s.redis.session? sid, s) := by
  simp only [State.exec, State.writtenBy, List.append_nil]
  rfl

theorem known_of_session (sound : s.Sound) {session : SessionData}
    (found : s.redis.session? sid = some session) :
    (sid, session.userId, session.sessionVersion) ∈ s.written := by
  obtain ⟨⟨session', expires⟩, stored, kept⟩ := Option.bind_eq_some_iff.mp found
  obtain ⟨_, ⟨⟩⟩ := Option.ite_none_right_eq_some.mp kept
  exact sound.stored sid session expires stored

section

variable (settings : Sessions.Settings)

/-- The session a `get` finds has been written, and is written again as it was. -/
theorem safe_get (sid : Sid) :
    Safe i (fun session s => ∀ found, session = some found →
      (sid, found.userId, found.sessionVersion) ∈ s.written)
      (store (Sessions.get settings sid)) s := by
  intro now rely _ raw after executed
  cases (exec_get now sid).symm.trans executed
  refine ⟨guar_refl rely.1, ?_⟩
  cases found : now.redis.session? sid with
  | none =>
    intro session same found isSome
    cases same
    cases isSome
  | some session =>
    have known := known_of_session rely.1 found
    -- the clock is read to see whether the session is over
    intro now' rely' _ time after' executed'
    cases (exec_now now').symm.trans executed'
    have known' := rely'.2.1.written known
    refine ⟨guar_refl rely'.1, ?_⟩
    change Safe i _ (store (if decide (session.absoluteExpiry ≤ now'.redis.clock) = true then _
      else _)) now'
    split
    · -- it is: nothing is returned
      change Safe i _ (store (Sessions.revoke sid >>= fun _ => Prog.ret none)) now'
      rw [store_bind]
      refine (safe_of_asks (asks_store (asks_revoke sid))).seq fun _ s _ => ?_
      intro result same found isSome
      cases same
      cases isSome
    · intro now₂ rely₂ _ time after₂ executed₂
      cases (exec_now now₂).symm.trans executed₂
      have known₂ := rely₂.2.1.written known'
      refine ⟨guar_refl rely₂.1, ?_⟩
      intro now₃ rely₃ _ answer after₃ executed₃
      cases executed₃
      have known₃ := rely₃.2.1.written known₂
      refine ⟨guar_refresh rely₃.1 known₃, fun result same found isSome => ?_⟩
      cases same
      cases isSome
      exact List.mem_append_left _ known₃

/-- A session that is created has the version of a row that was there. -/
theorem safe_create {id : UserId} (ip : Option String) (drew : s.drawn[sid]? = some i)
    (unwritten : s.Unwritten sid)
    (current : ∃ row, s.users.lookup id = some row ∧ version ≤ row.sessionVersion) :
    Safe i (fun _ _ => True) (store (Sessions.create settings sid id version ip)) s := by
  intro now rely _ time after executed
  cases (exec_now now).symm.trans executed
  refine ⟨guar_refl rely.1, ?_⟩
  intro now' rely' _ answer after' executed'
  cases executed'
  have both := rely_trans i s now now' rely rely'
  refine ⟨guar_create rely'.1 (both.2.1.drawnBy drew) (both.2.2 sid drew unwritten) ?_, ?_⟩
  · obtain ⟨row, found, le⟩ := both.2.1.reached current
    intro row' found'
    cases found.symm.trans found'
    exact le
  · intro now'' rely'' _ answer' after'' executed''
    exact ⟨guar_of_harmless (c := .redis (.sadd id sid)) rfl rely''.1 executed'', fun _ _ => trivial⟩

theorem safe_login (verify : String → String → Bool) (username password : String)
    (ip : Option String) :
    Safe i (fun _ _ => True) (login (logins settings) verify username password ip) s := by
  intro now rely _ found after executed
  cases executed
  refine ⟨guar_refl rely.1, ?_⟩
  cases first : userByName now.lower now.users username with
  | none => exact Safe.throw _
  | some e =>
    obtain ⟨id, user⟩ := e
    have current : ∃ row, now.users.lookup id = some row ∧
        user.sessionVersion ≤ row.sessionVersion :=
      ⟨user, (userByName_eq_some first).1, le_rfl⟩
    change Safe i _ (tenantOf users.selectTenant user >>= fun tenant => _) now
    refine (safe_frame (safe_of_asks (asks_tenantOf user))
      (fun _ _ before => before.reached) current).seq ?_
    rintro tenant s ⟨current, -⟩
    dsimp only
    -- three checks, and each of them ends in the same failure
    split
    · exact .throw _
    split
    · exact .throw _
    split
    · exact .throw _
    · intro now₁ rely₁ _ time after₁ executed₁
      cases (exec_now now₁).symm.trans executed₁
      refine ⟨guar_refl rely₁.1, ?_⟩
      intro now₂ rely₂ _ drawn after₂ executed₂
      cases executed₂
      refine ⟨guar_newSessionId rely₂.1, ?_⟩
      -- the new id is nobody else's
      have drew : (now₂.drawn ++ [i])[now₂.drawn.length]? = some i := List.getElem?_concat_length
      have created := safe_create (s := { now₂ with drawn := now₂.drawn ++ [i] }) settings ip
        drew (unwritten_next rely₂.1) (rely₂.2.1.reached (rely₁.2.1.reached current))
      refine created.seq fun sid s _ => ?_
      have bumps : user.Bumps { user with lastLoginAt := some now₁.redis.clock } :=
        fun alters => absurd alters (by simp [User.Alters])
      exact (safe_flush bumps).seq fun _ _ _ => .pure trivial

end

/-- A session that is cut off is rejected. -/
theorem safe_resolveCurrentUser (env : Env) (sid : Sid) :
    Safe i (fun _ _ => sid ∉ s.cut) (resolveCurrentUser env sid) s := by
  have lasts (s₁ s₂ : State) (before : s₁.Before s₂) (still : sid ∈ s.cut → sid ∈ s₁.cut) :
      sid ∈ s.cut → sid ∈ s₂.cut := fun cut => before.cut (still cut)
  refine (safe_frame (safe_get env.settings sid) lasts fun cut => cut).seq ?_
  rintro session s₁ ⟨cut, known⟩
  cases session with
  | none => exact .throw _
  | some session =>
    have written := known session rfl
    intro now rely _ found after executed
    cases executed
    refine ⟨guar_refl rely.1, ?_⟩
    cases sees : now.rowFor i session.userId with
    | none => exact Safe.throw _
    | some user =>
      change Safe i _ (tenantOf users.selectTenant user >>= fun tenant => _) now
      refine (safe_of_asks (asks_tenantOf user)).seq fun tenant s₂ _ => ?_
      dsimp only
      split
      · exact .throw _
      next accepted =>
        refine .pure fun wasCut => accepted (.inr (.inl ?_))
        -- the row has been raised over the version of the session
        obtain ⟨row, committed, raises⟩ := raises_rowFor rely.1 sees
        have older := rely.1.behind sid (rely.2.1.cut (cut wasCut)) _ _ row
          (rely.2.1.written written) committed
        have le := raises.le
        omega

theorem safe_patch (username : Option String) (role : Option Role) (tenantId : Option TenantId)
    (status : Option UserStatus) :
    Safe i (fun _ _ => True) (do
      let user ← updateUser users id username role tenantId
      match status with
      | some status => setStatus users (some user) id status
      | none => return user) s := by
  refine (safe_updateUser id username role tenantId).seq fun user s _ => ?_
  cases status with
  | none => exact .pure trivial
  | some status => exact safe_setStatus (some user) id status

theorem safe_prog (env : Env) (op : Op) :
    Safe i (fun _ _ => ∀ sid ∈ s.cut, op ≠ .resolve sid) (op.prog env) s := by
  cases op with
  | login username password ip =>
    exact (safe_getDb (safe_login env.settings env.verifyPassword username password ip)).seq
      fun _ _ _ => .pure (by simp)
  | patch id username role tenantId status =>
    exact (safe_getDb (safe_patch id username role tenantId status)).seq
      fun _ _ _ => .pure (by simp)
  | resetPassword id newPassword =>
    exact (safe_getDb (safe_resetPassword env.hashPassword id newPassword)).seq
      fun _ _ _ => .pure (by simp)
  | resolve sid =>
    refine (safe_resolveCurrentUser env sid).seq fun _ _ live => .pure ?_
    rintro sid' cut same
    cases same
    exact live cut

end Requests

/-! ## All requests together -/

/-- What a request may answer. -/
def Allowed (started : Started) (r : Except HttpError Reply) : Prop :=
  ∀ sid ∈ started.cut, started.op = .resolve sid → ∀ reply, r ≠ .ok reply

structure World.Inv (p : World) : Prop where
  sound : p.state.Sound
  guarded : p.Guarded accounts Good Rely Guar Allowed

theorem World.inv_initial (lower : String → String) (clock : Nat)
    (users : Table UserId User) (tenants : Table TenantId TenantStatus) :
    (World.initial lower clock users tenants).Inv := by
  constructor
  case guarded => exact fun i t found => nomatch found
  case sound => constructor <;> simp [World.initial]

theorem World.Inv.step {env : Env} {p p' : World} {label : Label} (inv : p.Inv)
    (careful : NothingOverwritten p label p') (stepped : p.step env label = some p') : p'.Inv := by
  cases label with
  | start op =>
    cases stepped
    refine ⟨inv.sound, inv.guarded.start ?_⟩
    refine Prog.Guarded.mono (safe_prog env op) fun r _ live sid cut same reply ok => ?_
    exact live reply ok sid cut same
  | turn i =>
    obtain ⟨guar, guarded⟩ := inv.guarded.turn rely_trans rely_of_guar (rely_refl inv.sound i)
      careful stepped
    exact ⟨guar.1, guarded⟩
  | abort i =>
    simp only [World.step] at stepped
    split at stepped
    next tag c next found =>
      cases stepped
      have guar : Guar i p.state (p.state.rollback i) := guar_rollback inv.sound
      refine ⟨guar.1, inv.guarded.others rely_trans (fun j other => ?_) trivial⟩
      exact rely_of_guar i j _ _ (Ne.symm other) guar
    · cases stepped
  | tick seconds =>
    cases stepped
    -- sessions expire when they are read
    have rely (j : Nat) : Rely j p.state { p.state with
        redis := { p.state.redis with clock := p.state.redis.clock + seconds } } :=
      rely_of_guar (j + 1) j _ _ (Nat.succ_ne_self j) (guar_redis inv.sound fun _ _ found => found)
    exact ⟨(rely 0).1, inv.guarded.all rely_trans rely⟩

/-- If no UPDATE overwrites a version its transaction has not seen, a change of the credentials cuts
off the sessions that were there when it was committed. -/
theorem old_sessions_rejected (env : Env) (lower : String → String) (clock : Nat)
    (users : Table UserId User) (tenants : Table TenantId TenantStatus) (labels : List Label)
    (careful : RunAll (World.step env) NothingOverwritten (.initial lower clock users tenants) labels)
    (p : World) (ran : run (World.step env) (.initial lower clock users tenants) labels = some p) :
    CutOff p := by
  have preserved (p : World) (label : Label) (p' : World) (inv : p.Inv)
      (careful : NothingOverwritten p label p') (stepped : p.step env label = some p') : p'.Inv :=
    inv.step careful stepped
  have inv : p.Inv :=
    run_invariant_of_runAll preserved (World.inv_initial lower clock users tenants) careful ran
  intro t member sid cut same reply returned
  obtain ⟨tag, prog⟩ := t
  subst returned
  exact inv.guarded.result member sid cut same reply rfl

/-! The password of alice is reset while a login is under way. -/

instance (i : Nat) : (c : Call) → (s : State) → Decidable (Good i c s)
  | .flush _ _ _, _ => inferInstanceAs (Decidable (_ → _))
  | .redis _, _ | .newSessionId, _ | .selectUser _, _ | .selectByUsername _, _
  | .selectTenant _, _ | .otherActiveAdmins _, _ | .commit, _ | .rollback, _ => .isTrue trivial

instance (p : World) : (label : Label) → (p' : World) → Decidable (NothingOverwritten p label p')
  | .turn i, _ => inferInstanceAs (Decidable (p.NextGood Good i))
  | .start _, _ | .abort _, _ | .tick _, _ => .isTrue trivial

def plainEnv : Env where
  settings := ⟨1800, 28800⟩
  hashPassword := fun password => password
  verifyPassword := fun password hash => decide (password = hash)

def alice : User := ⟨none, .admin, "alice", "a", .active, 1, none⟩

def onlyAlice : Table UserId User := AList.insert 1 alice ∅

/-- The session is created between the revocation and the commit of the reset. -/
def loginDuringReset : List Label :=
  [.start (.resetPassword 1 "b"), .turn 0, .turn 0, .turn 0, .start (.login "alice" "a" none)] ++
    List.replicate 8 (.turn 1) ++ [.turn 0, .turn 0, .start (.resolve 0)] ++
    List.replicate 5 (.turn 2)

/-- Two resets load the row; a login with the password of the first one is done before the second one
is committed. -/
def overlappingResets : List Label :=
  [.start (.resetPassword 1 "b"), .turn 0, .start (.resetPassword 1 "c"), .turn 1, .turn 1, .turn 1,
    .turn 0, .turn 0, .turn 0, .turn 0, .start (.login "alice" "b" none)] ++
    List.replicate 8 (.turn 2) ++ [.turn 1, .turn 1, .start (.resolve 0)] ++
    List.replicate 5 (.turn 3)

theorem loginDuringReset_rejected :
    RunAll (World.step plainEnv) NothingOverwritten (.initial asciiLower 0 onlyAlice ∅)
        loginDuringReset ∧
      ∃ p, run (World.step plainEnv) (.initial asciiLower 0 onlyAlice ∅) loginDuringReset = some p ∧
        p.state.cut = [0] ∧ CutOff p := by
  have careful : RunAll (World.step plainEnv) NothingOverwritten (.initial asciiLower 0 onlyAlice ∅)
      loginDuringReset := by decide
  exact ⟨careful, _, rfl, rfl,
    old_sessions_rejected plainEnv asciiLower 0 onlyAlice ∅ loginDuringReset careful _ rfl⟩

/-- The session that was created with the old password is accepted after the reset. -/
theorem overlappingResets_not_rejected :
    ∃ p, run (World.step plainEnv) (.initial asciiLower 0 onlyAlice ∅) overlappingResets = some p ∧
      ¬ CutOff p := by
  refine ⟨_, rfl, fun cutOff => ?_⟩
  exact cutOff _ (List.mem_of_getElem? (i := 3) rfl) 0 (by decide) rfl _ rfl

end ScrubbingGateway.Control.Accounts
