import ScrubbingGateway.Lib.Prog
import Mathlib.Data.List.Basic

/-!
# Programs that run side by side

A pool of programs takes turns at the calls they make to one shared state. What a program does is
said under an assumption on the answers it gets (`Meets`), so that it survives the calls the others
make in between.
-/

/-- What the calls of an interface do to a state that several programs share. The first argument is
the number of the program that calls; a call that has to wait has no result. -/
structure Shared (State Call : Type) (Answer : Call → Type) where
  exec : Nat → (c : Call) → State → Option (Answer c × State)

structure Thread (Tag Call : Type) (Answer : Call → Type) (α : Type) where
  tag : Tag
  prog : Prog Call Answer α

structure Pool (State Tag Call : Type) (Answer : Call → Type) (α : Type) where
  state : State
  threads : List (Thread Tag Call Answer α)

namespace Pool

variable {State Tag Call α : Type} {Answer : Call → Type}

def start (p : Pool State Tag Call Answer α) (thread : Thread Tag Call Answer α) :
    Pool State Tag Call Answer α :=
  { p with threads := p.threads ++ [thread] }

/-- The program with this number makes its next call. -/
def turn (m : Shared State Call Answer) (p : Pool State Tag Call Answer α) (i : Nat) :
    Option (Pool State Tag Call Answer α) :=
  match p.threads[i]? with
  | some ⟨tag, .call c next⟩ =>
    (m.exec i c p.state).map fun (answer, state) =>
      ⟨state, p.threads.set i ⟨tag, next answer⟩⟩
  | _ => none

variable {m : Shared State Call Answer} {p p' : Pool State Tag Call Answer α} {i : Nat}

/-- What a turn can do. -/
theorem turn_some (turned : p.turn m i = some p') :
    ∃ tag c next answer state, p.threads[i]? = some ⟨tag, .call c next⟩ ∧
      m.exec i c p.state = some (answer, state) ∧
      p' = ⟨state, p.threads.set i ⟨tag, next answer⟩⟩ := by
  unfold turn at turned
  split at turned
  next tag c next found =>
    obtain ⟨⟨answer, state⟩, executed, rfl⟩ := Option.map_eq_some_iff.mp turned
    exact ⟨tag, c, next, answer, state, found, executed, rfl⟩
  · cases turned

variable {thread : Thread Tag Call Answer α}

theorem mem_start {t : Thread Tag Call Answer α} :
    t ∈ (p.start thread).threads ↔ t ∈ p.threads ∨ t = thread := by
  simp [start]

variable {threads : List (Thread Tag Call Answer α)}

/-- A turn keeps what holds of every program if it does so for the one that calls. -/
theorem forall_set {Ok : Thread Tag Call Answer α → Prop} (own : Ok thread)
    (others : ∀ t ∈ threads, Ok t) : ∀ t ∈ threads.set i thread, Ok t := by
  intro t member
  rcases List.mem_or_eq_of_mem_set member with old | rfl
  · exact others t old
  · exact own

/-- A turn leaves the tags alone. -/
theorem exists_tag_set {P : Tag → Prop} {tag : Tag} {prog prog' : Prog Call Answer α}
    (found : threads[i]? = some ⟨tag, prog⟩) (named : ∃ t ∈ threads, P t.tag) :
    ∃ t ∈ threads.set i ⟨tag, prog'⟩, P t.tag := by
  obtain ⟨t, member, holds⟩ := named
  obtain ⟨j, inside, rfl⟩ := List.mem_iff_getElem.mp member
  by_cases same : i = j
  · subst same
    obtain ⟨_, here⟩ := List.getElem?_eq_some_iff.mp found
    rw [here] at holds
    exact ⟨_, List.mem_set inside _, holds⟩
  · refine ⟨threads[j], List.mem_iff_getElem.mpr ⟨j, by simpa using inside, ?_⟩, holds⟩
    rw [List.getElem_set_ne same]

end Pool

namespace Prog

variable {Call α β : Type} {Answer : Call → Type}

/-- As long as the answers it gets are possible, the program makes allowed calls only and returns
what `Post` allows. -/
def Meets (Allowed : Call → Prop) (Possible : (c : Call) → Answer c → Prop) (Post : α → Prop) :
    Prog Call Answer α → Prop
  | .ret a => Post a
  | .fail => True
  | .unfinished => True
  | .call c next =>
    Allowed c ∧ ∀ answer, Possible c answer → Meets Allowed Possible Post (next answer)

/-- The program makes a call with this property before it returns. -/
def Owes (Due : Call → Prop) : Prog Call Answer α → Prop
  | .ret _ => False
  | .fail => True
  | .unfinished => True
  | .call c next => Due c ∨ ∀ answer, Owes Due (next answer)

section Rules

variable {Allowed Allowed' : Call → Prop} {Possible Possible' : (c : Call) → Answer c → Prop}
  {Post Post' : α → Prop} {p : Prog Call Answer α}

theorem Meets.bind {f : α → Prog Call Answer β} {Final : β → Prop}
    (first : Meets Allowed Possible Post p) (rest : ∀ a, Post a → Meets Allowed Possible Final (f a)) :
    Meets Allowed Possible Final (p >>= f) := by
  induction p with
  | ret a => exact rest a first
  | fail | unfinished => trivial
  | call c next ih => exact ⟨first.1, fun answer possible => ih answer (first.2 answer possible)⟩

theorem Meets.mono (meets : Meets Allowed Possible Post p) (weaker : ∀ c, Allowed c → Allowed' c)
    (stronger : ∀ c answer, Possible' c answer → Possible c answer)
    (after : ∀ a, Post a → Post' a) : Meets Allowed' Possible' Post' p := by
  induction p with
  | ret a => exact after a meets
  | fail | unfinished => trivial
  | call c next ih =>
    exact ⟨weaker c meets.1, fun answer possible =>
      ih answer (meets.2 answer (stronger c answer possible))⟩

end Rules

end Prog

/-!
## Rely and guarantee

What a program does to the shared state is `Guar`, what it has to put up with from the others in
between is `Rely`. A pool keeps both when the guarantee of each program is relied on by the others.
Only runs count in which every call is made in a state that is `Good` for it.
-/

namespace Prog

variable {State Call α β : Type} {Answer : Call → Type}

/-- Whatever the others do in between, every call of the program keeps `Guar`, and `Post` holds of
what it returns. -/
def Guarded (exec : (c : Call) → State → Option (Answer c × State)) (Good : Call → State → Prop)
    (Rely Guar : State → State → Prop) (Post : α → State → Prop) :
    Prog Call Answer α → State → Prop
  | .ret a, s => Post a s
  | .fail, _ => True
  | .unfinished, _ => True
  | .call c next, s => ∀ now, Rely s now → Good c now →
      ∀ answer after, exec c now = some (answer, after) →
        Guar now after ∧ Guarded exec Good Rely Guar Post (next answer) after

variable {Final : β → State → Prop} {Fact : State → Prop} {Result : α → Prop}

section Rules

variable {exec : (c : Call) → State → Option (Answer c × State)} {Good : Call → State → Prop}
  {Rely Guar : State → State → Prop}
  {Post Post' : α → State → Prop} {p : Prog Call Answer α} {s now : State}

theorem Guarded.bind {f : α → Prog Call Answer β}
    (first : Guarded exec Good Rely Guar (fun a s => Guarded exec Good Rely Guar Final (f a) s) p s) :
    Guarded exec Good Rely Guar Final (p >>= f) s := by
  induction p generalizing s with
  | ret a => exact first
  | fail | unfinished => trivial
  | call c next ih =>
    intro now rely good answer after executed
    obtain ⟨guar, rest⟩ := first now rely good answer after executed
    exact ⟨guar, ih answer rest⟩

theorem Guarded.mono (guarded : Guarded exec Good Rely Guar Post p s)
    (after : ∀ a s, Post a s → Post' a s) : Guarded exec Good Rely Guar Post' p s := by
  induction p generalizing s with
  | ret a => exact after a s guarded
  | fail | unfinished => trivial
  | call c next ih =>
    intro now rely good answer later executed
    obtain ⟨guar, rest⟩ := guarded now rely good answer later executed
    exact ⟨guar, ih answer rest⟩

/-- A fact that neither the program nor the others take back still holds in the end. -/
theorem Guarded.frame (guarded : Guarded exec Good Rely Guar Post p s)
    (others : ∀ s now, Rely s now → Fact s → Fact now)
    (own : ∀ s after, Guar s after → Fact s → Fact after) (fact : Fact s) :
    Guarded exec Good Rely Guar (fun a s => Fact s ∧ Post a s) p s := by
  induction p generalizing s with
  | ret a => exact ⟨fact, guarded⟩
  | fail | unfinished => trivial
  | call c next ih =>
    intro now rely good answer after executed
    obtain ⟨guar, rest⟩ := guarded now rely good answer after executed
    exact ⟨guar, ih answer rest (own _ _ guar (others _ _ rely fact))⟩

/-- The others may do what the program relies on. -/
theorem Guarded.rely (trans : ∀ s now later, Rely s now → Rely now later → Rely s later)
    (guarded : Guarded exec Good Rely Guar (fun a _ => Result a) p s) (rely : Rely s now) :
    Guarded exec Good Rely Guar (fun a _ => Result a) p now := by
  cases p with
  | ret a => exact guarded
  | fail | unfinished => trivial
  | call c next => exact fun later rely' => guarded later (trans _ _ _ rely rely')

end Rules

/-!
## Programs that may stop with an error
-/

section Errors

variable {ε : Type}

/-- One call, as a part of a program that may stop with an error. -/
def ask (c : Call) : ExceptT ε (Prog Call Answer) (Answer c) :=
  Prog.call c fun answer => .ret (.ok answer)

/-- A body, followed by one call if it is done and by another one if it stops with an error. -/
def transaction (commit rollback : Call) (body : ExceptT ε (Prog Call Answer) α) :
    ExceptT ε (Prog Call Answer) α :=
  Prog.bind body fun
    | .ok a => .call commit fun _ => .ret (.ok a)
    | .error e => .call rollback fun _ => .ret (.error e)

/-- Every call keeps `Guar`, and `Post` holds of what is returned if it is not an error. -/
def Safe (exec : (c : Call) → State → Option (Answer c × State)) (Good : Call → State → Prop)
    (Rely Guar : State → State → Prop) (Post : α → State → Prop)
    (p : ExceptT ε (Prog Call Answer) α) (s : State) : Prop :=
  p.run.Guarded exec Good Rely Guar (fun r s => ∀ a, r = .ok a → Post a s) s

variable {exec : (c : Call) → State → Option (Answer c × State)} {Good : Call → State → Prop}
  {Rely Guar : State → State → Prop} {Post Post' : α → State → Prop}
  {p : ExceptT ε (Prog Call Answer) α} {s : State} {Harmless : Call → Prop}
  {f : α → ExceptT ε (Prog Call Answer) β}

theorem Safe.bind
    (first : Safe exec Good Rely Guar (fun a s => Safe exec Good Rely Guar Final (f a) s) p s) :
    Safe exec Good Rely Guar Final (p >>= f) s := by
  refine Guarded.bind (f := ExceptT.bindCont f) (Guarded.mono first ?_)
  intro r s rest
  cases r with
  | ok a => exact rest a rfl
  | error e => exact fun _ error => nomatch error

theorem Safe.mono (safe : Safe exec Good Rely Guar Post p s)
    (weaker : ∀ a s, Post a s → Post' a s) : Safe exec Good Rely Guar Post' p s :=
  Guarded.mono safe fun _ s post a ok => weaker a s (post a ok)

theorem Safe.seq (first : Safe exec Good Rely Guar Post p s)
    (rest : ∀ a s, Post a s → Safe exec Good Rely Guar Final (f a) s) :
    Safe exec Good Rely Guar Final (p >>= f) s :=
  .bind (first.mono rest)

theorem Safe.pure {a : α} (post : Post a s) :
    Safe exec Good Rely Guar Post (pure a : ExceptT ε (Prog Call Answer) α) s := by
  intro b same
  cases same
  exact post

theorem Safe.throw (e : ε) :
    Safe exec Good Rely Guar Post (throw e : ExceptT ε (Prog Call Answer) α) s :=
  fun _ error => nomatch error

/-- A fact that lasts still holds in the end. -/
theorem Safe.frame (safe : Safe exec Good Rely Guar Post p s)
    (others : ∀ s now, Rely s now → Fact s → Fact now)
    (own : ∀ s after, Guar s after → Fact s → Fact after) (fact : Fact s) :
    Safe exec Good Rely Guar (fun a s => Fact s ∧ Post a s) p s :=
  (Guarded.frame safe others own fact).mono fun _ _ both a ok => ⟨both.1, both.2 a ok⟩

/-- Calls that keep the guarantee whatever they answer. -/
theorem Safe.of_asks
    (harmless : ∀ c s now answer after, Harmless c → Rely s now →
      exec c now = some (answer, after) → Guar now after)
    (asks : Asks Harmless (fun _ _ => True) p.run) :
    Safe exec Good Rely Guar (fun _ _ => True) p s := by
  change Prog Call Answer (Except ε α) at p
  change Asks _ _ p at asks
  change Guarded _ _ _ _ _ p s
  induction p generalizing s with
  | ret r => exact fun _ _ => trivial
  | fail | unfinished => trivial
  | call c next ih =>
    intro now rely _ answer after executed
    exact ⟨harmless c s now answer after asks.1 rely executed, ih answer (asks.2 answer trivial)⟩

theorem Safe.transaction {commit rollback : Call}
    (safe : Safe exec Good Rely Guar (fun a _ => Result a) p s)
    (commits : ∀ s now answer after, Rely s now → Good commit now →
      exec commit now = some (answer, after) → Guar now after)
    (rollsBack : ∀ s now answer after, Rely s now → Good rollback now →
      exec rollback now = some (answer, after) → Guar now after) :
    Safe exec Good Rely Guar (fun a _ => Result a) (transaction commit rollback p) s := by
  refine Guarded.bind (Guarded.mono safe fun r s post => ?_)
  cases r with
  | ok a =>
    intro now rely good answer after executed
    refine ⟨commits s now answer after rely good executed, fun b same => ?_⟩
    cases same
    exact post a rfl
  | error e =>
    intro now rely good answer after executed
    exact ⟨rollsBack s now answer after rely good executed, fun _ error => nomatch error⟩

end Errors

end Prog

namespace Pool

variable {State Tag Call α : Type} {Answer : Call → Type}

/-- The next call of a program is made in a state that is good for it. -/
def NextGood (Good : Nat → Call → State → Prop) (p : Pool State Tag Call Answer α) (i : Nat) :
    Prop :=
  match p.threads[i]? with
  | some ⟨_, .call c _⟩ => Good i c p.state
  | _ => True

instance {Good : Nat → Call → State → Prop} [∀ i c s, Decidable (Good i c s)]
    (p : Pool State Tag Call Answer α) (i : Nat) : Decidable (p.NextGood Good i) :=
  match found : p.threads[i]? with
  | some ⟨_, .call c _⟩ => decidable_of_iff (Good i c p.state) (by simp only [NextGood, found])
  | some ⟨_, .ret _⟩ | some ⟨_, .fail⟩ | some ⟨_, .unfinished⟩ | none =>
    .isTrue (by simp only [NextGood, found])

/-- Every program of the pool keeps its guarantee under its assumption. -/
def Guarded (m : Shared State Call Answer) (Good : Nat → Call → State → Prop)
    (Rely Guar : Nat → State → State → Prop) (Result : Tag → α → Prop)
    (p : Pool State Tag Call Answer α) : Prop :=
  ∀ (i : Nat) (t : Thread Tag Call Answer α), p.threads[i]? = some t →
    t.prog.Guarded (m.exec i) (Good i) (Rely i) (Guar i) (fun a _ => Result t.tag a) p.state

variable {m : Shared State Call Answer} {Good : Nat → Call → State → Prop}
  {Rely Guar : Nat → State → State → Prop} {Result : Tag → α → Prop}
  {p p' : Pool State Tag Call Answer α} {i : Nat}

theorem Guarded.result (guarded : Guarded m Good Rely Guar Result p) {tag : Tag} {a : α}
    (member : ⟨tag, .ret a⟩ ∈ p.threads) : Result tag a := by
  obtain ⟨i, found⟩ := List.mem_iff_getElem?.mp member
  exact guarded i _ found

theorem Guarded.start (guarded : Guarded m Good Rely Guar Result p) {t : Thread Tag Call Answer α}
    (new : t.prog.Guarded (m.exec p.threads.length) (Good p.threads.length)
      (Rely p.threads.length) (Guar p.threads.length) (fun a _ => Result t.tag a) p.state) :
    Guarded m Good Rely Guar Result (p.start t) := by
  intro i t' found
  have inside := (List.getElem?_eq_some_iff.mp found).1
  rw [Pool.start, List.length_append, List.length_singleton] at inside
  by_cases old : i < p.threads.length
  · rw [Pool.start, List.getElem?_append_left old] at found
    exact guarded i t' found
  · obtain rfl : i = p.threads.length := by omega
    rw [Pool.start, List.getElem?_concat_length] at found
    cases found
    exact new

variable (trans : ∀ i s now later, Rely i s now → Rely i now later → Rely i s later)
include trans

/-- A step of one program, or of the environment, that the others rely on. -/
theorem Guarded.others (guarded : Guarded m Good Rely Guar Result p) {state : State}
    (rely : ∀ j, j ≠ i → Rely j p.state state) {t : Thread Tag Call Answer α}
    (own : t.prog.Guarded (m.exec i) (Good i) (Rely i) (Guar i) (fun a _ => Result t.tag a) state) :
    Guarded m Good Rely Guar Result ⟨state, p.threads.set i t⟩ := by
  intro j t' found
  by_cases same : i = j
  · subst same
    rw [List.getElem?_set_self'] at found
    obtain ⟨_, _, rfl⟩ := Option.map_eq_some_iff.mp found
    exact own
  · rw [List.getElem?_set_ne same] at found
    exact (guarded j t' found).rely (trans j) (rely j (Ne.symm same))

/-- A step of the environment that every program relies on. -/
theorem Guarded.all (guarded : Guarded m Good Rely Guar Result p) {state : State}
    (rely : ∀ j, Rely j p.state state) : Guarded m Good Rely Guar Result { p with state } :=
  fun j t found => (guarded j t found).rely (trans j) (rely j)

theorem Guarded.turn (fits : ∀ i j s now, i ≠ j → Guar i s now → Rely j s now)
    (guarded : Guarded m Good Rely Guar Result p) (here : Rely i p.state p.state)
    (good : p.NextGood Good i) (turned : p.turn m i = some p') :
    Guar i p.state p'.state ∧ Guarded m Good Rely Guar Result p' := by
  obtain ⟨tag, c, next, answer, state, found, executed, rfl⟩ := turn_some turned
  have good : Good i c p.state := by simpa only [NextGood, found] using good
  obtain ⟨guar, rest⟩ := guarded i _ found p.state here good answer state executed
  exact ⟨guar, guarded.others trans (fun j other => fits i j _ _ (Ne.symm other) guar) rest⟩

end Pool
