import Mathlib.Logic.Basic

/-!
# Programs that make calls to a machine

A program is the tree of its calls, so that it can be stopped between any two of them, each call
can be made to fail, and other programs can run in between. `Always` is the rule for what holds at
every such moment, whichever calls fail; `eval` is the run in which every call works.
-/

/-- A program over an interface of calls. It returns, gives up, is still running when its fuel is
used up, or makes a call and goes on with the answer. -/
inductive Prog (Call : Type) (Answer : Call → Type) (α : Type) : Type where
  | ret (a : α)
  | fail
  | unfinished
  | call (c : Call) (next : Answer c → Prog Call Answer α)

/-- What the calls of an interface do to a state, and what a failed call answers. A failed call
leaves the state as it was. -/
structure Machine (State Call : Type) (Answer : Call → Type) where
  exec : (c : Call) → State → Answer c × State
  fault : (c : Call) → Answer c

namespace Prog

variable {State Call α β : Type} {Answer : Call → Type}

def bind : Prog Call Answer α → (α → Prog Call Answer β) → Prog Call Answer β
  | .ret a, f => f a
  | .fail, _ => .fail
  | .unfinished, _ => .unfinished
  | .call c next, f => .call c fun answer => (next answer).bind f

instance : Monad (Prog Call Answer) where
  pure := .ret
  bind := bind

def request (c : Call) : Prog Call Answer (Answer c) := .call c .ret

/-- Go on only when a condition holds. -/
def require (condition : Bool) : Prog Call Answer Unit :=
  if condition then .ret () else .fail

/-- Go on with the value of an answer, or give up when there is none. -/
def expect : Option α → Prog Call Answer α
  | some a => .ret a
  | none => .fail

/-- Run a program only when a condition holds. -/
def when (condition : Prop) [Decidable condition] (p : Prog Call Answer Unit) :
    Prog Call Answer Unit :=
  if condition then p else .ret ()

/-- Go on with nothing where a program gives up. -/
def attempt : Prog Call Answer α → Prog Call Answer (Option α)
  | .ret a => .ret (some a)
  | .fail => .ret none
  | .unfinished => .unfinished
  | .call c next => .call c fun answer => (next answer).attempt

/-- Run a program for every element of a list in turn, threading a value. -/
def forEach (step : β → α → Prog Call Answer β) : List α → β → Prog Call Answer β
  | [], b => .ret b
  | a :: rest, b => (step b a).bind (forEach step rest)

/-- Whether the next call of a program works or fails. -/
inductive Fate where
  | works
  | faults
deriving DecidableEq, Repr

/-- A program together with the state its next call will see. -/
structure Running (State Call : Type) (Answer : Call → Type) (α : Type) where
  prog : Prog Call Answer α
  state : State

/-- One call of a running program. A program that is over stays as it is. -/
def step (m : Machine State Call Answer) :
    Running State Call Answer α → Fate → Running State Call Answer α
  | ⟨.call c next, s⟩, .works => ⟨next (m.exec c s).1, (m.exec c s).2⟩
  | ⟨.call c next, s⟩, .faults => ⟨next (m.fault c), s⟩
  | r, _ => r

/-- A running program after as many calls as there are fates: every prefix of a run, under every
choice of failing calls, is one of these. -/
def steps (m : Machine State Call Answer) (r : Running State Call Answer α)
    (fates : List Fate) : Running State Call Answer α :=
  fates.foldl (step m) r

inductive Outcome (α : Type) where
  | returned (a : α)
  | failed
  | unfinished
deriving DecidableEq, Repr

/-- The whole run of a program when every call works. -/
def eval (m : Machine State Call Answer) : Prog Call Answer α → State → Outcome α × State
  | .ret a, s => (.returned a, s)
  | .fail, s => (.failed, s)
  | .unfinished, s => (.unfinished, s)
  | .call c next, s => eval m (next (m.exec c s).1) (m.exec c s).2

/-- The calls of the run in which every call works, in their order. -/
def calls (m : Machine State Call Answer) : Prog Call Answer α → State → List Call
  | .ret _, _ => []
  | .fail, _ => []
  | .unfinished, _ => []
  | .call c next, s => c :: calls m (next (m.exec c s).1) (m.exec c s).2

/-- `Inv` holds at every moment of every run of the program from a state until it returns, whichever
of its calls fail, and `Post` holds of what it returns. -/
def Always (m : Machine State Call Answer) (Inv : State → Prop) (Post : α → State → Prop) :
    Prog Call Answer α → State → Prop
  | .ret a, s => Post a s
  | .fail, s => Inv s
  | .unfinished, s => Inv s
  | .call c next, s =>
    Inv s ∧ Always m Inv Post (next (m.exec c s).1) (m.exec c s).2 ∧
      Always m Inv Post (next (m.fault c)) s

@[simp] theorem bind_ret_self (p : Prog Call Answer α) : (p >>= fun a => ret a) = p := by
  induction p with
  | ret | fail | unfinished => rfl
  | call c next ih => exact congrArg (call c) (funext ih)

instance : LawfulMonad (Prog Call Answer) :=
  LawfulMonad.mk' (Prog Call Answer) bind_ret_self (fun _ _ => rfl)
    (fun p f g => by
      induction p with
      | ret a => rfl
      | fail => rfl
      | unfinished => rfl
      | call c next ih => exact congrArg (call c) (funext ih))

variable {a : α} {f : α → Prog Call Answer β} {condition : Bool} {body : β → α → Prog Call Answer β}

section Rules

variable {m : Machine State Call Answer} {Inv Inv' : State → Prop}
  {Post Post' : α → State → Prop} {p : Prog Call Answer α} {s : State}
  {r : Running State Call Answer α}

/-- The step lemma: `Always` holds of what is left to run after any call. -/
theorem Always.step (always : Always m Inv Post r.prog r.state) (fate : Fate) :
    Always m Inv Post (Prog.step m r fate).prog (Prog.step m r fate).state := by
  obtain ⟨p, s⟩ := r
  cases p with
  | ret | fail | unfinished => exact always
  | call c next =>
    cases fate with
    | works => exact always.2.1
    | faults => exact always.2.2

/-- The run lemma. -/
theorem Always.steps (always : Always m Inv Post r.prog r.state) (fates : List Fate) :
    Always m Inv Post (Prog.steps m r fates).prog (Prog.steps m r fates).state := by
  induction fates generalizing r with
  | nil => exact always
  | cons fate fates ih => exact ih (always.step fate)

section

variable (always : Always m Inv Post p s)
include always

/-- A run that has returned. -/
theorem Always.returned {fates : List Fate} {s' : State}
    (ran : Prog.steps m ⟨p, s⟩ fates = ⟨.ret a, s'⟩) : Post a s' := by
  have ended := Always.steps (r := ⟨p, s⟩) always fates
  rw [ran] at ended
  exact ended

theorem Always.inv (running : ∀ a, p ≠ .ret a) : Inv s := by
  cases p with
  | ret a => exact absurd rfl (running a)
  | fail | unfinished => exact always
  | call c next => exact always.1

theorem Always.mono (weaker : ∀ s, Inv s → Inv' s) (after : ∀ a s, Post a s → Post' a s) :
    Always m Inv' Post' p s := by
  induction p generalizing s with
  | ret a => exact after a s always
  | fail | unfinished => exact weaker s always
  | call c next ih => exact ⟨weaker s always.1, ih _ always.2.1, ih _ always.2.2⟩

end

theorem Always.of_forall (inv : ∀ s, Inv s) (post : ∀ a s, Post a s) : Always m Inv Post p s := by
  induction p generalizing s with
  | ret a => exact post a s
  | fail | unfinished => exact inv s
  | call c next ih => exact ⟨inv s, ih _, ih _⟩

variable {Final : β → State → Prop}

theorem Always.bind (first : Always m Inv Post p s)
    (rest : ∀ a s, Post a s → Always m Inv Final (f a) s) : Always m Inv Final (p >>= f) s := by
  induction p generalizing s with
  | ret a => exact rest a s first
  | fail | unfinished => exact first
  | call c next ih => exact ⟨first.1, ih _ first.2.1, ih _ first.2.2⟩

/-- The first program leaves one known state. -/
theorem Always.andThen {s' : State} (first : Always m Inv (fun _ now => now = s') p s)
    (rest : ∀ a, Always m Inv Final (f a) s') : Always m Inv Final (p >>= f) s := by
  refine first.bind ?_
  rintro a now rfl
  exact rest a

theorem Always.require {Post : Unit → State → Prop} (here : Inv s)
    (met : condition = true → Post () s) : Always m Inv Post (require condition) s := by
  cases condition with
  | true => exact met rfl
  | false => exact here

theorem Always.expect {answer : Option α} (here : Inv s)
    (met : ∀ a, answer = some a → Post a s) : Always m Inv Post (expect answer) s := by
  cases answer with
  | some a => exact met a rfl
  | none => exact here

theorem Always.require_bind {f : Unit → Prog Call Answer β} (here : Inv s)
    (rest : condition = true → Always m Inv Final (f ()) s) :
    Always m Inv Final (Prog.require condition >>= f) s := by
  cases condition with
  | true => exact rest rfl
  | false => exact here

theorem Always.expect_bind {answer : Option α} (here : Inv s)
    (rest : ∀ a, answer = some a → Always m Inv Final (f a) s) :
    Always m Inv Final (Prog.expect answer >>= f) s := by
  cases answer with
  | some a => exact rest a rfl
  | none => exact here

theorem Always.attempt (always : Always m Inv Post p s) :
    Always m Inv (fun a? s => a?.elim (Inv s) fun a => Post a s) p.attempt s := by
  induction p generalizing s with
  | ret | fail | unfinished => exact always
  | call c next ih => exact ⟨always.1, ih _ always.2.1, ih _ always.2.2⟩

/-- A loop keeps an assertion that says what its iterations so far have done. -/
theorem Always.forEach (Loop : List α → β → State → Prop) (list : List α)
    (iteration : ∀ done a rest, list = done ++ a :: rest → ∀ b s, Loop done b s →
      Always m Inv (Loop (done ++ [a])) (body b a) s) (b : β) (begun : Loop [] b s) :
    Always m Inv (Loop list) (forEach body list b) s := by
  suffices remaining : ∀ rest done b s, list = done ++ rest → Loop done b s →
      Always m Inv (Loop list) (Prog.forEach body rest b) s from
    remaining list [] b s rfl begun
  intro rest
  induction rest with
  | nil =>
    intro done b s whole reached
    rw [whole, List.append_nil]
    exact reached
  | cons a rest ih =>
    intro done b s whole reached
    refine (iteration done a rest whole b s reached).bind ?_
    intro b' s' reached'
    exact ih (done ++ [a]) b' s' (by simp [whole]) reached'

end Rules

/-- `Post` holds of what the run in which every call works returns, and `Fails` holds if it does not
return. -/
def Runs (m : Machine State Call Answer) (Fails : Prop) (Post : α → State → Prop) :
    Prog Call Answer α → State → Prop
  | .ret a, s => Post a s
  | .fail, _ => Fails
  | .unfinished, _ => Fails
  | .call c next, s => Runs m Fails Post (next (m.exec c s).1) (m.exec c s).2

/-- `Post` holds of what the run in which every call works returns, if it returns. -/
abbrev Ends (m : Machine State Call Answer) (Post : α → State → Prop) (p : Prog Call Answer α)
    (s : State) : Prop :=
  Runs m True Post p s

variable {Post : α → State → Prop} {Inv : State → Prop}

section Running

variable {m : Machine State Call Answer} {Fails : Prop} {p : Prog Call Answer α} {s : State}

variable {s' : State}

theorem Runs.returned (runs : Runs m Fails Post p s) (ran : eval m p s = (.returned a, s')) :
    Post a s' := by
  induction p generalizing s with
  | ret b =>
    cases ran
    exact runs
  | fail | unfinished => cases ran
  | call c next ih => exact ih _ runs ran

/-- A run that cannot fail returns. -/
theorem Runs.returns (runs : Runs m False Post p s) :
    ∃ a s', eval m p s = (.returned a, s') ∧ Post a s' := by
  induction p generalizing s with
  | ret a => exact ⟨a, s, rfl, runs⟩
  | fail | unfinished => exact runs.elim
  | call c next ih => exact ih _ runs

section

variable (ran : eval m p s = (.returned a, s'))
include ran

/-- A program whose run is known. -/
theorem Runs.of_eval (post : Post a s') : Runs m Fails Post p s := by
  induction p generalizing s with
  | ret b =>
    cases ran
    exact post
  | fail | unfinished => cases ran
  | call c next ih => exact ih _ ran

theorem eval_bind : eval m (p >>= f) s = eval m (f a) s' := by
  induction p generalizing s with
  | ret b =>
    cases ran
    rfl
  | fail | unfinished => cases ran
  | call c next ih => exact ih _ ran

theorem calls_bind : calls m (p >>= f) s = calls m p s ++ calls m (f a) s' := by
  induction p generalizing s with
  | ret b =>
    cases ran
    rfl
  | fail | unfinished => cases ran
  | call c next ih => exact congrArg (c :: ·) (ih _ ran)

/-- The run in which every call works, one call at a time. -/
theorem steps_of_eval :
    steps m ⟨p, s⟩ (List.replicate (calls m p s).length .works) = ⟨.ret a, s'⟩ := by
  induction p generalizing s with
  | ret b =>
    cases ran
    rfl
  | fail | unfinished => cases ran
  | call c next ih => exact ih _ ran

end

variable {Post' : α → State → Prop}

theorem Runs.mono (runs : Runs m Fails Post p s) (after : ∀ a s, Post a s → Post' a s) :
    Runs m Fails Post' p s := by
  induction p generalizing s with
  | ret a => exact after a s runs
  | fail | unfinished => exact runs
  | call c next ih => exact ih _ runs

theorem Runs.of_forall (all : ∀ a s, Post a s) : Ends m Post p s := by
  induction p generalizing s with
  | ret a => exact all a s
  | fail | unfinished => trivial
  | call c next ih => exact ih _

theorem Runs.bind {Post : β → State → Prop}
    (runs : Runs m Fails (fun a s => Runs m Fails Post (f a) s) p s) :
    Runs m Fails Post (p >>= f) s := by
  induction p generalizing s with
  | ret | fail | unfinished => exact runs
  | call c next ih => exact ih _ runs

theorem Runs.seq {Final : β → State → Prop} (first : Runs m Fails Post p s)
    (rest : ∀ a s, Post a s → Runs m Fails Final (f a) s) : Runs m Fails Final (p >>= f) s :=
  (first.mono rest).bind

theorem Runs.require {Post : Unit → State → Prop} (met : condition = true → Post () s)
    (unmet : Fails ∨ condition = true) : Runs m Fails Post (Prog.require condition) s := by
  unfold Prog.require
  split
  next holds => exact met holds
  next fails => exact unmet.resolve_right fails

/-- What holds if a program returns can be added to what is known about its run. -/
theorem Runs.and (runs : Runs m Fails Post p s) (ends : Ends m Post' p s) :
    Runs m Fails (fun a s => Post a s ∧ Post' a s) p s := by
  induction p generalizing s with
  | ret a => exact ⟨runs, ends⟩
  | fail | unfinished => exact runs
  | call c next ih => exact ih _ runs ends

/-- The run in which every call works is one of those `Always` speaks about. -/
theorem Always.ends (always : Always m Inv Post p s) : Ends m Post p s := by
  induction p generalizing s with
  | ret a => exact always
  | fail | unfinished => trivial
  | call c next ih => exact ih _ always.2.1

/-- What every call keeps, every program keeps. -/
theorem Runs.of_preserved {Keeps : State → Prop}
    (preserved : ∀ c s, Keeps s → Keeps (m.exec c s).2) (here : Keeps s) :
    Ends m (fun _ s => Keeps s) p s := by
  induction p generalizing s with
  | ret a => exact here
  | fail | unfinished => trivial
  | call c next ih => exact ih _ (preserved c s here)

theorem Runs.forEach (Loop : List α → β → State → Prop) (list : List α)
    (iteration : ∀ done a rest, list = done ++ a :: rest → ∀ b s, Loop done b s →
      Runs m Fails (Loop (done ++ [a])) (body b a) s) (b : β) (begun : Loop [] b s) :
    Runs m Fails (Loop list) (Prog.forEach body list b) s := by
  suffices remaining : ∀ rest done b s, list = done ++ rest → Loop done b s →
      Runs m Fails (Loop list) (Prog.forEach body rest b) s from
    remaining list [] b s rfl begun
  intro rest
  induction rest with
  | nil =>
    intro done b s whole reached
    rw [whole, List.append_nil]
    exact reached
  | cons a rest ih =>
    intro done b s whole reached
    refine (iteration done a rest whole b s reached).seq ?_
    intro b' s' reached'
    exact ih (done ++ [a]) b' s' (by simp [whole]) reached'

end Running

/-- The program only reads: whatever it is run on stays as it is. -/
def Quiet (m : Machine State Call Answer) (p : Prog Call Answer α) : Prop :=
  ∀ s, Always m (fun now => now = s) (fun _ now => now = s) p s

section Reading

variable {m : Machine State Call Answer} {p : Prog Call Answer α}

theorem Quiet.always (quiet : Quiet m p) {s : State} (here : Inv s) :
    Always m Inv (fun _ now => now = s) p s :=
  (quiet s).mono (fun _ same => same ▸ here) fun _ _ same => same

theorem Quiet.bind (first : Quiet m p) (rest : ∀ a, Quiet m (f a)) : Quiet m (p >>= f) := by
  intro s
  refine (first s).bind ?_
  rintro a now rfl
  exact rest a now

theorem Quiet.request {c : Call} (reads : ∀ s, (m.exec c s).2 = s) :
    Quiet m (request c : Prog Call Answer _) := by
  intro s
  exact ⟨rfl, reads s, rfl⟩

theorem Quiet.require (condition : Bool) :
    Quiet m (Prog.require condition : Prog Call Answer Unit) := by
  intro s
  exact Always.require rfl fun _ => rfl

theorem Quiet.expect (answer : Option α) : Quiet m (Prog.expect answer : Prog Call Answer α) := by
  intro s
  exact Always.expect rfl fun _ _ => rfl

theorem Quiet.ret (a : α) : Quiet m (Prog.ret a : Prog Call Answer α) := fun _ => rfl

theorem Quiet.forEach (quiet : ∀ b a, Quiet m (body b a)) (list : List α) (b : β) :
    Quiet m (forEach body list b) := by
  induction list generalizing b with
  | nil => exact Quiet.ret b
  | cons a rest ih => exact (quiet b a).bind fun b' => ih b'

end Reading

/-- Every call the program makes is allowed, as long as the answers it got were possible. -/
def Asks (Allowed : Call → Prop) (Possible : (c : Call) → Answer c → Prop) :
    Prog Call Answer α → Prop
  | .ret _ => True
  | .fail => True
  | .unfinished => True
  | .call c next => Allowed c ∧ ∀ answer, Possible c answer → Asks Allowed Possible (next answer)

variable {m : Machine State Call Answer}

section Asking

variable {Allowed Allowed' : Call → Prop} {Possible Possible' : (c : Call) → Answer c → Prop}
  {p : Prog Call Answer α}

theorem Asks.bind (first : Asks Allowed Possible p) (rest : ∀ a, Asks Allowed Possible (f a)) :
    Asks Allowed Possible (p >>= f) := by
  induction p with
  | ret a => exact rest a
  | fail | unfinished => trivial
  | call c next ih => exact ⟨first.1, fun answer possible => ih answer (first.2 answer possible)⟩

theorem Asks.mono (asks : Asks Allowed Possible p) (weaker : ∀ c, Allowed c → Allowed' c)
    (stronger : ∀ c answer, Possible' c answer → Possible c answer) :
    Asks Allowed' Possible' p := by
  induction p with
  | ret | fail | unfinished => trivial
  | call c next ih =>
    exact ⟨weaker c asks.1, fun answer possible =>
      ih answer (asks.2 answer (stronger c answer possible))⟩

/-- What the allowed calls keep, the program keeps. -/
theorem Asks.eval (Keeps : State → Prop) {s : State} (asks : Asks Allowed (fun _ _ => True) p)
    (preserved : ∀ c s, Allowed c → Keeps s → Keeps (m.exec c s).2) (here : Keeps s) :
    Keeps (eval m p s).2 := by
  induction p generalizing s with
  | ret | fail | unfinished => exact here
  | call c next ih => exact ih _ (asks.2 _ trivial) (preserved c s asks.1 here)

theorem Asks.calls {s : State} (asks : Asks Allowed (fun _ _ => True) p) :
    ∀ c ∈ calls m p s, Allowed c := by
  induction p generalizing s with
  | ret | fail | unfinished => exact List.forall_mem_nil _
  | call c next ih => exact List.forall_mem_cons.mpr ⟨asks.1, ih _ (asks.2 _ trivial)⟩

end Asking

/-- The program never uses up its fuel, whatever its calls answer. -/
def Total : Prog Call Answer α → Prop
  | .ret _ => True
  | .fail => True
  | .unfinished => False
  | .call _ next => ∀ answer, Total (next answer)

/-- The program has returned or given up. -/
def Over : Prog Call Answer α → Prop
  | .ret _ => True
  | .fail => True
  | .unfinished => False
  | .call _ _ => False

section Totality

variable {p : Prog Call Answer α}

@[grind ←] theorem Total.bind (first : Total p) (rest : ∀ a, Total (f a)) : Total (p >>= f) := by
  induction p with
  | ret a => exact rest a
  | fail => trivial
  | unfinished => exact first
  | call c next ih => exact fun answer => ih answer (first answer)

@[grind ←] theorem total_ret (a : α) : Total (.ret a : Prog Call Answer α) := trivial

@[grind ←] theorem total_pure (a : α) : Total (pure a : Prog Call Answer α) := trivial

@[grind ←] theorem total_request (c : Call) : Total (request c : Prog Call Answer _) :=
  fun _ => trivial

@[grind ←] theorem total_require (condition : Bool) :
    Total (require condition : Prog Call Answer Unit) := by
  cases condition <;> trivial

@[grind ←] theorem total_expect (answer : Option α) : Total (expect answer : Prog Call Answer α) := by
  cases answer <;> trivial

@[grind ←] theorem Total.when {p : Prog Call Answer Unit} (total : Total p) (condition : Prop)
    [Decidable condition] : Total (Prog.when condition p) := by
  unfold Prog.when
  split
  · exact total
  · trivial

@[grind ←] theorem Total.forEach {list : List α} (total : ∀ a ∈ list, ∀ b, Total (body b a)) (b : β) :
    Total (Prog.forEach body list b) := by
  induction list generalizing b with
  | nil => trivial
  | cons a rest ih =>
    rw [List.forall_mem_cons] at total
    exact (total.1 b).bind fun b' => ih total.2 b'

theorem Over.steps (ended : Over p) (s : State) (fates : List Fate) :
    Prog.steps m ⟨p, s⟩ fates = ⟨p, s⟩ := by
  induction fates with
  | nil => rfl
  | cons fate fates ih =>
    cases p with
    | ret | fail => exact ih
    | unfinished | call => exact ended.elim

/-- A program that does not use up its fuel comes to an end, whichever calls fail. -/
theorem Total.ends (total : Total p) (s : State) :
    ∃ n, ∀ fates : List Fate, n ≤ fates.length → Over (Prog.steps m ⟨p, s⟩ fates).prog := by
  induction p generalizing s with
  | ret a => exact ⟨0, fun fates _ => (Over.steps (p := .ret a) trivial s fates).symm ▸ trivial⟩
  | fail => exact ⟨0, fun fates _ => (Over.steps (p := .fail) trivial s fates).symm ▸ trivial⟩
  | unfinished => exact total.elim
  | call c next ih =>
    -- the longer of the two ways the call can go
    obtain ⟨worked, ends⟩ := ih (m.exec c s).1 (total _) (m.exec c s).2
    obtain ⟨failed, ends'⟩ := ih (m.fault c) (total _) s
    refine ⟨max worked failed + 1, fun fates enough => ?_⟩
    cases fates with
    | nil => exact absurd enough (by simp)
    | cons fate fates =>
      simp only [List.length_cons] at enough
      cases fate with
      | works => exact ends fates (by omega)
      | faults => exact ends' fates (by omega)

end Totality

/-- With some amount of fuel the program comes to an end from a state, whichever calls fail. -/
def Finishes (m : Machine State Call Answer) (p : (fuel : Nat) → Prog Call Answer α) (s : State) :
    Prop :=
  ∃ fuel n, ∀ fates : List Fate, n ≤ fates.length → Over (steps m ⟨p fuel, s⟩ fates).prog

section Hanging

variable {m : Machine State Call Answer} {p : Prog Call Answer α} {s : State}

theorem unfinished_bind (hangs : (eval m p s).1 = .unfinished) (f : α → Prog Call Answer β) :
    (eval m (p >>= f) s).1 = .unfinished := by
  induction p generalizing s with
  | ret | fail => cases hangs
  | unfinished => rfl
  | call c next ih => exact ih _ hangs

/-- A program that returns, and hangs afterwards. -/
theorem Runs.unfinished (runs : Runs m False Post p s)
    (hangs : ∀ a s, Post a s → (eval m (f a) s).1 = .unfinished) :
    (eval m (p >>= f) s).1 = .unfinished := by
  obtain ⟨a, s', ran, post⟩ := runs.returns
  rw [eval_bind ran]
  exact hangs a s' post

/-- The run in which every call works goes on for as long as there is fuel. -/
theorem not_over_of_unfinished (hangs : (eval m p s).1 = .unfinished) (n : Nat) :
    ¬Over (steps m ⟨p, s⟩ (List.replicate n .works)).prog := by
  induction n generalizing p s with
  | zero =>
    cases p with
    | ret | fail => cases hangs
    | unfinished | call => exact id
  | succ n ih =>
    cases p with
    | ret | fail => cases hangs
    | unfinished => exact ih hangs
    | call c next => exact ih (p := next (m.exec c s).1) hangs

theorem not_finishes_of_unfinished {p : (fuel : Nat) → Prog Call Answer α}
    (hangs : ∀ fuel, (eval m (p fuel) s).1 = .unfinished) : ¬Finishes m p s := by
  rintro ⟨fuel, n, ended⟩
  exact not_over_of_unfinished (hangs fuel) n (ended _ (Nat.le_of_eq List.length_replicate.symm))

end Hanging

end Prog
