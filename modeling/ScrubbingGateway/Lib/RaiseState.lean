import Mathlib.Logic.Basic

/-!
# Functions that change a state and may raise

What such a function has done to the state stays done when it raises; whether it is undone is up to
its caller. `Ends` says how a function ends, and its rules follow the statements of the function.
-/

namespace RaiseState

variable {ε σ α β : Type}

abbrev Body (ε σ α : Type) : Type := ExceptT ε (StateM σ) α

/-- The result of a function, with the state it leaves. -/
def perform (body : Body ε σ α) (s : σ) : Except ε α × σ := StateT.run (ExceptT.run body) s

/-- What holds of a result and the state after it. -/
def Holds (Returns : α → σ → Prop) (Raises : ε → σ → Prop) : Except ε α × σ → Prop
  | (.ok a, s) => Returns a s
  | (.error e, s) => Raises e s

/-- From a state, the function returns or raises as said. -/
def Ends (body : Body ε σ α) (Returns : α → σ → Prop) (Raises : ε → σ → Prop) (s : σ) : Prop :=
  Holds Returns Raises (perform body s)

/-- The value of an answer; raise when there is none. -/
def orRaise (e : ε) : Option α → Body ε σ α
  | some a => pure a
  | none => throw e

section Rules

variable {Returns : α → σ → Prop} {Raises : ε → σ → Prop} {s : σ}

@[simp] theorem ends_pure (a : α) : Ends (pure a : Body ε σ α) Returns Raises s ↔ Returns a s :=
  Iff.rfl

@[simp] theorem ends_throw (e : ε) : Ends (throw e : Body ε σ α) Returns Raises s ↔ Raises e s :=
  Iff.rfl

@[simp] theorem ends_get {Returns : σ → σ → Prop} :
    Ends (get : Body ε σ σ) Returns Raises s ↔ Returns s s :=
  Iff.rfl

@[simp] theorem ends_modify {f : σ → σ} {Returns : PUnit → σ → Prop} :
    Ends (modify f : Body ε σ PUnit) Returns Raises s ↔ Returns ⟨⟩ (f s) :=
  Iff.rfl

@[simp] theorem ends_bind (body : Body ε σ β) (next : β → Body ε σ α) :
    Ends (body >>= next) Returns Raises s ↔
      Ends body (fun b s' => Ends (next b) Returns Raises s') Raises s := by
  have unfolded : perform (body >>= next) s =
      match perform body s with
      | (.ok b, s') => perform (next b) s'
      | (.error e, s') => (.error e, s') := by
    change StateT.run (ExceptT.run (body >>= next)) s = _
    rw [ExceptT.run_bind, StateT.run_bind]
    unfold perform
    cases StateT.run (ExceptT.run body) s with
    | mk result s' => cases result <;> rfl
  unfold Ends
  rw [unfolded]
  cases perform body s with
  | mk result s' => cases result <;> rfl

end Rules

end RaiseState
