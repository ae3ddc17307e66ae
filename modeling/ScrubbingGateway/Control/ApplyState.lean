import ScrubbingGateway.Control.Records

/-!
# The apply state machine

`app/core/applystate.py`, with the exceptions the ledger functions raise.
-/

namespace ScrubbingGateway.Control

inductive Raised where
  | illegalTransition (text : String)
  | nonMonotonicVersion (text : String)
  | notFailed (text : String)
  | valueError (text : String)
  | httpException (statusCode : Nat) (detail : String)
  | sqlAlchemyError
  deriving DecidableEq, Repr

def ApplyStatus.value : ApplyStatus → String
  | .pending => "pending"
  | .queued => "queued"
  | .applying => "applying"
  | .active => "active"
  | .failed => "failed"

def legalApply : ApplyStatus → List ApplyStatus
  | .pending => [.pending, .queued]
  | .queued => [.pending, .applying]
  | .applying => [.pending, .active, .failed]
  | .active => [.pending]
  | .failed => [.pending, .queued]

def assertTransition (current target : ApplyStatus) : Except Raised Unit :=
  if target ∈ legalApply current then
    .ok ()
  else
    .error (.illegalTransition
      ("Illegal apply transition: " ++ current.value ++ " -> " ++ target.value))

def assertActiveVersionAdvances (activeVersion : Option Nat) (new : Nat) : Except Raised Unit :=
  let previous : Int := activeVersion.elim (-1) Int.ofNat
  if (new : Int) ≤ previous then
    .error (.nonMonotonicVersion
      ("active_version must advance from " ++ toString previous ++ " to a greater value"))
  else
    .ok ()

def isTerminal : JobStatus → Bool
  | .succeeded | .failed | .superseded => true
  | .queued | .applying => false

theorem assertTransition_pending (current : ApplyStatus) :
    assertTransition current .pending = .ok () := by
  cases current <;> rfl

theorem assertTransition_ok_iff (current target : ApplyStatus) :
    assertTransition current target = .ok () ↔ target ∈ legalApply current := by
  unfold assertTransition
  split <;> simp_all

theorem assertActiveVersionAdvances_ok {activeVersion : Option Nat} {new : Nat}
    (below : ∀ v, activeVersion = some v → v < new) :
    assertActiveVersionAdvances activeVersion new = .ok () := by
  unfold assertActiveVersionAdvances
  rw [if_neg]
  cases activeVersion with
  | none =>
    simp only [Option.elim_none]
    omega
  | some v =>
    have advances := below v rfl
    simp only [Option.elim_some, Int.ofNat_eq_natCast]
    omega

end ScrubbingGateway.Control
