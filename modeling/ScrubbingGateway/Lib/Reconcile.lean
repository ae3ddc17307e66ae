import Mathlib.Logic.Basic

/-!
# Reconcilers with a cache

A reconciler drives a plane to a desired value through a writer, and remembers the last value that a
write reported as set. A write is a list of updates; one that reports a failure may have made any
number of them.
-/

namespace Reconcile

variable {Value Plane : Type}

def applyAll (updates : List (Plane → Plane)) (plane : Plane) : Plane :=
  updates.foldl (fun current update => update current) plane

/-- A complete write leaves a plane that holds the value. -/
structure Writer (Value Plane : Type) where
  updates : Value → List (Plane → Plane)
  Holds : Plane → Value → Prop
  written : ∀ value plane, Holds (applyAll (updates value) plane) value

inductive Report where
  | done
  /-- A failure after some of the updates. -/
  | failed (made : Nat)

/-- The plane after a write, and whether the writer reports it as done. -/
def Writer.write (writer : Writer Value Plane) (value : Value) (plane : Plane) :
    Report → Plane × Bool
  | .done => (applyAll (writer.updates value) plane, true)
  | .failed made => (applyAll ((writer.updates value).take made) plane, false)

/-- What the reconciler believes the plane holds, beside the plane. -/
structure Cached (Value Plane : Type) where
  asserted : Option Value
  plane : Plane
  /-- Kept by nobody: a write was reported as failed after the value was asserted. -/
  failed : Bool

/-- If the desired value is the asserted one, the plane holds it. -/
def Sound (writer : Writer Value Plane) (desired : Value) (s : Cached Value Plane) : Prop :=
  s.asserted = some desired → writer.Holds s.plane desired

/-- Soundness, and that the asserted value is in the plane as long as no write has failed. -/
structure Tracks (writer : Writer Value Plane) (desired : Value) (s : Cached Value Plane) : Prop where
  sound : Sound writer desired s
  kept : s.failed = false → ∀ value, s.asserted = some value → writer.Holds s.plane value

/-- A change of the desired value does not bring the asserted one back after a failed write. -/
def Clean (desired desired' : Value) (s : Cached Value Plane) : Prop :=
  desired' ≠ desired → s.asserted = some desired' → s.failed = false

variable {writer : Writer Value Plane} {s : Cached Value Plane} {desired desired' : Value}

theorem tracks_of_unasserted (unasserted : s.asserted = none) : Tracks writer desired s := by
  constructor <;> simp [Sound, unasserted]

theorem Tracks.change (tracks : Tracks writer desired s) (clean : Clean desired desired' s) :
    Tracks writer desired' s := by
  refine ⟨fun same => ?_, tracks.kept⟩
  by_cases back : desired' = desired
  · exact back ▸ tracks.sound (back ▸ same)
  · exact tracks.kept (clean back same) desired' same

variable [DecidableEq Value]

instance : Decidable (Clean desired desired' s) := inferInstanceAs (Decidable (_ → _ → _))

/-- One tick: a write when the desired value is not the one asserted. -/
def tick (writer : Writer Value Plane) (desired : Value) (report : Report)
    (s : Cached Value Plane) : Cached Value Plane :=
  if s.asserted = some desired then s
  else
    let result := writer.write desired s.plane report
    ⟨if result.2 then some desired else s.asserted, result.1, !result.2⟩

/-- A tick keeps track whatever the write reports. -/
theorem Tracks.tick (tracks : Tracks writer desired s) (report : Report) :
    Tracks writer desired (tick writer desired report s) := by
  unfold Reconcile.tick
  split
  · exact tracks
  next drift =>
    cases report with
    | done =>
      have written := writer.written desired s.plane
      exact ⟨fun _ => written, fun _ value same => Option.some.inj same ▸ written⟩
    | failed made => exact ⟨fun same => absurd same drift, nofun⟩

end Reconcile
