import Mathlib.Algebra.BigOperators.Group.List.Basic
import Mathlib.Tactic.Ring
import Mathlib.Tactic.Linarith

/-!
# Token buckets and their window bound

A bucket earns `rate` tokens per `period` of time, up to a capacity. The credit of a bucket counts
its tokens and what the time since its stamp is worth; whatever a bucket does with a packet, its
credit bounds what it can let through.
-/

namespace TokenBucket

structure Params where
  rate : Nat
  period : Nat
  capacity : Nat

structure Bucket where
  tokens : Nat
  stamp : Nat

/-- What was spent at a time: nothing when the request was refused. -/
structure Event where
  time : Nat
  spent : Nat
deriving DecidableEq, Repr

def spent (events : List Event) : Nat := (events.map Event.spent).sum

def Event.within (s t : Nat) (e : Event) : Bool := decide (s ≤ e.time) && decide (e.time ≤ t)

/-- In every window, what was spent is at most the capacity and what the window earns, with one
unit of time more for each event in it. -/
def WindowBound (p : Params) (events : List Event) : Prop :=
  ∀ s t, s ≤ t →
    spent (events.filter (Event.within s t)) * p.period ≤
      p.capacity * p.period + (t - s + (events.filter (Event.within s t)).length) * p.rate

/-- Tokens and unearned time, in units of one token over one period. -/
def credit (p : Params) (b : Bucket) (now : Nat) : Nat :=
  b.tokens * p.period + (now - b.stamp) * p.rate

variable {p : Params} {b b' : Bucket} {e : Event} {events : List Event}

/-- What an event may do: its spending comes out of the credit, up to one unit of rounding. -/
structure Served (p : Params) (b : Bucket) (e : Event) (b' : Bucket) : Prop where
  stamp_le : b'.stamp ≤ e.time
  credit_le : credit p b' e.time + e.spent * p.period ≤ credit p b e.time + p.rate

/-- A run in which no event finds a bucket whose credit exceeds its capacity. -/
inductive TimelyRun (p : Params) : Bucket → List Event → Prop where
  | nil (b : Bucket) : TimelyRun p b []
  | cons {b b' : Bucket} {e : Event} {events : List Event} (stamp_le : b.stamp ≤ e.time)
      (timely : credit p b e.time ≤ p.capacity * p.period) (served : Served p b e b')
      (sorted : ∀ later ∈ events, e.time ≤ later.time) (rest : TimelyRun p b' events) :
      TimelyRun p b (e :: events)

theorem credit_later {now now' : Nat} (stamped : b.stamp ≤ now) (later : now ≤ now') :
    credit p b now' = credit p b now + (now' - now) * p.rate := by
  obtain ⟨d, rfl⟩ := Nat.exists_eq_add_of_le later
  have split : now + d - b.stamp = (now - b.stamp) + d := by omega
  rw [credit, credit, split, Nat.add_sub_cancel_left]
  ring

theorem spent_cons (e : Event) (events : List Event) :
    spent (e :: events) = e.spent + spent events := by
  rw [spent, List.map_cons, List.sum_cons]
  rfl

theorem filter_within_after {s t : Nat} (after : ∀ e ∈ events, t < e.time) :
    events.filter (Event.within s t) = [] := by
  rw [List.filter_eq_nil_iff]
  intro e member within
  rw [Event.within, Bool.and_eq_true, decide_eq_true_eq, decide_eq_true_eq] at within
  exact absurd within.2 (Nat.not_le.mpr (after e member))

/-- The events of a run after a moment spend at most the credit at that moment and what is earned
from there. -/
theorem TimelyRun.spent_le (run : TimelyRun p b events) {s t now : Nat} (opened : s ≤ now)
    (stamped : b.stamp ≤ now) (now_le : now ≤ t) (future : ∀ e ∈ events, now ≤ e.time) :
    spent (events.filter (Event.within s t)) * p.period ≤
      credit p b now + (t - now + (events.filter (Event.within s t)).length) * p.rate := by
  induction run generalizing now with
  | nil b => simp [spent]
  | @cons b b' e events stamp_le timely served sorted rest ih =>
    have now_le_e := future e List.mem_cons_self
    by_cases inside : e.time ≤ t
    · have within : Event.within s t e = true := by
        simp [Event.within, opened.trans now_le_e, inside]
      have tail := ih (opened.trans now_le_e) served.stamp_le inside sorted
      have head := served.credit_le
      rw [credit_later stamped now_le_e] at head
      rw [List.filter_cons_of_pos within, spent_cons, List.length_cons]
      -- the time up to the event and the time after it add up
      obtain ⟨d, time_eq⟩ := Nat.exists_eq_add_of_le now_le_e
      obtain ⟨d', t_eq⟩ := Nat.exists_eq_add_of_le inside
      have before : e.time - now = d := by omega
      have after : t - e.time = d' := by omega
      have whole : t - now = d + d' := by omega
      rw [before] at head
      rw [after] at tail
      rw [whole]
      linarith
    · -- the run has left the window
      have gone : ∀ later ∈ e :: events, t < later.time := by
        intro later member
        rcases List.mem_cons.mp member with rfl | member
        · exact Nat.not_le.mp inside
        · exact (Nat.not_le.mp inside).trans_le (sorted later member)
      rw [filter_within_after gone]
      simp [spent]

/-- A timely run keeps the bound in every window. -/
theorem TimelyRun.windowBound (run : TimelyRun p b events) : WindowBound p events := by
  induction run with
  | nil b =>
    intro s t _
    simp [spent]
  | @cons b b' e events stamp_le timely served sorted rest ih =>
    intro s t s_le_t
    by_cases inside : Event.within s t e = true
    · have times := inside
      rw [Event.within, Bool.and_eq_true, decide_eq_true_eq, decide_eq_true_eq] at times
      have whole := TimelyRun.cons stamp_le timely served sorted rest
      have future : ∀ later ∈ e :: events, e.time ≤ later.time := by
        intro later member
        rcases List.mem_cons.mp member with rfl | member
        · exact le_rfl
        · exact sorted later member
      refine (whole.spent_le times.1 stamp_le times.2 future).trans ?_
      have shorter : t - e.time ≤ t - s := Nat.sub_le_sub_left times.1 t
      gcongr
    · rw [List.filter_cons_of_neg inside]
      exact ih s t s_le_t

end TokenBucket
