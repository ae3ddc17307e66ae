import ScrubbingGateway.Lib.Transition
import Mathlib.Data.List.Nodup
import Mathlib.Data.List.Range

/-!
# Fetch completions and the loop of the worker

The coordinator runs one feed fetch at a time. Its completion goes through a queue to the main loop
of the worker, which waits for it together with the Redis pop and the stop event. Tasks of the event
loop run one at a time; the main loop is one of them and gives way wherever it awaits another one.
-/

namespace ScrubbingGateway.Control.FeedCompletion

open Transition

/-- A task the main loop created. -/
inductive Task (α : Type) where
  | pending
  /-- `cancel()` was called: its next turn raises `CancelledError`. -/
  | cancelling
  | done (result : α)
  | cancelled
deriving DecidableEq, Repr

/-- `done()` -/
def Task.finished {α : Type} : Task α → Bool
  | done _ | cancelled => true
  | pending | cancelling => false

/-- Where the main loop is. Completions are numbered in the order of their fetches. -/
inductive Main where
  /-- At the top of the loop. -/
  | loop
  /-- It awaits something that has nothing to do with the queue: a pop of its own, a job, a
  reconciliation, a back-off. -/
  | elsewhere
  /-- `_wait_for_work` awaits its three tasks. -/
  | waiting
  /-- `_wait_for_work` has a completion and awaits the cancelled pop. -/
  | discardingPop (c : Nat)
  /-- `_wait_for_work` has a completion and awaits the cancelled stop task. -/
  | discardingStop (c : Nat)
  /-- `_wait_for_work` has a pop and awaits the cancelled stop task. -/
  | droppingStop
  /-- `_wait_for_work` has a pop and awaits the cancelled completion task. -/
  | droppingGetter
  /-- It awaits `_complete_feed_fetch`. -/
  | completing (c : Nat)
  | stopped
deriving DecidableEq, Repr

structure Worker where
  stopSet : Bool
  /-- The fetch that holds the slot of the coordinator. -/
  active : Option Nat
  fetching : Bool
  queue : List Nat
  pop : Task Unit
  stop : Task Unit
  getter : Task Nat
  main : Main
  /-- How many fetches were started. -/
  started : Nat
  /-- The completions that were put on the queue, that were handed to `_complete_feed_fetch`, and
  whose slot was released. -/
  put : List Nat
  handed : List Nat
  released : List Nat
  /-- The turns of the main loop since the last completion was put on the queue. -/
  waited : Nat

inductive Which where
  | pop
  | stop
  | getter
deriving DecidableEq, Repr

inductive Label where
  | setStop
  /-- `_start_feed_fetch` -/
  | startFetch
  /-- `_run_fetch` puts its completion on the queue. -/
  | fetchFinishes
  | popRuns
  | stopRuns
  /-- The completion task takes the first item of the queue. -/
  | getterRuns
  /-- A cancelled task has its turn. -/
  | cancelRuns (which : Which)
  | mainRuns
  /-- `_complete_feed_fetch` is over, with a database error or without. -/
  | completed (failed : Bool)
  /-- The stop event ends the wait for `_complete_feed_fetch`. -/
  | interrupted
deriving DecidableEq, Repr

namespace Worker

/-- The loop goes on with a completion. -/
def hand (w : Worker) (c : Nat) : Worker :=
  if w.stopSet then { w with main := .stopped }
  else { w with main := .completing c, handed := w.handed ++ [c] }

/-- The loop goes on with what was popped. -/
def leave (w : Worker) : Worker :=
  { w with main := if w.stopSet then .stopped else .elsewhere }

/-- A turn of the main loop, until it awaits the next time. -/
def resume (w : Worker) : Option Worker :=
  match w.main with
  | .loop =>
    if w.stopSet then some { w with main := .stopped }
    else
      match w.active, w.queue with
      | none, _ => some { w with main := .elsewhere }
      | some _, [] =>
        some { w with main := .waiting, pop := .pending, stop := .pending, getter := .pending }
      | some _, c :: queue => some ({ w with queue }.hand c)
  | .elsewhere => some { w with main := .loop }
  | .waiting =>
    if w.stop.finished then some { w with main := .stopped }
    else
      match w.getter with
      | .done c =>
        if w.pop.finished then some { w with stop := .cancelling, main := .discardingStop c }
        else some { w with pop := .cancelling, main := .discardingPop c }
      | _ =>
        if w.pop.finished then some { w with stop := .cancelling, main := .droppingStop }
        else none
  | .discardingPop c =>
    if w.pop.finished then
      if w.stop.finished then some (w.hand c)
      else some { w with stop := .cancelling, main := .discardingStop c }
    else none
  | .discardingStop c => if w.stop.finished then some (w.hand c) else none
  | .droppingStop =>
    if w.stop.finished then
      -- a completion task that is done by now is not cancelled, and not asked for its result
      if w.getter.finished then some w.leave
      else some { w with getter := .cancelling, main := .droppingGetter }
    else none
  | .droppingGetter => if w.getter.finished then some w.leave else none
  | .completing _ => none
  | .stopped => none

def step (w : Worker) : Label → Option Worker
  | .setStop => some { w with stopSet := true }
  | .startFetch =>
    if w.main = .elsewhere ∧ w.active = none then
      some { w with active := some w.started, fetching := true, started := w.started + 1 }
    else none
  | .fetchFinishes =>
    w.active.bind fun c =>
      if w.fetching then
        some { w with fetching := false, queue := w.queue ++ [c], put := w.put ++ [c], waited := 0 }
      else none
  | .popRuns => if w.pop = .pending then some { w with pop := .done () } else none
  | .stopRuns =>
    if w.stop = .pending ∧ w.stopSet then some { w with stop := .done () } else none
  | .getterRuns =>
    match w.getter, w.queue with
    | .pending, c :: queue => some { w with getter := .done c, queue }
    | _, _ => none
  | .cancelRuns .pop => if w.pop = .cancelling then some { w with pop := .cancelled } else none
  | .cancelRuns .stop => if w.stop = .cancelling then some { w with stop := .cancelled } else none
  | .cancelRuns .getter =>
    if w.getter = .cancelling then some { w with getter := .cancelled } else none
  | .mainRuns => w.resume.map fun w => { w with waited := w.waited + 1 }
  | .completed failed =>
    match w.main with
    | .completing c =>
      -- `release` refuses a completion that does not own the slot, and the error ends the loop
      if w.active = some c then
        some { w with
          active := none
          released := w.released ++ [c]
          main := if failed then .elsewhere else .loop
          waited := w.waited + 1 }
      else some { w with main := .stopped }
    | _ => none
  | .interrupted =>
    match w.main with
    | .completing _ => if w.stopSet then some { w with main := .stopped } else none
    | _ => none

def initial : Worker where
  stopSet := false
  active := none
  fetching := false
  queue := []
  pop := .cancelled
  stop := .cancelled
  getter := .cancelled
  main := .loop
  started := 0
  put := []
  handed := []
  released := []
  waited := 0

end Worker

/-- A turn of the worker's own tasks. -/
def Label.internal : Label → Bool
  | .getterRuns | .cancelRuns _ | .mainRuns | .completed _ => true
  | _ => false

/-- Every completion is handed over once, within five turns of the main loop, which can always be
taken, and its slot is released with the next one. -/
structure Accounted (w : Worker) : Prop where
  once : w.handed.Nodup
  handed : ∀ c ∈ w.put, c ∈ w.handed ∨ w.waited < 5
  goesOn : (∃ c ∈ w.put, c ∉ w.handed) → ∃ label, label.internal = true ∧ (w.step label).isSome
  released : ∀ c ∈ w.handed, c ∈ w.released ∨ w.main = .completing c ∧ w.active = some c
  free : ∀ c ∈ w.released, w.active ≠ some c

/-- The completion task does not finish while the loop has a pop and awaits the stop task. -/
def NotWhileDropping (w : Worker) (label : Label) (_ : Worker) : Prop :=
  label = .getterRuns → w.main ≠ .droppingStop

/-! ## Where the completion of the last fetch is -/

inductive Spot where
  /-- The slot is free. -/
  | idle
  | fetching
  | queued
  /-- The completion task has it. -/
  | taken
  | completing
deriving DecidableEq, Repr

namespace Spot

/-- What is on the queue when the last fetch is number `n`. -/
def queue (n : Nat) : Spot → List Nat
  | queued => [n]
  | _ => []

def slot (n : Nat) : Spot → Option Nat
  | idle => none
  | _ => some n

/-- How many fetches were started when `n` slots have been released. -/
def started (n : Nat) : Spot → Nat
  | idle => n
  | _ => n + 1

def put (n : Nat) : Spot → Nat
  | idle | fetching => n
  | _ => n + 1

def handed (n : Nat) : Spot → Nat
  | completing => n + 1
  | _ => n

end Spot

/-- A task was cancelled. -/
def Task.Ending {α : Type} (task : Task α) : Prop := task = .cancelling ∨ task = .cancelled

/-- How the tasks stand while the main loop is somewhere. -/
def Fits (w : Worker) (n : Nat) : Spot → Main → Prop
  | _, .stopped => True
  | .idle, .loop | .idle, .elsewhere => w.getter ≠ .pending
  | .fetching, .loop | .fetching, .elsewhere | .queued, .loop | .queued, .elsewhere =>
    w.getter ≠ .pending
  | .fetching, .waiting | .queued, .waiting => w.getter = .pending
  | .fetching, .droppingStop | .queued, .droppingStop => w.getter = .pending ∧ w.stop.Ending
  | .fetching, .droppingGetter | .queued, .droppingGetter => w.getter.Ending
  | .taken, .waiting => w.getter = .done n
  | .taken, .discardingPop c => c = n ∧ w.getter = .done n ∧ w.pop.Ending
  | .taken, .discardingStop c => c = n ∧ w.getter = .done n ∧ w.stop.Ending
  | .completing, .completing c => c = n ∧ w.getter ≠ .pending
  | _, _ => False

-- its equations, before many proofs wait for them
attribute [local grind =] Fits

/-- The turns until a completion is handed over, at most. -/
@[simp] def Main.turns : Main → Nat
  | waiting => 5
  | droppingStop => 4
  | droppingGetter => 3
  | elsewhere | discardingPop _ => 2
  | loop | discardingStop _ => 1
  | completing _ | stopped => 0

structure At (spot : Spot) (n : Nat) (w : Worker) : Prop where
  active : w.active = spot.slot n
  started : w.started = spot.started n
  fetching : w.fetching = decide (spot = .fetching)
  queue : w.queue = spot.queue n
  put : w.put = List.range (spot.put n)
  handed : w.handed = List.range (spot.handed n)
  released : w.released = List.range n
  fits : Fits w n spot w.main
  inTime : spot = .queued ∨ spot = .taken → w.waited + w.main.turns ≤ 5

def Inv (w : Worker) : Prop := ∃ spot n, At spot n w

theorem inv_initial : Inv .initial := by
  exact ⟨.idle, 0, rfl, rfl, rfl, rfl, rfl, rfl, rfl, (fun pending => nomatch pending), by simp⟩

section Steps

variable {w next : Worker} {spot : Spot} {n : Nat}

section

variable (here : At spot n w)
include here

theorem At.startFetch (stepped : w.step .startFetch = some next) : At .fetching n next := by
  obtain ⟨free, ⟨⟩⟩ := Option.ite_none_right_eq_some.mp stepped
  have idle : spot = .idle := by
    have slot := here.active.symm.trans free.2
    cases spot <;> first | rfl | cases slot
  subst idle
  have fits := here.fits
  rw [free.1] at fits
  refine ⟨congrArg some here.started, congrArg (· + 1) here.started, rfl, here.queue, here.put,
    here.handed, here.released, ?_, by simp⟩
  show Fits _ n .fetching w.main
  rw [free.1]
  exact fits

theorem At.fetchFinishes (stepped : w.step .fetchFinishes = some next) : At .queued n next := by
  obtain ⟨c, active, stepped⟩ := Option.bind_eq_some_iff.mp stepped
  obtain ⟨fetching, ⟨⟩⟩ := Option.ite_none_right_eq_some.mp stepped
  have running : spot = .fetching := of_decide_eq_true (here.fetching.symm.trans fetching)
  subst running
  obtain rfl : n = c := Option.some.inj (here.active.symm.trans active)
  have fits := here.fits
  refine ⟨here.active, here.started, rfl, ?_, ?_, here.handed, here.released, ?_, ?_⟩
  · show w.queue ++ [n] = [n]
    rw [here.queue]
    rfl
  · show w.put ++ [n] = List.range (n + 1)
    rw [here.put, List.range_succ]
    rfl
  · show Fits _ n .queued w.main
    cases main : w.main <;> rw [main] at fits <;> exact fits
  · intro _
    show 0 + w.main.turns ≤ 5
    rw [Nat.zero_add]
    cases w.main <;> simp

/-- A task the main loop does not look at, or that it waits for, has its turn. -/
theorem At.taskRuns {pop stop : Task Unit} {getter : Task Nat} (popRuns : w.pop.Ending → pop.Ending)
    (stopRuns : w.stop.Ending → stop.Ending)
    (getterRuns : w.getter ≠ getter → w.getter = .cancelling ∧ getter = .cancelled) :
    At spot n { w with pop, stop, getter } := by
  refine { here with fits := ?_ }
  have fits := here.fits
  show Fits _ n spot w.main
  by_cases same : w.getter = getter
  · subst same
    generalize w.main = main at fits ⊢
    cases spot <;> cases main <;> simp_all [Fits]
  · obtain ⟨was, rfl⟩ := getterRuns same
    generalize w.main = main at fits ⊢
    cases spot <;> cases main <;> simp_all [Fits, Task.Ending]

theorem At.getterRuns (careful : w.main ≠ .droppingStop) (stepped : w.step .getterRuns = some next) :
    At .taken n next := by
  simp only [Worker.step] at stepped
  split at stepped
  next c queue pending listed =>
    cases stepped
    have queued : spot = .queued := by
      have items := here.queue.symm.trans listed
      cases spot <;> first | rfl | cases items
    subst queued
    obtain ⟨rfl, rfl⟩ := List.cons.inj (here.queue.symm.trans listed)
    refine ⟨here.active, here.started, here.fetching, rfl, here.put, here.handed, here.released, ?_,
      fun _ => here.inTime (.inl rfl)⟩
    -- the only other wait with a pending completion task is the one that is excluded
    have fits := here.fits
    show Fits _ n .taken w.main
    generalize w.main = main at fits careful ⊢
    cases main <;> simp_all [Fits, Task.Ending]
  · cases stepped

end

/-- One more turn of the main loop. -/
def Worker.turned (w : Worker) : Worker := { w with waited := w.waited + 1 }

theorem At.move (here : At spot n w) (pop stop : Task Unit) (getter : Task Nat) (main : Main)
    (fits : Fits { w with pop, stop, getter, main } n spot main)
    (closer : main.turns + 1 ≤ w.main.turns ∨ spot = .idle ∨ spot = .fetching) :
    Inv ({ w with pop, stop, getter, main }.turned) := by
  refine ⟨spot, n, { here with fits, inTime := fun pending => ?_ }⟩
  show w.waited + 1 + main.turns ≤ 5
  have inTime := here.inTime pending
  rcases closer with closer | rfl | rfl
  · omega
  · simp at pending
  · simp at pending

theorem At.hand (here : At .taken n w) (getter : w.getter ≠ .pending) (soon : w.waited + 1 ≤ 5) :
    Inv (w.hand n).turned := by
  unfold Worker.hand
  split
  · exact ⟨.taken, n, { here with fits := trivial, inTime := fun _ => soon }⟩
  · refine ⟨.completing, n, here.active, here.started, here.fetching, here.queue, here.put, ?_,
      here.released, ⟨rfl, getter⟩, by simp⟩
    show w.handed ++ [n] = List.range (n + 1)
    rw [here.handed, List.range_succ]
    rfl

variable {after : Worker}

section

variable (here : At spot n w)
include here

theorem At.resume_loop (main : w.main = .loop) (resumed : w.resume = some after) :
    Inv after.turned := by
  have fits := here.fits
  rw [main] at fits
  simp only [Worker.resume, main] at resumed
  split at resumed
  · cases resumed
    exact here.move w.pop w.stop w.getter .stopped trivial (.inl (by simp [main]))
  next running =>
    split at resumed
    next free =>
      cases resumed
      have idle : spot = .idle := by
        have slot := here.active.symm.trans free
        cases spot <;> first | rfl | cases slot
      subst idle
      exact here.move w.pop w.stop w.getter .elsewhere fits (.inr (.inl rfl))
    next c busy empty =>
      cases resumed
      have fetching : spot = .fetching := by
        have slot := here.active.symm.trans busy
        have items := here.queue.symm.trans empty
        cases spot with
        | idle => cases slot
        | fetching => rfl
        | queued => cases items
        | taken | completing => exact fits.elim
      subst fetching
      exact here.move .pending .pending .pending .waiting rfl (.inr (.inr rfl))
    next c first queue busy listed =>
      cases resumed
      have queued : spot = .queued := by
        have items := here.queue.symm.trans listed
        cases spot <;> first | rfl | cases items
      subst queued
      obtain ⟨rfl, rfl⟩ := List.cons.inj (here.queue.symm.trans listed)
      -- as if the completion task had taken it
      have soon := here.inTime (.inl rfl)
      rw [main] at soon
      have popped : At .taken n { w with queue := [], main := .stopped } :=
        ⟨here.active, here.started, here.fetching, rfl, here.put, here.handed, here.released, trivial,
          fun _ => Nat.le_of_succ_le soon⟩
      have handed := popped.hand fits soon
      simpa only [Worker.hand, running, if_false] using handed

theorem At.resume_waiting (main : w.main = .waiting) (resumed : w.resume = some after) :
    Inv after.turned := by
  have fits := here.fits
  rw [main] at fits
  simp only [Worker.resume, main] at resumed
  split at resumed
  · cases resumed
    exact here.move w.pop w.stop w.getter .stopped trivial (.inl (by simp [main]))
  split at resumed
  next c got =>
    have taken : spot = .taken ∧ c = n := by
      cases spot <;> simp_all [Fits]
    obtain ⟨rfl, rfl⟩ := taken
    split at resumed
    · cases resumed
      exact here.move w.pop .cancelling w.getter (.discardingStop c) ⟨rfl, got, .inl rfl⟩
        (.inl (by simp [main]))
    · cases resumed
      exact here.move .cancelling w.stop w.getter (.discardingPop c) ⟨rfl, got, .inl rfl⟩
        (.inl (by simp [main]))
  next nothing =>
    obtain ⟨_, ⟨⟩⟩ := Option.ite_none_right_eq_some.mp resumed
    refine here.move w.pop .cancelling w.getter .droppingStop ?_
      (.inl (by simp [main]))
    cases spot with
    | fetching | queued => exact ⟨fits, .inl rfl⟩
    | taken => exact absurd fits (nothing n)
    | idle | completing => exact fits.elim

/-- The branch of `_wait_for_work` that has a completion. -/
theorem At.resume_discarding {c : Nat}
    (main : w.main = .discardingPop c ∨ w.main = .discardingStop c)
    (resumed : w.resume = some after) : Inv after.turned := by
  have fits := here.fits
  have taken : spot = .taken ∧ c = n ∧ w.getter = .done n := by
    rcases main with main | main <;> rw [main] at fits <;> cases spot <;> simp_all [Fits]
  obtain ⟨rfl, rfl, got⟩ := taken
  have soon := here.inTime (.inr rfl)
  have unpending : w.getter ≠ .pending := by
    rw [got]
    exact fun pending => nomatch pending
  rcases main with main | main
  · simp only [Worker.resume, main] at resumed
    rw [main] at soon
    split at resumed
    · split at resumed
      · cases resumed
        exact here.hand unpending (Nat.le_of_succ_le soon)
      · cases resumed
        exact here.move w.pop .cancelling w.getter (.discardingStop c) ⟨rfl, got, .inl rfl⟩
          (.inl (by simp [main]))
    · cases resumed
  · simp only [Worker.resume, main] at resumed
    rw [main] at soon
    split at resumed
    · cases resumed
      exact here.hand unpending soon
    · cases resumed

/-- The branch of `_wait_for_work` that has a pop. -/
theorem At.resume_dropping (main : w.main = .droppingStop ∨ w.main = .droppingGetter)
    (resumed : w.resume = some after) : Inv after.turned := by
  have fits := here.fits
  rcases main with main | main
  · rw [main] at fits
    have pending : w.getter = .pending := by
      cases spot <;> simp_all [Fits]
    have unfinished : w.getter.finished = false := by
      rw [pending]
      rfl
    simp only [Worker.resume, main, unfinished, Bool.false_eq_true, if_false] at resumed
    split at resumed
    · cases resumed
      refine here.move w.pop w.stop .cancelling .droppingGetter ?_
        (.inl (by simp [main]))
      cases spot <;> simp_all [Fits, Task.Ending]
    · cases resumed
  · rw [main] at fits
    have ending : w.getter.Ending := by
      cases spot <;> simp_all [Fits]
    simp only [Worker.resume, main] at resumed
    obtain ⟨finished, ⟨⟩⟩ := Option.ite_none_right_eq_some.mp resumed
    unfold Worker.leave
    split
    · exact here.move w.pop w.stop w.getter .stopped trivial (.inl (by simp [main]))
    · refine here.move w.pop w.stop w.getter .elsewhere ?_ (.inl (by simp [main]))
      rcases ending with ending | ending
      · rw [ending] at finished
        cases finished
      · cases spot <;> simp_all [Fits]

theorem At.resume (resumed : w.resume = some after) : Inv after.turned := by
  cases main : w.main with
  | loop => exact here.resume_loop main resumed
  | elsewhere =>
    simp only [Worker.resume, main] at resumed
    cases resumed
    refine here.move w.pop w.stop w.getter .loop ?_ (.inl (by simp [main]))
    have fits := here.fits
    rw [main] at fits
    cases spot <;> simp_all [Fits]
  | waiting => exact here.resume_waiting main resumed
  | discardingPop c => exact here.resume_discarding (.inl main) resumed
  | discardingStop c => exact here.resume_discarding (.inr main) resumed
  | droppingStop => exact here.resume_dropping (.inl main) resumed
  | droppingGetter => exact here.resume_dropping (.inr main) resumed
  | completing | stopped => simp only [Worker.resume, main] at resumed; cases resumed

theorem At.completed {failed : Bool} (stepped : w.step (.completed failed) = some next) :
    Inv next := by
  simp only [Worker.step] at stepped
  split at stepped
  next c main =>
    have fits := here.fits
    rw [main] at fits
    have completing : spot = .completing ∧ c = n ∧ w.getter ≠ .pending := by
      cases spot <;> simp_all [Fits]
    obtain ⟨rfl, rfl, getter⟩ := completing
    have owner : w.active = some c := here.active
    rw [if_pos owner] at stepped
    cases stepped
    refine ⟨.idle, c + 1, rfl, here.started, here.fetching, here.queue, here.put, here.handed, ?_, ?_,
      by simp⟩
    · show w.released ++ [c] = List.range (c + 1)
      rw [here.released, List.range_succ]
    · cases failed <;> exact getter
  · cases stepped

end

theorem Inv.step {label : Label} (inv : Inv w) (careful : NotWhileDropping w label next)
    (stepped : w.step label = some next) : Inv next := by
  obtain ⟨spot, n, here⟩ := inv
  -- tasks that are not in the way
  have unchanged : ∀ task : Task Unit, task.Ending → task.Ending := fun _ ending => ending
  have notPending {task : Task Unit} (pending : task = .pending) (ending : task.Ending) : False := by
    rcases ending with ending | ending <;> rw [pending] at ending <;> cases ending
  cases label with
  | setStop =>
    cases stepped
    exact ⟨spot, n, { here with }⟩
  | startFetch => exact ⟨_, _, here.startFetch stepped⟩
  | fetchFinishes => exact ⟨_, _, here.fetchFinishes stepped⟩
  | popRuns =>
    obtain ⟨pending, ⟨⟩⟩ := Option.ite_none_right_eq_some.mp stepped
    exact ⟨spot, n, here.taskRuns (fun ending => (notPending pending ending).elim)
      (unchanged _) fun changed => absurd rfl changed⟩
  | stopRuns =>
    obtain ⟨pending, ⟨⟩⟩ := Option.ite_none_right_eq_some.mp stepped
    exact ⟨spot, n, here.taskRuns (unchanged _)
      (fun ending => (notPending pending.1 ending).elim) fun changed => absurd rfl changed⟩
  | getterRuns => exact ⟨_, _, here.getterRuns (careful rfl) stepped⟩
  | cancelRuns which =>
    cases which with
    | pop =>
      obtain ⟨_, ⟨⟩⟩ := Option.ite_none_right_eq_some.mp stepped
      exact ⟨spot, n, here.taskRuns (fun _ => .inr rfl) (unchanged _)
        fun changed => absurd rfl changed⟩
    | stop =>
      obtain ⟨_, ⟨⟩⟩ := Option.ite_none_right_eq_some.mp stepped
      exact ⟨spot, n, here.taskRuns (unchanged _) (fun _ => .inr rfl)
        fun changed => absurd rfl changed⟩
    | getter =>
      obtain ⟨cancelling, ⟨⟩⟩ := Option.ite_none_right_eq_some.mp stepped
      exact ⟨spot, n, here.taskRuns (unchanged _) (unchanged _) fun _ => ⟨cancelling, rfl⟩⟩
  | mainRuns =>
    obtain ⟨after, resumed, rfl⟩ := Option.map_eq_some_iff.mp stepped
    exact here.resume resumed
  | completed failed => exact here.completed stepped
  | interrupted =>
    simp only [Worker.step] at stepped
    split at stepped
    next c main =>
      obtain ⟨_, ⟨⟩⟩ := Option.ite_none_right_eq_some.mp stepped
      refine ⟨spot, n, { here with fits := trivial, inTime := fun pending => ?_ }⟩
      have inTime := here.inTime pending
      rw [main] at inTime
      exact inTime
    · cases stepped

/-! ## What the invariant gives -/

theorem At.goesOn (here : At spot n w) (running : w.main ≠ .stopped)
    (pending : spot = .queued ∨ spot = .taken) :
    ∃ label, label.internal = true ∧ (w.step label).isSome = true := by
  have fits := here.fits
  -- a cancelled task has its turn, and then the main loop
  have ends {task : Task Unit} (ending : task.Ending) : task = .cancelling ∨ task.finished = true := by
    rcases ending with ending | ending
    · exact .inl ending
    · exact .inr (by rw [ending]; rfl)
  cases main : w.main with
  | loop =>
    refine ⟨.mainRuns, rfl, ?_⟩
    simp only [Worker.step, Worker.resume, main]
    split
    · rfl
    · split <;> rfl
  | elsewhere => exact ⟨.mainRuns, rfl, by simp [Worker.step, Worker.resume, main]⟩
  | waiting =>
    rw [main] at fits
    rcases pending with rfl | rfl
    · have queue : w.queue = [n] := here.queue
      have getter : w.getter = .pending := fits
      exact ⟨.getterRuns, rfl, by simp [Worker.step, queue, getter]⟩
    · have getter : w.getter = .done n := fits
      refine ⟨.mainRuns, rfl, ?_⟩
      simp only [Worker.step, Worker.resume, main, getter]
      split
      · rfl
      · split <;> rfl
  | discardingPop c =>
    rw [main] at fits
    have ending : w.pop.Ending := by
      cases spot <;> simp_all [Fits]
    rcases ends ending with cancelling | finished
    · exact ⟨.cancelRuns .pop, rfl, by simp [Worker.step, cancelling]⟩
    · refine ⟨.mainRuns, rfl, ?_⟩
      simp only [Worker.step, Worker.resume, main, finished, if_true]
      split <;> rfl
  | discardingStop c =>
    rw [main] at fits
    have ending : w.stop.Ending := by
      cases spot <;> simp_all [Fits]
    rcases ends ending with cancelling | finished
    · exact ⟨.cancelRuns .stop, rfl, by simp [Worker.step, cancelling]⟩
    · exact ⟨.mainRuns, rfl, by simp [Worker.step, Worker.resume, main, finished]⟩
  | droppingStop =>
    rw [main] at fits
    have ending : w.stop.Ending := by
      cases spot <;> simp_all [Fits]
    rcases ends ending with cancelling | finished
    · exact ⟨.cancelRuns .stop, rfl, by simp [Worker.step, cancelling]⟩
    · refine ⟨.mainRuns, rfl, ?_⟩
      simp only [Worker.step, Worker.resume, main, finished, if_true]
      split <;> rfl
  | droppingGetter =>
    rw [main] at fits
    have ending : w.getter.Ending := by
      cases spot <;> simp_all [Fits]
    rcases ending with cancelling | cancelled
    · exact ⟨.cancelRuns .getter, rfl, by simp [Worker.step, cancelling]⟩
    · exact ⟨.mainRuns, rfl, by simp [Worker.step, Worker.resume, main, cancelled, Task.finished]⟩
  | completing c =>
    rw [main] at fits
    rcases pending with rfl | rfl <;> exact fits.elim
  | stopped => exact absurd main running

theorem At.accounted (here : At spot n w) (running : w.main ≠ .stopped) : Accounted w := by
  have pendingSpot {c : Nat} (put : c ∈ w.put) (missing : c ∉ w.handed) :
      spot = .queued ∨ spot = .taken := by
    rw [here.put, List.mem_range] at put
    rw [here.handed, List.mem_range] at missing
    cases spot with
    | idle | fetching | completing => exact absurd put missing
    | queued => exact .inl rfl
    | taken => exact .inr rfl
  constructor
  case once =>
    rw [here.handed]
    exact List.nodup_range
  case handed =>
    intro c put
    by_cases handed : c ∈ w.handed
    · exact .inl handed
    · right
      have inTime := here.inTime (pendingSpot put handed)
      have fits := here.fits
      -- only a loop that stopped, or is at it already, has no turn left
      have left : 1 ≤ w.main.turns := by
        cases main : w.main with
        | completing c' =>
          rw [main] at fits
          rcases pendingSpot put handed with rfl | rfl <;> exact fits.elim
        | stopped => exact absurd main running
        | _ => simp
      omega
  case goesOn =>
    rintro ⟨c, put, missing⟩
    exact here.goesOn running (pendingSpot put missing)
  case released =>
    intro c handed
    rw [here.handed, List.mem_range] at handed
    by_cases earlier : c < n
    · left
      rw [here.released, List.mem_range]
      exact earlier
    · right
      have last : spot = .completing ∧ c = n := by
        cases spot with
        | completing => exact ⟨rfl, by simp only [Spot.handed] at handed; omega⟩
        | _ => exact absurd handed earlier
      obtain ⟨rfl, rfl⟩ := last
      refine ⟨?_, here.active⟩
      have fits := here.fits
      cases main : w.main with
      | completing c' =>
        rw [main] at fits
        rw [fits.1]
      | stopped => exact absurd main running
      | _ =>
        rw [main] at fits
        exact fits.elim
  case free =>
    intro c released holds
    rw [here.released, List.mem_range] at released
    have owner := here.active.symm.trans holds
    cases spot with
    | idle => cases owner
    | _ =>
      cases owner
      exact Nat.lt_irrefl _ released

end Steps

/-- If the completion task never finishes while the loop has a pop and awaits the stop task, no
completion is lost. -/
theorem completions_accounted (labels : List Label)
    (careful : RunAll Worker.step NotWhileDropping .initial labels) (w : Worker)
    (ran : run Worker.step .initial labels = some w) (running : w.main ≠ .stopped) :
    Accounted w := by
  have preserved (w : Worker) (label : Label) (next : Worker) (inv : Inv w)
      (careful : NotWhileDropping w label next) (stepped : w.step label = some next) : Inv next :=
    inv.step careful stepped
  obtain ⟨spot, n, here⟩ := run_invariant_of_runAll preserved inv_initial careful ran
  exact here.accounted running

/-- A fetch has been started and the loop waits for it. -/
def untilWaiting : List Label :=
  [.mainRuns, .startFetch, .mainRuns, .mainRuns]

/-- The completion comes while the stop task of an earlier pop is discarded, but its task has to wait
until the loop is there. -/
def patientTurns : List Label :=
  untilWaiting ++ [.popRuns, .mainRuns, .fetchFinishes, .cancelRuns .stop, .mainRuns,
    .cancelRuns .getter, .mainRuns, .mainRuns, .mainRuns, .completed false]

/-- The completion task has its turn while the stop task is discarded. -/
def unluckyTurns : List Label :=
  untilWaiting ++ [.popRuns, .mainRuns, .fetchFinishes, .getterRuns, .cancelRuns .stop, .mainRuns,
    .mainRuns, .mainRuns, .popRuns, .mainRuns, .cancelRuns .stop, .mainRuns]

instance (w : Worker) (label : Label) (next : Worker) :
    Decidable (NotWhileDropping w label next) :=
  inferInstanceAs (Decidable (_ → _))

theorem patientTurns_accounted :
    RunAll Worker.step NotWhileDropping .initial patientTurns ∧
      ∃ w, run Worker.step .initial patientTurns = some w ∧ w.main = .loop ∧ w.released = [0] ∧
        Accounted w :=
  ⟨by decide, _, rfl, rfl, rfl,
    completions_accounted patientTurns (by decide) _ rfl (by decide)⟩

/-- The completion is gone, the slot stays taken, and the loop waits for a queue that nobody
fills. -/
theorem unluckyTurns_not_accounted :
    ∃ w, run Worker.step .initial unluckyTurns = some w ∧ w.main ≠ .stopped ∧ w.stopSet = false ∧
      w.put = [0] ∧ w.handed = [] ∧ w.queue = [] ∧ w.active = some 0 ∧ ¬ Accounted w := by
  refine ⟨_, rfl, by decide, rfl, rfl, rfl, rfl, rfl, fun accounted => ?_⟩
  rcases accounted.handed 0 (by decide) with handed | soon
  · cases handed
  · exact absurd soon (by decide)

end ScrubbingGateway.Control.FeedCompletion
