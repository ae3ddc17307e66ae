import ScrubbingGateway.Control.AlertRules

/-!
# The life of an alert

`reconcile` looks alerts up by rule and scope, so the alerts of one rule and scope live apart from
all others. A tick moves the unresolved one, opens one or resolves it, and every move may request a
notification. Resolved alerts are not looked at again.
-/

namespace ScrubbingGateway.Control.AlertLifecycle

open AlertRouting

def inHysteresisBand (observation : AlertRules.RuleObservation)
    (effective : AlertRules.EffectiveRule) : Bool :=
  if effective.fireThreshold = effective.clearThreshold then false
  else effective.clearThreshold ≤ observation.metricValue

/-- An observation as the alerts take it. -/
def routed (observation : AlertRules.RuleObservation) (effective : AlertRules.EffectiveRule) :
    RuleObservation where
  ruleKey := observation.ruleKey.name
  scope := observation.scope
  scopeKey := observation.scopeKey
  tenantId := observation.tenantId
  severity := observation.severity
  firing := observation.firing
  inBand := inHysteresisBand observation effective

/-- The alerts of one rule and scope in the order they were opened, and the notifications that were
requested for them. -/
structure Lane where
  alerts : List Alert
  requests : List (Nat × Trigger)
deriving DecidableEq

/-- What a tick has for the rule and scope: a rule that is disabled, or that lacks inputs, gives no
observation. -/
structure TickInput where
  now : Nat
  observation : Option RuleObservation
  /-- The rule is silenced in maintenance, and the node is in maintenance. -/
  silenced : Bool
deriving DecidableEq

def TickInput.fires (input : TickInput) : Bool := input.observation.any (·.firing)

namespace Lane

/-- An alert after a move; `_enqueue` stamps it when the notification is requested. -/
def stamped (input : TickInput) (moved : Alert × Option Trigger) : Alert :=
  if moved.2.isSome ∧ input.silenced = false then
    { moved.1 with lastNotifiedAt := some input.now }
  else moved.1

def move (lane : Lane) (input : TickInput) (i : Nat) (moved : Alert × Option Trigger) : Lane where
  alerts := lane.alerts.set i (stamped input moved)
  requests := lane.requests ++ if input.silenced then [] else moved.2.toList.map (i, ·)

/-- `active_alerts` -/
def active (lane : Lane) : List (Alert × Nat) :=
  lane.alerts.zipIdx.filter fun e => e.1.state ≠ .resolved

/-- `reconcile` -/
def tick (settings : Settings) (lane : Lane) (input : TickInput) : Lane :=
  match input.observation with
  | some observation =>
    match lane.active.getLast? with
    | some (alert, i) => lane.move input i (alert.reconcile settings observation input.now)
    | none =>
      if observation.firing then
        let opened := Alert.openPending settings observation input.now
        { lane with alerts := lane.alerts ++ [opened.1] }.move input lane.alerts.length opened
      else lane
  | none => lane.active.foldl (fun lane e => lane.move input e.2 (e.1.resolve input.now)) lane

def run (settings : Settings) (inputs : List TickInput) : Lane :=
  inputs.foldl (tick settings) ⟨[], []⟩

end Lane

/-! ## One unresolved alert -/

/-- All alerts but the last one are resolved. -/
structure Shape (lane : Lane) (old : List Alert) (current : Option Alert) : Prop where
  alerts : lane.alerts = old ++ current.toList
  ended : ∀ alert ∈ old, alert.state = .resolved
  unresolved : ∀ alert ∈ current, alert.state ≠ .resolved

/-- What a tick does to the unresolved alert, or to the place of the next one. -/
def moved (settings : Settings) (current : Option Alert) (input : TickInput) :
    Option (Alert × Option Trigger) :=
  match input.observation, current with
  | some observation, some alert => some (alert.reconcile settings observation input.now)
  | some observation, none =>
    if observation.firing then some (Alert.openPending settings observation input.now) else none
  | none, some alert => some (alert.resolve input.now)
  | none, none => none

section Shape

variable {lane : Lane} {old : List Alert} {current : Option Alert}

theorem Shape.active (shape : Shape lane old current) :
    lane.active = current.toList.map (·, old.length) := by
  have none : (old.zipIdx.filter fun e => decide (e.1.state ≠ .resolved)) = [] := by
    rw [List.filter_eq_nil_iff]
    rintro ⟨alert, i⟩ member
    simpa using shape.ended alert (List.fst_mem_of_mem_zipIdx member)
  rw [Lane.active, shape.alerts, List.zipIdx_append, List.filter_append, none, List.nil_append]
  cases current with
  | none => rfl
  | some alert => simp [shape.unresolved alert rfl]

/-- The alerts and requests after a tick. -/
theorem Shape.tick (shape : Shape lane old current) (settings : Settings) (input : TickInput) :
    (lane.tick settings input).alerts =
        old ++ ((moved settings current input).map (Lane.stamped input)).toList ∧
      (lane.tick settings input).requests = lane.requests ++
        if input.silenced then [] else
          ((moved settings current input).bind Prod.snd).toList.map (old.length, ·) := by
  rw [Lane.tick, shape.active]
  unfold moved
  cases input.observation with
  | none =>
    cases current with
    | none => simp [shape.alerts]
    | some alert => simp [Lane.move, shape.alerts]
  | some observation =>
    cases current with
    | none =>
      cases fires : observation.firing with
      | false => simp [fires, shape.alerts]
      | true => simp [fires, Lane.move, shape.alerts]
    | some alert => simp [Lane.move, shape.alerts]

end Shape

/-! ## The moves -/

/-- What a move can be, as far as states, streaks and notifications go. -/
inductive Move (settings : Settings) (input : TickInput) :
    Option Alert → Alert × Option Trigger → Prop where
  | pend {current : Option Alert} {alert : Alert} (fires : input.fires = true)
      (waiting : ∀ a ∈ current, a.state = .pending) (state : alert.state = .pending)
      (streak : alert.fireStreak = (current.elim 0 (·.fireStreak)) + 1)
      (short : alert.fireStreak < settings.fireTicks) : Move settings input current (alert, none)
  | fire {current : Option Alert} {alert : Alert} (fires : input.fires = true)
      (waiting : ∀ a ∈ current, a.state = .pending) (state : alert.state = .firing)
      (long : settings.fireTicks ≤ (current.elim 0 (·.fireStreak)) + 1) :
      Move settings input current (alert, some .fire)
  | calm {before alert : Alert} (quiet : input.fires = false) (waiting : before.state = .pending)
      (state : alert.state = .pending) (streak : alert.fireStreak = 0) :
      Move settings input (some before) (alert, none)
  | stay {before alert : Alert} {trigger : Option Trigger} (firing : before.state = .firing)
      (state : alert.state = .firing) (other : ∀ t ∈ trigger, t = .reminder) :
      Move settings input (some before) (alert, trigger)
  | resolve {before alert : Alert} (quiet : input.fires = false) (state : alert.state = .resolved)
      (cause : before.state = .firing ∨ input.observation = none) :
      Move settings input (some before) (alert, some .resolve)

section Moves

variable {settings : Settings} {input : TickInput} {alert : Alert} {observation : RuleObservation}

theorem move_openPending (observed : input.observation = some observation)
    (fires : observation.firing = true) :
    Move settings input none (Alert.openPending settings observation input.now) := by
  have isFiring : input.fires = true := by rw [TickInput.fires, observed, Option.any_some, fires]
  rw [Alert.openPending]
  split
  next long => exact .fire isFiring (by simp) rfl long
  next short => exact .pend isFiring (by simp) rfl rfl (Nat.lt_of_not_le short)

theorem move_reconcile (observed : input.observation = some observation)
    (unresolved : alert.state ≠ .resolved) :
    Move settings input (some alert) (alert.reconcile settings observation input.now) := by
  have isFiring : input.fires = observation.firing := by
    rw [TickInput.fires, observed, Option.any_some]
  unfold Alert.reconcile
  cases fires : observation.firing with
  | true =>
    rw [fires] at isFiring
    simp only [if_true, Alert.stillFiring]
    cases state : alert.state with
    | pending =>
      dsimp only
      split
      next long => exact .fire isFiring (by simpa using state) rfl long
      next short => exact .pend isFiring (by simpa using state) rfl rfl (Nat.lt_of_not_le short)
    | firing =>
      refine .stay state rfl fun t member => ?_
      split at member
      · exact (Option.some.inj member).symm
      · cases member
    | resolved => exact absurd state unresolved
  | false =>
    rw [fires] at isFiring
    simp only [Bool.false_eq_true, if_false, Alert.clearing]
    cases state : alert.state with
    | pending => exact .calm isFiring state rfl rfl
    | firing =>
      simp only [reduceCtorEq, if_false]
      split
      · exact .stay state rfl (by simp)
      split
      · simp only [Alert.resolve, reduceCtorEq, if_false]
        exact .resolve isFiring rfl (.inl state)
      · exact .stay state rfl (by simp)
    | resolved => exact absurd state unresolved

variable {current : Option Alert} {m : Alert × Option Trigger}

theorem move_of_moved (unresolved : ∀ a ∈ current, a.state ≠ .resolved)
    (moves : moved settings current input = some m) : Move settings input current m := by
  unfold moved at moves
  cases observed : input.observation with
  | none =>
    rw [observed] at moves
    cases current with
    | none => cases moves
    | some alert =>
      cases moves
      rw [Alert.resolve, if_neg (unresolved alert rfl)]
      exact .resolve (by rw [TickInput.fires, observed]; rfl) rfl (.inr observed)
  | some observation =>
    rw [observed] at moves
    cases current with
    | none =>
      obtain ⟨fires, same⟩ := Option.ite_none_right_eq_some.mp moves
      cases same
      exact move_openPending observed fires
    | some alert =>
      cases moves
      exact move_reconcile observed (unresolved alert rfl)

theorem moved_eq_none (rests : moved settings current input = none) :
    current = none ∧ input.fires = false := by
  unfold moved at rests
  cases observed : input.observation <;> rw [observed] at rests <;> cases current <;>
    simp_all [TickInput.fires]

/-- A notification about a firing is requested just when the alert starts to fire. -/
theorem Move.fire_iff (move : Move settings input current m) :
    m.2 = some .fire ↔ m.1.state = .firing ∧ ∀ a ∈ current, a.state ≠ .firing := by
  cases move with
  | pend _ _ state => simp [state]
  | fire _ waiting state =>
    refine iff_of_true rfl ⟨state, fun a member => ?_⟩
    rw [waiting a member]
    decide
  | calm _ _ state | resolve _ state => simp [state]
  | stay firing _ other =>
    refine iff_of_false (fun requested => ?_) fun enters => enters.2 _ rfl firing
    cases other _ requested

end Moves

namespace Lane

variable (input : TickInput) (m : Alert × Option Trigger)

@[simp] theorem stamped_state : (stamped input m).state = m.1.state := by
  unfold stamped
  split <;> rfl

@[simp] theorem stamped_fireStreak : (stamped input m).fireStreak = m.1.fireStreak := by
  unfold stamped
  split <;> rfl

@[simp] theorem stamped_clearStreak : (stamped input m).clearStreak = m.1.clearStreak := by
  unfold stamped
  split <;> rfl

theorem run_append (settings : Settings) (inputs : List TickInput) (input : TickInput) :
    run settings (inputs ++ [input]) = (run settings inputs).tick settings input := by
  rw [run, List.foldl_append]
  rfl

/-- The alert with this index starts to fire. -/
def entersFiring (i : Nat) (before after : Lane) : Bool :=
  after.alerts[i]?.any (·.state = .firing) && !before.alerts[i]?.any (·.state = .firing)

end Lane

section Steps

variable {lane next : Lane} {old : List Alert} {current : Option Alert} {alert : Alert}

variable (shape : Shape lane old current)
include shape

/-- A tick leaves everything as it is, or moves the last alert. -/
theorem Shape.step (settings : Settings) (input : TickInput) :
    (current = none ∧ input.fires = false ∧ lane.tick settings input = lane) ∨
      ∃ m, moved settings current input = some m ∧ Move settings input current m ∧
        (lane.tick settings input).alerts = old ++ [Lane.stamped input m] ∧
        (lane.tick settings input).requests = lane.requests ++
          if input.silenced then [] else m.2.toList.map (old.length, ·) := by
  obtain ⟨alerts, requests⟩ := shape.tick settings input
  cases moves : moved settings current input with
  | none =>
    obtain ⟨rfl, quiet⟩ := moved_eq_none moves
    refine .inl ⟨rfl, quiet, ?_⟩
    rw [moves] at alerts requests
    have sameAlerts := alerts.trans shape.alerts.symm
    have sameRequests : (lane.tick settings input).requests = lane.requests := by
      simpa using requests
    exact congr (congrArg Lane.mk sameAlerts) sameRequests
  | some m =>
    rw [moves] at alerts requests
    exact .inr ⟨m, rfl, move_of_moved shape.unresolved moves, alerts, requests⟩

theorem Shape.follow (alerts : next.alerts = old ++ [alert]) :
    (alert.state = .resolved ∧ Shape next (old ++ [alert]) none) ∨
      alert.state ≠ .resolved ∧ Shape next old (some alert) := by
  by_cases ended : alert.state = .resolved
  · refine .inl ⟨ended, by simpa using alerts, ?_, by simp⟩
    simpa [or_imp, forall_and, ended] using shape.ended
  · exact .inr ⟨ended, alerts, shape.ended, by simpa using ended⟩

theorem Shape.unresolved_le_one :
    (lane.alerts.filter fun alert => alert.state ≠ .resolved).length ≤ 1 := by
  have none : (old.filter fun alert => decide (alert.state ≠ .resolved)) = [] := by
    simpa [List.filter_eq_nil_iff] using shape.ended
  rw [shape.alerts, List.filter_append, none, List.nil_append]
  refine (List.length_filter_le _ _).trans ?_
  cases current <;> simp

theorem Shape.quiet_iff :
    (∀ alert ∈ lane.alerts, alert.state ≠ .firing) ↔ ∀ alert ∈ current, alert.state ≠ .firing := by
  rw [shape.alerts]
  constructor
  · exact fun quiet alert member => quiet alert (by simp_all)
  · intro quiet alert member
    rcases List.mem_append.mp member with earlier | last
    · simp [shape.ended alert earlier]
    · exact quiet alert (by simpa using last)

theorem Shape.entersFiring_iff (alerts : next.alerts = old ++ [alert]) (i : Nat) :
    Lane.entersFiring i lane next = true ↔
      i = old.length ∧ alert.state = .firing ∧ ∀ a ∈ current, a.state ≠ .firing := by
  rw [Lane.entersFiring, alerts, shape.alerts, Bool.and_eq_true, Bool.not_eq_true']
  rcases Nat.lt_trichotomy i old.length with earlier | rfl | later
  · have resolved := shape.ended _ (List.getElem_mem earlier)
    simp [List.getElem?_append_left earlier, List.getElem?_eq_getElem earlier, resolved, earlier.ne]
  · cases current <;> simp
  · simp [List.getElem?_append_right later.le, later.ne', later]

end Steps

/-! ## Debouncing -/

/-- The number of ticks at the end that all had a firing observation. -/
def firingStreak (inputs : List TickInput) : Nat :=
  inputs.foldl (fun n input => if input.fires then n + 1 else 0) 0

/-- A pending alert knows how long the rule has been firing. -/
structure Debounced (settings : Settings) (inputs : List TickInput) (lane : Lane)
    (old : List Alert) (current : Option Alert) : Prop extends Shape lane old current where
  closed : current = none → firingStreak inputs = 0
  pending : ∀ alert ∈ current, alert.state = .pending →
    alert.fireStreak = firingStreak inputs ∧ alert.fireStreak < settings.fireTicks

section Debouncing

variable {settings : Settings} {inputs : List TickInput} {lane next : Lane} {old : List Alert}
  {current : Option Alert} {input : TickInput} {m : Alert × Option Trigger}

theorem firingStreak_append (inputs : List TickInput) (input : TickInput) :
    firingStreak (inputs ++ [input]) = if input.fires then firingStreak inputs + 1 else 0 := by
  rw [firingStreak, List.foldl_append]
  rfl

section

variable (debounced : Debounced settings inputs lane old current)
include debounced

theorem Debounced.streak (waiting : ∀ a ∈ current, a.state = .pending) :
    current.elim 0 (·.fireStreak) = firingStreak inputs := by
  cases current with
  | none => exact (debounced.closed rfl).symm
  | some alert => exact (debounced.pending alert rfl (waiting alert rfl)).1

/-- An alert starts to fire once the rule has been firing for long enough. -/
theorem Debounced.enters_iff (positive : 1 ≤ settings.fireTicks)
    (move : Move settings input current m) :
    m.2 = some .fire ↔ (∀ a ∈ current, a.state ≠ .firing) ∧
      settings.fireTicks ≤ firingStreak (inputs ++ [input]) := by
  rw [firingStreak_append]
  cases move with
  | pend fires waiting _ streak short =>
    rw [debounced.streak waiting] at streak
    simp only [fires, if_true]
    constructor
    · intro requested
      cases requested
    · omega
  | fire fires waiting _ long =>
    rw [debounced.streak waiting] at long
    refine iff_of_true rfl ⟨fun a member => ?_, by simpa [fires] using long⟩
    rw [waiting a member]
    decide
  | calm quiet | resolve quiet =>
    refine iff_of_false (by simp) fun enough => ?_
    simp only [quiet] at enough
    exact absurd enough.2 (by simp; omega)
  | stay firing _ other =>
    refine iff_of_false (fun requested => ?_) fun enters => enters.1 _ rfl firing
    cases other _ requested

theorem Debounced.move (move : Move settings input current m)
    (alerts : next.alerts = old ++ [Lane.stamped input m]) :
    ∃ old' current', Debounced settings (inputs ++ [input]) next old' current' := by
  have streak := firingStreak_append inputs input
  rcases debounced.follow alerts with ⟨ended, shape⟩ | ⟨unresolved, shape⟩
  · refine ⟨_, _, shape, fun _ => ?_, by simp⟩
    cases move with
    | resolve quiet => rw [streak, quiet]; rfl
    | pend _ _ state | fire _ _ state | calm _ _ state | stay _ state => simp [state] at ended
  · refine ⟨_, _, shape, by simp, fun alert member pending => ?_⟩
    cases member
    rw [Lane.stamped_state] at pending
    rw [Lane.stamped_fireStreak]
    cases move with
    | pend fires waiting _ longer short =>
      rw [debounced.streak waiting] at longer
      exact ⟨by rw [streak, fires, longer]; rfl, short⟩
    | calm quiet waiting _ zero =>
      have ticks := (debounced.pending _ rfl waiting).2
      exact ⟨by rw [streak, quiet, zero]; rfl, by dsimp only; omega⟩
    | fire _ _ state | stay _ state | resolve _ state => simp [state] at pending

end

theorem exists_debounced (settings : Settings) (inputs : List TickInput) :
    ∃ old current, Debounced settings inputs (Lane.run settings inputs) old current := by
  induction inputs using List.reverseRecOn with
  | nil => exact ⟨[], none, ⟨rfl, by simp, by simp⟩, fun _ => rfl, by simp⟩
  | append_singleton inputs input ih =>
    obtain ⟨old, current, debounced⟩ := ih
    rw [Lane.run_append]
    rcases debounced.step settings input with
      ⟨rfl, quiet, same⟩ | ⟨m, _, move, alerts, _⟩
    · refine ⟨old, none, by rw [same]; exact debounced.toShape, fun _ => ?_, by simp⟩
      rw [firingStreak_append, quiet]
      rfl
    · exact debounced.move move alerts

end Debouncing

/-- At any time at most one alert of a rule and scope is unresolved. At a tick an alert starts to
fire exactly if none was firing and the rule has been firing for `fire_ticks` ticks, and that is
when one notification about it is requested unless the rule is silenced. -/
theorem alerts_debounced (settings : Settings) (positive : 1 ≤ settings.fireTicks)
    (inputs : List TickInput) (input : TickInput) :
    let before := Lane.run settings inputs
    let after := Lane.run settings (inputs ++ [input])
    (after.alerts.filter fun alert => alert.state ≠ .resolved).length ≤ 1 ∧
    ((∃ i, Lane.entersFiring i before after = true) ↔
      (∀ alert ∈ before.alerts, alert.state ≠ .firing) ∧
        settings.fireTicks ≤ firingStreak (inputs ++ [input])) ∧
    ∃ new, after.requests = before.requests ++ new ∧ ∀ i,
      new.count (i, .fire) =
        if Lane.entersFiring i before after = true ∧ input.silenced = false then 1 else 0 := by
  obtain ⟨_, _, after⟩ := exists_debounced settings (inputs ++ [input])
  refine ⟨after.unresolved_le_one, ?_⟩
  obtain ⟨old, current, debounced⟩ := exists_debounced settings inputs
  rw [Lane.run_append, debounced.quiet_iff]
  rcases debounced.step settings input with
    ⟨rfl, quiet, same⟩ | ⟨m, _, move, alerts, requests⟩
  · have never (i : Nat) : Lane.entersFiring i (Lane.run settings inputs)
        (Lane.run settings inputs) = false := by simp [Lane.entersFiring]
    rw [same]
    refine ⟨?_, [], by simp, fun i => by simp [never i]⟩
    rw [firingStreak_append, quiet]
    simp [never, Nat.pos_iff_ne_zero.mp positive]
  · have enters (i : Nat) := debounced.entersFiring_iff alerts i
    simp only [Lane.stamped_state, ← move.fire_iff] at enters
    refine ⟨?_, _, requests, fun i => ?_⟩
    · rw [← debounced.enters_iff positive move]
      simp [enters]
    · simp only [enters]
      cases input.silenced with
      | true => simp
      | false =>
        cases m.2 with
        | none => simp
        | some trigger =>
          simp [List.count_cons, eq_comm (a := i)]

/-- Alerts fire at the second firing tick and resolve at the first one that is clear. -/
def twoTicks : Settings := ⟨2, 1, 3600, 0, 3, 10⟩

def nodeInput (rule : AlertRules.RuleDef) (now : Nat) (node : AlertRules.NodeAlertInputs) :
    TickInput where
  now := now
  observation := (AlertRules.evaluateNode rule rule.effective node).map (routed · rule.effective)
  silenced := false

def bypassInput (now : Nat) (bypassed : Bool) : TickInput :=
  nodeInput AlertRules.bypassRule now { bypassEnabled := some bypassed }

theorem secondTick_fires :
    ∃ i, Lane.entersFiring i (Lane.run twoTicks [bypassInput 0 true])
      (Lane.run twoTicks [bypassInput 0 true, bypassInput 10 true]) = true :=
  (alerts_debounced twoTicks (by decide) [bypassInput 0 true] (bypassInput 10 true)).2.1.mpr
    ⟨by decide, by decide⟩

/-! ## Resolutions -/

def pendingStreak (lane : Lane) : Nat :=
  (lane.alerts.find? (·.state = .pending)).elim 0 (·.fireStreak)

/-- The rule fires, nothing is firing yet, and the pending streak reaches `fire_ticks`. -/
def startsFiring (settings : Settings) (lane : Lane) (input : TickInput) : Bool :=
  input.fires && lane.alerts.all (·.state ≠ .firing) &&
    decide (settings.fireTicks ≤ pendingStreak lane + 1)

/-- No pending alert is given up aloud, and an alert that started to fire in silence meets silence as
long as it fires. -/
structure Careful (inSilence : Bool) (lane : Lane) (input : TickInput) : Prop where
  waits : input.observation = none → input.silenced = false →
    ∀ alert ∈ lane.alerts, alert.state ≠ .pending
  window : inSilence = true → (∃ alert ∈ lane.alerts, alert.state = .firing) → input.silenced = true

/-- Every tick is careful; `inSilence` tells how the last alert that fires started to. -/
def CarefulRun (settings : Settings) : Bool → Lane → List TickInput → Prop
  | _, _, [] => True
  | inSilence, lane, input :: rest =>
    Careful inSilence lane input ∧
      CarefulRun settings (if startsFiring settings lane input then input.silenced else inSilence)
        (lane.tick settings input) rest

/-- Every request about a resolution follows one about the firing of the same alert. -/
def Answered (requests : List (Nat × Trigger)) : Prop :=
  ∀ i before after, requests = before ++ (i, .resolve) :: after → (i, .fire) ∈ before

structure Announced (inSilence : Bool) (lane : Lane) (old : List Alert) (current : Option Alert) :
    Prop extends Shape lane old current where
  firing : inSilence = false → ∀ alert ∈ current, alert.state = .firing →
    (old.length, .fire) ∈ lane.requests
  answered : Answered lane.requests

section Resolving

variable {settings : Settings} {lane next : Lane} {old : List Alert} {current : Option Alert}
  {input : TickInput} {m : Alert × Option Trigger} {requests : List (Nat × Trigger)}
  {inSilence : Bool}

theorem Shape.pendingStreak (shape : Shape lane old current)
    (waiting : ∀ a ∈ current, a.state = .pending) :
    pendingStreak lane = current.elim 0 (·.fireStreak) := by
  have none : old.find? (fun alert => decide (alert.state = .pending)) = none := by
    rw [List.find?_eq_none]
    intro alert member
    simp [shape.ended alert member]
  rw [AlertLifecycle.pendingStreak, shape.alerts, List.find?_append, none, Option.none_or]
  cases current with
  | none => rfl
  | some alert => simp [waiting alert rfl]

theorem Shape.startsFiring_iff (shape : Shape lane old current)
    (move : Move settings input current m) :
    startsFiring settings lane input = true ↔ m.2 = some .fire := by
  rw [startsFiring, Bool.and_eq_true, Bool.and_eq_true, decide_eq_true_eq, and_assoc]
  cases move with
  | pend _ waiting _ streak short =>
    rw [shape.pendingStreak waiting]
    simp only [reduceCtorEq, iff_false]
    omega
  | fire fires waiting _ long =>
    rw [shape.pendingStreak waiting]
    refine iff_of_true ⟨fires, ?_, long⟩ rfl
    simpa using shape.quiet_iff.mpr fun a member => by simp [waiting a member]
  | calm quiet | resolve quiet => simp [quiet]
  | stay firing _ other =>
    refine iff_of_false (fun starts => ?_) fun requested => nomatch other _ requested
    exact shape.quiet_iff.mp (by simpa using starts.2.1) _ rfl firing

theorem Answered.append (answered : Answered requests) {i : Nat} {trigger : Trigger}
    (fired : trigger = .resolve → (i, .fire) ∈ requests) :
    Answered (requests ++ [(i, trigger)]) := by
  intro j before after whole
  rcases after.eq_nil_or_concat' with rfl | ⟨after, last, rfl⟩
  · obtain ⟨rfl, same⟩ := List.append_inj' whole rfl
    cases same
    exact fired rfl
  · rw [← List.cons_append, ← List.append_assoc] at whole
    exact answered j before after (List.append_inj' whole rfl).1

variable (announced : Announced inSilence lane old current)
include announced

/-- An alert that is resolved aloud was firing. -/
theorem Announced.fired (careful : Careful inSilence lane input)
    (move : Move settings input current m) (resolves : m.2 = some .resolve)
    (aloud : input.silenced = false) : (old.length, .fire) ∈ lane.requests := by
  cases move with
  | @resolve before _ _ _ cause =>
    cases state : before.state with
    | firing =>
      refine announced.firing (Bool.eq_false_iff.mpr fun silent => ?_) before rfl state
      have silenced := careful.window silent ⟨before, by simp [announced.alerts], state⟩
      simp [aloud] at silenced
    | resolved => exact absurd state (announced.unresolved before rfl)
    | pending =>
      have missing := cause.resolve_left (by simp [state])
      exact absurd state (careful.waits missing aloud before (by simp [announced.alerts]))
  | pend | fire | calm => cases resolves
  | stay _ _ other => cases other _ resolves

theorem Announced.move (careful : Careful inSilence lane input)
    (move : Move settings input current m)
    (alerts : (lane.tick settings input).alerts = old ++ [Lane.stamped input m])
    (requests : (lane.tick settings input).requests = lane.requests ++
      if input.silenced then [] else m.2.toList.map (old.length, ·)) :
    ∃ old' current',
      Announced (if startsFiring settings lane input then input.silenced else inSilence)
        (lane.tick settings input) old' current' := by
  have answered : Answered (lane.tick settings input).requests := by
    rw [requests]
    cases aloud : input.silenced with
    | true => simpa using announced.answered
    | false =>
      cases requested : m.2 with
      | none => simpa using announced.answered
      | some trigger =>
        refine announced.answered.append ?_
        rintro rfl
        exact announced.fired careful move requested aloud
  have kept : lane.requests ⊆ (lane.tick settings input).requests := by
    rw [requests]
    exact List.subset_append_left _ _
  rcases announced.follow alerts with ⟨_, shape⟩ | ⟨_, shape⟩
  · exact ⟨_, _, shape, by simp, answered⟩
  · refine ⟨_, _, shape, fun aloud alert member firing => ?_, answered⟩
    cases member
    rw [Lane.stamped_state] at firing
    by_cases starts : startsFiring settings lane input = true
    · -- it has just started to fire, and not in silence
      rw [if_pos starts] at aloud
      rw [requests, aloud, (announced.startsFiring_iff move).mp starts]
      simp
    · have before : ¬ ∀ a ∈ current, a.state ≠ .firing := fun quiet =>
        starts ((announced.startsFiring_iff move).mpr (move.fire_iff.mpr ⟨firing, quiet⟩))
      simp only [not_forall, not_not] at before
      obtain ⟨a, isCurrent, wasFiring⟩ := before
      rw [if_neg starts] at aloud
      exact kept (announced.firing aloud a isCurrent wasFiring)

theorem Announced.run {inputs : List TickInput}
    (careful : CarefulRun settings inSilence lane inputs) :
    Answered (inputs.foldl (Lane.tick settings) lane).requests := by
  induction inputs generalizing inSilence lane old current with
  | nil => exact announced.answered
  | cons input rest ih =>
    rcases announced.step settings input with ⟨_, quiet, same⟩ | ⟨m, _, move, alerts, requests⟩
    · have idle : ¬ startsFiring settings lane input = true := by simp [startsFiring, quiet]
      have kept : Announced (if startsFiring settings lane input then input.silenced else inSilence)
          (lane.tick settings input) old current := by
        rw [if_neg idle, same]
        exact announced
      exact ih kept careful.2
    · obtain ⟨_, _, next⟩ := announced.move careful.1 move alerts requests
      exact ih next careful.2

end Resolving

/-- If no pending alert is given up aloud, and an alert that starts to fire in silence is resolved
before the silence is over, a resolution is notified only after the firing of the same alert. -/
theorem resolve_follows_fire (settings : Settings) (inputs : List TickInput)
    (careful : CarefulRun settings false ⟨[], []⟩ inputs) (i : Nat) (before after : List (Nat × Trigger))
    (requests : (Lane.run settings inputs).requests = before ++ (i, .resolve) :: after) :
    (i, .fire) ∈ before := by
  have announced : Announced false ⟨[], []⟩ [] none :=
    ⟨⟨rfl, by simp, by simp⟩, by simp, by simp [Answered]⟩
  exact announced.run careful i before after requests

def disabledInput (now : Nat) : TickInput := ⟨now, none, false⟩

/-- An alert starts to fire and is resolved in silence; the next one is heard. -/
def secondAlert : List TickInput :=
  [{ bypassInput 0 true with silenced := true }, { bypassInput 10 true with silenced := true },
    { disabledInput 20 with silenced := true }, bypassInput 30 true, bypassInput 40 true,
    disabledInput 50]

theorem secondAlert_fired :
    (Lane.run twoTicks secondAlert).requests = [(1, .fire)] ++ [(1, .resolve)] ∧
      (1, Trigger.fire) ∈ [((1 : Nat), Trigger.fire)] := by
  have requests : (Lane.run twoTicks secondAlert).requests = [(1, .fire)] ++ [(1, .resolve)] := by
    decide
  refine ⟨requests, resolve_follows_fire twoTicks _ ?_ 1 _ [] requests⟩
  refine ⟨⟨?_, ?_⟩, ⟨?_, ?_⟩, ⟨?_, ?_⟩, ⟨?_, ?_⟩, ⟨?_, ?_⟩, ⟨?_, ?_⟩, trivial⟩ <;> decide

/-- An alert that is given up before it fires is resolved all the same. -/
theorem disabledPending_resolved :
    (Lane.run twoTicks [bypassInput 0 true, disabledInput 10]).requests = [(0, .resolve)] := by
  decide

/-! ## Clearing -/

section Clearing

variable {settings : Settings} {lane : Lane} {old : List Alert} {current : Option Alert}
  {input : TickInput} {alert : Alert} {i : Nat}

/-- The alert is resolved, or has been clear for some ticks and may be so for some more. -/
def Clears (settings : Settings) (i n : Nat) (lane : Lane) : Prop :=
  ∃ alert, lane.alerts[i]? = some alert ∧ (alert.state = .resolved ∨
    alert.state = .firing ∧ n ≤ alert.clearStreak ∧
      (0 < n → alert.clearStreak < settings.clearTicks))

/-- An alert is one of the resolved ones or the last one. -/
theorem Shape.index (shape : Shape lane old current) (found : lane.alerts[i]? = some alert) :
    old[i]? = some alert ∨ i = old.length ∧ current = some alert := by
  rw [shape.alerts] at found
  rcases Nat.lt_or_ge i old.length with earlier | later
  · rw [List.getElem?_append_left earlier] at found
    exact .inl found
  · rw [List.getElem?_append_right later] at found
    cases current with
    | none => cases found
    | some last =>
      rw [Option.toList_some, List.getElem?_singleton, Option.ite_none_right_eq_some] at found
      exact .inr ⟨by omega, found.2⟩

variable {observation : RuleObservation}

/-- A clear tick resolves a firing alert or is counted. -/
theorem reconcile_clear (settings : Settings) (now : Nat) (firing : alert.state = .firing)
    (quiet : observation.firing = false) (below : observation.inBand = false) :
    let after := (alert.reconcile settings observation now).1
    after.state = .resolved ∨ after.state = .firing ∧
      after.clearStreak = alert.clearStreak + 1 ∧ after.clearStreak < settings.clearTicks := by
  simp only [Alert.reconcile, quiet, Alert.clearing, below, firing, Bool.false_eq_true, if_false,
    reduceCtorEq]
  split
  · exact .inl rfl
  next fewer => exact .inr ⟨rfl, rfl, Nat.lt_of_not_le fewer⟩

theorem Clears.tick {n : Nat} (shape : Shape lane old current) (clears : Clears settings i n lane)
    (observed : input.observation = some observation) (quiet : observation.firing = false)
    (below : observation.inBand = false) :
    Clears settings i (n + 1) (lane.tick settings input) := by
  obtain ⟨alert, found, resolved | ⟨firing, longer, _⟩⟩ := clears
  · rcases shape.index found with earlier | ⟨_, last⟩
    · refine ⟨alert, ?_, .inl resolved⟩
      rw [(shape.tick settings input).1, List.getElem?_append_left, earlier]
      exact (List.getElem?_eq_some_iff.mp earlier).1
    · exact absurd resolved (shape.unresolved alert last)
  · rcases shape.index found with earlier | ⟨rfl, rfl⟩
    · have resolved := shape.ended alert (List.mem_of_getElem? earlier)
      simp [firing] at resolved
    · have moves : moved settings (some alert) input =
          some (alert.reconcile settings observation input.now) := by
        unfold moved
        rw [observed]
      refine ⟨Lane.stamped input (alert.reconcile settings observation input.now),
        by rw [(shape.tick settings input).1, moves]; simp, ?_⟩
      simp only [Lane.stamped_state, Lane.stamped_clearStreak]
      rcases reconcile_clear settings input.now firing quiet below with
        ended | ⟨state, streak, fewer⟩
      · exact .inl ended
      · exact .inr ⟨state, by omega, fun _ => fewer⟩

end Clearing

/-- A firing alert whose rule has one threshold only, or whose metric stays below the threshold for
clearing, is resolved after `clear_ticks` ticks without a firing observation. -/
theorem alerts_clear (rule : AlertRules.RuleDef) (settings : Settings)
    (positive : 1 ≤ settings.clearTicks) (earlier later : List TickInput) (i : Nat)
    (firing : (Lane.run settings earlier).alerts[i]?.map (·.state) = some .firing)
    (enough : later.length = settings.clearTicks)
    (clear : ∀ input ∈ later, ∃ o, input.observation = some (routed o rule.effective) ∧
      o.firing = false ∧
      (rule.fireThreshold = rule.clearThreshold ∨ o.metricValue < rule.clearThreshold)) :
    (Lane.run settings (earlier ++ later)).alerts[i]?.map (·.state) = some .resolved := by
  have clears : Clears settings i later.length (Lane.run settings (earlier ++ later)) := by
    clear enough
    induction later using List.reverseRecOn with
    | nil =>
      obtain ⟨alert, found, state⟩ := Option.map_eq_some_iff.mp firing
      exact ⟨alert, by simpa using found, .inr ⟨state, Nat.zero_le _, by simp⟩⟩
    | append_singleton later input ih =>
      obtain ⟨o, observed, quiet, below⟩ := clear input (by simp)
      obtain ⟨_, _, debounced⟩ := exists_debounced settings (earlier ++ later)
      have before := ih fun other member => clear other (by simp [member])
      rw [← List.append_assoc, Lane.run_append, List.length_append]
      refine before.tick debounced.toShape observed quiet ?_
      show inHysteresisBand o rule.effective = false
      rcases below with same | less
      · exact if_pos same
      · rw [inHysteresisBand]
        split
        · rfl
        · exact decide_eq_false (not_le.mpr less)
  obtain ⟨alert, found, resolved | ⟨_, longer, fewer⟩⟩ := clears
  · rw [found, Option.map_some, resolved]
  · have := fewer (by omega)
    omega

def mapErrorInput (now : Nat) (count : Int) : TickInput :=
  nodeInput AlertRules.mapErrorRule now { mapErrorCount := some count }

theorem mapError_clears :
    (Lane.run twoTicks
      ([mapErrorInput 0 3, mapErrorInput 10 3] ++ [mapErrorInput 20 0])).alerts[0]?.map
      (·.state) = some .resolved := by
  refine alerts_clear AlertRules.mapErrorRule twoTicks (by decide) _ _ 0 (by decide) rfl ?_
  intro input member
  cases List.mem_singleton.mp member
  exact ⟨_, rfl, rfl, .inl rfl⟩

/-- A metric that has come down to the threshold for clearing does not count as clear. -/
theorem endedBypass_keeps_firing :
    AlertRules.bypassRule ∈ AlertRules.RULES ∧
    (∃ o, (bypassInput 20 false).observation = some (routed o AlertRules.bypassRule.effective) ∧
      o.firing = false ∧ o.metricValue ≤ AlertRules.bypassRule.clearThreshold) ∧
    (Lane.run twoTicks [bypassInput 0 true, bypassInput 10 true]).alerts.map (·.state) = [.firing] ∧
    (Lane.run twoTicks [bypassInput 0 true, bypassInput 10 true, bypassInput 20 false]).alerts.map
      (·.state) = [.firing] := by
  refine ⟨by simp [AlertRules.RULES], ⟨_, rfl, rfl, le_refl _⟩, by decide, by decide⟩

end ScrubbingGateway.Control.AlertLifecycle
