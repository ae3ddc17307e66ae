import ScrubbingGateway.Control.Accounts

/-!
# Alerts and the channels they are sent to

The evaluator runs one tick after the other: it moves the alerts on, queues a notification for every
channel an alert is for, and sends what is due. A tick is one session of the database, which keeps
the channels as it has seen them first. Channels are created, changed and deleted by others at any
time.
-/

namespace ScrubbingGateway.Control.AlertRouting

open Transition
open Accounts (TenantId)

abbrev AlertId := Nat
abbrev ChannelId := Nat
abbrev NotificationId := Nat

inductive AlertScope where
  | node | service
deriving DecidableEq, Repr

inductive AlertState where
  | pending | firing | resolved
deriving DecidableEq, Repr

inductive AlertSeverity where
  | info | warning | critical
deriving DecidableEq, Repr

/-- `_SEVERITY_ORDER` -/
def AlertSeverity.order : AlertSeverity → Nat
  | info => 0
  | warning => 1
  | critical => 2

inductive ChannelKind where
  | email | webhook
deriving DecidableEq, Repr

inductive NotificationState where
  | pending | sent | retrying | failed
deriving DecidableEq, Repr

inductive Trigger where
  | fire | reminder | resolve
deriving DecidableEq, Repr

structure Alert where
  ruleKey : String
  scope : AlertScope
  scopeKey : String
  tenantId : Option TenantId
  severity : AlertSeverity
  state : AlertState
  fireStreak : Nat
  clearStreak : Nat
  firedAt : Option Nat
  resolvedAt : Option Nat
  lastNotifiedAt : Option Nat
  acknowledgedAt : Option Nat
deriving DecidableEq, Repr

structure NotificationChannel where
  name : String
  kind : ChannelKind
  tenantId : Option TenantId
  enabled : Bool
  minSeverity : AlertSeverity
deriving DecidableEq, Repr

structure AlertNotification where
  alertId : AlertId
  channelId : Option ChannelId
  channelName : String
  kind : ChannelKind
  trigger : Trigger
  state : NotificationState
  attempts : Nat
  lastError : Option String
  sentAt : Option Nat
  updatedAt : Nat
deriving DecidableEq, Repr

structure Settings where
  fireTicks : Nat
  clearTicks : Nat
  renotifySeconds : Nat
  historyRetentionSeconds : Nat
  maxAttempts : Nat
  retryBackoffSeconds : Nat

/-! ## Alerts -/

structure RuleObservation where
  ruleKey : String
  scope : AlertScope
  scopeKey : String
  tenantId : Option TenantId
  severity : AlertSeverity
  firing : Bool
  /-- `_in_hysteresis_band` -/
  inBand : Bool
deriving DecidableEq, Repr

namespace Alert

def fire (alert : Alert) (now : Nat) : Alert :=
  { alert with state := .firing, firedAt := some now, clearStreak := 0 }

/-- `_resolve`, and what it notifies about. -/
def resolve (alert : Alert) (now : Nat) : Alert × Option Trigger :=
  if alert.state = .resolved then (alert, none)
  else ({ alert with state := .resolved, resolvedAt := some now }, some .resolve)

def renotifyDue (settings : Settings) (alert : Alert) (now : Nat) : Bool :=
  match alert.acknowledgedAt, alert.lastNotifiedAt with
  | none, some last => last + settings.renotifySeconds ≤ now
  | _, _ => false

def openPending (settings : Settings) (observation : RuleObservation) (now : Nat) :
    Alert × Option Trigger :=
  let alert : Alert :=
    { ruleKey := observation.ruleKey, scope := observation.scope
      scopeKey := observation.scopeKey, tenantId := observation.tenantId
      severity := observation.severity, state := .pending, fireStreak := 1, clearStreak := 0
      firedAt := none, resolvedAt := none, lastNotifiedAt := none, acknowledgedAt := none }
  if settings.fireTicks ≤ 1 then (alert.fire now, some .fire) else (alert, none)

/-- `_reconcile_observation` for an observation that fires. -/
def stillFiring (settings : Settings) (alert : Alert) (now : Nat) : Alert × Option Trigger :=
  match alert.state with
  | .pending =>
    let alert := { alert with fireStreak := alert.fireStreak + 1 }
    if settings.fireTicks ≤ alert.fireStreak then (alert.fire now, some .fire) else (alert, none)
  | .firing => (alert, if alert.renotifyDue settings now then some .reminder else none)
  | .resolved => (alert, none)

/-- `_reconcile_observation` for an observation that does not fire. -/
def clearing (settings : Settings) (alert : Alert) (inBand : Bool) (now : Nat) :
    Alert × Option Trigger :=
  if alert.state = .pending then ({ alert with fireStreak := 0, clearStreak := 0 }, none)
  else if inBand then ({ alert with clearStreak := 0 }, none)
  else
    let alert := { alert with clearStreak := alert.clearStreak + 1 }
    if settings.clearTicks ≤ alert.clearStreak then alert.resolve now else (alert, none)

/-- `_reconcile_observation` -/
def reconcile (settings : Settings) (alert : Alert) (observation : RuleObservation) (now : Nat) :
    Alert × Option Trigger :=
  let alert := { alert with severity := observation.severity }
  if observation.firing then { alert with clearStreak := 0 }.stillFiring settings now
  else alert.clearing settings observation.inBand now

end Alert

/-! ## Notifications -/

/-- `_matches` -/
def matchesChannel (channel : NotificationChannel) (alert : Alert) : Bool :=
  if alert.severity.order < channel.minSeverity.order then false
  else
    match alert.scope with
    | .node => channel.tenantId = none
    | .service => channel.tenantId = none ∨ channel.tenantId = alert.tenantId

namespace AlertNotification

/-- Whether it is still to be sent. -/
def isOpen (n : AlertNotification) : Bool := n.state = .pending ∨ n.state = .retrying

/-- `_retry_due`, which also closes a notification that was tried too often. -/
def retryDue (settings : Settings) (n : AlertNotification) (now : Nat) : Bool × AlertNotification :=
  if n.state = .pending then (true, n)
  else if settings.maxAttempts ≤ n.attempts then (false, { n with state := .failed })
  else (n.updatedAt + settings.retryBackoffSeconds * 2 ^ (n.attempts - 1) ≤ now, n)

def markFailure (settings : Settings) (n : AlertNotification) : AlertNotification :=
  { n with
    attempts := n.attempts + 1
    lastError := some "Alert channel delivery failed"
    state := if settings.maxAttempts ≤ n.attempts + 1 then .failed else .retrying }

def delivered (n : AlertNotification) (now : Nat) : AlertNotification :=
  { n with
    attempts := n.attempts + 1, state := .sent, lastError := none, sentAt := some now }

end AlertNotification

/-! ## The world -/

/-- The tables that only the evaluator writes. -/
structure Records where
  alerts : Table AlertId Alert
  notifications : Table NotificationId AlertNotification

/-- What `dispatch_pending` has loaded and not handled yet. -/
structure Batch where
  now : Nat
  rest : List (NotificationId × Option ChannelId)

structure Tick where
  now : Nat
  /-- The rows as they were committed last. -/
  saved : Records
  /-- `active_alerts` -/
  active : List AlertId
  /-- `observed_keys` -/
  observed : List (String × String)
  /-- The channels as the session has seen them first. -/
  seen : Table ChannelId NotificationChannel
  batch : Option Batch

/-- An envelope that was handed to a channel, and who owned the channel just then if it was still
there. -/
structure Sent where
  alert : Alert
  channelId : ChannelId
  owner : Option (Option TenantId)
deriving DecidableEq, Repr

structure World where
  records : Records
  channels : Table ChannelId NotificationChannel
  /-- Ids are drawn in order. -/
  nextId : Nat
  tick : Option Tick
  sent : List Sent

/-- The fields of a channel request; what is not given stays as it is. -/
structure ChannelPatch where
  name : Option String := none
  kind : Option ChannelKind := none
  tenantId : Option TenantId := none
  enabled : Option Bool := none
  minSeverity : Option AlertSeverity := none
deriving DecidableEq, Repr

/-- `patch_channel` -/
def NotificationChannel.patch (channel : NotificationChannel) (payload : ChannelPatch) :
    NotificationChannel where
  name := payload.name.getD channel.name
  kind := payload.kind.getD channel.kind
  tenantId := payload.tenantId.or channel.tenantId
  enabled := payload.enabled.getD channel.enabled
  minSeverity := payload.minSeverity.getD channel.minSeverity

inductive Label where
  | beginTick (now : Nat)
  | observe (observation : RuleObservation) (silenced : Bool)
  /-- An active alert was not observed any more. -/
  | absent (id : AlertId) (silenced : Bool)
  | pruneHistory
  /-- The session forgets a channel that nothing of it refers to. -/
  | forget (id : ChannelId)
  /-- `dispatch_pending` loads what is open. -/
  | load (now : Nat)
  /-- The next notification is handled; the transport works or fails. -/
  | deliver (works : Bool) (now : Nat)
  | commit
  | rollback
  | createChannel (channel : NotificationChannel)
  | patchChannel (id : ChannelId) (payload : ChannelPatch)
  | deleteChannel (id : ChannelId)
deriving DecidableEq, Repr

namespace Records

/-- Notifications are added one after the other, under the next ids. -/
def addNotifications (records : Records) (nextId : Nat) : List AlertNotification → Records
  | [] => records
  | n :: rest =>
    addNotifications { records with notifications := records.notifications.insert nextId n }
      (nextId + 1) rest

/-- The foreign key of the notifications, when a channel is deleted. -/
def dropChannel (records : Records) (id : ChannelId) : Records :=
  { records with
    notifications := records.notifications.mapRows fun n =>
      if n.channelId = some id then { n with channelId := none } else n }

/-- `prune_history`, with the notifications that are deleted along. -/
def pruneHistory (records : Records) (settings : Settings) (now : Nat) : Records :=
  let kept (alert : Alert) : Bool :=
    match alert.state, alert.resolvedAt with
    | .resolved, some resolvedAt => now ≤ resolvedAt + settings.historyRetentionSeconds
    | _, _ => true
  { alerts := records.alerts.filterRows kept
    notifications := records.notifications.filterRows fun n =>
      match records.alerts.lookup n.alertId with
      | some alert => kept alert
      | none => true }

end Records

namespace Tick

/-- A row as the session has it. -/
def view (tick : Tick) (id : ChannelId) (row : NotificationChannel) : NotificationChannel :=
  (tick.seen.lookup id).getD row

/-- The session has read some rows; those it had before stay as they were. -/
def read (tick : Tick) (rows : List (ChannelId × NotificationChannel)) : Tick :=
  { tick with
    seen := rows.foldl (fun seen e => if e.1 ∈ seen then seen else seen.insert e.1 e.2) tick.seen }

/-- The alert an observation is about: of several with one key the last one counts. -/
def activeAlert (tick : Tick) (records : Records) (observation : RuleObservation) :
    Option (AlertId × Alert) :=
  (tick.active.reverse.filterMap fun id => (records.alerts.lookup id).map (id, ·)).find? fun e =>
    e.2.ruleKey = observation.ruleKey ∧ e.2.scopeKey = observation.scopeKey

end Tick

namespace World

def init : World where
  records := ⟨∅, ∅⟩
  channels := ∅
  nextId := 0
  tick := none
  sent := []

variable (w : World) (tick : Tick)

/-- The rows `select_channels` reads. -/
def enabledChannels : List (ChannelId × NotificationChannel) :=
  w.channels.pairs.filter fun e => e.2.enabled

def selectChannels (alert : Alert) : List (ChannelId × NotificationChannel) :=
  (w.enabledChannels.map fun e => (e.1, tick.view e.1 e.2)).filter fun e =>
    matchesChannel e.2 alert

/-- The notifications `enqueue` adds. -/
def routed (id : AlertId) (alert : Alert) (trigger : Trigger) : List AlertNotification :=
  (w.selectChannels tick alert).map fun e =>
    { alertId := id, channelId := some e.1, channelName := e.2.name, kind := e.2.kind
      trigger := trigger, state := .pending, attempts := 0, lastError := none, sentAt := none
      updatedAt := tick.now }

/-- An alert has moved on; `_enqueue` unless its rule is silenced. -/
def move (id : AlertId) (moved : Alert × Option Trigger) (silenced : Bool) : World :=
  match moved.2, silenced with
  | some trigger, false =>
    let alert := { moved.1 with lastNotifiedAt := some tick.now }
    let added := w.routed tick id alert trigger
    { w with
      records := { w.records with alerts := w.records.alerts.insert id alert }.addNotifications
        w.nextId added
      nextId := w.nextId + added.length
      tick := some (tick.read w.enabledChannels) }
  | _, _ =>
    { w with
      records := { w.records with alerts := w.records.alerts.insert id moved.1 }
      tick := some tick }

/-- One observation of `reconcile`. -/
def observe (settings : Settings) (tick : Tick) (observation : RuleObservation) (silenced : Bool) :
    World :=
  let tick' :=
    { tick with observed := (observation.ruleKey, observation.scopeKey) :: tick.observed }
  match tick.activeAlert w.records observation with
  | some (id, alert) => w.move tick' id (alert.reconcile settings observation tick.now) silenced
  | none =>
    if observation.firing then
      { w with nextId := w.nextId + 1 }.move tick' w.nextId
        (Alert.openPending settings observation tick.now) silenced
    else { w with tick := some tick' }

/-- What `dispatch_pending` loads. -/
def load (now : Nat) : World :=
  let ids := w.records.notifications.selectKeys AlertNotification.isOpen
    fun a b => decide (a.1 ≤ b.1)
  let rest := ids.map fun id => (id, (w.records.notifications.lookup id).bind (·.channelId))
  let rows := w.channels.pairs.filter fun e => rest.any fun r => r.2 = some e.1
  { w with tick := some { tick.read rows with batch := some ⟨now, rest⟩ } }

/-- A notification of the batch is written back. -/
def write (batch : Batch) (id : NotificationId) (n : AlertNotification) (now : Nat) : World :=
  let n := { n with updatedAt := now }
  { w with
    records := { w.records with notifications := w.records.notifications.insert id n }
    tick := some { tick with batch := some batch } }

/-- `deliver`: the envelope is on its way whether or not the transport then works. -/
def send (alert : Alert) (channelId : ChannelId) : World :=
  { w with sent := ⟨alert, channelId, (w.channels.lookup channelId).map (·.tenantId)⟩ :: w.sent }

/-- One round of the loop of `dispatch_pending`. -/
def handle (settings : Settings) (tick : Tick) (batch : Batch) (id : NotificationId)
    (channelId : Option ChannelId) (n : AlertNotification) (works : Bool) (now : Nat) : World :=
  match n.retryDue settings batch.now with
  | (false, n') => if n' = n then { w with tick := some { tick with batch := some batch } }
    else w.write tick batch id n' now
  | (true, n) =>
    match w.records.alerts.lookup n.alertId, channelId with
    | some alert, some channelId =>
      (w.send alert channelId).write tick batch id
        (if works then n.delivered now else n.markFailure settings) now
    | _, _ => w.write tick batch id (n.markFailure settings) now

def step (settings : Settings) (w : World) : Label → Option World
  | .beginTick now =>
    match w.tick with
    | some _ => none
    | none =>
      let active := w.records.alerts.selectKeys (fun a => a.state ≠ .resolved)
        fun a b => decide (a.1 ≤ b.1)
      some { w with tick := some ⟨now, w.records, active, [], ∅, none⟩ }
  | .observe observation silenced =>
    w.tick.bind fun tick =>
      if tick.batch.isSome then none else some (w.observe settings tick observation silenced)
  | .absent id silenced =>
    w.tick.bind fun tick =>
      (w.records.alerts.lookup id).bind fun alert =>
        if tick.batch.isSome ∨ id ∉ tick.active ∨ (alert.ruleKey, alert.scopeKey) ∈ tick.observed
        then none
        else some (w.move tick id (alert.resolve tick.now) silenced)
  | .pruneHistory =>
    w.tick.bind fun tick =>
      if tick.batch.isSome then none
      else some { w with records := w.records.pruneHistory settings tick.now }
  | .forget id =>
    w.tick.map fun tick => { w with tick := some { tick with seen := tick.seen.erase id } }
  | .load now =>
    w.tick.bind fun tick => if tick.batch.isSome then none else some (w.load tick now)
  | .deliver works now =>
    w.tick.bind fun tick => tick.batch.bind fun batch =>
      match batch.rest with
      | [] => none
      | (id, channelId) :: rest =>
        (w.records.notifications.lookup id).map fun n =>
          w.handle settings tick ⟨batch.now, rest⟩ id channelId n works now
  | .commit =>
    w.tick.bind fun tick =>
      if tick.batch.any (·.rest = []) then some { w with tick := none } else none
  | .rollback => w.tick.map fun tick => { w with records := tick.saved, tick := none }
  | .createChannel channel =>
    some { w with channels := w.channels.insert w.nextId channel, nextId := w.nextId + 1 }
  | .patchChannel id payload =>
    (w.channels.lookup id).map fun channel =>
      { w with channels := w.channels.insert id (channel.patch payload) }
  | .deleteChannel id =>
    if id ∈ w.channels then
      some
        { w with
          channels := w.channels.erase id
          records := w.records.dropChannel id
          tick := w.tick.map fun tick => { tick with saved := tick.saved.dropChannel id } }
    else none

end World

end ScrubbingGateway.Control.AlertRouting
