import ScrubbingGateway.Control.AlertRouting

/-!
# Who an alert can reach

A notification is queued for the channels an alert is for, and sent later to whatever the channel
has become. As long as a channel only changes hands while nothing queued for it would go astray,
no envelope reaches a stranger.
-/

namespace ScrubbingGateway.Control.AlertRouting

open Transition
open Accounts (TenantId)

/-- Whether an alert is for the owner of a channel; a channel of nobody is the operator's. -/
def Alert.MayReach (alert : Alert) (owner : Option TenantId) : Prop :=
  match alert.scope with
  | .node => owner = none
  | .service => owner = none ∨ owner = alert.tenantId

instance (alert : Alert) (owner : Option TenantId) : Decidable (alert.MayReach owner) := by
  unfold Alert.MayReach
  cases alert.scope <;> infer_instance

/-- An envelope was for the one who owned the channel when it was sent. -/
def Sent.Rightful (sent : Sent) : Prop := ∀ owner ∈ sent.owner, sent.alert.MayReach owner

instance (sent : Sent) : Decidable sent.Rightful := by
  unfold Sent.Rightful
  infer_instance

/-- No envelope went to a channel of a tenant the alert is not for. -/
def World.Isolated (w : World) : Prop := ∀ sent ∈ w.sent, sent.Rightful

instance (w : World) : Decidable w.Isolated := by
  unfold World.Isolated
  infer_instance

/-- A channel changes hands between two ticks only, and while everything that is still open for it
is for its new owner too. -/
def HandedOver (w : World) : Label → World → Prop
  | .patchChannel id payload, _ => ∀ owner ∈ payload.tenantId,
      (w.channels.lookup id).map (·.tenantId) = some (some owner) ∨
        w.tick.isNone ∧ ∀ e ∈ w.records.notifications.entries,
          e.2.isOpen → e.2.channelId = some id →
            ∀ alert ∈ w.records.alerts.lookup e.2.alertId, alert.MayReach (some owner)
  | _, _ => True

instance (w : World) : (label : Label) → (w' : World) → Decidable (HandedOver w label w')
  | .patchChannel _ _, _ => by unfold HandedOver; infer_instance
  | .beginTick _, _ | .observe _ _, _ | .absent _ _, _ | .pruneHistory, _ | .forget _, _
  | .load _, _ | .deliver _ _, _ | .commit, _ | .rollback, _ | .createChannel _, _
  | .deleteChannel _, _ => isTrue trivial

variable {channel : NotificationChannel} {alert : Alert} {n : AlertNotification}

theorem mayReach_of_matchesChannel (matching : matchesChannel channel alert = true) :
    alert.MayReach channel.tenantId := by
  unfold Alert.MayReach
  unfold matchesChannel at matching
  split at matching
  · exact absurd matching Bool.false_ne_true
  · cases scope : alert.scope <;> simpa [scope] using matching

/-! ## Alerts keep their scope -/

/-- Who an alert is for depends on its scope and its tenant. -/
def Alert.SameScope (alert alert' : Alert) : Prop :=
  alert'.scope = alert.scope ∧ alert'.tenantId = alert.tenantId

theorem Alert.SameScope.mayReach {alert' : Alert} (same : alert.SameScope alert')
    {owner : Option TenantId} (reach : alert.MayReach owner) : alert'.MayReach owner := by
  unfold Alert.MayReach at reach ⊢
  rw [same.1, same.2]
  exact reach

theorem sameScope_resolve (alert : Alert) (now : Nat) : alert.SameScope (alert.resolve now).1 := by
  unfold Alert.resolve
  split <;> exact ⟨rfl, rfl⟩

theorem sameScope_stillFiring (settings : Settings) (alert : Alert) (now : Nat) :
    alert.SameScope (alert.stillFiring settings now).1 := by
  unfold Alert.stillFiring
  split
  · dsimp only
    split <;> exact ⟨rfl, rfl⟩
  · exact ⟨rfl, rfl⟩
  · exact ⟨rfl, rfl⟩

theorem sameScope_clearing (settings : Settings) (alert : Alert) (inBand : Bool) (now : Nat) :
    alert.SameScope (alert.clearing settings inBand now).1 := by
  unfold Alert.clearing
  split
  · exact ⟨rfl, rfl⟩
  · split
    · exact ⟨rfl, rfl⟩
    · dsimp only
      split
      · exact sameScope_resolve { alert with clearStreak := alert.clearStreak + 1 } now
      · exact ⟨rfl, rfl⟩

theorem sameScope_reconcile (settings : Settings) (alert : Alert) (observation : RuleObservation)
    (now : Nat) : alert.SameScope (alert.reconcile settings observation now).1 := by
  unfold Alert.reconcile
  dsimp only
  split
  · exact sameScope_stillFiring settings
      { alert with severity := observation.severity, clearStreak := 0 } now
  · exact sameScope_clearing settings { alert with severity := observation.severity } _ now

/-! ## What is queued fits the channels -/

/-- What is still open is for the owner its channel has now. -/
structure Fits (channels : Table ChannelId NotificationChannel) (nextId : Nat) (records : Records) :
    Prop where
  reach : ∀ {id n channelId alert channel}, records.notifications.lookup id = some n →
    n.isOpen = true → n.channelId = some channelId →
    records.alerts.lookup n.alertId = some alert → channels.lookup channelId = some channel →
    alert.MayReach channel.tenantId
  alert : ∀ {id alert}, records.alerts.lookup id = some alert → id < nextId
  alertId : ∀ {id n}, records.notifications.lookup id = some n → n.alertId < nextId
  channelId : ∀ {id n channelId}, records.notifications.lookup id = some n →
    n.channelId = some channelId → channelId < nextId

/-- Channels that were there already still belong to the same tenants. -/
def SameOwners (nextId : Nat) (channels channels' : Table ChannelId NotificationChannel) : Prop :=
  ∀ id < nextId, ∀ channel', channels'.lookup id = some channel' →
    ∃ channel, channels.lookup id = some channel ∧ channel'.tenantId = channel.tenantId

variable {id : ChannelId}

theorem lookup_dropChannel {records : Records} {nid : NotificationId}
    (found : (records.dropChannel id).notifications.lookup nid = some n) :
    ∃ old, records.notifications.lookup nid = some old ∧ n.isOpen = old.isOpen ∧
      n.alertId = old.alertId ∧ ∀ c, n.channelId = some c → old.channelId = some c := by
  rw [Records.dropChannel, Table.lookup_mapRows, Option.map_eq_some_iff] at found
  obtain ⟨old, foundOld, rfl⟩ := found
  split
  · exact ⟨old, foundOld, rfl, rfl, fun c at_ => nomatch at_⟩
  · exact ⟨old, foundOld, rfl, rfl, fun c at_ => at_⟩

namespace Fits

variable {channels channels' : Table ChannelId NotificationChannel} {nextId : Nat}
  {records : Records}

theorem empty (channels : Table ChannelId NotificationChannel) (nextId : Nat) :
    Fits channels nextId ⟨∅, ∅⟩ where
  reach := fun found => nomatch found
  alert := fun found => nomatch found
  alertId := fun found => nomatch found
  channelId := fun found => nomatch found

variable (fits : Fits channels nextId records)
include fits

theorem mono {nextId' : Nat} (le : nextId ≤ nextId') :
    Fits channels nextId' records where
  reach := fits.reach
  alert := fun found => (fits.alert found).trans_le le
  alertId := fun found => (fits.alertId found).trans_le le
  channelId := fun found at_ => (fits.channelId found at_).trans_le le

theorem owners (same : SameOwners nextId channels channels') :
    Fits channels' nextId records := by
  refine { fits with reach := ?_ }
  intro id n channelId alert channel' found isOpen at_ foundAlert row
  obtain ⟨channel, old, owner⟩ := same channelId (fits.channelId found at_) channel' row
  rw [owner]
  exact fits.reach found isOpen at_ foundAlert old

theorem setAlert {id : AlertId} {alert : Alert} (bound : id < nextId)
    (known : ∀ nid n, records.notifications.lookup nid = some n → n.alertId = id →
      ∃ old, records.alerts.lookup id = some old ∧ old.SameScope alert) :
    Fits channels nextId { records with alerts := records.alerts.insert id alert } := by
  refine { fits with reach := ?_, alert := ?_ }
  · intro nid n channelId alert' channel found isOpen at_ foundAlert row
    rcases Table.lookup_insert_eq_some.mp foundAlert with ⟨same, rfl⟩ | ⟨_, foundAlert⟩
    · obtain ⟨old, foundOld, sameScope⟩ := known nid n found same
      exact sameScope.mayReach (fits.reach found isOpen at_ (same ▸ foundOld) row)
    · exact fits.reach found isOpen at_ foundAlert row
  · intro id' alert' found
    rcases Table.lookup_insert_eq_some.mp found with ⟨rfl, _⟩ | ⟨_, found⟩
    · exact bound
    · exact fits.alert found

theorem setNotification (id : NotificationId) {n : AlertNotification}
    (alertId : n.alertId < nextId)
    (channelId : ∀ channelId, n.channelId = some channelId → channelId < nextId)
    (reach : n.isOpen = true → ∀ channelId alert channel, n.channelId = some channelId →
      records.alerts.lookup n.alertId = some alert → channels.lookup channelId = some channel →
      alert.MayReach channel.tenantId) :
    Fits channels nextId { records with notifications := records.notifications.insert id n } := by
  refine { fits with reach := ?_, alertId := ?_, channelId := ?_ }
  · intro id' n' channelId' alert channel found isOpen at_ foundAlert row
    rcases Table.lookup_insert_eq_some.mp found with ⟨_, rfl⟩ | ⟨_, found⟩
    · exact reach isOpen _ _ _ at_ foundAlert row
    · exact fits.reach found isOpen at_ foundAlert row
  · intro id' n' found
    rcases Table.lookup_insert_eq_some.mp found with ⟨_, rfl⟩ | ⟨_, found⟩
    · exact alertId
    · exact fits.alertId found
  · intro id' n' channelId' found at_
    rcases Table.lookup_insert_eq_some.mp found with ⟨_, rfl⟩ | ⟨_, found⟩
    · exact channelId _ at_
    · exact fits.channelId found at_

theorem addNotifications {id : AlertId} {alert : Alert} (bound : id < nextId)
    (foundAlert : records.alerts.lookup id = some alert) {added : List AlertNotification}
    (each : ∀ n ∈ added, n.alertId = id ∧ ∀ channelId, n.channelId = some channelId →
      channelId < nextId ∧ ∀ channel, channels.lookup channelId = some channel →
      alert.MayReach channel.tenantId) (first : Nat) :
    Fits channels nextId (records.addNotifications first added) := by
  induction added generalizing records first with
  | nil => exact fits
  | cons n rest ih =>
    obtain ⟨owner, target⟩ := each n List.mem_cons_self
    have later := fun n' member => each n' (List.mem_cons_of_mem n member)
    apply ih (fits.setNotification first (owner ▸ bound) (fun c at_ => (target c at_).1) ?_)
      foundAlert later
    intro _ channelId alert' channel at_ found row
    rw [owner, foundAlert] at found
    cases found
    exact (target channelId at_).2 channel row

theorem dropChannel (id : ChannelId) :
    Fits (channels.erase id) nextId (records.dropChannel id) := by
  constructor
  · intro nid n channelId alert channel found isOpen at_ foundAlert row
    obtain ⟨old, foundOld, sameOpen, sameAlert, target⟩ := lookup_dropChannel found
    exact fits.reach foundOld (sameOpen ▸ isOpen) (target _ at_) (sameAlert ▸ foundAlert)
      (Table.lookup_erase_eq_some.mp row).2
  · exact fits.alert
  · intro nid n found
    obtain ⟨old, foundOld, _, sameAlert, _⟩ := lookup_dropChannel found
    exact sameAlert ▸ fits.alertId foundOld
  · intro nid n channelId found at_
    obtain ⟨old, foundOld, _, _, target⟩ := lookup_dropChannel found
    exact fits.channelId foundOld (target _ at_)

theorem pruneHistory (settings : Settings) (now : Nat) :
    Fits channels nextId (records.pruneHistory settings now) := by
  have former {nid : NotificationId} {n : AlertNotification}
      (found : (records.pruneHistory settings now).notifications.lookup nid = some n) :
      records.notifications.lookup nid = some n := by
    rw [Records.pruneHistory, Table.lookup_filterRows, Option.filter_eq_some_iff] at found
    exact found.1
  constructor
  · intro nid n channelId alert channel found isOpen at_ foundAlert row
    rw [Records.pruneHistory, Table.lookup_filterRows, Option.filter_eq_some_iff] at foundAlert
    exact fits.reach (former found) isOpen at_ foundAlert.1 row
  · intro id alert found
    rw [Records.pruneHistory, Table.lookup_filterRows, Option.filter_eq_some_iff] at found
    exact fits.alert found.1
  · intro nid n found
    exact fits.alertId (former found)
  · intro nid n channelId found at_
    exact fits.channelId (former found) at_

end Fits

/-! ## The invariant of a run -/

/-- What a session has seen of the channels is still right about their owners. -/
def Agrees (w : World) (seen : Table ChannelId NotificationChannel) : Prop :=
  ∀ id channel, seen.lookup id = some channel → id < w.nextId ∧
    ∀ row, w.channels.lookup id = some row → row.tenantId = channel.tenantId

/-- What a running tick has read agrees with the channels as they are. -/
structure Tick.Coherent (w : World) (tick : Tick) : Prop where
  saved : Fits w.channels w.nextId tick.saved
  seen : Agrees w tick.seen
  /-- What is loaded is for the owner of the channel it was loaded with, -/
  reach : ∀ {batch id channelId}, tick.batch = some batch → (id, some channelId) ∈ batch.rest →
    channelId < w.nextId ∧ ∀ n alert channel, w.records.notifications.lookup id = some n →
      w.records.alerts.lookup n.alertId = some alert → w.channels.lookup channelId = some channel →
      alert.MayReach channel.tenantId
  /-- which is the one in its row, unless that was deleted. -/
  target : ∀ {batch id channelId n}, tick.batch = some batch → (id, channelId) ∈ batch.rest →
    w.records.notifications.lookup id = some n → n.channelId = none ∨ n.channelId = channelId

structure Inv (w : World) : Prop where
  fits : Fits w.channels w.nextId w.records
  tick : ∀ tick, w.tick = some tick → tick.Coherent w
  bound : ∀ {id channel}, w.channels.lookup id = some channel → id < w.nextId
  isolated : w.Isolated

variable {w w' : World} {tick : Tick} {settings : Settings}

/-- Without a batch there is nothing to be sent. -/
theorem Tick.coherent_of_idle (idle : tick.batch = none)
    (saved : Fits w.channels w.nextId tick.saved) (seen : Agrees w tick.seen) : tick.Coherent w where
  saved := saved
  seen := seen
  reach := fun loading => nomatch idle.symm.trans loading
  target := fun loading => nomatch idle.symm.trans loading

theorem inv_init : Inv World.init where
  fits := Fits.empty _ _
  tick := fun _ running => nomatch running
  bound := fun found => nomatch found
  isolated := fun _ member => nomatch member

namespace Agrees

variable {seen : Table ChannelId NotificationChannel}

theorem insert (agrees : Agrees w seen) (inv : Inv w) {id : ChannelId}
    {channel : NotificationChannel} (stored : w.channels.lookup id = some channel) :
    Agrees w (seen.insert id channel) := by
  intro id' channel' found
  rcases Table.lookup_insert_eq_some.mp found with ⟨rfl, rfl⟩ | ⟨_, found⟩
  · constructor
    · exact inv.bound stored
    · intro row rowAt
      rw [stored] at rowAt
      cases rowAt
      rfl
  · exact agrees id' channel' found

theorem read (agrees : Agrees w tick.seen) (inv : Inv w)
    {rows : List (ChannelId × NotificationChannel)}
    (stored : ∀ e ∈ rows, w.channels.lookup e.1 = some e.2) : Agrees w (tick.read rows).seen := by
  unfold Tick.read
  dsimp only
  generalize tick.seen = seen at agrees ⊢
  induction rows generalizing seen with
  | nil => exact agrees
  | cons e rest ih =>
    have later := fun e' member => stored e' (List.mem_cons_of_mem e member)
    rw [List.foldl_cons]
    split
    · exact ih later seen agrees
    · exact ih later _ (agrees.insert inv (stored e List.mem_cons_self))

theorem erase (agrees : Agrees w seen) (id : ChannelId) : Agrees w (seen.erase id) := by
  exact fun id' channel found => agrees id' channel (Table.lookup_erase_eq_some.mp found).2

theorem view (agrees : Agrees w tick.seen) {id : ChannelId} {row : NotificationChannel}
    (stored : w.channels.lookup id = some row) : (tick.view id row).tenantId = row.tenantId := by
  unfold Tick.view
  cases found : tick.seen.lookup id with
  | none => rfl
  | some channel => exact ((agrees id channel found).2 row stored).symm

end Agrees

/-! ## A step of the evaluator -/

theorem lookup_of_mem_enabledChannels {e : ChannelId × NotificationChannel}
    (member : e ∈ w.enabledChannels) : w.channels.lookup e.1 = some e.2 :=
  Table.mem_pairs.mp (List.mem_filter.mp member).1

theorem mayReach_of_mem_routed (inv : Inv w) (agrees : Agrees w tick.seen) {id : AlertId}
    {trigger : Trigger} (member : n ∈ w.routed tick id alert trigger) :
    n.alertId = id ∧ ∀ channelId, n.channelId = some channelId →
      channelId < w.nextId ∧ ∀ channel, w.channels.lookup channelId = some channel →
        alert.MayReach channel.tenantId := by
  obtain ⟨e, selected, rfl⟩ := List.mem_map.mp member
  obtain ⟨viewed, matching⟩ := List.mem_filter.mp selected
  obtain ⟨row, enabled, rfl⟩ := List.mem_map.mp viewed
  have stored := lookup_of_mem_enabledChannels enabled
  constructor
  · rfl
  · rintro channelId ⟨⟩
    constructor
    · exact inv.bound stored
    · intro channel found
      dsimp only at found
      rw [stored] at found
      cases found
      exact agrees.view stored ▸ mayReach_of_matchesChannel matching

variable {moved : Alert × Option Trigger}

theorem Inv.move (inv : Inv w) (coherent : tick.Coherent w) (idle : tick.batch = none)
    {id : AlertId} (bound : id < w.nextId)
    (known : ∀ nid n, w.records.notifications.lookup nid = some n → n.alertId = id →
      ∃ old, w.records.alerts.lookup id = some old ∧ old.SameScope moved.1) (silenced : Bool) :
    Inv (w.move tick id moved silenced) := by
  unfold World.move
  split
  next trigger _ =>
    -- the alert is written first, so that the notifications find it
    have written : Fits w.channels w.nextId { w.records with
        alerts := w.records.alerts.insert id { moved.1 with lastNotifiedAt := some tick.now } } := by
      apply inv.fits.setAlert bound
      exact known
    have queued := written.addNotifications bound (AList.lookup_insert _)
      (fun n (member : n ∈ w.routed tick id _ trigger) =>
        mayReach_of_mem_routed inv coherent.seen member) w.nextId
    constructor
    · exact queued.mono (Nat.le_add_right _ _)
    · rintro _ ⟨⟩
      refine Tick.coherent_of_idle idle (coherent.saved.mono (Nat.le_add_right _ _)) ?_
      intro id' channel found
      obtain ⟨lt, owner⟩ := coherent.seen.read inv
        (fun e member => lookup_of_mem_enabledChannels member) id' channel found
      exact ⟨Nat.lt_add_right _ lt, owner⟩
    · intro id' channel found
      exact Nat.lt_add_right _ (inv.bound found)
    · exact inv.isolated
  · refine { inv with fits := inv.fits.setAlert bound known, tick := ?_ }
    rintro _ ⟨⟩
    exact Tick.coherent_of_idle idle coherent.saved coherent.seen

/-- Ids are drawn, and the channels change, while nobody's channel gets another owner. -/
theorem Inv.setChannels (inv : Inv w) {channels : Table ChannelId NotificationChannel}
    {nextId : Nat} (le : w.nextId ≤ nextId) (same : SameOwners w.nextId w.channels channels)
    (bound : ∀ {id channel}, channels.lookup id = some channel → id < nextId) :
    Inv { w with channels := channels, nextId := nextId } where
  fits := (inv.fits.owners same).mono le
  tick := by
    intro tick running
    have coherent := inv.tick tick running
    constructor
    · exact (coherent.saved.owners same).mono le
    · intro id channel found
      obtain ⟨lt, owner⟩ := coherent.seen id channel found
      constructor
      · exact lt.trans_le le
      · intro row stored
        obtain ⟨old, storedOld, sameOwner⟩ := same id lt row stored
        exact sameOwner.trans (owner old storedOld)
    · intro batch id channelId loading member
      obtain ⟨lt, reach⟩ := coherent.reach loading member
      constructor
      · exact lt.trans_le le
      · intro n alert channel found foundAlert row
        obtain ⟨old, storedOld, sameOwner⟩ := same channelId lt channel row
        rw [sameOwner]
        exact reach n alert old found foundAlert storedOld
    · exact coherent.target
  bound := bound
  isolated := inv.isolated

theorem Inv.draw (inv : Inv w) : Inv { w with nextId := w.nextId + 1 } := by
  apply inv.setChannels (Nat.le_succ _)
  · intro id _ channel stored
    exact ⟨channel, stored, rfl⟩
  · intro id channel stored
    exact (inv.bound stored).trans (Nat.lt_succ_self _)

theorem lookup_of_activeAlert {observation : RuleObservation} {id : AlertId}
    (found : tick.activeAlert w.records observation = some (id, alert)) :
    w.records.alerts.lookup id = some alert := by
  have member := List.mem_of_find?_eq_some found
  obtain ⟨id', _, row⟩ := List.mem_filterMap.mp member
  obtain ⟨alert', stored, same⟩ := Option.map_eq_some_iff.mp row
  cases same
  exact stored

theorem Inv.moveStored (inv : Inv w) (coherent : tick.Coherent w) (idle : tick.batch = none)
    {id : AlertId} (stored : w.records.alerts.lookup id = some alert)
    (same : alert.SameScope moved.1) (silenced : Bool) : Inv (w.move tick id moved silenced) := by
  apply inv.move coherent idle (inv.fits.alert stored)
  intro nid n found at_
  exact ⟨alert, stored, same⟩

theorem Inv.observe (inv : Inv w) (running : w.tick = some tick) (idle : tick.batch = none)
    (observation : RuleObservation) (silenced : Bool) :
    Inv (w.observe settings tick observation silenced) := by
  have noted (w' : World) (before : tick.Coherent w') : Tick.Coherent w'
      { tick with observed := (observation.ruleKey, observation.scopeKey) :: tick.observed } :=
    ⟨before.saved, before.seen, before.reach, before.target⟩
  unfold World.observe
  dsimp only
  split
  next id alert found =>
    exact inv.moveStored (noted w (inv.tick tick running)) idle (lookup_of_activeAlert found)
      (sameScope_reconcile settings alert observation tick.now) silenced
  · split
    · -- a new alert has an id that no notification knows
      apply inv.draw.move (noted _ (inv.draw.tick tick running)) idle (Nat.lt_succ_self _)
      intro nid n found at_
      exact absurd at_ (inv.fits.alertId found).ne
    · refine { inv with tick := ?_ }
      rintro _ ⟨⟩
      have coherent := noted w (inv.tick tick running)
      exact ⟨coherent.saved, coherent.seen, coherent.reach, coherent.target⟩

theorem Inv.pruneHistory (inv : Inv w) (idle : ∀ tick, w.tick = some tick → tick.batch = none)
    (now : Nat) : Inv { w with records := w.records.pruneHistory settings now } := by
  refine { inv with fits := inv.fits.pruneHistory settings now, tick := ?_ }
  intro tick running
  have coherent := inv.tick tick running
  exact Tick.coherent_of_idle (idle tick running) coherent.saved coherent.seen

theorem Inv.load (inv : Inv w) (running : w.tick = some tick) (now : Nat) :
    Inv (w.load tick now) := by
  have coherent := inv.tick tick running
  refine { inv with tick := ?_ }
  rintro _ ⟨⟩
  refine { coherent with seen := ?_, reach := ?_, target := ?_ }
  · apply coherent.seen.read inv
    intro e member
    exact Table.mem_pairs.mp (List.mem_filter.mp member).1
  · rintro _ id channelId ⟨⟩ member
    obtain ⟨id', loaded, same⟩ := List.mem_map.mp member
    obtain ⟨n, found, isOpen⟩ := (Table.mem_selectKeys _ _ _ _).mp loaded
    obtain ⟨rfl, at_⟩ := Prod.mk.inj same
    rw [found] at at_
    constructor
    · exact inv.fits.channelId found at_
    · intro n' alert channel found' foundAlert row
      cases found.symm.trans found'
      exact inv.fits.reach found isOpen at_ foundAlert row
  · rintro _ id channelId n ⟨⟩ member found
    obtain ⟨id', loaded, same⟩ := List.mem_map.mp member
    obtain ⟨rfl, at_⟩ := Prod.mk.inj same
    rw [show w.records.notifications.lookup id' = some n from found] at at_
    exact .inr at_

/-! ## Deliveries -/

variable {batch batch' : Batch} {channelId : Option ChannelId}

/-- A notification is written back for the alert and the channel it was for. -/
theorem Inv.write (inv : Inv w) (coherent : tick.Coherent w) {id : NotificationId}
    {old : AlertNotification} (loading : tick.batch = some batch)
    (member : (id, channelId) ∈ batch.rest) (found : w.records.notifications.lookup id = some old)
    (sameAlert : n.alertId = old.alertId) (sameChannel : n.channelId = old.channelId)
    (sub : batch'.rest ⊆ batch.rest) (now : Nat) : Inv (w.write tick batch' id n now) := by
  -- rows other than this one are as before, and this one is still for the same alert and channel
  have former {id' : NotificationId} {n' : AlertNotification}
      (found' : (w.write tick batch' id n now).records.notifications.lookup id' = some n') :
      ∃ old', w.records.notifications.lookup id' = some old' ∧ n'.alertId = old'.alertId ∧
        n'.channelId = old'.channelId := by
    rcases Table.lookup_insert_eq_some.mp found' with ⟨rfl, rfl⟩ | ⟨_, found'⟩
    · exact ⟨old, found, sameAlert, sameChannel⟩
    · exact ⟨n', found', rfl, rfl⟩
  refine { inv with fits := ?_, tick := ?_ }
  · apply inv.fits.setNotification id
    · exact sameAlert ▸ inv.fits.alertId found
    · intro c at_
      exact inv.fits.channelId found (sameChannel ▸ at_)
    · intro _ c alert channel at_ foundAlert row
      have here : old.channelId = some c := sameChannel ▸ at_
      rcases coherent.target loading member found with gone | same
      · exact absurd (gone.symm.trans here) (Option.some_ne_none c).symm
      · rw [here] at same
        exact (coherent.reach loading (same ▸ member)).2 old alert channel found
          (sameAlert ▸ foundAlert) row
  · rintro _ ⟨⟩
    refine { coherent with reach := ?_, target := ?_ }
    · rintro _ id' c ⟨⟩ member'
      obtain ⟨lt, reach⟩ := coherent.reach loading (sub member')
      refine ⟨lt, fun n' alert channel found' foundAlert row => ?_⟩
      obtain ⟨old', foundOld, same, _⟩ := former found'
      exact reach old' alert channel foundOld (same ▸ foundAlert) row
    · rintro _ id' c n' ⟨⟩ member' found'
      obtain ⟨old', foundOld, _, same⟩ := former found'
      rw [same]
      exact coherent.target loading (sub member') foundOld

theorem retryDue_same (settings : Settings) (n : AlertNotification) (now : Nat) :
    (n.retryDue settings now).2.alertId = n.alertId ∧
      (n.retryDue settings now).2.channelId = n.channelId := by
  unfold AlertNotification.retryDue
  split
  · exact ⟨rfl, rfl⟩
  · split <;> exact ⟨rfl, rfl⟩

theorem Inv.send (inv : Inv w) {channelId : ChannelId}
    (reach : ∀ channel, w.channels.lookup channelId = some channel →
      alert.MayReach channel.tenantId) : Inv (w.send alert channelId) := by
  refine { inv with
    tick := fun tick running => { inv.tick tick running with }
    isolated := ?_ }
  intro sent member
  rcases List.mem_cons.mp member with rfl | earlier
  · intro owner owned
    obtain ⟨channel, row, rfl⟩ := Option.map_eq_some_iff.mp owned
    exact reach channel row
  · exact inv.isolated sent earlier

theorem Inv.skip (inv : Inv w) (coherent : tick.Coherent w) (loading : tick.batch = some batch)
    (sub : batch'.rest ⊆ batch.rest) :
    Inv { w with tick := some { tick with batch := some batch' } } := by
  refine { inv with tick := ?_ }
  rintro _ ⟨⟩
  refine { coherent with reach := ?_, target := ?_ }
  · rintro _ id c ⟨⟩ member
    exact coherent.reach loading (sub member)
  · rintro _ id c n ⟨⟩ member found
    exact coherent.target loading (sub member) found

theorem Inv.handle (inv : Inv w) (running : w.tick = some tick) {id : NotificationId}
    (loading : tick.batch = some batch) (member : (id, channelId) ∈ batch.rest)
    (found : w.records.notifications.lookup id = some n) (sub : batch'.rest ⊆ batch.rest)
    (works : Bool) (now : Nat) : Inv (w.handle settings tick batch' id channelId n works now) := by
  have coherent := inv.tick tick running
  obtain ⟨sameAlert, sameChannel⟩ := retryDue_same settings n batch'.now
  unfold World.handle
  split
  next n' retry =>
    rw [retry] at sameAlert sameChannel
    split
    · exact inv.skip coherent loading sub
    · exact inv.write coherent loading member found sameAlert sameChannel sub now
  next n' retry =>
    rw [retry] at sameAlert sameChannel
    split
    next alert c foundAlert =>
      have sending : Inv (w.send alert c) := by
        apply inv.send
        intro channel row
        exact (coherent.reach loading member).2 n alert channel found (sameAlert ▸ foundAlert) row
      have written (n'' : AlertNotification) (same : n''.alertId = n'.alertId)
          (same' : n''.channelId = n'.channelId) :
          Inv ((w.send alert c).write tick batch' id n'' now) :=
        sending.write (sending.tick tick running) loading member found (same.trans sameAlert)
          (same'.trans sameChannel) sub now
      cases works with
      | true => exact written (n'.delivered now) rfl rfl
      | false => exact written (n'.markFailure settings) rfl rfl
    · have same : (n'.markFailure settings).alertId = n.alertId := sameAlert
      exact inv.write coherent loading member found same sameChannel sub now

/-! ## A step of someone else -/

theorem Inv.createChannel (inv : Inv w) (channel : NotificationChannel) :
    Inv { w with channels := w.channels.insert w.nextId channel, nextId := w.nextId + 1 } := by
  apply inv.setChannels (Nat.le_succ _)
  · intro id lt channel' stored
    rw [Table.lookup_insert_ite, if_neg lt.ne] at stored
    exact ⟨channel', stored, rfl⟩
  · intro id channel' stored
    rcases Table.lookup_insert_eq_some.mp stored with ⟨rfl, _⟩ | ⟨_, stored⟩
    · exact Nat.lt_succ_self _
    · exact (inv.bound stored).trans (Nat.lt_succ_self _)

variable {row : NotificationChannel}

section

variable (inv : Inv w)
include inv

theorem Inv.bound_insert (stored : w.channels.lookup id = some row) {id' : ChannelId}
    {channel' : NotificationChannel}
    (found : (w.channels.insert id channel).lookup id' = some channel') : id' < w.nextId := by
  rcases Table.lookup_insert_eq_some.mp found with ⟨rfl, _⟩ | ⟨_, found⟩
  · exact inv.bound stored
  · exact inv.bound found

theorem Inv.keepOwner (stored : w.channels.lookup id = some row)
    (same : channel.tenantId = row.tenantId) :
    Inv { w with channels := w.channels.insert id channel } := by
  refine inv.setChannels le_rfl ?_ (inv.bound_insert stored)
  intro id' _ channel' stored'
  rcases Table.lookup_insert_eq_some.mp stored' with ⟨rfl, rfl⟩ | ⟨_, stored'⟩
  · exact ⟨row, stored, same⟩
  · exact ⟨channel', stored', rfl⟩

/-- A channel is given to a tenant that all of its open notifications are for. -/
theorem Inv.handOver (between : w.tick = none) (stored : w.channels.lookup id = some row)
    (fit : ∀ nid n alert, w.records.notifications.lookup nid = some n → n.isOpen = true →
      n.channelId = some id → w.records.alerts.lookup n.alertId = some alert →
      alert.MayReach channel.tenantId) :
    Inv { w with channels := w.channels.insert id channel } := by
  refine { inv with
    fits := { inv.fits with reach := ?_ }, tick := ?_, bound := inv.bound_insert stored }
  · intro nid n c alert row' found isOpen at_ foundAlert stored'
    rcases Table.lookup_insert_eq_some.mp stored' with ⟨rfl, rfl⟩ | ⟨_, stored'⟩
    · exact fit nid n alert found isOpen at_ foundAlert
    · exact inv.fits.reach found isOpen at_ foundAlert stored'
  · intro tick running
    rw [show w.tick = some tick from running] at between
    exact nomatch between

theorem Inv.deleteChannel (id : ChannelId) :
    Inv { w with
      channels := w.channels.erase id
      records := w.records.dropChannel id
      tick := w.tick.map fun tick => { tick with saved := tick.saved.dropChannel id } } := by
  have remaining {id' : ChannelId} {channel : NotificationChannel}
      (stored : (w.channels.erase id).lookup id' = some channel) :
      w.channels.lookup id' = some channel := (Table.lookup_erase_eq_some.mp stored).2
  constructor
  · exact inv.fits.dropChannel id
  · intro tick running
    obtain ⟨before, wasRunning, rfl⟩ := Option.map_eq_some_iff.mp running
    have coherent := inv.tick before wasRunning
    constructor
    · exact coherent.saved.dropChannel id
    · intro id' channel found
      obtain ⟨lt, owner⟩ := coherent.seen id' channel found
      exact ⟨lt, fun row stored => owner row (remaining stored)⟩
    · intro batch nid channelId loading member
      obtain ⟨lt, reach⟩ := coherent.reach loading member
      refine ⟨lt, fun n alert channel found foundAlert stored => ?_⟩
      obtain ⟨old, foundOld, _, sameAlert, _⟩ := lookup_dropChannel found
      exact reach old alert channel foundOld (sameAlert ▸ foundAlert) (remaining stored)
    · intro batch nid channelId n loading member found
      obtain ⟨old, foundOld, _, _, target⟩ := lookup_dropChannel found
      cases here : n.channelId with
      | none => exact Or.inl rfl
      | some c =>
        have there := target c here
        have known := coherent.target loading member foundOld
        rw [there] at known
        exact known
  · intro id' channel stored
    exact inv.bound (remaining stored)
  · exact inv.isolated

theorem Inv.patchChannel {payload : ChannelPatch} (stored : w.channels.lookup id = some row)
    (safe : HandedOver w (.patchChannel id payload) w') :
    Inv { w with channels := w.channels.insert id (row.patch payload) } := by
  cases given : payload.tenantId with
  | none =>
    apply inv.keepOwner stored
    simp [NotificationChannel.patch, given]
  | some owner =>
    have tenant : (row.patch payload).tenantId = some owner := by
      simp [NotificationChannel.patch, given]
    rcases safe owner given with same | ⟨between, fit⟩
    · rw [stored] at same
      exact inv.keepOwner stored (tenant.trans (Option.some.inj same).symm)
    · apply inv.handOver (Option.isNone_iff_eq_none.mp between) stored
      intro nid n alert found isOpen at_ foundAlert
      rw [tenant]
      exact fit ⟨nid, n⟩ (AList.mem_lookup_iff.mp found) isOpen at_ alert foundAlert

/-! ## Whole runs -/

theorem Inv.beginTick (now : Nat) (active : List AlertId) :
    Inv { w with tick := some ⟨now, w.records, active, [], ∅, none⟩ } := by
  refine { inv with tick := ?_ }
  rintro _ ⟨⟩
  exact Tick.coherent_of_idle rfl inv.fits fun _ _ found => nomatch found

theorem Inv.forget (running : w.tick = some tick) (id : ChannelId) :
    Inv { w with tick := some { tick with seen := tick.seen.erase id } } := by
  have coherent := inv.tick tick running
  refine { inv with tick := ?_ }
  rintro _ ⟨⟩
  exact { coherent with seen := coherent.seen.erase id }

/-- A tick is over, with the rows it has written or with those from before it. -/
theorem Inv.endTick {records : Records} (fits : Fits w.channels w.nextId records) :
    Inv { w with records := records, tick := none } :=
  { inv with fits, tick := fun _ running => nomatch running }

/-- One case per label; the labels of a tick say first that one is running. -/
theorem Inv.step {label : Label} (safe : HandedOver w label w')
    (stepped : w.step settings label = some w') : Inv w' := by
  cases label with
  | beginTick now =>
    simp only [World.step] at stepped
    split at stepped
    · cases stepped
    · cases stepped
      exact inv.beginTick now _
  | observe observation silenced =>
    obtain ⟨tick, running, stepped⟩ := Option.bind_eq_some_iff.mp stepped
    rw [Option.ite_none_left_eq_some] at stepped
    obtain ⟨idle, stepped⟩ := stepped
    cases stepped
    exact inv.observe running (by simpa using idle) observation silenced
  | absent id silenced =>
    obtain ⟨tick, running, stepped⟩ := Option.bind_eq_some_iff.mp stepped
    obtain ⟨alert, stored, stepped⟩ := Option.bind_eq_some_iff.mp stepped
    rw [Option.ite_none_left_eq_some] at stepped
    obtain ⟨idle, stepped⟩ := stepped
    cases stepped
    -- an alert that is not observed any more is resolved, within its scope
    rw [not_or, Option.not_isSome_iff_eq_none] at idle
    exact inv.moveStored (inv.tick tick running) idle.1 stored (sameScope_resolve alert tick.now)
      silenced
  | pruneHistory =>
    obtain ⟨tick, running, stepped⟩ := Option.bind_eq_some_iff.mp stepped
    rw [Option.ite_none_left_eq_some] at stepped
    obtain ⟨idle, stepped⟩ := stepped
    cases stepped
    apply inv.pruneHistory
    intro tick' running'
    rw [running] at running'
    cases running'
    exact Option.not_isSome_iff_eq_none.mp idle
  | forget id =>
    obtain ⟨tick, running, rfl⟩ := Option.map_eq_some_iff.mp stepped
    exact inv.forget running id
  | load now =>
    obtain ⟨tick, running, stepped⟩ := Option.bind_eq_some_iff.mp stepped
    rw [Option.ite_none_left_eq_some] at stepped
    obtain ⟨_, stepped⟩ := stepped
    cases stepped
    exact inv.load running now
  | deliver works now =>
    obtain ⟨tick, running, stepped⟩ := Option.bind_eq_some_iff.mp stepped
    obtain ⟨batch, loading, stepped⟩ := Option.bind_eq_some_iff.mp stepped
    split at stepped
    · cases stepped
    -- the first of the batch goes out, and the rest stays as it was loaded
    next id channelId rest isRest =>
      obtain ⟨n, found, rfl⟩ := Option.map_eq_some_iff.mp stepped
      apply inv.handle running loading (isRest ▸ List.mem_cons_self) found
      rw [isRest]
      exact List.subset_cons_self _ _
  | commit =>
    obtain ⟨tick, running, stepped⟩ := Option.bind_eq_some_iff.mp stepped
    split at stepped
    · cases stepped
      exact inv.endTick inv.fits
    · cases stepped
  | rollback =>
    obtain ⟨tick, running, rfl⟩ := Option.map_eq_some_iff.mp stepped
    -- back to the rows from before the tick
    exact inv.endTick (inv.tick tick running).saved
  | createChannel channel =>
    cases stepped
    exact inv.createChannel channel
  | patchChannel id payload =>
    obtain ⟨row, stored, rfl⟩ := Option.map_eq_some_iff.mp stepped
    -- the only label that can hand a channel over
    exact inv.patchChannel stored safe
  | deleteChannel id =>
    obtain ⟨_, ⟨⟩⟩ := Option.ite_none_right_eq_some.mp stepped
    exact inv.deleteChannel id

end

/-- If channels change hands only while nothing open for them would go astray, every envelope
reaches a channel that just then belongs to the tenant of the alert or to nobody, and to nobody if
the alert is about the node. -/
theorem alerts_isolated (settings : Settings) (labels : List Label)
    (careful : RunAll (World.step settings) HandedOver World.init labels) (w : World)
    (ran : run (World.step settings) World.init labels = some w) : w.Isolated := by
  have preserved (w : World) (label : Label) (w' : World) (inv : Inv w)
      (safe : HandedOver w label w') (stepped : w.step settings label = some w') : Inv w' :=
    inv.step safe stepped
  have inv : Inv w := run_invariant_of_runAll preserved inv_init careful ran
  exact inv.isolated

/-! A channel changes hands while a notification for it waits for its retry. -/

def oneTick : Settings where
  fireTicks := 1
  clearTicks := 1
  renotifySeconds := 3600
  historyRetentionSeconds := 86400
  maxAttempts := 3
  retryBackoffSeconds := 5

/-- The service of tenant 1 is under attack. -/
def attack : RuleObservation where
  ruleKey := "service_attack"
  scope := .service
  scopeKey := "service:7"
  tenantId := some 1
  severity := .critical
  firing := true
  inBand := false

/-- The channel of tenant 1 fails; only then it is given to tenant 2, and the retry is sent. -/
def lateRetry : List Label :=
  [.createChannel ⟨"ops", .webhook, some 1, true, .info⟩,
    .beginTick 100, .observe attack false, .pruneHistory, .load 100, .deliver false 101, .commit,
    .patchChannel 0 { tenantId := some 2 },
    .beginTick 130, .observe attack false, .pruneHistory, .load 130, .deliver true 131, .commit]

/-- Here the retry is sent first. -/
def earlyRetry : List Label :=
  [.createChannel ⟨"ops", .webhook, some 1, true, .info⟩,
    .beginTick 100, .observe attack false, .pruneHistory, .load 100, .deliver false 101, .commit,
    .beginTick 130, .observe attack false, .pruneHistory, .load 130, .deliver true 131, .commit,
    .patchChannel 0 { tenantId := some 2 }]

theorem earlyRetry_isolated :
    RunAll (World.step oneTick) HandedOver World.init earlyRetry ∧
      ∃ w, run (World.step oneTick) World.init earlyRetry = some w ∧
        w.sent.map (·.owner) = [some (some 1), some (some 1)] ∧ w.Isolated := by
  have careful : RunAll (World.step oneTick) HandedOver World.init earlyRetry := by decide
  exact ⟨careful, _, rfl, rfl, alerts_isolated oneTick earlyRetry careful _ rfl⟩

/-- The second attempt tells tenant 2 about the service of tenant 1. -/
theorem lateRetry_not_isolated :
    ∃ w, run (World.step oneTick) World.init lateRetry = some w ∧
      (∃ sent ∈ w.sent, sent.alert.scope = .service ∧ sent.alert.tenantId = some 1 ∧
        sent.owner = some (some 2)) ∧ ¬ w.Isolated := by
  refine ⟨_, rfl, ?_, ?_⟩ <;> decide

end ScrubbingGateway.Control.AlertRouting
