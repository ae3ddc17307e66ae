import ScrubbingGateway.Control.AlertRouting
import ScrubbingGateway.Control.Cidr
import ScrubbingGateway.Control.Records

/-!
# What a tenant reads

The services, alerts and billing usage a user can ask for. A table holds its rows in the order the
database scans them, which is the order in which rows come that an `ORDER BY` does not tell apart.
-/

namespace ScrubbingGateway.Control.TenantReads

open Accounts (TenantId Role User HttpError Principal)
open Sessions (UserId)
open AlertRouting (AlertId NotificationId AlertScope AlertState AlertSeverity ChannelKind
  NotificationState Trigger AlertNotification)

abbrev UsageId := Nat

/-- Seconds since 0001-01-01, as all times here. -/
abbrev Time := Nat

/-! ## Rows -/

structure Tenant where
  name : String
deriving DecidableEq, Repr

inductive ServiceMode where
  | allowRuleOnly
deriving DecidableEq, Repr

structure ProtectedService where
  tenantId : TenantId
  createdBy : Option UserId
  name : String
  cidrOrIp : Cidr
  mode : ServiceMode
  enabled : Bool
  vipPps : Option Int
  vipBps : Option Int
  servicePps : Option Nat
  serviceBps : Option Nat
  applyStatus : ApplyStatus
  version : Nat
  activeVersion : Option Nat
  createdAt : Time
  updatedAt : Time
deriving DecidableEq

inductive OveragePolicy where
  | billed | capped
deriving DecidableEq, Repr

/-- Rates in hundredths of a Gbit/s. -/
structure ServicePlan where
  committedCleanGbps : Nat
  ceilingCleanGbps : Nat
  billingMetric : String
  overagePolicy : OveragePolicy
deriving DecidableEq, Repr

structure Alert extends AlertRouting.Alert where
  serviceId : Option ServiceId
  serviceName : Option String
  /-- In ten-thousandths. -/
  metricValue : Option Int
  /-- As JSON. -/
  context : String
  firstObservedAt : Time
deriving DecidableEq, Repr

inductive BillingStatus where
  | isOpen | isFinal
deriving DecidableEq, Repr

structure BillingUsage where
  serviceId : Option ServiceId
  tenantId : Option TenantId
  serviceName : String
  periodStart : Time
  periodEnd : Time
  billingMetric : String
  committedCleanGbps : Nat
  p95CleanGbps : Nat
  billedGbps : Nat
  overageGbps : Nat
  overagePolicy : OveragePolicy
  sampleCount : Nat
  status : BillingStatus
deriving DecidableEq, Repr

structure Database where
  tenants : Table TenantId Tenant
  users : Table UserId User
  services : Table ServiceId ProtectedService
  /-- A service has at most one plan. -/
  plans : Table ServiceId ServicePlan
  alerts : Table AlertId Alert
  notifications : Table NotificationId AlertNotification
  usages : Table UsageId BillingUsage

/-! ## Responses -/

structure ServiceResponse where
  id : ServiceId
  service : ProtectedService
  tenantName : Option String
  creatorUsername : Option String
  plan : ServicePlan
  warnings : List String
deriving DecidableEq

structure AlertNotificationResponse where
  id : NotificationId
  channelName : String
  kind : ChannelKind
  trigger : Trigger
  state : NotificationState
  attempts : Nat
  lastError : Option String
  sentAt : Option Nat
deriving DecidableEq, Repr

structure AlertResponse where
  id : AlertId
  ruleKey : String
  scope : AlertScope
  scopeKey : String
  serviceId : Option ServiceId
  tenantId : Option TenantId
  serviceName : Option String
  severity : AlertSeverity
  state : AlertState
  metricValue : Option Int
  context : String
  firstObservedAt : Time
  firedAt : Option Time
  resolvedAt : Option Time
  acknowledgedAt : Option Time
  notifications : List AlertNotificationResponse
deriving DecidableEq, Repr

structure BillingUsageResponse where
  usage : BillingUsage
  provisional : Bool
deriving DecidableEq, Repr

inductive Response where
  | services (services : List ServiceResponse)
  | service (service : ServiceResponse)
  | alerts (alerts : List AlertResponse) (hasData : Bool)
  | alert (alert : AlertResponse)
  | usage (usage : List BillingUsageResponse) (hasData : Bool)
deriving DecidableEq

def forbidden : HttpError := ⟨403, "Forbidden", []⟩

def serviceNotFound : HttpError := ⟨404, "Service not found", []⟩

def planNotFound : HttpError := ⟨404, "Service plan not found", []⟩

def alertNotFound : HttpError := ⟨404, "Alert not found", []⟩

/-- What an uncaught exception becomes. -/
def internalServerError : HttpError := ⟨500, "Internal Server Error", []⟩

/-! ## Who may read what -/

def authorizeTenantResource (principal : Principal) (resourceTenantId : Option TenantId) :
    Except HttpError Unit :=
  if principal.role = .admin then pure ()
  else
    match principal.tenantId, resourceTenantId with
    | some own, some other => if own = other then pure () else throw forbidden
    | _, _ => throw forbidden

variable (db : Database)

def loadServiceForPrincipal (id : ServiceId) (principal : Principal) :
    Except HttpError ProtectedService :=
  match db.services.lookup id with
  | none => throw serviceNotFound
  | some service =>
    match authorizeTenantResource principal (some service.tenantId) with
    | .ok _ => pure service
    | .error e => throw (if e.statusCode = 403 then serviceNotFound else e)

/-- The service a query names must be one the user can see. -/
def checkService (id : Option ServiceId) (principal : Principal) : Except HttpError Unit :=
  match id with
  | none => pure ()
  | some id => do
    let _ ← loadServiceForPrincipal db id principal
    return ()

/-- The tenant a query is narrowed to; nothing narrows it for an admin. -/
def queryTenant (principal : Principal) : Except HttpError (Option TenantId) :=
  if principal.role = .admin then pure none
  else
    match principal.tenantId with
    | none => throw forbidden
    | some tenantId => pure (some tenantId)

/-! ## Services -/

def creatorUsername (service : ProtectedService) : Option String :=
  (service.createdBy.bind db.users.lookup).map (·.username)

/-- `_record_from_loaded` and `_service_response` -/
def serviceResponse (id : ServiceId) (service : ProtectedService) :
    Except HttpError ServiceResponse :=
  match db.plans.lookup id with
  | none => throw planNotFound
  | some plan =>
    pure
      { id := id, service := service
        tenantName := (db.tenants.lookup service.tenantId).map (·.name)
        creatorUsername := creatorUsername db service, plan := plan, warnings := [] }

def listServices (principal : Principal) : Except HttpError Response := do
  let tenantId ← queryTenant principal
  let rows := db.services.pairs.filter fun e => tenantId.all (· = e.2.tenantId)
  let ordered := rows.insertionSort fun a b => a.2.createdAt ≤ b.2.createdAt
  return .services (← ordered.mapM fun e => serviceResponse db e.1 e.2)

def principalCanAccess (principal : Principal) (tenantId : TenantId) : Bool :=
  principal.role = .admin ∨ principal.tenantId = some tenantId

def getService (principal : Principal) (id : ServiceId) :
    Except HttpError Response := do
  let _ ← loadServiceForPrincipal db id principal
  match db.services.lookup id with
  | none => throw serviceNotFound
  | some service =>
    if principalCanAccess principal service.tenantId then
      return .service (← serviceResponse db id service)
    else throw serviceNotFound

/-! ## Alerts -/

def notificationResponse (id : NotificationId) (n : AlertNotification) :
    AlertNotificationResponse where
  id := id
  channelName := n.channelName
  kind := n.kind
  trigger := n.trigger
  state := n.state
  attempts := n.attempts
  lastError := n.lastError
  sentAt := n.sentAt

/-- `_response` -/
def alertResponse (id : AlertId) (alert : Alert) : AlertResponse where
  id := id
  ruleKey := alert.ruleKey
  scope := alert.scope
  scopeKey := alert.scopeKey
  serviceId := alert.serviceId
  tenantId := alert.tenantId
  serviceName := alert.serviceName
  severity := alert.severity
  state := alert.state
  metricValue := alert.metricValue
  context := alert.context
  firstObservedAt := alert.firstObservedAt
  firedAt := alert.firedAt
  resolvedAt := alert.resolvedAt
  acknowledgedAt := alert.acknowledgedAt
  notifications := (db.notifications.filterRows fun n => n.alertId = id).pairs.map fun e =>
    notificationResponse e.1 e.2

structure AlertQuery where
  state : Option AlertState := none
  severity : Option AlertSeverity := none
  scope : Option AlertScope := none
  serviceId : Option ServiceId := none
  since : Option Time := none
deriving DecidableEq, Repr

def AlertQuery.keeps (query : AlertQuery) (alert : Alert) : Bool :=
  query.state.all (· = alert.state) && query.severity.all (· = alert.severity) &&
    query.scope.all (· = alert.scope) && query.serviceId.all (some · = alert.serviceId) &&
    query.since.all (· ≤ alert.firstObservedAt)

/-- The alerts a query narrowed to a tenant is left with. -/
def alertVisible (tenantId : Option TenantId) (alert : Alert) : Bool :=
  tenantId.all fun t => alert.scope = .service ∧ alert.tenantId = some t

/-- `ORDER BY first_observed_at DESC, id DESC` -/
def alertOrder (a b : AlertId × Alert) : Prop :=
  b.2.firstObservedAt < a.2.firstObservedAt ∨
    b.2.firstObservedAt = a.2.firstObservedAt ∧ b.1 ≤ a.1

instance : DecidableRel alertOrder := fun _ _ => inferInstanceAs (Decidable (_ ∨ _))

def listAlerts (principal : Principal) (query : AlertQuery) :
    Except HttpError Response := do
  checkService db query.serviceId principal
  let tenantId ← queryTenant principal
  let rows := db.alerts.pairs.filter fun e => alertVisible tenantId e.2 && query.keeps e.2
  let responses := (rows.insertionSort alertOrder).map fun e => alertResponse db e.1 e.2
  return .alerts responses !responses.isEmpty

def getAlert (principal : Principal) (id : AlertId) :
    Except HttpError Response := do
  let tenantId ← queryTenant principal
  match (db.alerts.lookup id).filter (alertVisible tenantId) with
  | none => throw alertNotFound
  | some alert => return .alert (alertResponse db id alert)

/-! ## Billing usage -/

/-- A period as `_PERIOD_PATTERN` lets it in. -/
structure Period where
  year : Nat
  month : Nat
  year_ok : 1000 ≤ year ∧ year ≤ 9999
  month_ok : 1 ≤ month ∧ month ≤ 12
deriving DecidableEq

def isLeap (year : Nat) : Bool := year % 4 = 0 ∧ (year % 100 ≠ 0 ∨ year % 400 = 0)

def daysInMonth (year month : Nat) : Nat :=
  if month = 2 then if isLeap year then 29 else 28
  else if month = 4 ∨ month = 6 ∨ month = 9 ∨ month = 11 then 30 else 31

/-- Midnight of the first day of a month. -/
def monthStart (year month : Nat) : Time :=
  let y := year - 1
  let days := 365 * y + y / 4 - y / 100 + y / 400 +
    ((List.range (month - 1)).map fun m => daysInMonth year (m + 1)).sum
  86400 * days

/-- `_period_bounds`; a `datetime` has no year 10000. -/
def periodBounds (period : Period) : Option (Time × Time) :=
  if period.month = 12 then
    if period.year = 9999 then none
    else some (monthStart period.year 12, monthStart (period.year + 1) 1)
  else some (monthStart period.year period.month, monthStart period.year (period.month + 1))

structure UsageQuery where
  serviceId : Option ServiceId := none
  tenantId : Option TenantId := none
  period : Option Period := none
  status : Option BillingStatus := none
deriving DecidableEq

def UsageQuery.bounds (query : UsageQuery) : Except HttpError (Option (Time × Time)) :=
  match query.period with
  | none => pure none
  | some period =>
    match periodBounds period with
    | none => throw internalServerError
    | some bounds => pure (some bounds)

def UsageQuery.keeps (query : UsageQuery) (tenantId : Option TenantId)
    (bounds : Option (Time × Time)) (usage : BillingUsage) : Bool :=
  tenantId.all (some · = usage.tenantId) && query.serviceId.all (some · = usage.serviceId) &&
    bounds.all (fun b => b.1 = usage.periodStart ∧ b.2 = usage.periodEnd) &&
    query.status.all (· = usage.status)

/-- The conditions of `usage_history`. -/
def historyKeeps (tenantId : Option TenantId) (serviceId : Option ServiceId)
    (usage : BillingUsage) : Bool :=
  usage.status = .isFinal && tenantId.all (some · = usage.tenantId) &&
    serviceId.all (some · = usage.serviceId)

/-- `ORDER BY period_start DESC, service_name, id` -/
def usageOrder (a b : UsageId × BillingUsage) : Prop :=
  b.2.periodStart < a.2.periodStart ∨
    b.2.periodStart = a.2.periodStart ∧ (a.2.serviceName < b.2.serviceName ∨
      a.2.serviceName = b.2.serviceName ∧ a.1 ≤ b.1)

instance : DecidableRel usageOrder := fun _ _ => inferInstanceAs (Decidable (_ ∨ _))

def usageResponse (rows : List (UsageId × BillingUsage)) : Response :=
  .usage (rows.map fun e => ⟨e.2, e.2.status = .isOpen⟩) !rows.isEmpty

def listUsage (principal : Principal) (query : UsageQuery) :
    Except HttpError Response := do
  checkService db query.serviceId principal
  let own ← queryTenant principal
  -- only an admin can choose the tenant
  let tenantId := own.or query.tenantId
  let bounds ← query.bounds
  let rows := db.usages.pairs.filter fun e => query.keeps tenantId bounds e.2
  return usageResponse (rows.insertionSort usageOrder)

def usageHistory (principal : Principal) (serviceId : Option ServiceId) (limit : Nat) :
    Except HttpError Response := do
  checkService db serviceId principal
  let tenantId ← queryTenant principal
  let rows := db.usages.pairs.filter fun e => historyKeeps tenantId serviceId e.2
  return usageResponse ((rows.insertionSort usageOrder).take limit)

/-! ## Requests -/

inductive Request where
  | listServices
  | getService (id : ServiceId)
  | listAlerts (query : AlertQuery)
  | getAlert (id : AlertId)
  | listUsage (query : UsageQuery)
  | usageHistory (serviceId : Option ServiceId) (limit : {n : Nat // 1 ≤ n ∧ n ≤ 100})
deriving DecidableEq

def respond (principal : Principal) : Request → Except HttpError Response
  | .listServices => listServices db principal
  | .getService id => getService db principal id
  | .listAlerts query => listAlerts db principal query
  | .getAlert id => getAlert db principal id
  | .listUsage query => listUsage db principal query
  | .usageHistory serviceId limit => usageHistory db principal serviceId limit

/-- The requests whose answer says who created a service. -/
def Request.namesCreators : Request → Bool
  | .listServices | .getService _ => true
  | .listAlerts _ | .getAlert _ | .listUsage _ | .usageHistory _ _ => false

/-! ## Two databases that a tenant cannot tell apart -/

/-- Two databases have the same rows of a tenant. -/
structure Agree (t : TenantId) (db₁ db₂ : Database) : Prop where
  tenant : db₁.tenants.lookup t = db₂.tenants.lookup t
  users : (db₁.users.filterRows fun u => u.tenantId = some t) =
    db₂.users.filterRows fun u => u.tenantId = some t
  services : (db₁.services.filterRows fun s => s.tenantId = t) =
    db₂.services.filterRows fun s => s.tenantId = t
  plans : ∀ id service, db₁.services.lookup id = some service → service.tenantId = t →
    db₁.plans.lookup id = db₂.plans.lookup id
  alerts : (db₁.alerts.filterRows fun a => a.tenantId = some t) =
    db₂.alerts.filterRows fun a => a.tenantId = some t
  notifications : ∀ id alert, db₁.alerts.lookup id = some alert → alert.tenantId = some t →
    (db₁.notifications.filterRows fun n => n.alertId = id) =
      db₂.notifications.filterRows fun n => n.alertId = id
  usages : (db₁.usages.filterRows fun u => u.tenantId = some t) =
    db₂.usages.filterRows fun u => u.tenantId = some t

/-- The users who created the services of a tenant have the same names. They may be of no tenant or,
meanwhile, of another one. -/
def SameCreators (t : TenantId) (db₁ db₂ : Database) : Prop :=
  ∀ id service, db₁.services.lookup id = some service → service.tenantId = t →
    (db₁.plans.lookup id).isSome → creatorUsername db₁ service = creatorUsername db₂ service

section Reads

variable {t : TenantId} {principal : Principal} {db₁ db₂ : Database}

section

variable (role : principal.role = .tenantUser) (tenant : principal.tenantId = some t)
include role tenant

theorem queryTenant_tenantUser : queryTenant principal = .ok (some t) := by
  simp only [queryTenant, role, tenant, reduceCtorEq, if_false]
  rfl

theorem authorizeTenantResource_tenantUser (other : TenantId) :
    authorizeTenantResource principal (some other) =
      if t = other then .ok () else .error forbidden := by
  simp only [authorizeTenantResource, role, tenant, reduceCtorEq, if_false]
  rfl

/-- A service is found exactly if it is one of the tenant's: a foreign one looks like none. -/
theorem loadServiceForPrincipal_tenantUser (db : Database) (id : ServiceId) :
    loadServiceForPrincipal db id principal =
      match (db.services.lookup id).filter fun s => s.tenantId = t with
      | none => .error serviceNotFound
      | some service => .ok service := by
  unfold loadServiceForPrincipal
  cases db.services.lookup id with
  | none => rfl
  | some service =>
    dsimp only
    rw [authorizeTenantResource_tenantUser role tenant]
    by_cases own : service.tenantId = t
    · simp [Option.filter, own]
      rfl
    · simp [Option.filter, own, Ne.symm own, forbidden]
      rfl

theorem checkService_congr (agree : Agree t db₁ db₂) (id : Option ServiceId) :
    checkService db₁ id principal = checkService db₂ id principal := by
  cases id with
  | none => rfl
  | some id =>
    simp only [checkService, loadServiceForPrincipal_tenantUser role tenant,
      Table.filter_lookup_congr agree.services id]

end

/-! ### Services -/

theorem serviceResponse_congr (agree : Agree t db₁ db₂) {id : ServiceId}
    {service : ProtectedService} (stored : db₁.services.lookup id = some service)
    (own : service.tenantId = t) (same : (db₁.plans.lookup id).isSome →
      creatorUsername db₁ service = creatorUsername db₂ service) :
    serviceResponse db₁ id service = serviceResponse db₂ id service := by
  unfold serviceResponse
  rw [← agree.plans id service stored own]
  cases plan : db₁.plans.lookup id with
  | none => rfl
  | some plan =>
    rw [plan] at same
    subst own
    dsimp only
    rw [same rfl, agree.tenant]

theorem getService_tenantUser (role : principal.role = .tenantUser)
    (tenant : principal.tenantId = some t) (db : Database) (id : ServiceId) :
    getService db principal id =
      match (db.services.lookup id).filter fun s => s.tenantId = t with
      | none => .error serviceNotFound
      | some service => (serviceResponse db id service).map .service := by
  unfold getService
  rw [loadServiceForPrincipal_tenantUser role tenant]
  cases db.services.lookup id with
  | none => rfl
  | some service =>
    by_cases own : service.tenantId = t
    · simp [Option.filter, own, principalCanAccess, tenant]
      rfl
    · simp [Option.filter, own]
      rfl

theorem getService_congr (role : principal.role = .tenantUser)
    (tenant : principal.tenantId = some t) (agree : Agree t db₁ db₂)
    (creators : SameCreators t db₁ db₂) (id : ServiceId) :
    getService db₁ principal id = getService db₂ principal id := by
  rw [getService_tenantUser role tenant, getService_tenantUser role tenant,
    ← Table.filter_lookup_congr agree.services id]
  cases found : (db₁.services.lookup id).filter fun s => s.tenantId = t with
  | none => rfl
  | some service =>
    rw [Option.filter_eq_some_iff, decide_eq_true_eq] at found
    dsimp only
    rw [serviceResponse_congr agree found.1 found.2 (creators id service found.1 found.2)]

/-- The rows of the service list, in order. -/
def ownServices (t : TenantId) (db : Database) : List (ServiceId × ProtectedService) :=
  (db.services.pairs.filter fun e => (some t).all (· = e.2.tenantId)).insertionSort
    fun a b => a.2.createdAt ≤ b.2.createdAt

theorem listServices_tenantUser (role : principal.role = .tenantUser)
    (tenant : principal.tenantId = some t) (db : Database) :
    listServices db principal =
      ((ownServices t db).mapM fun e => serviceResponse db e.1 e.2).map .services := by
  unfold listServices
  rw [queryTenant_tenantUser role tenant]
  rfl

theorem ownServices_congr (agree : Agree t db₁ db₂) : ownServices t db₁ = ownServices t db₂ := by
  unfold ownServices
  rw [Table.filter_pairs_congr agree.services]
  intro e kept
  simpa [eq_comm] using kept

theorem mem_ownServices {e : ServiceId × ProtectedService} (member : e ∈ ownServices t db₁) :
    db₁.services.lookup e.1 = some e.2 ∧ e.2.tenantId = t := by
  rw [ownServices, List.mem_insertionSort, List.mem_filter] at member
  obtain ⟨listed, own⟩ := member
  constructor
  · exact Table.mem_pairs.mp listed
  · simpa [eq_comm] using own

theorem mapM_congr {α β ε : Type} {f g : α → Except ε β} (l : List α) (same : ∀ a ∈ l, f a = g a) :
    l.mapM f = l.mapM g := by
  induction l with
  | nil => rfl
  | cons a l ih =>
    rw [List.mapM_cons, List.mapM_cons, same a List.mem_cons_self,
      ih fun b member => same b (List.mem_cons_of_mem a member)]

theorem listServices_congr (role : principal.role = .tenantUser)
    (tenant : principal.tenantId = some t) (agree : Agree t db₁ db₂)
    (creators : SameCreators t db₁ db₂) : listServices db₁ principal = listServices db₂ principal := by
  rw [listServices_tenantUser role tenant, listServices_tenantUser role tenant,
    ← ownServices_congr agree]
  congr 1
  apply mapM_congr
  intro e member
  obtain ⟨stored, own⟩ := mem_ownServices member
  exact serviceResponse_congr agree stored own (creators e.1 e.2 stored own)

/-! ### Alerts -/

theorem own_of_alertVisible {alert : Alert} (visible : alertVisible (some t) alert = true) :
    alert.tenantId = some t := by
  simp only [alertVisible, Option.all_some, decide_eq_true_eq] at visible
  exact visible.2

theorem alertResponse_congr (agree : Agree t db₁ db₂) {id : AlertId} {alert : Alert}
    (stored : db₁.alerts.lookup id = some alert) (own : alert.tenantId = some t) :
    alertResponse db₁ id alert = alertResponse db₂ id alert := by
  unfold alertResponse
  rw [agree.notifications id alert stored own]

/-- The alerts a tenant's query lists. -/
def ownAlerts (t : TenantId) (query : AlertQuery) (db : Database) : List AlertResponse :=
  ((db.alerts.pairs.filter fun e => alertVisible (some t) e.2 && query.keeps e.2).insertionSort
    alertOrder).map fun e => alertResponse db e.1 e.2

theorem listAlerts_tenantUser (role : principal.role = .tenantUser)
    (tenant : principal.tenantId = some t) (db : Database) (query : AlertQuery) :
    listAlerts db principal query = (checkService db query.serviceId principal).map fun _ =>
      .alerts (ownAlerts t query db) !(ownAlerts t query db).isEmpty := by
  unfold listAlerts
  rw [queryTenant_tenantUser role tenant]
  cases checkService db query.serviceId principal <;> rfl

theorem ownAlerts_congr (agree : Agree t db₁ db₂) (query : AlertQuery) :
    ownAlerts t query db₁ = ownAlerts t query db₂ := by
  have rows : (db₁.alerts.pairs.filter fun e => alertVisible (some t) e.2 && query.keeps e.2) =
      db₂.alerts.pairs.filter fun e => alertVisible (some t) e.2 && query.keeps e.2 := by
    apply Table.filter_pairs_congr agree.alerts
    intro e kept
    exact decide_eq_true (own_of_alertVisible (Bool.and_eq_true_iff.mp kept).1)
  unfold ownAlerts
  rw [← rows]
  apply List.map_congr_left
  intro e member
  rw [List.mem_insertionSort, List.mem_filter, Bool.and_eq_true] at member
  exact alertResponse_congr agree (Table.mem_pairs.mp member.1) (own_of_alertVisible member.2.1)

theorem listAlerts_congr (role : principal.role = .tenantUser)
    (tenant : principal.tenantId = some t) (agree : Agree t db₁ db₂) (query : AlertQuery) :
    listAlerts db₁ principal query = listAlerts db₂ principal query := by
  rw [listAlerts_tenantUser role tenant, listAlerts_tenantUser role tenant,
    checkService_congr role tenant agree, ownAlerts_congr agree]

theorem getAlert_tenantUser (role : principal.role = .tenantUser)
    (tenant : principal.tenantId = some t) (db : Database) (id : AlertId) :
    getAlert db principal id =
      match (db.alerts.lookup id).filter (alertVisible (some t)) with
      | none => .error alertNotFound
      | some alert => .ok (.alert (alertResponse db id alert)) := by
  unfold getAlert
  rw [queryTenant_tenantUser role tenant]
  rfl

theorem filter_alertVisible (alert : Option Alert) : alert.filter (alertVisible (some t)) =
    (alert.filter fun a => a.tenantId = some t).filter (alertVisible (some t)) := by
  cases alert with
  | none => rfl
  | some alert =>
    by_cases own : alert.tenantId = some t
    · simp [Option.filter, own]
    · simp [Option.filter, own, alertVisible]

variable (role : principal.role = .tenantUser) (tenant : principal.tenantId = some t)
  (agree : Agree t db₁ db₂)
include role tenant agree

theorem getAlert_congr (id : AlertId) : getAlert db₁ principal id = getAlert db₂ principal id := by
  have same : (db₁.alerts.lookup id).filter (alertVisible (some t)) =
      (db₂.alerts.lookup id).filter (alertVisible (some t)) := by
    rw [filter_alertVisible, Table.filter_lookup_congr agree.alerts id, ← filter_alertVisible]
  rw [getAlert_tenantUser role tenant, getAlert_tenantUser role tenant, ← same]
  cases found : (db₁.alerts.lookup id).filter (alertVisible (some t)) with
  | none => rfl
  | some alert =>
    rw [Option.filter_eq_some_iff] at found
    dsimp only
    rw [alertResponse_congr agree found.1 (own_of_alertVisible found.2)]

/-! ### Billing usage -/

theorem listUsage_congr (query : UsageQuery) :
    listUsage db₁ principal query = listUsage db₂ principal query := by
  have rows (bounds : Option (Time × Time)) :
      (db₁.usages.pairs.filter fun e => query.keeps ((some t).or query.tenantId) bounds e.2) =
        db₂.usages.pairs.filter fun e => query.keeps ((some t).or query.tenantId) bounds e.2 := by
    apply Table.filter_pairs_congr agree.usages
    intro e kept
    simp only [UsageQuery.keeps, Bool.and_eq_true, Option.some_or, Option.all_some,
      decide_eq_true_eq] at kept
    exact decide_eq_true kept.1.1.1.symm
  unfold listUsage
  rw [checkService_congr role tenant agree, queryTenant_tenantUser role tenant]
  cases checkService db₂ query.serviceId principal with
  | error e => rfl
  | ok _ =>
    cases query.bounds with
    | error e => rfl
    | ok bounds =>
      exact congrArg (fun rows => Except.ok (usageResponse (List.insertionSort usageOrder rows)))
        (rows bounds)

theorem usageHistory_congr (serviceId : Option ServiceId) (limit : Nat) :
    usageHistory db₁ principal serviceId limit = usageHistory db₂ principal serviceId limit := by
  have rows : (db₁.usages.pairs.filter fun e => historyKeeps (some t) serviceId e.2) =
      db₂.usages.pairs.filter fun e => historyKeeps (some t) serviceId e.2 := by
    apply Table.filter_pairs_congr agree.usages
    intro e kept
    simp only [historyKeeps, Bool.and_eq_true, Option.all_some, decide_eq_true_eq] at kept
    exact decide_eq_true kept.1.2.symm
  unfold usageHistory
  rw [checkService_congr role tenant agree, queryTenant_tenantUser role tenant]
  cases checkService db₂ serviceId principal with
  | error e => rfl
  | ok _ =>
    -- the limit cuts lists that are the same
    exact congrArg (fun rows =>
      Except.ok (usageResponse ((List.insertionSort usageOrder rows).take limit))) rows

/-! ### All requests -/

theorem creators_of_getService
    (same : ∀ id, getService db₁ principal id = getService db₂ principal id) :
    SameCreators t db₁ db₂ := by
  intro id service stored own planned
  have equal := same id
  obtain ⟨plan, hasPlan⟩ := Option.isSome_iff_exists.mp planned
  have plans := agree.plans id service stored own
  have found : (db₁.services.lookup id).filter (fun s => s.tenantId = t) = some service := by
    rw [stored, Option.filter_some, decide_eq_true own]
    rfl
  rw [getService_tenantUser role tenant, getService_tenantUser role tenant,
    ← Table.filter_lookup_congr agree.services id, found] at equal
  unfold serviceResponse at equal
  rw [← plans, hasPlan] at equal
  injection equal with equal
  injection equal with equal
  injection equal

end Reads

/-- A tenant's alerts and usage look the same in two databases that have the tenant's rows in
common, whatever the request names. Its services do exactly if their creators, who can be of
another tenant by now, have the same names in both. -/
theorem tenant_reads_agree (t : TenantId) (principal : Principal)
    (role : principal.role = .tenantUser) (tenant : principal.tenantId = some t)
    (db₁ db₂ : Database) (agree : Agree t db₁ db₂) :
    (∀ request, request.namesCreators = false →
      respond db₁ principal request = respond db₂ principal request) ∧
    ((∀ request, respond db₁ principal request = respond db₂ principal request) ↔
      SameCreators t db₁ db₂) := by
  have hidden (request : Request) (other : request.namesCreators = false) :
      respond db₁ principal request = respond db₂ principal request := by
    cases request with
    | listServices | getService => exact absurd other Bool.noConfusion
    | listAlerts query => exact listAlerts_congr role tenant agree query
    | getAlert id => exact getAlert_congr role tenant agree id
    | listUsage query => exact listUsage_congr role tenant agree query
    | usageHistory serviceId limit => exact usageHistory_congr role tenant agree serviceId limit
  refine ⟨hidden, ?_, ?_⟩
  · intro same
    exact creators_of_getService role tenant agree fun id => same (.getService id)
  · intro creators request
    cases request with
    | listServices => exact listServices_congr role tenant agree creators
    | getService id => exact getService_congr role tenant agree creators id
    | listAlerts | getAlert | listUsage | usageHistory => exact hidden _ rfl

/-! User 9 was of tenant 1 and is of tenant 2 now, where it can get another name. -/

def alice : User := ⟨some 1, .tenantUser, "alice", "", .active, 0, none⟩

def moved (username : String) : User := ⟨some 2, .tenantUser, username, "", .active, 1, none⟩

def web (creator : UserId) : ProtectedService where
  tenantId := 1
  createdBy := some creator
  name := "web"
  cidrOrIp := .host 0xCB007101
  mode := .allowRuleOnly
  enabled := true
  vipPps := none
  vipBps := none
  servicePps := none
  serviceBps := none
  applyStatus := .active
  version := 1
  activeVersion := some 1
  createdAt := 0
  updatedAt := 0

/-- The only service is the one of tenant 1. -/
def oneService (creator : UserId) (username : String) : Database where
  tenants := (AList.insert 1 ⟨"one"⟩ ∅ : Table TenantId Tenant).insert 2 ⟨"two"⟩
  users := (AList.insert 1 alice ∅ : Table UserId User).insert 9 (moved username)
  services := AList.insert 5 (web creator) ∅
  plans := AList.insert 5 ⟨100, 200, "p95_clean_gbps", .billed⟩ ∅
  alerts := ∅
  notifications := ∅
  usages := ∅

def alicePrincipal : Principal := ⟨1, "alice", .tenantUser, some 1, 1⟩

theorem agree_oneService (creator : UserId) (a b : String) :
    Agree 1 (oneService creator a) (oneService creator b) where
  tenant := rfl
  users := rfl
  services := rfl
  plans := fun _ _ _ _ => rfl
  alerts := rfl
  notifications := fun _ _ _ _ => rfl
  usages := rfl

/-- Alice's own service does not tell the two names apart. -/
theorem ownCreator_agree :
    SameCreators 1 (oneService 1 "carol") (oneService 1 "caroline") ∧
      ∀ request, respond (oneService 1 "carol") alicePrincipal request =
        respond (oneService 1 "caroline") alicePrincipal request := by
  have creators : SameCreators 1 (oneService 1 "carol") (oneService 1 "caroline") := by
    intro id service stored _ _
    have listed : (⟨id, service⟩ : Sigma fun _ : ServiceId => ProtectedService) ∈ [⟨5, web 1⟩] :=
      AList.mem_lookup_iff.mp stored
    obtain ⟨_, rfl⟩ : id = 5 ∧ service = web 1 := by simpa using listed
    rfl
  exact ⟨creators, (tenant_reads_agree 1 alicePrincipal rfl rfl _ _
    (agree_oneService 1 "carol" "caroline")).2.mpr creators⟩

/-- The databases differ in the row of a user of tenant 2 only, and tenant 1 sees it. -/
theorem movedCreator_differs :
    Agree 1 (oneService 9 "carol") (oneService 9 "caroline") ∧
      (oneService 9 "carol").users.erase 9 = (oneService 9 "caroline").users.erase 9 ∧
      respond (oneService 9 "carol") alicePrincipal .listServices ≠
        respond (oneService 9 "caroline") alicePrincipal .listServices := by
  refine ⟨agree_oneService 9 "carol" "caroline", rfl, ?_⟩
  decide

end ScrubbingGateway.Control.TenantReads
