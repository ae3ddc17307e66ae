import ScrubbingGateway.Control.ApplyState
import ScrubbingGateway.Control.NodeConfig

/-!
# Edits of a service

The requests of `services.py`, `rules.py` and `lists.py` that change what a service is configured
to do. Each takes the configured service, as `load_service_config` would read it, to the one after
the request or raises; the ledger side of an edit is the same for all of them. Whose service it is
and whether its destination is free is settled before and left out here. A rule is named by its
priority, which is unique within a service.
-/

namespace ScrubbingGateway.Control

/-- `validate_port_range`, as `_rule_view` reports it. -/
def checkPortRange (lo hi : Option Int) : Except Raised Unit :=
  if validatePortRange lo hi then .ok ()
  else if lo.isSome && hi.isSome then
    .error (.httpException 422 "Port range must satisfy 0 <= lo <= hi <= 65535")
  else .error (.httpException 422 "Port range must include both bounds or neither")

def checkRule (rule : AllowRule) : Except Raised Unit := do
  checkPortRange rule.srcPortLo rule.srcPortHi
  checkPortRange rule.dstPortLo rule.dstPortHi

variable {service : ServiceConfig}

namespace ServiceConfig

def requireRule (service : ServiceConfig) (priority : Int) : Except Raised AllowRule :=
  match service.rules.find? fun rule => rule.priority == priority with
  | some rule => .ok rule
  | none => .error (.httpException 404 "Rule not found")

/-- `_ensure_priority_available`, the rule under change excluded. -/
def ensurePriorityAvailable (rules : List AllowRule) (priority : Int) : Except Raised Unit :=
  if rules.any fun rule => rule.priority == priority then
    .error (.httpException 409 "Rule priority exists")
  else .ok ()

/-- The fields of a request to create a service. -/
structure NewService where
  cidrOrIp : IpNetwork
  vipPps : Option Int
  vipBps : Option Int
  servicePps : Option Int
  serviceBps : Option Int
  plan : ServicePlan

/-- A service is created disabled, without rules and without a whitelist. -/
def createService (dpId : Int) (request : NewService) : Except Raised ServiceConfig :=
  if !validatePlan request.plan then
    .error (.httpException 422 "committed_clean_gbps must be between 0 and ceiling_clean_gbps")
  else if !singleHost request.cidrOrIp then
    .error (.httpException 422 "Service destination must be a single host (e.g., a /32 CIDR)")
  else
    .ok { dpId := dpId, cidrOrIp := request.cidrOrIp, enabled := false,
          vipPps := request.vipPps, vipBps := request.vipBps,
          servicePps := request.servicePps, serviceBps := request.serviceBps,
          plan := some request.plan, rules := [], whitelist := [] }

theorem createService_ok {dpId : Int} {request : NewService}
    (created : createService dpId request = .ok service) :
    service.dpId = dpId ∧ service.enabled = false ∧ service.rules = [] := by
  obtain ⟨_, created⟩ := Raise.ite_error_eq_ok.mp created
  split at created
  · cases created
  · cases created
    exact ⟨rfl, rfl, rfl⟩

/-- A field that is absent from the request keeps its value. -/
def updateService (service : ServiceConfig) (cidrOrIp : Option IpNetwork)
    (vipPps vipBps servicePps serviceBps : Option Int) : Except Raised ServiceConfig :=
  if cidrOrIp.any fun network => network != service.cidrOrIp && !singleHost network then
    .error (.httpException 422 "Service destination must be a single host (e.g., a /32 CIDR)")
  else
    .ok { service with
      cidrOrIp := cidrOrIp.getD service.cidrOrIp
      vipPps := vipPps.or service.vipPps
      vipBps := vipBps.or service.vipBps
      servicePps := servicePps.or service.servicePps
      serviceBps := serviceBps.or service.serviceBps }

def setEnabled (service : ServiceConfig) (enabled : Bool) : ServiceConfig :=
  { service with enabled := enabled }

def sizePlan (service : ServiceConfig) (plan : ServicePlan) : Except Raised ServiceConfig :=
  if !validatePlan plan then
    .error (.httpException 422 "committed_clean_gbps must be between 0 and ceiling_clean_gbps")
  else if service.plan.isNone then
    .error (.httpException 404 "Service plan not found")
  else .ok { service with plan := some plan }

def createRule (service : ServiceConfig) (rule : AllowRule) : Except Raised ServiceConfig := do
  if service.rules.length ≥ maxRulesPerService then
    throw (.httpException 409 "Rule limit reached")
  ensurePriorityAvailable service.rules rule.priority
  checkRule rule
  return { service with rules := service.rules ++ [rule] }

/-- The fields of a rule that a request sets. -/
structure RuleUpdate where
  priority : Option Int
  protocol : Option RuleProtocol
  srcPortLo : Option Int
  srcPortHi : Option Int
  dstPortLo : Option Int
  dstPortHi : Option Int
  enabled : Option Bool

def RuleUpdate.onRule (update : RuleUpdate) (rule : AllowRule) : AllowRule where
  priority := update.priority.getD rule.priority
  protocol := update.protocol.getD rule.protocol
  srcPortLo := update.srcPortLo.or rule.srcPortLo
  srcPortHi := update.srcPortHi.or rule.srcPortHi
  dstPortLo := update.dstPortLo.or rule.dstPortLo
  dstPortHi := update.dstPortHi.or rule.dstPortHi
  enabled := update.enabled.getD rule.enabled

def updateRule (service : ServiceConfig) (priority : Int) (update : RuleUpdate) :
    Except Raised ServiceConfig := do
  let rule ← service.requireRule priority
  let updated := update.onRule rule
  ensurePriorityAvailable (service.rules.filter fun other => other.priority != priority)
    updated.priority
  checkRule updated
  return { service with
    rules := service.rules.map fun other => if other.priority = priority then updated else other }

def deleteRule (service : ServiceConfig) (priority : Int) : Except Raised ServiceConfig := do
  let _ ← service.requireRule priority
  return { service with rules := service.rules.filter fun rule => rule.priority != priority }

def parseSource (source : IpNetwork) : Except Raised Unit :=
  if !parseIpv4Cidr source then
    match source with
    | .v4 address prefixlen =>
      .error (.httpException 422 ("CIDR has host bits set; canonical network is " ++
        (IpNetwork.v4 (networkAddress address prefixlen) prefixlen).text))
    | .v6 _ => .error (.httpException 422 "IPv6 CIDRs are not supported")
  else if !rejectReserved source then
    .error (.httpException 422 "Reserved CIDR range is not allowed")
  else .ok ()

def addWhitelist (service : ServiceConfig) (source : IpNetwork) : Except Raised ServiceConfig := do
  parseSource source
  if source ∈ service.whitelist then
    throw (.httpException 409 "List entry exists")
  return { service with whitelist := service.whitelist ++ [source] }

def removeWhitelist (service : ServiceConfig) (source : IpNetwork) :
    Except Raised ServiceConfig := do
  parseSource source
  if source ∉ service.whitelist then
    throw (.httpException 404 "Whitelist entry not found")
  return { service with whitelist := service.whitelist.filter fun other => other != source }

end ServiceConfig

/-- A request that edits a service. -/
inductive Change where
  | updateService (cidrOrIp : Option IpNetwork) (vipPps vipBps servicePps serviceBps : Option Int)
  | setEnabled (enabled : Bool)
  | sizePlan (plan : ServicePlan)
  | createRule (rule : AllowRule)
  | updateRule (priority : Int) (update : ServiceConfig.RuleUpdate)
  | deleteRule (priority : Int)
  | addWhitelist (source : IpNetwork)
  | removeWhitelist (source : IpNetwork)

namespace Change

def trigger : Change → ChangeTrigger
  | updateService .. => .service
  | setEnabled enabled => if enabled then .enable else .disable
  | sizePlan _ => .plan
  | createRule _ | updateRule _ _ | deleteRule _ => .rule
  | addWhitelist _ | removeWhitelist _ => .whitelist

/-- `set_enabled` returns at once when the flag has the value already. -/
def noop (service : ServiceConfig) : Change → Bool
  | setEnabled enabled => service.enabled == enabled
  | _ => false

def perform (service : ServiceConfig) : Change → Except Raised ServiceConfig
  | updateService cidrOrIp vipPps vipBps servicePps serviceBps =>
    service.updateService cidrOrIp vipPps vipBps servicePps serviceBps
  | setEnabled enabled => .ok (service.setEnabled enabled)
  | sizePlan plan => service.sizePlan plan
  | createRule rule => service.createRule rule
  | updateRule priority update => service.updateRule priority update
  | deleteRule priority => service.deleteRule priority
  | addWhitelist source => service.addWhitelist source
  | removeWhitelist source => service.removeWhitelist source

variable {service : ServiceConfig}

/-- No request changes the identifier the data plane knows the service by, and every rule after a
request was there before or has passed the check. -/
theorem perform_spec {service' : ServiceConfig} {change : Change}
    (performed : change.perform service = .ok service') :
    service'.dpId = service.dpId ∧
      ∀ rule ∈ service'.rules, rule ∈ service.rules ∨ checkRule rule = .ok () := by
  -- most requests leave the rules alone
  have kept {s : ServiceConfig} (dpId : s.dpId = service.dpId) (rules : s.rules = service.rules) :
      s.dpId = service.dpId ∧ ∀ rule ∈ s.rules, rule ∈ service.rules ∨ checkRule rule = .ok () :=
    ⟨dpId, fun rule member => Or.inl (rules ▸ member)⟩
  cases change with
  | updateService =>
    simp only [perform, ServiceConfig.updateService] at performed
    split at performed
    · cases performed
    · cases performed; exact kept rfl rfl
  | setEnabled => cases performed; exact kept rfl rfl
  | sizePlan plan =>
    simp only [perform, ServiceConfig.sizePlan] at performed
    split at performed
    · cases performed
    · split at performed
      · cases performed
      · cases performed; exact kept rfl rfl
  | createRule added =>
    simp only [perform, ServiceConfig.createRule] at performed
    split at performed
    · cases performed
    · obtain ⟨_, _, performed⟩ := Raise.bind_eq_ok.mp performed
      obtain ⟨_, checked, performed⟩ := Raise.bind_eq_ok.mp performed
      cases performed
      refine ⟨rfl, fun rule member => ?_⟩
      rcases List.mem_append.mp member with old | new
      · exact Or.inl old
      · exact Or.inr (List.mem_singleton.mp new ▸ checked)
  | updateRule =>
    obtain ⟨_, _, performed⟩ := Raise.bind_eq_ok.mp performed
    obtain ⟨_, _, performed⟩ := Raise.bind_eq_ok.mp performed
    obtain ⟨_, checked, performed⟩ := Raise.bind_eq_ok.mp performed
    cases performed
    refine ⟨rfl, fun rule member => ?_⟩
    -- the rule of the request is replaced by the checked one, the others stay
    obtain ⟨old, listed, rfl⟩ := List.mem_map.mp member
    split
    · exact Or.inr checked
    · exact Or.inl listed
  | deleteRule =>
    obtain ⟨_, _, performed⟩ := Raise.bind_eq_ok.mp performed
    cases performed
    exact ⟨rfl, fun rule member => Or.inl (List.mem_of_mem_filter member)⟩
  | addWhitelist source | removeWhitelist source =>
    obtain ⟨_, _, performed⟩ := Raise.bind_eq_ok.mp performed
    obtain ⟨_, performed⟩ := Raise.ite_error_eq_ok.mp performed
    cases performed; exact kept rfl rfl

/-- The service after a request, which changes nothing if it raises. -/
def submit (service : ServiceConfig) (change : Change) : ServiceConfig :=
  (change.perform service).toOption.getD service

theorem checked_rules (checked : ∀ rule ∈ service.rules, checkRule rule = .ok ())
    (changes : List Change) :
    ∀ rule ∈ (changes.foldl submit service).rules, checkRule rule = .ok () := by
  induction changes generalizing service with
  | nil => exact checked
  | cons change rest ih =>
    apply ih
    intro rule member
    unfold submit at member
    cases performed : change.perform service with
    | error raised =>
      rw [performed] at member
      exact checked rule member
    | ok service' =>
      rw [performed] at member
      exact ((perform_spec performed).2 rule member).elim (checked rule) id

end Change

theorem validatePortRange_of_checked {lo hi : Option Int} (checked : checkPortRange lo hi = .ok ()) :
    validatePortRange lo hi = true := by
  unfold checkPortRange at checked
  split at checked
  next valid => exact valid
  · split at checked <;> cases checked

theorem validRanges_of_checked {rule : AllowRule} (checked : checkRule rule = .ok ()) :
    validatePortRange rule.srcPortLo rule.srcPortHi = true ∧
      validatePortRange rule.dstPortLo rule.dstPortHi = true := by
  obtain ⟨_, src, dst⟩ := Raise.bind_eq_ok.mp checked
  exact ⟨validatePortRange_of_checked src, validatePortRange_of_checked dst⟩

/-! ## What a snapshot holds for a service -/

/-- The services of a snapshot under one data-plane identifier. -/
def snapshotOf (node : List ServiceConfig) (dpId : Int) : List ServiceConfig :=
  node.filter fun service => service.dpId == dpId

/-- The snapshot holds the service as it is configured when it is enabled, and lacks it when not. -/
def Shows (node : List ServiceConfig) (service : ServiceConfig) : Prop :=
  snapshotOf node service.dpId = if service.enabled then [serviceConfig service] else []

variable {rows : List ServiceConfig}

theorem snapshotOf_own (distinct : (rows.map ServiceConfig.dpId).Nodup) (member : service ∈ rows) :
    snapshotOf rows service.dpId = [service] := by
  have own : ∀ other ∈ rows, (other.dpId == service.dpId) = (other == service) := by
    intro other listed
    by_cases same : other = service
    · simp [same]
    · have different : other.dpId ≠ service.dpId :=
        fun ids => same (List.inj_on_of_nodup_map distinct listed member ids)
      simp [same, different]
  rw [snapshotOf, List.filter_congr own, List.filter_beq, List.count_eq_one_of_mem
    (List.Nodup.of_map _ distinct) member]
  rfl

theorem loadNodeConfig_shows (distinct : (rows.map ServiceConfig.dpId).Nodup)
    (member : service ∈ rows) : Shows (loadNodeConfig rows) service := by
  have enabledOwn : snapshotOf (rows.filter ServiceConfig.enabled) service.dpId =
      if service.enabled then [service] else [] := by
    rw [snapshotOf, List.filter_comm, ← snapshotOf, snapshotOf_own distinct member,
      List.filter_singleton, cond_eq_ite]
  have sorted := (enabled_perm rows).filter fun other => other.dpId == service.dpId
  rw [← snapshotOf, ← snapshotOf, enabledOwn] at sorted
  have loaded : snapshotOf (loadNodeConfig rows) service.dpId =
      (snapshotOf ((rows.filter ServiceConfig.enabled).insertionSort fun a b => a.dpId ≤ b.dpId)
        service.dpId).map serviceConfig := by
    simp only [snapshotOf, loadNodeConfig, List.filter_map]
    rfl
  rw [Shows, loaded]
  split at sorted
  next enabled => rw [List.perm_singleton.mp sorted, if_pos enabled, List.map_singleton]
  next disabled => rw [sorted.eq_nil, if_neg disabled, List.map_nil]

theorem loadNodeConfig_mem (member : service ∈ loadNodeConfig rows) :
    ∃ row ∈ rows, row.enabled = true ∧ row.dpId = service.dpId := by
  obtain ⟨row, listed, enabled, rfl⟩ := (mem_loadNodeConfig rows service).mp member
  exact ⟨row, listed, enabled, rfl⟩

end ScrubbingGateway.Control
