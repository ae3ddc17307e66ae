import ScrubbingGateway.Apply.NodeCfg

/-!
# The apply helper

`apply_node_cfg` and `apply_global_deny_cfg` of `xdpgw-apply.c` as programs over the map
operations. A stage that returns `-1` makes the program give up.
-/

namespace ScrubbingGateway.Apply

open DataPlane

/-! ## Single operations, giving up on an error -/

def activeLookup : ConfigProg ActiveConfig := do
  Prog.expect (← Prog.request .activeLookup)

variable (o : Outer) (slot : UInt32) (service : CfgService)

def outerLookup : ConfigProg MapId := do
  Prog.expect (← Prog.request (.outerLookup o slot))

def fdById (id : MapId) : ConfigProg MapId := do
  Prog.expect (← Prog.request (.fdById o id))

def create (like : MapId) : ConfigProg MapId := do
  Prog.expect (← Prog.request (.create o like))

def innerLookup (fd : MapId) (key : o.Key) : ConfigProg o.Val := do
  Prog.expect (← Prog.request (.innerLookup o fd key))

def innerUpdate (fd : MapId) (key : o.Key) (val : o.Val) : ConfigProg Unit := do
  Prog.require (← Prog.request (.innerUpdate o fd key val))

def fairNodeLookup : ConfigProg FairNodeConfig := do
  Prog.expect (← Prog.request (.fairNodeLookup slot))

def fairNodeUpdate (v : FairNodeConfig) : ConfigProg Unit := do
  Prog.require (← Prog.request (.fairNodeUpdate slot v))

def gblMetaLookup : ConfigProg GblMeta := do
  Prog.expect (← Prog.request (.gblMetaLookup slot))

def gblMetaUpdate (v : GblMeta) : ConfigProg Unit := do
  Prog.require (← Prog.request (.gblMetaUpdate slot v))

def applyInstallInner (fd : MapId) : ConfigProg Unit := do
  Prog.require (← Prog.request (.outerUpdate o slot fd))

def applyInnerFd : ConfigProg MapId := do
  fdById o (← outerLookup o slot)

def createInnerLike (srcSlot : UInt32) : ConfigProg MapId := do
  create o (← applyInnerFd o srcSlot)

def applyCopyOuterInner (activeSlot inactiveSlot : UInt32) : ConfigProg Unit := do
  applyInstallInner o inactiveSlot (← applyInnerFd o activeSlot)

/-- The slots and the version an apply read from `active_config`. -/
structure Slots where
  activeSlot : UInt32
  inactiveSlot : UInt32
  version : UInt32
deriving DecidableEq, Repr

def Slots.ofActive (active : ActiveConfig) : Slots :=
  { activeSlot := active.activeSlot, inactiveSlot := 1 - active.activeSlot,
    version := active.version }

def applyReadActive : ConfigProg Slots := do
  let active ← activeLookup
  Prog.require (active.activeSlot < serviceSlots)
  return .ofActive active

/-- The service-scoped outers, in the helper's order. -/
def serviceOuters : List Outer :=
  [.serviceMap, .ruleBlockMap, .whitelistBloom, .whitelistLpm, .vipConfigMap, .svcRlConfigMap,
    .fairConfigMap]

/-! ## Writing one service -/

def serviceVal : ServiceVal :=
  { serviceId := service.dpId, enabled := service.enabled, wlFlags := service.wlFlags,
    reserved0 := 0 }

def ruleEntry (rule : CfgRule) : RuleEntry :=
  { srcLo := rule.srcLo, srcHi := rule.srcHi, dstLo := rule.dstLo, dstHi := rule.dstHi,
    proto := rule.proto, flags := rule.flags }

def ruleBlock : RuleBlock :=
  { version := applyConfigVersion
    ruleCount := UInt16.ofNat service.rules.length
    rules := fun i => (service.rules[i.val]?).elim .zero ruleEntry }

def vipConfig : RateConfig :=
  { version := applyConfigVersion, flags := service.vipFlags, pps := service.vipPps,
    bps := service.vipBps }

def svcRlConfig : RateConfig :=
  { version := applyConfigVersion, flags := service.svcRlFlags, pps := service.servicePps,
    bps := service.serviceBps }

def serviceBudget (knobs : Knobs) (service : CfgService) : FairBudget :=
  fairBudget service.committedBps service.ceilingBps knobs.k knobs.refPkt

def fairConfig (knobs : Knobs) (service : CfgService) : FairConfig :=
  let budget := serviceBudget knobs service
  { version := applyConfigVersion, committedBps := budget.committedBps,
    burstBps := budget.burstBps, capBps := budget.capBps, capPps := budget.capPps }

def serviceOk : Bool :=
  !(service.dstPrefixlen > 32 || service.dpId == 0 || service.enabled > 1 ||
    service.reserved0 != 0 || service.rules.length > ruleMax ||
    service.committedBps > service.ceilingBps)

/-- One iteration of the whitelist loop. -/
def writeWhitelistEntry (fd : Outer → MapId) (serviceId : UInt32) (source : CfgSource) :
    ConfigProg Unit := do
  Prog.require (source.prefixlen ≤ 32)
  Prog.when (source.prefixlen ≥ wlBloomPrefix) <|
    innerUpdate .whitelistBloom (fd .whitelistBloom) (wlBloomKey serviceId source.addr) ()
  innerUpdate .whitelistLpm (fd .whitelistLpm)
    (wlLpmKey (32 + source.prefixlen) serviceId source.addr) 1

/-- The whitelist loop. Its index has 16 bits and its bound 32, so with 65536 entries or more the
index wraps around and the loop is never left: any amount of fuel is used up. -/
def writeWhitelist (fd : Outer → MapId) (serviceId : UInt32) (wl : List CfgSource) :
    (fuel : Nat) → (i : UInt16) → ConfigProg Unit
  | 0, _ => .unfinished
  | fuel + 1, i =>
    match wl[i.toNat]? with
    | none => .ret ()
    | some source => do
      writeWhitelistEntry fd serviceId source
      writeWhitelist fd serviceId wl fuel (i + 1)

/-- Returns the sum of the committed rates so far. -/
def applyWriteService (fd : Outer → MapId) (knobs : Knobs) (fuel : Nat) (sumCommitted : UInt64)
    (service : CfgService) : ConfigProg UInt64 := do
  Prog.require (serviceOk service)
  innerUpdate .serviceMap (fd .serviceMap) (serviceKey service.dstPrefixlen service.dstAddr)
    (serviceVal service)
  innerUpdate .ruleBlockMap (fd .ruleBlockMap) service.dpId (ruleBlock service)
  writeWhitelist fd service.dpId service.wl fuel 0
  Prog.when (service.wlFlags &&& wlActive ≠ 0) <|
    innerUpdate .vipConfigMap (fd .vipConfigMap) service.dpId (vipConfig service)
  innerUpdate .svcRlConfigMap (fd .svcRlConfigMap) service.dpId (svcRlConfig service)
  innerUpdate .fairConfigMap (fd .fairConfigMap) service.dpId (fairConfig knobs service)
  return addCommitted sumCommitted (serviceBudget knobs service).committedBps

/-! ## A service snapshot -/

def createServiceInners (srcSlot : UInt32) : ConfigProg (Outer → MapId) :=
  Prog.forEach (fun fd o => do return Function.update fd o (← createInnerLike o srcSlot))
    serviceOuters fun _ => 0

/-- What a service build leaves for the verification. -/
structure ServiceBuild where
  slots : Slots
  nodeCapacityBps : UInt64
  sumCommittedBps : UInt64

def fairNodeConfigOf (capacity sumCommitted : UInt64) : FairNodeConfig :=
  { version := applyConfigVersion, headroomBps := nodeHeadroom capacity sumCommitted }

def installServiceInners (fd : Outer → MapId) (slot : UInt32) : ConfigProg Unit :=
  Prog.forEach (fun _ o => applyInstallInner o slot (fd o)) serviceOuters ()

/-- The inner maps with the services in them, and what the services are committed. -/
def fillInners (knobs : Knobs) (fuel : Nat) (srcSlot : UInt32) (services : List CfgService) :
    ConfigProg ((Outer → MapId) × UInt64) := do
  let fd ← createServiceInners srcSlot
  let sumCommitted ← Prog.forEach (applyWriteService fd knobs fuel) services 0
  return (fd, sumCommitted)

def buildInactiveSlot (env : Env) (fuel : Nat) (node : NodeCfg) : ConfigProg ServiceBuild := do
  Prog.require (node.schemaVersion == schemaVersion)
  let slots ← applyReadActive
  let knobs ← Prog.expect (applyNodeKnobs env)
  let (fd, sumCommitted) ← fillInners knobs fuel slots.activeSlot node.services
  fairNodeUpdate slots.inactiveSlot (fairNodeConfigOf knobs.capacity sumCommitted)
  installServiceInners fd slots.inactiveSlot
  return { slots, nodeCapacityBps := knobs.capacity, sumCommittedBps := sumCommitted }

def carryForwardFeed (slots : Slots) : ConfigProg Unit := do
  applyCopyOuterInner .globalBlacklistBloom slots.activeSlot slots.inactiveSlot
  applyCopyOuterInner .globalBlacklistLpm slots.activeSlot slots.inactiveSlot
  applyCopyOuterInner .udpBlockedPortBitmap slots.activeSlot slots.inactiveSlot
  gblMetaUpdate slots.inactiveSlot (← gblMetaLookup slots.activeSlot)

/-- The read-back of one service. A disabled service is skipped. -/
def verifyService (serviceFd ruleFd : MapId) (service : CfgService) : ConfigProg Unit :=
  if service.enabled = 0 then .ret ()
  else do
    let value ← innerLookup .serviceMap serviceFd
      (serviceKey service.dstPrefixlen service.dstAddr)
    Prog.require (value.serviceId == service.dpId && value.enabled != 0 &&
      value.wlFlags == service.wlFlags && value.reserved0 == 0)
    let block ← innerLookup .ruleBlockMap ruleFd service.dpId
    Prog.require (block.version == applyConfigVersion &&
      block.ruleCount == UInt16.ofNat service.rules.length)

/-- The inner maps installed in a slot, in the order of the outers. -/
def slotInners : ConfigProg (Outer → MapId) :=
  Prog.forEach (fun fd o => do return Function.update fd o (← applyInnerFd o slot))
    serviceOuters fun _ => 0

def verifySlot (node : NodeCfg) (build : ServiceBuild) : ConfigProg Unit := do
  let fd ← slotInners build.slots.inactiveSlot
  Prog.forEach (fun _ service => verifyService (fd .serviceMap) (fd .ruleBlockMap) service)
    node.services ()
  let nodeConfig ← fairNodeLookup build.slots.inactiveSlot
  Prog.require (nodeConfig.version == applyConfigVersion &&
    nodeConfig.headroomBps == nodeHeadroom build.nodeCapacityBps build.sumCommittedBps)
  let activeMeta ← gblMetaLookup build.slots.activeSlot
  let inactiveMeta ← gblMetaLookup build.slots.inactiveSlot
  Prog.require (activeMeta.flags == inactiveMeta.flags)

/-- The only write of `active_config`. -/
def commit (slots : Slots) : ConfigProg Unit := do
  Prog.require (← Prog.request (.activeUpdate
    { activeSlot := slots.inactiveSlot, version := slots.version + 1 }))

def applyNodeCfg (env : Env) (fuel : Nat) (node : NodeCfg) : ConfigProg Unit := do
  let build ← buildInactiveSlot env fuel node
  carryForwardFeed build.slots
  verifySlot node build
  commit build.slots

/-! ## A global deny snapshot -/

def carryForwardServiceConfig (slots : Slots) : ConfigProg Unit := do
  Prog.forEach (fun _ o => applyCopyOuterInner o slots.activeSlot slots.inactiveSlot)
    serviceOuters ()
  applyCopyOuterInner .udpBlockedPortBitmap slots.activeSlot slots.inactiveSlot
  fairNodeUpdate slots.inactiveSlot (← fairNodeLookup slots.activeSlot)

def globalBloomInsert (bloomFd : MapId) (entry : CfgSource) : ConfigProg Unit :=
  Prog.forEach (fun _ key => innerUpdate .globalBlacklistBloom bloomFd key ()) (bloomKeys entry) ()

def writeGlobalEntry (bloomFd lpmFd : MapId) (flags : UInt8) (entry : CfgSource) :
    ConfigProg Unit := do
  innerUpdate .globalBlacklistLpm lpmFd (blLpmKey entry.prefixlen entry.addr) 1
  Prog.when (flags &&& gblHasBroad = 0) (globalBloomInsert bloomFd entry)

def buildGlobalDenySlot (node : NodeCfg) (slots : Slots) : ConfigProg BloomPlan := do
  Prog.require (node.schemaVersion == schemaVersion && node.snapshotKind == kindGlobalDeny)
  let plan ← Prog.expect (globalBloomPlan node)
  -- both maps are asked for before either answer is looked at
  let bloomFd? ← (createInnerLike .globalBlacklistBloom slots.activeSlot).attempt
  let lpmFd? ← (createInnerLike .globalBlacklistLpm slots.activeSlot).attempt
  let bloomFd ← Prog.expect bloomFd?
  let lpmFd ← Prog.expect lpmFd?
  Prog.forEach (fun _ entry => writeGlobalEntry bloomFd lpmFd plan.flags entry)
    node.globalEntries ()
  gblMetaUpdate slots.inactiveSlot { flags := plan.flags }
  applyInstallInner .globalBlacklistBloom slots.inactiveSlot bloomFd
  applyInstallInner .globalBlacklistLpm slots.inactiveSlot lpmFd
  return plan

def verifyGlobalLpm (lpmFd : MapId) (node : NodeCfg) : ConfigProg Unit := do
  let count ← Prog.expect (← Prog.request (.innerKeyCount .globalBlacklistLpm lpmFd))
  Prog.require (count == node.globalEntries.length)
  Prog.forEach (fun _ entry => do
    let present ← innerLookup .globalBlacklistLpm lpmFd (blLpmKey entry.prefixlen entry.addr)
    Prog.require (present == 1)) node.globalEntries ()

/-- Compare the inner map ids of the two slots. -/
def verifyOuterIds (slots : Slots) (same : Bool) : ConfigProg Unit := do
  let activeId ← outerLookup o slots.activeSlot
  let inactiveId ← outerLookup o slots.inactiveSlot
  Prog.require ((activeId == inactiveId) == same)

def verifyGlobalDenySlot (node : NodeCfg) (slots : Slots) (built : BloomPlan) :
    ConfigProg Unit := do
  Prog.require (node.snapshotKind == kindGlobalDeny)
  let expected ← Prog.expect (globalBloomPlan node)
  Prog.require (expected.flags == built.flags && expected.fill == built.fill)
  Prog.forEach (fun _ o => verifyOuterIds o slots true) serviceOuters ()
  verifyOuterIds .udpBlockedPortBitmap slots true
  verifyOuterIds .globalBlacklistBloom slots false
  verifyOuterIds .globalBlacklistLpm slots false
  let activeNode ← fairNodeLookup slots.activeSlot
  let inactiveNode ← fairNodeLookup slots.inactiveSlot
  Prog.require (activeNode == inactiveNode)
  let inactiveMeta ← gblMetaLookup slots.inactiveSlot
  Prog.require (inactiveMeta.flags == expected.flags)
  let lpmFd ← applyInnerFd .globalBlacklistLpm slots.inactiveSlot
  verifyGlobalLpm lpmFd node

def applyGlobalDenyCfg (node : NodeCfg) : ConfigProg Unit := do
  let slots ← applyReadActive
  carryForwardServiceConfig slots
  let plan ← buildGlobalDenySlot node slots
  verifyGlobalDenySlot node slots plan
  commit slots

/-- The dispatch of `main` on the kind of the snapshot. -/
def applySnapshot (env : Env) (fuel : Nat) (node : NodeCfg) : ConfigProg Unit :=
  if node.snapshotKind = kindServiceFull then applyNodeCfg env fuel node
  else if node.snapshotKind = kindGlobalDeny then applyGlobalDenyCfg node
  else .fail

end ScrubbingGateway.Apply
