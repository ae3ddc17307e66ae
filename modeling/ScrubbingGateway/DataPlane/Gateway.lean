import Mathlib.Data.List.FinRange
import ScrubbingGateway.DataPlane.Runtime

/-!
# The packet program

`xdp_gateway.bpf.c` and the stages of its headers, from the bytes of a frame to the action. The
build without test hooks is modelled: the fields of the packet record that only the hooks read
(verdict, matched rule, stage states) are left out.
-/

namespace ScrubbingGateway.DataPlane

/-- Reasons of `drop_reason.h`, in the order of their numbers. -/
inductive DropReason where
  | ipv6Unsupported
  | unsupportedEthertype
  | malformedIpv4
  | fragmentUnsupported
  | bogonDrop
  | serviceMiss
  | serviceDisabled
  | udpAmplificationDrop
  | blacklistDrop
  | notAllowed
  | rateLimitDrop
  | serviceCeilingDrop
  | congestionDrop
  | ingressCapDrop
  | vipCeilingDrop
  | mapError
  | nexthopUnresolved
deriving DecidableEq, Repr

def DropReason.code : DropReason → UInt32
  | ipv6Unsupported => 0
  | unsupportedEthertype => 1
  | malformedIpv4 => 2
  | fragmentUnsupported => 3
  | bogonDrop => 4
  | serviceMiss => 5
  | serviceDisabled => 6
  | udpAmplificationDrop => 7
  | blacklistDrop => 8
  | notAllowed => 9
  | rateLimitDrop => 10
  | serviceCeilingDrop => 11
  | congestionDrop => 12
  | ingressCapDrop => 13
  | vipCeilingDrop => 14
  | mapError => 15
  | nexthopUnresolved => 16

/-- The action, and the next hop whose addresses were written into the frame. -/
structure Verdict where
  action : XdpAction
  rewritten : Option Nexthop
deriving DecidableEq, Repr

/-! ## Accounting -/

/-- Whether the service has a record, making one if there is room. -/
def svcStatGet (dpId : UInt32) : PacketProg Bool := do
  if ← ask (.svcStatLookup dpId) then return true
  else if ← ask (.svcStatInsert dpId) then ask (.svcStatLookup dpId)
  else if ← ask (.svcStatLookup dpId) then ask (.svcStatLookup dpId)
  else return false

def svcStatClean (pkt : PktMeta) : PacketProg Unit :=
  if pkt.serviceId = 0 then .ret ()
  else do
    if ← svcStatGet pkt.serviceId then ask (.svcStatAddClean pkt.serviceId pkt.frameLen)
    else return ()

def svcStatDrop (pkt : PktMeta) (reason : UInt32) : PacketProg Unit :=
  if pkt.serviceId = 0 then .ret ()
  else do
    if ← svcStatGet pkt.serviceId then
      ask (.svcStatAddDrop pkt.serviceId pkt.frameLen reason)
    else return ()

/-- The sampling bucket when a drop is sampled at a time. -/
def sampleRefill (config : SampleConfig) (bucket : SampleBucket) (now : UInt64) : SampleBucket :=
  if bucket.lastNs = 0 then { tokens := config.burst, lastNs := now }
  else if config.ratePerSec > 0 ∧ now > bucket.lastNs then
    let elapsedSec := (now - bucket.lastNs) / nsecPerSec
    if elapsedSec > 0 then
      let tokens := bucket.tokens + elapsedSec * config.ratePerSec
      { tokens := if tokens > config.burst then config.burst else tokens
        lastNs := bucket.lastNs + elapsedSec * nsecPerSec }
    else bucket
  else bucket

def dropEvent (pkt : PktMeta) (reason : UInt32) (now : UInt64) : DropEvent :=
  { tsNs := now, srcIp := pkt.srcIp, dstIp := pkt.dstIp, serviceId := pkt.serviceId,
    sport := pkt.sport, dport := pkt.dport, reason := reason.toUInt8, ipProto := pkt.ipProto }

def sampleEmit (pkt : PktMeta) (reason : UInt32) (now : UInt64) : PacketProg Unit := do
  if ← ask .ringbufReserve then
    ask (.ringbufSubmit (dropEvent pkt reason now))
    ask (.sampleStatAdd .emitted)
  else ask (.sampleStatAdd .lost)

/-- Sample a drop at a reading of the clock. -/
def sampleAt (pkt : PktMeta) (reason : UInt32) (config : SampleConfig) (bucket : SampleBucket)
    (now : UInt64) : PacketProg Unit :=
  let bucket := sampleRefill config bucket now
  if bucket.tokens = 0 then do
    ask (.sampleBucketWrite bucket)
    ask (.sampleStatAdd .suppressed)
  else do
    ask (.sampleBucketWrite { bucket with tokens := bucket.tokens - 1 })
    sampleEmit pkt reason now

def sampleDrop (pkt : PktMeta) (reason : UInt32) : PacketProg Unit := do
  let config ← ask .sampleConfig
  let bucket ← ask .sampleBucketLookup
  match config, bucket with
  | some config, some bucket =>
    if config.burst = 0 then return ()
    else sampleAt pkt reason config bucket (← ask .ktimeGetNs)
  | _, _ => return ()

def recordDrop (pkt : PktMeta) (reason : DropReason) : PacketProg Verdict := do
  ask (.counterAdd reason.code)
  svcStatDrop pkt reason.code
  sampleDrop pkt reason.code
  return ⟨.drop, none⟩

/-! ## Leaving the program -/

/-- The rewrite of the Ethernet addresses: `none` when it fails. Frames other than IPv4 go out as
they came. -/
def nexthopRewrite (frame : Frame) (pkt : PktMeta) : PacketProg (Option (Option Nexthop)) :=
  if pkt.ethProto ≠ ethPIp then .ret (some none)
  else if frame.length < 14 then .ret none
  else do
    match ← ask (.nexthopLookup pkt.serviceId) with
    | some nh => return if nh.resolved = 0 then none else some (some nh)
    | none => return none

def redirectOut (frame : Frame) (pkt : PktMeta) : PacketProg Verdict := do
  match ← nexthopRewrite frame pkt with
  | none => recordDrop pkt .nexthopUnresolved
  | some rewritten =>
    svcStatClean pkt
    return ⟨← ask .redirectMap, rewritten⟩

def redirectOutBypass (pkt : PktMeta) : PacketProg Verdict := do
  ask (.bypassAdd pkt.frameLen)
  return ⟨← ask .redirectMap, none⟩

/-! ## Buckets -/

def rlCpuCount : PacketProg UInt32 := do
  let ncpus ← ask .cpuCount
  return if ncpus = 0 then 1 else ncpus

def rlTestNoRefill : PacketProg Bool := do
  match ← ask .rateLimitConfig with
  | some testNoRefill => return testNoRefill != 0
  | none => return false

/-- Ask a bucket to admit a packet; `none` is the error `-1`. A missing bucket is made full. -/
def Limiter.bucketAdmit (l : Limiter) (map : BucketMap) (key : UInt32) (pktLen : UInt64) :
    PacketProg (Option Bool) := do
  let ncpus ← rlCpuCount
  let testNoRefill ← rlTestNoRefill
  let now ← ask .ktimeGetNs
  match ← ask (.bucketLookup map key) with
  | none =>
    let result := l.consume (l.reset now ncpus testNoRefill) pktLen
    if ← ask (.bucketUpdate map key result.2) then return some result.1 else return none
  | some bucket =>
    let result := l.consume (l.ready bucket now ncpus testNoRefill) pktLen
    ask (.bucketWrite map key result.2)
    return some result.1

def fairCapAdmit (config : FairConfig) (pkt : PktMeta) (pktLen : UInt64) :
    PacketProg (Option Bool) :=
  (fairCapLimiter config).bucketAdmit .serviceIngressCapState pkt.serviceId pktLen

def fairCommittedAdmit (config : FairConfig) (pkt : PktMeta) (pktLen : UInt64) :
    PacketProg (Option Bool) :=
  (fairCommittedLimiter config).bucketAdmit .svcCommittedState pkt.serviceId pktLen

def fairBurstAdmit (config : FairConfig) (pkt : PktMeta) (pktLen : UInt64) :
    PacketProg (Option Bool) :=
  (fairBurstLimiter config).bucketAdmit .svcBurstState pkt.serviceId pktLen

/-- The node bucket is never made here: without it the packet is dropped. -/
def fairNodeAdmit (config : FairNodeConfig) (pktLen : UInt64) : PacketProg (Option Bool) := do
  let ncpus ← rlCpuCount
  let testNoRefill ← rlTestNoRefill
  let now ← ask .ktimeGetNs
  match ← ask (.bucketLookup .nodeBurstState 0) with
  | none => return none
  | some bucket =>
    let l := fairNodeLimiter config
    let result := l.consume (l.ready bucket now ncpus testNoRefill) pktLen
    ask (.bucketWrite .nodeBurstState 0 result.2)
    return some result.1

def limitsSet (flags : UInt8) : Bool := flags &&& (ppsSetFlag ||| bpsSetFlag) ≠ 0

def vipBucketAdmit (config : RateConfig) (pkt : PktMeta) (pktLen : UInt64) :
    PacketProg (Option Bool) :=
  if limitsSet config.flags then
    (vipLimiter config).bucketAdmit .vipCeilingState pkt.serviceId pktLen
  else .ret (some true)

/-! ## Fairness and the service rate limit -/

def ruleIdxNone : UInt8 := 0xff

def fairConfigLookup (slot serviceId : UInt32) : PacketProg (Option FairConfig) := do
  match ← ask (.outer .fairConfigMap slot) with
  | none => return none
  | some inner => ask (.inner .fairConfigMap inner serviceId)

/-- `none` means that the packet goes on. -/
def ingressCapStage (frame : Frame) (pkt : PktMeta) (slot : UInt32) :
    PacketProg (Option Verdict) := do
  match ← fairConfigLookup slot pkt.serviceId with
  | none => return some (← recordDrop pkt .mapError)
  | some config =>
    match ← fairCapAdmit config pkt (UInt64.ofNat frame.length) with
    | none => return some (← recordDrop pkt .mapError)
    | some false => return some (← recordDrop { pkt with ruleIdx := ruleIdxNone } .ingressCapDrop)
    | some true => return none

def fairAdmitStage (frame : Frame) (pkt : PktMeta) (slot : UInt32) : PacketProg Verdict := do
  let pktLen := UInt64.ofNat frame.length
  match ← fairConfigLookup slot pkt.serviceId with
  | none => recordDrop pkt .mapError
  | some config =>
    match ← fairCommittedAdmit config pkt pktLen with
    | none => recordDrop pkt .mapError
    | some true => redirectOut frame pkt
    | some false =>
      match ← fairBurstAdmit config pkt pktLen with
      | none => recordDrop pkt .mapError
      | some false => recordDrop pkt .serviceCeilingDrop
      | some true =>
        match ← ask (.fairNodeConfig slot) with
        | none => recordDrop pkt .mapError
        | some node =>
          match ← fairNodeAdmit node pktLen with
          | none => recordDrop pkt .mapError
          | some false => recordDrop pkt .congestionDrop
          | some true => redirectOut frame pkt

/-- A service without a rate-limit config, or with one that sets no limit, is not limited. -/
def svcRlAdmit (slot serviceId : UInt32) (pktLen : UInt64) : PacketProg (Option Bool) := do
  match ← ask (.outer .svcRlConfigMap slot) with
  | none => return none
  | some inner =>
    match ← ask (.inner .svcRlConfigMap inner serviceId) with
    | none => return some true
    | some config =>
      if limitsSet config.flags then (svcLimiter config).bucketAdmit .svcRlState serviceId pktLen
      else return some true

/-! ## Allow rules -/

def ruleProtoAny : UInt8 := 0
def ruleEnabled : UInt8 := 1

def ruleProtoMatches (rule : RuleEntry) (pkt : PktMeta) : Bool :=
  if rule.proto = ruleProtoAny then
    pkt.ipProto == ipprotoTcp || pkt.ipProto == ipprotoUdp || pkt.ipProto == ipprotoIcmp
  else pkt.ipProto == rule.proto

def portInRange (port lo hi : UInt16) : Bool := port ≥ lo && port ≤ hi

def rulePortsMatch (rule : RuleEntry) (pkt : PktMeta) : Bool :=
  if rule.proto ≠ ipprotoTcp ∧ rule.proto ≠ ipprotoUdp then true
  else portInRange pkt.sport rule.srcLo rule.srcHi && portInRange pkt.dport rule.dstLo rule.dstHi

def ruleMatches (rule : RuleEntry) (pkt : PktMeta) : Bool :=
  rule.flags &&& ruleEnabled ≠ 0 && ruleProtoMatches rule pkt && rulePortsMatch rule pkt

/-- The first rule of a block, among its `rule_count` first ones, that matches. -/
def matchingRule (block : RuleBlock) (pkt : PktMeta) : Option (Fin ruleMax) :=
  (List.finRange ruleMax).find? fun i =>
    i.val < min block.ruleCount.toNat ruleMax && ruleMatches (block.rules i) pkt

/-- The scan of `allow_rule_stage`: the rule that decides, or why there is none. -/
def selectRule (pkt : PktMeta) (slot : UInt32) : PacketProg (Except DropReason (Fin ruleMax)) := do
  match ← ask (.outer .ruleBlockMap slot) with
  | none => return .error .mapError
  | some inner =>
    match ← ask (.inner .ruleBlockMap inner pkt.serviceId) with
    | none => return .error .notAllowed
    | some block =>
      match matchingRule block pkt with
      | none => return .error .notAllowed
      | some i => return .ok i

/-- What the scan leaves in `meta->rule_idx`. -/
def recordedRuleIdx : Except DropReason (Fin ruleMax) → UInt8
  | .error _ => ruleIdxNone
  | .ok i => UInt8.ofNat i.val

/-- The stage once a rule is selected. -/
def admitSelected (frame : Frame) (pkt : PktMeta) (slot : UInt32) : PacketProg Verdict := do
  match ← svcRlAdmit slot pkt.serviceId (UInt64.ofNat frame.length) with
  | none => recordDrop pkt .mapError
  | some false => recordDrop pkt .rateLimitDrop
  | some true => fairAdmitStage frame pkt slot

def allowRuleStage (frame : Frame) (pkt : PktMeta) (slot : UInt32) : PacketProg Verdict := do
  let selected ← selectRule pkt slot
  let pkt := { pkt with ruleIdx := recordedRuleIdx selected }
  match selected with
  | .error reason => recordDrop pkt reason
  | .ok _ => admitSelected frame pkt slot

/-! ## Deny filters -/

def ampPorts : List UInt16 := [17, 19, 53, 111, 123, 137, 161, 389, 520, 1900, 5353, 11211]

def ampPortHardcoded (sport : UInt16) : Bool := ampPorts.contains sport

/-- Mask and value of every source block that is never routed here. -/
def bogonBlocks : List (UInt32 × UInt32) :=
  [(0xff000000, 0x00000000), (0xff000000, 0x0a000000), (0xffc00000, 0x64400000),
    (0xff000000, 0x7f000000), (0xffff0000, 0xa9fe0000), (0xfff00000, 0xac100000),
    (0xffffff00, 0xc0000000), (0xffffff00, 0xc0000200), (0xffff0000, 0xc0a80000),
    (0xfffe0000, 0xc6120000), (0xffffff00, 0xc6336400), (0xffffff00, 0xcb007100),
    (0xf0000000, 0xe0000000), (0xf0000000, 0xf0000000)]

def bogonSrc (src : UInt32) : Bool := bogonBlocks.any fun block => src &&& block.1 == block.2

/-- Whether the bloom filter may hold the source's `/24`; `none` is the error `-1`. -/
def gblBloomMaybe (slot src : UInt32) : PacketProg (Option Bool) := do
  match ← ask (.outer .globalBlacklistBloom slot) with
  | none => return none
  | some inner =>
    let present ← ask (.inner .globalBlacklistBloom inner (src &&& src24Mask))
    return some present.isSome

def gblLpmHit (slot src : UInt32) : PacketProg (Option Bool) := do
  match ← ask (.outer .globalBlacklistLpm slot) with
  | none => return none
  | some inner =>
    let present ← ask (.inner .globalBlacklistLpm inner (blLpmKey 32 src))
    return some present.isSome

/-- The trie behind the global bloom filter. -/
def globalTrieStage (frame : Frame) (pkt : PktMeta) (slot : UInt32) (bloomConsulted : Bool) :
    PacketProg Verdict := do
  match ← gblLpmHit slot pkt.srcIp with
  | none => recordDrop pkt .mapError
  | some true => recordDrop pkt .blacklistDrop
  | some false =>
    Prog.when (bloomConsulted = true) (ask (.bloomFpAdd .global))
    allowRuleStage frame pkt slot

def globalDenyStage (frame : Frame) (pkt : PktMeta) (slot : UInt32) : PacketProg Verdict := do
  match ← ask (.gblMeta slot) with
  | none => recordDrop pkt .mapError
  | some globalMeta =>
    if globalMeta.flags &&& gblActive = 0 then allowRuleStage frame pkt slot
    else if globalMeta.flags &&& gblHasBroad ≠ 0 then globalTrieStage frame pkt slot false
    else
      match ← gblBloomMaybe slot pkt.srcIp with
      | none => recordDrop pkt .mapError
      | some false => allowRuleStage frame pkt slot
      | some true => globalTrieStage frame pkt slot true

/-- The bit of a source port in the bitmap. -/
def portBlocked (word : UInt64) (sport : UInt16) : Bool :=
  word &&& ((1 : UInt64) <<< (sport &&& 63).toUInt64) ≠ 0

def blockedPortStage (frame : Frame) (pkt : PktMeta) (slot : UInt32) : PacketProg Verdict := do
  match ← ask (.outer .udpBlockedPortBitmap slot) with
  | none => recordDrop pkt .mapError
  | some inner =>
    match ← ask (.inner .udpBlockedPortBitmap inner (pkt.sport >>> 6).toUInt32) with
    | none => recordDrop pkt .mapError
    | some word =>
      if portBlocked word pkt.sport then recordDrop pkt .udpAmplificationDrop
      else globalDenyStage frame pkt slot

def denyFilterStage (frame : Frame) (pkt : PktMeta) (slot : UInt32) : PacketProg Verdict :=
  if pkt.ipProto = ipprotoUdp ∧ ampPortHardcoded pkt.sport then
    recordDrop pkt .udpAmplificationDrop
  else if bogonSrc pkt.srcIp then recordDrop pkt .bogonDrop
  else if pkt.ipProto = ipprotoUdp then blockedPortStage frame pkt slot
  else globalDenyStage frame pkt slot

/-! ## Whitelist -/

def wlBloomMaybe (slot serviceId src : UInt32) : PacketProg (Option Bool) := do
  match ← ask (.outer .whitelistBloom slot) with
  | none => return none
  | some inner =>
    let present ← ask (.inner .whitelistBloom inner (wlBloomKey serviceId src))
    return some present.isSome

def wlLpmHit (slot serviceId src : UInt32) : PacketProg (Option Bool) := do
  match ← ask (.outer .whitelistLpm slot) with
  | none => return none
  | some inner =>
    let present ← ask (.inner .whitelistLpm inner (wlLpmKey 64 serviceId src))
    return some present.isSome

def vipConfigLookup (slot serviceId : UInt32) : PacketProg (Option RateConfig) := do
  match ← ask (.outer .vipConfigMap slot) with
  | none => return none
  | some inner => ask (.inner .vipConfigMap inner serviceId)

/-- A whitelisted source. Without limits it is treated like any other. -/
def vipStage (frame : Frame) (pkt : PktMeta) (slot : UInt32) : PacketProg Verdict := do
  match ← vipConfigLookup slot pkt.serviceId with
  | none => recordDrop pkt .mapError
  | some config =>
    if limitsSet config.flags then
      match ← vipBucketAdmit config pkt (UInt64.ofNat frame.length) with
      | none => recordDrop pkt .mapError
      | some false => recordDrop { pkt with ruleIdx := ruleIdxNone } .vipCeilingDrop
      | some true => redirectOut frame { pkt with ruleIdx := ruleIdxNone }
    else denyFilterStage frame pkt slot

def whitelistTrieStage (frame : Frame) (pkt : PktMeta) (slot : UInt32) (bloomConsulted : Bool) :
    PacketProg Verdict := do
  match ← wlLpmHit slot pkt.serviceId pkt.srcIp with
  | none => recordDrop pkt .mapError
  | some true => vipStage frame pkt slot
  | some false =>
    Prog.when (bloomConsulted = true) (ask (.bloomFpAdd .whitelist))
    denyFilterStage frame pkt slot

def whitelistStage (frame : Frame) (pkt : PktMeta) (slot : UInt32) (service : ServiceVal) :
    PacketProg Verdict :=
  if service.wlFlags &&& wlActive = 0 then denyFilterStage frame pkt slot
  else if service.wlFlags &&& wlHasBroad ≠ 0 then whitelistTrieStage frame pkt slot false
  else do
    match ← wlBloomMaybe slot pkt.serviceId pkt.srcIp with
    | none => recordDrop pkt .mapError
    | some false => denyFilterStage frame pkt slot
    | some true => whitelistTrieStage frame pkt slot true

/-! ## The program -/

def serviceStages (frame : Frame) (pkt : PktMeta) (slot : UInt32) (service : ServiceVal) :
    PacketProg Verdict := do
  match ← ingressCapStage frame pkt slot with
  | some verdict => return verdict
  | none => whitelistStage frame pkt slot service

/-- The active slot is read once, here, and handed to every stage. -/
def serviceLookupRedirect (frame : Frame) (pkt : PktMeta) : PacketProg Verdict := do
  match ← ask .activeConfig with
  | none => recordDrop pkt .mapError
  | some config =>
    let slot := config.activeSlot
    match ← ask (.outer .serviceMap slot) with
    | none => recordDrop pkt .mapError
    | some inner =>
      match ← ask (.inner .serviceMap inner (serviceKey 32 pkt.dstIp)) with
      | none => recordDrop pkt .serviceMiss
      | some service =>
        let pkt := { pkt with serviceId := service.serviceId }
        if service.enabled = 0 then recordDrop pkt .serviceDisabled
        else serviceStages frame pkt slot service

def nodeControlBypass : PacketProg Bool := do
  match ← ask .nodeControl with
  | some bypass => return bypass != 0
  | none => return false

def ipv4Stage (frame : Frame) (cur : HdrCursor) (pkt : PktMeta) : PacketProg Verdict :=
  let ip := parseIpv4 frame cur pkt
  if ip.result = .fragment then recordDrop ip.pkt .fragmentUnsupported
  else if ip.result ≠ .ok then recordDrop ip.pkt .malformedIpv4
  else
    let l4 := parseL4 frame ip.cur ip.pkt
    if l4.result ≠ .ok then recordDrop l4.pkt .malformedIpv4
    else do
      if ← nodeControlBypass then redirectOutBypass l4.pkt
      else serviceLookupRedirect frame l4.pkt

def xdpGateway (frame : Frame) : PacketProg Verdict :=
  let eth := parseEth frame ⟨0, 0⟩ (.init frame)
  if eth.result ≠ .ok then recordDrop eth.pkt .unsupportedEthertype
  else if eth.pkt.ethProto = ethPIpv6 then recordDrop eth.pkt .ipv6Unsupported
  else if eth.pkt.ethProto = ethPArp then redirectOut frame eth.pkt
  else if eth.pkt.ethProto = ethPIp then ipv4Stage frame eth.cur eth.pkt
  else recordDrop eth.pkt .unsupportedEthertype

end ScrubbingGateway.DataPlane
