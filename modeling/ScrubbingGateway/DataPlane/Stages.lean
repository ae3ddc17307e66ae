import ScrubbingGateway.DataPlane.PacketLookups

/-!
# The way of a packet through the stages

Once the configuration is fixed, all that is left of the packet program is: look at the
configuration, ask buckets of the packet's own service, ask the node bucket at most once, and then
drop the packet or send it out. `Staged` says this once, together with the stage every drop
happens in; what a packet can do to counters and buckets is read off it by induction.
-/

namespace ScrubbingGateway.DataPlane

open Prog

theorem DropReason.code_injective {a b : DropReason} (same : a.code = b.code) : a = b := by
  revert same
  cases a <;> cases b <;> decide

inductive Stage where
  | lookup
  | ingressCap
  | whitelist
  | vip
  | deny
  | allowRule
  | rateLimit
  | committed
  | burst
  | node
deriving DecidableEq, Repr

/-- The stage a packet is in after a call. -/
def Stage.enter (stage : Stage) : PacketCall → Stage
  -- `ingress_cap_stage` looks at the fairness config first, `fair_admit_stage` looks again
  | .outer .fairConfigMap _ => if stage = .lookup then .ingressCap else .committed
  | .outer .whitelistBloom _ | .outer .whitelistLpm _ => .whitelist
  | .outer .vipConfigMap _ => .vip
  | .outer .udpBlockedPortBitmap _ | .gblMeta _ => .deny
  | .outer .ruleBlockMap _ => .allowRule
  | .outer .svcRlConfigMap _ => .rateLimit
  | .bucketLookup .svcBurstState _ => .burst
  -- only a packet its burst bucket admitted gets to the node bucket
  | .fairNodeConfig _ => if stage = .burst then .node else stage
  | _ => stage

/-- The stages that need a bucket of the service, apart from the whitelist's. -/
def Stage.limits : Stage → Bool
  | ingressCap | rateLimit | committed | burst => true
  | _ => false

/-- The active slot holds what those stages need to know about a service. -/
def Configured (c : ConfigMaps) (id : UInt32) : Prop :=
  ∀ slot, ActiveSlot c slot →
    (slotLookup c slot .fairConfigMap id).isSome ∧ (c.outer .svcRlConfigMap slot).isSome

/-- The frame is an IPv4 packet whose headers are all there, so that its service is looked up. -/
def reachesLookup (frame : Frame) : Bool :=
  let eth := parseEth frame ⟨0, 0⟩ (.init frame)
  let ip := parseIpv4 frame eth.cur eth.pkt
  eth.result = .ok ∧ eth.pkt.ethProto = ethPIp ∧ ip.result = .ok ∧
    (parseL4 frame ip.cur ip.pkt).result = .ok

/-- The EtherType behind the VLAN tags is that of ARP. -/
def IsArp (frame : Frame) : Prop :=
  (parseEth frame ⟨0, 0⟩ (.init frame)).pkt.ethProto = ethPArp

/-- The service entry a frame finds. -/
def serviceFor (c : ConfigMaps) (frame : Frame) : Option ServiceVal :=
  if reachesLookup frame then
    c.activeConfig.bind fun active =>
      slotLookup c active.activeSlot .serviceMap (serviceKey 32 (parsedPacket frame).dstIp)
  else none

/-- The id a frame is counted under, zero for a frame of no service. -/
def ownerOf (c : ConfigMaps) (frame : Frame) : UInt32 :=
  ((serviceFor c frame).map (·.serviceId)).getD 0

/-- A packet record of a frame, assigned to a service. -/
structure PktMeta.Of (pkt : PktMeta) (frame : Frame) (owner : UInt32) : Prop where
  assigned : pkt.serviceId = owner
  length : pkt.frameLen = (PktMeta.init frame).frameLen

/-- A packet record of a frame that reached an enabled service. -/
structure PktMeta.Served (pkt : PktMeta) (c : ConfigMaps) (frame : Frame) (owner : UInt32) : Prop
    extends pkt.Of frame owner where
  ipv4 : pkt.ethProto = ethPIp
  enabled : ∃ service, serviceFor c frame = some service ∧ service.serviceId = owner ∧
    service.enabled ≠ 0

variable {c : ConfigMaps} {pkt : PktMeta}

theorem PktMeta.Served.withRule {frame : Frame} {owner : UInt32} (served : pkt.Served c frame owner)
    (idx : UInt8) : { pkt with ruleIdx := idx }.Served c frame owner :=
  ⟨⟨served.assigned, served.length⟩, served.ipv4, served.enabled⟩

def slotLimiter (c : ConfigMaps) (slot : UInt32) : BucketMap → UInt32 → Option Limiter
  | .svcRlState, id => (slotLookup c slot .svcRlConfigMap id).map svcLimiter
  | .vipCeilingState, id => (slotLookup c slot .vipConfigMap id).map vipLimiter
  | .serviceIngressCapState, id => (slotLookup c slot .fairConfigMap id).map fairCapLimiter
  | .svcCommittedState, id => (slotLookup c slot .fairConfigMap id).map fairCommittedLimiter
  | .svcBurstState, id => (slotLookup c slot .fairConfigMap id).map fairBurstLimiter
  | .nodeBurstState, _ => (c.fairNodeConfig slot).map fairNodeLimiter

def limiterOf (c : ConfigMaps) (map : BucketMap) (key : UInt32) : Option Limiter :=
  c.activeConfig.bind fun active => slotLimiter c active.activeSlot map key

theorem limiterOf_of_active {slot : UInt32} (at' : ActiveSlot c slot) (map : BucketMap)
    (key : UInt32) : limiterOf c map key = slotLimiter c slot map key := by
  obtain ⟨active, read, rfl⟩ := at'
  rw [limiterOf, read, Option.bind_some]

/-- What can be left to do for a packet of a service, from a stage on. -/
inductive Staged (c : ConfigMaps) (frame : Frame) (owner : UInt32) :
    Stage → PacketProg Verdict → Prop where
  | look {stage : Stage} {q : PacketCall} {next : q.Answer → PacketProg Verdict}
      (looks : ¬ q.Plain)
      (rest : ∀ k : Kernel, k.config = c →
        Staged c frame owner (stage.enter q) (next (q.exec k).1)) :
      Staged c frame owner stage (.call q next)
  | control {stage : Stage} {next : Option UInt32 → PacketProg Verdict}
      (rest : ∀ answer, Staged c frame owner stage (next answer)) :
      Staged c frame owner stage (.call .nodeControl next)
  | falsePositive {stage : Stage} {bloom : BloomFpStage} {next : Unit → PacketProg Verdict}
      (rest : Staged c frame owner stage (next ())) :
      Staged c frame owner stage (.call (.bloomFpAdd bloom) next)
  | bucket {stage : Stage} {l : Limiter} {map : BucketMap} {pkt : PktMeta} {len : UInt64}
      {next : Option Bool → PacketProg Verdict} (ofService : map ≠ .nodeBurstState)
      (limited : limiterOf c map owner = some l)
      (served : pkt.Served c frame owner) (full : next none = recordDrop pkt .mapError)
      (rest : ∀ admitted, Staged c frame owner (stage.enter (.bucketLookup map owner))
        (next (some admitted))) :
      Staged c frame owner stage (l.bucketAdmit map owner len >>= next)
  | node {config : FairNodeConfig} {pkt : PktMeta} {len : UInt64}
      {next : Option Bool → PacketProg Verdict}
      (limited : limiterOf c .nodeBurstState 0 = some (fairNodeLimiter config))
      (served : pkt.Served c frame owner)
      (missing : next none = recordDrop pkt .mapError)
      (refused : next (some false) = recordDrop pkt .congestionDrop)
      (passed : next (some true) = redirectOut frame pkt) :
      Staged c frame owner .node (fairNodeAdmit config len >>= next)
  | drop {stage : Stage} {pkt : PktMeta} {reason : DropReason} (owned : pkt.Of frame owner)
      (located : reason = .mapError → Configured c owner → stage.limits = false) :
      Staged c frame owner stage (recordDrop pkt reason)
  | out {stage : Stage} {pkt : PktMeta} (served : pkt.Served c frame owner) :
      Staged c frame owner stage (redirectOut frame pkt)
  | arp {stage : Stage} (isArp : IsArp frame) :
      Staged c frame owner stage
        (redirectOut frame (parseEth frame ⟨0, 0⟩ (.init frame)).pkt)
  | bypass {stage : Stage} {pkt : PktMeta}
      (length : pkt.frameLen = (PktMeta.init frame).frameLen) :
      Staged c frame owner stage (redirectOutBypass pkt)

/-! ## The stages of an enabled service -/

section Stages

variable {c : ConfigMaps} {frame : Frame} {owner : UInt32} {slot : UInt32} {stage : Stage}
  {pkt : PktMeta} {o : Outer}

theorem staged_outer {f : Option MapId → PacketProg Verdict} (absent : c.outer o slot = none →
      Staged c frame owner (stage.enter (.outer o slot)) (f none))
    (present : ∀ id, c.outer o slot = some id →
      Staged c frame owner (stage.enter (.outer o slot)) (f (some id))) :
    Staged c frame owner stage (ask (.outer o slot) >>= f) := by
  refine .look id ?_
  rintro k rfl
  show Staged _ _ _ _ (f (k.config.outer o slot))
  cases found : k.config.outer o slot with
  | none => exact absent found
  | some id => exact present id found

theorem staged_inner {id : MapId} {key : o.Key} {f : Option o.Val → PacketProg Verdict}
    (installed : c.outer o slot = some id)
    (rest : ∀ v?, slotLookup c slot o key = v? → Staged c frame owner stage (f v?)) :
    Staged c frame owner stage (ask (.inner o id key) >>= f) := by
  refine .look (fun plain => plain) ?_
  rintro k rfl
  refine rest _ ?_
  rw [slotLookup, installed, Option.bind_some]
  rfl

theorem staged_drop (reason : DropReason) (served : pkt.Served c frame owner)
    (elsewhere : reason ≠ .mapError ∨ stage.limits = false) :
    Staged c frame owner stage (recordDrop pkt reason) := by
  refine .drop served.toOf fun error _ => ?_
  exact elsewhere.resolve_left fun other => other error

theorem staged_hit {key : o.Key} {find : Option MapId → PacketProg (Option Bool)}
    {f : Option Bool → PacketProg Verdict} (unmapped : find none = .ret none)
    (mapped : ∀ inner, find (some inner) =
      ask (.inner o inner key) >>= fun present => .ret (some present.isSome))
    (absent : Staged c frame owner (stage.enter (.outer o slot)) (f none))
    (answered : ∀ hit, Staged c frame owner (stage.enter (.outer o slot)) (f (some hit))) :
    Staged c frame owner stage ((ask (.outer o slot) >>= find) >>= f) := by
  rw [bind_assoc]
  refine staged_outer (fun _ => unmapped ▸ absent) fun inner installed => ?_
  rw [mapped, bind_assoc]
  exact staged_inner installed fun v? _ => answered v?.isSome

theorem staged_fairConfigLookup {f : Option FairConfig → PacketProg Verdict}
    (absent : slotLookup c slot .fairConfigMap owner = none →
      Staged c frame owner (stage.enter (.outer .fairConfigMap slot)) (f none))
    (present : ∀ config, slotLookup c slot .fairConfigMap owner = some config →
      Staged c frame owner (stage.enter (.outer .fairConfigMap slot)) (f (some config))) :
    Staged c frame owner stage (fairConfigLookup slot owner >>= f) := by
  refine staged_outer (f := fun inner? => _ >>= f) ?_ ?_
  · intro missing
    refine absent ?_
    rw [slotLookup, missing]
    rfl
  · intro inner installed
    refine staged_inner (o := .fairConfigMap) (f := f) installed ?_
    intro config? found
    cases config? with
    | none => exact absent found
    | some config => exact present config found

section

variable (at' : ActiveSlot c slot)
include at'

theorem limiterOf_fairConfig {id : UInt32} {config : FairConfig}
    (found : slotLookup c slot .fairConfigMap id = some config) :
    limiterOf c .serviceIngressCapState id = some (fairCapLimiter config) ∧
      limiterOf c .svcCommittedState id = some (fairCommittedLimiter config) ∧
      limiterOf c .svcBurstState id = some (fairBurstLimiter config) := by
  simp only [limiterOf_of_active at', slotLimiter, found, Option.map_some, and_self]

variable (served : pkt.Served c frame owner)
include served

theorem fairAdmitStage_staged (capped : stage ≠ .lookup) :
    Staged c frame owner stage (fairAdmitStage frame pkt slot) := by
  have entered : stage.enter (.outer .fairConfigMap slot) = .committed := if_neg capped
  unfold fairAdmitStage
  rw [served.assigned]
  refine staged_fairConfigLookup ?_ fun config found => ?_
  · intro missing
    refine .drop served.toOf fun _ configured => ?_
    have present := (configured slot at').1
    rw [missing] at present
    cases present
  rw [entered]
  obtain ⟨_, ofCommitted, ofBurst⟩ := limiterOf_fairConfig at' found
  show Staged _ _ _ _ (fairCommittedAdmit config pkt _ >>= _)
  rw [fairCommittedAdmit, served.assigned]
  refine .bucket (by decide) ofCommitted served rfl fun committed => ?_
  cases committed with
  | true => exact .out served
  | false =>
    show Staged _ _ _ _ (fairBurstAdmit config pkt _ >>= _)
    rw [fairBurstAdmit, served.assigned]
    refine .bucket (by decide) ofBurst served rfl fun burst => ?_
    cases burst with
    | false => exact staged_drop _ served (.inl (by decide))
    | true =>
      refine .look (fun plain => plain) ?_
      rintro k rfl
      show Staged _ _ _ .node _
      dsimp only [PacketCall.exec]
      cases read : k.config.fairNodeConfig slot with
      | none => exact staged_drop _ served (.inr rfl)
      | some node =>
        refine .node ?_ served rfl rfl rfl
        rw [limiterOf_of_active at', slotLimiter, read, Option.map_some]

theorem admitSelected_staged : Staged c frame owner stage (admitSelected frame pkt slot) := by
  unfold admitSelected
  rw [served.assigned]
  refine staged_outer (o := .svcRlConfigMap) (f := fun inner? => _ >>= _) ?_ ?_
  · intro missing
    refine .drop served.toOf fun _ configured => ?_
    have present := (configured slot at').2
    rw [missing] at present
    cases present
  · intro rates installed
    refine staged_inner (o := .svcRlConfigMap) (f := fun config? => _ >>= _) installed ?_
    intro config? found
    have onward : Staged c frame owner .rateLimit (fairAdmitStage frame pkt slot) :=
      fairAdmitStage_staged at' served (by decide)
    cases config? with
    | none => exact onward
    | some config =>
      show Staged _ _ _ _ ((if _ then _ else _) >>= _)
      split
      · refine .bucket (by decide) ?_ served rfl fun admitted => ?_
        · rw [limiterOf_of_active at', slotLimiter, found, Option.map_some]
        cases admitted with
        | false => exact staged_drop _ served (.inl (by decide))
        | true => exact onward
      · exact onward

theorem allowRuleStage_staged : Staged c frame owner stage (allowRuleStage frame pkt slot) := by
  unfold allowRuleStage selectRule
  rw [bind_assoc]
  refine staged_outer (fun _ => staged_drop .mapError (served.withRule _) (.inr rfl))
    fun inner installed => ?_
  dsimp only
  rw [bind_assoc]
  refine staged_inner (o := .ruleBlockMap) installed fun block? _ => ?_
  cases block? with
  | none => exact staged_drop .notAllowed (served.withRule _) (.inl (by decide))
  | some block =>
    dsimp only
    cases matchingRule block pkt with
    | none => exact staged_drop .notAllowed (served.withRule _) (.inl (by decide))
    | some rule => exact admitSelected_staged at' (served.withRule _)

end

variable {consulted : Bool} {service : ServiceVal}

theorem staged_falsePositive {p : PacketProg Verdict} {bloom : BloomFpStage}
    (rest : Staged c frame owner stage p) :
    Staged c frame owner stage
      (Prog.when (consulted = true) (ask (.bloomFpAdd bloom)) >>= fun _ => p) := by
  cases consulted with
  | false => exact rest
  | true => exact .falsePositive rest

section

variable (at' : ActiveSlot c slot) (served : pkt.Served c frame owner)
include at' served

theorem globalTrieStage_staged (unlimited : stage.limits = false) :
    Staged c frame owner stage (globalTrieStage frame pkt slot consulted) := by
  unfold globalTrieStage
  refine staged_hit rfl (fun _ => rfl) (staged_drop _ served (.inr unlimited)) ?_
  intro hit
  cases hit with
  | true => exact staged_drop _ served (.inl (by decide))
  | false => exact staged_falsePositive (allowRuleStage_staged at' served)

theorem globalDenyStage_staged : Staged c frame owner stage (globalDenyStage frame pkt slot) := by
  have allowed : Staged c frame owner .deny (allowRuleStage frame pkt slot) :=
    allowRuleStage_staged at' served
  refine .look (fun plain => plain) fun k _ => ?_
  show Staged _ _ _ .deny _
  dsimp only [PacketCall.exec]
  cases k.config.gblMeta slot with
  | none => exact staged_drop _ served (.inr rfl)
  | some globalMeta =>
    show Staged _ _ _ _ (if _ then _ else if _ then _ else _)
    split
    · exact allowed
    split
    · exact globalTrieStage_staged at' served rfl
    refine staged_hit rfl (fun _ => rfl) (staged_drop _ served (.inr rfl)) ?_
    intro hit
    cases hit with
    | false => exact allowed
    | true => exact globalTrieStage_staged at' served rfl

theorem denyFilterStage_staged : Staged c frame owner stage (denyFilterStage frame pkt slot) := by
  unfold denyFilterStage
  split
  · exact staged_drop _ served (.inl (by decide))
  split
  · exact staged_drop _ served (.inl (by decide))
  split
  · refine staged_outer (fun _ => staged_drop _ served (.inr rfl)) fun inner installed => ?_
    refine staged_inner (o := .udpBlockedPortBitmap) installed fun word? _ => ?_
    cases word? with
    | none => exact staged_drop _ served (.inr rfl)
    | some word =>
      show Staged _ _ _ _ (if _ then _ else _)
      split
      · exact staged_drop _ served (.inl (by decide))
      · exact globalDenyStage_staged at' served
  · exact globalDenyStage_staged at' served

theorem vipStage_staged : Staged c frame owner stage (vipStage frame pkt slot) := by
  unfold vipStage
  obtain rfl := served.assigned
  refine staged_outer (o := .vipConfigMap) (f := fun inner? => _ >>= _)
    (fun _ => staged_drop _ served (.inr rfl)) fun inner installed => ?_
  refine staged_inner (o := .vipConfigMap) installed fun config? found => ?_
  cases config? with
  | none => exact staged_drop _ served (.inr rfl)
  | some config =>
    show Staged _ _ _ _ (if _ then vipBucketAdmit config pkt _ >>= _ else _)
    split
    next limited =>
      rw [vipBucketAdmit, if_pos limited]
      refine .bucket (by decide) ?_ served rfl fun admitted => ?_
      · rw [limiterOf_of_active at', slotLimiter, found, Option.map_some]
      cases admitted with
      | false => exact staged_drop _ (served.withRule _) (.inl (by decide))
      | true => exact .out (served.withRule _)
    · exact denyFilterStage_staged at' served

theorem whitelistTrieStage_staged :
    Staged c frame owner stage (whitelistTrieStage frame pkt slot consulted) := by
  refine staged_hit rfl (fun _ => rfl) (staged_drop _ served (.inr rfl)) ?_
  intro hit
  cases hit with
  | true => exact vipStage_staged at' served
  | false => exact staged_falsePositive (denyFilterStage_staged at' served)

theorem whitelistStage_staged :
    Staged c frame owner stage (whitelistStage frame pkt slot service) := by
  unfold whitelistStage
  split
  · exact denyFilterStage_staged at' served
  split
  · exact whitelistTrieStage_staged at' served
  refine staged_hit rfl (fun _ => rfl) (staged_drop _ served (.inr rfl)) ?_
  intro hit
  cases hit with
  | false => exact denyFilterStage_staged at' served
  | true => exact whitelistTrieStage_staged at' served

end

/-- A drop of the ingress cap ends the packet: the stages after it are not entered. -/
theorem recordDrop_cuts (dropped : PktMeta) (reason : DropReason) :
    (recordDrop dropped reason >>= fun v => Prog.ret (some v)) >>= (fun
      | some verdict => .ret verdict
      | none => whitelistStage frame pkt slot service) = recordDrop dropped reason := by
  rw [bind_assoc]
  exact bind_ret_self _

theorem serviceStages_staged (at' : ActiveSlot c slot) (served : pkt.Served c frame owner) :
    Staged c frame owner .lookup (serviceStages frame pkt slot service) := by
  unfold serviceStages ingressCapStage
  obtain rfl := served.assigned
  rw [bind_assoc]
  refine staged_fairConfigLookup ?_ fun config found => ?_
  · intro missing
    refine (recordDrop_cuts pkt .mapError).symm ▸ .drop served.toOf fun _ configured => ?_
    have present := (configured slot at').1
    rw [missing] at present
    cases present
  show Staged _ _ _ .ingressCap ((fairCapAdmit config pkt _ >>= _) >>= _)
  rw [bind_assoc, fairCapAdmit]
  have limited := (limiterOf_fairConfig at' found).1
  refine .bucket (by decide) limited served (recordDrop_cuts pkt .mapError) fun admitted => ?_
  cases admitted with
  | false =>
    have stopped := served.withRule ruleIdxNone
    exact (recordDrop_cuts _ .ingressCapDrop).symm ▸ staged_drop _ stopped (.inl (by decide))
  | true => exact whitelistStage_staged at' served

end Stages

/-! ## The program -/

section Parsing

variable {frame : Frame} {owner : UInt32} {cur : HdrCursor} {pkt : PktMeta}

theorem parseVlan_of (left : Nat) (owned : pkt.Of frame owner) :
    (parseVlan frame left cur pkt).pkt.Of frame owner := by
  induction left generalizing cur pkt with
  | zero => exact owned
  | succ left ih =>
    unfold parseVlan
    split
    · split
      · exact owned
      · exact ih ⟨owned.assigned, owned.length⟩
    · exact owned

theorem parseEth_of (owned : pkt.Of frame owner) : (parseEth frame cur pkt).pkt.Of frame owner := by
  unfold parseEth
  split
  · exact owned
  · exact parseVlan_of 2 ⟨owned.assigned, owned.length⟩

theorem parseIpv4_of (owned : pkt.Of frame owner) :
    (parseIpv4 frame cur pkt).pkt.Of frame owner := by
  unfold parseIpv4
  split
  · exact owned
  · dsimp only
    split_ifs <;> exact ⟨owned.assigned, owned.length⟩

theorem parseL4_of (owned : pkt.Of frame owner) : (parseL4 frame cur pkt).pkt.Of frame owner := by
  unfold parseL4
  split_ifs
  · split <;> exact ⟨owned.assigned, owned.length⟩
  · split <;> exact ⟨owned.assigned, owned.length⟩
  · split <;> exact ⟨owned.assigned, owned.length⟩
  · exact owned

theorem init_of (frame : Frame) : (PktMeta.init frame).Of frame 0 := ⟨rfl, rfl⟩

end Parsing

section Program

variable {c : ConfigMaps} {frame : Frame}

theorem staged_unserved {reason : DropReason} (owned : pkt.Of frame 0)
    (missing : serviceFor c frame = none) :
    Staged c frame (ownerOf c frame) .lookup (recordDrop pkt reason) := by
  have none : ownerOf c frame = 0 := by simp [ownerOf, missing]
  rw [none]
  exact .drop owned fun _ _ => rfl

theorem serviceLookupRedirect_staged (reaches : reachesLookup frame = true)
    (owned : (parsedPacket frame).Of frame 0) (ipv4 : (parsedPacket frame).ethProto = ethPIp) :
    Staged c frame (ownerOf c frame) .lookup (serviceLookupRedirect frame (parsedPacket frame)) := by
  refine .look (fun plain => plain) ?_
  rintro k rfl
  show Staged _ _ _ .lookup _
  dsimp only [PacketCall.exec]
  cases active : k.config.activeConfig with
  | none =>
    refine staged_unserved owned ?_
    rw [serviceFor, if_pos reaches, active, Option.bind_none]
  | some config =>
    have entry : serviceFor k.config frame =
        slotLookup k.config config.activeSlot .serviceMap
          (serviceKey 32 (parsedPacket frame).dstIp) := by
      rw [serviceFor, if_pos reaches, active, Option.bind_some]
    refine staged_outer (o := .serviceMap) ?_ fun inner installed => ?_
    · intro unmapped
      refine staged_unserved owned ?_
      rw [entry, slotLookup, unmapped, Option.bind_none]
    refine staged_inner (o := .serviceMap) installed fun service? found => ?_
    rw [← entry] at found
    cases service? with
    | none => exact staged_unserved owned found
    | some service =>
      have assigned : service.serviceId = ownerOf k.config frame := by
        rw [ownerOf, found]
        rfl
      show Staged _ _ _ .lookup (if _ then _ else _)
      split
      · exact .drop ⟨assigned, owned.length⟩ fun _ _ => rfl
      next enabled =>
        exact serviceStages_staged ⟨config, active, rfl⟩
          ⟨⟨assigned, owned.length⟩, ipv4, service, found, assigned, enabled⟩

theorem serviceFor_none (missed : reachesLookup frame = false) : serviceFor c frame = none := by
  rw [serviceFor, missed]
  rfl

theorem ipv4Stage_staged {eth : Parsed} (parses : parseEth frame ⟨0, 0⟩ (.init frame) = eth)
    (parsed : eth.result = .ok) (ipv4 : eth.pkt.ethProto = ethPIp) :
    Staged c frame (ownerOf c frame) .lookup (ipv4Stage frame eth.cur eth.pkt) := by
  have ethOf : eth.pkt.Of frame 0 := parses ▸ parseEth_of (init_of frame)
  have ipOf : (parseIpv4 frame eth.cur eth.pkt).pkt.Of frame 0 := parseIpv4_of ethOf
  unfold ipv4Stage
  dsimp only
  split
  next fragment =>
    exact staged_unserved ipOf (serviceFor_none (by simp [reachesLookup, parses, fragment]))
  split
  next malformed =>
    exact staged_unserved ipOf (serviceFor_none (by simp [reachesLookup, parses, malformed]))
  next ipParsed =>
  split
  next malformed =>
    exact staged_unserved (parseL4_of ipOf)
      (serviceFor_none (by simp [reachesLookup, parses, malformed]))
  next l4Parsed =>
  -- all the headers are there: the packet is the one the service lookup sees
  rw [ne_eq, not_not] at ipParsed l4Parsed
  have reaches : reachesLookup frame = true := by
    simp [reachesLookup, parses, parsed, ipv4, ipParsed, l4Parsed]
  have packet : (parseL4 frame (parseIpv4 frame eth.cur eth.pkt).cur
      (parseIpv4 frame eth.cur eth.pkt).pkt).pkt = parsedPacket frame := by
    rw [parsedPacket, parses]
  have packetOf : (parsedPacket frame).Of frame 0 := packet ▸ parseL4_of ipOf
  have isIpv4 : (parsedPacket frame).ethProto = ethPIp := by
    rw [← packet, parseL4_ethProto, parseIpv4_ethProto, ipv4]
  rw [packet]
  refine .control fun bypass? => ?_
  have onward := serviceLookupRedirect_staged (c := c) reaches packetOf isIpv4
  cases bypass? with
  | none => exact onward
  | some bypass =>
    show Staged _ _ _ _ (if (bypass != 0) = true then _ else _)
    split
    · exact .bypass packetOf.length
    · exact onward

/-- Every frame goes through the stages, whatever the configuration. -/
theorem xdpGateway_staged (c : ConfigMaps) (frame : Frame) :
    Staged c frame (ownerOf c frame) .lookup (xdpGateway frame) := by
  have ethOf : (parseEth frame ⟨0, 0⟩ (.init frame)).pkt.Of frame 0 := parseEth_of (init_of frame)
  unfold xdpGateway
  dsimp only
  split
  next failed => exact staged_unserved ethOf (serviceFor_none (by simp [reachesLookup, failed]))
  next parsed =>
  rw [ne_eq, not_not] at parsed
  split
  next ipv6 =>
    exact staged_unserved ethOf
      (serviceFor_none (by simp [reachesLookup, ipv6, ethPIpv6, ethPIp]))
  split
  next isArp => exact .arp isArp
  split
  next ipv4 => exact ipv4Stage_staged rfl parsed ipv4
  next other => exact staged_unserved ethOf (serviceFor_none (by simp [reachesLookup, other]))

end Program

end ScrubbingGateway.DataPlane
