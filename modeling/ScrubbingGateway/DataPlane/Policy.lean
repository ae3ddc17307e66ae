import ScrubbingGateway.DataPlane.Gateway

/-!
# What a redirected packet has passed

The policy a packet has to meet, read off the maps and buckets before it came in, and the proof
that the packet program redirects an IPv4 frame only when it is met.
-/

namespace ScrubbingGateway.DataPlane

open Prog

/-- The value the configuration holds for a key in a slot, if the slot has the map at all. -/
def slotLookup (k : ConfigMaps) (slot : UInt32) (o : Outer) (key : o.Key) : Option o.Val :=
  (k.outer o slot).bind fun id => (k.inner o)[id]?.bind fun t => Inner.find o t key

namespace Runtime

def cpuCount (r : Runtime) : UInt32 := if r.rlNcpus = 0 then 1 else r.rlNcpus

def noRefill (r : Runtime) : Bool := r.rateLimitConfig.any (· != 0)

/-- The bucket of a key admits a packet at a time; a key without a bucket needs room for one. -/
def admits (r : Runtime) (l : Limiter) (map : BucketMap) (key : UInt32) (pktLen now : UInt64) :
    Bool :=
  match (r.buckets map).lookup key with
  | none => r.bucketRoom map key && (l.consume (l.reset now r.cpuCount r.noRefill) pktLen).1
  | some bucket => (l.consume (l.ready bucket now r.cpuCount r.noRefill) pktLen).1

/-- The bucket admits the packet at a reading of the clock, counted from the packet's first. -/
def AdmitsAt (r : Runtime) (reading : Nat) (l : Limiter) (map : BucketMap) (key : UInt32)
    (pktLen : UInt64) : Prop :=
  r.admits l map key pktLen (r.clock reading) = true

end Runtime

/-! ## The policy -/

section Policy

variable (k : Kernel) (frame : Frame) (pkt : PktMeta) (slot : UInt32)

def pktLen : UInt64 := UInt64.ofNat frame.length

/-- The ingress cap, the first bucket that is asked, admits the packet. -/
def CapAdmits : Prop :=
  ∃ config, slotLookup k.config slot .fairConfigMap pkt.serviceId = some config ∧
    k.runtime.AdmitsAt 0 (fairCapLimiter config) .serviceIngressCapState pkt.serviceId
      (pktLen frame)

def NexthopResolved : Prop :=
  ∃ nh, k.runtime.nexthopMap.lookup pkt.serviceId = some nh ∧ nh.resolved ≠ 0

/-- If the whitelist is active, its bloom filter is there or not needed. Unless the filter misses, so
is the trie, and so are the limits of a source that the trie holds. -/
def WhitelistThere (service : ServiceVal) : Prop :=
  service.wlFlags &&& wlActive ≠ 0 →
    (service.wlFlags &&& wlHasBroad = 0 → (k.config.outer .whitelistBloom slot).isSome) ∧
      (service.wlFlags &&& wlHasBroad = 0 ∧
          slotLookup k.config slot .whitelistBloom (wlBloomKey pkt.serviceId pkt.srcIp) = none ∨
        (k.config.outer .whitelistLpm slot).isSome ∧
          ((slotLookup k.config slot .whitelistLpm (wlLpmKey 64 pkt.serviceId pkt.srcIp)).isSome →
            (slotLookup k.config slot .vipConfigMap pkt.serviceId).isSome))

/-- The source is whitelisted for the service, and the limits of the whitelist, whose bucket is asked
second, admit the packet. -/
def WhitelistAdmits (service : ServiceVal) : Prop :=
  service.wlFlags &&& wlActive ≠ 0 ∧
    (slotLookup k.config slot .whitelistLpm (wlLpmKey 64 pkt.serviceId pkt.srcIp)).isSome ∧
    ∃ config, slotLookup k.config slot .vipConfigMap pkt.serviceId = some config ∧
      limitsSet config.flags = true ∧
      k.runtime.AdmitsAt 1 (vipLimiter config) .vipCeilingState pkt.serviceId (pktLen frame)

/-- The bit of a UDP source port is clear in the bitmap of the slot. -/
def PortAllowed : Prop :=
  pkt.ipProto = ipprotoUdp →
    ∃ word, slotLookup k.config slot .udpBlockedPortBitmap (pkt.sport >>> 6).toUInt32 = some word ∧
      portBlocked word pkt.sport = false

/-- The global deny list of the slot does not cover the source: if it is active, its bloom filter is
there or not needed, and the filter misses, or the trie is there and has no match. -/
def NotDenied : Prop :=
  ∃ globalMeta, k.config.gblMeta slot = some globalMeta ∧
    (globalMeta.flags &&& gblActive ≠ 0 →
      (globalMeta.flags &&& gblHasBroad = 0 → (k.config.outer .globalBlacklistBloom slot).isSome) ∧
        (globalMeta.flags &&& gblHasBroad = 0 ∧
            slotLookup k.config slot .globalBlacklistBloom (pkt.srcIp &&& src24Mask) = none ∨
          (k.config.outer .globalBlacklistLpm slot).isSome ∧
            slotLookup k.config slot .globalBlacklistLpm (blLpmKey 32 pkt.srcIp) = none))

def RuleAllows : Prop :=
  ∃ block, slotLookup k.config slot .ruleBlockMap pkt.serviceId = some block ∧
    ∃ i : Fin ruleMax, i.val < block.ruleCount.toNat ∧
      (block.rules i).flags &&& ruleEnabled ≠ 0 ∧ ruleMatches (block.rules i) pkt = true

def rateLimited : Bool :=
  (slotLookup k.config slot .svcRlConfigMap pkt.serviceId).any (limitsSet ·.flags)

/-- The rate limit of the service, whose bucket is asked second, admits the packet, or the slot holds
no limit for it. -/
def RateAdmits : Prop :=
  (k.config.outer .svcRlConfigMap slot).isSome ∧
    ∀ config, slotLookup k.config slot .svcRlConfigMap pkt.serviceId = some config →
      limitsSet config.flags = true →
        k.runtime.AdmitsAt 1 (svcLimiter config) .svcRlState pkt.serviceId (pktLen frame)

/-- The committed bucket is asked after those of the cap and of the rate limit. -/
def committedReading : Nat := if rateLimited k pkt slot then 2 else 1

/-- The committed bucket admits the packet, or the burst bucket and the node bucket, which are asked
next, both do. -/
def FairAdmits (reading : Nat) : Prop :=
  ∃ config, slotLookup k.config slot .fairConfigMap pkt.serviceId = some config ∧
    (k.runtime.AdmitsAt reading (fairCommittedLimiter config) .svcCommittedState pkt.serviceId
        (pktLen frame) ∨
      k.runtime.AdmitsAt (reading + 1) (fairBurstLimiter config) .svcBurstState pkt.serviceId
          (pktLen frame) ∧
        ∃ node, k.config.fairNodeConfig slot = some node ∧
          ((k.runtime.buckets .nodeBurstState).lookup 0).isSome ∧
          k.runtime.AdmitsAt (reading + 2) (fairNodeLimiter node) .nodeBurstState 0 (pktLen frame))

/-- The packet passes every filter of a source that is not whitelisted. -/
structure PassesFilters : Prop where
  sourcePort : ¬ (pkt.ipProto = ipprotoUdp ∧ ampPortHardcoded pkt.sport = true)
  notBogon : bogonSrc pkt.srcIp = false
  portAllowed : PortAllowed k pkt slot
  notDenied : NotDenied k pkt slot
  ruleAllows : RuleAllows k pkt slot
  rateAdmits : RateAdmits k frame pkt slot
  fairAdmits : FairAdmits k frame pkt slot (committedReading k pkt slot)

/-- What an IPv4 packet has to meet to be forwarded. -/
def Forwardable : Prop :=
  ∃ active service, k.config.activeConfig = some active ∧
    slotLookup k.config active.activeSlot .serviceMap (serviceKey 32 pkt.dstIp) = some service ∧
    service.enabled ≠ 0 ∧
    let pkt := { pkt with serviceId := service.serviceId }
    CapAdmits k frame pkt active.activeSlot ∧ NexthopResolved k pkt ∧
      WhitelistThere k pkt active.activeSlot service ∧
      (WhitelistAdmits k frame pkt active.activeSlot service ∨
        PassesFilters k frame pkt active.activeSlot)

end Policy

/-! ## What a packet leaves alone while it runs -/

/-- The kernel later in the run of a packet: buckets of the given maps may have changed, the clock
has been read so often, and nothing else the policy reads has changed. -/
structure Later (before : Kernel) (used : List BucketMap) (reads : Nat) (now : Kernel) : Prop where
  config : now.config = before.config
  ncpus : now.runtime.rlNcpus = before.runtime.rlNcpus
  rateLimitConfig : now.runtime.rateLimitConfig = before.runtime.rateLimitConfig
  nexthopMap : now.runtime.nexthopMap = before.runtime.nexthopMap
  buckets : ∀ map ∉ used, now.runtime.buckets map = before.runtime.buckets map
  clock : ∀ i, now.runtime.clock i = before.runtime.clock (i + reads)

variable {map : BucketMap} {len : UInt64} {key : UInt32} {l : Limiter}

namespace Later

variable {before now : Kernel} {used : List BucketMap} {reads : Nat}

theorem refl (k : Kernel) (used : List BucketMap) : Later k used 0 k :=
  ⟨rfl, rfl, rfl, rfl, fun _ _ => rfl, fun _ => rfl⟩

variable (later : Later before used reads now)
include later

theorem tick (map : BucketMap) :
    Later before (map :: used) (reads + 1) (now.withRuntime now.runtime.tick) := by
  refine ⟨later.config, later.ncpus, later.rateLimitConfig, later.nexthopMap, ?_, ?_⟩
  · intro other unused
    exact later.buckets other fun member => unused (List.mem_cons_of_mem _ member)
  · intro i
    show now.runtime.clock (i + 1) = _
    rw [later.clock, Nat.add_assoc, Nat.add_comm 1]

theorem setBucket (member : map ∈ used) (key : UInt32) (bucket : RlBucket) :
    Later before used reads (now.withRuntime (now.runtime.setBucket map key bucket)) := by
  refine ⟨later.config, later.ncpus, later.rateLimitConfig, later.nexthopMap, ?_, later.clock⟩
  intro other unused
  show Function.update now.runtime.buckets map _ other = _
  have other_ne : other ≠ map := fun same => unused (same ▸ member)
  rw [Function.update_of_ne other_ne, later.buckets other unused]

/-- A map that is left alone may as well have been asked. -/
theorem weaken (map : BucketMap) : Later before (map :: used) reads now := by
  refine { later with buckets := ?_ }
  intro other unused
  exact later.buckets other fun member => unused (List.mem_cons_of_mem _ member)

theorem addBloomFp (stage : BloomFpStage) :
    Later before used reads (now.withRuntime (now.runtime.addBloomFp stage)) :=
  ⟨later.config, later.ncpus, later.rateLimitConfig, later.nexthopMap, later.buckets, later.clock⟩

theorem admits (unused : map ∉ used)
    (admitted : now.runtime.admits l map key len (now.runtime.clock 0) = true) :
    before.runtime.AdmitsAt reads l map key len := by
  simp only [Runtime.AdmitsAt, Runtime.admits, Runtime.bucketRoom, Runtime.cpuCount,
    Runtime.noRefill, later.buckets map unused, later.ncpus, later.rateLimitConfig, later.clock,
    Nat.zero_add] at admitted ⊢
  exact admitted

end Later

/-! ## Rules for the calls of the program -/

variable {Forwards : Prop} {used : List BucketMap}

section Calls

variable {α : Type} {k : Kernel} {Post : α → Kernel → Prop}

theorem runs_ask {Fails : Prop} {c : PacketCall} {f : c.Answer → PacketProg α}
    (answered : Runs packetMachine Fails Post (f (c.exec k).1) (c.exec k).2) :
    Runs packetMachine Fails Post (ask c >>= f) k :=
  answered

variable {slot : UInt32} {o : Outer}

theorem ends_outer {f : Option MapId → PacketProg α}
    (absent : k.config.outer o slot = none → Ends packetMachine Post (f none) k)
    (present : ∀ id, k.config.outer o slot = some id → Ends packetMachine Post (f (some id)) k) :
    Ends packetMachine Post (ask (.outer o slot) >>= f) k := by
  show Ends packetMachine Post (f (k.config.outer o slot)) k
  cases found : k.config.outer o slot with
  | none => exact absent found
  | some id => exact present id found

theorem ends_inner {id : MapId} {key : o.Key} {f : Option o.Val → PacketProg α}
    (installed : k.config.outer o slot = some id)
    (answered : ∀ v?, slotLookup k.config slot o key = v? → Ends packetMachine Post (f v?) k) :
    Ends packetMachine Post (ask (.inner o id key) >>= f) k := by
  refine answered _ ?_
  rw [slotLookup, installed, Option.bind_some]
  rfl

theorem ends_inner_last {id : MapId} {key : o.Key} {Post : Option o.Val → Kernel → Prop}
    (installed : k.config.outer o slot = some id)
    (answered : Post (slotLookup k.config slot o key) k) :
    Ends packetMachine Post (ask (.inner o id key)) k := by
  rw [slotLookup, installed, Option.bind_some] at answered
  exact answered

/-- A packet that is redirected has a property. -/
abbrev RedirectsIf (Passes : Prop) (p : PacketProg Verdict) (k : Kernel) : Prop :=
  Ends packetMachine (fun v _ => v.action = .redirect → Passes) p k

theorem recordDrop_ends {pkt : PktMeta} {reason : DropReason} :
    RedirectsIf Forwards (recordDrop pkt reason) k := by
  refine Runs.bind (Runs.of_forall fun _ _ => ?_)
  refine Runs.bind (Runs.of_forall fun _ _ => ?_)
  refine Runs.bind (Runs.of_forall fun _ _ => ?_)
  intro redirected
  cases redirected

theorem redirectOut_ends {frame : Frame} {pkt : PktMeta} (ipv4 : pkt.ethProto = ethPIp) :
    RedirectsIf (NexthopResolved k pkt) (redirectOut frame pkt) k := by
  have rewritten : Ends packetMachine
      (fun rewritten now => now = k ∧ (rewritten.isSome → NexthopResolved k pkt))
      (nexthopRewrite frame pkt) k := by
    simp only [nexthopRewrite, ipv4, ne_eq, not_true_eq_false, if_false]
    split
    · exact ⟨rfl, by intro some; cases some⟩
    · refine runs_ask ?_
      simp only [PacketCall.exec]
      cases found : k.runtime.nexthopMap.lookup pkt.serviceId with
      | none => exact ⟨rfl, by intro some; cases some⟩
      | some nh =>
        refine ⟨rfl, fun some => ⟨nh, found, ?_⟩⟩
        intro unresolved
        simp [unresolved] at some
  refine rewritten.seq ?_
  rintro (_ | nh?) now ⟨rfl, resolved⟩
  · exact recordDrop_ends
  · exact Runs.of_forall fun _ _ _ => resolved rfl

theorem rlCpuCount_bind {f : UInt32 → PacketProg α}
    (rest : Ends packetMachine Post (f k.runtime.cpuCount) k) :
    Ends packetMachine Post (rlCpuCount >>= f) k :=
  rest

theorem rlTestNoRefill_bind {f : Bool → PacketProg α}
    (rest : Ends packetMachine Post (f k.runtime.noRefill) k) :
    Ends packetMachine Post (rlTestNoRefill >>= f) k := by
  have answered : Ends packetMachine (fun noRefill now => now = k ∧ noRefill = k.runtime.noRefill)
      rlTestNoRefill k := by
    refine runs_ask ?_
    simp only [PacketCall.exec, Runtime.noRefill]
    cases k.runtime.rateLimitConfig with
    | none | some => exact ⟨rfl, rfl⟩
  refine answered.seq ?_
  rintro _ _ ⟨rfl, rfl⟩
  exact rest

variable {before : Kernel} {reads : Nat}

theorem bucketAdmit_ends (later : Later before used reads k) (unused : map ∉ used) :
    Ends packetMachine (fun admitted now => Later before (map :: used) (reads + 1) now ∧
        (admitted = some true → before.runtime.AdmitsAt reads l map key len))
      (l.bucketAdmit map key len) k := by
  refine rlCpuCount_bind (rlTestNoRefill_bind (runs_ask (runs_ask ?_)))
  have ticked := later.tick map
  have unmoved : (k.withRuntime k.runtime.tick).runtime.buckets = k.runtime.buckets := rfl
  simp only [PacketCall.exec, unmoved]
  cases found : (k.runtime.buckets map).lookup key with
  | none =>
    refine runs_ask ?_
    simp only [PacketCall.exec]
    split
    next room =>
      refine ⟨ticked.setBucket List.mem_cons_self key _, fun admitted => later.admits unused ?_⟩
      have room' : k.runtime.bucketRoom map key = true := room
      simp only [Runtime.admits, found, room', Bool.true_and]
      exact Option.some.inj admitted
    · exact ⟨ticked, by intro admitted; cases admitted⟩
  | some bucket =>
    refine runs_ask ⟨ticked.setBucket List.mem_cons_self key _, fun admitted =>
      later.admits unused ?_⟩
    simp only [Runtime.admits, found]
    exact Option.some.inj admitted

theorem fairNodeAdmit_ends {config : FairNodeConfig} (later : Later before used reads k)
    (unused : .nodeBurstState ∉ used) :
    Ends packetMachine (fun admitted now => Later before (.nodeBurstState :: used) (reads + 1) now ∧
        (admitted = some true →
          ((before.runtime.buckets .nodeBurstState).lookup 0).isSome ∧
          before.runtime.AdmitsAt reads (fairNodeLimiter config) .nodeBurstState 0 len))
      (fairNodeAdmit config len) k := by
  refine rlCpuCount_bind (rlTestNoRefill_bind (runs_ask (runs_ask ?_)))
  have ticked := later.tick .nodeBurstState
  have unmoved : (k.withRuntime k.runtime.tick).runtime.buckets = k.runtime.buckets := rfl
  simp only [PacketCall.exec, unmoved]
  cases found : (k.runtime.buckets .nodeBurstState).lookup 0 with
  | none => exact ⟨ticked, by intro admitted; cases admitted⟩
  | some bucket =>
    refine runs_ask ⟨ticked.setBucket List.mem_cons_self _ _, fun admitted =>
      ⟨?_, later.admits unused ?_⟩⟩
    · rw [← later.buckets _ unused, found]
      rfl
    · simp only [Runtime.admits, found]
      exact Option.some.inj admitted

theorem fairConfigLookup_bind {serviceId : UInt32} {f : Option FairConfig → PacketProg α}
    (absent : Ends packetMachine Post (f none) k)
    (present : ∀ config, slotLookup k.config slot .fairConfigMap serviceId = some config →
      Ends packetMachine Post (f (some config)) k) :
    Ends packetMachine Post (fairConfigLookup slot serviceId >>= f) k := by
  refine Runs.bind (ends_outer (fun _ => absent) fun id installed => ?_)
  refine ends_inner_last installed ?_
  cases found : slotLookup k.config slot .fairConfigMap serviceId with
  | none => exact absent
  | some config => exact present config found

end Calls

/-! ## The stages, from the last one back -/

section Stages

variable {before k : Kernel} {frame : Frame} {pkt : PktMeta} {slot : UInt32} {reads : Nat}

theorem redirectOut_later (later : Later before used reads k) (ipv4 : pkt.ethProto = ethPIp)
    (passed : NexthopResolved before pkt → Forwards) :
    RedirectsIf Forwards (redirectOut frame pkt) k := by
  refine (redirectOut_ends ipv4).mono ?_
  intro v _ resolved redirected
  obtain ⟨nh, found, isResolved⟩ := resolved redirected
  exact passed ⟨nh, later.nexthopMap ▸ found, isResolved⟩

theorem fairAdmitStage_ends
    (later : Later before [.svcRlState, .serviceIngressCapState] reads k)
    (ipv4 : pkt.ethProto = ethPIp) :
    RedirectsIf (NexthopResolved before pkt ∧ FairAdmits before frame pkt slot reads)
      (fairAdmitStage frame pkt slot) k := by
  refine fairConfigLookup_bind recordDrop_ends fun config found => ?_
  rw [later.config] at found
  refine (bucketAdmit_ends later (by decide)).seq ?_
  rintro (_ | _ | _) k ⟨later, admitted⟩
  · exact recordDrop_ends
  · -- not within the committed rate: the burst and the node bucket decide
    refine (bucketAdmit_ends later (by decide)).seq ?_
    rintro (_ | _ | _) k ⟨later, bursts⟩
    · exact recordDrop_ends
    · exact recordDrop_ends
    · refine runs_ask ?_
      simp only [PacketCall.exec]
      cases node : k.config.fairNodeConfig slot with
      | none => exact recordDrop_ends
      | some nodeConfig =>
        rw [later.config] at node
        refine (fairNodeAdmit_ends later (by decide)).seq ?_
        rintro (_ | _ | _) k ⟨later, fits⟩
        · exact recordDrop_ends
        · exact recordDrop_ends
        · exact redirectOut_later later ipv4 fun resolved =>
            ⟨resolved, config, found, Or.inr ⟨bursts rfl, nodeConfig, node, fits rfl⟩⟩
  · exact redirectOut_later later ipv4 fun resolved =>
      ⟨resolved, config, found, Or.inl (admitted rfl)⟩

theorem svcRlAdmit_ends (later : Later before [.serviceIngressCapState] 1 k) :
    Ends packetMachine (fun admitted now => admitted = some true →
        Later before [.svcRlState, .serviceIngressCapState] (committedReading before pkt slot) now ∧
          RateAdmits before frame pkt slot)
      (svcRlAdmit slot pkt.serviceId (pktLen frame)) k := by
  have unlimited (free : rateLimited before pkt slot = false) :
      Later before [.svcRlState, .serviceIngressCapState] (committedReading before pkt slot) k := by
    rw [committedReading, free]
    exact later.weaken .svcRlState
  refine ends_outer (fun _ admitted => nomatch admitted) fun id installed => ?_
  refine ends_inner installed fun config? found => ?_
  rw [later.config] at installed found
  have isInstalled : (before.config.outer .svcRlConfigMap slot).isSome := by rw [installed]; rfl
  cases config? with
  | none =>
    refine fun _ => ⟨unlimited (by rw [rateLimited, found]; rfl), isInstalled, ?_⟩
    intro config found'
    cases found.symm.trans found'
  | some config =>
    by_cases limits : limitsSet config.flags = true
    · simp only [limits, if_true]
      refine (bucketAdmit_ends later (by decide)).mono ?_
      rintro admitted now ⟨later, admits⟩ yes
      have limited : rateLimited before pkt slot = true := by
        rw [rateLimited, found]
        exact limits
      rw [committedReading, limited]
      refine ⟨later, isInstalled, ?_⟩
      intro config' found' _
      cases found.symm.trans found'
      exact admits yes
    · simp only [limits]
      have free : rateLimited before pkt slot = false := by
        rw [rateLimited, found]
        exact Bool.eq_false_iff.mpr limits
      refine fun _ => ⟨unlimited free, isInstalled, ?_⟩
      intro config' found' limits'
      cases found.symm.trans found'
      exact absurd limits' limits

theorem matchingRule_some {block : RuleBlock} {i : Fin ruleMax}
    (selected : matchingRule block pkt = some i) :
    i.val < block.ruleCount.toNat ∧ (block.rules i).flags &&& ruleEnabled ≠ 0 ∧
      ruleMatches (block.rules i) pkt = true := by
  have holds := List.find?_some selected
  simp only [Bool.and_eq_true, decide_eq_true_eq] at holds
  have enabled := holds.2
  simp only [ruleMatches, Bool.and_eq_true, decide_eq_true_eq] at enabled
  exact ⟨by omega, enabled.1.1, holds.2⟩

/-- What the allow stage and everything behind it ask of a packet. -/
def PassesAllow (k : Kernel) (frame : Frame) (pkt : PktMeta) (slot : UInt32) : Prop :=
  NexthopResolved k pkt ∧ RuleAllows k pkt slot ∧ RateAdmits k frame pkt slot ∧
    FairAdmits k frame pkt slot (committedReading k pkt slot)

theorem allowRuleStage_ends (later : Later before [.serviceIngressCapState] 1 k)
    (ipv4 : pkt.ethProto = ethPIp) :
    RedirectsIf (PassesAllow before frame pkt slot) (allowRuleStage frame pkt slot) k := by
  refine Runs.bind (ends_outer (fun _ => recordDrop_ends) fun id installed => ?_)
  refine ends_inner installed fun block? found => ?_
  rw [later.config] at found
  cases block? with
  | none => exact recordDrop_ends
  | some block =>
    cases selected : matchingRule block pkt with
    | none => simp only [selected]; exact recordDrop_ends
    | some i =>
      simp only [selected]
      refine (svcRlAdmit_ends later).seq ?_
      rintro (_ | _ | _) k admitted
      · exact recordDrop_ends
      · exact recordDrop_ends
      · obtain ⟨later, rate⟩ := admitted rfl
        refine (fairAdmitStage_ends later ?_).mono ?_
        · exact ipv4
        intro v _ passed redirected
        obtain ⟨resolved, fair⟩ := passed redirected
        exact ⟨resolved, ⟨block, found, i, matchingRule_some selected⟩, rate, fair⟩

/-- The allow stage of a packet that is known to pass something before it. -/
theorem allowRuleStage_after (later : Later before [.serviceIngressCapState] 1 k)
    (ipv4 : pkt.ethProto = ethPIp) {Passed : Prop} (passed : Passed) :
    RedirectsIf (Passed ∧ PassesAllow before frame pkt slot) (allowRuleStage frame pkt slot) k :=
  (allowRuleStage_ends later ipv4).mono fun _ _ allowed redirected =>
    ⟨passed, allowed redirected⟩

variable {consulted : Bool} {service : ServiceVal}

theorem bloomFp_bind {α : Type} {Post : α → Kernel → Prop} {stage : BloomFpStage}
    {f : Unit → PacketProg α} (later : Later before used reads k)
    (rest : ∀ k, Later before used reads k → Ends packetMachine Post (f ()) k) :
    Ends packetMachine Post (Prog.when (consulted = true) (ask (.bloomFpAdd stage)) >>= f) k := by
  cases consulted with
  | true => exact rest _ (later.addBloomFp stage)
  | false => exact rest k later

section

variable (later : Later before [.serviceIngressCapState] 1 k) (ipv4 : pkt.ethProto = ethPIp)
include later ipv4

theorem globalTrieStage_ends {globalMeta : GblMeta}
    (known : before.config.gblMeta slot = some globalMeta)
    (filter : globalMeta.flags &&& gblHasBroad = 0 →
      (before.config.outer .globalBlacklistBloom slot).isSome) :
    RedirectsIf (NotDenied before pkt slot ∧ PassesAllow before frame pkt slot)
      (globalTrieStage frame pkt slot consulted) k := by
  refine Runs.bind (ends_outer (fun _ => recordDrop_ends) fun id installed => ?_)
  refine ends_inner installed fun present? found => ?_
  rw [later.config] at installed found
  cases present? with
  | some present => exact recordDrop_ends
  | none =>
    refine bloomFp_bind later fun k later => allowRuleStage_after later ipv4 ?_
    exact ⟨globalMeta, known, fun _ => ⟨filter, Or.inr ⟨by rw [installed]; rfl, found⟩⟩⟩

theorem globalDenyStage_ends :
    RedirectsIf (NotDenied before pkt slot ∧ PassesAllow before frame pkt slot)
      (globalDenyStage frame pkt slot) k := by
  refine runs_ask ?_
  simp only [PacketCall.exec]
  cases known : k.config.gblMeta slot with
  | none => exact recordDrop_ends
  | some globalMeta =>
    rw [later.config] at known
    by_cases inactive : globalMeta.flags &&& gblActive = 0
    · simp only [inactive, if_true]
      exact allowRuleStage_after later ipv4
        ⟨globalMeta, known, fun active => absurd inactive active⟩
    by_cases broad : globalMeta.flags &&& gblHasBroad = 0
    · -- the bloom filter answers first
      simp only [inactive, broad, if_false, ne_eq, not_true_eq_false]
      refine Runs.bind (ends_outer (fun _ => recordDrop_ends) fun id installed => ?_)
      refine ends_inner installed fun present? found => ?_
      rw [later.config] at installed found
      have isInstalled : (before.config.outer .globalBlacklistBloom slot).isSome := by
        rw [installed]
        rfl
      cases present? with
      | some present => exact globalTrieStage_ends later ipv4 known fun _ => isInstalled
      | none =>
        exact allowRuleStage_after later ipv4
          ⟨globalMeta, known, fun _ => ⟨fun _ => isInstalled, Or.inl ⟨broad, found⟩⟩⟩
    · simp only [inactive, broad, if_false, ne_eq, not_false_eq_true, if_true]
      exact globalTrieStage_ends later ipv4 known fun narrow => absurd narrow broad

theorem denyFilterStage_ends :
    RedirectsIf (NexthopResolved before pkt ∧ PassesFilters before frame pkt slot)
      (denyFilterStage frame pkt slot) k := by
  unfold denyFilterStage
  split
  · exact recordDrop_ends
  next sourcePort =>
  split
  · exact recordDrop_ends
  next notBogon =>
  have assemble (portAllowed : PortAllowed before pkt slot) :
      NotDenied before pkt slot ∧ PassesAllow before frame pkt slot →
        NexthopResolved before pkt ∧ PassesFilters before frame pkt slot := by
    rintro ⟨notDenied, resolved, ruleAllows, rateAdmits, fairAdmits⟩
    exact ⟨resolved, sourcePort, by simpa using notBogon, portAllowed, notDenied, ruleAllows,
      rateAdmits, fairAdmits⟩
  split
  next udp =>
    refine ends_outer (fun _ => recordDrop_ends) fun id installed => ?_
    refine ends_inner installed fun word? found => ?_
    rw [later.config] at found
    cases word? with
    | none => exact recordDrop_ends
    | some word =>
      by_cases blocked : portBlocked word pkt.sport = true
      · simp only [blocked, if_true]
        exact recordDrop_ends
      · simp only [blocked]
        refine (globalDenyStage_ends later ipv4).mono fun v _ passed redirected =>
          assemble (fun _ => ⟨word, found, by simpa using blocked⟩) (passed redirected)
  next notUdp =>
    refine (globalDenyStage_ends later ipv4).mono fun v _ passed redirected =>
      assemble (fun udp => absurd udp notUdp) (passed redirected)

end

/-- What the whitelist stage and everything behind it ask of a packet. -/
def PassesService (k : Kernel) (frame : Frame) (pkt : PktMeta) (slot : UInt32)
    (service : ServiceVal) : Prop :=
  NexthopResolved k pkt ∧ WhitelistThere k pkt slot service ∧
    (WhitelistAdmits k frame pkt slot service ∨ PassesFilters k frame pkt slot)

section

variable (later : Later before [.serviceIngressCapState] 1 k) (ipv4 : pkt.ethProto = ethPIp)
include later ipv4

theorem denyFilterStage_service (there : WhitelistThere before pkt slot service) :
    RedirectsIf (PassesService before frame pkt slot service) (denyFilterStage frame pkt slot) k :=
  (denyFilterStage_ends later ipv4).mono fun _ _ passed redirected =>
    ⟨(passed redirected).1, there, Or.inr (passed redirected).2⟩

section

variable (active : service.wlFlags &&& wlActive ≠ 0)
  (filter : service.wlFlags &&& wlHasBroad = 0 →
    (before.config.outer .whitelistBloom slot).isSome)
include active filter

theorem vipStage_ends (trie : (before.config.outer .whitelistLpm slot).isSome)
    (listed : (slotLookup before.config slot .whitelistLpm
      (wlLpmKey 64 pkt.serviceId pkt.srcIp)).isSome) :
    RedirectsIf (PassesService before frame pkt slot service) (vipStage frame pkt slot) k := by
  refine Runs.bind (ends_outer (fun _ => recordDrop_ends) fun id installed => ?_)
  refine ends_inner_last installed ?_
  cases found : slotLookup k.config slot .vipConfigMap pkt.serviceId with
  | none => exact recordDrop_ends
  | some config =>
    rw [later.config] at found
    have there : WhitelistThere before pkt slot service := by
      refine fun _ => ⟨filter, Or.inr ⟨trie, fun _ => ?_⟩⟩
      rw [found]
      rfl
    by_cases limits : limitsSet config.flags = true
    · simp only [limits, if_true, vipBucketAdmit]
      refine (bucketAdmit_ends later (by decide)).seq ?_
      rintro (_ | _ | _) k ⟨later, admitted⟩
      · exact recordDrop_ends
      · exact recordDrop_ends
      · refine redirectOut_later later ?_ fun resolved => ?_
        · exact ipv4
        exact ⟨resolved, there, Or.inl ⟨active, listed, config, found, limits, admitted rfl⟩⟩
    · -- a whitelisted source without limits is filtered like any other
      simp only [limits]
      exact denyFilterStage_service later ipv4 there

theorem whitelistTrieStage_ends :
    RedirectsIf (PassesService before frame pkt slot service)
      (whitelistTrieStage frame pkt slot consulted) k := by
  refine Runs.bind (ends_outer (fun _ => recordDrop_ends) fun id installed => ?_)
  refine ends_inner installed fun present? found => ?_
  rw [later.config] at installed found
  have trie : (before.config.outer .whitelistLpm slot).isSome := by
    rw [installed]
    rfl
  cases present? with
  | some present => exact vipStage_ends later ipv4 active filter trie (by rw [found]; rfl)
  | none =>
    refine bloomFp_bind later fun k later => denyFilterStage_service later ipv4 fun _ => ?_
    exact ⟨filter, Or.inr ⟨trie, fun hit => by simp [found] at hit⟩⟩

end

theorem whitelistStage_ends :
    RedirectsIf (PassesService before frame pkt slot service)
      (whitelistStage frame pkt slot service) k := by
  unfold whitelistStage
  split
  next inactive =>
    exact denyFilterStage_service later ipv4 fun active => absurd inactive active
  next active =>
  split
  next broad =>
    exact whitelistTrieStage_ends later ipv4 active fun narrow => absurd narrow broad
  next narrow =>
    refine Runs.bind (ends_outer (fun _ => recordDrop_ends) fun id installed => ?_)
    refine ends_inner installed fun present? found => ?_
    rw [later.config] at installed found
    have isInstalled : (before.config.outer .whitelistBloom slot).isSome := by
      rw [installed]
      rfl
    cases present? with
    | some present => exact whitelistTrieStage_ends later ipv4 active fun _ => isInstalled
    | none =>
      refine denyFilterStage_service later ipv4 fun _ => ?_
      exact ⟨fun _ => isInstalled, Or.inl ⟨not_not.mp narrow, found⟩⟩

end

/-- A stage stops the packet with a verdict that does not redirect, or lets it on with a property. -/
def StopsOr (Passes : Kernel → Prop) : Option Verdict → Kernel → Prop
  | some v, _ => v.action ≠ .redirect
  | none, now => Passes now

theorem ingressCapStage_ends :
    Ends packetMachine (StopsOr fun now =>
        CapAdmits k frame pkt slot ∧ Later k [.serviceIngressCapState] 1 now)
      (ingressCapStage frame pkt slot) k := by
  have dropped {k' : Kernel} (reason : DropReason) :
      Ends packetMachine (StopsOr fun now =>
          CapAdmits k frame pkt slot ∧ Later k [.serviceIngressCapState] 1 now)
        (do return some (← recordDrop pkt reason) : PacketProg (Option Verdict)) k' :=
    Runs.bind (recordDrop_ends.mono fun _ _ never => never)
  refine fairConfigLookup_bind (dropped _) fun config found => ?_
  refine (bucketAdmit_ends (.refl k []) (by decide)).seq ?_
  rintro (_ | _ | _) k' ⟨later, admitted⟩
  · exact dropped _
  · exact dropped _
  · exact ⟨⟨config, found, admitted rfl⟩, later⟩

theorem serviceStages_ends (ipv4 : pkt.ethProto = ethPIp) :
    RedirectsIf (CapAdmits k frame pkt slot ∧ PassesService k frame pkt slot service)
      (serviceStages frame pkt slot service) k := by
  refine ingressCapStage_ends.seq ?_
  rintro (_ | v) k' stopped
  · obtain ⟨cap, later⟩ := stopped
    exact (whitelistStage_ends later ipv4).mono fun v _ passed redirected =>
      ⟨cap, passed redirected⟩
  · intro redirected
    exact absurd redirected stopped

theorem serviceLookupRedirect_ends (ipv4 : pkt.ethProto = ethPIp) :
    RedirectsIf (Forwardable k frame pkt) (serviceLookupRedirect frame pkt) k := by
  refine runs_ask ?_
  simp only [PacketCall.exec]
  cases active : k.config.activeConfig with
  | none => exact recordDrop_ends
  | some config =>
    refine ends_outer (fun _ => recordDrop_ends) fun id installed => ?_
    refine ends_inner installed fun service? found => ?_
    cases service? with
    | none => exact recordDrop_ends
    | some service =>
      by_cases disabled : service.enabled = 0
      · simp only [disabled, if_true]
        exact recordDrop_ends
      · simp only [disabled, if_false]
        have ipv4' : ({ pkt with serviceId := service.serviceId } : PktMeta).ethProto = ethPIp :=
          ipv4
        refine (serviceStages_ends ipv4').mono fun v _ passed redirected => ?_
        obtain ⟨cap, resolved, path⟩ := passed redirected
        exact ⟨config, service, active, found, disabled, cap, resolved, path⟩

end Stages

/-- The packet record the service stages of a frame start from. -/
def parsedPacket (frame : Frame) : PktMeta :=
  let eth := parseEth frame ⟨0, 0⟩ (.init frame)
  let ip := parseIpv4 frame eth.cur eth.pkt
  (parseL4 frame ip.cur ip.pkt).pkt

/-- The EtherType behind the VLAN tags is that of IPv4. -/
def IsIpv4 (frame : Frame) : Prop :=
  (parseEth frame ⟨0, 0⟩ (.init frame)).pkt.ethProto = ethPIp

def Bypassed (r : Runtime) : Prop := ∃ bypass, r.nodeControl = some bypass ∧ bypass ≠ 0

theorem parseIpv4_ethProto (frame : Frame) (cur : HdrCursor) (pkt : PktMeta) :
    (parseIpv4 frame cur pkt).pkt.ethProto = pkt.ethProto := by
  unfold parseIpv4
  split
  · rfl
  · dsimp only
    split_ifs <;> rfl

theorem parseL4_ethProto (frame : Frame) (cur : HdrCursor) (pkt : PktMeta) :
    (parseL4 frame cur pkt).pkt.ethProto = pkt.ethProto := by
  unfold parseL4
  split_ifs
  · split <;> rfl
  · split <;> rfl
  · split <;> rfl
  · rfl

/-- Out of bypass, an IPv4 frame is redirected only when the policy allows it. -/
theorem xdpGateway_redirect_forwardable (frame : Frame) (k k' : Kernel) (v : Verdict)
    (ran : eval packetMachine (xdpGateway frame) k = (.returned v, k'))
    (ipv4 : IsIpv4 frame) (notBypassed : ¬ Bypassed k.runtime)
    (redirected : v.action = .redirect) : Forwardable k frame (parsedPacket frame) := by
  suffices ends : RedirectsIf (Forwardable k frame (parsedPacket frame))
      (xdpGateway frame) k from ends.returned ran redirected
  have isIpv4 : (parsedPacket frame).ethProto = ethPIp := by
    rw [parsedPacket, parseL4_ethProto, parseIpv4_ethProto]
    exact ipv4
  unfold xdpGateway
  dsimp only
  split
  · exact recordDrop_ends
  -- of the four EtherTypes only the one of IPv4 remains
  rw [IsIpv4] at ipv4
  rw [ipv4, if_neg (by decide), if_neg (by decide), if_pos rfl]
  unfold ipv4Stage
  dsimp only
  split
  · exact recordDrop_ends
  split
  · exact recordDrop_ends
  split
  · exact recordDrop_ends
  refine Runs.bind (runs_ask ?_)
  simp only [PacketCall.exec]
  cases control : k.runtime.nodeControl with
  | none => exact serviceLookupRedirect_ends isIpv4
  | some bypass =>
    by_cases off : bypass = 0
    · subst off
      exact serviceLookupRedirect_ends isIpv4
    · exact absurd ⟨bypass, control, off⟩ notBypassed

/-- One enabled service, 203.0.113.1, with a rule that allows TCP to port 443 and rates of a
megabyte a second. -/
def oneServiceMaps : ConfigMaps :=
  let rule : RuleEntry := ⟨0, 65535, 443, 443, ipprotoTcp, ruleEnabled⟩
  let maps := loadedMaps.setInner .serviceMap 0
    (AList.insert (serviceKey 32 0xcb007101) ⟨7, 1, 0, 0⟩ ∅)
  let maps := maps.setInner .ruleBlockMap 0 (AList.insert 7 ⟨1, 1, fun _ => rule⟩ ∅)
  maps.setInner .fairConfigMap 0 (AList.insert 7 ⟨1, 1000000, 0, 1000000, 1000⟩ ∅)

def oneServiceKernel : Kernel where
  config := oneServiceMaps
  runtime := {
    rlNcpus := 1
    rateLimitConfig := some 0
    nodeControl := some 0
    txDevmap := true
    nexthopMap := AList.insert 7 ⟨[2, 0, 0, 0, 0, 1], [2, 0, 0, 0, 0, 2], 1⟩ ∅
    buckets := fun _ => ∅
    counterMap := fun _ => some 0
    svcStatMap := ∅
    bypassCounter := some ⟨0, 0⟩
    bloomStats := fun _ => some 0
    sampleConfig := none
    sampleBucket := none
    sampleStats := fun _ => some 0
    ringbufRoom := 0
    ringbuf := []
    clock := fun _ => 5000000000 }

/-- A TCP segment from 8.8.8.8 to port 443 of 203.0.113.1. -/
def tcpFrame : Frame :=
  [2, 0, 0, 0, 0, 3, 2, 0, 0, 0, 0, 4, 8, 0] ++
  [0x45, 0, 0, 40, 0, 0, 0x40, 0, 64, 6, 0, 0, 8, 8, 8, 8, 203, 0, 113, 1] ++
  [0x30, 0x39, 1, 187, 0, 0, 0, 0, 0, 0, 0, 0, 0x50, 2, 0, 0, 0, 0, 0, 0]

theorem tcpFrame_redirect_forwardable :
    (∃ v k', eval packetMachine (xdpGateway tcpFrame) oneServiceKernel = (.returned v, k') ∧
      v.action = .redirect) ∧
    Forwardable oneServiceKernel tcpFrame (parsedPacket tcpFrame) := by
  have notBypassed : ¬ Bypassed oneServiceKernel.runtime := by
    rintro ⟨bypass, found, nonzero⟩
    cases found
    exact nonzero rfl
  exact ⟨⟨_, _, rfl, rfl⟩, xdpGateway_redirect_forwardable tcpFrame oneServiceKernel _ _ rfl
    rfl notBypassed rfl⟩

end ScrubbingGateway.DataPlane
