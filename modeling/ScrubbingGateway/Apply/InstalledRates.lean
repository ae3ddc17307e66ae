import ScrubbingGateway.Apply.BudgetArithmetic
import ScrubbingGateway.Apply.WhitelistMembership
import ScrubbingGateway.DataPlane.RefillRange

/-!
# The rates that get into the buckets

The helper clamps the rates of the fairness buckets, and hands the rates of the whitelist and of the
service on as the control plane has them. So the refill stays in its 64 bits for all fairness
buckets, and for the others as far as the configured rates do.
-/

namespace ScrubbingGateway.Apply

open Wire DataPlane Control Prog

/-- The limiters that the packet program can find in a slot. -/
inductive Installed (k : ConfigMaps) (slot : UInt32) : Limiter → Prop where
  | vip {id : UInt32} {config : RateConfig}
      (found : slotLookup k slot .vipConfigMap id = some config) :
      Installed k slot (vipLimiter config)
  | svc {id : UInt32} {config : RateConfig}
      (found : slotLookup k slot .svcRlConfigMap id = some config) :
      Installed k slot (svcLimiter config)
  | fairCap {id : UInt32} {config : FairConfig}
      (found : slotLookup k slot .fairConfigMap id = some config) :
      Installed k slot (fairCapLimiter config)
  | fairCommitted {id : UInt32} {config : FairConfig}
      (found : slotLookup k slot .fairConfigMap id = some config) :
      Installed k slot (fairCommittedLimiter config)
  | fairBurst {id : UInt32} {config : FairConfig}
      (found : slotLookup k slot .fairConfigMap id = some config) :
      Installed k slot (fairBurstLimiter config)
  | fairNode {config : FairNodeConfig} (found : k.fairNodeConfig slot = some config) :
      Installed k slot (fairNodeLimiter config)

/-- All dimensions that count have rates in range. -/
def LimiterInRange (l : Limiter) : Prop := ∀ d, l.counts d = true → RateInRange (l.rate d)

/-- No refill of the limiter leaves its range, whatever the time and the number of CPUs. -/
def RefillsExact (l : Limiter) : Prop :=
  ∀ d, l.counts d = true → ∀ tokens elapsed ncpus, elapsed ≤ nsecPerSec →
    RefillExact tokens (l.rate d) elapsed ncpus

theorem refillsExact_iff (l : Limiter) : RefillsExact l ↔ LimiterInRange l :=
  forall₂_congr fun d _ => refillExact_iff_rateInRange (l.rate d)

/-! ## The configured rates -/

/-- A second at a configured rate does not leave 64 bits. -/
def LimitInRange (limit : Option Int) : Prop := ∀ v ∈ limit, v * 1000000000 < 2 ^ 64

instance (limit : Option Int) : Decidable (LimitInRange limit) :=
  inferInstanceAs (Decidable (∀ v ∈ limit, _))

/-- The rates of a service that get into its buckets. Those of the whitelist are installed only for
a service that has one. -/
structure ServiceInRange (s : ServiceConfig) : Prop where
  servicePps : LimitInRange s.servicePps
  serviceBps : LimitInRange s.serviceBps
  vipPps : s.whitelist ≠ [] → LimitInRange s.vipPps
  vipBps : s.whitelist ≠ [] → LimitInRange s.vipBps

theorem rateInRange_ofInt_iff {v : Int} (fits : InWidth 8 v) :
    RateInRange (UInt64.ofNat v.toNat) ↔ v * 1000000000 < 2 ^ 64 := by
  have same := fits.u64
  rw [RateInRange]
  omega

theorem limitInRange_iff {limit : Option Int} (fits : InWidth 8 (limit.getD 0)) :
    (limit.isSome = true → RateInRange (UInt64.ofNat (limit.getD 0).toNat)) ↔
      LimitInRange limit := by
  rw [rateInRange_ofInt_iff fits]
  cases limit with
  | none | some => simp [LimitInRange]

theorem flags_limit (pps bps : Option Int) :
    (UInt8.ofNat (limitFlags pps bps).toNat &&& ppsSetFlag ≠ 0 ↔ pps.isSome = true) ∧
      (UInt8.ofNat (limitFlags pps bps).toNat &&& bpsSetFlag ≠ 0 ↔ bps.isSome = true) := by
  unfold limitFlags
  cases pps.isSome <;> cases bps.isSome <;> decide

theorem limiterInRange_iff (version : UInt32) {pps bps : Option Int}
    (fitsPps : InWidth 8 (pps.getD 0)) (fitsBps : InWidth 8 (bps.getD 0)) :
    LimiterInRange (rateLimiter ⟨version, UInt8.ofNat (limitFlags pps bps).toNat,
        UInt64.ofNat (pps.getD 0).toNat, UInt64.ofNat (bps.getD 0).toNat⟩) ↔
      LimitInRange pps ∧ LimitInRange bps := by
  obtain ⟨ppsFlag, bpsFlag⟩ := flags_limit pps bps
  rw [← limitInRange_iff fitsPps, ← limitInRange_iff fitsBps]
  constructor
  · intro inRange
    constructor
    · exact fun set => inRange .packets (decide_eq_true (ppsFlag.mpr set))
    · exact fun set => inRange .bytes (decide_eq_true (bpsFlag.mpr set))
  · rintro ⟨packets, bytes⟩ d counted
    cases d with
    | packets => exact packets (ppsFlag.mp (of_decide_eq_true counted))
    | bytes => exact bytes (bpsFlag.mp (of_decide_eq_true counted))

section Service

variable {s : ServiceConfig}

theorem svcLimiter_inRange_iff (accepted : Accepted (recordOf s)) :
    LimiterInRange (svcLimiter (svcRlConfig (cfgOf s))) ↔
      LimitInRange s.servicePps ∧ LimitInRange s.serviceBps :=
  limiterInRange_iff applyConfigVersion accepted.servicePps accepted.serviceBps

theorem vipLimiter_inRange_iff (accepted : Accepted (recordOf s)) :
    LimiterInRange (vipLimiter (vipConfig (cfgOf s))) ↔
      LimitInRange s.vipPps ∧ LimitInRange s.vipBps :=
  limiterInRange_iff applyConfigVersion accepted.vipPps accepted.vipBps

theorem wlActive_cfgOf_iff (s : ServiceConfig) :
    (cfgOf s).wlFlags &&& wlActive ≠ 0 ↔ s.whitelist ≠ [] := by
  constructor
  · intro active none_
    have unset : (cfgOf s).wlFlags = 0 := by
      simp only [cfgOf, ofPacked, recordOf, none_]
      rfl
    rw [unset] at active
    exact active (by decide)
  · exact (wlFlags_cfgOf s).1

end Service

/-! ## The clamped rates -/

theorem rateInRange_of_clamped {rate : UInt64} (clamped : rate.toNat ≤ fairRateMax.toNat) :
    RateInRange rate := by
  rw [show fairRateMax.toNat = 16000000000 from rfl] at clamped
  rw [RateInRange]
  omega

theorem fairBpsLimiter_inRange {rate : UInt64} (clamped : rate.toNat ≤ fairRateMax.toNat)
    (version : UInt32) : LimiterInRange (fairBpsLimiter version rate) := by
  intro d counted
  cases d with
  | packets => cases counted
  | bytes => exact rateInRange_of_clamped clamped

section Fair

variable {knobs : Knobs} {s : CfgService}

theorem fairCap_clamped (knobs : Knobs) (s : CfgService) :
    (fairConfig knobs s).capBps.toNat ≤ fairRateMax.toNat := by
  change (fairRateProduct (clampFairRate s.ceilingBps) knobs.k).toNat ≤ _
  rw [fairRateProduct_toNat]
  exact Nat.min_le_left _ _

theorem fairCapLimiter_inRange (knobs : Knobs) (s : CfgService) :
    LimiterInRange (fairCapLimiter (fairConfig knobs s)) := by
  intro d _
  have bytes := fairCap_clamped knobs s
  cases d with
  | packets =>
    -- the packet rate is the byte rate divided by the size of a packet
    apply rateInRange_of_clamped
    change ((fairConfig knobs s).capBps / knobs.refPkt).toNat ≤ _
    rw [UInt64.toNat_div]
    exact (Nat.div_le_self _ _).trans bytes
  | bytes => exact rateInRange_of_clamped bytes

theorem fairBurst_clamped (knobs : Knobs) (ordered : s.committedBps ≤ s.ceilingBps) :
    (fairConfig knobs s).burstBps.toNat ≤ fairRateMax.toNat := by
  change (clampFairRate s.ceilingBps - clampFairRate s.committedBps).toNat ≤ _
  rw [(clampFairRate_sub_exact ordered).toNat_sub, clampFairRate_toNat, clampFairRate_toNat]
  omega

theorem headroom_clamped {env : Env} (known : applyNodeKnobs env = some knobs) (sum : UInt64) :
    (fairNodeConfigOf knobs.capacity sum).headroomBps.toNat ≤ fairRateMax.toNat := by
  have capacity_le : knobs.capacity.toNat ≤ fairRateMax.toNat := by
    obtain ⟨capacity, _, known⟩ := Option.bind_eq_some_iff.mp known
    obtain ⟨k, _, known⟩ := Option.bind_eq_some_iff.mp known
    obtain ⟨refPkt, _, known⟩ := Option.bind_eq_some_iff.mp known
    split at known
    · cases known
    · cases known
      rw [clampFairRate_toNat]
      exact Nat.min_le_right _ _
  change (nodeHeadroom knobs.capacity sum).toNat ≤ _
  unfold nodeHeadroom
  split
  next above =>
    rw [UInt64.toNat_sub_of_le _ _ (UInt64.le_of_lt above)]
    omega
  · exact Nat.zero_le _

end Fair

/-! ## All buckets of a deployment -/

section Deployment

variable {node : List ServiceConfig} {k : ConfigMaps} {slot : UInt32}

theorem installed_of_member (deployed : Deployed node k slot)
    (distinct : (node.map ServiceConfig.dpId).Nodup) {s : ServiceConfig} (member : s ∈ node) :
    Installed k slot (svcLimiter (svcRlConfig (cfgOf s))) ∧
      (s.whitelist ≠ [] → Installed k slot (vipLimiter (vipConfig (cfgOf s)))) := by
  obtain ⟨knobs, held⟩ := deployed.serviceSlot
  have ids := nodup_dpIds_of_serialized deployed.serialized distinct
  have inSnapshot := List.mem_map_of_mem (f := cfgOf) member
  constructor
  · apply Installed.svc
    rw [slotLookup_iff_of_ne_serviceMap held ids (by decide) (by decide)]
    exact ⟨cfgOf s, inSnapshot, rfl, rfl⟩
  · intro listed
    apply Installed.vip
    rw [slotLookup_iff_of_ne_serviceMap held ids (by decide) (by decide)]
    exact ⟨cfgOf s, inSnapshot, rfl, (wlActive_cfgOf_iff s).mpr listed, rfl⟩

theorem limiterInRange_of_installed (deployed : Deployed node k slot)
    (distinct : (node.map ServiceConfig.dpId).Nodup) (inRange : ∀ s ∈ node, ServiceInRange s)
    {l : Limiter} (installed : Installed k slot l) : LimiterInRange l := by
  obtain ⟨env, knobs, c, known, configured⟩ := deployed.configuration
  have held := serviceSlot_of_configuration configured
  have ids := nodup_dpIds_of_serialized deployed.serialized distinct
  -- every fairness config is the one of a service that passed the helper's checks
  have fair {id : UInt32} {config : FairConfig}
      (found : slotLookup k slot .fairConfigMap id = some config) :
      ∃ s : CfgService, s.committedBps ≤ s.ceilingBps ∧ config = fairConfig knobs s := by
    obtain ⟨s, inSnapshot, _, rfl⟩ :=
      (slotLookup_iff_of_ne_serviceMap (o := .fairConfigMap) held ids (by decide) (by decide) id
        config).mp found
    obtain ⟨s, member, rfl⟩ := List.mem_map.mp inSnapshot
    exact ⟨cfgOf s, ordered_of_serviceOk (deployed.checked s member), rfl⟩
  cases installed with
  | svc found =>
    obtain ⟨s, inSnapshot, _, rfl⟩ :=
      (slotLookup_iff_of_ne_serviceMap held ids (by decide) (by decide) _ _).mp found
    obtain ⟨s, member, rfl⟩ := List.mem_map.mp inSnapshot
    rw [svcLimiter_inRange_iff (deployed.serialized.services s member)]
    exact ⟨(inRange s member).servicePps, (inRange s member).serviceBps⟩
  | vip found =>
    obtain ⟨s, inSnapshot, _, active, rfl⟩ :=
      (slotLookup_iff_of_ne_serviceMap held ids (by decide) (by decide) _ _).mp found
    obtain ⟨s, member, rfl⟩ := List.mem_map.mp inSnapshot
    have listed := (wlActive_cfgOf_iff s).mp active
    rw [vipLimiter_inRange_iff (deployed.serialized.services s member)]
    exact ⟨(inRange s member).vipPps listed, (inRange s member).vipBps listed⟩
  | fairCap found =>
    obtain ⟨s, _, rfl⟩ := fair found
    exact fairCapLimiter_inRange knobs s
  | fairCommitted found =>
    obtain ⟨s, _, rfl⟩ := fair found
    refine fairBpsLimiter_inRange ?_ _
    change (clampFairRate s.committedBps).toNat ≤ _
    rw [clampFairRate_toNat]
    exact Nat.min_le_right _ _
  | fairBurst found =>
    obtain ⟨s, ordered, rfl⟩ := fair found
    exact fairBpsLimiter_inRange (fairBurst_clamped knobs ordered) _
  | fairNode found =>
    have installed := congrArg Configuration.fairNode configured
    obtain rfl := Option.some.inj (found.symm.trans installed)
    exact fairBpsLimiter_inRange (headroom_clamped known _) _

end Deployment

/-- The refills of all buckets of a deployment stay in 64 bits, and grant what the elapsed time has
earned, exactly if the configured rates of the services do for a second. -/
theorem refills_exact_iff_inRange (node : List ServiceConfig)
    (distinct : (node.map ServiceConfig.dpId).Nodup) (k : ConfigMaps) (slot : UInt32)
    (deployed : Deployed node k slot) :
    (∀ l, Installed k slot l → RefillsExact l) ↔ ∀ s ∈ node, ServiceInRange s := by
  simp only [refillsExact_iff]
  constructor
  · intro inRange s member
    obtain ⟨svc, vip⟩ := installed_of_member deployed distinct member
    have accepted := deployed.serialized.services s member
    obtain ⟨servicePps, serviceBps⟩ := (svcLimiter_inRange_iff accepted).mp (inRange _ svc)
    have vipRates (listed : s.whitelist ≠ []) :=
      (vipLimiter_inRange_iff accepted).mp (inRange _ (vip listed))
    exact ⟨servicePps, serviceBps, fun listed => (vipRates listed).1,
      fun listed => (vipRates listed).2⟩
  · exact fun inRange l installed => limiterInRange_of_installed deployed distinct inRange installed

set_option maxRecDepth 20000 in
theorem twoServices_deployed : Deployed twoServices twoServicesMaps 1 :=
  ⟨twoServices_written, twoServices_parsed, twoServices_applied, ⟨1, 1⟩, rfl, rfl⟩

theorem twoServices_refills_exact :
    Deployed twoServices twoServicesMaps 1 ∧
      ∀ l, Installed twoServicesMaps 1 l → RefillsExact l := by
  refine ⟨twoServices_deployed, ?_⟩
  refine (refills_exact_iff_inRange twoServices (by decide) twoServicesMaps 1
    twoServices_deployed).mpr ?_
  refine List.forall_mem_cons.mpr ⟨?_, List.forall_mem_singleton.mpr ?_⟩
  · exact ⟨by decide, by decide, fun _ => by decide, fun _ => by decide⟩
  · exact ⟨by decide, by decide, fun _ => by decide, fun _ => by decide⟩

/-- A service limited to 160 Gbit/s. -/
def fastServiceConfig : ServiceConfig := { oneServiceConfig with serviceBps := some 20000000000 }

theorem fastServiceConfig_admitted : AdmittedService fastServiceConfig where
  __ := oneServiceConfig_admitted
  serviceBps v given := by
    cases given
    exact ⟨by decide, by decide, by decide⟩

set_option maxRecDepth 20000 in
/-- After a second the product has wrapped around, and an empty bucket is granted less than a tenth
of what it has earned. -/
theorem fastServiceConfig_wraps :
    AdmittedRows [fastServiceConfig] ∧
      Deployed (loadNodeConfig [fastServiceConfig]) (mapsWith [fastServiceConfig]) 1 ∧
      Installed (mapsWith [fastServiceConfig]) 1
        (svcLimiter (svcRlConfig (cfgOf fastServiceConfig))) ∧
      ¬ (WordOp.mul nsecPerSec 20000000000).Exact ∧
      (rlRefillDim 0 20000000000 (rlBurst 20000000000 1 false) nsecPerSec 1).1 = 1553255926 ∧
      ¬ ∀ l, Installed (mapsWith [fastServiceConfig]) 1 l → RefillsExact l := by
  have admitted : AdmittedRows [fastServiceConfig] :=
    ⟨List.forall_mem_singleton.mpr fastServiceConfig_admitted, by decide, by decide⟩
  have written : serializeNodeSnapshot [fastServiceConfig] =
      .ok (snapshotBytes [fastServiceConfig]) := by decide +kernel
  have parsed : parseSnapshot (snapshotBytes [fastServiceConfig]) =
      some (snapshotCfg [fastServiceConfig]) := by decide +kernel
  have applied : steps configMachine ⟨applyNodeCfg defaultEnv 65536
      (snapshotCfg [fastServiceConfig]), loadedMaps⟩ (List.replicate 100 .works) =
      ⟨.ret (), mapsWith [fastServiceConfig]⟩ := rfl
  have found : slotLookup (mapsWith [fastServiceConfig]) 1 .svcRlConfigMap 7 =
      some (svcRlConfig (cfgOf fastServiceConfig)) := rfl
  have installed := Installed.svc found
  refine ⟨admitted, ⟨written, parsed, applied, ⟨1, 1⟩, rfl, rfl⟩, installed, by decide, by decide, ?_⟩
  intro exact_
  exact absurd ((refillsExact_iff _).mp (exact_ _ installed) .bytes rfl) (by decide)

end ScrubbingGateway.Apply
