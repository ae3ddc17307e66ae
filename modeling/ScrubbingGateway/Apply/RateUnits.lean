import ScrubbingGateway.Apply.Acceptance
import ScrubbingGateway.Apply.Atomicity
import ScrubbingGateway.DataPlane.Buckets

/-!
# The unit of the rates

A plan is in gigabits per second. The worker sends `plan * 1e9`, the helper clamps and splits it, and
the buckets of the packet program spend one token for each byte. What is enforced is a number of
bytes per second, followed here from the tables to the configuration that packets see.
-/

namespace ScrubbingGateway.Apply

open Wire DataPlane Control

/-! ## Clamps and sums -/

theorem clampFairRate_toNat (value : UInt64) :
    (clampFairRate value).toNat = min value.toNat fairRateMax.toNat := by
  unfold clampFairRate
  split
  next above =>
    rw [gt_iff_lt, UInt64.lt_iff_toNat_lt] at above
    omega
  next below =>
    rw [gt_iff_lt, UInt64.lt_iff_toNat_lt] at below
    omega

theorem addCommitted_toNat (sum committed : UInt64) :
    (addCommitted sum committed).toNat = min (sum.toNat + committed.toNat) (2 ^ 64 - 1) := by
  have small := sum.toNat_lt
  have small' := committed.toNat_lt
  have rest : (0xffffffffffffffff - sum).toNat = 2 ^ 64 - 1 - sum.toNat := by
    rw [UInt64.toNat_sub_of_le _ _ (by rw [UInt64.le_iff_toNat_le]; exact Nat.le_pred_of_lt small)]
    rfl
  unfold addCommitted
  split
  next above =>
    rw [UInt64.lt_iff_toNat_lt, rest] at above
    rw [show (0xffffffffffffffff : UInt64).toNat = 2 ^ 64 - 1 from rfl]
    omega
  next within =>
    rw [UInt64.lt_iff_toNat_lt, rest] at within
    rw [UInt64.toNat_add]
    omega

theorem committedSum_toNat (knobs : Knobs) (services : List CfgService) :
    (committedSum knobs services).toNat =
      min ((services.map fun s => (serviceBudget knobs s).committedBps.toNat).sum) (2 ^ 64 - 1) := by
  induction services using List.reverseRecOn with
  | nil => rfl
  | append_singleton services s ih =>
    rw [committedSum_append, addCommitted_toNat, ih, List.map_append, List.sum_append]
    simp only [List.map_cons, List.map_nil, List.sum_cons, List.sum_nil]
    omega

/-- Saturation never shows: the capacity has 64 bits as well. -/
theorem nodeHeadroom_toNat (capacity : UInt64) {sum : UInt64} {total : Nat}
    (saturated : sum.toNat = min total (2 ^ 64 - 1)) :
    (nodeHeadroom capacity sum).toNat = capacity.toNat - total := by
  have small := capacity.toNat_lt
  unfold nodeHeadroom
  split
  next above =>
    rw [gt_iff_lt, UInt64.lt_iff_toNat_lt] at above
    rw [UInt64.toNat_sub_of_le _ _ (UInt64.le_iff_toNat_le.mpr above.le)]
    omega
  next below =>
    rw [gt_iff_lt, UInt64.lt_iff_toNat_lt] at below
    rw [show (0 : UInt64).toNat = 0 from rfl]
    omega

/-! ## What the packet program enforces -/

/-- The limits of a service in a configuration. -/
def Configuration.fairConfig (c : Configuration) (dpId : UInt32) : Option FairConfig :=
  (c.rows .fairConfigMap).bind fun rows => rows dpId

/-- Bytes per second that the committed bucket lets through. -/
def committedRate (config : FairConfig) : Nat := (fairCommittedLimiter config).bps.toNat

/-- Bytes per second that the committed and the burst bucket let through together. -/
def ceilingRate (config : FairConfig) : Nat :=
  (fairCommittedLimiter config).bps.toNat + (fairBurstLimiter config).bps.toNat

/-- A rate of bits per second in bytes per second, rounded down and clamped. -/
def bytesPerSecond (bits : Int) : Nat := min (bits / 8).toNat fairRateMax.toNat

def dataPlaneId (s : ServiceConfig) : UInt32 := (cfgOf s).dpId

/-- The rates of the plans, and what they leave of the capacity, arrive in the unit of the
buckets. -/
structure UnitsKept (capacity : UInt64) (rows : List ServiceConfig) (c : Configuration) : Prop where
  rates : ∀ s ∈ rows, s.enabled = true → ∃ config, c.fairConfig (dataPlaneId s) = some config ∧
    committedRate config = bytesPerSecond (planRates s.plan).1 ∧
    ceilingRate config = bytesPerSecond (planRates s.plan).2
  headroom : ∃ nodeConfig, c.fairNode = some nodeConfig ∧
    (fairNodeLimiter nodeConfig).bps.toNat = capacity.toNat -
      ((rows.filter ServiceConfig.enabled).map fun s => bytesPerSecond (planRates s.plan).1).sum

/-- A rate that does not depend on the unit: none, or one that is clamped in either. -/
def UnitFree (bits : Int) : Prop := bits = 0 ∨ 8 * 16000000000 ≤ bits

/-- The number is kept as it is, so it is right only for a rate without a unit. -/
theorem clamped_eq_bytesPerSecond_iff {bits : Int} (positive : 0 ≤ bits) :
    min bits.toNat fairRateMax.toNat = bytesPerSecond bits ↔ UnitFree bits := by
  have limit : fairRateMax.toNat = 16000000000 := rfl
  rw [bytesPerSecond, UnitFree, limit]
  omega

/-! ## From the tables to the maps -/

section Installed

variable {s : ServiceConfig} (knobs : Knobs)

/-- The plan's numbers reach the committed bucket and, with the burst bucket, the ceiling. -/
theorem rates_fairConfig (admitted : AdmittedService s) :
    committedRate (fairConfig knobs (cfgOf s)) =
        min (planRates s.plan).1.toNat fairRateMax.toNat ∧
      ceilingRate (fairConfig knobs (cfgOf s)) =
        min (planRates s.plan).2.toNat fairRateMax.toNat := by
  have range := planRates_admitted admitted.plan
  have number (bits : Int) (positive : 0 ≤ bits) (small : bits < 2 ^ 64) :
      (clampFairRate (UInt64.ofNat bits.toNat)).toNat = min bits.toNat fairRateMax.toNat := by
    rw [clampFairRate_toNat, UInt64.toNat_ofNat_of_lt' (by rw [UInt64.size]; omega)]
  have committed := number (planRates s.plan).1 range.1 (by omega)
  have ceiling := number (planRates s.plan).2 (by omega) range.2.2
  refine ⟨committed, ?_⟩
  have burst : (clampFairRate (UInt64.ofNat (planRates s.plan).2.toNat) -
      clampFairRate (UInt64.ofNat (planRates s.plan).1.toNat)).toNat =
        min (planRates s.plan).2.toNat fairRateMax.toNat -
          min (planRates s.plan).1.toNat fairRateMax.toNat := by
    rw [UInt64.toNat_sub_of_le, ceiling, committed]
    rw [UInt64.le_iff_toNat_le, ceiling, committed]
    omega
  have parts : ceilingRate (fairConfig knobs (cfgOf s)) =
      (clampFairRate (UInt64.ofNat (planRates s.plan).1.toNat)).toNat +
        (clampFairRate (UInt64.ofNat (planRates s.plan).2.toNat) -
          clampFairRate (UInt64.ofNat (planRates s.plan).1.toNat)).toNat := rfl
  rw [parts, burst, committed]
  omega

variable {rows : List ServiceConfig} {c : Configuration}

variable (admitted : AdmittedRows rows)
include admitted

theorem installed_rates {s : ServiceConfig} (member : s ∈ rows) (enabled : s.enabled = true) :
    (c.withServices knobs ((loadNodeConfig rows).map cfgOf)).fairConfig (dataPlaneId s) =
      some (fairConfig knobs (cfgOf (serviceConfig s))) := by
  have loaded : serviceConfig s ∈ loadNodeConfig rows :=
    (mem_loadNodeConfig rows _).mpr ⟨s, member, enabled, rfl⟩
  have found := latest_of_nodup CfgService.dpId (nodup_dpIds admitted.loadNodeConfig)
    (List.mem_map.mpr ⟨_, loaded, rfl⟩)
  have services : Outer.fairConfigMap ∈ serviceOuters := by decide
  simp only [Configuration.fairConfig, Configuration.withServices, if_pos services,
    Option.bind_some, serviceRows]
  rw [show dataPlaneId s = (cfgOf (serviceConfig s)).dpId from rfl, found, Option.map_some]

omit admitted in
/-- The headroom is what the committed rates that are enforced leave of the capacity. -/
theorem installed_headroom {rate : ServiceConfig → Nat}
    (rates : ∀ s ∈ rows, s.enabled = true →
      committedRate (fairConfig knobs (cfgOf (serviceConfig s))) = rate s) :
    ∃ nodeConfig,
      (c.withServices knobs ((loadNodeConfig rows).map cfgOf)).fairNode = some nodeConfig ∧
      (fairNodeLimiter nodeConfig).bps.toNat = knobs.capacity.toNat -
        ((rows.filter ServiceConfig.enabled).map rate).sum := by
  refine ⟨_, rfl, nodeHeadroom_toNat knobs.capacity ?_⟩
  rw [committedSum_toNat, ← ((enabled_perm rows).map _).sum_nat, loadNodeConfig, List.map_map,
    List.map_map]
  refine congrArg (fun rates => min (List.sum rates) _) (List.map_congr_left fun s member => ?_)
  have enabled := List.mem_filter.mp ((enabled_perm rows).mem_iff.mp member)
  exact rates s enabled.1 enabled.2

theorem unitsKept_iff :
    UnitsKept knobs.capacity rows (c.withServices knobs ((loadNodeConfig rows).map cfgOf)) ↔
      ∀ s ∈ rows, s.enabled = true →
        UnitFree (planRates s.plan).1 ∧ UnitFree (planRates s.plan).2 := by
  have kept (s : ServiceConfig) (member : s ∈ rows) :
      (committedRate (fairConfig knobs (cfgOf (serviceConfig s))) =
          bytesPerSecond (planRates s.plan).1 ↔ UnitFree (planRates s.plan).1) ∧
        (ceilingRate (fairConfig knobs (cfgOf (serviceConfig s))) =
          bytesPerSecond (planRates s.plan).2 ↔ UnitFree (planRates s.plan).2) := by
    have service := admitted.services s member
    have range := planRates_admitted service.plan
    obtain ⟨committed, ceiling⟩ := rates_fairConfig knobs service.serviceConfig
    rw [committed, ceiling]
    exact ⟨clamped_eq_bytesPerSecond_iff range.1,
      clamped_eq_bytesPerSecond_iff (range.1.trans range.2.1)⟩
  constructor
  · intro units s member enabled
    obtain ⟨config, found, committed, ceiling⟩ := units.rates s member enabled
    rw [installed_rates knobs admitted member enabled] at found
    cases found
    exact ⟨(kept s member).1.mp committed, (kept s member).2.mp ceiling⟩
  · intro free
    refine ⟨fun s member enabled => ?_, ?_⟩
    · exact ⟨_, installed_rates knobs admitted member enabled,
        (kept s member).1.mpr (free s member enabled).1,
        (kept s member).2.mpr (free s member enabled).2⟩
    · exact installed_headroom knobs fun s member enabled =>
        (kept s member).1.mpr (free s member enabled).1

end Installed

/-- The rates that are enforced and the headroom that is installed go together. -/
def HeadroomFits (capacity : UInt64) (rows : List ServiceConfig) (c : Configuration) : Prop :=
  ∃ nodeConfig, c.fairNode = some nodeConfig ∧
    (fairNodeLimiter nodeConfig).bps.toNat = capacity.toNat -
      ((rows.filter ServiceConfig.enabled).map fun s =>
        (c.fairConfig (dataPlaneId s)).elim 0 committedRate).sum

/-- What an apply of the tables installs: the headroom always fits the committed rates that are
enforced; the rates themselves are in the unit of the buckets exactly when no enabled service has a
plan between nothing and 128 Gbps. -/
theorem applied_units_kept_iff {rows : List ServiceConfig} (admitted : AdmittedRows rows)
    {bytes : Bytes} (written : serializeNodeSnapshot (loadNodeConfig rows) = .ok bytes)
    {cfg : NodeCfg} (parsed : parseSnapshot bytes = some cfg) (run : ApplyRun)
    (sent : run.node = cfg) (k : ConfigMaps) {active : ActiveConfig}
    (read : k.activeConfig = some active) (committed : run.committed k = true) :
    ∃ knobs c, applyNodeKnobs run.env = some knobs ∧
      activeConfiguration (run.after k) = some c ∧ HeadroomFits knobs.capacity rows c ∧
      (UnitsKept knobs.capacity rows c ↔ ∀ s ∈ rows, s.enabled = true →
        UnitFree (planRates s.plan).1 ∧ UnitFree (planRates s.plan).2) := by
  obtain rfl := parsed_services written parsed
  obtain ⟨c, published, swapped⟩ := after_swapped run read committed
  rw [ApplyRun.publishes, sent, if_pos rfl, Option.map_eq_some_iff] at published
  obtain ⟨knobs, known, rfl⟩ := published
  have installed := activeConfiguration_of_active swapped.active
  rw [swapped.configuration] at installed
  refine ⟨knobs, _, known, installed, ?_, unitsKept_iff knobs admitted⟩
  refine installed_headroom knobs fun s member enabled => ?_
  rw [installed_rates knobs admitted member enabled]
  rfl

/-! ## Two plans -/

/-- A service with nothing committed and a ceiling of 200 Gbps. -/
def burstOnlyConfig : ServiceConfig := { oneServiceConfig with plan := some ⟨0, 20000⟩ }

theorem burstOnlyConfig_admitted : AdmittedRows [burstOnlyConfig] where
  services := by
    refine List.forall_mem_singleton.mpr { oneServiceConfig_admitted with plan := ?_ }
    intro p given
    cases given
    exact ⟨by decide, ⟨by decide, by decide⟩, by decide, by decide⟩
  dpIds := by decide
  destinations := by decide

theorem oneServiceConfig_admittedRows : AdmittedRows [oneServiceConfig] :=
  ⟨List.forall_mem_singleton.mpr oneServiceConfig_admitted, by decide, by decide⟩

def undisturbedRun (rows : List ServiceConfig) : ApplyRun where
  env := defaultEnv
  fuel := 65536
  node := ⟨schemaVersion, kindServiceFull, (loadNodeConfig rows).map cfgOf, 0, []⟩
  fates := List.replicate 200 .works

theorem burstOnlyConfig_units_kept :
    ∃ bytes c, serializeNodeSnapshot (loadNodeConfig [burstOnlyConfig]) = .ok bytes ∧
      parseSnapshot bytes = some (undisturbedRun [burstOnlyConfig]).node ∧
      activeConfiguration ((undisturbedRun [burstOnlyConfig]).after loadedMaps) = some c ∧
      UnitsKept 5000000000 [burstOnlyConfig] c := by
  have sent : (serializeNodeSnapshot (loadNodeConfig [burstOnlyConfig])).toOption.bind
      parseSnapshot = some (undisturbedRun [burstOnlyConfig]).node := by decide +kernel
  obtain ⟨bytes, written, parsed⟩ := Option.bind_eq_some_iff.mp sent
  have serialized := Raise.toOption_eq_some.mp written
  obtain ⟨knobs, c, known, installed, _, kept⟩ := applied_units_kept_iff burstOnlyConfig_admitted
    serialized parsed (undisturbedRun [burstOnlyConfig]) rfl loadedMaps rfl (by decide +kernel)
  cases known
  refine ⟨bytes, c, serialized, parsed, installed, kept.mpr ?_⟩
  refine List.forall_mem_singleton.mpr fun _ => ⟨Or.inl rfl, Or.inr (by decide)⟩

/-- A plan of 1 Gbps is enforced as 1000000000 bytes per second, eight times as much, and takes
eight times its share from the headroom. -/
theorem oneServiceConfig_units_lost :
    ∃ bytes c, AdmittedRows [oneServiceConfig] ∧
      serializeNodeSnapshot (loadNodeConfig [oneServiceConfig]) = .ok bytes ∧
      parseSnapshot bytes = some (undisturbedRun [oneServiceConfig]).node ∧
      (undisturbedRun [oneServiceConfig]).committed loadedMaps = true ∧
      activeConfiguration ((undisturbedRun [oneServiceConfig]).after loadedMaps) = some c ∧
      (c.fairConfig (dataPlaneId oneServiceConfig)).map committedRate = some 1000000000 ∧
      bytesPerSecond (planRates oneServiceConfig.plan).1 = 125000000 ∧
      c.fairNode.map FairNodeConfig.headroomBps = some 4000000000 ∧
      ¬ UnitsKept 5000000000 [oneServiceConfig] c := by
  have sent : (serializeNodeSnapshot (loadNodeConfig [oneServiceConfig])).toOption.bind
      parseSnapshot = some (undisturbedRun [oneServiceConfig]).node := by decide +kernel
  obtain ⟨bytes, written, parsed⟩ := Option.bind_eq_some_iff.mp sent
  have evaluated :
      (activeConfiguration ((undisturbedRun [oneServiceConfig]).after loadedMaps)).map (fun c =>
        ((c.fairConfig (dataPlaneId oneServiceConfig)).map committedRate,
          c.fairNode.map FairNodeConfig.headroomBps)) =
      some (some 1000000000, some 4000000000) := by decide +kernel
  obtain ⟨c, installed, values⟩ := Option.map_eq_some_iff.mp evaluated
  obtain ⟨rate, headroom⟩ := Prod.mk.inj values
  refine ⟨bytes, c, oneServiceConfig_admittedRows, Raise.toOption_eq_some.mp written, parsed,
    by decide +kernel, installed, rate, by decide, headroom, fun units => ?_⟩
  obtain ⟨config, found, committed, _⟩ := units.rates oneServiceConfig (by simp) rfl
  rw [found, Option.map_some, committed] at rate
  exact absurd rate (by decide)

end ScrubbingGateway.Apply
