import ScrubbingGateway.Apply.Deployment
import ScrubbingGateway.Apply.RateUnits
import ScrubbingGateway.Lib.WordOps

/-!
# The arithmetic of the fair budgets

The helper clamps the rates of a service, splits and multiplies them, and sums the committed rates
of all services, everything in 64 bits. None of these operations leaves its range, so the budgets and
the headroom are the numbers they are meant to be.
-/

namespace ScrubbingGateway.Apply

open DataPlane Prog

/-! ## The operations -/

/-- The multiplication that `fair_rate_product` makes, if it makes it. -/
def fairRateProductOps (left right : UInt64) : List WordOp :=
  if left = 0 ∨ right = 0 then []
  else if left > fairRateMax / right then []
  else [.mul left right]

def fairBudgetOps (committedBps ceilingBps k : UInt64) : List WordOp :=
  .sub (clampFairRate ceilingBps) (clampFairRate committedBps) ::
    fairRateProductOps (clampFairRate ceilingBps) k

/-- The end of `apply_write_service`. -/
def addCommittedOps (sum committed : UInt64) : List WordOp :=
  .sub 0xffffffffffffffff sum ::
    if 0xffffffffffffffff - sum < committed then [] else [.add sum committed]

def nodeHeadroomOps (capacity sumCommitted : UInt64) : List WordOp :=
  if capacity > sumCommitted then [.sub capacity sumCommitted] else []

/-- The operations on the way through the services, from the sum so far. -/
def writeServicesOps (knobs : Knobs) : UInt64 → List CfgService → List WordOp
  | _, [] => []
  | sum, s :: rest =>
    let committed := (serviceBudget knobs s).committedBps
    fairBudgetOps s.committedBps s.ceilingBps knobs.k ++ addCommittedOps sum committed ++
      writeServicesOps knobs (addCommitted sum committed) rest

def buildOps (knobs : Knobs) (services : List CfgService) : List WordOp :=
  writeServicesOps knobs 0 services ++
    nodeHeadroomOps knobs.capacity (committedSum knobs services)

/-! ## One service -/

/-- The budget of a service is what its rates say. -/
structure BudgetSound (committedBps ceilingBps k refPkt : UInt64) : Prop where
  exact_ : ∀ op ∈ fairBudgetOps committedBps ceilingBps k, op.Exact
  committed_add_burst :
    (fairBudget committedBps ceilingBps k refPkt).committedBps.toNat +
        (fairBudget committedBps ceilingBps k refPkt).burstBps.toNat =
      min ceilingBps.toNat fairRateMax.toNat
  ceiling_le_cap : min ceilingBps.toNat fairRateMax.toNat ≤
    (fairBudget committedBps ceilingBps k refPkt).capBps.toNat
  cap : (fairBudget committedBps ceilingBps k refPkt).capBps.toNat =
    min fairRateMax.toNat (k.toNat * min ceilingBps.toNat fairRateMax.toNat)

variable {committed ceiling : UInt64}

theorem clampFairRate_sub_exact (ordered : committed ≤ ceiling) :
    (WordOp.sub (clampFairRate ceiling) (clampFairRate committed)).Exact := by
  have below := UInt64.le_iff_toNat_le.mp ordered
  simp only [WordOp.Exact, clampFairRate_toNat]
  omega

theorem product_le_of_le_div {left right : UInt64} (nonzero : right ≠ 0)
    (within : ¬ left > fairRateMax / right) :
    left.toNat * right.toNat ≤ fairRateMax.toNat := by
  have pos : 0 < right.toNat := Nat.pos_of_ne_zero fun zero => nonzero (UInt64.toNat_inj.mp zero)
  have below : left.toNat ≤ fairRateMax.toNat / right.toNat := by
    rw [gt_iff_lt, UInt64.lt_iff_toNat_lt, UInt64.toNat_div] at within
    omega
  exact (Nat.le_div_iff_mul_le pos).mp below

theorem fairRateProductOps_exact (left right : UInt64) :
    ∀ op ∈ fairRateProductOps left right, op.Exact := by
  unfold fairRateProductOps
  split
  · exact List.forall_mem_nil _
  next nonzero =>
    split
    · exact List.forall_mem_nil _
    next within =>
      have small := product_le_of_le_div (not_or.mp nonzero).2 within
      exact List.forall_mem_singleton.mpr (small.trans_lt (by decide))

theorem fairRateProduct_toNat (left right : UInt64) :
    (fairRateProduct left right).toNat = min fairRateMax.toNat (right.toNat * left.toNat) := by
  unfold fairRateProduct
  split
  next zero =>
    rcases zero with rfl | rfl <;> simp
  next nonzero =>
    obtain ⟨_, right_ne⟩ := not_or.mp nonzero
    split
    next above =>
      have pos : 0 < right.toNat :=
        Nat.pos_of_ne_zero fun zero => right_ne (UInt64.toNat_inj.mp zero)
      rw [gt_iff_lt, UInt64.lt_iff_toNat_lt, UInt64.toNat_div] at above
      have exceeds := (Nat.div_lt_iff_lt_mul pos).mp above
      rw [Nat.mul_comm] at exceeds
      omega
    next within =>
      have small := product_le_of_le_div right_ne within
      have exact_ : (WordOp.mul left right).Exact := small.trans_lt (by decide)
      rw [exact_.toNat_mul, Nat.mul_comm]
      rw [Nat.mul_comm] at small
      omega

theorem budgetSound {k : UInt64} (ordered : committed ≤ ceiling) (k_pos : 1 ≤ k) (refPkt : UInt64) :
    BudgetSound committed ceiling k refPkt := by
  have difference := clampFairRate_sub_exact ordered
  have cap : (fairBudget committed ceiling k refPkt).capBps.toNat =
      min fairRateMax.toNat (k.toNat * min ceiling.toNat fairRateMax.toNat) := by
    change (fairRateProduct (clampFairRate ceiling) k).toNat = _
    rw [fairRateProduct_toNat, clampFairRate_toNat]
  constructor
  · exact List.forall_mem_cons.mpr ⟨difference, fairRateProductOps_exact _ _⟩
  · change (clampFairRate committed).toNat +
      (clampFairRate ceiling - clampFairRate committed).toNat = _
    rw [difference.toNat_sub, Nat.add_sub_cancel' difference, clampFairRate_toNat]
  · -- at least one times the ceiling
    have once : 1 ≤ k.toNat := UInt64.le_iff_toNat_le.mp k_pos
    rw [cap]
    exact le_min (Nat.min_le_right _ _) (Nat.le_mul_of_pos_left _ once)
  · exact cap

/-! ## All services -/

theorem addCommittedOps_exact (sum committed : UInt64) :
    ∀ op ∈ addCommittedOps sum committed, op.Exact := by
  have small := sum.toNat_lt
  have rest : (WordOp.sub 0xffffffffffffffff sum).Exact := Nat.le_pred_of_lt small
  unfold addCommittedOps
  rw [List.forall_mem_cons]
  constructor
  · exact rest
  split
  · exact List.forall_mem_nil _
  next within =>
    rw [UInt64.lt_iff_toNat_lt, rest.toNat_sub,
      show (0xffffffffffffffff : UInt64).toNat = 2 ^ 64 - 1 from rfl] at within
    simp only [List.forall_mem_singleton, WordOp.Exact]
    omega

theorem nodeHeadroomOps_exact (capacity sum : UInt64) :
    ∀ op ∈ nodeHeadroomOps capacity sum, op.Exact := by
  unfold nodeHeadroomOps
  split
  next above => exact List.forall_mem_singleton.mpr (UInt64.lt_iff_toNat_lt.mp above).le
  · exact List.forall_mem_nil _

variable {services : List CfgService} {knobs : Knobs}

theorem writeServicesOps_exact (ordered : ∀ s ∈ services, s.committedBps ≤ s.ceilingBps)
    (sum : UInt64) : ∀ op ∈ writeServicesOps knobs sum services, op.Exact := by
  induction services generalizing sum with
  | nil => exact List.forall_mem_nil _
  | cons s rest ih =>
    rw [List.forall_mem_cons] at ordered
    simp only [writeServicesOps, List.forall_mem_append]
    refine ⟨⟨?_, addCommittedOps_exact _ _⟩, ih ordered.2 _⟩
    exact List.forall_mem_cons.mpr
      ⟨clampFairRate_sub_exact ordered.1, fairRateProductOps_exact _ _⟩

theorem ordered_of_serviceOk {s : CfgService} (ok : serviceOk s = true) :
    s.committedBps ≤ s.ceilingBps := by
  simp only [serviceOk, Bool.not_eq_true', Bool.or_eq_false_iff, decide_eq_false_iff_not] at ok
  exact UInt64.not_lt.mp ok.2

/-- The headroom is what the capacity leaves of the sum, whether or not the sum has saturated. -/
theorem headroom_toNat (knobs : Knobs) (services : List CfgService) :
    (nodeHeadroom knobs.capacity (committedSum knobs services)).toNat =
      knobs.capacity.toNat -
        (services.map fun s => min s.committedBps.toNat fairRateMax.toNat).sum := by
  rw [nodeHeadroom_toNat knobs.capacity (committedSum_toNat knobs services)]
  have each (s : CfgService) : (serviceBudget knobs s).committedBps.toNat =
      min s.committedBps.toNat fairRateMax.toNat := clampFairRate_toNat s.committedBps
  simp only [each]

/-! ## The builder -/

section Builder

variable {env : Env} {fuel : Nat} {node : NodeCfg} {before after : ConfigMaps}

theorem fairNode_of_built {fates : List Fate} {build : ServiceBuild}
    (built : steps configMachine ⟨buildInactiveSlot env fuel node, before⟩ fates =
      ⟨.ret build, after⟩) :
    ∃ knobs, applyNodeKnobs env = some knobs ∧
      after.fairNodeConfig build.slots.inactiveSlot =
        some (fairNodeConfigOf knobs.capacity (committedSum knobs node.services)) := by
  cases read : before.activeConfig with
  | none => exact ((buildInactiveSlot_never read env fuel node).returned built).elim
  | some active =>
    obtain ⟨_, _, knobs, fd, mid, known, candidate, placing, _⟩ :=
      (buildInactiveSlot_candidate read fuel).returned built
    exact ⟨knobs, known, (congrFun placing.fairNode _).trans candidate.fairNode⟩

end Builder

/-- The fair budgets of all rates, and the headroom of every list of services that the builder
accepts. -/
theorem fair_budgets_sound :
    (∀ committed ceiling k refPkt : UInt64, committed ≤ ceiling → 1 ≤ k → 1 ≤ refPkt →
      BudgetSound committed ceiling k refPkt) ∧
    ∀ (env : Env) (fuel : Nat) (node : NodeCfg) (before after : ConfigMaps) (fates : List Fate)
      (build : ServiceBuild),
      steps configMachine ⟨buildInactiveSlot env fuel node, before⟩ fates = ⟨.ret build, after⟩ →
      ∃ knobs v, applyNodeKnobs env = some knobs ∧
        (∀ op ∈ buildOps knobs node.services, op.Exact) ∧
        after.fairNodeConfig build.slots.inactiveSlot = some v ∧
        v.headroomBps.toNat = knobs.capacity.toNat -
          (node.services.map fun s => min s.committedBps.toNat fairRateMax.toNat).sum := by
  constructor
  · intro committed ceiling k refPkt ordered k_pos _
    exact budgetSound ordered k_pos refPkt
  · intro env fuel node before after fates build built
    have checked := (buildInactiveSlot_checks env fuel node before).returned built
    obtain ⟨knobs, known, installed⟩ := fairNode_of_built built
    refine ⟨knobs, _, known, ?_, installed, headroom_toNat knobs node.services⟩
    have ordered := fun s member => ordered_of_serviceOk (checked s member)
    exact List.forall_mem_append.mpr ⟨writeServicesOps_exact ordered 0, nodeHeadroomOps_exact _ _⟩

set_option maxRecDepth 20000 in
/-- The largest rates, and two small services. -/
theorem nestedNode_budgets :
    (fairBudget 20000000000 0xffffffffffffffff 0xffffffffffffffff 1).capBps.toNat = 16000000000 ∧
      ∃ v, nestedMaps.fairNodeConfig 1 = some v ∧ v.headroomBps.toNat = 4999998000 := by
  constructor
  · exact (fair_budgets_sound.1 20000000000 0xffffffffffffffff 0xffffffffffffffff 1 (by decide)
      (by decide) (by decide)).cap
  · have built : steps configMachine ⟨buildInactiveSlot defaultEnv 65536 nestedNode, loadedMaps⟩
        (List.replicate 52 .works) = ⟨.ret ⟨⟨0, 1, 0⟩, 5000000000, 2000⟩, _⟩ := rfl
    obtain ⟨knobs, v, known, _, installed, headroom⟩ :=
      fair_budgets_sound.2 defaultEnv 65536 nestedNode loadedMaps _ _ _ built
    cases known
    exact ⟨v, installed, headroom⟩

end ScrubbingGateway.Apply
