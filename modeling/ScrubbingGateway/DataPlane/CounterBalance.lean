import ScrubbingGateway.DataPlane.Accounting

/-!
# Balance of the counters over runs

Frames of one CPU in any number and order, between which the configuration and every map may
change, and other CPUs may make records of services. What is counted for services and for the node
stays in balance.
-/

namespace ScrubbingGateway.DataPlane

open Prog Transition

def reasonCodes : List UInt32 :=
  [DropReason.ipv6Unsupported, .unsupportedEthertype, .malformedIpv4, .fragmentUnsupported,
    .bogonDrop, .serviceMiss, .serviceDisabled, .udpAmplificationDrop, .blacklistDrop, .notAllowed,
    .rateLimitDrop, .serviceCeilingDrop, .congestionDrop, .ingressCapDrop, .vipCeilingDrop,
    .mapError, .nexthopUnresolved].map DropReason.code

/-- The drops of a service are the sum of its drops by reason. -/
def SvcStat.Balanced (stat : SvcStat) : Prop :=
  stat.dropPkts = (reasonCodes.map stat.dropByReason).sum

/-- The drops counted for services, by reason. -/
def Counters.servicesTotal (c : Counters) (reason : DropReason) : Nat :=
  Table.total c.services fun stat => (stat.dropByReason reason.code).toNat

structure Counters.Balanced (c : Counters) : Prop where
  service : ∀ id stat, c.services.lookup id = some stat → stat.Balanced
  node : ∀ reason : DropReason, ∃ total, c.node reason.code = some total ∧
    c.servicesTotal reason ≤ total.toNat

/-! ## One contribution -/

namespace SvcStat

theorem Balanced.addClean {stat : SvcStat} (balanced : stat.Balanced) (bytes : UInt16) :
    (stat.addClean bytes).Balanced :=
  balanced

theorem Balanced.addDrop {stat : SvcStat} (balanced : stat.Balanced) (bytes : UInt16)
    (reason : DropReason) : (stat.addDrop bytes reason.code).Balanced := by
  have distinct : reasonCodes.Nodup := by decide
  have grown := Sums.sum_map_update distinct stat.dropByReason reason.code 1
  rw [if_pos (by cases reason <;> decide), ← balanced] at grown
  exact grown.symm

theorem addDrop_dropByReason (stat : SvcStat) (bytes : UInt16) (dropped reason : DropReason) :
    (stat.addDrop bytes dropped.code).dropByReason reason.code =
      if reason = dropped then stat.dropByReason reason.code + 1
      else stat.dropByReason reason.code := by
  simp only [addDrop]
  split
  next same => rw [same, Function.update_self]
  next other => exact Function.update_of_ne (fun equal => other (DropReason.code_injective equal)) ..

end SvcStat

namespace Counters

variable {c : Counters}

theorem record_balanced (balanced : c.Balanced) (id : UInt32) :
    ((c.services.lookup id).getD .zero).Balanced := by
  cases found : c.services.lookup id with
  | none => rfl
  | some stat => exact balanced.service id stat found

theorem servicesTotal_count (id : UInt32) (change : SvcStat → SvcStat) (reason : DropReason) :
    (c.count id change).servicesTotal reason +
        (((c.services.lookup id).getD .zero).dropByReason reason.code).toNat =
      c.servicesTotal reason +
        ((change ((c.services.lookup id).getD .zero)).dropByReason reason.code).toNat := by
  have written := Table.total_insert c.services
    (fun stat => (stat.dropByReason reason.code).toNat) id
    (change ((c.services.lookup id).getD .zero))
  -- a missing record has no share in the total, nor has a record of zeros
  have share : ((c.services.lookup id).map fun stat => (stat.dropByReason reason.code).toNat).getD 0
      = (((c.services.lookup id).getD .zero).dropByReason reason.code).toNat := by
    cases c.services.lookup id with
    | none | some => rfl
  rwa [share] at written

theorem service_count {change : SvcStat → SvcStat} (balanced : c.Balanced) (id : UInt32)
    (keeps : ∀ stat : SvcStat, stat.Balanced → (change stat).Balanced) (id' : UInt32)
    (stat : SvcStat) (found : (c.count id change).services.lookup id' = some stat) :
    stat.Balanced := by
  rcases Table.lookup_insert_eq_some.mp found with ⟨_, rfl⟩ | ⟨_, found⟩
  · exact keeps _ (record_balanced balanced id)
  · exact balanced.service id' stat found

theorem Balanced.count {change : SvcStat → SvcStat} (balanced : c.Balanced) (id : UInt32)
    (keeps : ∀ stat : SvcStat, stat.Balanced → (change stat).Balanced)
    (dropsNone : ∀ stat, (change stat).dropByReason = stat.dropByReason) :
    (c.count id change).Balanced where
  service := service_count balanced id keeps
  node reason := by
    obtain ⟨total, counted, bounded⟩ := balanced.node reason
    have written := servicesTotal_count (c := c) id change reason
    rw [dropsNone] at written
    exact ⟨total, counted, by omega⟩

theorem toNat_succ_le (n : UInt64) : (n + 1).toNat ≤ n.toNat + 1 := by
  rw [UInt64.toNat_add]
  exact Nat.mod_le _ _

theorem toNat_succ {n : UInt64} (few : n.toNat + 1 < 2 ^ 64) : (n + 1).toNat = n.toNat + 1 := by
  rw [UInt64.toNat_add]
  exact Nat.mod_eq_of_lt few

variable {reason : DropReason} {total : UInt64}

theorem countDrop_node_some (counted : c.node reason.code = some total) (dropped : DropReason) :
    (c.countDrop dropped).node reason.code =
      some (if reason = dropped then total + 1 else total) := by
  rw [countDrop_node, counted]
  split <;> rfl

theorem Balanced.countDrop (balanced : c.Balanced) (dropped : DropReason)
    (few : ∀ total, c.node dropped.code = some total → total.toNat + 1 < 2 ^ 64) :
    (c.countDrop dropped).Balanced where
  service := balanced.service
  node reason := by
    obtain ⟨total, counted, bounded⟩ := balanced.node reason
    refine ⟨_, countDrop_node_some counted dropped, ?_⟩
    show c.servicesTotal reason ≤ _
    split
    next same =>
      rw [toNat_succ (few total (same ▸ counted))]
      omega
    · exact bounded

/-- A drop of a service counts once for the node and at most once for the services. -/
theorem Balanced.countServiceDrop (balanced : c.Balanced) (owner : UInt32) (bytes : UInt16)
    (dropped : DropReason)
    (few : ∀ total, c.node dropped.code = some total → total.toNat + 1 < 2 ^ 64) :
    ((c.countDrop dropped).count owner (·.addDrop bytes dropped.code)).Balanced where
  service := service_count (balanced.countDrop dropped few) owner fun _ kept =>
    kept.addDrop bytes dropped
  node reason := by
    obtain ⟨total, counted, bounded⟩ := balanced.node reason
    refine ⟨_, countDrop_node_some counted dropped, ?_⟩
    have written := servicesTotal_count (c := c.countDrop dropped) owner
      (·.addDrop bytes dropped.code) reason
    have before : (c.countDrop dropped).servicesTotal reason = c.servicesTotal reason := rfl
    rw [before, SvcStat.addDrop_dropByReason] at written
    split at written
    next same =>
      subst same
      rw [if_pos rfl, toNat_succ (few total counted)]
      have grown := toNat_succ_le
        (((c.countDrop reason).services.lookup owner).getD .zero |>.dropByReason reason.code)
      omega
    next other =>
      rw [if_neg other]
      omega

/-- One contribution keeps the balance, as long as no counter wraps around. -/
theorem Balanced.add (balanced : c.Balanced) (owner : UInt32) (bytes : UInt16)
    (contribution : Contribution)
    (few : ∀ (reason : DropReason) total, c.node reason.code = some total →
      total.toNat + 1 < 2 ^ 64) :
    (c.add owner bytes contribution).Balanced := by
  cases contribution with
  | dropped reason =>
    simp only [Counters.add]
    split
    · exact balanced.countDrop reason (few reason)
    · exact balanced.countServiceDrop owner bytes reason (few reason)
  | clean => exact balanced.count owner (fun _ kept => kept.addClean bytes) fun _ => rfl
  | bypassed => exact ⟨balanced.service, balanced.node⟩
  | arp => exact balanced

theorem Mapped.add (mapped : c.Mapped) (owner : UInt32) (bytes : UInt16)
    (contribution : Contribution) : (c.add owner bytes contribution).Mapped where
  node reason := by
    rw [add_node]
    split
    · rw [Option.isSome_map]
      exact mapped.node reason
    · exact mapped.node reason
  bypass := by
    cases contribution with
    | dropped reason =>
      simp only [Counters.add]
      split
      · exact mapped.bypass
      · exact mapped.bypass
    | clean | arp => exact mapped.bypass
    | bypassed => simpa only [Counters.add, Option.isSome_map] using mapped.bypass

end Counters

/-! ## Runs -/

namespace CounterRuns

inductive Label where
  | frame (frame : Frame)
  /-- A packet on another CPU makes a record, which is zero on this one. -/
  | otherCpu (id : UInt32)
  /-- Everything but the counters changes. -/
  | elsewhere (config : ConfigMaps) (runtime : Runtime)

def step (k : Kernel) : Label → Option Kernel
  | .frame frame =>
    match eval packetMachine (xdpGateway frame) k with
    | (.returned _, after) => some after
    | _ => none
  | .otherCpu id => some ((PacketCall.svcStatInsert id).exec k).2
  | .elsewhere config runtime => some
    { config
      runtime := { runtime with
        counterMap := k.runtime.counterMap
        svcStatMap := k.runtime.svcStatMap
        bypassCounter := k.runtime.bypassCounter } }

/-- A frame comes in while no service has the id zero and a record for it can be made. -/
def Countable (k : Kernel) (label : Label) (_ : Kernel) : Prop :=
  match label with
  | .frame frame => NoZeroId k.config ∧ StatFits k.runtime (ownerOf k.config frame)
  | _ => True

def Label.frames : Label → Nat
  | .frame _ => 1
  | _ => 0

/-- The number of frames in a run. -/
def frameCount (labels : List Label) : Nat := (labels.map Label.frames).sum

/-- The state of the counters when at most so many more frames come in. -/
structure Inv (k : Kernel) (left : Nat) : Prop where
  mapped : k.runtime.counters.Mapped
  balanced : k.runtime.counters.Balanced
  few : ∀ (reason : DropReason) total, k.runtime.counters.node reason.code = some total →
    total.toNat + left < 2 ^ 64

variable {k next : Kernel} {left : Nat}

theorem Inv.unchanged (inv : Inv k left) (same : next.runtime.counters = k.runtime.counters) :
    Inv next left where
  mapped := same ▸ inv.mapped
  balanced := same ▸ inv.balanced
  few reason total counted := inv.few reason total (same ▸ counted)

theorem Inv.step {label : Label} (inv : Inv k (label.frames + left))
    (countable : Countable k label next) (stepped : step k label = some next) : Inv next left := by
  cases label with
  | frame frame =>
    change Inv k (1 + left) at inv
    obtain ⟨v, after, ran, contribution, accounted, _⟩ :=
      xdpGateway_accounted frame inv.mapped countable.1 countable.2
    rw [CounterRuns.step, ran] at stepped
    cases stepped
    have few (reason : DropReason) (total : UInt64)
        (counted : k.runtime.counters.node reason.code = some total) :
        total.toNat + 1 < 2 ^ 64 := by
      have bound := inv.few reason total counted
      omega
    refine ⟨?_, ?_, ?_⟩
    · rw [accounted.counters]
      exact inv.mapped.add _ _ contribution
    · rw [accounted.counters]
      exact inv.balanced.add _ _ contribution few
    · intro reason total counted
      rw [accounted.counters] at counted
      obtain ⟨earlier, counted'⟩ := Option.isSome_iff_exists.mp (inv.mapped.node reason)
      have bound := inv.few reason earlier counted'
      have grown : total.toNat ≤ earlier.toNat + 1 := by
        rw [Counters.add_node, counted'] at counted
        split at counted <;> cases counted
        · exact Counters.toNat_succ_le earlier
        · exact Nat.le_succ _
      omega
  | otherCpu id =>
    change Inv k (0 + left) at inv
    rw [Nat.zero_add] at inv
    cases stepped
    show Inv (PacketCall.exec (.svcStatInsert id) k).2 left
    rw [PacketCall.exec]
    split
    next missing =>
      -- the new record is the zero record counted with nothing
      have made : (k.withRuntime (k.runtime.setSvcStat id .zero)).runtime.counters =
          k.runtime.counters.count id fun stat => stat := by
        rw [Counters.count]
        show _ = Counters.mk _ (k.runtime.svcStatMap.insert id
          ((k.runtime.svcStatMap.lookup id).getD .zero)) _
        rw [Option.isNone_iff_eq_none.mp missing.1]
        rfl
      refine ⟨⟨inv.mapped.node, inv.mapped.bypass⟩, ?_, inv.few⟩
      show Counters.Balanced (k.withRuntime (k.runtime.setSvcStat id .zero)).runtime.counters
      rw [made]
      exact inv.balanced.count id (fun _ kept => kept) fun _ => rfl
    · exact inv.unchanged rfl
  | elsewhere config runtime =>
    change Inv k (0 + left) at inv
    rw [Nat.zero_add] at inv
    cases stepped
    exact inv.unchanged rfl

theorem inv_run {final : Kernel} {labels : List Label} (inv : Inv k (frameCount labels))
    (countable : RunAll step Countable k labels) (ran : run step k labels = some final) :
    Inv final 0 := by
  induction labels generalizing k with
  | nil =>
    cases ran
    exact inv
  | cons label labels ih =>
    obtain ⟨next, stepped, rest⟩ := run_cons_some ran
    obtain ⟨here, later⟩ := countable next stepped
    exact ih (inv.step here stepped) later rest

/-- In every run in which no service has the id zero and no counter can wrap around, the counters
stay in balance, and whatever frame comes next is counted exactly once. -/
theorem frames_counted_once (k final : Kernel) (labels : List Label)
    (mapped : k.runtime.counters.Mapped) (balanced : k.runtime.counters.Balanced)
    (few : ∀ (reason : DropReason) total, k.runtime.counters.node reason.code = some total →
      total.toNat + frameCount labels < 2 ^ 64)
    (countable : RunAll step Countable k labels) (ran : run step k labels = some final) :
    final.runtime.counters.Balanced ∧
    ∀ frame, NoZeroId final.config → StatFits final.runtime (ownerOf final.config frame) →
      ∃ v after, eval packetMachine (xdpGateway frame) final = (.returned v, after) ∧
        ∃! contribution, Accounted final frame contribution v after := by
  have inv := inv_run ⟨mapped, balanced, few⟩ countable ran
  exact ⟨inv.balanced, fun frame nonzero fits =>
    xdpGateway_accounted frame inv.mapped nonzero fits⟩

theorem oneServiceMaps_noZeroId : NoZeroId oneServiceMaps := by
  intro frame service found
  obtain ⟨_, found⟩ := Option.ite_none_right_eq_some.mp found
  obtain ⟨key, _, stored⟩ := PrefixTrie.covers_of_longestMatch found
  rw [Table.lookup_insert_ite] at stored
  split at stored
  · cases stored
    decide
  · cases stored

theorem tcpFrame_counted_once :
    ∃ final, run step oneServiceKernel [.frame tcpFrame] = some final ∧
      final.runtime.counters.Balanced ∧
      ∃ v after, eval packetMachine (xdpGateway tcpFrame) final = (.returned v, after) ∧
        ∃! contribution, Accounted final tcpFrame contribution v after := by
  have counted := frames_counted_once oneServiceKernel _ [.frame tcpFrame]
    ⟨fun _ => rfl, rfl⟩ ⟨(fun _ _ found => nomatch found), fun _ => ⟨0, rfl, Nat.le_refl 0⟩⟩
    (by
      intro reason total zero
      cases zero
      decide)
    (fun _ _ => ⟨⟨oneServiceMaps_noZeroId, .inr (by decide)⟩, trivial⟩) rfl
  exact ⟨_, rfl, counted.1, counted.2 tcpFrame oneServiceMaps_noZeroId (.inr (by decide))⟩

/-- A service under the id zero, which the apply helper refuses, with the rule, the rates and the
next hop of the service above. -/
def zeroIdKernel : Kernel :=
  let rule : RuleEntry := ⟨0, 65535, 443, 443, ipprotoTcp, ruleEnabled⟩
  let maps := loadedMaps.setInner .serviceMap 0
    (AList.insert (serviceKey 32 0xcb007101) ⟨0, 1, 0, 0⟩ ∅)
  let maps := maps.setInner .ruleBlockMap 0 (AList.insert 0 ⟨1, 1, fun _ => rule⟩ ∅)
  { config := maps.setInner .fairConfigMap 0 (AList.insert 0 ⟨1, 1000000, 0, 1000000, 1000⟩ ∅)
    runtime := { oneServiceKernel.runtime with
      nexthopMap := AList.insert 0 ⟨[2, 0, 0, 0, 0, 1], [2, 0, 0, 0, 0, 2], 1⟩ ∅ } }

/-- Its packet is sent out and counted nowhere. -/
theorem zeroIdService_not_counted :
    zeroIdKernel.runtime.counters.Mapped ∧
    StatFits zeroIdKernel.runtime (ownerOf zeroIdKernel.config tcpFrame) ∧
    ∃ v after, eval packetMachine (xdpGateway tcpFrame) zeroIdKernel = (.returned v, after) ∧
      v.action = .redirect ∧
        ∀ contribution, ¬ Accounted zeroIdKernel tcpFrame contribution v after := by
  have mapped : zeroIdKernel.runtime.counters.Mapped := ⟨fun _ => rfl, rfl⟩
  obtain ⟨v, after, ran, sent, same⟩ : ∃ v after,
      eval packetMachine (xdpGateway tcpFrame) zeroIdKernel = (.returned v, after) ∧
        v.action = .redirect ∧ after.runtime.counters = zeroIdKernel.runtime.counters :=
    ⟨_, _, rfl, rfl, rfl⟩
  refine ⟨mapped, .inr (by decide), v, after, ran, sent, ?_⟩
  intro contribution accounted
  -- the counters are as before, and only an ARP frame leaves them so
  have unchanged : Contribution.arp = contribution :=
    Counters.add_injective mapped (same.symm.trans accounted.counters)
  have isArp := accounted.arp unchanged.symm
  revert isArp
  unfold IsArp
  decide

end CounterRuns

end ScrubbingGateway.DataPlane
