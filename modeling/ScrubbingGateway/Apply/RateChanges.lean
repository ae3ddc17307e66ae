import ScrubbingGateway.Apply.BucketRuns
import ScrubbingGateway.DataPlane.Metering

/-!
# Rates that change while packets flow

An apply gives buckets new limiters. The packet program fills a bucket anew when its stamp is not
the version of its limiter, but the helper writes the same version in every apply, so a bucket goes
on with the tokens it has. As long as no apply finds a bucket with more tokens than its new burst
capacity, no bucket that packets use is above the capacity.
-/

namespace ScrubbingGateway.Apply

open DataPlane Prog Transition

def Configuration.limiter (c : Configuration) : BucketMap → UInt32 → Option Limiter
  | .svcRlState, id => ((c.rows .svcRlConfigMap).bind (· id)).map svcLimiter
  | .vipCeilingState, id => ((c.rows .vipConfigMap).bind (· id)).map vipLimiter
  | .serviceIngressCapState, id => ((c.rows .fairConfigMap).bind (· id)).map fairCapLimiter
  | .svcCommittedState, id => ((c.rows .fairConfigMap).bind (· id)).map fairCommittedLimiter
  | .svcBurstState, id => ((c.rows .fairConfigMap).bind (· id)).map fairBurstLimiter
  | .nodeBurstState, _ => c.fairNode.map fairNodeLimiter

/-- Looking a key up through a slot is looking it up in the slot's rows, in maps without prefixes. -/
theorem slotRows_bind {c : ConfigMaps} {slot : UInt32} {o : Outer} {key : o.Key}
    (exact' : ∀ t, Inner.find o t key = t.lookup key) :
    (slotRows c slot o).bind (· key) = slotLookup c slot o key := by
  unfold slotRows slotLookup
  cases c.outer o slot with
  | none => rfl
  | some id =>
    rw [Option.bind_some, Option.bind_some]
    cases (c.inner o)[id]? with
    | none => rfl
    | some t => exact (exact' t).symm

theorem limiter_slotConfiguration (c : ConfigMaps) (slot : UInt32) (map : BucketMap)
    (key : UInt32) : (slotConfiguration c slot).limiter map key = slotLimiter c slot map key := by
  cases map with
  | nodeBurstState => rfl
  | _ => exact congrArg (Option.map _) (slotRows_bind fun _ => rfl)

theorem limiterOf_eq_limiter {c : ConfigMaps} {active : ActiveConfig}
    (read : c.activeConfig = some active) (map : BucketMap) (key : UInt32) :
    limiterOf c map key = (slotConfiguration c active.activeSlot).limiter map key := by
  rw [limiter_slotConfiguration]
  exact limiterOf_of_active ⟨active, read, rfl⟩ map key

namespace RateChanges

structure World where
  kernel : Kernel
  /-- The buckets packets used since their limiters changed last. -/
  used : List (BucketMap × UInt32)

/-- A packet reads the active slot once, so it comes before or after the commit of an apply. -/
inductive Label where
  | apply (run : ApplyRun)
  | receive (incoming : Incoming)

namespace World

def step (w : World) : Label → Option World
  | .apply run =>
    let config := run.after w.kernel.config
    some {
      kernel := { w.kernel with config }
      used := w.used.filter fun bucket =>
        limiterOf config bucket.1 bucket.2 = limiterOf w.kernel.config bucket.1 bucket.2 }
  | .receive incoming =>
    some {
      kernel := receive w.kernel incoming
      used := w.used ++ usedBy (xdpGateway incoming.frame) (w.kernel.at incoming.clock) }

def initial (k : Kernel) : World := ⟨k, []⟩

end World

/-- The maps as the loader leaves them, with a zeroed node bucket. -/
structure Loaded (k : Kernel) : Prop extends BucketRuns.Fresh k where
  node : ∀ key, ∀ bucket ∈ (k.runtime.buckets .nodeBurstState).lookup key, bucket = ⟨0, 0, 0, 0⟩

/-- No bucket used since its rate changed holds more than the burst capacity of the rate. -/
def Honoured (w : World) : Prop :=
  ∀ used ∈ w.used, ∀ bucket ∈ (w.kernel.runtime.buckets used.1).lookup used.2,
    ∀ l ∈ limiterOf w.kernel.config used.1 used.2,
      l.WithinBurst w.kernel.runtime.cpuCount w.kernel.runtime.noRefill bucket

/-- No bucket that a configuration would go on with holds more than its burst capacity there. -/
def FitsIn (r : Runtime) (c : Configuration) : Prop :=
  ∀ map, ∀ bucket ∈ (r.buckets map).entries, ∀ l ∈ c.limiter map bucket.1,
    bucket.2.cfgVersion = l.version → l.WithinBurst r.cpuCount r.noRefill bucket.2

/-- An apply lowers no rate below what a bucket holds. -/
def NoneOverfull (w : World) : Label → World → Prop
  | .apply run, _ =>
    ∀ c ∈ activeConfiguration w.kernel.config, ∀ c' ∈ run.publishes c, FitsIn w.kernel.runtime c'
  | .receive _, _ => True

/-! ## The invariant -/

structure Inv (w : World) : Prop where
  metered : w.kernel.Metered w.used
  active : w.kernel.config.activeConfig.isSome = true

theorem inv_initial {k : Kernel} (loaded : Loaded k) : Inv (.initial k) := by
  have config : k.config = loadedMaps := loaded.config
  refine ⟨⟨?_, fun map key member => (List.not_mem_nil member).elim⟩, ?_⟩
  · intro map key bucket found l limited _
    by_cases node : map = .nodeBurstState
    · subst node
      obtain rfl := loaded.node key bucket found
      intro d _
      cases d <;> exact UInt64.zero_le
    · have none : k.runtime.buckets map = ∅ := loaded.buckets map node
      rw [show (World.initial k).kernel.runtime.buckets map = ∅ from none] at found
      cases found
  · show k.config.activeConfig.isSome = true
    rw [config]
    rfl

theorem Inv.apply {w : World} (inv : Inv w) (run : ApplyRun)
    {next : World} (fits : NoneOverfull w (.apply run) next)
    (stepped : w.step (.apply run) = some next) : Inv next := by
  cases stepped
  obtain ⟨active, read⟩ := Option.isSome_iff_exists.mp inv.active
  obtain ⟨active', read', outcome⟩ := after_active run read
  refine ⟨⟨fun map key bucket found l limited stamped => ?_, ?_⟩, ?_⟩
  · have limited' : limiterOf (run.after w.kernel.config) map key = some l := limited
    rw [limiterOf_eq_limiter read'] at limited'
    split at outcome
    · -- the new configuration is the one the condition speaks of
      have configuration := activeConfiguration_of_active read
      exact fits _ configuration _ outcome.2 map _ (AList.mem_lookup_iff.mp found) l limited'
        stamped
    · refine inv.metered.sound map key bucket found l ?_ stamped
      show limiterOf w.kernel.config map key = some l
      rw [limiterOf_eq_limiter read, ← outcome.2]
      exact limited'
  · intro map key member bucket found l limited
    obtain ⟨before, same⟩ := List.mem_filter.mp member
    have same' : limiterOf (run.after w.kernel.config) map key = limiterOf w.kernel.config map key :=
      of_decide_eq_true same
    exact inv.metered.filled map key before bucket found l (same'.symm.trans limited)
  · show (run.after w.kernel.config).activeConfig.isSome = true
    rw [read']
    rfl

theorem Inv.step {w next : World} {label : Label} (inv : Inv w) (fits : NoneOverfull w label next)
    (stepped : w.step label = some next) : Inv next := by
  cases label with
  | apply run => exact inv.apply run fits stepped
  | receive incoming =>
    cases stepped
    refine ⟨inv.metered.receive incoming, ?_⟩
    have config : (receive w.kernel incoming).config = w.kernel.config := eval_config ..
    show (receive w.kernel incoming).config.activeConfig.isSome = true
    rw [config]
    exact inv.active

theorem Inv.honoured {w : World} (inv : Inv w) : Honoured w :=
  fun used member bucket found l limited =>
    (inv.metered.filled used.1 used.2 member bucket found l limited).2

/-- As long as no apply finds a bucket above its new burst capacity, the buckets packets use are
never above the capacity of the rates that are in force. -/
theorem rates_honoured (k : Kernel) (loaded : Loaded k) (labels : List Label)
    (fits : RunAll World.step NoneOverfull (.initial k) labels) (w : World)
    (ran : run World.step (.initial k) labels = some w) : Honoured w :=
  (run_invariant_of_runAll (fun _ _ _ inv fits stepped => inv.step fits stepped)
    (inv_initial loaded) fits ran).honoured

/-! ## A rate that goes down -/

instance decidableForallBucketMap {P : BucketMap → Prop} [DecidablePred P] :
    Decidable (∀ map, P map) :=
  decidable_of_iff (P .svcRlState ∧ P .vipCeilingState ∧ P .serviceIngressCapState ∧
      P .svcCommittedState ∧ P .svcBurstState ∧ P .nodeBurstState)
    ⟨fun ⟨rl, vip, cap, committed, burst, node⟩ map => by cases map <;> assumption,
      fun all => ⟨all _, all _, all _, all _, all _, all _⟩⟩

instance (w : World) : Decidable (Honoured w) := by
  unfold Honoured
  infer_instance

instance (r : Runtime) (c : Configuration) : Decidable (FitsIn r c) := by
  unfold FitsIn
  infer_instance

instance (w : World) (label : Label) (next : World) : Decidable (NoneOverfull w label next) := by
  cases label with
  | apply run =>
    unfold NoneOverfull
    infer_instance
  | receive incoming => exact .isTrue trivial

/-- A service for 203.0.113.1 with one rate, open on port 443. -/
def rateService (bps : UInt64) : CfgService :=
  { BucketRuns.hostService 1 with
    committedBps := bps
    ceilingBps := bps
    rules := [⟨0, 65535, 443, 443, ipprotoTcp, ruleEnabled⟩] }

def rateApply (bps : UInt64) : Label :=
  .apply ⟨defaultEnv, 65536,
    { BucketRuns.hostNode 1 with services := [rateService bps] }, List.replicate 100 .works⟩

def rateKernel : Kernel := BucketRuns.loadedKernel.setBucket .nodeBurstState 0 ⟨0, 0, 0, 0⟩

/-- A packet before and after the rate becomes another one. -/
def rateLabels (before after : UInt64) : List Label :=
  [rateApply before, .receive BucketRuns.hostFrame, rateApply after, .receive BucketRuns.hostFrame]

theorem rateKernel_loaded : Loaded rateKernel where
  config := rfl
  buckets map keyed := by
    rw [rateKernel, buckets_setBucket, if_neg keyed]
    rfl
  node key bucket found := by
    rw [rateKernel, buckets_setBucket, if_pos rfl, Table.lookup_insert_ite] at found
    split at found
    · exact (Option.some.inj found).symm
    · cases found

theorem raisedRate_honoured :
    RunAll World.step NoneOverfull (.initial rateKernel) (rateLabels 1000000 2000000) ∧
      ∃ w, run World.step (.initial rateKernel) (rateLabels 1000000 2000000) = some w ∧
        (.svcCommittedState, 1) ∈ w.used ∧ Honoured w := by
  have fits : RunAll World.step NoneOverfull (.initial rateKernel) (rateLabels 1000000 2000000) := by
    decide +kernel
  exact ⟨fits, _, rfl, by decide +kernel,
    rates_honoured rateKernel rateKernel_loaded _ fits _ rfl⟩

/-- The bucket keeps the tokens of the old rate, a thousand times the new burst capacity. -/
theorem loweredRate_not_honoured :
    Loaded rateKernel ∧ ∃ w, run World.step (.initial rateKernel) (rateLabels 1000000 1000) =
      some w ∧ (.svcCommittedState, 1) ∈ w.used ∧ ¬ Honoured w :=
  ⟨rateKernel_loaded, _, rfl, by decide +kernel, by decide +kernel⟩

end RateChanges

end ScrubbingGateway.Apply
