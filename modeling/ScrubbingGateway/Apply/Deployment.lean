import ScrubbingGateway.Apply.Acceptance
import ScrubbingGateway.Apply.SlotContents

/-!
# Deployed services

A snapshot goes from the worker to the packet program in three steps: it is written, read by the
helper and applied. What the packet program then finds is said here once for all its stages.
-/

namespace ScrubbingGateway.Apply

open Wire DataPlane Control Prog

/-! ## The applied configuration -/

variable {slot : UInt32}

/-- A service apply that went through leaves its snapshot in the slot it made active. -/
theorem configuration_of_applied {env : Env} {fuel : Nat} {node : NodeCfg}
    {before after : ConfigMaps} {fates : List Fate}
    (applied : steps configMachine ⟨applyNodeCfg env fuel node, before⟩ fates = ⟨.ret (), after⟩)
    (at' : ActiveSlot after slot) :
    ∃ knobs c, applyNodeKnobs env = some knobs ∧
      slotConfiguration after slot = Configuration.withServices knobs node.services c := by
  cases read : before.activeConfig with
  | none =>
    have gaveUp : Always configMachine (fun _ => True) (fun _ _ => False)
        (applyNodeCfg env fuel node) before :=
      (buildInactiveSlot_never read env fuel node).bind fun _ _ => False.elim
    exact (gaveUp.returned applied).elim
  | some active =>
    obtain ⟨knobs, known, swapped⟩ := (applyNodeCfg_swapped read fuel).returned applied
    obtain ⟨now, published, rfl⟩ := at'
    obtain rfl := Option.some.inj (swapped.active.symm.trans published)
    exact ⟨knobs, _, known, swapped.configuration⟩

variable {services : List CfgService} {k : ConfigMaps} {knobs : Knobs}

theorem serviceSlot_of_configuration {c : Configuration}
    (configured : slotConfiguration k slot = Configuration.withServices knobs services c) :
    ServiceSlot k slot knobs services := by
  intro o member
  have rows := congrArg (fun c => c.rows o) configured
  simp only [Configuration.withServices, if_pos member] at rows
  exact rows

theorem service_of_lookup (held : ServiceSlot k slot knobs services) {key : BitPrefix}
    {service : ServiceVal} (found : slotLookup k slot .serviceMap key = some service) :
    ∃ s ∈ services, service = serviceVal s := by
  obtain ⟨_, t, _, rows, find⟩ := inner_of_slotRows (held .serviceMap (by decide))
  rw [find] at found
  obtain ⟨stored, _, row⟩ := PrefixTrie.covers_of_longestMatch found
  have row' := (congrFun rows stored).symm.trans row
  obtain ⟨s, last, rfl⟩ := Option.map_eq_some_iff.mp row'
  exact ⟨s, mem_of_latest last, rfl⟩

/-! ## What the helper has checked -/

theorem buildInactiveSlot_checks (env : Env) (fuel : Nat) (node : NodeCfg)
    (before : ConfigMaps) :
    Always configMachine (fun _ => True) (fun _ _ => ∀ s ∈ node.services, serviceOk s = true)
      (buildInactiveSlot env fuel node) before := by
  have anything {α : Type} (p : ConfigProg α) (k : ConfigMaps) :
      Always configMachine (fun _ => True) (fun _ _ => True) p k :=
    Always.of_forall (fun _ => trivial) fun _ _ => trivial
  apply (anything _ before).bind
  intro _ k _
  apply (anything _ k).bind
  intro slots k _
  apply (anything _ k).bind
  intro knobs k _
  have written : Always configMachine (fun _ => True)
      (fun _ _ => ∀ s ∈ node.services, serviceOk s = true)
      (fillInners knobs fuel slots.activeSlot node.services) k := by
    refine (anything _ k).bind fun fd k _ => Always.bind ?_ fun _ _ checked => checked
    apply Always.forEach (fun done _ _ => ∀ s ∈ done, serviceOk s = true)
    · intro done s rest _ sum k checked
      apply Always.require_bind trivial
      intro ok
      apply Always.of_forall (fun _ => trivial)
      intro _ _ s' member
      rcases List.mem_append.mp member with earlier | here
      · exact checked s' earlier
      · exact List.mem_singleton.mp here ▸ ok
    · exact List.forall_mem_nil _
  apply written.bind
  intro _ k checked
  exact Always.of_forall (fun _ => trivial) fun _ _ => checked

theorem applyNodeCfg_checks (env : Env) (fuel : Nat) (node : NodeCfg) (before : ConfigMaps) :
    Always configMachine (fun _ => True) (fun _ _ => ∀ s ∈ node.services, serviceOk s = true)
      (applyNodeCfg env fuel node) before := by
  apply (buildInactiveSlot_checks env fuel node before).bind
  intro _ _ checked
  exact Always.of_forall (fun _ => trivial) fun _ _ => checked

/-! ## From the services to the slot -/

theorem dpId_of_accepted {s : ServiceConfig} (accepted : Accepted (recordOf s)) :
    ((cfgOf s).dpId.toNat : Int) = s.dpId :=
  accepted.dpId.u32

theorem nodup_dpIds_of_serialized {node : List ServiceConfig} (serialized : Serialized node)
    (distinct : (node.map ServiceConfig.dpId).Nodup) :
    ((node.map cfgOf).map CfgService.dpId).Nodup := by
  rw [List.map_map]
  unfold List.Nodup at distinct ⊢
  rw [List.pairwise_map] at distinct ⊢
  refine distinct.imp_of_mem fun {s s'} member member' other same => other ?_
  rw [← dpId_of_accepted (serialized.services s member),
    ← dpId_of_accepted (serialized.services s' member')]
  exact congrArg (fun id : UInt32 => (id.toNat : Int)) same

/-- A snapshot of the services was written, read and applied, and the slot is the one that became
active. -/
inductive Deployed (node : List ServiceConfig) (k : ConfigMaps) (slot : UInt32) : Prop where
  | intro {bytes : Bytes} {cfg : NodeCfg} {env : Env} {fuel : Nat} {before : ConfigMaps}
      {fates : List Fate} (written : serializeNodeSnapshot node = .ok bytes)
      (parsed : parseSnapshot bytes = some cfg)
      (applied : steps configMachine ⟨applyNodeCfg env fuel cfg, before⟩ fates = ⟨.ret (), k⟩)
      (active : ActiveSlot k slot)

namespace Deployed

variable {node : List ServiceConfig} {k : ConfigMaps} {slot : UInt32}

variable (deployed : Deployed node k slot)
include deployed

theorem serialized : Serialized node := by
  obtain ⟨written, _, _, _⟩ := deployed
  exact serialized_of_written written

theorem configuration :
    ∃ env knobs c, applyNodeKnobs env = some knobs ∧
      slotConfiguration k slot = Configuration.withServices knobs (node.map cfgOf) c := by
  obtain ⟨written, parsed, applied, active⟩ := deployed
  obtain rfl := parsed_services written parsed
  obtain ⟨knobs, c, known, configured⟩ := configuration_of_applied applied active
  exact ⟨_, knobs, c, known, configured⟩

theorem serviceSlot : ∃ knobs, ServiceSlot k slot knobs (node.map cfgOf) := by
  obtain ⟨_, knobs, _, _, configured⟩ := deployed.configuration
  exact ⟨knobs, serviceSlot_of_configuration configured⟩

theorem checked : ∀ s ∈ node, serviceOk (cfgOf s) = true := by
  obtain ⟨written, parsed, applied, _⟩ := deployed
  obtain rfl := parsed_services written parsed
  have passed := (applyNodeCfg_checks _ _ _ _).returned applied
  exact List.forall_mem_map.mp passed

end Deployed

/-! ## Deploying a given list of services -/

def snapshotBytes (node : List ServiceConfig) : Bytes :=
  (serializeNodeSnapshot node).toOption.getD []

def snapshotCfg (node : List ServiceConfig) : NodeCfg :=
  ⟨schemaVersion, kindServiceFull, node.map cfgOf, 0, []⟩

/-- The maps after the first apply, when all calls work. -/
def mapsWith (node : List ServiceConfig) : ConfigMaps :=
  (steps configMachine ⟨applyNodeCfg defaultEnv 65536 (snapshotCfg node), loadedMaps⟩
    (List.replicate 100 .works)).state

end ScrubbingGateway.Apply
