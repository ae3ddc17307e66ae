import ScrubbingGateway.Apply.Helper

/-!
# What the helper's operations leave alone

`Frozen slot before now` says that nothing reachable through a slot has changed, and that no inner
map that existed has changed. Every operation of the helper gets one rule that says which state
follows when it works; from it the stages are put together.
-/

namespace ScrubbingGateway.Apply

open DataPlane Prog

/-- Everything reachable through a slot, and every inner map that existed, is as it was. -/
structure Frozen (slot : UInt32) (before now : ConfigMaps) : Prop where
  outer : ∀ o, now.outer o slot = before.outer o slot
  inner : ∀ o id, id < (before.inner o).length → (now.inner o)[id]? = (before.inner o)[id]?
  grows : ∀ o, (before.inner o).length ≤ (now.inner o).length
  fairNode : now.fairNodeConfig slot = before.fairNodeConfig slot
  gblMeta : now.gblMeta slot = before.gblMeta slot

/-- Nothing reachable through the active slot has changed, nor has the choice of the slot. -/
structure Untouched (slot : UInt32) (before now : ConfigMaps) : Prop
    extends Frozen slot before now where
  active : now.activeConfig = before.activeConfig

namespace Frozen

variable {slot : UInt32} {before now : ConfigMaps}

theorem refl (slot : UInt32) (k : ConfigMaps) : Frozen slot k k :=
  ⟨fun _ => rfl, fun _ _ _ => rfl, fun _ => Nat.le_refl _, rfl, rfl⟩

variable (frozen : Frozen slot before now)
include frozen

theorem setActive (config : ActiveConfig) : Frozen slot before (now.setActive config) :=
  ⟨frozen.outer, frozen.inner, frozen.grows, frozen.fairNode, frozen.gblMeta⟩

theorem setFairNode {other : UInt32} (v : FairNodeConfig) (away : other ≠ slot) :
    Frozen slot before (now.setFairNode other v) := by
  refine ⟨frozen.outer, frozen.inner, frozen.grows, ?_, frozen.gblMeta⟩
  simp only [ConfigMaps.setFairNode, Ne.symm away, if_false]
  exact frozen.fairNode

theorem setGblMeta {other : UInt32} (v : GblMeta) (away : other ≠ slot) :
    Frozen slot before (now.setGblMeta other v) := by
  refine ⟨frozen.outer, frozen.inner, frozen.grows, frozen.fairNode, ?_⟩
  simp only [ConfigMaps.setGblMeta, Ne.symm away, if_false]
  exact frozen.gblMeta

theorem addInner (o : Outer) (t : Inner o) : Frozen slot before (now.addInner o t) := by
  refine ⟨frozen.outer, ?_, ?_, frozen.fairNode, frozen.gblMeta⟩
  · intro o' id old
    by_cases same : o' = o
    · subst same
      simp only [ConfigMaps.addInner, Function.update_self]
      rw [List.getElem?_append_left (Nat.lt_of_lt_of_le old (frozen.grows o'))]
      exact frozen.inner o' id old
    · simp only [ConfigMaps.addInner, Function.update_of_ne same]
      exact frozen.inner o' id old
  · intro o'
    have grown := frozen.grows o'
    by_cases same : o' = o
    · subst same
      simp only [ConfigMaps.addInner, Function.update_self, List.length_append]
      omega
    · simpa only [ConfigMaps.addInner, Function.update_of_ne same] using grown

end Frozen

/-! ## One rule for each operation -/

section Operations

variable {Inv : ConfigMaps → Prop} {s : ConfigMaps} {o : Outer}

variable {Post : Unit → ConfigMaps → Prop} {slot : UInt32}

section

variable (here : Inv s)
include here

theorem always_innerUpdate {fd : MapId} {key : o.Key} {val : o.Val}
    (works : ∀ t, (s.inner o)[fd]? = some t →
      Post () (s.setInner o fd (t.insert key val))) :
    Always configMachine Inv Post (innerUpdate o fd key val) s := by
  refine ⟨here, ?_, here⟩
  simp only [configMachine, ConfigCall.exec]
  cases found : (s.inner o)[fd]? with
  | none => exact here
  | some t =>
    by_cases room : Inner.hasRoom o t key = true
    · simp only [room, if_true]
      exact works t found
    · simp only [room]
      exact here

theorem always_applyInstallInner {fd : MapId} (works : ∀ live, Post () (s.setOuter o slot fd live)) :
    Always configMachine Inv Post (applyInstallInner o slot fd) s := by
  refine ⟨here, ?_, here⟩
  simp only [configMachine, ConfigCall.exec]
  split
  next live =>
    split
    · exact works live
    · exact here
  · exact here

theorem always_fairNodeUpdate {v : FairNodeConfig} (works : Post () (s.setFairNode slot v)) :
    Always configMachine Inv Post (fairNodeUpdate slot v) s := by
  refine ⟨here, ?_, here⟩
  simp only [configMachine, ConfigCall.exec]
  split
  · exact works
  · exact here

theorem always_gblMetaUpdate {v : GblMeta} (works : Post () (s.setGblMeta slot v)) :
    Always configMachine Inv Post (gblMetaUpdate slot v) s := by
  refine ⟨here, ?_, here⟩
  simp only [configMachine, ConfigCall.exec]
  split
  · exact works
  · exact here

theorem always_applyInnerFd {Post : MapId → ConfigMaps → Prop}
    (works : ∀ id, s.outer o slot = some id → Post id s) :
    Always configMachine Inv Post (applyInnerFd o slot) s := by
  have looked : Always configMachine Inv (fun id now => now = s ∧ s.outer o slot = some id)
      (outerLookup o slot) s :=
    ⟨here, Always.expect here fun id found => ⟨rfl, found⟩, here⟩
  refine looked.bind ?_
  rintro id now ⟨rfl, found⟩
  refine ⟨here, Always.expect here ?_, here⟩
  intro id' answered
  simp only [configMachine, ConfigCall.exec] at answered ⊢
  split at answered
  · cases answered
    exact works _ found
  · cases answered

theorem always_createInnerLike {Post : MapId → ConfigMaps → Prop}
    (works : Post (s.inner o).length (s.addInner o ∅)) :
    Always configMachine Inv Post (createInnerLike o slot) s := by
  have opened : Always configMachine Inv (fun _ now => now = s) (applyInnerFd o slot) s :=
    always_applyInnerFd here fun _ _ => rfl
  refine opened.bind ?_
  rintro id now rfl
  refine ⟨here, ?_, here⟩
  simp only [configMachine, ConfigCall.exec]
  split
  · exact works
  · exact here

theorem always_applyCopyOuterInner {source target : UInt32}
    (works : ∀ id (found : s.outer o source = some id),
      Post () (s.setOuter o target id (s.outer_live o source id found))) :
    Always configMachine Inv Post (applyCopyOuterInner o source target) s := by
  have opened : Always configMachine Inv (fun id now => now = s ∧ s.outer o source = some id)
      (applyInnerFd o source) s := always_applyInnerFd here fun id found => ⟨rfl, found⟩
  refine opened.bind ?_
  rintro id now ⟨rfl, found⟩
  exact always_applyInstallInner here fun _ => works id found

end

theorem other_slot_ne (valid : slot < serviceSlots) : 1 - slot ≠ slot := by
  intro same
  have small : slot.toNat < 2 := valid
  have number := congrArg UInt32.toNat same
  rw [UInt32.toNat_sub] at number
  simp only [UInt32.reduceToNat] at number
  omega

theorem always_applyReadActive_bind {α : Type} {f : Slots → ConfigProg α}
    {Post : α → ConfigMaps → Prop} {active : ActiveConfig} (read : s.activeConfig = some active)
    (here : Inv s)
    (rest : active.activeSlot < serviceSlots →
      Always configMachine Inv Post (f (.ofActive active)) s) :
    Always configMachine Inv Post (applyReadActive >>= f) s := by
  have answered : Always configMachine Inv
      (fun slots now => now = s ∧ active.activeSlot < serviceSlots ∧ slots = .ofActive active)
      applyReadActive s := by
    refine ⟨here, ?_, here⟩
    show Always configMachine Inv _ (Prog.expect s.activeConfig >>= _) s
    rw [read]
    exact Always.require_bind here fun valid => ⟨rfl, of_decide_eq_true valid, rfl⟩
  refine answered.bind ?_
  rintro slots now ⟨rfl, valid, rfl⟩
  exact rest valid

end Operations

end ScrubbingGateway.Apply
