import ScrubbingGateway.Apply.Frame
import ScrubbingGateway.Apply.Published

/-!
# Building fresh inner maps

While the helper creates and fills inner maps, nothing but those maps changes (`Building`). While
it installs maps, only the inactive slot changes (`Placing`).
-/

namespace ScrubbingGateway.Apply

open DataPlane Prog

/-- The state has only gained inner maps since `mid`, and the new maps `fd` of the given kinds hold
the given rows. -/
structure Building (mid : ConfigMaps) (kinds : List Outer) (fd : Outer → MapId) (rows : Rows)
    (now : ConfigMaps) : Prop where
  active : now.activeConfig = mid.activeConfig
  outer : now.outer = mid.outer
  fairNode : now.fairNodeConfig = mid.fairNodeConfig
  gblMeta : now.gblMeta = mid.gblMeta
  inner : ∀ o id, id < (mid.inner o).length → (now.inner o)[id]? = (mid.inner o)[id]?
  grows : ∀ o, (mid.inner o).length ≤ (now.inner o).length
  fresh : ∀ o ∈ kinds, (mid.inner o).length ≤ fd o
  filled : ∀ o ∈ kinds, ∃ t, (now.inner o)[fd o]? = some t ∧ ∀ key, t.lookup key = rows o key

namespace Building

variable {slot : UInt32} {before mid now : ConfigMaps} {kinds : List Outer} {fd : Outer → MapId}
  {rows : Rows}

theorem refl (mid : ConfigMaps) (fd : Outer → MapId) (rows : Rows) :
    Building mid [] fd rows mid where
  active := rfl
  outer := rfl
  fairNode := rfl
  gblMeta := rfl
  inner _ _ _ := rfl
  grows _ := Nat.le_refl _
  fresh := by simp
  filled := by simp

theorem untouched (building : Building mid kinds fd rows now) (start : Untouched slot before mid) :
    Untouched slot before now where
  active := building.active.trans start.active
  outer o := by rw [building.outer, start.outer]
  inner o id old := by
    rw [building.inner o id (Nat.lt_of_lt_of_le old (start.grows o)), start.inner o id old]
  grows o := Nat.le_trans (start.grows o) (building.grows o)
  fairNode := by rw [building.fairNode, start.fairNode]
  gblMeta := by rw [building.gblMeta, start.gblMeta]

theorem create (building : Building mid kinds fd (fun _ _ => none) now) (o : Outer) :
    Building mid (kinds ++ [o]) (Function.update fd o (now.inner o).length) (fun _ _ => none)
      (now.addInner o ∅) where
  active := building.active
  outer := building.outer
  fairNode := building.fairNode
  gblMeta := building.gblMeta
  inner o' id old := by
    by_cases same : o' = o
    · subst same
      simp only [ConfigMaps.addInner, Function.update_self]
      rw [List.getElem?_append_left (Nat.lt_of_lt_of_le old (building.grows o')),
        building.inner o' id old]
    · simp only [ConfigMaps.addInner, Function.update_of_ne same]
      exact building.inner o' id old
  grows o' := by
    have grown := building.grows o'
    by_cases same : o' = o
    · subst same
      simp only [ConfigMaps.addInner, Function.update_self, List.length_append]
      omega
    · simpa only [ConfigMaps.addInner, Function.update_of_ne same] using grown
  fresh o' member := by
    by_cases same : o' = o
    · subst same
      rw [Function.update_self]
      exact building.grows o'
    · rw [Function.update_of_ne same]
      exact building.fresh o' (by simpa [same] using member)
  filled o' member := by
    by_cases same : o' = o
    · subst same
      refine ⟨∅, ?_, fun key => AList.lookup_empty key⟩
      simp [ConfigMaps.addInner]
    · simp only [ConfigMaps.addInner, Function.update_of_ne same]
      exact building.filled o' (by simpa [same] using member)

theorem write (building : Building mid kinds fd rows now) {o : Outer} (member : o ∈ kinds)
    {t : Inner o} (found : (now.inner o)[fd o]? = some t) (key : o.Key) (val : o.Val) :
    Building mid kinds fd (rows.set o key val) (now.setInner o (fd o) (t.insert key val)) where
  active := building.active
  outer := building.outer
  fairNode := building.fairNode
  gblMeta := building.gblMeta
  inner o' id old := by
    by_cases same : o' = o
    · subst same
      have fresh := building.fresh o' member
      simp only [ConfigMaps.setInner, Function.update_self]
      rw [List.getElem?_set_ne (by omega), building.inner o' id old]
    · simp only [ConfigMaps.setInner, Function.update_of_ne same]
      exact building.inner o' id old
  grows o' := by
    by_cases same : o' = o
    · subst same
      simpa only [ConfigMaps.setInner, Function.update_self, List.length_set] using
        building.grows o'
    · simpa only [ConfigMaps.setInner, Function.update_of_ne same] using building.grows o'
  fresh := building.fresh
  filled o' member' := by
    by_cases same : o' = o
    · subst same
      obtain ⟨t', found', holds⟩ := building.filled o' member'
      cases found.symm.trans found'
      have live : fd o' < (now.inner o').length := (List.getElem?_eq_some_iff.mp found).1
      refine ⟨t.insert key val, ?_, ?_⟩
      · simp only [ConfigMaps.setInner, Function.update_self]
        exact List.getElem?_set_self live
      · intro key'
        rw [Table.lookup_insert_ite, Rows.set_self, holds]
    · simp only [ConfigMaps.setInner, Function.update_of_ne same, Rows.set_other rows same]
      exact building.filled o' member'

end Building

/-- Wherever the program stops, the slot is untouched. -/
abbrev Spares {α : Type} (slot : UInt32) (before : ConfigMaps) (Post : α → ConfigMaps → Prop)
    (p : ConfigProg α) (now : ConfigMaps) : Prop :=
  Always configMachine (Untouched slot before) Post p now

section Writing

variable {slot : UInt32} {before mid : ConfigMaps} {kinds : List Outer} {fd : Outer → MapId}
  {rows : Rows} {now : ConfigMaps}

section

variable (start : Untouched slot before mid)
include start

theorem innerUpdate_building (building : Building mid kinds fd rows now) {o : Outer}
    (member : o ∈ kinds) (key : o.Key) (val : o.Val) :
    Spares slot before (fun _ now => Building mid kinds fd (rows.set o key val) now)
      (innerUpdate o (fd o) key val) now :=
  always_innerUpdate (building.untouched start) fun _ found => building.write member found key val

theorem innerUpdateWhen_building (building : Building mid kinds fd rows now) (condition : Prop)
    [Decidable condition] {o : Outer} (member : o ∈ kinds) (key : o.Key) (val : o.Val) :
    Spares slot before (fun _ now => Building mid kinds fd (rows.setWhen condition o key val) now)
      (Prog.when condition (innerUpdate o (fd o) key val)) now := by
  by_cases met : condition
  · simp only [Prog.when, met, if_true, Rows.setWhen]
    exact innerUpdate_building start building member key val
  · simp only [Prog.when, met, if_false, Rows.setWhen]
    exact building

theorem writeWhitelistEntry_building (building : Building mid serviceOuters fd rows now)
    (id : UInt32) (e : CfgSource) :
    Spares slot before (fun _ now => Building mid serviceOuters fd (rows.addSource id e) now)
      (writeWhitelistEntry fd id e) now := by
  refine Always.require_bind (building.untouched start) fun _ => ?_
  refine (innerUpdateWhen_building (o := .whitelistBloom) start building
    (e.prefixlen ≥ wlBloomPrefix) (by decide) _ _).bind ?_
  intro _ now building
  exact innerUpdate_building start building (by decide) _ _

/-- The loop over the whitelist. With 65536 entries or more it does not return, and then there is
nothing to show but that it writes into fresh maps only. -/
theorem writeWhitelist_building (id : UInt32) (wl : List CfgSource) (fuel : Nat)
    (building : Building mid serviceOuters fd rows now) :
    Spares slot before (fun _ now => Building mid serviceOuters fd (rows.addSources id wl) now)
      (writeWhitelist fd id wl fuel 0) now := by
  -- the entries before the index are written, unless the index has wrapped around
  suffices loop : ∀ fuel (i : UInt16) rows' now, Building mid serviceOuters fd rows' now →
      (wl.length < 2 ^ 16 → i.toNat ≤ wl.length ∧
        rows' = rows.addSources id (wl.take i.toNat)) →
      Spares slot before (fun _ now => Building mid serviceOuters fd (rows.addSources id wl) now)
        (writeWhitelist fd id wl fuel i) now from
    loop fuel 0 rows now building fun _ => ⟨Nat.zero_le _, rfl⟩
  intro fuel
  induction fuel with
  | zero => exact fun _ _ _ building _ => building.untouched start
  | succ fuel ih =>
    intro i rows' now building written
    have small : i.toNat < 2 ^ 16 := i.toNat_lt
    rw [writeWhitelist]
    cases found : wl[i.toNat]? with
    | none =>
      have past : wl.length ≤ i.toNat := List.getElem?_eq_none_iff.mp found
      have all := (written (by omega)).2
      rw [List.take_of_length_le past] at all
      exact all ▸ building
    | some e =>
      have inside : i.toNat < wl.length := (List.getElem?_eq_some_iff.mp found).1
      refine (writeWhitelistEntry_building start building id e).bind ?_
      intro _ now building
      refine ih (i + 1) _ now building fun short => ?_
      have next : (i + 1).toNat = i.toNat + 1 := by
        rw [UInt16.toNat_add]
        simp only [UInt16.reduceToNat]
        omega
      rw [next, List.take_add_one, found, (written short).2]
      exact ⟨inside, (Rows.addSources_append _ _ _ _).symm⟩

theorem applyWriteService_building (knobs : Knobs) (fuel : Nat) (sum : UInt64)
    (service : CfgService) (building : Building mid serviceOuters fd rows now) :
    Spares slot before
      (fun sum' now => Building mid serviceOuters fd (rows.addService knobs service) now ∧
        sum' = addCommitted sum (serviceBudget knobs service).committedBps)
      (applyWriteService fd knobs fuel sum service) now := by
  refine Always.require_bind (building.untouched start) fun _ => ?_
  refine (innerUpdate_building start building (by decide) _ _).bind ?_
  intro _ now building
  refine (innerUpdate_building start building (by decide) _ _).bind ?_
  intro _ now building
  refine (writeWhitelist_building start service.dpId service.wl fuel building).bind ?_
  intro _ now building
  refine (innerUpdateWhen_building (o := .vipConfigMap) start building
    (service.wlFlags &&& wlActive ≠ 0) (by decide) _ _).bind ?_
  intro _ now building
  refine (innerUpdate_building start building (by decide) _ _).bind ?_
  intro _ now building
  refine (innerUpdate_building start building (by decide) _ _).bind ?_
  intro _ now building
  exact ⟨building, rfl⟩

theorem writeServices_building (knobs : Knobs) (fuel : Nat) (services : List CfgService)
    (building : Building mid serviceOuters fd (fun _ _ => none) now) :
    Spares slot before
      (fun sum now => Building mid serviceOuters fd (serviceRows knobs services) now ∧
        sum = committedSum knobs services)
      (Prog.forEach (applyWriteService fd knobs fuel) services 0) now := by
  have empty : serviceRows knobs [] = fun _ _ => none := by
    funext o key
    cases o <;> simp [serviceRows, latest]
  refine Always.forEach (fun done sum now =>
    Building mid serviceOuters fd (serviceRows knobs done) now ∧ sum = committedSum knobs done)
    services ?_ 0 ⟨empty ▸ building, rfl⟩
  rintro done service - - sum now ⟨building, rfl⟩
  have written := applyWriteService_building start knobs fuel (committedSum knobs done) service
    building
  rw [← serviceRows_append] at written
  refine written.mono (fun _ => id) ?_
  rintro sum' now ⟨building, rfl⟩
  exact ⟨building, (committedSum_append knobs done service).symm⟩

theorem createServiceInners_building (srcSlot : UInt32) :
    Spares slot before (fun fd now => Building mid serviceOuters fd (fun _ _ => none) now)
      (createServiceInners srcSlot) mid := by
  refine Always.forEach (fun done fd now => Building mid done fd (fun _ _ => none) now)
    serviceOuters ?_ _ (Building.refl mid _ _)
  intro done o _ _ fd now building
  have created : Spares slot before
    (fun id now => Building mid (done ++ [o]) (Function.update fd o id) (fun _ _ => none) now)
      (createInnerLike o srcSlot) now :=
    always_createInnerLike (building.untouched start) (building.create o)
  refine created.bind ?_
  intro id now building
  exact building

end

/-- The descriptors of the two fresh deny maps. -/
def denyFd (bloomFd lpmFd : MapId) : Outer → MapId :=
  Function.update (Function.update (fun _ => 0) .globalBlacklistBloom bloomFd)
    .globalBlacklistLpm lpmFd

theorem writeGlobalEntry_building (start : Untouched slot before mid) {bloomFd lpmFd : MapId}
    (flags : UInt8) (e : CfgSource)
    (building : Building mid denyOuters (denyFd bloomFd lpmFd) rows now) :
    Spares slot before
      (fun _ now => Building mid denyOuters (denyFd bloomFd lpmFd) (rows.addEntry flags e) now)
      (writeGlobalEntry bloomFd lpmFd flags e) now := by
  refine (innerUpdate_building (o := .globalBlacklistLpm) start building (by decide) _ _).bind ?_
  intro _ now building
  by_cases narrow : flags &&& gblHasBroad = 0
  · simp only [Prog.when, Rows.addEntry, narrow, if_true]
    refine Always.forEach (fun done _ now => Building mid denyOuters (denyFd bloomFd lpmFd)
      (Rows.addKeys _ done) now) (bloomKeys e) ?_ () building
    intro done key _ _ _ now building
    rw [Rows.addKeys_append]
    exact innerUpdate_building (o := .globalBlacklistBloom) start building (by decide) _ _
  · simp only [Prog.when, Rows.addEntry, narrow, if_false]
    exact building

theorem writeGlobalEntries_building (start : Untouched slot before mid) {bloomFd lpmFd : MapId}
    (flags : UInt8) (entries : List CfgSource)
    (building : Building mid denyOuters (denyFd bloomFd lpmFd) (fun _ _ => none) now) :
    Spares slot before
      (fun _ now => Building mid denyOuters (denyFd bloomFd lpmFd) (denyRows flags entries) now)
      (Prog.forEach (fun _ e => writeGlobalEntry bloomFd lpmFd flags e) entries ()) now := by
  have empty : denyRows flags [] = fun _ _ => none := by
    funext o key
    cases o <;> simp [denyRows]
  refine Always.forEach (fun done _ now =>
    Building mid denyOuters (denyFd bloomFd lpmFd) (denyRows flags done) now)
    entries ?_ () (empty ▸ building)
  intro done e _ _ _ now building
  rw [denyRows_append]
  exact writeGlobalEntry_building start flags e building

end Writing

end ScrubbingGateway.Apply
