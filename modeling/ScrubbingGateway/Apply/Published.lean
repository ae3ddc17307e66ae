import ScrubbingGateway.Apply.Helper

/-!
# What a snapshot means

The rows a snapshot stands for, said without the order in which the helper writes them, and the
configuration a slot holds. Of several services with one key the last one counts.
-/

namespace ScrubbingGateway.Apply

open DataPlane

/-- The rows of every kind of inner map. -/
abbrev Rows : Type := (o : Outer) → o.Key → Option o.Val

/-- The last service of a snapshot that meets a condition. -/
def latest (condition : CfgService → Bool) (services : List CfgService) : Option CfgService :=
  services.reverse.find? condition

def serviceRows (knobs : Knobs) (services : List CfgService) : Rows
  | .serviceMap, key =>
    (latest (fun s => key == serviceKey s.dstPrefixlen s.dstAddr) services).map serviceVal
  | .ruleBlockMap, id => (latest (fun s => id == s.dpId) services).map ruleBlock
  | .whitelistBloom, key =>
    if ∃ s ∈ services, ∃ e ∈ s.wl, e.prefixlen ≥ wlBloomPrefix ∧ key = wlBloomKey s.dpId e.addr
    then some () else none
  | .whitelistLpm, key =>
    if ∃ s ∈ services, ∃ e ∈ s.wl, key = wlLpmKey (32 + e.prefixlen) s.dpId e.addr
    then some 1 else none
  | .vipConfigMap, id =>
    (latest (fun s => s.wlFlags &&& wlActive != 0 && id == s.dpId) services).map vipConfig
  | .svcRlConfigMap, id => (latest (fun s => id == s.dpId) services).map svcRlConfig
  | .fairConfigMap, id => (latest (fun s => id == s.dpId) services).map (fairConfig knobs)
  | .globalBlacklistBloom, _ | .globalBlacklistLpm, _ | .udpBlockedPortBitmap, _ => none

def committedSum (knobs : Knobs) (services : List CfgService) : UInt64 :=
  services.foldl (fun sum s => addCommitted sum (serviceBudget knobs s).committedBps) 0

def denyOuters : List Outer := [.globalBlacklistBloom, .globalBlacklistLpm]

/-- A broad snapshot leaves the bloom filter empty. -/
def denyRows (flags : UInt8) (entries : List CfgSource) : Rows
  | .globalBlacklistLpm, key =>
    if ∃ e ∈ entries, key = blLpmKey e.prefixlen e.addr then some 1 else none
  | .globalBlacklistBloom, key =>
    if flags &&& gblHasBroad = 0 ∧ ∃ e ∈ entries, key ∈ bloomKeys e then some () else none
  | .serviceMap, _ | .ruleBlockMap, _ | .whitelistBloom, _ | .whitelistLpm, _ => none
  | .vipConfigMap, _ | .svcRlConfigMap, _ | .fairConfigMap, _ | .udpBlockedPortBitmap, _ => none

/-- All that packets can look up through one slot. -/
@[ext]
structure Configuration where
  rows : (o : Outer) → Option (o.Key → Option o.Val)
  fairNode : Option FairNodeConfig
  gblMeta : Option GblMeta

def slotRows (k : ConfigMaps) (slot : UInt32) (o : Outer) : Option (o.Key → Option o.Val) :=
  (k.outer o slot).bind fun id => (k.inner o)[id]?.map fun t => t.lookup

def slotConfiguration (k : ConfigMaps) (slot : UInt32) : Configuration where
  rows := slotRows k slot
  fairNode := k.fairNodeConfig slot
  gblMeta := k.gblMeta slot

def activeConfiguration (k : ConfigMaps) : Option Configuration :=
  k.activeConfig.map fun active => slotConfiguration k active.activeSlot

namespace Configuration

/-- The configuration with its service part replaced by a snapshot. -/
def withServices (knobs : Knobs) (services : List CfgService) (c : Configuration) :
    Configuration where
  rows o := if o ∈ serviceOuters then some (serviceRows knobs services o) else c.rows o
  fairNode := some (fairNodeConfigOf knobs.capacity (committedSum knobs services))
  gblMeta := c.gblMeta

/-- The configuration with its global deny part replaced by a snapshot. -/
def withDeny (plan : BloomPlan) (entries : List CfgSource) (c : Configuration) :
    Configuration where
  rows o := if o ∈ denyOuters then some (denyRows plan.flags entries o) else c.rows o
  fairNode := c.fairNode
  gblMeta := some ⟨plan.flags⟩

end Configuration

/-! ## Writing a service adds its rows -/

theorem latest_append (condition : CfgService → Bool) (services : List CfgService)
    (s : CfgService) :
    latest condition (services ++ [s]) =
      if condition s then some s else latest condition services := by
  simp only [latest, List.reverse_append, List.reverse_cons, List.reverse_nil, List.nil_append,
    List.singleton_append, List.find?_cons]
  cases condition s <;> rfl

variable {condition : CfgService → Bool} {services : List CfgService} {s : CfgService}

theorem mem_of_latest (found : latest condition services = some s) : s ∈ services :=
  List.mem_reverse.mp (List.mem_of_find?_eq_some found)

theorem met_of_latest (found : latest condition services = some s) : condition s = true :=
  List.find?_some (p := condition) found

theorem latest_isSome (member : s ∈ services) (met : condition s = true) :
    (latest condition services).isSome = true :=
  List.find?_isSome.mpr ⟨s, List.mem_reverse.mpr member, met⟩

theorem latest_of_nodup {κ : Type} [DecidableEq κ] (key : CfgService → κ)
    (distinct : (services.map key).Nodup) {service : CfgService} (member : service ∈ services) :
    latest (fun other => key service == key other) services = some service := by
  induction services using List.reverseRecOn with
  | nil => cases member
  | append_singleton services last ih =>
    rw [latest_append]
    rw [List.map_append, List.nodup_append] at distinct
    rcases List.mem_append.mp member with earlier | here
    · have other : key service ≠ key last := by
        refine distinct.2.2 _ (List.mem_map_of_mem earlier) _ ?_
        simp
      rw [if_neg (by simpa using other)]
      exact ih distinct.1 earlier
    · obtain rfl := List.mem_singleton.mp here
      rw [if_pos (by simp)]

private theorem ite_exists_cons {α β : Type} {touches : α → Prop} [DecidablePred touches] (e : α)
    (rest : List α) (put old : β) :
    (if ∃ x ∈ rest, touches x then put else if touches e then put else old) =
      if ∃ x ∈ e :: rest, touches x then put else old := by
  by_cases later : ∃ x ∈ rest, touches x <;> by_cases here : touches e <;>
    simp only [List.exists_mem_cons_iff, later, here, or_true, or_false, if_true, if_false]

theorem committedSum_append (knobs : Knobs) (services : List CfgService) (s : CfgService) :
    committedSum knobs (services ++ [s]) =
      addCommitted (committedSum knobs services) (serviceBudget knobs s).committedBps := by
  rw [committedSum, List.foldl_append, List.foldl_cons, List.foldl_nil, committedSum]

variable {o : Outer}

namespace Rows

def set (rows : Rows) (o : Outer) (key : o.Key) (val : o.Val) : Rows :=
  Function.update rows o (Function.update (rows o) key (some val))

@[simp] theorem set_self (rows : Rows) (o : Outer) (key key' : o.Key) (val : o.Val) :
    rows.set o key val o key' = if key' = key then some val else rows o key' := by
  simp only [set, Function.update_self, Function.update_apply]

@[simp] theorem set_other (rows : Rows) {o' : Outer} (other : o' ≠ o) (key : o.Key) (val : o.Val) :
    rows.set o key val o' = rows o' := by
  simp only [set, Function.update_of_ne other]

def setWhen (rows : Rows) (condition : Prop) [Decidable condition] (o : Outer) (key : o.Key)
    (val : o.Val) : Rows :=
  if condition then rows.set o key val else rows

/-- The rows after one whitelist entry. -/
def addSource (rows : Rows) (id : UInt32) (e : CfgSource) : Rows :=
  (rows.setWhen (e.prefixlen ≥ wlBloomPrefix) .whitelistBloom (wlBloomKey id e.addr) ()).set
    .whitelistLpm (wlLpmKey (32 + e.prefixlen) id e.addr) 1

/-- The rows after some whitelist entries of a service. -/
def addSources (rows : Rows) (id : UInt32) (wl : List CfgSource) : Rows :=
  wl.foldl (fun rows e => rows.addSource id e) rows

def addService (rows : Rows) (knobs : Knobs) (s : CfgService) : Rows :=
  (((((rows.set .serviceMap (serviceKey s.dstPrefixlen s.dstAddr) (serviceVal s)).set
    .ruleBlockMap s.dpId (ruleBlock s)).addSources s.dpId s.wl).setWhen
    (s.wlFlags &&& wlActive ≠ 0) .vipConfigMap s.dpId (vipConfig s)).set
    .svcRlConfigMap s.dpId (svcRlConfig s)).set .fairConfigMap s.dpId (fairConfig knobs s)

@[simp] theorem setWhen_self (rows : Rows) (condition : Prop) [Decidable condition] (o : Outer)
    (key key' : o.Key) (val : o.Val) :
    rows.setWhen condition o key val o key' =
      if condition ∧ key' = key then some val else rows o key' := by
  by_cases met : condition <;> simp [setWhen, met]

@[simp] theorem setWhen_other (rows : Rows) (condition : Prop) [Decidable condition] {o' : Outer}
    (other : o' ≠ o) (key : o.Key) (val : o.Val) :
    rows.setWhen condition o key val o' = rows o' := by
  by_cases met : condition <;> simp [setWhen, met, other]

variable (rows : Rows) (id : UInt32) (wl : List CfgSource)

theorem addSources_append (e : CfgSource) :
    rows.addSources id (wl ++ [e]) = (rows.addSources id wl).addSource id e := by
  simp only [addSources, List.foldl_append, List.foldl_cons, List.foldl_nil]

theorem addSources_other (notBloom : o ≠ .whitelistBloom) (notLpm : o ≠ .whitelistLpm) :
    rows.addSources id wl o = rows o := by
  induction wl generalizing rows with
  | nil => rfl
  | cons e wl ih =>
    show (rows.addSource id e).addSources id wl o = rows o
    rw [ih, addSource, set_other _ notLpm, setWhen_other _ _ notBloom]

theorem addSources_bloom (key : WlBloomKey) :
    rows.addSources id wl .whitelistBloom key =
      if ∃ e ∈ wl, e.prefixlen ≥ wlBloomPrefix ∧ key = wlBloomKey id e.addr then some ()
      else rows .whitelistBloom key := by
  induction wl generalizing rows with
  | nil => simp [addSources]
  | cons e wl ih =>
    show (rows.addSource id e).addSources id wl .whitelistBloom key = _
    rw [ih, addSource, set_other _ (by decide), setWhen_self, ite_exists_cons]

theorem addSources_lpm (key : BitPrefix) :
    rows.addSources id wl .whitelistLpm key =
      if ∃ e ∈ wl, key = wlLpmKey (32 + e.prefixlen) id e.addr then some 1
      else rows .whitelistLpm key := by
  induction wl generalizing rows with
  | nil => simp [addSources]
  | cons e wl ih =>
    show (rows.addSource id e).addSources id wl .whitelistLpm key = _
    rw [ih, addSource, set_self, setWhen_other _ _ (by decide), ite_exists_cons]

end Rows

private theorem ite_or {p q : Prop} [Decidable p] [Decidable q] {β : Type} (put old : β) :
    (if p ∨ q then put else old) = if q then put else if p then put else old := by
  by_cases left : p <;> by_cases right : q <;> simp only [left, right, or_true, or_false, if_true,
    if_false]

theorem serviceRows_append (knobs : Knobs) (services : List CfgService) (s : CfgService) :
    serviceRows knobs (services ++ [s]) = (serviceRows knobs services).addService knobs s := by
  funext o key
  cases o with
  | whitelistBloom =>
    simp [Rows.addService, Rows.addSources_bloom, serviceRows, ite_or]
  | whitelistLpm =>
    simp [Rows.addService, Rows.addSources_lpm, serviceRows, ite_or]
  | globalBlacklistBloom | globalBlacklistLpm | udpBlockedPortBitmap =>
    simp [Rows.addService, Rows.addSources_other, serviceRows]
  | _ =>
    -- one row per service, and the last one written counts
    simp [Rows.addService, Rows.addSources_other, serviceRows, latest_append]
    split <;> rfl

/-! ## Writing a deny entry adds its rows -/

namespace Rows

def addKeys (rows : Rows) (keys : List UInt32) : Rows :=
  keys.foldl (fun rows key => rows.set .globalBlacklistBloom key ()) rows

def addEntry (rows : Rows) (flags : UInt8) (e : CfgSource) : Rows :=
  (rows.set .globalBlacklistLpm (blLpmKey e.prefixlen e.addr) 1).addKeys
    (if flags &&& gblHasBroad = 0 then bloomKeys e else [])

theorem addKeys_append (rows : Rows) (keys : List UInt32) (key : UInt32) :
    rows.addKeys (keys ++ [key]) = (rows.addKeys keys).set .globalBlacklistBloom key () := by
  simp only [addKeys, List.foldl_append, List.foldl_cons, List.foldl_nil]

theorem addKeys_other (rows : Rows) (keys : List UInt32) (other : o ≠ .globalBlacklistBloom) :
    rows.addKeys keys o = rows o := by
  induction keys generalizing rows with
  | nil => rfl
  | cons key keys ih =>
    show (rows.set .globalBlacklistBloom key ()).addKeys keys o = rows o
    rw [ih, set_other _ other]

theorem addKeys_bloom (rows : Rows) (keys : List UInt32) (key : UInt32) :
    rows.addKeys keys .globalBlacklistBloom key =
      if key ∈ keys then some () else rows .globalBlacklistBloom key := by
  induction keys generalizing rows with
  | nil => simp [addKeys]
  | cons head keys ih =>
    show (rows.set .globalBlacklistBloom head ()).addKeys keys .globalBlacklistBloom key = _
    rw [ih, set_self]
    by_cases later : key ∈ keys <;> by_cases here : key = head <;> simp [later, here]

end Rows

theorem denyRows_append (flags : UInt8) (entries : List CfgSource) (e : CfgSource) :
    denyRows flags (entries ++ [e]) = (denyRows flags entries).addEntry flags e := by
  funext o key
  cases o with
  | globalBlacklistLpm =>
    simp [Rows.addEntry, Rows.addKeys_other, denyRows, or_and_right, exists_or, ite_or]
  | globalBlacklistBloom =>
    rw [Rows.addEntry, Rows.addKeys_bloom, Rows.set_other _ (by decide)]
    by_cases narrow : flags &&& gblHasBroad = 0
    · simp [denyRows, narrow, or_and_right, exists_or, ite_or]
    · simp [denyRows, narrow]
  | _ => simp [Rows.addEntry, Rows.addKeys_other, denyRows]

end ScrubbingGateway.Apply
