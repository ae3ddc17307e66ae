import Mathlib.Data.List.Basic
import Mathlib.Logic.Function.Basic
import ScrubbingGateway.DataPlane.Records
import ScrubbingGateway.Lib.Prog

/-!
# Configuration maps of the data plane

Ten outer maps hold, for each of the two slots, the id of an inner map. Inner maps are created by
the helper, filled, and installed into a slot; `active_config` says which slot packets use.
-/

namespace ScrubbingGateway.DataPlane

/-- The array-of-maps outers, one per kind of inner map. -/
inductive Outer where
  | serviceMap
  | ruleBlockMap
  | whitelistBloom
  | whitelistLpm
  | vipConfigMap
  | svcRlConfigMap
  | fairConfigMap
  | globalBlacklistBloom
  | globalBlacklistLpm
  | udpBlockedPortBitmap
deriving DecidableEq, Repr

namespace Outer

abbrev Key : Outer → Type
  | serviceMap | whitelistLpm | globalBlacklistLpm => BitPrefix
  | whitelistBloom => WlBloomKey
  | ruleBlockMap | vipConfigMap | svcRlConfigMap | fairConfigMap => UInt32
  | globalBlacklistBloom | udpBlockedPortBitmap => UInt32

abbrev Val : Outer → Type
  | serviceMap => ServiceVal
  | ruleBlockMap => RuleBlock
  | whitelistBloom | globalBlacklistBloom => Unit
  | whitelistLpm | globalBlacklistLpm => UInt8
  | vipConfigMap | svcRlConfigMap => RateConfig
  | fairConfigMap => FairConfig
  | udpBlockedPortBitmap => UInt64

instance : (o : Outer) → DecidableEq o.Key
  | serviceMap | whitelistLpm | globalBlacklistLpm => inferInstanceAs (DecidableEq BitPrefix)
  | whitelistBloom => inferInstanceAs (DecidableEq WlBloomKey)
  | ruleBlockMap | vipConfigMap | svcRlConfigMap | fairConfigMap =>
    inferInstanceAs (DecidableEq UInt32)
  | globalBlacklistBloom | udpBlockedPortBitmap => inferInstanceAs (DecidableEq UInt32)

/-- `max_entries` of the inner maps. A bloom filter takes any number of keys. -/
def maxEntries : Outer → Option Nat
  | serviceMap | ruleBlockMap | vipConfigMap | svcRlConfigMap | fairConfigMap => some 1024
  | whitelistLpm => some 65536
  | globalBlacklistLpm => some (1024 * 1024)
  | udpBlockedPortBitmap => some 1024
  | whitelistBloom | globalBlacklistBloom => none

/-- Keys the kernel rejects whatever the map holds: a prefix longer than the key's data, an index
behind the end of an array. -/
def keyValid : (o : Outer) → o.Key → Bool
  | serviceMap, key | globalBlacklistLpm, key => BitPrefix.length key ≤ 32
  | whitelistLpm, key => BitPrefix.length key ≤ 64
  | udpBlockedPortBitmap, key => (key : UInt32) < 1024
  | ruleBlockMap, _ | vipConfigMap, _ | svcRlConfigMap, _ | fairConfigMap, _ => true
  | whitelistBloom, _ | globalBlacklistBloom, _ => true

end Outer

abbrev Inner (o : Outer) : Type := Table o.Key o.Val

namespace Inner

/-- `bpf_map_lookup_elem` on an inner map. -/
def find : (o : Outer) → Inner o → o.Key → Option o.Val
  | .serviceMap, t, key => PrefixTrie.longestMatch t key.length key.bits
  | .whitelistLpm, t, key => PrefixTrie.longestMatch t key.length key.bits
  | .globalBlacklistLpm, t, key => PrefixTrie.longestMatch t key.length key.bits
  -- every word of an array exists, and is zero until it is written
  | .udpBlockedPortBitmap, t, key =>
    if (key : UInt32) < 1024 then some ((t.lookup key).getD 0) else none
  | .ruleBlockMap, t, key => t.lookup key
  | .whitelistBloom, t, key => t.lookup key
  | .vipConfigMap, t, key => t.lookup key
  | .svcRlConfigMap, t, key => t.lookup key
  | .fairConfigMap, t, key => t.lookup key
  | .globalBlacklistBloom, t, key => t.lookup key

/-- Whether `bpf_map_update_elem` has room for a key. -/
def hasRoom (o : Outer) (t : Inner o) (key : o.Key) : Bool :=
  o.keyValid key &&
    ((t.lookup key).isSome || o.maxEntries.all fun limit => t.entries.length < limit)

end Inner

abbrev MapId : Type := Nat

/-- The configuration state of the kernel. Map ids index the inner maps of their kind in the order
they were created, and an outer map only ever refers to a map that exists. -/
structure ConfigMaps where
  activeConfig : Option ActiveConfig
  outer : Outer → UInt32 → Option MapId
  inner : (o : Outer) → List (Inner o)
  fairNodeConfig : UInt32 → Option FairNodeConfig
  gblMeta : UInt32 → Option GblMeta
  outer_live : ∀ o slot id, outer o slot = some id → id < (inner o).length

namespace ConfigMaps

variable (k : ConfigMaps)

def setActive (config : ActiveConfig) : ConfigMaps :=
  { k with activeConfig := some config }

def setOuter (o : Outer) (slot : UInt32) (id : MapId) (live : id < (k.inner o).length) :
    ConfigMaps where
  __ := k
  outer o' slot' := if o' = o ∧ slot' = slot then some id else k.outer o' slot'
  outer_live := by
    intro o' slot' id' found
    split at found
    next same =>
      obtain ⟨rfl, rfl⟩ := same
      cases found
      exact live
    · exact k.outer_live o' slot' id' found

def addInner (o : Outer) (t : Inner o) : ConfigMaps where
  __ := k
  inner := Function.update k.inner o (k.inner o ++ [t])
  outer_live := by
    intro o' slot id found
    have live := k.outer_live o' slot id found
    by_cases same : o' = o
    · subst same
      rw [Function.update_self, List.length_append]
      exact Nat.lt_add_right _ live
    · rwa [Function.update_of_ne same]

def setInner (o : Outer) (id : MapId) (t : Inner o) : ConfigMaps where
  __ := k
  inner := Function.update k.inner o ((k.inner o).set id t)
  outer_live := by
    intro o' slot id' found
    have live := k.outer_live o' slot id' found
    by_cases same : o' = o
    · subst same
      rwa [Function.update_self, List.length_set]
    · rwa [Function.update_of_ne same]

def setFairNode (slot : UInt32) (v : FairNodeConfig) : ConfigMaps :=
  { k with fairNodeConfig := fun slot' => if slot' = slot then some v else k.fairNodeConfig slot' }

def setGblMeta (slot : UInt32) (v : GblMeta) : ConfigMaps :=
  { k with gblMeta := fun slot' => if slot' = slot then some v else k.gblMeta slot' }

end ConfigMaps

/-- The maps as the loader leaves them: empty, all of them in place, slot 0 active. -/
def loadedMaps : ConfigMaps where
  activeConfig := some ⟨0, 0⟩
  outer _ slot := if slot = 0 then some 0 else if slot = 1 then some 1 else none
  inner _ := [∅, ∅]
  fairNodeConfig slot := if slot < serviceSlots then some ⟨0, 0⟩ else none
  gblMeta slot := if slot < serviceSlots then some ⟨0⟩ else none
  outer_live := by
    intro o slot id found
    split at found
    · cases found
      exact Nat.zero_lt_two
    · split at found
      · cases found
        exact Nat.one_lt_two
      · cases found

/-- The map operations the helper makes. File descriptors of maps are their ids. -/
inductive ConfigCall where
  | activeLookup
  | activeUpdate (config : ActiveConfig)
  | outerLookup (o : Outer) (slot : UInt32)
  | outerUpdate (o : Outer) (slot : UInt32) (fd : MapId)
  | fdById (o : Outer) (id : MapId)
  | create (o : Outer) (like : MapId)
  | innerLookup (o : Outer) (fd : MapId) (key : o.Key)
  | innerUpdate (o : Outer) (fd : MapId) (key : o.Key) (val : o.Val)
  /-- A whole `bpf_map_get_next_key` traversal, which ends with `ENOENT` after that many keys. -/
  | innerKeyCount (o : Outer) (fd : MapId)
  | fairNodeLookup (slot : UInt32)
  | fairNodeUpdate (slot : UInt32) (v : FairNodeConfig)
  | gblMetaLookup (slot : UInt32)
  | gblMetaUpdate (slot : UInt32) (v : GblMeta)

namespace ConfigCall

/-- An update answers whether it succeeded. -/
abbrev Answer : ConfigCall → Type
  | activeLookup => Option ActiveConfig
  | outerLookup _ _ | fdById _ _ | create _ _ => Option MapId
  | innerLookup o _ _ => Option o.Val
  | innerKeyCount _ _ => Option Nat
  | fairNodeLookup _ => Option FairNodeConfig
  | gblMetaLookup _ => Option GblMeta
  | activeUpdate _ | outerUpdate _ _ _ | innerUpdate _ _ _ _ => Bool
  | fairNodeUpdate _ _ | gblMetaUpdate _ _ => Bool

def exec : (c : ConfigCall) → ConfigMaps → c.Answer × ConfigMaps
  | activeLookup, k => (k.activeConfig, k)
  | activeUpdate config, k => (true, k.setActive config)
  | outerLookup o slot, k => (k.outer o slot, k)
  | outerUpdate o slot fd, k =>
    if live : fd < (k.inner o).length then
      if slot < serviceSlots then (true, k.setOuter o slot fd live) else (false, k)
    else (false, k)
  | fdById o id, k => (if id < (k.inner o).length then some id else none, k)
  | create o like, k =>
    if like < (k.inner o).length then (some (k.inner o).length, k.addInner o ∅) else (none, k)
  | innerLookup o fd key, k => ((k.inner o)[fd]?.bind fun t => Inner.find o t key, k)
  | innerUpdate o fd key val, k =>
    match (k.inner o)[fd]? with
    | none => (false, k)
    | some t =>
      if Inner.hasRoom o t key then (true, k.setInner o fd (t.insert key val)) else (false, k)
  | innerKeyCount o fd, k => ((k.inner o)[fd]?.map fun t => t.entries.length, k)
  | fairNodeLookup slot, k => (k.fairNodeConfig slot, k)
  | fairNodeUpdate slot v, k =>
    if slot < serviceSlots then (true, k.setFairNode slot v) else (false, k)
  | gblMetaLookup slot, k => (k.gblMeta slot, k)
  | gblMetaUpdate slot v, k =>
    if slot < serviceSlots then (true, k.setGblMeta slot v) else (false, k)

/-- A failed lookup finds nothing and a failed update says so. -/
def fault : (c : ConfigCall) → c.Answer
  | activeLookup => none
  | outerLookup _ _ | fdById _ _ | create _ _ => none
  | innerLookup _ _ _ => none
  | innerKeyCount _ _ => none
  | fairNodeLookup _ => none
  | gblMetaLookup _ => none
  | activeUpdate _ | outerUpdate _ _ _ | innerUpdate _ _ _ _ => false
  | fairNodeUpdate _ _ | gblMetaUpdate _ _ => false

end ConfigCall

def configMachine : Machine ConfigMaps ConfigCall ConfigCall.Answer where
  exec := ConfigCall.exec
  fault := ConfigCall.fault

/-- A program of the helper. -/
abbrev ConfigProg (α : Type) : Type := Prog ConfigCall ConfigCall.Answer α

end ScrubbingGateway.DataPlane
