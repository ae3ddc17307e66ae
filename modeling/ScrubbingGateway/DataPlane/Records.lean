import ScrubbingGateway.Lib.PrefixTrie

/-!
# Records the helper and the packet program share

The fixed-width records of `service.h`, `rules.h`, `whitelist.h`, `svc_ratelimit.h`, `fairness.h`
and `blacklist.h`. Addresses are the host-order numbers of their network-order bytes.
-/

namespace ScrubbingGateway.DataPlane

def serviceSlots : UInt32 := 2

structure ActiveConfig where
  activeSlot : UInt32
  version : UInt32
deriving DecidableEq, Repr

structure ServiceVal where
  serviceId : UInt32
  enabled : UInt8
  wlFlags : UInt8
  reserved0 : UInt8
deriving DecidableEq, Repr

def ruleMax : Nat := 16

structure RuleEntry where
  srcLo : UInt16
  srcHi : UInt16
  dstLo : UInt16
  dstHi : UInt16
  proto : UInt8
  flags : UInt8
deriving DecidableEq, Repr

def RuleEntry.zero : RuleEntry := ⟨0, 0, 0, 0, 0, 0⟩

structure RuleBlock where
  version : UInt32
  ruleCount : UInt16
  rules : Fin ruleMax → RuleEntry

structure WlBloomKey where
  serviceId : UInt32
  src24 : UInt32
deriving DecidableEq, Repr

/-- Limits of one service with two dimensions: `vip_config` and `svc_rl_config` have this layout. -/
structure RateConfig where
  version : UInt32
  flags : UInt8
  pps : UInt64
  bps : UInt64
deriving DecidableEq, Repr

structure FairConfig where
  version : UInt32
  committedBps : UInt64
  burstBps : UInt64
  capBps : UInt64
  capPps : UInt64
deriving DecidableEq, Repr

structure FairNodeConfig where
  version : UInt32
  headroomBps : UInt64
deriving DecidableEq, Repr

structure GblMeta where
  flags : UInt8
deriving DecidableEq, Repr

def wlActive : UInt8 := 1
def wlHasBroad : UInt8 := 2

def gblActive : UInt8 := 1
def gblHasBroad : UInt8 := 2

def wlBloomPrefix : UInt32 := 24
def src24Mask : UInt32 := 0xffffff00

def serviceKey (prefixlen addr : UInt32) : BitPrefix :=
  .ofNumber 32 prefixlen.toNat addr.toNat

/-- The key of the whitelist trie: the service id in network order, then the source. -/
def wlLpmKey (prefixlen serviceId src : UInt32) : BitPrefix :=
  .ofNumber 64 prefixlen.toNat (serviceId.toNat * 2 ^ 32 + src.toNat)

/-- The key of the global deny trie. -/
def blLpmKey (prefixlen src : UInt32) : BitPrefix :=
  .ofNumber 32 prefixlen.toNat src.toNat

def wlBloomKey (serviceId src : UInt32) : WlBloomKey := ⟨serviceId, src &&& src24Mask⟩

end ScrubbingGateway.DataPlane
