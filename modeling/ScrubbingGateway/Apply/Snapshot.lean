import ScrubbingGateway.Apply.NodeCfg
import ScrubbingGateway.Lib.Wire

/-!
# The snapshot parser of the helper

`parse_snapshot` over the bytes of the file. Every read is bounds-checked, and anything that does
not fit is rejected.
-/

namespace ScrubbingGateway.Apply

open Wire DataPlane

def snapshotMagic : Bytes := [0x58, 0x44, 0x50, 0x47, 0x57, 0x41, 0x50, 0x31]

def snapshotHeaderSize : Nat := 16
def globalEntrySize : Nat := 8
def applyMaxBytes : Nat := 64 * 1024 * 1024
def applyMaxServices : Nat := 65536
def applyMaxListEntries : Nat := 2 ^ 20

def rdU8 : Reader UInt8 := fun c => (readLe 1 c).map fun (n, rest) => (UInt8.ofNat n, rest)

def rdU16le : Reader UInt16 := fun c => (readLe 2 c).map fun (n, rest) => (UInt16.ofNat n, rest)

def rdU32le : Reader UInt32 := fun c => (readLe 4 c).map fun (n, rest) => (UInt32.ofNat n, rest)

def rdU64le : Reader UInt64 := fun c => (readLe 8 c).map fun (n, rest) => (UInt64.ofNat n, rest)

/-- An address, as the host-order number of its network-order bytes. -/
def rdBe32 : Reader UInt32 := fun c =>
  (take 4 c).map fun (bytes, rest) => (UInt32.ofNat (leNat bytes.reverse), rest)

def parseSource : Reader CfgSource := fun c => do
  let (prefixlen, c) ← rdU32le c
  let (addr, c) ← rdBe32 c
  return (⟨prefixlen, addr⟩, c)

def parseSourceList : Reader (List CfgSource) := fun c => do
  let (count, c) ← rdU32le c
  if count.toNat > applyMaxListEntries then none
  else readMany parseSource count.toNat c

def parseRule : Reader CfgRule := fun c => do
  let (srcLo, c) ← rdU16le c
  let (srcHi, c) ← rdU16le c
  let (dstLo, c) ← rdU16le c
  let (dstHi, c) ← rdU16le c
  let (proto, c) ← rdU8 c
  let (flags, c) ← rdU8 c
  return (⟨srcLo, srcHi, dstLo, dstHi, proto, flags⟩, c)

def parseService : Reader CfgService := fun c => do
  let (dstPrefixlen, c) ← rdU32le c
  let (dstAddr, c) ← rdBe32 c
  let (dpId, c) ← rdU32le c
  let (enabled, c) ← rdU8 c
  let (wlFlags, c) ← rdU8 c
  let (reserved0, c) ← rdU8 c
  let (committedBps, c) ← rdU64le c
  let (ceilingBps, c) ← rdU64le c
  let (vipPps, c) ← rdU64le c
  let (vipBps, c) ← rdU64le c
  let (vipFlags, c) ← rdU8 c
  let (servicePps, c) ← rdU64le c
  let (serviceBps, c) ← rdU64le c
  let (svcRlFlags, c) ← rdU8 c
  let (ruleCount, c) ← rdU16le c
  if reserved0 ≠ 0 then none
  else if ruleCount.toNat > ruleMax then none
  else
    let (rules, c) ← readMany parseRule ruleCount.toNat c
    let (wl, c) ← parseSourceList c
    return ({ dstPrefixlen, dstAddr, dpId, enabled, wlFlags, reserved0, vipFlags, committedBps,
              ceilingBps, vipPps, vipBps, servicePps, serviceBps, svcRlFlags, rules, wl }, c)

def parseServices : Reader (List CfgService) := fun c => do
  let (count, c) ← rdU32le c
  if count.toNat > applyMaxServices then none
  else readMany parseService count.toNat c

/-- The revision and the entries, which are canonical and in order. -/
def parseGlobalDeny : Reader (UInt64 × List CfgSource) := fun c => do
  let (revision, c) ← rdU64le c
  let (count, c) ← rdU32le c
  if count.toNat > globalDenyMaxEntries ∨ count.toNat > c.length / globalEntrySize then none
  else
    let (entries, c) ← readMany parseSource count.toNat c
    if globalEntriesOk none entries then return ((revision, entries), c) else none

/-- The body of a snapshot of a kind, up to the end of the file. -/
def parseBody (kind : UInt32) (c : Bytes) : Option NodeCfg := do
  if kind = kindServiceFull then
    let (services, rest) ← parseServices c
    if rest = [] then return ⟨schemaVersion, kind, services, 0, []⟩ else none
  else if kind = kindGlobalDeny then
    let ((revision, entries), rest) ← parseGlobalDeny c
    if rest = [] then return ⟨schemaVersion, kind, [], revision, entries⟩ else none
  else none

def parseSnapshot (bytes : Bytes) : Option NodeCfg := do
  if bytes.length < snapshotHeaderSize ∨ bytes.length > applyMaxBytes then none
  else
    let (magic, c) ← take 8 bytes
    if magic ≠ snapshotMagic then none
    else
      let (schema, c) ← rdU32le c
      if schema ≠ schemaVersion then none
      else
        let (kind, c) ← rdU32le c
        parseBody kind c

end ScrubbingGateway.Apply
