import ScrubbingGateway.DataPlane.Parse
import ScrubbingGateway.Lib.Wire

/-!
# The format of a frame

The format is stated on its own, as the bytes that headers are written to: an Ethernet header with
at most two VLAN tags, an IPv4 header with its options, and a transport header.
-/

namespace ScrubbingGateway.DataPlane

open Wire

/-! ## The format -/

structure VlanTag where
  tpid : UInt16
  tci : UInt16
deriving DecidableEq, Repr

/-- Twelve bytes of addresses, tags, and the type of what follows. -/
structure LinkHeader where
  addresses : Bytes
  tags : List VlanTag
  etherType : UInt16
deriving DecidableEq, Repr

def VlanTag.put (tag : VlanTag) : Bytes := putBe16 tag.tpid ++ putBe16 tag.tci

/-- The tags and the type behind them. -/
def putTags (typed : List VlanTag × UInt16) : Bytes :=
  typed.1.flatMap VlanTag.put ++ putBe16 typed.2

def LinkHeader.put (link : LinkHeader) : Bytes :=
  link.addresses ++ putTags (link.tags, link.etherType)

/-- Tags have a VLAN protocol, and what comes behind them has not. -/
structure TagsValid (typed : List VlanTag × UInt16) : Prop where
  tagged : ∀ tag ∈ typed.1, isVlanProto tag.tpid = true
  untagged : isVlanProto typed.2 = false

structure LinkHeader.Valid (link : LinkHeader) : Prop where
  addresses : link.addresses.length = 12
  tags : TagsValid (link.tags, link.etherType)
  shallow : link.tags.length ≤ 2

structure Ipv4Header where
  ihl : UInt8
  tos : UInt8
  totalLen : UInt16
  id : UInt16
  flagsOffset : UInt16
  ttl : UInt8
  protocol : UInt8
  checksum : UInt16
  src : UInt32
  dst : UInt32
  options : Bytes
deriving DecidableEq, Repr

namespace Ipv4Header

/-- The length of the header in bytes. -/
def length (h : Ipv4Header) : Nat := 4 * h.ihl.toNat

/-- The version 4 and the length in words share the first byte. -/
def put (h : Ipv4Header) : Bytes :=
  [64 + h.ihl] ++ ([h.tos] ++ (putBe16 h.totalLen ++ (putBe16 h.id ++ (putBe16 h.flagsOffset ++
    ([h.ttl] ++ ([h.protocol] ++ (putBe16 h.checksum ++ (putBe32 h.src ++ (putBe32 h.dst ++
      h.options)))))))))

/-- A header of 20 to 60 bytes. -/
structure Valid (h : Ipv4Header) : Prop where
  ihl : 5 ≤ h.ihl.toNat ∧ h.ihl.toNat < 16
  options : 20 + h.options.length = h.length

/-- The total length covers the header and is there. -/
def Fits (h : Ipv4Header) (datagram : Bytes) : Prop :=
  h.length ≤ h.totalLen.toNat ∧ h.totalLen.toNat ≤ datagram.length

instance (h : Ipv4Header) (datagram : Bytes) : Decidable (h.Fits datagram) :=
  inferInstanceAs (Decidable (_ ∧ _))

/-- More fragments follow, or this one is not the first. -/
def Fragment (h : Ipv4Header) : Prop :=
  h.flagsOffset.toNat.testBit 13 = true ∨ h.flagsOffset.toNat % 2 ^ 13 ≠ 0

instance (h : Ipv4Header) : Decidable h.Fragment := inferInstanceAs (Decidable (_ ∨ _))

end Ipv4Header

inductive TransportHeader where
  | tcp (sport dport : UInt16) (more : Bytes)
  | udp (sport dport : UInt16) (more : Bytes)
  | icmp (type code : UInt8) (more : Bytes)
  | other
deriving DecidableEq, Repr

namespace TransportHeader

def put : TransportHeader → Bytes
  | tcp sport dport more => putBe16 sport ++ (putBe16 dport ++ more)
  | udp sport dport more => putBe16 sport ++ (putBe16 dport ++ more)
  | icmp type code more => [type] ++ ([code] ++ more)
  | other => []

/-- The complete header of a protocol: 20 bytes of TCP, 8 of UDP, 8 of ICMP. -/
def Valid (protocol : UInt8) : TransportHeader → Prop
  | tcp _ _ more => protocol = ipprotoTcp ∧ more.length = 16
  | udp _ _ more => protocol = ipprotoUdp ∧ more.length = 4
  | icmp _ _ more => protocol = ipprotoIcmp ∧ more.length = 6
  | other => protocol ≠ ipprotoTcp ∧ protocol ≠ ipprotoUdp ∧ protocol ≠ ipprotoIcmp

end TransportHeader

/-- What is known of an accepted packet. -/
structure PacketFields where
  srcIp : UInt32
  dstIp : UInt32
  ipProto : UInt8
  sport : UInt16
  dport : UInt16
  icmpType : UInt8
  icmpCode : UInt8
  vlanDepth : Nat
  l3Off : Nat
  l4Off : Nat
deriving DecidableEq, Repr

/-- Ports and types that a protocol does not have are zero. -/
def PacketFields.of (link : LinkHeader) (h : Ipv4Header) (l4 : TransportHeader) : PacketFields where
  srcIp := h.src
  dstIp := h.dst
  ipProto := h.protocol
  sport := match l4 with
    | .tcp sport _ _ | .udp sport _ _ => sport
    | _ => 0
  dport := match l4 with
    | .tcp _ dport _ | .udp _ dport _ => dport
    | _ => 0
  icmpType := match l4 with
    | .icmp type _ _ => type
    | _ => 0
  icmpCode := match l4 with
    | .icmp _ code _ => code
    | _ => 0
  vlanDepth := link.tags.length
  l3Off := link.put.length
  l4Off := link.put.length + h.length

inductive FrameClass where
  | unsupportedEthertype
  | ipv6
  | arp
  | malformed
  | fragment
  | accepted (fields : PacketFields)
deriving DecidableEq, Repr

/-- The class of a frame. A frame is unsupported if it does not start with a link header at all,
and malformed if an IPv4 header or the transport header behind it is missing. -/
inductive Grammar : Bytes → FrameClass → Prop
  | noLink {frame : Bytes} (none : ∀ link rest, LinkHeader.Valid link → frame ≠ link.put ++ rest) :
    Grammar frame .unsupportedEthertype
  | otherType {link : LinkHeader} {rest : Bytes} (valid : link.Valid)
    (other : link.etherType ≠ ethPIp ∧ link.etherType ≠ ethPIpv6 ∧ link.etherType ≠ ethPArp) :
    Grammar (link.put ++ rest) .unsupportedEthertype
  | ipv6 {link : LinkHeader} {rest : Bytes} (valid : link.Valid)
    (type : link.etherType = ethPIpv6) : Grammar (link.put ++ rest) .ipv6
  | arp {link : LinkHeader} {rest : Bytes} (valid : link.Valid)
    (type : link.etherType = ethPArp) : Grammar (link.put ++ rest) .arp
  | noIpv4 {link : LinkHeader} {datagram : Bytes} (valid : link.Valid)
    (type : link.etherType = ethPIp)
    (none : ∀ h rest, Ipv4Header.Valid h → datagram = h.put ++ rest → ¬ h.Fits datagram) :
    Grammar (link.put ++ datagram) .malformed
  | fragment {link : LinkHeader} {h : Ipv4Header} {rest : Bytes} (valid : link.Valid)
    (type : link.etherType = ethPIp) (header : h.Valid) (fits : h.Fits (h.put ++ rest))
    (fragment : h.Fragment) : Grammar (link.put ++ (h.put ++ rest)) .fragment
  | noTransport {link : LinkHeader} {h : Ipv4Header} {rest : Bytes} (valid : link.Valid)
    (type : link.etherType = ethPIp) (header : h.Valid) (fits : h.Fits (h.put ++ rest))
    (whole : ¬ h.Fragment)
    (none : ∀ l4 payload, TransportHeader.Valid h.protocol l4 → rest ≠ l4.put ++ payload) :
    Grammar (link.put ++ (h.put ++ rest)) .malformed
  | accepted {link : LinkHeader} {h : Ipv4Header} {l4 : TransportHeader} {payload : Bytes}
    (valid : link.Valid) (type : link.etherType = ethPIp) (header : h.Valid)
    (fits : h.Fits (h.put ++ (l4.put ++ payload))) (whole : ¬ h.Fragment)
    (transport : l4.Valid h.protocol) :
    Grammar (link.put ++ (h.put ++ (l4.put ++ payload))) (.accepted (.of link h l4))

/-! ## The bytes of the headers -/

theorem putTags_cons (tag : VlanTag) (tags : List VlanTag) (etherType : UInt16) :
    putTags (tag :: tags, etherType) =
      putBe16 tag.tpid ++ (putBe16 tag.tci ++ putTags (tags, etherType)) := by
  simp [putTags, VlanTag.put]

theorem TagsValid.cons_iff {tag : VlanTag} {tags : List VlanTag} {etherType : UInt16} :
    TagsValid (tag :: tags, etherType) ↔
      isVlanProto tag.tpid = true ∧ TagsValid (tags, etherType) := by
  constructor
  · intro valid
    have all := List.forall_mem_cons.mp valid.tagged
    exact ⟨all.1, all.2, valid.untagged⟩
  · rintro ⟨first, valid⟩
    exact ⟨List.forall_mem_cons.mpr ⟨first, valid.tagged⟩, valid.untagged⟩

theorem putTags_first (typed : List VlanTag × UInt16) (rest : Bytes) :
    ∃ type c, putTags typed ++ rest = putBe16 type ++ c := by
  obtain ⟨tags, etherType⟩ := typed
  cases tags with
  | nil => exact ⟨etherType, rest, rfl⟩
  | cons tag tags => exact ⟨tag.tpid, _, by rw [putTags_cons, List.append_assoc]⟩

theorem length_putTags (tags : List VlanTag) (etherType : UInt16) :
    (putTags (tags, etherType)).length = 4 * tags.length + 2 := by
  induction tags with
  | nil => rfl
  | cons tag tags ih =>
    rw [putTags_cons, List.length_append, List.length_append, ih, List.length_cons]
    simp [putBe16]
    omega

theorem length_put_ipv4 {h : Ipv4Header} (valid : h.Valid) : h.put.length = h.length := by
  have options := valid.options
  simp only [Ipv4Header.put, putBe16, putBe32, List.length_append, List.length_cons,
    List.length_nil]
  omega

theorem versionIhl_iff (first ihl : UInt8) :
    (first >>> 4 = 4 ∧ first &&& 0x0f = ihl) ↔ ihl.toNat < 16 ∧ first = 64 + ihl := by
  have split : ∀ b : Fin 256, UInt8.ofFin b >>> 4 = 4 →
      (UInt8.ofFin b &&& 0x0f).toNat < 16 ∧ UInt8.ofFin b = 64 + (UInt8.ofFin b &&& 0x0f) := by
    decide +kernel
  have joined : ∀ n : Fin 16, (64 + UInt8.ofNat n) >>> 4 = 4 ∧
      (64 + UInt8.ofNat n) &&& 0x0f = UInt8.ofNat n := by
    decide
  constructor
  · rintro ⟨version, rfl⟩
    exact split first.toFin version
  · rintro ⟨small, rfl⟩
    have this := joined ⟨ihl.toNat, small⟩
    rwa [UInt8.ofNat_toNat] at this

theorem exists_ipv4 {c : Bytes} (twenty : 20 ≤ c.length) (version : c.getD 0 0 >>> 4 = 4)
    (five : 5 ≤ (c.getD 0 0 &&& 0x0f).toNat)
    (long : 4 * (c.getD 0 0 &&& 0x0f).toNat ≤ c.length) :
    ∃ h rest, Ipv4Header.Valid h ∧ c = h.put ++ rest := by
  obtain ⟨first, c1, rfl, length1⟩ := exists_byte c (by omega)
  obtain ⟨tos, c2, rfl, length2⟩ := exists_byte c1 (by omega)
  obtain ⟨totalLen, c3, rfl, length3⟩ := exists_be16 c2 (by omega)
  obtain ⟨id, c4, rfl, length4⟩ := exists_be16 c3 (by omega)
  obtain ⟨flagsOffset, c5, rfl, length5⟩ := exists_be16 c4 (by omega)
  obtain ⟨ttl, c6, rfl, length6⟩ := exists_byte c5 (by omega)
  obtain ⟨protocol, c7, rfl, length7⟩ := exists_byte c6 (by omega)
  obtain ⟨checksum, c8, rfl, length8⟩ := exists_be16 c7 (by omega)
  obtain ⟨src, c9, rfl, length9⟩ := exists_be32 c8 (by omega)
  obtain ⟨dst, c10, rfl, length10⟩ := exists_be32 c9 (by omega)
  change first >>> 4 = 4 at version
  change 5 ≤ (first &&& 0x0f).toNat at five
  change 4 * (first &&& 0x0f).toNat ≤ _ at long
  obtain ⟨small, byte⟩ := (versionIhl_iff first (first &&& 0x0f)).mp ⟨version, rfl⟩
  let options := c10.take (4 * (first &&& 0x0f).toNat - 20)
  refine ⟨⟨first &&& 0x0f, tos, totalLen, id, flagsOffset, ttl, protocol, checksum, src, dst,
    options⟩, c10.drop (4 * (first &&& 0x0f).toNat - 20), ⟨⟨five, small⟩, ?_⟩, ?_⟩
  · simp only [options, List.length_take, Ipv4Header.length]
    omega
  · simp only [Ipv4Header.put, ← byte, options, List.append_assoc, List.take_append_drop]

theorem fragment_iff (h : Ipv4Header) :
    h.flagsOffset &&& (0x2000 ||| 0x1fff) ≠ 0 ↔ h.Fragment := by
  have mask : (0x2000 ||| 0x1fff : UInt16).toNat = 2 ^ 14 - 1 := by decide
  rw [ne_eq, ← UInt16.toNat_inj, UInt16.toNat_and, mask, Nat.and_two_pow_sub_one_eq_mod,
    Ipv4Header.Fragment, Nat.testBit_eq_decide_div_mod_eq, decide_eq_true_eq]
  show ¬ h.flagsOffset.toNat % 2 ^ 14 = 0 ↔ _
  omega

theorem exists_ports {c : Bytes} (n : Nat) (long : 4 + n ≤ c.length) :
    ∃ a b more rest, more.length = n ∧ c = putBe16 a ++ (putBe16 b ++ more) ++ rest := by
  obtain ⟨a, c1, rfl, length1⟩ := exists_be16 c (by omega)
  obtain ⟨b, c2, rfl, length2⟩ := exists_be16 c1 (by omega)
  refine ⟨a, b, c2.take n, c2.drop n, ?_, ?_⟩
  · rw [List.length_take]
    omega
  · simp only [List.append_assoc, List.take_append_drop]

end ScrubbingGateway.DataPlane
