import ScrubbingGateway.DataPlane.FrameFormat
import ScrubbingGateway.DataPlane.Gateway

/-!
# The frames the program accepts

The parser of `parse.h`, with its results as `xdp_gateway` reads them, classifies every byte string
as the format does.
-/

namespace ScrubbingGateway.DataPlane

open Wire

/-! ## The classes of the program -/

def PktMeta.fields (pkt : PktMeta) : PacketFields where
  srcIp := pkt.srcIp
  dstIp := pkt.dstIp
  ipProto := pkt.ipProto
  sport := pkt.sport
  dport := pkt.dport
  icmpType := pkt.icmpType
  icmpCode := pkt.icmpCode
  vlanDepth := pkt.vlanDepth.toNat
  l3Off := pkt.l3Off.toNat
  l4Off := pkt.l4Off.toNat

def classifyIpv4 (frame : Frame) (cur : HdrCursor) (pkt : PktMeta) : FrameClass :=
  let ip := parseIpv4 frame cur pkt
  if ip.result = .fragment then .fragment
  else if ip.result ≠ .ok then .malformed
  else
    let l4 := parseL4 frame ip.cur ip.pkt
    if l4.result ≠ .ok then .malformed else .accepted l4.pkt.fields

/-- What `xdp_gateway` makes of the results of the parser. -/
def classify (frame : Frame) : FrameClass :=
  let eth := parseEth frame ⟨0, 0⟩ (.init frame)
  if eth.result ≠ .ok then .unsupportedEthertype
  else if eth.pkt.ethProto = ethPIpv6 then .ipv6
  else if eth.pkt.ethProto = ethPArp then .arp
  else if eth.pkt.ethProto = ethPIp then classifyIpv4 frame eth.cur eth.pkt
  else .unsupportedEthertype

/-- How a frame of a class is treated, with the record as far as parsing got. -/
def FrameClass.treat (frame : Frame) (pkt : PktMeta) : FrameClass → PacketProg Verdict
  | .unsupportedEthertype => recordDrop pkt .unsupportedEthertype
  | .ipv6 => recordDrop pkt .ipv6Unsupported
  | .arp => redirectOut frame pkt
  | .malformed => recordDrop pkt .malformedIpv4
  | .fragment => recordDrop pkt .fragmentUnsupported
  | .accepted _ => do
    if ← nodeControlBypass then redirectOutBypass pkt else serviceLookupRedirect frame pkt

/-- The program treats a frame by its class, and an accepted one with the fields it has read. -/
theorem xdpGateway_eq_treat (frame : Frame) :
    ∃ pkt, xdpGateway frame = (classify frame).treat frame pkt ∧
      ∀ fields, classify frame = .accepted fields → pkt.fields = fields := by
  unfold xdpGateway ipv4Stage classify classifyIpv4
  dsimp only
  split_ifs
  all_goals refine ⟨_, rfl, fun fields same => ?_⟩
  all_goals first | exact FrameClass.accepted.inj same | cases same

/-! ## The parser over what it has not read yet -/

variable {h : Ipv4Header}

section Parser

variable {frame : Frame} {pos : Nat}

def cursorAt (pos : Nat) : HdrCursor := ⟨pos, UInt16.ofNat pos⟩

variable {c rest : Bytes} {pkt : PktMeta}

section

variable (left : frame.drop pos = c)
include left

theorem getD_of_drop (i : Nat) : frame.getD (pos + i) 0 = c.getD i 0 := by
  simp [← left, List.getD_eq_getElem?_getD]

theorem be16_of_drop (i : Nat) : frame.be16 (pos + i) = join16 (c.getD i 0) (c.getD (i + 1) 0) := by
  rw [Frame.be16, getD_of_drop left, Nat.add_assoc, getD_of_drop left]
  rfl

theorem be32_of_drop (i : Nat) :
    frame.be32 (pos + i) = join32 (join16 (c.getD i 0) (c.getD (i + 1) 0))
      (join16 (c.getD (i + 2) 0) (c.getD (i + 3) 0)) := by
  rw [Frame.be32, be16_of_drop left, Nat.add_assoc, be16_of_drop left]
  rfl

theorem length_of_drop (inside : pos ≤ frame.length) : pos + c.length = frame.length := by
  rw [← left, List.length_drop]
  omega

end

theorem drop_of_append (left : frame.drop pos = c ++ rest) :
    frame.drop (pos + c.length) = rest := by
  rw [← List.drop_drop, left, List.drop_left]

theorem cursorAdvance_eq (left : frame.drop pos = c) (inside : pos ≤ frame.length) (len : UInt16) :
    cursorAdvance frame (cursorAt pos) len =
      if len.toNat ≤ c.length then some (cursorAt (pos + len.toNat)) else none := by
  have length := length_of_drop left inside
  unfold cursorAdvance cursorAt
  dsimp only
  split
  next beyond => rw [if_neg (by omega)]
  next within =>
    rw [if_pos (by omega), UInt16.ofNat_add, UInt16.ofNat_toNat]

variable {inner tci : UInt16}

theorem behind_tag (inside : pos ≤ frame.length)
    (behind : frame.drop pos = putBe16 tci ++ (putBe16 inner ++ c)) :
    frame.drop (pos + 4) = c ∧ pos + 4 ≤ frame.length := by
  have length := length_of_drop behind inside
  constructor
  · exact drop_of_append (c := putBe16 tci ++ putBe16 inner) (behind.trans (by simp))
  · simp [putBe16] at length
    omega

theorem parseVlan_tag {left : Nat} (inside : pos ≤ frame.length)
    (vlan : isVlanProto pkt.ethProto = true)
    (behind : frame.drop pos = putBe16 tci ++ (putBe16 inner ++ c)) :
    parseVlan frame (left + 1) (cursorAt pos) pkt =
      parseVlan frame left (cursorAt (pos + 4))
        { pkt with vlanDepth := pkt.vlanDepth + 1, ethProto := inner } := by
  have type : frame.be16 (pos + 2) = inner := by
    rw [be16_of_drop behind]
    exact join16_putBe16 inner
  have long : (4 : UInt16).toNat ≤ (putBe16 tci ++ (putBe16 inner ++ c)).length := by
    simp [putBe16]
  rw [parseVlan, if_pos vlan, cursorAdvance_eq behind inside, if_pos long]
  simp only [cursorAt, type]
  rfl

theorem parseVlan_untagged (left : Nat) {cur : HdrCursor}
    (untagged : isVlanProto pkt.ethProto = false) :
    parseVlan frame left cur pkt = ⟨.ok, cur, pkt⟩ := by
  cases left with
  | zero | succ => simp [parseVlan, untagged]

theorem parseVlan_some (pkt : PktMeta) (depth : Nat) {left : Nat} {tags : List VlanTag}
    {etherType : UInt16} (valid : TagsValid (tags, etherType)) (few : tags.length ≤ left)
    (inside : pos ≤ frame.length) (deep : pkt.vlanDepth = UInt8.ofNat depth)
    (bytes : putBe16 pkt.ethProto ++ frame.drop pos = putTags (tags, etherType) ++ rest) :
    parseVlan frame left (cursorAt pos) pkt =
        ⟨.ok, cursorAt (pos + 4 * tags.length),
          { pkt with vlanDepth := UInt8.ofNat (depth + tags.length), ethProto := etherType }⟩ ∧
      frame.drop (pos + 4 * tags.length) = rest ∧ pos + 4 * tags.length ≤ frame.length := by
  induction tags generalizing pos depth pkt left with
  | nil =>
    obtain ⟨rfl, behind⟩ := putBe16_append_inj bytes
    rw [parseVlan_untagged left valid.untagged]
    exact ⟨by simp [← deep], behind, inside⟩
  | cons tag tags ih =>
    rw [putTags_cons, List.append_assoc, List.append_assoc] at bytes
    obtain ⟨type, behind⟩ := putBe16_append_inj bytes
    obtain ⟨vlan, validTags⟩ := TagsValid.cons_iff.mp valid
    obtain ⟨inner, c, first⟩ := putTags_first (tags, etherType) rest
    rw [first] at behind
    obtain ⟨next, inside'⟩ := behind_tag inside behind
    cases left with
    | zero => exact absurd few (by simp)
    | succ left =>
      have deeper : pkt.vlanDepth + 1 = UInt8.ofNat (depth + 1) := by simp [deep]
      rw [parseVlan_tag inside (type ▸ vlan) behind]
      obtain ⟨parsed, restAt, within⟩ :=
        ih { pkt with vlanDepth := pkt.vlanDepth + 1, ethProto := inner } (depth + 1) validTags
          (Nat.succ_le_succ_iff.mp few) inside' deeper (by rw [next, first])
      have moved : pos + 4 + 4 * tags.length = pos + 4 * (tags.length + 1) := by omega
      have count : depth + 1 + tags.length = depth + (tags.length + 1) := by omega
      rw [moved] at parsed restAt within
      rw [parsed, count]
      exact ⟨rfl, restAt, within⟩

theorem parseVlan_ok {left : Nat} (inside : pos ≤ frame.length)
    (ok : (parseVlan frame left (cursorAt pos) pkt).result = .ok) :
    ∃ tags etherType rest, TagsValid (tags, etherType) ∧ tags.length ≤ left ∧
      putBe16 pkt.ethProto ++ frame.drop pos = putTags (tags, etherType) ++ rest := by
  cases vlan : isVlanProto pkt.ethProto with
  | false => exact ⟨[], pkt.ethProto, frame.drop pos, ⟨by simp, vlan⟩, Nat.zero_le left, rfl⟩
  | true =>
    induction left generalizing pos pkt with
    | zero => simp [parseVlan, vlan] at ok
    | succ left ih =>
      by_cases long : 4 ≤ (frame.drop pos).length
      · obtain ⟨tci, c, behind, length⟩ := exists_be16 (frame.drop pos) (by omega)
        obtain ⟨inner, c', rfl, _⟩ := exists_be16 c (by omega)
        obtain ⟨next, inside'⟩ := behind_tag inside behind
        rw [parseVlan_tag inside vlan behind] at ok
        have tagged (tags : List VlanTag) (etherType : UInt16) (rest : Bytes)
            (bytes : putBe16 inner ++ c' = putTags (tags, etherType) ++ rest) :
            putBe16 pkt.ethProto ++ frame.drop pos =
              putTags (⟨pkt.ethProto, tci⟩ :: tags, etherType) ++ rest := by
          rw [putTags_cons, behind, bytes, List.append_assoc, List.append_assoc]
        cases more : isVlanProto inner with
        | false =>
          exact ⟨[⟨pkt.ethProto, tci⟩], inner, c', TagsValid.cons_iff.mpr ⟨vlan, by simp, more⟩,
            by simp, tagged [] inner c' rfl⟩
        | true =>
          obtain ⟨tags, etherType, rest, valid, few, bytes⟩ := ih inside' ok more
          rw [next] at bytes
          exact ⟨⟨pkt.ethProto, tci⟩ :: tags, etherType, rest,
            TagsValid.cons_iff.mpr ⟨vlan, valid⟩, Nat.succ_le_succ few,
            tagged tags etherType rest bytes⟩
      · -- the tag is cut off
        have short : ¬ (4 : UInt16).toNat ≤ (frame.drop pos).length := long
        rw [parseVlan, if_pos vlan, cursorAdvance_eq rfl inside, if_neg short] at ok
        cases ok

theorem parseEth_typed {addresses : Bytes} {type : UInt16} (pkt : PktMeta)
    (twelve : addresses.length = 12) (bytes : frame = addresses ++ (putBe16 type ++ c)) :
    parseEth frame (cursorAt 0) pkt =
        parseVlan frame 2 (cursorAt 14) { pkt with ethProto := type } ∧
      frame.drop 14 = c ∧ 14 ≤ frame.length := by
  have whole : frame.drop 0 = frame := List.drop_zero
  have typeAt : frame.drop 12 = putBe16 type ++ c := by
    rw [bytes, ← twelve, List.drop_left]
  have read : frame.be16 12 = type := by
    have word := be16_of_drop typeAt 0
    rw [Nat.add_zero] at word
    exact word.trans (join16_putBe16 type)
  have behind : frame.drop (12 + (putBe16 type).length) = c := drop_of_append typeAt
  have long : 14 ≤ frame.length := by
    rw [bytes, List.length_append, List.length_append, twelve]
    simp [putBe16]
    omega
  have enough : (14 : UInt16).toNat ≤ frame.length := long
  refine ⟨?_, behind, long⟩
  rw [parseEth, cursorAdvance_eq whole (Nat.zero_le _), if_pos enough]
  simp only [cursorAt, Nat.zero_add, read]
  rfl

def PktMeta.ofLink (frame : Frame) (link : LinkHeader) : PktMeta :=
  { PktMeta.init frame with
    vlanDepth := UInt8.ofNat link.tags.length
    ethProto := link.etherType }

theorem parseEth_some {link : LinkHeader} (valid : link.Valid) (bytes : frame = link.put ++ rest) :
    parseEth frame (cursorAt 0) (.init frame) =
        ⟨.ok, cursorAt link.put.length, .ofLink frame link⟩ ∧
      frame.drop link.put.length = rest ∧ link.put.length ≤ frame.length := by
  obtain ⟨type, c, first⟩ := putTags_first (link.tags, link.etherType) rest
  have typed : frame = link.addresses ++ (putBe16 type ++ c) := by
    rw [bytes, LinkHeader.put, List.append_assoc, first]
  obtain ⟨parsed, behind, long⟩ := parseEth_typed (.init frame) valid.addresses typed
  have length : link.put.length = 14 + 4 * link.tags.length := by
    rw [LinkHeader.put, List.length_append, length_putTags, valid.addresses]
    omega
  obtain ⟨tagged, restAt, within⟩ := parseVlan_some { PktMeta.init frame with ethProto := type } 0
    valid.tags valid.shallow long rfl (by rw [behind, first])
  rw [length, parsed, tagged]
  refine ⟨?_, restAt, within⟩
  simp only [Nat.zero_add]
  rfl

theorem parseEth_ok (ok : (parseEth frame (cursorAt 0) (.init frame)).result = .ok) :
    ∃ link rest, LinkHeader.Valid link ∧ frame = link.put ++ rest := by
  by_cases long : 14 ≤ frame.length
  · have twelve : (frame.take 12).length = 12 := by
      rw [List.length_take]
      omega
    obtain ⟨type, c, behind, _⟩ := exists_be16 (frame.drop 12) (by simp; omega)
    have bytes : frame = frame.take 12 ++ (putBe16 type ++ c) := by
      rw [← behind, List.take_append_drop]
    obtain ⟨parsed, behind, _⟩ := parseEth_typed (.init frame) twelve bytes
    rw [parsed] at ok
    obtain ⟨tags, etherType, rest, valid, few, typed⟩ := parseVlan_ok long ok
    rw [behind] at typed
    refine ⟨⟨frame.take 12, tags, etherType⟩, rest, ⟨twelve, valid, few⟩, ?_⟩
    rw [LinkHeader.put, List.append_assoc, ← typed]
    exact bytes
  · -- not even the first 14 bytes
    have whole : frame.drop 0 = frame := List.drop_zero
    have short : ¬ (14 : UInt16).toNat ≤ frame.length := long
    rw [parseEth, cursorAdvance_eq whole (Nat.zero_le _), if_neg short] at ok
    cases ok

theorem toNat_ihlLen (first : UInt8) :
    ((first &&& 0x0f).toUInt16 <<< 2).toNat = 4 * (first &&& 0x0f).toNat ∧
      (first &&& 0x0f).toNat < 16 := by
  have all : ∀ b : Fin 256, ((UInt8.ofFin b &&& 0x0f).toUInt16 <<< 2).toNat =
      4 * (UInt8.ofFin b &&& 0x0f).toNat ∧ (UInt8.ofFin b &&& 0x0f).toNat < 16 := by
    decide +kernel
  exact all first.toFin

theorem parseIpv4_ok (inside : pos ≤ frame.length)
    (ok : (parseIpv4 frame (cursorAt pos) pkt).result ≠ .malformed) :
    ∃ h rest, Ipv4Header.Valid h ∧ frame.drop pos = h.put ++ rest := by
  have first : frame.getD pos 0 = (frame.drop pos).getD 0 0 := getD_of_drop rfl 0
  have length : pos + (frame.drop pos).length = frame.length := length_of_drop rfl inside
  obtain ⟨len, _⟩ := toNat_ihlLen (frame.getD pos 0)
  rw [parseIpv4, cursorAdvance_eq rfl inside] at ok
  by_cases twenty : (20 : UInt16).toNat ≤ (frame.drop pos).length
  · rw [if_pos twenty] at ok
    dsimp only [cursorAt] at ok
    split at ok
    · exact absurd rfl ok
    next version =>
    split at ok
    · exact absurd rfl ok
    next range =>
    split at ok
    · exact absurd rfl ok
    next within =>
    rw [not_not] at version
    simp only [UInt16.lt_iff_toNat_lt, len, not_or, Nat.not_lt] at range within
    have low : 20 ≤ 4 * (frame.getD pos 0 &&& 0x0f).toNat := range.1
    rw [first] at version low within
    exact exists_ipv4 twenty version (by omega) (by omega)
  · rw [if_neg twenty] at ok
    exact absurd rfl ok

theorem ipv4_fields (valid : h.Valid) (at_ : frame.drop pos = h.put ++ rest) :
    frame.getD pos 0 >>> 4 = 4 ∧ frame.getD pos 0 &&& 0x0f = h.ihl ∧
      frame.be16 (pos + 2) = h.totalLen ∧ frame.be16 (pos + 6) = h.flagsOffset ∧
      frame.getD (pos + 9) 0 = h.protocol ∧ frame.be32 (pos + 12) = h.src ∧
      frame.be32 (pos + 16) = h.dst := by
  have first : frame.getD pos 0 = 64 + h.ihl := getD_of_drop at_ 0
  obtain ⟨version, ihl⟩ := (versionIhl_iff (64 + h.ihl) h.ihl).mpr ⟨valid.ihl.2, rfl⟩
  rw [first, be16_of_drop at_, be16_of_drop at_, getD_of_drop at_, be32_of_drop at_,
    be32_of_drop at_]
  refine ⟨version, ihl, join16_putBe16 _, join16_putBe16 _, rfl, ?_, ?_⟩
  · exact (congrArg₂ join32 (join16_putBe16 _) (join16_putBe16 _)).trans (join32_putBe32 h.src)
  · exact (congrArg₂ join32 (join16_putBe16 _) (join16_putBe16 _)).trans (join32_putBe32 h.dst)

/-- The packet record of a header. -/
def PktMeta.withIpv4 (pkt : PktMeta) (h : Ipv4Header) (pos : Nat) : PktMeta :=
  { pkt with
    srcIp := h.src
    dstIp := h.dst
    ipProto := h.protocol
    l3Off := UInt16.ofNat pos
    l4Off := UInt16.ofNat (pos + h.length) }

/-- A header of the format is read, and then checked for its length and for fragments. -/
theorem parseIpv4_some (inside : pos ≤ frame.length) (valid : h.Valid)
    (at_ : frame.drop pos = h.put ++ rest) :
    parseIpv4 frame (cursorAt pos) pkt =
      if h.Fits (h.put ++ rest) then
        if h.Fragment then
          ⟨.fragment, cursorAt (pos + h.length), { pkt.withIpv4 h pos with isFragment := true }⟩
        else ⟨.ok, cursorAt (pos + h.length), pkt.withIpv4 h pos⟩
      else ⟨.malformed, cursorAt (pos + h.length), pkt⟩ := by
  obtain ⟨version, ihl, totalLen, flags, protocol, src, dst⟩ := ipv4_fields valid at_
  obtain ⟨len, _⟩ := toNat_ihlLen (frame.getD pos 0)
  rw [ihl] at len
  have length := length_of_drop at_ inside
  have headerLength := length_put_ipv4 valid
  have long : 20 ≤ h.length := by
    have options := valid.options
    omega
  have short : h.length ≤ 60 := by
    have words := valid.ihl.2
    simp only [Ipv4Header.length]
    omega
  rw [List.length_append, headerLength] at length
  have twenty : (20 : UInt16).toNat ≤ (h.put ++ rest).length := by
    rw [List.length_append, headerLength]
    exact long.trans (Nat.le_add_right _ _)
  have range : ¬ (h.ihl.toUInt16 <<< 2 < 20 ∨ h.ihl.toUInt16 <<< 2 > 60) := by
    simp only [gt_iff_lt, UInt16.lt_iff_toNat_lt, len, not_or, Nat.not_lt]
    exact ⟨long, short⟩
  have within : ¬ pos + (h.ihl.toUInt16 <<< 2).toNat > frame.length := by
    rw [len]
    simp only [Ipv4Header.length] at length
    omega
  have offset : UInt16.ofNat pos + h.ihl.toUInt16 <<< 2 = UInt16.ofNat (pos + h.length) := by
    rw [Ipv4Header.length, ← len, UInt16.ofNat_add, UInt16.ofNat_toNat]
  have fits : (h.totalLen < h.ihl.toUInt16 <<< 2 ∨ h.totalLen.toNat > frame.length - pos) ↔
      ¬ h.Fits (h.put ++ rest) := by
    rw [UInt16.lt_iff_toNat_lt, len, Ipv4Header.Fits, List.length_append, headerLength,
      Ipv4Header.length]
    simp only [Ipv4Header.length] at length
    omega
  rw [parseIpv4, cursorAdvance_eq at_ inside, if_pos twenty]
  dsimp only [cursorAt]
  rw [if_neg (not_not.mpr version), ihl, if_neg range, if_neg within, totalLen, flags, protocol,
    src, dst, offset, len]
  by_cases fit : h.Fits (h.put ++ rest)
  · rw [if_neg (fun bad => fits.mp bad fit), if_pos fit]
    by_cases fragment : h.Fragment
    · rw [if_pos ((fragment_iff h).mpr fragment), if_pos fragment]
      rfl
    · rw [if_neg (fun bits => fragment ((fragment_iff h).mp bits)), if_neg fragment]
      rfl
  · rw [if_pos (fits.mpr fit), if_neg fit]
    rfl

def PktMeta.withTransport (pkt : PktMeta) : TransportHeader → PktMeta
  | .tcp sport dport _ => { pkt with sport, dport }
  | .udp sport dport _ => { pkt with sport, dport }
  | .icmp type code _ => { pkt with icmpType := type, icmpCode := code }
  | .other => pkt

theorem cursorAdvance_ports {a b : UInt16} {more payload : Bytes} (len : UInt16)
    (inside : pos ≤ frame.length)
    (at_ : frame.drop pos = putBe16 a ++ (putBe16 b ++ more) ++ payload)
    (length : 4 + more.length = len.toNat) :
    cursorAdvance frame (cursorAt pos) len = some (cursorAt (pos + len.toNat)) ∧
      frame.be16 pos = a ∧ frame.be16 (pos + 2) = b := by
  have first := be16_of_drop at_ 0
  rw [Nat.add_zero] at first
  have long : len.toNat ≤ (putBe16 a ++ (putBe16 b ++ more) ++ payload).length := by
    simp [putBe16]
    omega
  rw [cursorAdvance_eq at_ inside, if_pos long, first, be16_of_drop at_]
  exact ⟨rfl, join16_putBe16 a, join16_putBe16 b⟩

variable (inside : pos ≤ frame.length)
include inside

theorem parseL4_some {l4 : TransportHeader} {payload : Bytes} (valid : l4.Valid pkt.ipProto)
    (at_ : frame.drop pos = l4.put ++ payload) :
    (parseL4 frame (cursorAt pos) pkt).result = .ok ∧
      (parseL4 frame (cursorAt pos) pkt).pkt = pkt.withTransport l4 := by
  unfold parseL4
  cases l4 with
  | tcp sport dport more =>
    obtain ⟨tcp, sixteen⟩ := valid
    obtain ⟨advanced, first, second⟩ := cursorAdvance_ports 20 inside at_ (by rw [sixteen]; rfl)
    rw [if_pos tcp, advanced]
    simp only [cursorAt, first, second]
    exact ⟨trivial, rfl⟩
  | udp sport dport more =>
    obtain ⟨udp, four⟩ := valid
    obtain ⟨advanced, first, second⟩ := cursorAdvance_ports 8 inside at_ (by rw [four]; rfl)
    have notTcp : pkt.ipProto ≠ ipprotoTcp := by
      rw [udp]
      decide
    rw [if_neg notTcp, if_pos udp, advanced]
    simp only [cursorAt, first, second]
    exact ⟨trivial, rfl⟩
  | icmp type code more =>
    obtain ⟨icmp, six⟩ := valid
    have long : (8 : UInt16).toNat ≤ (TransportHeader.put (.icmp type code more) ++
        payload).length := by
      simp [TransportHeader.put, six]
    have first : frame.getD pos 0 = type := getD_of_drop at_ 0
    have second : frame.getD (pos + 1) 0 = code := getD_of_drop at_ 1
    have others : pkt.ipProto ≠ ipprotoTcp ∧ pkt.ipProto ≠ ipprotoUdp := by
      rw [icmp]
      decide
    rw [if_neg others.1, if_neg others.2, if_pos icmp, cursorAdvance_eq at_ inside, if_pos long]
    simp only [cursorAt, first, second]
    exact ⟨trivial, rfl⟩
  | other =>
    obtain ⟨notTcp, notUdp, notIcmp⟩ := valid
    rw [if_neg notTcp, if_neg notUdp, if_neg notIcmp]
    exact ⟨rfl, rfl⟩

theorem length_of_advance {len : UInt16} {next : HdrCursor}
    (advanced : cursorAdvance frame (cursorAt pos) len = some next) :
    len.toNat ≤ (frame.drop pos).length := by
  rw [cursorAdvance_eq rfl inside] at advanced
  exact (Option.ite_none_right_eq_some.mp advanced).1

theorem parseL4_ok (ok : (parseL4 frame (cursorAt pos) pkt).result = .ok) :
    ∃ l4 payload, TransportHeader.Valid pkt.ipProto l4 ∧ frame.drop pos = l4.put ++ payload := by
  unfold parseL4 at ok
  split at ok
  next tcp =>
    cases advanced : cursorAdvance frame (cursorAt pos) 20 with
    | none =>
      rw [advanced] at ok
      cases ok
    | some next =>
      obtain ⟨sport, dport, more, payload, length, bytes⟩ :=
        exists_ports 16 (length_of_advance inside advanced)
      exact ⟨.tcp sport dport more, payload, ⟨tcp, length⟩, bytes⟩
  next notTcp =>
  split at ok
  next udp =>
    cases advanced : cursorAdvance frame (cursorAt pos) 8 with
    | none =>
      rw [advanced] at ok
      cases ok
    | some next =>
      obtain ⟨sport, dport, more, payload, length, bytes⟩ :=
        exists_ports 4 (length_of_advance inside advanced)
      exact ⟨.udp sport dport more, payload, ⟨udp, length⟩, bytes⟩
  next notUdp =>
  split at ok
  next icmp =>
    cases advanced : cursorAdvance frame (cursorAt pos) 8 with
    | none =>
      rw [advanced] at ok
      cases ok
    | some next =>
      have long : 8 ≤ (frame.drop pos).length := length_of_advance inside advanced
      obtain ⟨type, c1, bytes, length1⟩ := exists_byte (frame.drop pos) (by omega)
      obtain ⟨code, c2, rfl, length2⟩ := exists_byte c1 (by omega)
      refine ⟨.icmp type code (c2.take 6), c2.drop 6, ⟨icmp, ?_⟩, ?_⟩
      · rw [List.length_take]
        omega
      · rw [bytes, TransportHeader.put, List.append_assoc, List.append_assoc,
          List.take_append_drop]
  next notIcmp => exact ⟨.other, frame.drop pos, ⟨notTcp, notUdp, notIcmp⟩, rfl⟩

end Parser

/-! ## The classes agree -/

variable {link : LinkHeader}

theorem offsets_small (valid : link.Valid) (header : h.Valid) :
    link.put.length + h.length < 2 ^ 16 ∧ link.tags.length < 2 ^ 8 := by
  have tags := valid.shallow
  have words := header.ihl.2
  have addresses := valid.addresses
  simp only [LinkHeader.put, List.length_append, length_putTags, Ipv4Header.length]
  omega

theorem fields_withTransport (valid : link.Valid) (header : h.Valid) (frame : Frame)
    (l4 : TransportHeader) :
    (((PktMeta.ofLink frame link).withIpv4 h link.put.length).withTransport l4).fields =
      .of link h l4 := by
  obtain ⟨small, shallow⟩ := offsets_small valid header
  have depth : (UInt8.ofNat link.tags.length).toNat = link.tags.length :=
    UInt8.toNat_ofNat_of_lt' shallow
  have l3 : (UInt16.ofNat link.put.length).toNat = link.put.length :=
    UInt16.toNat_ofNat_of_lt' (Nat.lt_of_le_of_lt (Nat.le_add_right _ _) small)
  have l4Off : (UInt16.ofNat (link.put.length + h.length)).toNat = link.put.length + h.length :=
    UInt16.toNat_ofNat_of_lt' small
  cases l4 <;> simp only [PktMeta.withTransport, PktMeta.withIpv4, PktMeta.fields, PacketFields.of,
    PktMeta.ofLink, PktMeta.init, depth, l3, l4Off]

theorem classify_link (valid : link.Valid) (datagram : Bytes) :
    classify (link.put ++ datagram) =
      if link.etherType = ethPIpv6 then .ipv6
      else if link.etherType = ethPArp then .arp
      else if link.etherType = ethPIp then
        classifyIpv4 (link.put ++ datagram) (cursorAt link.put.length)
          (.ofLink (link.put ++ datagram) link)
      else .unsupportedEthertype := by
  obtain ⟨parsed, _, _⟩ := parseEth_some valid (rfl : link.put ++ datagram = _)
  have type : (PktMeta.ofLink (link.put ++ datagram) link).ethProto = link.etherType := rfl
  unfold classify
  rw [show (⟨0, 0⟩ : HdrCursor) = cursorAt 0 from rfl, parsed]
  simp only [type, ne_eq, not_true_eq_false, if_false]

section Datagram

variable {datagram rest : Bytes} {h : Ipv4Header}

theorem inside_link : link.put.length ≤ (link.put ++ datagram).length := by simp

theorem drop_link : (link.put ++ datagram).drop link.put.length = datagram := List.drop_left

theorem classify_header (valid : link.Valid) (type : link.etherType = ethPIp) (header : h.Valid) :
    classify (link.put ++ (h.put ++ rest)) =
      if h.Fits (h.put ++ rest) then
        if h.Fragment then .fragment
        else
          let l4 := parseL4 (link.put ++ (h.put ++ rest)) (cursorAt (link.put.length + h.length))
            ((PktMeta.ofLink (link.put ++ (h.put ++ rest)) link).withIpv4 h link.put.length)
          if l4.result ≠ .ok then .malformed else .accepted l4.pkt.fields
      else .malformed := by
  rw [classify_link valid, type, if_neg (by decide), if_neg (by decide), if_pos rfl, classifyIpv4,
    parseIpv4_some inside_link header drop_link]
  by_cases fits : h.Fits (h.put ++ rest)
  · by_cases fragment : h.Fragment
    · simp [fits, fragment]
    · simp [fits, fragment]
  · simp [fits]

theorem inside_header (header : h.Valid) :
    link.put.length + h.length ≤ (link.put ++ (h.put ++ rest)).length := by
  rw [List.length_append, List.length_append, length_put_ipv4 header]
  omega

theorem drop_header (link : LinkHeader) (rest : Bytes) (header : h.Valid) :
    (link.put ++ (h.put ++ rest)).drop (link.put.length + h.length) = rest := by
  rw [← length_put_ipv4 header, ← List.drop_drop, List.drop_left, List.drop_left]

/-- The header of a datagram is determined by its bytes, as far as its length goes. -/
theorem fits_iff {h' : Ipv4Header} {rest' : Bytes} (header : h.Valid) (header' : h'.Valid)
    (same : h.put ++ rest = h'.put ++ rest') : h.Fits (h.put ++ rest) ↔ h'.Fits (h.put ++ rest) := by
  have start : (h.put ++ rest).drop 0 = h.put ++ rest := List.drop_zero
  obtain ⟨_, ihl, totalLen, _⟩ := ipv4_fields header start
  obtain ⟨_, ihl', totalLen', _⟩ := ipv4_fields header' (start.trans same)
  rw [Ipv4Header.Fits, Ipv4Header.Fits, Ipv4Header.length, Ipv4Header.length, ← ihl, ← ihl',
    ← totalLen, ← totalLen']

end Datagram

/-- The grammar gives a frame the class of the program. -/
theorem classify_of_grammar {frame : Bytes} {c : FrameClass} (grammar : Grammar frame c) :
    classify frame = c := by
  cases grammar with
  | noLink none =>
    have failed : (parseEth frame ⟨0, 0⟩ (.init frame)).result ≠ .ok := by
      intro ok
      obtain ⟨link, rest, valid, bytes⟩ := parseEth_ok ok
      exact none link rest valid bytes
    rw [classify, if_pos failed]
  | otherType valid other => simp [classify_link valid, other.1, other.2.1, other.2.2]
  | ipv6 valid type => simp [classify_link valid, type]
  | arp valid type => simp [classify_link valid, type, ethPArp, ethPIpv6]
  | @noIpv4 link datagram valid type none =>
    by_cases there : ∃ h rest, Ipv4Header.Valid h ∧ datagram = h.put ++ rest
    · -- a header that is there does not fit
      obtain ⟨h, rest, header, rfl⟩ := there
      rw [classify_header valid type header, if_neg (none h rest header rfl)]
    · have malformed : (parseIpv4 (link.put ++ datagram) (cursorAt link.put.length)
          (.ofLink (link.put ++ datagram) link)).result = .malformed := by
        by_contra ok
        obtain ⟨h, rest, header, bytes⟩ := parseIpv4_ok inside_link ok
        exact there ⟨h, rest, header, drop_link.symm.trans bytes⟩
      rw [classify_link valid, type, if_neg (by decide), if_neg (by decide), if_pos rfl,
        classifyIpv4]
      simp [malformed]
  | fragment valid type header fits fragment =>
    rw [classify_header valid type header, if_pos fits, if_pos fragment]
  | noTransport valid type header fits whole none =>
    rw [classify_header valid type header, if_pos fits, if_neg whole]
    refine if_pos fun ok => ?_
    obtain ⟨l4, payload, transport, bytes⟩ := parseL4_ok (inside_header header) ok
    exact none l4 payload transport ((drop_header _ _ header).symm.trans bytes)
  | @accepted link h l4 payload valid type header fits whole transport =>
    rw [classify_header valid type header, if_pos fits, if_neg whole]
    have known : l4.Valid ((PktMeta.ofLink (link.put ++ (h.put ++ (l4.put ++ payload)))
      link).withIpv4 h link.put.length).ipProto := transport
    obtain ⟨ok, pkt⟩ :=
      parseL4_some (inside_header header) known (drop_header link (l4.put ++ payload) header)
    simp only [ok, pkt, ne_eq, not_true_eq_false, if_false, fields_withTransport valid header]

/-- Every frame has a class. -/
theorem exists_grammar (frame : Bytes) : ∃ c, Grammar frame c := by
  by_cases linked : ∃ link rest, LinkHeader.Valid link ∧ frame = link.put ++ rest
  · obtain ⟨link, datagram, valid, rfl⟩ := linked
    by_cases type : link.etherType = ethPIp
    · by_cases there : ∃ h rest, Ipv4Header.Valid h ∧ datagram = h.put ++ rest
      · obtain ⟨h, rest, header, rfl⟩ := there
        by_cases fits : h.Fits (h.put ++ rest)
        · by_cases fragment : h.Fragment
          · exact ⟨_, .fragment valid type header fits fragment⟩
          by_cases complete : ∃ l4 payload, TransportHeader.Valid h.protocol l4 ∧
            rest = l4.put ++ payload
          · obtain ⟨l4, payload, transport, rfl⟩ := complete
            exact ⟨_, .accepted valid type header fits fragment transport⟩
          · exact ⟨_, .noTransport valid type header fits fragment fun l4 payload transport bytes =>
              complete ⟨l4, payload, transport, bytes⟩⟩
        · exact ⟨_, .noIpv4 valid type fun h' rest' header' bytes =>
            mt (fits_iff header header' bytes).mpr fits⟩
      · exact ⟨_, .noIpv4 valid type fun h rest header bytes =>
          absurd ⟨h, rest, header, bytes⟩ there⟩
    · by_cases ipv6 : link.etherType = ethPIpv6
      · exact ⟨_, .ipv6 valid ipv6⟩
      by_cases arp : link.etherType = ethPArp
      · exact ⟨_, .arp valid arp⟩
      · exact ⟨_, .otherType valid ⟨type, ipv6, arp⟩⟩
  · exact ⟨_, .noLink fun link rest valid bytes => linked ⟨link, rest, valid, bytes⟩⟩

/-- The program treats every byte string as the class the grammar gives it, and an accepted packet
has the addresses, the protocol, the ports and the offsets of its headers. -/
theorem xdpGateway_follows_grammar (frame : Frame) :
    ∃ c pkt, Grammar frame c ∧ (∀ other, Grammar frame other → other = c) ∧
      xdpGateway frame = c.treat frame pkt ∧
      ∀ fields, c = .accepted fields → pkt.fields = fields := by
  obtain ⟨pkt, treats, fields⟩ := xdpGateway_eq_treat frame
  obtain ⟨c, grammar⟩ := exists_grammar frame
  obtain rfl := classify_of_grammar grammar
  exact ⟨classify frame, pkt, grammar, fun other grammar' => (classify_of_grammar grammar').symm,
    treats, fields⟩

end ScrubbingGateway.DataPlane
