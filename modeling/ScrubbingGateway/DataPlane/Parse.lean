import Mathlib.Data.List.Basic

/-!
# The frame parser

`parse.h` over the bytes of a frame. The record is filled in as far as parsing gets, since a drop
reports what is known of the packet. Ports and addresses are host-order numbers.
-/

namespace ScrubbingGateway.DataPlane

abbrev Frame : Type := List UInt8

variable (frame : Frame)

def Frame.be16 (i : Nat) : UInt16 :=
  UInt16.ofNat ((frame.getD i 0).toNat * 256 + (frame.getD (i + 1) 0).toNat)

def Frame.be32 (i : Nat) : UInt32 :=
  UInt32.ofNat ((frame.be16 i).toNat * 65536 + (frame.be16 (i + 2)).toNat)

def ethPIp : UInt16 := 0x0800
def ethPArp : UInt16 := 0x0806
def ethPIpv6 : UInt16 := 0x86dd
def ethP8021Q : UInt16 := 0x8100
def ethP8021AD : UInt16 := 0x88a8

def ipprotoIcmp : UInt8 := 1
def ipprotoTcp : UInt8 := 6
def ipprotoUdp : UInt8 := 17

structure PktMeta where
  srcIp : UInt32
  dstIp : UInt32
  serviceId : UInt32
  ethProto : UInt16
  sport : UInt16
  dport : UInt16
  l3Off : UInt16
  l4Off : UInt16
  ipProto : UInt8
  vlanDepth : UInt8
  icmpType : UInt8
  icmpCode : UInt8
  isFragment : Bool
  ruleIdx : UInt8
  frameLen : UInt16
deriving DecidableEq, Repr

/-- The zeroed record of a frame, with its length in 16 bits. -/
def PktMeta.init : PktMeta :=
  { srcIp := 0, dstIp := 0, serviceId := 0, ethProto := 0, sport := 0, dport := 0, l3Off := 0,
    l4Off := 0, ipProto := 0, vlanDepth := 0, icmpType := 0, icmpCode := 0, isFragment := false,
    ruleIdx := 0, frameLen := UInt16.ofNat frame.length }

inductive ParseResult where
  | ok
  | trunc
  | malformed
  | fragment
  | tooDeep
deriving DecidableEq, Repr

structure HdrCursor where
  pos : Nat
  off : UInt16
deriving DecidableEq, Repr

/-- What a parsing step leaves. -/
structure Parsed where
  result : ParseResult
  cur : HdrCursor
  pkt : PktMeta
deriving DecidableEq, Repr

/-- The cursor behind a header of the given length, when the frame holds it. -/
def cursorAdvance (cur : HdrCursor) (len : UInt16) : Option HdrCursor :=
  if cur.pos + len.toNat > frame.length then none
  else some { pos := cur.pos + len.toNat, off := cur.off + len }

def isVlanProto (proto : UInt16) : Bool := proto == ethP8021Q || proto == ethP8021AD

/-- The loop over VLAN tags, with the number of tags it may still strip. -/
def parseVlan (frame : Frame) : (left : Nat) → HdrCursor → PktMeta → Parsed
  | 0, cur, pkt => ⟨if isVlanProto pkt.ethProto then .tooDeep else .ok, cur, pkt⟩
  | left + 1, cur, pkt =>
    if isVlanProto pkt.ethProto then
      match cursorAdvance frame cur 4 with
      | none => ⟨.trunc, cur, pkt⟩
      | some next =>
        parseVlan frame left next
          { pkt with vlanDepth := pkt.vlanDepth + 1, ethProto := frame.be16 (cur.pos + 2) }
    else ⟨.ok, cur, pkt⟩

def parseEth (cur : HdrCursor) (pkt : PktMeta) : Parsed :=
  match cursorAdvance frame cur 14 with
  | none => ⟨.trunc, cur, pkt⟩
  | some next => parseVlan frame 2 next { pkt with ethProto := frame.be16 (cur.pos + 12) }

def parseIpv4 (cur : HdrCursor) (pkt : PktMeta) : Parsed :=
  match cursorAdvance frame cur 20 with
  | none => ⟨.malformed, cur, pkt⟩
  | some next =>
    let iph := cur.pos
    let versionIhl := frame.getD iph 0
    if versionIhl >>> 4 ≠ 4 then ⟨.malformed, next, pkt⟩
    else
      let ihlLen := (versionIhl &&& 0x0f).toUInt16 <<< 2
      if ihlLen < 20 ∨ ihlLen > 60 then ⟨.malformed, next, pkt⟩
      else if iph + ihlLen.toNat > frame.length then ⟨.malformed, next, pkt⟩
      else
        let l4 : HdrCursor := { pos := iph + ihlLen.toNat, off := cur.off + ihlLen }
        let totalLen := frame.be16 (iph + 2)
        if totalLen < ihlLen ∨ totalLen.toNat > frame.length - iph then ⟨.malformed, l4, pkt⟩
        else
          let pkt := { pkt with
            srcIp := frame.be32 (iph + 12)
            dstIp := frame.be32 (iph + 16)
            ipProto := frame.getD (iph + 9) 0
            l3Off := cur.off
            l4Off := cur.off + ihlLen }
          -- more fragments, or an offset behind the start
          if frame.be16 (iph + 6) &&& (0x2000 ||| 0x1fff) ≠ 0 then
            ⟨.fragment, l4, { pkt with isFragment := true }⟩
          else ⟨.ok, l4, pkt⟩

def parseL4 (cur : HdrCursor) (pkt : PktMeta) : Parsed :=
  if pkt.ipProto = ipprotoTcp then
    match cursorAdvance frame cur 20 with
    | none => ⟨.malformed, cur, pkt⟩
    | some next =>
      ⟨.ok, next, { pkt with sport := frame.be16 cur.pos, dport := frame.be16 (cur.pos + 2) }⟩
  else if pkt.ipProto = ipprotoUdp then
    match cursorAdvance frame cur 8 with
    | none => ⟨.malformed, cur, pkt⟩
    | some next =>
      ⟨.ok, next, { pkt with sport := frame.be16 cur.pos, dport := frame.be16 (cur.pos + 2) }⟩
  else if pkt.ipProto = ipprotoIcmp then
    match cursorAdvance frame cur 8 with
    | none => ⟨.malformed, cur, pkt⟩
    | some next =>
      ⟨.ok, next, { pkt with
        icmpType := frame.getD cur.pos 0, icmpCode := frame.getD (cur.pos + 1) 0 }⟩
  else ⟨.ok, cur, pkt⟩

end ScrubbingGateway.DataPlane
