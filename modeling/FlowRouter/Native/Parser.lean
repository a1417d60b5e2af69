import FlowRouter.Native.Packet

namespace FlowRouter.Native
open BigEndian

def sizeofEtherHdr : Nat := 14

def sizeofIpv4Hdr : Nat := 20

def sizeofTcpHdr : Nat := 20

def sizeofUdpHdr : Nat := 8

def rteEtherTypeIpv4 : UInt16 := 0x0800

def rteIpv4HdrMfFlag : UInt16 := 0x2000

def rteIpv4HdrOffsetMask : UInt16 := 0x1fff

/-- The TCP branch checks the data offset before it reads the ports. -/
def dpParseTcp (data : Nat) (payloadLen : UInt16) (info : DpPacketMeta) :
    PacketM (DpParseResult × DpPacketMeta) := do
  if payloadLen.toNat < sizeofTcpHdr then
    return (.malformed, info)
  let dataOff ← load8 (data + 12)
  let dataOffsetWords := dataOff >>> 4
  if dataOffsetWords.toNat < 5 then
    return (.malformed, info)
  let headerLen ← narrow16 ↑(dataOffsetWords.toNat * 4)
  if headerLen.toNat > payloadLen.toNat then
    return (.malformed, info)
  let srcPort ← loadBe16 data
  let dstPort ← loadBe16 (data + 2)
  return (.ok, { info with srcPort, dstPort, l4Len := headerLen })

/-- The UDP branch accepts a datagram that is shorter than the IPv4 payload. -/
def dpParseUdp (data : Nat) (payloadLen : UInt16) (info : DpPacketMeta) :
    PacketM (DpParseResult × DpPacketMeta) := do
  if payloadLen.toNat < sizeofUdpHdr then
    return (.malformed, info)
  let datagramLen ← loadBe16 (data + 4)
  if datagramLen.toNat < sizeofUdpHdr ∨ datagramLen.toNat > payloadLen.toNat then
    return (.malformed, info)
  let srcPort ← loadBe16 data
  let dstPort ← loadBe16 (data + 2)
  let l4Len ← narrow16 sizeofUdpHdr
  return (.ok, { info with srcPort, dstPort, l4Len })

/-- The subtraction of the Ethernet length happens in `int`. -/
def dpParseIpv4 (frameLen : UInt16) (info : DpPacketMeta) :
    PacketM (DpParseResult × DpPacketMeta) := do
  if frameLen.toNat < info.l2Len.toNat + sizeofIpv4Hdr then
    return (.malformed, info)
  let ipv4 := info.l2Len.toNat
  let version := (← load8 ipv4) >>> 4
  let ihlWords := (← load8 ipv4) &&& 0x0f
  if version.toNat ≠ 4 ∨ ihlWords.toNat < 5 then
    return (.malformed, info)
  let ihlBytes ← narrow16 ↑(ihlWords.toNat * 4)
  if (ihlBytes.toNat : Int) > frameLen.toNat - info.l2Len.toNat then
    return (.malformed, info)
  let totalLen ← loadBe16 (ipv4 + 2)
  if totalLen.toNat < ihlBytes.toNat ∨
      (totalLen.toNat : Int) > frameLen.toNat - info.l2Len.toNat then
    return (.malformed, info)
  let fragment ← loadBe16 (ipv4 + 6)
  if fragment &&& (rteIpv4HdrMfFlag ||| rteIpv4HdrOffsetMask) ≠ 0 then
    return (.unsupported, info)
  let srcIpv4 ← loadBe32 (ipv4 + 12)
  let dstIpv4 ← loadBe32 (ipv4 + 16)
  let l4Proto ← load8 (ipv4 + 9)
  let l4Offset ← narrow16 ↑(info.l2Len.toNat + ihlBytes.toNat)
  let info := { info with srcIpv4, dstIpv4, l4Proto, l3Len := ihlBytes, l4Offset }
  let payloadLen ← narrow16 (totalLen.toNat - ihlBytes.toNat)
  if info.l4Proto = ipprotoTcp then
    dpParseTcp info.l4Offset.toNat payloadLen info
  else if info.l4Proto = ipprotoUdp then
    dpParseUdp info.l4Offset.toNat payloadLen info
  else
    return (.unsupported, info)

/-- The references of the model are never null, so the first check of the source has no branch. -/
def dpParsePacket (info : DpPacketMeta) : PacketM (DpParseResult × DpPacketMeta) := do
  let mbuf := (← get).mbuf
  if mbuf.nbSegs ≠ 1 then
    return (.unsupported, info)
  if mbuf.pktLen.toNat ≠ mbuf.dataLen.toNat ∨ mbuf.pktLen.toNat > 65535 then
    return (.malformed, info)
  if mbuf.dataLen.toNat < sizeofEtherHdr then
    return (.malformed, .zero)
  let etherType ← loadBe16 12
  let l2Len ← narrow16 sizeofEtherHdr
  let info := { DpPacketMeta.zero with etherType, l2Len }
  if info.etherType ≠ rteEtherTypeIpv4 then
    return (.unsupported, info)
  dpParseIpv4 mbuf.dataLen info

end FlowRouter.Native
