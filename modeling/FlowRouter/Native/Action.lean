import FlowRouter.Native.Packet

namespace FlowRouter.Native
open BigEndian

/-- The two checksum routines come from the packet library.
Each of them sees the bytes that its documentation names and returns the field to store. -/
structure ChecksumLibrary where
  ipv4 : List UInt8 → UInt16
  transport : UInt32 → UInt32 → UInt8 → List UInt8 → UInt16

/-- `rte_ipv4_cksum` sums the header with its options. -/
def rteIpv4Cksum (library : ChecksumLibrary) (ipv4 : Nat) : PacketM UInt16 := do
  let headerLen := ((← load8 ipv4) &&& 0x0f).toNat * 4
  let header ← loadRange ipv4 headerLen
  return library.ipv4 header

/-- `rte_ipv4_udptcp_cksum` derives the length of its range from the IPv4 header it finds. -/
def rteIpv4UdptcpCksum (library : ChecksumLibrary) (ipv4 l4 : Nat) : PacketM UInt16 := do
  let headerLen := ((← load8 ipv4) &&& 0x0f).toNat * 4
  let totalLength ← loadBe16 (ipv4 + 2)
  let srcAddr ← loadBe32 (ipv4 + 12)
  let dstAddr ← loadBe32 (ipv4 + 16)
  let proto ← load8 (ipv4 + 9)
  let segment ← loadRange l4 (totalLength.toNat - headerLen)
  return library.transport srcAddr dstAddr proto segment

/-- A bit of the rewrite mask selects one store. -/
def storeSelected (mask bit : UInt8) (store : PacketM Unit) : PacketM Unit :=
  if mask &&& bit ≠ 0 then store else return ()

/-- This is the TCP block of `dp_apply_action`. -/
def rewriteTcp (library : ChecksumLibrary) (ipv4 l4 : Nat) (action : DpRuleAction) :
    PacketM Int := do
  storeSelected action.rewriteMask dpRewriteSrcPort (storeBe16 l4 action.srcPort)
  storeSelected action.rewriteMask dpRewriteDstPort (storeBe16 (l4 + 2) action.dstPort)
  storeBe16 (l4 + 16) 0
  storeBe16 (ipv4 + 10) 0
  storeBe16 (ipv4 + 10) (← rteIpv4Cksum library ipv4)
  storeBe16 (l4 + 16) (← rteIpv4UdptcpCksum library ipv4 l4)
  return 0

/-- This is the UDP block of `dp_apply_action`. The checksum routine takes its length from the
IPv4 header, so the header holds the length of the datagram during the call. -/
def rewriteUdp (library : ChecksumLibrary) (ipv4 l4 : Nat) (info : DpPacketMeta)
    (action : DpRuleAction) : PacketM Int := do
  storeSelected action.rewriteMask dpRewriteSrcPort (storeBe16 l4 action.srcPort)
  storeSelected action.rewriteMask dpRewriteDstPort (storeBe16 (l4 + 2) action.dstPort)
  storeBe16 (l4 + 6) 0
  storeBe16 (ipv4 + 10) 0
  storeBe16 (ipv4 + 10) (← rteIpv4Cksum library ipv4)
  let ipv4TotalLength ← loadBe16 (ipv4 + 2)
  let udpLength ← loadBe16 (l4 + 4)
  storeBe16 (ipv4 + 2) (← narrow16 ↑(info.l3Len.toNat + udpLength.toNat))
  storeBe16 (l4 + 6) (← rteIpv4UdptcpCksum library ipv4 l4)
  storeBe16 (ipv4 + 2) ipv4TotalLength
  return 0

/-- The rewriter trusts the offsets of the parser and checks no bound of its own. -/
def dpApplyAction (library : ChecksumLibrary) (info : DpPacketMeta) (action : DpRuleAction) :
    PacketM Int := do
  if action.type = dpActionDrop ∨ action.type = dpActionForward then
    return 0
  if action.type ≠ dpActionRewrite ∨ action.rewriteMask = 0 then
    return -einval
  let ipv4 := info.l2Len.toNat
  let l4 := info.l4Offset.toNat
  storeSelected action.rewriteMask dpRewriteSrcIpv4 (storeBe32 (ipv4 + 12) action.srcIpv4)
  storeSelected action.rewriteMask dpRewriteDstIpv4 (storeBe32 (ipv4 + 16) action.dstIpv4)
  if info.l4Proto = ipprotoTcp then
    rewriteTcp library ipv4 l4 action
  else if info.l4Proto = ipprotoUdp then
    rewriteUdp library ipv4 l4 info action
  else
    return -einval

end FlowRouter.Native
