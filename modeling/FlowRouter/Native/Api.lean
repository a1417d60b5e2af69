import Mathlib.Data.UInt

namespace FlowRouter.Native

/-- The worker array has this fixed size. -/
def dpMaxWorkers : Nat := 4

/-- One RX burst returns at most this many mbufs. -/
def dpBurstSize : Nat := 32

def dpMaxFlowRules : Nat := 1024

def dpMaxRouteRules : Nat := 1024

/-- These values are the `dp_action_type` enumeration as the `type` byte stores it. -/
def dpActionDrop : UInt8 := 0

def dpActionForward : UInt8 := 1

def dpActionRewrite : UInt8 := 2

/-- These bits are the `dp_rewrite_mask` enumeration. -/
def dpRewriteSrcIpv4 : UInt8 := 1

def dpRewriteDstIpv4 : UInt8 := 2

def dpRewriteSrcPort : UInt8 := 4

def dpRewriteDstPort : UInt8 := 8

/-- The two protocol numbers come from `netinet/in.h`. -/
def ipprotoTcp : UInt8 := 6

def ipprotoUdp : UInt8 := 17

/-- A status function returns zero or one of these negated. -/
def eio : Int := 5

def enomem : Int := 12

def ebusy : Int := 16

def eexist : Int := 17

def exdev : Int := 18

def enodev : Int := 19

def einval : Int := 22

def enospc : Int := 28

def enotsup : Int := 95

def ealready : Int := 114

/-- The action record crosses the language boundary in host byte order. -/
structure DpRuleAction where
  type : UInt8
  rewriteMask : UInt8
  reserved : UInt16
  srcIpv4 : UInt32
  dstIpv4 : UInt32
  srcPort : UInt16
  dstPort : UInt16
  deriving DecidableEq, Repr

/-- The allocator and `memset` start every record from zero bytes. -/
def DpRuleAction.zero : DpRuleAction := ⟨0, 0, 0, 0, 0, 0, 0⟩

/-- The three reserved bytes keep their own fields because the builder checks each of them. -/
structure DpFlowRule where
  srcIpv4 : UInt32
  dstIpv4 : UInt32
  srcPort : UInt16
  dstPort : UInt16
  l4Proto : UInt8
  reserved0 : UInt8
  reserved1 : UInt8
  reserved2 : UInt8
  action : DpRuleAction
  deriving DecidableEq, Repr

def DpFlowRule.zero : DpFlowRule := ⟨0, 0, 0, 0, 0, 0, 0, 0, .zero⟩

structure DpRouteRule where
  prefixBits : UInt32
  depth : UInt8
  reserved0 : UInt8
  reserved1 : UInt8
  reserved2 : UInt8
  action : DpRuleAction
  deriving DecidableEq, Repr

def DpRouteRule.zero : DpRouteRule := ⟨0, 0, 0, 0, 0, .zero⟩

/-- Each worker owns one record and writes it without synchronization. -/
structure DpPacketStats where
  rx : UInt64
  parseOk : UInt64
  parseUnsupported : UInt64
  parseMalformed : UInt64
  flowHit : UInt64
  routeHit : UInt64
  lookupMiss : UInt64
  actionDrop : UInt64
  actionForward : UInt64
  actionRewrite : UInt64
  txAccepted : UInt64
  txUnsent : UInt64
  drop : UInt64
  rxBursts : UInt64
  rxEmptyPolls : UInt64
  txBursts : UInt64
  deriving DecidableEq, Repr

def DpPacketStats.zero : DpPacketStats := ⟨0, 0, 0, 0, 0, 0, 0, 0, 0, 0, 0, 0, 0, 0, 0, 0⟩

structure DpWorkerInfo where
  workerId : Nat
  lcoreId : Nat
  rxQueueId : UInt16
  txQueueId : UInt16
  deriving DecidableEq, Repr

structure DpWorkerStats where
  info : DpWorkerInfo
  packets : DpPacketStats
  deriving DecidableEq, Repr

end FlowRouter.Native
