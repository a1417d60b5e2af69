import FlowRouter.Native.Binding

namespace FlowRouter.Control
open Checks Native
open Native.Binding (GoError)

structure RuleAction where
  type : UInt8
  rewriteMask : UInt8
  srcIpv4 : UInt32
  dstIpv4 : UInt32
  srcPort : UInt16
  dstPort : UInt16
  deriving DecidableEq, Repr

/-- All addresses are in host byte order. -/
structure FlowRule where
  srcIpv4 : UInt32
  dstIpv4 : UInt32
  srcPort : UInt16
  dstPort : UInt16
  l4Proto : UInt8
  action : RuleAction
  deriving DecidableEq, Repr

structure FlowKey where
  srcIpv4 : UInt32
  dstIpv4 : UInt32
  srcPort : UInt16
  dstPort : UInt16
  l4Proto : UInt8
  deriving DecidableEq, Repr

structure RouteRule where
  prefixBits : UInt32
  depth : UInt8
  action : RuleAction
  deriving DecidableEq, Repr

structure RouteKey where
  prefixBits : UInt32
  depth : UInt8
  deriving DecidableEq, Repr

structure RuleSnapshot where
  flows : List FlowRule
  routes : List RouteRule
  deriving DecidableEq, Repr

/-- The `%#x` verb prints a mask in hexadecimal. -/
def hex (value : UInt8) : String := "0x" ++ String.ofList (Nat.toDigits 16 value.toNat)

def validateRuleAction (action : RuleAction) : Except GoError Unit :=
  let validMask := dpRewriteSrcIpv4 ||| dpRewriteDstIpv4 ||| dpRewriteSrcPort ||| dpRewriteDstPort
  if action.type = dpActionDrop ∨ action.type = dpActionForward then
    rejectIf (action.rewriteMask ≠ 0) (GoError.text "non-rewrite action contains a rewrite mask")
  else do
    rejectIf (action.type ≠ dpActionRewrite)
      (GoError.text s!"unknown action type {action.type}")
    rejectIf (action.rewriteMask = 0 ∨ action.rewriteMask &&& ~~~validMask ≠ 0)
      (GoError.text s!"invalid rewrite mask {hex action.rewriteMask}")

/-- The `%w` verb wraps an error after its context. -/
def wrapError (context : String) (result : Except GoError Unit) : Except GoError Unit :=
  match result with
  | .error cause => .error (.wrap context cause)
  | .ok () => .ok ()

/-- The duplicate check keys a map by the five fields as 64-bit values. -/
def flowMapKey (rule : FlowRule) : List UInt64 :=
  [rule.srcIpv4.toUInt64, rule.dstIpv4.toUInt64, rule.srcPort.toUInt64, rule.dstPort.toUInt64,
    rule.l4Proto.toUInt64]

def routeMapKey (rule : RouteRule) : List UInt64 :=
  [rule.prefixBits.toUInt64, rule.depth.toUInt64]

/-- This is the body of the flow loop before its duplicate check. -/
def validateFlow (index : Nat) (rule : FlowRule) : Except GoError Unit := do
  rejectIf (rule.l4Proto ≠ 6 ∧ rule.l4Proto ≠ 17)
    (GoError.text s!"flow {index} has unsupported protocol {rule.l4Proto}")
  wrapError s!"flow {index}" (validateRuleAction rule.action)

/-- This is the body of the route loop before its duplicate check. -/
def validateRoute (index : Nat) (rule : RouteRule) : Except GoError Unit := do
  rejectIf (rule.depth = 0 ∨ rule.depth > 32)
    (GoError.text s!"route {index} has invalid prefix depth {rule.depth}")
  let mask := if rule.depth ≠ 0 then prefixMask rule.depth else 0
  rejectIf (rule.prefixBits &&& mask ≠ rule.prefixBits)
    (GoError.text s!"route {index} prefix is not normalized")
  wrapError s!"route {index}" (validateRuleAction rule.action)

def validateRules (snapshot : RuleSnapshot) : Except GoError Unit := do
  rejectIf (snapshot.flows.length > dpMaxFlowRules ∨ snapshot.routes.length > dpMaxRouteRules)
    (GoError.text "rule snapshot exceeds native capacity")
  scanKeyed validateFlow flowMapKey
    (fun index => GoError.text s!"duplicate flow at index {index}") 0 [] snapshot.flows
  scanKeyed validateRoute routeMapKey
    (fun index => GoError.text s!"duplicate route at index {index}") 0 [] snapshot.routes

/-- The two action records have the same fields. -/
def toNativeAction (action : RuleAction) : Binding.Action :=
  ⟨action.type, action.rewriteMask, action.srcIpv4, action.dstIpv4, action.srcPort,
    action.dstPort⟩

def toNativeRules (snapshot : RuleSnapshot) : Binding.RuleSnapshot where
  flows := snapshot.flows.map fun rule =>
    { srcIpv4 := rule.srcIpv4
      dstIpv4 := rule.dstIpv4
      srcPort := rule.srcPort
      dstPort := rule.dstPort
      l4Proto := rule.l4Proto
      action := toNativeAction rule.action }
  routes := snapshot.routes.map fun rule =>
    { prefixBits := rule.prefixBits
      depth := rule.depth
      action := toNativeAction rule.action }

def flowRuleKey (rule : FlowRule) : FlowKey where
  srcIpv4 := rule.srcIpv4
  dstIpv4 := rule.dstIpv4
  srcPort := rule.srcPort
  dstPort := rule.dstPort
  l4Proto := rule.l4Proto

def routeRuleKey (rule : RouteRule) : RouteKey where
  prefixBits := rule.prefixBits
  depth := rule.depth

end FlowRouter.Control
