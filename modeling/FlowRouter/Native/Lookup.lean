import FlowRouter.Library.Checks
import FlowRouter.Native.Packet
import FlowRouter.Native.Tables

namespace FlowRouter.Native
open Checks

/-- The reserved bytes belong to the hash key. -/
structure DpFlowKey where
  srcIpv4 : UInt32
  dstIpv4 : UInt32
  srcPort : UInt16
  dstPort : UInt16
  l4Proto : UInt8
  reserved0 : UInt8
  reserved1 : UInt8
  reserved2 : UInt8
  deriving DecidableEq, Repr

/-- The key is compared as the sixteen bytes that it occupies in memory. -/
def DpFlowKey.bytes (key : DpFlowKey) : List UInt8 :=
  [UInt8.ofNat key.srcIpv4.toNat, UInt8.ofNat (key.srcIpv4.toNat / 256),
    UInt8.ofNat (key.srcIpv4.toNat / 65536), UInt8.ofNat (key.srcIpv4.toNat / 16777216),
    UInt8.ofNat key.dstIpv4.toNat, UInt8.ofNat (key.dstIpv4.toNat / 256),
    UInt8.ofNat (key.dstIpv4.toNat / 65536), UInt8.ofNat (key.dstIpv4.toNat / 16777216),
    UInt8.ofNat key.srcPort.toNat, UInt8.ofNat (key.srcPort.toNat / 256),
    UInt8.ofNat key.dstPort.toNat, UInt8.ofNat (key.dstPort.toNat / 256),
    key.l4Proto, key.reserved0, key.reserved1, key.reserved2]

/-- The worker builds the key from the packet. -/
def dpFlowKeyFromMeta (info : DpPacketMeta) : DpFlowKey :=
  ⟨info.srcIpv4, info.dstIpv4, info.srcPort, info.dstPort, info.l4Proto, 0, 0, 0⟩

/-- The builder repeats the construction for a rule. -/
def flowRuleKeyBytes (flow : DpFlowRule) : DpFlowKey :=
  ⟨flow.srcIpv4, flow.dstIpv4, flow.srcPort, flow.dstPort, flow.l4Proto, 0, 0, 0⟩

/-- A status below zero is an error. -/
def dpValidateAction (action : DpRuleAction) : Int :=
  let validMask := dpRewriteSrcIpv4 ||| dpRewriteDstIpv4 ||| dpRewriteSrcPort ||| dpRewriteDstPort
  if action.reserved ≠ 0 then -einval
  else if action.type = dpActionDrop ∨ action.type = dpActionForward then
    if action.rewriteMask = 0 then 0 else -einval
  else if action.type ≠ dpActionRewrite then -einval
  else if action.rewriteMask = 0 ∨ action.rewriteMask &&& ~~~validMask ≠ 0 then -einval
  else 0

/-- One generation owns its two tables and its action store. -/
structure DpRuleSnapshot (tables : RteTables) where
  flowTable : Option tables.Hash
  routeTable : Option tables.Lpm
  actions : List DpRuleAction
  actionCount : Nat
  generation : Nat

/-- A null pointer carries only the count that the caller passes with it. -/
inductive RuleArray (A : Type) where
  | null (count : Nat)
  | block (rules : List A)

def RuleArray.count {A : Type} : RuleArray A → Nat
  | .null count => count
  | .block rules => rules.length

def RuleArray.rules {A : Type} : RuleArray A → List A
  | .null _ => []
  | .block rules => rules

def RuleArray.isNull {A : Type} : RuleArray A → Bool
  | .null _ => true
  | .block _ => false

/-- Each allocation of a build succeeds or fails and then leaves a value in `rte_errno`. -/
structure BuildFaults where
  snapshot : Option Nat
  actions : Option Nat
  flowTable : Option Nat
  routeTable : Option Nat

def BuildFaults.none : BuildFaults := ⟨.none, .none, .none, .none⟩

/-- A failed library call reports `rte_errno` when it is set. -/
def errnoOr (rteErrno : Nat) (fallback : Int) : Int :=
  -(if rteErrno ≠ 0 then (rteErrno : Int) else fallback)

theorem enomem_pos : 0 < enomem := by decide

/-- A failed library call never reports success. -/
theorem errnoOr_neg (rteErrno : Nat) {fallback : Int} (positive : 0 < fallback) :
    errnoOr rteErrno fallback < 0 := by
  unfold errnoOr
  split_ifs with nonzero
  · omega
  · omega

def allocated (failure : Option Nat) : Except Int Unit :=
  match failure with
  | .none => return ()
  | some rteErrno => throw (errnoOr rteErrno enomem)

/-- A negative status leaves the build through its `fail` label. -/
def checked (status : Int) : Except Int Unit := rejectIf (status < 0) status

/-- A store or table without elements is not allocated. -/
def unlessZero (count : Nat) (allocation : Except Int Unit) : Except Int Unit :=
  if count ≠ 0 then allocation else return ()

variable {tables : RteTables}

/-- The flow loop stores each action and the index of its slot. -/
def addFlows (table : tables.Hash) (actions : List DpRuleAction) (index : Nat) :
    List DpFlowRule → Except Int (tables.Hash × List DpRuleAction)
  | [] => return (table, actions)
  | flow :: rest => do
      rejectIf ((flow.l4Proto ≠ ipprotoTcp ∧ flow.l4Proto ≠ ipprotoUdp) ∨ flow.reserved0 ≠ 0 ∨
        flow.reserved1 ≠ 0 ∨ flow.reserved2 ≠ 0) (-einval)
      checked (dpValidateAction flow.action)
      let key := (flowRuleKeyBytes flow).bytes
      rejectIf (0 ≤ (tables.hashLookupData table key).1) (-eexist)
      let (status, table) := tables.hashAddKeyData table key index
      checked status
      addFlows table (actions.set index flow.action) (index + 1) rest

/-- The route loop continues in the same action store. -/
def addRoutes (table : tables.Lpm) (actions : List DpRuleAction) (actionIndex : Nat) :
    List DpRouteRule → Except Int (tables.Lpm × List DpRuleAction)
  | [] => return (table, actions)
  | route :: rest => do
      rejectIf (route.depth = 0 ∨ route.depth > 32 ∨ route.reserved0 ≠ 0 ∨ route.reserved1 ≠ 0 ∨
        route.reserved2 ≠ 0) (-einval)
      rejectIf (route.prefixBits &&& prefixMask route.depth ≠ route.prefixBits) (-einval)
      checked (dpValidateAction route.action)
      let (present, _) := tables.lpmIsRulePresent table route.prefixBits route.depth
      rejectIf (0 < present) (-eexist)
      checked present
      let (status, table) :=
        tables.lpmAdd table route.prefixBits route.depth (UInt32.ofNat actionIndex)
      checked status
      addRoutes table (actions.set actionIndex route.action) (actionIndex + 1) rest

/-- A loop over no rules needs no table. -/
def withTable {T A : Type} (table : Option T) (actions : A) (loop : T → Except Int (T × A)) :
    Except Int (Option T × A) :=
  match table with
  | .none => return (.none, actions)
  | some table => do
      let (table, actions) ← loop table
      return (some table, actions)

variable (tables) in
/-- The builder returns a complete snapshot or frees what it has allocated and returns a status. -/
def dpSnapshotBuild (faults : BuildFaults) (flows : RuleArray DpFlowRule)
    (routes : RuleArray DpRouteRule) (generation : Nat) :
    Except Int (DpRuleSnapshot tables) := do
  rejectIf (flows.count > dpMaxFlowRules ∨ routes.count > dpMaxRouteRules) (-enospc)
  rejectIf ((flows.count ≠ 0 ∧ flows.isNull) ∨ (routes.count ≠ 0 ∧ routes.isNull)) (-einval)
  allocated faults.snapshot
  let totalActions := flows.count + routes.count
  unlessZero totalActions (allocated faults.actions)
  let actions := List.replicate totalActions DpRuleAction.zero
  unlessZero flows.count (allocated faults.flowTable)
  let flowTable :=
    if flows.count ≠ 0 then
      some (tables.hashCreate s!"dfr_f_{generation}" (dpMaxFlowRules * 2) 16)
    else .none
  unlessZero routes.count (allocated faults.routeTable)
  let routeTable :=
    if routes.count ≠ 0 then
      some (tables.lpmCreate s!"dfr_r_{generation}" dpMaxRouteRules 256)
    else .none
  let (flowTable, actions) ← withTable flowTable actions fun table =>
    addFlows table actions 0 flows.rules
  let (routeTable, actions) ← withTable routeTable actions fun table =>
    addRoutes table actions flows.count routes.rules
  return ⟨flowTable, routeTable, actions, totalActions, generation⟩

inductive DpLookupResult where
  | flowHit
  | routeHit
  | miss
  deriving DecidableEq, Repr

/-- The inner option is the record behind the action pointer. -/
def dpLookupFlow (info : DpPacketMeta) (snapshot : DpRuleSnapshot tables) :
    Option (Option DpRuleAction) :=
  match snapshot.flowTable with
  | .none => .none
  | some table =>
      let found := tables.hashLookupData table (dpFlowKeyFromMeta info).bytes
      if 0 ≤ found.1 then some snapshot.actions[found.2]? else .none

def dpLookupRoute (info : DpPacketMeta) (snapshot : DpRuleSnapshot tables) :
    Option (Option DpRuleAction) :=
  match snapshot.routeTable with
  | .none => .none
  | some table =>
      let found := tables.lpmLookup table info.dstIpv4
      if found.1 = 0 ∧ found.2.toNat < snapshot.actionCount then
        some snapshot.actions[found.2.toNat]?
      else .none

/-- A flow takes precedence over every route, and a miss leaves the action pointer null. -/
def dpLookupPacket (info : DpPacketMeta) (snapshot : Option (DpRuleSnapshot tables)) :
    DpLookupResult × Option DpRuleAction :=
  match snapshot with
  | .none => (.miss, .none)
  | some snapshot =>
      match dpLookupFlow info snapshot with
      | some action => (.flowHit, action)
      | .none =>
          match dpLookupRoute info snapshot with
          | some action => (.routeHit, action)
          | .none => (.miss, .none)

end FlowRouter.Native
