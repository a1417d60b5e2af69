import FlowRouter.Native.Lookup

namespace FlowRouter.Native.Binding
open Checks

/-- An error value keeps its text, the error that it wraps, or the status of a native call. -/
inductive GoError where
  | text (message : String)
  | wrap (context : String) (cause : GoError)
  | status (operation : String) (rc : Int)
  deriving DecidableEq, Repr

structure Action where
  type : UInt8
  rewriteMask : UInt8
  srcIpv4 : UInt32
  dstIpv4 : UInt32
  srcPort : UInt16
  dstPort : UInt16
  deriving DecidableEq, Repr

structure FlowRule where
  srcIpv4 : UInt32
  dstIpv4 : UInt32
  srcPort : UInt16
  dstPort : UInt16
  l4Proto : UInt8
  action : Action
  deriving DecidableEq, Repr

structure RouteRule where
  prefixBits : UInt32
  depth : UInt8
  action : Action
  deriving DecidableEq, Repr

structure RuleSnapshot where
  flows : List FlowRule
  routes : List RouteRule
  deriving DecidableEq, Repr

/-- A zero status is no error. -/
def status (operation : String) (rc : Int) : Except GoError Unit :=
  if rc = 0 then return () else throw (.status operation rc)

/-- The parameters stand in the order of the C function. -/
def dpRuleActionSet (type rewriteMask : UInt8) (srcIpv4 dstIpv4 : UInt32)
    (srcPort dstPort : UInt16) : DpRuleAction :=
  { DpRuleAction.zero with
    type := type
    rewriteMask := rewriteMask
    srcIpv4 := srcIpv4
    dstIpv4 := dstIpv4
    srcPort := srcPort
    dstPort := dstPort }

def dpFlowRuleSet (rules : List DpFlowRule) (index : Nat) (srcIpv4 dstIpv4 : UInt32)
    (srcPort dstPort : UInt16) (l4Proto actionType rewriteMask : UInt8)
    (rewriteSrcIpv4 rewriteDstIpv4 : UInt32) (rewriteSrcPort rewriteDstPort : UInt16) :
    List DpFlowRule :=
  rules.set index { DpFlowRule.zero with
    srcIpv4 := srcIpv4
    dstIpv4 := dstIpv4
    srcPort := srcPort
    dstPort := dstPort
    l4Proto := l4Proto
    action := dpRuleActionSet actionType rewriteMask rewriteSrcIpv4 rewriteDstIpv4
      rewriteSrcPort rewriteDstPort }

def dpRouteRuleSet (rules : List DpRouteRule) (index : Nat) (prefixBits : UInt32)
    (depth actionType rewriteMask : UInt8) (rewriteSrcIpv4 rewriteDstIpv4 : UInt32)
    (rewriteSrcPort rewriteDstPort : UInt16) : List DpRouteRule :=
  rules.set index { DpRouteRule.zero with
    prefixBits := prefixBits
    depth := depth
    action := dpRuleActionSet actionType rewriteMask rewriteSrcIpv4 rewriteDstIpv4
      rewriteSrcPort rewriteDstPort }

/-- The copy loop of one rule array calls its setter for each index in turn. -/
def copyRules {A B : Type} (set : List B → Nat → A → List B) (array : List B) (index : Nat) :
    List A → List B
  | [] => array
  | rule :: rest => copyRules set (set array index rule) (index + 1) rest

def setFlow (flows : List DpFlowRule) (index : Nat) (rule : FlowRule) : List DpFlowRule :=
  dpFlowRuleSet flows index rule.srcIpv4 rule.dstIpv4 rule.srcPort rule.dstPort rule.l4Proto
    rule.action.type rule.action.rewriteMask rule.action.srcIpv4 rule.action.dstIpv4
    rule.action.srcPort rule.action.dstPort

def setRoute (routes : List DpRouteRule) (index : Nat) (rule : RouteRule) : List DpRouteRule :=
  dpRouteRuleSet routes index rule.prefixBits rule.depth rule.action.type
    rule.action.rewriteMask rule.action.srcIpv4 rule.action.dstIpv4 rule.action.srcPort
    rule.action.dstPort

structure RuleArrays where
  flows : RuleArray DpFlowRule
  routes : RuleArray DpRouteRule

/-- These flags tell which `calloc` of the two rule arrays fails. -/
structure ArrayFaults where
  flows : Bool
  routes : Bool

def ArrayFaults.none : ArrayFaults := ⟨false, false⟩

/-- An empty rule list keeps a null pointer. -/
def newRuleArray {A B : Type} (fault : Bool) (message : String) (zero : B)
    (set : List B → Nat → A → List B) (rules : List A) : Except GoError (RuleArray B) := do
  if rules.length = 0 then
    return .null 0
  else if fault then
    throw (.text message)
  else
    return .block (copyRules set (List.replicate rules.length zero) 0 rules)

/-- The Go rules are copied into arrays that live during the native call. -/
def newRuleArrays (faults : ArrayFaults) (snapshot : RuleSnapshot) :
    Except GoError RuleArrays := do
  rejectIf (snapshot.flows.length > dpMaxFlowRules ∨ snapshot.routes.length > dpMaxRouteRules)
    (GoError.text "rule snapshot exceeds native capacity")
  let flows ← newRuleArray faults.flows "allocate flow rule array: out of memory" .zero setFlow
    snapshot.flows
  let routes ← newRuleArray faults.routes "allocate route rule array: out of memory" .zero
    setRoute snapshot.routes
  return ⟨flows, routes⟩

/-- The loop fills the array from its first free slot on. -/
theorem copyRules_eq {A B : Type} {set : List B → Nat → A → List B} {convert : A → B}
    (assigns : ∀ array index rule, set array index rule = array.set index (convert rule))
    (zero : B) (rules : List A) (front : List B) :
    copyRules set (front ++ List.replicate rules.length zero) front.length rules =
      front ++ rules.map convert := by
  induction rules generalizing front with
  | nil => simp [copyRules]
  | cons rule rest ih =>
    have slot : (front ++ List.replicate (rule :: rest).length zero).set front.length
        (convert rule) = (front ++ [convert rule]) ++ List.replicate rest.length zero := by
      simp [List.replicate_succ]
    have length : front.length + 1 = (front ++ [convert rule]).length := by simp
    rw [copyRules, assigns, slot, length, ih]
    simp

/-- An array that is not null holds the converted rules. -/
theorem newRuleArray_ok {A B : Type} {set : List B → Nat → A → List B} {convert : A → B}
    (assigns : ∀ array index rule, set array index rule = array.set index (convert rule))
    {fault : Bool} {message : String} {zero : B} {rules : List A} {array : RuleArray B}
    (success : newRuleArray fault message zero set rules = .ok array) :
    array.rules = rules.map convert ∧ ¬ (array.count ≠ 0 ∧ array.isNull = true) := by
  unfold newRuleArray at success
  by_cases empty : rules.length = 0
  · rw [if_pos empty] at success
    obtain rfl := Except.ok.inj success
    rw [List.length_eq_zero_iff.mp empty]
    exact ⟨rfl, fun ⟨nonzero, _⟩ => nonzero rfl⟩
  · rw [if_neg empty] at success
    cases fault with
    | true => cases success
    | false =>
      obtain rfl := Except.ok.inj success
      exact ⟨copyRules_eq assigns zero rules [], fun ⟨_, null⟩ => nomatch null⟩

/-- An array is copied whenever its allocation succeeds. -/
theorem newRuleArray_complete {A B : Type} (message : String) (zero : B)
    (set : List B → Nat → A → List B) (rules : List A) :
    ∃ array, newRuleArray false message zero set rules = .ok array := by
  unfold newRuleArray
  by_cases empty : rules.length = 0
  · exact ⟨_, by rw [if_pos empty]; rfl⟩
  · exact ⟨_, by rw [if_neg empty]; rfl⟩

/-- This is the C record that the setters write for an action. -/
def Action.record (action : Action) : DpRuleAction :=
  ⟨action.type, action.rewriteMask, 0, action.srcIpv4, action.dstIpv4, action.srcPort,
    action.dstPort⟩

def FlowRule.record (rule : FlowRule) : DpFlowRule :=
  ⟨rule.srcIpv4, rule.dstIpv4, rule.srcPort, rule.dstPort, rule.l4Proto, 0, 0, 0,
    rule.action.record⟩

def RouteRule.record (rule : RouteRule) : DpRouteRule :=
  ⟨rule.prefixBits, rule.depth, 0, 0, 0, rule.action.record⟩

/-- The positional arguments of the setters end up in the fields of their names. -/
theorem setFlow_eq (flows : List DpFlowRule) (index : Nat) (rule : FlowRule) :
    setFlow flows index rule = flows.set index rule.record := rfl

theorem setRoute_eq (routes : List DpRouteRule) (index : Nat) (rule : RouteRule) :
    setRoute routes index rule = routes.set index rule.record := rfl

/-- The two arrays hold exactly the records of the rules. -/
theorem newRuleArrays_ok {faults : ArrayFaults} {snapshot : RuleSnapshot} {arrays : RuleArrays}
    (success : newRuleArrays faults snapshot = .ok arrays) :
    (arrays.flows.rules = snapshot.flows.map FlowRule.record ∧
      ¬ (arrays.flows.count ≠ 0 ∧ arrays.flows.isNull = true)) ∧
    (arrays.routes.rules = snapshot.routes.map RouteRule.record ∧
      ¬ (arrays.routes.count ≠ 0 ∧ arrays.routes.isNull = true)) := by
  obtain ⟨-, copied⟩ := guard_ok.mp success
  obtain ⟨flows, flowCopy, rest⟩ := bind_ok.mp copied
  obtain ⟨routes, routeCopy, packed⟩ := bind_ok.mp rest
  obtain rfl := Except.ok.inj packed
  exact ⟨newRuleArray_ok setFlow_eq flowCopy, newRuleArray_ok setRoute_eq routeCopy⟩

/-- The copy succeeds within the published limits unless an allocation fails. -/
theorem newRuleArrays_complete (snapshot : RuleSnapshot)
    (flowLimit : snapshot.flows.length ≤ dpMaxFlowRules)
    (routeLimit : snapshot.routes.length ≤ dpMaxRouteRules) :
    ∃ arrays, newRuleArrays .none snapshot = .ok arrays := by
  obtain ⟨flows, flowCopy⟩ := newRuleArray_complete
    "allocate flow rule array: out of memory" DpFlowRule.zero setFlow snapshot.flows
  obtain ⟨routes, routeCopy⟩ := newRuleArray_complete
    "allocate route rule array: out of memory" DpRouteRule.zero setRoute snapshot.routes
  refine ⟨⟨flows, routes⟩, guard_ok.mpr ⟨rejectIf_ok.mpr ?_, ?_⟩⟩
  · exact not_or.mpr ⟨not_lt.mpr flowLimit, not_lt.mpr routeLimit⟩
  · exact bind_ok.mpr ⟨flows, flowCopy, bind_ok.mpr ⟨routes, routeCopy, rfl⟩⟩

end FlowRouter.Native.Binding
