import FlowRouter.Control.Rules
import FlowRouter.Native.Publish

namespace FlowRouter.Control
open Checks Native
open Native.Binding (GoError newRuleArrays ArrayFaults)

variable {tables : RteTables}

/-- One native call meets these allocation failures. -/
structure CallFaults where
  arrays : ArrayFaults
  build : BuildFaults

/-- The binding of `dp_publish_rules` returns the generation that the call wrote. -/
def nativePublishRules (faults : CallFaults) (snapshot : Binding.RuleSnapshot)
    (native : DpState tables) : Except GoError Nat × DpState tables :=
  match newRuleArrays faults.arrays snapshot with
  | .error error => (.error error, native)
  | .ok arrays =>
      let (rc, generation, native) :=
        dpPublishRules faults.build arrays.flows arrays.routes (some 0) native
      (do
        Binding.status "publish rules" rc
        return generation.getD 0, native)

def nativeConfigureRules (qsbrFault : Option QsbrFault) (faults : CallFaults)
    (snapshot : Binding.RuleSnapshot) (native : DpState tables) :
    Except GoError Unit × DpState tables :=
  match newRuleArrays faults.arrays snapshot with
  | .error error => (.error error, native)
  | .ok arrays =>
      let (rc, native) := dpConfigureRules qsbrFault faults.build arrays.flows arrays.routes native
      (Binding.status "configure initial rules" rc, native)

/-- A clone has the same rules. Which backing arrays it shares with its source is a matter of the
slices, not of their values. -/
def cloneRules (snapshot : RuleSnapshot) : RuleSnapshot where
  flows := [] ++ snapshot.flows
  routes := [] ++ snapshot.routes

/-- The rule mutex protects these fields of the runtime. -/
structure Runtime where
  currentRules : RuleSnapshot
  generation : Nat
  rulesOpen : Bool
  deriving DecidableEq, Repr

/-- Each exported editing method of the runtime is one operation. -/
inductive Operation where
  | replaceRules (snapshot : RuleSnapshot)
  | addFlow (rule : FlowRule)
  | deleteFlow (key : FlowKey)
  | addRoute (rule : RouteRule)
  | deleteRoute (key : RouteKey)
  deriving DecidableEq, Repr

/-- The deletion loops stop at the first rule with the key. -/
def deleteAt {A : Type} (items : List A) (index : Nat) : List A :=
  items.take index ++ items.drop (index + 1)

def replaceCandidate (snapshot : RuleSnapshot) : Except GoError RuleSnapshot := do
  let candidate := cloneRules snapshot
  wrapError "replace rules" (validateRules candidate)
  return candidate

def addFlowCandidate (currentRules : RuleSnapshot) (rule : FlowRule) :
    Except GoError RuleSnapshot := do
  let candidate := cloneRules currentRules
  let wanted := flowRuleKey rule
  rejectIf (∃ existing ∈ candidate.flows, flowRuleKey existing = wanted)
    (GoError.text "add flow: duplicate key")
  let candidate := { candidate with flows := candidate.flows ++ [rule] }
  wrapError "add flow" (validateRules candidate)
  return candidate

def deleteFlowCandidate (currentRules : RuleSnapshot) (key : FlowKey) :
    Except GoError RuleSnapshot :=
  let candidate := cloneRules currentRules
  match candidate.flows.findIdx? fun existing => flowRuleKey existing = key with
  | none => throw (GoError.text "delete flow: key does not exist")
  | some index => return { candidate with flows := deleteAt candidate.flows index }

def addRouteCandidate (currentRules : RuleSnapshot) (rule : RouteRule) :
    Except GoError RuleSnapshot := do
  let candidate := cloneRules currentRules
  let wanted := routeRuleKey rule
  rejectIf (∃ existing ∈ candidate.routes, routeRuleKey existing = wanted)
    (GoError.text "add route: duplicate key")
  let candidate := { candidate with routes := candidate.routes ++ [rule] }
  wrapError "add route" (validateRules candidate)
  return candidate

def deleteRouteCandidate (currentRules : RuleSnapshot) (key : RouteKey) :
    Except GoError RuleSnapshot :=
  let candidate := cloneRules currentRules
  match candidate.routes.findIdx? fun existing => routeRuleKey existing = key with
  | none => throw (GoError.text "delete route: key does not exist")
  | some index => return { candidate with routes := deleteAt candidate.routes index }

/-- Each method computes its candidate before it publishes anything. -/
def Operation.candidate (currentRules : RuleSnapshot) :
    Operation → Except GoError RuleSnapshot
  | .replaceRules snapshot => replaceCandidate snapshot
  | .addFlow rule => addFlowCandidate currentRules rule
  | .deleteFlow key => deleteFlowCandidate currentRules key
  | .addRoute rule => addRouteCandidate currentRules rule
  | .deleteRoute key => deleteRouteCandidate currentRules key

/-- The Go side and the native side of the rules. -/
structure RuleState (tables : RteTables) where
  runtime : Runtime
  native : DpState tables

/-- The Go fields change only after the native call has succeeded. -/
def publishSnapshotLocked (faults : CallFaults) (snapshot : RuleSnapshot)
    (state : RuleState tables) : Except GoError Unit × RuleState tables :=
  if !state.runtime.rulesOpen then
    (.error (.text "runtime rule publication is not available"), state)
  else
    match nativePublishRules faults (toNativeRules snapshot) state.native with
    | (.error error, native) => (.error error, { state with native := native })
    | (.ok generation, native) =>
        (.ok (), {
          runtime := { state.runtime with
            currentRules := cloneRules snapshot
            generation := generation }
          native := native })

/-- This is a whole method call that meets no other call. -/
def Operation.run (faults : CallFaults) (operation : Operation) (state : RuleState tables) :
    Except GoError Unit × RuleState tables :=
  match operation.candidate state.runtime.currentRules with
  | .error error => (.error error, state)
  | .ok candidate => publishSnapshotLocked faults candidate state

end FlowRouter.Control
