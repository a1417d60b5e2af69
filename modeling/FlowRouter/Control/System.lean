import FlowRouter.Control.Publication
import FlowRouter.Library.Transition

namespace FlowRouter.Control
open Checks Native
open Native.Binding (GoError)

variable {tables : RteTables}

/-- The two sides show these values to the rules. -/
structure View (tables : RteTables) where
  currentRules : RuleSnapshot
  generation : Nat
  rulesOpen : Bool
  activeRules : Option (DpRuleSnapshot tables)
  rulesGeneration : Nat

def RuleState.view (state : RuleState tables) : View tables where
  currentRules := state.runtime.currentRules
  generation := state.runtime.generation
  rulesOpen := state.runtime.rulesOpen
  activeRules := state.native.activeRules
  rulesGeneration := state.native.stats.rulesGeneration

/-- `ReplaceRules` clones and validates its argument before it waits for anything. -/
def Operation.prepare : Operation → Except GoError Operation
  | .replaceRules snapshot => do
      let candidate := cloneRules snapshot
      wrapError "replace rules" (validateRules candidate)
      return .replaceRules candidate
  | operation => return operation

/-- The other methods compute their candidate under the mutex. -/
def Operation.candidateLocked (currentRules : RuleSnapshot) :
    Operation → Except GoError RuleSnapshot
  | .replaceRules candidate => return candidate
  | .addFlow rule => addFlowCandidate currentRules rule
  | .deleteFlow key => deleteFlowCandidate currentRules key
  | .addRoute rule => addRouteCandidate currentRules rule
  | .deleteRoute key => deleteRouteCandidate currentRules key

/-- A goroutine is at one of these points of a method call. The points from `checking` on hold the
mutex, and `returning` remembers whether the publication was tried and how it ended. -/
inductive Caller where
  | idle
  | called (operation : Operation)
  | waiting (operation : Operation)
  | locking (operation : Operation)
  | checking (operation : Operation)
  | publishing (operation : Operation) (candidate : RuleSnapshot)
  | calling (operation : Operation) (candidate : RuleSnapshot)
  | storing (operation : Operation) (candidate : RuleSnapshot) (generation : Nat)
  | stamping (operation : Operation) (candidate : RuleSnapshot) (generation : Nat)
  | returning (operation : Operation) (published : Option Bool) (result : Except GoError Unit)

def Caller.inside : Caller → Bool
  | .idle | .called _ | .waiting _ | .locking _ => false
  | _ => true

def Caller.pastReady : Caller → Bool
  | .idle | .called _ | .waiting _ => false
  | _ => true

/-- The owner thread is at one of these points of `owner`. The announcement knows whether the
runtime was initialized and whether it may run. -/
inductive Owner where
  | starting
  | initialized
  | configured
  | prepared
  | stamping
  | opening
  | opened
  | announcing (initialized healthy : Bool)
  | launching
  | running
  | closing
  | shutting
  | tearing
  | cleaning
  | releasing
  | done
  deriving DecidableEq

def Owner.inside : Owner → Bool
  | .stamping | .opening | .opened | .shutting | .tearing | .cleaning | .releasing => true
  | _ => false

def Owner.early : Owner → Bool
  | .starting | .initialized | .configured | .prepared | .stamping | .opening | .opened => true
  | .announcing _ _ => true
  | _ => false

inductive Holder where
  | owner
  | caller (id : Nat)
  deriving DecidableEq

/-- An entry of the history is a finished call with the views around it. -/
structure Entry (tables : RteTables) where
  operation : Operation
  published : Option Bool
  result : Except GoError Unit
  before : View tables
  after : View tables

/-- The last two fields are history: the view at the last release of the mutex, and the finished
calls in the order in which they released it. -/
structure System (tables : RteTables) where
  rules : RuleState tables
  ready : Bool
  rulesMu : Option Holder
  owner : Owner
  callers : Nat → Caller
  stable : View tables
  log : List (Entry tables)

/-- `Start` clones the validated rules of its configuration. -/
def System.initial (tables : RteTables) (rules : RuleSnapshot) : System tables :=
  let state : RuleState tables := ⟨⟨cloneRules rules, 0, false⟩, DpState.initial tables⟩
  { rules := state
    ready := false
    rulesMu := none
    owner := .starting
    callers := fun _ => .idle
    stable := state.view
    log := [] }

def System.moveCaller (system : System tables) (id : Nat) (caller : Caller) : System tables :=
  { system with callers := Function.update system.callers id caller }

/-- A state change that no goroutine may observe halfway becomes the stable view at once. -/
def System.settle (system : System tables) (rules : RuleState tables) : System tables :=
  { system with rules := rules, stable := rules.view }

inductive CallerStep (system : System tables) (id : Nat) : Caller → System tables → Prop
  | call (operation : Operation) :
      CallerStep system id .idle (system.moveCaller id (.called operation))
  | refuse {operation : Operation} {error : GoError} :
      operation.prepare = .error error →
      CallerStep system id (.called operation)
        { system.moveCaller id .idle with
          log := system.log ++ [⟨operation, none, .error error, system.stable, system.stable⟩] }
  | prepare {operation prepared : Operation} :
      operation.prepare = .ok prepared →
      CallerStep system id (.called operation) (system.moveCaller id (.waiting prepared))
  | wait {operation : Operation} :
      system.ready = true →
      CallerStep system id (.waiting operation) (system.moveCaller id (.locking operation))
  | lock {operation : Operation} :
      system.rulesMu = none →
      CallerStep system id (.locking operation)
        { system.moveCaller id (.checking operation) with rulesMu := some (.caller id) }
  | reject {operation : Operation} {error : GoError} :
      operation.candidateLocked system.rules.runtime.currentRules = .error error →
      CallerStep system id (.checking operation)
        (system.moveCaller id (.returning operation none (.error error)))
  | accept {operation : Operation} {candidate : RuleSnapshot} :
      operation.candidateLocked system.rules.runtime.currentRules = .ok candidate →
      CallerStep system id (.checking operation)
        (system.moveCaller id (.publishing operation candidate))
  | closed {operation : Operation} {candidate : RuleSnapshot} :
      system.rules.runtime.rulesOpen = false →
      CallerStep system id (.publishing operation candidate)
        (system.moveCaller id (.returning operation (some false)
          (.error (.text "runtime rule publication is not available"))))
  | enter {operation : Operation} {candidate : RuleSnapshot} :
      system.rules.runtime.rulesOpen = true →
      CallerStep system id (.publishing operation candidate)
        (system.moveCaller id (.calling operation candidate))
  | failed {operation : Operation} {candidate : RuleSnapshot} {faults : CallFaults}
      {error : GoError} {native : DpState tables} :
      nativePublishRules faults (toNativeRules candidate) system.rules.native =
        (.error error, native) →
      CallerStep system id (.calling operation candidate)
        { system.moveCaller id (.returning operation (some false) (.error error)) with
          rules := { system.rules with native := native } }
  | published {operation : Operation} {candidate : RuleSnapshot} (faults : CallFaults)
      {generation : Nat} {native : DpState tables} :
      nativePublishRules faults (toNativeRules candidate) system.rules.native =
        (.ok generation, native) →
      CallerStep system id (.calling operation candidate)
        { system.moveCaller id (.storing operation candidate generation) with
          rules := { system.rules with native := native } }
  | store {operation : Operation} {candidate : RuleSnapshot} {generation : Nat} :
      CallerStep system id (.storing operation candidate generation)
        { system.moveCaller id (.stamping operation candidate generation) with
          rules := { system.rules with
            runtime := { system.rules.runtime with currentRules := cloneRules candidate } } }
  | stamp {operation : Operation} {candidate : RuleSnapshot} {generation : Nat} :
      CallerStep system id (.stamping operation candidate generation)
        { system.moveCaller id (.returning operation (some true) (.ok ())) with
          rules := { system.rules with
            runtime := { system.rules.runtime with generation := generation } } }
  | unlock {operation : Operation} {published : Option Bool} {result : Except GoError Unit} :
      CallerStep system id (.returning operation published result)
        { system.moveCaller id .idle with
          rulesMu := none
          stable := system.rules.view
          log := system.log ++
            [⟨operation, published, result, system.stable, system.rules.view⟩] }

/-- The owner configures the rules that `Start` has cloned. -/
inductive OwnerStep (configured : RuleSnapshot) (system : System tables) :
    Owner → System tables → Prop
  | init :
      OwnerStep configured system .starting
        { system with
          owner := .initialized
          rules := { system.rules with
            native := { system.rules.native with initialized := true } } }
  | initFailed :
      OwnerStep configured system .starting { system with owner := .announcing false false }
  | abort :
      OwnerStep configured system .initialized { system with owner := .announcing true false }
  | configure (qsbrFault : Option QsbrFault) (faults : CallFaults) {native : DpState tables} :
      nativeConfigureRules qsbrFault faults (toNativeRules configured) system.rules.native =
        (.ok (), native) →
      OwnerStep configured system .initialized
        { system.settle { system.rules with native := native } with owner := .configured }
  | configureFailed {qsbrFault : Option QsbrFault} {faults : CallFaults} {error : GoError}
      {native : DpState tables} :
      nativeConfigureRules qsbrFault faults (toNativeRules configured) system.rules.native =
        (.error error, native) →
      OwnerStep configured system .initialized
        { system.settle { system.rules with native := native } with
          owner := .announcing true false }
  | setup :
      OwnerStep configured system .configured
        { system with
          owner := .prepared
          rules := { system.rules with native := { system.rules.native with ready := true } } }
  | setupFailed :
      OwnerStep configured system .configured { system with owner := .announcing true false }
  | lock :
      system.rulesMu = none →
      OwnerStep configured system .prepared
        { system with owner := .stamping, rulesMu := some .owner }
  | stamp :
      OwnerStep configured system .stamping
        { system.settle { system.rules with
            runtime := { system.rules.runtime with generation := 1 } } with owner := .opening }
  | opens :
      OwnerStep configured system .opening
        { system.settle { system.rules with
            runtime := { system.rules.runtime with rulesOpen := true } } with owner := .opened }
  | unlock :
      OwnerStep configured system .opened
        { system with owner := .announcing true true, rulesMu := none }
  | announce {initialized healthy : Bool} :
      OwnerStep configured system (.announcing initialized healthy)
        { system with
          ready := true
          owner := if healthy then .launching else if initialized then .closing else .done }
  | run :
      OwnerStep configured system .launching
        { system with
          owner := .running
          rules := { system.rules with
            native := { system.rules.native with running := true, ran := true } } }
  | finished :
      OwnerStep configured system .running
        { system with
          owner := .closing
          rules := { system.rules with native := { system.rules.native with running := false } } }
  | lockAgain :
      system.rulesMu = none →
      OwnerStep configured system .closing
        { system with owner := .shutting, rulesMu := some .owner }
  | shut :
      OwnerStep configured system .shutting
        { system.settle { system.rules with
            runtime := { system.rules.runtime with rulesOpen := false } } with owner := .tearing }
  | teardownBusy :
      OwnerStep configured system .tearing { system with owner := .releasing }
  | teardown (complete : Bool) :
      OwnerStep configured system .tearing
        { system.settle { system.rules with
            native := dpRulesTeardown { system.rules.native with ready := false } } with
          owner := if complete then .cleaning else .releasing }
  | cleanup (complete : Bool) :
      OwnerStep configured system .cleaning
        { system with
          owner := .releasing
          rules := { system.rules with
            native := { system.rules.native with
              initialized := system.rules.native.initialized && !complete } } }
  | release :
      OwnerStep configured system .releasing { system with owner := .done, rulesMu := none }

/-- Each step belongs to one goroutine or to the owner thread. -/
inductive Step (configured : RuleSnapshot) (system : System tables) :
    Holder → System tables → Prop
  | caller (id : Nat) {after : System tables} :
      CallerStep system id (system.callers id) after → Step configured system (.caller id) after
  | owner {after : System tables} :
      OwnerStep configured system system.owner after → Step configured system .owner after

end FlowRouter.Control
