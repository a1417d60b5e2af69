import FlowRouter.Control.System
import FlowRouter.Library.Attempt
import FlowRouter.Library.Slices

namespace FlowRouter.Control.Shared
open Attempt Checks Native Slices
open Native.Binding (GoError)

variable {tables : RteTables}

deriving instance Inhabited for RuleAction, FlowRule, RouteRule

/-- The source keeps a rule snapshot as two slices. -/
structure RuleSlices where
  flows : Slice
  routes : Slice
  deriving DecidableEq, Repr

/-- These arrays of the Go heap hold rules. -/
structure GoHeap where
  flows : Arrays FlowRule
  routes : Arrays RouteRule

def GoHeap.read (heap : GoHeap) (snapshot : RuleSlices) : RuleSnapshot where
  flows := heap.flows.read snapshot.flows
  routes := heap.routes.read snapshot.routes

/-- The Go runtime decides how much room a new array has behind its elements. -/
structure Growth where
  flows : Nat → Nat → Nat
  routes : Nat → Nat → Nat

/-- A method reads and writes the arrays. It has no result when it panics. -/
abbrev GoProgram := Program GoHeap GoError

def readFlows (slice : Slice) : GoProgram (List FlowRule) :=
  demand fun heap => some (heap.flows.read slice)

def readRoutes (slice : Slice) : GoProgram (List RouteRule) :=
  demand fun heap => some (heap.routes.read slice)

/-- A slice expression panics when its bound is out of range. -/
def sliced (window : Option Slice) : GoProgram Slice := demand fun _ => window

def appendFlows (growth : Growth) (slice : Slice) (items : List FlowRule) : GoProgram Slice :=
  ExceptT.mk fun heap =>
    let (longer, arrays) := heap.flows.append growth.flows slice items
    some (.ok longer, { heap with flows := arrays })

def appendRoutes (growth : Growth) (slice : Slice) (items : List RouteRule) : GoProgram Slice :=
  ExceptT.mk fun heap =>
    let (longer, arrays) := heap.routes.append growth.routes slice items
    some (.ok longer, { heap with routes := arrays })

/-- This is `append(flows[:index], flows[index+1:]...)`. It moves the last rules forward within the
array of its argument. -/
def cutFlows (growth : Growth) (flows : Slice) (index : Nat) : GoProgram Slice := do
  let front ← sliced (flows.first index)
  let back ← sliced (flows.after (index + 1))
  let moved ← readFlows back
  appendFlows growth front moved

def cutRoutes (growth : Growth) (routes : Slice) (index : Nat) : GoProgram Slice := do
  let front ← sliced (routes.first index)
  let back ← sliced (routes.after (index + 1))
  let moved ← readRoutes back
  appendRoutes growth front moved

/-- A failed check ends the method. -/
def check (result : Except GoError Unit) : GoProgram Unit :=
  ExceptT.mk fun heap => some (result, heap)

/-- An append to a nil slice copies the elements to an array of its own. -/
def cloneRules (growth : Growth) (snapshot : RuleSlices) : GoProgram RuleSlices := do
  let flows ← readFlows snapshot.flows
  let flows ← appendFlows growth .nil flows
  let routes ← readRoutes snapshot.routes
  let routes ← appendRoutes growth .nil routes
  return ⟨flows, routes⟩

def validateRules (context : String) (snapshot : RuleSlices) : GoProgram Unit := do
  let flows ← readFlows snapshot.flows
  let routes ← readRoutes snapshot.routes
  check (wrapError context (Control.validateRules ⟨flows, routes⟩))

def addFlowCandidate (growth : Growth) (currentRules : RuleSlices) (rule : FlowRule) :
    GoProgram RuleSlices := do
  let candidate ← cloneRules growth currentRules
  let wanted := flowRuleKey rule
  let copied ← readFlows candidate.flows
  stopIf (∃ existing ∈ copied, flowRuleKey existing = wanted)
    (GoError.text "add flow: duplicate key")
  let flows ← appendFlows growth candidate.flows [rule]
  let candidate := { candidate with flows := flows }
  validateRules "add flow" candidate
  return candidate

def deleteFlowCandidate (growth : Growth) (currentRules : RuleSlices) (key : FlowKey) :
    GoProgram RuleSlices := do
  let candidate ← cloneRules growth currentRules
  let copied ← readFlows candidate.flows
  match copied.findIdx? fun existing => flowRuleKey existing = key with
  | none => throw (GoError.text "delete flow: key does not exist")
  | some index =>
      let flows ← cutFlows growth candidate.flows index
      return { candidate with flows := flows }

def addRouteCandidate (growth : Growth) (currentRules : RuleSlices) (rule : RouteRule) :
    GoProgram RuleSlices := do
  let candidate ← cloneRules growth currentRules
  let wanted := routeRuleKey rule
  let copied ← readRoutes candidate.routes
  stopIf (∃ existing ∈ copied, routeRuleKey existing = wanted)
    (GoError.text "add route: duplicate key")
  let routes ← appendRoutes growth candidate.routes [rule]
  let candidate := { candidate with routes := routes }
  validateRules "add route" candidate
  return candidate

def deleteRouteCandidate (growth : Growth) (currentRules : RuleSlices) (key : RouteKey) :
    GoProgram RuleSlices := do
  let candidate ← cloneRules growth currentRules
  let copied ← readRoutes candidate.routes
  match copied.findIdx? fun existing => routeRuleKey existing = key with
  | none => throw (GoError.text "delete route: key does not exist")
  | some index =>
      let routes ← cutRoutes growth candidate.routes index
      return { candidate with routes := routes }

/-- `Start` validates its argument and clones it twice, for the owner and for the handle. Nobody
writes the argument while `Start` runs. -/
def startRules (growth : Growth) (given : RuleSlices) : GoProgram (RuleSlices × RuleSlices) := do
  validateRules "static rules" given
  let configured ← cloneRules growth given
  let currentRules ← cloneRules growth configured
  return (configured, currentRules)

/-- A goroutine asks for one of these. The slices of a replacement are those of the caller. -/
inductive Request where
  | replaceRules (snapshot : RuleSlices)
  | addFlow (rule : FlowRule)
  | deleteFlow (key : FlowKey)
  | addRoute (rule : RouteRule)
  | deleteRoute (key : RouteKey)
  deriving DecidableEq, Repr

/-- This is what a request means at this moment. -/
def Request.read (heap : GoHeap) : Request → Operation
  | .replaceRules snapshot => .replaceRules (heap.read snapshot)
  | .addFlow rule => .addFlow rule
  | .deleteFlow key => .deleteFlow key
  | .addRoute rule => .addRoute rule
  | .deleteRoute key => .deleteRoute key

/-- `ReplaceRules` clones its argument before it looks at it. -/
def Request.copy (growth : Growth) : Request → GoProgram Request
  | .replaceRules snapshot => do
      let candidate ← cloneRules growth snapshot
      return .replaceRules candidate
  | request => return request

/-- `ReplaceRules` validates its clone before it waits for anything. -/
def Request.validate : Request → GoProgram Unit
  | .replaceRules candidate => validateRules "replace rules" candidate
  | _ => return ()

/-- The other methods compute their candidate under the mutex. -/
def Request.candidateLocked (growth : Growth) (currentRules : RuleSlices) :
    Request → GoProgram RuleSlices
  | .replaceRules candidate => return candidate
  | .addFlow rule => addFlowCandidate growth currentRules rule
  | .deleteFlow key => deleteFlowCandidate growth currentRules key
  | .addRoute rule => addRouteCandidate growth currentRules rule
  | .deleteRoute key => deleteRouteCandidate growth currentRules key

/-- A goroutine is at one of these points of a method call. From the copy on `asked` remembers what
the request meant when it was copied. -/
inductive Client where
  | idle
  | called (request : Request)
  | copied (asked : Operation) (request : Request)
  | waiting (asked : Operation) (request : Request)
  | locking (asked : Operation) (request : Request)
  | checking (asked : Operation) (request : Request)
  | publishing (asked : Operation) (candidate : RuleSlices)
  | calling (asked : Operation) (candidate : RuleSlices)
  | storing (asked : Operation) (candidate : RuleSlices) (generation : Nat)
  | stamping (asked : Operation) (candidate : RuleSlices) (generation : Nat)
  | returning (asked : Operation) (published : Option Bool) (result : Except GoError Unit)

/-- The slices of the owner are those that `Start` has put into its configuration. The last two
fields are history. -/
structure System (tables : RteTables) where
  heap : GoHeap
  currentRules : RuleSlices
  generation : Nat
  rulesOpen : Bool
  configured : RuleSlices
  native : DpState tables
  ready : Bool
  rulesMu : Option Holder
  owner : Owner
  clients : Nat → Client
  stable : View tables
  log : List (Entry tables)

def System.view (system : System tables) : View tables where
  currentRules := system.heap.read system.currentRules
  generation := system.generation
  rulesOpen := system.rulesOpen
  activeRules := system.native.activeRules
  rulesGeneration := system.native.stats.rulesGeneration

def System.initial (tables : RteTables) (heap : GoHeap) (configured currentRules : RuleSlices) :
    System tables where
  heap := heap
  currentRules := currentRules
  generation := 0
  rulesOpen := false
  configured := configured
  native := DpState.initial tables
  ready := false
  rulesMu := none
  owner := .starting
  clients := fun _ => .idle
  stable := ⟨heap.read currentRules, 0, false, none, 0⟩
  log := []

/-- `Start` has accepted an argument that meant these rules. -/
def System.Started (rules : RuleSnapshot) (system : System tables) : Prop :=
  ∃ growth given configured currentRules before after,
    before.read given = rules ∧
    (startRules growth given).run.run before = some (.ok (configured, currentRules), after) ∧
    system = System.initial tables after configured currentRules

def System.moveClient (system : System tables) (id : Nat) (client : Client) : System tables :=
  { system with clients := Function.update system.clients id client }

inductive ClientStep (system : System tables) (id : Nat) : Client → System tables → Prop
  | call (request : Request) :
      ClientStep system id .idle (system.moveClient id (.called request))
  | copy {request candidate : Request} (growth : Growth) {heap : GoHeap} :
      (request.copy growth).run.run system.heap = some (.ok candidate, heap) →
      ClientStep system id (.called request)
        { system.moveClient id (.copied (request.read system.heap) candidate) with heap := heap }
  | refuse {asked : Operation} {request : Request} {error : GoError} {heap : GoHeap} :
      request.validate.run.run system.heap = some (.error error, heap) →
      ClientStep system id (.copied asked request)
        { system.moveClient id .idle with
          heap := heap
          log := system.log ++ [⟨asked, none, .error error, system.stable, system.stable⟩] }
  | prepare {asked : Operation} {request : Request} {heap : GoHeap} :
      request.validate.run.run system.heap = some (.ok (), heap) →
      ClientStep system id (.copied asked request)
        { system.moveClient id (.waiting asked request) with heap := heap }
  | wait {asked : Operation} {request : Request} :
      system.ready = true →
      ClientStep system id (.waiting asked request) (system.moveClient id (.locking asked request))
  | lock {asked : Operation} {request : Request} :
      system.rulesMu = none →
      ClientStep system id (.locking asked request)
        { system.moveClient id (.checking asked request) with rulesMu := some (.caller id) }
  | reject {asked : Operation} {request : Request} (growth : Growth) {error : GoError}
      {heap : GoHeap} :
      (request.candidateLocked growth system.currentRules).run.run system.heap =
        some (.error error, heap) →
      ClientStep system id (.checking asked request)
        { system.moveClient id (.returning asked none (.error error)) with heap := heap }
  | accept {asked : Operation} {request : Request} (growth : Growth) {candidate : RuleSlices}
      {heap : GoHeap} :
      (request.candidateLocked growth system.currentRules).run.run system.heap =
        some (.ok candidate, heap) →
      ClientStep system id (.checking asked request)
        { system.moveClient id (.publishing asked candidate) with heap := heap }
  | closed {asked : Operation} {candidate : RuleSlices} :
      system.rulesOpen = false →
      ClientStep system id (.publishing asked candidate)
        (system.moveClient id (.returning asked (some false)
          (.error (.text "runtime rule publication is not available"))))
  | enter {asked : Operation} {candidate : RuleSlices} :
      system.rulesOpen = true →
      ClientStep system id (.publishing asked candidate)
        (system.moveClient id (.calling asked candidate))
  | failed {asked : Operation} {candidate : RuleSlices} (faults : CallFaults) {error : GoError}
      {native : DpState tables} :
      nativePublishRules faults (toNativeRules (system.heap.read candidate)) system.native =
        (.error error, native) →
      ClientStep system id (.calling asked candidate)
        { system.moveClient id (.returning asked (some false) (.error error)) with
          native := native }
  | published {asked : Operation} {candidate : RuleSlices} (faults : CallFaults)
      {generation : Nat} {native : DpState tables} :
      nativePublishRules faults (toNativeRules (system.heap.read candidate)) system.native =
        (.ok generation, native) →
      ClientStep system id (.calling asked candidate)
        { system.moveClient id (.storing asked candidate generation) with native := native }
  | store {asked : Operation} {candidate currentRules : RuleSlices} {generation : Nat}
      (growth : Growth) {heap : GoHeap} :
      (cloneRules growth candidate).run.run system.heap = some (.ok currentRules, heap) →
      ClientStep system id (.storing asked candidate generation)
        { system.moveClient id (.stamping asked candidate generation) with
          heap := heap
          currentRules := currentRules }
  | stamp {asked : Operation} {candidate : RuleSlices} {generation : Nat} :
      ClientStep system id (.stamping asked candidate generation)
        { system.moveClient id (.returning asked (some true) (.ok ())) with
          generation := generation }
  | unlock {asked : Operation} {published : Option Bool} {result : Except GoError Unit} :
      ClientStep system id (.returning asked published result)
        { system.moveClient id .idle with
          rulesMu := none
          stable := system.view
          log := system.log ++ [⟨asked, published, result, system.stable, system.view⟩] }

/-- The rest of the application makes arrays and writes them whenever it likes. A call may get
slices of these arrays. -/
inductive OutsideStep (heap : GoHeap) : GoHeap → Prop
  | makeFlows (items : List FlowRule) :
      OutsideStep heap { heap with flows := heap.flows.allocate true items }
  | makeRoutes (items : List RouteRule) :
      OutsideStep heap { heap with routes := heap.routes.allocate true items }
  | writeFlows {array : Nat} (items : List FlowRule) :
      heap.flows.lent array = true →
      items.length = (heap.flows.contents array).length →
      OutsideStep heap { heap with flows := heap.flows.write array items }
  | writeRoutes {array : Nat} (items : List RouteRule) :
      heap.routes.lent array = true →
      items.length = (heap.routes.contents array).length →
      OutsideStep heap { heap with routes := heap.routes.write array items }

/-- A goroutine shows these values when its slices are read. Before the copy it has not looked at
its argument. -/
def Client.read (heap : GoHeap) : Client → Caller
  | .idle | .called _ => .idle
  | .copied asked _ => .called asked
  | .waiting asked _ => .waiting asked
  | .locking asked _ => .locking asked
  | .checking asked _ => .checking asked
  | .publishing asked candidate => .publishing asked (heap.read candidate)
  | .calling asked candidate => .calling asked (heap.read candidate)
  | .storing asked candidate generation => .storing asked (heap.read candidate) generation
  | .stamping asked candidate generation => .stamping asked (heap.read candidate) generation
  | .returning asked published result => .returning asked published result

/-- The system shows these values when its slices are read. -/
def System.values (system : System tables) : Control.System tables where
  rules := ⟨⟨system.heap.read system.currentRules, system.generation, system.rulesOpen⟩,
    system.native⟩
  ready := system.ready
  rulesMu := system.rulesMu
  owner := system.owner
  callers := fun id => (system.clients id).read system.heap
  stable := system.stable
  log := system.log

/-- A step of the owner changes everything but the slices and the goroutines. -/
def System.ownerMoved (system : System tables) (after : Control.System tables) : System tables :=
  { system with
    generation := after.rules.runtime.generation
    rulesOpen := after.rules.runtime.rulesOpen
    native := after.rules.native
    ready := after.ready
    rulesMu := after.rulesMu
    owner := after.owner
    stable := after.stable }

inductive Party where
  | owner
  | client (id : Nat)
  | outside
  deriving DecidableEq

/-- The owner writes no slice and reads only the one of its configuration. -/
inductive Step (system : System tables) : Party → System tables → Prop
  | client (id : Nat) {after : System tables} :
      ClientStep system id (system.clients id) after → Step system (.client id) after
  | owner {after : Control.System tables} :
      OwnerStep (system.heap.read system.configured) system.values system.owner after →
      Step system .owner (system.ownerMoved after)
  | outside {heap : GoHeap} :
      OutsideStep system.heap heap → Step system .outside { system with heap := heap }

end FlowRouter.Control.Shared
