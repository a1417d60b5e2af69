import FlowRouter.Control.System

namespace FlowRouter.Control
open Checks Native
open Native.Binding (GoError)

/-- Of the information about the runtime only the number of lcores is used. -/
structure Info where
  lcoreCount : Nat
  deriving DecidableEq, Repr

/-- A zero number of workers stands for one worker. -/
structure Config where
  ealArgs : List String
  rxDevice : String
  txDevice : String
  workers : Nat
  probe : Bool
  rules : RuleSnapshot
  deriving DecidableEq, Repr

def hasNul (text : String) : Bool := text.toList.contains (Char.ofNat 0)

def validate (config : Config) : Except GoError Unit := do
  rejectIf (config.workers < 1 ∨ config.workers > 4)
    (GoError.text "workers must be between 1 and 4")
  rejectIf (∃ arg ∈ config.ealArgs, hasNul arg = true)
    (GoError.text "EAL argument contains a NUL byte")
  rejectIf ("--no-pci" ∉ config.ealArgs)
    (GoError.text "software-only runtime requires --no-pci")
  rejectIf (config.probe = false ∧
      (config.rxDevice = "" ∨ config.txDevice = "" ∨ config.rxDevice = config.txDevice))
    (GoError.text "RX/TX device names must be distinct and nonempty")
  rejectIf (hasNul config.rxDevice = true ∨ hasNul config.txDevice = true)
    (GoError.text "device name contains a NUL byte")
  wrapError "static rules" (validateRules config.rules)

/-- The owner goes through these stages. All but the lcore check are native calls, and the device
setup is followed by a second call of `GetInfo`. -/
inductive OwnerStage where
  | init
  | getInfo
  | checkLcores
  | configureRules
  | setup
  | refreshInfo
  | run
  | teardown
  | getStats
  | cleanup
  deriving DecidableEq, Repr

inductive OwnerError where
  | native (stage : OwnerStage) (cause : GoError)
  | lcoreCount (found workers : Nat)
  | joined (first next : OwnerError)
  deriving DecidableEq, Repr

def combine : Option OwnerError → Option OwnerError → Option OwnerError
  | none, next => next
  | some first, none => some first
  | some first, some next => some (.joined first next)

/-- The owner goroutine is about to begin a stage, inside one, or at a point between two. -/
inductive OwnerPoint where
  | entering (stage : OwnerStage)
  | inside (stage : OwnerStage)
  | locking
  | stamping
  | opening
  | unlocking
  | announcing
  | closing
  | shutting
  | releasing
  | finishing
  | done
  deriving DecidableEq, Repr

def OwnerStage.next : OwnerStage → OwnerPoint
  | .init => .entering .getInfo
  | .getInfo => .entering .checkLcores
  | .checkLcores => .entering .configureRules
  | .configureRules => .entering .setup
  | .setup => .entering .refreshInfo
  | .refreshInfo => .locking
  | .run => .closing
  | .teardown => .entering .getStats
  | .getStats => .entering .cleanup
  | .cleanup => .releasing

/-- Each event is the start or the end of a stage or of a native publication, the answer of a rule
method, or a stop request. -/
inductive LifecycleEvent where
  | started (stage : OwnerStage)
  | finished (stage : OwnerStage) (success : Bool)
  | publishStarted (caller : Nat)
  | publishFinished (caller : Nat) (success : Bool)
  | answered (caller : Nat) (success : Bool)
  | stopRequested
  deriving DecidableEq, Repr

/-- These are the fields of one runtime, the points of the goroutines that work on it, and the
local variables of the owner. -/
structure Lifecycle where
  config : Config
  ready : Bool
  done : Bool
  info : Info
  startErr : Option OwnerError
  err : Option OwnerError
  rulesMu : Option Holder
  rules : Runtime
  owner : OwnerPoint
  callers : Nat → Caller
  ownerErr : Option OwnerError
  initialized : Bool
  teardownErr : Option OwnerError

/-- `Start` clones the rules and starts the owner. -/
def Lifecycle.start (config : Config) : Lifecycle where
  config := { config with rules := cloneRules config.rules }
  ready := false
  done := false
  info := ⟨0⟩
  startErr := none
  err := none
  rulesMu := none
  rules := ⟨cloneRules config.rules, 0, false⟩
  owner := .entering .init
  callers _ := .idle
  ownerErr := none
  initialized := false
  teardownErr := none

def Lifecycle.moveCaller (life : Lifecycle) (id : Nat) (caller : Caller) : Lifecycle :=
  { life with callers := Function.update life.callers id caller }

/-- A rule method works as in the rule system, but the native publication may end in any way. -/
inductive MethodStep (life : Lifecycle) (id : Nat) :
    Caller → Option LifecycleEvent → Lifecycle → Prop
  | call (operation : Operation) :
      MethodStep life id .idle none (life.moveCaller id (.called operation))
  | refuse {operation : Operation} {error : GoError} :
      operation.prepare = .error error →
      MethodStep life id (.called operation) (some (.answered id false))
        (life.moveCaller id .idle)
  | prepare {operation prepared : Operation} :
      operation.prepare = .ok prepared →
      MethodStep life id (.called operation) none (life.moveCaller id (.waiting prepared))
  | wait {operation : Operation} :
      life.ready = true →
      MethodStep life id (.waiting operation) none (life.moveCaller id (.locking operation))
  | lock {operation : Operation} :
      life.rulesMu = none →
      MethodStep life id (.locking operation) none
        { life.moveCaller id (.checking operation) with rulesMu := some (.caller id) }
  | reject {operation : Operation} {error : GoError} :
      operation.candidateLocked life.rules.currentRules = .error error →
      MethodStep life id (.checking operation) none
        (life.moveCaller id (.returning operation none (.error error)))
  | accept {operation : Operation} {candidate : RuleSnapshot} :
      operation.candidateLocked life.rules.currentRules = .ok candidate →
      MethodStep life id (.checking operation) none
        (life.moveCaller id (.publishing operation candidate))
  | closed {operation : Operation} {candidate : RuleSnapshot} :
      life.rules.rulesOpen = false →
      MethodStep life id (.publishing operation candidate) none
        (life.moveCaller id (.returning operation (some false)
          (.error (.text "runtime rule publication is not available"))))
  | enter {operation : Operation} {candidate : RuleSnapshot} :
      life.rules.rulesOpen = true →
      MethodStep life id (.publishing operation candidate) (some (.publishStarted id))
        (life.moveCaller id (.calling operation candidate))
  | failed {operation : Operation} {candidate : RuleSnapshot} (error : GoError) :
      MethodStep life id (.calling operation candidate) (some (.publishFinished id false))
        (life.moveCaller id (.returning operation (some false) (.error error)))
  | published {operation : Operation} {candidate : RuleSnapshot} (generation : Nat) :
      MethodStep life id (.calling operation candidate) (some (.publishFinished id true))
        (life.moveCaller id (.storing operation candidate generation))
  | store {operation : Operation} {candidate : RuleSnapshot} {generation : Nat} :
      MethodStep life id (.storing operation candidate generation) none
        { life.moveCaller id (.stamping operation candidate generation) with
          rules := { life.rules with currentRules := cloneRules candidate } }
  | stamp {operation : Operation} {candidate : RuleSnapshot} {generation : Nat} :
      MethodStep life id (.stamping operation candidate generation) none
        { life.moveCaller id (.returning operation (some true) (.ok ())) with
          rules := { life.rules with generation := generation } }
  | unlock {operation : Operation} {published : Option Bool} {result : Except GoError Unit} :
      MethodStep life id (.returning operation published result)
        (some (.answered id result.isOk))
        { life.moveCaller id .idle with rulesMu := none }

/-- The owner makes a stage only under these conditions. -/
def Lifecycle.due (life : Lifecycle) : OwnerStage → Bool
  | .init | .teardown | .getStats => true
  | .getInfo | .checkLcores => life.ownerErr.isNone
  | .configureRules | .setup | .refreshInfo | .run =>
      life.ownerErr.isNone && !life.config.probe
  | .cleanup => life.teardownErr.isNone

/-- A native call ends in any way, and the check compares the number of lcores. -/
def Lifecycle.Yields (life : Lifecycle) (outcome : Option OwnerError) : OwnerStage → Prop
  | .checkLcores => outcome =
      if life.info.lcoreCount ≠ life.config.workers then
        some (.lcoreCount life.info.lcoreCount life.config.workers)
      else none
  | stage => ∃ cause : Option GoError, outcome = cause.map (.native stage)

/-- The owner keeps the information and the error of a stage. -/
def Lifecycle.settle (life : Lifecycle) (info : Info) (outcome : Option OwnerError) :
    OwnerStage → Lifecycle
  | .init => { life with ownerErr := outcome, initialized := outcome.isNone }
  | .getInfo | .refreshInfo => { life with ownerErr := outcome, info := info }
  | .checkLcores | .configureRules | .setup | .run => { life with ownerErr := outcome }
  | .teardown => { life with teardownErr := outcome }
  | .getStats =>
      { life with ownerErr := combine (combine life.ownerErr life.teardownErr) outcome }
  | .cleanup => { life with ownerErr := combine life.ownerErr outcome }

/-- This is `owner` with `finishLifecycle`. -/
inductive OwnerMove (life : Lifecycle) : OwnerPoint → Option LifecycleEvent → Lifecycle → Prop
  | skip {stage : OwnerStage} :
      life.due stage = false →
      OwnerMove life (.entering stage) none { life with owner := stage.next }
  | start {stage : OwnerStage} :
      life.due stage = true →
      OwnerMove life (.entering stage) (some (.started stage)) { life with owner := .inside stage }
  | finish {stage : OwnerStage} (info : Info) {outcome : Option OwnerError} :
      life.Yields outcome stage →
      OwnerMove life (.inside stage) (some (.finished stage outcome.isNone))
        { life.settle info outcome stage with owner := stage.next }
  | bypass :
      (life.ownerErr.isNone && !life.config.probe) = false →
      OwnerMove life .locking none { life with owner := .announcing }
  | lock :
      (life.ownerErr.isNone && !life.config.probe) = true → life.rulesMu = none →
      OwnerMove life .locking none { life with owner := .stamping, rulesMu := some .owner }
  | stamp :
      OwnerMove life .stamping none
        { life with owner := .opening, rules := { life.rules with generation := 1 } }
  | opens :
      OwnerMove life .opening none
        { life with owner := .unlocking, rules := { life.rules with rulesOpen := true } }
  | unlock :
      OwnerMove life .unlocking none { life with owner := .announcing, rulesMu := none }
  | announce :
      OwnerMove life .announcing none
        { life with owner := .entering .run, startErr := life.ownerErr, ready := true }
  | leave :
      life.initialized = false →
      OwnerMove life .closing none { life with owner := .finishing }
  | lockAgain :
      life.initialized = true → life.rulesMu = none →
      OwnerMove life .closing none { life with owner := .shutting, rulesMu := some .owner }
  | shut :
      OwnerMove life .shutting none
        { life with owner := .entering .teardown, rules := { life.rules with rulesOpen := false } }
  | release :
      OwnerMove life .releasing none { life with owner := .finishing, rulesMu := none }
  | close :
      OwnerMove life .finishing none
        { life with owner := .done, err := life.ownerErr, done := true }

/-- Any goroutine may request a stop at any time. -/
inductive LifecycleStep (life : Lifecycle) : Option LifecycleEvent → Lifecycle → Prop
  | owner {event : Option LifecycleEvent} {after : Lifecycle} :
      OwnerMove life life.owner event after → LifecycleStep life event after
  | caller (id : Nat) {event : Option LifecycleEvent} {after : Lifecycle} :
      MethodStep life id (life.callers id) event after → LifecycleStep life event after
  | stop : LifecycleStep life (some .stopRequested) life

/-- A goroutine is at one of these points of `Start`. The points from `checking` on hold the
process lock. -/
inductive Starter where
  | idle
  | called (config : Config)
  | locking (config : Config)
  | checking (config : Config)
  | creating (config : Config)
  | returning (result : Except GoError Unit)

/-- The trace records the events of all runtimes of the process in order, each with the index of
its runtime. -/
structure Process where
  attempted : Bool
  lifecycleMu : Option Nat
  starters : Nat → Starter
  runtimes : List Lifecycle
  trace : List (Nat × LifecycleEvent)

def Process.Fresh (process : Process) : Prop :=
  process = ⟨false, none, fun _ => .idle, [], []⟩

def Process.moveStarter (process : Process) (id : Nat) (starter : Starter) : Process :=
  { process with starters := Function.update process.starters id starter }

def Config.withWorkers (config : Config) : Config :=
  if config.workers = 0 then { config with workers := 1 } else config

inductive StartStep (process : Process) (id : Nat) : Starter → Process → Prop
  | call (config : Config) :
      StartStep process id .idle (process.moveStarter id (.called config))
  | refuse {config : Config} {error : GoError} :
      validate config.withWorkers = .error error →
      StartStep process id (.called config) (process.moveStarter id .idle)
  | accept {config : Config} :
      validate config.withWorkers = .ok () →
      StartStep process id (.called config)
        (process.moveStarter id (.locking config.withWorkers))
  | lock {config : Config} :
      process.lifecycleMu = none →
      StartStep process id (.locking config)
        { process.moveStarter id (.checking config) with lifecycleMu := some id }
  | repeated {config : Config} :
      process.attempted = true →
      StartStep process id (.checking config)
        (process.moveStarter id (.returning (.error (.text
          "EAL lifecycle: only one initialization attempt per process is supported"))))
  | attempt {config : Config} :
      process.attempted = false →
      StartStep process id (.checking config)
        { process.moveStarter id (.creating config) with attempted := true }
  | create {config : Config} :
      StartStep process id (.creating config)
        { process.moveStarter id (.returning (.ok ())) with
          runtimes := process.runtimes ++ [.start config] }
  | unlock {result : Except GoError Unit} :
      StartStep process id (.returning result)
        { process.moveStarter id .idle with lifecycleMu := none }

/-- Each step belongs to a call of `Start` or to a runtime that it has created. -/
inductive ProcessThread where
  | starter (id : Nat)
  | runtime (index : Nat)

inductive ProcessStep (process : Process) : ProcessThread → Process → Prop
  | starter (id : Nat) {after : Process} :
      StartStep process id (process.starters id) after → ProcessStep process (.starter id) after
  | runtime (index : Nat) {life after : Lifecycle} {event : Option LifecycleEvent} :
      process.runtimes[index]? = some life → LifecycleStep life event after →
      ProcessStep process (.runtime index)
        { process with
          runtimes := process.runtimes.set index after
          trace := process.trace ++ event.toList.map (Prod.mk index) }

end FlowRouter.Control
