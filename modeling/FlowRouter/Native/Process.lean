import FlowRouter.Native.Assignment
import FlowRouter.Native.Joining
import FlowRouter.Native.Memory

namespace FlowRouter.Native.Lifecycle
open Attempt Transition
open Memory (RuleMemory SnapshotFaults)

/-- The dataplane receives on the first port and transmits on the second. -/
inductive Side where
  | rx
  | tx
  deriving DecidableEq, Repr

structure PortStats where
  portsClosed : Nat
  poolInUse : Nat
  poolFreed : Bool
  deriving DecidableEq, Repr

/-- This is `dp_state`. The devices behind the port numbers belong to the packet library, which
knows for each of them whether it is started. -/
structure DpState (tables : RteTables) where
  attempted : Bool
  rules : RuleMemory tables
  table : WorkerTable
  stop : Bool
  pool : Option Nat
  writerActive : Bool
  activeWorkers : Nat
  registeredReaders : Nat
  ports : Side → Nat
  owned : Side → Bool
  started : Side → Bool
  stats : PortStats
  devices : Nat → Bool

/-- These library calls change the environment, the devices or the packet pool. -/
inductive LibraryCall where
  | ealInit
  | ealCleanup
  | devConfigure (port : Nat)
  | rxQueueSetup (port queue : Nat)
  | txQueueSetup (port queue : Nat)
  | devStart (port : Nat)
  | devStop (port : Nat)
  | devClose (port : Nat)
  | poolCreate
  | mempoolFree (inUse : Nat)
  deriving DecidableEq, Repr

/-- The log keeps each library call together with the state that it met. -/
structure Process (tables : RteTables) where
  dp : DpState tables
  log : List (LibraryCall × DpState tables)

def WorkerTable.unset : WorkerTable where
  info := ⟨false, 0, 0, 0, 0, 0, 0, 0, 0, 0, 0, fun _ => ⟨0, 0, 0, 0⟩⟩
  workerCount := 0
  workers _ := .zero
  indexed := []

/-- The loader clears the state. -/
def Process.initial (tables : RteTables) : Process tables where
  dp :=
    { attempted := false
      rules := .initial tables
      table := WorkerTable.unset
      stop := false
      pool := none
      writerActive := false
      activeWorkers := 0
      registeredReaders := 0
      ports := fun _ => 0
      owned := fun _ => false
      started := fun _ => false
      stats := ⟨0, 0, false⟩
      devices := fun _ => false }
  log := []

/-- A device call returns zero or a negative error number. -/
abbrev Answer := { status : Int // status ≤ 0 }

abbrev Refusal := { status : Int // status < 0 }

/-- The environment fixes the enabled lcores when it starts. -/
structure Machine where
  lcores : List Nat
  mainLcore : Nat
  distinct : lcores.Nodup
  enabled : mainLcore ∈ lcores
  socketId : Int
  lcoreToSocketId : Nat → Int

/-- The start of the environment may report `rte_errno`. -/
structure EalArguments where
  argc : Int
  argvNull : Bool
  rteVersion : String
  ealInit : Option Nat

structure DevInfo where
  driverName : Option String
  maxRxQueues : Nat
  maxTxQueues : Nat

/-- The setup of one port meets these answers. -/
structure PortAnswers where
  configure : Int
  adjust : Int
  rxDesc : Nat
  txDesc : Nat
  rxQueue : Nat → Int
  txQueue : Nat → Int
  start : Answer

/-- The last field is the queue at which a test lets the setup fail. -/
structure SetupAnswers where
  portByName : String → Except Refusal Nat
  devInfo : Nat → Except Refusal DevInfo
  pool : Except Nat Nat
  ports : Side → PortAnswers
  testQueueSetupFailure : Int

/-- A device that is still started refuses to be closed. -/
structure CloseAnswers where
  stop : Side → Answer
  close : Side → Answer
  refusal : Side → Refusal
  inUse : Nat

/-- An owner call returns a value, or it leaves early with a status. -/
abbrev Owner (tables : RteTables) := Program (Process tables) Int

variable {tables : RteTables} {A : Type}

def DpState.setDevice (dp : DpState tables) (port : Nat) (isStarted : Bool) : DpState tables :=
  { dp with devices := Function.update dp.devices port isStarted }

def current : Owner tables (DpState tables) := demand fun process => some process.dp

def update (change : DpState tables → DpState tables) : Owner tables Unit :=
  alter fun process => some { process with dp := change process.dp }

def updateIf (condition : Prop) [Decidable condition] (change : DpState tables → DpState tables) :
    Owner tables Unit :=
  if condition then update change else return ()

def observe (call : LibraryCall) : Owner tables Unit :=
  alter fun process => some { process with log := process.log ++ [(call, process.dp)] }

/-- A negative status becomes the status of the whole call. -/
def check (status : Int) : Owner tables Unit := stopIf (status < 0) status

/-- The rule functions work on their own part of the state. -/
def onRules (program : Memory.Call tables A) : Owner tables A :=
  ExceptT.mk fun process => (program process.dp.rules).map fun outcome =>
    (.ok outcome.1, { process with dp := { process.dp with rules := outcome.2 } })

/-- The writer lock surrounds the publication and the teardown of the rules. -/
def locked (program : Memory.Call tables A) : Owner tables A := do
  update fun dp => { dp with writerActive := true }
  let result ← onRules program
  update fun dp => { dp with writerActive := false }
  return result

/-- Both counts are zero, and no worker has one of its flags set. -/
def DpState.workersStopped (dp : DpState tables) : Bool :=
  if dp.activeWorkers ≠ 0 ∨ dp.registeredReaders ≠ 0 then false
  else (List.range dp.table.workerCount).all fun index =>
    !((dp.table.workers index).launched || (dp.table.workers index).readerRegistered)

def dpRuntimeInit (machine : Machine) (arguments : EalArguments) : Owner tables Int := do
  let dp ← current
  stopIf dp.attempted (-ealready)
  stopIf (arguments.argc < 1 ∨ arguments.argvNull) (-einval)
  update fun dp => { dp with attempted := true }
  stopIf (arguments.rteVersion ≠ "DPDK 25.11.3") (-enotsup)
  observe .ealInit
  match arguments.ealInit with
  | some rteErrno => throw (errnoOr rteErrno eio)
  | none => do
      update fun dp =>
        { dp with
          rules := { dp.rules with initialized := true }
          table := { dp.table with info := { dp.table.info with
            initialized := true
            mainLcore := machine.mainLcore
            lcoreCount := machine.lcores.length
            socketId := machine.socketId } } }
      return 0

def dpConfigureRules (qsbrFault : Option QsbrFault) (faults : SnapshotFaults)
    (flows : RuleArray DpFlowRule) (routes : RuleArray DpRouteRule) : Owner tables Int :=
  onRules (Memory.dpConfigureRules qsbrFault faults flows routes)

def dpPublishRules (faults : SnapshotFaults) (flows : RuleArray DpFlowRule)
    (routes : RuleArray DpRouteRule) (generation : Option Nat) : Owner tables Int :=
  if generation.isNone then return -einval
  else do
    let result ← locked (Memory.dpPublishRules faults flows routes generation)
    return result.1

section Setup

def validateQueueCapacity (maxRx maxTx workers : Nat) : Int :=
  if maxRx ≥ workers ∧ maxTx ≥ workers then 0 else -enospc

def ethDevStart (answer : Answer) (port : Nat) : Owner tables Int := do
  observe (.devStart port)
  updateIf (answer.val = 0) fun dp => dp.setDevice port true
  return answer.val

def startPort (answer : Answer) (side : Side) (port : Nat) : Owner tables Unit := do
  let ret ← ethDevStart answer port
  check ret
  update fun dp => { dp with started := Function.update dp.started side true }

/-- Each worker gets a receive queue and a transmit queue on the port. -/
def setupQueues (answers : PortAnswers) (testQueueSetupFailure : Int) (side : Side) (port : Nat) :
    (remaining queue : Nat) → Owner tables Unit
  | 0, _ => return ()
  | remaining + 1, queue => do
      observe (.rxQueueSetup port queue)
      check (answers.rxQueue queue)
      stopIf (side = .rx ∧ testQueueSetupFailure = queue) (-eio)
      observe (.txQueueSetup port queue)
      check (answers.txQueue queue)
      setupQueues answers testQueueSetupFailure side port remaining (queue + 1)

def setupPort (answers : PortAnswers) (testQueueSetupFailure : Int) (side : Side) :
    Owner tables Unit := do
  let dp ← current
  observe (.devConfigure (dp.ports side))
  check answers.configure
  check answers.adjust
  setupQueues answers testQueueSetupFailure side (dp.ports side) dp.table.workerCount 0
  startPort answers.start side (dp.ports side)
  update fun dp =>
    { dp with table := { dp.table with info :=
      match side with
      | .rx => { dp.table.info with rxDesc := answers.rxDesc }
      | .tx => { dp.table.info with txDesc := answers.txDesc } } }

/-- The setup of the workers stores its table whether it succeeds or not. -/
def assignWorkers (machine : Machine) (workerCount : Nat) : Owner tables Unit := do
  let dp ← current
  let result := setupWorkers machine.lcores machine.lcoreToSocketId workerCount dp.table
  update fun dp => { dp with table := result.2 }
  check result.1

/-- A name that is not found leaves the port number alone. -/
def resolvePort (answer : Except Refusal Nat) (side : Side) : Owner tables Unit :=
  match answer with
  | .error refusal => throw refusal.val
  | .ok port => update fun dp => { dp with ports := Function.update dp.ports side port }

def checkDevice (answer : Except Refusal DevInfo) (workerCount : Nat) : Owner tables Unit :=
  match answer with
  | .error refusal => throw refusal.val
  | .ok info => do
      stopIf (info.driverName ≠ some "net_tap") (-enotsup)
      stopIf (validateQueueCapacity info.maxRxQueues info.maxTxQueues workerCount < 0) (-enospc)

/-- The setup owns both ports from here on. -/
def acquirePorts (answers : SetupAnswers) (rxDevice txDevice : String) (workerCount : Nat) :
    Owner tables Unit := do
  resolvePort (answers.portByName rxDevice) .rx
  resolvePort (answers.portByName txDevice) .tx
  let dp ← current
  stopIf (dp.ports .rx = dp.ports .tx) (-einval)
  checkDevice (answers.devInfo (dp.ports .rx)) workerCount
  checkDevice (answers.devInfo (dp.ports .tx)) workerCount
  update fun dp =>
    { dp with
      owned := fun _ => true
      table := { dp.table with info := { dp.table.info with
        rxPort := dp.ports .rx
        txPort := dp.ports .tx
        nbMbuf := 4096
        cacheSize := 128 } } }

def createPool (answer : Except Nat Nat) : Owner tables Unit := do
  observe .poolCreate
  match answer with
  | .error rteErrno => throw (errnoOr rteErrno enomem)
  | .ok pool => update fun dp => { dp with pool := some pool }

def dpDataplaneSetup (machine : Machine) (rxDevice txDevice : Option String) (workerCount : Nat)
    (answers : SetupAnswers) : Owner tables Int := do
  let dp ← current
  stopIf (¬ dp.rules.initialized) (-enodev)
  stopIf (dp.pool.isSome ∨ dp.rules.ready) (-ealready)
  stopIf (¬ dp.rules.rulesConfigured) (-einval)
  match rxDevice, txDevice with
  | some rxDevice, some txDevice => do
      assignWorkers machine workerCount
      acquirePorts answers rxDevice txDevice workerCount
      createPool answers.pool
      setupPort (answers.ports .rx) answers.testQueueSetupFailure .rx
      setupPort (answers.ports .tx) answers.testQueueSetupFailure .tx
      update fun dp => { dp with rules := { dp.rules with ready := true } }
      return 0
  | _, _ => throw (-einval)

end Setup

section Teardown

def ethDevStop (answer : Answer) (port : Nat) : Owner tables Int := do
  observe (.devStop port)
  updateIf (answer.val = 0) fun dp => dp.setDevice port false
  return answer.val

def ethDevClose (answer : Answer) (refusal : Refusal) (port : Nat) : Owner tables Int := do
  observe (.devClose port)
  let dp ← current
  return if dp.devices port then refusal.val else answer.val

/-- The teardown goes on after an error and returns the first one. -/
def keepFirst (ret firstError : Int) : Int :=
  if ret < 0 ∧ firstError = 0 then ret else firstError

def stopPort (answers : CloseAnswers) (side : Side) (firstError : Int) : Owner tables Int := do
  let dp ← current
  if dp.started side then do
    let ret ← ethDevStop (answers.stop side) (dp.ports side)
    updateIf (ret = 0) fun dp => { dp with started := Function.update dp.started side false }
    return keepFirst ret firstError
  else return firstError

def releasePort (answers : CloseAnswers) (side : Side) (firstError : Int) : Owner tables Int := do
  let dp ← current
  let ret ← ethDevClose (answers.close side) (answers.refusal side) (dp.ports side)
  updateIf (ret = 0) fun dp =>
    { dp with
      owned := Function.update dp.owned side false
      stats := { dp.stats with portsClosed := dp.stats.portsClosed + 1 } }
  return keepFirst ret firstError

def closePort (answers : CloseAnswers) (side : Side) (firstError : Int) : Owner tables Int := do
  let dp ← current
  if dp.owned side then do
    let firstError ← stopPort answers side firstError
    releasePort answers side firstError
  else return firstError

/-- The pool outlives both ports, and it is not freed while it has packets outside. -/
def freePool (inUse : Nat) (firstError : Int) : Owner tables Int := do
  let dp ← current
  if dp.pool.isSome ∧ dp.owned .rx = false ∧ dp.owned .tx = false then do
    update fun dp => { dp with stats := { dp.stats with poolInUse := inUse } }
    stopIf (inUse ≠ 0) (if firstError ≠ 0 then firstError else -ebusy)
    observe (.mempoolFree inUse)
    update fun dp => { dp with pool := none, stats := { dp.stats with poolFreed := true } }
    return firstError
  else return firstError

def dpDataplaneTeardown (answers : CloseAnswers) : Owner tables Int := do
  let dp ← current
  stopIf (dp.rules.running ∨ ¬ dp.workersStopped) (-ebusy)
  update fun dp => { dp with rules := { dp.rules with ready := false } }
  locked Memory.dpRulesTeardown
  let firstError ← closePort answers .rx 0
  let firstError ← closePort answers .tx firstError
  freePool answers.inUse firstError

end Teardown

def releaseEal (status : Int) : Owner tables Int := do
  update fun dp => { dp with rules := { dp.rules with initialized := false } }
  observe .ealCleanup
  return status

/-- The argument is the status of the cleanup of the environment. -/
def dpRuntimeCleanup (status : Int) : Owner tables Int := do
  let dp ← current
  stopIf (¬ dp.rules.initialized) (-enodev)
  stopIf (dp.rules.running ∨ ¬ dp.workersStopped ∨ dp.pool.isSome ∨ dp.owned .rx ∨ dp.owned .tx ∨
    dp.started .rx ∨ dp.started .tx ∨ dp.rules.activeRules.isSome ∨ dp.rules.rulesQsbr.isSome ∨
    dp.writerActive ∨ dp.rules.rulesConfigured) (-ebusy)
  releaseEal status

def dpDataplaneRequestStop : Owner tables Int := do
  update fun dp => { dp with stop := true }
  return 0

/-- A run starts with every worker absent. -/
def DpState.runState (dp : DpState tables) : RunState where
  ready := dp.rules.ready
  running := dp.rules.running
  ran := dp.rules.ran
  stop := dp.stop
  activeWorkers := dp.activeWorkers
  registeredReaders := dp.registeredReaders
  workerCount := dp.table.workerCount
  lcoreId worker := (dp.table.workers worker).info.lcoreId
  launched worker := (dp.table.workers worker).launched
  readerRegistered worker := (dp.table.workers worker).readerRegistered
  result worker := (dp.table.workers worker).result
  workers _ := .absent
  owner := .calling

/-- A run writes these fields. The packets decide the counters of the workers. -/
def DpState.withRun (dp : DpState tables) (run : RunState) (packets : Nat → DpPacketStats) :
    DpState tables :=
  { dp with
    rules := { dp.rules with running := run.running, ran := run.ran }
    stop := run.stop
    activeWorkers := run.activeWorkers
    registeredReaders := run.registeredReaders
    table := { dp.table with workers := fun worker =>
      { dp.table.workers worker with
        launched := run.launched worker
        readerRegistered := run.readerRegistered worker
        result := run.result worker
        stats := packets worker } } }

/-- The owner thread calls these functions in any order. -/
inductive OwnerCall where
  | runtimeInit (arguments : EalArguments)
  | configureRules (qsbrFault : Option QsbrFault) (faults : SnapshotFaults)
      (flows : RuleArray DpFlowRule) (routes : RuleArray DpRouteRule)
  | publishRules (faults : SnapshotFaults) (flows : RuleArray DpFlowRule)
      (routes : RuleArray DpRouteRule) (generation : Option Nat)
  | dataplaneSetup (rxDevice txDevice : Option String) (workerCount : Nat)
      (answers : SetupAnswers)
  | dataplaneTeardown (answers : CloseAnswers)
  | runtimeCleanup (status : Int)
  | requestStop

def OwnerCall.program (machine : Machine) : OwnerCall → Owner tables Int
  | .runtimeInit arguments => dpRuntimeInit machine arguments
  | .configureRules qsbrFault faults flows routes => dpConfigureRules qsbrFault faults flows routes
  | .publishRules faults flows routes generation => dpPublishRules faults flows routes generation
  | .dataplaneSetup rxDevice txDevice workerCount answers =>
      dpDataplaneSetup machine rxDevice txDevice workerCount answers
  | .dataplaneTeardown answers => dpDataplaneTeardown answers
  | .runtimeCleanup status => dpRuntimeCleanup status
  | .requestStop => dpDataplaneRequestStop

/-- Both ways out of a call end in its status. -/
def callStatus : Except Int Int → Int
  | .ok status => status
  | .error status => status

def Owner.call (program : Owner tables Int) (process : Process tables) :
    Option (Int × Process tables) :=
  (program.run.run process).map fun outcome => (callStatus outcome.1, outcome.2)

/-- A step is a whole owner call. The call of `dp_dataplane_run` is a whole run of the owner and
the workers in some order of their steps. -/
inductive ProcessStep (machine : Machine) (before : Process tables) :
    Option OwnerCall × Int → Process tables → Prop
  | call (call : OwnerCall) {status : Int} {after : Process tables} :
      Owner.call (call.program machine) before = some (status, after) →
      ProcessStep machine before (some call, status) after
  | dataplaneRun {history : List (RunState × RunEvent)} {finish : RunState} {status : Int}
      (packets : Nat → DpPacketStats) :
      Trail RunSystemStep before.dp.runState history finish → finish.owner = .returned status →
      ProcessStep machine before (none, status)
        { before with dp := before.dp.withRun finish packets }

end FlowRouter.Native.Lifecycle
