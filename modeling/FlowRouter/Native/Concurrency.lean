import FlowRouter.Native.Publish

namespace FlowRouter.Native

/-- An offline reader has no recorded counter. -/
structure QsbrReader where
  registered : Bool
  recorded : Option Nat

/-- The reader registry is known by its documented operations only. -/
structure RteRcuQsbr where
  counter : Nat
  readers : Nat → QsbrReader

def RteRcuQsbr.initial : RteRcuQsbr := ⟨0, fun _ => ⟨false, none⟩⟩

def RteRcuQsbr.setReader (qsbr : RteRcuQsbr) (reader : Nat) (registered : Bool)
    (recorded : Option Nat) : RteRcuQsbr :=
  { qsbr with readers := Function.update qsbr.readers reader ⟨registered, recorded⟩ }

theorem RteRcuQsbr.setReader_self (qsbr : RteRcuQsbr) (reader : Nat) (registered : Bool)
    (recorded : Option Nat) :
    (qsbr.setReader reader registered recorded).readers reader = ⟨registered, recorded⟩ :=
  Function.update_self _ _ _

def RteRcuQsbr.threadRegister (qsbr : RteRcuQsbr) (reader : Nat) : RteRcuQsbr :=
  qsbr.setReader reader true (qsbr.readers reader).recorded

/-- Going online and reporting a quiescent state record the current counter. -/
def RteRcuQsbr.report (qsbr : RteRcuQsbr) (reader : Nat) : RteRcuQsbr :=
  qsbr.setReader reader (qsbr.readers reader).registered (some qsbr.counter)

def RteRcuQsbr.threadOffline (qsbr : RteRcuQsbr) (reader : Nat) : RteRcuQsbr :=
  qsbr.setReader reader (qsbr.readers reader).registered none

def RteRcuQsbr.threadUnregister (qsbr : RteRcuQsbr) (reader : Nat) : RteRcuQsbr :=
  qsbr.setReader reader false (qsbr.readers reader).recorded

/-- The new counter is the token of the grace period. -/
def RteRcuQsbr.start (qsbr : RteRcuQsbr) : RteRcuQsbr :=
  { qsbr with counter := qsbr.counter + 1 }

/-- The check passes a reader that is not registered, is offline or has recorded the token. -/
def RteRcuQsbr.passes (qsbr : RteRcuQsbr) (token reader : Nat) : Prop :=
  (qsbr.readers reader).registered = true →
    ∀ value, (qsbr.readers reader).recorded = some value → token ≤ value

/-- A worker is at one of these points of `dp_worker_run`. It holds a snapshot, which may be null,
while it works on the packets that remain in a burst. -/
inductive Worker where
  | absent
  | entering
  | entered
  | failing
  | leavingFailed
  | registered
  | counting
  | flagging
  | testing
  | loading (packets : Nat)
  | working (snapshot : Option Nat) (packets : Nat)
  | retiring
  | offline
  | unregistered
  | unflagging
  | leaving
  | done

/-- These are the arguments of one call of `dp_publish_rules`. -/
structure PublishRequest where
  faults : BuildFaults
  flows : RuleArray DpFlowRule
  routes : RuleArray DpRouteRule

/-- A thread is at one of these points of `dp_publish_rules`. The check remembers the readers that
it has seen pass. -/
inductive Publisher where
  | idle
  | locking (request : PublishRequest)
  | entering (request : PublishRequest)
  | checking (request : PublishRequest)
  | building (request : PublishRequest)
  | failing (status : Int)
  | exchanging (new next : Nat)
  | numbering (old : Option Nat) (next : Nat)
  | succeeding (old : Option Nat) (next : Nat)
  | starting (old : Option Nat) (next : Nat)
  | waiting (old : Option Nat) (next token : Nat) (seen : List Nat)
  | freeing (old : Option Nat) (next : Nat)
  | leaving (status : Int) (published : Option Nat)
  | unlocking (status : Int) (published : Option Nat)

/-- The owner thread is between two calls or at one of these points of `dp_dataplane_run` and
`dp_dataplane_teardown`. The run counts the workers that it has launched. -/
inductive OwnerPoint where
  | idle
  | launching (index : Nat)
  | flagging (index : Nat)
  | stopping (launched : Nat)
  | mainFlagging
  | mainRunning
  | joining (index launched : Nat)
  | clearing (index launched : Nat)
  | finishing
  | checkingActive
  | checkingReaders
  | checkingWorker (index : Nat)
  | readying
  | locking
  | entering
  | exchanging
  | freeing (old : Option Nat)
  | freeingQsbr
  | clearingQsbr
  | unconfiguring
  | leaving
  | unlocking

inductive Writer where
  | owner
  | publisher (id : Nat)
  deriving DecidableEq

/-- The history records the snapshot that each burst loads, the generation behind each lookup and
each publication that has returned success. -/
inductive RuleEvent where
  | load (worker burst : Nat) (generation : Option Nat)
  | lookup (worker burst : Nat) (generation : Option Nat)
  | returned (publisher generation : Nat)
  deriving DecidableEq

/-- These are the fields of `dp_state` that several threads use, the points of all threads and the
memory behind the snapshot pointers. A build stores a snapshot once, and `freed` counts the calls
that free it. The last two fields are history. -/
structure Concurrent (tables : RteTables) where
  heap : Nat → Option (DpRuleSnapshot tables)
  allocated : Nat
  freed : Nat → Nat
  activeRules : Option Nat
  qsbr : RteRcuQsbr
  rulesQsbr : Bool
  qsbrFreed : Nat
  writerLock : Option Writer
  writerActive : Bool
  initialized : Bool
  rulesConfigured : Bool
  ready : Bool
  running : Bool
  ran : Bool
  stop : Bool
  activeWorkers : Nat
  registeredReaders : Nat
  workerCount : Nat
  launched : Nat → Bool
  readerRegistered : Nat → Bool
  stats : DpRuleStats
  workers : Nat → Worker
  publishers : Nat → Publisher
  owner : OwnerPoint
  bursts : Nat → Nat
  log : List RuleEvent

variable {tables : RteTables}

/-- The owner has initialized the runtime and published its first snapshot. -/
def Concurrent.initial (first : DpRuleSnapshot tables) : Concurrent tables where
  heap := Function.update (fun _ => none) 0 (some first)
  allocated := 1
  freed _ := 0
  activeRules := some 0
  qsbr := .initial
  rulesQsbr := true
  qsbrFreed := 0
  writerLock := none
  writerActive := false
  initialized := true
  rulesConfigured := true
  ready := false
  running := false
  ran := false
  stop := false
  activeWorkers := 0
  registeredReaders := 0
  workerCount := 0
  launched _ := false
  readerRegistered _ := false
  stats := { DpRuleStats.zero with rulesGeneration := 1, rulesPublishSuccess := 1 }
  workers _ := .absent
  publishers _ := .idle
  owner := .idle
  bursts _ := 0
  log := []

/-- A read through a freed pointer finds no generation. -/
def Concurrent.generationOf (state : Concurrent tables) (snapshot : Option Nat) : Option Nat := do
  let id ← snapshot
  if state.freed id = 0 then (state.heap id).map DpRuleSnapshot.generation else none

/-- Freeing a null pointer does nothing. -/
def freeSnapshot (freed : Nat → Nat) : Option Nat → Nat → Nat
  | none => freed
  | some id => Function.update freed id (freed id + 1)

def Concurrent.moveWorker (state : Concurrent tables) (worker : Nat) (point : Worker) :
    Concurrent tables :=
  { state with workers := Function.update state.workers worker point }

theorem Concurrent.moveWorker_self (state : Concurrent tables) (worker : Nat) (point : Worker) :
    (state.moveWorker worker point).workers worker = point :=
  Function.update_self _ _ _

def Concurrent.movePublisher (state : Concurrent tables) (id : Nat) (point : Publisher) :
    Concurrent tables :=
  { state with publishers := Function.update state.publishers id point }

theorem Concurrent.movePublisher_self (state : Concurrent tables) (id : Nat) (point : Publisher) :
    (state.movePublisher id point).publishers id = point :=
  Function.update_self _ _ _

/-- The capacity of the registry is `RTE_MAX_LCORE`. -/
inductive WorkerStep (capacity : Nat) (state : Concurrent tables) (worker : Nat) :
    Worker → Concurrent tables → Prop
  | enter :
      WorkerStep capacity state worker .entering
        { state.moveWorker worker .entered with activeWorkers := state.activeWorkers + 1 }
  | fail :
      WorkerStep capacity state worker .entered (state.moveWorker worker .failing)
  | failStop :
      WorkerStep capacity state worker .failing
        { state.moveWorker worker .leavingFailed with stop := true }
  | failLeave :
      WorkerStep capacity state worker .leavingFailed
        { state.moveWorker worker .done with activeWorkers := state.activeWorkers - 1 }
  | register :
      state.rulesQsbr = true → worker < capacity →
      WorkerStep capacity state worker .entered
        { state.moveWorker worker .registered with qsbr := state.qsbr.threadRegister worker }
  | online :
      WorkerStep capacity state worker .registered
        { state.moveWorker worker .counting with qsbr := state.qsbr.report worker }
  | count :
      WorkerStep capacity state worker .counting
        { state.moveWorker worker .flagging with
          registeredReaders := state.registeredReaders + 1 }
  | flag :
      WorkerStep capacity state worker .flagging
        { state.moveWorker worker .testing with
          readerRegistered := Function.update state.readerRegistered worker true }
  | poll (packets : Nat) :
      state.stop = false →
      WorkerStep capacity state worker .testing (state.moveWorker worker (.loading packets))
  | load {packets : Nat} :
      WorkerStep capacity state worker (.loading packets)
        { state.moveWorker worker (.working state.activeRules packets) with
          bursts := Function.update state.bursts worker (state.bursts worker + 1)
          log := state.log ++ [.load worker (state.bursts worker + 1)
            (state.generationOf state.activeRules)] }
  | lookup {snapshot : Option Nat} {packets : Nat} :
      WorkerStep capacity state worker (.working snapshot (packets + 1))
        { state.moveWorker worker (.working snapshot packets) with
          log := state.log ++
            [.lookup worker (state.bursts worker) (state.generationOf snapshot)] }
  | quiescent {snapshot : Option Nat} :
      WorkerStep capacity state worker (.working snapshot 0)
        { state.moveWorker worker .testing with qsbr := state.qsbr.report worker }
  | retire :
      state.stop = true →
      WorkerStep capacity state worker .testing (state.moveWorker worker .retiring)
  | offline :
      WorkerStep capacity state worker .retiring
        { state.moveWorker worker .offline with qsbr := state.qsbr.threadOffline worker }
  | unregister :
      WorkerStep capacity state worker .offline
        { state.moveWorker worker .unregistered with
          qsbr := state.qsbr.threadUnregister worker }
  | uncount :
      WorkerStep capacity state worker .unregistered
        { state.moveWorker worker .unflagging with
          registeredReaders := state.registeredReaders - 1 }
  | unflag :
      WorkerStep capacity state worker .unflagging
        { state.moveWorker worker .leaving with
          readerRegistered := Function.update state.readerRegistered worker false }
  | leave :
      WorkerStep capacity state worker .leaving
        { state.moveWorker worker .done with activeWorkers := state.activeWorkers - 1 }

/-- A call with a null generation pointer returns before its first step. -/
inductive PublisherStep (capacity : Nat) (state : Concurrent tables) (id : Nat) :
    Publisher → Concurrent tables → Prop
  | call (request : PublishRequest) :
      PublisherStep capacity state id .idle (state.movePublisher id (.locking request))
  | lock {request : PublishRequest} :
      state.writerLock = none →
      PublisherStep capacity state id (.locking request)
        { state.movePublisher id (.entering request) with writerLock := some (.publisher id) }
  | enter {request : PublishRequest} :
      PublisherStep capacity state id (.entering request)
        { state.movePublisher id (.checking request) with writerActive := true }
  | refuse {request : PublishRequest} :
      (state.initialized = false ∨ state.rulesConfigured = false ∨ state.rulesQsbr = false ∨
        state.activeRules = none) →
      PublisherStep capacity state id (.checking request)
        (state.movePublisher id (.leaving (-enodev) none))
  | accept {request : PublishRequest} :
      state.initialized = true → state.rulesConfigured = true → state.rulesQsbr = true →
      state.activeRules ≠ none →
      PublisherStep capacity state id (.checking request)
        (state.movePublisher id (.building request))
  | build {request : PublishRequest} {snapshot : DpRuleSnapshot tables} :
      dpSnapshotBuild tables request.faults request.flows request.routes
        (state.stats.rulesGeneration + 1) = .ok snapshot →
      PublisherStep capacity state id (.building request)
        { state.movePublisher id (.exchanging state.allocated (state.stats.rulesGeneration + 1))
          with
          heap := Function.update state.heap state.allocated (some snapshot)
          allocated := state.allocated + 1 }
  | buildFailed {request : PublishRequest} {status : Int} :
      dpSnapshotBuild tables request.faults request.flows request.routes
        (state.stats.rulesGeneration + 1) = .error status →
      PublisherStep capacity state id (.building request)
        (state.movePublisher id (.failing status))
  | fail {status : Int} :
      PublisherStep capacity state id (.failing status)
        { state.movePublisher id (.leaving status none) with
          stats :=
            { state.stats with rulesPublishFailed := state.stats.rulesPublishFailed + 1 } }
  | exchange {new next : Nat} :
      PublisherStep capacity state id (.exchanging new next)
        { state.movePublisher id (.numbering state.activeRules next) with
          activeRules := some new }
  | number {old : Option Nat} {next : Nat} :
      PublisherStep capacity state id (.numbering old next)
        { state.movePublisher id (.succeeding old next) with
          stats := { state.stats with rulesGeneration := next } }
  | succeed {old : Option Nat} {next : Nat} :
      PublisherStep capacity state id (.succeeding old next)
        { state.movePublisher id (.starting old next) with
          stats :=
            { state.stats with rulesPublishSuccess := state.stats.rulesPublishSuccess + 1 } }
  | start {old : Option Nat} {next : Nat} :
      PublisherStep capacity state id (.starting old next)
        { state.movePublisher id (.waiting old next (state.qsbr.counter + 1) []) with
          qsbr := state.qsbr.start }
  | see {old : Option Nat} {next token : Nat} {seen : List Nat} (reader : Nat) :
      state.qsbr.passes token reader →
      PublisherStep capacity state id (.waiting old next token seen)
        (state.movePublisher id (.waiting old next token (reader :: seen)))
  | pass {old : Option Nat} {next token : Nat} {seen : List Nat} :
      (∀ reader < capacity, reader ∈ seen) →
      PublisherStep capacity state id (.waiting old next token seen)
        (state.movePublisher id (.freeing old next))
  | free {old : Option Nat} {next : Nat} :
      PublisherStep capacity state id (.freeing old next)
        { state.movePublisher id (.leaving 0 (some next)) with
          freed := freeSnapshot state.freed old
          stats := dpSnapshotFree (old.bind state.heap) true true state.stats }
  | leave {status : Int} {published : Option Nat} :
      PublisherStep capacity state id (.leaving status published)
        { state.movePublisher id (.unlocking status published) with writerActive := false }
  | unlock {status : Int} {published : Option Nat} :
      PublisherStep capacity state id (.unlocking status published)
        { state.movePublisher id .idle with
          writerLock := none
          log := state.log ++ published.toList.map (.returned id) }

/-- This is `dp_dataplane_run` on the owner thread, which is also the thread of worker zero. -/
inductive RunStep (state : Concurrent tables) : OwnerPoint → Concurrent tables → Prop
  | begin :
      state.ready = true → state.ran = false →
      RunStep state .idle
        { state with owner := .launching 1, ran := true, running := true }
  | launch {index : Nat} :
      index < state.workerCount →
      RunStep state (.launching index)
        { state.moveWorker index .entering with owner := .flagging index }
  | launchFailed {index : Nat} :
      index < state.workerCount →
      RunStep state (.launching index) { state with owner := .stopping (index - 1) }
  | launchedAll {index : Nat} :
      state.workerCount ≤ index →
      RunStep state (.launching index) { state with owner := .mainFlagging }
  | flag {index : Nat} :
      RunStep state (.flagging index)
        { state with
          owner := .launching (index + 1)
          launched := Function.update state.launched index true }
  | stopAll {launched : Nat} :
      RunStep state (.stopping launched)
        { state with owner := .joining 1 launched, stop := true }
  | mainStart :
      RunStep state .mainFlagging
        { state.moveWorker 0 .entering with
          owner := .mainRunning
          launched := Function.update state.launched 0 true }
  | mainDone :
      state.workers 0 = .done →
      RunStep state .mainRunning
        { state with
          owner := .joining 1 (state.workerCount - 1)
          launched := Function.update state.launched 0 false }
  | join {index launched : Nat} :
      index ≤ launched → state.workers index = .done →
      RunStep state (.joining index launched) { state with owner := .clearing index launched }
  | clear {index launched : Nat} :
      RunStep state (.clearing index launched)
        { state with
          owner := .joining (index + 1) launched
          launched := Function.update state.launched index false }
  | joinedAll {index launched : Nat} :
      launched < index →
      RunStep state (.joining index launched) { state with owner := .finishing }
  | finish :
      RunStep state .finishing { state with owner := .idle, running := false }

/-- This is `dp_dataplane_teardown` up to the release of the writer lock. -/
inductive TeardownStep (state : Concurrent tables) : OwnerPoint → Concurrent tables → Prop
  | begin :
      state.running = false → TeardownStep state .idle { state with owner := .checkingActive }
  | noActive :
      state.activeWorkers = 0 →
      TeardownStep state .checkingActive { state with owner := .checkingReaders }
  | someActive :
      state.activeWorkers ≠ 0 →
      TeardownStep state .checkingActive { state with owner := .idle }
  | noReaders :
      state.registeredReaders = 0 →
      TeardownStep state .checkingReaders { state with owner := .checkingWorker 0 }
  | someReaders :
      state.registeredReaders ≠ 0 →
      TeardownStep state .checkingReaders { state with owner := .idle }
  | stopped {index : Nat} :
      index < state.workerCount → state.launched index = false →
      state.readerRegistered index = false →
      TeardownStep state (.checkingWorker index)
        { state with owner := .checkingWorker (index + 1) }
  | notStopped {index : Nat} :
      index < state.workerCount →
      (state.launched index = true ∨ state.readerRegistered index = true) →
      TeardownStep state (.checkingWorker index) { state with owner := .idle }
  | stoppedAll {index : Nat} :
      state.workerCount ≤ index →
      TeardownStep state (.checkingWorker index) { state with owner := .readying }
  | unready :
      TeardownStep state .readying { state with owner := .locking, ready := false }
  | lock :
      state.writerLock = none →
      TeardownStep state .locking { state with owner := .entering, writerLock := some .owner }
  | enter :
      TeardownStep state .entering { state with owner := .exchanging, writerActive := true }
  | exchange :
      TeardownStep state .exchanging
        { state with owner := .freeing state.activeRules, activeRules := none }
  | free {old : Option Nat} :
      TeardownStep state (.freeing old)
        { state with
          owner := .freeingQsbr
          freed := freeSnapshot state.freed old
          stats := dpSnapshotFree (old.bind state.heap) false true state.stats }
  | freeQsbr :
      state.rulesQsbr = true →
      TeardownStep state .freeingQsbr
        { state with owner := .clearingQsbr, qsbrFreed := state.qsbrFreed + 1 }
  | noQsbr :
      state.rulesQsbr = false →
      TeardownStep state .freeingQsbr { state with owner := .unconfiguring }
  | clearQsbr :
      TeardownStep state .clearingQsbr
        { state with
          owner := .unconfiguring
          rulesQsbr := false
          stats := { state.stats with qsbrFreed := true } }
  | unconfigure :
      TeardownStep state .unconfiguring { state with owner := .leaving, rulesConfigured := false }
  | leave :
      TeardownStep state .leaving { state with owner := .unlocking, writerActive := false }
  | unlock :
      TeardownStep state .unlocking { state with owner := .idle, writerLock := none }

/-- The owner calls the lifecycle functions one after another in any order. A setup may fail behind
the reset of the worker contexts. -/
inductive OwnerStep (state : Concurrent tables) : OwnerPoint → Concurrent tables → Prop
  | setup (workerCount : Nat) (complete : Bool) :
      state.initialized = true → state.ready = false → state.rulesConfigured = true →
      0 < workerCount →
      OwnerStep state .idle
        { state with
          ready := complete
          workerCount := workerCount
          launched := fun _ => false
          readerRegistered := fun _ => false }
  | run {point : OwnerPoint} {after : Concurrent tables} :
      RunStep state point after → OwnerStep state point after
  | teardown {point : OwnerPoint} {after : Concurrent tables} :
      TeardownStep state point after → OwnerStep state point after

/-- Each step belongs to one thread. -/
inductive Thread where
  | worker (id : Nat)
  | publisher (id : Nat)
  | owner
  | anyone

/-- Any thread may request a stop at any time. -/
inductive ConcurrentStep (capacity : Nat) (state : Concurrent tables) :
    Thread → Concurrent tables → Prop
  | worker (id : Nat) {after : Concurrent tables} :
      WorkerStep capacity state id (state.workers id) after →
      ConcurrentStep capacity state (.worker id) after
  | publisher (id : Nat) {after : Concurrent tables} :
      PublisherStep capacity state id (state.publishers id) after →
      ConcurrentStep capacity state (.publisher id) after
  | owner {after : Concurrent tables} :
      OwnerStep state state.owner after → ConcurrentStep capacity state .owner after
  | requestStop : ConcurrentStep capacity state .anyone { state with stop := true }

end FlowRouter.Native
