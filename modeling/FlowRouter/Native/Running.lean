import FlowRouter.Native.Api
import Mathlib.Logic.Function.Basic

namespace FlowRouter.Native

/-- A worker is at one of these points of `dp_worker_run`. A point behind the loop or behind a
failure carries the status that the function returns. -/
inductive LoopPoint where
  | absent
  | entering
  | deciding
  | failing (ret : Int)
  | stopping (ret : Int)
  | counting
  | flagging
  | testing
  | polling
  | working
  | unregistering
  | uncounting
  | unflagging
  | recording
  | leaving (ret : Int)
  | returned (ret : Int)
  deriving DecidableEq, Repr

/-- The owner thread is at one of these points of `dp_dataplane_run`. The points carry its local
variables `i`, `launched`, `ret` and `first_error`. -/
inductive RunPoint where
  | calling
  | launching (index launched : Nat)
  | flagging (index launched : Nat)
  | stopping (launched : Nat) (firstError : Int)
  | mainFlagging (launched : Nat)
  | mainCalling (launched : Nat)
  | mainRunning (launched : Nat)
  | mainClearing (launched : Nat) (ret : Int)
  | joining (index launched : Nat) (firstError : Int)
  | clearing (index launched : Nat) (firstError ret : Int)
  | finishing (firstError : Int)
  | returned (status : Int)
  deriving DecidableEq, Repr

/-- These are the fields of `dp_state` that a run reads and writes, and the points of its
threads. -/
structure RunState where
  ready : Bool
  running : Bool
  ran : Bool
  stop : Bool
  activeWorkers : Nat
  registeredReaders : Nat
  workerCount : Nat
  lcoreId : Nat → Nat
  launched : Nat → Bool
  readerRegistered : Nat → Bool
  result : Nat → Int
  workers : Nat → LoopPoint
  owner : RunPoint

/-- The trace of a run shows the launches, the waits, the failures and the bursts. -/
inductive RunEvent where
  | launch (lcoreId : Nat)
  | launchFailure
  | wait (lcoreId : Nat)
  | workerFailure (worker : Nat)
  | burst (worker : Nat)
  | silent
  deriving DecidableEq, Repr

def RunState.moveWorker (state : RunState) (worker : Nat) (point : LoopPoint) : RunState :=
  { state with workers := Function.update state.workers worker point }

theorem RunState.moveWorker_self (state : RunState) (worker : Nat) (point : LoopPoint) :
    (state.moveWorker worker point).workers worker = point :=
  Function.update_self _ _ _

theorem RunState.moveWorker_other (state : RunState) {worker other : Nat} {point : LoopPoint}
    (differs : other ≠ worker) :
    (state.moveWorker worker point).workers other = state.workers other :=
  Function.update_of_ne differs _ _

/-- A registration failure reports a negative error number. -/
inductive LoopStep (state : RunState) (worker : Nat) : LoopPoint → RunEvent → RunState → Prop
  | enter :
      LoopStep state worker .entering .silent
        { state.moveWorker worker .deciding with activeWorkers := state.activeWorkers + 1 }
  | injectedFailure :
      LoopStep state worker .deciding (.workerFailure worker)
        (state.moveWorker worker (.failing (-eio)))
  | registerFailure {ret : Int} :
      ret < 0 →
      LoopStep state worker .deciding (.workerFailure worker)
        (state.moveWorker worker (.failing ret))
  | register :
      LoopStep state worker .deciding .silent (state.moveWorker worker .counting)
  | record {ret : Int} :
      LoopStep state worker (.failing ret) .silent
        { state.moveWorker worker (.stopping ret) with
          result := Function.update state.result worker ret }
  | stop {ret : Int} :
      LoopStep state worker (.stopping ret) .silent
        { state.moveWorker worker (.leaving ret) with stop := true }
  | count :
      LoopStep state worker .counting .silent
        { state.moveWorker worker .flagging with
          registeredReaders := state.registeredReaders + 1 }
  | flag :
      LoopStep state worker .flagging .silent
        { state.moveWorker worker .testing with
          readerRegistered := Function.update state.readerRegistered worker true }
  | poll :
      state.stop = false →
      LoopStep state worker .testing .silent (state.moveWorker worker .polling)
  | burst :
      LoopStep state worker .polling (.burst worker) (state.moveWorker worker .working)
  | quiescent :
      LoopStep state worker .working .silent (state.moveWorker worker .testing)
  | retire :
      state.stop = true →
      LoopStep state worker .testing .silent (state.moveWorker worker .unregistering)
  | unregister :
      LoopStep state worker .unregistering .silent (state.moveWorker worker .uncounting)
  | uncount :
      LoopStep state worker .uncounting .silent
        { state.moveWorker worker .unflagging with
          registeredReaders := state.registeredReaders - 1 }
  | unflag :
      LoopStep state worker .unflagging .silent
        { state.moveWorker worker .recording with
          readerRegistered := Function.update state.readerRegistered worker false }
  | succeed :
      LoopStep state worker .recording .silent
        { state.moveWorker worker (.leaving 0) with
          result := Function.update state.result worker 0 }
  | leave {ret : Int} :
      LoopStep state worker (.leaving ret) .silent
        { state.moveWorker worker (.returned ret) with activeWorkers := state.activeWorkers - 1 }

/-- The call checks its guards. -/
inductive CallStep (state : RunState) : RunPoint → RunEvent → RunState → Prop
  | notReady :
      state.ready = false →
      CallStep state .calling .silent { state with owner := .returned (-enodev) }
  | alreadyRan :
      state.ready = true → state.ran = true →
      CallStep state .calling .silent { state with owner := .returned (-ealready) }
  | begin :
      state.ready = true → state.ran = false →
      CallStep state .calling .silent
        { state with owner := .launching 1 0, ran := true, running := true }

/-- The loop launches the remote workers and stops at the first failure. -/
inductive LaunchStep (state : RunState) : RunPoint → RunEvent → RunState → Prop
  | launch {index launched : Nat} :
      index < state.workerCount →
      LaunchStep state (.launching index launched) (.launch (state.lcoreId index))
        { state.moveWorker index .entering with owner := .flagging index launched }
  | launchFailure {index launched : Nat} {ret : Int} :
      index < state.workerCount → ret ≠ 0 →
      LaunchStep state (.launching index launched) .launchFailure
        { state with owner := .stopping launched (if ret < 0 then ret else -eio) }
  | launchedAll {index launched : Nat} :
      state.workerCount ≤ index →
      LaunchStep state (.launching index launched) .silent
        { state with owner := .mainFlagging launched }
  | flag {index launched : Nat} :
      LaunchStep state (.flagging index launched) .silent
        { state with
          owner := .launching (index + 1) (launched + 1)
          launched := Function.update state.launched index true }
  | stop {launched : Nat} {firstError : Int} :
      LaunchStep state (.stopping launched firstError) .silent
        { state with owner := .joining 1 launched firstError, stop := true }

/-- The owner thread runs worker zero itself. -/
inductive MainStep (state : RunState) : RunPoint → RunEvent → RunState → Prop
  | mainFlag {launched : Nat} :
      MainStep state (.mainFlagging launched) .silent
        { state with
          owner := .mainCalling launched
          launched := Function.update state.launched 0 true }
  | mainCall {launched : Nat} :
      MainStep state (.mainCalling launched) .silent
        { state.moveWorker 0 .entering with owner := .mainRunning launched }
  | mainReturn {launched : Nat} {ret : Int} :
      state.workers 0 = .returned ret →
      MainStep state (.mainRunning launched) .silent
        { state with owner := .mainClearing launched ret }
  | mainClear {launched : Nat} {ret : Int} :
      MainStep state (.mainClearing launched ret) .silent
        { state with
          owner := .joining 1 launched (if ret < 0 then ret else 0)
          launched := Function.update state.launched 0 false }

/-- A wait for an lcore ends when its worker has returned, and it yields the status of the
worker. -/
inductive JoinStep (state : RunState) : RunPoint → RunEvent → RunState → Prop
  | wait {index launched : Nat} {firstError ret : Int} :
      index ≤ launched → state.workers index = .returned ret →
      JoinStep state (.joining index launched firstError) (.wait (state.lcoreId index))
        { state with owner := .clearing index launched firstError ret }
  | clear {index launched : Nat} {firstError ret : Int} :
      JoinStep state (.clearing index launched firstError ret) .silent
        { state with
          owner := .joining (index + 1) launched
            (if ret < 0 ∧ firstError = 0 then ret else firstError)
          launched := Function.update state.launched index false }
  | joinedAll {index launched : Nat} {firstError : Int} :
      launched < index →
      JoinStep state (.joining index launched firstError) .silent
        { state with owner := .finishing firstError }
  | finish {firstError : Int} :
      JoinStep state (.finishing firstError) .silent
        { state with owner := .returned firstError, running := false }

/-- These are the parts of `dp_dataplane_run` in their order. -/
inductive OwnerRunStep (state : RunState) (point : RunPoint) (event : RunEvent)
    (after : RunState) : Prop
  | call : CallStep state point event after → OwnerRunStep state point event after
  | launch : LaunchStep state point event after → OwnerRunStep state point event after
  | main : MainStep state point event after → OwnerRunStep state point event after
  | join : JoinStep state point event after → OwnerRunStep state point event after

/-- Any thread may request a stop at any time. -/
inductive RunSystemStep (state : RunState) : RunEvent → RunState → Prop
  | worker (worker : Nat) {event : RunEvent} {after : RunState} :
      LoopStep state worker (state.workers worker) event after → RunSystemStep state event after
  | owner {event : RunEvent} {after : RunState} :
      OwnerRunStep state state.owner event after → RunSystemStep state event after
  | requestStop : RunSystemStep state .silent { state with stop := true }

/-- These points lie between the two updates of `active_workers`. -/
def LoopPoint.active : LoopPoint → Bool
  | .absent | .entering | .returned _ => false
  | _ => true

/-- These points lie between the two updates of `registered_readers`. -/
def LoopPoint.reading : LoopPoint → Bool
  | .flagging | .testing | .polling | .working | .unregistering | .uncounting => true
  | _ => false

/-- These points lie between the two stores to `reader_registered`. -/
def LoopPoint.flagged : LoopPoint → Bool
  | .testing | .polling | .working | .unregistering | .uncounting | .unflagging => true
  | _ => false

/-- A worker is at rest before its launch and after its return. -/
def LoopPoint.resting : LoopPoint → Bool
  | .absent | .returned _ => true
  | _ => false

/-- A negative status is on its way back to the caller. -/
def LoopPoint.failed : LoopPoint → Bool
  | .failing ret | .stopping ret | .leaving ret | .returned ret => decide (ret < 0)
  | _ => false

/-- A worker changes neither the owner nor any other worker. -/
structure LoopFrame (before : RunState) (worker : Nat) (after : RunState) : Prop where
  busy : (before.workers worker).resting = false
  others : ∀ other, other ≠ worker → after.workers other = before.workers other ∧
    after.readerRegistered other = before.readerRegistered other
  owner : after.owner = before.owner ∧ after.running = before.running ∧
    after.launched = before.launched
  setup : after.ready = before.ready ∧ after.ran = before.ran ∧
    after.workerCount = before.workerCount ∧ after.lcoreId = before.lcoreId

theorem LoopStep.frame {before after : RunState} {worker : Nat} {event : RunEvent}
    (step : LoopStep before worker (before.workers worker) event after) :
    LoopFrame before worker after := by
  generalize here : before.workers worker = point at step
  have moved (next : LoopPoint) (other : Nat) (differs : other ≠ worker) :
      Function.update before.workers worker next other = before.workers other :=
    Function.update_of_ne differs _ _
  have flags (flag : Bool) (other : Nat) (differs : other ≠ worker) :
      Function.update before.readerRegistered worker flag other =
        before.readerRegistered other :=
    Function.update_of_ne differs _ _
  cases step
  case flag | unflag =>
    exact ⟨by rw [here]; rfl,
      fun other differs => ⟨moved _ other differs, flags _ other differs⟩,
      ⟨rfl, rfl, rfl⟩, ⟨rfl, rfl, rfl, rfl⟩⟩
  all_goals
    exact ⟨by rw [here]; rfl, fun other differs => ⟨moved _ other differs, rfl⟩,
      ⟨rfl, rfl, rfl⟩, ⟨rfl, rfl, rfl, rfl⟩⟩

/-- A worker counts itself in and out of the three records. -/
structure LoopCounts (before : RunState) (worker : Nat) (after : RunState) : Prop where
  active : after.activeWorkers + (before.workers worker).active.toNat =
    before.activeWorkers + (after.workers worker).active.toNat
  reading : after.registeredReaders + (before.workers worker).reading.toNat =
    before.registeredReaders + (after.workers worker).reading.toNat
  flagged : before.readerRegistered worker = (before.workers worker).flagged →
    after.readerRegistered worker = (after.workers worker).flagged

theorem LoopStep.counts {before after : RunState} {worker : Nat} {event : RunEvent}
    (step : LoopStep before worker (before.workers worker) event after)
    (active : (before.workers worker).active.toNat ≤ before.activeWorkers)
    (reading : (before.workers worker).reading.toNat ≤ before.registeredReaders) :
    LoopCounts before worker after := by
  generalize here : before.workers worker = point at step active reading
  cases step
  all_goals
    simp only [LoopPoint.active, LoopPoint.reading, Bool.toNat_true] at active reading
    refine ⟨?_, ?_, ?_⟩
    · simp only [RunState.moveWorker, here, Function.update_self, LoopPoint.active,
        Bool.toNat_true, Bool.toNat_false] <;> omega
    · simp only [RunState.moveWorker, here, Function.update_self, LoopPoint.reading,
        Bool.toNat_true, Bool.toNat_false] <;> omega
    · simp [RunState.moveWorker, here, LoopPoint.flagged]

/-- A worker reports its own failure and nothing of the owner. -/
theorem LoopStep.reports {before after : RunState} {worker : Nat} {event : RunEvent}
    (step : LoopStep before worker (before.workers worker) event after) :
    ((after.workers worker).failed = true ↔
      (before.workers worker).failed = true ∨ event = .workerFailure worker) ∧
    (event = .silent ∨ event = .workerFailure worker ∨ event = .burst worker) := by
  generalize here : before.workers worker = point at step
  cases step
  all_goals simp_all [RunState.moveWorker, LoopPoint.failed, eio]

end FlowRouter.Native
