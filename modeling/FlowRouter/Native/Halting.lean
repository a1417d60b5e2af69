import FlowRouter.Native.Joining
import Mathlib.Algebra.Order.BigOperators.Group.Finset

namespace FlowRouter.Native
open Census Transition
open Finset (range)

/-- These are the steps of the threads. A stop request comes from outside. -/
inductive RunThreadStep (state : RunState) : RunEvent → RunState → Prop
  | worker (worker : Nat) {event : RunEvent} {after : RunState} :
      LoopStep state worker (state.workers worker) event after → RunThreadStep state event after
  | owner {event : RunEvent} {after : RunState} :
      OwnerRunStep state state.owner event after → RunThreadStep state event after

theorem RunThreadStep.system {state after : RunState} {event : RunEvent}
    (step : RunThreadStep state event after) : RunSystemStep state event after := by
  cases step with
  | worker worker step => exact .worker worker step
  | owner step => exact .owner step

/-- This many steps lead a worker to its return when the stop flag is set. -/
def LoopPoint.rank : LoopPoint → Nat
  | .absent | .returned _ => 0
  | .entering => 10
  | .deciding => 9
  | .counting | .polling => 8
  | .flagging | .working => 7
  | .testing => 6
  | .unregistering => 5
  | .uncounting => 4
  | .unflagging | .failing _ => 3
  | .recording | .stopping _ => 2
  | .leaving _ => 1

/-- The owner pays in advance for the workers that it has yet to launch and to join. -/
def RunPoint.rank (workerCount : Nat) : RunPoint → Nat
  | .calling => (workerCount - 1) * 14 + 18
  | .launching index launched => (workerCount - index) * 14 + 2 * launched + 17
  | .flagging index launched => (workerCount - index - 1) * 14 + 2 * launched + 20
  | .mainFlagging launched => 2 * launched + 16
  | .mainCalling launched => 2 * launched + 15
  | .mainRunning launched => 2 * launched + 4
  | .mainClearing launched _ | .stopping launched _ => 2 * launched + 3
  | .joining index launched _ => 2 * (launched + 1 - index) + 2
  | .clearing index launched _ _ => 2 * (launched - index) + 3
  | .finishing _ => 1
  | .returned _ => 0

def RunState.rank (state : RunState) : Nat :=
  state.owner.rank state.workerCount +
    ∑ worker ∈ range (state.workerCount + 1), (state.workers worker).rank

section Lowering
variable {start before after : RunState} {events : List RunEvent} {event : RunEvent}

/-- With the stop flag set every step of a worker leads towards its return. -/
theorem LoopStep.lowers {worker : Nat}
    (step : LoopStep before worker (before.workers worker) event after)
    (stopped : before.stop = true) :
    (after.workers worker).rank < (before.workers worker).rank := by
  generalize here : before.workers worker = point at step
  cases step
  case poll running => exact absurd (stopped.symm.trans running) (by decide)
  all_goals
    simp [RunState.moveWorker, LoopPoint.rank]

/-- Only a busy worker steps, so the owner waits for it. -/
theorem RunState.Tracks.steps (tracks : before.Tracks start events) {worker : Nat}
    (step : LoopStep before worker (before.workers worker) event after) :
    before.owner.Pending worker := by
  by_contra settled
  exact absurd (step.frame.busy.symm.trans (tracks.settled worker settled)) (by decide)

/-- The rank of a run changes by what one worker does. -/
theorem RunState.rank_move {worker : Nat} (below : worker < before.workerCount + 1)
    (others : ∀ other, other ≠ worker → after.workers other = before.workers other) :
    (∑ other ∈ range (before.workerCount + 1), (after.workers other).rank) +
        (before.workers worker).rank =
      (∑ other ∈ range (before.workerCount + 1), (before.workers other).rank) +
        (after.workers worker).rank :=
  sum_move below fun other differs => congrArg LoopPoint.rank (others other differs)

/-- A worker that starts raises the rank by its own. -/
theorem RunState.rank_start {worker : Nat} (below : worker < before.workerCount + 1)
    (absent : before.workers worker = .absent) :
    (∑ other ∈ range (before.workerCount + 1),
        ((before.moveWorker worker .entering).workers other).rank) =
      (∑ other ∈ range (before.workerCount + 1), (before.workers other).rank) + 10 := by
  have others (other : Nat) (differs : other ≠ worker) :
      (before.moveWorker worker .entering).workers other = before.workers other :=
    before.moveWorker_other differs
  have moved := RunState.rank_move below others
  rw [absent, before.moveWorker_self] at moved
  exact moved

theorem RunState.Tracks.lowers_worker (tracks : before.Tracks start events) {worker : Nat}
    (stopped : before.stop = true)
    (step : LoopStep before worker (before.workers worker) event after) :
    after.rank < before.rank := by
  have below := tracks.below (tracks.steps step)
  have frame := step.frame
  have lower := step.lowers stopped
  have moved := RunState.rank_move below fun other differs => (frame.others other differs).1
  unfold RunState.rank
  rw [frame.owner.1, frame.setup.2.2.1]
  omega

theorem RunState.Tracks.lowers_owner (tracks : before.Tracks start events)
    (step : OwnerRunStep before before.owner event after) : after.rank < before.rank := by
  have follows := tracks.follows
  have unstarted := tracks.unstarted
  unfold RunState.rank
  rw [RunState.Follows] at follows
  generalize here : before.owner = point at step follows unstarted
  cases step with
  | call step => cases step <;> simp [RunPoint.rank]
  | launch step =>
    cases step with
    | @launch index launched more =>
      have absent := unstarted index (.inr (Nat.le_refl index))
      have started := RunState.rank_start (Nat.lt_succ_of_lt more) absent
      simp only [RunPoint.rank]
      change _ + (∑ other ∈ range (before.workerCount + 1),
        ((before.moveWorker index .entering).workers other).rank) < _
      rw [started]
      change (before.workerCount - index - 1) * 14 + 2 * launched + 20 + _ < _
      omega
    | _ =>
      simp only [RunPoint.rank] at follows ⊢
      omega
  | main step =>
    cases step with
    | @mainCall launched =>
      have absent := unstarted 0 (.inl rfl)
      have started := RunState.rank_start (Nat.succ_pos before.workerCount) absent
      simp only [RunPoint.rank]
      change _ + (∑ other ∈ range (before.workerCount + 1),
        ((before.moveWorker 0 .entering).workers other).rank) < _
      rw [started]
      omega
    | _ =>
      simp only [RunPoint.rank] at follows ⊢
      omega
  | join step =>
    cases step <;> simp only [RunPoint.rank] at follows ⊢ <;> omega

end Lowering

section Progress
variable {start before after : RunState} {event : RunEvent}

/-- The owner has started the workers that it waits for. -/
def RunState.Started (state : RunState) : Prop :=
  ∀ worker, state.owner.Pending worker → state.workers worker ≠ .absent

/-- A worker never becomes absent again. -/
theorem LoopStep.present {worker : Nat}
    (step : LoopStep before worker (before.workers worker) event after) :
    after.workers worker ≠ .absent := by
  generalize before.workers worker = point at step
  cases step
  all_goals
    simp [RunState.moveWorker]

theorem RunState.Started.kept (started : before.Started)
    (same : after.workers = before.workers)
    (fewer : ∀ worker, after.owner.Pending worker → before.owner.Pending worker) :
    after.Started := by
  intro worker pending
  rw [same]
  exact started worker (fewer worker pending)

/-- The owner waits for one more worker, and that worker enters. -/
theorem RunState.Started.enter {entered : Nat} (started : before.Started)
    (same : after.workers = (before.moveWorker entered .entering).workers)
    (fewer : ∀ worker, worker ≠ entered → after.owner.Pending worker →
      before.owner.Pending worker) :
    after.Started := by
  intro worker pending
  rw [same]
  by_cases new : worker = entered
  · rw [new, before.moveWorker_self]
    exact nofun
  · rw [before.moveWorker_other new]
    exact started worker (fewer worker new pending)

theorem RunState.Started.step {events : List RunEvent} (started : before.Started)
    (tracks : before.Tracks start events) (step : RunSystemStep before event after) :
    after.Started := by
  cases step with
  | worker mover step =>
    intro worker pending
    rw [step.frame.owner.1] at pending
    by_cases same : worker = mover
    · rw [same]
      exact step.present
    · rw [(step.frame.others worker same).1]
      exact started worker pending
  | owner step =>
    have follows := tracks.follows
    rw [RunState.Follows] at follows
    generalize here : before.owner = point at step follows
    cases step with
    | call step =>
      cases step
      case begin =>
        intro worker pending
        exact absurd pending.1 (Nat.not_le_of_lt pending.2)
      all_goals
        exact fun worker pending => pending.elim
    | launch step =>
      cases step
      case launch =>
        refine started.enter rfl fun worker differs pending => ?_
        rw [here]
        simp only [RunPoint.Pending] at pending ⊢
        omega
      all_goals
        refine started.kept rfl fun worker pending => ?_
        rw [here]
        simp only [RunPoint.Pending] at follows pending ⊢
        omega
    | main step =>
      cases step
      case mainCall =>
        refine started.enter rfl fun worker differs pending => ?_
        rw [here]
        simp only [RunPoint.Pending] at pending ⊢
        omega
      all_goals
        refine started.kept rfl fun worker pending => ?_
        rw [here]
        simp only [RunPoint.Pending] at pending ⊢
        omega
    | join step =>
      cases step
      case joinedAll | finish =>
        exact fun worker pending => pending.elim
      all_goals
        refine started.kept rfl fun worker pending => ?_
        rw [here]
        simp only [RunPoint.Pending] at pending ⊢
        omega
  | requestStop => exact started

/-- After the return of the owner no thread steps. -/
theorem RunState.Tracks.quiet {events : List RunEvent} (tracks : before.Tracks start events)
    {status : Int} (returned : before.owner = .returned status) :
    ¬ RunThreadStep before event after := by
  intro step
  cases step with
  | worker worker step =>
    have pending := tracks.steps step
    rw [returned] at pending
    exact pending
  | owner step =>
    rw [returned] at step
    cases step with
    | call step => cases step
    | launch step => cases step
    | main step => cases step
    | join step => cases step

end Progress

section Halting
variable {start before after finish stopped : RunState} {event : RunEvent}
  {history later : List (RunState × RunEvent)}

/-- A stop request has reached a run. -/
structure RunState.Stopping (state start : RunState) : Prop where
  stop : state.stop = true
  tracked : ∃ events, state.Tracks start events
  started : state.Started

theorem RunState.Stopping.step (stopping : before.Stopping start)
    (apart : Set.InjOn start.lcoreId {worker | worker < start.workerCount})
    (step : RunSystemStep before event after) : after.Stopping start := by
  obtain ⟨stop, ⟨events, tracks⟩, started⟩ := stopping
  exact ⟨step.stop stop, ⟨_, step.tracks tracks apart⟩, started.step tracks step⟩

theorem RunState.Idle.started (idle : start.Idle) (path : Trail RunSystemStep start history finish) :
    finish.Started := by
  induction path with
  | refl =>
    intro worker pending
    rw [idle.owner] at pending
    exact pending.elim
  | snoc earlier last ih => exact ih.step (idle.tracks_path earlier) last

theorem RunThreadStep.lowers (stopping : before.Stopping start)
    (step : RunThreadStep before event after) : after.rank < before.rank := by
  obtain ⟨stop, ⟨events, tracks⟩, -⟩ := stopping
  cases step with
  | worker worker step => exact tracks.lowers_worker stop step
  | owner step => exact tracks.lowers_owner step

end Halting

end FlowRouter.Native
