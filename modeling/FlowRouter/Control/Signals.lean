import FlowRouter.Library.Channel
import FlowRouter.Library.Transition

namespace FlowRouter.Control
open Transition

/-- These are the signals that `run` registers. -/
inductive Signal where
  | interrupt
  | terminate
  | hangup
  deriving DecidableEq, Repr

def Signal.stops (signal : Signal) : Bool := signal != .hangup

/-- The handler goroutine is at one of these points. -/
inductive HandlerPoint where
  | absent
  | selecting
  | parked
  | received (signal : Signal)
  | loading
  | awaitingReady
  | awaitingRules
  | publishing
  | returned
  deriving DecidableEq, Repr

/-- The channel of `run` buffers one signal. The flag `delivered` records that a stop signal has
come in. -/
structure SignalState where
  signals : Channel Signal 1
  handler : HandlerPoint
  ready : Bool
  stopCalled : Bool
  done : Bool
  delivered : Bool

/-- A run begins when `Notify` has registered the channel. -/
def SignalState.initial : SignalState where
  signals := .empty
  handler := .absent
  ready := false
  stopCalled := false
  done := false
  delivered := false

/-- A receiver that is parked in its select gets the signal directly. -/
def SignalState.notify (state : SignalState) (signal : Signal) : SignalState :=
  let state := { state with delivered := state.delivered || signal.stops }
  if state.handler = .parked then { state with handler := .received signal }
  else { state with signals := state.signals.trySend signal }

/-- A parked handler wakes up when the runtime closes `done`. -/
def SignalState.close (state : SignalState) : SignalState :=
  let handler := if state.handler = .parked then .returned else state.handler
  { state with done := true, handler := handler }

inductive SignalEvent where
  | deliver (signal : Signal)
  | handle
  | ready
  | close
  deriving DecidableEq, Repr

/-- Each step is a delivery, a move of the handler or a move of the runtime. The parameter says
whether a rules file was given. -/
inductive SignalStep (rulesFile : Bool) : SignalState → SignalEvent → SignalState → Prop
  | deliver {state : SignalState} (signal : Signal) :
      SignalStep rulesFile state (.deliver signal) (state.notify signal)
  | start {state : SignalState} (point : state.handler = .absent) :
      SignalStep rulesFile state .handle { state with handler := .selecting }
  | receive {state : SignalState} {signal : Signal} {rest : Channel Signal 1}
      (point : state.handler = .selecting) (taken : state.signals.receive = some (signal, rest)) :
      SignalStep rulesFile state .handle
        { state with handler := .received signal, signals := rest }
  | park {state : SignalState} (point : state.handler = .selecting)
      (vacant : state.signals.buffer = []) (running : state.done = false) :
      SignalStep rulesFile state .handle { state with handler := .parked }
  | observe {state : SignalState} (point : state.handler = .selecting)
      (finished : state.done = true) :
      SignalStep rulesFile state .handle { state with handler := .returned }
  | stop {state : SignalState} {signal : Signal} (point : state.handler = .received signal)
      (stops : signal.stops = true) :
      SignalStep rulesFile state .handle { state with handler := .returned, stopCalled := true }
  | refuse {state : SignalState} (point : state.handler = .received .hangup)
      (missing : rulesFile = false) :
      SignalStep rulesFile state .handle { state with handler := .selecting }
  | load {state : SignalState} (point : state.handler = .received .hangup)
      (given : rulesFile = true) :
      SignalStep rulesFile state .handle { state with handler := .loading }
  | loadFailed {state : SignalState} (point : state.handler = .loading) :
      SignalStep rulesFile state .handle { state with handler := .selecting }
  | replaceRules {state : SignalState} (point : state.handler = .loading) :
      SignalStep rulesFile state .handle { state with handler := .awaitingReady }
  | awaitedReady {state : SignalState} (point : state.handler = .awaitingReady)
      (ready : state.ready = true) :
      SignalStep rulesFile state .handle { state with handler := .awaitingRules }
  | lockedRules {state : SignalState} (point : state.handler = .awaitingRules) :
      SignalStep rulesFile state .handle { state with handler := .publishing }
  | replaced {state : SignalState} (point : state.handler = .publishing) :
      SignalStep rulesFile state .handle { state with handler := .selecting }
  | ready {state : SignalState} :
      SignalStep rulesFile state .ready { state with ready := true }
  | close {state : SignalState} (ready : state.ready = true) :
      SignalStep rulesFile state .close state.close

/-- A stop signal waits in the channel or in the hand of the handler, or it has been acted on. -/
def SignalState.StopPending (state : SignalState) : Prop :=
  state.stopCalled = true ∨ (∃ signal ∈ state.signals.buffer, signal.stops = true) ∨
    ∃ signal, state.handler = .received signal ∧ signal.stops = true

/-- No stop signal has been lost. -/
def SignalState.StopKept (state : SignalState) : Prop :=
  state.delivered = true → state.done = false → state.StopPending

/-- A stop signal finds a place in the channel or a parked handler, or nothing depends on it. -/
def SignalState.Heard (state : SignalState) : SignalEvent → Prop
  | .deliver signal =>
      signal.stops = true → state.handler = .parked ∨ state.signals.HasRoom ∨
        state.StopPending ∨ state.done = true
  | _ => True

theorem SignalState.notify_parked {state : SignalState} {signal : Signal}
    (parked : state.handler = .parked) : state.notify signal =
      { state with
        delivered := state.delivered || signal.stops
        handler := .received signal } := if_pos parked

theorem SignalState.notify_busy {state : SignalState} {signal : Signal}
    (busy : state.handler ≠ .parked) : state.notify signal =
      { state with
        delivered := state.delivered || signal.stops
        signals := state.signals.trySend signal } := if_neg busy

theorem SignalState.notify_delivered (state : SignalState) (signal : Signal) :
    (state.notify signal).delivered = (state.delivered || signal.stops) ∧
      (state.notify signal).done = state.done := by
  by_cases parked : state.handler = .parked
  · rw [state.notify_parked parked]
    exact ⟨rfl, rfl⟩
  · rw [state.notify_busy parked]
    exact ⟨rfl, rfl⟩

/-- A delivered stop signal stays when the handler is parked or the channel has room. -/
theorem SignalState.notify_stopPending (state : SignalState) (signal : Signal) :
    (state.notify signal).StopPending ↔ state.StopPending ∨
      signal.stops = true ∧ (state.handler = .parked ∨ state.signals.HasRoom) := by
  by_cases parked : state.handler = .parked
  · rw [state.notify_parked parked]
    simp only [StopPending, parked, HandlerPoint.received.injEq, exists_eq_left', true_or,
      and_true, reduceCtorEq, false_and, exists_false, or_false, or_assoc]
  · rw [state.notify_busy parked]
    simp only [StopPending, Channel.mem_trySend, or_and_right, exists_or, parked, false_or]
    constructor
    · rintro (called | (waiting | ⟨found, ⟨room, rfl⟩, stops⟩) | held)
      · exact Or.inl (Or.inl called)
      · exact Or.inl (Or.inr (Or.inl waiting))
      · exact Or.inr ⟨stops, room⟩
      · exact Or.inl (Or.inr (Or.inr held))
    · rintro ((called | waiting | held) | ⟨stops, room⟩)
      · exact Or.inl called
      · exact Or.inr (Or.inl (Or.inl waiting))
      · exact Or.inr (Or.inr held)
      · exact Or.inr (Or.inl (Or.inr ⟨signal, ⟨room, rfl⟩, stops⟩))

/-- A delivery keeps the stop signals exactly when it is heard. -/
theorem SignalState.notify_stopKept {state : SignalState} (kept : state.StopKept)
    (signal : Signal) : (state.notify signal).StopKept ↔ state.Heard (.deliver signal) := by
  obtain ⟨delivered, done⟩ := state.notify_delivered signal
  rw [StopKept, delivered, done, notify_stopPending, Heard]
  by_cases stops : signal.stops = true
  · simp only [stops, Bool.or_true, forall_const, true_and]
    by_cases finished : state.done = true
    · exact iff_of_true (fun running => absurd finished (by simp [running]))
        (Or.inr (Or.inr (Or.inr finished)))
    · simp only [Bool.not_eq_true] at finished
      simp only [finished, forall_const, Bool.false_eq_true, or_false]
      rw [or_comm, or_assoc]
  · rw [Bool.not_eq_true] at stops
    simp only [stops, Bool.or_false, Bool.false_eq_true, false_and, or_false, false_implies,
      iff_true]
    exact kept

/-- A handler that leaves a point without a stop signal loses none. -/
theorem SignalState.StopPending.move {state : SignalState} {handler : HandlerPoint}
    (pending : state.StopPending)
    (empty : ∀ signal, state.handler = .received signal → signal.stops = false) :
    { state with handler := handler }.StopPending := by
  rcases pending with called | waiting | ⟨signal, held, stops⟩
  · exact Or.inl called
  · exact Or.inr (Or.inl waiting)
  · exact absurd stops (by simp [empty signal held])

theorem SignalState.StopKept.move {state : SignalState} {handler : HandlerPoint}
    (kept : state.StopKept)
    (empty : ∀ signal, state.handler = .received signal → signal.stops = false) :
    { state with handler := handler }.StopKept :=
  fun delivered running => (kept delivered running).move empty

/-- The handler takes a stop signal from the channel into its hand. -/
theorem SignalState.StopKept.receive {state : SignalState} {signal : Signal}
    {rest : Channel Signal 1} (kept : state.StopKept) (point : state.handler = .selecting)
    (taken : state.signals.receive = some (signal, rest)) :
    { state with handler := .received signal, signals := rest }.StopKept := by
  intro delivered running
  rcases kept delivered running with called | ⟨found, member, stops⟩ | ⟨found, held, stops⟩
  · exact Or.inl called
  · rcases (Channel.mem_receive taken found).mp member with rfl | later
    · exact Or.inr (Or.inr ⟨found, rfl, stops⟩)
    · exact Or.inr (Or.inl ⟨found, later, stops⟩)
  · rw [point] at held
    cases held

/-- Only a delivery that is not heard loses a stop signal. -/
theorem SignalStep.stopKept {rulesFile : Bool} {before after : SignalState} {event : SignalEvent}
    (kept : before.StopKept) (step : SignalStep rulesFile before event after) :
    after.StopKept ↔ before.Heard event := by
  cases step with
  | deliver signal => exact before.notify_stopKept kept signal
  | receive point taken => exact iff_of_true (kept.receive point taken) trivial
  | stop point stops => exact iff_of_true (fun _ _ => Or.inl rfl) trivial
  | close ready => exact iff_of_true (fun _ running => nomatch running) trivial
  | ready => exact iff_of_true kept trivial
  | refuse point missing | load point given =>
    refine iff_of_true (kept.move fun signal held => ?_) trivial
    rw [point] at held
    cases held
    rfl
  | start point | park point vacant running | observe point finished | loadFailed point
    | replaceRules point | awaitedReady point ready | lockedRules point | replaced point =>
    refine iff_of_true (kept.move fun signal held => ?_) trivial
    rw [point] at held
    cases held

/-- A run loses no stop signal exactly when it hears each stop signal that is delivered. -/
theorem stopSignals_kept_iff (rulesFile : Bool) {history : List (SignalState × SignalEvent)}
    {finish : SignalState} (path : Trail (SignalStep rulesFile) .initial history finish) :
    ((∀ visit ∈ history, visit.1.StopKept) ∧ finish.StopKept) ↔
      ∀ visit ∈ history, visit.1.Heard visit.2 :=
  path.forall_iff (fun _ _ _ kept step => step.stopKept kept)
    fun impossible => nomatch impossible

/-- The handler loads the rules file and its channel is empty. -/
def SignalState.reloading : SignalState :=
  { SignalState.initial with handler := .loading }

/-- The handler starts and takes a first hangup. -/
def SignalState.reloadHistory : List (SignalState × SignalEvent) :=
  let selecting := { SignalState.initial with handler := .selecting }
  [(.initial, .handle), (selecting, .deliver .hangup), (selecting.notify .hangup, .handle),
    ({ SignalState.initial with handler := .received .hangup }, .handle)]

theorem SignalState.reloading_path :
    Trail (SignalStep true) .initial reloadHistory reloading := by
  have started : Trail (SignalStep true) .initial [(.initial, .handle)]
      { SignalState.initial with handler := .selecting } := Trail.refl.snoc (.start rfl)
  have signalled := started.snoc (SignalStep.deliver .hangup)
  have taken := signalled.snoc (SignalStep.receive rfl rfl)
  exact taken.snoc (SignalStep.load rfl rfl)

/-- A termination is kept when it arrives during a reload with an empty channel. -/
theorem stopSignals_kept_reloading :
    (SignalState.reloading.notify .terminate).StopKept ∧
      (SignalState.reloading.notify .terminate).stopCalled = false := by
  have path := SignalState.reloading_path.snoc (SignalStep.deliver .terminate)
  refine ⟨((stopSignals_kept_iff true path).mpr fun visit member => ?_).2, rfl⟩
  rcases List.mem_append.mp member with earlier | last
  · simp only [SignalState.reloadHistory, List.mem_cons, List.not_mem_nil, or_false] at earlier
    rcases earlier with rfl | rfl | rfl | rfl
    all_goals simp [SignalState.Heard, Signal.stops]
  · rw [List.mem_singleton.mp last]
    exact fun _ => Or.inr (Or.inl (by decide))

/-- A second hangup fills the channel during a reload, and the termination behind it is lost. -/
theorem terminate_lost : ¬ ∀ (rulesFile : Bool) (state : SignalState),
    Reachable (· = .initial) (SignalStep rulesFile) state → state.StopKept := by
  intro kept
  have full := SignalState.reloading_path.snoc (SignalStep.deliver .hangup)
  have dropped := full.snoc (SignalStep.deliver .terminate)
  have lost := kept true _ ⟨.initial, _, rfl, dropped.run⟩
  rcases lost rfl rfl with called | ⟨signal, waiting, stops⟩ | ⟨signal, held, stops⟩
  · cases called
  · obtain rfl : signal = .hangup := List.mem_singleton.mp waiting
    cases stops
  · cases held

end FlowRouter.Control
