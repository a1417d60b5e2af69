import FlowRouter.Control.Story
import FlowRouter.Library.Mutex
import FlowRouter.Library.Trace

namespace FlowRouter.Control
open Mutex Trace Transition

def LifecycleEvent.startsPublish : LifecycleEvent → Bool
  | .publishStarted _ => true
  | _ => false

def LifecycleEvent.finishesPublish : LifecycleEvent → Bool
  | .publishFinished _ _ => true
  | _ => false

/-- This number of publications is under way. -/
def Publishing (events : List LifecycleEvent) (count : Nat) : Prop :=
  events.countP LifecycleEvent.startsPublish =
    events.countP LifecycleEvent.finishesPublish + count

/-- A stage starts once. Up to the run it follows the success of all stages before it, and the
teardown follows a successful initialization and the end of the run. -/
def OwnerStage.Follows (earlier : List LifecycleEvent) : OwnerStage → Prop
  | .teardown => .finished .init true ∈ earlier ∧
      (.started .run ∈ earlier → ∃ success, .finished .run success ∈ earlier) ∧
      Publishing earlier 0
  | .getStats => ∃ success, .finished .teardown success ∈ earlier
  | .cleanup => .finished .teardown true ∈ earlier
  | stage => ∀ before : OwnerStage, before.place < stage.place → .finished before true ∈ earlier

/-- A publication meets no other one and lies between the setup and the teardown. -/
def LifecycleEvent.Allowed (earlier : List LifecycleEvent) : LifecycleEvent → Prop
  | .started stage => .started stage ∉ earlier ∧ stage.Follows earlier
  | .finished stage _ => .started stage ∈ earlier ∧ ∀ success, .finished stage success ∉ earlier
  | .publishStarted _ => .finished .setup true ∈ earlier ∧ .started .teardown ∉ earlier ∧
      Publishing earlier 0
  | .publishFinished _ _ => .started .teardown ∉ earlier ∧ Publishing earlier 1
  | .answered _ success => success = true → .started .teardown ∉ earlier
  | .stopRequested => True

/-- The owner is between taking and releasing the rule mutex. -/
def OwnerPoint.holds (point : OwnerPoint) : Bool :=
  decide (13 ≤ point.place ∧ point.place ≤ 15 ∨ 21 ≤ point.place ∧ point.place ≤ 28)

def Lifecycle.inside (life : Lifecycle) : Holder → Bool
  | .owner => life.owner.holds
  | .caller id => (life.callers id).inside

/-- The goroutine is inside the native publication. -/
def Caller.publications : Caller → Nat
  | .calling _ _ => 1
  | _ => 0

/-- The goroutine has found the rules open and will not fail any more, or only in the native
publication. -/
def Caller.publishes : Caller → Bool
  | .calling _ _ | .storing _ _ _ | .stamping _ _ _ | .returning _ _ (.ok _) => true
  | _ => false

def Lifecycle.publications (life : Lifecycle) : Nat :=
  match life.rulesMu with
  | some (.caller id) => (life.callers id).publications
  | _ => 0

/-- The rules are open between the setup and the teardown, and every publication is inside the
mutex. -/
structure Lifecycle.Gated (events : List LifecycleEvent) (life : Lifecycle) : Prop where
  lock : Exclusive life.rulesMu life.inside
  opened : life.rules.rulesOpen = true → 14 < life.owner.place ∧ life.owner.place ≤ 21 ∧
    life.initialized = true ∧ .finished .setup true ∈ events
  publishing : ∀ id, (life.callers id).publishes = true → life.rules.rulesOpen = true
  counted : Publishing events life.publications
  legal : Legal LifecycleEvent.Allowed events
  result : life.done = true → life.owner = .done ∧ life.err = life.ownerErr

theorem Caller.inside_of_publishes {caller : Caller} (publishes : caller.publishes = true) :
    caller.inside = true := by
  cases caller <;> first | rfl | exact nomatch publishes

section Gate
variable {events : List LifecycleEvent} {life after : Lifecycle} {stage : OwnerStage}

theorem publishing_snoc {event : LifecycleEvent} {count : Nat}
    (starts : event.startsPublish = false) (finishes : event.finishesPublish = false) :
    Publishing (events ++ [event]) count ↔ Publishing events count := by
  simp [Publishing, List.countP_append, starts, finishes]

theorem publishing_start {caller : Nat} (quiet : Publishing events 0) :
    Publishing (events ++ [.publishStarted caller]) 1 := by
  unfold Publishing at *
  rw [List.countP_append, List.countP_append, quiet]
  rfl

theorem publishing_finish {caller : Nat} {success : Bool} (busy : Publishing events 1) :
    Publishing (events ++ [.publishFinished caller success]) 0 := by
  unfold Publishing at *
  rw [List.countP_append, List.countP_append, busy]
  rfl

/-- While the owner holds the mutex nobody publishes. -/
theorem Lifecycle.Gated.alone (gated : life.Gated events) (holds : life.owner.holds = true) :
    life.rulesMu = some .owner ∧ life.publications = 0 ∧
      ∀ id, (life.callers id).publishes = false := by
  have locked := (gated.lock .owner).mp holds
  refine ⟨locked, ?_, fun id => ?_⟩
  · rw [Lifecycle.publications, locked]
  · have outside : life.inside (.caller id) = false :=
      gated.lock.outside (show life.inside .owner = true from holds) nofun
    by_contra publishes
    have inside := Caller.inside_of_publishes (by simpa using publishes)
    exact absurd (outside.symm.trans inside) (by decide)

/-- The owner passes a point on its side of the mutex. -/
theorem Lifecycle.Gated.pass (gated : life.Gated events) (next : OwnerPoint)
    (there : after.owner = next)
    (shared : after.rulesMu = life.rulesMu ∧ after.callers = life.callers ∧
      after.rules.rulesOpen = life.rules.rulesOpen ∧ after.done = life.done)
    (initialized : 14 < life.owner.place → after.initialized = life.initialized)
    (side : next.holds = life.owner.holds) (later : life.owner.place ≤ next.place)
    (bound : life.owner.place ≤ 21 → life.initialized = true → next.place ≤ 21)
    (running : life.owner ≠ .done) : after.Gated events := by
  obtain ⟨rulesMu, callers, rules, done⟩ := shared
  constructor
  case lock =>
    rw [rulesMu]
    apply gated.lock.keep
    intro holder
    cases holder with
    | owner =>
      rw [Lifecycle.inside, there]
      exact side
    | caller id => rw [Lifecycle.inside, Lifecycle.inside, callers]
  case opened =>
    rw [rules, there]
    intro isOpen
    obtain ⟨above, below, set, setup⟩ := gated.opened isOpen
    exact ⟨above.trans_le later, bound below set, (initialized above).trans set, setup⟩
  case publishing =>
    rw [callers, rules]
    exact gated.publishing
  case counted =>
    rw [Lifecycle.publications, rulesMu, callers]
    exact gated.counted
  case legal => exact gated.legal
  case result =>
    rw [done]
    exact fun finished => absurd (gated.result finished).1 running

/-- The owner takes the free mutex. -/
theorem Lifecycle.Gated.acquire (gated : life.Gated events) (free : life.rulesMu = none)
    (next : OwnerPoint) (holds : next.holds = true) (later : life.owner.place ≤ next.place)
    (bound : next.place ≤ 21) (running : life.owner ≠ .done) :
    ({ life with owner := next, rulesMu := some .owner } : Lifecycle).Gated events := by
  have lock := gated.lock
  rw [free] at lock
  constructor
  case lock =>
    apply lock.acquire
    · intro holder differs
      cases holder with
      | owner => exact absurd rfl differs
      | caller id => rfl
    · exact holds
  case opened =>
    intro isOpen
    obtain ⟨above, -, set, setup⟩ := gated.opened isOpen
    exact ⟨above.trans_le later, bound, set, setup⟩
  case publishing => exact gated.publishing
  case counted =>
    have counted := gated.counted
    rw [Lifecycle.publications, free] at counted
    exact counted
  case legal => exact gated.legal
  case result => exact fun finished => absurd (gated.result finished).1 running

/-- The owner releases the mutex. -/
theorem Lifecycle.Gated.release (gated : life.Gated events) (held : life.owner.holds = true)
    (next : OwnerPoint) (holds : next.holds = false) (later : life.owner.place ≤ next.place)
    (bound : life.owner.place ≤ 21 → next.place ≤ 21) (running : life.owner ≠ .done) :
    ({ life with owner := next, rulesMu := none } : Lifecycle).Gated events := by
  constructor
  case lock =>
    apply gated.lock.release (show life.inside .owner = true from held)
    · intro holder differs
      cases holder with
      | owner => exact absurd rfl differs
      | caller id => rfl
    · exact holds
  case opened =>
    intro isOpen
    obtain ⟨above, below, set, setup⟩ := gated.opened isOpen
    exact ⟨above.trans_le later, bound below, set, setup⟩
  case publishing => exact gated.publishing
  case counted =>
    have counted := gated.counted
    rw [(gated.alone held).2.1] at counted
    exact counted
  case legal => exact gated.legal
  case result => exact fun finished => absurd (gated.result finished).1 running

/-- An event of the owner is no publication. -/
theorem Lifecycle.Gated.snoc (gated : life.Gated events) {event : LifecycleEvent}
    (starts : event.startsPublish = false) (finishes : event.finishesPublish = false)
    (allowed : event.Allowed events) : life.Gated (events ++ [event]) := by
  constructor
  case lock => exact gated.lock
  case opened =>
    intro isOpen
    obtain ⟨above, below, set, setup⟩ := gated.opened isOpen
    exact ⟨above, below, set, List.mem_append_left _ setup⟩
  case publishing => exact gated.publishing
  case counted => exact (publishing_snoc starts finishes).mpr gated.counted
  case legal => exact gated.legal.snoc allowed
  case result => exact gated.result

theorem OwnerStage.serves_iff (stage : OwnerStage) :
    stage.serves = true ↔ 6 ≤ stage.place ∧ stage.place ≤ 18 := by
  cases stage <;> decide

/-- A due stage may start. -/
theorem Lifecycle.Told.start_allowed (told : life.Told events) (gated : life.Gated events)
    (here : life.owner = .entering stage) (due : life.due stage = true) :
    (LifecycleEvent.started stage).Allowed events := by
  have place : life.owner.place = stage.place := congrArg OwnerPoint.place here
  have fresh : .started stage ∉ events := by
    intro member
    have := told.begun stage member
    omega
  have ends (other : OwnerStage) (begun : .started other ∈ events) :
      ∃ success, .finished other success ∈ events := by
    refine (told.returned other begun).resolve_left fun same => ?_
    cases here.symm.trans same
  have before (early : stage.place < 20) (other : OwnerStage) (less : other.place < stage.place) :
      .finished other true ∈ events := by
    have parity := other.place_cases.1
    have even := stage.place_cases.1
    have later : stage ≠ .init := by
      rintro rfl
      exact absurd less (Nat.not_lt_zero _)
    have serves : other.serves = true → life.config.probe = false := by
      rw [other.serves_iff]
      intro serves
      exact Lifecycle.serves_of_due due (stage.serves_iff.mpr (by omega))
    exact told.chain (Lifecycle.sound_of_due due early later) other (by omega) (by omega) serves
  refine ⟨fresh, ?_⟩
  cases stage with
  | init | getInfo | checkLcores | configureRules | setup | refreshInfo | run =>
    exact before (by decide)
  | teardown =>
    have set : life.initialized = true := told.closing (by rw [place]; decide) (by rw [place]; decide)
    have counted := gated.counted
    rw [(gated.alone (by rw [here]; rfl)).2.1] at counted
    exact ⟨told.initialized.mp set, ends .run, counted⟩
  | getStats =>
    have set : life.initialized = true := told.closing (by rw [place]; decide) (by rw [place]; decide)
    exact ends .teardown (told.torn (by rw [place]; decide) set).1
  | cleanup =>
    have set : life.initialized = true := told.closing (by rw [place]; decide) (by rw [place]; decide)
    exact (told.torn (by rw [place]; decide) set).2 (Option.isNone_iff_eq_none.mp due)

/-- A started stage may finish. -/
theorem Lifecycle.Told.finish_allowed (told : life.Told events) (here : life.owner = .inside stage)
    (success : Bool) : (LifecycleEvent.finished stage success).Allowed events := by
  have place : life.owner.place = stage.place + 1 := congrArg OwnerPoint.place here
  refine ⟨(told.inside stage here).1, fun success member => ?_⟩
  have := told.ended stage success member
  omega

/-- The owner enters a native call or skips it. -/
theorem Lifecycle.Gated.atEntering (gated : life.Gated events) (told : life.Told events) {stage : OwnerStage}
    (here : life.owner = .entering stage) {event : Option LifecycleEvent}
    (move : OwnerMove life (.entering stage) event after) : after.Gated (events ++ event.toList) := by
  have place : life.owner.place = stage.place := congrArg OwnerPoint.place here
  obtain ⟨even, -, -, -, twenty, -⟩ := stage.place_cases
  cases move with
  | skip idle =>
    rw [Option.toList_none, List.append_nil]
    apply gated.pass stage.next
    · rfl
    · exact ⟨rfl, rfl, rfl, rfl⟩
    · exact fun _ => rfl
    · rw [here]
      cases stage <;> rfl
    · rw [place, stage.place_next]
      exact Nat.le_add_right _ _
    · rw [place, stage.place_next]
      omega
    · rw [here]
      exact nofun
  | start due =>
    have passed : ({ life with owner := .inside stage } : Lifecycle).Gated events := by
      apply gated.pass (.inside stage)
      · rfl
      · exact ⟨rfl, rfl, rfl, rfl⟩
      · exact fun _ => rfl
      · rw [here]
        cases stage <;> rfl
      · rw [place]
        exact Nat.le_succ _
      · rw [place]
        intro below _
        change stage.place + 1 ≤ 21
        omega
      · rw [here]
        exact nofun
    exact passed.snoc rfl rfl (told.start_allowed gated here due)

/-- A native call ends, and its result is settled. -/
theorem Lifecycle.Gated.atInside (gated : life.Gated events) (told : life.Told events) {stage : OwnerStage}
    (here : life.owner = .inside stage) {event : Option LifecycleEvent}
    (move : OwnerMove life (.inside stage) event after) : after.Gated (events ++ event.toList) := by
  have place : life.owner.place = stage.place + 1 := congrArg OwnerPoint.place here
  cases move with
  | @finish _ info outcome yields =>
    have passed : ({ life.settle info outcome stage with owner := stage.next } :
        Lifecycle).Gated events := by
      obtain ⟨even, -, -, -, twenty, -⟩ := stage.place_cases
      apply gated.pass stage.next
      · rfl
      · cases stage <;> exact ⟨rfl, rfl, rfl, rfl⟩
      · rw [place]
        cases stage with
        | init => exact fun past => absurd past (by decide)
        | _ => exact fun _ => rfl
      · rw [here]
        cases stage <;> rfl
      · rw [place, stage.place_next]
        exact Nat.le_succ _
      · rw [place, stage.place_next]
        omega
      · rw [here]
        exact nofun
    exact passed.snoc rfl rfl (told.finish_allowed here _)

/-- The owner takes the mutex only for an opening. -/
theorem Lifecycle.Gated.atLocking (gated : life.Gated events)
    (here : life.owner = .locking) {event : Option LifecycleEvent}
    (move : OwnerMove life .locking event after) : after.Gated (events ++ event.toList) := by
  have place : life.owner.place = OwnerPoint.locking.place := congrArg OwnerPoint.place here
  cases move with
  | bypass idle =>
    rw [Option.toList_none, List.append_nil]
    exact gated.pass .announcing rfl ⟨rfl, rfl, rfl, rfl⟩ (fun _ => rfl) (by rw [here]; rfl)
      (by rw [place]; decide) (fun _ _ => by decide) (by rw [here]; exact nofun)
  | lock due free =>
    rw [Option.toList_none, List.append_nil]
    exact gated.acquire free .stamping (by decide) (by rw [place]; decide) (by decide)
      (by rw [here]; exact nofun)

theorem Lifecycle.Gated.atStamping (gated : life.Gated events)
    (here : life.owner = .stamping) {event : Option LifecycleEvent}
    (move : OwnerMove life .stamping event after) : after.Gated (events ++ event.toList) := by
  have place : life.owner.place = OwnerPoint.stamping.place := congrArg OwnerPoint.place here
  cases move with
  | stamp =>
    rw [Option.toList_none, List.append_nil]
    exact gated.pass .opening rfl ⟨rfl, rfl, rfl, rfl⟩ (fun _ => rfl) (by rw [here]; rfl)
      (by rw [place]; decide) (fun _ _ => by decide) (by rw [here]; exact nofun)

/-- Publication opens after a sound setup. -/
theorem Lifecycle.Gated.atOpening (gated : life.Gated events) (told : life.Told events)
    (here : life.owner = .opening) {event : Option LifecycleEvent}
    (move : OwnerMove life .opening event after) : after.Gated (events ++ event.toList) := by
  have place : life.owner.place = OwnerPoint.opening.place := congrArg OwnerPoint.place here
  cases move with
  | opens =>
    rw [Option.toList_none, List.append_nil]
    obtain ⟨sound, serving⟩ := told.opening (by rw [place]; decide) (by rw [place]; decide)
    have set : life.initialized = true := by
      by_contra unset
      exact told.broken (by simpa using unset) (by rw [place]; decide) sound
    have setup := told.chain sound .setup (by decide) (by rw [place]; decide) fun _ => serving
    have passed : ({ life with owner := .unlocking } : Lifecycle).Gated events :=
      gated.pass .unlocking rfl ⟨rfl, rfl, rfl, rfl⟩ (fun _ => rfl) (by rw [here]; rfl)
        (by rw [place]; decide) (fun _ _ => by decide) (by rw [here]; exact nofun)
    exact ⟨passed.lock, fun _ => ⟨show 14 < 15 by decide, show 15 ≤ 21 by decide, set, setup⟩,
      fun _ _ => rfl, passed.counted, passed.legal, passed.result⟩

theorem Lifecycle.Gated.atUnlocking (gated : life.Gated events)
    (here : life.owner = .unlocking) {event : Option LifecycleEvent}
    (move : OwnerMove life .unlocking event after) : after.Gated (events ++ event.toList) := by
  have place : life.owner.place = OwnerPoint.unlocking.place := congrArg OwnerPoint.place here
  cases move with
  | unlock =>
    rw [Option.toList_none, List.append_nil]
    exact gated.release (by rw [here]; rfl) .announcing (by decide) (by rw [place]; decide)
      (fun _ => by decide) (by rw [here]; exact nofun)

theorem Lifecycle.Gated.atAnnouncing (gated : life.Gated events)
    (here : life.owner = .announcing) {event : Option LifecycleEvent}
    (move : OwnerMove life .announcing event after) : after.Gated (events ++ event.toList) := by
  have place : life.owner.place = OwnerPoint.announcing.place := congrArg OwnerPoint.place here
  cases move with
  | announce =>
    rw [Option.toList_none, List.append_nil]
    exact gated.pass (.entering .run) rfl ⟨rfl, rfl, rfl, rfl⟩ (fun _ => rfl) (by rw [here]; rfl)
      (by rw [place]; decide) (fun _ _ => by decide) (by rw [here]; exact nofun)

/-- Only an initialized runtime is torn down. -/
theorem Lifecycle.Gated.atClosing (gated : life.Gated events)
    (here : life.owner = .closing) {event : Option LifecycleEvent}
    (move : OwnerMove life .closing event after) : after.Gated (events ++ event.toList) := by
  have place : life.owner.place = OwnerPoint.closing.place := congrArg OwnerPoint.place here
  cases move with
  | leave unset =>
    rw [Option.toList_none, List.append_nil]
    exact gated.pass .finishing rfl ⟨rfl, rfl, rfl, rfl⟩ (fun _ => rfl) (by rw [here]; rfl)
      (by rw [place]; decide) (fun _ set => absurd (unset.symm.trans set) (by decide))
      (by rw [here]; exact nofun)
  | lockAgain set free =>
    rw [Option.toList_none, List.append_nil]
    exact gated.acquire free .shutting (by decide) (by rw [place]; decide) (by decide)
      (by rw [here]; exact nofun)

/-- Nobody publishes when the owner shuts the runtime. -/
theorem Lifecycle.Gated.atShutting (gated : life.Gated events)
    (here : life.owner = .shutting) {event : Option LifecycleEvent}
    (move : OwnerMove life .shutting event after) : after.Gated (events ++ event.toList) := by
  cases move with
  | shut =>
    rw [Option.toList_none, List.append_nil]
    obtain ⟨-, -, nobody⟩ := gated.alone (by rw [here]; rfl)
    constructor
    case lock =>
      apply gated.lock.keep
      intro holder
      cases holder with
      | owner =>
        rw [Lifecycle.inside, Lifecycle.inside, here]
        rfl
      | caller id => rfl
    case opened => exact fun impossible => nomatch impossible
    case publishing => exact fun id publishes => absurd ((nobody id).symm.trans publishes) (by decide)
    case counted => exact gated.counted
    case legal => exact gated.legal
    case result =>
      exact fun finished => absurd (gated.result finished).1 (by rw [here]; exact nofun)

theorem Lifecycle.Gated.atReleasing (gated : life.Gated events)
    (here : life.owner = .releasing) {event : Option LifecycleEvent}
    (move : OwnerMove life .releasing event after) : after.Gated (events ++ event.toList) := by
  have place : life.owner.place = OwnerPoint.releasing.place := congrArg OwnerPoint.place here
  cases move with
  | release =>
    rw [Option.toList_none, List.append_nil]
    exact gated.release (by rw [here]; rfl) .finishing (by decide) (by rw [place]; decide)
      (fun past => absurd past (by rw [place]; decide)) (by rw [here]; exact nofun)

theorem Lifecycle.Gated.atFinishing (gated : life.Gated events)
    (here : life.owner = .finishing) {event : Option LifecycleEvent}
    (move : OwnerMove life .finishing event after) : after.Gated (events ++ event.toList) := by
  have place : life.owner.place = OwnerPoint.finishing.place := congrArg OwnerPoint.place here
  cases move with
  | close =>
    rw [Option.toList_none, List.append_nil]
    have passed : ({ life with owner := .done } : Lifecycle).Gated events :=
      gated.pass .done rfl ⟨rfl, rfl, rfl, rfl⟩ (fun _ => rfl) (by rw [here]; rfl)
        (by rw [place]; decide) (fun past => absurd past (by rw [place]; decide))
        (by rw [here]; exact nofun)
    exact ⟨passed.lock, passed.opened, passed.publishing, passed.counted, passed.legal,
      fun _ => ⟨rfl, rfl⟩⟩

/-- The owner keeps the rules behind their gate. -/
theorem Lifecycle.Gated.ownerMove (gated : life.Gated events) (told : life.Told events)
    {event : Option LifecycleEvent} (move : OwnerMove life life.owner event after) :
    after.Gated (events ++ event.toList) := by
  cases here : life.owner with
  | entering => exact gated.atEntering told here (here ▸ move)
  | inside => exact gated.atInside told here (here ▸ move)
  | locking => exact gated.atLocking here (here ▸ move)
  | stamping => exact gated.atStamping here (here ▸ move)
  | opening => exact gated.atOpening told here (here ▸ move)
  | unlocking => exact gated.atUnlocking here (here ▸ move)
  | announcing => exact gated.atAnnouncing here (here ▸ move)
  | closing => exact gated.atClosing here (here ▸ move)
  | shutting => exact gated.atShutting here (here ▸ move)
  | releasing => exact gated.atReleasing here (here ▸ move)
  | finishing => exact gated.atFinishing here (here ▸ move)
  | done =>
    rw [here] at move
    cases move

end Gate

section Methods
variable {events events' : List LifecycleEvent} {life after : Lifecycle} {id : Nat}
  {caller : Caller}

/-- A goroutine moves nobody else across the boundary of the mutex. -/
theorem Lifecycle.inside_others (life : Lifecycle) (id : Nat) (caller : Caller) (holder : Holder)
    (differs : holder ≠ .caller id) :
    (life.moveCaller id caller).inside holder = life.inside holder := by
  cases holder with
  | owner => rfl
  | caller other =>
    have apart : other ≠ id := fun same => differs (by rw [same])
    exact congrArg Caller.inside (Function.update_of_ne apart _ _)

theorem Lifecycle.inside_self (life : Lifecycle) (id : Nat) (caller : Caller) :
    (life.moveCaller id caller).inside (.caller id) = caller.inside :=
  congrArg Caller.inside (Function.update_self _ _ _)

/-- A goroutine that stays on its side crosses no boundary. -/
theorem Lifecycle.inside_stays (same : caller.inside = (life.callers id).inside)
    (holder : Holder) : (life.moveCaller id caller).inside holder = life.inside holder := by
  by_cases mine : holder = .caller id
  · rw [mine, Lifecycle.inside_self]
    exact same
  · exact life.inside_others id caller holder mine

/-- A goroutine outside the mutex does not count as a publication. -/
theorem Lifecycle.publications_outside (elsewhere : life.rulesMu ≠ some (.caller id)) :
    (life.moveCaller id caller).publications = life.publications := by
  unfold Lifecycle.publications Lifecycle.moveCaller
  dsimp only
  cases holder : life.rulesMu with
  | none => rfl
  | some holding =>
    cases holding with
    | owner => rfl
    | caller other =>
      have differs : other ≠ id := by
        rintro rfl
        exact elsewhere holder
      dsimp only
      rw [Function.update_of_ne differs]

theorem Lifecycle.publications_inside (caller : Caller)
    (locked : life.rulesMu = some (.caller id)) :
    (life.moveCaller id caller).publications = caller.publications ∧
      life.publications = (life.callers id).publications := by
  unfold Lifecycle.publications Lifecycle.moveCaller
  dsimp only
  rw [locked]
  dsimp only
  rw [Function.update_self]
  exact ⟨rfl, rfl⟩

/-- A goroutine outside the mutex only moves itself. -/
theorem Lifecycle.Gated.roam (gated : life.Gated events)
    (outside : (life.callers id).inside = false) (stays : caller.inside = false) :
    (life.moveCaller id caller).Gated events := by
  constructor
  case lock => exact gated.lock.keep (Lifecycle.inside_stays (stays.trans outside.symm))
  case opened => exact gated.opened
  case publishing =>
    exact (Function.forall_update_iff life.callers
      (p := fun _ caller => caller.publishes = true → life.rules.rulesOpen = true)).mpr
      ⟨fun publishes => absurd (stays.symm.trans (Caller.inside_of_publishes publishes))
        (by decide), fun other _ => gated.publishing other⟩
  case counted =>
    have elsewhere : life.rulesMu ≠ some (.caller id) := by
      intro locked
      have inside : (life.callers id).inside = true := (gated.lock (.caller id)).mpr locked
      exact absurd (outside.symm.trans inside) (by decide)
    rw [Lifecycle.publications_outside elsewhere]
    exact gated.counted
  case legal => exact gated.legal
  case result => exact gated.result

/-- A goroutine works inside the mutex. -/
theorem Lifecycle.Gated.work (gated : life.Gated events)
    (inside : (life.callers id).inside = true) (stays : caller.inside = true) (rules : Runtime)
    (same : rules.rulesOpen = life.rules.rulesOpen)
    (publishes : caller.publishes = true → life.rules.rulesOpen = true)
    (grown : events ⊆ events') (counted : Publishing events' caller.publications)
    (legal : Legal LifecycleEvent.Allowed events') :
    ({ life.moveCaller id caller with rules := rules } : Lifecycle).Gated events' := by
  have locked := (gated.lock (.caller id)).mp inside
  constructor
  case lock => exact gated.lock.keep (Lifecycle.inside_stays (stays.trans inside.symm))
  case opened =>
    intro isOpen
    obtain ⟨above, below, set, setup⟩ := gated.opened (same.symm.trans isOpen)
    exact ⟨above, below, set, grown setup⟩
  case publishing =>
    exact (Function.forall_update_iff life.callers
      (p := fun _ caller => caller.publishes = true → rules.rulesOpen = true)).mpr
      ⟨fun begun => same.trans (publishes begun),
        fun other _ begun => same.trans (gated.publishing other begun)⟩
  case counted =>
    have count := (Lifecycle.publications_inside caller locked).1
    exact count.symm ▸ counted
  case legal => exact legal
  case result => exact gated.result

/-- A goroutine takes the free mutex. -/
theorem Lifecycle.Gated.enter (gated : life.Gated events) (free : life.rulesMu = none)
    (enters : caller.inside = true) (publishes : caller.publishes = false)
    (silent : caller.publications = 0) :
    ({ life.moveCaller id caller with rulesMu := some (.caller id) } : Lifecycle).Gated events := by
  have lock := gated.lock
  have counted := gated.counted
  rw [free] at lock
  rw [Lifecycle.publications, free] at counted
  constructor
  case lock => exact lock.acquire (life.inside_others id caller) ((life.inside_self id caller).trans enters)
  case opened => exact gated.opened
  case publishing =>
    exact (Function.forall_update_iff life.callers
      (p := fun _ caller => caller.publishes = true → life.rules.rulesOpen = true)).mpr
      ⟨fun begun => absurd (publishes.symm.trans begun) (by decide),
        fun other _ => gated.publishing other⟩
  case counted =>
    have count : (Function.update life.callers id caller id).publications = 0 := by
      rw [Function.update_self, silent]
    change Publishing events (Function.update life.callers id caller id).publications
    rw [count]
    exact counted
  case legal => exact gated.legal
  case result => exact gated.result

/-- A goroutine releases the mutex. -/
theorem Lifecycle.Gated.leave (gated : life.Gated events)
    (inside : (life.callers id).inside = true) (silent : (life.callers id).publications = 0) :
    ({ life.moveCaller id .idle with rulesMu := none } : Lifecycle).Gated events := by
  have locked := (gated.lock (.caller id)).mp inside
  have counted := gated.counted
  rw [(Lifecycle.publications_inside .idle locked).2, silent] at counted
  constructor
  case lock =>
    exact gated.lock.release (show life.inside (.caller id) = true from inside)
      (life.inside_others id .idle) (life.inside_self id .idle)
  case opened => exact gated.opened
  case publishing =>
    exact (Function.forall_update_iff life.callers
      (p := fun _ caller => caller.publishes = true → life.rules.rulesOpen = true)).mpr
      ⟨fun impossible => (by cases impossible), fun other _ => gated.publishing other⟩
  case counted => exact counted
  case legal => exact gated.legal
  case result => exact gated.result

/-- Open rules mean that the teardown has not begun. -/
theorem Lifecycle.Gated.untorn (gated : life.Gated events) (told : life.Told events)
    (isOpen : life.rules.rulesOpen = true) : .started .teardown ∉ events := by
  intro member
  have begun : 22 < life.owner.place := told.begun .teardown member
  have below := (gated.opened isOpen).2.1
  omega

/-- A rule method keeps the rules behind their gate. -/
theorem Lifecycle.Gated.methodStep (gated : life.Gated events) (told : life.Told events)
    {event : Option LifecycleEvent} (step : MethodStep life id (life.callers id) event after) :
    after.Gated (events ++ event.toList) := by
  have counting (inside : (life.callers id).inside = true) :
      Publishing events (life.callers id).publications := by
    have locked := (gated.lock (.caller id)).mp inside
    rw [← (Lifecycle.publications_inside .idle locked).2]
    exact gated.counted
  generalize here : life.callers id = point at step counting
  have inside (held : point.inside = true) : (life.callers id).inside = true := by
    rw [here]
    exact held
  have outside (free : point.inside = false) : (life.callers id).inside = false := by
    rw [here]
    exact free
  have allowed (begun : point.publishes = true) : life.rules.rulesOpen = true :=
    gated.publishing id (by rw [here]; exact begun)
  cases step
  case call | prepare | wait =>
    rw [Option.toList_none, List.append_nil]
    exact gated.roam (outside rfl) rfl
  case refuse =>
    have moved : (life.moveCaller id .idle).Gated events := gated.roam (outside rfl) rfl
    exact moved.snoc rfl rfl fun impossible => (by cases impossible)
  case lock operation free =>
    rw [Option.toList_none, List.append_nil]
    exact gated.enter free rfl rfl rfl
  case reject | accept | closed =>
    rw [Option.toList_none, List.append_nil]
    exact gated.work (inside rfl) rfl life.rules rfl (fun impossible => (by cases impossible))
      (fun _ member => member) (counting rfl) gated.legal
  case enter operation candidate isOpen =>
    have setup := (gated.opened isOpen).2.2.2
    exact gated.work (inside rfl) rfl life.rules rfl (fun _ => isOpen)
      (List.subset_append_left _ _) (publishing_start (counting rfl))
      (gated.legal.snoc ⟨setup, gated.untorn told isOpen, counting rfl⟩)
  case failed operation candidate error =>
    exact gated.work (inside rfl) rfl life.rules rfl (fun impossible => (by cases impossible))
      (List.subset_append_left _ _) (publishing_finish (counting rfl))
      (gated.legal.snoc ⟨gated.untorn told (allowed rfl), counting rfl⟩)
  case published operation candidate generation =>
    exact gated.work (inside rfl) rfl life.rules rfl (fun _ => allowed rfl)
      (List.subset_append_left _ _) (publishing_finish (counting rfl))
      (gated.legal.snoc ⟨gated.untorn told (allowed rfl), counting rfl⟩)
  case store operation candidate generation =>
    rw [Option.toList_none, List.append_nil]
    exact gated.work (inside rfl) rfl _ rfl (fun _ => allowed rfl) (fun _ member => member)
      (counting rfl) gated.legal
  case stamp operation candidate generation =>
    rw [Option.toList_none, List.append_nil]
    exact gated.work (inside rfl) rfl _ rfl (fun _ => allowed rfl) (fun _ member => member)
      (counting rfl) gated.legal
  case unlock operation published result =>
    have left := gated.leave (inside rfl) (by rw [here]; rfl)
    refine left.snoc rfl rfl fun success => ?_
    cases result with
    | error => exact nomatch success
    | ok => exact gated.untorn told (allowed rfl)

/-- A method step changes nothing of the owner. -/
theorem MethodStep.same {point : Caller} {event : Option LifecycleEvent}
    (step : MethodStep life id point event after) :
    after = { life with
      rulesMu := after.rulesMu, rules := after.rules, callers := after.callers } := by
  cases step <;> rfl

theorem Lifecycle.Told.methodStep (told : life.Told events) {point : Caller}
    {event : Option LifecycleEvent} (step : MethodStep life id point event after) :
    after.Told (events ++ event.toList) := by
  have moved := told.same step.same
  cases step
  case refuse | enter | failed | published | unlock => exact moved.snoc nofun nofun
  all_goals
    rw [Option.toList_none, List.append_nil]
    exact moved

/-- This is the invariant of one runtime. -/
structure Lifecycle.Sound (events : List LifecycleEvent) (life : Lifecycle) : Prop where
  told : life.Told events
  gated : life.Gated events

theorem Lifecycle.Sound.step (sound : life.Sound events) {event : Option LifecycleEvent}
    (step : LifecycleStep life event after) : after.Sound (events ++ event.toList) := by
  obtain ⟨told, gated⟩ := sound
  cases step with
  | owner move => exact ⟨told.ownerMove move, gated.ownerMove told move⟩
  | caller id step => exact ⟨told.methodStep step, gated.methodStep told step⟩
  | stop => exact ⟨told.snoc nofun nofun, gated.snoc rfl rfl trivial⟩

/-- A runtime starts without events. -/
theorem Lifecycle.start_sound (config : Config) : (Lifecycle.start config).Sound [] := by
  constructor
  case told =>
    constructor
    case clean =>
      exact ⟨fun ⟨_, impossible⟩ => (by cases impossible), fun broken => absurd ⟨rfl, rfl⟩ broken⟩
    case chain => exact fun _ stage _ past => absurd past (Nat.not_lt_zero _)
    case initialized =>
      exact ⟨fun impossible => (by cases impossible), fun impossible => (by cases impossible)⟩
    case broken => exact fun _ past => absurd past (Nat.not_lt_zero _)
    case opening => exact fun past => absurd past (Nat.not_lt_zero _)
    case closing => exact fun past => absurd past (Nat.not_lt_zero _)
    case untorn => exact fun _ => rfl
    case torn => exact fun past => absurd past (Nat.not_lt_zero _)
    case joined => exact fun past => absurd past (Nat.not_lt_zero _)
    case inside => exact nofun
    all_goals exact fun _ => nofun
  case gated =>
    constructor
    case lock =>
      intro holder
      cases holder <;> simp [Lifecycle.inside, Lifecycle.start, Caller.inside, OwnerPoint.holds,
        OwnerPoint.place, OwnerStage.place]
    case opened => exact nofun
    case publishing => exact fun _ => nofun
    case counted => exact rfl
    case legal => exact Legal.nil
    case result => exact nofun

end Methods

/-- The call of `Start` is between taking and releasing the process lock. -/
def Starter.inside : Starter → Bool
  | .idle | .called _ | .locking _ => false
  | _ => true

def Starter.attempts : Starter → Nat
  | .creating _ => 1
  | _ => 0

/-- The process lock lets at most one call create a runtime. -/
def Process.attempts (process : Process) : Nat :=
  match process.lifecycleMu with
  | some id => (process.starters id).attempts
  | none => 0

/-- These are the events of one runtime. -/
def Process.events (process : Process) (index : Nat) : List LifecycleEvent :=
  (process.trace.filter fun entry => entry.1 = index).map Prod.snd

/-- This is the invariant of the process. -/
structure Process.Sound (process : Process) : Prop where
  lock : Exclusive process.lifecycleMu fun id => (process.starters id).inside
  single : process.runtimes.length + process.attempts = if process.attempted then 1 else 0
  indexed : ∀ entry ∈ process.trace, entry.1 < process.runtimes.length
  sound : ∀ (index : Nat) (life : Lifecycle), process.runtimes[index]? = some life →
    life.Sound (process.events index)

/-- The native calls of a process are legal, a probe serves nothing, and a finished runtime has torn
down exactly what it initialized and reports exactly the failures. -/
structure Process.LegalCalls (process : Process) : Prop where
  single : process.runtimes.length ≤ 1
  legal : Legal LifecycleEvent.Allowed (process.trace.map Prod.snd)
  probe : ∀ index life stage, process.runtimes[index]? = some life →
    .started stage ∈ process.events index → stage.serves = true → life.config.probe = false
  finished : ∀ index life, process.runtimes[index]? = some life → life.done = true →
    (∀ stage, .started stage ∈ process.events index →
      ∃ success, .finished stage success ∈ process.events index) ∧
    (.started .teardown ∈ process.events index ↔
      .finished .init true ∈ process.events index) ∧
    (life.err = none ↔ ¬Failed (process.events index))

section Processes
variable {process after : Process} {id : Nat}

/-- A call of `Start` on its side of the lock only moves itself. -/
theorem Process.Sound.roam (sound : process.Sound) {starter : Starter}
    (side : starter.inside = (process.starters id).inside)
    (attempted : starter.attempts = (process.starters id).attempts) :
    (process.moveStarter id starter).Sound := by
  have others (other : Nat) (differs : other ≠ id) :
      Function.update process.starters id starter other = process.starters other :=
    Function.update_of_ne differs _ _
  have everywhere (other : Nat) :
      (Function.update process.starters id starter other).inside =
          (process.starters other).inside ∧
        (Function.update process.starters id starter other).attempts =
          (process.starters other).attempts := by
    by_cases same : other = id
    · rw [same, Function.update_self]
      exact ⟨side, attempted⟩
    · rw [others other same]
      exact ⟨rfl, rfl⟩
  constructor
  case lock => exact sound.lock.keep fun other => (everywhere other).1
  case single =>
    have same : (process.moveStarter id starter).attempts = process.attempts := by
      unfold Process.attempts Process.moveStarter
      dsimp only
      cases process.lifecycleMu with
      | none => rfl
      | some holder => exact (everywhere holder).2
    rw [same]
    exact sound.single
  case indexed => exact sound.indexed
  case sound => exact sound.sound

/-- The call in the lock decides how many runtimes are about to be created. -/
theorem Process.Sound.held (sound : process.Sound)
    (inside : (process.starters id).inside = true) :
    process.lifecycleMu = some id ∧ process.attempts = (process.starters id).attempts := by
  have locked := (sound.lock id).mp inside
  refine ⟨locked, ?_⟩
  rw [Process.attempts, locked]

theorem Process.attempts_moved (locked : process.lifecycleMu = some id) (next : Starter)
    (attempted : Bool) (runtimes : List Lifecycle) :
    ({ process.moveStarter id next with
      attempted := attempted
      runtimes := runtimes } : Process).attempts = next.attempts := by
  unfold Process.attempts Process.moveStarter
  dsimp only
  rw [locked]
  dsimp only
  rw [Function.update_self]

/-- A process without runtimes has no events. -/
theorem Process.Sound.silent (sound : process.Sound) (none : process.runtimes.length = 0) :
    process.trace = [] := by
  cases empty : process.trace with
  | nil => rfl
  | cons entry rest =>
    have index := sound.indexed entry (by rw [empty]; exact List.mem_cons_self)
    omega

/-- Every step of `Start` keeps the invariant. -/
theorem Process.Sound.startStep (sound : process.Sound)
    (step : StartStep process id (process.starters id) after) : after.Sound := by
  have single := sound.single
  generalize here : process.starters id = point at step
  have others (next : Starter) (other : Nat) (differs : other ≠ id) :
      (Function.update process.starters id next other).inside =
        (process.starters other).inside :=
    congrArg Starter.inside (Function.update_of_ne differs _ _)
  have mine (next : Starter) : Function.update process.starters id next id = next :=
    Function.update_self _ _ _
  have stays (next : Starter) (side : next.inside = point.inside) (other : Nat) :
      (Function.update process.starters id next other).inside =
        (process.starters other).inside := by
    by_cases same : other = id
    · rw [same, here, ← side]
      exact congrArg Starter.inside (mine next)
    · exact others next other same
  have held (inside : point.inside = true) :
      process.lifecycleMu = some id ∧ process.attempts = point.attempts := by
    rw [← here] at inside ⊢
    exact sound.held inside
  cases step
  case call | refuse | accept | repeated =>
    apply sound.roam <;> rw [here] <;> rfl
  case lock config free =>
    have lock := sound.lock
    rw [free] at lock
    rw [Process.attempts, free] at single
    constructor
    case lock => exact lock.acquire (others (.checking config)) (congrArg Starter.inside (mine _))
    case single =>
      have none : (Function.update process.starters id (.checking config) id).attempts = 0 :=
        congrArg Starter.attempts (mine _)
      change process.runtimes.length +
        (Function.update process.starters id (.checking config) id).attempts = _
      rw [none]
      exact single
    case indexed => exact sound.indexed
    case sound => exact sound.sound
  case attempt config fresh =>
    obtain ⟨locked, attempts⟩ := held rfl
    rw [fresh, attempts] at single
    constructor
    case lock => exact sound.lock.keep (stays (.creating config) rfl)
    case single =>
      have moved := Process.attempts_moved locked (.creating config) true process.runtimes
      exact (congrArg (process.runtimes.length + ·) moved).trans (congrArg (· + 1) single)
    case indexed => exact sound.indexed
    case sound => exact sound.sound
  case create config =>
    obtain ⟨locked, attempts⟩ := held rfl
    rw [attempts] at single
    change process.runtimes.length + 1 = _ at single
    have first : process.runtimes.length = 0 := by
      split_ifs at single
      omega
    have silent := sound.silent first
    constructor
    case lock => exact sound.lock.keep (stays (.returning (.ok ())) rfl)
    case single =>
      have moved := Process.attempts_moved locked (.returning (.ok ())) process.attempted
        (process.runtimes ++ [.start config])
      refine (congrArg ((process.runtimes ++ [Lifecycle.start config]).length + ·) moved).trans ?_
      rw [List.length_append]
      exact single
    case indexed =>
      intro entry member
      change entry ∈ process.trace at member
      rw [silent] at member
      cases member
    case sound =>
      intro index life found
      have events : process.events index = [] := by
        rw [Process.events, silent]
        rfl
      have stored : life = Lifecycle.start config := by
        rw [List.length_eq_zero_iff.mp first] at found
        change [Lifecycle.start config][index]? = some life at found
        exact (List.mem_singleton.mp (List.mem_of_getElem? found))
      rw [stored]
      exact events.symm ▸ Lifecycle.start_sound config
  case unlock result =>
    obtain ⟨locked, attempts⟩ := held rfl
    rw [attempts] at single
    constructor
    case lock =>
      exact sound.lock.release (by rw [here]; rfl) (others .idle)
        (congrArg Starter.inside (mine _))
    case single => exact single
    case indexed => exact sound.indexed
    case sound => exact sound.sound

/-- The events of a runtime grow with its own steps only. -/
theorem Process.events_grow (index other : Nat) (event : Option LifecycleEvent)
    (runtimes : List Lifecycle) :
    ({ process with
      runtimes := runtimes
      trace := process.trace ++ event.toList.map (Prod.mk index) } : Process).events other =
      if index = other then process.events other ++ event.toList else process.events other := by
  unfold Process.events
  cases event with
  | none => simp
  | some event =>
    by_cases same : index = other <;> simp [List.filter_append, same]

/-- Every step of the process keeps the invariant. -/
theorem Process.Sound.step (sound : process.Sound) {thread : ProcessThread}
    (step : ProcessStep process thread after) : after.Sound := by
  cases step with
  | starter id step => exact sound.startStep step
  | @runtime index life next event found step =>
    have bound := (List.getElem?_eq_some_iff.mp found).1
    constructor
    case lock => exact sound.lock
    case single =>
      change (process.runtimes.set index next).length + process.attempts = _
      rw [List.length_set]
      exact sound.single
    case indexed =>
      intro entry member
      change entry.1 < (process.runtimes.set index next).length
      rw [List.length_set]
      rcases List.mem_append.mp member with old | new
      · exact sound.indexed entry old
      · obtain ⟨last, -, rfl⟩ := List.mem_map.mp new
        exact bound
    case sound =>
      intro other life' found'
      rw [Process.events_grow]
      by_cases same : index = other
      · obtain rfl := same
        rw [if_pos rfl]
        change (process.runtimes.set index next)[index]? = some life' at found'
        rw [List.getElem?_set_self bound] at found'
        obtain rfl := Option.some.inj found'
        exact (sound.sound index life found).step step
      · rw [if_neg same]
        change (process.runtimes.set index next)[other]? = some life' at found'
        rw [List.getElem?_set_ne same] at found'
        exact sound.sound other life' found'

/-- The events of the process are those of its only runtime. -/
theorem Process.Sound.legal (sound : process.Sound) :
    Legal LifecycleEvent.Allowed (process.trace.map Prod.snd) := by
  have single : process.runtimes.length ≤ 1 := by
    have := sound.single
    split_ifs at this <;> omega
  cases stored : process.runtimes with
  | nil =>
    rw [sound.silent (by rw [stored]; rfl)]
    exact Legal.nil
  | cons life rest =>
    have all : process.trace.filter (fun entry => entry.1 = 0) = process.trace := by
      apply List.filter_eq_self.mpr
      intro entry member
      have := sound.indexed entry member
      exact decide_eq_true (by omega)
    have legal := (sound.sound 0 life (by rw [stored]; rfl)).gated.legal
    rw [Process.events, all] at legal
    exact legal

/-- In every interleaving the process makes only legal native calls. -/
theorem nativeCalls_legal (reachable : Reachable Process.Fresh ProcessStep process) :
    process.LegalCalls := by
  have sound : process.Sound := by
    refine reachable.invariant Process.Sound ?_ fun _ _ _ sound step => sound.step step
    rintro start rfl
    constructor
    case lock => exact fun other => ⟨fun impossible => (nomatch impossible), fun held => (nomatch held)⟩
    case single => rfl
    case indexed => exact fun entry impossible => absurd impossible List.not_mem_nil
    case sound => exact fun index life impossible => nomatch impossible
  constructor
  case single =>
    have := sound.single
    split_ifs at this <;> omega
  case legal => exact sound.legal
  case probe =>
    intro index life stage found begun serves
    exact (sound.sound index life found).told.served stage begun serves
  case finished =>
    intro index life found done
    obtain ⟨told, gated⟩ := sound.sound index life found
    obtain ⟨owner, err⟩ := gated.result done
    have place : life.owner.place = 30 := congrArg OwnerPoint.place owner
    have ends (stage : OwnerStage) (begun : .started stage ∈ process.events index) :
        ∃ success, .finished stage success ∈ process.events index :=
      (told.returned stage begun).resolve_left (by rw [owner]; exact nofun)
    refine ⟨ends, ⟨fun begun => ?_, fun initialized => ?_⟩, ?_⟩
    · obtain ⟨earlier, later, split⟩ := List.append_of_mem begun
      have member := (gated.legal earlier _ later split).2.1
      rw [split]
      exact List.mem_append_left _ member
    · exact (told.torn (by rw [place]; decide) (told.initialized.mpr initialized)).1
    · have joined := told.joined (by rw [place]; decide)
      rw [told.clean, err, not_not]
      exact ⟨fun sound => ⟨sound, joined sound⟩, And.left⟩

/-- The only runtime of a process runs in it. -/
theorem Process.lift (reachable : Reachable Process.Fresh ProcessStep process)
    {life next : Lifecycle} {labels : List (Option LifecycleEvent)}
    (alone : process.runtimes = [life]) (run : Run LifecycleStep life labels next) :
    ∃ process' : Process, Reachable Process.Fresh ProcessStep process' ∧
      process'.runtimes = [next] ∧
      process'.trace = process.trace ++ (labels.flatMap Option.toList).map (Prod.mk 0) := by
  induction run with
  | refl => exact ⟨process, reachable, alone, by simp⟩
  | @snoc labels middle finish event _ last ih =>
    obtain ⟨process', ⟨start, threads, fresh, earlier⟩, runtimes, trace⟩ := ih
    refine ⟨_, ⟨start, _, fresh, earlier.snoc (.runtime 0 (by rw [runtimes]; rfl) last)⟩, ?_, ?_⟩
    · rw [runtimes]
      rfl
    · rw [trace]
      simp [List.append_assoc]

/-- A native call may succeed. -/
theorem Lifecycle.yields_none {life : Lifecycle} {stage : OwnerStage}
    (native : stage ≠ .checkLcores) : life.Yields none stage := by
  cases stage <;> first | exact ⟨none, rfl⟩ | exact absurd rfl native

theorem Lifecycle.yields_equal {life : Lifecycle}
    (same : life.info.lcoreCount = life.config.workers) : life.Yields none .checkLcores := by
  rw [Lifecycle.Yields, if_neg (not_not.mpr same)]

/-- A second call of `Start` is refused, and one publication comes in while the first runs. -/
theorem nativeCalls_legal_service : ∃ process : Process,
    process.trace.length = 24 ∧ process.runtimes.length ≤ 1 ∧
      Legal LifecycleEvent.Allowed (process.trace.map Prod.snd) ∧
      (0, .publishStarted 5) ∈ process.trace ∧ .started .teardown ∈ process.events 0 ∧
      ¬Failed (process.events 0) := by
  let config : Config := ⟨["--no-pci"], "rx", "tx", 1, false, ⟨[], []⟩⟩
  have valid : validate config.withWorkers = .ok () := by
    decide
  have started : ∃ process : Process, Reachable Process.Fresh ProcessStep process ∧
      process.runtimes = [Lifecycle.start config] ∧ process.trace = [] := by
    exact ⟨_, ⟨_, _, rfl, Run.refl
      |>.snoc (.starter 0 (.call config))
      |>.snoc (.starter 0 (.accept valid))
      |>.snoc (.starter 0 (.lock rfl))
      |>.snoc (.starter 0 (.attempt rfl))
      |>.snoc (.starter 0 .create)
      |>.snoc (.starter 0 .unlock)
      |>.snoc (.starter 1 (.call config))
      |>.snoc (.starter 1 (.accept valid))
      |>.snoc (.starter 1 (.lock rfl))
      |>.snoc (.starter 1 (.repeated rfl))
      |>.snoc (.starter 1 .unlock)⟩, rfl, rfl⟩
  have served : ∃ life labels, Run LifecycleStep (Lifecycle.start config) labels life ∧
      life.done = true ∧ life.err = none ∧ (labels.flatMap Option.toList).length = 24 ∧
      .publishStarted 5 ∈ labels.flatMap Option.toList ∧
      .finished .init true ∈ labels.flatMap Option.toList := by
    refine ⟨_, _, Run.refl
      |>.snoc (.owner (.start rfl))
      |>.snoc (.owner (.finish ⟨0⟩ (Lifecycle.yields_none nofun)))
      |>.snoc (.owner (.start rfl))
      |>.snoc (.owner (.finish ⟨1⟩ (Lifecycle.yields_none nofun)))
      |>.snoc (.owner (.start rfl))
      |>.snoc (.owner (.finish ⟨1⟩ (Lifecycle.yields_equal rfl)))
      |>.snoc (.owner (.start rfl))
      |>.snoc (.owner (.finish ⟨1⟩ (Lifecycle.yields_none nofun)))
      |>.snoc (.owner (.start rfl))
      |>.snoc (.owner (.finish ⟨1⟩ (Lifecycle.yields_none nofun)))
      |>.snoc (.owner (.start rfl))
      |>.snoc (.owner (.finish ⟨1⟩ (Lifecycle.yields_none nofun)))
      |>.snoc (.owner (.lock rfl rfl))
      |>.snoc (.owner .stamp)
      |>.snoc (.owner .opens)
      |>.snoc (.owner .unlock)
      |>.snoc (.owner .announce)
      |>.snoc (.owner (.start rfl))
      |>.snoc (.caller 5 (.call (.replaceRules ⟨[], []⟩)))
      |>.snoc (.caller 5 (.prepare rfl))
      |>.snoc (.caller 5 (.wait rfl))
      |>.snoc (.caller 5 (.lock rfl))
      |>.snoc (.caller 5 (.accept rfl))
      |>.snoc (.caller 5 (.enter rfl))
      |>.snoc .stop
      |>.snoc (.owner (.finish ⟨1⟩ (Lifecycle.yields_none nofun)))
      |>.snoc (.caller 5 (.published 2))
      |>.snoc (.caller 5 .store)
      |>.snoc (.caller 5 .stamp)
      |>.snoc (.caller 5 .unlock)
      |>.snoc (.owner (.lockAgain rfl rfl))
      |>.snoc (.owner .shut)
      |>.snoc (.owner (.start rfl))
      |>.snoc (.owner (.finish ⟨1⟩ (Lifecycle.yields_none nofun)))
      |>.snoc (.owner (.start rfl))
      |>.snoc (.owner (.finish ⟨1⟩ (Lifecycle.yields_none nofun)))
      |>.snoc (.owner (.start rfl))
      |>.snoc (.owner (.finish ⟨1⟩ (Lifecycle.yields_none nofun)))
      |>.snoc (.owner .release)
      |>.snoc (.owner .close), rfl, rfl, ?_, ?_, ?_⟩
    · decide
    · decide
    · decide
  obtain ⟨process, reachable, alone, silent⟩ := started
  obtain ⟨life, labels, run, done, err, length, published, initialized⟩ := served
  obtain ⟨process', reachable', runtimes, trace⟩ := Process.lift reachable alone run
  rw [silent, List.nil_append] at trace
  have calls := nativeCalls_legal reachable'
  have events : process'.events 0 = labels.flatMap Option.toList := by
    rw [Process.events, trace]
    simp [List.filter_map, Function.comp_def]
  obtain ⟨-, torn, reports⟩ := calls.finished 0 life (by rw [runtimes]; rfl) done
  refine ⟨process', ?_, calls.single, calls.legal, ?_, torn.mpr ?_, reports.mp err⟩
  · rw [trace, List.length_map]
    exact length
  · rw [trace]
    exact List.mem_map.mpr ⟨_, published, rfl⟩
  · rw [events]
    exact initialized

end Processes

end FlowRouter.Control
