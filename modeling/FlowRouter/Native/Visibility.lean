import FlowRouter.Native.Reclamation

namespace FlowRouter.Native
open Quiescence Transition

variable {tables : RteTables} {capacity : Nat}

/-- A load and a lookup use a generation in one burst of one worker. -/
def RuleEvent.use : RuleEvent → Option (Nat × Nat × Option Nat)
  | .load worker burst generation => some (worker, burst, generation)
  | .lookup worker burst generation => some (worker, burst, generation)
  | .returned _ _ => none

/-- No use goes back behind an earlier use of its worker or behind a publication that has
returned. -/
def RuleEvent.Precedes (earlier later : RuleEvent) : Prop :=
  ∀ worker burst generation, later.use = some (worker, burst, some generation) →
    (∀ burst' generation', earlier.use = some (worker, burst', some generation') →
      burst' ≤ burst ∧ generation' ≤ generation ∧
        (burst' = burst → generation' = generation)) ∧
    ∀ caller published, earlier = .returned caller published → published ≤ generation

/-- The history stays below the marks, and each burst in progress is its last word. -/
structure Concurrent.History (state : Concurrent tables) (mark floor : Nat) : Prop where
  used : ∀ event ∈ state.log, ∀ worker burst generation,
    event.use = some (worker, burst, generation) →
      burst ≤ state.bursts worker ∧ ∃ found, generation = some found ∧ found ≤ mark + 1
  current : ∀ worker id packets, state.workers worker = .working (some id) packets →
    ∀ event ∈ state.log, ∀ burst generation,
      event.use = some (worker, burst, some generation) →
        generation ≤ id + 1 ∧ (burst = state.bursts worker → generation = id + 1)
  returned : ∀ caller generation, .returned caller generation ∈ state.log →
    generation ≤ floor + 1
  ordered : state.log.Pairwise RuleEvent.Precedes

section Steps
variable {before after : Concurrent tables} {mark floor mark' floor' : Nat}

/-- A step that records nothing may end bursts but begins none. -/
theorem Concurrent.History.silent (history : before.History mark floor)
    (forward : mark ≤ mark' ∧ floor ≤ floor')
    (same : after.log = before.log ∧ after.bursts = before.bursts)
    (working : ∀ worker snapshot packets, after.workers worker = .working snapshot packets →
      before.workers worker = .working snapshot packets) : after.History mark' floor' := by
  obtain ⟨log, bursts⟩ := same
  constructor
  case used =>
    rw [log, bursts]
    intro event member worker burst generation uses
    obtain ⟨counted, found, same, below⟩ := history.used event member worker burst generation uses
    exact ⟨counted, found, same, by omega⟩
  case current =>
    rw [log, bursts]
    exact fun worker id packets here => history.current worker id packets (working _ _ _ here)
  case returned =>
    rw [log]
    intro caller generation member
    have := history.returned caller generation member
    omega
  case ordered => rw [log]; exact history.ordered

/-- A publication that returns has outlived its grace period. -/
theorem Concurrent.History.publish (history : before.History mark floor) {caller generation : Nat}
    (passed : generation ≤ floor + 1)
    (same : after.log = before.log ++ [.returned caller generation] ∧
      after.bursts = before.bursts ∧ after.workers = before.workers) :
    after.History mark floor := by
  obtain ⟨log, bursts, workers⟩ := same
  constructor
  case used =>
    rw [log, bursts]
    intro event member worker burst found uses
    rcases List.mem_append.mp member with earlier | last
    · exact history.used event earlier worker burst found uses
    · rw [List.mem_singleton.mp last] at uses
      exact nomatch uses
  case current =>
    rw [log, bursts, workers]
    intro worker id packets here event member burst found uses
    rcases List.mem_append.mp member with earlier | last
    · exact history.current worker id packets here event earlier burst found uses
    · rw [List.mem_singleton.mp last] at uses
      exact nomatch uses
  case returned =>
    rw [log]
    intro other found member
    rcases List.mem_append.mp member with earlier | last
    · exact history.returned other found earlier
    · obtain ⟨-, rfl⟩ := RuleEvent.returned.inj (List.mem_singleton.mp last)
      exact passed
  case ordered =>
    rw [log]
    refine List.pairwise_append.mpr ⟨history.ordered, List.pairwise_singleton _ _, ?_⟩
    intro earlier _ later last worker burst found uses
    rw [List.mem_singleton.mp last] at uses
    exact nomatch uses

/-- A use of a generation that is neither below the history of its worker nor below the floor
extends the history. -/
theorem Concurrent.History.extend (history : before.History mark floor) {event : RuleEvent}
    (worker burst id : Nat) (event_use : event.use = some (worker, burst, some (id + 1)))
    (above : floor ≤ id) (below : id ≤ mark)
    (newest : ∀ earlier ∈ before.log, ∀ burst' generation,
      earlier.use = some (worker, burst', some generation) →
        burst' ≤ burst ∧ generation ≤ id + 1 ∧ (burst' = burst → generation = id + 1))
    (log : after.log = before.log ++ [event]) (counted : after.bursts worker = burst)
    (bursts : ∀ other, other ≠ worker → after.bursts other = before.bursts other)
    (here : ∀ id' packets, after.workers worker = .working (some id') packets → id' = id)
    (workers : ∀ other, other ≠ worker → after.workers other = before.workers other) :
    after.History mark floor := by
  constructor
  case used =>
    rw [log]
    intro other member worker' burst' generation uses
    rcases List.mem_append.mp member with earlier | last
    · obtain ⟨bounded, found, rfl, small⟩ := history.used other earlier worker' burst' generation uses
      refine ⟨?_, found, rfl, small⟩
      by_cases same : worker' = worker
      · subst same
        rw [counted]
        exact (newest other earlier burst' found uses).1
      · rw [bursts worker' same]
        exact bounded
    · rw [List.mem_singleton.mp last, event_use] at uses
      obtain ⟨rfl, rfl, rfl⟩ : worker = worker' ∧ burst = burst' ∧ some (id + 1) = generation := by
        simpa using uses
      exact ⟨Nat.le_of_eq counted.symm, id + 1, rfl, by omega⟩
  case current =>
    rw [log]
    intro worker' id' packets working other member burst' generation uses
    by_cases same : worker' = worker
    · subst same
      rw [here id' packets working, counted]
      rcases List.mem_append.mp member with earlier | last
      · exact (newest other earlier burst' generation uses).2
      · rw [List.mem_singleton.mp last, event_use] at uses
        obtain ⟨-, rfl⟩ : burst = burst' ∧ id + 1 = generation := by simpa using uses
        exact ⟨le_rfl, fun _ => rfl⟩
    · rw [workers worker' same] at working
      rw [bursts worker' same]
      rcases List.mem_append.mp member with earlier | last
      · exact history.current worker' id' packets working other earlier burst' generation uses
      · rw [List.mem_singleton.mp last, event_use] at uses
        exact absurd (congrArg Prod.fst (Option.some.inj uses)).symm same
  case returned =>
    rw [log]
    intro caller generation member
    rcases List.mem_append.mp member with earlier | last
    · exact history.returned caller generation earlier
    · rw [← List.mem_singleton.mp last] at event_use
      exact nomatch event_use
  case ordered =>
    rw [log]
    refine List.pairwise_append.mpr ⟨history.ordered, List.pairwise_singleton _ _, ?_⟩
    intro earlier member later last worker' burst' generation uses
    rw [List.mem_singleton.mp last, event_use] at uses
    obtain ⟨rfl, rfl, rfl⟩ : worker = worker' ∧ burst = burst' ∧ id + 1 = generation := by
      simpa using uses
    refine ⟨newest earlier member, fun caller published same => ?_⟩
    have := history.returned caller published (same ▸ member)
    omega

/-- A live snapshot shows its generation. -/
theorem Concurrent.generationOf_live {id : Nat} {content : DpRuleSnapshot tables}
    (stored : before.heap id = some content) (live : before.freed id = 0) :
    before.generationOf (some id) = some content.generation := by
  change (if before.freed id = 0 then (before.heap id).map DpRuleSnapshot.generation else none) = _
  rw [if_pos live, stored, Option.map_some]

/-- A load finds the newest generation. -/
theorem Concurrent.Sound.newest_of_alive (sound : before.Sound capacity mark floor) {worker : Nat}
    (alive : (before.workers worker).alive = true) :
    before.activeRules = some mark ∧ before.generationOf (some mark) = some (mark + 1) := by
  obtain ⟨id, active⟩ :=
    Option.ne_none_iff_exists'.mp (sound.ordered.serving_of_alive alive).1.2
  obtain ⟨rfl, live⟩ : id = mark ∧ before.freed id = 0 := sound.safe.active id active
  obtain ⟨content, stored⟩ :=
    Option.ne_none_iff_exists'.mp (sound.present id (sound.newest id active))
  refine ⟨active, ?_⟩
  rw [Concurrent.generationOf_live stored live, (sound.stored id content stored).2]

/-- A worker step keeps the history below the marks. -/
theorem Concurrent.History.workerStep (history : before.History mark floor)
    (sound : before.Sound capacity mark floor) {worker : Nat}
    (step : WorkerStep capacity before worker (before.workers worker) after) :
    after.History mark floor := by
  have alive := step.frame.alive
  have others (other : Nat) (differs : other ≠ worker) :
      after.workers other = before.workers other := (step.frame.others other differs).1
  have idle (log : after.log = before.log) (bursts : after.bursts = before.bursts)
      (rests : ∀ snapshot packets, after.workers worker ≠ .working snapshot packets) :
      after.History mark floor := by
    refine history.silent ⟨le_rfl, le_rfl⟩ ⟨log, bursts⟩ fun other snapshot packets working => ?_
    by_cases same : other = worker
    · exact absurd (same ▸ working) (rests snapshot packets)
    · exact others other same ▸ working
  have moved := before.moveWorker_self worker
  generalize here : before.workers worker = point at step
  cases step
  case load packets =>
    obtain ⟨active, generation⟩ := sound.newest_of_alive alive
    refine history.extend worker (before.bursts worker + 1) mark ?_ sound.safe.floor le_rfl ?_ rfl
      (Function.update_self _ _ _) (fun other differs => Function.update_of_ne differs _ _) ?_ others
    · rw [active, generation]
      rfl
    · intro earlier member burst generation uses
      obtain ⟨bounded, found, same, small⟩ :=
        history.used earlier member worker burst (some generation) uses
      obtain rfl := Option.some.inj same
      exact ⟨by omega, small, fun same => absurd bounded (by omega)⟩
    · intro id packets working
      have loaded : before.activeRules = some id :=
        (Worker.working.inj ((moved _).symm.trans working)).1
      exact Option.some.inj (loaded.symm.trans active)
  case lookup snapshot packets =>
    obtain ⟨id, content, rfl, stored, live, generation, above, below⟩ := sound.held here
    refine history.extend worker (before.bursts worker) id ?_ above below ?_ rfl rfl
      (fun _ _ => rfl) ?_ others
    · rw [Concurrent.generationOf_live stored live, generation]
      rfl
    · intro earlier member burst generation uses
      obtain ⟨bounded, -⟩ := history.used earlier member worker burst (some generation) uses
      exact ⟨bounded, history.current worker id _ here earlier member burst generation uses⟩
    · intro other packets working
      exact (Option.some.inj (Worker.working.inj ((moved _).symm.trans working)).1).symm
  all_goals
    exact idle rfl rfl fun snapshot packets working => nomatch (moved _).symm.trans working

/-- A publisher step records a generation behind its grace period or nothing. -/
theorem Concurrent.History.publisherStep (history : before.History mark floor)
    (sound : before.Sound capacity mark floor) {caller : Nat}
    (step : PublisherStep capacity before caller (before.publishers caller) after) :
    after.History mark floor := by
  generalize here : before.publishers caller = point at step
  cases step
  case unlock status published =>
    obtain ⟨-, ⟨-, passed⟩, -⟩ := sound.here here rfl
    cases published with
    | none =>
      exact history.silent ⟨le_rfl, le_rfl⟩ ⟨List.append_nil _, rfl⟩ fun _ _ _ working => working
    | some generation => exact history.publish (passed generation rfl) ⟨rfl, rfl, rfl⟩
  all_goals
    exact history.silent ⟨le_rfl, le_rfl⟩ ⟨rfl, rfl⟩ fun _ _ _ working => working

/-- The owner launches workers outside of any burst. -/
theorem Concurrent.History.ownerStep (history : before.History mark floor)
    (step : OwnerStep before before.owner after) : after.History mark floor := by
  have launched (index worker : Nat) (snapshot : Option Nat) (packets : Nat)
      (working : Function.update before.workers index .entering worker =
        .working snapshot packets) : before.workers worker = .working snapshot packets := by
    by_cases same : worker = index
    · rw [same, Function.update_self] at working
      exact nomatch working
    · exact (Function.update_of_ne same _ _).symm.trans working
  generalize before.owner = point at step
  cases step
  case run step =>
    cases step
    case launch index _ =>
      exact history.silent ⟨le_rfl, le_rfl⟩ ⟨rfl, rfl⟩ (launched index)
    case mainStart => exact history.silent ⟨le_rfl, le_rfl⟩ ⟨rfl, rfl⟩ (launched 0)
    all_goals
      exact history.silent ⟨le_rfl, le_rfl⟩ ⟨rfl, rfl⟩ fun _ _ _ working => working
  case teardown step =>
    cases step
    all_goals
      exact history.silent ⟨le_rfl, le_rfl⟩ ⟨rfl, rfl⟩ fun _ _ _ working => working
  case setup =>
    exact history.silent ⟨le_rfl, le_rfl⟩ ⟨rfl, rfl⟩ fun _ _ _ working => working

/-- Every step of any thread keeps the history below the marks. -/
theorem Concurrent.History.step (history : before.History mark floor)
    (sound : before.Sound capacity mark floor) {thread : Thread}
    (step : ConcurrentStep capacity before thread after) : after.History mark floor := by
  cases step with
  | worker _ step => exact history.workerStep sound step
  | publisher _ step => exact history.publisherStep sound step
  | owner step => exact history.ownerStep step
  | requestStop =>
    exact history.silent ⟨le_rfl, le_rfl⟩ ⟨rfl, rfl⟩ fun _ _ _ working => working

end Steps

section Runs
variable {state : Concurrent tables}

theorem Concurrent.Configured.history (configured : state.Configured) : state.History 0 0 := by
  obtain ⟨request, first, -, rfl⟩ := configured
  constructor
  case used => exact fun _ impossible => nomatch impossible
  case current => exact fun _ _ _ impossible => nomatch impossible
  case returned => exact fun _ _ impossible => nomatch impossible
  case ordered => exact List.Pairwise.nil

/-- The history stays below the marks at every point of every run. -/
theorem Concurrent.history
    (reachable : Reachable Concurrent.Configured (ConcurrentStep capacity) state) :
    ∃ mark floor, state.Sound capacity mark floor ∧ state.History mark floor := by
  refine reachable.invariant (fun state =>
    ∃ mark floor, state.Sound capacity mark floor ∧ state.History mark floor)
    (fun start configured => ⟨0, 0, configured.sound, configured.history⟩) ?_
  rintro before thread after ⟨mark, floor, sound, history⟩ step
  obtain ⟨mark', floor', higher, later, next⟩ := sound.step step
  exact ⟨mark', floor', next,
    (history.step sound step).silent ⟨higher, later⟩ ⟨rfl, rfl⟩ fun _ _ _ working => working⟩

/-- A step builds at most one snapshot, and it records what it reads through a pointer. -/
structure Concurrent.Grown (before after : Concurrent tables) : Prop where
  allocated : after.allocated ≤ before.allocated + 1
  log : ∃ events, after.log = before.log ++ events ∧
    ∀ event ∈ events, ∀ worker burst generation, event.use = some (worker, burst, generation) →
      ∃ snapshot, generation = before.generationOf snapshot

theorem Concurrent.Grown.silent {before after : Concurrent tables}
    (allocated : after.allocated ≤ before.allocated + 1) (log : after.log = before.log) :
    before.Grown after :=
  ⟨allocated, [], log.trans (List.append_nil _).symm, List.forall_mem_nil _⟩

theorem ConcurrentStep.grown {before after : Concurrent tables} {thread : Thread}
    (step : ConcurrentStep capacity before thread after) : before.Grown after := by
  cases step with
  | worker worker step =>
    have allocated := Nat.le_succ_of_le (Nat.le_of_eq step.frame.memory.2.1)
    generalize before.workers worker = point at step
    cases step
    case load packets =>
      refine ⟨allocated, _, rfl, List.forall_mem_singleton.mpr fun _ _ _ uses => ?_⟩
      exact ⟨_, (Prod.mk.inj (Prod.mk.inj (Option.some.inj uses)).2).2.symm⟩
    case lookup snapshot packets =>
      refine ⟨allocated, _, rfl, List.forall_mem_singleton.mpr fun _ _ _ uses => ?_⟩
      exact ⟨_, (Prod.mk.inj (Prod.mk.inj (Option.some.inj uses)).2).2.symm⟩
    all_goals exact .silent allocated rfl
  | publisher caller step =>
    generalize before.publishers caller = point at step
    cases step
    case build request snapshot success => exact .silent le_rfl rfl
    case unlock status published =>
      refine ⟨Nat.le_succ _, _, rfl, fun event member _ _ _ uses => ?_⟩
      obtain ⟨generation, -, rfl⟩ := List.mem_map.mp member
      exact nomatch uses
    all_goals exact .silent (Nat.le_succ _) rfl
  | owner step =>
    generalize before.owner = point at step
    cases step
    case setup => exact .silent (Nat.le_succ _) rfl
    case run step => cases step <;> exact .silent (Nat.le_succ _) rfl
    case teardown step => cases step <;> exact .silent (Nat.le_succ _) rfl
  | requestStop => exact .silent (Nat.le_succ _) rfl

/-- No snapshot and no recorded generation is ahead of the number of steps. -/
structure Concurrent.Counted (state : Concurrent tables) (steps : Nat) : Prop where
  allocated : state.allocated ≤ steps + 1
  used : ∀ event ∈ state.log, ∀ worker burst generation,
    event.use = some (worker, burst, some generation) → generation ≤ steps + 1

theorem Concurrent.Counted.step {before after : Concurrent tables} {steps mark floor : Nat}
    (counted : before.Counted steps) (sound : before.Sound capacity mark floor)
    (grown : before.Grown after) : after.Counted (steps + 1) := by
  obtain ⟨allocated, events, log, fresh⟩ := grown
  constructor
  case allocated => exact allocated.trans (Nat.succ_le_succ counted.allocated)
  case used =>
    rw [log]
    intro event member worker burst generation uses
    rcases List.mem_append.mp member with earlier | last
    · exact Nat.le_succ_of_le (counted.used event earlier worker burst generation uses)
    · obtain ⟨snapshot, same⟩ := fresh event last worker burst (some generation) uses
      obtain ⟨id, -, found⟩ := Option.bind_eq_some_iff.mp same.symm
      obtain ⟨-, found⟩ := Option.ite_none_right_eq_some.mp found
      obtain ⟨content, stored, rfl⟩ := Option.map_eq_some_iff.mp found
      obtain ⟨below, generation⟩ := sound.stored id content stored
      have := counted.allocated
      omega

/-- Within fewer steps than a counter of sixty-four bits counts, no generation is exhausted. -/
theorem Concurrent.counted {start : Concurrent tables} {labels : List Thread}
    (configured : start.Configured) (run : Run (ConcurrentStep capacity) start labels state) :
    state.Counted labels.length := by
  refine (run.counted (fun steps state => (∃ mark floor, state.Sound capacity mark floor) ∧
    state.Counted steps) ?_ ⟨⟨0, 0, configured.sound⟩, ?_⟩).2
  · rintro steps before thread after ⟨⟨mark, floor, sound⟩, counted⟩ step
    obtain ⟨mark', floor', -, -, next⟩ := sound.step step
    exact ⟨⟨mark', floor', next⟩, counted.step sound step.grown⟩
  · obtain ⟨request, first, -, rfl⟩ := configured
    exact ⟨le_rfl, fun _ impossible => nomatch impossible⟩

/-- Two uses of one worker agree with the order of their bursts. -/
def RuleEvent.Agrees (event other : RuleEvent) : Prop :=
  ∀ worker burst generation burst' generation',
    event.use = some (worker, burst, some generation) →
    other.use = some (worker, burst', some generation') →
    (burst ≤ burst' → generation ≤ generation') ∧ (burst' ≤ burst → generation' ≤ generation)

theorem RuleEvent.Agrees.symm {event other : RuleEvent} (agrees : event.Agrees other) :
    other.Agrees event :=
  fun worker burst generation burst' generation' uses uses' =>
    (agrees worker burst' generation' burst generation uses' uses).symm

theorem RuleEvent.agrees_self (event : RuleEvent) : event.Agrees event := by
  intro worker burst generation burst' generation' uses uses'
  obtain ⟨-, rfl⟩ : burst = burst' ∧ generation = generation' := by
    simpa using uses.symm.trans uses'
  exact ⟨fun _ => le_rfl, fun _ => le_rfl⟩

theorem RuleEvent.Precedes.agrees {earlier later : RuleEvent}
    (precedes : earlier.Precedes later) : earlier.Agrees later := by
  intro worker burst generation burst' generation' uses uses'
  obtain ⟨ordered, below, same⟩ :=
    (precedes worker burst' generation' uses').1 burst generation uses
  exact ⟨fun _ => below, fun above => Nat.le_of_eq (same (Nat.le_antisymm ordered above)).symm⟩

/-- The whole history agrees with the order of the bursts. -/
theorem Concurrent.History.agrees {mark floor : Nat} (history : state.History mark floor)
    {event other : RuleEvent} (member : event ∈ state.log) (member' : other ∈ state.log) :
    event.Agrees other :=
  List.Pairwise.forall_of_forall_of_flip (fun event _ => event.agrees_self)
    (history.ordered.imp RuleEvent.Precedes.agrees)
    (history.ordered.imp fun precedes => precedes.agrees.symm) member member'

/-- All uses in one burst have one generation, the generations of a worker never decrease from
burst to burst, and behind a publication no burst uses or is still using an older generation. No
generation is ahead of the number of steps, so no run of fewer than `2 ^ 64 - 1` steps exhausts the
sixty-four bits of the generation in C. -/
theorem publications_visible
    (reachable : Reachable Concurrent.Configured (ConcurrentStep capacity) state) :
    (∀ event ∈ state.log, ∀ worker burst generation,
      event.use = some (worker, burst, generation) → generation ≠ none) ∧
    (∀ event ∈ state.log, ∀ other ∈ state.log, ∀ worker burst generation generation',
      event.use = some (worker, burst, some generation) →
        other.use = some (worker, burst, some generation') → generation = generation') ∧
    (∀ event ∈ state.log, ∀ other ∈ state.log, ∀ worker burst burst' generation generation',
      event.use = some (worker, burst, some generation) →
        other.use = some (worker, burst', some generation') → burst ≤ burst' →
          generation ≤ generation') ∧
    (∀ earlier caller published later,
      state.log = earlier ++ .returned caller published :: later →
        ∀ event ∈ later, ∀ worker burst generation,
          event.use = some (worker, burst, some generation) → published ≤ generation) ∧
    (∀ caller published, .returned caller published ∈ state.log →
      ∀ worker snapshot packets, state.workers worker = .working snapshot packets →
        ∃ generation, state.generationOf snapshot = some generation ∧ published ≤ generation) ∧
    ∀ start labels, start.Configured → Run (ConcurrentStep capacity) start labels state →
      (∀ id snapshot, state.heap id = some snapshot → snapshot.generation ≤ labels.length + 1) ∧
      ∀ event ∈ state.log, ∀ worker burst generation,
        event.use = some (worker, burst, some generation) → generation ≤ labels.length + 1 := by
  obtain ⟨mark, floor, sound, history⟩ := Concurrent.history reachable
  refine ⟨?_, ?_, ?_, ?_, ?_, ?_⟩
  · intro event member worker burst generation uses
    obtain ⟨-, found, rfl, -⟩ := history.used event member worker burst generation uses
    exact Option.some_ne_none found
  · intro event member other member' worker burst generation generation' uses uses'
    obtain ⟨below, above⟩ :=
      history.agrees member member' worker burst generation burst generation' uses uses'
    exact Nat.le_antisymm (below le_rfl) (above le_rfl)
  · intro event member other member' worker burst burst' generation generation' uses uses'
    exact (history.agrees member member' worker burst generation burst' generation' uses uses').1
  · intro earlier caller published later log event member worker burst generation uses
    have ordered := history.ordered
    rw [log] at ordered
    have precedes := (List.pairwise_cons.mp (List.pairwise_append.mp ordered).2.1).1 event member
    exact (precedes worker burst generation uses).2 caller published rfl
  · intro caller published member worker snapshot packets here
    obtain ⟨id, content, rfl, stored, live, generation, above, -⟩ := sound.held here
    have passed := history.returned caller published member
    refine ⟨id + 1, ?_, by omega⟩
    rw [Concurrent.generationOf_live stored live, generation]
  · intro start labels configured run
    have counted := Concurrent.counted configured run
    refine ⟨fun id snapshot stored => ?_, counted.used⟩
    obtain ⟨below, generation⟩ := sound.stored id snapshot stored
    rw [generation]
    exact Nat.succ_le_of_lt below |>.trans counted.allocated

theorem publications_visible_overlap : ∃ state : Concurrent listTables,
    state.workers 0 = .working (some 1) 1 ∧
      state.log = [.load 0 1 (some 1), .lookup 0 1 (some 1), .returned 7 2,
        .load 0 2 (some 2), .lookup 0 2 (some 2)] ∧
      (∀ generation, RuleEvent.use (.lookup 0 2 (some 2)) = some (0, 2, some generation) →
        2 ≤ generation) ∧
      ∃ generation, state.generationOf (some 1) = some generation ∧ 2 ≤ generation := by
  obtain ⟨state, reachable, worker, -, -, log⟩ := overlap_reachable
  obtain ⟨-, -, -, visible, current, -⟩ := publications_visible reachable
  have returned : .returned 7 2 ∈ state.log := by
    rw [log]
    decide
  have behind := visible [.load 0 1 (some 1), .lookup 0 1 (some 1)] 7 2
    [.load 0 2 (some 2), .lookup 0 2 (some 2)] log (.lookup 0 2 (some 2)) (by decide) 0 2
  exact ⟨state, worker, log, behind, current 7 2 returned 0 (some 1) 1 worker⟩

end Runs

end FlowRouter.Native
