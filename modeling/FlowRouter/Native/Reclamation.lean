import FlowRouter.Library.Transition
import FlowRouter.Native.Lifecycle
import FlowRouter.Native.ListTables

namespace FlowRouter.Native
open Mutex Quiescence

variable {tables : RteTables} {capacity : Nat}

/-- The publisher retires a snapshot between its exchange and its free. -/
def Publisher.phase : Publisher → Phase Nat Nat
  | .numbering (some old) _ | .succeeding (some old) _ | .starting (some old) _ => .swapped old
  | .waiting (some old) _ token seen => .waiting old token fun reader => reader ∈ seen
  | .freeing (some old) _ => .passed old
  | _ => .idle

/-- The teardown retires the last snapshot without a grace period. -/
def OwnerPoint.phase : OwnerPoint → Phase Nat Nat
  | .freeing (some old) => .passed old
  | _ => .idle

/-- The thread in the writer lock decides the phase. -/
def Concurrent.phase (state : Concurrent tables) : Phase Nat Nat :=
  match state.writerLock with
  | some (.publisher id) => (state.publishers id).phase
  | some .owner => state.owner.phase
  | none => .idle

/-- This is the publisher in the writer lock, or an idle one when there is none. -/
def Concurrent.critical (state : Concurrent tables) : Publisher :=
  match state.writerLock with
  | some (.publisher id) => state.publishers id
  | _ => .idle

/-- The system is a run of the reclamation protocol over its workers and its snapshots. -/
def Concurrent.protocol (state : Concurrent tables) (mark floor : Nat) : Protocol Nat Nat where
  active := state.activeRules
  mark := mark
  floor := floor
  counter := state.qsbr.counter
  record reader := (state.qsbr.readers reader).recorded
  held reader := (state.workers reader).held
  phase := state.phase
  freed := state.freed

/-- A worker works with a snapshot, not with a null pointer. -/
def Worker.Loaded : Worker → Prop
  | .working snapshot _ => snapshot ≠ none
  | _ => True

/-- The registry follows the point of each worker. -/
structure QsbrReader.Follows (reader : QsbrReader) (worker : Worker) : Prop where
  registered : reader.registered = worker.registers
  recorded : reader.recorded.isSome = worker.isOnline

/-- Each point of a publication knows how many snapshots there are, which of them is active and
which generations have outlived their grace period. -/
def Publisher.Holds (allocated generation floor : Nat) (active : Option Nat) (present : Bool) :
    Publisher → Prop
  | .building _ => generation = allocated ∧ present = true ∧ active ≠ none
  | .exchanging new next => generation = new ∧ allocated = new + 1 ∧ next = new + 1 ∧
      present = true ∧ ∃ old, active = some old ∧ old < new
  | .numbering old next => old ≠ none ∧ allocated = next ∧ present = true ∧
      ∃ new, active = some new ∧ next = new + 1
  | .succeeding old next | .starting old next | .waiting old next _ _ =>
      old ≠ none ∧ generation = allocated ∧ allocated = next ∧ present = true ∧
        ∃ new, active = some new ∧ next = new + 1
  | .freeing _ next => generation = allocated ∧ next ≤ floor + 1
  | .leaving _ published | .unlocking _ published =>
      generation = allocated ∧ ∀ next, published = some next → next ≤ floor + 1
  | _ => generation = allocated

/-- This is the invariant that connects the threads, the registry and the protocol. -/
structure Concurrent.Sound (capacity : Nat) (state : Concurrent tables) (mark floor : Nat) :
    Prop where
  ordered : state.Ordered
  follows : ∀ worker, (state.qsbr.readers worker).Follows (state.workers worker)
  bounded : ∀ worker, (state.workers worker).registers = true → worker < capacity
  loaded : ∀ worker, (state.workers worker).Loaded
  stored : ∀ id snapshot, state.heap id = some snapshot →
    id < state.allocated ∧ snapshot.generation = id + 1
  present : ∀ id, id < state.allocated → state.heap id ≠ none
  newest : ∀ id, state.activeRules = some id → id < state.allocated
  critical : state.critical.Holds state.allocated state.stats.rulesGeneration floor
    state.activeRules state.rulesQsbr
  safe : (state.protocol mark floor).Safe id

section Lock
variable {state : Concurrent tables}

theorem Concurrent.phase_of_publisher {id : Nat} (locked : state.writerLock = some (.publisher id)) :
    state.phase = (state.publishers id).phase := by
  rw [Concurrent.phase, locked]

theorem Concurrent.critical_of_publisher {id : Nat}
    (locked : state.writerLock = some (.publisher id)) :
    state.critical = state.publishers id := by
  rw [Concurrent.critical, locked]

theorem Concurrent.phase_of_owner (locked : state.writerLock = some .owner) :
    state.phase = state.owner.phase ∧ state.critical = .idle := by
  rw [Concurrent.phase, Concurrent.critical, locked]
  exact ⟨rfl, rfl⟩

theorem Concurrent.phase_of_free (free : state.writerLock = none) :
    state.phase = .idle ∧ state.critical = .idle := by
  rw [Concurrent.phase, Concurrent.critical, free]
  exact ⟨rfl, rfl⟩

end Lock

section WorkerSteps
variable {before after : Concurrent tables} {worker mark floor : Nat}

theorem WorkerFrame.critical (frame : WorkerFrame before after worker) :
    after.critical = before.critical ∧ after.phase = before.phase := by
  rw [Concurrent.critical, Concurrent.critical, Concurrent.phase, Concurrent.phase,
    frame.threads.1, frame.threads.2.1, frame.threads.2.2]
  exact ⟨rfl, rfl⟩

/-- A worker changes only its own record and its own snapshot in the protocol. -/
theorem WorkerFrame.protocol (frame : WorkerFrame before after worker) :
    after.protocol mark floor = { before.protocol mark floor with
      record := Function.update (before.protocol mark floor).record worker
        (after.qsbr.readers worker).recorded
      held := Function.update (before.protocol mark floor).held worker
        (after.workers worker).held } := by
  have phase := frame.critical.2
  obtain ⟨-, others, counter, ⟨-, -, freed⟩, ⟨active, -⟩, -, -⟩ := frame
  have record : (after.protocol mark floor).record =
      Function.update (before.protocol mark floor).record worker
        (after.qsbr.readers worker).recorded := by
    funext other
    by_cases same : other = worker
    · rw [same, Function.update_self]
      rfl
    · rw [Function.update_of_ne same]
      exact congrArg QsbrReader.recorded (others other same).2
  have held : (after.protocol mark floor).held =
      Function.update (before.protocol mark floor).held worker (after.workers worker).held := by
    funext other
    by_cases same : other = worker
    · rw [same, Function.update_self]
      rfl
    · rw [Function.update_of_ne same]
      exact congrArg Worker.held (others other same).1
  rw [← record, ← held]
  change Protocol.mk after.activeRules mark floor after.qsbr.counter _ _ after.phase after.freed =
    Protocol.mk before.activeRules mark floor before.qsbr.counter _ _ before.phase before.freed
  rw [active, counter, freed, phase]
  rfl

/-- Each worker step is an action of the protocol or leaves it alone. -/
theorem WorkerStep.protocol (mark floor : Nat)
    (step : WorkerStep capacity before worker (before.workers worker) after)
    (follows : (before.qsbr.readers worker).Follows (before.workers worker)) :
    after.protocol mark floor = before.protocol mark floor ∨
      Quiescence.Step id (before.protocol mark floor) (after.protocol mark floor) := by
  have becomes (record held : Option Nat)
      (recorded : (after.qsbr.readers worker).recorded = record)
      (holds : (after.workers worker).held = held) :
      after.protocol mark floor = { before.protocol mark floor with
        record := Function.update (before.protocol mark floor).record worker record
        held := Function.update (before.protocol mark floor).held worker held } := by
    rw [step.frame.protocol, recorded, holds]
  have unrecorded : Function.update (before.protocol mark floor).record worker
      (before.qsbr.readers worker).recorded = (before.protocol mark floor).record :=
    Function.update_eq_self _ _
  have unheld : Function.update (before.protocol mark floor).held worker
      (before.workers worker).held = (before.protocol mark floor).held :=
    Function.update_eq_self _ _
  have moved := before.moveWorker_self worker
  have written (registered : Bool) (recorded : Option Nat) :
      ((before.qsbr.setReader worker registered recorded).readers worker).recorded = recorded :=
    congrArg QsbrReader.recorded (before.qsbr.setReader_self worker registered recorded)
  generalize here : before.workers worker = point at step follows unheld
  cases step
  case online | quiescent =>
    rw [becomes _ _ (written _ _) (congrArg Worker.held (moved _))]
    exact .inr (.report worker)
  case offline =>
    rw [becomes _ _ (written _ _) (congrArg Worker.held (moved _))]
    exact .inr (.offline worker)
  case load packets =>
    have online : (before.qsbr.readers worker).recorded.isSome = true := follows.recorded
    rw [becomes (before.qsbr.readers worker).recorded _ rfl
      (congrArg Worker.held (moved _)), unrecorded]
    exact .inr (.load worker (Option.isSome_iff_ne_none.mp online))
  case register | unregister =>
    rw [becomes _ _ (written _ _) (congrArg Worker.held (moved _)), unrecorded]
    exact .inl (congrArg (fun held => { before.protocol mark floor with held }) unheld)
  all_goals
    rw [becomes (before.qsbr.readers worker).recorded _ rfl
      (congrArg Worker.held (moved _)), unrecorded]
    exact .inl (congrArg (fun held => { before.protocol mark floor with held }) unheld)

/-- The registry keeps following the worker. -/
theorem WorkerStep.follows
    (step : WorkerStep capacity before worker (before.workers worker) after)
    (follows : (before.qsbr.readers worker).Follows (before.workers worker)) :
    (after.qsbr.readers worker).Follows (after.workers worker) := by
  have moved := before.moveWorker_self worker
  have becomes {reader : QsbrReader} {point : Worker}
      (same : after.qsbr.readers worker = reader) (next : after.workers worker = point)
      (holds : reader.Follows point) :
      (after.qsbr.readers worker).Follows (after.workers worker) := by
    rw [same, next]
    exact holds
  obtain ⟨registered, recorded⟩ := follows
  generalize before.workers worker = point at step registered recorded
  cases step
  case register | online | quiescent | offline | unregister =>
    exact becomes (before.qsbr.setReader_self _ _ _) (moved _)
      ⟨by first | rfl | exact registered, by first | rfl | exact recorded⟩
  all_goals exact becomes rfl (moved _) ⟨registered, recorded⟩

/-- Only a reader below the capacity registers. -/
theorem WorkerStep.bounded
    (step : WorkerStep capacity before worker (before.workers worker) after)
    (bounded : (before.workers worker).registers = true → worker < capacity) :
    (after.workers worker).registers = true → worker < capacity := by
  have moved := before.moveWorker_self worker
  have becomes {point : Worker} (next : after.workers worker = point)
      (holds : point.registers = true → worker < capacity) :
      (after.workers worker).registers = true → worker < capacity := by
    rw [next]
    exact holds
  generalize before.workers worker = point at step bounded
  cases step
  case register present small => exact becomes (moved _) fun _ => small
  case unregister => exact becomes (moved _) fun impossible => nomatch impossible
  all_goals exact becomes (moved _) bounded

/-- A load finds the active snapshot. -/
theorem WorkerStep.loaded
    (step : WorkerStep capacity before worker (before.workers worker) after)
    (active : before.activeRules ≠ none) (loaded : (before.workers worker).Loaded) :
    (after.workers worker).Loaded := by
  have moved := before.moveWorker_self worker
  have becomes {point : Worker} (next : after.workers worker = point) (holds : point.Loaded) :
      (after.workers worker).Loaded := by
    rw [next]
    exact holds
  generalize before.workers worker = point at step loaded
  cases step
  case load packets => exact becomes (moved _) active
  case lookup snapshot packets => exact becomes (moved _) loaded
  all_goals exact becomes (moved _) trivial

/-- A worker step keeps the whole invariant. -/
theorem Concurrent.Sound.workerStep (sound : before.Sound capacity mark floor)
    (step : WorkerStep capacity before worker (before.workers worker) after) :
    after.Sound capacity mark floor := by
  obtain ⟨-, others, -, ⟨heap, allocated, -⟩, ⟨active, present, -, -, stats⟩, -, -⟩ := step.frame
  constructor
  case ordered => exact sound.ordered.worker step
  case follows =>
    intro other
    by_cases same : other = worker
    · exact same ▸ step.follows (sound.follows worker)
    · rw [(others other same).1, (others other same).2]
      exact sound.follows other
  case bounded =>
    intro other
    by_cases same : other = worker
    · exact same ▸ step.bounded (sound.bounded worker)
    · rw [(others other same).1]
      exact sound.bounded other
  case loaded =>
    intro other
    by_cases same : other = worker
    · have serving := (sound.ordered.serving_of_alive step.frame.alive).1
      exact same ▸ step.loaded serving.2 (sound.loaded worker)
    · rw [(others other same).1]
      exact sound.loaded other
  case stored => rw [heap, allocated]; exact sound.stored
  case present => rw [heap, allocated]; exact sound.present
  case newest => rw [active, allocated]; exact sound.newest
  case critical =>
    rw [step.frame.critical.1, allocated, stats, active, present]
    exact sound.critical
  case safe =>
    rcases step.protocol mark floor (sound.follows worker) with same | acts
    · exact same ▸ sound.safe
    · exact sound.safe.step acts

end WorkerSteps

section PublisherSteps
variable {before after : Concurrent tables} {caller mark floor mark' floor' : Nat}

/-- This is the protocol with the fields that a writer changes. -/
def Concurrent.written (state : Concurrent tables) (mark floor : Nat) (active : Option Nat)
    (counter : Nat) (phase : Phase Nat Nat) (freed : Nat → Nat) : Protocol Nat Nat :=
  { state.protocol mark floor with active, counter, phase, freed }

/-- Inside the lock the points of one publisher carry the invariant. -/
theorem Concurrent.Sound.inside (sound : before.Sound capacity mark floor)
    (step : PublisherStep capacity before caller (before.publishers caller) after) {next : Publisher}
    (locked : after.writerLock = some (.publisher caller)) (moved : after.publishers caller = next)
    (stored : ∀ other snapshot, after.heap other = some snapshot →
      other < after.allocated ∧ snapshot.generation = other + 1)
    (present : ∀ other, other < after.allocated → after.heap other ≠ none)
    (newest : ∀ other, after.activeRules = some other → other < after.allocated)
    (critical : next.Holds after.allocated after.stats.rulesGeneration floor' after.activeRules
      after.rulesQsbr)
    (safe : (before.written mark' floor' after.activeRules after.qsbr.counter next.phase
      after.freed).Safe id) : after.Sound capacity mark' floor' := by
  obtain ⟨-, ⟨workers, -⟩, readers, -, -, -⟩ := step.frame
  constructor
  case ordered => exact sound.ordered.publisher step
  case follows => rw [workers, readers]; exact sound.follows
  case bounded => rw [workers]; exact sound.bounded
  case loaded => rw [workers]; exact sound.loaded
  case stored => exact stored
  case present => exact present
  case newest => exact newest
  case critical =>
    rw [Concurrent.critical_of_publisher locked, moved]
    exact critical
  case safe =>
    rw [Concurrent.protocol, Concurrent.phase_of_publisher locked, moved, readers, workers]
    exact safe

/-- The writer lock tells which point its publisher is at. -/
theorem Concurrent.Sound.here (sound : before.Sound capacity mark floor) {point : Publisher}
    (here : before.publishers caller = point) (inside : point.inside = true) :
    before.writerLock = some (.publisher caller) ∧
      point.Holds before.allocated before.stats.rulesGeneration floor before.activeRules
        before.rulesQsbr ∧
      (before.written mark floor before.activeRules before.qsbr.counter point.phase
        before.freed).Safe id := by
  have locked : before.writerLock = some (.publisher caller) :=
    (sound.ordered.lock (.publisher caller)).mp (by rw [Concurrent.inside, here]; exact inside)
  have critical := sound.critical
  have safe := sound.safe
  rw [Concurrent.critical_of_publisher locked, here] at critical
  rw [Concurrent.protocol, Concurrent.phase_of_publisher locked, here] at safe
  exact ⟨locked, critical, safe⟩

theorem Worker.registers_of_isOnline {point : Worker} (online : point.isOnline = true) :
    point.registers = true := by
  cases point <;> first | rfl | exact online

/-- A reader that is not registered has no record. -/
theorem Concurrent.Sound.unrecorded (sound : before.Sound capacity mark floor) {reader : Nat}
    (absent : (before.workers reader).registers = false) :
    (before.qsbr.readers reader).recorded = none := by
  have follows := sound.follows reader
  have offline : (before.workers reader).isOnline = false :=
    Bool.eq_false_iff.mpr fun online =>
      absurd (absent.symm.trans (Worker.registers_of_isOnline online)) (by decide)
  exact Option.not_isSome_iff_eq_none.mp
    (Bool.eq_false_iff.mp (follows.recorded.trans offline))

/-- The registry skips only readers that the protocol may skip. -/
theorem Concurrent.Sound.passes (sound : before.Sound capacity mark floor) {token reader : Nat}
    (passes : before.qsbr.passes token reader) :
    Passes token (before.qsbr.readers reader).recorded := by
  intro value recorded
  refine passes ?_ value recorded
  rw [(sound.follows reader).registered]
  by_contra absent
  rw [sound.unrecorded (by simpa using absent)] at recorded
  exact nomatch recorded

/-- A thread outside the lock does not decide the phase. -/
theorem Concurrent.elsewhere (elsewhere : before.writerLock ≠ some (.publisher caller))
    (point : Publisher) : (before.movePublisher caller point).critical = before.critical ∧
      (before.movePublisher caller point).phase = before.phase := by
  unfold Concurrent.critical Concurrent.phase Concurrent.movePublisher
  dsimp only
  cases holder : before.writerLock with
  | none => exact ⟨rfl, rfl⟩
  | some writer =>
    cases writer with
    | owner => exact ⟨rfl, rfl⟩
    | publisher other =>
      have differs : other ≠ caller := by
        rintro rfl
        exact elsewhere holder
      dsimp only
      rw [Function.update_of_ne differs]
      exact ⟨rfl, rfl⟩

/-- At a point inside the lock its holder knows what the protocol allows. -/
theorem Concurrent.Sound.within (sound : before.Sound capacity mark floor) {point : Publisher}
    (here : before.publishers caller = point) (inside : point.inside = true)
    (step : PublisherStep capacity before caller point after) :
    PublisherStep capacity before caller (before.publishers caller) after ∧
      before.writerLock = some (.publisher caller) ∧
      point.Holds before.allocated before.stats.rulesGeneration floor before.activeRules
        before.rulesQsbr ∧
      (before.written mark floor before.activeRules before.qsbr.counter point.phase
        before.freed).Safe id := by
  constructor
  · rw [here]
    exact step
  · exact sound.here here inside

/-- A call starts outside the lock. -/
theorem Concurrent.Sound.atIdle (sound : before.Sound capacity mark floor)
    (here : before.publishers caller = .idle)
    (step : PublisherStep capacity before caller .idle after) :
    after.Sound capacity mark floor := by
  have whole : PublisherStep capacity before caller (before.publishers caller) after := by
    rw [here]
    exact step
  cases step with
  | call request =>
    have elsewhere : before.writerLock ≠ some (.publisher caller) := by
      intro locked
      have inside := (sound.ordered.lock (.publisher caller)).mpr locked
      rw [Concurrent.inside, here] at inside
      cases inside
    obtain ⟨critical, phase⟩ := Concurrent.elsewhere elsewhere (.locking request)
    have holds := sound.critical
    have safe := sound.safe
    rw [← critical] at holds
    rw [Concurrent.protocol, ← phase] at safe
    exact ⟨sound.ordered.publisher whole, sound.follows, sound.bounded, sound.loaded,
      sound.stored, sound.present, sound.newest, holds, safe⟩

theorem Concurrent.Sound.atLocking (sound : before.Sound capacity mark floor) {request : PublishRequest}
    (here : before.publishers caller = .locking request)
    (step : PublisherStep capacity before caller (.locking request) after) :
    after.Sound capacity mark floor := by
  have whole : PublisherStep capacity before caller (before.publishers caller) after := by
    rw [here]
    exact step
  cases step with
  | lock free =>
    have holds := sound.critical
    have safe := sound.safe
    rw [(Concurrent.phase_of_free free).2] at holds
    rw [Concurrent.protocol, (Concurrent.phase_of_free free).1] at safe
    exact sound.inside whole rfl (before.movePublisher_self caller _) sound.stored sound.present
      sound.newest holds safe

theorem Concurrent.Sound.atEntering (sound : before.Sound capacity mark floor) {request : PublishRequest}
    (here : before.publishers caller = .entering request)
    (step : PublisherStep capacity before caller (.entering request) after) :
    after.Sound capacity mark floor := by
  obtain ⟨whole, locked, holds, safe⟩ := sound.within here rfl step
  have moved := before.movePublisher_self caller
  cases step with
  | enter =>
    exact sound.inside whole locked (moved _) sound.stored sound.present sound.newest holds safe

theorem Concurrent.Sound.atChecking (sound : before.Sound capacity mark floor) {request : PublishRequest}
    (here : before.publishers caller = .checking request)
    (step : PublisherStep capacity before caller (.checking request) after) :
    after.Sound capacity mark floor := by
  obtain ⟨whole, locked, holds, safe⟩ := sound.within here rfl step
  have moved := before.movePublisher_self caller
  cases step with
  | refuse missing =>
    exact sound.inside whole locked (moved _) sound.stored sound.present sound.newest
      ⟨holds, fun _ impossible => by cases impossible⟩ safe
  | accept initialized configured registry active =>
    exact sound.inside whole locked (moved _) sound.stored sound.present sound.newest
      ⟨holds, registry, active⟩ safe

/-- The next snapshot is stored with the next generation. -/
theorem Concurrent.Sound.atBuilding (sound : before.Sound capacity mark floor) {request : PublishRequest}
    (here : before.publishers caller = .building request)
    (step : PublisherStep capacity before caller (.building request) after) :
    after.Sound capacity mark floor := by
  obtain ⟨whole, locked, ⟨counted, registry, active⟩, safe⟩ := sound.within here rfl step
  have moved := before.movePublisher_self caller
  cases step with
  | @build _ snapshot success =>
    obtain ⟨old, current⟩ := Option.ne_none_iff_exists'.mp active
    refine sound.inside whole locked (moved _) ?_ ?_ ?_ ?_ safe
    · refine (Function.forall_update_iff before.heap (p := fun other cell =>
        ∀ snapshot, cell = some snapshot →
          other < before.allocated + 1 ∧ snapshot.generation = other + 1)).mpr
        ⟨fun other same => ?_, fun other _ snapshot found => ?_⟩
      · obtain rfl := Option.some.inj same
        have generation := dpSnapshotBuild_generation success
        omega
      · obtain ⟨below, generation⟩ := sound.stored other snapshot found
        exact ⟨by omega, generation⟩
    · refine (Function.forall_update_iff before.heap (p := fun other cell =>
        other < before.allocated + 1 → cell ≠ none)).mpr
        ⟨fun _ => Option.some_ne_none _, fun other differs below => ?_⟩
      exact sound.present other (by omega)
    · intro other active
      have := sound.newest other active
      change other < before.allocated + 1
      omega
    · exact ⟨counted, rfl, by omega, registry, old, current, sound.newest old current⟩
  | buildFailed failure =>
    exact sound.inside whole locked (moved _) sound.stored sound.present sound.newest counted safe

theorem Concurrent.Sound.atFailing (sound : before.Sound capacity mark floor) {status : Int}
    (here : before.publishers caller = .failing status)
    (step : PublisherStep capacity before caller (.failing status) after) :
    after.Sound capacity mark floor := by
  obtain ⟨whole, locked, holds, safe⟩ := sound.within here rfl step
  have moved := before.movePublisher_self caller
  cases step with
  | fail =>
    exact sound.inside whole locked (moved _) sound.stored sound.present sound.newest
      ⟨holds, fun _ impossible => by cases impossible⟩ safe

/-- The exchange moves the mark of the newest snapshot. -/
theorem Concurrent.Sound.atExchanging (sound : before.Sound capacity mark floor) {new next : Nat}
    (here : before.publishers caller = .exchanging new next)
    (step : PublisherStep capacity before caller (.exchanging new next) after) :
    ∃ mark', mark ≤ mark' ∧ after.Sound capacity mark' floor := by
  obtain ⟨whole, locked, ⟨counted, total, number, registry, old, active, older⟩, safe⟩ :=
    sound.within here rfl step
  have marked : old = mark := (safe.active old active).1
  have moved := before.movePublisher_self caller
  cases step with
  | exchange =>
    refine ⟨new, by omega, sound.inside whole locked (moved _) sound.stored sound.present ?_ ?_ ?_⟩
    · intro other same
      obtain rfl := Option.some.inj same
      change new < before.allocated
      omega
    · exact ⟨by rw [active]; exact Option.some_ne_none old, by
        change before.allocated = next
        omega, registry, new, rfl, number⟩
    · have swapped := safe.swap rfl active (show mark < new by omega)
      rw [active]
      exact swapped

theorem Concurrent.Sound.atNumbering (sound : before.Sound capacity mark floor) {old : Option Nat} {next : Nat}
    (here : before.publishers caller = .numbering old next)
    (step : PublisherStep capacity before caller (.numbering old next) after) :
    after.Sound capacity mark floor := by
  obtain ⟨whole, locked, ⟨some, total, registry, active⟩, safe⟩ := sound.within here rfl step
  have moved := before.movePublisher_self caller
  have same : (Publisher.succeeding old next).phase = (Publisher.numbering old next).phase := by
    cases old <;> rfl
  cases step with
  | number =>
    exact sound.inside whole locked (moved _) sound.stored sound.present sound.newest
      ⟨some, total.symm, total, registry, active⟩ (same ▸ safe)

theorem Concurrent.Sound.atSucceeding (sound : before.Sound capacity mark floor) {old : Option Nat} {next : Nat}
    (here : before.publishers caller = .succeeding old next)
    (step : PublisherStep capacity before caller (.succeeding old next) after) :
    after.Sound capacity mark floor := by
  obtain ⟨whole, locked, holds, safe⟩ := sound.within here rfl step
  have moved := before.movePublisher_self caller
  have same : (Publisher.starting old next).phase = (Publisher.succeeding old next).phase := by
    cases old <;> rfl
  cases step with
  | succeed =>
    exact sound.inside whole locked (moved _) sound.stored sound.present sound.newest holds
      (same ▸ safe)

/-- The token of the wait is younger than every quiescent state so far. -/
theorem Concurrent.Sound.atStarting (sound : before.Sound capacity mark floor) {old : Option Nat} {next : Nat}
    (here : before.publishers caller = .starting old next)
    (step : PublisherStep capacity before caller (.starting old next) after) :
    after.Sound capacity mark floor := by
  obtain ⟨whole, locked, holds, safe⟩ := sound.within here rfl step
  have moved := before.movePublisher_self caller
  cases step with
  | start =>
    obtain ⟨old, rfl⟩ := Option.ne_none_iff_exists'.mp holds.1
    have nobody : (fun reader => reader ∈ ([] : List Nat)) = fun _ => False := by
      funext reader
      exact eq_false List.not_mem_nil
    refine sound.inside whole locked (moved _) sound.stored sound.present sound.newest holds ?_
    rw [Publisher.phase, nobody]
    exact safe.start rfl

/-- A wait that is over moves the mark of what the readers may still use. -/
theorem Concurrent.Sound.atWaiting (sound : before.Sound capacity mark floor) {old : Option Nat} {next token : Nat}
    {seen : List Nat}
    (here : before.publishers caller = .waiting old next token seen)
    (step : PublisherStep capacity before caller (.waiting old next token seen) after) :
    ∃ floor', floor ≤ floor' ∧ after.Sound capacity mark floor' := by
  obtain ⟨whole, locked, holds, safe⟩ := sound.within here rfl step
  have moved := before.movePublisher_self caller
  cases step with
  | see reader passes =>
    obtain ⟨old, rfl⟩ := Option.ne_none_iff_exists'.mp holds.1
    have grown : (fun other => other ∈ reader :: seen) =
        fun other => other = reader ∨ other ∈ seen := by
      funext other
      exact propext List.mem_cons
    refine ⟨floor, le_rfl,
      sound.inside whole locked (moved _) sound.stored sound.present sound.newest holds ?_⟩
    rw [Publisher.phase, grown]
    exact safe.see reader rfl (sound.passes passes)
  | pass complete =>
    obtain ⟨some, counted, total, registry, new, active, number⟩ := holds
    obtain ⟨old, rfl⟩ := Option.ne_none_iff_exists'.mp some
    have marked : new = mark := (safe.active new active).1
    refine ⟨mark, safe.floor,
      sound.inside whole locked (moved _) sound.stored sound.present sound.newest
        ⟨counted, by omega⟩ ?_⟩
    refine safe.pass rfl fun reader => ?_
    by_cases small : reader < capacity
    · exact .inl (complete reader small)
    · refine .inr (sound.unrecorded (Bool.eq_false_iff.mpr fun registered => ?_))
      exact small (sound.bounded reader registered)

/-- Nobody uses the old snapshot when it is freed. -/
theorem Concurrent.Sound.atFreeing (sound : before.Sound capacity mark floor) {old : Option Nat} {next : Nat}
    (here : before.publishers caller = .freeing old next)
    (step : PublisherStep capacity before caller (.freeing old next) after) :
    after.Sound capacity mark floor := by
  obtain ⟨whole, locked, ⟨counted, passed⟩, safe⟩ := sound.within here rfl step
  have moved := before.movePublisher_self caller
  cases step with
  | free =>
    refine sound.inside whole locked (moved _) sound.stored sound.present sound.newest ?_ ?_
    · refine ⟨?_, fun other same => Option.some.inj same ▸ passed⟩
      exact (dpSnapshotFree_generation _ _ _ _).trans counted
    · cases old with
      | none => exact safe
      | some old => exact safe.free rfl

theorem Concurrent.Sound.atLeaving (sound : before.Sound capacity mark floor) {status : Int}
    {published : Option Nat}
    (here : before.publishers caller = .leaving status published)
    (step : PublisherStep capacity before caller (.leaving status published) after) :
    after.Sound capacity mark floor := by
  obtain ⟨whole, locked, holds, safe⟩ := sound.within here rfl step
  have moved := before.movePublisher_self caller
  cases step with
  | leave =>
    exact sound.inside whole locked (moved _) sound.stored sound.present sound.newest holds safe

theorem Concurrent.Sound.atUnlocking (sound : before.Sound capacity mark floor) {status : Int}
    {published : Option Nat}
    (here : before.publishers caller = .unlocking status published)
    (step : PublisherStep capacity before caller (.unlocking status published) after) :
    after.Sound capacity mark floor := by
  obtain ⟨whole, -, holds, safe⟩ := sound.within here rfl step
  cases step with
  | unlock =>
    exact ⟨sound.ordered.publisher whole, sound.follows, sound.bounded, sound.loaded,
      sound.stored, sound.present, sound.newest, holds.1, safe⟩

/-- A publisher step keeps the whole invariant and moves the two marks forward. -/
theorem Concurrent.Sound.publisherStep (sound : before.Sound capacity mark floor)
    (step : PublisherStep capacity before caller (before.publishers caller) after) :
    ∃ mark' floor', mark ≤ mark' ∧ floor ≤ floor' ∧ after.Sound capacity mark' floor' := by
  have still (same : after.Sound capacity mark floor) :
      ∃ mark' floor', mark ≤ mark' ∧ floor ≤ floor' ∧ after.Sound capacity mark' floor' :=
    ⟨mark, floor, le_rfl, le_rfl, same⟩
  cases here : before.publishers caller with
  | idle => exact still (sound.atIdle here (here ▸ step))
  | locking => exact still (sound.atLocking here (here ▸ step))
  | entering => exact still (sound.atEntering here (here ▸ step))
  | checking => exact still (sound.atChecking here (here ▸ step))
  | building => exact still (sound.atBuilding here (here ▸ step))
  | failing => exact still (sound.atFailing here (here ▸ step))
  | exchanging =>
    obtain ⟨mark', newer, holds⟩ := sound.atExchanging here (here ▸ step)
    exact ⟨mark', floor, newer, le_rfl, holds⟩
  | numbering => exact still (sound.atNumbering here (here ▸ step))
  | succeeding => exact still (sound.atSucceeding here (here ▸ step))
  | starting => exact still (sound.atStarting here (here ▸ step))
  | waiting =>
    obtain ⟨floor', newer, holds⟩ := sound.atWaiting here (here ▸ step)
    exact ⟨mark, floor', le_rfl, newer, holds⟩
  | freeing => exact still (sound.atFreeing here (here ▸ step))
  | leaving => exact still (sound.atLeaving here (here ▸ step))
  | unlocking => exact still (sound.atUnlocking here (here ▸ step))

end PublisherSteps

section OwnerSteps
variable {before after : Concurrent tables} {mark floor : Nat}

theorem Worker.silent {point : Worker} (dead : point.alive = false) :
    point.registers = false ∧ point.isOnline = false ∧ point.held = none := by
  cases point <;> first | exact ⟨rfl, rfl, rfl⟩ | exact nomatch dead

/-- The owner replaces only workers that are not alive. -/
theorem Concurrent.Sound.launched (sound : before.Sound capacity mark floor)
    (launched : ∀ worker, after.workers worker = before.workers worker ∨
      (before.workers worker).alive = false ∧ after.workers worker = .entering) :
    (∀ worker, (before.qsbr.readers worker).Follows (after.workers worker)) ∧
      (∀ worker, (after.workers worker).registers = true → worker < capacity) ∧
      (∀ worker, (after.workers worker).Loaded) ∧
      ∀ worker, (after.workers worker).held = (before.workers worker).held := by
  refine ⟨fun worker => ?_, fun worker => ?_, fun worker => ?_, fun worker => ?_⟩
  · rcases launched worker with same | ⟨dead, fresh⟩
    · exact same ▸ sound.follows worker
    · obtain ⟨registered, recorded⟩ := sound.follows worker
      obtain ⟨unregistered, offline, -⟩ := Worker.silent dead
      rw [fresh]
      exact ⟨registered.trans unregistered, recorded.trans offline⟩
  · rcases launched worker with same | ⟨-, fresh⟩
    · exact same ▸ sound.bounded worker
    · rw [fresh]
      exact fun impossible => nomatch impossible
  · rcases launched worker with same | ⟨-, fresh⟩
    · exact same ▸ sound.loaded worker
    · rw [fresh]
      exact trivial
  · rcases launched worker with same | ⟨dead, fresh⟩
    · rw [same]
    · rw [fresh, (Worker.silent dead).2.2]
      rfl

/-- Outside the lock the owner touches no rule. -/
theorem Concurrent.Sound.ownerOutside (sound : before.Sound capacity mark floor)
    (ordered : after.Ordered) (outside : before.owner.inside = false)
    (threads : after.publishers = before.publishers ∧ after.writerLock = before.writerLock)
    (memory : after.heap = before.heap ∧ after.allocated = before.allocated ∧
      after.freed = before.freed)
    (rules : after.activeRules = before.activeRules ∧ after.rulesQsbr = before.rulesQsbr ∧
      after.qsbr = before.qsbr ∧ after.stats = before.stats)
    (launched : ∀ worker, after.workers worker = before.workers worker ∨
      (before.workers worker).alive = false ∧ after.workers worker = .entering) :
    after.Sound capacity mark floor := by
  obtain ⟨publishers, lock⟩ := threads
  obtain ⟨heap, allocated, freed⟩ := memory
  obtain ⟨active, registry, qsbr, stats⟩ := rules
  obtain ⟨follows, bounded, loaded, held⟩ := sound.launched launched
  have same : after.critical = before.critical ∧ after.phase = before.phase := by
    unfold Concurrent.critical Concurrent.phase
    rw [lock, publishers]
    cases holder : before.writerLock with
    | none => exact ⟨rfl, rfl⟩
    | some writer =>
      cases writer with
      | publisher id => exact ⟨rfl, rfl⟩
      | owner =>
        have inside := (sound.ordered.lock .owner).mpr holder
        exact absurd (outside.symm.trans inside) (by decide)
  constructor
  case ordered => exact ordered
  case follows => rw [qsbr]; exact follows
  case bounded => exact bounded
  case loaded => exact loaded
  case stored => rw [heap, allocated]; exact sound.stored
  case present => rw [heap, allocated]; exact sound.present
  case newest => rw [active, allocated]; exact sound.newest
  case critical =>
    rw [same.1, allocated, stats, active, registry]
    exact sound.critical
  case safe =>
    have safe := sound.safe
    rw [Concurrent.protocol] at safe ⊢
    rw [same.2, active, qsbr, freed, funext held]
    exact safe

/-- Inside the lock the owner takes the steps of the protocol that need no grace period. -/
theorem Concurrent.Sound.ownerInside (sound : before.Sound capacity mark floor)
    (ordered : after.Ordered) (locked : after.writerLock = some .owner)
    (settled : before.critical = .idle)
    (memory : after.heap = before.heap ∧ after.allocated = before.allocated)
    (generation : after.stats.rulesGeneration = before.stats.rulesGeneration)
    (others : after.qsbr = before.qsbr ∧ after.workers = before.workers)
    (newest : ∀ id, after.activeRules = some id → id < before.allocated)
    (safe : (before.written mark floor after.activeRules before.qsbr.counter after.owner.phase
      after.freed).Safe id) : after.Sound capacity mark floor := by
  obtain ⟨heap, allocated⟩ := memory
  obtain ⟨qsbr, workers⟩ := others
  obtain ⟨phase, idle⟩ := Concurrent.phase_of_owner locked
  constructor
  case ordered => exact ordered
  case follows => rw [qsbr, workers]; exact sound.follows
  case bounded => rw [workers]; exact sound.bounded
  case loaded => rw [workers]; exact sound.loaded
  case stored => rw [heap, allocated]; exact sound.stored
  case present => rw [heap, allocated]; exact sound.present
  case newest => rw [allocated]; exact newest
  case critical =>
    have holds := sound.critical
    rw [settled] at holds
    rw [idle, allocated, generation]
    exact holds
  case safe =>
    rw [Concurrent.protocol, phase, qsbr, workers]
    exact safe

theorem Concurrent.Sound.runStep (sound : before.Sound capacity mark floor)
    (step : RunStep before before.owner after) : after.Sound capacity mark floor := by
  have ordered := sound.ordered.run step
  have covered := sound.ordered.covered
  generalize here : before.owner = point at step covered
  have moved (index : Nat) (dead : (before.workers index).alive = false) (worker : Nat) :
      Function.update before.workers index .entering worker = before.workers worker ∨
        (before.workers worker).alive = false ∧
          Function.update before.workers index .entering worker = .entering := by
    by_cases same : worker = index
    · rw [same, Function.update_self]
      exact .inr ⟨dead, rfl⟩
    · exact .inl (Function.update_of_ne same _ _)
  cases step
  case launch index small =>
    refine sound.ownerOutside ordered (by rw [here]; rfl) ⟨rfl, rfl⟩ ⟨rfl, rfl, rfl⟩
      ⟨rfl, rfl, rfl, rfl⟩ (moved index (Bool.eq_false_iff.mpr fun alive => ?_))
    exact absurd (covered index alive).2.1 (Nat.lt_irrefl index)
  case mainStart =>
    refine sound.ownerOutside ordered (by rw [here]; rfl) ⟨rfl, rfl⟩ ⟨rfl, rfl, rfl⟩
      ⟨rfl, rfl, rfl, rfl⟩ (moved 0 (Bool.eq_false_iff.mpr fun alive => ?_))
    exact absurd (covered 0 alive).1 (by decide)
  all_goals
    exact sound.ownerOutside ordered (by rw [here]; rfl) ⟨rfl, rfl⟩ ⟨rfl, rfl, rfl⟩
      ⟨rfl, rfl, rfl, rfl⟩ fun _ => .inl rfl

theorem Concurrent.Sound.teardownStep (sound : before.Sound capacity mark floor)
    (step : TeardownStep before before.owner after) : after.Sound capacity mark floor := by
  have ordered := sound.ordered.teardown step
  generalize here : before.owner = point at step
  have locked (inside : point.inside = true) : before.writerLock = some .owner :=
    (sound.ordered.lock .owner).mp (by rw [Concurrent.inside, here]; exact inside)
  have safe (inside : point.inside = true) :
      (before.written mark floor before.activeRules before.qsbr.counter point.phase
        before.freed).Safe id := by
    have safe := sound.safe
    rw [Concurrent.protocol, (Concurrent.phase_of_owner (locked inside)).1, here] at safe
    exact safe
  have settled (inside : point.inside = true) : before.critical = .idle :=
    (Concurrent.phase_of_owner (locked inside)).2
  cases step
  case begin | noActive | someActive | noReaders | someReaders | stopped | notStopped | stoppedAll
      | unready =>
    exact sound.ownerOutside ordered (by rw [here]; rfl) ⟨rfl, rfl⟩ ⟨rfl, rfl, rfl⟩
      ⟨rfl, rfl, rfl, rfl⟩ fun _ => .inl rfl
  case lock free =>
    have safe := sound.safe
    rw [Concurrent.protocol, (Concurrent.phase_of_free free).1] at safe
    exact sound.ownerInside ordered rfl (Concurrent.phase_of_free free).2 ⟨rfl, rfl⟩ rfl
      ⟨rfl, rfl⟩ sound.newest safe
  case exchange =>
    refine sound.ownerInside ordered (locked rfl) (settled rfl) ⟨rfl, rfl⟩ rfl ⟨rfl, rfl⟩
      (fun _ impossible => by cases impossible) ?_
    have quiet (worker : Nat) : (before.qsbr.readers worker).recorded = none :=
      sound.unrecorded (Worker.silent (sound.ordered.quiet (by rw [here]; rfl) worker)).1
    have live := safe rfl
    cases active : before.activeRules with
    | none =>
      rw [active] at live
      exact live
    | some old =>
      rw [active] at live
      exact live.withdraw rfl quiet
  case free old =>
    refine sound.ownerInside ordered (locked rfl) (settled rfl) ⟨rfl, rfl⟩
      (dpSnapshotFree_generation _ _ _ _) ⟨rfl, rfl⟩ sound.newest ?_
    cases old with
    | none => exact safe rfl
    | some old => exact (safe rfl).free rfl
  case unlock =>
    have holds := sound.critical
    rw [settled rfl] at holds
    exact ⟨ordered, sound.follows, sound.bounded, sound.loaded, sound.stored, sound.present,
      sound.newest, holds, safe rfl⟩
  all_goals
    exact sound.ownerInside ordered (locked rfl) (settled rfl) ⟨rfl, rfl⟩ rfl ⟨rfl, rfl⟩
      sound.newest (safe rfl)

/-- An owner step keeps the whole invariant. -/
theorem Concurrent.Sound.ownerStep (sound : before.Sound capacity mark floor)
    (step : OwnerStep before before.owner after) : after.Sound capacity mark floor := by
  have ordered := sound.ordered.owner step
  generalize here : before.owner = point at step
  cases step
  case setup =>
    exact sound.ownerOutside ordered (by rw [here]; rfl) ⟨rfl, rfl⟩ ⟨rfl, rfl, rfl⟩
      ⟨rfl, rfl, rfl, rfl⟩ fun _ => .inl rfl
  case run step => exact sound.runStep (here ▸ step)
  case teardown step => exact sound.teardownStep (here ▸ step)

end OwnerSteps

section Runs
open Transition

/-- The runs begin behind a successful `dp_configure_rules`. -/
def Concurrent.Configured (state : Concurrent tables) : Prop :=
  ∃ (request : PublishRequest) (first : DpRuleSnapshot tables),
    dpSnapshotBuild tables request.faults request.flows request.routes 1 = .ok first ∧
      state = .initial first

theorem Concurrent.Configured.sound {state : Concurrent tables} (configured : state.Configured) :
    state.Sound capacity 0 0 := by
  obtain ⟨request, first, success, rfl⟩ := configured
  have generation := dpSnapshotBuild_generation success
  have single (id : Nat) :
      (Concurrent.initial first).heap id = if id = 0 then some first else none :=
    Function.update_apply (fun _ => none) 0 (some first) id
  constructor
  case ordered =>
    constructor
    case lock =>
      intro writer
      cases writer <;>
        exact ⟨fun impossible => (nomatch impossible), fun held => (nomatch held)⟩
    case covered => exact fun _ impossible => nomatch impossible
    case remote => exact fun _ impossible => nomatch impossible
    case runs => exact fun impossible => nomatch impossible
    case torn => exact fun impossible => nomatch impossible
    case ready => exact fun impossible => nomatch impossible
    case configured => exact fun _ => .inl ⟨rfl, Option.some_ne_none 0⟩
    case qsbr => exact fun _ => .inl rfl
  case follows => exact fun _ => ⟨rfl, rfl⟩
  case bounded => exact fun _ impossible => nomatch impossible
  case loaded => exact fun _ => trivial
  case stored =>
    intro id snapshot found
    rw [single] at found
    split_ifs at found with zero
    obtain rfl := Option.some.inj found
    rw [zero]
    exact ⟨Nat.zero_lt_one, generation⟩
  case present =>
    intro id below
    rw [single, if_pos (Nat.lt_one_iff.mp below)]
    exact Option.some_ne_none first
  case newest =>
    intro id active
    rw [← Option.some.inj active]
    exact Nat.zero_lt_one
  case critical => exact rfl
  case safe =>
    constructor
    case active => exact fun object active => ⟨(Option.some.inj active).symm, rfl⟩
    case held => exact fun _ _ impossible => nomatch impossible
    case record => exact fun _ _ impossible => nomatch impossible
    case retired => exact fun _ impossible => nomatch impossible
    case phase => exact trivial
    case floor => exact le_rfl
    case once => exact fun _ => Nat.zero_le 1
    case freed => exact fun _ impossible => absurd rfl impossible

/-- Every step of any thread keeps the invariant and moves the two marks forward. -/
theorem Concurrent.Sound.step {before after : Concurrent tables} {thread : Thread}
    {mark floor : Nat} (sound : before.Sound capacity mark floor)
    (step : ConcurrentStep capacity before thread after) :
    ∃ mark' floor', mark ≤ mark' ∧ floor ≤ floor' ∧ after.Sound capacity mark' floor' := by
  cases step with
  | worker _ step => exact ⟨mark, floor, le_rfl, le_rfl, sound.workerStep step⟩
  | publisher _ step => exact sound.publisherStep step
  | owner step => exact ⟨mark, floor, le_rfl, le_rfl, sound.ownerStep step⟩
  | requestStop =>
    obtain ⟨ordered, follows, bounded, loaded, stored, present, newest, critical, safe⟩ := sound
    obtain ⟨lock, covered, remote, runs, torn, ready, configured, qsbr⟩ := ordered
    exact ⟨mark, floor, le_rfl, le_rfl, ⟨lock, covered, remote, runs, torn, ready, configured, qsbr⟩,
      follows, bounded, loaded, stored, present, newest, critical, safe⟩

/-- The invariant holds at every point of every run. -/
theorem Concurrent.sound {state : Concurrent tables}
    (reachable : Reachable Concurrent.Configured (ConcurrentStep capacity) state) :
    ∃ mark floor, state.Sound capacity mark floor := by
  refine reachable.invariant (fun state => ∃ mark floor, state.Sound capacity mark floor)
    (fun start configured => ⟨0, 0, configured.sound⟩) ?_
  rintro before thread after ⟨mark, floor, sound⟩ step
  obtain ⟨mark', floor', -, -, next⟩ := sound.step step
  exact ⟨mark', floor', next⟩

/-- The publisher is about to call the registry. -/
def Publisher.usesQsbr : Publisher → Bool
  | .starting _ _ | .waiting _ _ _ _ => true
  | _ => false

theorem Publisher.inside_of_usesQsbr {point : Publisher} (uses : point.usesQsbr = true) :
    point.inside = true := by
  cases point <;> first | rfl | exact uses

theorem Publisher.Holds.registry {point : Publisher} {allocated generation floor : Nat}
    {active : Option Nat} {present : Bool}
    (holds : point.Holds allocated generation floor active present)
    (uses : point.usesQsbr = true) : present = true := by
  cases point with
  | starting => exact holds.2.2.2.1
  | waiting => exact holds.2.2.2.1
  | _ => exact nomatch uses

/-- A worker in a burst holds a live snapshot whose rank lies between the two marks. -/
theorem Concurrent.Sound.held {state : Concurrent tables} {mark floor : Nat}
    (sound : state.Sound capacity mark floor) {worker packets : Nat} {snapshot : Option Nat}
    (here : state.workers worker = .working snapshot packets) :
    ∃ id content, snapshot = some id ∧ state.heap id = some content ∧ state.freed id = 0 ∧
      content.generation = id + 1 ∧ floor ≤ id ∧ id ≤ mark := by
  have loaded := sound.loaded worker
  rw [here] at loaded
  obtain ⟨id, rfl⟩ := Option.ne_none_iff_exists'.mp loaded
  obtain ⟨live, above, below⟩ : state.freed id = 0 ∧ floor ≤ id ∧ id ≤ mark :=
    sound.safe.holds (show (state.workers worker).held = some id by rw [here]; rfl)
  have serving := (sound.ordered.serving_of_alive
    (show (state.workers worker).alive = true by rw [here]; rfl)).1
  obtain ⟨newest, active⟩ := Option.ne_none_iff_exists'.mp serving.2
  have marked : newest = mark := (sound.safe.active newest active).1
  have allocated := sound.newest newest active
  obtain ⟨content, stored⟩ := Option.ne_none_iff_exists'.mp (sound.present id (by omega))
  exact ⟨id, content, rfl, stored, live, (sound.stored id content stored).2, above, below⟩

/-- This request removes every rule. -/
def PublishRequest.withdrawAll : PublishRequest := ⟨.none, .null 0, .null 0⟩

theorem withdrawAll_built (generation : Nat) :
    dpSnapshotBuild listTables .none (.null 0) (.null 0) generation =
      .ok ⟨none, none, [], 0, generation⟩ := rfl

/-- A worker is in a burst between a publication that has returned and one that waits for it. -/
theorem overlap_reachable : ∃ state : Concurrent listTables,
    Reachable Concurrent.Configured (ConcurrentStep 2) state ∧
      state.workers 0 = .working (some 1) 1 ∧
      state.publishers 8 = .waiting (some 1) 3 2 [] ∧
      state.freed 0 = 1 ∧ state.log = [.load 0 1 (some 1), .lookup 0 1 (some 1),
        .returned 7 2, .load 0 2 (some 2), .lookup 0 2 (some 2)] := by
  have every (reader : Nat) (small : reader < 2) : reader ∈ [1, 0] := by
    simp only [List.mem_cons]
    omega
  refine ⟨_, ⟨_, _, ⟨.withdrawAll, _, withdrawAll_built 1, rfl⟩,
    Run.refl
      |>.snoc (.owner (.setup 1 true rfl rfl rfl Nat.one_pos))
      |>.snoc (.owner (.run (.begin rfl rfl)))
      |>.snoc (.owner (.run (.launchedAll le_rfl)))
      |>.snoc (.owner (.run .mainStart))
      |>.snoc (.worker 0 .enter)
      |>.snoc (.worker 0 (.register rfl Nat.two_pos))
      |>.snoc (.worker 0 .online)
      |>.snoc (.worker 0 .count)
      |>.snoc (.worker 0 .flag)
      |>.snoc (.worker 0 (.poll 1 rfl))
      |>.snoc (.worker 0 .load)
      |>.snoc (.worker 0 .lookup)
      |>.snoc (.publisher 7 (.call .withdrawAll))
      |>.snoc (.publisher 7 (.lock rfl))
      |>.snoc (.publisher 7 .enter)
      |>.snoc (.publisher 7 (.accept rfl rfl rfl (Option.some_ne_none 0)))
      |>.snoc (.publisher 7 (.build (withdrawAll_built 2)))
      |>.snoc (.publisher 7 .exchange)
      |>.snoc (.publisher 7 .number)
      |>.snoc (.publisher 7 .succeed)
      |>.snoc (.publisher 7 .start)
      |>.snoc (.worker 0 .quiescent)
      |>.snoc (.publisher 7 (.see 0 fun _ value same => Nat.le_of_eq (Option.some.inj same)))
      |>.snoc (.publisher 7 (.see 1 fun impossible => nomatch impossible))
      |>.snoc (.publisher 7 (.pass every))
      |>.snoc (.publisher 7 .free)
      |>.snoc (.publisher 7 .leave)
      |>.snoc (.publisher 7 .unlock)
      |>.snoc (.worker 0 (.poll 2 rfl))
      |>.snoc (.worker 0 .load)
      |>.snoc (.worker 0 .lookup)
      |>.snoc (.publisher 8 (.call .withdrawAll))
      |>.snoc (.publisher 8 (.lock rfl))
      |>.snoc (.publisher 8 .enter)
      |>.snoc (.publisher 8 (.accept rfl rfl rfl (Option.some_ne_none 1)))
      |>.snoc (.publisher 8 (.build (withdrawAll_built 3)))
      |>.snoc (.publisher 8 .exchange)
      |>.snoc (.publisher 8 .number)
      |>.snoc (.publisher 8 .succeed)
      |>.snoc (.publisher 8 .start)⟩, rfl, rfl, rfl, rfl⟩
/-- No thread reaches a snapshot or a registry that has been freed, and every snapshot is freed at
most once. -/
theorem snapshots_reclaimed_safely {state : Concurrent tables}
    (reachable : Reachable Concurrent.Configured (ConcurrentStep capacity) state) :
    (∀ worker snapshot packets, state.workers worker = .working snapshot packets →
      ∃ id content, snapshot = some id ∧ state.heap id = some content ∧ state.freed id = 0) ∧
    (∀ id, state.freed id ≤ 1) ∧
    (∀ caller, (state.publishers caller).usesQsbr = true → state.qsbrFreed = 0) ∧
    (∀ worker, (state.workers worker).alive = true → state.qsbrFreed = 0) := by
  obtain ⟨mark, floor, sound⟩ := Concurrent.sound reachable
  refine ⟨fun worker snapshot packets here => ?_, sound.safe.once, fun caller uses => ?_,
    fun worker alive => (sound.ordered.serving_of_alive alive).2⟩
  · obtain ⟨id, content, held, stored, live, -⟩ := sound.held here
    exact ⟨id, content, held, stored, live⟩
  · have inside := Publisher.inside_of_usesQsbr uses
    exact sound.ordered.qsbr_of_inside inside ((sound.here rfl inside).2.1.registry uses)

theorem snapshots_reclaimed_safely_overlap : ∃ state : Concurrent listTables,
    state.workers 0 = .working (some 1) 1 ∧ state.freed 0 = 1 ∧ state.freed 1 = 0 ∧
      (∀ id, state.freed id ≤ 1) ∧ (state.publishers 8).usesQsbr = true ∧
        state.qsbrFreed = 0 := by
  obtain ⟨state, reachable, worker, publisher, freed, -⟩ := overlap_reachable
  obtain ⟨live, once, registry, -⟩ := snapshots_reclaimed_safely reachable
  obtain ⟨id, content, same, -, kept⟩ := live 0 (some 1) 1 worker
  obtain rfl := Option.some.inj same
  have uses : (state.publishers 8).usesQsbr = true := by
    rw [publisher]
    rfl
  exact ⟨state, worker, freed, kept, once, uses, registry 8 uses⟩

end Runs

end FlowRouter.Native
