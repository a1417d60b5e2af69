import FlowRouter.Library.Mutex
import FlowRouter.Library.Quiescence
import FlowRouter.Native.Concurrency

namespace FlowRouter.Native
open Mutex

variable {tables : RteTables} {capacity : Nat}

/-- A worker may touch shared memory. -/
def Worker.alive : Worker → Bool
  | .absent | .done => false
  | _ => true

def Worker.registers : Worker → Bool
  | .registered | .counting | .flagging | .testing | .loading _ | .working _ _ | .retiring
  | .offline => true
  | _ => false

def Worker.isOnline : Worker → Bool
  | .counting | .flagging | .testing | .loading _ | .working _ _ | .retiring => true
  | _ => false

/-- A worker holds the snapshot that it has loaded until it reports a quiescent state. -/
def Worker.held : Worker → Option Nat
  | .working snapshot _ => snapshot
  | _ => none

/-- The publisher is between taking and releasing the writer lock. -/
def Publisher.inside : Publisher → Bool
  | .idle | .locking _ => false
  | _ => true

def OwnerPoint.inside : OwnerPoint → Bool
  | .entering | .exchanging | .freeing _ | .freeingQsbr | .clearingQsbr | .unconfiguring
  | .leaving | .unlocking => true
  | _ => false

/-- The owner is inside `dp_dataplane_run`. -/
def OwnerPoint.runs : OwnerPoint → Bool
  | .launching _ | .flagging _ | .stopping _ | .mainFlagging | .mainRunning | .joining _ _
  | .clearing _ _ | .finishing => true
  | _ => false

/-- The teardown has withdrawn the dataplane. -/
def OwnerPoint.torn : OwnerPoint → Bool
  | .locking => true
  | point => point.inside

/-- The teardown has taken the rules but the configuration flag is still set. -/
def OwnerPoint.dismantling : OwnerPoint → Bool
  | .freeing _ | .freeingQsbr | .clearingQsbr | .unconfiguring => true
  | _ => false

/-- These workers may have been launched and have not been joined. -/
def OwnerPoint.Covers (workerCount worker : Nat) : OwnerPoint → Prop
  | .launching index => 1 ≤ worker ∧ worker < index ∧ worker < workerCount
  | .flagging index => 1 ≤ worker ∧ worker ≤ index ∧ worker < workerCount
  | .stopping launched => 1 ≤ worker ∧ worker ≤ launched
  | .mainFlagging => 1 ≤ worker ∧ worker < workerCount
  | .mainRunning => worker = 0 ∨ worker < workerCount
  | .joining index launched => index ≤ worker ∧ worker ≤ launched
  | .clearing index launched => index < worker ∧ worker ≤ launched
  | _ => False

/-- The writer lock has these parties. -/
def Concurrent.inside (state : Concurrent tables) : Writer → Bool
  | .owner => state.owner.inside
  | .publisher id => (state.publishers id).inside

/-- The rules and the registry are in place. -/
def Concurrent.Serving (state : Concurrent tables) : Prop :=
  state.rulesQsbr = true ∧ state.activeRules ≠ none

/-- This is the part of the invariant that orders the owner, its workers and the teardown. -/
structure Concurrent.Ordered (state : Concurrent tables) : Prop where
  lock : Exclusive state.writerLock state.inside
  covered : ∀ worker, (state.workers worker).alive = true →
    state.owner.Covers state.workerCount worker
  remote : ∀ index, state.owner = .launching index → 1 ≤ index
  runs : state.owner.runs = true → state.ready = true
  torn : state.owner.torn = true → state.ready = false
  ready : state.ready = true → state.rulesConfigured = true
  configured : state.rulesConfigured = true → state.Serving ∨ state.owner.dismantling = true
  qsbr : state.rulesQsbr = true → state.qsbrFreed = 0 ∨ state.owner = .clearingQsbr

/-- A covered worker runs inside `dp_dataplane_run`. -/
theorem OwnerPoint.Covers.runs {point : OwnerPoint} {workerCount worker : Nat}
    (covers : point.Covers workerCount worker) : point.runs = true := by
  cases point <;> first | rfl | exact covers.elim

theorem OwnerPoint.torn_of_inside {point : OwnerPoint} (inside : point.inside = true) :
    point.torn = true := by
  cases point <;> first | rfl | exact inside

theorem OwnerPoint.runs_of_inside {point : OwnerPoint} (inside : point.inside = true) :
    point.runs = false := by
  cases point <;> first | rfl | exact inside.symm

/-- Outside the teardown the rules and the registry are left alone. -/
theorem OwnerPoint.standing_of_intact {point : OwnerPoint} (intact : point.torn = false) :
    point.inside = false ∧ point.dismantling = false ∧ point ≠ .clearingQsbr := by
  cases point <;> first | exact ⟨rfl, rfl, nofun⟩ | exact nomatch intact

section Ordered
variable {state : Concurrent tables}

theorem Concurrent.Ordered.serving (ordered : state.Ordered)
    (standing : state.owner.dismantling = false) (set : state.rulesConfigured = true) :
    state.Serving :=
  (ordered.configured set).resolve_right (Bool.eq_false_iff.mp standing)

theorem Concurrent.Ordered.live (ordered : state.Ordered)
    (earlier : state.owner ≠ .clearingQsbr) (set : state.rulesQsbr = true) :
    state.qsbrFreed = 0 :=
  (ordered.qsbr set).resolve_right earlier

/-- A ready dataplane has its rules and its registry. -/
theorem Concurrent.Ordered.serving_of_ready (ordered : state.Ordered) (ready : state.ready = true) :
    state.Serving ∧ (state.rulesQsbr = true → state.qsbrFreed = 0) := by
  have intact : state.owner.torn = false :=
    Bool.eq_false_iff.mpr fun torn => absurd ((ordered.torn torn).symm.trans ready) (by decide)
  obtain ⟨-, standing, earlier⟩ := OwnerPoint.standing_of_intact intact
  exact ⟨ordered.serving standing (ordered.ready ready), ordered.live earlier⟩

/-- While a worker is alive the rules and the registry are in place. -/
theorem Concurrent.Ordered.serving_of_alive (ordered : state.Ordered) {worker : Nat}
    (alive : (state.workers worker).alive = true) :
    state.Serving ∧ state.qsbrFreed = 0 := by
  obtain ⟨serving, live⟩ :=
    ordered.serving_of_ready (ordered.runs (ordered.covered worker alive).runs)
  exact ⟨serving, live serving.1⟩

/-- A publisher in the writer lock finds no teardown at work. -/
theorem Concurrent.Ordered.qsbr_of_inside (ordered : state.Ordered) {id : Nat}
    (inside : (state.publishers id).inside = true) (present : state.rulesQsbr = true) :
    state.qsbrFreed = 0 := by
  refine ordered.live (fun clearing => ?_) present
  have outside : state.inside .owner = false :=
    ordered.lock.outside (show state.inside (.publisher id) = true from inside)
      fun same => nomatch same
  rw [Concurrent.inside, clearing] at outside
  exact absurd outside (by decide)

/-- No worker is alive while the owner is inside the writer lock. -/
theorem Concurrent.Ordered.quiet (ordered : state.Ordered) (inside : state.owner.inside = true)
    (worker : Nat) : (state.workers worker).alive = false := by
  refine Bool.eq_false_iff.mpr fun alive => ?_
  have ready := ordered.runs (ordered.covered worker alive).runs
  have unready := ordered.torn (OwnerPoint.torn_of_inside inside)
  exact absurd (unready.symm.trans ready) (by decide)

end Ordered

/-- A worker changes neither the rules nor the owner nor any other worker. -/
structure WorkerFrame (before after : Concurrent tables) (worker : Nat) : Prop where
  alive : (before.workers worker).alive = true
  others : ∀ other, other ≠ worker → after.workers other = before.workers other ∧
    after.qsbr.readers other = before.qsbr.readers other
  counter : after.qsbr.counter = before.qsbr.counter
  memory : after.heap = before.heap ∧ after.allocated = before.allocated ∧
    after.freed = before.freed
  rules : after.activeRules = before.activeRules ∧ after.rulesQsbr = before.rulesQsbr ∧
    after.qsbrFreed = before.qsbrFreed ∧ after.rulesConfigured = before.rulesConfigured ∧
    after.stats = before.stats
  threads : after.publishers = before.publishers ∧ after.owner = before.owner ∧
    after.writerLock = before.writerLock
  run : after.ready = before.ready ∧ after.workerCount = before.workerCount

theorem WorkerStep.frame {before after : Concurrent tables} {worker : Nat}
    (step : WorkerStep capacity before worker (before.workers worker) after) :
    WorkerFrame before after worker := by
  generalize here : before.workers worker = point at step
  have moved (next : Worker) (other : Nat) (differs : other ≠ worker) :
      Function.update before.workers worker next other = before.workers other :=
    Function.update_of_ne differs _ _
  have reader (registered : Bool) (recorded : Option Nat) (other : Nat) (differs : other ≠ worker) :
      (before.qsbr.setReader worker registered recorded).readers other =
        before.qsbr.readers other :=
    Function.update_of_ne differs _ _
  cases step
  case register | online | quiescent | offline | unregister =>
    exact ⟨by rw [here]; rfl, fun other differs => ⟨moved _ other differs, reader _ _ other differs⟩,
      rfl, ⟨rfl, rfl, rfl⟩, ⟨rfl, rfl, rfl, rfl, rfl⟩, ⟨rfl, rfl, rfl⟩, ⟨rfl, rfl⟩⟩
  all_goals
    exact ⟨by rw [here]; rfl, fun other differs => ⟨moved _ other differs, rfl⟩,
      rfl, ⟨rfl, rfl, rfl⟩, ⟨rfl, rfl, rfl, rfl, rfl⟩, ⟨rfl, rfl, rfl⟩, ⟨rfl, rfl⟩⟩

/-- A worker step keeps the order. -/
theorem Concurrent.Ordered.worker {before after : Concurrent tables} (ordered : before.Ordered)
    {worker : Nat} (step : WorkerStep capacity before worker (before.workers worker) after) :
    after.Ordered := by
  obtain ⟨alive, others, -, -, ⟨active, present, freed, configured, -⟩,
    ⟨publishers, owner, lock⟩, ready, count⟩ := step.frame
  have inside : ∀ writer, after.inside writer = before.inside writer := by
    intro writer
    cases writer with
    | owner => rw [Concurrent.inside, Concurrent.inside, owner]
    | publisher id => rw [Concurrent.inside, Concurrent.inside, publishers]
  constructor
  case lock =>
    rw [lock]
    exact ordered.lock.keep inside
  case covered =>
    intro other living
    rw [owner, count]
    by_cases same : other = worker
    · exact same ▸ ordered.covered worker alive
    · exact ordered.covered other (by rwa [← (others other same).1])
  case remote => rw [owner]; exact ordered.remote
  case runs => rw [owner, ready]; exact ordered.runs
  case torn => rw [owner, ready]; exact ordered.torn
  case ready => rw [ready, configured]; exact ordered.ready
  case configured =>
    rw [configured, Concurrent.Serving, present, active, owner]
    exact ordered.configured
  case qsbr => rw [present, freed, owner]; exact ordered.qsbr

/-- A publisher leaves the workers, the owner and the flags of the lifecycle alone. -/
structure PublisherFrame (before after : Concurrent tables) (id : Nat) : Prop where
  others : ∀ other, other ≠ id → after.publishers other = before.publishers other
  threads : after.workers = before.workers ∧ after.owner = before.owner
  readers : after.qsbr.readers = before.qsbr.readers
  active : before.activeRules ≠ none → after.activeRules ≠ none
  rules : after.rulesQsbr = before.rulesQsbr ∧ after.qsbrFreed = before.qsbrFreed ∧
    after.rulesConfigured = before.rulesConfigured
  run : after.ready = before.ready ∧ after.workerCount = before.workerCount

theorem PublisherStep.frame {before after : Concurrent tables} {id : Nat}
    (step : PublisherStep capacity before id (before.publishers id) after) :
    PublisherFrame before after id := by
  generalize before.publishers id = point at step
  have moved (next : Publisher) (other : Nat) (differs : other ≠ id) :
      Function.update before.publishers id next other = before.publishers other :=
    Function.update_of_ne differs _ _
  cases step
  case exchange =>
    exact ⟨moved _, ⟨rfl, rfl⟩, rfl, fun _ => Option.some_ne_none _, ⟨rfl, rfl, rfl⟩, ⟨rfl, rfl⟩⟩
  all_goals exact ⟨moved _, ⟨rfl, rfl⟩, rfl, fun some => some, ⟨rfl, rfl, rfl⟩, ⟨rfl, rfl⟩⟩

/-- A publisher takes the lock, releases it or stays on its side. -/
theorem PublisherStep.crosses {before after : Concurrent tables} {id : Nat}
    (step : PublisherStep capacity before id (before.publishers id) after) :
    (before.writerLock = none ∧ after.writerLock = some (.publisher id) ∧
        (after.publishers id).inside = true) ∨
      ((before.publishers id).inside = true ∧ after.writerLock = none ∧
        (after.publishers id).inside = false) ∨
      (after.writerLock = before.writerLock ∧
        (after.publishers id).inside = (before.publishers id).inside) := by
  generalize here : before.publishers id = point at step
  have moved := before.movePublisher_self id
  cases step
  case lock free => exact .inl ⟨free, rfl, congrArg Publisher.inside (moved _)⟩
  case unlock => exact .inr (.inl ⟨rfl, rfl, congrArg Publisher.inside (moved _)⟩)
  all_goals exact .inr (.inr ⟨rfl, (congrArg Publisher.inside (moved _)).trans rfl⟩)

/-- A publisher step keeps the writer lock exclusive. -/
theorem PublisherStep.exclusive {before after : Concurrent tables} {caller : Nat}
    (step : PublisherStep capacity before caller (before.publishers caller) after)
    (lock : Exclusive before.writerLock before.inside) :
    Exclusive after.writerLock after.inside := by
  obtain ⟨others, ⟨-, owner⟩, -⟩ := step.frame
  have only : ∀ writer, writer ≠ .publisher caller →
      after.inside writer = before.inside writer := by
    intro writer differs
    cases writer with
    | owner => rw [Concurrent.inside, Concurrent.inside, owner]
    | publisher other =>
      rw [Concurrent.inside, Concurrent.inside, others other fun same => differs (by rw [same])]
  rcases step.crosses with ⟨free, taken, enters⟩ | ⟨here, released, leaves⟩ | ⟨same, stays⟩
  · rw [free] at lock
    rw [taken]
    exact lock.acquire only enters
  · rw [released]
    exact lock.release (show before.inside (.publisher caller) = true from here) only leaves
  · rw [same]
    apply lock.keep
    intro writer
    by_cases mine : writer = .publisher caller
    · exact mine ▸ stays
    · exact only writer mine

/-- A publisher step keeps the order. -/
theorem Concurrent.Ordered.publisher {before after : Concurrent tables} (ordered : before.Ordered)
    {id : Nat} (step : PublisherStep capacity before id (before.publishers id) after) :
    after.Ordered := by
  obtain ⟨-, ⟨workers, owner⟩, -, active, ⟨present, freed, configured⟩, ready, count⟩ :=
    step.frame
  constructor
  case lock => exact step.exclusive ordered.lock
  case covered => rw [workers, owner, count]; exact ordered.covered
  case remote => rw [owner]; exact ordered.remote
  case runs => rw [owner, ready]; exact ordered.runs
  case torn => rw [owner, ready]; exact ordered.torn
  case ready => rw [ready, configured]; exact ordered.ready
  case configured =>
    rw [configured, Concurrent.Serving, present, owner]
    exact fun set => (ordered.configured set).imp_left fun serving => ⟨serving.1, active serving.2⟩
  case qsbr => rw [present, freed, owner]; exact ordered.qsbr

section Owner
variable {before after : Concurrent tables}

/-- The owner leaves the publishers alone. -/
theorem Concurrent.inside_of_publishers (same : after.publishers = before.publishers)
    (owner : after.owner.inside = before.owner.inside) (writer : Writer) :
    after.inside writer = before.inside writer := by
  cases writer with
  | owner => exact owner
  | publisher id => rw [Concurrent.inside, Concurrent.inside, same]

/-- Outside the teardown the owner keeps the rules. -/
theorem Concurrent.Ordered.outside (ordered : before.Ordered)
    (was : before.owner.torn = false) (intact : after.owner.torn = false)
    (threads : after.publishers = before.publishers ∧ after.writerLock = before.writerLock)
    (rules : after.activeRules = before.activeRules ∧ after.rulesQsbr = before.rulesQsbr ∧
      after.qsbrFreed = before.qsbrFreed ∧ after.rulesConfigured = before.rulesConfigured)
    (ready : after.ready = true → before.rulesConfigured = true)
    (runs : after.owner.runs = true → after.ready = true)
    (remote : ∀ index, after.owner = .launching index → 1 ≤ index)
    (covered : ∀ worker, (after.workers worker).alive = true →
      after.owner.Covers after.workerCount worker) : after.Ordered := by
  obtain ⟨here, standing, earlier⟩ := OwnerPoint.standing_of_intact was
  have there := (OwnerPoint.standing_of_intact intact).1
  obtain ⟨active, present, freed, configured⟩ := rules
  constructor
  case lock =>
    rw [threads.2]
    exact ordered.lock.keep
      (Concurrent.inside_of_publishers threads.1 (there.trans here.symm))
  case covered => exact covered
  case remote => exact remote
  case runs => exact runs
  case torn => exact fun torn => absurd (intact.symm.trans torn) (by decide)
  case ready => rw [configured]; exact ready
  case configured =>
    rw [configured, Concurrent.Serving, present, active]
    exact fun set => .inl (ordered.serving standing set)
  case qsbr =>
    rw [present, freed]
    exact fun set => .inl (ordered.live earlier set)

/-- Inside the lock the owner takes the rules apart while no worker is alive. -/
theorem Concurrent.Ordered.inside (ordered : before.Ordered)
    (was : before.owner.inside = true) (stays : after.owner.inside = true)
    (threads : after.publishers = before.publishers ∧ after.workers = before.workers ∧
      after.writerLock = before.writerLock)
    (ready : after.ready = before.ready)
    (configured : after.rulesConfigured = true → after.Serving ∨ after.owner.dismantling = true)
    (qsbr : after.rulesQsbr = true → after.qsbrFreed = 0 ∨ after.owner = .clearingQsbr) :
    after.Ordered := by
  have unready := ordered.torn (OwnerPoint.torn_of_inside was)
  obtain ⟨publishers, workers, lock⟩ := threads
  constructor
  case lock =>
    rw [lock]
    exact ordered.lock.keep (Concurrent.inside_of_publishers publishers (stays.trans was.symm))
  case covered =>
    rw [workers]
    exact fun worker alive => absurd ((ordered.quiet was worker).symm.trans alive) (by decide)
  case remote =>
    intro index launching
    rw [launching] at stays
    exact nomatch stays
  case runs =>
    exact fun runs => absurd ((OwnerPoint.runs_of_inside stays).symm.trans runs) (by decide)
  case torn => exact fun _ => ready.trans unready
  case ready => exact fun set => absurd ((ready.trans unready).symm.trans set) (by decide)
  case configured => exact configured
  case qsbr => exact qsbr

end Owner

section OwnerSteps
variable {before after : Concurrent tables}

theorem launched_alive {workers : Nat → Worker} {index worker : Nat}
    (alive : (Function.update workers index .entering worker).alive = true) :
    worker = index ∨ (workers worker).alive = true := by
  by_cases same : worker = index
  · exact .inl same
  · rw [Function.update_of_ne same] at alive
    exact .inr alive

/-- Launches and joins cover every worker that is alive. -/
theorem Concurrent.Ordered.run (ordered : before.Ordered)
    (step : RunStep before before.owner after) : after.Ordered := by
  generalize here : before.owner = point at step
  have covered := ordered.covered
  have runs := ordered.runs
  have kept : before.activeRules = before.activeRules ∧ before.rulesQsbr = before.rulesQsbr ∧
      before.qsbrFreed = before.qsbrFreed ∧ before.rulesConfigured = before.rulesConfigured :=
    ⟨rfl, rfl, rfl, rfl⟩
  have ready := ordered.ready
  have intact : before.owner.torn = false := by
    rw [here]
    cases step <;> rfl
  rw [here] at covered runs
  cases step
  case begin prepared fresh =>
    exact ordered.outside intact rfl ⟨rfl, rfl⟩ kept ready (fun _ => prepared)
      (fun index same => Nat.le_of_eq (OwnerPoint.launching.inj same))
      fun worker alive => (covered worker alive).elim
  case launch index small =>
    refine ordered.outside intact rfl ⟨rfl, rfl⟩ kept ready (fun _ => runs rfl)
      (fun _ same => nomatch same) fun worker alive => ?_
    rcases launched_alive alive with rfl | alive
    · exact ⟨ordered.remote _ here, Nat.le_refl _, small⟩
    · obtain ⟨least, below, bounded⟩ := covered worker alive
      exact ⟨least, Nat.le_of_lt below, bounded⟩
  case launchFailed index small =>
    refine ordered.outside intact rfl ⟨rfl, rfl⟩ kept ready (fun _ => runs rfl)
      (fun _ same => nomatch same) fun worker alive => ?_
    obtain ⟨least, below, -⟩ := covered worker alive
    exact ⟨least, by omega⟩
  case launchedAll index large =>
    refine ordered.outside intact rfl ⟨rfl, rfl⟩ kept ready (fun _ => runs rfl)
      (fun _ same => nomatch same) fun worker alive => ?_
    obtain ⟨least, -, bounded⟩ := covered worker alive
    exact ⟨least, bounded⟩
  case flag index =>
    refine ordered.outside intact rfl ⟨rfl, rfl⟩ kept ready (fun _ => runs rfl)
      (fun next same => by rw [← OwnerPoint.launching.inj same]; omega) fun worker alive => ?_
    obtain ⟨least, below, bounded⟩ := covered worker alive
    exact ⟨least, by omega, bounded⟩
  case stopAll launched =>
    exact ordered.outside intact rfl ⟨rfl, rfl⟩ kept ready (fun _ => runs rfl)
      (fun _ same => nomatch same) covered
  case mainStart =>
    refine ordered.outside intact rfl ⟨rfl, rfl⟩ kept ready (fun _ => runs rfl)
      (fun _ same => nomatch same) fun worker alive => ?_
    rcases launched_alive alive with rfl | alive
    · exact .inl rfl
    · exact .inr (covered worker alive).2
  case mainDone finished =>
    refine ordered.outside intact rfl ⟨rfl, rfl⟩ kept ready (fun _ => runs rfl)
      (fun _ same => nomatch same) fun worker alive => ?_
    have remote : worker ≠ 0 := by
      rintro rfl
      change (before.workers 0).alive = true at alive
      rw [finished] at alive
      exact nomatch alive
    have := (covered worker alive).resolve_left remote
    exact ⟨by omega, by omega⟩
  case join index launched bounded finished =>
    refine ordered.outside intact rfl ⟨rfl, rfl⟩ kept ready (fun _ => runs rfl)
      (fun _ same => nomatch same) fun worker alive => ?_
    obtain ⟨least, most⟩ := covered worker alive
    have later : worker ≠ index := by
      rintro rfl
      change (before.workers worker).alive = true at alive
      rw [finished] at alive
      exact nomatch alive
    exact ⟨by omega, most⟩
  case clear index launched =>
    exact ordered.outside intact rfl ⟨rfl, rfl⟩ kept ready (fun _ => runs rfl)
      (fun _ same => nomatch same) covered
  case joinedAll index launched past =>
    refine ordered.outside intact rfl ⟨rfl, rfl⟩ kept ready (fun _ => runs rfl)
      (fun _ same => nomatch same) fun worker alive => ?_
    obtain ⟨least, most⟩ := covered worker alive
    omega
  case finish =>
    exact ordered.outside intact rfl ⟨rfl, rfl⟩ kept ready
      (fun impossible => nomatch impossible) (fun _ same => nomatch same)
      fun worker alive => (covered worker alive).elim

/-- The teardown takes the rules apart in the writer lock. -/
theorem Concurrent.Ordered.teardown (ordered : before.Ordered)
    (step : TeardownStep before before.owner after) : after.Ordered := by
  generalize here : before.owner = point at step
  have covered := ordered.covered
  have kept : before.activeRules = before.activeRules ∧ before.rulesQsbr = before.rulesQsbr ∧
      before.qsbrFreed = before.qsbrFreed ∧ before.rulesConfigured = before.rulesConfigured :=
    ⟨rfl, rfl, rfl, rfl⟩
  have torn := ordered.torn
  rw [here] at covered torn
  have serving (standing : point.dismantling = false) (set : before.rulesConfigured = true) :
      before.Serving ∨ after.owner.dismantling = true :=
    .inl (ordered.serving (here ▸ standing) set)
  have live (earlier : point ≠ .clearingQsbr) (set : before.rulesQsbr = true) :
      before.qsbrFreed = 0 ∨ after.owner = .clearingQsbr :=
    .inl (ordered.live (here ▸ earlier) set)
  have only (writer : Writer) (differs : writer ≠ .owner) (point : OwnerPoint)
      (lock : Option Writer) :
      ({ before with owner := point, writerLock := lock } : Concurrent tables).inside writer =
        before.inside writer := by
    cases writer with
    | owner => exact absurd rfl differs
    | publisher id => rfl
  cases step
  case begin | noActive | someActive | noReaders | someReaders | stopped | notStopped
      | stoppedAll =>
    exact ordered.outside (by rw [here]; rfl) rfl ⟨rfl, rfl⟩ kept ordered.ready
      (fun impossible => nomatch impossible) (fun _ same => nomatch same)
      fun worker alive => (covered worker alive).elim
  case unready =>
    constructor
    case lock => exact ordered.lock.keep (Concurrent.inside_of_publishers rfl (by rw [here]; rfl))
    case covered => exact fun worker alive => (covered worker alive).elim
    case remote => exact fun _ same => nomatch same
    case runs => exact fun impossible => nomatch impossible
    case torn => exact fun _ => rfl
    case ready => exact fun impossible => nomatch impossible
    case configured => exact serving rfl
    case qsbr => exact live nofun
  case lock free =>
    have lock := ordered.lock
    rw [free] at lock
    constructor
    case lock => exact lock.acquire (fun writer differs => only writer differs _ _) rfl
    case covered => exact fun worker alive => (covered worker alive).elim
    case remote => exact fun _ same => nomatch same
    case runs => exact fun impossible => nomatch impossible
    case torn => exact fun _ => torn rfl
    case ready => exact ordered.ready
    case configured => exact serving rfl
    case qsbr => exact live nofun
  case enter =>
    exact ordered.inside (by rw [here]; rfl) rfl ⟨rfl, rfl, rfl⟩ rfl
      (serving rfl)
      (live nofun)
  case exchange =>
    exact ordered.inside (by rw [here]; rfl) rfl ⟨rfl, rfl, rfl⟩ rfl (fun _ => .inr rfl)
      (live nofun)
  case free old =>
    exact ordered.inside (by rw [here]; rfl) rfl ⟨rfl, rfl, rfl⟩ rfl (fun _ => .inr rfl)
      (live nofun)
  case freeQsbr present =>
    exact ordered.inside (by rw [here]; rfl) rfl ⟨rfl, rfl, rfl⟩ rfl (fun _ => .inr rfl)
      (fun _ => .inr rfl)
  case noQsbr absent =>
    exact ordered.inside (by rw [here]; rfl) rfl ⟨rfl, rfl, rfl⟩ rfl (fun _ => .inr rfl)
      (fun present => absurd (absent.symm.trans present) (by decide))
  case clearQsbr =>
    exact ordered.inside (by rw [here]; rfl) rfl ⟨rfl, rfl, rfl⟩ rfl (fun _ => .inr rfl)
      (fun impossible => nomatch impossible)
  case unconfigure =>
    exact ordered.inside (by rw [here]; rfl) rfl ⟨rfl, rfl, rfl⟩ rfl
      (fun impossible => nomatch impossible)
      (live nofun)
  case leave =>
    exact ordered.inside (by rw [here]; rfl) rfl ⟨rfl, rfl, rfl⟩ rfl
      (serving rfl)
      (live nofun)
  case unlock =>
    have inside : before.inside .owner = true := by
      rw [Concurrent.inside, here]
      rfl
    constructor
    case lock => exact ordered.lock.release inside (fun writer differs => only writer differs _ _) rfl
    case covered => exact fun worker alive => (covered worker alive).elim
    case remote => exact fun _ same => nomatch same
    case runs => exact fun impossible => nomatch impossible
    case torn => exact fun impossible => nomatch impossible
    case ready => exact ordered.ready
    case configured => exact serving rfl
    case qsbr => exact live nofun

/-- An owner step keeps the order. -/
theorem Concurrent.Ordered.owner (ordered : before.Ordered)
    (step : OwnerStep before before.owner after) : after.Ordered := by
  generalize here : before.owner = point at step
  cases step
  case setup workerCount complete initialized unready configured many =>
    have covered := ordered.covered
    rw [here] at covered
    exact ordered.outside (by rw [here]; rfl) (by rw [here]; rfl) ⟨rfl, rfl⟩
      ⟨rfl, rfl, rfl, rfl⟩ (fun _ => configured)
      (by rw [here]; exact fun impossible => nomatch impossible)
      (by rw [here]; exact fun _ same => nomatch same)
      fun worker alive => (covered worker alive).elim
  case run step => exact ordered.run (here ▸ step)
  case teardown step => exact ordered.teardown (here ▸ step)

end OwnerSteps

end FlowRouter.Native
