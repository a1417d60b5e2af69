import FlowRouter.Native.Reclamation

namespace FlowRouter.Native
open Mutex Transition

variable {tables : RteTables} {capacity : Nat}

/-- These are the shared fields that a rule call may change. -/
structure Ledger where
  activeRules : Option Nat
  rulesConfigured : Bool
  rulesQsbr : Bool
  stats : DpRuleStats

/-- The books also list the snapshots in memory. -/
structure Books (tables : RteTables) where
  heap : Nat → Option (DpRuleSnapshot tables)
  allocated : Nat
  freed : Nat → Nat
  ledger : Ledger

def Concurrent.books (state : Concurrent tables) : Books tables :=
  ⟨state.heap, state.allocated, state.freed,
    ⟨state.activeRules, state.rulesConfigured, state.rulesQsbr, state.stats⟩⟩

/-- A snapshot is live from its build to its free. -/
def Books.Live (books : Books tables) (id : Nat) : Prop :=
  books.heap id ≠ none ∧ books.freed id = 0

inductive RuleCall where
  | configure
  | publish (caller : Nat)
  deriving DecidableEq

/-- A call has read one ledger under the writer lock and left another. It hands a generation back
when it stores through its generation pointer. -/
structure CallRecord where
  call : RuleCall
  opening : Ledger
  closing : Ledger
  status : Int
  generation : Option Nat

/-- The records of the completed calls are in the order of the writer lock. The ledger is the one
that the call in the lock has found. -/
structure Account (tables : RteTables) where
  shared : Concurrent tables
  opening : Ledger
  calls : List CallRecord

/-- The process has initialized the runtime and has called no rule function. -/
def Concurrent.fresh (tables : RteTables) : Concurrent tables where
  heap _ := none
  allocated := 0
  freed _ := 0
  activeRules := none
  qsbr := .initial
  rulesQsbr := false
  qsbrFreed := 0
  writerLock := none
  writerActive := false
  initialized := true
  rulesConfigured := false
  ready := false
  running := false
  ran := false
  stop := false
  activeWorkers := 0
  registeredReaders := 0
  workerCount := 0
  launched _ := false
  readerRegistered _ := false
  stats := .zero
  workers _ := .absent
  publishers _ := .idle
  owner := .idle
  bursts _ := 0
  log := []

def Account.Fresh (state : Account tables) : Prop :=
  state = ⟨.fresh tables, (Concurrent.fresh tables).books.ledger, []⟩

/-- These are the fields that `dp_configure_rules` reads, with the snapshot behind the pointer. -/
def Concurrent.dpState (state : Concurrent tables) : DpState tables where
  initialized := state.initialized
  rulesConfigured := state.rulesConfigured
  ready := state.ready
  running := state.running
  ran := state.ran
  activeRules := state.activeRules.bind state.heap
  rulesQsbr := state.rulesQsbr
  stats := state.stats

/-- A configuration that succeeds stores its snapshot in new memory. -/
def Concurrent.configured (state : Concurrent tables) (outcome : Int × DpState tables) :
    Concurrent tables :=
  if outcome.1 < 0 then
    { state with rulesQsbr := outcome.2.rulesQsbr, stats := outcome.2.stats }
  else
    { state with
      heap := Function.update state.heap state.allocated outcome.2.activeRules
      allocated := state.allocated + 1
      activeRules := some state.allocated
      rulesConfigured := outcome.2.rulesConfigured
      rulesQsbr := outcome.2.rulesQsbr
      stats := outcome.2.stats }

/-- No other thread touches the fields of `dp_configure_rules` during the call. -/
def Account.configure (state : Account tables) (qsbrFault : Option QsbrFault)
    (request : PublishRequest) : Account tables :=
  let outcome := dpConfigureRules qsbrFault request.faults request.flows request.routes
    state.shared.dpState
  let after := state.shared.configured outcome
  { state with
    shared := after
    calls := state.calls ++
      [⟨.configure, state.shared.books.ledger, after.books.ledger, outcome.1, none⟩] }

/-- A publisher opens its record with the lock and closes it with the unlock. -/
def Account.record (state : Account tables) (caller : Nat) (after : Concurrent tables) :
    Account tables where
  shared := after
  opening :=
    match state.shared.publishers caller with
    | .locking _ => state.shared.books.ledger
    | _ => state.opening
  calls :=
    match state.shared.publishers caller with
    | .unlocking status published => state.calls ++
        [⟨.publish caller, state.opening, after.books.ledger, status, published⟩]
    | _ => state.calls

/-- The owner configures only while nobody publishes, and nobody tears down. -/
inductive AccountStep (capacity : Nat) (state : Account tables) : Thread → Account tables → Prop
  | configure (qsbrFault : Option QsbrFault) (request : PublishRequest) :
      state.shared.owner = .idle → (∀ caller, state.shared.publishers caller = .idle) →
      AccountStep capacity state .owner (state.configure qsbrFault request)
  | publishNull (caller : Nat) :
      state.shared.publishers caller = .idle →
      AccountStep capacity state (.publisher caller)
        { state with calls := state.calls ++
            [⟨.publish caller, state.shared.books.ledger, state.shared.books.ledger, -einval,
              none⟩] }
  | publisher (caller : Nat) {after : Concurrent tables} :
      PublisherStep capacity state.shared caller (state.shared.publishers caller) after →
      AccountStep capacity state (.publisher caller) (state.record caller after)
  | worker (id : Nat) {after : Concurrent tables} :
      WorkerStep capacity state.shared id (state.shared.workers id) after →
      AccountStep capacity state (.worker id) { state with shared := after }
  | owner {after : Concurrent tables} :
      OwnerStep state.shared state.shared.owner after →
      ¬TeardownStep state.shared state.shared.owner after →
      AccountStep capacity state .owner { state with shared := after }
  | requestStop :
      AccountStep capacity state .anyone
        { state with shared := { state.shared with stop := true } }

/-- A publication succeeds when its status is zero. -/
def CallRecord.publishes (record : CallRecord) : Bool :=
  match record.call with
  | .publish _ => record.status = 0
  | .configure => false

def Account.publications (state : Account tables) : List CallRecord :=
  state.calls.filter CallRecord.publishes

/-- A failed call changes at most the failure counter, and a configuration may create the reader
registry. -/
structure CallRecord.Harmless (record : CallRecord) : Prop where
  generation : record.generation = none
  ledger : ∃ qsbr failed, record.closing =
    { record.opening with
      rulesQsbr := qsbr
      stats := { record.opening.stats with rulesPublishFailed := failed } } ∧
    (qsbr = record.opening.rulesQsbr ∨ record.call = .configure ∧ qsbr = true) ∧
    (failed = record.opening.stats.rulesPublishFailed ∨
      failed = record.opening.stats.rulesPublishFailed + 1)

/-- The active snapshot has this generation, the counters have these values, and no snapshot is live
besides the active one and the listed ones. -/
structure Books.Tally (books : Books tables) (tag generation success reclaimed : Nat)
    (others : List Nat) : Prop where
  active : ∃ id snapshot, books.ledger.activeRules = some id ∧ books.heap id = some snapshot ∧
    snapshot.generation = tag ∧ id ∉ others ∧ ∀ other, books.Live other ↔ other ∈ id :: others
  generation : books.ledger.stats.rulesGeneration = generation
  success : books.ledger.stats.rulesPublishSuccess = success
  reclaimed : books.ledger.stats.rulesReclaimed = reclaimed

/-- Nothing has been configured. -/
structure Books.Vacant (books : Books tables) : Prop where
  live : ∀ id, ¬books.Live id
  generation : books.ledger.stats.rulesGeneration = 0
  success : books.ledger.stats.rulesPublishSuccess = 0
  reclaimed : books.ledger.stats.rulesReclaimed = 0

/-- A publisher gets no further before the configuration. -/
def Publisher.Early : Publisher → Prop
  | .idle | .locking _ | .entering _ | .checking _ | .leaving _ none | .unlocking _ none => True
  | _ => False

/-- At each point of the next publication the books count the `published` ones before it. -/
def Publisher.Balances (books : Books tables) (published : Nat) : Publisher → Prop
  | .exchanging new next => next = published + 2 ∧
      (∃ snapshot, books.heap new = some snapshot ∧ snapshot.generation = next) ∧
      books.Tally (published + 1) (published + 1) (published + 1) published [new]
  | .numbering old next => ∃ id, old = some id ∧ next = published + 2 ∧
      books.Tally (published + 2) (published + 1) (published + 1) published [id]
  | .succeeding old next => ∃ id, old = some id ∧ next = published + 2 ∧
      books.Tally (published + 2) (published + 2) (published + 1) published [id]
  | .starting old next | .waiting old next _ _ | .freeing old next =>
      ∃ id, old = some id ∧ next = published + 2 ∧
        books.Tally (published + 2) (published + 2) (published + 2) published [id]
  | .leaving _ (some next) | .unlocking _ (some next) => next = published + 2 ∧
      books.Tally (published + 2) (published + 2) (published + 2) (published + 1) []
  | _ => books.Tally (published + 1) (published + 1) (published + 1) published []

def Publisher.Accounts (books : Books tables) (published : Nat) (point : Publisher) : Prop :=
  (books.ledger.rulesConfigured = true ∧ point.Balances books published) ∨
    (books.ledger.rulesConfigured = false ∧ books.Vacant ∧ published = 0 ∧ point.Early)

/-- A call that will fail has changed at most the failure counter. -/
def Publisher.Audits (opening now : Ledger) : Publisher → Prop
  | .entering _ | .checking _ | .building _ | .exchanging _ _ => now = opening
  | .failing status => now = opening ∧ status < 0
  | .leaving status published | .unlocking status published =>
      (status = 0 ∧ published ≠ none) ∨
        (status < 0 ∧ published = none ∧ ∃ failed,
          now = { opening with stats := { opening.stats with rulesPublishFailed := failed } } ∧
          (failed = opening.stats.rulesPublishFailed ∨
            failed = opening.stats.rulesPublishFailed + 1))
  | _ => True

/-- This is the invariant of the accounting. -/
structure Account.Balanced (state : Account tables) : Prop where
  lock : Exclusive state.shared.writerLock state.shared.inside
  unused : ∀ id, state.shared.books.allocated ≤ id →
    state.shared.books.heap id = none ∧ state.shared.books.freed id = 0
  audits : state.shared.critical.Audits state.opening state.shared.books.ledger
  accounts : state.shared.critical.Accounts state.shared.books state.publications.length
  harmless : ∀ record ∈ state.calls, record.status ≠ 0 → record.Harmless
  consecutive : state.publications.map CallRecord.generation =
    (List.range' 2 state.publications.length).map some

section Books
variable {books : Books tables} {tag generation success reclaimed id : Nat}

/-- New memory joins the live snapshots. -/
theorem Books.live_store (books : Books tables) (unused : books.freed id = 0)
    (snapshot : DpRuleSnapshot tables) (allocated : Nat) (ledger : Ledger) (other : Nat) :
    (Books.mk (Function.update books.heap id (some snapshot)) allocated books.freed ledger).Live
      other ↔ other = id ∨ books.Live other := by
  by_cases same : other = id
  · subst same
    simp [Books.Live, unused]
  · simp [Books.Live, same]

/-- A free ends one live snapshot. -/
theorem Books.live_free (books : Books tables) (ledger : Ledger) (other : Nat) :
    (Books.mk books.heap books.allocated (freeSnapshot books.freed (some id)) ledger).Live
      other ↔ other ≠ id ∧ books.Live other := by
  by_cases same : other = id
  · subst same
    simp [Books.Live, freeSnapshot]
  · simp [Books.Live, freeSnapshot, same]

/-- The listed snapshots are live and are not the active one. -/
theorem Books.Tally.other (tally : books.Tally tag generation success reclaimed [id]) :
    books.Live id ∧ books.ledger.activeRules ≠ some id := by
  obtain ⟨active, snapshot, current, -, -, differs, live⟩ := tally.active
  constructor
  · exact (live id).mpr (by simp)
  · rw [current]
    intro same
    exact differs (by simp [Option.some.inj same])

/-- A build adds a snapshot that is not yet active. -/
theorem Books.Tally.store (tally : books.Tally tag generation success reclaimed [])
    (unused : books.heap id = none ∧ books.freed id = 0) {snapshot : DpRuleSnapshot tables}
    {allocated : Nat} :
    (Books.mk (Function.update books.heap id (some snapshot)) allocated books.freed
      books.ledger).Tally tag generation success reclaimed [id] := by
  obtain ⟨⟨current, content, active, stored, tagged, -, live⟩, numbered, counted, retired⟩ := tally
  have differs : current ≠ id := by
    intro same
    rw [same, unused.1] at stored
    cases stored
  refine ⟨⟨current, content, active, ?_, tagged, by simpa using differs, fun other => ?_⟩,
    numbered, counted, retired⟩
  · exact (Function.update_of_ne differs _ _).trans stored
  · rw [books.live_store unused.2, live other]
    simp [or_comm]

/-- An exchange makes the other snapshot active. -/
theorem Books.Tally.exchange (tally : books.Tally tag generation success reclaimed [id])
    {snapshot : DpRuleSnapshot tables} (stored : books.heap id = some snapshot) :
    ∃ old, books.ledger.activeRules = some old ∧
      (Books.mk books.heap books.allocated books.freed
        { books.ledger with activeRules := some id }).Tally snapshot.generation generation success
          reclaimed [old] := by
  obtain ⟨⟨current, content, active, -, -, differs, live⟩, numbered, counted, retired⟩ := tally
  refine ⟨current, active, ⟨id, snapshot, rfl, stored, rfl, ?_, fun other => ?_⟩, numbered,
    counted, retired⟩
  · simpa [eq_comm] using differs
  · refine (live other).trans ?_
    simp [or_comm]

/-- A free removes the other snapshot. -/
theorem Books.Tally.free (tally : books.Tally tag generation success reclaimed [id]) :
    (Books.mk books.heap books.allocated (freeSnapshot books.freed (some id))
      { books.ledger with
        stats := dpSnapshotFree (books.heap id) true true books.ledger.stats }).Tally tag
          generation success (reclaimed + 1) [] := by
  obtain ⟨snapshot, stored⟩ := Option.ne_none_iff_exists'.mp tally.other.1.1
  obtain ⟨⟨current, content, active, held, tagged, differs, live⟩, numbered, counted, retired⟩ :=
    tally
  rw [stored]
  refine ⟨⟨current, content, active, held, tagged, List.not_mem_nil, fun other => ?_⟩,
    numbered, counted, congrArg (· + 1) retired⟩
  rw [books.live_free, live other]
  simp only [List.mem_cons, List.not_mem_nil, or_false] at differs ⊢
  constructor
  · rintro ⟨kept, same | same⟩
    · exact same
    · exact absurd same kept
  · rintro rfl
    exact ⟨differs, .inl rfl⟩

/-- Behind the check of the configuration the books count publications. -/
theorem Publisher.Accounts.balances {point : Publisher} {published : Nat}
    (accounts : point.Accounts books published) (late : ¬point.Early) :
    books.ledger.rulesConfigured = true ∧ point.Balances books published :=
  accounts.resolve_right fun vacant => late vacant.2.2.2

end Books

section Records
variable {shared : Concurrent tables} {opening : Ledger} {calls : List CallRecord}
  {record : CallRecord}

theorem Account.publications_silent (shared : Concurrent tables) (opening : Ledger)
    (calls : List CallRecord) (silent : record.publishes = false) :
    (Account.mk shared opening (calls ++ [record])).publications =
      (Account.mk shared opening calls).publications := by
  simp [Account.publications, silent]

theorem Account.publications_next (shared : Concurrent tables) (opening : Ledger)
    (calls : List CallRecord) (publishes : record.publishes = true) :
    (Account.mk shared opening (calls ++ [record])).publications =
      (Account.mk shared opening calls).publications ++ [record] := by
  simp [Account.publications, publishes]

theorem harmless_append (harmless : ∀ earlier ∈ calls, earlier.status ≠ 0 → earlier.Harmless)
    (last : record.status ≠ 0 → record.Harmless) :
    ∀ earlier ∈ calls ++ [record], earlier.status ≠ 0 → earlier.Harmless :=
  List.forall_mem_append.mpr ⟨harmless, List.forall_mem_singleton.mpr last⟩

/-- A call that publishes nothing joins the records. -/
theorem Account.Balanced.silent (balanced : (Account.mk shared opening calls).Balanced)
    (silent : record.publishes = false) (harmless : record.status ≠ 0 → record.Harmless) :
    (Account.mk shared opening (calls ++ [record])).Balanced := by
  have same := Account.publications_silent shared opening calls silent
  constructor
  case lock => exact balanced.lock
  case unused => exact balanced.unused
  case audits => exact balanced.audits
  case accounts =>
    rw [same]
    exact balanced.accounts
  case harmless => exact harmless_append balanced.harmless harmless
  case consecutive =>
    rw [same]
    exact balanced.consecutive

end Records

section PublisherSteps
variable {state : Account tables} {after : Concurrent tables} {caller : Nat}

/-- The writer lock tells which point its publisher is at. -/
theorem Account.Balanced.here (balanced : state.Balanced) {point : Publisher}
    (here : state.shared.publishers caller = point) (inside : point.inside = true) :
    state.shared.writerLock = some (.publisher caller) ∧
      point.Audits state.opening state.shared.books.ledger ∧
      point.Accounts state.shared.books state.publications.length := by
  have locked : state.shared.writerLock = some (.publisher caller) :=
    (balanced.lock (.publisher caller)).mp (by rw [Concurrent.inside, here]; exact inside)
  have audits := balanced.audits
  have accounts := balanced.accounts
  rw [Concurrent.critical_of_publisher locked, here] at audits accounts
  exact ⟨locked, audits, accounts⟩

/-- Outside the lock the books are settled. -/
theorem Account.Balanced.settled
    (lock : Exclusive state.shared.writerLock state.shared.inside)
    (idle : state.shared.critical = .idle)
    (unused : ∀ id, state.shared.books.allocated ≤ id →
      state.shared.books.heap id = none ∧ state.shared.books.freed id = 0)
    (accounts : Publisher.idle.Accounts state.shared.books state.publications.length)
    (harmless : ∀ record ∈ state.calls, record.status ≠ 0 → record.Harmless)
    (consecutive : state.publications.map CallRecord.generation =
      (List.range' 2 state.publications.length).map some) : state.Balanced := by
  constructor
  case lock => exact lock
  case unused => exact unused
  case audits =>
    rw [idle]
    exact trivial
  case accounts =>
    rw [idle]
    exact accounts
  case harmless => exact harmless
  case consecutive => exact consecutive

/-- Inside the lock the points of one publisher carry the invariant. -/
theorem Account.Balanced.inside (balanced : state.Balanced)
    (step : PublisherStep capacity state.shared caller (state.shared.publishers caller) after)
    {opening : Ledger} {next : Publisher} (locked : after.writerLock = some (.publisher caller))
    (moved : after.publishers caller = next)
    (unused : ∀ id, after.books.allocated ≤ id →
      after.books.heap id = none ∧ after.books.freed id = 0)
    (audits : next.Audits opening after.books.ledger)
    (accounts : next.Accounts after.books state.publications.length) :
    (Account.mk after opening state.calls).Balanced := by
  have critical := (Concurrent.critical_of_publisher locked).trans moved
  constructor
  case lock => exact step.exclusive balanced.lock
  case unused => exact unused
  case audits =>
    rw [critical]
    exact audits
  case accounts =>
    rw [critical]
    exact accounts
  case harmless => exact balanced.harmless
  case consecutive => exact balanced.consecutive

/-- At a point inside the lock its holder knows what has been accounted. -/
theorem Account.Balanced.within (balanced : state.Balanced) {point : Publisher}
    (here : state.shared.publishers caller = point) (inside : point.inside = true)
    (step : PublisherStep capacity state.shared caller point after) :
    PublisherStep capacity state.shared caller (state.shared.publishers caller) after ∧
      state.shared.writerLock = some (.publisher caller) ∧
      point.Audits state.opening state.shared.books.ledger ∧
      point.Accounts state.shared.books state.publications.length := by
  constructor
  · rw [here]
    exact step
  · exact balanced.here here inside

/-- A call starts outside the lock. -/
theorem Account.Balanced.atIdle (balanced : state.Balanced)
    (here : state.shared.publishers caller = .idle)
    (step : PublisherStep capacity state.shared caller .idle after) :
    (state.record caller after).Balanced := by
  have whole : PublisherStep capacity state.shared caller (state.shared.publishers caller) after := by
    rw [here]
    exact step
  simp only [Account.record, here]
  cases step with
  | call request =>
    have elsewhere : state.shared.writerLock ≠ some (.publisher caller) := by
      intro locked
      have inside := (balanced.lock (.publisher caller)).mpr locked
      rw [Concurrent.inside, here] at inside
      cases inside
    have critical := (Concurrent.elsewhere elsewhere (.locking request)).1
    have audits := balanced.audits
    have accounts := balanced.accounts
    rw [← critical] at audits accounts
    exact ⟨whole.exclusive balanced.lock, balanced.unused, audits, accounts, balanced.harmless,
      balanced.consecutive⟩

/-- The books are opened with the lock. -/
theorem Account.Balanced.atLocking (balanced : state.Balanced) {request : PublishRequest}
    (here : state.shared.publishers caller = .locking request)
    (step : PublisherStep capacity state.shared caller (.locking request) after) :
    (state.record caller after).Balanced := by
  have whole : PublisherStep capacity state.shared caller (state.shared.publishers caller) after := by
    rw [here]
    exact step
  simp only [Account.record, here]
  cases step with
  | lock free =>
    have accounts := balanced.accounts
    rw [(Concurrent.phase_of_free free).2] at accounts
    exact balanced.inside whole rfl (state.shared.movePublisher_self caller _) balanced.unused rfl
      accounts

/-- The writer counts itself, and the books stay as they are. -/
theorem Account.Balanced.atEntering (balanced : state.Balanced) {request : PublishRequest}
    (here : state.shared.publishers caller = .entering request)
    (step : PublisherStep capacity state.shared caller (.entering request) after) :
    (state.record caller after).Balanced := by
  obtain ⟨whole, locked, audits, accounts⟩ := balanced.within here rfl step
  have moved := state.shared.movePublisher_self caller
  simp only [Account.record, here]
  cases step with
  | enter => exact balanced.inside whole locked (moved _) balanced.unused audits accounts

theorem Account.Balanced.atChecking (balanced : state.Balanced) {request : PublishRequest}
    (here : state.shared.publishers caller = .checking request)
    (step : PublisherStep capacity state.shared caller (.checking request) after) :
    (state.record caller after).Balanced := by
  obtain ⟨whole, locked, audits, accounts⟩ := balanced.within here rfl step
  have moved := state.shared.movePublisher_self caller
  simp only [Account.record, here]
  cases step with
  | refuse missing =>
    refine balanced.inside whole locked (moved _) balanced.unused
      (.inr ⟨by decide, rfl, ?_⟩) accounts
    exact ⟨_, audits, .inl rfl⟩
  | accept initialized configured registry active =>
    refine balanced.inside whole locked (moved _) balanced.unused audits
      (.inl ⟨configured, ?_⟩)
    rcases accounts with ⟨-, balances⟩ | ⟨unset, -⟩
    · exact balances
    · exact absurd (unset.symm.trans configured) (by decide)

/-- A build creates one snapshot or nothing. -/
theorem Account.Balanced.atBuilding (balanced : state.Balanced) {request : PublishRequest}
    (here : state.shared.publishers caller = .building request)
    (step : PublisherStep capacity state.shared caller (.building request) after) :
    (state.record caller after).Balanced := by
  obtain ⟨whole, locked, audits, accounts⟩ := balanced.within here rfl step
  have unused := balanced.unused
  have moved := state.shared.movePublisher_self caller
  obtain ⟨configured, tally⟩ := accounts.balances id
  simp only [Account.record, here]
  cases step with
  | @build request snapshot success =>
    have numbered := dpSnapshotBuild_generation success
    rw [show state.shared.stats.rulesGeneration = _ from tally.generation] at numbered
    refine balanced.inside whole locked (moved _) ?_ audits
      (.inl ⟨configured, congrArg (· + 1) tally.generation, ⟨snapshot, ?_, ?_⟩, ?_⟩)
    · intro fresh above
      obtain ⟨empty, unfreed⟩ := unused fresh (Nat.le_of_succ_le above)
      exact ⟨(Function.update_of_ne (Nat.ne_of_gt above) _ _).trans empty, unfreed⟩
    · exact Function.update_self _ _ _
    · exact numbered.trans (congrArg (· + 1) tally.generation).symm
    · exact tally.store (unused _ le_rfl)
  | @buildFailed request status failure =>
    have negative := dpSnapshotBuild_fails _ _ _ _ status failure
    exact balanced.inside whole locked (moved _) unused ⟨audits, negative⟩
      (.inl ⟨configured, tally⟩)

/-- The failure counter moves before the call returns its error. -/
theorem Account.Balanced.atFailing (balanced : state.Balanced) {status : Int}
    (here : state.shared.publishers caller = .failing status)
    (step : PublisherStep capacity state.shared caller (.failing status) after) :
    (state.record caller after).Balanced := by
  obtain ⟨whole, locked, ⟨audits, negative⟩, accounts⟩ := balanced.within here rfl step
  obtain ⟨configured, ⟨active, generation, success, reclaimed⟩⟩ := accounts.balances id
  have moved := state.shared.movePublisher_self caller
  simp only [Account.record, here]
  cases step with
  | fail =>
    refine balanced.inside whole locked (moved _) balanced.unused (.inr ⟨negative, rfl, ?_⟩)
      (.inl ⟨configured, active, generation, success, reclaimed⟩)
    rw [← audits]
    exact ⟨_, rfl, .inr rfl⟩

/-- The new snapshot becomes the active one, and the old one is the other. -/
theorem Account.Balanced.atExchanging (balanced : state.Balanced) {new next : Nat}
    (here : state.shared.publishers caller = .exchanging new next)
    (step : PublisherStep capacity state.shared caller (.exchanging new next) after) :
    (state.record caller after).Balanced := by
  obtain ⟨whole, locked, audits, accounts⟩ := balanced.within here rfl step
  obtain ⟨configured, number, ⟨snapshot, stored, tagged⟩, tally⟩ := accounts.balances id
  obtain ⟨old, active, exchanged⟩ := tally.exchange stored
  rw [tagged, number] at exchanged
  have moved := state.shared.movePublisher_self caller
  simp only [Account.record, here]
  cases step with
  | exchange =>
    exact balanced.inside whole locked (moved _) balanced.unused trivial
      (.inl ⟨configured, old, active, number, exchanged⟩)

/-- The generation follows the active snapshot. -/
theorem Account.Balanced.atNumbering (balanced : state.Balanced) {old : Option Nat} {next : Nat}
    (here : state.shared.publishers caller = .numbering old next)
    (step : PublisherStep capacity state.shared caller (.numbering old next) after) :
    (state.record caller after).Balanced := by
  obtain ⟨whole, locked, audits, accounts⟩ := balanced.within here rfl step
  obtain ⟨configured, other, same, number, tally⟩ := accounts.balances id
  obtain ⟨active, generation, success, reclaimed⟩ := tally
  have moved := state.shared.movePublisher_self caller
  simp only [Account.record, here]
  cases step with
  | number =>
    exact balanced.inside whole locked (moved _) balanced.unused trivial
      (.inl ⟨configured, other, same, number, active, number, success, reclaimed⟩)

theorem Account.Balanced.atSucceeding (balanced : state.Balanced) {old : Option Nat} {next : Nat}
    (here : state.shared.publishers caller = .succeeding old next)
    (step : PublisherStep capacity state.shared caller (.succeeding old next) after) :
    (state.record caller after).Balanced := by
  obtain ⟨whole, locked, audits, accounts⟩ := balanced.within here rfl step
  obtain ⟨configured, other, same, number, tally⟩ := accounts.balances id
  obtain ⟨active, generation, success, reclaimed⟩ := tally
  have moved := state.shared.movePublisher_self caller
  simp only [Account.record, here]
  cases step with
  | succeed =>
    exact balanced.inside whole locked (moved _) balanced.unused trivial
      (.inl ⟨configured, other, same, number, active, generation, congrArg (· + 1) success,
        reclaimed⟩)

/-- The wait for the readers leaves the books as they are. -/
theorem Account.Balanced.atStarting (balanced : state.Balanced) {old : Option Nat} {next : Nat}
    (here : state.shared.publishers caller = .starting old next)
    (step : PublisherStep capacity state.shared caller (.starting old next) after) :
    (state.record caller after).Balanced := by
  obtain ⟨whole, locked, audits, accounts⟩ := balanced.within here rfl step
  have moved := state.shared.movePublisher_self caller
  simp only [Account.record, here]
  cases step with
  | start =>
    exact balanced.inside whole locked (moved _) balanced.unused trivial
      (.inl (accounts.balances id))

theorem Account.Balanced.atWaiting (balanced : state.Balanced) {old : Option Nat} {next token : Nat}
    {seen : List Nat}
    (here : state.shared.publishers caller = .waiting old next token seen)
    (step : PublisherStep capacity state.shared caller (.waiting old next token seen) after) :
    (state.record caller after).Balanced := by
  obtain ⟨whole, locked, audits, accounts⟩ := balanced.within here rfl step
  have moved := state.shared.movePublisher_self caller
  simp only [Account.record, here]
  cases step with
  | see reader passes =>
    exact balanced.inside whole locked (moved _) balanced.unused trivial
      (.inl (accounts.balances id))
  | pass complete =>
    exact balanced.inside whole locked (moved _) balanced.unused trivial
      (.inl (accounts.balances id))

/-- The free ends the old snapshot and is counted. -/
theorem Account.Balanced.atFreeing (balanced : state.Balanced) {old : Option Nat} {next : Nat}
    (here : state.shared.publishers caller = .freeing old next)
    (step : PublisherStep capacity state.shared caller (.freeing old next) after) :
    (state.record caller after).Balanced := by
  obtain ⟨whole, locked, audits, accounts⟩ := balanced.within here rfl step
  obtain ⟨configured, other, rfl, number, tally⟩ := accounts.balances id
  have moved := state.shared.movePublisher_self caller
  simp only [Account.record, here]
  cases step with
  | free =>
    refine balanced.inside whole locked (moved _) ?_ (.inl ⟨rfl, Option.some_ne_none next⟩)
      (.inl ⟨configured, number, tally.free⟩)
    intro fresh above
    obtain ⟨empty, unfreed⟩ := balanced.unused fresh above
    have differs : fresh ≠ other := by
      rintro rfl
      exact tally.other.1.1 empty
    exact ⟨empty, (Function.update_of_ne differs _ _).trans unfreed⟩

theorem Account.Balanced.atLeaving (balanced : state.Balanced) {status : Int} {published : Option Nat}
    (here : state.shared.publishers caller = .leaving status published)
    (step : PublisherStep capacity state.shared caller (.leaving status published) after) :
    (state.record caller after).Balanced := by
  obtain ⟨whole, locked, audits, accounts⟩ := balanced.within here rfl step
  have moved := state.shared.movePublisher_self caller
  simp only [Account.record, here]
  cases step with
  | leave =>
    cases published <;>
      exact balanced.inside whole locked (moved _) balanced.unused audits accounts

/-- A returning call joins the records with the lock free again. -/
theorem Account.Balanced.atUnlocking (balanced : state.Balanced) {status : Int}
    {published : Option Nat} (here : state.shared.publishers caller = .unlocking status published)
    (step : PublisherStep capacity state.shared caller (.unlocking status published) after) :
    (state.record caller after).Balanced := by
  obtain ⟨whole, -, audits, accounts⟩ := balanced.within here rfl step
  have unused := balanced.unused
  simp only [Account.record, here]
  cases step with
  | unlock =>
    generalize unlocked : ({ state.shared.movePublisher caller .idle with
      writerLock := none
      log := state.shared.log ++ published.toList.map (.returned caller) } :
        Concurrent tables) = released
    have idle : released.critical = .idle := by
      rw [← unlocked]
      exact (Concurrent.phase_of_free rfl).2
    have books : released.books = state.shared.books := by
      rw [← unlocked]
      rfl
    rw [unlocked] at whole
    have lock := whole.exclusive balanced.lock
    rw [← books] at unused accounts
    rcases audits with ⟨rfl, present⟩ | ⟨negative, rfl, failed, closing, counted⟩
    · obtain ⟨next, rfl⟩ := Option.ne_none_iff_exists'.mp present
      obtain ⟨configured, number, tally⟩ := accounts.balances id
      let record : CallRecord :=
        ⟨.publish caller, state.opening, released.books.ledger, 0, some next⟩
      change (Account.mk released state.opening (state.calls ++ [record])).Balanced
      have publishes : record.publishes = true := rfl
      have extended := Account.publications_next released state.opening state.calls publishes
      have last := (congrArg List.length extended).trans List.length_append
      refine .settled lock idle unused ?_ ?_ ?_
      · rw [last]
        exact .inl ⟨configured, tally⟩
      · exact harmless_append balanced.harmless fun impossible => absurd rfl impossible
      · rw [last, extended, List.length_singleton, List.range'_1_concat, List.map_append,
          List.map_append]
        have last := congrArg (fun value => [some value]) (number.trans (Nat.add_comm _ _))
        exact congrArg₂ (· ++ ·) balanced.consecutive last
    · have released : (Account.mk released state.opening state.calls).Balanced :=
        .settled lock idle unused accounts balanced.harmless balanced.consecutive
      refine released.silent (decide_eq_false (ne_of_lt negative)) fun _ => ⟨rfl, ?_⟩
      exact ⟨state.opening.rulesQsbr, failed, by rw [books]; exact closing, .inl rfl, counted⟩

/-- A publisher step keeps the books balanced. -/
theorem Account.Balanced.publisherStep (balanced : state.Balanced)
    (step : PublisherStep capacity state.shared caller (state.shared.publishers caller) after) :
    (state.record caller after).Balanced := by
  cases here : state.shared.publishers caller with
  | idle => exact balanced.atIdle here (here ▸ step)
  | locking => exact balanced.atLocking here (here ▸ step)
  | entering => exact balanced.atEntering here (here ▸ step)
  | checking => exact balanced.atChecking here (here ▸ step)
  | building => exact balanced.atBuilding here (here ▸ step)
  | failing => exact balanced.atFailing here (here ▸ step)
  | exchanging => exact balanced.atExchanging here (here ▸ step)
  | numbering => exact balanced.atNumbering here (here ▸ step)
  | succeeding => exact balanced.atSucceeding here (here ▸ step)
  | starting => exact balanced.atStarting here (here ▸ step)
  | waiting => exact balanced.atWaiting here (here ▸ step)
  | freeing => exact balanced.atFreeing here (here ▸ step)
  | leaving => exact balanced.atLeaving here (here ▸ step)
  | unlocking => exact balanced.atUnlocking here (here ▸ step)

end PublisherSteps

section Configuration
variable {state : Account tables}

/-- The registry is created or the state is left alone. -/
theorem dpQsbrCreate_cases (fault : Option QsbrFault) (before : DpState tables) :
    ((dpQsbrCreate fault before).1 < 0 ∧ (dpQsbrCreate fault before).2 = before) ∨
      ((dpQsbrCreate fault before).1 = 0 ∧
        (dpQsbrCreate fault before).2 = { before with rulesQsbr := true }) := by
  unfold dpQsbrCreate
  by_cases present : before.rulesQsbr = true
  · rw [if_pos present, ← present]
    exact .inr ⟨rfl, rfl⟩
  · rw [if_neg present]
    cases fault with
    | none => exact .inr ⟨rfl, rfl⟩
    | some fault =>
      cases fault with
      | memsize rteErrno => exact .inl ⟨errnoOr_neg _ (by decide), rfl⟩
      | allocation rteErrno => exact .inl ⟨errnoOr_neg _ (by decide), rfl⟩
      | init rteErrno => exact .inl ⟨errnoOr_neg _ (by decide), rfl⟩

/-- A configuration fails harmlessly or publishes the first generation. -/
theorem dpConfigureRules_cases (qsbrFault : Option QsbrFault) (request : PublishRequest)
    (before : DpState tables) {status : Int} {after : DpState tables}
    (call : dpConfigureRules qsbrFault request.faults request.flows request.routes before =
      (status, after)) :
    (status < 0 ∧ ∃ qsbr failed,
      after = { before with
        rulesQsbr := qsbr
        stats := { before.stats with rulesPublishFailed := failed } } ∧
      (qsbr = before.rulesQsbr ∨ qsbr = true) ∧
      (failed = before.stats.rulesPublishFailed ∨
        failed = before.stats.rulesPublishFailed + 1)) ∨
    (status = 0 ∧ before.rulesConfigured = false ∧ ∃ snapshot : DpRuleSnapshot tables,
      snapshot.generation = 1 ∧ after = { before with
        activeRules := some snapshot
        rulesConfigured := true
        rulesQsbr := true
        stats := { before.stats with rulesGeneration := 1, rulesPublishSuccess := 1 } }) := by
  unfold dpConfigureRules at call
  split_ifs at call with uninitialized already
  · obtain ⟨rfl, rfl⟩ := Prod.mk.inj call
    exact .inl ⟨by decide, _, _, rfl, .inl rfl, .inl rfl⟩
  · obtain ⟨rfl, rfl⟩ := Prod.mk.inj call
    exact .inl ⟨by decide, _, _, rfl, .inl rfl, .inl rfl⟩
  · have unset : before.rulesConfigured = false := by
      simp only [Bool.or_eq_true, not_or, Bool.not_eq_true] at already
      exact already.1.1.1
    rcases dpQsbrCreate_cases qsbrFault before with ⟨negative, same⟩ | ⟨zero, created⟩
    · dsimp only at call
      rw [if_pos negative, same] at call
      obtain ⟨rfl, rfl⟩ := Prod.mk.inj call
      exact .inl ⟨negative, _, _, rfl, .inl rfl, .inl rfl⟩
    · dsimp only at call
      rw [zero, if_neg (lt_irrefl 0), created] at call
      cases build : dpSnapshotBuild tables request.faults request.flows request.routes 1 with
      | error status =>
        rw [build] at call
        obtain ⟨rfl, rfl⟩ := Prod.mk.inj call
        exact .inl ⟨dpSnapshotBuild_fails _ _ _ _ _ build, _, _, rfl, .inr rfl, .inr rfl⟩
      | ok snapshot =>
        rw [build] at call
        obtain ⟨rfl, rfl⟩ := Prod.mk.inj call
        exact .inr ⟨rfl, unset, snapshot, dpSnapshotBuild_generation build, rfl⟩

/-- No publisher is in the lock while all of them are idle. -/
theorem Concurrent.critical_of_idle {before : Concurrent tables}
    (idle : ∀ caller, before.publishers caller = .idle) : before.critical = .idle := by
  unfold Concurrent.critical
  cases before.writerLock with
  | none => rfl
  | some writer =>
    cases writer with
    | owner => rfl
    | publisher caller => exact idle caller

/-- A configuration keeps the books balanced. -/
theorem Account.Balanced.configure (balanced : state.Balanced) (qsbrFault : Option QsbrFault)
    (request : PublishRequest) (idle : ∀ caller, state.shared.publishers caller = .idle) :
    (state.configure qsbrFault request).Balanced := by
  have settled := Concurrent.critical_of_idle idle
  have accounts := balanced.accounts
  rw [settled] at accounts
  unfold Account.configure
  generalize call : dpConfigureRules qsbrFault request.faults request.flows request.routes
    state.shared.dpState = outcome
  obtain ⟨status, next⟩ := outcome
  rcases dpConfigureRules_cases qsbrFault request _ call with
    ⟨negative, qsbr, failed, rfl, created, counted⟩ | ⟨rfl, unset, snapshot, first, rfl⟩
  · dsimp only
    rw [Concurrent.configured, if_pos negative]
    apply Account.Balanced.silent
    · refine .settled balanced.lock settled balanced.unused ?_ balanced.harmless
        balanced.consecutive
      rcases accounts with ⟨configured, active, generation, success, reclaimed⟩ |
        ⟨unset, ⟨live, generation, success, reclaimed⟩, none, -⟩
      · exact .inl ⟨configured, active, generation, success, reclaimed⟩
      · exact .inr ⟨unset, ⟨live, generation, success, reclaimed⟩, none, trivial⟩
    · rfl
    · exact fun _ => ⟨rfl, qsbr, failed, rfl, created.imp_right fun set => ⟨rfl, set⟩, counted⟩
  · dsimp only
    rw [Concurrent.configured, if_neg (lt_irrefl 0)]
    rcases accounts with ⟨configured, -⟩ | ⟨-, vacant, none, -⟩
    · exact absurd (unset.symm.trans configured) (by decide)
    · obtain ⟨empty, unfreed⟩ := balanced.unused state.shared.allocated le_rfl
      apply Account.Balanced.silent
      · refine .settled balanced.lock settled ?_ (.inl ⟨rfl, ?_⟩) balanced.harmless
          balanced.consecutive
        · intro fresh above
          obtain ⟨empty, unfreed⟩ := balanced.unused fresh (Nat.le_of_succ_le above)
          exact ⟨(Function.update_of_ne (Nat.ne_of_gt above) _ _).trans empty, unfreed⟩
        · change Books.Tally _ (state.publications.length + 1) (state.publications.length + 1)
            (state.publications.length + 1) state.publications.length []
          rw [none]
          refine ⟨⟨state.shared.allocated, snapshot, rfl, Function.update_self _ _ _, first,
            List.not_mem_nil, fun other => ?_⟩, rfl, rfl, vacant.reclaimed⟩
          refine (Books.live_store state.shared.books unfreed snapshot _ _ other).trans ?_
          simp [vacant.live]
      · rfl
      · exact fun impossible => absurd rfl impossible

end Configuration

section Counting
variable {state : Account tables}

/-- A step raises each counter by at most one. -/
structure DpRuleStats.Next (before after : DpRuleStats) : Prop where
  generation : after.rulesGeneration ≤ before.rulesGeneration + 1
  success : after.rulesPublishSuccess ≤ before.rulesPublishSuccess + 1
  failed : after.rulesPublishFailed ≤ before.rulesPublishFailed + 1
  reclaimed : after.rulesReclaimed ≤ before.rulesReclaimed + 1

theorem DpRuleStats.Next.refl (stats : DpRuleStats) : stats.Next stats :=
  ⟨Nat.le_succ _, Nat.le_succ _, Nat.le_succ _, Nat.le_succ _⟩

theorem dpSnapshotFree_next (snapshot : Option (DpRuleSnapshot tables)) (stats : DpRuleStats) :
    stats.Next (dpSnapshotFree snapshot true true stats) := by
  cases snapshot with
  | none => exact .refl stats
  | some snapshot => exact ⟨Nat.le_succ _, Nat.le_succ _, Nat.le_succ _, le_rfl⟩

/-- Only the point before the new number needs the books to know how far the number is ahead. -/
theorem Account.Balanced.publisherNext (balanced : state.Balanced) {after : Concurrent tables}
    {caller : Nat}
    (step : PublisherStep capacity state.shared caller (state.shared.publishers caller) after) :
    state.shared.stats.Next after.stats := by
  generalize here : state.shared.publishers caller = point at step
  cases step
  case fail => exact ⟨Nat.le_succ _, Nat.le_succ _, le_rfl, Nat.le_succ _⟩
  case number old next =>
    obtain ⟨-, -, accounts⟩ := balanced.here here rfl
    obtain ⟨-, _, -, number, tally⟩ := accounts.balances id
    have generation : state.shared.stats.rulesGeneration = _ := tally.generation
    refine ⟨?_, Nat.le_succ _, Nat.le_succ _, Nat.le_succ _⟩
    rw [generation]
    exact Nat.le_of_eq number
  case succeed => exact ⟨Nat.le_succ _, le_rfl, Nat.le_succ _, Nat.le_succ _⟩
  case free => exact dpSnapshotFree_next _ _
  all_goals exact .refl _

theorem Account.configure_next (qsbrFault : Option QsbrFault) (request : PublishRequest) :
    state.shared.stats.Next (state.configure qsbrFault request).shared.stats := by
  unfold Account.configure
  generalize call : dpConfigureRules qsbrFault request.faults request.flows request.routes
    state.shared.dpState = outcome
  obtain ⟨status, next⟩ := outcome
  have stats : ((state.shared.configured (status, next)).stats : DpRuleStats) = next.stats := by
    unfold Concurrent.configured
    split_ifs <;> rfl
  dsimp only
  rw [stats]
  rcases dpConfigureRules_cases qsbrFault request _ call with
    ⟨-, qsbr, failed, rfl, -, counted⟩ | ⟨-, -, snapshot, -, rfl⟩
  · refine ⟨Nat.le_succ _, Nat.le_succ _, ?_, Nat.le_succ _⟩
    change failed ≤ state.shared.stats.rulesPublishFailed + 1
    rcases counted with same | next
    · exact Nat.le_succ_of_le (Nat.le_of_eq same)
    · exact Nat.le_of_eq next
  · exact ⟨Nat.le_add_left _ _, Nat.le_add_left _ _, Nat.le_succ _, Nat.le_succ _⟩

/-- No counter is ahead of the number of steps. -/
structure DpRuleStats.Within (stats : DpRuleStats) (steps : Nat) : Prop where
  generation : stats.rulesGeneration ≤ steps
  success : stats.rulesPublishSuccess ≤ steps
  failed : stats.rulesPublishFailed ≤ steps
  reclaimed : stats.rulesReclaimed ≤ steps

theorem DpRuleStats.Within.next {before after : DpRuleStats} {steps : Nat}
    (within : before.Within steps) (next : before.Next after) : after.Within (steps + 1) where
  generation := next.generation.trans (Nat.succ_le_succ within.generation)
  success := next.success.trans (Nat.succ_le_succ within.success)
  failed := next.failed.trans (Nat.succ_le_succ within.failed)
  reclaimed := next.reclaimed.trans (Nat.succ_le_succ within.reclaimed)

end Counting

section Runs
variable {state after : Account tables}

/-- A thread that touches neither the lock nor the books keeps them balanced. -/
theorem Account.Balanced.beside (balanced : state.Balanced) {next : Concurrent tables}
    (threads : next.publishers = state.shared.publishers ∧
      next.writerLock = state.shared.writerLock)
    (owner : next.owner.inside = state.shared.owner.inside)
    (books : next.books = state.shared.books) :
    (Account.mk next state.opening state.calls).Balanced := by
  have critical : next.critical = state.shared.critical := by
    rw [Concurrent.critical, Concurrent.critical, threads.1, threads.2]
  constructor
  case lock =>
    rw [threads.2]
    exact balanced.lock.keep (Concurrent.inside_of_publishers threads.1 owner)
  case unused =>
    rw [books]
    exact balanced.unused
  case audits =>
    rw [critical, books]
    exact balanced.audits
  case accounts =>
    rw [critical, books]
    exact balanced.accounts
  case harmless => exact balanced.harmless
  case consecutive => exact balanced.consecutive

/-- A worker keeps the books. -/
theorem WorkerFrame.books {before next : Concurrent tables} {worker : Nat}
    (frame : WorkerFrame before next worker) : next.books = before.books := by
  obtain ⟨-, -, -, ⟨heap, allocated, freed⟩, ⟨active, qsbr, -, configured, stats⟩, -, -⟩ := frame
  rw [Concurrent.books, Concurrent.books, heap, allocated, freed, active, qsbr, configured, stats]

/-- Every step keeps the books balanced. -/
theorem Account.Balanced.step (balanced : state.Balanced) {thread : Thread}
    (step : AccountStep capacity state thread after) : after.Balanced := by
  cases step with
  | configure qsbrFault request _ idle => exact balanced.configure qsbrFault request idle
  | publishNull caller idle =>
    have present : state = ⟨state.shared, state.opening, state.calls⟩ := rfl
    rw [present] at balanced
    apply balanced.silent
    · rfl
    · exact fun _ => ⟨rfl, _, _, rfl, .inl rfl, .inl rfl⟩
  | publisher caller step => exact balanced.publisherStep step
  | worker id step =>
    obtain ⟨publishers, owner, lock⟩ := step.frame.threads
    exact balanced.beside ⟨publishers, lock⟩ (congrArg OwnerPoint.inside owner) step.frame.books
  | owner step standing =>
    generalize here : state.shared.owner = point at step standing
    cases step
    case setup =>
      exact balanced.beside ⟨rfl, rfl⟩ rfl rfl
    case run step =>
      have outside : state.shared.owner.inside = false := by
        rw [here]
        cases step <;> rfl
      cases step <;> exact balanced.beside ⟨rfl, rfl⟩ outside.symm rfl
    case teardown step => exact absurd step standing
  | requestStop => exact balanced.beside ⟨rfl, rfl⟩ rfl rfl

theorem Account.Fresh.balanced (fresh : state.Fresh) : state.Balanced := by
  obtain rfl := fresh
  refine .settled ?_ rfl (fun _ _ => ⟨rfl, rfl⟩) (.inr ⟨rfl, ?_, rfl, trivial⟩) ?_ rfl
  · intro writer
    cases writer <;> exact ⟨fun impossible => (nomatch impossible), fun held => (nomatch held)⟩
  · exact ⟨fun _ live => live.1 rfl, rfl, rfl, rfl⟩
  · exact fun _ impossible => absurd impossible List.not_mem_nil

theorem Account.Balanced.next (balanced : state.Balanced) {thread : Thread}
    (step : AccountStep capacity state thread after) :
    state.shared.stats.Next after.shared.stats := by
  cases step with
  | configure qsbrFault request _ _ => exact Account.configure_next qsbrFault request
  | publishNull caller _ => exact .refl _
  | publisher caller step => exact balanced.publisherNext step
  | worker id step =>
    obtain ⟨-, -, -, -, same⟩ := step.frame.rules
    rw [same]
    exact .refl _
  | owner step standing =>
    generalize state.shared.owner = point at step standing
    cases step
    case setup => exact .refl _
    case run step => cases step <;> exact .refl _
    case teardown step => exact absurd step standing
  | requestStop => exact .refl _

/-- The counters have sixty-four bits in C, and no run reaches that many steps. -/
theorem Account.within {start : Account tables} {labels : List Thread} (fresh : start.Fresh)
    (run : Run (AccountStep capacity) start labels state) :
    state.shared.stats.Within labels.length := by
  refine (run.counted (fun steps state => state.Balanced ∧ state.shared.stats.Within steps) ?_
    ⟨fresh.balanced, ?_⟩).2
  · rintro steps before thread after ⟨balanced, within⟩ step
    exact ⟨balanced.step step, within.next (balanced.next step)⟩
  · obtain rfl := fresh
    exact ⟨le_rfl, le_rfl, le_rfl, le_rfl⟩

/-- Between the calls the generation counts the publications, all older snapshots are reclaimed and
one is live, the successful publishers have received consecutive generations, and the failed calls
were harmless. No counter is ahead of the number of steps, so no run of fewer than `2 ^ 64` steps
exhausts the sixty-four bits of a counter in C. -/
theorem publications_accounted
    (reachable : Reachable Account.Fresh (AccountStep capacity) state) :
    ((∀ caller, state.shared.publishers caller = .idle) → state.shared.rulesConfigured = true →
      ∃ id snapshot, state.shared.activeRules = some id ∧ state.shared.heap id = some snapshot ∧
        snapshot.generation = state.shared.stats.rulesGeneration ∧
        state.shared.stats.rulesGeneration = state.shared.stats.rulesPublishSuccess ∧
        state.shared.stats.rulesPublishSuccess = 1 + state.publications.length ∧
        state.shared.stats.rulesReclaimed = state.shared.stats.rulesGeneration - 1 ∧
        ∀ other, state.shared.books.Live other ↔ other = id) ∧
    state.publications.map CallRecord.generation =
      (List.range' 2 state.publications.length).map some ∧
    (∀ record ∈ state.calls, record.status ≠ 0 → record.Harmless) ∧
    ∀ start labels, start.Fresh → Run (AccountStep capacity) start labels state →
      state.shared.stats.Within labels.length := by
  have balanced : state.Balanced :=
    reachable.invariant _ (fun _ fresh => fresh.balanced) fun _ _ _ balanced step =>
      balanced.step step
  refine ⟨fun idle configured => ?_, balanced.consecutive, balanced.harmless,
    fun _ _ fresh run => Account.within fresh run⟩
  have accounts := balanced.accounts
  rw [Concurrent.critical_of_idle idle] at accounts
  rcases accounts with ⟨-, active, generation, success, reclaimed⟩ | ⟨unset, -⟩
  · obtain ⟨id, snapshot, current, stored, tagged, -, live⟩ := active
    change state.shared.stats.rulesGeneration = _ at generation
    change state.shared.stats.rulesPublishSuccess = _ at success
    change state.shared.stats.rulesReclaimed = _ at reclaimed
    refine ⟨id, snapshot, current, stored, by omega, by omega, by omega, by omega, fun other => ?_⟩
    rw [live other, List.mem_singleton]
  · exact absurd (unset.symm.trans configured) (by decide)

/-- A publication fails before the configuration, and another one succeeds behind it. -/
theorem publications_accounted_second : ∃ state : Account listTables,
    state.calls.length = 4 ∧ state.shared.stats.rulesGeneration = 2 ∧
      state.shared.stats.rulesPublishFailed = 1 ∧ state.publications.length = 1 ∧
        state.shared.stats.rulesReclaimed = state.shared.stats.rulesGeneration - 1 ∧
          ∃ id, ∀ other, state.shared.books.Live other ↔ other = id := by
  have every (reader : Nat) (small : reader < 1) : reader ∈ [0] := by
    simp only [List.mem_singleton]
    omega
  have reachable : ∃ state : Account listTables,
      Reachable Account.Fresh (AccountStep 1) state ∧
        (∀ caller, state.shared.publishers caller = .idle) ∧
        state.shared.rulesConfigured = true ∧ state.calls.length = 4 ∧
        state.shared.stats.rulesGeneration = 2 ∧ state.shared.stats.rulesPublishFailed = 1 ∧
        state.publications.length = 1 := by
    refine ⟨_, ⟨_, _, rfl, Run.refl
      |>.snoc (.publishNull 0 rfl)
      |>.snoc (.configure none ⟨.none, .null 2000, .null 0⟩ rfl fun _ => rfl)
      |>.snoc (.configure none .withdrawAll rfl fun _ => rfl)
      |>.snoc (.publisher 0 (.call .withdrawAll))
      |>.snoc (.publisher 0 (.lock rfl))
      |>.snoc (.publisher 0 .enter)
      |>.snoc (.publisher 0 (.accept rfl rfl rfl (Option.some_ne_none 0)))
      |>.snoc (.publisher 0 (.build (withdrawAll_built 2)))
      |>.snoc (.publisher 0 .exchange)
      |>.snoc (.publisher 0 .number)
      |>.snoc (.publisher 0 .succeed)
      |>.snoc (.publisher 0 .start)
      |>.snoc (.publisher 0 (.see 0 fun impossible => nomatch impossible))
      |>.snoc (.publisher 0 (.pass every))
      |>.snoc (.publisher 0 .free)
      |>.snoc (.publisher 0 .leave)
      |>.snoc (.publisher 0 .unlock)⟩, ?_, rfl, rfl, rfl, rfl, rfl⟩
    intro caller
    cases caller with
    | zero => rfl
    | succ other => rfl
  obtain ⟨state, reachable, idle, configured, calls, generation, failed, published⟩ := reachable
  obtain ⟨id, -, -, -, -, -, -, reclaimed, live⟩ :=
    (publications_accounted reachable).1 idle configured
  exact ⟨state, calls, generation, failed, published, reclaimed, id, live⟩

end Runs

end FlowRouter.Native
