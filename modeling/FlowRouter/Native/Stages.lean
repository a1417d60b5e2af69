import FlowRouter.Native.Standing

namespace FlowRouter.Native.Lifecycle
open Attempt

variable {tables : RteTables} {views : TableViews tables} {machine : Machine} {A : Type}
  {process : Process tables}

/-- The process is good, and its state has a further property. -/
def At (views : TableViews tables) (machine : Machine) (property : DpState tables → Prop)
    (process : Process tables) : Prop :=
  Good views machine process ∧ property process.dp

/-- An early exit leaves the process good. -/
abbrev Leaves (views : TableViews tables) (machine : Machine) (_ : Int)
    (process : Process tables) : Prop := Good views machine process

section Rules
variable {property next : DpState tables → Prop} {stop : Int → Process tables → Prop}

/-- A change that keeps the two flags of the environment and the safety keeps the process good. -/
theorem Good.change (good : Good views machine process) {dp : DpState tables}
    (safe : Safe views machine dp) (attempted : dp.attempted = process.dp.attempted)
    (initialized : dp.rules.initialized = process.dp.rules.initialized) :
    Good views machine { process with dp := dp } where
  safe := safe
  log := good.log
  once := by
    rw [attempted, initialized]
    exact good.once
  bracketed := good.bracketed
  untouched fresh := good.untouched (attempted.symm.trans fresh)
  begun started := good.begun (initialized.symm.trans started)

theorem cleanups_append (log : List (LibraryCall × DpState tables)) (call : LibraryCall)
    (dp : DpState tables) (other : call ≠ .ealCleanup) :
    cleanups (log ++ [(call, dp)]) = cleanups log := by
  simp [cleanups, other]

/-- An initialized environment has not been cleaned up. -/
theorem Good.unused (good : Good views machine process)
    (initialized : process.dp.rules.initialized = true) : cleanups process.log = 0 := by
  have once := good.once
  rw [initialized, good.safe.attempted initialized] at once
  exact Nat.le_zero.mp (Nat.le_of_succ_le_succ once)

/-- The calls between the start and the cleanup of the environment. -/
def LibraryCall.Inner (call : LibraryCall) : Prop := call ≠ .ealInit ∧ call ≠ .ealCleanup

theorem Good.observe (good : Good views machine process) {call : LibraryCall}
    (allowed : call.Allowed process.dp) (inner : call.Inner) :
    Good views machine { process with log := process.log ++ [(call, process.dp)] } := by
  have initialized := allowed.initialized good.safe inner.1 inner.2
  constructor
  case safe => exact good.safe
  case log =>
    intro entry member
    rcases List.mem_append.mp member with earlier | now
    · exact good.log entry earlier
    · rw [List.mem_singleton.mp now]
      exact ⟨good.safe, allowed⟩
  case once =>
    rw [cleanups_append _ _ _ inner.2]
    exact good.once
  case bracketed =>
    apply good.bracketed.snoc (good.unused initialized)
    exact ⟨fun started => absurd started inner.1, fun empty => absurd empty (good.begun initialized)⟩
  case untouched =>
    intro fresh
    exact absurd ((good.safe.attempted initialized).symm.trans fresh) (by decide)
  case begun => exact fun _ => List.append_ne_nil_of_right_ne_nil _ (List.cons_ne_nil _ _)

theorem observe_runs (call : LibraryCall) (inner : call.Inner)
    (allowed : ∀ dp, Safe views machine dp → property dp → call.Allowed dp) :
    Runs (At views machine property) (observe call) (fun _ => At views machine property) stop :=
  Runs.alter fun _ start =>
    ⟨_, rfl, start.1.observe (allowed _ start.1.safe start.2) inner, start.2⟩

theorem update_runs {change : DpState tables → DpState tables}
    (attempted : ∀ dp, (change dp).attempted = dp.attempted)
    (initialized : ∀ dp, (change dp).rules.initialized = dp.rules.initialized)
    (moves : ∀ dp, Safe views machine dp → property dp →
      Safe views machine (change dp) ∧ next (change dp)) :
    Runs (At views machine property) (update change) (fun _ => At views machine next) stop :=
  Runs.alter fun process start => by
    obtain ⟨safe, reached⟩ := moves process.dp start.1.safe start.2
    exact ⟨_, rfl, start.1.change safe (attempted _) (initialized _), reached⟩

/-- The rest of a program knows the state that it has read. -/
theorem current_runs {program : DpState tables → Owner tables A}
    {post : A → Process tables → Prop}
    (rest : ∀ dp, Runs (At views machine fun now => property now ∧ now = dp) (program dp) post
      stop) : Runs (At views machine property) (current >>= program) post stop :=
  Runs.bind (Runs.demand fun process start =>
    ⟨process.dp, rfl, (show At views machine (fun now => property now ∧ now = process.dp) process
      from ⟨start.1, start.2, rfl⟩)⟩) rest

/-- A property may be weakened under the safety of the state. -/
theorem weaken_runs {weaker : DpState tables → Prop} {program : Owner tables A}
    {post : A → Process tables → Prop} (runs : Runs (At views machine weaker) program post stop)
    (follows : ∀ dp, Safe views machine dp → property dp → weaker dp) :
    Runs (At views machine property) program post stop :=
  runs.weaken (fun _ start => ⟨start.1, follows _ start.1.safe start.2⟩) fun _ _ ends => ends

/-- The device has changed its state, and the flag of its slot has not followed yet. -/
def Halfway (views : TableViews tables) (machine : Machine) (property : DpState tables → Prop)
    (port : Nat) (value : Bool) (process : Process tables) : Prop :=
  ∃ before, At views machine property before ∧
    process = { before with dp := before.dp.setDevice port value }

/-- A device changes its state exactly when its call succeeds. -/
theorem device_runs (call : LibraryCall) (inner : call.Inner) (answer : Answer)
    (port : Nat) (value : Bool)
    (allowed : ∀ dp, Safe views machine dp → property dp → call.Allowed dp) :
    Runs (At views machine property)
      (do
        observe call
        updateIf (answer.val = 0) fun dp => dp.setDevice port value
        return answer.val)
      (fun ret process => (ret < 0 ∧ At views machine property process) ∨
        (ret = 0 ∧ Halfway views machine property port value process)) stop := by
  refine (observe_runs call inner allowed).bind fun _ => ?_
  by_cases success : answer.val = 0
  · have updated : Runs (At views machine property) (update fun dp => dp.setDevice port value)
        (fun _ => Halfway views machine property port value) stop :=
      Runs.alter fun before start => ⟨_, rfl, before, start, rfl⟩
    rw [updateIf, if_pos success]
    exact updated.bind fun _ => Runs.pure _ fun process half => .inr ⟨success, half⟩
  · rw [updateIf, if_neg success]
    have negative : answer.val < 0 := lt_of_le_of_ne answer.property success
    exact Runs.bind (Runs.pure () fun process start => start) fun _ =>
      Runs.pure _ fun process start => .inl ⟨negative, start⟩

end Rules

section Setup

/-- Before the pool exists no port is started, so the port numbers may still change. -/
structure Resolving (dp : DpState tables) : Prop where
  initialized : dp.rules.initialized = true
  unready : dp.rules.ready = false
  configured : dp.rules.rulesConfigured = true
  apart : Set.InjOn (fun worker => (dp.table.workers worker).info.lcoreId)
    {worker | worker < dp.table.workerCount}
  pool : dp.pool = none

/-- Both ports are owned and share the pool. The ports of the list are started. -/
structure Starting (done : List Side) (dp : DpState tables) : Prop where
  initialized : dp.rules.initialized = true
  unready : dp.rules.ready = false
  configured : dp.rules.rulesConfigured = true
  apart : Set.InjOn (fun worker => (dp.table.workers worker).info.lcoreId)
    {worker | worker < dp.table.workerCount}
  pool : dp.pool.isSome
  owned : ∀ side, dp.owned side = true
  started : ∀ side, dp.started side = true ↔ side ∈ done

/-- Each queue is set up on an open port. -/
theorem setupQueues_runs (answers : PortAnswers) (testQueueSetupFailure : Int) (side : Side)
    (port : Nat) {property : DpState tables → Prop} (remaining queue : Nat)
    (opened : ∀ dp, Safe views machine dp → property dp →
      dp.Opened port ∧ queue + remaining ≤ dp.table.workerCount) :
    Runs (At views machine property)
      (setupQueues answers testQueueSetupFailure side port remaining queue)
      (fun _ => At views machine property) (Leaves views machine) := by
  induction remaining generalizing queue with
  | zero => exact Runs.pure () fun _ start => start
  | succ remaining ih =>
    have allowed (dp : DpState tables) (safe : Safe views machine dp) (now : property dp) :
        dp.Opened port ∧ queue < dp.table.workerCount :=
      ⟨(opened dp safe now).1, by have := (opened dp safe now).2; omega⟩
    have refused (bad : Prop) (status : Int) (next : Owner tables Unit)
        (rest : Runs (At views machine property) next (fun _ => At views machine property)
          (Leaves views machine)) [Decidable bad] :
        Runs (At views machine property) (stopIf bad status >>= fun _ => next)
          (fun _ => At views machine property) (Leaves views machine) :=
      Runs.guard (fun _ _ start => start.1) fun _ => rest
    refine (observe_runs (.rxQueueSetup port queue) ⟨nofun, nofun⟩ allowed).bind fun _ => ?_
    refine refused _ _ _ (refused _ _ _ ?_)
    refine (observe_runs (.txQueueSetup port queue) ⟨nofun, nofun⟩ allowed).bind fun _ => ?_
    exact refused _ _ _ (ih (queue + 1) fun dp safe now =>
      ⟨(opened dp safe now).1, by have := (opened dp safe now).2; omega⟩)

/-- The device of a port is started, and the state records it. -/
theorem Safe.start {dp : DpState tables} (safe : Safe views machine dp) {side : Side}
    (unready : dp.rules.ready = false) (opened : dp.Opened (dp.ports side))
    (owned : dp.owned side = true) :
    Safe views machine { dp.setDevice (dp.ports side) true with
      started := Function.update dp.started side true } where
  sound := safe.sound
  registered := safe.registered
  running := safe.running
  writer := safe.writer
  counts := safe.counts
  idle := safe.idle
  attempted := safe.attempted
  lcores := safe.lcores
  devices port running := by
    by_cases same : port = dp.ports side
    · exact ⟨side, Function.update_self _ _ _, same.symm⟩
    · have before : dp.devices port = true := (Function.update_of_ne same _ _).symm.trans running
      obtain ⟨other, started, at_port⟩ := safe.devices port before
      refine ⟨other, ?_, at_port⟩
      have differs : other ≠ side := fun equal => same (equal ▸ at_port.symm)
      exact (Function.update_of_ne differs _ _).trans started
  started other started := by
    have apart := safe.apart opened.2.1
    by_cases same : other = side
    · rw [same]
      exact ⟨owned, Function.update_self _ _ _, opened.2.1⟩
    · have before : dp.started other = true := (Function.update_of_ne same _ _).symm.trans started
      obtain ⟨owned, running, pooled⟩ := safe.started other before
      have differs : dp.ports other ≠ dp.ports side := DpState.ports_ne apart same
      exact ⟨owned, (Function.update_of_ne differs _ _).trans running, pooled⟩
  apart := safe.apart
  ready ready := absurd (unready.symm.trans ready) (by decide)
  finished := safe.finished

def StartingAt (done : List Side) (dp now : DpState tables) : Prop := Starting done now ∧ now = dp

/-- A successful start of the device is recorded at once. -/
theorem startPort_runs (answer : Answer) {side : Side} {port : Nat} {done : List Side}
    (fresh : side ∉ done) {dp : DpState tables} (ports : dp.ports side = port) :
    Runs (At views machine (StartingAt done dp))
      (startPort answer side port : Owner tables Unit)
      (fun _ => At views machine (Starting (side :: done))) (Leaves views machine) := by
  have opens (now : DpState tables) (safe : Safe views machine now)
      (here : StartingAt done dp now) : now.Opened port := by
    have stopped : now.started side = false :=
      Bool.eq_false_iff.mpr fun started => fresh ((here.1.started side).mp started)
    have opened := safe.opened here.1.pool (here.1.owned side) stopped
    rwa [here.2, ports, ← here.2] at opened
  have device : Runs (At views machine (StartingAt done dp)) (ethDevStart answer port) _
      (Leaves views machine) := device_runs (.devStart port) ⟨nofun, nofun⟩ answer port true opens
  refine device.bind fun ret => ?_
  have passed : Runs (fun process => (ret < 0 ∧ At views machine (StartingAt done dp) process) ∨
        (ret = 0 ∧ Halfway views machine (StartingAt done dp) port true process))
      (check ret) (fun _ => Halfway views machine (StartingAt done dp) port true)
      (Leaves views machine) := by
    apply Runs.stopIf
    · rintro negative process (⟨-, start⟩ | ⟨zero, -⟩)
      · exact start.1
      · omega
    · rintro passes process (⟨negative, -⟩ | ⟨-, half⟩)
      · exact absurd negative passes
      · exact half
  refine passed.bind fun _ => Runs.alter fun process half => ⟨_, rfl, ?_⟩
  obtain ⟨before, ⟨good, starting, rfl⟩, rfl⟩ := half
  have owned := starting.owned side
  have safe := good.safe.start starting.unready (ports ▸ opens _ good.safe ⟨starting, rfl⟩) owned
  rw [ports] at safe
  refine ⟨good.change safe rfl rfl, ?_⟩
  exact
    { starting with
      started := fun other => by
        by_cases same : other = side
        · simp [same]
        · simpa [same, DpState.setDevice] using starting.started other }

/-- The setup of one port starts it or leaves the process good. -/
theorem setupPort_runs (answers : PortAnswers) (testQueueSetupFailure : Int) {side : Side}
    {done : List Side} (fresh : side ∉ done) :
    Runs (At views machine (Starting done))
      (setupPort answers testQueueSetupFailure side : Owner tables Unit)
      (fun _ => At views machine (Starting (side :: done))) (Leaves views machine) := by
  refine current_runs fun dp => ?_
  have opens (now : DpState tables) (safe : Safe views machine now)
      (here : Starting done now ∧ now = dp) : now.Opened (dp.ports side) := by
    have stopped : now.started side = false :=
      Bool.eq_false_iff.mpr fun started => fresh ((here.1.started side).mp started)
    exact here.2 ▸ safe.opened here.1.pool (here.1.owned side) stopped
  refine (observe_runs (.devConfigure (dp.ports side)) ⟨nofun, nofun⟩ opens).bind fun _ => ?_
  refine Runs.guard (fun _ _ start => start.1) fun _ => ?_
  refine Runs.guard (fun _ _ start => start.1) fun _ => ?_
  refine (setupQueues_runs answers testQueueSetupFailure side (dp.ports side)
    dp.table.workerCount 0 fun now safe here => ⟨opens now safe here, ?_⟩).bind fun _ => ?_
  · rw [here.2, Nat.zero_add]
  refine (startPort_runs answers.start fresh rfl).bind fun _ => update_runs (fun _ => rfl)
    (fun _ => rfl) fun now safe starting => ⟨?_, ?_⟩
  · cases side
    · exact { safe with }
    · exact { safe with }
  · exact { starting with }

/-- The guards of the setup have passed. -/
structure Entered (dp : DpState tables) : Prop where
  initialized : dp.rules.initialized = true
  unready : dp.rules.ready = false
  configured : dp.rules.rulesConfigured = true
  pool : dp.pool = none

theorem assignWorkers_runs (machine : Machine) (workerCount : Nat) :
    Runs (At views machine Entered) (assignWorkers machine workerCount : Owner tables Unit)
      (fun _ => At views machine Resolving) (Leaves views machine) := by
  refine current_runs fun dp => ?_
  let result := setupWorkers machine.lcores machine.lcoreToSocketId workerCount dp.table
  have assigned : Runs (At views machine fun now => Entered now ∧ now = dp)
      (update fun dp => { dp with table := result.2 } : Owner tables Unit)
      (fun _ => At views machine fun now => Entered now ∧ (0 ≤ result.1 → Resolving now))
      (Leaves views machine) := by
    refine update_runs (fun _ => rfl) (fun _ => rfl) ?_
    rintro now safe ⟨entered, rfl⟩
    obtain ⟨main, count⟩ := safe.lcores entered.initialized
    obtain ⟨idle, main', count', -⟩ : result.2.Idle ∧ _ := setupWorkers_keeps safe.idle
    refine ⟨?_, ⟨entered.initialized, entered.unready, entered.configured, entered.pool⟩,
      fun accepted => ?_⟩
    · exact
        { safe with
          idle := idle
          lcores := fun _ => ⟨main'.trans main, count'.trans count⟩
          ready := fun ready => absurd (entered.unready.symm.trans ready) (by decide) }
    · exact
        { entered with
          apart := setupWorkers_apart machine.distinct (main ▸ machine.enabled) count accepted }
  refine assigned.bind fun _ => Runs.stopIf (fun _ _ start => start.1) fun accepted _ start => ?_
  exact ⟨start.1, start.2.2 (not_lt.mp accepted)⟩

/-- A port number may change while there is no pool. -/
theorem resolvePort_runs (answer : Except Refusal Nat) (side : Side) :
    Runs (At views machine Resolving) (resolvePort answer side : Owner tables Unit)
      (fun _ => At views machine Resolving) (Leaves views machine) := by
  cases answer with
  | error refusal => exact Runs.throw _ fun _ start => start.1
  | ok port =>
    change Runs _ (update fun dp => { dp with ports := Function.update dp.ports side port }) _ _
    refine update_runs (fun _ => rfl) (fun _ => rfl) fun dp safe resolving => ⟨?_, ?_⟩
    · have stopped := safe.unpooled resolving.pool
      exact
        { safe with
          devices := fun port running => absurd
            (running.symm.trans (safe.silent stopped port)) (by decide)
          started := fun side started => absurd (started.symm.trans (stopped side)) (by decide)
          apart := fun pooled => absurd (resolving.pool ▸ pooled) (by decide) }
    · exact { resolving with }

theorem checkDevice_runs {property : DpState tables → Prop} (answer : Except Refusal DevInfo)
    (workerCount : Nat) :
    Runs (At views machine property) (checkDevice answer workerCount : Owner tables Unit)
      (fun _ => At views machine property) (Leaves views machine) := by
  cases answer with
  | error refusal => exact Runs.throw _ fun _ start => start.1
  | ok info =>
    exact Runs.guard (fun _ _ start => start.1) fun _ =>
      Runs.stopIf (fun _ _ start => start.1) fun _ _ start => start

/-- Both ports are owned, and they are different. -/
structure Acquired (dp : DpState tables) : Prop extends Resolving dp where
  owned : ∀ side, dp.owned side = true
  differs : dp.ports .rx ≠ dp.ports .tx

theorem acquirePorts_runs (answers : SetupAnswers) (rxDevice txDevice : String)
    (workerCount : Nat) :
    Runs (At views machine Resolving)
      (acquirePorts answers rxDevice txDevice workerCount : Owner tables Unit)
      (fun _ => At views machine Acquired) (Leaves views machine) := by
  refine (resolvePort_runs _ _).bind fun _ => (resolvePort_runs _ _).bind fun _ => ?_
  refine current_runs fun dp => Runs.guard (fun _ _ start => start.1) fun differs => ?_
  refine (checkDevice_runs _ _).bind fun _ => (checkDevice_runs _ _).bind fun _ => ?_
  refine update_runs (fun _ => rfl) (fun _ => rfl) ?_
  rintro now safe ⟨resolving, rfl⟩
  have stopped := safe.unpooled resolving.pool
  refine ⟨?_, ⟨resolving.initialized, resolving.unready, resolving.configured, resolving.apart,
    resolving.pool⟩, fun _ => rfl, differs⟩
  exact
    { safe with
      started := fun side started => absurd (started.symm.trans (stopped side)) (by decide)
      finished := fun impossible =>
        absurd (resolving.initialized.symm.trans impossible) (by decide) }

theorem createPool_runs (answer : Except Nat Nat) :
    Runs (At views machine Acquired) (createPool answer : Owner tables Unit)
      (fun _ => At views machine (Starting [])) (Leaves views machine) := by
  refine (observe_runs .poolCreate ⟨nofun, nofun⟩ fun dp safe acquired =>
    ⟨acquired.pool, acquired.owned⟩).bind fun _ => ?_
  cases answer with
  | error rteErrno => exact Runs.throw _ fun _ start => start.1
  | ok pool =>
    refine update_runs (fun _ => rfl) (fun _ => rfl) fun dp safe acquired => ⟨?_, ?_⟩
    · exact
        { safe with
          started := fun side started => absurd
            (started.symm.trans (safe.unpooled acquired.pool side)) (by decide)
          apart := fun _ => acquired.differs
          ready := fun ready => absurd (acquired.unready.symm.trans ready) (by decide)
          finished := fun impossible =>
            absurd (acquired.initialized.symm.trans impossible) (by decide) }
    · exact
        { initialized := acquired.initialized
          unready := acquired.unready
          configured := acquired.configured
          apart := acquired.apart
          pool := rfl
          owned := acquired.owned
          started := fun side => by simp [safe.unpooled acquired.pool side] }

/-- The setup makes the dataplane ready, or it stops at one of its checks. -/
theorem dpDataplaneSetup_runs (rxDevice txDevice : Option String) (workerCount : Nat)
    (answers : SetupAnswers) :
    Runs (Good views machine)
      (dpDataplaneSetup machine rxDevice txDevice workerCount answers : Owner tables Int)
      (fun status process => status = 0 ∧ process.dp.rules.ready = true ∧
        Good views machine process) (Leaves views machine) := by
  have start : Runs (At views machine fun _ => True)
      (dpDataplaneSetup machine rxDevice txDevice workerCount answers : Owner tables Int)
      (fun status process => status = 0 ∧ process.dp.rules.ready = true ∧
        Good views machine process) (Leaves views machine) := by
    refine current_runs fun dp => Runs.guard (fun _ _ start => start.1) fun initialized => ?_
    refine Runs.guard (fun _ _ start => start.1) fun fresh => ?_
    refine Runs.guard (fun _ _ start => start.1) fun configured => ?_
    have entered (now : DpState tables) (same : True ∧ now = dp) : Entered now := by
      rw [same.2]
      exact ⟨not_not.mp initialized, by simp_all, not_not.mp configured, by simp_all⟩
    cases rxDevice with
    | none => exact Runs.throw _ fun _ start => start.1
    | some rxDevice =>
      cases txDevice with
      | none => exact Runs.throw _ fun _ start => start.1
      | some txDevice =>
        refine (weaken_runs (assignWorkers_runs machine workerCount)
          fun now _ same => entered now same).bind fun _ => ?_
        refine (acquirePorts_runs answers rxDevice txDevice workerCount).bind fun _ => ?_
        refine (createPool_runs answers.pool).bind fun _ => ?_
        refine (setupPort_runs _ _ List.not_mem_nil).bind fun _ => ?_
        have other : Side.tx ∉ [Side.rx] := by decide
        refine (setupPort_runs _ _ other).bind fun _ => ?_
        have ready : Runs (At views machine (Starting [.tx, .rx]))
            (update fun dp => { dp with rules := { dp.rules with ready := true } } :
              Owner tables Unit)
            (fun _ => At views machine fun dp => dp.rules.ready = true) (Leaves views machine) := by
          refine update_runs (fun _ => rfl) (fun _ => rfl) fun dp safe starting => ⟨?_, rfl⟩
          exact
            { safe with
              sound := safe.sound.flags _ _ _ _
              ready := fun _ => ⟨starting.configured, starting.pool, fun side =>
                (starting.started side).mpr (by cases side <;> decide), starting.apart⟩ }
        exact ready.bind fun _ => Runs.pure _ fun process reached =>
          ⟨rfl, reached.2, reached.1⟩
  exact fun process good => start process ⟨good, trivial⟩

end Setup

section Teardown

/-- A run of the rule functions under the lock is a run on the rules alone. -/
theorem locked_runs {program : Memory.Call tables A} {pre : Process tables → Prop}
    {post : A → Process tables → Prop} {stop : Int → Process tables → Prop}
    (runs : ∀ process, pre process → ∃ value memory,
      program process.dp.rules = some (value, memory) ∧
        post value { process with dp :=
          { process.dp with rules := memory, writerActive := false } }) :
    Runs pre (locked program) post stop := by
  intro process start
  obtain ⟨value, memory, run, holds⟩ := runs process start
  refine ⟨.ok value, _, ?_, holds⟩
  change ((program process.dp.rules).map _).bind _ = _
  rw [run]
  rfl

/-- The teardown has withdrawn the dataplane and its rules. -/
structure Withdrawn (initialized : Bool) (dp : DpState tables) : Prop where
  environment : dp.rules.initialized = initialized
  unready : dp.rules.ready = false
  activeRules : dp.rules.activeRules = none
  rulesQsbr : dp.rules.rulesQsbr = none
  unconfigured : dp.rules.rulesConfigured = false

/-- A return value of zero promises that these ports are closed. -/
def Closed (initialized : Bool) (sides : List Side) (firstError : Int) (dp : DpState tables) :
    Prop :=
  Withdrawn initialized dp ∧ firstError ≤ 0 ∧
    (firstError = 0 → ∀ side ∈ sides, dp.owned side = false)

theorem keepFirst_zero {ret firstError : Int} (answered : ret ≤ 0) (earlier : firstError ≤ 0) :
    keepFirst ret firstError ≤ 0 ∧ (keepFirst ret firstError = 0 ↔ ret = 0 ∧ firstError = 0) := by
  unfold keepFirst
  split_ifs <;> omega

/-- A device that is stopped takes the flag of its port along. -/
theorem Safe.stop {dp : DpState tables} (safe : Safe views machine dp) {side : Side}
    (unready : dp.rules.ready = false) (started : dp.started side = true) :
    Safe views machine { dp.setDevice (dp.ports side) false with
      started := Function.update dp.started side false } where
  sound := safe.sound
  registered := safe.registered
  running := safe.running
  writer := safe.writer
  counts := safe.counts
  idle := safe.idle
  attempted := safe.attempted
  lcores := safe.lcores
  devices port running := by
    by_cases same : port = dp.ports side
    · rw [same] at running
      exact absurd (running.symm.trans (Function.update_self _ _ _)) (by decide)
    · have before : dp.devices port = true := (Function.update_of_ne same _ _).symm.trans running
      obtain ⟨other, started, at_port⟩ := safe.devices port before
      have differs : other ≠ side := fun equal => same (equal ▸ at_port.symm)
      exact ⟨other, (Function.update_of_ne differs _ _).trans started, at_port⟩
  started other still := by
    have apart := safe.apart (safe.started side started).2.2
    by_cases same : other = side
    · rw [same] at still
      exact absurd (still.symm.trans (Function.update_self _ _ _)) (by decide)
    · have before : dp.started other = true := (Function.update_of_ne same _ _).symm.trans still
      obtain ⟨owned, running, pooled⟩ := safe.started other before
      have differs : dp.ports other ≠ dp.ports side := DpState.ports_ne apart same
      exact ⟨owned, (Function.update_of_ne differs _ _).trans running, pooled⟩
  apart := safe.apart
  ready ready := absurd (unready.symm.trans ready) (by decide)
  finished := safe.finished

/-- The slot is still owned. -/
def Held (initialized : Bool) (sides : List Side) (firstError : Int) (side : Side)
    (dp : DpState tables) : Prop :=
  Closed initialized sides firstError dp ∧ dp.owned side = true

def HeldAt (initialized : Bool) (sides : List Side) (firstError : Int) (side : Side)
    (dp now : DpState tables) : Prop :=
  Held initialized sides firstError side now ∧ now = dp

/-- A port that could not be stopped keeps its flag. -/
theorem stopPort_runs (answers : CloseAnswers) (side : Side) {initialized : Bool}
    {sides : List Side} {firstError : Int} {stop : Int → Process tables → Prop} :
    Runs (At views machine (Held initialized sides firstError side))
      (stopPort answers side firstError : Owner tables Int)
      (fun next => At views machine (Held initialized sides next side)) stop := by
  refine current_runs fun dp => Runs.ite (fun started => ?_) fun _ =>
    Runs.pure _ fun process start => ⟨start.1, start.2.1⟩
  have allowed (now : DpState tables) (safe : Safe views machine now)
      (here : HeldAt initialized sides firstError side dp now) :
      (LibraryCall.devStop (dp.ports side)).Allowed now := by
    obtain ⟨-, rfl⟩ := here
    obtain ⟨owned, running, -⟩ := safe.started side started
    exact ⟨running, side, rfl, owned, started⟩
  have device : Runs (At views machine (HeldAt initialized sides firstError side dp))
      (ethDevStop (answers.stop side) (dp.ports side)) _ stop :=
    device_runs (.devStop (dp.ports side)) ⟨nofun, nofun⟩ (answers.stop side) (dp.ports side) false
      allowed
  refine device.bind fun ret => ?_
  -- A success of the device stops the port, and a failure becomes the error to return.
  have recorded : Runs (fun process =>
        (ret < 0 ∧ At views machine (HeldAt initialized sides firstError side dp) process) ∨
        (ret = 0 ∧ Halfway views machine (HeldAt initialized sides firstError side dp)
          (dp.ports side) false process))
      (updateIf (ret = 0) fun dp => { dp with started := Function.update dp.started side false })
      (fun _ => At views machine fun now => Held initialized sides firstError side now ∧ ret ≤ 0)
      stop := by
    refine Runs.ite (fun zero => Runs.alter ?_) fun nonzero => Runs.pure () ?_
    · rintro process (⟨negative, -⟩ | ⟨-, before, ⟨good, here, rfl⟩, rfl⟩)
      · omega
      · exact ⟨_, rfl, good.change (good.safe.stop here.1.1.unready started) rfl rfl,
          ⟨⟨{ here.1.1 with }, here.1.2⟩, here.2⟩, Int.le_of_eq zero⟩
    · rintro process (⟨negative, here⟩ | ⟨zero, -⟩)
      · exact ⟨here.1, here.2.1, Int.le_of_lt negative⟩
      · exact absurd zero nonzero
  refine recorded.bind fun _ => Runs.pure _ fun process passed => ⟨passed.1, ?_, passed.2.1.2⟩
  obtain ⟨⟨⟨withdrawn, earlier, closed⟩, -⟩, answered⟩ := passed.2
  obtain ⟨bound, zero⟩ := keepFirst_zero answered earlier
  exact ⟨withdrawn, bound, fun none => closed (zero.mp none).2⟩

/-- A device closes only when it is stopped, so a closed port leaves nothing started behind. -/
theorem releasePort_runs (answers : CloseAnswers) (side : Side) {initialized : Bool}
    {sides : List Side} {firstError : Int} {stop : Int → Process tables → Prop} :
    Runs (At views machine (Held initialized sides firstError side))
      (releasePort answers side firstError : Owner tables Int)
      (fun next => At views machine (Closed initialized (side :: sides) next)) stop := by
  refine current_runs fun dp => ?_
  have device : Runs (At views machine (HeldAt initialized sides firstError side dp))
      (ethDevClose (answers.close side) (answers.refusal side) (dp.ports side))
      (fun ret => At views machine fun now =>
        HeldAt initialized sides firstError side dp now ∧ ret ≤ 0 ∧
          (ret = 0 → now.devices (now.ports side) = false)) stop := by
    refine (observe_runs (.devClose (dp.ports side)) ⟨nofun, nofun⟩ fun now safe here =>
      ⟨side, here.2 ▸ rfl, here.1.2⟩).bind fun _ => current_runs fun now => ?_
    refine Runs.pure _ fun process start => ⟨start.1, start.2.1, ?_⟩
    obtain ⟨here, rfl⟩ := start.2
    rw [here.2]
    by_cases running : dp.devices (dp.ports side)
    · have refused := (answers.refusal side).property
      rw [if_pos running]
      exact ⟨Int.le_of_lt refused, fun zero => absurd zero (Int.ne_of_lt refused)⟩
    · rw [if_neg running]
      exact ⟨(answers.close side).property, fun _ => Bool.eq_false_iff.mpr running⟩
  refine device.bind fun ret => ?_
  have recorded : Runs (At views machine fun now =>
        HeldAt initialized sides firstError side dp now ∧ ret ≤ 0 ∧
          (ret = 0 → now.devices (now.ports side) = false))
      (updateIf (ret = 0) fun dp =>
        { dp with
          owned := Function.update dp.owned side false
          stats := { dp.stats with portsClosed := dp.stats.portsClosed + 1 } })
      (fun _ => At views machine fun now => Closed initialized sides firstError now ∧ ret ≤ 0 ∧
        (ret = 0 → now.owned side = false)) stop := by
    refine Runs.ite (fun zero => update_runs (fun _ => rfl) (fun _ => rfl) ?_) fun nonzero =>
      Runs.pure () fun process start => ⟨start.1, start.2.1.1.1, start.2.2.1, ?_⟩
    · rintro now safe ⟨⟨⟨⟨withdrawn, earlier, closed⟩, -⟩, -⟩, answered, silent⟩
      have stopped : now.started side = false := Bool.eq_false_iff.mpr fun started =>
        absurd ((safe.started side started).2.1.symm.trans (silent zero)) (by decide)
      have freed (other : Side) (free : other = side ∨ now.owned other = false) :
          Function.update now.owned side false other = false := by
        by_cases same : other = side
        · simp [same]
        · simpa [same] using free
      refine ⟨?_, ⟨{ withdrawn with }, earlier, fun none other member =>
        freed other (.inr (closed none other member))⟩, answered, fun _ => freed side (.inl rfl)⟩
      exact
        { safe with
          started := fun other started => by
            have differs : other ≠ side := fun same =>
              absurd (started.symm.trans (same ▸ stopped)) (by decide)
            obtain ⟨owned, running⟩ := safe.started other started
            exact ⟨(Function.update_of_ne differs _ _).trans owned, running⟩
          ready := fun ready => absurd (withdrawn.unready.symm.trans ready) (by decide)
          finished := fun closing => by
            obtain ⟨pool, owned, rules⟩ := safe.finished closing
            exact ⟨pool, fun other => freed other (.inr (owned other)), rules⟩ }
    · exact fun zero => absurd zero nonzero
  refine recorded.bind fun _ => Runs.pure _ fun process passed => ⟨passed.1, ?_⟩
  obtain ⟨⟨withdrawn, earlier, closed⟩, answered, freed⟩ := passed.2
  obtain ⟨bound, zero⟩ := keepFirst_zero answered earlier
  refine ⟨withdrawn, bound, fun none other member => ?_⟩
  rcases List.mem_cons.mp member with same | before
  · exact same ▸ freed (zero.mp none).1
  · exact closed (zero.mp none).2 other before

theorem closePort_runs (answers : CloseAnswers) (side : Side) {initialized : Bool}
    {sides : List Side} {firstError : Int} {stop : Int → Process tables → Prop} :
    Runs (At views machine (Closed initialized sides firstError))
      (closePort answers side firstError : Owner tables Int)
      (fun next => At views machine (Closed initialized (side :: sides) next)) stop := by
  refine current_runs fun dp => Runs.ite (fun owned => ?_) fun free => ?_
  · refine (weaken_runs (stopPort_runs answers side) ?_).bind fun next =>
      releasePort_runs answers side
    exact fun now _ here => ⟨here.1, here.2 ▸ owned⟩
  · refine Runs.pure _ fun process start => ⟨start.1, start.2.1.1, start.2.1.2.1, ?_⟩
    intro none other member
    rcases List.mem_cons.mp member with same | before
    · rw [same, start.2.2]
      exact Bool.eq_false_iff.mpr free
    · exact start.2.1.2.2 none other before

/-- Nothing is left that the cleanup would refuse. -/
def Clear (initialized : Bool) (dp : DpState tables) : Prop :=
  Withdrawn initialized dp ∧ dp.pool = none ∧ ∀ side, dp.owned side = false

/-- Both slots are free, and only the pool is left. -/
def Poolside (initialized : Bool) (firstError : Int) (dp : DpState tables) : Prop :=
  Closed initialized [.tx, .rx] firstError dp ∧ dp.pool.isSome ∧ ∀ side, dp.owned side = false

/-- A teardown that leaves early reports an error. -/
abbrev Fails (views : TableViews tables) (machine : Machine) (status : Int)
    (process : Process tables) : Prop := Leaves views machine status process ∧ status ≠ 0

/-- The pool is freed behind both ports, and only when all its packets are back. -/
theorem freePool_runs (inUse : Nat) {initialized : Bool} {firstError : Int} :
    Runs (At views machine (Closed initialized [.tx, .rx] firstError))
      (freePool inUse firstError : Owner tables Int)
      (fun status => At views machine fun dp => status = 0 → Clear initialized dp)
      (Fails views machine) := by
  have both {dp : DpState tables} (rx : dp.owned .rx = false) (tx : dp.owned .tx = false)
      (side : Side) : dp.owned side = false := by
    cases side
    · exact rx
    · exact tx
  refine current_runs fun dp => Runs.ite (fun complete => ?_) fun partly => ?_
  · have counted : Runs
        (At views machine fun now => Closed initialized [.tx, .rx] firstError now ∧ now = dp)
        (update fun dp => { dp with stats := { dp.stats with poolInUse := inUse } } :
          Owner tables Unit)
        (fun _ => At views machine (Poolside initialized firstError))
        (Fails views machine) := by
      refine update_runs (fun _ => rfl) (fun _ => rfl) ?_
      rintro now safe ⟨⟨withdrawn, closed⟩, rfl⟩
      exact ⟨{ safe with }, ⟨{ withdrawn with }, closed⟩, complete.1,
        both complete.2.1 complete.2.2⟩
    have error : (if firstError ≠ 0 then firstError else -ebusy) ≠ 0 := by
      unfold ebusy
      split_ifs with set
      · exact set
      · decide
    refine counted.bind fun _ => Runs.guard (fun _ _ start => ⟨start.1, error⟩) fun drained => ?_
    refine (observe_runs (.mempoolFree inUse) ⟨nofun, nofun⟩ fun now safe here =>
      ⟨not_not.mp drained,
      here.2.1, here.2.2, safe.silent fun side => safe.stopped (here.2.2 side)⟩).bind fun _ => ?_
    have freed : Runs (At views machine (Poolside initialized firstError))
        (update fun dp => { dp with pool := none, stats := { dp.stats with poolFreed := true } } :
          Owner tables Unit)
        (fun _ => At views machine (Clear initialized))
        (Fails views machine) := by
      refine update_runs (fun _ => rfl) (fun _ => rfl) fun now safe here => ?_
      obtain ⟨⟨withdrawn, -⟩, pooled, owned⟩ := here
      refine ⟨?_, { withdrawn with }, rfl, owned⟩
      exact
        { safe with
          started := fun side started => absurd
            (started.symm.trans (safe.stopped (owned side))) (by decide)
          apart := fun impossible => absurd impossible Bool.false_ne_true
          ready := fun ready => absurd (withdrawn.unready.symm.trans ready) (by decide)
          finished := fun closing => ⟨rfl, (safe.finished closing).2⟩ }
    exact freed.bind fun _ => Runs.pure _ fun process clear => ⟨clear.1, fun _ => clear.2⟩
  · refine Runs.pure _ fun process start => ⟨start.1, fun none => ?_⟩
    obtain ⟨⟨withdrawn, -, closed⟩, rfl⟩ := start.2
    have rx := closed none .rx (by decide)
    have tx := closed none .tx (by decide)
    refine ⟨withdrawn, ?_, both rx tx⟩
    by_contra pooled
    exact partly ⟨Option.isSome_iff_ne_none.mpr pooled, rx, tx⟩

/-- A teardown that returns zero clears the way for the cleanup. -/
theorem dpDataplaneTeardown_runs (answers : CloseAnswers) (initialized : Bool) :
    Runs (At views machine fun dp => dp.rules.initialized = initialized)
      (dpDataplaneTeardown answers : Owner tables Int)
      (fun status => At views machine fun dp => status = 0 → Clear initialized dp)
      (Fails views machine) := by
  refine current_runs fun dp => Runs.guard (fun _ _ start => ⟨start.1, by decide⟩) fun _ => ?_
  have unready : Runs (At views machine fun now => now.rules.initialized = initialized ∧ now = dp)
      (update fun dp => { dp with rules := { dp.rules with ready := false } } : Owner tables Unit)
      (fun _ => At views machine fun now => now.rules.initialized = initialized ∧
        now.rules.ready = false) (Fails views machine) :=
    update_runs (fun _ => rfl) (fun _ => rfl) fun now safe start =>
      ⟨{ safe with
          sound := safe.sound.flags _ _ _ _
          ready := fun impossible => absurd impossible Bool.false_ne_true }, start.1, rfl⟩
  have withdrawn : Runs (At views machine fun now => now.rules.initialized = initialized ∧
        now.rules.ready = false)
      (locked Memory.dpRulesTeardown)
      (fun _ => At views machine (Closed initialized [] 0)) (Fails views machine) := by
    apply locked_runs
    rintro process ⟨good, environment, unready⟩
    obtain ⟨value, memory, run, sound, flags, active, qsbr, unconfigured⟩ :=
      Memory.Sound.leads (Memory.dpRulesTeardown_leads process.dp.rules.flags) rfl
        ⟨(), Memory.dpRulesTeardown_sound good.safe.sound⟩
    obtain ⟨same, ready, running, -⟩ := Memory.RuleMemory.flags_eq flags
    have safe := good.safe
    refine ⟨value, memory, run, good.change ?_ rfl same,
      ⟨same.trans environment, ready.trans unready, active, qsbr, unconfigured⟩, Int.le_refl 0,
      fun _ _ impossible => (List.not_mem_nil impossible).elim⟩
    exact
      { safe with
        sound := sound
        registered := fun set => absurd (unconfigured.symm.trans set) (by decide)
        running := running.trans safe.running
        writer := rfl
        attempted := fun set => safe.attempted (same.symm.trans set)
        lcores := fun set => safe.lcores (same.symm.trans set)
        ready := fun set => absurd ((ready.trans unready).symm.trans set) (by decide)
        finished := fun closing => by
          obtain ⟨pool, owned, -⟩ := safe.finished (same.symm.trans closing)
          exact ⟨pool, owned, unconfigured, qsbr⟩ }
  refine unready.bind fun _ => withdrawn.bind fun _ => ?_
  refine (closePort_runs answers .rx).bind fun firstError => ?_
  exact (closePort_runs answers .tx).bind fun firstError => freePool_runs answers.inUse

end Teardown

end FlowRouter.Native.Lifecycle
