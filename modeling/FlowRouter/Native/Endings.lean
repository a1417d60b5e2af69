import FlowRouter.Native.Stages

namespace FlowRouter.Native.Lifecycle
open Attempt Transition
open Memory (RuleMemory SnapshotFaults)

variable {tables : RteTables} {views : TableViews tables} {machine : Machine} {A : Type}
  {process : Process tables}

section Calls

/-- The environment has not been started, and it will not be started again. -/
structure Attempted (views : TableViews tables) (machine : Machine) (process : Process tables) :
    Prop where
  good : Good views machine process
  initialized : process.dp.rules.initialized = false
  attempted : process.dp.attempted = true
  unused : cleanups process.log = 0

/-- The start of the environment is the first entry of the log. -/
theorem Attempted.begin (start : Attempted views machine process) (empty : process.log = []) :
    Attempted views machine { process with log := process.log ++ [(.ealInit, process.dp)] } := by
  have unused : cleanups (process.log ++ [(.ealInit, process.dp)]) = 0 :=
    (cleanups_append _ .ealInit _ nofun).trans start.unused
  refine ⟨⟨start.good.safe, ?_, ?_, ?_, ?_, ?_⟩, start.initialized, start.attempted, unused⟩
  · intro entry member
    rcases List.mem_append.mp member with earlier | now
    · exact start.good.log entry earlier
    · rw [List.mem_singleton.mp now]
      exact ⟨start.good.safe, start.initialized⟩
  · rw [unused, start.initialized]
    exact Nat.zero_le _
  · exact start.good.bracketed.snoc start.unused ⟨fun _ => empty, fun _ => rfl⟩ process.dp
  · intro fresh
    exact absurd (start.attempted.symm.trans fresh) (by decide)
  · intro started
    exact absurd (start.initialized.symm.trans started) (by decide)

/-- The start is tried once, so no cleanup comes before it. -/
theorem dpRuntimeInit_runs (arguments : EalArguments) :
    Runs (Good views machine) (dpRuntimeInit machine arguments : Owner tables Int)
      (fun _ => Good views machine) (Leaves views machine) := by
  have start : Runs (At views machine fun _ => True)
      (dpRuntimeInit machine arguments : Owner tables Int) (fun _ => Good views machine)
      (Leaves views machine) := by
    refine current_runs fun dp => Runs.guard (fun _ _ start => start.1) fun first => ?_
    refine Runs.guard (fun _ _ start => start.1) fun _ => ?_
    have attempted : Runs (At views machine fun now => True ∧ now = dp)
        (update fun dp => { dp with attempted := true } : Owner tables Unit)
        (fun _ process => Attempted views machine process ∧ process.log = [])
        (Leaves views machine) := by
      apply Runs.alter
      rintro process ⟨good, -, rfl⟩
      have fresh : process.dp.attempted = false := Bool.eq_false_iff.mpr first
      have once := good.once
      rw [fresh] at once
      obtain ⟨unused, closed⟩ := Nat.add_eq_zero_iff.mp (Nat.le_zero.mp once)
      have initialized : process.dp.rules.initialized = false := by
        simpa using closed
      have safe := good.safe
      refine ⟨_, rfl, ⟨⟨{ safe with attempted := fun _ => rfl }, good.log, ?_, good.bracketed,
        fun impossible => absurd impossible.symm Bool.false_ne_true, good.begun⟩, initialized, rfl,
        unused⟩, good.untouched fresh⟩
      change cleanups process.log + process.dp.rules.initialized.toNat ≤ 1
      rw [unused, Nat.zero_add]
      exact Bool.toNat_le _
    refine attempted.bind fun _ => Runs.guard (fun _ _ start => start.1.good) fun _ => ?_
    have observed : Runs (fun process => Attempted views machine process ∧ process.log = [])
        (observe .ealInit : Owner tables Unit)
        (fun _ process => Attempted views machine process ∧ process.log ≠ [])
        (Leaves views machine) :=
      Runs.alter fun process start => ⟨_, rfl, start.1.begin start.2,
        List.append_ne_nil_of_right_ne_nil _ (List.cons_ne_nil _ _)⟩
    refine observed.bind fun _ => ?_
    cases arguments.ealInit with
    | some rteErrno => exact Runs.throw _ fun _ start => start.1.good
    | none =>
      refine Runs.bind (Runs.alter fun process start => ⟨_, rfl, ?_⟩) fun _ =>
        Runs.pure _ fun process good => good
      obtain ⟨start, begun⟩ := start
      have safe := start.good.safe
      refine ⟨?_, start.good.log, ?_, start.good.bracketed, start.good.untouched, fun _ => begun⟩
      · exact
          { safe with
            sound := safe.sound.flags _ _ _ _
            attempted := fun _ => start.attempted
            lcores := fun _ => ⟨rfl, rfl⟩
            finished := fun impossible => absurd impossible.symm Bool.false_ne_true }
      · change cleanups process.log + 1 ≤ process.dp.attempted.toNat
        rw [start.unused, start.attempted]
        exact Nat.le_refl 1
  exact fun process good => start process ⟨good, trivial⟩

/-- The rules stay in their own part of the state. -/
theorem onRules_runs {program : Memory.Call tables A} {pre : Process tables → Prop}
    {post : A → Process tables → Prop} {stop : Int → Process tables → Prop}
    (runs : ∀ process, pre process → ∃ value memory,
      program process.dp.rules = some (value, memory) ∧
        post value { process with dp := { process.dp with rules := memory } }) :
    Runs pre (onRules program) post stop := by
  intro process start
  obtain ⟨value, memory, run, holds⟩ := runs process start
  refine ⟨.ok value, _, ?_, holds⟩
  change (program process.dp.rules).map _ = _
  rw [run]
  rfl

/-- The rules of a ready dataplane are configured, so a configuration leaves them alone. -/
theorem dpConfigureRules_runs (stores : views.Stores) (qsbrFault : Option QsbrFault)
    (faults : SnapshotFaults) (flows : RuleArray DpFlowRule) (routes : RuleArray DpRouteRule) :
    Runs (Good views machine) (dpConfigureRules qsbrFault faults flows routes : Owner tables Int)
      (fun _ => Good views machine) (Leaves views machine) := by
  apply onRules_runs
  intro process good
  have safe := good.safe
  obtain ⟨status, memory, run, sound, flags, registered, closed⟩ :=
    Memory.Sound.leads (Memory.dpConfigureRules_leads stores qsbrFault faults flows routes
      process.dp.rules safe.registered) rfl
      (Memory.dpConfigureRules_sound stores safe.sound qsbrFault faults flows routes)
  obtain ⟨initialized, ready, running, -⟩ := Memory.RuleMemory.flags_eq flags
  refine ⟨status, memory, run, good.change ?_ rfl initialized⟩
  exact
    { safe with
      sound := sound
      registered := registered
      running := running.trans safe.running
      attempted := fun set => safe.attempted (initialized.symm.trans set)
      lcores := fun set => safe.lcores (initialized.symm.trans set)
      ready := fun set => by
        have before := safe.ready (ready.symm.trans set)
        rw [closed (.inr before.1)]
        exact before
      finished := fun closing => by
        have before := initialized.symm.trans closing
        rw [closed (.inl before)]
        exact safe.finished before }

/-- A publication exchanges the active snapshot only. -/
theorem dpPublishRules_runs (stores : views.Stores) (faults : SnapshotFaults)
    (flows : RuleArray DpFlowRule) (routes : RuleArray DpRouteRule) (generation : Option Nat) :
    Runs (Good views machine) (dpPublishRules faults flows routes generation : Owner tables Int)
      (fun _ => Good views machine) (Leaves views machine) := by
  refine Runs.ite (fun _ => Runs.pure _ fun _ good => good) fun _ => ?_
  refine Runs.bind (locked_runs fun process good => ?_) fun result =>
    Runs.pure _ fun process good => good
  have safe := good.safe
  obtain ⟨value, memory, run, sound, flags, configured, qsbr⟩ := Memory.Sound.leads
    (Memory.dpPublishRules_leads stores faults flows routes generation process.dp.rules) rfl
    (Memory.dpPublishRules_sound stores safe.sound faults flows routes generation)
  obtain ⟨initialized, ready, running, -⟩ := Memory.RuleMemory.flags_eq flags
  refine ⟨value, memory, run, good.change ?_ rfl initialized⟩
  exact
    { safe with
      sound := sound
      registered := fun set => qsbr ▸ safe.registered (configured.symm.trans set)
      running := running.trans safe.running
      writer := rfl
      attempted := fun set => safe.attempted (initialized.symm.trans set)
      lcores := fun set => safe.lcores (initialized.symm.trans set)
      ready := fun set => by
        obtain ⟨before, rest⟩ := safe.ready (ready.symm.trans set)
        exact ⟨configured.trans before, rest⟩
      finished := fun closing => by
        obtain ⟨pool, owned, before, none⟩ := safe.finished (initialized.symm.trans closing)
        exact ⟨pool, owned, configured.trans before, qsbr.trans none⟩ }

theorem dpDataplaneRequestStop_runs :
    Runs (Good views machine) (dpDataplaneRequestStop : Owner tables Int)
      (fun _ => Good views machine) (Leaves views machine) :=
  Runs.bind (Runs.alter fun _ good => by
    refine ⟨_, rfl, good.change ?_ rfl rfl⟩
    exact { good.safe with }) fun _ => Runs.pure _ fun _ good => good

/-- Nothing but the stop flag and the return value moves before the dataplane is ready. -/
structure Refused (start state : RunState) : Prop where
  owner : state.owner = .calling ∨ state.owner = .returned (-enodev)
  workers : ∀ worker, state.workers worker = .absent
  rest : state = { start with stop := state.stop, owner := state.owner }

theorem refused_run {start finish : RunState} {history : List (RunState × RunEvent)}
    (unready : start.ready = false) (calling : start.owner = .calling)
    (absent : ∀ worker, start.workers worker = .absent)
    (path : Trail RunSystemStep start history finish) : Refused start finish := by
  induction path with
  | refl => exact ⟨.inl calling, absent, rfl⟩
  | @snoc _ middle finish event _ last ih =>
    cases last with
    | worker worker step =>
      rw [ih.workers worker] at step
      cases step
    | requestStop => exact ⟨ih.owner, ih.workers, congrArg (fun state =>
        ({ state with stop := true } : RunState)) ih.rest⟩
    | owner step =>
      have closed : middle.ready = false := by
        rw [ih.rest]
        exact unready
      rcases ih.owner with point | point
      · rw [point] at step
        rcases step with step | step | step | step
        · cases step with
          | notReady _ => exact ⟨.inr rfl, ih.workers, congrArg (fun state =>
              ({ state with owner := .returned (-enodev) } : RunState)) ih.rest⟩
          | alreadyRan ready _ => exact absurd (ready.symm.trans closed) (by decide)
          | begin ready _ => exact absurd (ready.symm.trans closed) (by decide)
        · cases step
        · cases step
        · cases step
      · rw [point] at step
        rcases step with step | step | step | step <;> cases step

/-- A returned run has joined its workers, and it has not touched the rest of the state. -/
theorem Safe.run {dp : DpState tables} (safe : Safe views machine dp) {finish : RunState}
    {history : List (RunState × RunEvent)} {status : Int}
    (path : Trail RunSystemStep dp.runState history finish)
    (returned : finish.owner = .returned status) (packets : Nat → DpPacketStats) :
    Safe views machine (dp.withRun finish packets) := by
  have joined : finish.running = false ∧ (finish.activeWorkers = 0 ∧ finish.registeredReaders = 0) ∧
      ∀ worker, finish.launched worker = false ∧ finish.readerRegistered worker = false := by
    by_cases ready : dp.rules.ready = true
    · have idle : dp.runState.Idle :=
        { owner := rfl
          running := safe.running
          active := safe.counts.1
          reading := safe.counts.2
          launched := fun worker => (safe.idle worker).1
          flagged := fun worker => (safe.idle worker).2
          absent := fun _ => rfl
          apart := (safe.ready ready).2.2.2 }
      have joined := (idle.tracks_path path).joined returned
      exact ⟨joined.running, ⟨joined.active, joined.reading⟩,
        fun worker => ⟨joined.launched worker, joined.flagged worker⟩⟩
    · have refused := refused_run (Bool.eq_false_iff.mpr ready) rfl (fun _ => rfl) path
      rw [refused.rest]
      exact ⟨safe.running, safe.counts, safe.idle⟩
  exact
    { safe with
      sound := safe.sound.flags _ _ _ _
      running := joined.1
      counts := joined.2.1
      idle := joined.2.2 }

/-- This is the process after the cleanup of its environment. -/
def Process.cleaned (process : Process tables) : Process tables :=
  let dp := { process.dp with rules := { process.dp.rules with initialized := false } }
  { dp := dp, log := process.log ++ [(.ealCleanup, dp)] }

/-- The cleanup of a clear process keeps it good. -/
theorem Good.cleaned (good : Good views machine process)
    (initialized : process.dp.rules.initialized = true) (pool : process.dp.pool = none)
    (owned : ∀ side, process.dp.owned side = false)
    (rules : process.dp.rules.activeRules = none ∧ process.dp.rules.rulesQsbr = none)
    (unconfigured : process.dp.rules.rulesConfigured = false) :
    Good views machine process.cleaned := by
  have once := good.once
  rw [initialized, good.safe.attempted initialized] at once
  have attempted : process.cleaned.dp.attempted = true := good.safe.attempted initialized
  have safe : Safe views machine process.cleaned.dp :=
    { good.safe with
      sound := good.safe.sound.flags _ _ _ _
      attempted := fun impossible => absurd impossible Bool.false_ne_true
      lcores := fun impossible => absurd impossible Bool.false_ne_true
      finished := fun _ => ⟨pool, owned, unconfigured, rules.2⟩ }
  refine ⟨safe, fun entry member => ?_, ?_, ?_, fun fresh => ?_, fun impossible => ?_⟩
  · rcases List.mem_append.mp member with earlier | now
    · exact good.log entry earlier
    · rw [List.mem_singleton.mp now]
      exact ⟨safe, safe.dead owned pool rules⟩
  · have counted : cleanups process.cleaned.log = cleanups process.log + 1 := by
      simp [cleanups, Process.cleaned]
    rw [counted, attempted]
    exact once
  · apply good.bracketed.snoc (good.unused initialized)
    constructor
    · intro impossible
      cases impossible
    · exact fun empty => absurd empty (good.begun initialized)
  · exact absurd (attempted.symm.trans fresh) (by decide)
  · exact absurd impossible Bool.false_ne_true

theorem releaseEal_runs (status : Int) {stop : Int → Process tables → Prop} :
    Runs (· = process) (releaseEal status : Owner tables Int)
      (fun result after => result = status ∧ after = process.cleaned) stop := by
  rintro now rfl
  exact ⟨.ok status, now.cleaned, rfl, rfl, rfl⟩

theorem dpRuntimeCleanup_runs (status : Int) :
    Runs (Good views machine) (dpRuntimeCleanup status : Owner tables Int)
      (fun _ => Good views machine) (Leaves views machine) := by
  have start : Runs (At views machine fun _ => True) (dpRuntimeCleanup status : Owner tables Int)
      (fun _ => Good views machine) (Leaves views machine) := by
    refine current_runs fun dp => Runs.guard (fun _ _ start => start.1) fun initialized => ?_
    refine Runs.guard (fun _ _ start => start.1) fun passes => ?_
    rintro process ⟨good, -, rfl⟩
    simp only [not_or, Bool.not_eq_true, Option.isSome_eq_false_iff,
      Option.isNone_iff_eq_none] at passes
    obtain ⟨-, -, pool, rx, tx, -, -, active, qsbr, -, unconfigured⟩ := passes
    have owned (side : Side) : process.dp.owned side = false := by
      cases side
      · exact rx
      · exact tx
    exact ⟨.ok status, process.cleaned, rfl,
      good.cleaned (not_not.mp initialized) pool owned ⟨active, qsbr⟩ unconfigured⟩
  exact fun process good => start process ⟨good, trivial⟩

/-- A clear process passes every guard of the cleanup. -/
theorem dpRuntimeCleanup_clear (safe : Safe views machine process.dp)
    (clear : Clear true process.dp) (status : Int) :
    Owner.call (dpRuntimeCleanup status) process = some (status, process.cleaned) := by
  obtain ⟨withdrawn, pool, owned⟩ := clear
  have passes : Runs (· = process) (dpRuntimeCleanup status : Owner tables Int)
      (fun result after => result = status ∧ after = process.cleaned) (fun _ _ => False) := by
    have read : Runs (· = process) (current : Owner tables (DpState tables))
        (fun dp now => dp = process.dp ∧ now = process) (fun _ _ => False) :=
      Runs.demand fun now same => ⟨_, rfl, congrArg Process.dp same, same⟩
    refine read.bind fun dp => Runs.assume fun same => ?_
    rw [same]
    refine Runs.guard (fun missing => absurd withdrawn.environment missing) fun _ => ?_
    refine Runs.guard (fun busy => absurd busy ?_) fun _ => releaseEal_runs status
    simp [safe.running, safe.workersStopped, pool, owned .rx, owned .tx,
      safe.stopped (owned .rx), safe.stopped (owned .tx), withdrawn.activeRules,
      withdrawn.rulesQsbr, safe.writer, withdrawn.unconfigured]
  obtain ⟨result, after, run, outcome⟩ := passes process rfl
  rw [Owner.call, run]
  cases result with
  | ok result =>
    rw [outcome.1, outcome.2]
    rfl
  | error status => exact outcome.elim

end Calls

section Reached

/-- The status of a call shows which way it took. -/
theorem Owner.call_runs {program : Owner tables Int} {pre : Process tables → Prop}
    {post stop : Int → Process tables → Prop} (runs : Runs pre program post stop)
    (start : pre process) : ∃ status after, Owner.call program process = some (status, after) ∧
      (post status after ∨ stop status after) := by
  obtain ⟨result, after, run, outcome⟩ := runs process start
  refine ⟨callStatus result, after, ?_, ?_⟩
  · rw [Owner.call, run]
    rfl
  · cases result with
    | ok status => exact .inl outcome
    | error status => exact .inr outcome

/-- Every call of the owner has a result, and it keeps the process good. -/
theorem OwnerCall.keeps (stores : views.Stores) (good : Good views machine process)
    (call : OwnerCall) : ∃ status after,
      Owner.call (call.program machine) process = some (status, after) ∧
        Good views machine after := by
  have finished {program : Owner tables Int} {post stop : Int → Process tables → Prop}
      (runs : Runs (Good views machine) program post stop)
      (returns : ∀ status after, post status after → Good views machine after)
      (leaves : ∀ status after, stop status after → Good views machine after) :
      ∃ status after, Owner.call program process = some (status, after) ∧
        Good views machine after := by
    obtain ⟨status, after, run, outcome⟩ := Owner.call_runs runs good
    exact ⟨status, after, run, outcome.elim (returns status after) (leaves status after)⟩
  cases call with
  | runtimeInit arguments =>
    exact finished (dpRuntimeInit_runs arguments) (fun _ _ good => good) fun _ _ good => good
  | configureRules qsbrFault faults flows routes =>
    exact finished (dpConfigureRules_runs stores qsbrFault faults flows routes)
      (fun _ _ good => good) fun _ _ good => good
  | publishRules faults flows routes generation =>
    exact finished (dpPublishRules_runs stores faults flows routes generation)
      (fun _ _ good => good) fun _ _ good => good
  | dataplaneSetup rxDevice txDevice workerCount answers =>
    exact finished (dpDataplaneSetup_runs rxDevice txDevice workerCount answers)
      (fun _ _ ready => ready.2.2) fun _ _ good => good
  | dataplaneTeardown answers =>
    obtain ⟨status, after, run, outcome⟩ :=
      Owner.call_runs (dpDataplaneTeardown_runs answers process.dp.rules.initialized) ⟨good, rfl⟩
    exact ⟨status, after, run, outcome.elim (fun ends => ends.1) fun ends => ends.1⟩
  | runtimeCleanup status =>
    exact finished (dpRuntimeCleanup_runs status) (fun _ _ good => good) fun _ _ good => good
  | requestStop =>
    exact finished dpDataplaneRequestStop_runs (fun _ _ good => good) fun _ _ good => good

theorem Good.step (stores : views.Stores) (good : Good views machine process)
    {label : Option OwnerCall × Int} {after : Process tables}
    (step : ProcessStep machine process label after) : Good views machine after := by
  cases step with
  | call call run =>
    obtain ⟨status, reached, result, kept⟩ := call.keeps stores good
    obtain ⟨-, rfl⟩ := Prod.mk.inj (Option.some.inj (result.symm.trans run))
    exact kept
  | dataplaneRun packets path returned =>
    exact good.change (good.safe.run path returned packets) rfl rfl

theorem Good.initial (views : TableViews tables) (machine : Machine) :
    Good views machine (.initial tables) where
  safe :=
    { sound := Memory.RuleMemory.initial_sound views
      registered := fun impossible => absurd impossible Bool.false_ne_true
      running := rfl
      writer := rfl
      counts := ⟨rfl, rfl⟩
      idle := fun _ => ⟨rfl, rfl⟩
      attempted := fun impossible => absurd impossible Bool.false_ne_true
      lcores := fun impossible => absurd impossible Bool.false_ne_true
      devices := fun _ impossible => absurd impossible Bool.false_ne_true
      started := fun _ impossible => absurd impossible Bool.false_ne_true
      apart := fun impossible => absurd impossible Bool.false_ne_true
      ready := fun impossible => absurd impossible Bool.false_ne_true
      finished := fun _ => ⟨rfl, fun _ => rfl, rfl, rfl⟩ }
  log _ impossible := (List.not_mem_nil impossible).elim
  once := Nat.le_refl 0
  bracketed _ _ _ _ same := absurd same.symm (List.append_ne_nil_of_right_ne_nil _
    (List.cons_ne_nil _ _))
  untouched _ := rfl
  begun impossible := absurd impossible Bool.false_ne_true

/-- A process of this machine has come from the initial state by owner calls. -/
def Process.Reached (machine : Machine) (process : Process tables) : Prop :=
  Reachable (· = Process.initial tables) (ProcessStep machine) process

theorem Process.Reached.good (stores : views.Stores) (reached : process.Reached machine) :
    Good views machine process :=
  Reachable.invariant (Good views machine)
    (fun start (same : start = .initial tables) => same ▸ Good.initial views machine)
    (fun _ _ _ good step => good.step stores step) reached

/-- The state is observed now, at a library call and in the middle of a run. -/
inductive Process.Moment (process : Process tables) : DpState tables → Prop
  | now : Moment process process.dp
  | call {entry : LibraryCall × DpState tables} : entry ∈ process.log → Moment process entry.2
  | run {history : List (RunState × RunEvent)} {middle : RunState}
      (packets : Nat → DpPacketStats) : Trail RunSystemStep process.dp.runState history middle →
      Moment process (process.dp.withRun middle packets)

/-- A ready dataplane has everything that its workers use. -/
structure DpState.Equipped (dp : DpState tables) : Prop where
  pool : dp.pool.isSome
  ports : ∀ side, dp.owned side = true ∧ dp.started side = true ∧
    dp.devices (dp.ports side) = true
  snapshot : dp.rules.activeRules.isSome
  qsbr : dp.rules.rulesQsbr.isSome

theorem Safe.equipped {dp : DpState tables} (safe : Safe views machine dp)
    (ready : dp.rules.ready = true) : dp.Equipped := by
  obtain ⟨configured, pool, started, -⟩ := safe.ready ready
  refine ⟨pool, fun side => ?_, safe.active.trans configured, safe.registered configured⟩
  obtain ⟨owned, running, -⟩ := safe.started side (started side)
  exact ⟨owned, started side, running⟩

theorem Good.equipped (good : Good views machine process) {dp : DpState tables}
    (moment : process.Moment dp) (ready : dp.rules.ready = true) : dp.Equipped := by
  cases moment with
  | now => exact good.safe.equipped ready
  | call member => exact (good.log _ member).1.equipped ready
  | run packets path =>
    have equipped := good.safe.equipped ready
    exact ⟨equipped.pool, equipped.ports, equipped.snapshot, equipped.qsbr⟩

/-- In every sequence of owner calls a ready dataplane has all its parts, the pool is freed behind
both ports, the environment is cleaned up at most once and then with nothing alive, and a teardown
that returns zero lets the cleanup through. -/
theorem ownerCalls_safe (stores : views.Stores) (machine : Machine)
    (reached : process.Reached machine) :
    (∀ call : OwnerCall, ∃ status after,
      Owner.call (call.program machine) process = some (status, after)) ∧
    (∀ dp, process.Moment dp → dp.rules.ready = true → dp.Equipped) ∧
    (∀ inUse dp, (.mempoolFree inUse, dp) ∈ process.log →
      inUse = 0 ∧ dp.owned .rx = false ∧ dp.owned .tx = false) ∧
    cleanups process.log ≤ 1 ∧
    (∀ dp, (.ealCleanup, dp) ∈ process.log → dp.Dead) ∧
    ∀ answers after, Owner.call (dpDataplaneTeardown answers) process = some (0, after) →
      process.dp.rules.initialized = true →
      ∀ status, Owner.call (dpRuntimeCleanup status) after = some (status, after.cleaned) := by
  have good : Good views machine process := reached.good stores
  refine ⟨fun call => ?_, fun dp moment => good.equipped moment, fun inUse dp member => ?_, ?_,
    fun dp member => (good.log _ member).2, fun answers after torn initialized status => ?_⟩
  · obtain ⟨status, after, run, -⟩ := call.keeps stores good
    exact ⟨status, after, run⟩
  · obtain ⟨none, -, owned, -⟩ := (good.log _ member).2
    exact ⟨none, owned .rx, owned .tx⟩
  · exact le_trans (Nat.le_add_right _ _) (le_trans good.once (Bool.toNat_le _))
  · obtain ⟨found, reached, run, outcome⟩ :=
      Owner.call_runs (dpDataplaneTeardown_runs answers true) ⟨good, initialized⟩
    obtain ⟨rfl, rfl⟩ := Prod.mk.inj (Option.some.inj (run.symm.trans torn))
    rcases outcome with ⟨good', clear⟩ | ⟨-, impossible⟩
    · exact dpRuntimeCleanup_clear good'.safe (clear rfl) status
    · exact absurd rfl impossible

/-- The calls of a list follow each other. -/
def performAll (machine : Machine) :
    List OwnerCall → Process tables → Option (List Int × Process tables)
  | [], process => some ([], process)
  | call :: rest, process => do
      let (status, process) ← Owner.call (call.program machine) process
      let (statuses, process) ← performAll machine rest process
      return (status :: statuses, process)

theorem performAll_reached {calls : List OwnerCall} {statuses : List Int}
    {after : Process tables} (reached : process.Reached machine)
    (run : performAll machine calls process = some (statuses, after)) :
    after.Reached machine := by
  induction calls generalizing process statuses with
  | nil =>
    obtain ⟨-, rfl⟩ := Prod.mk.inj (Option.some.inj run)
    exact reached
  | cons call rest ih =>
    obtain ⟨⟨status, middle⟩, first, others⟩ := Option.bind_eq_some_iff.mp run
    obtain ⟨⟨statuses, last⟩, second, same⟩ := Option.bind_eq_some_iff.mp others
    obtain ⟨-, rfl⟩ := Prod.mk.inj (Option.some.inj same)
    obtain ⟨start, labels, initial, path⟩ := reached
    exact ih ⟨start, _, initial, path.snoc (.call call first)⟩ second

def oneLcore : Machine where
  lcores := [0]
  mainLcore := 0
  distinct := List.nodup_singleton 0
  enabled := List.mem_singleton_self 0
  socketId := 0
  lcoreToSocketId _ := 0

def tapAnswers : SetupAnswers where
  portByName name := .ok (if name = "dtap0" then 0 else 1)
  devInfo _ := .ok ⟨some "net_tap", 16, 16⟩
  pool := .ok 7
  ports _ := ⟨0, 0, 256, 256, fun _ => 0, fun _ => 0, ⟨0, Int.le_refl 0⟩⟩
  testQueueSetupFailure := -1

def closeAnswers (stop : Answer) : CloseAnswers where
  stop _ := stop
  close _ := ⟨0, Int.le_refl 0⟩
  refusal _ := ⟨-16, by decide⟩
  inUse := 0

/-- Neither port stops in the first teardown. -/
def stuckCalls : List OwnerCall :=
  [.runtimeInit ⟨1, false, "DPDK 25.11.3", none⟩,
    .configureRules none ⟨.none, fun _ => none, fun _ => none⟩ (.block []) (.block []),
    .dataplaneSetup (some "dtap0") (some "dtap1") 1 tapAnswers,
    .dataplaneTeardown (closeAnswers ⟨-5, by decide⟩)]

/-- The second teardown returns zero, and the cleanup may follow. -/
theorem ownerCalls_safe_stuck : ∃ process after : Process listTables,
    performAll oneLcore stuckCalls (.initial listTables) = some ([0, 0, 0, -5], process) ∧
      cleanups process.log ≤ 1 ∧
      Owner.call (dpDataplaneTeardown (closeAnswers ⟨0, Int.le_refl 0⟩)) process =
        some (0, after) ∧
      ∀ status, Owner.call (dpRuntimeCleanup status) after = some (status, after.cleaned) := by
  have evaluated : ((performAll oneLcore stuckCalls (.initial listTables)).bind fun outcome =>
      (Owner.call (dpDataplaneTeardown (closeAnswers ⟨0, Int.le_refl 0⟩)) outcome.2).map
        fun torn => (outcome.1, outcome.2.dp.rules.initialized, torn.1)) =
      some ([0, 0, 0, -5], true, 0) := by
    decide +kernel
  obtain ⟨⟨statuses, process⟩, run, torn⟩ := Option.bind_eq_some_iff.mp evaluated
  obtain ⟨⟨status, after⟩, down, same⟩ := Option.map_eq_some_iff.mp torn
  simp only [Prod.mk.injEq] at same
  obtain ⟨rfl, initialized, rfl⟩ := same
  obtain ⟨-, -, -, once, -, follows⟩ := ownerCalls_safe listViews_stores oneLcore
    (performAll_reached ⟨_, [], rfl, .refl⟩ run)
  exact ⟨process, after, run, once, down, follows _ _ down initialized⟩

end Reached

end FlowRouter.Native.Lifecycle
