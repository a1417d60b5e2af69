import FlowRouter.Native.Conservation
import FlowRouter.Native.ListTables
import FlowRouter.Native.Publish

namespace FlowRouter.Native

/-- One iteration of a worker loop sees its own snapshot, its own burst and its own driver. -/
structure Burst (tables : RteTables) where
  snapshot : Option (DpRuleSnapshot tables)
  received : RxBurst
  driver : TxDriver

variable {tables : RteTables}

/-- This is the loop of `dp_worker_run` over the iterations that precede the stop request. -/
def workerLoop (env : WorkerEnv) (worker : DpWorkerInfo) :
    List (Burst tables) → (Nat → MbufId) → WorkerM Unit
  | [], _ => return ()
  | burst :: rest, pkts => do
      let pkts ← workerIteration env worker burst.snapshot burst.received burst.driver pkts
      workerLoop env worker rest pkts

/-- A worker fails before its loop or runs it over the stale contents of its memory. -/
inductive WorkerScript (tables : RteTables) where
  | injectedFailure
  | registerFailure (status : Int) (negative : status < 0)
  | loop (packets : MbufId → RteMbuf) (pkts : Nat → MbufId) (bursts : List (Burst tables))

/-- A worker returns its status, and it leaves its counters and its calls. -/
structure WorkerResult where
  status : Int
  stats : DpPacketStats
  calls : List WorkerCall

/-- The worker writes only the counters of its own context. -/
def dpWorkerRun (env : WorkerEnv) (worker : DpWorkerInfo) (stats : DpPacketStats) :
    WorkerScript tables → WorkerResult
  | .injectedFailure => ⟨-eio, stats, []⟩
  | .registerFailure status _ => ⟨status, stats, [.readerRegister worker.workerId]⟩
  | .loop packets pkts bursts =>
      let final := ((workerLoop env worker bursts pkts).run
        ⟨packets, [], stats, [.readerRegister worker.workerId]⟩).run.2
      ⟨0, final.stats, final.calls ++ [.readerUnregister worker.workerId]⟩

/-- The counters at the top of the record are the totals over the workers. -/
structure DpStats extends DpPacketStats, DpRuleStats where
  workerCount : Nat
  workers : Nat → DpWorkerStats
  portsClosed : Nat
  poolInUse : Nat
  poolFreed : Bool

structure DpWorkerCtx where
  info : DpWorkerInfo
  stats : DpPacketStats
  result : Int

/-- These are the fields of `dp_state` that a run and its statistics read and write. -/
structure Dataplane where
  ready : Bool
  running : Bool
  ran : Bool
  workerCount : Nat
  limit : workerCount ≤ dpMaxWorkers
  workers : Nat → DpWorkerCtx
  stats : DpStats

/-- A remote worker starts unless its launch reports a status. -/
def launchWorkers (launch : Nat → Int) : (remaining index launched : Nat) → Nat × Int
  | 0, _, launched => (launched, 0)
  | remaining + 1, index, launched =>
      if launch index ≠ 0 then (launched, if launch index < 0 then launch index else -eio)
      else launchWorkers launch remaining (index + 1) (launched + 1)

/-- A worker stores its status and its counters in its context. -/
def runWorker (env : WorkerEnv) (script : WorkerScript tables) (worker : DpWorkerCtx) :
    DpWorkerCtx :=
  let done := dpWorkerRun env worker.info worker.stats script
  { worker with stats := done.stats, result := done.status }

/-- The first failure of a worker becomes the status of the run. -/
def joinWorkers (workers : Nat → DpWorkerCtx) : (remaining index : Nat) → Int → Int
  | 0, _, firstError => firstError
  | remaining + 1, index, firstError =>
      let ret := (workers index).result
      joinWorkers workers remaining (index + 1) (if ret < 0 ∧ firstError = 0 then ret else firstError)

/-- Worker zero runs on the main lcore and only when no launch has failed. -/
def runsWorker (launching : Nat × Int) (index : Nat) : Bool :=
  if index = 0 then launching.2 = 0 else index ≤ launching.1

/-- Every launched worker has returned when the function does. -/
def dpDataplaneRun (env : WorkerEnv) (launch : Nat → Int) (script : Nat → WorkerScript tables)
    (dp : Dataplane) : Int × Dataplane :=
  if !dp.ready then (-enodev, dp)
  else if dp.ran then (-ealready, dp)
  else
    let launching := launchWorkers launch (dp.workerCount - 1) 1 0
    let workers := fun index =>
      if runsWorker launching index then runWorker env (script index) (dp.workers index)
      else dp.workers index
    let firstError :=
      if launching.2 = 0 ∧ (workers 0).result < 0 then (workers 0).result else launching.2
    (joinWorkers workers launching.1 1 firstError,
      { dp with ran := true, running := false, workers := workers })

/-- The loop copies the record of each worker and adds it to the total. -/
def aggregateWorkers (workers : Nat → DpWorkerCtx) : (remaining index : Nat) →
    (Nat → DpWorkerStats) → DpPacketStats → (Nat → DpWorkerStats) × DpPacketStats
  | 0, _, records, total => (records, total)
  | remaining + 1, index, records, total =>
      let worker := workers index
      aggregateWorkers workers remaining (index + 1)
        (Function.update records index ⟨worker.info, worker.stats⟩)
        (dpPacketStatsAdd total worker.stats)

/-- The caller passes a record to fill or a null pointer. -/
def dpDataplaneGetStats (stats : Option DpStats) (dp : Dataplane) : Int × Option DpStats :=
  match stats with
  | none => (-einval, none)
  | some before =>
      if dp.running then (-ebusy, some before)
      else
        let stats :=
          { dp.stats with
            rx := 0
            parseOk := 0
            parseUnsupported := 0
            parseMalformed := 0
            flowHit := 0
            routeHit := 0
            lookupMiss := 0
            actionDrop := 0
            actionForward := 0
            actionRewrite := 0
            txAccepted := 0
            txUnsent := 0
            drop := 0
            rxBursts := 0
            rxEmptyPolls := 0
            txBursts := 0
            workerCount := dp.workerCount }
        let aggregated := aggregateWorkers dp.workers dp.workerCount 0 stats.workers .zero
        let total := aggregated.2
        (0, some
          { stats with
            workers := aggregated.1
            rx := total.rx
            parseOk := total.parseOk
            parseUnsupported := total.parseUnsupported
            parseMalformed := total.parseMalformed
            flowHit := total.flowHit
            routeHit := total.routeHit
            lookupMiss := total.lookupMiss
            actionDrop := total.actionDrop
            actionForward := total.actionForward
            actionRewrite := total.actionRewrite
            txAccepted := total.txAccepted
            txUnsent := total.txUnsent
            drop := total.drop
            rxBursts := total.rxBursts
            rxEmptyPolls := total.rxEmptyPolls
            txBursts := total.txBursts })

/-- The aggregation sums the records in its range and copies each of them. -/
theorem aggregateWorkers_eq (workers : Nat → DpWorkerCtx) (remaining index : Nat)
    (records : Nat → DpWorkerStats) (total : DpPacketStats) :
    aggregateWorkers workers remaining index records total =
      (fun worker => if index ≤ worker ∧ worker < index + remaining then
          ⟨(workers worker).info, (workers worker).stats⟩ else records worker,
        total + ((List.range' index remaining).map fun worker => (workers worker).stats).sum) := by
  induction remaining generalizing index records total with
  | zero =>
    have nothing (worker : Nat) : ¬ (index ≤ worker ∧ worker < index + 0) := by omega
    exact Prod.ext (funext fun worker => (if_neg (nothing worker)).symm) (add_zero total).symm
  | succ remaining ih =>
    rw [aggregateWorkers, ih]
    refine Prod.ext (funext fun worker => ?_) ?_
    · change (if _ then _ else _) = if _ then _ else _
      by_cases same : worker = index
      · subst same
        rw [if_neg (by omega), if_pos (by omega), Function.update_self]
      · rw [Function.update_of_ne same]
        have : (index + 1 ≤ worker ∧ worker < index + 1 + remaining) ↔
            index ≤ worker ∧ worker < index + (remaining + 1) := by omega
        simp only [this]
    · change total + (workers index).stats + _ = _
      rw [List.range'_succ, List.map_cons, List.sum_cons, add_assoc]

/-- The report copies the worker records, and its totals are their sum. -/
theorem dpDataplaneGetStats_eq (before : DpStats) (dp : Dataplane) (idle : dp.running = false) :
    ∃ report, dpDataplaneGetStats (some before) dp = (0, some report) ∧
      report.workerCount = dp.workerCount ∧
      report.toDpRuleStats = dp.stats.toDpRuleStats ∧
      (∀ worker < dp.workerCount, report.workers worker =
        ⟨(dp.workers worker).info, (dp.workers worker).stats⟩) ∧
      report.toDpPacketStats =
        ((List.range dp.workerCount).map fun worker => (dp.workers worker).stats).sum := by
  rw [dpDataplaneGetStats, idle, if_neg Bool.false_ne_true]
  refine ⟨_, rfl, rfl, rfl, ?_, ?_⟩
  · intro worker inside
    simp only [aggregateWorkers_eq]
    exact if_pos ⟨Nat.zero_le _, by omega⟩
  · simp only [aggregateWorkers_eq]
    rw [List.range_eq_range']
    exact zero_add _

def WorkerScript.bursts : WorkerScript tables → List (Burst tables)
  | .loop _ _ bursts => bursts
  | _ => []

def nonEmptyBursts (bursts : List (Burst tables)) : Nat :=
  (bursts.map fun burst => burst.received.nonEmpty).sum

/-- These bursts keep a packet and so reach the driver. -/
def transmittedBursts (env : WorkerEnv) (bursts : List (Burst tables)) : Nat :=
  (bursts.map fun burst => burst.received.transmitted env burst.snapshot).sum

def burstCounters (env : WorkerEnv) (bursts : List (Burst tables)) : DpPacketStats :=
  (bursts.map fun burst => burst.received.counters env burst.snapshot burst.driver).sum

/-- A burst is transmitted in one call or not at all. -/
theorem transmissions_events (env : WorkerEnv) (snapshot : Option (DpRuleSnapshot tables))
    (received : RxBurst) (driver : TxDriver) :
    (transmissions (received.events env snapshot driver)).length =
      received.transmitted env snapshot := by
  have same : received.frames env snapshot = [] ↔ received.kept env snapshot = [] :=
    List.map_eq_nil_iff
  have all : transmissions (received.events env snapshot driver) = _ := List.flatMap_append
  change _ = transmissions _ ++ transmissions _ at all
  rw [all, (acceptedIds_packetEvents _ _ _ _).2, (completion_ids _ _ _ _).2.2, List.nil_append,
    RxBurst.transmitted]
  simp only [same]
  split_ifs <;> rfl

/-- The loop adds the counters of its bursts and the transmissions of those that keep a packet. -/
theorem workerLoop_run (env : WorkerEnv) (worker : DpWorkerInfo) (bursts : List (Burst tables))
    (pkts : Nat → MbufId) (state : WorkerState) :
    let final := ((workerLoop env worker bursts pkts).run state).run.2
    final.stats = state.stats + burstCounters env bursts ∧
      (transmissions final.events).length =
        (transmissions state.events).length + transmittedBursts env bursts := by
  induction bursts generalizing pkts state with
  | nil => exact ⟨(add_zero _).symm, rfl⟩
  | cons burst rest ih =>
    obtain ⟨pkts', run⟩ :=
      workerIteration_run env worker burst.snapshot burst.received burst.driver pkts state
    simp only [workerLoop, StateT.run_bind, run, pure_bind]
    obtain ⟨stats, sends⟩ := ih pkts' _
    refine ⟨stats.trans (add_assoc _ _ _), sends.trans ?_⟩
    have added : transmissions
        (state.events ++ burst.received.events env burst.snapshot burst.driver) = _ :=
      List.flatMap_append
    change _ = transmissions _ ++ transmissions _ at added
    rw [added, List.length_append, transmissions_events, Nat.add_assoc]
    rfl

/-- The loop makes the calls of its bursts. -/
theorem workerLoop_calls (env : WorkerEnv) (worker : DpWorkerInfo) (bursts : List (Burst tables))
    (pkts : Nat → MbufId) (state : WorkerState) :
    ((workerLoop env worker bursts pkts).run state).run.2.calls = state.calls ++
      bursts.flatMap fun burst => burst.received.calls env burst.snapshot worker := by
  induction bursts generalizing pkts state with
  | nil => exact (List.append_nil _).symm
  | cons burst rest ih =>
    obtain ⟨pkts', run⟩ :=
      workerIteration_run env worker burst.snapshot burst.received burst.driver pkts state
    simp only [workerLoop, StateT.run_bind, run, pure_bind]
    rw [ih, List.flatMap_cons, List.append_assoc]

theorem burstCounters_conserved (env : WorkerEnv) (bursts : List (Burst tables)) :
    (burstCounters env bursts).Conserved (nonEmptyBursts bursts) (transmittedBursts env bursts) := by
  induction bursts with
  | nil => exact DpPacketStats.conserved_zero
  | cons burst rest ih =>
    exact (counters_conserved env burst.snapshot burst.received burst.driver).add ih

/-- These are the bursts that a worker handles during a run. -/
def executedBursts (launch : Nat → Int) (script : Nat → WorkerScript tables) (dp : Dataplane)
    (worker : Nat) : List (Burst tables) :=
  if dp.ready && !dp.ran && runsWorker (launchWorkers launch (dp.workerCount - 1) 1 0) worker then
    (script worker).bursts
  else []

theorem dpWorkerRun_stats (env : WorkerEnv) (worker : DpWorkerInfo) (stats : DpPacketStats)
    (script : WorkerScript tables) :
    (dpWorkerRun env worker stats script).stats = stats + burstCounters env script.bursts := by
  cases script with
  | injectedFailure => exact (add_zero stats).symm
  | registerFailure => exact (add_zero stats).symm
  | loop packets pkts bursts =>
    exact (workerLoop_run env worker bursts pkts ⟨packets, [], stats, _⟩).1

/-- A run adds to each context the counters of the bursts that its worker handles. -/
theorem dpDataplaneRun_stats (env : WorkerEnv) (launch : Nat → Int)
    (script : Nat → WorkerScript tables) (dp : Dataplane) (worker : Nat) :
    ((dpDataplaneRun env launch script dp).2.workers worker).stats =
      (dp.workers worker).stats + burstCounters env (executedBursts launch script dp worker) := by
  have skipped : (dp.workers worker).stats =
      (dp.workers worker).stats + burstCounters env ([] : List (Burst tables)) :=
    (add_zero _).symm
  unfold dpDataplaneRun executedBursts
  cases dp.ready with
  | false => exact skipped
  | true =>
    cases dp.ran with
    | true => exact skipped
    | false =>
      simp only [Bool.not_true, Bool.false_eq_true, if_false, Bool.not_false, Bool.true_and]
      by_cases runs : runsWorker (launchWorkers launch (dp.workerCount - 1) 1 0) worker
      · rw [if_pos runs, if_pos runs]
        exact dpWorkerRun_stats env _ (dp.workers worker).stats (script worker)
      · rw [if_neg runs, if_neg runs]
        exact skipped

theorem dpDataplaneRun_frame (env : WorkerEnv) (launch : Nat → Int)
    (script : Nat → WorkerScript tables) (dp : Dataplane) (idle : dp.running = false) :
    (dpDataplaneRun env launch script dp).2.running = false ∧
      (dpDataplaneRun env launch script dp).2.workerCount = dp.workerCount := by
  unfold dpDataplaneRun
  split_ifs
  · exact ⟨idle, rfl⟩
  · exact ⟨idle, rfl⟩
  · exact ⟨rfl, rfl⟩

/-- These are the sixteen counters of a record. -/
def counterFields : List (DpPacketStats → UInt64) :=
  [DpPacketStats.rx, DpPacketStats.parseOk, DpPacketStats.parseUnsupported,
    DpPacketStats.parseMalformed, DpPacketStats.flowHit, DpPacketStats.routeHit,
    DpPacketStats.lookupMiss, DpPacketStats.actionDrop, DpPacketStats.actionForward,
    DpPacketStats.actionRewrite, DpPacketStats.txAccepted, DpPacketStats.txUnsent,
    DpPacketStats.drop, DpPacketStats.rxBursts, DpPacketStats.rxEmptyPolls,
    DpPacketStats.txBursts]

/-- A sum of records is the sum of each of its counters. -/
theorem counterFields_sum {field : DpPacketStats → UInt64} (listed : field ∈ counterFields)
    (records : List DpPacketStats) : field records.sum = (records.map field).sum := by
  have additive : field 0 = 0 ∧
      ∀ first second, field (first + second) = field first + field second := by
    simp only [counterFields, List.mem_cons, List.not_mem_nil, or_false] at listed
    rcases listed with rfl | rfl | rfl | rfl | rfl | rfl | rfl | rfl | rfl | rfl | rfl | rfl | rfl |
      rfl | rfl | rfl <;> exact ⟨rfl, fun _ _ => rfl⟩
  induction records with
  | nil => exact additive.1
  | cons record rest ih => rw [List.sum_cons, List.map_cons, List.sum_cons, additive.2, ih]

theorem conserved_sum (workers : List Nat) (stats : Nat → DpPacketStats)
    (nonEmpty transmitted : Nat → Nat)
    (each : ∀ worker, (stats worker).Conserved (nonEmpty worker) (transmitted worker)) :
    (workers.map stats).sum.Conserved (workers.map nonEmpty).sum (workers.map transmitted).sum := by
  induction workers with
  | nil => exact DpPacketStats.conserved_zero
  | cons worker rest ih => exact (each worker).add ih

/-- The conservation laws hold for each worker behind any bursts and for the reported totals. -/
theorem packetCounters_conserved (env : WorkerEnv) :
    (∀ (worker : DpWorkerInfo) (bursts : List (Burst tables)) (packets : MbufId → RteMbuf)
      (pkts : Nat → MbufId),
      let final := ((workerLoop env worker bursts pkts).run ⟨packets, [], .zero, []⟩).run.2
      final.stats.Conserved (nonEmptyBursts bursts) (transmissions final.events).length) ∧
    ∀ (launch : Nat → Int) (script : Nat → WorkerScript tables) (dp : Dataplane)
      (before : DpStats), dp.running = false → (∀ worker, (dp.workers worker).stats = .zero) →
      let final := (dpDataplaneRun env launch script dp).2
      let workers := List.range dp.workerCount
      ∃ report, dpDataplaneGetStats (some before) final = (0, some report) ∧
        (∀ worker < dp.workerCount, (report.workers worker).packets = (final.workers worker).stats ∧
          (report.workers worker).packets.Conserved
            (nonEmptyBursts (executedBursts launch script dp worker))
            (transmittedBursts env (executedBursts launch script dp worker))) ∧
        (∀ field ∈ counterFields, field report.toDpPacketStats =
          (workers.map fun worker => field (report.workers worker).packets).sum) ∧
        report.toDpPacketStats.Conserved
          (workers.map fun worker =>
            nonEmptyBursts (executedBursts launch script dp worker)).sum
          (workers.map fun worker =>
            transmittedBursts env (executedBursts launch script dp worker)).sum := by
  refine ⟨fun worker bursts packets pkts => ?_, fun launch script dp before idle fresh => ?_⟩
  · obtain ⟨stats, sends⟩ := workerLoop_run env worker bursts pkts ⟨packets, [], .zero, []⟩
    have total : (transmissions
        ((workerLoop env worker bursts pkts).run ⟨packets, [], .zero, []⟩).run.2.events).length =
        transmittedBursts env bursts := sends.trans (Nat.zero_add _)
    dsimp only
    rw [stats, total]
    have conserved := burstCounters_conserved env bursts
    rw [← zero_add (burstCounters env bursts)] at conserved
    exact conserved
  · obtain ⟨stopped, count⟩ := dpDataplaneRun_frame env launch script dp idle
    obtain ⟨report, answer, -, -, records, totals⟩ :=
      dpDataplaneGetStats_eq before (dpDataplaneRun env launch script dp).2 stopped
    have each (worker : Nat) :
        ((dpDataplaneRun env launch script dp).2.workers worker).stats.Conserved
          (nonEmptyBursts (executedBursts launch script dp worker))
          (transmittedBursts env (executedBursts launch script dp worker)) := by
      have conserved := burstCounters_conserved env (executedBursts launch script dp worker)
      rw [← zero_add (burstCounters env _)] at conserved
      rw [dpDataplaneRun_stats, fresh worker]
      exact conserved
    rw [count] at records totals
    have copied (worker : Nat) (inside : worker < dp.workerCount) :
        (report.workers worker).packets =
          ((dpDataplaneRun env launch script dp).2.workers worker).stats :=
      congrArg DpWorkerStats.packets (records worker inside)
    refine ⟨report, answer, fun worker inside => ?_, fun field listed => ?_, ?_⟩
    · rw [copied worker inside]
      exact ⟨rfl, each worker⟩
    · rw [totals, counterFields_sum listed, List.map_map]
      refine congrArg List.sum (List.map_congr_left fun worker inside => ?_)
      rw [Function.comp_apply, copied worker (List.mem_range.mp inside)]
    · rw [totals]
      exact conserved_sum _ _ _ _ each

/-- A chained mbuf is not parsed. -/
def chainedMbuf : RteMbuf := ⟨2, 60, 60, fun _ => 0⟩

def chainedBurst : Burst listTables where
  snapshot := none
  received := ⟨[7], fun _ => chainedMbuf, by decide, by decide⟩
  driver := ⟨fun _ => 0, fun _ => Nat.zero_le _⟩

def idleBurst : Burst listTables where
  snapshot := none
  received := ⟨[], fun _ => chainedMbuf, by decide, by decide⟩
  driver := ⟨fun _ => 0, fun _ => Nat.zero_le _⟩

def chainedEnv : WorkerEnv := ⟨⟨fun _ => 0, fun _ _ _ _ => 0⟩, .zero, fun index => .ofNat index⟩

/-- The first worker polls twice and the second cannot register. -/
def chainedScript (worker : Nat) : WorkerScript listTables :=
  if worker = 0 then .loop (fun _ => chainedMbuf) id [idleBurst, chainedBurst]
  else .registerFailure (-einval) (by decide)

def twoWorkers : Dataplane where
  ready := true
  running := false
  ran := false
  workerCount := 2
  limit := by decide
  workers worker := ⟨⟨worker, worker, 0, 0⟩, .zero, 0⟩
  stats := ⟨.zero, .zero, 0, fun _ => ⟨⟨0, 0, 0, 0⟩, .zero⟩, 0, 0, false⟩

theorem packetCounters_conserved_twoWorkers :
    ∃ report, dpDataplaneGetStats (some twoWorkers.stats)
        (dpDataplaneRun chainedEnv (fun _ => 0) chainedScript twoWorkers).2 = (0, some report) ∧
      report.rxBursts - report.rxEmptyPolls = 1 ∧ report.toDpPacketStats.Balanced := by
  obtain ⟨report, answer, -, -, laws⟩ := (packetCounters_conserved chainedEnv).2 (fun _ => 0)
    chainedScript twoWorkers twoWorkers.stats rfl fun _ => rfl
  exact ⟨report, answer, laws.nonEmptyBursts.trans (by rfl), laws.balanced⟩

end FlowRouter.Native
