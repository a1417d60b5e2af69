import FlowRouter.Native.Worker

namespace FlowRouter.Native
open Compaction

/-- The driver fills at most one burst with distinct mbufs. -/
structure RxBurst where
  mbufs : List MbufId
  contents : MbufId → RteMbuf
  limit : mbufs.length ≤ dpBurstSize
  distinct : mbufs.Nodup

/-- The driver accepts a prefix of the frames that it sees. -/
structure TxDriver where
  accept : List (MbufId × RteMbuf) → Nat
  bounded : ∀ frames, accept frames ≤ frames.length

/-- The received mbufs overwrite the front of the pointer array. -/
def rteEthRxBurst (port queue : UInt16) (received : RxBurst) (pkts : Nat → MbufId) :
    WorkerM (Nat × (Nat → MbufId)) := fun state =>
  ((received.mbufs.length, fun index => received.mbufs[index]?.getD (pkts index)),
    { state with
      packets := fun id =>
        if id ∈ received.mbufs then received.contents id else state.packets id
      calls := state.calls ++ [.rxBurst port queue] })

def rteEthTxBurst (port queue : UInt16) (driver : TxDriver) (pkts : Nat → MbufId)
    (txCount : Nat) : WorkerM Nat := fun state =>
  let frames := (window pkts 0 txCount).map fun id => (id, state.packets id)
  (driver.accept frames,
    { state with
      events := state.events ++ [.transmit frames (driver.accept frames)]
      calls := state.calls ++ [.txBurst port queue] })

/-- The worker frees the frames that the driver has not accepted. -/
def dpCompleteTx (pkts : Nat → MbufId) (n sent : Nat) : WorkerM Unit := do
  count fun stats => { stats with txAccepted := stats.txAccepted + UInt64.ofNat sent }
  count fun stats => { stats with txUnsent := stats.txUnsent + UInt64.ofNat (n - sent) }
  count fun stats => { stats with drop := stats.drop + UInt64.ofNat (n - sent) }
  forM (window pkts sent (n - sent)) rtePktmbufFree

/-- This is the transmission block of `dp_worker_run`. -/
def transmitKept (port queue : UInt16) (driver : TxDriver) (pkts : Nat → MbufId)
    (txCount : Nat) : WorkerM Unit := do
  let sent ← rteEthTxBurst port queue driver pkts txCount
  count fun stats => { stats with txBursts := stats.txBursts + 1 }
  dpCompleteTx pkts txCount sent

variable {tables : RteTables}

/-- This is one iteration of the loop in `dp_worker_run` with the snapshot that it has loaded. -/
def workerIteration (env : WorkerEnv) (worker : DpWorkerInfo)
    (snapshot : Option (DpRuleSnapshot tables)) (received : RxBurst) (driver : TxDriver)
    (pkts : Nat → MbufId) : WorkerM (Nat → MbufId) := do
  let (n, pkts) ← rteEthRxBurst (env.ports 0) worker.rxQueueId received pkts
  count fun stats => { stats with rxBursts := stats.rxBursts + 1 }
  if n = 0 then
    count fun stats => { stats with rxEmptyPolls := stats.rxEmptyPolls + 1 }
    dpRulesReaderQuiescent worker.workerId
    return pkts
  count fun stats => { stats with rx := stats.rx + UInt64.ofNat n }
  let (pkts, txCount) ← compact (dpProcessPacket env snapshot) n 0 0 pkts
  if txCount ≠ 0 then
    transmitKept (env.ports 1) worker.txQueueId driver pkts txCount
  dpRulesReaderQuiescent worker.workerId
  return pkts

/-- A loop of frees appends one event for each mbuf. -/
theorem forM_rtePktmbufFree_run (ids : List MbufId) (state : WorkerState) :
    (forM ids rtePktmbufFree).run state =
      pure ((), { state with events := state.events ++ ids.map .free }) := by
  induction ids generalizing state with
  | nil => simp
  | cons id rest ih => simp [ih]

section Packets
variable (env : WorkerEnv) (snapshot : Option (DpRuleSnapshot tables))
  (contents : MbufId → RteMbuf)

/-- Every packet of a burst has the outcome of its received contents. -/
def outcomeAt (id : MbufId) : Outcome := packetOutcome env snapshot (contents id)

/-- These are the packets that the worker keeps. -/
def keptIds (ids : List MbufId) : List MbufId :=
  ids.filter fun id => (outcomeAt env snapshot contents id).exit.keeps

def packetEvents (ids : List MbufId) : List MbufEvent :=
  ids.flatMap fun id => (outcomeAt env snapshot contents id).events id

def packetCounters (ids : List MbufId) : DpPacketStats :=
  (ids.map fun id => (outcomeAt env snapshot contents id).exit.counters).sum

end Packets

/-- Only the contents of the listed packets matter. -/
theorem packets_congr (env : WorkerEnv) (snapshot : Option (DpRuleSnapshot tables))
    {contents contents' : MbufId → RteMbuf} {ids : List MbufId}
    (same : ∀ id ∈ ids, contents' id = contents id) :
    keptIds env snapshot contents' ids = keptIds env snapshot contents ids ∧
      packetEvents env snapshot contents' ids = packetEvents env snapshot contents ids ∧
      packetCounters env snapshot contents' ids = packetCounters env snapshot contents ids := by
  have outcome (id : MbufId) (member : id ∈ ids) :
      outcomeAt env snapshot contents' id = outcomeAt env snapshot contents id :=
    congrArg (packetOutcome env snapshot) (same id member)
  refine ⟨List.filter_congr fun id member => ?_, ?_, ?_⟩
  · rw [outcome id member]
  · exact List.flatMap_congr fun id member => by rw [outcome id member]
  · exact congrArg List.sum (List.map_congr_left fun id member => by rw [outcome id member])

/-- Distinct packets do not disturb each other. -/
theorem keepRun_dpProcessPacket (env : WorkerEnv) (snapshot : Option (DpRuleSnapshot tables))
    (ids : List MbufId) (distinct : ids.Nodup) (state : WorkerState) :
    (keepRun (dpProcessPacket env snapshot) ids).run state =
      pure (keptIds env snapshot state.packets ids,
        { packets := fun id =>
            if id ∈ ids then (outcomeAt env snapshot state.packets id).mbuf else state.packets id
          events := state.events ++ packetEvents env snapshot state.packets ids
          stats := state.stats + packetCounters env snapshot state.packets ids
          calls := state.calls }) := by
  induction ids generalizing state with
  | nil => simp [keepRun, keptIds, packetEvents, packetCounters]
  | cons id rest ih =>
    obtain ⟨fresh, distinct⟩ := List.nodup_cons.mp distinct
    let outcome := outcomeAt env snapshot state.packets id
    have other (next : MbufId) (different : next ≠ id) :
        (state.leave id outcome).packets next = state.packets next :=
      Function.update_of_ne different _ _
    obtain ⟨kept, events, counters⟩ := packets_congr env snapshot
      (show ∀ next ∈ rest, (state.leave id outcome).packets next = state.packets next from
        fun next member => other next (ne_of_mem_of_not_mem member fresh))
    have front : keptIds env snapshot state.packets (id :: rest) =
        (if outcome.exit.keeps then some id else none).toList ++
          keptIds env snapshot state.packets rest := by
      unfold keptIds
      rw [List.filter_cons]
      change (if outcome.exit.keeps then _ else _) = _
      split_ifs <;> rfl
    have memory : (fun next => if next ∈ rest then
          (outcomeAt env snapshot (state.leave id outcome).packets next).mbuf
        else (state.leave id outcome).packets next) =
        fun next => if next ∈ id :: rest then
          (outcomeAt env snapshot state.packets next).mbuf else state.packets next := by
      funext next
      by_cases same : next = id
      · subst same
        rw [if_neg fresh, if_pos (.head _)]
        exact Function.update_self _ _ _
      · simp only [List.mem_cons, same, false_or]
        rw [outcomeAt, other next same, outcomeAt]
    have step : (dpProcessPacket env snapshot id).run state =
        pure (if outcome.exit.keeps then some id else none, state.leave id outcome) :=
      dpProcessPacket_run env snapshot id state
    rw [keepRun_cons rest step, ih distinct, kept, events, counters, memory, front]
    change pure (_, WorkerState.mk _ (state.events ++ outcome.events id ++ _)
      (state.stats + outcome.exit.counters + _) state.calls) = _
    rw [List.append_assoc, add_assoc]
    rfl

section Received
variable (env : WorkerEnv) (snapshot : Option (DpRuleSnapshot tables)) (received : RxBurst)
  (driver : TxDriver)

def RxBurst.kept : List MbufId := keptIds env snapshot received.contents received.mbufs

def RxBurst.frames : List (MbufId × RteMbuf) :=
  (received.kept env snapshot).map fun id =>
    (id, (outcomeAt env snapshot received.contents id).mbuf)

def RxBurst.sent : Nat := driver.accept (received.frames env snapshot)

/-- The frames are transmitted and the rejected tail is freed. -/
def RxBurst.completion : List MbufEvent :=
  if received.kept env snapshot = [] then []
  else .transmit (received.frames env snapshot) (received.sent env snapshot driver) ::
    ((received.kept env snapshot).drop (received.sent env snapshot driver)).map .free

/-- The driver sees the frames after the work on the packets. -/
def RxBurst.events : List MbufEvent :=
  packetEvents env snapshot received.contents received.mbufs ++
    received.completion env snapshot driver

/-- A transmission counts its burst and both parts of its frames. -/
def txCounters (n sent : Nat) : DpPacketStats :=
  { DpPacketStats.zero with
    txAccepted := UInt64.ofNat sent
    txUnsent := UInt64.ofNat (n - sent)
    drop := UInt64.ofNat (n - sent)
    txBursts := 1 }

def rxCounters (n : Nat) : DpPacketStats :=
  { DpPacketStats.zero with
    rx := UInt64.ofNat n
    rxBursts := 1
    rxEmptyPolls := if n = 0 then 1 else 0 }

def RxBurst.counters : DpPacketStats :=
  rxCounters received.mbufs.length +
    packetCounters env snapshot received.contents received.mbufs +
    if received.kept env snapshot = [] then 0
    else txCounters (received.kept env snapshot).length (received.sent env snapshot driver)

/-- An iteration polls its queue, sends what it keeps and reports its end. -/
def RxBurst.calls (worker : DpWorkerInfo) : List WorkerCall :=
  .rxBurst (env.ports 0) worker.rxQueueId ::
    (if received.kept env snapshot = [] then [] else [.txBurst (env.ports 1) worker.txQueueId]) ++
    [.readerQuiescent worker.workerId]

/-- The memory behind an iteration holds the treated packets. -/
def RxBurst.memory (packets : MbufId → RteMbuf) (id : MbufId) : RteMbuf :=
  if id ∈ received.mbufs then (outcomeAt env snapshot received.contents id).mbuf else packets id

end Received

/-- A transmission and its completion append their events, their counters and one call. -/
theorem transmitKept_run (port queue : UInt16) (driver : TxDriver) (pkts : Nat → MbufId)
    (txCount : Nat) (state : WorkerState) :
    let frames := (window pkts 0 txCount).map fun id => (id, state.packets id)
    let sent := driver.accept frames
    (transmitKept port queue driver pkts txCount).run state =
      pure ((), { state with
        events := state.events ++
          .transmit frames sent :: ((window pkts 0 txCount).drop sent).map .free
        stats := state.stats + txCounters txCount sent
        calls := state.calls ++ [.txBurst port queue] }) := by
  intro frames sent
  have reached : (rteEthTxBurst port queue driver pkts txCount).run state =
      pure (sent, { state with
        events := state.events ++ [.transmit frames sent]
        calls := state.calls ++ [.txBurst port queue] }) := rfl
  simp [transmitKept, reached, dpCompleteTx, forM_rtePktmbufFree_run, window_drop,
    DpPacketStats.add_def,
    dpPacketStatsAdd, txCounters, DpPacketStats.zero]

/-- The in-place compaction of a received burst keeps the forwarded and rewritten packets. -/
theorem compact_received (env : WorkerEnv) (snapshot : Option (DpRuleSnapshot tables))
    (received : RxBurst) (array : Nat → MbufId) (state : WorkerState)
    (filled : window array 0 received.mbufs.length = received.mbufs)
    (loaded : ∀ id ∈ received.mbufs, state.packets id = received.contents id) :
    ∃ result, (compact (dpProcessPacket env snapshot) received.mbufs.length 0 0 array).run state =
        pure ((result, (received.kept env snapshot).length),
          { packets := received.memory env snapshot state.packets
            events :=
              state.events ++ packetEvents env snapshot received.contents received.mbufs
            stats :=
              state.stats + packetCounters env snapshot received.contents received.mbufs
            calls := state.calls }) ∧
      window result 0 (received.kept env snapshot).length = received.kept env snapshot := by
  obtain ⟨result, run, prefixes⟩ :=
    compact_run (dpProcessPacket env snapshot) received.mbufs.length 0 0 array state le_rfl
  obtain ⟨kept, events, counters⟩ := packets_congr env snapshot loaded
  have memory : (fun id => if id ∈ received.mbufs then
      (outcomeAt env snapshot state.packets id).mbuf else state.packets id) =
      received.memory env snapshot state.packets := by
    funext id
    unfold RxBurst.memory
    by_cases member : id ∈ received.mbufs
    · rw [if_pos member, if_pos member, outcomeAt, loaded id member, outcomeAt]
    · rw [if_neg member, if_neg member]
  rw [filled, keepRun_dpProcessPacket env snapshot _ received.distinct state, kept, events,
    counters, memory, Nat.zero_add] at run
  rw [filled, keepRun_dpProcessPacket env snapshot _ received.distinct state, kept,
    Nat.zero_add] at prefixes
  exact ⟨result, run, prefixes⟩

/-- One iteration of the worker loop is determined by what it receives. -/
theorem workerIteration_run (env : WorkerEnv) (worker : DpWorkerInfo)
    (snapshot : Option (DpRuleSnapshot tables)) (received : RxBurst) (driver : TxDriver)
    (pkts : Nat → MbufId) (state : WorkerState) :
    ∃ pkts', (workerIteration env worker snapshot received driver pkts).run state =
      pure (pkts',
        { packets := received.memory env snapshot state.packets
          events := state.events ++ received.events env snapshot driver
          stats := state.stats + received.counters env snapshot driver
          calls := state.calls ++ received.calls env snapshot worker }) := by
  let array := fun index => received.mbufs[index]?.getD (pkts index)
  let contents := fun id => if id ∈ received.mbufs then received.contents id else state.packets id
  let polled := state.calls ++ [.rxBurst (env.ports 0) worker.rxQueueId]
  have filled : (rteEthRxBurst (env.ports 0) worker.rxQueueId received pkts).run state =
      pure ((received.mbufs.length, array),
        { state with packets := contents, calls := polled }) := rfl
  have memory : received.memory env snapshot contents =
      received.memory env snapshot state.packets := by
    funext id
    unfold RxBurst.memory
    by_cases member : id ∈ received.mbufs
    · rw [if_pos member, if_pos member]
    · rw [if_neg member, if_neg member]
      exact if_neg member
  unfold workerIteration
  simp only [StateT.run_bind, filled, pure_bind, count_run]
  by_cases idle : received.mbufs.length = 0
  · have nothing : received.mbufs = [] := List.length_eq_zero_iff.mp idle
    have kept : received.kept env snapshot = [] := by
      rw [RxBurst.kept, nothing]
      rfl
    rw [if_pos idle]
    refine ⟨array, ?_⟩
    have unchanged : received.memory env snapshot state.packets = contents := by
      funext id
      simp only [RxBurst.memory, contents, nothing, List.not_mem_nil, if_false]
    simp [unchanged, RxBurst.events, RxBurst.completion, RxBurst.counters, RxBurst.calls,
      packetEvents, packetCounters, kept, nothing, polled,
      rxCounters, DpPacketStats.add_def, dpPacketStatsAdd, DpPacketStats.zero]
  rw [if_neg idle]
  obtain ⟨result, compacted, kept⟩ := compact_received env snapshot received array
    { packets := contents, events := state.events,
      stats := state.stats + rxCounters received.mbufs.length, calls := polled }
    (window_overwrite _ _) fun id member => if_pos member
  have counted : WorkerState.mk contents state.events
      { state.stats with
        rx := state.stats.rx + UInt64.ofNat received.mbufs.length
        rxBursts := state.stats.rxBursts + 1 } polled =
      ⟨contents, state.events, state.stats + rxCounters received.mbufs.length, polled⟩ := by
    simp [rxCounters, idle, DpPacketStats.add_def, dpPacketStatsAdd, DpPacketStats.zero]
  refine ⟨result, ?_⟩
  simp only [StateT.run_bind, count_run, pure_bind]
  rw [counted, compacted, pure_bind]
  dsimp only
  rw [memory]
  by_cases none : received.kept env snapshot = []
  · simp [none, RxBurst.events, RxBurst.completion, RxBurst.counters, RxBurst.calls, polled,
      add_assoc]
  have some : (received.kept env snapshot).length ≠ 0 := fun zero =>
    none (List.length_eq_zero_iff.mp zero)
  have frames : ((received.kept env snapshot).map fun id =>
      (id, received.memory env snapshot state.packets id)) = received.frames env snapshot :=
    List.map_congr_left fun id member => by
      rw [RxBurst.memory, if_pos (List.mem_of_mem_filter member)]
  rw [if_pos some, StateT.run_bind, transmitKept_run, kept]
  simp only [frames, pure_bind]
  simp [RxBurst.events, RxBurst.completion, RxBurst.counters, RxBurst.calls, RxBurst.sent, none,
    polled, add_assoc]

end FlowRouter.Native
