import FlowRouter.Native.Dataplane
import FlowRouter.Native.ListTables
import Mathlib.Data.Set.Function

namespace FlowRouter.Native

/-- The version string and the numbers of the memory pool are left to their readers. -/
structure DpRuntimeInfo where
  initialized : Bool
  mainLcore : Nat
  lcoreCount : Nat
  socketId : Int
  rxPort : Nat
  txPort : Nat
  rxDesc : Nat
  txDesc : Nat
  nbMbuf : Nat
  cacheSize : Nat
  workerCount : Nat
  workers : Nat → DpWorkerInfo

/-- This is the whole context of a worker with its two flags. -/
structure DpWorkerSlot extends DpWorkerCtx where
  launched : Bool
  readerRegistered : Bool

def DpWorkerSlot.zero : DpWorkerSlot := ⟨⟨⟨0, 0, 0, 0⟩, .zero, 0⟩, false, false⟩

/-- These are the fields of `dp_state` that `setup_workers` reads and writes. The log records
every index into the worker array. -/
structure WorkerTable where
  info : DpRuntimeInfo
  workerCount : Nat
  workers : Nat → DpWorkerSlot
  indexed : List Nat

def WorkerTable.touch (table : WorkerTable) (index : Nat) : WorkerTable :=
  { table with indexed := table.indexed ++ [index] }

def WorkerTable.setInfo (table : WorkerTable) (index : Nat) (info : DpWorkerInfo) : WorkerTable :=
  { table.touch index with
    workers := Function.update table.workers index { table.workers index with info := info } }

/-- The loop body stores the identifier and the lcore of a worker. -/
def WorkerTable.place (table : WorkerTable) (next lcoreId : Nat) : WorkerTable :=
  let table := table.setInfo next { (table.workers next).info with workerId := next }
  table.setInfo next { (table.workers next).info with lcoreId := lcoreId }

/-- A worker that passes the socket check gets its queues, and its mapping becomes public. -/
def WorkerTable.publish (table : WorkerTable) (index : Nat) : WorkerTable :=
  let table :=
    table.setInfo index { (table.workers index).info with rxQueueId := UInt16.ofNat index }
  let table :=
    table.setInfo index { (table.workers index).info with txQueueId := UInt16.ofNat index }
  { table.touch index with
    info :=
      { table.info with
        workers := Function.update table.info.workers index (table.workers index).info }
    workers := Function.update table.workers index
      { table.workers index with result := 0, launched := false, readerRegistered := false } }

def validateWorkerSocket (baselineSocket workerSocket : Int) : Int :=
  if baselineSocket = workerSocket then 0 else -exdev

/-- The enumeration skips the main lcore and stops at the first lcore without a worker. -/
def mapLcores (mainLcore workerCount : Nat) : List Nat → Nat → WorkerTable →
    Except Int Nat × WorkerTable
  | [], next, table => (.ok next, table)
  | lcoreId :: rest, next, table =>
      if lcoreId = mainLcore then mapLcores mainLcore workerCount rest next table
      else if next ≥ workerCount then (.error (-einval), table)
      else mapLcores mainLcore workerCount rest (next + 1) (table.place next lcoreId)

/-- The last loop checks the socket of each worker before it publishes the mapping. -/
def publishWorkers (lcoreToSocketId : Nat → Int) : (remaining index : Nat) → WorkerTable →
    Int × WorkerTable
  | 0, _, table => (0, table)
  | remaining + 1, index, table =>
      let checked := table.touch index
      let socket := lcoreToSocketId (table.workers index).info.lcoreId
      if validateWorkerSocket table.info.socketId socket < 0 then (-exdev, checked)
      else publishWorkers lcoreToSocketId remaining (index + 1) (checked.publish index)

/-- The contexts of an earlier setup are cleared with `memset`. -/
def WorkerTable.clear (table : WorkerTable) (workerCount : Nat) : WorkerTable :=
  { table with
    workers := fun _ => .zero
    workerCount := workerCount
    info := { table.info with workerCount := workerCount } }

/-- The enabled lcores come in the order of `RTE_LCORE_FOREACH`. -/
def setupWorkers (lcores : List Nat) (lcoreToSocketId : Nat → Int) (workerCount : Nat)
    (table : WorkerTable) : Int × WorkerTable :=
  if workerCount = 0 ∨ workerCount > dpMaxWorkers ∨ table.info.lcoreCount ≠ workerCount then
    (-einval, table)
  else
    match mapLcores table.info.mainLcore workerCount lcores 1
        ((table.clear workerCount).place 0 table.info.mainLcore) with
    | (.error status, mapped) => (status, mapped)
    | (.ok next, mapped) =>
        if next ≠ workerCount then (-einval, mapped)
        else publishWorkers lcoreToSocketId workerCount 0 mapped

section Placement
variable {table : WorkerTable}

theorem WorkerTable.setInfo_self (table : WorkerTable) (index : Nat) (info : DpWorkerInfo) :
    (table.setInfo index info).workers index = { table.workers index with info := info } :=
  Function.update_self _ _ _

theorem WorkerTable.setInfo_other (table : WorkerTable) {index other : Nat} (info : DpWorkerInfo)
    (differs : other ≠ index) : (table.setInfo index info).workers other = table.workers other :=
  Function.update_of_ne differs _ _

theorem WorkerTable.place_self (table : WorkerTable) (next lcoreId : Nat) :
    ((table.place next lcoreId).workers next).info =
      { (table.workers next).info with workerId := next, lcoreId := lcoreId } := by
  simp only [WorkerTable.place, WorkerTable.setInfo_self]

theorem WorkerTable.place_other (table : WorkerTable) {next other : Nat} (lcoreId : Nat)
    (differs : other ≠ next) :
    (table.place next lcoreId).workers other = table.workers other := by
  simp only [WorkerTable.place, WorkerTable.setInfo_other _ _ differs]

theorem WorkerTable.place_indexed (table : WorkerTable) (next lcoreId : Nat) :
    (table.place next lcoreId).indexed = table.indexed ++ [next, next] := by
  simp [WorkerTable.place, WorkerTable.setInfo, WorkerTable.touch]

/-- The enumeration places a queue of lcores on consecutive workers. -/
def WorkerTable.placeAll (table : WorkerTable) (next : Nat) : List Nat → WorkerTable
  | [] => table
  | lcoreId :: rest => (table.place next lcoreId).placeAll (next + 1) rest

/-- When the remote lcores fit, the enumeration places all of them. -/
theorem mapLcores_eq {mainLcore workerCount : Nat} (lcores : List Nat) {next : Nat}
    (fits : next + (lcores.filter (· ≠ mainLcore)).length ≤ workerCount) :
    mapLcores mainLcore workerCount lcores next table =
      (.ok (next + (lcores.filter (· ≠ mainLcore)).length),
        table.placeAll next (lcores.filter (· ≠ mainLcore))) := by
  induction lcores generalizing next table with
  | nil => rfl
  | cons lcoreId rest ih =>
    by_cases isMain : lcoreId = mainLcore
    · rw [List.filter_cons_of_neg (by simpa using isMain)] at fits ⊢
      rw [mapLcores, if_pos isMain, ih fits]
    · rw [List.filter_cons_of_pos (by simpa using isMain), List.length_cons] at fits ⊢
      rw [mapLcores, if_neg isMain, if_neg (by omega), ih (by omega)]
      exact congrArg (fun count => (Except.ok count, _)) (by omega)

/-- The enumeration indexes no worker behind the count. -/
theorem mapLcores_indexed (mainLcore : Nat) {workerCount : Nat} (lcores : List Nat) (next : Nat)
    (before : ∀ index ∈ table.indexed, index < workerCount) :
    ∀ index ∈ (mapLcores mainLcore workerCount lcores next table).2.indexed,
      index < workerCount := by
  induction lcores generalizing next table with
  | nil => exact before
  | cons lcoreId rest ih =>
    rw [mapLcores]
    by_cases isMain : lcoreId = mainLcore
    · rw [if_pos isMain]
      exact ih next before
    · rw [if_neg isMain]
      by_cases outside : next ≥ workerCount
      · rw [if_pos outside]
        exact before
      · rw [if_neg outside]
        refine ih (next + 1) fun index member => ?_
        rw [WorkerTable.place_indexed] at member
        rcases List.mem_append.mp member with earlier | placed
        · exact before index earlier
        · have same : index = next := by simpa using placed
          omega

theorem WorkerTable.placeAll_info (queue : List Nat) (next : Nat) :
    (table.placeAll next queue).info = table.info ∧
      (table.placeAll next queue).workerCount = table.workerCount := by
  induction queue generalizing next table with
  | nil => exact ⟨rfl, rfl⟩
  | cons lcoreId rest ih => exact ih (next + 1)

/-- Earlier workers keep their context. -/
theorem WorkerTable.placeAll_before (queue : List Nat) {next worker : Nat} (early : worker < next) :
    (table.placeAll next queue).workers worker = table.workers worker := by
  induction queue generalizing next table with
  | nil => rfl
  | cons lcoreId rest ih =>
    rw [WorkerTable.placeAll, ih (by omega)]
    exact table.place_other lcoreId (by omega)

/-- Each worker gets the lcore at its place in the queue. -/
theorem WorkerTable.placeAll_placed (queue : List Nat) {next worker offset : Nat}
    (place : worker = next + offset) (small : offset < queue.length) :
    ((table.placeAll next queue).workers worker).info.workerId = worker ∧
      ((table.placeAll next queue).workers worker).info.lcoreId = queue[offset] := by
  induction queue generalizing next offset table with
  | nil => exact absurd small (Nat.not_lt_zero _)
  | cons lcoreId rest ih =>
    cases offset with
    | zero =>
      obtain rfl : worker = next := place
      have kept : ((table.place worker lcoreId).placeAll (worker + 1) rest).workers worker =
          (table.place worker lcoreId).workers worker :=
        WorkerTable.placeAll_before rest (Nat.lt_succ_self worker)
      have placed := table.place_self worker lcoreId
      rw [← kept] at placed
      exact ⟨congrArg DpWorkerInfo.workerId placed, congrArg DpWorkerInfo.lcoreId placed⟩
    | succ offset =>
      have later : worker = next + 1 + offset := by omega
      exact ih later (Nat.lt_of_succ_lt_succ small)

end Placement

section Publication
variable {table : WorkerTable}

theorem WorkerTable.publish_self (table : WorkerTable) (index : Nat) :
    ((table.publish index).workers index).info =
        { (table.workers index).info with
          rxQueueId := UInt16.ofNat index
          txQueueId := UInt16.ofNat index } ∧
      (table.publish index).info.workers index = ((table.publish index).workers index).info := by
  simp [WorkerTable.publish, WorkerTable.setInfo_self]

theorem WorkerTable.publish_other (table : WorkerTable) {index other : Nat}
    (differs : other ≠ index) :
    (table.publish index).workers other = table.workers other ∧
      (table.publish index).info.workers other = table.info.workers other := by
  simp only [WorkerTable.publish, Function.update_of_ne differs]
  exact ⟨by rw [WorkerTable.setInfo_other _ _ differs, WorkerTable.setInfo_other _ _ differs], rfl⟩

/-- The loop accepts the workers whose lcores are on the socket of the runtime. -/
theorem publishWorkers_status (lcoreToSocketId : Nat → Int) (remaining index : Nat) :
    (publishWorkers lcoreToSocketId remaining index table).1 = 0 ↔
      ∀ worker, index ≤ worker → worker < index + remaining →
        lcoreToSocketId (table.workers worker).info.lcoreId = table.info.socketId := by
  induction remaining generalizing index table with
  | zero => exact iff_of_true rfl fun worker above below => absurd above (by omega)
  | succ remaining ih =>
    have same (worker : Nat) (above : index + 1 ≤ worker) :
        ((table.touch index).publish index).workers worker = table.workers worker :=
      ((table.touch index).publish_other (by omega)).1
    have socket : ((table.touch index).publish index).info.socketId = table.info.socketId := rfl
    rw [publishWorkers, validateWorkerSocket]
    by_cases near : table.info.socketId = lcoreToSocketId (table.workers index).info.lcoreId
    · rw [if_pos near, if_neg (by decide), ih, socket]
      constructor
      · intro others worker above below
        rcases Nat.eq_or_lt_of_le above with rfl | later
        · exact near.symm
        · rw [← same worker later]
          exact others worker later (by omega)
      · intro all worker above below
        rw [same worker above]
        exact all worker (by omega) (by omega)
    · rw [if_neg near, if_pos (by decide)]
      refine iff_of_false (show ¬ -exdev = 0 by decide) fun all => near ?_
      exact (all index (Nat.le_refl _) (by omega)).symm

/-- Each accepted worker keeps its lcore and owns the queues of its own number. -/
theorem publishWorkers_published (lcoreToSocketId : Nat → Int) (remaining index : Nat)
    (accepted : (publishWorkers lcoreToSocketId remaining index table).1 = 0) (worker : Nat) :
    let final := (publishWorkers lcoreToSocketId remaining index table).2
    (worker < index → final.workers worker = table.workers worker ∧
      final.info.workers worker = table.info.workers worker) ∧
    (index ≤ worker → worker < index + remaining →
      (final.workers worker).info =
          { (table.workers worker).info with
            rxQueueId := UInt16.ofNat worker
            txQueueId := UInt16.ofNat worker } ∧
        final.info.workers worker = (final.workers worker).info) := by
  induction remaining generalizing index table with
  | zero => exact ⟨fun _ => ⟨rfl, rfl⟩, fun above below => absurd above (by omega)⟩
  | succ remaining ih =>
    rw [publishWorkers] at accepted ⊢
    by_cases far : validateWorkerSocket table.info.socketId
        (lcoreToSocketId (table.workers index).info.lcoreId) < 0
    · rw [if_pos far] at accepted
      exact absurd (show -exdev = 0 from accepted) (by decide)
    · rw [if_neg far] at accepted ⊢
      obtain ⟨earlier, later⟩ := ih (index + 1) accepted
      refine ⟨fun early => ?_, fun above below => ?_⟩
      · obtain ⟨slot, mapping⟩ := earlier (by omega)
        obtain ⟨slot', mapping'⟩ := (table.touch index).publish_other (Nat.ne_of_lt early)
        exact ⟨slot.trans slot', mapping.trans mapping'⟩
      · rcases Nat.eq_or_lt_of_le above with rfl | after
        · obtain ⟨slot, mapping⟩ := earlier (Nat.lt_succ_self _)
          obtain ⟨info, shown⟩ := (table.touch index).publish_self index
          rw [slot, mapping]
          exact ⟨info, shown⟩
        · obtain ⟨info, shown⟩ := later after (by omega)
          rw [((table.touch index).publish_other (by omega)).1] at info
          exact ⟨info, shown⟩

theorem publishWorkers_count (lcoreToSocketId : Nat → Int) (remaining index : Nat) :
    (publishWorkers lcoreToSocketId remaining index table).2.workerCount = table.workerCount := by
  induction remaining generalizing index table with
  | zero => rfl
  | succ remaining ih =>
    rw [publishWorkers]
    by_cases far : validateWorkerSocket table.info.socketId
        (lcoreToSocketId (table.workers index).info.lcoreId) < 0
    · rw [if_pos far]
      rfl
    · rw [if_neg far, ih]
      rfl

/-- The loop indexes the workers in its range. -/
theorem publishWorkers_indexed (lcoreToSocketId : Nat → Int) (remaining index : Nat)
    {workerCount : Nat} (limit : index + remaining ≤ workerCount)
    (before : ∀ other ∈ table.indexed, other < workerCount) :
    ∀ other ∈ (publishWorkers lcoreToSocketId remaining index table).2.indexed,
      other < workerCount := by
  induction remaining generalizing index table with
  | zero => exact before
  | succ remaining ih =>
    have touched : ∀ other ∈ (table.touch index).indexed, other < workerCount := by
      intro other member
      rcases List.mem_append.mp member with earlier | last
      · exact before other earlier
      · rw [List.mem_singleton.mp last]
        omega
    rw [publishWorkers]
    by_cases far : validateWorkerSocket table.info.socketId
        (lcoreToSocketId (table.workers index).info.lcoreId) < 0
    · rw [if_pos far]
      exact touched
    · rw [if_neg far]
      refine ih (index + 1) (by omega) fun other member => ?_
      simp only [WorkerTable.publish, WorkerTable.setInfo, WorkerTable.touch, List.append_assoc,
        List.mem_append, List.mem_singleton] at member
      rcases member with earlier | same | same | same | same
      · exact before other earlier
      all_goals omega

end Publication

/-- The main lcore comes first and the other lcores follow in their order. -/
def lcoreOrder (mainLcore : Nat) (lcores : List Nat) : List Nat :=
  mainLcore :: lcores.filter (· ≠ mainLcore)

theorem lcoreOrder_perm {mainLcore : Nat} {lcores : List Nat} (distinct : lcores.Nodup)
    (enabled : mainLcore ∈ lcores) : (lcoreOrder mainLcore lcores).Perm lcores := by
  have erased : lcores.filter (· ≠ mainLcore) = lcores.erase mainLcore := by
    rw [distinct.erase_eq_filter]
    exact List.filter_congr fun lcoreId _ => by simp [bne, beq_eq_decide]
  rw [lcoreOrder, erased]
  exact (List.perm_cons_erase enabled).symm

/-- Workers that follow an order of the enabled lcores are a bijection onto them. -/
theorem lcores_bijOn {order lcores : List Nat} (same : order.Perm lcores)
    (distinct : lcores.Nodup) {lcoreId : Nat → Nat}
    (follows : ∀ worker (small : worker < order.length), lcoreId worker = order[worker]) :
    Set.BijOn lcoreId {worker | worker < order.length} {lcoreId | lcoreId ∈ lcores} := by
  refine ⟨fun worker small => ?_, fun first small second small' equal => ?_, fun found member => ?_⟩
  · rw [follows worker small]
    exact same.mem_iff.mp (List.getElem_mem _)
  · rw [follows first small, follows second small'] at equal
    exact (same.nodup_iff.mpr distinct).getElem_inj_iff.mp equal
  · obtain ⟨worker, small, rfl⟩ := List.getElem_of_mem (same.mem_iff.mpr member)
    exact ⟨worker, small, follows worker small⟩

/-- A queue belongs to one direction of its port. -/
inductive WorkerResource where
  | rxQueue (port queue : UInt16)
  | txQueue (port queue : UInt16)
  | reader (readerId : Nat)
  deriving DecidableEq, Repr

/-- Each call works on one queue or on one reader. -/
def WorkerCall.resource : WorkerCall → WorkerResource
  | .rxBurst port queue => .rxQueue port queue
  | .txBurst port queue => .txQueue port queue
  | .readerRegister readerId | .readerQuiescent readerId | .readerUnregister readerId =>
      .reader readerId

/-- The queues and the readers of all ports are numbered from zero. -/
def WorkerResource.number : WorkerResource → Nat
  | .rxQueue _ queue | .txQueue _ queue => queue.toNat
  | .reader readerId => readerId

section Calls
variable {tables : RteTables} (env : WorkerEnv) (worker : DpWorkerInfo)

/-- A worker polls one queue, sends on one queue and reports as one reader. -/
def DpWorkerInfo.resources : List WorkerResource :=
  [.rxQueue (env.ports 0) worker.rxQueueId, .txQueue (env.ports 1) worker.txQueueId,
    .reader worker.workerId]

theorem RxBurst.calls_resource (snapshot : Option (DpRuleSnapshot tables)) (received : RxBurst) :
    ∀ call ∈ received.calls env snapshot worker, call.resource ∈ worker.resources env := by
  intro call member
  unfold RxBurst.calls at member
  by_cases nothing : received.kept env snapshot = []
  · simp only [if_pos nothing, List.cons_append, List.nil_append, List.mem_cons,
      List.not_mem_nil, or_false] at member
    rcases member with rfl | rfl <;> simp [WorkerCall.resource, DpWorkerInfo.resources]
  · simp only [if_neg nothing, List.cons_append, List.nil_append, List.mem_cons,
      List.not_mem_nil, or_false] at member
    rcases member with rfl | rfl | rfl <;> simp [WorkerCall.resource, DpWorkerInfo.resources]

/-- Every call of a worker works on the resources of its context. -/
theorem dpWorkerRun_calls (stats : DpPacketStats) (script : WorkerScript tables) :
    ∀ call ∈ (dpWorkerRun env worker stats script).calls,
      call.resource ∈ worker.resources env := by
  have reader : WorkerResource.reader worker.workerId ∈ worker.resources env := by
    simp [DpWorkerInfo.resources]
  intro call member
  cases script with
  | injectedFailure => exact absurd member List.not_mem_nil
  | registerFailure status negative =>
    rw [List.mem_singleton.mp member]
    exact reader
  | loop packets pkts bursts =>
    simp only [dpWorkerRun, workerLoop_calls, List.append_assoc, List.mem_append,
      List.mem_singleton, List.mem_flatMap] at member
    rcases member with rfl | ⟨burst, -, called⟩ | rfl
    · exact reader
    · exact burst.received.calls_resource env worker burst.snapshot call called
    · exact reader

end Calls

section Setup
variable {lcores : List Nat} {lcoreToSocketId : Nat → Int} {workerCount : Nat}
  {table : WorkerTable}

/-- A count that passes the first check places every enabled lcore. -/
theorem setupWorkers_eq (lcoreToSocketId : Nat → Int) (distinct : lcores.Nodup)
    (enabled : table.info.mainLcore ∈ lcores)
    (count : table.info.lcoreCount = lcores.length)
    (passed : ¬ (workerCount = 0 ∨ workerCount > dpMaxWorkers ∨
      table.info.lcoreCount ≠ workerCount)) :
    ∃ mapped : WorkerTable, setupWorkers lcores lcoreToSocketId workerCount table =
        publishWorkers lcoreToSocketId workerCount 0 mapped ∧
      mapped.info.socketId = table.info.socketId ∧ mapped.workerCount = workerCount ∧
      (lcoreOrder table.info.mainLcore lcores).length = workerCount ∧
      ∀ worker (small : worker < (lcoreOrder table.info.mainLcore lcores).length),
        (mapped.workers worker).info.workerId = worker ∧
          (mapped.workers worker).info.lcoreId =
            (lcoreOrder table.info.mainLcore lcores)[worker] := by
  have total : (lcoreOrder table.info.mainLcore lcores).length = workerCount := by
    rw [(lcoreOrder_perm distinct enabled).length_eq, ← count]
    exact not_not.mp (not_or.mp (not_or.mp passed).2).2
  have fits : 1 + (lcores.filter (· ≠ table.info.mainLcore)).length = workerCount := by
    rw [← total, lcoreOrder, List.length_cons, Nat.add_comm]
  rw [setupWorkers, if_neg passed]
  rw [mapLcores_eq lcores (by omega)]
  dsimp only
  rw [if_neg (not_not.mpr fits)]
  refine ⟨_, rfl, ?_, ?_, total, fun worker small => ?_⟩
  · rw [(WorkerTable.placeAll_info _ _).1]
    rfl
  · rw [(WorkerTable.placeAll_info _ _).2]
    rfl
  · cases worker with
    | zero =>
      rw [WorkerTable.placeAll_before _ Nat.zero_lt_one, WorkerTable.place_self]
      exact ⟨rfl, rfl⟩
    | succ offset =>
      exact WorkerTable.placeAll_placed _ (Nat.add_comm offset 1) (Nat.lt_of_succ_lt_succ small)

/-- No path indexes a worker behind the count. -/
theorem setupWorkers_indexed (fresh : table.indexed = []) :
    ∀ index ∈ (setupWorkers lcores lcoreToSocketId workerCount table).2.indexed,
      index < workerCount := by
  rw [setupWorkers]
  by_cases refused : workerCount = 0 ∨ workerCount > dpMaxWorkers ∨
      table.info.lcoreCount ≠ workerCount
  · rw [if_pos refused, fresh]
    exact fun _ impossible => nomatch impossible
  · rw [if_neg refused]
    have positive : 0 < workerCount := Nat.pos_of_ne_zero (not_or.mp refused).1
    have start : ∀ index ∈ ((table.clear workerCount).place 0 table.info.mainLcore).indexed,
        index < workerCount := by
      rw [WorkerTable.place_indexed, WorkerTable.clear, fresh]
      simpa using positive
    have bounded := mapLcores_indexed table.info.mainLcore lcores 1 start
    cases mapped : mapLcores table.info.mainLcore workerCount lcores 1
        ((table.clear workerCount).place 0 table.info.mainLcore) with
    | mk status final =>
      rw [mapped] at bounded
      cases status with
      | error status => exact bounded
      | ok next =>
        dsimp only
        by_cases short : next ≠ workerCount
        · rw [if_pos short]
          exact bounded
        · rw [if_neg short]
          exact publishWorkers_indexed _ _ _ (Nat.le_of_eq (Nat.zero_add _)) bounded

/-- The lcores of an accepted setup are those of the enumeration, all on one socket. -/
theorem setupWorkers_status (distinct : lcores.Nodup) (enabled : table.info.mainLcore ∈ lcores)
    (count : table.info.lcoreCount = lcores.length) :
    (setupWorkers lcores lcoreToSocketId workerCount table).1 = 0 ↔
      1 ≤ workerCount ∧ workerCount ≤ 4 ∧ lcores.length = workerCount ∧
        ∀ lcoreId ∈ lcores, lcoreToSocketId lcoreId = table.info.socketId := by
  by_cases refused : workerCount = 0 ∨ workerCount > dpMaxWorkers ∨
      table.info.lcoreCount ≠ workerCount
  · rw [setupWorkers, if_pos refused]
    refine iff_of_false (show ¬ -einval = 0 by decide) ?_
    rintro ⟨least, most, exactly, -⟩
    rw [count] at refused
    change workerCount = 0 ∨ workerCount > 4 ∨ lcores.length ≠ workerCount at refused
    omega
  · obtain ⟨mapped, same, socket, -, total, placed⟩ :=
      setupWorkers_eq lcoreToSocketId distinct enabled count refused
    rw [same, publishWorkers_status, socket]
    have bounds : 1 ≤ workerCount ∧ workerCount ≤ 4 ∧ lcores.length = workerCount := by
      rw [count] at refused
      change ¬ (workerCount = 0 ∨ workerCount > 4 ∨ lcores.length ≠ workerCount) at refused
      omega
    have order := lcoreOrder_perm distinct enabled
    constructor
    · refine fun near => ⟨bounds.1, bounds.2.1, bounds.2.2, fun lcoreId member => ?_⟩
      obtain ⟨worker, small, rfl⟩ := List.getElem_of_mem (order.mem_iff.mpr member)
      rw [← (placed worker small).2]
      exact near worker (Nat.zero_le _) (by omega)
    · rintro ⟨-, -, -, near⟩ worker - below
      rw [(placed worker (by omega)).2]
      exact near _ (order.mem_iff.mp (List.getElem_mem _))

/-- The setup succeeds for exactly the sets of lcores that match the count and the socket. It
then gives each worker its own lcore, its own queues and its own reader. -/
theorem setupWorkers_exclusive (distinct : lcores.Nodup)
    (enabled : table.info.mainLcore ∈ lcores) (count : table.info.lcoreCount = lcores.length)
    (fresh : table.indexed = []) :
    let result := setupWorkers lcores lcoreToSocketId workerCount table
    (result.1 = 0 ↔ 1 ≤ workerCount ∧ workerCount ≤ 4 ∧ lcores.length = workerCount ∧
      ∀ lcoreId ∈ lcores, lcoreToSocketId lcoreId = table.info.socketId) ∧
    (result.1 = 0 →
      result.2.workerCount = workerCount ∧
      (∀ worker < workerCount,
        (result.2.workers worker).info.workerId = worker ∧
        (result.2.workers worker).info.rxQueueId.toNat = worker ∧
        (result.2.workers worker).info.txQueueId.toNat = worker ∧
        result.2.info.workers worker = (result.2.workers worker).info) ∧
      (result.2.workers 0).info.lcoreId = table.info.mainLcore ∧
      Set.BijOn (fun worker => (result.2.workers worker).info.lcoreId)
        {worker | worker < workerCount} {lcoreId | lcoreId ∈ lcores} ∧
      ∀ (tables : RteTables) (env : WorkerEnv) (script : Nat → WorkerScript tables),
        let calls := fun worker => (dpWorkerRun env (result.2.workers worker).info
          (result.2.workers worker).stats (script worker)).calls
        (∀ worker < workerCount, ∀ call ∈ calls worker, call.resource.number = worker) ∧
        ∀ first < workerCount, ∀ second < workerCount, first ≠ second →
          ∀ call ∈ calls first, ∀ other ∈ calls second, call.resource ≠ other.resource) ∧
    ∀ index ∈ result.2.indexed, index < workerCount := by
  refine ⟨setupWorkers_status distinct enabled count, fun success => ?_,
    setupWorkers_indexed fresh⟩
  obtain ⟨least, most, exactly, -⟩ := (setupWorkers_status distinct enabled count).mp success
  have passed : ¬ (workerCount = 0 ∨ workerCount > dpMaxWorkers ∨
      table.info.lcoreCount ≠ workerCount) := by
    rw [count]
    change ¬ (workerCount = 0 ∨ workerCount > 4 ∨ lcores.length ≠ workerCount)
    omega
  obtain ⟨mapped, same, -, counted, total, placed⟩ :=
    setupWorkers_eq lcoreToSocketId distinct enabled count passed
  rw [same] at success ⊢
  have published (worker : Nat) (small : worker < workerCount) :=
    (publishWorkers_published lcoreToSocketId workerCount 0 success worker).2 (Nat.zero_le _)
      (by omega)
  have queue (worker : Nat) (small : worker < workerCount) :
      (UInt16.ofNat worker).toNat = worker := BigEndian.toNat_ofNat16 (by omega)
  have lcore (worker : Nat) (small : worker < (lcoreOrder table.info.mainLcore lcores).length) :
      ((publishWorkers lcoreToSocketId workerCount 0 mapped).2.workers worker).info.lcoreId =
        (lcoreOrder table.info.mainLcore lcores)[worker] := by
    rw [(published worker (by omega)).1]
    exact (placed worker small).2
  have owned (worker : Nat) (small : worker < workerCount) :
      ((publishWorkers lcoreToSocketId workerCount 0 mapped).2.workers worker).info.workerId =
        worker ∧
      ((publishWorkers lcoreToSocketId workerCount 0 mapped).2.workers
        worker).info.rxQueueId.toNat = worker ∧
      ((publishWorkers lcoreToSocketId workerCount 0 mapped).2.workers
        worker).info.txQueueId.toNat = worker := by
    rw [(published worker small).1]
    exact ⟨(placed worker (by omega)).1, queue worker small, queue worker small⟩
  refine ⟨(publishWorkers_count _ _ _).trans counted, fun worker small => ?_, lcore 0 (by omega),
    ?_, fun tables env script => ?_⟩
  · obtain ⟨id, rx, tx⟩ := owned worker small
    exact ⟨id, rx, tx, (published worker small).2⟩
  · have bijective := lcores_bijOn (lcoreOrder_perm distinct enabled) distinct lcore
    rw [total] at bijective
    exact bijective
  · have numbered (worker : Nat) (small : worker < workerCount) (call : WorkerCall)
        (member : call ∈ (dpWorkerRun env
          ((publishWorkers lcoreToSocketId workerCount 0 mapped).2.workers worker).info
          ((publishWorkers lcoreToSocketId workerCount 0 mapped).2.workers worker).stats
          (script worker)).calls) : call.resource.number = worker := by
      obtain ⟨id, rx, tx⟩ := owned worker small
      have mine := dpWorkerRun_calls env _ _ _ call member
      simp only [DpWorkerInfo.resources, List.mem_cons, List.not_mem_nil, or_false] at mine
      rcases mine with mine | mine | mine
      · rw [mine]
        exact rx
      · rw [mine]
        exact tx
      · rw [mine]
        exact id
    refine ⟨numbered, fun first small second small' differs call member other member' same => ?_⟩
    apply differs
    rw [← numbered first small call member, ← numbered second small' other member', same]

end Setup

/-- Two lcores are enabled, and the main lcore is the second one. -/
def mainSecond : WorkerTable where
  info :=
    { initialized := true, mainLcore := 5, lcoreCount := 2, socketId := 0, rxPort := 0,
      txPort := 1, rxDesc := 1024, txDesc := 1024, nbMbuf := 8192, cacheSize := 256,
      workerCount := 0, workers := fun _ => ⟨0, 0, 0, 0⟩ }
  workerCount := 0
  workers := fun _ => .zero
  indexed := []

theorem setupWorkers_exclusive_mainSecond :
    (setupWorkers [3, 5] (fun _ => 0) 2 mainSecond).1 = 0 ∧
      ((setupWorkers [3, 5] (fun _ => 0) 2 mainSecond).2.workers 0).info.lcoreId = 5 ∧
      Set.BijOn
        (fun worker =>
          ((setupWorkers [3, 5] (fun _ => 0) 2 mainSecond).2.workers worker).info.lcoreId)
        {worker | worker < 2} {lcoreId | lcoreId ∈ [3, 5]} ∧
      ∀ (env : WorkerEnv) (script : Nat → WorkerScript listTables),
        let calls := fun worker =>
          (dpWorkerRun env ((setupWorkers [3, 5] (fun _ => 0) 2 mainSecond).2.workers worker).info
            ((setupWorkers [3, 5] (fun _ => 0) 2 mainSecond).2.workers worker).stats
            (script worker)).calls
        ∀ call ∈ calls 0, ∀ other ∈ calls 1, call.resource ≠ other.resource := by
  obtain ⟨accepted, owned, -⟩ := @setupWorkers_exclusive [3, 5] (fun _ => 0) 2 mainSecond
    (by decide) (by decide) rfl rfl
  have success := accepted.mpr ⟨by decide, by decide, rfl, fun _ _ => rfl⟩
  obtain ⟨-, -, main, bijective, apart⟩ := owned success
  refine ⟨success, main, bijective, fun env script => ?_⟩
  exact (apart listTables env script).2 0 (by decide) 1 (by decide) (by decide)

end FlowRouter.Native
