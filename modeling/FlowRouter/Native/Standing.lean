import FlowRouter.Native.Outline
import FlowRouter.Native.Process

namespace FlowRouter.Native

section Workers
variable {table : WorkerTable} {lcores : List Nat} {lcoreToSocketId : Nat → Int}
  {workerCount : Nat}

/-- What the table keeps in each of its updates holds after the setup of the workers. -/
theorem setupWorkers_invariant (invariant : WorkerTable → Prop)
    (touch : ∀ table index, invariant table → invariant (table.touch index))
    (place : ∀ table next lcoreId, invariant table → invariant (table.place next lcoreId))
    (publish : ∀ table index, invariant table → invariant (table.publish index))
    (clear : ∀ table count, invariant table → invariant (table.clear count))
    (begins : invariant table) :
    invariant (setupWorkers lcores lcoreToSocketId workerCount table).2 := by
  have maps (mainLcore : Nat) (rest : List Nat) (next : Nat) (table : WorkerTable)
      (begins : invariant table) :
      invariant (mapLcores mainLcore workerCount rest next table).2 := by
    induction rest generalizing next table with
    | nil => exact begins
    | cons lcoreId rest ih =>
      unfold mapLcores
      split_ifs
      · exact ih next table begins
      · exact begins
      · exact ih (next + 1) _ (place table next lcoreId begins)
  have publishes (remaining index : Nat) (table : WorkerTable) (begins : invariant table) :
      invariant (publishWorkers lcoreToSocketId remaining index table).2 := by
    induction remaining generalizing index table with
    | zero => exact begins
    | succ remaining ih =>
      unfold publishWorkers
      dsimp only
      split_ifs
      · exact touch table index begins
      · exact ih (index + 1) _ (publish _ index (touch table index begins))
  unfold setupWorkers
  split_ifs
  · exact begins
  have mapped := maps table.info.mainLcore lcores 1 _
    (place _ 0 table.info.mainLcore (clear table workerCount begins))
  generalize mapLcores table.info.mainLcore workerCount lcores 1
    ((table.clear workerCount).place 0 table.info.mainLcore) = outcome at mapped
  obtain ⟨status, final⟩ := outcome
  cases status with
  | error status => exact mapped
  | ok next =>
    dsimp only
    split_ifs
    · exact mapped
    · exact publishes workerCount 0 final mapped

/-- No worker has one of its flags set. -/
def WorkerTable.Idle (table : WorkerTable) : Prop :=
  ∀ worker, (table.workers worker).launched = false ∧
    (table.workers worker).readerRegistered = false

/-- The workers are idle, and the table knows the same machine as before. -/
def WorkerTable.IdleAs (before final : WorkerTable) : Prop :=
  final.Idle ∧ final.info.mainLcore = before.info.mainLcore ∧
    final.info.lcoreCount = before.info.lcoreCount ∧
    final.info.socketId = before.info.socketId

/-- The setup leaves the workers idle and does not touch what it knows of the machine. -/
theorem setupWorkers_keeps (idle : table.Idle) :
    table.IdleAs (setupWorkers lcores lcoreToSocketId workerCount table).2 := by
  have setInfo (final : WorkerTable) (index : Nat) (info : DpWorkerInfo) (idle : final.Idle) :
      (final.setInfo index info).Idle := by
    intro worker
    by_cases same : worker = index
    · rw [same, final.setInfo_self]
      exact idle index
    · rw [final.setInfo_other info same]
      exact idle worker
  apply setupWorkers_invariant table.IdleAs
  · exact fun _ _ kept => kept
  · exact fun final next lcoreId kept => ⟨setInfo _ _ _ (setInfo _ _ _ kept.1), kept.2⟩
  · intro final index kept
    refine ⟨fun worker => ?_, kept.2⟩
    by_cases same : worker = index
    · simp [same, WorkerTable.publish]
    · rw [(final.publish_other same).1]
      exact kept.1 worker
  · exact fun _ _ kept => ⟨fun _ => ⟨rfl, rfl⟩, kept.2⟩
  · exact ⟨idle, rfl, rfl, rfl⟩

theorem publishWorkers_refusal (lcoreToSocketId : Nat → Int) (remaining index : Nat)
    (table : WorkerTable) :
    (publishWorkers lcoreToSocketId remaining index table).1 = 0 ∨
      (publishWorkers lcoreToSocketId remaining index table).1 = -exdev := by
  induction remaining generalizing index table with
  | zero => exact .inl rfl
  | succ remaining ih =>
    unfold publishWorkers
    dsimp only
    split_ifs
    · exact .inr rfl
    · exact ih _ _

/-- An accepted setup gives the workers distinct lcores. -/
theorem setupWorkers_apart (distinct : lcores.Nodup) (enabled : table.info.mainLcore ∈ lcores)
    (count : table.info.lcoreCount = lcores.length)
    (accepted : 0 ≤ (setupWorkers lcores lcoreToSocketId workerCount table).1) :
    let final := (setupWorkers lcores lcoreToSocketId workerCount table).2
    Set.InjOn (fun worker => (final.workers worker).info.lcoreId)
      {worker | worker < final.workerCount} := by
  have passed : ¬ (workerCount = 0 ∨ workerCount > dpMaxWorkers ∨
      table.info.lcoreCount ≠ workerCount) := by
    intro refused
    rw [setupWorkers, if_pos refused] at accepted
    exact absurd accepted (show ¬ 0 ≤ -einval by decide)
  obtain ⟨mapped, same, -, counted, total, placed⟩ :=
    setupWorkers_eq lcoreToSocketId distinct enabled count passed
  rw [same] at accepted ⊢
  have success : (publishWorkers lcoreToSocketId workerCount 0 mapped).1 = 0 := by
    rcases publishWorkers_refusal lcoreToSocketId workerCount 0 mapped with success | refused
    · exact success
    · rw [refused] at accepted
      exact absurd accepted (by decide)
  intro final
  have workers : final.workerCount = (lcoreOrder table.info.mainLcore lcores).length :=
    ((publishWorkers_count _ _ _).trans counted).trans total.symm
  rw [workers]
  apply (lcores_bijOn (lcoreOrder_perm distinct enabled) distinct fun worker small => ?_).injOn
  rw [← (placed worker small).2]
  have published := (publishWorkers_published lcoreToSocketId workerCount 0 success worker).2
    (Nat.zero_le _) (by omega)
  have lcoreId := congrArg DpWorkerInfo.lcoreId published.1
  exact lcoreId

end Workers

namespace Lifecycle
open Memory (RuleMemory)

variable {tables : RteTables} {views : TableViews tables} {machine : Machine}
  {dp : DpState tables} {process : Process tables}

/-- The parts of the state fit together at every library call and between the owner calls. -/
structure Safe (views : TableViews tables) (machine : Machine) (dp : DpState tables) : Prop where
  sound : Memory.Sound views dp.rules
  registered : dp.rules.Registered
  running : dp.rules.running = false
  writer : dp.writerActive = false
  counts : dp.activeWorkers = 0 ∧ dp.registeredReaders = 0
  idle : dp.table.Idle
  attempted : dp.rules.initialized = true → dp.attempted = true
  lcores : dp.rules.initialized = true →
    dp.table.info.mainLcore = machine.mainLcore ∧ dp.table.info.lcoreCount = machine.lcores.length
  devices : ∀ port, dp.devices port = true → ∃ side, dp.started side = true ∧ dp.ports side = port
  started : ∀ side, dp.started side = true →
    dp.owned side = true ∧ dp.devices (dp.ports side) = true ∧ dp.pool.isSome
  apart : dp.pool.isSome → dp.ports .rx ≠ dp.ports .tx
  ready : dp.rules.ready = true → dp.rules.rulesConfigured = true ∧ dp.pool.isSome ∧
    (∀ side, dp.started side = true) ∧
    Set.InjOn (fun worker => (dp.table.workers worker).info.lcoreId)
      {worker | worker < dp.table.workerCount}
  finished : dp.rules.initialized = false → dp.pool = none ∧ (∀ side, dp.owned side = false) ∧
    dp.rules.rulesConfigured = false ∧ dp.rules.rulesQsbr = none

/-- The port is that of an owned slot, its device is stopped, and its packets have a pool. -/
def DpState.Opened (dp : DpState tables) (port : Nat) : Prop :=
  dp.devices port = false ∧ dp.pool.isSome ∧
    ∃ side, dp.ports side = port ∧ dp.owned side = true ∧ dp.started side = false

/-- Nothing refers to the environment any more. -/
structure DpState.Dead (dp : DpState tables) : Prop where
  workers : dp.activeWorkers = 0 ∧ dp.registeredReaders = 0 ∧ dp.table.Idle
  ports : ∀ side, dp.owned side = false ∧ dp.started side = false
  devices : ∀ port, dp.devices port = false
  pool : dp.pool = none
  rules : dp.rules.activeRules = none ∧ dp.rules.rulesQsbr = none
  heap : dp.rules.heap.objects = []

/-- Each library call meets a state that it is meant for. -/
def LibraryCall.Allowed (dp : DpState tables) : LibraryCall → Prop
  | .ealInit => dp.rules.initialized = false
  | .ealCleanup => dp.Dead
  | .devConfigure port => dp.Opened port
  | .rxQueueSetup port queue | .txQueueSetup port queue =>
      dp.Opened port ∧ queue < dp.table.workerCount
  | .devStart port => dp.Opened port
  | .devStop port => dp.devices port = true ∧
      ∃ side, dp.ports side = port ∧ dp.owned side = true ∧ dp.started side = true
  | .devClose port => ∃ side, dp.ports side = port ∧ dp.owned side = true
  | .poolCreate => dp.pool = none ∧ ∀ side, dp.owned side = true
  | .mempoolFree inUse => inUse = 0 ∧ dp.pool.isSome ∧ (∀ side, dp.owned side = false) ∧
      ∀ port, dp.devices port = false

def cleanups (log : List (LibraryCall × DpState tables)) : Nat :=
  log.countP fun entry => entry.1 = .ealCleanup

/-- The start of the environment comes before every other call, and nothing follows its cleanup. -/
def Bracketed (log : List (LibraryCall × DpState tables)) : Prop :=
  ∀ earlier call dp later, log = earlier ++ (call, dp) :: later →
    (call = .ealInit ↔ earlier = []) ∧ (call = .ealCleanup → later = [])

/-- An initialized environment still has its only cleanup ahead of it. -/
structure Good (views : TableViews tables) (machine : Machine) (process : Process tables) :
    Prop where
  safe : Safe views machine process.dp
  log : ∀ entry ∈ process.log, Safe views machine entry.2 ∧ entry.1.Allowed entry.2
  once : cleanups process.log + process.dp.rules.initialized.toNat ≤ process.dp.attempted.toNat
  bracketed : Bracketed process.log
  untouched : process.dp.attempted = false → process.log = []
  begun : process.dp.rules.initialized = true → process.log ≠ []

section Brackets
variable {log : List (LibraryCall × DpState tables)}

theorem cleanups_eq_zero : cleanups log = 0 ↔ ∀ entry ∈ log, entry.1 ≠ .ealCleanup := by
  simp [cleanups, List.countP_eq_zero]

/-- An open log takes the start of the environment first and other calls later. -/
theorem Bracketed.snoc (bracketed : Bracketed log) (unused : cleanups log = 0)
    {call : LibraryCall} (first : call = .ealInit ↔ log = []) (dp : DpState tables) :
    Bracketed (log ++ [(call, dp)]) := by
  intro earlier found state later same
  rcases List.eq_nil_or_concat later with rfl | ⟨front, last, rfl⟩
  · obtain ⟨rfl, now⟩ := List.append_inj' same rfl
    obtain ⟨rfl, -⟩ := Prod.mk.inj (List.singleton_inj.mp now)
    exact ⟨first, fun _ => rfl⟩
  · have split : log ++ [(call, dp)] = (earlier ++ (found, state) :: front) ++ [last] := by
      rw [same, List.concat_eq_append, List.append_assoc]
      rfl
    obtain ⟨before, -⟩ := List.append_inj' split rfl
    refine ⟨(bracketed earlier found state front before).1, fun ended => ?_⟩
    have member : (found, state) ∈ log := by
      rw [before]
      exact List.mem_append_right _ List.mem_cons_self
    exact absurd ended (cleanups_eq_zero.mp unused _ member)

end Brackets

section Facts

theorem Safe.active (safe : Safe views machine dp) :
    dp.rules.activeRules.isSome = dp.rules.rulesConfigured := by
  obtain ⟨qsbr, active, kept⟩ := safe.sound
  rw [kept.activeRules, kept.configured, Option.isSome_map]

/-- The owned flags follow the started ones. -/
theorem Safe.stopped (safe : Safe views machine dp) {side : Side} (free : dp.owned side = false) :
    dp.started side = false :=
  Bool.eq_false_iff.mpr fun started =>
    absurd ((safe.started side started).1.symm.trans free) (by decide)

theorem Safe.silent (safe : Safe views machine dp) (stopped : ∀ side, dp.started side = false)
    (port : Nat) : dp.devices port = false :=
  Bool.eq_false_iff.mpr fun running => by
    obtain ⟨side, started, -⟩ := safe.devices port running
    exact absurd (started.symm.trans (stopped side)) (by decide)

theorem DpState.ports_ne (apart : dp.ports .rx ≠ dp.ports .tx) {first second : Side}
    (differ : first ≠ second) : dp.ports first ≠ dp.ports second := by
  cases first <;> cases second
  · exact absurd rfl differ
  · exact apart
  · exact apart.symm
  · exact absurd rfl differ

/-- Without a pool no port is started. -/
theorem Safe.unpooled (safe : Safe views machine dp) (none : dp.pool = none) (side : Side) :
    dp.started side = false :=
  Bool.eq_false_iff.mpr fun started => by
    have pooled := (safe.started side started).2.2
    rw [none] at pooled
    exact absurd pooled (by decide)

/-- An owned port that is not started is open for its setup. -/
theorem Safe.opened (safe : Safe views machine dp) {side : Side} (pooled : dp.pool.isSome)
    (owned : dp.owned side = true) (stopped : dp.started side = false) :
    dp.Opened (dp.ports side) := by
  refine ⟨Bool.eq_false_iff.mpr fun running => ?_, pooled, side, rfl, owned, stopped⟩
  obtain ⟨other, started, same⟩ := safe.devices _ running
  refine DpState.ports_ne (safe.apart pooled) (fun equal => ?_) same
  rw [equal] at started
  exact absurd (started.symm.trans stopped) (by decide)

theorem Safe.workersStopped (safe : Safe views machine dp) : dp.workersStopped = true := by
  unfold DpState.workersStopped
  rw [if_neg (by rw [safe.counts.1, safe.counts.2]; decide), List.all_eq_true]
  intro worker _
  rw [(safe.idle worker).1, (safe.idle worker).2]
  rfl

/-- The devices and the pool are used only while the environment is initialized. -/
theorem LibraryCall.Allowed.initialized {call : LibraryCall} (allowed : call.Allowed dp)
    (safe : Safe views machine dp) (started : call ≠ .ealInit) (ended : call ≠ .ealCleanup) :
    dp.rules.initialized = true := by
  by_contra closed
  obtain ⟨pool, owned, -⟩ := safe.finished (Bool.eq_false_iff.mpr closed)
  have pooled : dp.pool.isSome ≠ true := by
    rw [pool]
    exact Bool.false_ne_true
  have held (side : Side) : dp.owned side ≠ true := by
    rw [owned side]
    exact Bool.false_ne_true
  cases call with
  | ealInit => exact started rfl
  | ealCleanup => exact ended rfl
  | devConfigure port => exact pooled allowed.2.1
  | rxQueueSetup port queue => exact pooled allowed.1.2.1
  | txQueueSetup port queue => exact pooled allowed.1.2.1
  | devStart port => exact pooled allowed.2.1
  | devStop port =>
    obtain ⟨-, side, -, kept, -⟩ := allowed
    exact held side kept
  | devClose port =>
    obtain ⟨side, -, kept⟩ := allowed
    exact held side kept
  | poolCreate => exact held .rx (allowed.2 .rx)
  | mempoolFree inUse => exact pooled allowed.2.1

/-- After a complete teardown nothing is alive. -/
theorem Safe.dead (safe : Safe views machine dp) (owned : ∀ side, dp.owned side = false)
    (pool : dp.pool = none) (rules : dp.rules.activeRules = none ∧ dp.rules.rulesQsbr = none) :
    dp.Dead where
  workers := ⟨safe.counts.1, safe.counts.2, safe.idle⟩
  ports side := ⟨owned side, safe.stopped (owned side)⟩
  devices := safe.silent fun side => safe.stopped (owned side)
  pool := pool
  rules := rules
  heap := by
    obtain ⟨qsbr, active, kept⟩ := safe.sound
    have unregistered : qsbr = none := kept.rulesQsbr.symm.trans rules.2
    have inactive : active = none := Option.map_eq_none_iff.mp (kept.activeRules.symm.trans rules.1)
    rw [kept.objects, unregistered, inactive]
    rfl

end Facts

end Lifecycle

end FlowRouter.Native
