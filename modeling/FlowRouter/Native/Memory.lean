import FlowRouter.Library.Attempt
import FlowRouter.Native.Heap

namespace FlowRouter.Native.Memory
open Attempt

/-- These are the fields of `dp_state` that the rule functions use, with the heap behind its
pointers. -/
structure RuleMemory (tables : RteTables) where
  heap : RuleHeap tables
  initialized : Bool
  rulesConfigured : Bool
  ready : Bool
  running : Bool
  ran : Bool
  activeRules : Option Nat
  rulesQsbr : Option Nat
  stats : DpRuleStats

def RuleMemory.initial (tables : RteTables) : RuleMemory tables :=
  ⟨.empty tables, false, false, false, false, false, none, none, .zero⟩

def RuleMemory.withHeap {tables : RteTables} (memory : RuleMemory tables)
    (heap : RuleHeap tables) : RuleMemory tables :=
  { memory with heap := heap }

/-- A call has no result where it uses a null pointer, freed memory or an index out of range. -/
abbrev Call (tables : RteTables) := StateT (RuleMemory tables) Option

/-- A part of a build leaves it with a status through the `fail` label. -/
abbrev Build (tables : RteTables) := Program (RuleMemory tables) Int

/-- Table insertions fail for reasons of their own. -/
abbrev InsertFault := Option { status : Int // status < 0 }

/-- One call meets failures in its allocations and in each insertion. -/
structure SnapshotFaults where
  allocations : BuildFaults
  flowInserts : Nat → InsertFault
  routeInserts : Nat → InsertFault

variable {tables : RteTables}

def rteZmalloc (failure : Option Nat) (object : Object tables) : Build tables Nat :=
  match failure with
  | some rteErrno => throw (errnoOr rteErrno enomem)
  | none => do
      let memory ← demand some
      alter fun memory => some (memory.withHeap (memory.heap.allocate object))
      return memory.heap.next

/-- A creation fails for a name that a live table has. -/
def createTable (failure : Option Nat) (object : Object tables) : Build tables Nat := do
  let memory ← demand some
  if ∃ entry ∈ memory.heap.objects, entry.2.resource = object.resource then
    alter fun memory => some (memory.withHeap (memory.heap.refuse object.resource))
    throw (-eexist)
  else rteZmalloc failure object

def rteHashCreate (failure : Option Nat) (name : String) (entries keyLen : Nat) :
    Build tables Nat :=
  createTable failure (.flowTable name (tables.hashCreate name entries keyLen))

def rteLpmCreate (failure : Option Nat) (name : String) (maxRules numberTbl8s : Nat) :
    Build tables Nat :=
  createTable failure (.routeTable name (tables.lpmCreate name maxRules numberTbl8s))

/-- An assignment to a field of a live snapshot. -/
def assign (snapshot : Nat) (change : SnapshotCell → SnapshotCell) : Build tables Unit :=
  alter fun memory => (memory.heap.snapshotAt snapshot).map fun cell =>
    memory.withHeap
      (memory.heap.write snapshot (Object.setCell (change cell)) (Object.setCell_resource _))

/-- An assignment to an element of a live action array. -/
def storeAction (pointer : Option Nat) (index : Nat) (action : DpRuleAction) :
    Build tables Unit :=
  alter fun memory => do
    let address ← pointer
    let slots ← memory.heap.actionsAt pointer
    guard (index < slots.length)
    return memory.withHeap
      (memory.heap.write address (Object.setSlot index action) (Object.setSlot_resource _ _))

def rteHashAddKeyData (fault : InsertFault) (pointer : Option Nat) (key : List UInt8)
    (data : Nat) : Build tables Unit := do
  let address ← demand fun _ => pointer
  let table ← demand fun memory => memory.heap.flowTableAt pointer
  match fault with
  | some failure => throw failure.val
  | none => do
      let (status, table) := tables.hashAddKeyData table key data
      alter fun memory => some (memory.withHeap
        (memory.heap.write address (Object.setHash table) (Object.setHash_resource _)))
      stopIf (status < 0) status

def rteLpmAdd (fault : InsertFault) (pointer : Option Nat) (prefixBits : UInt32) (depth : UInt8)
    (nextHop : UInt32) : Build tables Unit := do
  let address ← demand fun _ => pointer
  let table ← demand fun memory => memory.heap.routeTableAt pointer
  match fault with
  | some failure => throw failure.val
  | none => do
      let (status, table) := tables.lpmAdd table prefixBits depth nextHop
      alter fun memory => some (memory.withHeap
        (memory.heap.write address (Object.setLpm table) (Object.setLpm_resource _)))
      stopIf (status < 0) status

/-- The flow loop stores each action and a pointer to its element. -/
def addFlows (faults : Nat → InsertFault) (snapshot : SnapshotCell) (i : Nat) :
    List DpFlowRule → Build tables Unit
  | [] => return ()
  | flow :: rest => do
      stopIf ((flow.l4Proto ≠ ipprotoTcp ∧ flow.l4Proto ≠ ipprotoUdp) ∨ flow.reserved0 ≠ 0 ∨
        flow.reserved1 ≠ 0 ∨ flow.reserved2 ≠ 0) (-einval)
      stopIf (dpValidateAction flow.action < 0) (dpValidateAction flow.action)
      let key := (flowRuleKeyBytes flow).bytes
      let table ← demand fun memory => memory.heap.flowTableAt snapshot.flowTable
      stopIf (0 ≤ (tables.hashLookupData table key).1) (-eexist)
      storeAction snapshot.actions i flow.action
      let actions ← demand fun _ => snapshot.actions
      rteHashAddKeyData (faults i) snapshot.flowTable key (actions + i)
      addFlows faults snapshot (i + 1) rest

/-- The route loop continues in the same action array and stores the index of each element. -/
def addRoutes (faults : Nat → InsertFault) (snapshot : SnapshotCell) (flowCount i : Nat) :
    List DpRouteRule → Build tables Unit
  | [] => return ()
  | route :: rest => do
      let actionIndex := flowCount + i
      stopIf (route.depth = 0 ∨ route.depth > 32 ∨ route.reserved0 ≠ 0 ∨ route.reserved1 ≠ 0 ∨
        route.reserved2 ≠ 0) (-einval)
      stopIf (route.prefixBits &&& prefixMask route.depth ≠ route.prefixBits) (-einval)
      stopIf (dpValidateAction route.action < 0) (dpValidateAction route.action)
      let table ← demand fun memory => memory.heap.routeTableAt snapshot.routeTable
      let (present, _) := tables.lpmIsRulePresent table route.prefixBits route.depth
      stopIf (0 < present) (-eexist)
      stopIf (present < 0) present
      storeAction snapshot.actions actionIndex route.action
      rteLpmAdd (faults i) snapshot.routeTable route.prefixBits route.depth
        (UInt32.ofNat actionIndex)
      addRoutes faults snapshot flowCount (i + 1) rest

/-- A snapshot without rules has no action array. -/
def createActions (failure : Option Nat) (snapshot totalActions : Nat) : Build tables Unit :=
  if totalActions ≠ 0 then do
    let actions ← rteZmalloc failure (.actions (List.replicate totalActions DpRuleAction.zero))
    assign snapshot fun cell => { cell with actions := some actions, actionCount := totalActions }
  else return ()

def createFlowTable (failure : Option Nat) (snapshot flowCount generation : Nat) :
    Build tables Unit :=
  if flowCount ≠ 0 then do
    let flowTable ← rteHashCreate failure s!"dfr_f_{generation}" (dpMaxFlowRules * 2) 16
    assign snapshot fun cell => { cell with flowTable := some flowTable }
  else return ()

def createRouteTable (failure : Option Nat) (snapshot routeCount generation : Nat) :
    Build tables Unit :=
  if routeCount ≠ 0 then do
    let routeTable ← rteLpmCreate failure s!"dfr_r_{generation}" dpMaxRouteRules 256
    assign snapshot fun cell => { cell with routeTable := some routeTable }
  else return ()

/-- This part of the build follows the allocation of the snapshot. -/
def fillSnapshot (faults : SnapshotFaults) (flows : RuleArray DpFlowRule)
    (routes : RuleArray DpRouteRule) (generation snapshot : Nat) : Build tables Unit := do
  createActions faults.allocations.actions snapshot (flows.count + routes.count)
  createFlowTable faults.allocations.flowTable snapshot flows.count generation
  createRouteTable faults.allocations.routeTable snapshot routes.count generation
  let cell ← demand fun memory => memory.heap.snapshotAt snapshot
  addFlows faults.flowInserts cell 0 flows.rules
  addRoutes faults.routeInserts cell flows.count 0 routes.rules

def free (address : Nat) : Call tables Unit := fun memory =>
  (memory.heap.release address).map fun heap => ((), memory.withHeap heap)

/-- A null pointer is not freed. -/
def freeTable (pointer : Option Nat) (record : DpRuleStats → DpRuleStats) : Call tables Unit :=
  match pointer with
  | none => return ()
  | some address => do
      free address
      modify fun memory => { memory with stats := record memory.stats }

/-- The resource counters are written on request. -/
def noted (recordResourceStats : Bool) (freed : DpRuleStats → DpRuleStats)
    (stats : DpRuleStats) : DpRuleStats :=
  if recordResourceStats then freed stats else stats

def dpSnapshotFree (snapshot : Option Nat) (reclaimed recordResourceStats : Bool) :
    Call tables Unit :=
  match snapshot with
  | none => return ()
  | some address => do
      let memory ← get
      let cell ← liftM (memory.heap.snapshotAt address)
      freeTable cell.flowTable
        (noted recordResourceStats fun stats => { stats with flowTableFreed := true })
      freeTable cell.routeTable
        (noted recordResourceStats fun stats => { stats with routeTableFreed := true })
      freeTable cell.actions
        (noted recordResourceStats fun stats => { stats with actionStoreFreed := true })
      freeTable (some address)
        (noted recordResourceStats fun stats => { stats with snapshotFreed := true })
      if reclaimed then
        modify fun memory => { memory with stats :=
          { memory.stats with rulesReclaimed := memory.stats.rulesReclaimed + 1 } }

/-- The builder returns a complete snapshot, or it frees what it has allocated and returns a
status and a null pointer. -/
def dpSnapshotBuild (faults : SnapshotFaults) (flows : RuleArray DpFlowRule)
    (routes : RuleArray DpRouteRule) (generation : Nat) : Call tables (Int × Option Nat) :=
  if flows.count > dpMaxFlowRules ∨ routes.count > dpMaxRouteRules then return (-enospc, none)
  else if (flows.count ≠ 0 ∧ flows.isNull) ∨ (routes.count ≠ 0 ∧ routes.isNull) then
    return (-einval, none)
  else do
    match ← (rteZmalloc faults.allocations.snapshot
      (.snapshot ⟨none, none, none, 0, generation⟩)).run with
    | .error status => return (status, none)
    | .ok snapshot =>
        match ← (fillSnapshot faults flows routes generation snapshot).run with
        | .ok () => return (0, some snapshot)
        | .error status =>
            dpSnapshotFree (some snapshot) false false
            return (status, none)

/-- An object that only its own pointer refers to is allocated outside every build. -/
def zmalloc (object : Object tables) : Call tables Nat := fun memory =>
  some (memory.heap.next, memory.withHeap (memory.heap.allocate object))

def dpQsbrCreate (fault : Option QsbrFault) : Call tables Int := do
  let memory ← get
  if memory.rulesQsbr.isSome then return 0
  else match fault with
    | some (.memsize rteErrno) => return errnoOr rteErrno einval
    | some (.allocation rteErrno) => return errnoOr rteErrno enomem
    | some (.init rteErrno) => do
        let address ← zmalloc .qsbr
        free address
        return errnoOr rteErrno einval
    | none => do
        let address ← zmalloc .qsbr
        modify fun memory => { memory with rulesQsbr := some address }
        return 0

def countFailure : Call tables Unit :=
  modify fun memory => { memory with stats :=
    { memory.stats with rulesPublishFailed := memory.stats.rulesPublishFailed + 1 } }

def dpConfigureRules (qsbrFault : Option QsbrFault) (faults : SnapshotFaults)
    (flows : RuleArray DpFlowRule) (routes : RuleArray DpRouteRule) : Call tables Int := do
  let memory ← get
  if !memory.initialized then return -enodev
  else if memory.rulesConfigured || memory.ready || memory.running || memory.ran then
    return -ealready
  else do
    let status ← dpQsbrCreate qsbrFault
    if status < 0 then return status
    else do
      let (status, snapshot) ← dpSnapshotBuild faults flows routes 1
      if status < 0 then
        countFailure
        return status
      else
        modify fun memory =>
          { memory with
            activeRules := snapshot
            rulesConfigured := true
            stats := { memory.stats with rulesGeneration := 1, rulesPublishSuccess := 1 } }
        return 0

/-- The second component is the value behind the generation pointer. -/
def dpPublishRules (faults : SnapshotFaults) (flows : RuleArray DpFlowRule)
    (routes : RuleArray DpRouteRule) (generation : Option Nat) :
    Call tables (Int × Option Nat) :=
  match generation with
  | none => return (-einval, none)
  | some generation => do
      let memory ← get
      if !memory.initialized || !memory.rulesConfigured || memory.rulesQsbr.isNone ||
          memory.activeRules.isNone then
        return (-enodev, some generation)
      else do
        let nextGeneration := memory.stats.rulesGeneration + 1
        let (status, newSnapshot) ← dpSnapshotBuild faults flows routes nextGeneration
        if status < 0 then
          countFailure
          return (status, some generation)
        else
          let oldSnapshot := memory.activeRules
          modify fun memory =>
            { memory with
              activeRules := newSnapshot
              stats :=
                { memory.stats with
                  rulesGeneration := nextGeneration
                  rulesPublishSuccess := memory.stats.rulesPublishSuccess + 1 } }
          dpSnapshotFree oldSnapshot true true
          return (0, some nextGeneration)

def dpRulesTeardown : Call tables Unit := do
  let memory ← get
  modify fun memory => { memory with activeRules := none }
  dpSnapshotFree memory.activeRules false true
  match memory.rulesQsbr with
  | none => pure ()
  | some address => do
      free address
      modify fun memory =>
        { memory with rulesQsbr := none, stats := { memory.stats with qsbrFreed := true } }
  modify fun memory => { memory with rulesConfigured := false }

/-- The rule calls of a process come in any order. The rest of the program changes the flags
between them. -/
inductive RuleCall where
  | configureRules (qsbrFault : Option QsbrFault) (faults : SnapshotFaults)
      (flows : RuleArray DpFlowRule) (routes : RuleArray DpRouteRule)
  | publishRules (faults : SnapshotFaults) (flows : RuleArray DpFlowRule)
      (routes : RuleArray DpRouteRule) (generation : Option Nat)
  | rulesTeardown
  | setFlags (initialized ready running ran : Bool)

def RuleCall.perform : RuleCall → Call tables Unit
  | .configureRules qsbrFault faults flows routes => do
      let _ ← dpConfigureRules qsbrFault faults flows routes
  | .publishRules faults flows routes generation => do
      let _ ← dpPublishRules faults flows routes generation
  | .rulesTeardown => dpRulesTeardown
  | .setFlags initialized ready running ran =>
      modify fun memory => { memory with initialized, ready, running, ran }

def performAll : List RuleCall → Call tables Unit
  | [] => return ()
  | call :: rest => do
      call.perform
      performAll rest

end FlowRouter.Native.Memory
