import FlowRouter.Native.Holding

namespace FlowRouter.Native.Memory

variable {tables : RteTables} {memory middle after : RuleMemory tables}
  {kept left right : List (Nat × Object tables)} {first second : List Nat}

/-- A call continues from the memory that its first part leaves. -/
theorem bind_run {A B : Type} {program : Call tables A} {value : A}
    (run : program memory = some (value, middle)) (next : A → Call tables B) :
    (program >>= next) memory = next value middle := by
  change (program memory).bind _ = _
  rw [run]
  rfl

/-- A call has freed these addresses in turn and keeps the other objects. -/
structure Freed (memory : RuleMemory tables) (kept : List (Nat × Object tables))
    (addresses : List Nat) (after : RuleMemory tables) : Prop where
  rest : after = { memory.withHeap after.heap with stats := after.stats }
  objects : after.heap.objects = kept
  log : after.heap.log = memory.heap.log ++ addresses.map .released

theorem Freed.trans (early : Freed memory left first middle)
    (late : Freed middle right second after) : Freed memory right (first ++ second) after where
  rest := by
    rw [late.rest, early.rest]
    rfl
  objects := late.objects
  log := by rw [late.log, early.log, List.map_append, List.append_assoc]

/-- One part of a snapshot is freed when it is present. -/
theorem freeTable_run {X : Type} (left right : List (Nat × Object tables))
    (part : Option (Nat × X)) (object : X → Object tables) (record : DpRuleStats → DpRuleStats)
    (split : memory.heap.objects =
      left ++ (part.toList.map fun entry => (entry.1, object entry.2)) ++ right) :
    ∃ after, freeTable (part.map Prod.fst) record memory = some ((), after) ∧
      Freed memory (left ++ right) (part.toList.map Prod.fst) after ∧
      after.stats = if part.isSome then record memory.stats else memory.stats := by
  cases part with
  | none =>
    refine ⟨memory, rfl, ⟨rfl, ?_, (List.append_nil _).symm⟩, rfl⟩
    simpa using split
  | some entry =>
    have at_entry : memory.heap.objects = left ++ (entry.1, object entry.2) :: right := by
      simpa using split
    refine ⟨{ memory.withHeap (memory.heap.erase entry.1) with stats := record memory.stats },
      ?_, ⟨rfl, RuleHeap.erase_split at_entry, rfl⟩, rfl⟩
    have freed : free entry.1 memory =
        some ((), memory.withHeap (memory.heap.erase entry.1)) := by
      unfold free
      rw [RuleHeap.release_split at_entry]
      rfl
    exact bind_run freed _

/-- These addresses are freed in this order. -/
def Parts.freedIds (parts : Parts tables) (snapshot : Nat) : List Nat :=
  parts.flowTable.toList.map Prod.fst ++ parts.routeTable.toList.map Prod.fst ++
    parts.actions.toList.map Prod.fst ++ [snapshot]

/-- The counters record on request which parts have been freed. -/
def Parts.freedStats (parts : Parts tables) (reclaimed recordResourceStats : Bool)
    (stats : DpRuleStats) : DpRuleStats :=
  { stats with
    flowTableFreed := stats.flowTableFreed || (parts.flowTable.isSome && recordResourceStats)
    routeTableFreed := stats.routeTableFreed || (parts.routeTable.isSome && recordResourceStats)
    actionStoreFreed := stats.actionStoreFreed || (parts.actions.isSome && recordResourceStats)
    snapshotFreed := stats.snapshotFreed || recordResourceStats
    rulesReclaimed := stats.rulesReclaimed + if reclaimed then 1 else 0 }

/-- Everything that a snapshot owns is freed once. -/
theorem dpSnapshotFree_run {snapshot : Nat} (parts : Parts tables)
    (split : memory.heap.objects = left ++ parts.objects snapshot ++ right)
    (reclaimed recordResourceStats : Bool) :
    ∃ after, dpSnapshotFree (some snapshot) reclaimed recordResourceStats memory =
        some ((), after) ∧
      Freed memory (left ++ right) (parts.freedIds snapshot) after ∧
      after.stats = parts.freedStats reclaimed recordResourceStats memory.stats := by
  have found : memory.heap.snapshotAt snapshot = some parts.cell := by
    rw [Parts.objects, List.append_assoc, List.cons_append] at split
    unfold RuleHeap.snapshotAt
    rw [RuleHeap.read_split split]
  obtain ⟨first, flowRun, flowFreed, flowStats⟩ :=
    freeTable_run (left ++ (snapshot, .snapshot parts.cell) :: parts.actionObjects)
      (parts.routeObjects ++ right) parts.flowTable (fun entry => .flowTable entry.1 entry.2)
      (noted recordResourceStats fun stats => { stats with flowTableFreed := true })
      (by rw [split, Parts.objects]; simp [Parts.flowObjects])
  obtain ⟨second, routeRun, routeFreed, routeStats⟩ :=
    freeTable_run (left ++ (snapshot, .snapshot parts.cell) :: parts.actionObjects) right
      parts.routeTable (fun entry => .routeTable entry.1 entry.2)
      (noted recordResourceStats fun stats => { stats with routeTableFreed := true })
      (by rw [flowFreed.objects]; simp [Parts.routeObjects])
  obtain ⟨third, actionRun, actionFreed, actionStats⟩ :=
    freeTable_run (left ++ [(snapshot, .snapshot parts.cell)]) right parts.actions .actions
      (noted recordResourceStats fun stats => { stats with actionStoreFreed := true })
      (by rw [routeFreed.objects]; simp [Parts.actionObjects])
  obtain ⟨fourth, lastRun, lastFreed, lastStats⟩ :=
    freeTable_run left right (some (snapshot, parts.cell)) .snapshot
      (noted recordResourceStats fun stats => { stats with snapshotFreed := true })
      (by rw [actionFreed.objects]; rfl)
  have freed := ((flowFreed.trans routeFreed).trans actionFreed).trans lastFreed
  have stats : { fourth.stats with
      rulesReclaimed := fourth.stats.rulesReclaimed + if reclaimed then 1 else 0 } =
        parts.freedStats reclaimed recordResourceStats memory.stats := by
    rw [lastStats, actionStats, routeStats, flowStats, Parts.freedStats]
    cases parts.flowTable <;> cases parts.routeTable <;> cases parts.actions <;>
      cases recordResourceStats <;> simp [noted]
  have calls : dpSnapshotFree (some snapshot) reclaimed recordResourceStats memory =
      (if reclaimed then modify fun memory => { memory with stats :=
        { memory.stats with rulesReclaimed := memory.stats.rulesReclaimed + 1 } }
      else pure () : Call tables Unit) fourth := by
    have got : (get : Call tables (RuleMemory tables)) memory = some (memory, memory) := rfl
    have seen : (liftM (memory.heap.snapshotAt snapshot) : Call tables SnapshotCell) memory =
        some (parts.cell, memory) := by
      rw [found]
      rfl
    rw [dpSnapshotFree, bind_run got, bind_run seen]
    rw [bind_run (show freeTable parts.cell.flowTable _ memory = _ from flowRun),
      bind_run (show freeTable parts.cell.routeTable _ first = _ from routeRun),
      bind_run (show freeTable parts.cell.actions _ second = _ from actionRun),
      bind_run (show freeTable (some snapshot) _ third = _ from lastRun)]
  cases reclaimed with
  | false => exact ⟨fourth, calls, freed, stats⟩
  | true => exact ⟨_, calls, ⟨by rw [freed.rest]; rfl, freed.objects, freed.log⟩, stats⟩

/-- The parts of a snapshot are freed in another order than they are allocated. -/
theorem Parts.freedIds_perm (parts : Parts tables) (snapshot : Nat) :
    (parts.freedIds snapshot).Perm ((parts.objects snapshot).map Prod.fst) := by
  have ids : (parts.objects snapshot).map Prod.fst = snapshot ::
      (parts.actions.toList.map Prod.fst ++ (parts.flowTable.toList.map Prod.fst ++
        parts.routeTable.toList.map Prod.fst)) := by
    simp [Parts.objects, Parts.actionObjects, Parts.flowObjects, Parts.routeObjects,
      Function.comp_def]
  rw [ids, Parts.freedIds]
  apply (List.perm_append_singleton _ _).trans
  exact List.perm_append_comm.cons _

end FlowRouter.Native.Memory
