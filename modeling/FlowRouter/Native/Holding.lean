import FlowRouter.Native.Memory

namespace FlowRouter.Native.Memory
open Attempt

variable {tables : RteTables}

/-- The build has allocated some objects and has touched nothing else. -/
structure Holding (before : RuleMemory tables) (generation : Nat)
    (owned : List (Nat × Object tables)) (memory : RuleMemory tables) : Prop where
  rest : memory = before.withHeap memory.heap
  objects : memory.heap.objects = before.heap.objects ++ owned
  log : ∃ events, memory.heap.log = before.heap.log ++ events ∧
    Registry.createdIds events = owned.map Prod.fst ∧ Registry.releasedIds events = []
  orderly : before.heap.Orderly → before.heap.Vacant generation →
    memory.heap.Orderly

/-- This is what one snapshot owns. -/
structure Parts (tables : RteTables) where
  actions : Option (Nat × List DpRuleAction)
  flowTable : Option (Nat × String × tables.Hash)
  routeTable : Option (Nat × String × tables.Lpm)
  actionCount : Nat
  generation : Nat

def Parts.cell (parts : Parts tables) : SnapshotCell :=
  ⟨parts.flowTable.map Prod.fst, parts.routeTable.map Prod.fst, parts.actions.map Prod.fst,
    parts.actionCount, parts.generation⟩

def Parts.actionObjects (parts : Parts tables) : List (Nat × Object tables) :=
  parts.actions.toList.map fun store => (store.1, .actions store.2)

def Parts.flowObjects (parts : Parts tables) : List (Nat × Object tables) :=
  parts.flowTable.toList.map fun entry => (entry.1, .flowTable entry.2.1 entry.2.2)

def Parts.routeObjects (parts : Parts tables) : List (Nat × Object tables) :=
  parts.routeTable.toList.map fun entry => (entry.1, .routeTable entry.2.1 entry.2.2)

/-- The builder allocates its objects in this order. -/
def Parts.objects (parts : Parts tables) (snapshot : Nat) : List (Nat × Object tables) :=
  (snapshot, .snapshot parts.cell) ::
    (parts.actionObjects ++ parts.flowObjects ++ parts.routeObjects)

/-- A stage of the build stops with a negative status while it holds the parts of a snapshot. -/
def Stopped (before : RuleMemory tables) (generation snapshot : Nat) (status : Int)
    (memory : RuleMemory tables) : Prop :=
  status < 0 ∧ ∃ parts : Parts tables, Holding before generation (parts.objects snapshot) memory

section Steps

variable {before : RuleMemory tables} {generation snapshot : Nat} {parts : Parts tables}
  {owned : List (Nat × Object tables)} {memory : RuleMemory tables}

/-- A build starts with nothing. -/
theorem Holding.start (before : RuleMemory tables) (generation : Nat) :
    Holding before generation [] before where
  rest := rfl
  objects := (List.append_nil _).symm
  log := ⟨[], (List.append_nil _).symm, rfl, rfl⟩
  orderly orderly _ := orderly

/-- The objects of a build have distinct addresses. -/
theorem Holding.nodup (holding : Holding before generation owned memory) :
    (owned.map Prod.fst).Nodup := by
  have distinct := memory.heap.distinct
  rw [holding.objects, List.map_append, List.nodup_append] at distinct
  exact distinct.2.1

/-- A fresh object joins what the build holds. -/
theorem Holding.allocate (holding : Holding before generation owned memory)
    {object : Object tables}
    (unnamed : ∀ entry ∈ memory.heap.objects, entry.2.resource = object.resource →
      object.resource.tableName = none) :
    Holding before generation (owned ++ [(memory.heap.next, object)])
      (memory.withHeap (memory.heap.allocate object)) where
  rest := by rw [holding.rest]; rfl
  objects := by
    change memory.heap.objects ++ _ = _
    rw [holding.objects, List.append_assoc]
  log := by
    obtain ⟨events, log, created, released⟩ := holding.log
    refine ⟨events ++ [.created memory.heap.next object.resource], ?_, ?_, ?_⟩
    · change memory.heap.log ++ _ = _
      rw [log, List.append_assoc]
    · rw [Registry.createdIds, List.filterMap_append, List.map_append]
      exact congrArg (· ++ [memory.heap.next]) created
    · rw [Registry.releasedIds, List.filterMap_append]
      exact congrArg (· ++ []) released
  orderly := by
    intro orderly vacant
    apply (holding.orderly orderly vacant).snoc
    intro name named member
    obtain ⟨entry, inside, same⟩ := RuleHeap.mem_names.mp member
    rw [unnamed entry inside (Resource.tableName_inj same named)] at named
    exact Option.some_ne_none _ named.symm

/-- A write to an object of the build changes its contents. -/
theorem Holding.write (left : List (Nat × Object tables)) {right : List (Nat × Object tables)}
    {address : Nat} {object : Object tables}
    (holding : Holding before generation (left ++ (address, object) :: right) memory)
    (change : Object tables → Object tables)
    (keeps : ∀ object, (change object).resource = object.resource) :
    Holding before generation (left ++ (address, change object) :: right)
      (memory.withHeap (memory.heap.write address change keeps)) where
  rest := by rw [holding.rest]; rfl
  objects := by
    have split := holding.objects
    rw [← List.append_assoc] at split
    change (memory.heap.write address change keeps).objects = _
    rw [RuleHeap.write_split split, List.append_assoc]
  log := by
    obtain ⟨events, log, created, released⟩ := holding.log
    exact ⟨events, log, by simpa using created, released⟩
  orderly := holding.orderly

theorem Holding.read (left : List (Nat × Object tables)) {right : List (Nat × Object tables)}
    {address : Nat} {object : Object tables}
    (holding : Holding before generation (left ++ (address, object) :: right) memory) :
    memory.heap.read address = some object := by
  have split := holding.objects
  rw [← List.append_assoc] at split
  exact RuleHeap.read_split split

/-- A refused name leaves the objects of the build. -/
theorem Holding.refuse (holding : Holding before generation owned memory) {resource : Resource}
    (never : ¬ before.heap.Vacant generation) :
    Holding before generation owned (memory.withHeap (memory.heap.refuse resource)) where
  rest := by rw [holding.rest]; rfl
  objects := holding.objects
  log := by
    obtain ⟨events, log, created, released⟩ := holding.log
    refine ⟨events ++ [.refused resource], ?_, ?_, ?_⟩
    · change memory.heap.log ++ _ = _
      rw [log, List.append_assoc]
    · rw [Registry.createdIds, List.filterMap_append]
      exact (List.append_nil _).trans created
    · rw [Registry.releasedIds, List.filterMap_append]
      exact (List.append_nil _).trans released
  orderly _ vacant := absurd vacant never

/-- An allocation adds its object or leaves the build where it is. -/
theorem rteZmalloc_runs (failure : Option Nat) {object : Object tables}
    (pre : RuleMemory tables → Prop)
    (held : ∀ memory, pre memory → Holding before generation (parts.objects snapshot) memory)
    (unnamed : ∀ memory, pre memory → ∀ entry ∈ memory.heap.objects,
      entry.2.resource = object.resource → object.resource.tableName = none) :
    Runs pre (rteZmalloc failure object)
      (fun address => Holding before generation (parts.objects snapshot ++ [(address, object)]))
      (Stopped before generation snapshot) := by
  cases failure with
  | some rteErrno =>
    exact Runs.throw _ fun memory start => ⟨errnoOr_neg rteErrno enomem_pos, parts, held memory start⟩
  | none =>
    intro memory start
    exact ⟨.ok memory.heap.next, _, rfl, (held memory start).allocate (unnamed memory start)⟩

/-- A creation adds its table or leaves the build where it is. -/
theorem createTable_runs (failure : Option Nat) {object : Object tables} (name : TableName)
    (known : name ∈ generationNames generation) (named : object.resource.tableName = some name)
    (unused : ∀ entry ∈ parts.objects snapshot, entry.2.resource ≠ object.resource) :
    Runs (Holding before generation (parts.objects snapshot)) (createTable failure object)
      (fun address => Holding before generation (parts.objects snapshot ++ [(address, object)]))
      (Stopped before generation snapshot) := by
  intro memory holding
  by_cases taken : ∃ entry ∈ memory.heap.objects, entry.2.resource = object.resource
  · refine ⟨.error (-eexist), memory.withHeap (memory.heap.refuse object.resource), ?_,
      show -eexist < 0 by decide, parts, ?_⟩
    · change (if _ then _ else _ : Build tables Nat).run memory = _
      rw [if_pos taken]
      rfl
    · obtain ⟨entry, inside, same⟩ := taken
      apply holding.refuse
      intro vacant
      rw [holding.objects, List.mem_append] at inside
      rcases inside with old | own
      · exact vacant entry old name known (same ▸ named)
      · exact unused entry own same
  · obtain ⟨result, after, run, outcome⟩ := rteZmalloc_runs failure (fun other => other = memory)
      (fun _ same => same ▸ holding)
      (fun _ same entry inside equal => absurd ⟨entry, same ▸ inside, equal⟩ taken) memory rfl
    refine ⟨result, after, ?_, outcome⟩
    change (if _ then _ else _ : Build tables Nat).run memory = _
    rw [if_neg taken]
    exact run

/-- An assignment sets a field of the snapshot. -/
theorem assign_runs {cell : SnapshotCell} {tail : List (Nat × Object tables)}
    {stop : Int → RuleMemory tables → Prop} (change : SnapshotCell → SnapshotCell) :
    Runs (Holding before generation ((snapshot, .snapshot cell) :: tail)) (assign snapshot change)
      (fun _ => Holding before generation ((snapshot, .snapshot (change cell)) :: tail)) stop := by
  apply Runs.alter
  intro memory holding
  have found : memory.heap.snapshotAt snapshot = some cell := by
    unfold RuleHeap.snapshotAt
    rw [holding.read []]
  rw [found]
  exact ⟨_, rfl, holding.write [] (Object.setCell (change cell))
    (Object.setCell_resource _)⟩

end Steps

end FlowRouter.Native.Memory
