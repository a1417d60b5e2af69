import FlowRouter.Library.Attempt
import FlowRouter.Library.Registry
import FlowRouter.Native.Publish

namespace FlowRouter.Native
open Attempt

/-- The fields of a snapshot in memory are pointers to its parts. -/
structure SnapshotCell where
  flowTable : Option Nat
  routeTable : Option Nat
  actions : Option Nat
  actionCount : Nat
  generation : Nat

/-- These are the kinds of memory that the rule functions allocate. -/
inductive Object (tables : RteTables) where
  | snapshot (cell : SnapshotCell)
  | actions (slots : List DpRuleAction)
  | flowTable (name : String) (table : tables.Hash)
  | routeTable (name : String) (table : tables.Lpm)
  | qsbr

/-- A resource is what an object stays from its allocation until it is freed. -/
inductive Resource where
  | snapshot
  | actions (count : Nat)
  | flowTable (name : String)
  | routeTable (name : String)
  | qsbr
  deriving DecidableEq, Repr

/-- The hash tables and the prefix tables have their names in two separate lists. -/
inductive TableName where
  | flow (name : String)
  | route (name : String)
  deriving DecidableEq, Repr

def Resource.tableName : Resource → Option TableName
  | .flowTable name => some (.flow name)
  | .routeTable name => some (.route name)
  | _ => none

variable {tables : RteTables}

def Object.resource : Object tables → Resource
  | .snapshot _ => .snapshot
  | .actions slots => .actions slots.length
  | .flowTable name _ => .flowTable name
  | .routeTable name _ => .routeTable name
  | .qsbr => .qsbr

/-- An array takes one address for each of its elements. -/
def Object.size : Object tables → Nat
  | .actions slots => slots.length + 1
  | _ => 1

theorem Object.size_pos (object : Object tables) : 0 < object.size := by
  cases object with
  | actions slots => exact Nat.succ_pos _
  | _ => exact Nat.one_pos

/-- The heap lists its live objects in the order of their allocation. No address is used twice,
and the log has every allocation, every refused name and every free. -/
structure RuleHeap (tables : RteTables) where
  objects : List (Nat × Object tables)
  next : Nat
  log : List (Registry.Event Resource)
  below : ∀ address ∈ Registry.createdIds log, address < next
  distinct : (objects.map Prod.fst).Nodup
  tracked : Registry.live log = objects.map fun entry => (entry.1, entry.2.resource)

namespace RuleHeap

def empty (tables : RteTables) : RuleHeap tables where
  objects := []
  next := 1
  log := []
  below _ member := (List.not_mem_nil member).elim
  distinct := List.nodup_nil
  tracked := rfl

/-- A live object lies below the next address. -/
theorem bounded (heap : RuleHeap tables) {address : Nat}
    (member : address ∈ heap.objects.map Prod.fst) : address < heap.next := by
  apply heap.below
  apply Registry.live_created
  rw [heap.tracked, List.map_map]
  exact member

def read (heap : RuleHeap tables) (address : Nat) : Option (Object tables) :=
  (heap.objects.find? fun entry => entry.1 = address).map Prod.snd

theorem fresh_below (heap : RuleHeap tables) (object : Object tables) :
    ∀ address ∈ Registry.createdIds (heap.log ++ [.created heap.next object.resource]),
      address < heap.next + object.size := by
  intro address member
  have positive := object.size_pos
  rw [Registry.createdIds_append, List.mem_append] at member
  rcases member with old | new
  · have := heap.below address old
    omega
  · obtain rfl : address = heap.next := List.mem_singleton.mp new
    omega

theorem fresh_distinct (heap : RuleHeap tables) (object : Object tables) :
    ((heap.objects ++ [(heap.next, object)]).map Prod.fst).Nodup := by
  rw [List.map_append, List.nodup_append_comm]
  refine List.nodup_cons.mpr ⟨fun member => ?_, heap.distinct⟩
  exact absurd (heap.bounded member) (Nat.lt_irrefl _)

theorem fresh_tracked (heap : RuleHeap tables) (object : Object tables) :
    Registry.live (heap.log ++ [.created heap.next object.resource]) =
      (heap.objects ++ [(heap.next, object)]).map fun entry => (entry.1, entry.2.resource) := by
  rw [Registry.live_snoc, Registry.Event.apply, heap.tracked, List.map_append]
  rfl

def allocate (heap : RuleHeap tables) (object : Object tables) : RuleHeap tables where
  objects := heap.objects ++ [(heap.next, object)]
  next := heap.next + object.size
  log := heap.log ++ [.created heap.next object.resource]
  below := heap.fresh_below object
  distinct := heap.fresh_distinct object
  tracked := heap.fresh_tracked object

/-- A table library refuses a name that a live table has. -/
def refuse (heap : RuleHeap tables) (resource : Resource) : RuleHeap tables where
  objects := heap.objects
  next := heap.next
  log := heap.log ++ [.refused resource]
  below address member := by
    rw [Registry.createdIds, List.filterMap_append, List.mem_append] at member
    exact heap.below address (member.resolve_right fun impossible => by
      simp [Registry.Event.createdId] at impossible)
  distinct := heap.distinct
  tracked := by rw [Registry.live_snoc, Registry.Event.apply, heap.tracked]

/-- A write changes the contents of an object and not what it is. -/
def write (heap : RuleHeap tables) (address : Nat) (change : Object tables → Object tables)
    (keeps : ∀ object, (change object).resource = object.resource) : RuleHeap tables where
  objects := heap.objects.map fun entry =>
    if entry.1 = address then (entry.1, change entry.2) else entry
  next := heap.next
  log := heap.log
  below := heap.below
  distinct := by
    rw [List.map_map]
    have same : (Prod.fst ∘ fun entry : Nat × Object tables =>
        if entry.1 = address then (entry.1, change entry.2) else entry) = Prod.fst := by
      funext entry
      change (if entry.1 = address then (entry.1, change entry.2) else entry).1 = entry.1
      split_ifs <;> rfl
    rw [same]
    exact heap.distinct
  tracked := by
    rw [heap.tracked, List.map_map]
    apply List.map_congr_left
    intro entry _
    change _ = ((if entry.1 = address then (entry.1, change entry.2) else entry).1,
      (if entry.1 = address then (entry.1, change entry.2) else entry).2.resource)
    split_ifs
    · rw [keeps]
    · rfl

def erase (heap : RuleHeap tables) (address : Nat) : RuleHeap tables where
  objects := heap.objects.filter fun entry => entry.1 ≠ address
  next := heap.next
  log := heap.log ++ [.released address]
  below other member := by
    rw [Registry.createdIds, List.filterMap_append, List.mem_append] at member
    exact heap.below other (member.resolve_right fun impossible => by
      simp [Registry.Event.createdId] at impossible)
  distinct := heap.distinct.sublist (List.filter_sublist.map _)
  tracked := by
    rw [Registry.live_snoc, Registry.Event.apply, heap.tracked, List.filter_map]
    rfl

/-- Only a live object can be freed. -/
def release (heap : RuleHeap tables) (address : Nat) : Option (RuleHeap tables) :=
  if address ∈ heap.objects.map Prod.fst then some (heap.erase address) else none

def snapshotAt (heap : RuleHeap tables) (address : Nat) : Option SnapshotCell :=
  match heap.read address with
  | some (.snapshot cell) => some cell
  | _ => none

def actionsAt (heap : RuleHeap tables) (pointer : Option Nat) : Option (List DpRuleAction) :=
  match pointer.bind heap.read with
  | some (.actions slots) => some slots
  | _ => none

def flowTableAt (heap : RuleHeap tables) (pointer : Option Nat) : Option tables.Hash :=
  match pointer.bind heap.read with
  | some (.flowTable _ table) => some table
  | _ => none

def routeTableAt (heap : RuleHeap tables) (pointer : Option Nat) : Option tables.Lpm :=
  match pointer.bind heap.read with
  | some (.routeTable _ table) => some table
  | _ => none

end RuleHeap

def Object.setCell (cell : SnapshotCell) : Object tables → Object tables
  | .snapshot _ => .snapshot cell
  | object => object

def Object.setSlot (index : Nat) (action : DpRuleAction) : Object tables → Object tables
  | .actions slots => .actions (slots.set index action)
  | object => object

def Object.setHash (table : tables.Hash) : Object tables → Object tables
  | .flowTable name _ => .flowTable name table
  | object => object

def Object.setLpm (table : tables.Lpm) : Object tables → Object tables
  | .routeTable name _ => .routeTable name table
  | object => object

theorem Object.setCell_resource (cell : SnapshotCell) (object : Object tables) :
    (object.setCell cell).resource = object.resource := by
  cases object <;> rfl

theorem Object.setSlot_resource (index : Nat) (action : DpRuleAction) (object : Object tables) :
    (object.setSlot index action).resource = object.resource := by
  cases object with
  | actions slots => simp [setSlot, resource]
  | _ => rfl

theorem Object.setHash_resource (table : tables.Hash) (object : Object tables) :
    (object.setHash table).resource = object.resource := by
  cases object <;> rfl

theorem Object.setLpm_resource (table : tables.Lpm) (object : Object tables) :
    (object.setLpm table).resource = object.resource := by
  cases object <;> rfl

/-- These are the names of the tables of one generation. -/
def generationNames (generation : Nat) : List TableName :=
  [.flow s!"dfr_f_{generation}", .route s!"dfr_r_{generation}"]

/-- The log has used every name for one live table at a time and has refused none. -/
def RuleHeap.Orderly (heap : RuleHeap tables) : Prop :=
  Trace.Legal (Registry.Allowed Resource.tableName) heap.log

/-- No live table has a name of the generation. -/
def RuleHeap.Vacant (heap : RuleHeap tables) (generation : Nat) : Prop :=
  ∀ entry ∈ heap.objects, ∀ name ∈ generationNames generation,
    entry.2.resource.tableName ≠ some name

section Names

/-- A name belongs to resources of one kind. -/
theorem Resource.tableName_inj {first second : Resource} {name : TableName}
    (left : first.tableName = some name) (right : second.tableName = some name) :
    first = second := by
  cases first <;> cases second <;> cases name <;> simp_all [Resource.tableName]

/-- The names in the log are the names of the live objects. -/
theorem RuleHeap.mem_names {heap : RuleHeap tables} {name : TableName} :
    name ∈ Registry.names Resource.tableName (Registry.live heap.log) ↔
      ∃ entry ∈ heap.objects, entry.2.resource.tableName = some name := by
  rw [heap.tracked, Registry.names, List.filterMap_map, List.mem_filterMap]
  rfl

end Names

section Split

variable {heap : RuleHeap tables} {left right : List (Nat × Object tables)} {address : Nat}
  {object : Object tables}

/-- The other objects have other addresses. -/
theorem RuleHeap.apart (split : heap.objects = left ++ (address, object) :: right) :
    ∀ entry ∈ left ++ right, entry.1 ≠ address := by
  have distinct := heap.distinct
  rw [split, List.map_append, List.map_cons, List.nodup_middle, List.nodup_cons,
    ← List.map_append] at distinct
  intro entry member same
  exact distinct.1 (List.mem_map.mpr ⟨entry, member, same⟩)

theorem RuleHeap.read_split (split : heap.objects = left ++ (address, object) :: right) :
    heap.read address = some object := by
  have missing : (left.find? fun entry => entry.1 = address) = none :=
    List.find?_eq_none.mpr fun entry member => by
      simpa using apart split entry (List.mem_append_left _ member)
  rw [read, split, List.find?_append, missing]
  simp

theorem RuleHeap.write_split (split : heap.objects = left ++ (address, object) :: right)
    (change : Object tables → Object tables)
    (keeps : ∀ object, (change object).resource = object.resource) :
    (heap.write address change keeps).objects = left ++ (address, change object) :: right := by
  have others (part : List (Nat × Object tables)) (inside : part ⊆ left ++ right) :
      (part.map fun entry => if entry.1 = address then (entry.1, change entry.2) else entry) =
        part := by
    rw [List.map_congr_left (g := id), List.map_id]
    intro entry member
    exact if_neg (apart split entry (inside member))
  change heap.objects.map _ = _
  rw [split, List.map_append, List.map_cons, others left (List.subset_append_left _ _),
    others right (List.subset_append_right _ _), if_pos rfl]

theorem RuleHeap.erase_split (split : heap.objects = left ++ (address, object) :: right) :
    (heap.erase address).objects = left ++ right := by
  have others (part : List (Nat × Object tables)) (inside : part ⊆ left ++ right) :
      (part.filter fun entry => entry.1 ≠ address) = part :=
    List.filter_eq_self.mpr fun entry member => by simpa using apart split entry (inside member)
  change heap.objects.filter _ = _
  rw [split, List.filter_append, List.filter_cons_of_neg (by simp),
    others left (List.subset_append_left _ _), others right (List.subset_append_right _ _)]

theorem RuleHeap.release_split (split : heap.objects = left ++ (address, object) :: right) :
    heap.release address = some (heap.erase address) := by
  unfold release
  rw [if_pos]
  rw [split, List.map_append, List.map_cons]
  exact List.mem_append_right _ List.mem_cons_self

end Split

end FlowRouter.Native
