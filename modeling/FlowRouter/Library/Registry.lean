import FlowRouter.Library.Trace
import Mathlib.Data.List.Nodup

namespace Registry

variable {R K : Type}

/-- A registry creates resources under numbers, refuses some and takes others back. -/
inductive Event (R : Type) where
  | created (id : Nat) (resource : R)
  | refused (resource : R)
  | released (id : Nat)

def Event.apply (live : List (Nat × R)) : Event R → List (Nat × R)
  | .created id resource => live ++ [(id, resource)]
  | .refused _ => live
  | .released id => live.filter fun entry => entry.1 ≠ id

/-- The live resources are those that the events leave. -/
def live (events : List (Event R)) : List (Nat × R) := events.foldl Event.apply []

@[simp] theorem live_nil : live ([] : List (Event R)) = [] := rfl

@[simp] theorem live_snoc (events : List (Event R)) (event : Event R) :
    live (events ++ [event]) = event.apply (live events) := by
  simp [live]

def Event.createdId : Event R → Option Nat
  | .created id _ => some id
  | _ => none

def Event.releasedId : Event R → Option Nat
  | .released id => some id
  | _ => none

def createdIds (events : List (Event R)) : List Nat := events.filterMap Event.createdId

def releasedIds (events : List (Event R)) : List Nat := events.filterMap Event.releasedId

theorem createdIds_append (first second : List (Event R)) :
    createdIds (first ++ second) = createdIds first ++ createdIds second :=
  List.filterMap_append

theorem releasedIds_append (first second : List (Event R)) :
    releasedIds (first ++ second) = releasedIds first ++ releasedIds second :=
  List.filterMap_append

@[simp] theorem createdIds_released (ids : List Nat) :
    createdIds (ids.map fun id => (.released id : Event R)) = [] := by
  induction ids with
  | nil => rfl
  | cons id rest ih => exact ih

@[simp] theorem releasedIds_released (ids : List Nat) :
    releasedIds (ids.map fun id => (.released id : Event R)) = ids := by
  induction ids with
  | nil => rfl
  | cons id rest ih => exact congrArg (id :: ·) ih

/-- What is live has been created. -/
theorem live_created (events : List (Event R)) {id : Nat} (member : id ∈ (live events).map Prod.fst) :
    id ∈ createdIds events := by
  induction events using List.reverseRecOn with
  | nil => exact member
  | append_singleton earlier event ih =>
    rw [createdIds, List.filterMap_append, List.mem_append]
    rw [live_snoc] at member
    cases event with
    | created other resource =>
      rw [Event.apply, List.map_append, List.mem_append] at member
      rw [List.filterMap_cons_some (show Event.createdId (.created other resource) = some other from rfl)]
      exact member.imp ih fun same => same
    | refused resource => exact .inl (ih member)
    | released other =>
      obtain ⟨entry, inside, rfl⟩ := List.mem_map.mp member
      exact .inl (ih (List.mem_map_of_mem (List.mem_filter.mp inside).1))

section Names

variable {name : R → Option K} {events : List (Event R)}

/-- Some resources have names. -/
def names (name : R → Option K) (entries : List (Nat × R)) : List K :=
  entries.filterMap fun entry => name entry.2

/-- A name is given once at a time, and no resource is refused. -/
def Allowed (name : R → Option K) (earlier : List (Event R)) : Event R → Prop
  | .created _ resource => ∀ key, name resource = some key → key ∉ names name (live earlier)
  | .refused _ => False
  | .released _ => True

/-- The names of the live resources are distinct. -/
theorem names_nodup (legal : Trace.Legal (Allowed name) events) :
    (names name (live events)).Nodup := by
  induction events using List.reverseRecOn with
  | nil => exact List.nodup_nil
  | append_singleton earlier event ih =>
    have before := ih legal.of_append
    have next := legal earlier event [] rfl
    rw [live_snoc]
    cases event with
    | created id resource =>
      rw [Event.apply, names, List.filterMap_append]
      cases named : name resource with
      | none => simpa [named, names] using before
      | some key =>
        have single : [(id, resource)].filterMap (fun entry => name entry.2) = [key] := by
          simp [named]
        rw [single, List.nodup_append_comm, List.singleton_append, List.nodup_cons]
        exact ⟨next key named, before⟩
    | refused resource => exact before
    | released id => exact before.sublist (List.filter_sublist.filterMap _)

/-- Taking resources back needs no name. -/
theorem legal_released (legal : Trace.Legal (Allowed name) events) (ids : List Nat) :
    Trace.Legal (Allowed name) (events ++ ids.map .released) := by
  induction ids using List.reverseRecOn with
  | nil => simpa using legal
  | append_singleton earlier id ih =>
    rw [List.map_append, ← List.append_assoc]
    exact ih.snoc trivial

theorem not_refused (legal : Trace.Legal (Allowed name) events) (resource : R) :
    Event.refused resource ∉ events := by
  intro member
  obtain ⟨earlier, later, split⟩ := List.append_of_mem member
  exact legal _ _ _ split

end Names

section Books

variable {events : List (Event R)}

/-- Every number is created once, and only what is live is taken back. -/
def Disciplined (earlier : List (Event R)) : Event R → Prop
  | .created id _ => id ∉ createdIds earlier
  | .refused _ => True
  | .released id => id ∈ (live earlier).map Prod.fst

/-- What has been created is either live or has been taken back once. -/
theorem accounts (legal : Trace.Legal Disciplined events) : (createdIds events).Nodup ∧
    (createdIds events).Perm (releasedIds events ++ (live events).map Prod.fst) := by
  induction events using List.reverseRecOn with
  | nil => exact ⟨List.nodup_nil, .nil⟩
  | append_singleton earlier event ih =>
    obtain ⟨distinct, books⟩ := ih legal.of_append
    have next := legal earlier event [] rfl
    rw [createdIds_append, releasedIds_append, live_snoc]
    cases event with
    | created id resource =>
      have fresh : id ∉ createdIds earlier := next
      have single : createdIds [(.created id resource : Event R)] = [id] := rfl
      have none : releasedIds [(.created id resource : Event R)] = [] := rfl
      rw [single, none, Event.apply, List.append_nil, List.map_append, ← List.append_assoc]
      refine ⟨?_, books.append_right _⟩
      rw [List.nodup_append_comm]
      exact List.nodup_cons.mpr ⟨fresh, distinct⟩
    | refused resource =>
      have none : createdIds [(.refused resource : Event R)] = [] := rfl
      have none' : releasedIds [(.refused resource : Event R)] = [] := rfl
      rw [none, none', List.append_nil, List.append_nil]
      exact ⟨distinct, books⟩
    | released id =>
      have member : id ∈ (live earlier).map Prod.fst := next
      have none : createdIds [(.released id : Event R)] = [] := rfl
      have single : releasedIds [(.released id : Event R)] = [id] := rfl
      have apart : ((live earlier).map Prod.fst).Nodup :=
        (List.nodup_append.mp (books.nodup_iff.mp distinct)).2.1
      have rest : ((live earlier).filter fun entry => entry.1 ≠ id).map Prod.fst =
          ((live earlier).map Prod.fst).erase id := by
        rw [apart.erase_eq_filter, List.filter_map]
        congr 1
        apply List.filter_congr
        intro entry _
        by_cases same : entry.1 = id <;> simp [same]
      rw [none, single, List.append_nil, Event.apply, rest, List.append_assoc]
      exact ⟨distinct, books.trans ((List.perm_cons_erase member).append_left _)⟩

end Books

end Registry
