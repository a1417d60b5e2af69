import Mathlib.Data.List.Nodup
import Mathlib.Logic.Function.Basic

namespace KeyedList

variable {A K : Type} [DecidableEq K] {key : A → K} {items : List A} {item : A} {wanted : K}

/-- A list whose items have keys is a map from keys to items. -/
def index (key : A → K) (items : List A) (wanted : K) : Option A :=
  items.find? fun item => key item = wanted

theorem index_eq_none : index key items wanted = none ↔ ∀ item ∈ items, key item ≠ wanted := by
  simp [index]

/-- Distinct keys make the map complete. -/
theorem index_eq_some (distinct : (items.map key).Nodup) :
    index key items wanted = some item ↔ item ∈ items ∧ key item = wanted := by
  constructor
  · intro found
    exact ⟨List.mem_of_find?_eq_some found, by simpa using List.find?_some found⟩
  · rintro ⟨member, rfl⟩
    cases found : index key items (key item) with
    | none => exact absurd rfl (index_eq_none.mp found item member)
    | some other =>
      have same : key other = key item := by simpa using List.find?_some found
      rw [List.inj_on_of_nodup_map distinct (List.mem_of_find?_eq_some found) member same]

/-- A new item behind the others updates the map at its key. -/
theorem index_append (fresh : ∀ other ∈ items, key other ≠ key item) :
    index key (items ++ [item]) = Function.update (index key items) (key item) (some item) := by
  funext wanted
  rw [index, List.find?_append, Function.update_apply]
  by_cases same : wanted = key item
  · have missing : (items.find? fun other => key other = wanted) = none := by
      rw [same]
      exact index_eq_none.mpr fresh
    rw [if_pos same, missing, same]
    simp
  · have last : ([item].find? fun other => key other = wanted) = none := by
      simpa using Ne.symm same
    rw [if_neg same, last, Option.or_none, index]

/-- Erasing the first item with a key removes that key. -/
theorem eraseIdx_eq_filter (distinct : (items.map key).Nodup) {position : Nat}
    (found : (items.findIdx? fun item => key item = wanted) = some position) :
    items.eraseIdx position = items.filter fun item => key item ≠ wanted := by
  induction items generalizing position with
  | nil => simp at found
  | cons first rest ih =>
    rw [List.map_cons, List.nodup_cons] at distinct
    rw [List.findIdx?_cons] at found
    by_cases same : key first = wanted
    · obtain rfl : 0 = position := by simpa [same] using found
      have others : ∀ item ∈ rest, key item ≠ wanted := by
        rintro item member equal
        exact distinct.1 (List.mem_map.mpr ⟨item, member, equal.trans same.symm⟩)
      have keep : rest.filter (fun item => key item ≠ wanted) = rest :=
        List.filter_eq_self.mpr fun item member => by simpa using others item member
      rw [List.eraseIdx_cons_zero, List.filter_cons_of_neg (by simp [same]), keep]
    · simp only [same, decide_false, Bool.false_eq_true, if_false, Option.map_eq_some_iff] at found
      obtain ⟨inner, inside, rfl⟩ := found
      rw [List.eraseIdx_cons_succ, ih distinct.2 inside]
      simp [same]

/-- The map of the remaining items has lost the key. -/
theorem index_filter : index key (items.filter fun item => key item ≠ wanted) =
    Function.update (index key items) wanted none := by
  funext other
  rw [index, List.find?_filter, Function.update_apply]
  by_cases same : other = wanted
  · rw [if_pos same]
    simp [same]
  · rw [if_neg same, index]
    congr 1
    funext item
    by_cases hit : key item = other
    · simp [hit, same]
    · simp [hit]

end KeyedList
