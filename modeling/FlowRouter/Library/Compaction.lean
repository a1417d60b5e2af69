import Mathlib.Data.List.Basic
import Mathlib.Logic.Function.Basic

namespace Compaction

variable {S A : Type}

/-- A stateful filter keeps the items that the process returns. -/
def keepRun (process : A → StateM S (Option A)) : List A → StateM S (List A)
  | [] => return []
  | item :: rest => do
      match ← process item with
      | some kept => return kept :: (← keepRun process rest)
      | none => keepRun process rest

/-- The same filter works in one array. It reads at one index and writes at another that never
overtakes the first. -/
def compact (process : A → StateM S (Option A)) :
    (remaining readIndex writeIndex : Nat) → (Nat → A) → StateM S ((Nat → A) × Nat)
  | 0, _, writeIndex, array => return (array, writeIndex)
  | remaining + 1, readIndex, writeIndex, array => do
      match ← process (array readIndex) with
      | some kept =>
          compact process remaining (readIndex + 1) (writeIndex + 1)
            (Function.update array writeIndex kept)
      | none => compact process remaining (readIndex + 1) writeIndex array

/-- The first elements of an array form a list. -/
def window (array : Nat → A) (first count : Nat) : List A :=
  (List.range count).map fun offset => array (first + offset)

theorem window_zero (array : Nat → A) (first : Nat) : window array first 0 = [] := rfl

theorem window_succ (array : Nat → A) (first count : Nat) :
    window array first (count + 1) = array first :: window array (first + 1) count := by
  rw [window, List.range_succ_eq_map, List.map_cons, List.map_map, Nat.add_zero, window]
  congr 1
  refine List.map_congr_left fun offset _ => ?_
  rw [Function.comp_apply, Nat.succ_eq_add_one]
  congr 1
  omega

theorem window_snoc (array : Nat → A) (count : Nat) :
    window array 0 (count + 1) = window array 0 count ++ [array count] := by
  simp [window, List.range_succ]

/-- A write outside a window does not change it. -/
theorem window_update {array : Nat → A} {first count index : Nat} (value : A)
    (outside : index < first ∨ first + count ≤ index) :
    window (Function.update array index value) first count = window array first count := by
  refine List.map_congr_left fun offset member => ?_
  have small := List.mem_range.mp member
  exact Function.update_of_ne (by omega) _ _

/-- A list that overwrites the front of an array is its first window. -/
theorem window_overwrite (items : List A) (array : Nat → A) :
    window (fun index => items[index]?.getD (array index)) 0 items.length = items := by
  refine List.ext_getElem (by simp [window]) fun index left right => ?_
  simp [window, right]

/-- The unread rest of a window is a window. -/
theorem window_drop (array : Nat → A) (skipped count : Nat) :
    window array skipped (count - skipped) = (window array 0 count).drop skipped := by
  refine List.ext_getElem (by simp [window]) fun index left right => ?_
  simp [window]

/-- A step of the filter is its process and then the rest. -/
theorem keepRun_cons {process : A → StateM S (Option A)} {item : A} {state middle : S}
    {kept : Option A} (rest : List A)
    (reached : (process item).run state = pure (kept, middle)) :
    (keepRun process (item :: rest)).run state =
      pure (kept.toList ++ ((keepRun process rest).run middle).run.1,
        ((keepRun process rest).run middle).run.2) := by
  cases kept with
  | none =>
    simp only [keepRun, StateT.run_bind, reached, pure_bind]
    rfl
  | some kept =>
    simp only [keepRun, StateT.run_bind, reached, pure_bind]
    rfl

/-- The in-place filter leaves the kept items of the unread part behind those of the read part. -/
theorem compact_run (process : A → StateM S (Option A)) (remaining readIndex writeIndex : Nat)
    (array : Nat → A) (state : S) (behind : writeIndex ≤ readIndex) :
    ∃ result, (compact process remaining readIndex writeIndex array).run state =
        pure ((result, writeIndex +
          ((keepRun process (window array readIndex remaining)).run state).run.1.length),
          ((keepRun process (window array readIndex remaining)).run state).run.2) ∧
      window result 0 (writeIndex +
          ((keepRun process (window array readIndex remaining)).run state).run.1.length) =
        window array 0 writeIndex ++
          ((keepRun process (window array readIndex remaining)).run state).run.1 := by
  induction remaining generalizing readIndex writeIndex array state with
  | zero => exact ⟨array, rfl, by simp [window_zero, keepRun]⟩
  | succ remaining ih =>
    rw [window_succ]
    cases step : ((process (array readIndex)).run state).run with
    | mk kept middle =>
      have reached : (process (array readIndex)).run state = pure (kept, middle) := step
      rw [keepRun_cons _ reached]
      cases kept with
      | none =>
        obtain ⟨result, run, prefixes⟩ := ih (readIndex + 1) writeIndex array middle (by omega)
        refine ⟨result, ?_, prefixes⟩
        simp only [compact, StateT.run_bind, reached, pure_bind]
        exact run
      | some item =>
        obtain ⟨result, run, prefixes⟩ := ih (readIndex + 1) (writeIndex + 1)
          (Function.update array writeIndex item) middle (by omega)
        rw [window_update item (.inl (by omega))] at run prefixes
        rw [window_snoc, window_update item (.inr (by omega)), Function.update_self,
          List.append_assoc] at prefixes
        have length (kept : List A) : writeIndex + ([item] ++ kept).length =
            writeIndex + 1 + kept.length := by
          rw [List.length_append, List.length_singleton]
          omega
        refine ⟨result, ?_, ?_⟩
        · simp only [compact, StateT.run_bind, reached, pure_bind]
          exact run.trans (by rw [← length]; rfl)
        · change window result 0 (writeIndex + ([item] ++ _).length) = _
          rw [length]
          exact prefixes

end Compaction
