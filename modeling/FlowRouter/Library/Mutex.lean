import Mathlib.Logic.Basic

namespace Mutex

variable {T : Type}

/-- A thread is inside its critical section exactly while it holds the lock. -/
def Exclusive (holder : Option T) (inside : T → Bool) : Prop :=
  ∀ thread, inside thread = true ↔ holder = some thread

variable {holder : Option T} {inside inside' : T → Bool} {thread : T}

/-- Every other thread is outside. -/
theorem Exclusive.outside (exclusive : Exclusive holder inside) (here : inside thread = true)
    {other : T} (differs : other ≠ thread) : inside other = false := by
  refine Bool.eq_false_iff.mpr fun both => differs ?_
  have first := (exclusive thread).mp here
  have second := (exclusive other).mp both
  exact Option.some.inj (second.symm.trans first)

/-- Nobody is inside while the lock is free. -/
theorem Exclusive.vacant (exclusive : Exclusive none inside) (other : T) :
    inside other = false :=
  Bool.eq_false_iff.mpr fun here => nomatch (exclusive other).mp here

theorem Exclusive.acquire (exclusive : Exclusive none inside)
    (only : ∀ other, other ≠ thread → inside' other = inside other)
    (enters : inside' thread = true) : Exclusive (some thread) inside' := by
  intro other
  by_cases same : other = thread
  · rw [same]
    exact ⟨fun _ => rfl, fun _ => enters⟩
  · rw [only other same, exclusive.vacant other]
    exact ⟨fun impossible => (nomatch impossible),
      fun held => absurd (Option.some.inj held).symm same⟩

theorem Exclusive.release (exclusive : Exclusive holder inside) (here : inside thread = true)
    (only : ∀ other, other ≠ thread → inside' other = inside other)
    (leaves : inside' thread = false) : Exclusive none inside' := by
  intro other
  have outside : inside' other = false := by
    by_cases same : other = thread
    · rw [same]
      exact leaves
    · rw [only other same]
      exact exclusive.outside here same
  rw [outside]
  exact ⟨fun impossible => (nomatch impossible), fun held => (nomatch held)⟩

/-- A step that crosses no boundary keeps the lock. -/
theorem Exclusive.keep (exclusive : Exclusive holder inside)
    (same : ∀ other, inside' other = inside other) : Exclusive holder inside' := by
  intro other
  rw [same other]
  exact exclusive other

end Mutex
