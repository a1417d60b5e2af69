import Mathlib.Algebra.BigOperators.Group.Finset.Basic

namespace Census
open Finset

/-- The census counts the members below a bound that are inside. -/
def census (bound : Nat) (inside : Nat → Bool) : Nat :=
  ∑ member ∈ range bound, (inside member).toNat

variable {bound : Nat}

/-- A move of one member changes the census by what that member does. -/
theorem census_move {inside inside' : Nat → Bool} {member : Nat} (below : member < bound)
    (only : ∀ other, other ≠ member → inside' other = inside other) :
    census bound inside' + (inside member).toNat =
      census bound inside + (inside' member).toNat := by
  have rest : ∑ other ∈ (range bound).erase member, (inside' other).toNat =
      ∑ other ∈ (range bound).erase member, (inside other).toNat :=
    sum_congr rfl fun other others => by rw [only other (ne_of_mem_erase others)]
  rw [census, census, ← add_sum_erase _ _ (mem_range.mpr below),
    ← add_sum_erase (range bound) (fun other => (inside other).toNat) (mem_range.mpr below), rest]
  omega

theorem toNat_le_census (inside : Nat → Bool) {member : Nat} (below : member < bound) :
    (inside member).toNat ≤ census bound inside := by
  rw [census, ← add_sum_erase _ _ (mem_range.mpr below)]
  exact Nat.le_add_right _ _

/-- Nobody is counted when nobody is inside. -/
theorem census_vacant {inside : Nat → Bool} (vacant : ∀ member, inside member = false) :
    census bound inside = 0 :=
  sum_eq_zero fun member _ => by rw [vacant member, Bool.toNat_false]

/-- A move of one member changes the sum of all loads by what its own load does. -/
theorem sum_move {load load' : Nat → Nat} {member : Nat} (below : member < bound)
    (only : ∀ other, other ≠ member → load' other = load other) :
    (∑ other ∈ range bound, load' other) + load member =
      (∑ other ∈ range bound, load other) + load' member := by
  have rest : ∑ other ∈ (range bound).erase member, load' other =
      ∑ other ∈ (range bound).erase member, load other :=
    sum_congr rfl fun other others => only other (ne_of_mem_erase others)
  rw [← add_sum_erase _ _ (mem_range.mpr below),
    ← add_sum_erase (range bound) load (mem_range.mpr below), rest]
  omega

end Census
