import Mathlib.Data.List.MinMax

namespace LongestMatch

variable {Rule Image Rank : Type} [LinearOrder Rank]

/-- The best rule for a packet is the matching rule with the greatest rank. -/
def best (hits : Rule → Bool) (rank : Rule → Rank) (rules : List Rule) : Option Rule :=
  (rules.filter hits).argmax rank

variable {hits : Rule → Bool} {rank : Rule → Rank} {rules : List Rule}

/-- A winner matches and no matching rule has a greater rank. -/
structure Winner (hits : Rule → Bool) (rank : Rule → Rank) (rules : List Rule) (rule : Rule) :
    Prop where
  mem : rule ∈ rules
  hit : hits rule = true
  greatest : ∀ other ∈ rules, hits other = true → rank other ≤ rank rule

/-- The rank separates the matching rules. -/
def Separated (hits : Rule → Bool) (rank : Rule → Rank) (rules : List Rule) : Prop :=
  ∀ first ∈ rules, ∀ second ∈ rules, hits first = true → hits second = true →
    rank first = rank second → first = second

theorem best_eq_none : best hits rank rules = none ↔ ∀ rule ∈ rules, hits rule = false := by
  rw [best, List.argmax_eq_none, List.filter_eq_nil_iff]
  simp

theorem winner_of_best {rule : Rule} (found : best hits rank rules = some rule) :
    Winner hits rank rules rule := by
  obtain ⟨inside, hit⟩ := List.mem_filter.mp (List.argmax_mem found)
  exact ⟨inside, hit, fun other member matched =>
    List.le_of_mem_argmax (List.mem_filter.mpr ⟨member, matched⟩) found⟩

/-- Separation makes the winner unique, so it is the best rule. -/
theorem best_of_winner (separated : Separated hits rank rules) {rule : Rule}
    (winner : Winner hits rank rules rule) : best hits rank rules = some rule := by
  cases found : best hits rank rules with
  | none => exact absurd winner.hit (by simp [best_eq_none.mp found rule winner.mem])
  | some other =>
    have rival := winner_of_best found
    have lower := winner.greatest other rival.mem rival.hit
    have upper := rival.greatest rule winner.mem winner.hit
    rw [separated other rival.mem rule winner.mem rival.hit winner.hit (le_antisymm lower upper)]

omit [LinearOrder Rank] in
/-- Separation passes to the lists that hold no further rule. -/
theorem Separated.mono {others : List Rule} (separated : Separated hits rank rules)
    (subset : others ⊆ rules) : Separated hits rank others :=
  fun first inside second member => separated first (subset inside) second (subset member)

/-- A best rule stays best in a smaller list that keeps it. -/
theorem best_subset {others : List Rule} (separated : Separated hits rank rules)
    (subset : others ⊆ rules) (kept : ∀ rule, best hits rank rules = some rule → rule ∈ others) :
    best hits rank others = best hits rank rules := by
  cases found : best hits rank rules with
  | none => exact best_eq_none.mpr fun rule member => best_eq_none.mp found rule (subset member)
  | some rule =>
    have winner := winner_of_best found
    exact best_of_winner (separated.mono subset)
      ⟨kept rule found, winner.hit, fun other member => winner.greatest other (subset member)⟩

/-- The order of the rules does not matter. -/
theorem best_perm {others : List Rule} (separated : Separated hits rank rules)
    (permuted : others.Perm rules) : best hits rank others = best hits rank rules :=
  best_subset separated permuted.subset fun _ found =>
    permuted.mem_iff.mpr (winner_of_best found).mem

/-- A translation of the rules translates the best rule. -/
theorem best_map (convert : Image → Rule) (images : List Image) :
    best hits rank (images.map convert) =
      (best (hits ∘ convert) (rank ∘ convert) images).map convert := by
  rw [best, best, List.filter_map]
  induction images.filter (hits ∘ convert) using List.reverseRecOn with
  | nil => rfl
  | append_singleton front last ih =>
    rw [List.map_append, List.map_singleton, List.argmax_concat, List.argmax_concat, ih]
    cases front.argmax (rank ∘ convert) with
    | none => rfl
    | some winner =>
      simp only [Option.map_some, Function.comp_apply]
      by_cases above : rank (convert winner) < rank (convert last)
      · simp [above]
      · simp [above]

end LongestMatch
