import Mathlib.Logic.Basic

namespace Transition

variable {State Label : Type}

/-- A run lists the labels of its steps in order. -/
inductive Run (step : State → Label → State → Prop) (start : State) : List Label → State → Prop
  | refl : Run step start [] start
  | snoc {labels : List Label} {middle finish : State} {label : Label} :
      Run step start labels middle → step middle label finish →
      Run step start (labels ++ [label]) finish

/-- A trail also lists the state before each of its steps. -/
inductive Trail (step : State → Label → State → Prop) (start : State) :
    List (State × Label) → State → Prop
  | refl : Trail step start [] start
  | snoc {history : List (State × Label)} {middle finish : State} {label : Label} :
      Trail step start history middle → step middle label finish →
      Trail step start (history ++ [(middle, label)]) finish

/-- A state is reachable when a run leads to it from an initial state. -/
def Reachable (initial : State → Prop) (step : State → Label → State → Prop) (state : State) :
    Prop :=
  ∃ start labels, initial start ∧ Run step start labels state

variable {initial : State → Prop} {step : State → Label → State → Prop}

/-- What holds at the start and survives every step holds at the end of a run. -/
theorem Run.invariant {invariant : State → Prop}
    (preserved : ∀ before label after, invariant before → step before label after →
      invariant after) {start finish : State} {labels : List Label}
    (run : Run step start labels finish) (begins : invariant start) : invariant finish := by
  induction run with
  | refl => exact begins
  | snoc _ last ih => exact preserved _ _ _ ih last

/-- An invariant may count the steps of the run. -/
theorem Run.counted (invariant : Nat → State → Prop)
    (preserved : ∀ count before label after, invariant count before → step before label after →
      invariant (count + 1) after) {start finish : State} {labels : List Label}
    (run : Run step start labels finish) (begins : invariant 0 start) :
    invariant labels.length finish := by
  induction run with
  | refl => exact begins
  | snoc _ last ih =>
    rw [List.length_append, List.length_singleton]
    exact preserved _ _ _ _ ih last

/-- An inductive invariant holds in every reachable state. -/
theorem Reachable.invariant (invariant : State → Prop)
    (begins : ∀ start, initial start → invariant start)
    (preserved : ∀ before label after, invariant before → step before label after →
      invariant after) {state : State} (reachable : Reachable initial step state) :
    invariant state := by
  obtain ⟨start, labels, first, run⟩ := reachable
  exact run.invariant preserved (begins start first)

/-- A map that sends every step to a step or to no change sends reachable states to reachable ones. -/
theorem Reachable.image {Abstract Move : Type} {initial' : Abstract → Prop}
    {step' : Abstract → Move → Abstract → Prop} (good : State → Prop) (image : State → Abstract)
    (begins : ∀ start, initial start → good start ∧ initial' (image start))
    (moves : ∀ before label after, good before → step before label after →
      good after ∧ ((∃ move, step' (image before) move (image after)) ∨
        image after = image before))
    {state : State} (reachable : Reachable initial step state) :
    good state ∧ Reachable initial' step' (image state) := by
  refine reachable.invariant (fun state => good state ∧ Reachable initial' step' (image state))
    (fun start first => ?_) fun before label after earlier last => ?_
  · obtain ⟨holds, first'⟩ := begins start first
    exact ⟨holds, image start, [], first', .refl⟩
  · obtain ⟨holds, origin, labels, first, run⟩ := earlier
    obtain ⟨holds', ⟨move, step⟩ | same⟩ := moves before label after holds last
    · exact ⟨holds', origin, _, first, run.snoc step⟩
    · exact ⟨holds', origin, labels, first, same ▸ run⟩

theorem Trail.run {start finish : State} {history : List (State × Label)}
    (path : Trail step start history finish) : Run step start (history.map Prod.snd) finish := by
  induction path with
  | refl => exact .refl
  | snoc earlier last ih =>
    rw [List.map_append]
    exact ih.snoc last

/-- When each step keeps a property exactly if it is allowed, a trail keeps the property exactly if
all of its steps are allowed. -/
theorem Trail.forall_iff {good : State → Prop} {allowed : State → Label → Prop}
    (decides : ∀ before label after, good before → step before label after →
      (good after ↔ allowed before label))
    {start finish : State} {history : List (State × Label)}
    (path : Trail step start history finish) (begins : good start) :
    ((∀ visit ∈ history, good visit.1) ∧ good finish) ↔
      ∀ visit ∈ history, allowed visit.1 visit.2 := by
  induction path with
  | refl => exact ⟨fun _ => List.forall_mem_nil _, fun _ => ⟨List.forall_mem_nil _, begins⟩⟩
  | snoc earlier last ih =>
    simp only [List.forall_mem_append, List.forall_mem_singleton]
    constructor
    · rintro ⟨⟨visited, before⟩, after⟩
      exact ⟨ih.mp ⟨visited, before⟩, (decides _ _ _ before last).mp after⟩
    · rintro ⟨allowed, next⟩
      obtain ⟨visited, before⟩ := ih.mpr allowed
      exact ⟨⟨visited, before⟩, (decides _ _ _ before last).mpr next⟩

/-- A trail is no longer than a number that each of its steps lowers. -/
theorem Trail.length_le {good : State → Prop} {measure : State → Nat}
    (preserved : ∀ before label after, good before → step before label after → good after)
    (lowers : ∀ before label after, good before → step before label after →
      measure after < measure before)
    {start finish : State} {history : List (State × Label)}
    (path : Trail step start history finish) (begins : good start) :
    good finish ∧ history.length + measure finish ≤ measure start := by
  induction path with
  | refl => exact ⟨begins, Nat.le_of_eq (Nat.zero_add _)⟩
  | snoc earlier last ih =>
    have lower := lowers _ _ _ ih.1 last
    refine ⟨preserved _ _ _ ih.1 last, ?_⟩
    rw [List.length_append, List.length_singleton]
    omega

/-- A trail is shorter by the steps that change nothing, and the others stay in their order. -/
theorem Trail.skip {good : State → Prop} {core : State → Label → State → Prop}
    (preserved : ∀ before label after, good before → step before label after → good after)
    (splits : ∀ before label after, good before → step before label after →
      core before label after ∨ after = before)
    {start finish : State} {history : List (State × Label)}
    (path : Trail step start history finish) (begins : good start) :
    good finish ∧ ∃ moves, Trail core start moves finish ∧ moves.Sublist history := by
  induction path with
  | refl => exact ⟨begins, [], .refl, List.nil_sublist []⟩
  | snoc earlier last ih =>
    obtain ⟨holds, moves, kept, ordered⟩ := ih
    refine ⟨preserved _ _ _ holds last, ?_⟩
    rcases splits _ _ _ holds last with move | same
    · exact ⟨_, kept.snoc move, ordered.append_right _⟩
    · rw [same]
      exact ⟨moves, kept, ordered.trans (List.sublist_append_left _ _)⟩

end Transition
