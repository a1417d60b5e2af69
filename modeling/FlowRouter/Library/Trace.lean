import Mathlib.Data.List.Induction

namespace Trace

variable {E : Type} {allowed : List E → E → Prop} {events : List E} {event : E}

/-- Each event of the trace is allowed after the events before it. -/
def Legal (allowed : List E → E → Prop) (events : List E) : Prop :=
  ∀ earlier event later, events = earlier ++ event :: later → allowed earlier event

theorem Legal.nil : Legal allowed [] := by
  intro earlier event later empty
  exact absurd empty.symm (List.append_ne_nil_of_right_ne_nil _ (List.cons_ne_nil _ _))

/-- A legal trace grows by an event that it allows. -/
theorem Legal.snoc (legal : Legal allowed events) (next : allowed events event) :
    Legal allowed (events ++ [event]) := by
  intro earlier found later split
  induction later using List.reverseRecOn with
  | nil =>
    obtain ⟨rfl, same⟩ := List.append_inj' split rfl
    obtain rfl := List.head_eq_of_cons_eq same
    exact next
  | append_singleton middle last _ =>
    rw [← List.cons_append, ← List.append_assoc] at split
    exact legal _ _ _ (List.append_inj' split rfl).1

/-- The beginning of a legal trace is legal. -/
theorem Legal.of_append {later : List E} (legal : Legal allowed (events ++ later)) :
    Legal allowed events := by
  intro earlier event rest split
  exact legal earlier event (rest ++ later) (by rw [split, List.append_assoc, List.cons_append])

end Trace
