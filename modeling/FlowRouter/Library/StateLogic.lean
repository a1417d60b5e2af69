import Mathlib.Tactic.Common

namespace StateLogic

variable {S A B : Type}

/-- Every run from a state that meets the precondition ends in the postcondition. -/
def Triple (pre : S → Prop) (program : StateM S A) (post : A → S → Prop) : Prop :=
  ∀ state, pre state → post (program.run state).1 (program.run state).2

namespace Triple

variable {pre middle : S → Prop} {post : A → S → Prop}

theorem pure (value : A) (holds : ∀ state, pre state → post value state) :
    Triple pre (Pure.pure value) post :=
  fun state start => holds state start

/-- The sequencing rule takes the postcondition of the first program as the next precondition. -/
theorem bind {program : StateM S A} {next : A → StateM S B} {between : A → S → Prop}
    {post : B → S → Prop} (first : Triple pre program between)
    (second : ∀ value, Triple (between value) (next value) post) :
    Triple pre (program >>= next) post :=
  fun state start => second _ _ (first state start)

theorem ite {condition : Prop} [Decidable condition] {left right : StateM S A}
    (yes : condition → Triple pre left post) (no : ¬ condition → Triple pre right post) :
    Triple pre (if condition then left else right) post := by
  by_cases holds : condition
  · rw [if_pos holds]
    exact yes holds
  · rw [if_neg holds]
    exact no holds

/-- A precondition may carry a fact that does not depend on the state. -/
theorem assume {fact : Prop} {program : StateM S A}
    (triple : fact → Triple pre program post) : Triple (fun state => fact ∧ pre state) program post :=
  fun state start => triple start.1 state start.2

end Triple

end StateLogic
