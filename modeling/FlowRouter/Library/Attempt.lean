import Mathlib.Tactic.Common

namespace Attempt

variable {S E A B : Type}

/-- A program changes a state and returns a value or an error. It has no result where its
behaviour is undefined. -/
abbrev Program (S E : Type) := ExceptT E (StateT S Option)

/-- This access is undefined where the view has no value. -/
def demand (view : S → Option A) : Program S E A :=
  ExceptT.mk fun state => (view state).map fun value => (.ok value, state)

/-- This change is undefined where it has no next state. -/
def alter (change : S → Option S) : Program S E Unit :=
  ExceptT.mk fun state => (change state).map fun next => (.ok (), next)

/-- A guard stops a program with its error. -/
def stopIf (bad : Prop) [Decidable bad] (error : E) : Program S E Unit :=
  if bad then throw error else pure ()

/-- Every run from a state that meets the precondition is defined. It returns into the
postcondition or stops in an allowed error. -/
def Runs (pre : S → Prop) (program : Program S E A) (post : A → S → Prop)
    (stop : E → S → Prop) : Prop :=
  ∀ state, pre state → ∃ result after, program.run.run state = some (result, after) ∧
    match result with
    | .ok value => post value after
    | .error error => stop error after

namespace Runs

variable {pre : S → Prop} {stop : E → S → Prop}

theorem pure {post : A → S → Prop} (value : A) (holds : ∀ state, pre state → post value state) :
    Runs pre (Pure.pure value) post stop :=
  fun state start => ⟨.ok value, state, rfl, holds state start⟩

theorem throw {post : A → S → Prop} (error : E) (holds : ∀ state, pre state → stop error state) :
    Runs pre (MonadExcept.throw error) post stop :=
  fun state start => ⟨.error error, state, rfl, holds state start⟩

/-- The sequencing rule takes the postcondition of the first program as the next precondition. -/
theorem bind {first : Program S E A} {next : A → Program S E B} {between : A → S → Prop}
    {post : B → S → Prop} (left : Runs pre first between stop)
    (right : ∀ value, Runs (between value) (next value) post stop) :
    Runs pre (first >>= next) post stop := by
  intro state start
  obtain ⟨result, middle, run, holds⟩ := left state start
  cases result with
  | ok value =>
    obtain ⟨final, after, rest, outcome⟩ := right value middle holds
    refine ⟨final, after, ?_, outcome⟩
    rw [ExceptT.run_bind, StateT.run_bind, run]
    exact rest
  | error error =>
    refine ⟨.error error, middle, ?_, holds⟩
    rw [ExceptT.run_bind, StateT.run_bind, run]
    rfl

theorem ite {condition : Prop} [Decidable condition] {left right : Program S E A}
    {post : A → S → Prop} (yes : condition → Runs pre left post stop)
    (no : ¬ condition → Runs pre right post stop) :
    Runs pre (if condition then left else right) post stop := by
  by_cases holds : condition
  · rw [if_pos holds]
    exact yes holds
  · rw [if_neg holds]
    exact no holds

theorem stopIf {bad : Prop} [Decidable bad] {error : E} {post : Unit → S → Prop}
    (refused : bad → ∀ state, pre state → stop error state)
    (passed : ¬ bad → ∀ state, pre state → post () state) :
    Runs pre (Attempt.stopIf bad error) post stop :=
  ite (fun holds => throw error (refused holds)) fun fails => pure () (passed fails)

theorem demand {view : S → Option A} {post : A → S → Prop}
    (defined : ∀ state, pre state → ∃ value, view state = some value ∧ post value state) :
    Runs pre (Attempt.demand view) post stop := by
  intro state start
  obtain ⟨value, found, holds⟩ := defined state start
  refine ⟨.ok value, state, ?_, holds⟩
  change (view state).map _ = _
  rw [found]
  rfl

theorem alter {change : S → Option S} {post : Unit → S → Prop}
    (defined : ∀ state, pre state → ∃ next, change state = some next ∧ post () next) :
    Runs pre (Attempt.alter change) post stop := by
  intro state start
  obtain ⟨next, found, holds⟩ := defined state start
  refine ⟨.ok (), next, ?_, holds⟩
  change (change state).map _ = _
  rw [found]
  rfl

/-- The rule of consequence. -/
theorem weaken {pre' : S → Prop} {program : Program S E A} {post post' : A → S → Prop}
    (runs : Runs pre' program post' stop) (start : ∀ state, pre state → pre' state)
    (finish : ∀ value state, post' value state → post value state) :
    Runs pre program post stop := by
  intro state begins
  obtain ⟨result, after, run, outcome⟩ := runs state (start state begins)
  refine ⟨result, after, run, ?_⟩
  cases result with
  | ok value => exact finish value after outcome
  | error error => exact outcome

/-- Two facts about the runs of one program hold together. -/
theorem both {program : Program S E A} {post post' : A → S → Prop} {stop' : E → S → Prop}
    (first : Runs pre program post stop) (second : Runs pre program post' stop') :
    Runs pre program (fun value state => post value state ∧ post' value state)
      (fun error state => stop error state ∧ stop' error state) := by
  intro state begins
  obtain ⟨result, after, run, outcome⟩ := first state begins
  obtain ⟨result', after', run', outcome'⟩ := second state begins
  obtain ⟨rfl, rfl⟩ := Prod.mk.inj (Option.some.inj (run.symm.trans run'))
  refine ⟨result, after, run, ?_⟩
  cases result with
  | ok value => exact ⟨outcome, outcome'⟩
  | error error => exact ⟨outcome, outcome'⟩

/-- A guard contributes its own condition. -/
theorem guard {bad : Prop} [Decidable bad] {error : E} {next : Unit → Program S E B}
    {post : B → S → Prop} (refused : bad → ∀ state, pre state → stop error state)
    (rest : ¬ bad → Runs pre (next ()) post stop) :
    Runs pre (Attempt.stopIf bad error >>= next) post stop := by
  by_cases holds : bad
  · have never : Runs pre (Attempt.stopIf bad error) (fun _ _ => False) stop :=
      stopIf (fun _ => refused holds) fun passes => absurd holds passes
    exact bind never fun _ _ impossible => impossible.elim
  · exact bind (stopIf (fun bad => absurd bad holds) fun _ _ start => start) fun _ => rest holds

/-- An access may read a known value. -/
theorem known {view : S → Option A} {next : A → Program S E B} {post : B → S → Prop} (value : A)
    (found : ∀ state, pre state → view state = some value)
    (rest : Runs pre (next value) post stop) : Runs pre (Attempt.demand view >>= next) post stop := by
  intro state start
  obtain ⟨result, after, run, outcome⟩ := rest state start
  refine ⟨result, after, ?_, outcome⟩
  rw [ExceptT.run_bind, StateT.run_bind]
  change ((view state).map _).bind _ = _
  rw [found state start]
  exact run

/-- A precondition may name a value that it does not determine. -/
theorem choose {X : Type} {pre : X → S → Prop} {program : Program S E A} {post : A → S → Prop}
    (each : ∀ value, Runs (pre value) program post stop) :
    Runs (fun state => ∃ value, pre value state) program post stop :=
  fun state ⟨value, start⟩ => each value state start

/-- A precondition may carry a fact that does not depend on the state. -/
theorem assume {fact : Prop} {program : Program S E A} {post : A → S → Prop}
    (runs : fact → Runs pre program post stop) :
    Runs (fun state => fact ∧ pre state) program post stop :=
  fun state start => runs start.1 state start.2

/-- What a precondition says about other things than the state holds throughout. -/
theorem given {fact : Prop} {program : Program S E A} {post : A → S → Prop}
    (follows : ∀ state, pre state → fact) (runs : fact → Runs pre program post stop) :
    Runs pre program post stop :=
  fun state start => runs (follows state start) state start

/-- A run that has returned is in the postcondition. -/
theorem returned {program : Program S E A} {post : A → S → Prop} (runs : Runs pre program post stop)
    {state after : S} {value : A} (start : pre state)
    (ended : program.run.run state = some (.ok value, after)) : post value after := by
  obtain ⟨result, final, run, outcome⟩ := runs state start
  obtain ⟨rfl, rfl⟩ := Prod.mk.inj (Option.some.inj (run.symm.trans ended))
  exact outcome

theorem stopped {program : Program S E A} {post : A → S → Prop} (runs : Runs pre program post stop)
    {state after : S} {error : E} (start : pre state)
    (ended : program.run.run state = some (.error error, after)) : stop error after := by
  obtain ⟨result, final, run, outcome⟩ := runs state start
  obtain ⟨rfl, rfl⟩ := Prod.mk.inj (Option.some.inj (run.symm.trans ended))
  exact outcome

end Runs

end Attempt
