import Mathlib.Tactic.Common

namespace Frame

variable {S V A B : Type}

/-- Every defined run from a state that meets the precondition ends in the postcondition. -/
def Leads (pre : S → Prop) (program : StateT S Option A) (post : A → S → Prop) : Prop :=
  ∀ state value after, pre state → program state = some (value, after) → post value after

/-- A program keeps the parts of the state that a view shows. -/
def Keeps (view : S → V) (program : StateT S Option A) : Prop :=
  ∀ state value after, program state = some (value, after) → view after = view state

namespace Leads

variable {pre : S → Prop} {post : A → S → Prop}

theorem pure (value : A) (holds : ∀ state, pre state → post value state) :
    Leads pre (Pure.pure value) post := by
  intro state result after start run
  obtain ⟨rfl, rfl⟩ := Prod.mk.inj (Option.some.inj run)
  exact holds state start

/-- The sequencing rule takes the postcondition of the first program as the next precondition. -/
theorem bind {program : StateT S Option A} {next : A → StateT S Option B} {between : A → S → Prop}
    {post : B → S → Prop} (first : Leads pre program between)
    (second : ∀ value, Leads (between value) (next value) post) :
    Leads pre (program >>= next) post := by
  intro state result after start run
  obtain ⟨⟨value, middle⟩, begun, rest⟩ := Option.bind_eq_some_iff.mp run
  exact second value middle result after (first state value middle start begun) rest

theorem ite {condition : Prop} [Decidable condition] {left right : StateT S Option A}
    (yes : condition → Leads pre left post) (no : ¬ condition → Leads pre right post) :
    Leads pre (if condition then left else right) post := by
  by_cases holds : condition
  · rw [if_pos holds]
    exact yes holds
  · rw [if_neg holds]
    exact no holds

/-- A weaker precondition is enough. -/
theorem narrow {pre' : S → Prop} {program : StateT S Option A} (leads : Leads pre' program post)
    (start : ∀ state, pre state → pre' state) : Leads pre program post :=
  fun state value after begins run => leads state value after (start state begins) run

/-- A precondition may carry a fact that does not depend on the state. -/
theorem assume {fact : Prop} {program : StateT S Option A} (leads : fact → Leads pre program post) :
    Leads (fun state => fact ∧ pre state) program post :=
  fun state value after start run => leads start.1 state value after start.2 run

theorem read {post : S → S → Prop} (holds : ∀ state, pre state → post state state) :
    Leads pre (get : StateT S Option S) post := by
  intro state result after start run
  obtain ⟨rfl, rfl⟩ := Prod.mk.inj (Option.some.inj run)
  exact holds _ start

theorem change {update : S → S} {post : Unit → S → Prop}
    (holds : ∀ state, pre state → post () (update state)) :
    Leads pre (modify update : StateT S Option Unit) post := by
  intro state result after start run
  obtain ⟨rfl, rfl⟩ := Prod.mk.inj (Option.some.inj run)
  exact holds state start

end Leads

namespace Keeps

variable {view : S → V}

/-- What the view shows holds afterwards as well. -/
theorem leads {program : StateT S Option A} (keeps : Keeps view program) (holds : V → Prop) :
    Leads (fun state => holds (view state)) program fun _ state => holds (view state) := by
  intro state value after start run
  rw [keeps state value after run]
  exact start

theorem pure (value : A) : Keeps view (Pure.pure value : StateT S Option A) := by
  intro state result after run
  obtain ⟨rfl, rfl⟩ := Prod.mk.inj (Option.some.inj run)
  rfl

theorem bind {program : StateT S Option A} {next : A → StateT S Option B}
    (first : Keeps view program) (second : ∀ value, Keeps view (next value)) :
    Keeps view (program >>= next) := by
  intro state result after run
  obtain ⟨⟨value, middle⟩, begun, rest⟩ := Option.bind_eq_some_iff.mp run
  exact (second value middle result after rest).trans (first state value middle begun)

theorem ite {condition : Prop} [Decidable condition] {left right : StateT S Option A}
    (yes : Keeps view left) (no : Keeps view right) :
    Keeps view (if condition then left else right) := by
  by_cases holds : condition
  · rwa [if_pos holds]
  · rwa [if_neg holds]

theorem read : Keeps view (get : StateT S Option S) := by
  intro state result after run
  obtain ⟨rfl, rfl⟩ := Prod.mk.inj (Option.some.inj run)
  rfl

/-- A partial access reads a value from outside the state. -/
theorem lift (value : Option A) : Keeps view (liftM value : StateT S Option A) := by
  intro state result after run
  obtain ⟨found, -, rest⟩ := Option.bind_eq_some_iff.mp run
  obtain ⟨rfl, rfl⟩ := Prod.mk.inj (Option.some.inj rest)
  rfl

theorem change {update : S → S} (same : ∀ state, view (update state) = view state) :
    Keeps view (modify update : StateT S Option Unit) := by
  intro state result after run
  obtain ⟨rfl, rfl⟩ := Prod.mk.inj (Option.some.inj run)
  exact same state

/-- A coarser view is kept as well. -/
theorem coarsen {W : Type} {program : StateT S Option A} (keeps : Keeps view program)
    (map : V → W) : Keeps (fun state => map (view state)) program :=
  fun state value after run => congrArg map (keeps state value after run)

end Keeps

end Frame
