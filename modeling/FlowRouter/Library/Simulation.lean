import FlowRouter.Library.Attempt
import FlowRouter.Library.Checks

namespace Attempt
open Checks

variable {S E A B X Y : Type}

/-- A program with a state follows a pure one. It returns when the pure program does, and otherwise
it stops with the same error or with an excused one. -/
def Follows (pre : S → Prop) (program : Program S E A) (spec : Except E B)
    (post : A → B → S → Prop) (excused : E → Prop) : Prop :=
  Runs pre program (fun value state => ∃ result, spec = .ok result ∧ post value result state)
    fun error _ => spec = .error error ∨ excused error

namespace Follows

variable {pre : S → Prop} {excused : E → Prop}

theorem pure {post : A → B → S → Prop} (value : A) (result : B)
    (holds : ∀ state, pre state → post value result state) :
    Follows pre (Pure.pure value) (.ok result) post excused :=
  Runs.pure value fun state start => ⟨result, rfl, holds state start⟩

theorem throw {post : A → B → S → Prop} (error : E) :
    Follows pre (MonadExcept.throw error) (.error error) post excused :=
  Runs.throw error fun _ _ => .inl rfl

theorem excuse {spec : Except E B} {post : A → B → S → Prop} {error : E} (holds : excused error) :
    Follows pre (MonadExcept.throw error) spec post excused :=
  Runs.throw error fun _ _ => .inr holds

/-- The parts of two sequences follow each other in turn. -/
theorem bind {first : Program S E A} {next : A → Program S E X} {spec : Except E B}
    {rest : B → Except E Y} {between : A → B → S → Prop} {post : X → Y → S → Prop}
    (left : Follows pre first spec between excused)
    (right : ∀ value result,
      Follows (between value result) (next value) (rest result) post excused) :
    Follows pre (first >>= next) (spec >>= rest) post excused := by
  intro state start
  obtain ⟨result, middle, run, outcome⟩ := left state start
  cases result with
  | ok value =>
    obtain ⟨found, same, holds⟩ := outcome
    obtain ⟨final, after, tail, outcome⟩ := right value found middle holds
    refine ⟨final, after, ?_, ?_⟩
    · rw [ExceptT.run_bind, StateT.run_bind, run]
      exact tail
    · rw [same]
      exact outcome
  | error error =>
    refine ⟨.error error, middle, ?_, outcome.imp_left fun same => ?_⟩
    · rw [ExceptT.run_bind, StateT.run_bind, run]
      rfl
    · rw [same]
      rfl

/-- A part that only the program with a state has does not stop. -/
theorem step {first : Program S E A} {next : A → Program S E X} {spec : Except E Y}
    {between : A → S → Prop} {post : X → Y → S → Prop}
    (left : Runs pre first between fun _ _ => False)
    (right : ∀ value, Follows (between value) (next value) spec post excused) :
    Follows pre (first >>= next) spec post excused :=
  Runs.bind (fun state start => by
    obtain ⟨result, middle, run, outcome⟩ := left state start
    refine ⟨result, middle, run, ?_⟩
    cases result with
    | ok value => exact outcome
    | error error => exact outcome.elim) right

theorem stopIf {bad : Prop} [Decidable bad] {error : E} {post : Unit → Unit → S → Prop}
    (passed : ¬ bad → ∀ state, pre state → post () () state) :
    Follows pre (Attempt.stopIf bad error) (rejectIf bad error) post excused := by
  unfold Attempt.stopIf rejectIf
  by_cases holds : bad
  · rw [if_pos holds, if_pos holds]
    exact throw error
  · rw [if_neg holds, if_neg holds]
    exact pure () () (passed holds)

/-- Two guards stop on the same condition and contribute it otherwise. -/
theorem guard {bad bad' : Prop} [Decidable bad] [Decidable bad'] {error : E}
    {next : Unit → Program S E X} {rest : Unit → Except E Y} {post : X → Y → S → Prop}
    (agrees : bad ↔ bad') (right : ¬ bad → Follows pre (next ()) (rest ()) post excused) :
    Follows pre (Attempt.stopIf bad error >>= next) (rejectIf bad' error >>= rest) post excused := by
  unfold Attempt.stopIf rejectIf
  by_cases holds : bad
  · rw [if_pos holds, if_pos (agrees.mp holds)]
    exact throw error
  · rw [if_neg holds, if_neg (fun other => holds (agrees.mpr other))]
    exact right holds

/-- An access may read a known value. -/
theorem known {view : S → Option A} {next : A → Program S E X} {spec : Except E Y}
    {post : X → Y → S → Prop} (value : A) (found : ∀ state, pre state → view state = some value)
    (right : Follows pre (next value) spec post excused) :
    Follows pre (Attempt.demand view >>= next) spec post excused :=
  Runs.known value found right

/-- The pure program may return an image of its result. -/
theorem mapped {program : Program S E A} {spec : Except E B} {image : B → Y}
    {post : A → Y → S → Prop}
    (follows : Follows pre program spec (fun value result => post value (image result)) excused) :
    Follows pre program (spec >>= fun result => .ok (image result)) post excused := by
  intro state start
  obtain ⟨result, after, run, outcome⟩ := follows state start
  refine ⟨result, after, run, ?_⟩
  cases result with
  | ok value =>
    obtain ⟨found, same, holds⟩ := outcome
    exact ⟨image found, by rw [same]; rfl, holds⟩
  | error error => exact outcome.imp_left fun same => by rw [same]; rfl

theorem weaken {pre' : S → Prop} {program : Program S E A} {spec : Except E B}
    {post post' : A → B → S → Prop} (follows : Follows pre' program spec post' excused)
    (start : ∀ state, pre state → pre' state)
    (finish : ∀ value result state, post' value result state → post value result state) :
    Follows pre program spec post excused :=
  Runs.weaken follows start fun value state ⟨result, same, holds⟩ =>
    ⟨result, same, finish value result state holds⟩

theorem choose {pre : X → S → Prop} {program : Program S E A} {spec : Except E B}
    {post : A → B → S → Prop}
    (each : ∀ value, Follows (pre value) program spec post excused) :
    Follows (fun state => ∃ value, pre value state) program spec post excused :=
  Runs.choose each

theorem assume {fact : Prop} {program : Program S E A} {spec : Except E B}
    {post : A → B → S → Prop} (follows : fact → Follows pre program spec post excused) :
    Follows (fun state => fact ∧ pre state) program spec post excused :=
  Runs.assume follows

end Follows

end Attempt
