import FlowRouter.Control.Lifecycle

namespace FlowRouter.Control

/-- The stages and the points of the owner are in this order. -/
def OwnerStage.place : OwnerStage → Nat
  | .init => 0
  | .getInfo => 2
  | .checkLcores => 4
  | .configureRules => 6
  | .setup => 8
  | .refreshInfo => 10
  | .run => 18
  | .teardown => 22
  | .getStats => 24
  | .cleanup => 26

def OwnerPoint.place : OwnerPoint → Nat
  | .entering stage => stage.place
  | .inside stage => stage.place + 1
  | .locking => 12
  | .stamping => 13
  | .opening => 14
  | .unlocking => 15
  | .announcing => 16
  | .closing => 20
  | .shutting => 21
  | .releasing => 28
  | .finishing => 29
  | .done => 30

/-- These stages are left out of a probe. -/
def OwnerStage.serves : OwnerStage → Bool
  | .configureRules | .setup | .refreshInfo | .run => true
  | _ => false

def Failed (events : List LifecycleEvent) : Prop :=
  ∃ stage, .finished stage false ∈ events

/-- The events tell where the owner is and what it has found. -/
structure Lifecycle.Told (events : List LifecycleEvent) (life : Lifecycle) : Prop where
  begun : ∀ stage, .started stage ∈ events → stage.place < life.owner.place
  ended : ∀ stage success, .finished stage success ∈ events →
    stage.place + 1 < life.owner.place
  inside : ∀ stage, life.owner = .inside stage → .started stage ∈ events ∧ life.due stage = true
  returned : ∀ stage, .started stage ∈ events →
    life.owner = .inside stage ∨ ∃ success, .finished stage success ∈ events
  served : ∀ stage, .started stage ∈ events → stage.serves = true → life.config.probe = false
  clean : Failed events ↔ ¬(life.ownerErr = none ∧ life.teardownErr = none)
  chain : life.ownerErr = none → ∀ stage : OwnerStage, stage.place < 20 →
    stage.place + 1 < life.owner.place → (stage.serves = true → life.config.probe = false) →
      .finished stage true ∈ events
  initialized : life.initialized = true ↔ .finished .init true ∈ events
  broken : life.initialized = false → 1 < life.owner.place → life.ownerErr ≠ none
  opening : 12 < life.owner.place → life.owner.place < 16 →
    life.ownerErr = none ∧ life.config.probe = false
  closing : 20 < life.owner.place → life.owner.place < 29 → life.initialized = true
  untorn : life.owner.place ≤ 23 ∨ life.initialized = false → life.teardownErr = none
  torn : 23 < life.owner.place → life.initialized = true → .started .teardown ∈ events ∧
    (life.teardownErr = none → .finished .teardown true ∈ events)
  joined : 25 < life.owner.place → life.ownerErr = none → life.teardownErr = none

theorem OwnerStage.place_cases (stage : OwnerStage) :
    stage.place % 2 = 0 ∧ stage.place ≠ 12 ∧ stage.place ≠ 14 ∧ stage.place ≠ 16 ∧
      stage.place ≠ 20 ∧ stage.place ≤ 26 := by
  cases stage <;> decide

theorem OwnerStage.place_injective {first second : OwnerStage} (same : first.place = second.place) :
    first = second := by
  cases first <;> cases second <;> first | rfl | exact absurd same (by decide)

theorem OwnerStage.place_next (stage : OwnerStage) : stage.next.place = stage.place + 2 := by
  cases stage <;> rfl

theorem OwnerStage.next_outside (stage other : OwnerStage) : stage.next ≠ .inside other := by
  cases stage <;> exact nofun

section Owner
variable {events : List LifecycleEvent} {life after : Lifecycle} {stage : OwnerStage}

/-- A stage that is due in a service needs no probe. -/
theorem Lifecycle.serves_of_due (due : life.due stage = true) (serves : stage.serves = true) :
    life.config.probe = false := by
  cases stage with
  | configureRules | setup | refreshInfo | run =>
    simp only [Lifecycle.due, Bool.and_eq_true, Bool.not_eq_true'] at due
    exact due.2
  | _ => exact nomatch serves

/-- Up to the run a stage is due without an error. -/
theorem Lifecycle.sound_of_due (due : life.due stage = true) (early : stage.place < 20)
    (later : stage ≠ .init) : life.ownerErr = none := by
  cases stage with
  | init => exact absurd rfl later
  | getInfo | checkLcores => exact Option.isNone_iff_eq_none.mp due
  | configureRules | setup | refreshInfo | run =>
    simp only [Lifecycle.due, Bool.and_eq_true] at due
    exact Option.isNone_iff_eq_none.mp due.1
  | teardown | getStats | cleanup => exact absurd early (by decide)

/-- The owner moves to a later point without a stage. -/
theorem Lifecycle.Told.move (told : life.Told events) {point next : OwnerPoint}
    (here : life.owner = point)
    (locals : after.ownerErr = life.ownerErr ∧ after.teardownErr = life.teardownErr ∧
      after.initialized = life.initialized ∧ after.config = life.config)
    (there : after.owner = next) (later : point.place ≤ next.place)
    (was : ∀ stage, point ≠ .inside stage) (is : ∀ stage, next ≠ .inside stage)
    (passed : life.ownerErr = none → ∀ stage : OwnerStage, stage.place < 20 →
      stage.place + 1 < next.place → (stage.serves = true → life.config.probe = false) →
        stage.place + 1 < point.place)
    (entered : 1 < next.place → 1 < point.place)
    (opening : 12 < next.place → next.place < 16 →
      life.ownerErr = none ∧ life.config.probe = false)
    (closing : 20 < next.place → next.place < 29 → life.initialized = true)
    (tearing : 23 < next.place → life.initialized = true → 23 < point.place)
    (joining : 25 < next.place → life.initialized = true → 25 < point.place) :
    after.Told events := by
  obtain ⟨ownerErr, teardownErr, initialized, config⟩ := locals
  obtain ⟨begun, ended, -, returned, served, clean, chain, inited, broken, -, -, untorn, torn,
    joined⟩ := told
  rw [here] at begun ended returned chain broken untorn torn joined
  constructor
  case begun =>
    rw [there]
    exact fun stage member => (begun stage member).trans_le later
  case ended =>
    rw [there]
    exact fun stage success member => (ended stage success member).trans_le later
  case inside =>
    intro stage same
    exact absurd (there.symm.trans same) (is stage)
  case returned =>
    intro stage member
    exact .inr ((returned stage member).resolve_left (was stage))
  case served =>
    rw [config]
    exact served
  case clean =>
    rw [ownerErr, teardownErr]
    exact clean
  case chain =>
    rw [ownerErr, there, config]
    exact fun sound stage early past serves =>
      chain sound stage early (passed sound stage early past serves) serves
  case initialized =>
    rw [initialized]
    exact inited
  case broken =>
    rw [initialized, there, ownerErr]
    exact fun unset past => broken unset (entered past)
  case opening =>
    rw [there, ownerErr, config]
    exact opening
  case closing =>
    rw [there, initialized]
    exact closing
  case untorn =>
    rw [there, initialized, teardownErr]
    exact fun early => untorn (early.imp_left later.trans)
  case torn =>
    rw [there, initialized, teardownErr]
    exact fun past set => torn (tearing past set) set
  case joined =>
    rw [there, ownerErr, teardownErr]
    intro past sound
    cases set : life.initialized with
    | true => exact joined (joining past set) sound
    | false => exact untorn (.inr set)

/-- The owner starts a stage that is due. -/
theorem Lifecycle.Told.start (told : life.Told events) (here : life.owner = .entering stage)
    (due : life.due stage = true) :
    ({ life with owner := .inside stage } : Lifecycle).Told (events ++ [.started stage]) := by
  obtain ⟨even, twelve, fourteen, -, twenty, last⟩ := stage.place_cases
  have place : life.owner.place = stage.place := congrArg OwnerPoint.place here
  constructor
  case begun =>
    intro earlier member
    change earlier.place < stage.place + 1
    rcases List.mem_append.mp member with old | new
    · have := told.begun earlier old
      omega
    · obtain rfl := LifecycleEvent.started.inj (List.mem_singleton.mp new)
      omega
  case ended =>
    intro earlier success member
    change earlier.place + 1 < stage.place + 1
    rcases List.mem_append.mp member with old | new
    · have := told.ended earlier success old
      omega
    · cases List.mem_singleton.mp new
  case inside =>
    intro earlier same
    obtain rfl := OwnerPoint.inside.inj same
    exact ⟨by simp, due⟩
  case returned =>
    intro earlier member
    rcases List.mem_append.mp member with old | new
    · rcases told.returned earlier old with same | ⟨success, ended⟩
      · cases here.symm.trans same
      · exact .inr ⟨success, by simp [ended]⟩
    · obtain rfl := LifecycleEvent.started.inj (List.mem_singleton.mp new)
      exact .inl rfl
  case served =>
    intro earlier member serves
    rcases List.mem_append.mp member with old | new
    · exact told.served earlier old serves
    · obtain rfl := LifecycleEvent.started.inj (List.mem_singleton.mp new)
      exact Lifecycle.serves_of_due due serves
  case clean => simpa [Failed] using told.clean
  case chain =>
    intro sound earlier early past serves
    change earlier.place + 1 < stage.place + 1 at past
    have apart := earlier.place_cases.1
    exact List.mem_append_left _ (told.chain sound earlier early (by omega) serves)
  case initialized => simpa using told.initialized
  case broken =>
    intro unset past
    change 1 < stage.place + 1 at past
    exact told.broken unset (by omega)
  case opening =>
    intro past before
    change 12 < stage.place + 1 at past
    change stage.place + 1 < 16 at before
    omega
  case closing =>
    intro past before
    change 20 < stage.place + 1 at past
    exact told.closing (by omega) (by omega)
  case untorn =>
    intro early
    change stage.place + 1 ≤ 23 ∨ life.initialized = false at early
    exact told.untorn (early.imp_left (by omega))
  case torn =>
    intro past set
    change 23 < stage.place + 1 at past
    obtain ⟨begun, success⟩ := told.torn (by omega) set
    exact ⟨by simp [begun], fun clean => by simp [success clean]⟩
  case joined =>
    intro past sound
    change 25 < stage.place + 1 at past
    exact told.joined (by omega) sound

theorem combine_none {first next : Option OwnerError} :
    combine first next = none ↔ first = none ∧ next = none := by
  cases first <;> cases next <;> simp [combine]

theorem failed_snoc {success : Bool} :
    Failed (events ++ [.finished stage success]) ↔ Failed events ∨ success = false := by
  unfold Failed
  constructor
  · rintro ⟨other, member⟩
    rcases List.mem_append.mp member with old | new
    · exact .inl ⟨other, old⟩
    · exact .inr (LifecycleEvent.finished.inj (List.mem_singleton.mp new)).2.symm
  · rintro (⟨other, old⟩ | rfl)
    · exact ⟨other, List.mem_append_left _ old⟩
    · exact ⟨stage, List.mem_append_right _ List.mem_cons_self⟩

/-- A stage up to the run ends with no earlier failure. -/
theorem Lifecycle.Told.unfailed (told : life.Told events) (here : life.owner = .inside stage)
    (early : stage.place < 20) : ¬Failed events ∧ life.teardownErr = none := by
  have place : life.owner.place = stage.place + 1 := congrArg OwnerPoint.place here
  have untorn : life.teardownErr = none := told.untorn (.inl (by omega))
  refine ⟨?_, untorn⟩
  by_cases first : stage = .init
  · rintro ⟨other, member⟩
    have := told.ended other false member
    rw [first] at place
    change life.owner.place = 1 at place
    omega
  · have sound := Lifecycle.sound_of_due (told.inside stage here).2 early first
    exact fun failed => told.clean.mp failed ⟨sound, untorn⟩

/-- The end of a stage moves the owner to the next point. -/
theorem Lifecycle.Told.finish (told : life.Told events) (here : life.owner = .inside stage)
    (there : after.owner = stage.next) (config : after.config = life.config) {success : Bool}
    (clean : Failed events ∨ success = false ↔
      ¬(after.ownerErr = none ∧ after.teardownErr = none))
    (older : after.ownerErr = none → stage ≠ .init → life.ownerErr = none)
    (initialized : after.initialized = true ↔
      .finished .init true ∈ events ++ [LifecycleEvent.finished stage success])
    (broken : after.initialized = false → after.ownerErr ≠ none)
    (closing : 20 < stage.place → after.initialized = true)
    (untorn : stage.place < 22 ∨ after.initialized = false → after.teardownErr = none)
    (torn : 20 < stage.place → .started .teardown ∈ events ∧ (after.teardownErr = none →
      .finished .teardown true ∈ events ++ [LifecycleEvent.finished stage success]))
    (joined : 22 < stage.place → after.ownerErr = none → after.teardownErr = none) :
    after.Told (events ++ [.finished stage success]) := by
  have place : life.owner.place = stage.place + 1 := congrArg OwnerPoint.place here
  have grown : after.owner.place = stage.place + 2 :=
    (congrArg OwnerPoint.place there).trans stage.place_next
  obtain ⟨even, twelve, fourteen, sixteen, twenty, last⟩ := stage.place_cases
  constructor
  case begun =>
    rw [grown]
    intro other member
    rcases List.mem_append.mp member with old | new
    · have := told.begun other old
      omega
    · cases List.mem_singleton.mp new
  case ended =>
    rw [grown]
    intro other ok member
    rcases List.mem_append.mp member with old | new
    · have := told.ended other ok old
      omega
    · obtain ⟨rfl, -⟩ := LifecycleEvent.finished.inj (List.mem_singleton.mp new)
      omega
  case inside =>
    intro other same
    exact absurd (there.symm.trans same) (stage.next_outside other)
  case returned =>
    intro other member
    rcases List.mem_append.mp member with old | new
    · rcases told.returned other old with same | ⟨ok, ended⟩
      · obtain rfl := OwnerPoint.inside.inj (here.symm.trans same)
        exact .inr ⟨success, List.mem_append_right _ List.mem_cons_self⟩
      · exact .inr ⟨ok, List.mem_append_left _ ended⟩
    · cases List.mem_singleton.mp new
  case served =>
    rw [config]
    intro other member serves
    rcases List.mem_append.mp member with old | new
    · exact told.served other old serves
    · cases List.mem_singleton.mp new
  case clean => exact failed_snoc.trans clean
  case chain =>
    rw [grown, config]
    intro sound other early past serves
    by_cases same : other = stage
    · obtain rfl := same
      have succeeded : success = true := by
        by_contra failure
        have untorn := untorn (.inl (by omega))
        exact clean.mp (.inr (by simpa using failure)) ⟨sound, untorn⟩
      rw [succeeded]
      exact List.mem_append_right _ List.mem_cons_self
    · have apart : other.place ≠ stage.place := fun equal => same (OwnerStage.place_injective equal)
      have parity := other.place_cases.1
      have later : stage ≠ .init := by
        rintro rfl
        change other.place + 1 < 0 + 2 at past
        change other.place ≠ 0 at apart
        omega
      exact List.mem_append_left _
        (told.chain (older sound later) other early (by omega) serves)
  case initialized => exact initialized
  case broken => exact fun unset _ => broken unset
  case opening =>
    rw [grown]
    omega
  case closing =>
    rw [grown]
    exact fun past _ => closing (by omega)
  case untorn =>
    rw [grown]
    exact fun early => untorn (early.imp_left (by omega))
  case torn =>
    rw [grown]
    intro past _
    obtain ⟨begun, ended⟩ := torn (by omega)
    exact ⟨List.mem_append_left _ begun, ended⟩
  case joined =>
    rw [grown]
    exact fun past => joined (by omega)

theorem isNone_eq_false_iff {outcome : Option OwnerError} :
    outcome.isNone = false ↔ outcome ≠ none := by
  cases outcome <;> simp

/-- Only the end of the initialization records the initialization. -/
theorem Lifecycle.Told.keeps (told : life.Told events) (other : stage ≠ .init) {success : Bool} :
    life.initialized = true ↔
      .finished .init true ∈ events ++ [LifecycleEvent.finished stage success] := by
  rw [told.initialized, List.mem_append, List.mem_singleton]
  constructor
  · exact .inl
  · rintro (old | new)
    · exact old
    · exact absurd (LifecycleEvent.finished.inj new).1.symm other

/-- Behind the initialization and up to the run a stage replaces the error. -/
theorem Lifecycle.Told.settleEarly (told : life.Told events) (here : life.owner = .inside stage)
    (early : stage.place < 20) (later : stage ≠ .init) (there : after.owner = stage.next)
    (config : after.config = life.config) {outcome : Option OwnerError}
    (ownerErr : after.ownerErr = outcome) (teardownErr : after.teardownErr = life.teardownErr)
    (initialized : after.initialized = life.initialized) :
    after.Told (events ++ [.finished stage outcome.isNone]) := by
  obtain ⟨unfailed, untorn⟩ := told.unfailed here early
  have sound := Lifecycle.sound_of_due (told.inside stage here).2 early later
  have place : life.owner.place = stage.place + 1 := congrArg OwnerPoint.place here
  have beyond : 1 < life.owner.place := by
    have apart : stage.place ≠ OwnerStage.init.place := fun same =>
      later (OwnerStage.place_injective same)
    change stage.place ≠ 0 at apart
    omega
  have set : life.initialized = true := by
    by_contra unset
    exact told.broken (by simpa using unset) beyond sound
  apply told.finish here there config
  · rw [ownerErr, teardownErr, untorn, isNone_eq_false_iff]
    simp [unfailed]
  · exact fun _ _ => sound
  · rw [initialized]
    exact told.keeps later
  · rw [initialized, set]
    exact fun impossible => nomatch impossible
  · exact fun _ => initialized.trans set
  · exact fun _ => teardownErr.trans untorn
  · intro past
    omega
  · intro past
    omega

/-- Behind the run a stage adds its error. -/
theorem Lifecycle.Told.settleLate (told : life.Told events) (here : life.owner = .inside stage)
    (late : 20 < stage.place) (there : after.owner = stage.next)
    (config : after.config = life.config) (initialized : after.initialized = life.initialized)
    {outcome : Option OwnerError}
    (errors : after.ownerErr = none ∧ after.teardownErr = none ↔
      (life.ownerErr = none ∧ life.teardownErr = none) ∧ outcome = none)
    (older : after.ownerErr = none → life.ownerErr = none)
    (torn : .started .teardown ∈ events ∧ (after.teardownErr = none →
      .finished .teardown true ∈ events ++ [LifecycleEvent.finished stage outcome.isNone]))
    (joined : 22 < stage.place → after.ownerErr = none → after.teardownErr = none) :
    after.Told (events ++ [.finished stage outcome.isNone]) := by
  have place : life.owner.place = stage.place + 1 := congrArg OwnerPoint.place here
  have last := stage.place_cases.2.2.2.2.2
  have set : life.initialized = true := told.closing (by omega) (by omega)
  have later : stage ≠ .init := by
    rintro rfl
    exact absurd late (by decide)
  apply told.finish here there config
  · rw [told.clean, isNone_eq_false_iff, errors]
    exact not_and_or.symm
  · exact fun sound _ => older sound
  · rw [initialized]
    exact told.keeps later
  · rw [initialized, set]
    exact fun impossible => nomatch impossible
  · exact fun _ => initialized.trans set
  · rintro (early | unset)
    · have parity := stage.place_cases.1
      omega
    · exact absurd ((initialized.trans set).symm.trans unset) (by decide)
  · exact fun _ => torn
  · exact joined

/-- The owner finishes a stage. -/
theorem Lifecycle.Told.settle (told : life.Told events) (here : life.owner = .inside stage)
    (info : Info) (outcome : Option OwnerError) :
    ({ life.settle info outcome stage with owner := stage.next } : Lifecycle).Told
      (events ++ [.finished stage outcome.isNone]) := by
  have begun := (told.inside stage here).1
  cases stage with
  | init =>
    obtain ⟨unfailed, untorn⟩ := told.unfailed here (by decide)
    have fresh (success : Bool) : .finished .init success ∉ events := by
      intro member
      have past := told.ended .init success member
      rw [here] at past
      exact absurd past (by decide)
    apply told.finish here
    · rfl
    · rfl
    · change Failed events ∨ outcome.isNone = false ↔ ¬(outcome = none ∧ life.teardownErr = none)
      rw [untorn, isNone_eq_false_iff]
      simp [unfailed]
    · exact fun _ different => absurd rfl different
    · change outcome.isNone = true ↔ _
      simp [fresh]
    · exact fun unset => isNone_eq_false_iff.mp unset
    · exact fun past => absurd past (by decide)
    · exact fun _ => untorn
    · exact fun past => absurd past (by decide)
    · exact fun past => absurd past (by decide)
  | getInfo | checkLcores | configureRules | setup | refreshInfo | run =>
    apply told.settleEarly here (by decide) nofun <;> rfl
  | teardown =>
    have untorn : life.teardownErr = none := told.untorn (.inl (by rw [here]; decide))
    apply told.settleLate here (by decide)
    · rfl
    · rfl
    · rfl
    · change life.ownerErr = none ∧ outcome = none ↔ _
      rw [untorn]
      simp
    · exact fun sound => sound
    · refine ⟨begun, fun clean => ?_⟩
      change outcome = none at clean
      simp [clean]
    · exact fun past => absurd past (by decide)
  | getStats =>
    have torn := told.torn (by rw [here]; decide) (told.closing (by rw [here]; decide)
      (by rw [here]; decide))
    apply told.settleLate here (by decide)
    · rfl
    · rfl
    · rfl
    · change combine (combine life.ownerErr life.teardownErr) outcome = none ∧
        life.teardownErr = none ↔ _
      rw [combine_none, combine_none]
      tauto
    · exact fun sound => (combine_none.mp (combine_none.mp sound).1).1
    · exact ⟨torn.1, fun clean => List.mem_append_left _ (torn.2 clean)⟩
    · exact fun _ sound => (combine_none.mp (combine_none.mp sound).1).2
  | cleanup =>
    have torn := told.torn (by rw [here]; decide) (told.closing (by rw [here]; decide)
      (by rw [here]; decide))
    apply told.settleLate here (by decide)
    · rfl
    · rfl
    · rfl
    · change combine life.ownerErr outcome = none ∧ life.teardownErr = none ↔ _
      rw [combine_none]
      tauto
    · exact fun sound => (combine_none.mp sound).1
    · exact ⟨torn.1, fun clean => List.mem_append_left _ (torn.2 clean)⟩
    · exact fun _ sound => told.joined (by rw [here]; decide) (combine_none.mp sound).1

/-- The owner skips a stage that is not due. -/
theorem Lifecycle.Told.skip (told : life.Told events) (here : life.owner = .entering stage)
    (idle : life.due stage = false) :
    ({ life with owner := stage.next } : Lifecycle).Told events := by
  have place : life.owner.place = stage.place := congrArg OwnerPoint.place here
  have skipped : stage.place ≠ 0 ∧ stage.place ≠ 22 ∧ stage.place ≠ 24 := by
    cases stage <;> first | decide | simp [Lifecycle.due] at idle
  obtain ⟨even, twelve, fourteen, sixteen, twenty, last⟩ := stage.place_cases
  obtain ⟨init, teardown, getStats⟩ := skipped
  have excused (early : stage.place < 20) (sound : life.ownerErr = none)
      (serves : stage.serves = true → life.config.probe = false) : False := by
    cases stage with
    | getInfo | checkLcores =>
      rw [Lifecycle.due, sound] at idle
      exact absurd idle (by decide)
    | configureRules | setup | refreshInfo | run =>
      rw [Lifecycle.due, sound, serves rfl] at idle
      exact absurd idle (by decide)
    | init => simp [Lifecycle.due] at idle
    | teardown | getStats | cleanup => exact absurd early (by decide)
  have next := stage.place_next
  apply told.move here
  · exact ⟨rfl, rfl, rfl, rfl⟩
  · rfl
  · exact next ▸ Nat.le_add_right _ _
  · exact nofun
  · exact stage.next_outside
  · intro sound other early past serves
    rw [next] at past
    change other.place + 1 < stage.place
    have parity := other.place_cases.1
    have apart : other.place ≠ stage.place := by
      intro same
      obtain rfl := OwnerStage.place_injective same
      exact excused early sound serves
    omega
  · intro _
    change 1 < stage.place
    omega
  · rw [next]
    omega
  · rw [next]
    exact fun past before => told.closing (by omega) (by omega)
  · rw [next]
    intro past _
    change 23 < stage.place
    omega
  · rw [next]
    intro past _
    change 25 < stage.place
    omega

/-- Every move of the owner is told by its event. -/
theorem Lifecycle.Told.ownerMove (told : life.Told events) {event : Option LifecycleEvent}
    (move : OwnerMove life life.owner event after) : after.Told (events ++ event.toList) := by
  have stays (point next : OwnerPoint) (here : life.owner = point)
      (locals : after.ownerErr = life.ownerErr ∧ after.teardownErr = life.teardownErr ∧
        after.initialized = life.initialized ∧ after.config = life.config)
      (there : after.owner = next) (later : point.place ≤ next.place)
      (between : ∀ stage : OwnerStage, stage.place + 1 < next.place → stage.place + 1 < point.place)
      (was : ∀ stage, point ≠ .inside stage) (is : ∀ stage, next ≠ .inside stage)
      (opening : 12 < next.place → next.place < 16 →
        life.ownerErr = none ∧ life.config.probe = false)
      (closing : 20 < next.place → next.place < 29 → life.initialized = true) :
      after.Told (events ++ (none : Option LifecycleEvent).toList) := by
    rw [Option.toList_none, List.append_nil]
    exact told.move here locals there later was is
      (fun _ stage _ past _ => between stage past) (between .init) opening closing
      (fun past _ => between .teardown past) (fun past _ => between .getStats past)
  generalize here : life.owner = point at move
  have opening := told.opening
  have closing := told.closing
  rw [here] at opening closing
  cases move
  case skip stage idle =>
    rw [Option.toList_none, List.append_nil]
    exact told.skip here idle
  case start stage due => exact told.start here due
  case finish stage info outcome yields => exact told.settle here info outcome
  case bypass idle =>
    exact stays .locking .announcing here ⟨rfl, rfl, rfl, rfl⟩ rfl (by decide)
      (fun stage => by cases stage <;> decide) nofun nofun (fun _ past => absurd past (by decide))
      fun past => absurd past (by decide)
  case lock due free =>
    obtain ⟨sound, serving⟩ := Bool.and_eq_true_iff.mp due
    exact stays .locking .stamping here ⟨rfl, rfl, rfl, rfl⟩ rfl (by decide)
      (fun stage => by cases stage <;> decide) nofun nofun
      (fun _ _ => ⟨Option.isNone_iff_eq_none.mp sound, by simpa using serving⟩)
      fun past => absurd past (by decide)
  case stamp =>
    exact stays .stamping .opening here ⟨rfl, rfl, rfl, rfl⟩ rfl (by decide)
      (fun stage => by cases stage <;> decide) nofun nofun
      (fun _ _ => opening (by decide) (by decide)) fun past => absurd past (by decide)
  case opens =>
    exact stays .opening .unlocking here ⟨rfl, rfl, rfl, rfl⟩ rfl (by decide)
      (fun stage => by cases stage <;> decide) nofun nofun
      (fun _ _ => opening (by decide) (by decide)) fun past => absurd past (by decide)
  case unlock =>
    exact stays .unlocking .announcing here ⟨rfl, rfl, rfl, rfl⟩ rfl (by decide)
      (fun stage => by cases stage <;> decide) nofun nofun (fun _ past => absurd past (by decide))
      fun past => absurd past (by decide)
  case announce =>
    exact stays .announcing (.entering .run) here ⟨rfl, rfl, rfl, rfl⟩ rfl (by decide)
      (fun stage => by cases stage <;> decide) nofun nofun (fun _ past => absurd past (by decide))
      fun past => absurd past (by decide)
  case leave unset =>
    rw [Option.toList_none, List.append_nil]
    exact told.move here ⟨rfl, rfl, rfl, rfl⟩ (show _ = OwnerPoint.finishing from rfl) (by decide)
      nofun nofun
      (fun _ stage early _ _ => Nat.lt_of_succ_lt_succ (by
        have := stage.place_cases
        change stage.place + 1 + 1 < 20 + 1
        omega))
      (fun _ => by decide) (fun _ past => absurd past (by decide))
      (fun _ past => absurd past (by decide))
      (fun _ set => absurd (unset.symm.trans set) (by decide))
      fun _ set => absurd (unset.symm.trans set) (by decide)
  case lockAgain set free =>
    exact stays .closing .shutting here ⟨rfl, rfl, rfl, rfl⟩ rfl (by decide)
      (fun stage => by cases stage <;> decide) nofun nofun (fun _ past => absurd past (by decide))
      fun _ _ => set
  case shut =>
    exact stays .shutting (.entering .teardown) here ⟨rfl, rfl, rfl, rfl⟩ rfl (by decide)
      (fun stage => by cases stage <;> decide) nofun nofun (fun _ past => absurd past (by decide))
      fun _ _ => closing (by decide) (by decide)
  case release =>
    exact stays .releasing .finishing here ⟨rfl, rfl, rfl, rfl⟩ rfl (by decide)
      (fun stage => by cases stage <;> decide) nofun nofun (fun _ past => absurd past (by decide))
      fun _ past => absurd past (by decide)
  case close =>
    exact stays .finishing .done here ⟨rfl, rfl, rfl, rfl⟩ rfl (by decide)
      (fun stage => by cases stage <;> decide) nofun nofun (fun _ past => absurd past (by decide))
      fun _ past => absurd past (by decide)

/-- The story of the owner does not depend on the mutex and the goroutines. -/
theorem Lifecycle.Told.same (told : life.Told events) (same : after = { life with
      rulesMu := after.rulesMu, rules := after.rules, callers := after.callers }) :
    after.Told events := by
  rw [same]
  obtain ⟨begun, ended, inside, returned, served, clean, chain, initialized, broken, opening,
    closing, untorn, torn, joined⟩ := told
  constructor <;> assumption

/-- An event that is no stage leaves the story of the owner alone. -/
theorem Lifecycle.Told.snoc (told : life.Told events) {event : LifecycleEvent}
    (starts : ∀ stage, event ≠ .started stage)
    (finishes : ∀ stage success, event ≠ .finished stage success) :
    life.Told (events ++ [event]) := by
  have started (stage : OwnerStage) :
      .started stage ∈ events ++ [event] ↔ .started stage ∈ events := by
    simp [Ne.symm (starts stage)]
  have finished (stage : OwnerStage) (success : Bool) :
      .finished stage success ∈ events ++ [event] ↔ .finished stage success ∈ events := by
    simp [Ne.symm (finishes stage success)]
  obtain ⟨begun, ended, inside, returned, served, clean, chain, initialized, broken, opening,
    closing, untorn, torn, joined⟩ := told
  constructor
  case broken => exact broken
  case opening => exact opening
  case closing => exact closing
  case untorn => exact untorn
  case joined => exact joined
  all_goals
    simp only [started, finished, Failed]
    assumption

end Owner

end FlowRouter.Control
