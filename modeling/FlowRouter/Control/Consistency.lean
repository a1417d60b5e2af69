import FlowRouter.Control.System
import FlowRouter.Library.Mutex

namespace FlowRouter.Control
open Checks Mutex Native Transition
open Native.Binding (GoError)

variable {tables : RteTables}

/-- Both sides hold the same rules under the same generation. -/
structure View.Synced (view : View tables) : Prop where
  formed : view.currentRules.WellFormed
  generation : view.generation = view.rulesGeneration
  active : ∃ built, view.activeRules = some built ∧
    BuiltFrom view.currentRules view.rulesGeneration built

/-- This relates a finished call to the views around it. -/
structure Entry.Sound (entry : Entry tables) : Prop where
  formed : entry.before.currentRules.WellFormed
  reached : ¬ entry.operation.Refused entry.before.currentRules → entry.published ≠ none
  outcome : entry.result = .ok () ↔
    ¬ entry.operation.Refused entry.before.currentRules ∧ entry.published = some true
  success : entry.result = .ok () →
    entry.after.currentRules = entry.operation.apply entry.before.currentRules ∧
      entry.after.rulesOpen = entry.before.rulesOpen ∧
      entry.after.rulesGeneration = entry.before.rulesGeneration + 1 ∧ entry.after.Synced
  failure : entry.result ≠ .ok () → entry.after = entry.before

/-- A publication that has returned leads from one view to the next. -/
structure View.Advanced (before after : View tables) (candidate : RuleSnapshot)
    (generation : Nat) : Prop where
  number : generation = before.rulesGeneration + 1
  opened : after.rulesOpen = before.rulesOpen
  rulesGeneration : after.rulesGeneration = generation
  active : ∃ built, after.activeRules = some built ∧ BuiltFrom candidate generation built

/-- This is what each point of a call knows about the stable view and the current view. -/
def Caller.Holds (stable view : View tables) : Caller → Prop
  | .idle | .called _ => True
  | .waiting operation | .locking operation =>
      ∀ snapshot, operation = .replaceRules snapshot → snapshot.WellFormed
  | .checking operation =>
      view = stable ∧ ∀ snapshot, operation = .replaceRules snapshot → snapshot.WellFormed
  | .publishing operation candidate | .calling operation candidate =>
      view = stable ∧ ¬ operation.Refused stable.currentRules ∧
        candidate = operation.apply stable.currentRules
  | .storing operation candidate generation =>
      ¬ operation.Refused stable.currentRules ∧
        candidate = operation.apply stable.currentRules ∧
        stable.Advanced view candidate generation ∧ view.currentRules = stable.currentRules ∧
        view.generation = stable.generation
  | .stamping operation candidate generation =>
      ¬ operation.Refused stable.currentRules ∧
        candidate = operation.apply stable.currentRules ∧
        stable.Advanced view candidate generation ∧ view.currentRules = candidate ∧
        view.generation = stable.generation
  | .returning operation published result =>
      Entry.Sound ⟨operation, published, result, stable, view⟩

/-- Before the opening the owner has published its own rules as the first generation. -/
def Owner.Holds (configured : RuleSnapshot) (stable : View tables) : Owner → Prop
  | .starting | .initialized => stable.rulesOpen = false ∧ stable.currentRules = configured
  | .configured | .prepared | .stamping =>
      stable.rulesOpen = false ∧ stable.currentRules = configured ∧ stable.rulesGeneration = 1 ∧
        ∃ built, stable.activeRules = some built ∧ BuiltFrom configured 1 built
  | .opening =>
      stable.rulesOpen = false ∧ stable.currentRules = configured ∧ stable.rulesGeneration = 1 ∧
        stable.generation = 1 ∧
        ∃ built, stable.activeRules = some built ∧ BuiltFrom configured 1 built
  | .announcing _ healthy => healthy = false → stable.rulesOpen = false
  | .tearing | .cleaning | .releasing => stable.rulesOpen = false
  | _ => True

/-- A history leads from one rule list to another when each call starts where the last one ended. -/
def Replays : RuleSnapshot → List (Entry tables) → RuleSnapshot → Prop
  | start, [], finish => start = finish
  | start, entry :: rest, finish =>
      entry.before.currentRules = start ∧ Replays entry.after.currentRules rest finish

theorem Replays.snoc {start middle : RuleSnapshot} {log : List (Entry tables)}
    (replays : Replays start log middle) {entry : Entry tables}
    (begins : entry.before.currentRules = middle) :
    Replays start (log ++ [entry]) entry.after.currentRules := by
  induction log generalizing start with
  | nil => exact ⟨begins.trans replays.symm, rfl⟩
  | cons first rest ih => exact ⟨replays.1, ih replays.2⟩

/-- The mutex has these parties. -/
def System.inside (system : System tables) : Holder → Bool
  | .owner => system.owner.inside
  | .caller id => (system.callers id).inside

/-- This is the invariant of the whole system. -/
structure System.Consistent (configured : RuleSnapshot) (system : System tables) : Prop where
  lock : Exclusive system.rulesMu system.inside
  pastReady : ∀ id, (system.callers id).pastReady = true → system.ready = true
  early : system.owner.early = true → system.ready = false
  formed : system.stable.currentRules.WellFormed
  opened : system.stable.rulesOpen = true → system.stable.Synced
  owned : system.owner.Holds configured system.stable
  called : ∀ id, (system.callers id).Holds system.stable system.rules.view
  settled : (∀ id, system.rulesMu ≠ some (.caller id)) → system.rules.view = system.stable
  replays : Replays configured system.log system.stable.currentRules
  sound : ∀ entry ∈ system.log, entry.Sound

theorem System.initial_consistent {rules : RuleSnapshot} (formed : rules.WellFormed) :
    (System.initial tables rules).Consistent rules where
  lock holder := by cases holder <;> simp [System.inside, System.initial, Caller.inside, Owner.inside]
  pastReady id impossible := nomatch impossible
  early _ := rfl
  formed := formed
  opened impossible := nomatch impossible
  owned := ⟨rfl, rfl⟩
  called id := trivial
  settled _ := rfl
  replays := rfl
  sound entry impossible := nomatch impossible

/-- Outside the mutex a goroutine knows nothing about the two views. -/
theorem Caller.Holds.outside {caller : Caller} {stable view stable' view' : View tables}
    (holds : caller.Holds stable view) (outside : caller.inside = false) :
    caller.Holds stable' view' := by
  cases caller with
  | idle | called | waiting | locking => exact holds
  | checking | publishing | calling | storing | stamping | returning => exact nomatch outside

section Moves

variable {configured : RuleSnapshot} {system : System tables} {id : Nat} {caller : Caller}

/-- A goroutine moves nobody else across the boundary of the mutex. -/
theorem System.inside_others (system : System tables) (id : Nat) (caller : Caller)
    (holder : Holder) (differs : holder ≠ .caller id) :
    (system.moveCaller id caller).inside holder = system.inside holder := by
  cases holder with
  | owner => rfl
  | caller other =>
    have apart : other ≠ id := fun same => differs (by rw [same])
    have same : Function.update system.callers id caller other = system.callers other :=
      Function.update_of_ne apart _ _
    exact congrArg Caller.inside same

theorem System.inside_self (system : System tables) (id : Nat) (caller : Caller) :
    (system.moveCaller id caller).inside (.caller id) = caller.inside := by
  have same : Function.update system.callers id caller id = caller := Function.update_self _ _ _
  exact congrArg Caller.inside same

/-- A goroutine that stays on its side crosses no boundary. -/
theorem System.inside_stays (same : caller.inside = (system.callers id).inside) (holder : Holder) :
    (system.moveCaller id caller).inside holder = system.inside holder := by
  by_cases mine : holder = .caller id
  · rw [mine, System.inside_self]
    exact same
  · exact system.inside_others id caller holder mine

theorem System.inside_owner {owner : Owner} (same : owner.inside = system.owner.inside)
    (holder : Holder) :
    ({ system with owner := owner } : System tables).inside holder = system.inside holder := by
  cases holder with
  | owner => exact same
  | caller => rfl

/-- Every other goroutine is outside while one holds the mutex. -/
theorem System.Consistent.excluded (consistent : system.Consistent configured)
    (inside : (system.callers id).inside = true) {other : Nat} (differs : other ≠ id) :
    (system.callers other).inside = false :=
  consistent.lock.outside (show system.inside (.caller id) = true from inside)
    fun same => differs (Holder.caller.inj same)

/-- A goroutine inside the mutex may change the rules of both sides. -/
theorem System.Consistent.work (consistent : system.Consistent configured)
    (inside : (system.callers id).inside = true) (stays : caller.inside = true)
    (rules : RuleState tables) (holds : caller.Holds system.stable rules.view) :
    ({ system.moveCaller id caller with rules := rules } : System tables).Consistent
      configured := by
  have locked := (consistent.lock (.caller id)).mp inside
  have ready : system.ready = true := consistent.pastReady id (by
    cases at_ : system.callers id <;> simp_all [Caller.inside, Caller.pastReady])
  exact { consistent with
    lock := consistent.lock.keep (System.inside_stays (stays.trans inside.symm))
    pastReady := fun _ _ => ready
    called := (Function.forall_update_iff system.callers
      (p := fun _ caller => caller.Holds system.stable rules.view)).mpr
      ⟨holds, fun other differs =>
        (consistent.called other).outside (consistent.excluded inside differs)⟩
    settled := fun free => absurd locked (free id) }

/-- A goroutine outside the mutex only moves itself and may record a refusal. -/
theorem System.Consistent.roam (consistent : system.Consistent configured) (caller : Caller)
    (log : List (Entry tables))
    (outside : (system.callers id).inside = false) (stays : caller.inside = false)
    (past : caller.pastReady = true → system.ready = true)
    (holds : caller.Holds system.stable system.rules.view)
    (replays : Replays configured log system.stable.currentRules)
    (sound : ∀ entry ∈ log, entry.Sound) :
    ({ system.moveCaller id caller with log := log } : System tables).Consistent configured := by
  exact { consistent with
    lock := consistent.lock.keep (System.inside_stays (stays.trans outside.symm))
    pastReady := (Function.forall_update_iff system.callers
      (p := fun _ caller => caller.pastReady = true → system.ready = true)).mpr
      ⟨past, fun other _ => consistent.pastReady other⟩
    called := (Function.forall_update_iff system.callers
      (p := fun _ caller => caller.Holds system.stable system.rules.view)).mpr
      ⟨holds, fun other _ => consistent.called other⟩
    replays := replays
    sound := sound }

/-- Nobody is inside while the mutex is free. -/
theorem System.Consistent.vacant (consistent : system.Consistent configured)
    (free : system.rulesMu = none) :
    (∀ other, (system.callers other).inside = false) ∧ system.owner.inside = false ∧
      system.rules.view = system.stable := by
  have lock := consistent.lock
  rw [free] at lock
  exact ⟨fun other => lock.vacant (.caller other), lock.vacant .owner,
    consistent.settled fun other held => nomatch free.symm.trans held⟩

/-- A goroutine that takes the free mutex finds the stable view. -/
theorem System.Consistent.acquire (consistent : system.Consistent configured)
    (free : system.rulesMu = none) {operation : Operation}
    (here : system.callers id = .locking operation) :
    ({ system.moveCaller id (.checking operation) with
        rulesMu := some (.caller id) } : System tables).Consistent configured := by
  obtain ⟨-, -, same⟩ := consistent.vacant free
  have known := consistent.called id
  rw [here] at known
  have lock := consistent.lock
  rw [free] at lock
  exact { consistent with
    lock := lock.acquire (system.inside_others id (.checking operation))
      (system.inside_self id (.checking operation))
    pastReady := (Function.forall_update_iff system.callers
      (p := fun _ caller => caller.pastReady = true → system.ready = true)).mpr
      ⟨fun _ => consistent.pastReady id (by rw [here]; rfl),
        fun other _ => consistent.pastReady other⟩
    called := (Function.forall_update_iff system.callers
      (p := fun _ caller => caller.Holds system.stable system.rules.view)).mpr
      ⟨⟨same, known⟩, fun other _ => consistent.called other⟩
    settled := fun none => absurd rfl (none id) }

/-- A goroutine that releases the mutex leaves a finished call behind. -/
theorem System.Consistent.leave (consistent : system.Consistent configured)
    {operation : Operation} {published : Option Bool} {result : Except GoError Unit}
    (here : system.callers id = .returning operation published result) :
    ({ system.moveCaller id .idle with
        rulesMu := none
        stable := system.rules.view
        log := system.log ++ [⟨operation, published, result, system.stable,
          system.rules.view⟩] } : System tables).Consistent configured := by
  have inside : (system.callers id).inside = true := by rw [here]; rfl
  have entry := consistent.called id
  rw [here] at entry
  have held : system.inside (.caller id) = true := inside
  have outside : system.inside .owner = false :=
    consistent.lock.outside held fun same => nomatch same
  have asleep : system.owner.inside = false := outside
  have ready : system.ready = true := consistent.pastReady id (by rw [here]; rfl)
  have late : system.owner.early = false := by
    by_contra early
    simp [consistent.early (by simpa using early)] at ready
  have synced : (system.rules.view.rulesOpen = true → system.rules.view.Synced) ∧
      system.rules.view.currentRules.WellFormed := by
    by_cases done : result = .ok ()
    · have after := (entry.success done).2.2.2
      exact ⟨fun _ => after, after.formed⟩
    · have same : system.rules.view = system.stable := entry.failure done
      rw [same]
      exact ⟨consistent.opened, consistent.formed⟩
  exact
    { lock := consistent.lock.release held (system.inside_others id .idle) (system.inside_self id .idle)
      pastReady := fun _ _ => ready
      early := consistent.early
      formed := synced.2
      opened := synced.1
      owned := by
        cases at_ : system.owner <;> simp_all [Owner.inside, Owner.early, Owner.Holds,
          System.moveCaller]
      called := (Function.forall_update_iff system.callers
        (p := fun _ caller => caller.Holds system.rules.view system.rules.view)).mpr
        ⟨trivial, fun other differs =>
          (consistent.called other).outside (consistent.excluded inside differs)⟩
      settled := fun _ => rfl
      replays := consistent.replays.snoc rfl
      sound := fun other member => (List.mem_append.mp member).elim (consistent.sound other)
        fun new => List.mem_singleton.mp new ▸ entry }

end Moves

section Steps

variable {configured : RuleSnapshot} {system after : System tables}

/-- The preparation refuses only an invalid replacement. -/
theorem Operation.prepare_ok {operation prepared : Operation}
    (success : operation.prepare = .ok prepared) :
    prepared = operation ∧ ∀ snapshot, operation = .replaceRules snapshot → snapshot.WellFormed := by
  cases operation with
  | replaceRules snapshot =>
    obtain ⟨valid, same⟩ := guard_ok.mp success
    rw [wrapError_ok, cloneRules_eq, validateRules_ok] at valid
    exact ⟨(Except.ok.inj same).symm, fun other equal => Operation.replaceRules.inj equal ▸ valid⟩
  | addFlow | deleteFlow | addRoute | deleteRoute =>
    exact ⟨(Except.ok.inj success).symm, fun _ impossible => nomatch impossible⟩

theorem Operation.prepare_error {operation : Operation} {error : GoError}
    (failure : operation.prepare = .error error) (current : RuleSnapshot) :
    operation.Refused current := by
  cases operation with
  | replaceRules snapshot =>
    intro formed
    have valid : wrapError "replace rules" (validateRules (cloneRules snapshot)) = .ok () :=
      wrapError_ok.mpr ((validateRules_ok _).mpr formed)
    simp [Operation.prepare, valid, bind, Except.bind, pure, Except.pure] at failure
  | addFlow | deleteFlow | addRoute | deleteRoute => exact nomatch failure

/-- Under the mutex a prepared method computes its edit or is refused. -/
theorem Operation.candidateLocked_ok {current candidate : RuleSnapshot}
    (formed : current.WellFormed) {operation : Operation}
    (prepared : ∀ snapshot, operation = .replaceRules snapshot → snapshot.WellFormed) :
    operation.candidateLocked current = .ok candidate ↔
      ¬ operation.Refused current ∧ candidate = operation.apply current := by
  cases operation with
  | replaceRules snapshot =>
    have valid : ¬ (Operation.replaceRules snapshot).Refused current := not_not.mpr (prepared _ rfl)
    rw [and_iff_right valid]
    exact ⟨fun same => (Except.ok.inj same).symm, fun same => by rw [same]; rfl⟩
  | addFlow rule => exact Operation.candidate_ok formed (.addFlow rule)
  | deleteFlow key => exact Operation.candidate_ok formed (.deleteFlow key)
  | addRoute rule => exact Operation.candidate_ok formed (.addRoute rule)
  | deleteRoute key => exact Operation.candidate_ok formed (.deleteRoute key)

/-- A call that fails leaves a sound entry behind. -/
theorem Entry.sound_failure {operation : Operation} (published : Option Bool) (error : GoError)
    {view : View tables} (formed : view.currentRules.WellFormed)
    (reason : operation.Refused view.currentRules ∨ published = some false) :
    Entry.Sound ⟨operation, published, .error error, view, view⟩ where
  formed := formed
  reached allowed := by simp [reason.resolve_left allowed]
  outcome := ⟨fun impossible => (nomatch impossible), fun ⟨allowed, done⟩ => by
    simp [reason.resolve_left allowed] at done⟩
  success impossible := nomatch impossible
  failure _ := rfl

/-- A goroutine that holds the mutex decides on the stable rules. -/
theorem System.Consistent.callerChecking (consistent : system.Consistent configured) {id : Nat}
    {operation : Operation} (here : system.callers id = .checking operation)
    (step : CallerStep system id (.checking operation) after) : after.Consistent configured := by
  have known := consistent.called id
  rw [here] at known
  obtain ⟨same, prepared⟩ := known
  have rules : system.rules.runtime.currentRules = system.stable.currentRules :=
    congrArg View.currentRules same
  cases step with
  | @reject _ error failure =>
    have refused : operation.Refused system.stable.currentRules := by
      by_contra allowed
      rw [rules, (Operation.candidateLocked_ok consistent.formed prepared).mpr ⟨allowed, rfl⟩]
        at failure
      exact nomatch failure
    refine consistent.work (by rw [here]; rfl) rfl system.rules ?_
    rw [Caller.Holds, same]
    exact Entry.sound_failure _ _ consistent.formed (.inl refused)
  | accept success =>
    rw [rules, Operation.candidateLocked_ok consistent.formed prepared] at success
    exact consistent.work (by rw [here]; rfl) rfl system.rules ⟨same, success⟩

/-- The native call publishes the next generation or changes no view. -/
theorem System.Consistent.callerCalling (consistent : system.Consistent configured) {id : Nat}
    {operation : Operation} {candidate : RuleSnapshot}
    (here : system.callers id = .calling operation candidate)
    (step : CallerStep system id (.calling operation candidate) after) :
    after.Consistent configured := by
  have known := consistent.called id
  rw [here] at known
  cases step with
  | @failed _ _ faults error native publication =>
    obtain ⟨other, result, ends, unpublished⟩ | ⟨result, ends, -⟩ :=
      nativePublishRules_cases faults candidate system.rules.native
    · obtain ⟨-, rfl⟩ := Prod.mk.inj (publication.symm.trans ends)
      have same : RuleState.view { system.rules with native := native } = system.stable := by
        rw [← known.1, RuleState.view, RuleState.view, unpublished.activeRules,
          unpublished.generation]
      refine consistent.work (by rw [here]; rfl) rfl { system.rules with native := native } ?_
      rw [Caller.Holds, same]
      exact Entry.sound_failure _ _ consistent.formed (.inr rfl)
    · exact nomatch (Prod.mk.inj (publication.symm.trans ends)).1
  | @published _ _ faults generation native publication =>
    obtain ⟨same, allowed, edit⟩ := known
    obtain ⟨other, result, ends, -⟩ | ⟨result, ends, done⟩ :=
      nativePublishRules_cases faults candidate system.rules.native
    · exact nomatch (Prod.mk.inj (publication.symm.trans ends)).1
    · obtain ⟨number, rfl⟩ := Prod.mk.inj (publication.symm.trans ends)
      have number := Except.ok.inj number
      have before : system.rules.native.stats.rulesGeneration = system.stable.rulesGeneration :=
        congrArg View.rulesGeneration same
      have opened : system.rules.runtime.rulesOpen = system.stable.rulesOpen :=
        congrArg View.rulesOpen same
      have rules : system.rules.runtime.currentRules = system.stable.currentRules :=
        congrArg View.currentRules same
      have stamped : system.rules.runtime.generation = system.stable.generation :=
        congrArg View.generation same
      exact consistent.work (by rw [here]; rfl) rfl { system.rules with native := native }
        ⟨allowed, edit, ⟨by rw [number, before], opened, done.generation.trans number.symm,
          number ▸ done.active⟩, rules, stamped⟩

/-- The generation completes the agreement of the two sides. -/
theorem System.Consistent.callerStamping (consistent : system.Consistent configured) {id : Nat}
    {operation : Operation} {candidate : RuleSnapshot} {generation : Nat}
    (here : system.callers id = .stamping operation candidate generation)
    (step : CallerStep system id (.stamping operation candidate generation) after) :
    after.Consistent configured := by
  have known := consistent.called id
  rw [here] at known
  cases step with
  | stamp =>
    obtain ⟨allowed, edit, advanced, rules, -⟩ := known
    have rules : system.rules.runtime.currentRules = candidate := rules
    have formed : system.rules.runtime.currentRules.WellFormed := by
      rw [rules, edit]
      exact Operation.apply_wellFormed consistent.formed allowed
    have number : system.rules.native.stats.rulesGeneration = generation := advanced.rulesGeneration
    refine consistent.work (by rw [here]; rfl) rfl _
      ⟨consistent.formed, fun _ => nofun, ⟨fun _ => ⟨allowed, rfl⟩, fun _ => rfl⟩, fun _ => ?_,
        fun failed => absurd rfl failed⟩
    refine ⟨rules.trans edit, advanced.opened, number.trans advanced.number, formed, number.symm, ?_⟩
    obtain ⟨built, active, source⟩ := advanced.active
    refine ⟨built, active, ?_⟩
    change BuiltFrom system.rules.runtime.currentRules
      system.rules.native.stats.rulesGeneration built
    rw [rules, number]
    exact source

/-- Every step of a goroutine keeps the system consistent. -/
theorem System.Consistent.callerStep (consistent : system.Consistent configured) {id : Nat}
    {caller : Caller} (here : system.callers id = caller)
    (step : CallerStep system id caller after) :
    after.Consistent configured := by
  have known := consistent.called id
  rw [here] at known
  cases step with
  | call operation =>
    exact consistent.roam (.called operation) system.log (by rw [here]; rfl) rfl
      (fun impossible => nomatch impossible) trivial consistent.replays consistent.sound
  | @refuse operation error failure =>
    have entry := Entry.sound_failure none error consistent.formed
      (.inl (Operation.prepare_error failure _))
    exact consistent.roam .idle _ (by rw [here]; rfl) rfl
      (fun impossible => nomatch impossible) trivial (consistent.replays.snoc rfl)
      fun other member => (List.mem_append.mp member).elim (consistent.sound other)
        fun new => List.mem_singleton.mp new ▸ entry
  | prepare success =>
    obtain ⟨rfl, valid⟩ := Operation.prepare_ok success
    exact consistent.roam (.waiting _) system.log (by rw [here]; rfl) rfl
      (fun impossible => nomatch impossible) valid consistent.replays consistent.sound
  | wait ready =>
    exact consistent.roam (.locking _) system.log (by rw [here]; rfl) rfl
      (fun _ => ready) known consistent.replays consistent.sound
  | lock free => exact consistent.acquire free here
  | reject failure => exact consistent.callerChecking here (.reject failure)
  | accept success => exact consistent.callerChecking here (.accept success)
  | closed shut =>
    refine consistent.work (by rw [here]; rfl) rfl system.rules ?_
    rw [Caller.Holds, known.1]
    exact Entry.sound_failure _ _ consistent.formed (.inr rfl)
  | enter opened => exact consistent.work (by rw [here]; rfl) rfl system.rules known
  | failed publication => exact consistent.callerCalling here (.failed publication)
  | published faults publication =>
    exact consistent.callerCalling here (.published faults publication)
  | store =>
    obtain ⟨allowed, edit, advanced, -, number⟩ := known
    exact consistent.work (by rw [here]; rfl) rfl _
      ⟨allowed, edit, ⟨advanced.number, advanced.opened, advanced.rulesGeneration,
        advanced.active⟩, rfl, number⟩
  | stamp => exact consistent.callerStamping here .stamp
  | unlock => exact consistent.leave here

/-- A successful configuration activates the first generation. -/
theorem nativeConfigureRules_ok {qsbrFault : Option QsbrFault} {faults : CallFaults}
    {rules : RuleSnapshot} {native result : DpState tables}
    (success : nativeConfigureRules qsbrFault faults (toNativeRules rules) native =
      (.ok (), result)) :
    result.stats.rulesGeneration = 1 ∧
      ∃ built, result.activeRules = some built ∧ BuiltFrom rules 1 built := by
  have failed (status : Int) (negative : status < 0) {state : DpState tables}
      (ends : (Binding.status "configure initial rules" status, state) = (.ok (), result)) :
      False := by
    have first := (Prod.mk.inj ends).1
    rw [Binding.status, if_neg negative.ne] at first
    cases first
  unfold nativeConfigureRules at success
  cases copied : Binding.newRuleArrays faults.arrays (toNativeRules rules) with
  | error error => simp [copied] at success
  | ok arrays =>
    simp only [copied, dpConfigureRules] at success
    by_cases uninitialized : (!native.initialized) = true
    · rw [if_pos uninitialized] at success
      exact (failed (-enodev) (by decide) success).elim
    · rw [if_neg uninitialized] at success
      by_cases already : (native.rulesConfigured || native.ready || native.running ||
          native.ran) = true
      · rw [if_pos already] at success
        exact (failed (-ealready) (by decide) success).elim
      · rw [if_neg already] at success
        by_cases registry : (dpQsbrCreate qsbrFault native).1 < 0
        · rw [if_pos registry] at success
          exact (failed _ registry success).elim
        · rw [if_neg registry] at success
          cases built : dpSnapshotBuild tables faults.build arrays.flows arrays.routes 1 with
          | error status =>
            rw [built] at success
            exact (failed _ (dpSnapshotBuild_fails _ _ _ _ _ built) success).elim
          | ok snapshot =>
            rw [built] at success
            obtain rfl := (Prod.mk.inj success).2
            exact ⟨rfl, snapshot, rfl, faults.arrays, faults.build, arrays, copied, built⟩

/-- The owner moves without touching the rules, the mutex or the ready channel. -/
theorem System.Consistent.ownerMove (consistent : system.Consistent configured) (owner : Owner)
    (inside : owner.inside = system.owner.inside)
    (early : owner.early = true → system.owner.early = true) (rules : RuleState tables)
    (same : rules.view = system.rules.view) (holds : owner.Holds configured system.stable) :
    ({ system with owner := owner, rules := rules } : System tables).Consistent configured :=
  { consistent with
    lock := consistent.lock.keep (System.inside_owner inside)
    early := fun now => consistent.early (early now)
    owned := holds
    called := fun id => same ▸ consistent.called id
    settled := fun free => same.trans (consistent.settled free) }

/-- No goroutine is inside the mutex beside the owner or before the runtime is ready. -/
theorem System.Consistent.alone (consistent : system.Consistent configured)
    (alone : system.owner.inside = true ∨ system.ready = false) (id : Nat) :
    (system.callers id).inside = false := by
  rcases alone with owned | unready
  · have outside : system.inside (.caller id) = false :=
      consistent.lock.outside (show system.inside .owner = true from owned)
        fun same => nomatch same
    exact outside
  · by_contra both
    have ready := consistent.pastReady id (by
      cases at_ : system.callers id <;> simp_all [Caller.inside, Caller.pastReady])
    exact nomatch unready.symm.trans ready

/-- The owner changes the rules while no goroutine is inside the mutex. -/
theorem System.Consistent.ownerSettle (consistent : system.Consistent configured) (owner : Owner)
    (alone : system.owner.inside = true ∨ system.ready = false)
    (inside : owner.inside = system.owner.inside)
    (early : owner.early = true → system.owner.early = true) (rules : RuleState tables)
    (formed : rules.runtime.currentRules = system.stable.currentRules)
    (opened : rules.runtime.rulesOpen = true → rules.view.Synced)
    (holds : owner.Holds configured rules.view) :
    ({ system.settle rules with owner := owner } : System tables).Consistent configured := by
  exact
    { lock := consistent.lock.keep (System.inside_owner inside)
      pastReady := consistent.pastReady
      early := fun now => consistent.early (early now)
      formed := by
        change rules.runtime.currentRules.WellFormed
        rw [formed]
        exact consistent.formed
      opened := opened
      owned := holds
      called := fun id => (consistent.called id).outside (consistent.alone alone id)
      settled := fun _ => rfl
      replays := by
        change Replays configured system.log rules.runtime.currentRules
        rw [formed]
        exact consistent.replays
      sound := consistent.sound }

/-- The owner takes the free mutex. -/
theorem System.Consistent.ownerAcquire (consistent : system.Consistent configured) {owner : Owner}
    (free : system.rulesMu = none) (inside : owner.inside = true)
    (early : owner.early = true → system.owner.early = true)
    (holds : owner.Holds configured system.stable) :
    ({ system with owner := owner, rulesMu := some .owner } : System tables).Consistent
      configured := by
  obtain ⟨-, -, same⟩ := consistent.vacant free
  have lock := consistent.lock
  rw [free] at lock
  have only (holder : Holder) (differs : holder ≠ .owner) :
      ({ system with owner := owner } : System tables).inside holder = system.inside holder := by
    cases holder with
    | owner => exact absurd rfl differs
    | caller => rfl
  exact { consistent with
    lock := lock.acquire only inside
    early := fun now => consistent.early (early now)
    owned := holds
    settled := fun _ => same }

/-- The owner releases the mutex. -/
theorem System.Consistent.ownerRelease (consistent : system.Consistent configured) {owner : Owner}
    (held : system.owner.inside = true) (outside : owner.inside = false)
    (early : owner.early = true → system.owner.early = true)
    (holds : owner.Holds configured system.stable) :
    ({ system with owner := owner, rulesMu := none } : System tables).Consistent configured := by
  have locked := (consistent.lock .owner).mp held
  have same : system.rules.view = system.stable :=
    consistent.settled fun id both => nomatch locked.symm.trans both
  have only (holder : Holder) (differs : holder ≠ .owner) :
      ({ system with owner := owner } : System tables).inside holder = system.inside holder := by
    cases holder with
    | owner => exact absurd rfl differs
    | caller => rfl
  exact { consistent with
    lock := consistent.lock.release (show system.inside .owner = true from held) only outside
    early := fun now => consistent.early (early now)
    owned := holds
    settled := fun _ => same }

/-- The rules are stable while no goroutine is inside the mutex. -/
theorem System.Consistent.quiet (consistent : system.Consistent configured)
    (alone : system.owner.inside = true ∨ system.ready = false) :
    system.rules.view = system.stable := by
  refine consistent.settled fun id held => ?_
  have inside := (consistent.lock (.caller id)).mpr held
  exact absurd ((consistent.alone alone id).symm.trans inside) (by decide)

/-- The configuration publishes the first generation, or the runtime never opens. -/
theorem System.Consistent.ownerInitialized (consistent : system.Consistent configured)
    (here : system.owner = .initialized) (step : OwnerStep configured system .initialized after) :
    after.Consistent configured := by
  have known := consistent.owned
  rw [here] at known
  cases step with
  | abort =>
    exact consistent.ownerMove _ (by rw [here]; rfl) (fun _ => by rw [here]; rfl) system.rules rfl
      fun _ => known.1
  | configure _ _ success =>
    have unready : system.ready = false := consistent.early (by rw [here]; rfl)
    have same := consistent.quiet (.inr unready)
    have closed : system.rules.runtime.rulesOpen = false :=
      (congrArg View.rulesOpen same).trans known.1
    have rules : system.rules.runtime.currentRules = system.stable.currentRules :=
      congrArg View.currentRules same
    exact consistent.ownerSettle _ (.inr unready) (by rw [here]; rfl) (fun _ => by rw [here]; rfl) _
      rules (fun opened => nomatch closed.symm.trans opened)
      ⟨closed, rules.trans known.2, nativeConfigureRules_ok success⟩
  | configureFailed failure =>
    have unready : system.ready = false := consistent.early (by rw [here]; rfl)
    have same := consistent.quiet (.inr unready)
    have closed : system.rules.runtime.rulesOpen = false :=
      (congrArg View.rulesOpen same).trans known.1
    exact consistent.ownerSettle _ (.inr unready) (by rw [here]; rfl) (fun _ => by rw [here]; rfl) _
      (congrArg View.currentRules same) (fun opened => nomatch closed.symm.trans opened)
      fun _ => closed

/-- The owner stamps the generation that it has configured. -/
theorem System.Consistent.ownerStamping (consistent : system.Consistent configured)
    (here : system.owner = .stamping) (step : OwnerStep configured system .stamping after) :
    after.Consistent configured := by
  have known := consistent.owned
  rw [here] at known
  cases step with
  | stamp =>
    have inside : system.owner.inside = true := by rw [here]; rfl
    have same := consistent.quiet (.inl inside)
    obtain ⟨closed, rules, generation, active⟩ := known
    rw [← same] at closed rules generation active
    exact consistent.ownerSettle _ (.inl inside) (by rw [here]; rfl) (fun _ => by rw [here]; rfl) _
      (congrArg View.currentRules same) (fun opened => nomatch closed.symm.trans opened)
      ⟨closed, rules, generation, rfl, active⟩

/-- The runtime opens with both sides in agreement. -/
theorem System.Consistent.ownerOpening (consistent : system.Consistent configured)
    (here : system.owner = .opening) (step : OwnerStep configured system .opening after) :
    after.Consistent configured := by
  have known := consistent.owned
  rw [here] at known
  cases step with
  | opens =>
    have inside : system.owner.inside = true := by rw [here]; rfl
    have same := consistent.quiet (.inl inside)
    obtain ⟨-, rules, generation, stamped, active⟩ := known
    have formed := consistent.formed
    rw [← same] at formed rules generation stamped active
    refine consistent.ownerSettle _ (.inl inside) (by rw [here]; rfl) (fun _ => by rw [here]; rfl) _
      (congrArg View.currentRules same) (fun _ => ⟨formed, stamped.trans generation.symm, ?_⟩)
      trivial
    obtain ⟨built, present, source⟩ := active
    refine ⟨built, present, ?_⟩
    change BuiltFrom system.rules.view.currentRules system.rules.view.rulesGeneration built
    rw [rules, generation]
    exact source

/-- Only the announcement lets the goroutines pass the ready channel. -/
theorem System.Consistent.ownerAnnouncing (consistent : system.Consistent configured) {initialized healthy : Bool}
    (here : system.owner = .announcing initialized healthy) (step : OwnerStep configured system (.announcing initialized healthy) after) :
    after.Consistent configured := by
  have known := consistent.owned
  rw [here] at known
  cases step with
  | announce =>
    have asleep : system.owner.inside = false := by rw [here]; rfl
    have next : ∀ owner, owner = (if healthy then Owner.launching else if initialized then .closing
        else .done) → owner.inside = false ∧ owner.early = false ∧
          owner.Holds configured system.stable := by
      rintro owner rfl
      cases healthy <;> cases initialized <;> exact ⟨rfl, rfl, trivial⟩
    obtain ⟨outside, late, holds⟩ := next _ rfl
    exact { consistent with
      lock := consistent.lock.keep (System.inside_owner (outside.trans asleep.symm))
      pastReady := fun _ _ => rfl
      early := fun now => absurd (late.symm.trans now) (by decide)
      owned := holds }

/-- The teardown happens after the runtime has been shut. -/
theorem System.Consistent.ownerTearing (consistent : system.Consistent configured)
    (here : system.owner = .tearing) (step : OwnerStep configured system .tearing after) :
    after.Consistent configured := by
  have known := consistent.owned
  rw [here] at known
  cases step with
  | teardownBusy =>
    exact consistent.ownerMove .releasing (by rw [here]; rfl) (fun now => nomatch now)
      system.rules rfl known
  | teardown complete =>
    have inside : system.owner.inside = true := by rw [here]; rfl
    have same := consistent.quiet (.inl inside)
    have closed : system.rules.runtime.rulesOpen = false :=
      (congrArg View.rulesOpen same).trans known
    have next : ∀ owner, owner = (if complete then Owner.cleaning else .releasing) →
        owner.inside = true ∧ owner.early = false ∧
          ∀ view : View tables, view.rulesOpen = false → owner.Holds configured view := by
      rintro owner rfl
      cases complete <;> exact ⟨rfl, rfl, fun _ shut => shut⟩
    obtain ⟨stays, late, holds⟩ := next _ rfl
    exact consistent.ownerSettle _ (.inl inside) (stays.trans inside.symm)
      (fun now => absurd (late.symm.trans now) (by decide)) _ (congrArg View.currentRules same)
      (fun opened => nomatch closed.symm.trans opened) (holds _ closed)

/-- Every step of the owner keeps the system consistent. -/
theorem System.Consistent.ownerStep (consistent : system.Consistent configured) {owner : Owner}
    (here : system.owner = owner) (step : OwnerStep configured system owner after) :
    after.Consistent configured := by
  have known := consistent.owned
  rw [here] at known
  cases step with
  | init => exact consistent.ownerMove _ (by rw [here]; rfl) (fun _ => by rw [here]; rfl) _ rfl known
  | initFailed =>
    exact consistent.ownerMove _ (by rw [here]; rfl) (fun _ => by rw [here]; rfl) system.rules rfl
      fun _ => known.1
  | abort => exact consistent.ownerInitialized here .abort
  | configure qsbrFault faults success =>
    exact consistent.ownerInitialized here (.configure qsbrFault faults success)
  | configureFailed failure => exact consistent.ownerInitialized here (.configureFailed failure)
  | setup => exact consistent.ownerMove _ (by rw [here]; rfl) (fun _ => by rw [here]; rfl) _ rfl known
  | setupFailed =>
    exact consistent.ownerMove _ (by rw [here]; rfl) (fun _ => by rw [here]; rfl) system.rules rfl
      fun _ => known.1
  | lock free => exact consistent.ownerAcquire free rfl (fun _ => by rw [here]; rfl) known
  | stamp => exact consistent.ownerStamping here .stamp
  | opens => exact consistent.ownerOpening here .opens
  | unlock =>
    exact consistent.ownerRelease (by rw [here]; rfl) rfl (fun _ => by rw [here]; rfl) nofun
  | announce => exact consistent.ownerAnnouncing here .announce
  | run =>
    exact consistent.ownerMove .running (by rw [here]; rfl) (fun now => nomatch now) _ rfl trivial
  | finished =>
    exact consistent.ownerMove .closing (by rw [here]; rfl) (fun now => nomatch now) _ rfl trivial
  | lockAgain free => exact consistent.ownerAcquire free rfl (fun now => nomatch now) trivial
  | shut =>
    have inside : system.owner.inside = true := by rw [here]; rfl
    exact consistent.ownerSettle .tearing (.inl inside) (by rw [here]; rfl)
      (fun now => nomatch now) _ (congrArg View.currentRules (consistent.quiet (.inl inside)))
      (fun opened => nomatch opened) rfl
  | teardownBusy => exact consistent.ownerTearing here .teardownBusy
  | teardown complete => exact consistent.ownerTearing here (.teardown complete)
  | cleanup complete =>
    exact consistent.ownerMove .releasing (by rw [here]; rfl) (fun now => nomatch now)
      _ rfl known
  | release => exact consistent.ownerRelease (by rw [here]; rfl) rfl (fun now => nomatch now) trivial

end Steps

end FlowRouter.Control
