import FlowRouter.Control.Candidates

namespace FlowRouter.Control
open Checks Native
open Native.Binding (GoError)

variable {tables : RteTables}

/-- The rules went through the builder and its conversions to become the snapshot. -/
def BuiltFrom (rules : RuleSnapshot) (generation : Nat) (built : DpRuleSnapshot tables) : Prop :=
  ∃ arrayFaults faults, Builds tables arrayFaults faults rules generation built

/-- The snapshot stores exactly the records of these rules and answers every packet as they decide,
whatever exact tables it was built with. -/
def Carries (rules : RuleSnapshot) (generation : Nat) (built : DpRuleSnapshot tables) : Prop :=
  ∀ views : TableViews tables, views.ExactHash → views.ExactLpm →
    built.Holds views (rules.flows.map FlowRule.record) (rules.routes.map RouteRule.record) ∧
      built.generation = generation ∧
      ∀ info, dpLookupPacket info (some built) = (rules.decide info).answer

theorem BuiltFrom.carries {rules : RuleSnapshot} {generation : Nat} {built : DpRuleSnapshot tables}
    (source : BuiltFrom rules generation built) : Carries rules generation built := by
  obtain ⟨arrayFaults, faults, builds⟩ := source
  intro views hash lpm
  obtain ⟨-, holds, number⟩ := builds.holds hash lpm
  exact ⟨holds, number, builds.lookup hash lpm⟩

/-- Two native states agree in everything that the lifecycle functions decide. -/
structure SameLifecycle (first second : DpState tables) : Prop where
  initialized : first.initialized = second.initialized
  rulesConfigured : first.rulesConfigured = second.rulesConfigured
  rulesQsbr : first.rulesQsbr = second.rulesQsbr
  ready : first.ready = second.ready
  running : first.running = second.running
  ran : first.ran = second.ran

/-- A failed publication leaves the active snapshot and its generation alone. -/
structure Unpublished (before after : DpState tables) : Prop where
  lifecycle : SameLifecycle after before
  activeRules : after.activeRules = before.activeRules
  generation : after.stats.rulesGeneration = before.stats.rulesGeneration

/-- A successful publication activates the snapshot of the next generation. -/
structure Published (rules : RuleSnapshot) (before after : DpState tables) : Prop where
  lifecycle : SameLifecycle after before
  generation : after.stats.rulesGeneration = before.stats.rulesGeneration + 1
  active : ∃ built, after.activeRules = some built ∧
    BuiltFrom rules (before.stats.rulesGeneration + 1) built

theorem SameLifecycle.refl (native : DpState tables) : SameLifecycle native native :=
  ⟨rfl, rfl, rfl, rfl, rfl, rfl⟩

/-- These are the two ways in which the native publication ends. -/
theorem nativePublishRules_cases (faults : CallFaults) (rules : RuleSnapshot)
    (native : DpState tables) :
    (∃ error after, nativePublishRules faults (toNativeRules rules) native = (.error error, after) ∧
      Unpublished native after) ∨
    (∃ after, nativePublishRules faults (toNativeRules rules) native =
      (.ok (native.stats.rulesGeneration + 1), after) ∧ Published rules native after) := by
  unfold nativePublishRules
  cases copied : Binding.newRuleArrays faults.arrays (toNativeRules rules) with
  | error error => exact .inl ⟨error, native, rfl, .refl native, rfl, rfl⟩
  | ok arrays =>
    simp only [dpPublishRules]
    by_cases unavailable : (!native.initialized || !native.rulesConfigured || !native.rulesQsbr ||
        native.activeRules.isNone) = true
    · rw [if_pos unavailable]
      exact .inl ⟨_, native, rfl, .refl native, rfl, rfl⟩
    · rw [if_neg unavailable]
      cases success : dpSnapshotBuild tables faults.build arrays.flows arrays.routes
          (native.stats.rulesGeneration + 1) with
      | error status =>
        have negative := dpSnapshotBuild_fails faults.build arrays.flows arrays.routes _ _ success
        have failed : Binding.status "publish rules" status =
            .error (.status "publish rules" status) := by
          rw [Binding.status, if_neg negative.ne]
          rfl
        let counted := { native with stats :=
          { native.stats with rulesPublishFailed := native.stats.rulesPublishFailed + 1 } }
        refine .inl ⟨.status "publish rules" status, counted, ?_, ⟨rfl, rfl, rfl, rfl, rfl, rfl⟩,
          rfl, rfl⟩
        simp only [failed]
        rfl
      | ok built =>
        exact .inr ⟨_, rfl, ⟨rfl, rfl, rfl, rfl, rfl, rfl⟩, dpSnapshotFree_generation _ _ _ _,
          built, rfl, faults.arrays, faults.build, arrays, copied, success⟩

/-- Both sides hold the same rules under the same generation. -/
structure RuleState.Synced (state : RuleState tables) : Prop where
  formed : state.runtime.currentRules.WellFormed
  generation : state.runtime.generation = state.native.stats.rulesGeneration
  active : ∃ built, state.native.activeRules = some built ∧
    BuiltFrom state.runtime.currentRules state.native.stats.rulesGeneration built

/-- A whole method call either fails and leaves both sides alone, or it publishes its edit. -/
theorem Operation.run_cases (faults : CallFaults) (operation : Operation)
    (state : RuleState tables) (formed : state.runtime.currentRules.WellFormed) :
    (∃ error after, operation.run faults state = (.error error, after) ∧
      after.runtime = state.runtime ∧ Unpublished state.native after.native) ∨
    (∃ native, operation.run faults state =
        (.ok (), ⟨⟨operation.apply state.runtime.currentRules,
          state.native.stats.rulesGeneration + 1, state.runtime.rulesOpen⟩, native⟩) ∧
      ¬ operation.Refused state.runtime.currentRules ∧
      Published (operation.apply state.runtime.currentRules) state.native native) := by
  unfold Operation.run
  cases chosen : operation.candidate state.runtime.currentRules with
  | error error => exact .inl ⟨error, state, rfl, rfl, .refl _, rfl, rfl⟩
  | ok candidate =>
    obtain ⟨allowed, rfl⟩ := (Operation.candidate_ok formed operation).mp chosen
    simp only [publishSnapshotLocked]
    by_cases closed : (!state.runtime.rulesOpen) = true
    · rw [if_pos closed]
      exact .inl ⟨_, state, rfl, rfl, .refl _, rfl, rfl⟩
    · rw [if_neg closed]
      obtain ⟨error, after, failed, unpublished⟩ | ⟨after, done, published⟩ :=
        nativePublishRules_cases faults (operation.apply state.runtime.currentRules) state.native
      · rw [failed]
        exact .inl ⟨error, _, rfl, rfl, unpublished⟩
      · rw [done]
        exact .inr ⟨after, rfl, allowed, published⟩

/-- A method call keeps both sides in agreement. -/
theorem RuleState.Synced.run {state : RuleState tables} (synced : state.Synced)
    (faults : CallFaults) (operation : Operation) : (operation.run faults state).2.Synced := by
  obtain ⟨error, after, failed, same, unpublished⟩ | ⟨native, done, allowed, published⟩ :=
    operation.run_cases faults state synced.formed
  · rw [failed]
    refine ⟨?_, ?_, ?_⟩
    · rw [same]
      exact synced.formed
    · rw [same, unpublished.generation]
      exact synced.generation
    · rw [same, unpublished.generation, unpublished.activeRules]
      exact synced.active
  · rw [done]
    refine ⟨Operation.apply_wellFormed synced.formed allowed, published.generation.symm, ?_⟩
    obtain ⟨built, active, source⟩ := published.active
    exact ⟨built, active, published.generation ▸ source⟩

end FlowRouter.Control
