import FlowRouter.Native.Snapshot

namespace FlowRouter.Native
open Checks

/-- These are the fields of `dp_stats` that the rule functions write. The counters count
publications, so no run exhausts their sixty-four bits. -/
structure DpRuleStats where
  rulesGeneration : Nat
  rulesPublishSuccess : Nat
  rulesPublishFailed : Nat
  rulesReclaimed : Nat
  flowTableFreed : Bool
  routeTableFreed : Bool
  actionStoreFreed : Bool
  snapshotFreed : Bool
  qsbrFreed : Bool
  deriving DecidableEq, Repr

def DpRuleStats.zero : DpRuleStats := ⟨0, 0, 0, 0, false, false, false, false, false⟩

variable {tables : RteTables}

/-- These are the fields of `dp_state` that the rule functions read and write. -/
structure DpState (tables : RteTables) where
  initialized : Bool
  rulesConfigured : Bool
  ready : Bool
  running : Bool
  ran : Bool
  activeRules : Option (DpRuleSnapshot tables)
  rulesQsbr : Bool
  stats : DpRuleStats

def DpState.initial (tables : RteTables) : DpState tables :=
  ⟨false, false, false, false, false, none, false, .zero⟩

/-- The owned resources of a snapshot are freed with it and recorded on request. -/
def dpSnapshotFree (snapshot : Option (DpRuleSnapshot tables))
    (reclaimed recordResourceStats : Bool) (stats : DpRuleStats) : DpRuleStats :=
  match snapshot with
  | none => stats
  | some snapshot =>
      { stats with
        flowTableFreed :=
          stats.flowTableFreed || (snapshot.flowTable.isSome && recordResourceStats)
        routeTableFreed :=
          stats.routeTableFreed || (snapshot.routeTable.isSome && recordResourceStats)
        actionStoreFreed :=
          stats.actionStoreFreed || (!snapshot.actions.isEmpty && recordResourceStats)
        snapshotFreed := stats.snapshotFreed || recordResourceStats
        rulesReclaimed := stats.rulesReclaimed + if reclaimed then 1 else 0 }

/-- Creating the reader registry fails in one of three library calls. -/
inductive QsbrFault where
  | memsize (rteErrno : Nat)
  | allocation (rteErrno : Nat)
  | init (rteErrno : Nat)

def dpQsbrCreate (fault : Option QsbrFault) (state : DpState tables) : Int × DpState tables :=
  if state.rulesQsbr then (0, state)
  else match fault with
    | some (.memsize rteErrno) => (errnoOr rteErrno einval, state)
    | some (.allocation rteErrno) => (errnoOr rteErrno enomem, state)
    | some (.init rteErrno) => (errnoOr rteErrno einval, state)
    | none => (0, { state with rulesQsbr := true })

/-- The owner publishes the first generation before any worker runs. -/
def dpConfigureRules (qsbrFault : Option QsbrFault) (faults : BuildFaults)
    (flows : RuleArray DpFlowRule) (routes : RuleArray DpRouteRule) (state : DpState tables) :
    Int × DpState tables :=
  if !state.initialized then (-enodev, state)
  else if state.rulesConfigured || state.ready || state.running || state.ran then
    (-ealready, state)
  else
    let (status, state) := dpQsbrCreate qsbrFault state
    if status < 0 then (status, state)
    else match dpSnapshotBuild tables faults flows routes 1 with
      | .error status =>
          (status, { state with stats :=
            { state.stats with rulesPublishFailed := state.stats.rulesPublishFailed + 1 } })
      | .ok snapshot =>
          (0, { state with
            activeRules := some snapshot
            rulesConfigured := true
            stats := { state.stats with rulesGeneration := 1, rulesPublishSuccess := 1 } })

/-- This is the effect of one publication under the writer lock. The second component is the
value behind the generation pointer. -/
def dpPublishRules (faults : BuildFaults) (flows : RuleArray DpFlowRule)
    (routes : RuleArray DpRouteRule) (generation : Option Nat) (state : DpState tables) :
    Int × Option Nat × DpState tables :=
  match generation with
  | none => (-einval, none, state)
  | some generation =>
      if !state.initialized || !state.rulesConfigured || !state.rulesQsbr ||
          state.activeRules.isNone then
        (-enodev, some generation, state)
      else
        let nextGeneration := state.stats.rulesGeneration + 1
        match dpSnapshotBuild tables faults flows routes nextGeneration with
        | .error status =>
            (status, some generation, { state with stats :=
              { state.stats with rulesPublishFailed := state.stats.rulesPublishFailed + 1 } })
        | .ok newSnapshot =>
            let oldSnapshot := state.activeRules
            let stats :=
              { state.stats with
                rulesGeneration := nextGeneration
                rulesPublishSuccess := state.stats.rulesPublishSuccess + 1 }
            (0, some nextGeneration,
              { state with
                activeRules := some newSnapshot
                stats := dpSnapshotFree oldSnapshot true true stats })

/-- The last snapshot and the reader registry are freed without a grace period. -/
def dpRulesTeardown (state : DpState tables) : DpState tables :=
  let stats := dpSnapshotFree state.activeRules false true state.stats
  { state with
    activeRules := none
    rulesQsbr := false
    rulesConfigured := false
    stats := { stats with qsbrFreed := stats.qsbrFreed || state.rulesQsbr } }

/-- Every status that leaves a build through its `fail` label is negative. -/
theorem dpSnapshotBuild_fails (faults : BuildFaults) (flows : RuleArray DpFlowRule)
    (routes : RuleArray DpRouteRule) (generation : Nat) :
    Fails (· < 0) (dpSnapshotBuild tables faults flows routes generation) := by
  have allocation (fault : Option Nat) : Fails (· < 0) (allocated fault) := by
    cases fault with
    | none => exact Fails.ok
    | some rteErrno => exact Fails.error (errnoOr_neg rteErrno enomem_pos)
  have store (count : Nat) (fault : Option Nat) :
      Fails (· < 0) (unlessZero count (allocated fault)) :=
    Fails.ite (allocation fault) Fails.ok
  have checks (status : Int) : Fails (· < 0) (checked status) := Fails.rejectIf id
  have flowLoop (rules : List DpFlowRule) (table : tables.Hash) (actions : List DpRuleAction)
      (index : Nat) : Fails (· < 0) (addFlows table actions index rules) := by
    induction rules generalizing table actions index with
    | nil => exact Fails.ok
    | cons rule rest ih =>
      exact (Fails.rejectIf fun _ => by decide).bind fun _ => (checks _).bind fun _ =>
        (Fails.rejectIf fun _ => by decide).bind fun _ => (checks _).bind fun _ => ih _ _ _
  have routeLoop (rules : List DpRouteRule) (table : tables.Lpm) (actions : List DpRuleAction)
      (index : Nat) : Fails (· < 0) (addRoutes table actions index rules) := by
    induction rules generalizing table actions index with
    | nil => exact Fails.ok
    | cons rule rest ih =>
      exact (Fails.rejectIf fun _ => by decide).bind fun _ =>
        (Fails.rejectIf fun _ => by decide).bind fun _ => (checks _).bind fun _ =>
        (Fails.rejectIf fun _ => by decide).bind fun _ => (checks _).bind fun _ =>
        (checks _).bind fun _ => ih _ _ _
  have stage {T : Type} (table : Option T) (actions : List DpRuleAction)
      {loop : T → Except Int (T × List DpRuleAction)} (run : ∀ table, Fails (· < 0) (loop table)) :
      Fails (· < 0) (withTable table actions loop) := by
    cases table with
    | none => exact Fails.ok
    | some table => exact (run table).bind fun _ => Fails.ok
  exact (Fails.rejectIf fun _ => by decide).bind fun _ =>
    (Fails.rejectIf fun _ => by decide).bind fun _ => (allocation _).bind fun _ =>
    (store _ _).bind fun _ => (store _ _).bind fun _ => (store _ _).bind fun _ =>
    (stage _ _ fun table => flowLoop _ table _ _).bind fun _ =>
    (stage _ _ fun table => routeLoop _ table _ _).bind fun _ => Fails.ok

/-- Freeing a snapshot changes no generation. -/
@[simp] theorem dpSnapshotFree_generation (snapshot : Option (DpRuleSnapshot tables))
    (reclaimed recordResourceStats : Bool) (stats : DpRuleStats) :
    (dpSnapshotFree snapshot reclaimed recordResourceStats stats).rulesGeneration =
      stats.rulesGeneration := by
  cases snapshot with
  | none => rfl
  | some snapshot => rfl

end FlowRouter.Native
