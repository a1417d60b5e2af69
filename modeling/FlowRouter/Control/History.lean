import FlowRouter.Control.Consistency
import FlowRouter.Control.Edits

namespace FlowRouter.Control
open Checks Native Transition

variable {tables : RteTables}

/-- A rule set is a pair of maps from keys to actions. -/
@[ext] structure RuleMap where
  flows : FlowKey → Option RuleAction
  routes : RouteKey → Option RuleAction

def RuleSnapshot.toMap (snapshot : RuleSnapshot) : RuleMap where
  flows key := (KeyedList.index flowRuleKey snapshot.flows key).map (·.action)
  routes key := (KeyedList.index routeRuleKey snapshot.routes key).map (·.action)

/-- This is what an operation does to the two maps. -/
def Operation.applyMap (map : RuleMap) : Operation → RuleMap
  | .replaceRules snapshot => snapshot.toMap
  | .addFlow rule =>
      { map with flows := Function.update map.flows (flowRuleKey rule) (some rule.action) }
  | .deleteFlow key => { map with flows := Function.update map.flows key none }
  | .addRoute rule =>
      { map with routes := Function.update map.routes (routeRuleKey rule) (some rule.action) }
  | .deleteRoute key => { map with routes := Function.update map.routes key none }

/-- This is when an operation fails before its publication: an added key exists or the result is
invalid, a deleted key is missing, or a replacement is invalid. -/
def Operation.Rejected (current : RuleSnapshot) : Operation → Prop
  | .replaceRules snapshot => validateRules snapshot ≠ .ok ()
  | .addFlow rule =>
      current.toMap.flows (flowRuleKey rule) ≠ none ∨
        validateRules (current.withFlow rule) ≠ .ok ()
  | .deleteFlow key => current.toMap.flows key = none
  | .addRoute rule =>
      current.toMap.routes (routeRuleKey rule) ≠ none ∨
        validateRules (current.withRoute rule) ≠ .ok ()
  | .deleteRoute key => current.toMap.routes key = none

theorem RuleSnapshot.toMap_flows_none {snapshot : RuleSnapshot} {key : FlowKey} :
    snapshot.toMap.flows key = none ↔ ∀ rule ∈ snapshot.flows, flowRuleKey rule ≠ key := by
  rw [← KeyedList.index_eq_none]
  exact Option.map_eq_none_iff

theorem RuleSnapshot.toMap_routes_none {snapshot : RuleSnapshot} {key : RouteKey} :
    snapshot.toMap.routes key = none ↔ ∀ rule ∈ snapshot.routes, routeRuleKey rule ≠ key := by
  rw [← KeyedList.index_eq_none]
  exact Option.map_eq_none_iff

/-- The refusal of the list operations is the failure of the map operations. -/
theorem Operation.refused_iff (current : RuleSnapshot) (operation : Operation) :
    operation.Refused current ↔ operation.Rejected current := by
  cases operation with
  | replaceRules snapshot => exact not_congr (validateRules_ok snapshot).symm
  | addFlow rule =>
    refine or_congr ?_ (not_congr (validateRules_ok _).symm)
    rw [ne_eq, RuleSnapshot.toMap_flows_none]
    simp
  | deleteFlow key => exact RuleSnapshot.toMap_flows_none.symm
  | addRoute rule =>
    refine or_congr ?_ (not_congr (validateRules_ok _).symm)
    rw [ne_eq, RuleSnapshot.toMap_routes_none]
    simp
  | deleteRoute key => exact RuleSnapshot.toMap_routes_none.symm

/-- The edited list means the edited map. -/
theorem Operation.toMap_apply {current : RuleSnapshot} {operation : Operation}
    (allowed : ¬ operation.Refused current) :
    (operation.apply current).toMap = operation.applyMap current.toMap := by
  have updated {K A B : Type} [DecidableEq K] (convert : A → B) (map : K → Option A) (key : K)
      (value : Option A) : (fun other => (Function.update map key value other).map convert) =
        Function.update (fun other => (map other).map convert) key (value.map convert) := by
    funext other
    by_cases same : other = key
    · simp [same]
    · simp [same]
  cases operation with
  | replaceRules snapshot => rfl
  | addFlow rule =>
    have fresh : ∀ existing ∈ current.flows, flowRuleKey existing ≠ flowRuleKey rule := by
      simpa using (not_or.mp allowed).1
    refine RuleMap.ext ?_ rfl
    simp only [RuleSnapshot.toMap, Operation.apply, Operation.applyMap, RuleSnapshot.withFlow,
      KeyedList.index_append fresh, updated]
    rfl
  | deleteFlow key =>
    refine RuleMap.ext ?_ rfl
    simp only [RuleSnapshot.toMap, Operation.apply, Operation.applyMap, RuleSnapshot.withoutFlow,
      KeyedList.index_filter, updated]
    rfl
  | addRoute rule =>
    have fresh : ∀ existing ∈ current.routes, routeRuleKey existing ≠ routeRuleKey rule := by
      simpa using (not_or.mp allowed).1
    refine RuleMap.ext rfl ?_
    simp only [RuleSnapshot.toMap, Operation.apply, Operation.applyMap, RuleSnapshot.withRoute,
      KeyedList.index_append fresh, updated]
    rfl
  | deleteRoute key =>
    refine RuleMap.ext rfl ?_
    simp only [RuleSnapshot.toMap, Operation.apply, Operation.applyMap, RuleSnapshot.withoutRoute,
      KeyedList.index_filter, updated]
    rfl

def Entry.succeeded (entry : Entry tables) : Bool := entry.result matches .ok ()

theorem Entry.succeeded_iff {entry : Entry tables} :
    entry.succeeded = true ↔ entry.result = .ok () := by
  unfold Entry.succeeded
  cases entry.result with
  | error error => simp
  | ok value => simp

/-- The successful operations of a history are applied one after the other. -/
def replay (log : List (Entry tables)) (map : RuleMap) : RuleMap :=
  (log.filter Entry.succeeded).foldl (fun map entry => entry.operation.applyMap map) map

/-- A sound history ends in the map that its successful operations produce. -/
theorem Replays.toMap {start finish : RuleSnapshot} {log : List (Entry tables)}
    (replays : Replays start log finish) (sound : ∀ entry ∈ log, entry.Sound) :
    finish.toMap = replay log start.toMap := by
  induction log generalizing start with
  | nil => rw [replay, ← show start = finish from replays]; rfl
  | cons entry rest ih =>
    obtain ⟨begins, tail⟩ := replays
    have first := sound entry (by simp)
    rw [ih tail fun other member => sound other (List.mem_cons_of_mem _ member), replay, replay]
    by_cases done : entry.result = .ok ()
    · have allowed := (first.outcome.mp done).1
      rw [List.filter_cons_of_pos (Entry.succeeded_iff.mpr done), List.foldl_cons,
        (first.success done).1, Operation.toMap_apply allowed, begins]
    · have failed : ¬ entry.succeeded = true := mt Entry.succeeded_iff.mp done
      rw [List.filter_cons_of_neg failed, first.failure done, begins]

/-- The invariant holds in every reachable state. -/
theorem System.reachable_consistent {rules : RuleSnapshot} (formed : rules.WellFormed)
    {system : System tables}
    (reachable : Reachable (· = System.initial tables rules) (Step rules) system) :
    system.Consistent rules := by
  refine reachable.invariant _ (fun start first => ?_) fun before label after consistent step => ?_
  · rw [first]
    exact System.initial_consistent formed
  · cases step with
    | caller _ step => exact consistent.callerStep rfl step
    | owner step => exact consistent.ownerStep rfl step

/-- A free mutex of an open runtime shows both sides in agreement. -/
theorem System.Consistent.agreement {rules : RuleSnapshot} {system : System tables}
    (consistent : system.Consistent rules) (free : system.rulesMu = none)
    (opened : system.rules.runtime.rulesOpen = true) : system.rules.view.Synced := by
  obtain ⟨-, -, same⟩ := consistent.vacant free
  rw [same]
  exact consistent.opened ((congrArg View.rulesOpen same).symm.trans opened)

/-- A free mutex shows the rules that the finished calls lead to. -/
theorem System.Consistent.replayed {rules : RuleSnapshot} {system : System tables}
    (consistent : system.Consistent rules) (free : system.rulesMu = none) :
    Replays rules system.log system.rules.runtime.currentRules ∧
      system.rules.runtime.currentRules.toMap = replay system.log rules.toMap := by
  obtain ⟨-, -, same⟩ := consistent.vacant free
  have replays := consistent.replays
  rw [← same] at replays
  exact ⟨replays, replays.toMap consistent.sound⟩

/-- A sound call fails exactly when it is rejected or its publication fails. -/
theorem Entry.Sound.failed_iff {entry : Entry tables} (sound : entry.Sound) :
    entry.result ≠ .ok () ↔
      entry.operation.Rejected entry.before.currentRules ∨ entry.published = some false := by
  rw [ne_eq, sound.outcome, ← Operation.refused_iff]
  constructor
  · intro failed
    by_cases refused : entry.operation.Refused entry.before.currentRules
    · exact .inl refused
    · right
      cases published : entry.published with
      | none => exact absurd published (sound.reached refused)
      | some ok =>
        cases ok with
        | true => exact absurd ⟨refused, published⟩ failed
        | false => rfl
  · rintro (refused | failed) ⟨allowed, done⟩
    · exact allowed refused
    · exact nomatch failed.symm.trans done

end FlowRouter.Control
