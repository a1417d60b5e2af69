import FlowRouter.Control.Meaning
import FlowRouter.Control.Runtime

namespace FlowRouter.Control
open Checks Native LongestMatch
open Native.Binding (GoError)

theorem cloneRules_eq (snapshot : RuleSnapshot) : cloneRules snapshot = snapshot := rfl

theorem deleteAt_eq {A : Type} (items : List A) (index : Nat) :
    deleteAt items index = items.eraseIdx index :=
  (List.eraseIdx_eq_take_drop_succ items index).symm

/-- Removing the key of a flow leaves the rules without that key. -/
def RuleSnapshot.withoutFlow (snapshot : RuleSnapshot) (key : FlowKey) : RuleSnapshot :=
  { snapshot with flows := snapshot.flows.filter fun rule => flowRuleKey rule ≠ key }

def RuleSnapshot.withoutRoute (snapshot : RuleSnapshot) (key : RouteKey) : RuleSnapshot :=
  { snapshot with routes := snapshot.routes.filter fun rule => routeRuleKey rule ≠ key }

def RuleSnapshot.withFlow (snapshot : RuleSnapshot) (rule : FlowRule) : RuleSnapshot :=
  { snapshot with flows := snapshot.flows ++ [rule] }

def RuleSnapshot.withRoute (snapshot : RuleSnapshot) (rule : RouteRule) : RuleSnapshot :=
  { snapshot with routes := snapshot.routes ++ [rule] }

/-- A smaller rule set is well formed. -/
theorem RuleSnapshot.WellFormed.sublist {snapshot smaller : RuleSnapshot}
    (formed : snapshot.WellFormed) (flows : smaller.flows.Sublist snapshot.flows)
    (routes : smaller.routes.Sublist snapshot.routes) : smaller.WellFormed where
  flowLimit := flows.length_le.trans formed.flowLimit
  routeLimit := routes.length_le.trans formed.routeLimit
  flowProto rule member := formed.flowProto rule (flows.subset member)
  flowAction rule member := formed.flowAction rule (flows.subset member)
  routePrefix rule member := formed.routePrefix rule (routes.subset member)
  routeAction rule member := formed.routeAction rule (routes.subset member)
  flowDistinct := formed.flowDistinct.sublist (flows.map _)
  routeDistinct := formed.routeDistinct.sublist (routes.map _)

section Candidates

variable {current candidate : RuleSnapshot}

theorem replaceCandidate_ok {snapshot : RuleSnapshot} :
    replaceCandidate snapshot = .ok candidate ↔ snapshot.WellFormed ∧ candidate = snapshot := by
  rw [replaceCandidate, guard_ok, wrapError_ok, cloneRules_eq, validateRules_ok]
  exact and_congr_right fun _ =>
    ⟨fun same => (Except.ok.inj same).symm, fun same => by rw [same]; rfl⟩

theorem addFlowCandidate_ok {rule : FlowRule} :
    addFlowCandidate current rule = .ok candidate ↔
      (∀ existing ∈ current.flows, flowRuleKey existing ≠ flowRuleKey rule) ∧
      (current.withFlow rule).WellFormed ∧ candidate = current.withFlow rule := by
  rw [addFlowCandidate, guard_ok, guard_ok, rejectIf_ok, wrapError_ok, cloneRules_eq,
    validateRules_ok]
  refine and_congr (by simp) (and_congr_right fun _ => ?_)
  exact ⟨fun same => (Except.ok.inj same).symm, fun same => by rw [same]; rfl⟩

theorem addRouteCandidate_ok {rule : RouteRule} :
    addRouteCandidate current rule = .ok candidate ↔
      (∀ existing ∈ current.routes, routeRuleKey existing ≠ routeRuleKey rule) ∧
      (current.withRoute rule).WellFormed ∧ candidate = current.withRoute rule := by
  rw [addRouteCandidate, guard_ok, guard_ok, rejectIf_ok, wrapError_ok, cloneRules_eq,
    validateRules_ok]
  refine and_congr (by simp) (and_congr_right fun _ => ?_)
  exact ⟨fun same => (Except.ok.inj same).symm, fun same => by rw [same]; rfl⟩

theorem deleteFlowCandidate_ok (formed : current.WellFormed) {key : FlowKey} :
    deleteFlowCandidate current key = .ok candidate ↔
      (∃ existing ∈ current.flows, flowRuleKey existing = key) ∧
      candidate = current.withoutFlow key := by
  simp only [deleteFlowCandidate, cloneRules_eq, deleteAt_eq]
  cases found : current.flows.findIdx? fun existing => flowRuleKey existing = key with
  | none =>
    have missing := List.findIdx?_eq_none_iff.mp found
    constructor
    · exact fun impossible => nomatch impossible
    · rintro ⟨⟨existing, member, same⟩, -⟩
      exact absurd same (by simpa using missing existing member)
  | some index =>
    have present : ∃ existing ∈ current.flows, flowRuleKey existing = key := by
      obtain ⟨inside, hit, -⟩ := List.findIdx?_eq_some_iff_getElem.mp found
      exact ⟨_, List.getElem_mem inside, by simpa using hit⟩
    dsimp only
    rw [KeyedList.eraseIdx_eq_filter formed.flowDistinct found, and_iff_right present]
    exact ⟨fun same => (Except.ok.inj same).symm, fun same => by rw [same]; rfl⟩

theorem deleteRouteCandidate_ok (formed : current.WellFormed) {key : RouteKey} :
    deleteRouteCandidate current key = .ok candidate ↔
      (∃ existing ∈ current.routes, routeRuleKey existing = key) ∧
      candidate = current.withoutRoute key := by
  simp only [deleteRouteCandidate, cloneRules_eq, deleteAt_eq]
  cases found : current.routes.findIdx? fun existing => routeRuleKey existing = key with
  | none =>
    have missing := List.findIdx?_eq_none_iff.mp found
    constructor
    · exact fun impossible => nomatch impossible
    · rintro ⟨⟨existing, member, same⟩, -⟩
      exact absurd same (by simpa using missing existing member)
  | some index =>
    have present : ∃ existing ∈ current.routes, routeRuleKey existing = key := by
      obtain ⟨inside, hit, -⟩ := List.findIdx?_eq_some_iff_getElem.mp found
      exact ⟨_, List.getElem_mem inside, by simpa using hit⟩
    dsimp only
    rw [KeyedList.eraseIdx_eq_filter formed.routeDistinct found, and_iff_right present]
    exact ⟨fun same => (Except.ok.inj same).symm, fun same => by rw [same]; rfl⟩

/-- This is when a method refuses to go on to the publication. -/
def Operation.Refused (current : RuleSnapshot) : Operation → Prop
  | .replaceRules snapshot => ¬ snapshot.WellFormed
  | .addFlow rule =>
      (∃ existing ∈ current.flows, flowRuleKey existing = flowRuleKey rule) ∨
        ¬ (current.withFlow rule).WellFormed
  | .deleteFlow key => ∀ existing ∈ current.flows, flowRuleKey existing ≠ key
  | .addRoute rule =>
      (∃ existing ∈ current.routes, routeRuleKey existing = routeRuleKey rule) ∨
        ¬ (current.withRoute rule).WellFormed
  | .deleteRoute key => ∀ existing ∈ current.routes, routeRuleKey existing ≠ key

/-- This is the rule list that a method publishes. -/
def Operation.apply (current : RuleSnapshot) : Operation → RuleSnapshot
  | .replaceRules snapshot => snapshot
  | .addFlow rule => current.withFlow rule
  | .deleteFlow key => current.withoutFlow key
  | .addRoute rule => current.withRoute rule
  | .deleteRoute key => current.withoutRoute key

/-- A method that is not refused publishes the edited list. -/
theorem Operation.candidate_ok (formed : current.WellFormed) (operation : Operation) :
    operation.candidate current = .ok candidate ↔
      ¬ operation.Refused current ∧ candidate = operation.apply current := by
  cases operation with
  | replaceRules snapshot =>
    rw [Operation.candidate, replaceCandidate_ok, Operation.Refused, not_not, Operation.apply]
  | addFlow rule =>
    rw [Operation.candidate, addFlowCandidate_ok, Operation.Refused, Operation.apply, not_or,
      not_not, and_assoc]
    simp
  | deleteFlow key =>
    rw [Operation.candidate, deleteFlowCandidate_ok formed, Operation.Refused, Operation.apply]
    simp
  | addRoute rule =>
    rw [Operation.candidate, addRouteCandidate_ok, Operation.Refused, Operation.apply, not_or,
      not_not, and_assoc]
    simp
  | deleteRoute key =>
    rw [Operation.candidate, deleteRouteCandidate_ok formed, Operation.Refused, Operation.apply]
    simp

/-- The deletions lean on the validity of the current list, the other methods check theirs. -/
theorem Operation.apply_wellFormed (formed : current.WellFormed) {operation : Operation}
    (allowed : ¬ operation.Refused current) : (operation.apply current).WellFormed := by
  cases operation with
  | replaceRules snapshot => exact not_not.mp allowed
  | addFlow rule => exact not_not.mp (not_or.mp allowed).2
  | deleteFlow key => exact formed.sublist List.filter_sublist (List.Sublist.refl _)
  | addRoute rule => exact not_not.mp (not_or.mp allowed).2
  | deleteRoute key => exact formed.sublist (List.Sublist.refl _) List.filter_sublist

end Candidates

end FlowRouter.Control
