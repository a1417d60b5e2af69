import FlowRouter.Control.History
import FlowRouter.Control.Sharing

namespace FlowRouter.Control.Shared
open Attempt Checks Native Slices Transition
open Native.Binding (GoError)

variable {tables : RteTables}

/-- Since the base nothing was written but new arrays and those of the application. -/
structure GoHeap.Spares (base now : GoHeap) : Prop where
  flows : base.flows.Spares now.flows
  routes : base.routes.Spares now.routes

/-- Nobody else may write the elements of these slices. -/
structure GoHeap.Keeps (heap : GoHeap) (snapshot : RuleSlices) : Prop where
  flows : heap.flows.Keeps snapshot.flows
  routes : heap.routes.Keeps snapshot.routes

/-- The slices were made since the base and hold these rules. -/
structure Fresh (base now : GoHeap) (snapshot : RuleSlices) (rules : RuleSnapshot) : Prop where
  flows : Private base.flows now.flows snapshot.flows rules.flows
  routes : Private base.routes now.routes snapshot.routes rules.routes

theorem GoHeap.Spares.refl (heap : GoHeap) : heap.Spares heap :=
  ⟨Arrays.Spares.refl heap.flows, Arrays.Spares.refl heap.routes⟩

theorem GoHeap.Spares.trans {first second third : GoHeap} (earlier : first.Spares second)
    (later : second.Spares third) : first.Spares third :=
  ⟨earlier.flows.trans later.flows, earlier.routes.trans later.routes⟩

theorem GoHeap.Keeps.spared {base now : GoHeap} {snapshot : RuleSlices}
    (keeps : base.Keeps snapshot) (spares : base.Spares now) :
    now.Keeps snapshot ∧ now.read snapshot = base.read snapshot := by
  obtain ⟨flows, sameFlows⟩ := keeps.flows.spared spares.flows
  obtain ⟨routes, sameRoutes⟩ := keeps.routes.spared spares.routes
  exact ⟨⟨flows, routes⟩, by rw [GoHeap.read, sameFlows, sameRoutes, GoHeap.read]⟩

section Fresh

variable {base now : GoHeap} {snapshot : RuleSlices} {rules : RuleSnapshot}

theorem Fresh.spares (fresh : Fresh base now snapshot rules) : base.Spares now :=
  ⟨fresh.flows.spares, fresh.routes.spares⟩

theorem Fresh.keeps (fresh : Fresh base now snapshot rules) : now.Keeps snapshot :=
  ⟨fresh.flows.keeps, fresh.routes.keeps⟩

theorem Fresh.reads (fresh : Fresh base now snapshot rules) : now.read snapshot = rules := by
  rw [GoHeap.read, fresh.flows.reads, fresh.routes.reads]

end Fresh

section Programs

variable {base : GoHeap} {snapshot currentRules : RuleSlices} {rules current : RuleSnapshot}
  {stop : GoError → GoHeap → Prop}

/-- A clone is fresh whatever it is a clone of. -/
theorem cloneRules_runs (growth : Growth) :
    Runs (fun heap => base.Spares heap ∧ heap.read snapshot = rules) (cloneRules growth snapshot)
      (fun clone heap => Fresh base heap clone rules) stop := by
  have flows : Runs (fun heap => base.Spares heap ∧ heap.read snapshot = rules)
      (appendFlows growth .nil rules.flows) (fun flows heap =>
        Private base.flows heap.flows flows rules.flows ∧ base.routes.Spares heap.routes ∧
          heap.routes.read snapshot.routes = rules.routes) stop := by
    rintro heap ⟨spares, rfl⟩
    exact ⟨_, _, rfl, (Private.nil spares.flows).append growth.flows _, spares.routes, rfl⟩
  have routes (flows : Slice) : Runs (fun heap =>
        Private base.flows heap.flows flows rules.flows ∧ base.routes.Spares heap.routes ∧
          heap.routes.read snapshot.routes = rules.routes)
      (appendRoutes growth .nil rules.routes) (fun routes heap =>
        Fresh base heap ⟨flows, routes⟩ rules) stop := by
    rintro heap ⟨mine, spares, -⟩
    exact ⟨_, _, rfl, mine, (Private.nil spares).append growth.routes _⟩
  unfold cloneRules
  apply Runs.known rules.flows
  · rintro heap ⟨-, rfl⟩
    rfl
  apply Runs.bind flows
  intro flows
  apply Runs.known rules.routes
  · rintro heap ⟨-, -, reads⟩
    exact congrArg some reads
  apply Runs.bind (routes flows)
  intro routes
  exact Runs.pure _ fun _ fresh => fresh

theorem cloneRules_fresh (growth : Growth) :
    Runs (· = base) (cloneRules growth snapshot)
      (fun clone heap => Fresh base heap clone (base.read snapshot)) stop := by
  rintro heap rfl
  exact cloneRules_runs growth heap ⟨GoHeap.Spares.refl heap, rfl⟩

theorem cloneRules_returned {growth : Growth} {clone : RuleSlices} {now : GoHeap}
    (ended : (cloneRules growth snapshot).run.run base = some (.ok clone, now)) :
    Fresh base now clone (base.read snapshot) := by
  have cloned : Runs (· = base) (cloneRules growth snapshot)
      (fun clone heap => Fresh base heap clone (base.read snapshot)) fun _ _ => False :=
    cloneRules_fresh growth
  exact cloned.returned rfl ended

/-- A validation reads the slices and changes nothing. -/
theorem validateRules_runs {A : Type} {pre : GoHeap → Prop} {next : Unit → GoProgram A}
    {post : A → GoHeap → Prop} {context : String}
    (reads : ∀ heap, pre heap → heap.read snapshot = rules)
    (refused : ∀ error, wrapError context (Control.validateRules rules) = .error error →
      ∀ heap, pre heap → stop error heap)
    (rest : wrapError context (Control.validateRules rules) = .ok () → Runs pre (next ()) post stop) :
    Runs pre (validateRules context snapshot >>= next) post stop := by
  have validated : Runs pre (validateRules context snapshot)
      (fun _ heap => wrapError context (Control.validateRules rules) = .ok () ∧ pre heap) stop := by
    intro heap start
    refine ⟨wrapError context (Control.validateRules (heap.read snapshot)), heap, rfl, ?_⟩
    rw [reads heap start]
    cases ended : wrapError context (Control.validateRules rules) with
    | ok value => exact ⟨rfl, start⟩
    | error error => exact refused error ended heap start
  exact Runs.bind validated fun _ => Runs.assume rest

/-- A program computes in new arrays what a function computes on values. -/
def Computes (base : GoHeap) (pre : GoHeap → Prop) (program : GoProgram RuleSlices)
    (function : Except GoError RuleSnapshot) : Prop :=
  Runs pre program
    (fun candidate heap => ∃ rules, function = .ok rules ∧ Fresh base heap candidate rules)
    fun error heap => function = .error error ∧ base.Spares heap

/-- An append to fresh slices keeps them fresh. -/
theorem appendFlows_runs (growth : Growth) {flows routes : Slice} {items : List FlowRule}
    {others : List RouteRule} (added : List FlowRule) :
    Runs (fun heap => Fresh base heap ⟨flows, routes⟩ ⟨items, others⟩)
      (appendFlows growth flows added)
      (fun longer heap => Fresh base heap ⟨longer, routes⟩ ⟨items ++ added, others⟩) stop :=
  fun _ fresh => ⟨_, _, rfl, fresh.flows.append growth.flows added, fresh.routes⟩

theorem appendRoutes_runs (growth : Growth) {flows routes : Slice} {items : List FlowRule}
    {others : List RouteRule} (added : List RouteRule) :
    Runs (fun heap => Fresh base heap ⟨flows, routes⟩ ⟨items, others⟩)
      (appendRoutes growth routes added)
      (fun longer heap => Fresh base heap ⟨flows, longer⟩ ⟨items, others ++ added⟩) stop :=
  fun _ fresh => ⟨_, _, rfl, fresh.flows, fresh.routes.append growth.routes added⟩

/-- The rules behind a deleted one move forward within the fresh array. -/
theorem cutFlows_runs (growth : Growth) {flows routes : Slice} {items : List FlowRule}
    {others : List RouteRule} {index : Nat} (inside : index < items.length) :
    Runs (fun heap => Fresh base heap ⟨flows, routes⟩ ⟨items, others⟩) (cutFlows growth flows index)
      (fun shorter heap =>
        Fresh base heap ⟨shorter, routes⟩ ⟨deleteAt items index, others⟩) stop := by
  have front : Runs (fun heap => Fresh base heap ⟨flows, routes⟩ ⟨items, others⟩)
      (sliced (flows.first index)) (fun front heap =>
        Fresh base heap ⟨flows, routes⟩ ⟨items, others⟩ ∧
        Fresh base heap ⟨front, routes⟩ ⟨items.take index, others⟩) stop := by
    apply Runs.demand
    intro heap fresh
    obtain ⟨front, windowed, mine⟩ := fresh.flows.first (Nat.le_of_lt inside)
    exact ⟨front, windowed, fresh, mine, fresh.routes⟩
  have back (front : Slice) : Runs (fun heap =>
        Fresh base heap ⟨flows, routes⟩ ⟨items, others⟩ ∧
        Fresh base heap ⟨front, routes⟩ ⟨items.take index, others⟩)
      (sliced (flows.after (index + 1))) (fun back heap =>
        heap.flows.read back = items.drop (index + 1) ∧
        Fresh base heap ⟨front, routes⟩ ⟨items.take index, others⟩) stop := by
    apply Runs.demand
    rintro heap ⟨whole, part⟩
    obtain ⟨back, windowed, reads⟩ := whole.flows.after inside
    exact ⟨back, windowed, reads, part⟩
  unfold cutFlows
  apply Runs.bind front
  intro front
  apply Runs.bind (back front)
  intro back
  apply Runs.known (items.drop (index + 1))
  · exact fun heap found => congrArg some found.1
  exact Runs.weaken (appendFlows_runs growth _) (fun heap found => found.2) fun _ _ fresh => fresh

theorem cutRoutes_runs (growth : Growth) {flows routes : Slice} {items : List FlowRule}
    {others : List RouteRule} {index : Nat} (inside : index < others.length) :
    Runs (fun heap => Fresh base heap ⟨flows, routes⟩ ⟨items, others⟩) (cutRoutes growth routes index)
      (fun shorter heap =>
        Fresh base heap ⟨flows, shorter⟩ ⟨items, deleteAt others index⟩) stop := by
  have front : Runs (fun heap => Fresh base heap ⟨flows, routes⟩ ⟨items, others⟩)
      (sliced (routes.first index)) (fun front heap =>
        Fresh base heap ⟨flows, routes⟩ ⟨items, others⟩ ∧
        Fresh base heap ⟨flows, front⟩ ⟨items, others.take index⟩) stop := by
    apply Runs.demand
    intro heap fresh
    obtain ⟨front, windowed, mine⟩ := fresh.routes.first (Nat.le_of_lt inside)
    exact ⟨front, windowed, fresh, fresh.flows, mine⟩
  have back (front : Slice) : Runs (fun heap =>
        Fresh base heap ⟨flows, routes⟩ ⟨items, others⟩ ∧
        Fresh base heap ⟨flows, front⟩ ⟨items, others.take index⟩)
      (sliced (routes.after (index + 1))) (fun back heap =>
        heap.routes.read back = others.drop (index + 1) ∧
        Fresh base heap ⟨flows, front⟩ ⟨items, others.take index⟩) stop := by
    apply Runs.demand
    rintro heap ⟨whole, part⟩
    obtain ⟨back, windowed, reads⟩ := whole.routes.after inside
    exact ⟨back, windowed, reads, part⟩
  unfold cutRoutes
  apply Runs.bind front
  intro front
  apply Runs.bind (back front)
  intro back
  apply Runs.known (others.drop (index + 1))
  · exact fun heap found => congrArg some found.1
  exact Runs.weaken (appendRoutes_runs growth _) (fun heap found => found.2) fun _ _ fresh => fresh

theorem addFlowCandidate_computes (growth : Growth) (rule : FlowRule) :
    Computes base (fun heap => base.Spares heap ∧ heap.read currentRules = current)
      (addFlowCandidate growth currentRules rule) (Control.addFlowCandidate current rule) := by
  have function : Control.addFlowCandidate current rule = (do
      rejectIf (∃ existing ∈ current.flows, flowRuleKey existing = flowRuleKey rule)
        (GoError.text "add flow: duplicate key")
      wrapError "add flow" (Control.validateRules ⟨current.flows ++ [rule], current.routes⟩)
      return ⟨current.flows ++ [rule], current.routes⟩) := rfl
  rw [function]
  unfold addFlowCandidate
  apply Runs.bind (cloneRules_runs growth)
  intro candidate
  apply Runs.known current.flows
  · exact fun heap fresh => congrArg some fresh.flows.reads
  apply Runs.guard
  · intro duplicate heap fresh
    rw [rejectIf, if_pos duplicate]
    exact ⟨rfl, fresh.spares⟩
  intro unique
  rw [rejectIf, if_neg unique]
  apply Runs.bind (appendFlows_runs growth [rule])
  intro flows
  apply validateRules_runs fun heap => Fresh.reads
  · intro error invalid heap fresh
    rw [invalid]
    exact ⟨rfl, fresh.spares⟩
  · intro valid
    rw [valid]
    exact Runs.pure _ fun heap fresh => ⟨_, rfl, fresh⟩

theorem deleteFlowCandidate_computes (growth : Growth) (key : FlowKey) :
    Computes base (fun heap => base.Spares heap ∧ heap.read currentRules = current)
      (deleteFlowCandidate growth currentRules key) (Control.deleteFlowCandidate current key) := by
  unfold deleteFlowCandidate Control.deleteFlowCandidate
  simp only [cloneRules_eq]
  apply Runs.bind (cloneRules_runs growth)
  intro candidate
  apply Runs.known current.flows
  · exact fun heap fresh => congrArg some fresh.flows.reads
  cases found : current.flows.findIdx? fun existing => flowRuleKey existing = key with
  | none => exact Runs.throw _ fun heap fresh => ⟨rfl, fresh.spares⟩
  | some index =>
    obtain ⟨inside, -, -⟩ := List.findIdx?_eq_some_iff_getElem.mp found
    apply Runs.bind (cutFlows_runs growth inside)
    intro flows
    exact Runs.pure _ fun heap fresh => ⟨_, rfl, fresh⟩

theorem addRouteCandidate_computes (growth : Growth) (rule : RouteRule) :
    Computes base (fun heap => base.Spares heap ∧ heap.read currentRules = current)
      (addRouteCandidate growth currentRules rule) (Control.addRouteCandidate current rule) := by
  have function : Control.addRouteCandidate current rule = (do
      rejectIf (∃ existing ∈ current.routes, routeRuleKey existing = routeRuleKey rule)
        (GoError.text "add route: duplicate key")
      wrapError "add route" (Control.validateRules ⟨current.flows, current.routes ++ [rule]⟩)
      return ⟨current.flows, current.routes ++ [rule]⟩) := rfl
  rw [function]
  unfold addRouteCandidate
  apply Runs.bind (cloneRules_runs growth)
  intro candidate
  apply Runs.known current.routes
  · exact fun heap fresh => congrArg some fresh.routes.reads
  apply Runs.guard
  · intro duplicate heap fresh
    rw [rejectIf, if_pos duplicate]
    exact ⟨rfl, fresh.spares⟩
  intro unique
  rw [rejectIf, if_neg unique]
  apply Runs.bind (appendRoutes_runs growth [rule])
  intro routes
  apply validateRules_runs fun heap => Fresh.reads
  · intro error invalid heap fresh
    rw [invalid]
    exact ⟨rfl, fresh.spares⟩
  · intro valid
    rw [valid]
    exact Runs.pure _ fun heap fresh => ⟨_, rfl, fresh⟩

theorem deleteRouteCandidate_computes (growth : Growth) (key : RouteKey) :
    Computes base (fun heap => base.Spares heap ∧ heap.read currentRules = current)
      (deleteRouteCandidate growth currentRules key) (Control.deleteRouteCandidate current key) := by
  unfold deleteRouteCandidate Control.deleteRouteCandidate
  simp only [cloneRules_eq]
  apply Runs.bind (cloneRules_runs growth)
  intro candidate
  apply Runs.known current.routes
  · exact fun heap fresh => congrArg some fresh.routes.reads
  cases found : current.routes.findIdx? fun existing => routeRuleKey existing = key with
  | none => exact Runs.throw _ fun heap fresh => ⟨rfl, fresh.spares⟩
  | some index =>
    obtain ⟨inside, -, -⟩ := List.findIdx?_eq_some_iff_getElem.mp found
    apply Runs.bind (cutRoutes_runs growth inside)
    intro routes
    exact Runs.pure _ fun heap fresh => ⟨_, rfl, fresh⟩

end Programs

/-- The slices of a copied request are kept. -/
def Request.Kept (heap : GoHeap) : Request → Prop
  | .replaceRules snapshot => heap.Keeps snapshot
  | _ => True

theorem Request.Kept.spared {base now : GoHeap} {request : Request} (kept : request.Kept base)
    (spares : base.Spares now) : request.Kept now ∧ request.read now = request.read base := by
  cases request with
  | replaceRules snapshot =>
    obtain ⟨keeps, same⟩ := GoHeap.Keeps.spared kept spares
    exact ⟨keeps, congrArg Operation.replaceRules same⟩
  | addFlow | deleteFlow | addRoute | deleteRoute => exact ⟨trivial, rfl⟩

section Requests

variable {base : GoHeap} {request : Request} {currentRules : RuleSlices}

/-- A copied request means what the request meant. -/
theorem Request.copy_runs (growth : Growth) :
    Runs (· = base) (request.copy growth) (fun candidate heap =>
      base.Spares heap ∧ candidate.Kept heap ∧ candidate.read heap = request.read base)
      fun _ _ => False := by
  cases request with
  | replaceRules snapshot =>
    apply Runs.bind (cloneRules_fresh growth)
    intro clone
    exact Runs.pure _ fun heap fresh =>
      ⟨fresh.spares, fresh.keeps, congrArg Operation.replaceRules fresh.reads⟩
  | addFlow | deleteFlow | addRoute | deleteRoute =>
    apply Runs.pure
    rintro heap rfl
    exact ⟨GoHeap.Spares.refl heap, trivial, rfl⟩

/-- The validation of a copied request is the preparation of what it means. -/
theorem Request.validate_runs :
    Runs (· = base) request.validate
      (fun _ heap => heap = base ∧ (request.read base).prepare = .ok (request.read base))
      fun error heap => heap = base ∧ (request.read base).prepare = .error error := by
  cases request with
  | replaceRules snapshot =>
    intro heap same
    subst same
    refine ⟨wrapError "replace rules" (Control.validateRules (heap.read snapshot)), heap, rfl, ?_⟩
    have function : (Request.read heap (.replaceRules snapshot)).prepare = (do
        wrapError "replace rules" (Control.validateRules (heap.read snapshot))
        return Request.read heap (.replaceRules snapshot)) := rfl
    rw [function]
    cases wrapError "replace rules" (Control.validateRules (heap.read snapshot)) with
    | ok value => exact ⟨rfl, rfl⟩
    | error error => exact ⟨rfl, rfl⟩
  | addFlow | deleteFlow | addRoute | deleteRoute => exact Runs.pure _ fun heap same => ⟨same, rfl⟩

/-- A candidate on the heap is the candidate on values, and the router keeps its slices. -/
theorem Request.candidateLocked_runs (growth : Growth) (kept : request.Kept base) :
    Runs (· = base) (request.candidateLocked growth currentRules)
      (fun candidate heap => base.Spares heap ∧ heap.Keeps candidate ∧
        (request.read base).candidateLocked (base.read currentRules) = .ok (heap.read candidate))
      fun error heap => base.Spares heap ∧
        (request.read base).candidateLocked (base.read currentRules) = .error error := by
  have computed {program : GoProgram RuleSlices} {function : Except GoError RuleSnapshot}
      (computes : Computes base
        (fun heap => base.Spares heap ∧ heap.read currentRules = base.read currentRules)
        program function) :
      Runs (· = base) program
        (fun candidate heap => base.Spares heap ∧ heap.Keeps candidate ∧
          function = .ok (heap.read candidate))
        fun error heap => base.Spares heap ∧ function = .error error := by
    rintro heap rfl
    obtain ⟨result, after, run, outcome⟩ := computes heap ⟨GoHeap.Spares.refl heap, rfl⟩
    refine ⟨result, after, run, ?_⟩
    cases result with
    | ok candidate =>
      obtain ⟨rules, ended, fresh⟩ := outcome
      exact ⟨fresh.spares, fresh.keeps, by rw [fresh.reads]; exact ended⟩
    | error error => exact outcome.symm
  cases request with
  | replaceRules snapshot =>
    apply Runs.pure
    rintro heap rfl
    exact ⟨GoHeap.Spares.refl heap, kept, rfl⟩
  | addFlow rule => exact computed (addFlowCandidate_computes growth rule)
  | deleteFlow key => exact computed (deleteFlowCandidate_computes growth key)
  | addRoute rule => exact computed (addRouteCandidate_computes growth rule)
  | deleteRoute key => exact computed (deleteRouteCandidate_computes growth key)

/-- `Start` ends with two clones of a valid argument. -/
theorem startRules_runs (growth : Growth) {given : RuleSlices} :
    Runs (· = base) (startRules growth given) (fun clones heap =>
      Control.validateRules (base.read given) = .ok () ∧
      (heap.Keeps clones.1 ∧ heap.read clones.1 = base.read given) ∧
      heap.Keeps clones.2 ∧ heap.read clones.2 = base.read given) fun _ _ => True := by
  have again (configured : RuleSlices) :
      Runs (fun heap => Fresh base heap configured (base.read given)) (cloneRules growth configured)
        (fun clone heap => (heap.Keeps configured ∧ heap.read configured = base.read given) ∧
          heap.Keeps clone ∧ heap.read clone = base.read given)
        fun (_ : GoError) (_ : GoHeap) => True := by
    intro heap first
    have cloned : Runs (· = heap) (cloneRules growth configured)
        (fun clone after => Fresh heap after clone (heap.read configured)) fun _ _ => True :=
      cloneRules_fresh growth
    obtain ⟨result, after, run, outcome⟩ := cloned heap rfl
    refine ⟨result, after, run, ?_⟩
    cases result with
    | ok clone =>
      obtain ⟨keeps, same⟩ := first.keeps.spared (Fresh.spares outcome)
      rw [first.reads] at same
      have copied := Fresh.reads outcome
      rw [first.reads] at copied
      exact ⟨⟨keeps, same⟩, Fresh.keeps outcome, copied⟩
    | error error => exact trivial
  unfold startRules
  apply validateRules_runs (fun heap same => by rw [same])
  · exact fun _ _ _ _ => trivial
  intro valid
  have accepted : Control.validateRules (base.read given) = .ok () := wrapError_ok.mp valid
  apply Runs.bind (cloneRules_fresh growth)
  intro configured
  apply Runs.bind (again configured)
  intro currentRules
  exact Runs.pure _ fun heap clones => ⟨accepted, clones⟩

end Requests

end FlowRouter.Control.Shared
