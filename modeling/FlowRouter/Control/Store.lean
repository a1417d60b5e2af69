import FlowRouter.Control.Publication
import FlowRouter.Native.Refinement

namespace FlowRouter.Control
open Native Native.Memory

/-- The Go side calls the native rule functions with copies of its rules, and the rest of the
program changes the flags between the calls. -/
inductive StoreCall where
  | configureRules (qsbrFault : Option QsbrFault) (arrayFaults : Binding.ArrayFaults)
      (faults : SnapshotFaults) (rules : RuleSnapshot)
  | publishRules (arrayFaults : Binding.ArrayFaults) (faults : SnapshotFaults)
      (rules : RuleSnapshot)
  | rulesTeardown
  | setFlags (initialized ready running ran : Bool)

/-- A failed copy returns to Go without a native call. -/
def StoreCall.native : StoreCall → Option Memory.RuleCall
  | .configureRules qsbrFault arrayFaults faults rules =>
      match Binding.newRuleArrays arrayFaults (toNativeRules rules) with
      | .ok arrays => some (.configureRules qsbrFault faults arrays.flows arrays.routes)
      | .error _ => none
  | .publishRules arrayFaults faults rules =>
      match Binding.newRuleArrays arrayFaults (toNativeRules rules) with
      | .ok arrays => some (.publishRules faults arrays.flows arrays.routes (some 0))
      | .error _ => none
  | .rulesTeardown => some .rulesTeardown
  | .setFlags initialized ready running ran => some (.setFlags initialized ready running ran)

def StoreCall.answer {tables : RteTables} (call : StoreCall) : Call tables (Option Reply) :=
  match call.native with
  | some native => do return some (← native.answer)
  | none => return none

/-- The log pairs each call with its reply. -/
def serve {tables : RteTables} : List StoreCall → Call tables (List (StoreCall × Option Reply))
  | [] => return []
  | call :: rest => do
      let reply ← call.answer
      return (call, reply) :: (← serve rest)

/-- A call that reports success replaces the rules, and the teardown removes them. -/
def StoreCall.publishes (rules : Option RuleSnapshot) : StoreCall × Option Reply →
    Option RuleSnapshot
  | (.configureRules _ _ _ next, some (.configured status)) =>
      if status = 0 then some next else rules
  | (.publishRules _ _ next, some (.published status _)) =>
      if status = 0 then some next else rules
  | (.rulesTeardown, _) => none
  | _ => rules

/-- The log alone says which rules are published. -/
def publishedRules (log : List (StoreCall × Option Reply)) : Option RuleSnapshot :=
  log.foldl StoreCall.publishes none

variable {tables : RteTables} {views : TableViews tables}

/-- The active snapshot was built from the published rules. -/
def Sourced (rules : Option RuleSnapshot) (built : Option (DpRuleSnapshot tables)) : Prop :=
  Option.Rel (fun rules built => ∃ generation, BuiltFrom rules generation built) rules built

/-- A configuration reports zero exactly when it activates its rules. -/
theorem dpConfigureRules_sourced {rules : Option RuleSnapshot} {state : DpState tables}
    (sourced : Sourced rules state.activeRules) {arrayFaults : Binding.ArrayFaults}
    {next : RuleSnapshot} {arrays : Binding.RuleArrays}
    (copied : Binding.newRuleArrays arrayFaults (toNativeRules next) = .ok arrays)
    (qsbrFault : Option QsbrFault) (seen : BuildFaults) :
    let result := Native.dpConfigureRules qsbrFault seen arrays.flows arrays.routes state
    Sourced (if result.1 = 0 then some next else rules) result.2.activeRules := by
  have registry : (Native.dpQsbrCreate qsbrFault state).2.activeRules = state.activeRules := by
    unfold Native.dpQsbrCreate
    split
    · rfl
    · rcases qsbrFault with - | ⟨-⟩ | ⟨-⟩ | ⟨-⟩ <;> rfl
  unfold Native.dpConfigureRules
  by_cases initialized : !state.initialized
  · simp only [if_pos initialized]
    exact sourced
  by_cases busy : state.rulesConfigured || state.ready || state.running || state.ran
  · simp only [if_neg initialized, if_pos busy]
    exact sourced
  simp only [if_neg initialized, if_neg busy]
  by_cases negative : (Native.dpQsbrCreate qsbrFault state).1 < 0
  · simp only [if_pos negative, if_neg negative.ne, registry]
    exact sourced
  simp only [if_neg negative]
  cases build : Native.dpSnapshotBuild tables seen arrays.flows arrays.routes 1 with
  | error status =>
    have failed := dpSnapshotBuild_fails seen arrays.flows arrays.routes 1 status build
    simp only [if_neg failed.ne, registry]
    exact sourced
  | ok built =>
    simp only [if_true]
    exact Option.Rel.some ⟨1, arrayFaults, seen, arrays, copied, build⟩

/-- A publication reports zero exactly when it activates its rules. -/
theorem dpPublishRules_sourced {rules : Option RuleSnapshot} {state : DpState tables}
    (sourced : Sourced rules state.activeRules) {arrayFaults : Binding.ArrayFaults}
    {next : RuleSnapshot} {arrays : Binding.RuleArrays}
    (copied : Binding.newRuleArrays arrayFaults (toNativeRules next) = .ok arrays)
    (seen : BuildFaults) (generation : Nat) :
    let result := Native.dpPublishRules seen arrays.flows arrays.routes (some generation) state
    Sourced (if result.1 = 0 then some next else rules) result.2.2.activeRules := by
  unfold Native.dpPublishRules
  by_cases missing : !state.initialized || !state.rulesConfigured || !state.rulesQsbr ||
      state.activeRules.isNone
  · simp only [if_pos missing]
    exact sourced
  simp only [if_neg missing]
  cases build : Native.dpSnapshotBuild tables seen arrays.flows arrays.routes
      (state.stats.rulesGeneration + 1) with
  | error status =>
    have failed := dpSnapshotBuild_fails seen arrays.flows arrays.routes _ status build
    simp only [if_neg failed.ne]
    exact sourced
  | ok built =>
    simp only [if_true]
    exact Option.Rel.some ⟨_, arrayFaults, seen, arrays, copied, build⟩

/-- One call keeps the memory in line with the rules that the log publishes. -/
theorem StoreCall.answer_sourced (stores : views.Stores) (hash : views.ExactHash)
    {memory : RuleMemory tables} {state : DpState tables} {rules : Option RuleSnapshot}
    (mirrors : Mirrors views memory state) (sourced : Sourced rules state.activeRules)
    (call : StoreCall) :
    ∃ reply after next, call.answer memory = some (reply, after) ∧ Mirrors views after next ∧
      Sourced (StoreCall.publishes rules (call, reply)) next.activeRules := by
  cases call with
  | configureRules qsbrFault arrayFaults faults next =>
    unfold StoreCall.answer
    cases copied : Binding.newRuleArrays arrayFaults (toNativeRules next) with
    | error error =>
      simp only [StoreCall.native, copied]
      exact ⟨none, memory, state, rfl, mirrors, sourced⟩
    | ok arrays =>
      obtain ⟨seen, -, after, run, mirrors⟩ := dpConfigureRules_mirrors stores hash mirrors
        qsbrFault faults arrays.flows arrays.routes
      have replied : (Memory.RuleCall.configureRules qsbrFault faults arrays.flows arrays.routes).answer
          memory = _ := bind_run run _
      simp only [StoreCall.native, copied]
      exact ⟨_, after, _, bind_run replied _, mirrors,
        dpConfigureRules_sourced sourced copied qsbrFault seen⟩
  | publishRules arrayFaults faults next =>
    unfold StoreCall.answer
    cases copied : Binding.newRuleArrays arrayFaults (toNativeRules next) with
    | error error =>
      simp only [StoreCall.native, copied]
      exact ⟨none, memory, state, rfl, mirrors, sourced⟩
    | ok arrays =>
      obtain ⟨seen, -, after, run, mirrors⟩ := dpPublishRules_mirrors stores hash mirrors
        faults arrays.flows arrays.routes (some 0)
      have replied : (Memory.RuleCall.publishRules faults arrays.flows arrays.routes (some 0)).answer
          memory = _ := bind_run run _
      simp only [StoreCall.native, copied]
      exact ⟨_, after, _, bind_run replied _, mirrors,
        dpPublishRules_sourced sourced copied seen 0⟩
  | rulesTeardown =>
    obtain ⟨after, run, mirrors⟩ := dpRulesTeardown_mirrors mirrors
    have replied : Memory.RuleCall.rulesTeardown.answer memory = _ := bind_run run _
    exact ⟨_, after, _, bind_run replied _, mirrors, Option.Rel.none⟩
  | setFlags initialized ready running ran =>
    obtain ⟨reply, after, next, run, answered, mirrors⟩ := Memory.RuleCall.answer_mirrors stores hash
      mirrors (.setFlags initialized ready running ran)
    cases answered
    exact ⟨_, after, _, bind_run run _, mirrors, sourced⟩

theorem serve_sourced (stores : views.Stores) (hash : views.ExactHash) (calls : List StoreCall)
    {memory : RuleMemory tables} {state : DpState tables} {rules : Option RuleSnapshot}
    (mirrors : Mirrors views memory state) (sourced : Sourced rules state.activeRules) :
    ∃ log after next, serve calls memory = some (log, after) ∧ log.map Prod.fst = calls ∧
      Mirrors views after next ∧ Sourced (log.foldl StoreCall.publishes rules) next.activeRules := by
  induction calls generalizing memory state rules with
  | nil => exact ⟨[], memory, state, rfl, rfl, mirrors, sourced⟩
  | cons call rest ih =>
    obtain ⟨reply, middle, value, first, mirrors, sourced⟩ :=
      call.answer_sourced stores hash mirrors sourced
    obtain ⟨log, after, next, others, same, mirrors, sourced⟩ := ih mirrors sourced
    refine ⟨(call, reply) :: log, after, next, (bind_run first _).trans (bind_run others _), ?_,
      mirrors, sourced⟩
    rw [List.map_cons, same]

/-- Whatever calls a process makes and however they fail, the next lookup of any packet reads
through live pointers the action that the last successfully published rules decide. -/
theorem ruleStore_meaning (stores : views.Stores) (hash : views.ExactHash) (lpm : views.ExactLpm)
    (calls : List StoreCall) :
    ∃ log memory, serve calls (.initial tables) = some (log, memory) ∧ log.map Prod.fst = calls ∧
      ∀ info, (Memory.dpLookupPacket memory.heap info memory.activeRules).bind
          (readAction memory.heap) =
        some ((publishedRules log).elim (.miss, none) fun rules => (rules.decide info).answer) := by
  obtain ⟨log, memory, state, run, same, mirrors, sourced⟩ :=
    serve_sourced stores hash calls (Mirrors.initial views) Option.Rel.none
  refine ⟨log, memory, run, same, fun info => (mirrors.lookup hash info).trans ?_⟩
  change some _ = some ((log.foldl StoreCall.publishes none).elim _ _)
  generalize log.foldl StoreCall.publishes none = rules at sourced
  generalize state.activeRules = active at sourced
  cases sourced with
  | none => rfl
  | some source =>
    obtain ⟨generation, arrayFaults, faults, builds⟩ := source
    exact congrArg some (builds.lookup hash lpm info)

/-- The second publication fails in its action store and leaves the first rules. -/
def nestedCalls : List StoreCall :=
  [.setFlags true false false false,
    .configureRules none .none ⟨.none, fun _ => none, fun _ => none⟩ nestedRules,
    .publishRules .none ⟨{ BuildFaults.none with actions := some 0 }, fun _ => none, fun _ => none⟩
      ⟨nestedRules.flows, []⟩]

theorem ruleStore_meaning_nested :
    ∃ log memory, serve nestedCalls (.initial listTables) = some (log, memory) ∧
      ∀ info, (Memory.dpLookupPacket memory.heap info memory.activeRules).bind
          (readAction memory.heap) = some (nestedRules.decide info).answer := by
  obtain ⟨log, memory, run, -, lookup⟩ :=
    ruleStore_meaning listViews_stores listViews_hash listViews_lpm nestedCalls
  have published : (serve nestedCalls (.initial listTables)).map
      (fun result => publishedRules result.1) = some (some nestedRules) := by
    decide +kernel
  rw [run] at published
  refine ⟨log, memory, run, fun info => (lookup info).trans ?_⟩
  rw [show publishedRules log = some nestedRules from Option.some.inj published]
  rfl

end FlowRouter.Control
