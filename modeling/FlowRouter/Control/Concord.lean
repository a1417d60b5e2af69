import FlowRouter.Control.Isolation

namespace FlowRouter.Control.Shared
open Attempt Checks Native Slices Transition
open Native.Binding (GoError)

variable {tables : RteTables}

/-- The router keeps the slices that a goroutine holds. -/
def Client.Kept (heap : GoHeap) : Client → Prop
  | .idle | .called _ | .returning _ _ _ => True
  | .copied asked request | .waiting asked request | .locking asked request
  | .checking asked request => request.Kept heap ∧ request.read heap = asked
  | .publishing _ candidate | .calling _ candidate | .storing _ candidate _
  | .stamping _ candidate _ => heap.Keeps candidate

/-- The router keeps all of its slices, and those of the owner hold the configured rules. -/
structure System.Kept (rules : RuleSnapshot) (system : System tables) : Prop where
  current : system.heap.Keeps system.currentRules
  configured : system.heap.Keeps system.configured
  source : system.heap.read system.configured = rules
  clients : ∀ id, (system.clients id).Kept system.heap

theorem Client.Kept.spared {base now : GoHeap} {client : Client} (kept : client.Kept base)
    (spares : base.Spares now) : client.Kept now ∧ client.read now = client.read base := by
  cases client with
  | idle | called | returning => exact ⟨trivial, rfl⟩
  | copied asked request | waiting asked request | locking asked request
  | checking asked request =>
    obtain ⟨still, same⟩ := kept.1.spared spares
    exact ⟨⟨still, same.trans kept.2⟩, rfl⟩
  | publishing asked candidate | calling asked candidate | storing asked candidate generation
  | stamping asked candidate generation =>
    obtain ⟨keeps, same⟩ := GoHeap.Keeps.spared kept spares
    exact ⟨keeps, by rw [Client.read, Client.read, same]⟩

section Steps

variable {rules : RuleSnapshot} {system after : System tables} {heap : GoHeap}

/-- The system shows the same values when nothing that it keeps is written. -/
theorem System.Kept.spared (kept : system.Kept rules) (spares : system.heap.Spares heap) :
    ({ system with heap := heap } : System tables).Kept rules ∧
      ({ system with heap := heap } : System tables).values = system.values := by
  obtain ⟨current, same⟩ := kept.current.spared spares
  obtain ⟨configured, source⟩ := kept.configured.spared spares
  constructor
  · exact ⟨current, configured, source.trans kept.source,
      fun id => ((kept.clients id).spared spares).1⟩
  · have callers : (fun id => (system.clients id).read heap) =
        fun id => (system.clients id).read system.heap := by
      funext id
      exact ((kept.clients id).spared spares).2
    simp only [System.values, same, callers]

/-- A goroutine moves with what it keeps. -/
theorem System.Kept.move (kept : system.Kept rules) (spares : system.heap.Spares heap) (id : Nat)
    {client : Client} (holds : client.Kept heap) :
    ({ system.moveClient id client with heap := heap } : System tables).Kept rules ∧
      ({ system.moveClient id client with heap := heap } : System tables).values =
        system.values.moveCaller id (client.read heap) := by
  obtain ⟨still, same⟩ := kept.spared spares
  constructor
  · refine { still with clients := fun other => ?_ }
    change (Function.update system.clients id client other).Kept heap
    by_cases mine : other = id
    · rw [mine, Function.update_self]
      exact holds
    · rw [Function.update_of_ne mine]
      exact still.clients other
  · have callers : (fun other => (Function.update system.clients id client other).read heap) =
        Function.update (fun other => (system.clients other).read heap) id (client.read heap) := by
      funext other
      by_cases mine : other = id
      · rw [mine, Function.update_self, Function.update_self]
      · rw [Function.update_of_ne mine, Function.update_of_ne mine]
    rw [← same]
    simp only [System.values, System.moveClient, Control.System.moveCaller, callers]

/-- A goroutine may move without a write. -/
theorem System.Kept.stay (kept : system.Kept rules) (id : Nat) {client : Client}
    (holds : client.Kept system.heap) :
    (system.moveClient id client).Kept rules ∧ (system.moveClient id client).values =
      system.values.moveCaller id (client.read system.heap) :=
  kept.move (GoHeap.Spares.refl system.heap) id holds

/-- The slices stay kept, and the step is a step on the values. -/
def System.Simulates (rules : RuleSnapshot) (system : System tables) (id : Nat) (caller : Caller)
    (after : System tables) : Prop :=
  after.Kept rules ∧ CallerStep system.values id caller after.values

section Points

variable {id : Nat} {asked : Operation} {request : Request} {candidate : RuleSlices}

/-- The copy of the argument is the call on the values. -/
theorem System.Kept.atCalled (kept : system.Kept rules)
    (step : ClientStep system id (.called request) after) :
    System.Simulates rules system id .idle after := by
  cases step with
  | @copy _ candidate growth heap ended =>
    obtain ⟨spares, copied, meaning⟩ := (Request.copy_runs growth).returned rfl ended
    have holds : (Client.copied (request.read system.heap) candidate).Kept heap :=
      ⟨copied, meaning⟩
    obtain ⟨still, moved⟩ := kept.move spares id holds
    refine ⟨still, ?_⟩
    rw [moved]
    exact .call (request.read system.heap)

theorem System.Kept.atCopied (kept : system.Kept rules)
    (known : (Client.copied asked request).Kept system.heap)
    (step : ClientStep system id (.copied asked request) after) :
    System.Simulates rules system id (.called asked) after := by
  cases step with
  | refuse ended =>
    obtain ⟨rfl, refused⟩ := Request.validate_runs.stopped rfl ended
    rw [known.2] at refused
    have holds : Client.idle.Kept system.heap := trivial
    obtain ⟨still, moved⟩ := kept.stay id holds
    refine ⟨{ still with }, ?_⟩
    change CallerStep _ _ _ { (system.moveClient id .idle).values with log := _ }
    rw [moved]
    exact .refuse refused
  | prepare ended =>
    obtain ⟨rfl, prepared⟩ := Request.validate_runs.returned rfl ended
    rw [known.2] at prepared
    have holds : (Client.waiting asked request).Kept system.heap := known
    obtain ⟨still, moved⟩ := kept.stay id holds
    refine ⟨still, ?_⟩
    change CallerStep _ _ _ (system.moveClient id _).values
    rw [moved]
    exact .prepare prepared

theorem System.Kept.atWaiting (kept : system.Kept rules)
    (known : (Client.waiting asked request).Kept system.heap)
    (step : ClientStep system id (.waiting asked request) after) :
    System.Simulates rules system id (.waiting asked) after := by
  cases step with
  | wait ready =>
    have holds : (Client.locking asked request).Kept system.heap := known
    obtain ⟨still, moved⟩ := kept.stay id holds
    refine ⟨still, ?_⟩
    rw [moved]
    exact .wait ready

theorem System.Kept.atLocking (kept : system.Kept rules)
    (known : (Client.locking asked request).Kept system.heap)
    (step : ClientStep system id (.locking asked request) after) :
    System.Simulates rules system id (.locking asked) after := by
  cases step with
  | lock free =>
    have holds : (Client.checking asked request).Kept system.heap := known
    obtain ⟨still, moved⟩ := kept.stay id holds
    refine ⟨{ still with }, ?_⟩
    change CallerStep _ _ _ { (system.moveClient id _).values with rulesMu := _ }
    rw [moved]
    exact .lock free

theorem System.Kept.atChecking (kept : system.Kept rules)
    (known : (Client.checking asked request).Kept system.heap)
    (step : ClientStep system id (.checking asked request) after) :
    System.Simulates rules system id (.checking asked) after := by
  cases step with
  | @reject _ _ growth error heap ended =>
    obtain ⟨spares, rejected⟩ := (Request.candidateLocked_runs growth known.1).stopped rfl ended
    rw [known.2] at rejected
    have holds : (Client.returning asked none (.error error)).Kept heap := trivial
    obtain ⟨still, moved⟩ := kept.move spares id holds
    refine ⟨still, ?_⟩
    rw [moved]
    exact .reject rejected
  | @accept _ _ growth candidate heap ended =>
    obtain ⟨spares, keeps, accepted⟩ :=
      (Request.candidateLocked_runs growth known.1).returned rfl ended
    rw [known.2] at accepted
    have holds : (Client.publishing asked candidate).Kept heap := keeps
    obtain ⟨still, moved⟩ := kept.move spares id holds
    refine ⟨still, ?_⟩
    rw [moved]
    exact .accept accepted

theorem System.Kept.atPublishing (kept : system.Kept rules)
    (known : (Client.publishing asked candidate).Kept system.heap)
    (step : ClientStep system id (.publishing asked candidate) after) :
    System.Simulates rules system id (.publishing asked (system.heap.read candidate)) after := by
  cases step with
  | closed shut =>
    have holds : (Client.returning asked (some false)
        (.error (.text "runtime rule publication is not available"))).Kept system.heap := trivial
    obtain ⟨still, moved⟩ := kept.stay id holds
    refine ⟨still, ?_⟩
    rw [moved]
    exact .closed shut
  | enter opened =>
    have holds : (Client.calling asked candidate).Kept system.heap := known
    obtain ⟨still, moved⟩ := kept.stay id holds
    refine ⟨still, ?_⟩
    rw [moved]
    exact .enter opened

/-- The native call reads the candidate and writes no slice. -/
theorem System.Kept.atCalling (kept : system.Kept rules)
    (known : (Client.calling asked candidate).Kept system.heap)
    (step : ClientStep system id (.calling asked candidate) after) :
    System.Simulates rules system id (.calling asked (system.heap.read candidate)) after := by
  cases step with
  | @failed _ _ faults error native ended =>
    have holds : (Client.returning asked (some false) (.error error)).Kept system.heap := trivial
    obtain ⟨still, moved⟩ := kept.stay id holds
    refine ⟨{ still with }, ?_⟩
    change CallerStep _ _ _ { (system.moveClient id _).values with
      rules := ⟨system.values.rules.runtime, native⟩ }
    rw [moved]
    exact .failed ended
  | @published _ _ faults generation native ended =>
    have holds : (Client.storing asked candidate generation).Kept system.heap := known
    obtain ⟨still, moved⟩ := kept.stay id holds
    refine ⟨{ still with }, ?_⟩
    change CallerStep _ _ _ { (system.moveClient id _).values with
      rules := ⟨system.values.rules.runtime, native⟩ }
    rw [moved]
    exact .published faults ended

/-- The stored clone holds the published rules. -/
theorem System.Kept.atStoring (kept : system.Kept rules) {generation : Nat}
    (known : (Client.storing asked candidate generation).Kept system.heap)
    (step : ClientStep system id (.storing asked candidate generation) after) :
    System.Simulates rules system id (.storing asked (system.heap.read candidate) generation)
      after := by
  cases step with
  | @store _ _ currentRules _ growth heap ended =>
    have fresh := cloneRules_returned ended
    obtain ⟨keeps, same⟩ := GoHeap.Keeps.spared known fresh.spares
    have holds : (Client.stamping asked candidate generation).Kept heap := keeps
    obtain ⟨still, moved⟩ := kept.move fresh.spares id holds
    refine ⟨{ still with current := fresh.keeps }, ?_⟩
    change CallerStep _ _ _ { ({ system.moveClient id _ with heap := heap } :
      System tables).values with
        rules := ⟨⟨heap.read currentRules, system.generation, system.rulesOpen⟩, system.native⟩ }
    rw [moved, fresh.reads, Client.read, same]
    exact .store

theorem System.Kept.atStamping (kept : system.Kept rules) {generation : Nat}
    (step : ClientStep system id (.stamping asked candidate generation) after) :
    System.Simulates rules system id (.stamping asked (system.heap.read candidate) generation)
      after := by
  cases step with
  | stamp =>
    have holds : (Client.returning asked (some true) (.ok ())).Kept system.heap := trivial
    obtain ⟨still, moved⟩ := kept.stay id holds
    refine ⟨{ still with }, ?_⟩
    change CallerStep _ _ _ { (system.moveClient id _).values with
      rules := ⟨{ system.values.rules.runtime with generation := generation }, system.native⟩ }
    rw [moved]
    exact .stamp

theorem System.Kept.atReturning (kept : system.Kept rules) {published : Option Bool}
    {result : Except GoError Unit}
    (step : ClientStep system id (.returning asked published result) after) :
    System.Simulates rules system id (.returning asked published result) after := by
  cases step with
  | unlock =>
    have holds : Client.idle.Kept system.heap := trivial
    obtain ⟨still, moved⟩ := kept.stay id holds
    refine ⟨{ still with }, ?_⟩
    change CallerStep _ _ _ { (system.moveClient id _).values with
      rulesMu := none, stable := _, log := _ }
    rw [moved]
    exact .unlock

end Points

/-- A step of a goroutine on the heap is its step on the values. Only the call itself is no step,
since it has not looked at its argument yet. -/
theorem System.Kept.clientStep (kept : system.Kept rules) {id : Nat} {client : Client}
    (here : system.clients id = client) (step : ClientStep system id client after) :
    after.Kept rules ∧ (CallerStep system.values id (client.read system.heap) after.values ∨
      after.values = system.values) := by
  have known := kept.clients id
  rw [here] at known
  cases client with
  | idle =>
    cases step with
    | call request =>
      have holds : (Client.called request).Kept system.heap := trivial
      obtain ⟨still, moved⟩ := kept.stay id holds
      have idle : system.values.callers id = .idle := congrArg (Client.read system.heap) here
      refine ⟨still, .inr (moved.trans ?_)⟩
      rw [Control.System.moveCaller, Client.read, ← idle, Function.update_eq_self]
  | called => exact (kept.atCalled step).imp_right .inl
  | copied => exact (kept.atCopied known step).imp_right .inl
  | waiting => exact (kept.atWaiting known step).imp_right .inl
  | locking => exact (kept.atLocking known step).imp_right .inl
  | checking => exact (kept.atChecking known step).imp_right .inl
  | publishing => exact (kept.atPublishing known step).imp_right .inl
  | calling => exact (kept.atCalling known step).imp_right .inl
  | storing => exact (kept.atStoring known step).imp_right .inl
  | stamping => exact (kept.atStamping step).imp_right .inl
  | returning => exact (kept.atReturning step).imp_right .inl

/-- What the application writes is nothing that the router keeps. -/
theorem OutsideStep.spares {base now : GoHeap} (step : OutsideStep base now) : base.Spares now := by
  cases step with
  | makeFlows items => exact ⟨base.flows.allocate_spares true items, Arrays.Spares.refl base.routes⟩
  | makeRoutes items => exact ⟨Arrays.Spares.refl base.flows, base.routes.allocate_spares true items⟩
  | writeFlows items lent _ => exact ⟨Arrays.write_spares lent items, Arrays.Spares.refl base.routes⟩
  | writeRoutes items lent _ => exact ⟨Arrays.Spares.refl base.flows, Arrays.write_spares lent items⟩

/-- The owner leaves the current rules, the goroutines and the history alone. -/
theorem ownerStep_frame {configured : RuleSnapshot} {before after : Control.System tables}
    {owner : Owner} (step : OwnerStep configured before owner after) :
    after.rules.runtime.currentRules = before.rules.runtime.currentRules ∧
      after.callers = before.callers ∧ after.log = before.log := by
  cases step <;> exact ⟨rfl, rfl, rfl⟩

/-- A step of the owner is its step on the values. -/
theorem System.Kept.ownerStep (kept : system.Kept rules) {moved : Control.System tables}
    (step : OwnerStep (system.heap.read system.configured) system.values system.owner moved) :
    (system.ownerMoved moved).Kept rules ∧ (system.ownerMoved moved).values = moved := by
  obtain ⟨currentRules, callers, log⟩ := ownerStep_frame step
  constructor
  · exact { kept with }
  · obtain ⟨⟨⟨_, _, _⟩, _⟩, _, _, _, _, _, _⟩ := moved
    obtain rfl := currentRules
    obtain rfl := callers
    obtain rfl := log
    rfl

/-- The system on the heap refines the system on values. -/
theorem System.Kept.step (kept : system.Kept rules) {party : Party}
    (step : Step system party after) :
    after.Kept rules ∧ ((∃ holder, Control.Step rules system.values holder after.values) ∨
      after.values = system.values) := by
  cases step with
  | client id step =>
    obtain ⟨still, moves | same⟩ := kept.clientStep rfl step
    · exact ⟨still, .inl ⟨.caller id, .caller id moves⟩⟩
    · exact ⟨still, .inr same⟩
  | owner step =>
    obtain ⟨still, same⟩ := kept.ownerStep step
    rw [kept.source] at step
    refine ⟨still, .inl ⟨.owner, ?_⟩⟩
    rw [same]
    exact .owner step
  | outside step =>
    obtain ⟨still, same⟩ := kept.spared step.spares
    exact ⟨still, .inr same⟩

end Steps

/-- `Start` hands over kept slices that hold the valid rules of its argument. -/
theorem System.Started.kept {rules : RuleSnapshot} {system : System tables}
    (started : system.Started rules) :
    Control.validateRules rules = .ok () ∧ system.Kept rules ∧
      system.values = Control.System.initial tables rules := by
  obtain ⟨growth, given, configured, currentRules, before, after, rfl, ended, rfl⟩ := started
  obtain ⟨valid, ⟨keepsConfigured, readsConfigured⟩, keepsCurrent, readsCurrent⟩ :=
    (startRules_runs growth).returned rfl ended
  refine ⟨valid, ⟨keepsCurrent, keepsConfigured, readsConfigured, fun _ => trivial⟩, ?_⟩
  simp only [System.values, System.initial, readsCurrent]
  rfl

/-- The slices are kept in every reachable state, and the values that they show are reachable. -/
theorem System.reachable_kept {rules : RuleSnapshot} {system : System tables}
    (reachable : Reachable (System.Started rules) Step system) :
    system.Kept rules ∧ system.values.Consistent rules := by
  have formed : rules.WellFormed := by
    obtain ⟨start, labels, started, -⟩ := reachable
    exact (validateRules_ok rules).mp started.kept.1
  have shown : system.Kept rules ∧
      Reachable (· = Control.System.initial tables rules) (Control.Step rules) system.values :=
    reachable.image (System.Kept rules) System.values (fun first begins => begins.kept.2)
      fun before party after kept step => kept.step step
  exact ⟨shown.1, System.reachable_consistent formed shown.2⟩

/-- Whenever the mutex is free and publication is open, both sides hold the same valid rules under
the same generation, although candidates are edited in place and the application writes the
arrays of its arguments at any time. The rules are those that the successful calls produce in the
order in which they held the mutex, each call fails exactly for its own reasons, and a failed call
leaves both sides as they were. -/
theorem runtime_consistent {rules : RuleSnapshot} {system : System tables}
    (reachable : Reachable (System.Started rules) Step system) :
    (system.rulesMu = none → system.rulesOpen = true →
      Control.validateRules (system.heap.read system.currentRules) = .ok () ∧
      (∃ built, system.native.activeRules = some built ∧
        BuiltFrom (system.heap.read system.currentRules) system.native.stats.rulesGeneration built ∧
        Carries (system.heap.read system.currentRules) system.native.stats.rulesGeneration built) ∧
      system.generation = system.native.stats.rulesGeneration) ∧
    (system.rulesMu = none →
      Replays rules system.log (system.heap.read system.currentRules) ∧
      (system.heap.read system.currentRules).toMap = replay system.log rules.toMap) ∧
    ∀ entry ∈ system.log,
      (entry.result ≠ .ok () ↔
        entry.operation.Rejected entry.before.currentRules ∨ entry.published = some false) ∧
      (entry.result = .ok () → entry.published = some true ∧
        entry.after.currentRules = entry.operation.apply entry.before.currentRules ∧
        entry.after.rulesGeneration = entry.before.rulesGeneration + 1) ∧
      (entry.result ≠ .ok () → entry.after = entry.before) := by
  obtain ⟨-, consistent⟩ := System.reachable_kept reachable
  refine ⟨fun free opened => ?_, fun free => consistent.replayed free, fun entry member => ?_⟩
  · obtain ⟨formed, generation, built, active, source⟩ := consistent.agreement free opened
    exact ⟨(validateRules_ok _).mpr formed, ⟨built, active, source, source.carries⟩, generation⟩
  · have sound := consistent.sound entry member
    refine ⟨sound.failed_iff, fun done => ?_, sound.failure⟩
    obtain ⟨edit, -, number, -⟩ := sound.success done
    exact ⟨(sound.outcome.mp done).2, edit, number⟩

/-- The application has the nested rules in two arrays of its own. -/
def lentHeap : GoHeap where
  flows := ⟨fun _ => nestedRules.flows, fun _ => true, 1⟩
  routes := ⟨fun _ => nestedRules.routes, fun _ => true, 1⟩

def lentRules : RuleSlices := ⟨⟨0, 0, 1, 1⟩, ⟨0, 0, 2, 2⟩⟩

/-- A new array has room for four more rules. -/
def roomy : Growth := ⟨fun _ _ => 4, fun _ _ => 4⟩

/-- The clones of the start lie in arrays of their own. The added route lies in the room behind the
clone of the third array. -/
def ownerRules : RuleSlices := ⟨⟨1, 0, 1, 5⟩, ⟨1, 0, 2, 6⟩⟩

def handleRules : RuleSlices := ⟨⟨2, 0, 1, 5⟩, ⟨2, 0, 2, 6⟩⟩

def widerRules : RuleSlices := ⟨⟨3, 0, 1, 5⟩, ⟨3, 0, 3, 6⟩⟩

def storedRules : RuleSlices := ⟨⟨4, 0, 1, 5⟩, ⟨4, 0, 3, 7⟩⟩

/-- The application overwrites its routes between the start and the addition. -/
theorem lentHeap_programs : ∃ heap added stored,
    (startRules roomy lentRules).run.run lentHeap = some (.ok (ownerRules, handleRules), heap) ∧
    heap.read ownerRules = nestedRules ∧
    heap.routes.lent 0 = true ∧ 2 = (heap.routes.contents 0).length ∧
    (addRouteCandidate roomy handleRules narrowRoute).run.run
        { heap with routes := heap.routes.write 0 [default, default] } =
      some (.ok widerRules, added) ∧
    added.read widerRules = nestedRules.withRoute narrowRoute ∧
    (cloneRules roomy widerRules).run.run added = some (.ok storedRules, stored) :=
  ⟨_, _, _, rfl, rfl, rfl, rfl, rfl, rfl, rfl⟩

/-- The owner configures the nested rules. Afterwards the wider rules can be published. -/
theorem nativeConfigureRules_nested : ∃ native generation published,
    nativeConfigureRules none ⟨.none, .none⟩ (toNativeRules nestedRules)
      { DpState.initial listTables with initialized := true } = (.ok (), native) ∧
    nativePublishRules ⟨.none, .none⟩ (toNativeRules (nestedRules.withRoute narrowRoute))
      { native with ready := true } = (.ok generation, published) :=
  ⟨_, _, _, rfl, rfl⟩

/-- A goroutine adds a route to the nested rules after the application has overwritten its own. -/
theorem runtime_consistent_shared :
    ∃ system : System listTables, system.rulesMu = none ∧ system.rulesOpen = true ∧
      system.heap.read system.currentRules = nestedRules.withRoute narrowRoute ∧
      Control.validateRules (system.heap.read system.currentRules) = .ok () := by
  obtain ⟨heap, added, stored, starts, owned, lent, sized, adds, wider, stores⟩ :=
    lentHeap_programs
  obtain ⟨native, generation, published, configures, publishes⟩ := nativeConfigureRules_nested
  rw [← owned] at configures
  rw [← wider] at publishes
  let system := System.initial listTables heap ownerRules handleRules
  have first : System.Started nestedRules system :=
    ⟨roomy, lentRules, ownerRules, handleRules, lentHeap, heap, rfl, starts, rfl⟩
  have start : Run Step system [] system := Run.refl
  have opening := ((((((((start.snoc
    (.owner .init)).snoc
    (.owner (.configure none ⟨.none, .none⟩ configures))).snoc
    (.owner .setup)).snoc
    (.owner (.lock rfl))).snoc
    (.owner .stamp)).snoc
    (.owner .opens)).snoc
    (.owner .unlock)).snoc
    (.owner .announce)).snoc
    (.outside (.writeRoutes [default, default] lent sized))
  have adding := ((((((((((opening.snoc
    (.client 0 (.call (.addRoute narrowRoute)))).snoc
    (.client 0 (.copy roomy rfl))).snoc
    (.client 0 (.prepare rfl))).snoc
    (.client 0 (.wait rfl))).snoc
    (.client 0 (.lock rfl))).snoc
    (.client 0 (.accept roomy adds))).snoc
    (.client 0 (.enter rfl))).snoc
    (.client 0 (.published ⟨.none, .none⟩ publishes))).snoc
    (.client 0 (.store roomy stores))).snoc
    (.client 0 .stamp)).snoc
    (.client 0 .unlock)
  have result := (runtime_consistent ⟨system, _, first, adding⟩).1 rfl rfl
  exact ⟨_, rfl, rfl, (cloneRules_returned stores).reads.trans wider, result.1⟩

end FlowRouter.Control.Shared
