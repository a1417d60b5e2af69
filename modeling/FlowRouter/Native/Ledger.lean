import FlowRouter.Native.Outline

namespace FlowRouter.Native.Memory
open Frame Attempt

variable {A : Type} {tables : RteTables} {views : TableViews tables} {memory : RuleMemory tables}

/-- The log of the heap creates every address once and frees only what is live. -/
def RuleMemory.Disciplined (memory : RuleMemory tables) : Prop :=
  Trace.Legal Registry.Disciplined memory.heap.log

/-- A program leaves the log in order. -/
def Orders (program : Call tables A) : Prop :=
  Leads RuleMemory.Disciplined program fun _ => RuleMemory.Disciplined

section Rules

theorem Orders.same {program : Call tables A}
    (keeps : Keeps (fun memory => memory.heap.log) program) : Orders program :=
  keeps.leads (Trace.Legal Registry.Disciplined)

theorem Orders.pure (value : A) : Orders (Pure.pure value : Call tables A) :=
  Leads.pure value fun _ start => start

theorem Orders.bind {B : Type} {program : Call tables A} {next : A → Call tables B}
    (first : Orders program) (second : ∀ value, Orders (next value)) : Orders (program >>= next) :=
  Leads.bind first second

theorem Orders.change {update : RuleMemory tables → RuleMemory tables}
    (same : ∀ memory, (update memory).heap.log = memory.heap.log) :
    Orders (modify update : Call tables Unit) :=
  .same (Keeps.change same)

theorem Orders.changed {B : Type} {update : RuleMemory tables → RuleMemory tables}
    {next : Call tables B} (rest : Orders next)
    (same : ∀ memory, (update memory).heap.log = memory.heap.log) :
    Orders (modify update >>= fun _ => next) :=
  (Orders.change same).bind fun _ => rest

/-- A build leaves the log in order when its parts do. -/
theorem Orders.attempt {B : Type} {first : Build tables A} {next : A → Build tables B}
    (left : Orders first.run) (right : ∀ value, Orders (next value).run) :
    Orders (first >>= next).run := by
  rw [ExceptT.run_bind]
  apply left.bind
  intro result
  cases result with
  | ok value => exact right value
  | error error => exact Orders.pure _

theorem Orders.stopIf {bad : Prop} [Decidable bad] (status : Int) :
    Orders (Attempt.stopIf bad status : Build tables Unit).run := by
  unfold Attempt.stopIf
  split_ifs
  · exact Orders.pure _
  · exact Orders.pure _

theorem Orders.demand (view : RuleMemory tables → Option A) :
    Orders (Attempt.demand view : Build tables A).run := by
  apply Orders.same
  intro memory result after run
  obtain ⟨value, -, same⟩ := Option.map_eq_some_iff.mp run
  obtain ⟨-, rfl⟩ := Prod.mk.inj same
  rfl

/-- A change orders the log when each of its results does. -/
theorem Orders.alter {change : RuleMemory tables → Option (RuleMemory tables)}
    (orders : ∀ memory next, change memory = some next → memory.Disciplined → next.Disciplined) :
    Orders (Attempt.alter change : Build tables Unit).run := by
  intro memory result after start run
  obtain ⟨next, found, same⟩ := Option.map_eq_some_iff.mp run
  obtain ⟨-, rfl⟩ := Prod.mk.inj same
  exact orders memory _ found start

end Rules

section Memory

/-- An address is fresh when it is allocated. -/
theorem RuleMemory.Disciplined.allocate (disciplined : memory.Disciplined)
    (object : Object tables) :
    (memory.withHeap (memory.heap.allocate object)).Disciplined := by
  apply disciplined.snoc
  exact fun member => absurd (memory.heap.below _ member) (lt_irrefl _)

theorem free_orders (address : Nat) : Orders (free address : Call tables Unit) := by
  intro memory value after start run
  obtain ⟨heap, freed, same⟩ := Option.map_eq_some_iff.mp run
  obtain ⟨-, rfl⟩ := Prod.mk.inj same
  unfold RuleHeap.release at freed
  split_ifs at freed with live
  obtain rfl := Option.some.inj freed
  apply Trace.Legal.snoc start
  change address ∈ (Registry.live memory.heap.log).map Prod.fst
  rw [memory.heap.tracked, List.map_map]
  exact live

theorem zmalloc_orders (object : Object tables) : Orders (zmalloc object) := by
  intro memory value after start run
  obtain ⟨-, rfl⟩ := Prod.mk.inj (Option.some.inj run)
  exact start.allocate object

/-- Writes and refusals do not touch the books. -/
theorem write_orders {change : RuleMemory tables → Option (RuleMemory tables)}
    (same : ∀ memory next, change memory = some next → next.heap.log = memory.heap.log) :
    Orders (Attempt.alter change : Build tables Unit).run :=
  Orders.alter fun memory next found start => by
    rw [RuleMemory.Disciplined, same memory next found]
    exact start

theorem rteZmalloc_orders (failure : Option Nat) (object : Object tables) :
    Orders (rteZmalloc failure object).run := by
  cases failure with
  | some rteErrno => exact Orders.pure _
  | none =>
    apply (Orders.demand _).attempt
    intro _
    apply Orders.attempt
    · apply Orders.alter
      intro memory next found start
      obtain rfl := Option.some.inj found
      exact start.allocate object
    · exact fun _ => Orders.pure _

theorem createTable_orders (failure : Option Nat) (object : Object tables) :
    Orders (createTable failure object).run := by
  apply (Orders.demand _).attempt
  intro memory
  split_ifs
  · apply Orders.attempt
    · apply Orders.alter
      intro memory next found start
      obtain rfl := Option.some.inj found
      exact Trace.Legal.snoc start trivial
    · exact fun _ => Orders.pure _
  · exact rteZmalloc_orders failure object

theorem assign_orders (snapshot : Nat) (change : SnapshotCell → SnapshotCell) :
    Orders (assign snapshot change : Build tables Unit).run := by
  apply write_orders
  intro memory next found
  obtain ⟨cell, -, rfl⟩ := Option.map_eq_some_iff.mp found
  rfl

theorem storeAction_orders (pointer : Option Nat) (index : Nat) (action : DpRuleAction) :
    Orders (storeAction pointer index action : Build tables Unit).run := by
  apply write_orders
  intro memory next found
  obtain ⟨address, -, rest⟩ := Option.bind_eq_some_iff.mp found
  obtain ⟨slots, -, rest⟩ := Option.bind_eq_some_iff.mp rest
  obtain ⟨-, -, rest⟩ := Option.bind_eq_some_iff.mp rest
  obtain rfl := Option.some.inj rest
  rfl

theorem rteHashAddKeyData_orders (fault : InsertFault) (pointer : Option Nat) (key : List UInt8)
    (data : Nat) : Orders (rteHashAddKeyData fault pointer key data : Build tables Unit).run := by
  apply (Orders.demand _).attempt
  intro address
  apply (Orders.demand _).attempt
  intro table
  cases fault with
  | some failure => exact Orders.pure _
  | none =>
    apply Orders.attempt
    · apply write_orders
      intro memory next found
      obtain rfl := Option.some.inj found
      rfl
    · exact fun _ => Orders.stopIf _

theorem rteLpmAdd_orders (fault : InsertFault) (pointer : Option Nat) (prefixBits : UInt32)
    (depth : UInt8) (nextHop : UInt32) :
    Orders (rteLpmAdd fault pointer prefixBits depth nextHop : Build tables Unit).run := by
  apply (Orders.demand _).attempt
  intro address
  apply (Orders.demand _).attempt
  intro table
  cases fault with
  | some failure => exact Orders.pure _
  | none =>
    apply Orders.attempt
    · apply write_orders
      intro memory next found
      obtain rfl := Option.some.inj found
      rfl
    · exact fun _ => Orders.stopIf _

theorem addFlows_orders (faults : Nat → InsertFault) (snapshot : SnapshotCell)
    (rules : List DpFlowRule) (i : Nat) :
    Orders (addFlows faults snapshot i rules : Build tables Unit).run := by
  induction rules generalizing i with
  | nil => exact Orders.pure _
  | cons flow rest ih =>
    apply (Orders.stopIf _).attempt
    intro _
    apply (Orders.stopIf _).attempt
    intro _
    apply (Orders.demand _).attempt
    intro table
    apply (Orders.stopIf _).attempt
    intro _
    apply (storeAction_orders _ _ _).attempt
    intro _
    apply (Orders.demand _).attempt
    intro actions
    apply (rteHashAddKeyData_orders _ _ _ _).attempt
    exact fun _ => ih (i + 1)

theorem addRoutes_orders (faults : Nat → InsertFault) (snapshot : SnapshotCell) (flowCount : Nat)
    (rules : List DpRouteRule) (i : Nat) :
    Orders (addRoutes faults snapshot flowCount i rules : Build tables Unit).run := by
  induction rules generalizing i with
  | nil => exact Orders.pure _
  | cons route rest ih =>
    apply (Orders.stopIf _).attempt
    intro _
    apply (Orders.stopIf _).attempt
    intro _
    apply (Orders.stopIf _).attempt
    intro _
    apply (Orders.demand _).attempt
    intro table
    apply (Orders.stopIf _).attempt
    intro _
    apply (Orders.stopIf _).attempt
    intro _
    apply (storeAction_orders _ _ _).attempt
    intro _
    apply (rteLpmAdd_orders _ _ _ _ _).attempt
    exact fun _ => ih (i + 1)

theorem fillSnapshot_orders (faults : SnapshotFaults) (flows : RuleArray DpFlowRule)
    (routes : RuleArray DpRouteRule) (generation snapshot : Nat) :
    Orders (fillSnapshot faults flows routes generation snapshot : Build tables Unit).run := by
  have part (count : Nat) (allocation : Build tables Nat) (orders : Orders allocation.run)
      (change : Nat → SnapshotCell → SnapshotCell) :
      Orders (if count ≠ 0 then do assign snapshot (change (← allocation)) else pure () :
        Build tables Unit).run := by
    split_ifs
    · exact orders.attempt fun address => assign_orders snapshot (change address)
    · exact Orders.pure _
  apply (part _ _ (rteZmalloc_orders _ _) _).attempt
  intro _
  apply (part _ _ (createTable_orders _ _) _).attempt
  intro _
  apply (part _ _ (createTable_orders _ _) _).attempt
  intro _
  apply (Orders.demand _).attempt
  intro cell
  apply (addFlows_orders _ _ _ _).attempt
  exact fun _ => addRoutes_orders _ _ _ _ _

end Memory

section Calls

theorem freeTable_orders (pointer : Option Nat) (record : DpRuleStats → DpRuleStats) :
    Orders (freeTable pointer record : Call tables Unit) := by
  cases pointer with
  | none => exact Orders.pure _
  | some address => exact (free_orders address).bind fun _ => Orders.change fun _ => rfl

theorem dpSnapshotFree_orders (snapshot : Option Nat) (reclaimed recordResourceStats : Bool) :
    Orders (dpSnapshotFree snapshot reclaimed recordResourceStats : Call tables Unit) := by
  cases snapshot with
  | none => exact Orders.pure _
  | some address =>
    apply (Orders.same Keeps.read).bind
    intro memory
    apply (Orders.same (Keeps.lift _)).bind
    intro cell
    apply (freeTable_orders _ _).bind
    intro _
    apply (freeTable_orders _ _).bind
    intro _
    apply (freeTable_orders _ _).bind
    intro _
    apply (freeTable_orders _ _).bind
    intro _
    split_ifs
    · exact Orders.change fun _ => rfl
    · exact Orders.pure _

theorem dpSnapshotBuild_orders (faults : SnapshotFaults) (flows : RuleArray DpFlowRule)
    (routes : RuleArray DpRouteRule) (generation : Nat) :
    Orders (dpSnapshotBuild faults flows routes generation : Call tables _) := by
  unfold dpSnapshotBuild
  split_ifs
  · exact Orders.pure _
  · exact Orders.pure _
  · apply (rteZmalloc_orders _ _).bind
    intro result
    cases result with
    | error status => exact Orders.pure _
    | ok snapshot =>
      apply (fillSnapshot_orders _ _ _ _ _).bind
      intro result
      cases result with
      | ok _ => exact Orders.pure _
      | error status => exact (dpSnapshotFree_orders _ _ _).bind fun _ => Orders.pure _

theorem dpQsbrCreate_orders (fault : Option QsbrFault) :
    Orders (dpQsbrCreate fault : Call tables Int) := by
  apply (Orders.same Keeps.read).bind
  intro memory
  split_ifs
  · exact Orders.pure _
  · rcases fault with - | ⟨rteErrno | rteErrno | rteErrno⟩
    · apply (zmalloc_orders _).bind
      intro address
      exact (Orders.pure _).changed fun _ => rfl
    · exact Orders.pure _
    · exact Orders.pure _
    · exact (zmalloc_orders _).bind fun _ => (free_orders _).bind fun _ => Orders.pure _

theorem dpConfigureRules_orders (qsbrFault : Option QsbrFault) (faults : SnapshotFaults)
    (flows : RuleArray DpFlowRule) (routes : RuleArray DpRouteRule) :
    Orders (dpConfigureRules qsbrFault faults flows routes : Call tables Int) := by
  apply (Orders.same Keeps.read).bind
  intro memory
  split_ifs
  · exact Orders.pure _
  · exact Orders.pure _
  · apply (dpQsbrCreate_orders qsbrFault).bind
    intro status
    split_ifs
    · exact Orders.pure _
    · apply (dpSnapshotBuild_orders _ _ _ _).bind
      rintro ⟨status, snapshot⟩
      dsimp only
      split_ifs
      · exact (Orders.pure _).changed fun _ => rfl
      · exact (Orders.pure _).changed fun _ => rfl

theorem dpPublishRules_orders (faults : SnapshotFaults) (flows : RuleArray DpFlowRule)
    (routes : RuleArray DpRouteRule) (generation : Option Nat) :
    Orders (dpPublishRules faults flows routes generation : Call tables _) := by
  cases generation with
  | none => exact Orders.pure _
  | some generation =>
    apply (Orders.same Keeps.read).bind
    intro memory
    split_ifs
    · exact Orders.pure _
    · apply (dpSnapshotBuild_orders _ _ _ _).bind
      rintro ⟨status, snapshot⟩
      dsimp only
      split_ifs
      · exact (Orders.pure _).changed fun _ => rfl
      · apply Orders.changed
        · exact (dpSnapshotFree_orders _ _ _).bind fun _ => Orders.pure _
        · exact fun _ => rfl

theorem dpRulesTeardown_orders : Orders (dpRulesTeardown : Call tables Unit) := by
  have last : Orders (modify fun memory => { memory with rulesConfigured := false } :
      Call tables Unit) := Orders.change fun _ => rfl
  apply (Orders.same Keeps.read).bind
  intro memory
  apply Orders.changed
  · apply (dpSnapshotFree_orders _ _ _).bind
    intro _
    cases memory.rulesQsbr with
    | none => exact last
    | some address =>
      apply (free_orders address).bind
      intro _
      exact last.changed fun _ => rfl
  · exact fun _ => rfl

theorem RuleCall.perform_orders (call : RuleCall) : Orders (call.perform : Call tables Unit) := by
  cases call with
  | configureRules qsbrFault faults flows routes =>
    exact (dpConfigureRules_orders _ _ _ _).bind fun _ => Orders.pure _
  | publishRules faults flows routes generation =>
    exact (dpPublishRules_orders _ _ _ _).bind fun _ => Orders.pure _
  | rulesTeardown => exact dpRulesTeardown_orders
  | setFlags initialized ready running ran => exact Orders.change fun _ => rfl

theorem performAll_orders (calls : List RuleCall) :
    Orders (performAll calls : Call tables Unit) := by
  induction calls with
  | nil => exact Orders.pure _
  | cons call rest ih => exact call.perform_orders.bind fun _ => ih

end Calls

section Runs

/-- At every moment of the log each allocation is live or has been freed once. -/
theorem RuleMemory.Disciplined.accounts (disciplined : memory.Disciplined)
    {earlier later : List (Registry.Event Resource)} (moment : memory.heap.log = earlier ++ later) :
    (Registry.createdIds earlier).Nodup ∧ (Registry.createdIds earlier).Perm
      (Registry.releasedIds earlier ++ (Registry.live earlier).map Prod.fst) := by
  apply Registry.accounts
  rw [RuleMemory.Disciplined, moment] at disciplined
  exact disciplined.of_append

theorem RuleMemory.initial_disciplined : (RuleMemory.initial tables).Disciplined := .nil

theorem performAll_snoc (calls : List RuleCall) (last : RuleCall)
    {middle after : RuleMemory tables} (first : performAll calls memory = some ((), middle))
    (run : last.perform middle = some ((), after)) :
    performAll (calls ++ [last]) memory = some ((), after) := by
  induction calls generalizing memory with
  | nil =>
    obtain rfl := (Prod.mk.inj (Option.some.inj first)).2
    exact (bind_run run _).trans rfl
  | cons call rest ih =>
    obtain ⟨⟨_, next⟩, begun, others⟩ := Option.bind_eq_some_iff.mp first
    exact (bind_run begun _).trans (ih others)

/-- In every sequence of rule calls, at every moment, what has been allocated is live or has been
freed exactly once. Between two calls only the registry of readers and the parts of the one active
snapshot live, and a final teardown leaves nothing. -/
theorem memory_accounted (stores : views.Stores) (calls : List RuleCall) :
    ∃ memory, performAll calls (.initial tables) = some ((), memory) ∧
      (∀ earlier later, memory.heap.log = earlier ++ later →
        (Registry.createdIds earlier).Nodup ∧ (Registry.createdIds earlier).Perm
          (Registry.releasedIds earlier ++ (Registry.live earlier).map Prod.fst)) ∧
      (∃ active : Option (Nat × Parts tables), memory.activeRules = active.map Prod.fst ∧
        memory.heap.objects = qsbrObjects memory.rulesQsbr ++ activeObjects active) ∧
      ∃ final, performAll (calls ++ [.rulesTeardown]) (.initial tables) = some ((), final) ∧
        final.heap.objects = [] ∧
        (Registry.releasedIds final.heap.log).Perm (Registry.createdIds final.heap.log) := by
  obtain ⟨memory, run, sound⟩ := performAll_sound stores calls (RuleMemory.initial_sound views)
  have disciplined : memory.Disciplined :=
    performAll_orders calls _ () memory RuleMemory.initial_disciplined run
  refine ⟨memory, run, fun earlier later moment => disciplined.accounts moment, ?_, ?_⟩
  · obtain ⟨qsbr, active, kept⟩ := sound
    refine ⟨active, kept.activeRules, ?_⟩
    rw [kept.rulesQsbr]
    exact kept.objects
  · obtain ⟨final, torn, sound⟩ := dpRulesTeardown_sound sound
    obtain ⟨-, inactive, registry, -⟩ :=
      dpRulesTeardown_leads memory.flags memory () final rfl torn
    have empty : final.heap.objects = [] := by
      obtain ⟨qsbr, active, kept⟩ := sound
      have objects := kept.objects
      rw [kept.activeRules, Option.map_eq_none_iff] at inactive
      rw [← kept.rulesQsbr, registry, inactive] at objects
      exact objects
    have books := (dpRulesTeardown_orders memory () final disciplined torn).accounts
      (List.append_nil _).symm
    refine ⟨final, performAll_snoc calls .rulesTeardown run torn, empty, ?_⟩
    have nothing : (Registry.live final.heap.log).map Prod.fst = [] := by
      rw [final.heap.tracked, empty]
      rfl
    rw [nothing, List.append_nil] at books
    exact books.2.symm

/-- The failed publication has freed its own objects before the teardown. -/
theorem memory_accounted_lists :
    ∃ final, performAll ([.setFlags true false false false,
        .configureRules none ⟨.none, fun _ => none, fun _ => none⟩
          (.block [{ DpFlowRule.zero with l4Proto := 6 }]) (.block []),
        .publishRules ⟨.none, fun _ => some ⟨-enospc, by decide⟩, fun _ => none⟩
          (.block [{ DpFlowRule.zero with l4Proto := 6 }]) (.block []) (some 0)] ++
        [.rulesTeardown]) (.initial listTables) = some ((), final) ∧
      final.heap.objects = [] ∧
      (Registry.releasedIds final.heap.log).Perm (Registry.createdIds final.heap.log) := by
  obtain ⟨-, -, -, -, final⟩ := memory_accounted listViews_stores
    [.setFlags true false false false,
      .configureRules none ⟨.none, fun _ => none, fun _ => none⟩
        (.block [{ DpFlowRule.zero with l4Proto := 6 }]) (.block []),
      .publishRules ⟨.none, fun _ => some ⟨-enospc, by decide⟩, fun _ => none⟩
        (.block [{ DpFlowRule.zero with l4Proto := 6 }]) (.block []) (some 0)]
  exact final

end Runs

end FlowRouter.Native.Memory
