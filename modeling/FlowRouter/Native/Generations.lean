import FlowRouter.Native.Building
import FlowRouter.Native.ListTables

namespace FlowRouter.Native.Memory

variable {tables : RteTables} {views : TableViews tables} {memory after : RuleMemory tables}
  {qsbr : Option Nat} {active : Option (Nat × Parts tables)}

def qsbrObjects (qsbr : Option Nat) : List (Nat × Object tables) :=
  qsbr.toList.map fun address => (address, .qsbr)

def activeObjects (active : Option (Nat × Parts tables)) : List (Nat × Object tables) :=
  active.toList.flatMap fun entry => entry.2.objects entry.1

/-- Between two calls the reader registry and the parts of the active snapshot are all that
lives. -/
structure Kept (views : TableViews tables) (qsbr : Option Nat)
    (active : Option (Nat × Parts tables)) (memory : RuleMemory tables) : Prop where
  objects : memory.heap.objects = qsbrObjects qsbr ++ activeObjects active
  rulesQsbr : memory.rulesQsbr = qsbr
  activeRules : memory.activeRules = active.map Prod.fst
  configured : memory.rulesConfigured = active.isSome
  selfContained : ∀ entry, active = some entry →
    ∃ flows routes, entry.2.SelfContained views flows routes memory.stats.rulesGeneration
  orderly : memory.heap.Orderly

def Sound (views : TableViews tables) (memory : RuleMemory tables) : Prop :=
  ∃ qsbr active, Kept views qsbr active memory

section Names

/-- The decimal digits of a generation determine it. -/
theorem decimal_inj {first second : Nat} (same : first.repr = second.repr) : first = second := by
  have digits := congrArg (fun text => Nat.ofDigitChars 10 text.toList 0) same
  simpa only [Nat.toList_repr, Nat.ofDigitChars_ten_toDigits] using digits

theorem flowName_inj {first second : Nat} (same : s!"dfr_f_{first}" = s!"dfr_f_{second}") :
    first = second := by
  apply decimal_inj
  simpa only [toString, String.append_empty, String.append_right_inj] using same

theorem routeName_inj {first second : Nat} (same : s!"dfr_r_{first}" = s!"dfr_r_{second}") :
    first = second := by
  apply decimal_inj
  simpa only [toString, String.append_empty, String.append_right_inj] using same

/-- The tables of another generation have other names. -/
theorem Kept.vacant (kept : Kept views qsbr active memory) {generation : Nat}
    (other : active.isSome → memory.stats.rulesGeneration ≠ generation) :
    memory.heap.Vacant generation := by
  intro entry member name known named
  rw [kept.objects, List.mem_append] at member
  rcases member with registry | owned
  · obtain ⟨address, -, rfl⟩ := List.mem_map.mp registry
    exact Option.some_ne_none _ named.symm
  · cases active with
    | none => exact (List.not_mem_nil owned).elim
    | some current =>
      obtain ⟨snapshot, parts⟩ := current
      obtain ⟨flows, routes, contained⟩ := kept.selfContained _ rfl
      have differs := other rfl
      rw [activeObjects, Option.toList_some, List.flatMap_singleton] at owned
      simp only [Parts.objects, Parts.actionObjects, Parts.flowObjects, Parts.routeObjects,
        List.mem_cons, List.mem_append, List.mem_map, Option.mem_toList] at owned
      rw [generationNames, List.mem_cons, List.mem_singleton] at known
      rcases owned with rfl | (⟨store, -, rfl⟩ | ⟨⟨address, title, table⟩, found, rfl⟩) |
        ⟨⟨address, title, table⟩, found, rfl⟩
      · exact Option.some_ne_none _ named.symm
      · exact Option.some_ne_none _ named.symm
      · obtain rfl := Option.some.inj named
        have title := contained.flowName _ _ _ found
        rcases known with same | impossible
        · exact differs (flowName_inj (title.symm.trans (TableName.flow.inj same)))
        · exact TableName.noConfusion impossible
      · obtain rfl := Option.some.inj named
        have title := contained.routeName _ _ _ found
        rcases known with impossible | same
        · exact TableName.noConfusion impossible
        · exact differs (routeName_inj (title.symm.trans (TableName.route.inj same)))

end Names

section Calls

theorem get_run : (get : Call tables (RuleMemory tables)) memory = some (memory, memory) := rfl

theorem modify_run (change : RuleMemory tables → RuleMemory tables) :
    (modify change : Call tables Unit) memory = some ((), change memory) := rfl

theorem zmalloc_run (object : Object tables) : zmalloc object memory =
    some (memory.heap.next, memory.withHeap (memory.heap.allocate object)) := rfl

/-- The reader registry has no name. -/
theorem Kept.registered (kept : Kept views none none memory) :
    Kept views (some memory.heap.next) none
      { memory.withHeap (memory.heap.allocate .qsbr) with
        rulesQsbr := some memory.heap.next } where
  objects := by
    have objects : memory.heap.objects = [] := kept.objects
    change memory.heap.objects ++ _ = _
    rw [objects]
    rfl
  rulesQsbr := rfl
  activeRules := kept.activeRules
  configured := kept.configured
  selfContained _ impossible := absurd impossible.symm (Option.some_ne_none _)
  orderly := by
    apply kept.orderly.snoc
    intro name named
    exact absurd named.symm (Option.some_ne_none _)

/-- The registry is created while no snapshot is active. -/
theorem dpQsbrCreate_kept (kept : Kept views qsbr none memory) (fault : Option QsbrFault) :
    ∃ status after qsbr', dpQsbrCreate fault memory = some (status, after) ∧
      Kept views qsbr' none after := by
  have start : dpQsbrCreate fault memory = (if memory.rulesQsbr.isSome then pure 0
      else _ : Call tables Int) memory := bind_run get_run _
  rw [start, kept.rulesQsbr]
  cases qsbr with
  | some address => exact ⟨0, memory, some address, rfl, kept⟩
  | none =>
    have objects : memory.heap.objects = [] := kept.objects
    have split : (memory.heap.allocate .qsbr).objects =
        [] ++ (memory.heap.next, Object.qsbr) :: [] := by
      change memory.heap.objects ++ _ = _
      rw [objects]
    have registered := kept.registered
    cases fault with
    | none => exact ⟨0, _, _, rfl, registered⟩
    | some fault =>
      cases fault with
      | memsize rteErrno => exact ⟨_, memory, none, rfl, kept⟩
      | allocation rteErrno => exact ⟨_, memory, none, rfl, kept⟩
      | init rteErrno =>
        let heap := (memory.heap.allocate .qsbr).erase memory.heap.next
        have freed : free memory.heap.next (memory.withHeap (memory.heap.allocate .qsbr)) =
            some ((), memory.withHeap heap) := by
          change ((memory.heap.allocate .qsbr).release memory.heap.next).map _ = _
          rw [RuleHeap.release_split split]
          rfl
        refine ⟨errnoOr rteErrno einval, memory.withHeap heap, none, ?_, ?_⟩
        · exact (bind_run (zmalloc_run _) _).trans (bind_run freed _)
        · exact ⟨RuleHeap.erase_split split, kept.rulesQsbr, kept.activeRules, kept.configured,
            kept.selfContained, registered.orderly.snoc trivial⟩

/-- A failed build leaves what is kept. -/
theorem Kept.undone (kept : Kept views qsbr active memory) {generation : Nat}
    (undone : Undone memory generation after) (vacant : memory.heap.Vacant generation) :
    Kept views qsbr active { after with stats :=
      { after.stats with rulesPublishFailed := after.stats.rulesPublishFailed + 1 } } := by
  have orderly := undone.orderly kept.orderly vacant
  have objects := undone.objects.trans kept.objects
  rw [undone.rest]
  exact ⟨objects, kept.rulesQsbr, kept.activeRules, kept.configured, kept.selfContained, orderly⟩

theorem dpConfigureRules_sound (stores : views.Stores) (sound : Sound views memory)
    (qsbrFault : Option QsbrFault) (faults : SnapshotFaults) (flows : RuleArray DpFlowRule)
    (routes : RuleArray DpRouteRule) :
    ∃ status after, dpConfigureRules qsbrFault faults flows routes memory = some (status, after) ∧
      Sound views after := by
  obtain ⟨qsbr, active, kept⟩ := sound
  rw [dpConfigureRules, bind_run get_run]
  by_cases initialized : !memory.initialized
  · rw [if_pos initialized]
    exact ⟨_, memory, rfl, qsbr, active, kept⟩
  by_cases busy : memory.rulesConfigured || memory.ready || memory.running || memory.ran
  · rw [if_neg initialized, if_pos busy]
    exact ⟨_, memory, rfl, qsbr, active, kept⟩
  rw [if_neg initialized, if_neg busy]
  obtain rfl : active = none := by
    rw [kept.configured] at busy
    cases active with
    | none => rfl
    | some entry => exact absurd rfl busy
  obtain ⟨status, registered, qsbr', run, kept⟩ := dpQsbrCreate_kept kept qsbrFault
  rw [bind_run run]
  by_cases negative : status < 0
  · rw [if_pos negative]
    exact ⟨status, registered, rfl, qsbr', none, kept⟩
  rw [if_neg negative]
  have vacant : registered.heap.Vacant 1 :=
    kept.vacant fun impossible => absurd impossible Bool.false_ne_true
  obtain ⟨status, result, built, run, outcome⟩ :=
    dpSnapshotBuild_run stores faults flows routes 1 registered
  rw [bind_run run]
  rcases outcome with ⟨rfl, snapshot, parts, rfl, success⟩ | ⟨negative, rfl, undone⟩
  · refine ⟨0, _, rfl, qsbr', some (snapshot, parts), ?_⟩
    have objects := success.objects
    rw [kept.objects] at objects
    refine ⟨?_, ?_, rfl, rfl, ?_, success.orderly kept.orderly vacant⟩
    · rw [objects]
      simp [activeObjects]
    · rw [success.rest]
      exact kept.rulesQsbr
    · rintro entry same
      obtain rfl := Option.some.inj same
      exact ⟨_, _, success.selfContained⟩
  · refine ⟨status, _, ?_, qsbr', none, kept.undone undone vacant⟩
    change (if status < 0 then _ else _ : Call tables Int) built = _
    rw [if_pos negative]
    rfl

theorem dpPublishRules_sound (stores : views.Stores) (sound : Sound views memory)
    (faults : SnapshotFaults) (flows : RuleArray DpFlowRule) (routes : RuleArray DpRouteRule)
    (generation : Option Nat) :
    ∃ result after, dpPublishRules faults flows routes generation memory = some (result, after) ∧
      Sound views after := by
  obtain ⟨qsbr, active, kept⟩ := sound
  cases generation with
  | none => exact ⟨_, memory, rfl, qsbr, active, kept⟩
  | some generation =>
    rw [dpPublishRules, bind_run get_run]
    by_cases missing : !memory.initialized || !memory.rulesConfigured ||
        memory.rulesQsbr.isNone || memory.activeRules.isNone
    · rw [if_pos missing]
      exact ⟨_, memory, rfl, qsbr, active, kept⟩
    rw [if_neg missing]
    cases active with
    | none =>
      rw [kept.activeRules] at missing
      exact absurd (by simp) missing
    | some current =>
      obtain ⟨oldSnapshot, oldParts⟩ := current
      have vacant : memory.heap.Vacant (memory.stats.rulesGeneration + 1) :=
        kept.vacant fun _ => (Nat.succ_ne_self _).symm
      obtain ⟨status, result, built, run, outcome⟩ := dpSnapshotBuild_run stores faults flows
        routes (memory.stats.rulesGeneration + 1) memory
      dsimp only
      rw [bind_run run]
      rcases outcome with ⟨rfl, snapshot, parts, rfl, success⟩ | ⟨negative, rfl, undone⟩
      · let exchanged : RuleMemory tables :=
          { built with
            activeRules := some snapshot
            stats :=
              { built.stats with
                rulesGeneration := memory.stats.rulesGeneration + 1
                rulesPublishSuccess := built.stats.rulesPublishSuccess + 1 } }
        have split : exchanged.heap.objects =
            qsbrObjects qsbr ++ oldParts.objects oldSnapshot ++ parts.objects snapshot := by
          change built.heap.objects = _
          rw [success.objects, kept.objects]
          simp [activeObjects]
        obtain ⟨after, freeing, freed, stats⟩ := dpSnapshotFree_run oldParts split true true
        refine ⟨(0, some (memory.stats.rulesGeneration + 1)), after, ?_, qsbr,
          some (snapshot, parts), ?_⟩
        · change ((modify _ : Call tables Unit) >>= _) built = _
          rw [bind_run (modify_run _), kept.activeRules]
          exact bind_run freeing _
        · have orderly := freed.orderly (success.orderly kept.orderly vacant)
          have rest : after = { memory.withHeap after.heap with
              activeRules := some snapshot, stats := after.stats } := by
            have start : exchanged = { memory.withHeap exchanged.heap with
                activeRules := some snapshot, stats := exchanged.stats } := by
              change { built with activeRules := some snapshot, stats := exchanged.stats } = _
              rw [success.rest]
            rw [freed.rest, start]
            rfl
          refine ⟨?_, ?_, ?_, ?_, ?_, orderly⟩
          · rw [freed.objects]
            simp [activeObjects]
          · rw [rest]
            exact kept.rulesQsbr
          · rw [rest]
            rfl
          · rw [rest]
            exact kept.configured
          · rintro entry same
            obtain rfl := Option.some.inj same
            rw [stats]
            exact ⟨_, _, success.selfContained⟩
      · refine ⟨(status, some generation), _, ?_, qsbr, some (oldSnapshot, oldParts),
          kept.undone undone vacant⟩
        change (if status < 0 then _ else _ : Call tables _) built = _
        rw [if_pos negative]
        rfl

theorem dpRulesTeardown_sound (sound : Sound views memory) :
    ∃ after, dpRulesTeardown memory = some ((), after) ∧ Sound views after := by
  obtain ⟨qsbr, active, kept⟩ := sound
  let detached : RuleMemory tables := { memory with activeRules := none }
  have emptied : ∃ middle, dpSnapshotFree memory.activeRules false true detached =
      some ((), middle) ∧ middle.heap.objects = qsbrObjects qsbr ∧ middle.rulesQsbr = qsbr ∧
        middle.activeRules = none ∧ middle.heap.Orderly := by
    rw [kept.activeRules]
    cases active with
    | none =>
      refine ⟨detached, rfl, ?_, kept.rulesQsbr, rfl, kept.orderly⟩
      exact kept.objects.trans (List.append_nil _)
    | some current =>
      obtain ⟨snapshot, parts⟩ := current
      have split : detached.heap.objects =
          qsbrObjects qsbr ++ parts.objects snapshot ++ [] := by
        change memory.heap.objects = _
        rw [kept.objects]
        simp [activeObjects]
      obtain ⟨middle, run, freed, -⟩ := dpSnapshotFree_run parts split false true
      refine ⟨middle, run, ?_, ?_, ?_, freed.orderly kept.orderly⟩
      · rw [freed.objects, List.append_nil]
      · rw [freed.rest]
        exact kept.rulesQsbr
      · rw [freed.rest]
        rfl
  obtain ⟨middle, run, objects, registry, inactive, orderly⟩ := emptied
  have start : dpRulesTeardown memory = _ :=
    (bind_run get_run _).trans ((bind_run (modify_run _) _).trans (bind_run run _))
  rw [start]
  cases qsbr with
  | none =>
    rw [kept.rulesQsbr]
    exact ⟨_, rfl, none, none, objects, registry, inactive, rfl,
      fun _ impossible => absurd impossible.symm (Option.some_ne_none _), orderly⟩
  | some address =>
    have split : middle.heap.objects = [] ++ (address, Object.qsbr) :: [] := objects
    have freed : free address middle = some ((), middle.withHeap (middle.heap.erase address)) := by
      unfold free
      rw [RuleHeap.release_split split]
      rfl
    rw [kept.rulesQsbr]
    have released : (middle.heap.erase address).Orderly :=
      orderly.snoc (show Registry.Allowed _ middle.heap.log (.released address) from trivial)
    exact ⟨_, (bind_run freed _).trans rfl, none, none, RuleHeap.erase_split split, rfl, inactive,
      rfl, fun _ impossible => absurd impossible.symm (Option.some_ne_none _), released⟩

theorem RuleCall.perform_sound (stores : views.Stores) (sound : Sound views memory)
    (call : RuleCall) : ∃ after, call.perform memory = some ((), after) ∧ Sound views after := by
  cases call with
  | configureRules qsbrFault faults flows routes =>
    obtain ⟨status, after, run, sound⟩ :=
      dpConfigureRules_sound stores sound qsbrFault faults flows routes
    exact ⟨after, bind_run run _, sound⟩
  | publishRules faults flows routes generation =>
    obtain ⟨result, after, run, sound⟩ :=
      dpPublishRules_sound stores sound faults flows routes generation
    exact ⟨after, bind_run run _, sound⟩
  | rulesTeardown => exact dpRulesTeardown_sound sound
  | setFlags initialized ready running ran =>
    obtain ⟨qsbr, active, kept⟩ := sound
    exact ⟨_, rfl, qsbr, active, kept.objects, kept.rulesQsbr, kept.activeRules, kept.configured,
      kept.selfContained, kept.orderly⟩

theorem performAll_sound (stores : views.Stores) (calls : List RuleCall)
    (sound : Sound views memory) :
    ∃ after, performAll calls memory = some ((), after) ∧ Sound views after := by
  induction calls generalizing memory with
  | nil => exact ⟨memory, rfl, sound⟩
  | cons call rest ih =>
    obtain ⟨middle, first, sound⟩ := call.perform_sound stores sound
    obtain ⟨after, others, sound⟩ := ih sound
    exact ⟨after, (bind_run first _).trans others, sound⟩

end Calls

section Moments

def TableName.flowName : TableName → Option String
  | .flow name => some name
  | .route _ => none

def TableName.routeName : TableName → Option String
  | .flow _ => none
  | .route name => some name

/-- These are the names of the hash tables that live after the events. -/
def liveFlowNames (events : List (Registry.Event Resource)) : List String :=
  (Registry.names Resource.tableName (Registry.live events)).filterMap TableName.flowName

def liveRouteNames (events : List (Registry.Event Resource)) : List String :=
  (Registry.names Resource.tableName (Registry.live events)).filterMap TableName.routeName

/-- At every moment of an orderly log the live tables of one kind have distinct names. -/
theorem names_distinct {events earlier later : List (Registry.Event Resource)}
    (orderly : Trace.Legal (Registry.Allowed Resource.tableName) events)
    (moment : events = earlier ++ later) :
    (liveFlowNames earlier).Nodup ∧ (liveRouteNames earlier).Nodup := by
  have names := Registry.names_nodup (moment ▸ orderly).of_append
  constructor
  · apply names.filterMap
    intro first second name left right
    cases first <;> cases second <;> simp_all [TableName.flowName]
  · apply names.filterMap
    intro first second name left right
    cases first <;> cases second <;> simp_all [TableName.routeName]

/-- A process starts without rules. -/
theorem RuleMemory.initial_sound (views : TableViews tables) : Sound views (.initial tables) := by
  refine ⟨none, none, rfl, rfl, rfl, rfl, fun _ impossible => ?_, .nil⟩
  exact absurd impossible.symm (Option.some_ne_none _)

/-- A build returns a self-contained snapshot or undoes its own work. In every sequence of rule
calls, at every moment, no two live tables of one kind have the same name, and no creation is
refused for its name. -/
theorem snapshots_selfContained (stores : views.Stores) :
    (∀ (faults : SnapshotFaults) (flows : RuleArray DpFlowRule) (routes : RuleArray DpRouteRule)
      (generation : Nat) (before : RuleMemory tables), ∃ status result after,
      dpSnapshotBuild faults flows routes generation before = some ((status, result), after) ∧
        ((status = 0 ∧ ∃ snapshot parts, result = some snapshot ∧
            Built views before flows.rules routes.rules generation snapshot parts after) ∨
          (status < 0 ∧ result = none ∧ Undone before generation after))) ∧
    ∀ calls : List RuleCall, ∃ after,
      performAll calls (.initial tables) = some ((), after) ∧
        ∀ earlier later, after.heap.log = earlier ++ later →
          (liveFlowNames earlier).Nodup ∧ (liveRouteNames earlier).Nodup ∧
            ∀ resource, .refused resource ∉ earlier := by
  constructor
  · exact dpSnapshotBuild_run stores
  · intro calls
    obtain ⟨after, run, qsbr, active, kept⟩ :=
      performAll_sound stores calls (RuleMemory.initial_sound views)
    refine ⟨after, run, fun earlier later moment => ?_⟩
    obtain ⟨flowNames, routeNames⟩ := names_distinct kept.orderly moment
    refine ⟨flowNames, routeNames, fun resource member => ?_⟩
    apply Registry.not_refused kept.orderly resource
    rw [moment]
    exact List.mem_append_left _ member

/-- A failed build, a retry of its generation and a teardown with a new start share one log. A build
with a flow and a route leads both of them to their actions. -/
theorem snapshots_selfContained_lists :
    (∃ snapshot built, ∃ parts : Parts listTables,
      dpSnapshotBuild ⟨.none, fun _ => none, fun _ => none⟩
        (.block [{ DpFlowRule.zero with l4Proto := 6 }])
        (.block [{ DpRouteRule.zero with prefixBits := 0x0a000000, depth := 8 }]) 1
        (.initial listTables) = some ((0, some snapshot), built) ∧
      parts.flowTable.isSome ∧ parts.routeTable.isSome ∧
      built.heap.objects = parts.objects snapshot) ∧
    ∃ after,
      performAll
        [.setFlags true false false false,
          .configureRules none ⟨.none, fun _ => none, fun _ => none⟩
            (.block [{ DpFlowRule.zero with l4Proto := 6 }]) (.block []),
          .publishRules ⟨.none, fun _ => some ⟨-enospc, by decide⟩, fun _ => none⟩
            (.block [{ DpFlowRule.zero with l4Proto := 6 }]) (.block []) (some 0),
          .publishRules ⟨.none, fun _ => none, fun _ => none⟩
            (.block [{ DpFlowRule.zero with l4Proto := 17 }]) (.block []) (some 0),
          .rulesTeardown,
          .configureRules none ⟨.none, fun _ => none, fun _ => none⟩ (.block []) (.block [])]
        (.initial listTables) = some ((), after) ∧
      ∀ earlier later, after.heap.log = earlier ++ later →
        (liveFlowNames earlier).Nodup ∧ (liveRouteNames earlier).Nodup ∧
          ∀ resource, .refused resource ∉ earlier := by
  obtain ⟨builds, moments⟩ := snapshots_selfContained listViews_stores
  refine ⟨?_, moments _⟩
  obtain ⟨status, result, built, run, outcome⟩ := builds ⟨.none, fun _ => none, fun _ => none⟩
    (.block [{ DpFlowRule.zero with l4Proto := 6 }])
    (.block [{ DpRouteRule.zero with prefixBits := 0x0a000000, depth := 8 }]) 1
    (.initial listTables)
  have accepted : (dpSnapshotBuild ⟨.none, fun _ => none, fun _ => none⟩
      (.block [{ DpFlowRule.zero with l4Proto := 6 }])
      (.block [{ DpRouteRule.zero with prefixBits := 0x0a000000, depth := 8 }]) 1
      (.initial listTables)).map (fun outcome => outcome.1.1) = some 0 := by
    decide +kernel
  rw [run] at accepted
  obtain rfl : status = 0 := Option.some.inj accepted
  obtain ⟨-, snapshot, parts, rfl, success⟩ | ⟨impossible, -⟩ := outcome
  · obtain ⟨_, _, _, _, flowTable, -⟩ :=
      success.selfContained.flowsStored listViews_hash 0 _ rfl
    obtain ⟨_, _, _, routeTable, -⟩ := success.selfContained.routesStored listViews_lpm 0 _ rfl
    exact ⟨snapshot, built, parts, run, Option.isSome_of_eq_some flowTable,
      Option.isSome_of_eq_some routeTable, success.objects⟩
  · exact absurd impossible (by decide)

end Moments

end FlowRouter.Native.Memory
