import FlowRouter.Native.Following
import FlowRouter.Native.Generations

namespace FlowRouter.Native.Memory
open Attempt

variable {tables : RteTables} {views : TableViews tables} {memory after : RuleMemory tables}
  {qsbr : Option Nat} {active : Option (Nat × Parts tables)}

/-- The value of a memory has a snapshot value in place of the pointer. -/
def RuleMemory.view (memory : RuleMemory tables) (active : Option (DpRuleSnapshot tables)) :
    DpState tables :=
  ⟨memory.initialized, memory.rulesConfigured, memory.ready, memory.running, memory.ran, active,
    memory.rulesQsbr.isSome, memory.stats⟩

/-- The active snapshot of a memory represents the active snapshot of a value state. -/
structure Mirrored (views : TableViews tables) (active : Option (Nat × Parts tables))
    (memory : RuleMemory tables) (state : DpState tables) : Prop where
  kept : ∃ qsbr, Kept views qsbr active memory
  represents : Option.Rel (fun entry built => entry.2.Represents views built) active
    state.activeRules
  rest : state = memory.view state.activeRules

def Mirrors (views : TableViews tables) (memory : RuleMemory tables) (state : DpState tables) :
    Prop :=
  ∃ active, Mirrored views active memory state

/-- The registry is created in memory as over values. -/
theorem dpQsbrCreate_view {fault : Option QsbrFault} {status : Int}
    (run : dpQsbrCreate fault memory = some (status, after))
    (built : Option (DpRuleSnapshot tables)) :
    Native.dpQsbrCreate fault (memory.view built) = (status, after.view built) := by
  have start : dpQsbrCreate fault memory = (if memory.rulesQsbr.isSome then pure 0
      else _ : Call tables Int) memory := bind_run get_run _
  rw [start] at run
  by_cases present : memory.rulesQsbr.isSome
  · rw [if_pos present] at run
    obtain ⟨rfl, rfl⟩ := Prod.mk.inj (Option.some.inj run)
    exact if_pos present
  · rw [if_neg present] at run
    unfold Native.dpQsbrCreate
    rw [if_neg (show ¬ (memory.view built).rulesQsbr from present)]
    cases fault with
    | none =>
      obtain ⟨rfl, rfl⟩ := Prod.mk.inj (Option.some.inj run)
      rfl
    | some fault =>
      cases fault with
      | memsize rteErrno =>
        obtain ⟨rfl, rfl⟩ := Prod.mk.inj (Option.some.inj run)
        rfl
      | allocation rteErrno =>
        obtain ⟨rfl, rfl⟩ := Prod.mk.inj (Option.some.inj run)
        rfl
      | init rteErrno =>
        change (((memory.heap.allocate .qsbr).release memory.heap.next).map _).bind _ = _ at run
        cases released : (memory.heap.allocate .qsbr).release memory.heap.next with
        | none =>
          rw [released] at run
          exact absurd run.symm (Option.some_ne_none _)
        | some heap =>
          rw [released] at run
          obtain ⟨rfl, rfl⟩ := Prod.mk.inj (Option.some.inj run)
          rfl

/-- A failed build counts as a failed publication and changes nothing else. -/
theorem Mirrored.undone {state : DpState tables} (mirrored : Mirrored views active memory state)
    {generation : Nat} (undone : Undone memory generation after)
    (vacant : memory.heap.Vacant generation) :
    Mirrored views active { after with stats :=
        { after.stats with rulesPublishFailed := after.stats.rulesPublishFailed + 1 } }
      { state with stats :=
        { state.stats with rulesPublishFailed := state.stats.rulesPublishFailed + 1 } } := by
  obtain ⟨⟨qsbr, kept⟩, represents, rest⟩ := mirrored
  refine ⟨⟨qsbr, kept.undone undone vacant⟩, represents, ?_⟩
  rw [rest, undone.rest]
  rfl

theorem dpConfigureRules_mirrors (stores : views.Stores) (hash : views.ExactHash)
    {state : DpState tables} (mirrors : Mirrors views memory state)
    (qsbrFault : Option QsbrFault) (faults : SnapshotFaults) (flows : RuleArray DpFlowRule)
    (routes : RuleArray DpRouteRule) :
    ∃ seen, faults.Seen seen ∧
      let result := Native.dpConfigureRules qsbrFault seen flows routes state
      ∃ after, dpConfigureRules qsbrFault faults flows routes memory = some (result.1, after) ∧
        Mirrors views after result.2 := by
  obtain ⟨active, mirrored⟩ := mirrors
  obtain ⟨⟨qsbr, kept⟩, represents, rest⟩ := mirrored
  rw [dpConfigureRules, bind_run get_run]
  have flags : state.initialized = memory.initialized ∧
      (state.rulesConfigured || state.ready || state.running || state.ran) =
        (memory.rulesConfigured || memory.ready || memory.running || memory.ran) := by
    rw [rest]
    exact ⟨rfl, rfl⟩
  unfold Native.dpConfigureRules
  rw [flags.1, flags.2]
  by_cases initialized : !memory.initialized
  · simp only [if_pos initialized]
    exact ⟨faults.allocations, .inl rfl, memory, rfl, active, ⟨qsbr, kept⟩, represents, rest⟩
  by_cases busy : memory.rulesConfigured || memory.ready || memory.running || memory.ran
  · simp only [if_neg initialized, if_pos busy]
    exact ⟨faults.allocations, .inl rfl, memory, rfl, active, ⟨qsbr, kept⟩, represents, rest⟩
  simp only [if_neg initialized, if_neg busy]
  obtain rfl : active = none := by
    rw [kept.configured] at busy
    cases active with
    | none => rfl
    | some entry => exact absurd rfl busy
  have idle : state.activeRules = none := by
    generalize state.activeRules = snapshot at represents
    cases represents
    rfl
  obtain ⟨status, registered, qsbr', run, kept⟩ := dpQsbrCreate_kept kept qsbrFault
  have created : Native.dpQsbrCreate qsbrFault state = (status, registered.view none) := by
    rw [rest, idle]
    exact dpQsbrCreate_view run none
  rw [bind_run run, created]
  have mirrored : Mirrored views none registered (registered.view none) :=
    ⟨⟨qsbr', kept⟩, Option.Rel.none, rfl⟩
  by_cases negative : status < 0
  · simp only [if_pos negative]
    exact ⟨faults.allocations, .inl rfl, registered, rfl, none, mirrored⟩
  simp only [if_neg negative]
  have vacant : registered.heap.Vacant 1 :=
    kept.vacant fun impossible => absurd impossible Bool.false_ne_true
  obtain ⟨seen, met, outcome⟩ := dpSnapshotBuild_follows stores hash faults flows routes vacant
  refine ⟨seen, met, ?_⟩
  cases build : Native.dpSnapshotBuild tables seen flows routes 1 with
  | error status =>
    rw [build] at outcome
    obtain ⟨built, run, negative, undone⟩ := outcome
    rw [bind_run run]
    refine ⟨_, ?_, none, mirrored.undone undone vacant⟩
    change (if status < 0 then _ else _ : Call tables Int) built = _
    rw [if_pos negative]
    rfl
  | ok value =>
    rw [build] at outcome
    obtain ⟨snapshot, parts, built, run, represents, success⟩ := outcome
    rw [bind_run run]
    refine ⟨_, rfl, some (snapshot, parts), ⟨qsbr', ?_⟩, Option.Rel.some represents, ?_⟩
    · have objects := success.objects
      rw [kept.objects] at objects
      refine ⟨?_, ?_, rfl, rfl, ?_, success.orderly kept.orderly vacant⟩
      · rw [objects]
        simp [activeObjects]
      · rw [success.rest]
        exact kept.rulesQsbr
      · rintro entry same
        obtain rfl := Option.some.inj same
        exact ⟨_, _, success.selfContained⟩
    · rw [success.rest]
      rfl

/-- Freeing represented parts records what freeing their value records. -/
theorem Parts.Represents.freedStats {parts : Parts tables} {built : DpRuleSnapshot tables}
    (represents : parts.Represents views built) (reclaimed recordResourceStats : Bool)
    (stats : DpRuleStats) :
    parts.freedStats reclaimed recordResourceStats stats =
      Native.dpSnapshotFree (some built) reclaimed recordResourceStats stats := by
  have flow : parts.flowTable.isSome = built.flowTable.isSome := by
    have related := represents.flowTable
    generalize parts.flowTable = table at related ⊢
    generalize built.flowTable = table' at related ⊢
    cases related <;> rfl
  have route : parts.routeTable.isSome = built.routeTable.isSome := by
    rw [← represents.routeTable, Option.isSome_map]
  have actions : parts.actions.isSome = !built.actions.isEmpty := by
    rw [← Option.isSome_map (f := Prod.snd), represents.actions, unlessEmpty]
    cases built.actions <;> rfl
  unfold Parts.freedStats Native.dpSnapshotFree
  rw [flow, route, actions]

theorem dpPublishRules_mirrors (stores : views.Stores) (hash : views.ExactHash)
    {state : DpState tables} (mirrors : Mirrors views memory state) (faults : SnapshotFaults)
    (flows : RuleArray DpFlowRule) (routes : RuleArray DpRouteRule) (generation : Option Nat) :
    ∃ seen, faults.Seen seen ∧
      let result := Native.dpPublishRules seen flows routes generation state
      ∃ after, dpPublishRules faults flows routes generation memory =
          some ((result.1, result.2.1), after) ∧
        Mirrors views after result.2.2 := by
  obtain ⟨active, mirrored⟩ := mirrors
  cases generation with
  | none => exact ⟨faults.allocations, .inl rfl, memory, rfl, active, mirrored⟩
  | some generation =>
    obtain ⟨⟨qsbr, kept⟩, represents, rest⟩ := mirrored
    have flags : (!state.initialized || !state.rulesConfigured || !state.rulesQsbr ||
        state.activeRules.isNone) = (!memory.initialized || !memory.rulesConfigured ||
          memory.rulesQsbr.isNone || memory.activeRules.isNone) := by
      have same : state.activeRules.isNone = memory.activeRules.isNone := by
        rw [kept.activeRules]
        generalize state.activeRules = snapshot at represents
        cases represents <;> rfl
      rw [same, rest]
      simp [RuleMemory.view]
    have stats : state.stats = memory.stats := by
      rw [rest]
      rfl
    rw [dpPublishRules, bind_run get_run]
    unfold Native.dpPublishRules
    rw [flags, stats]
    by_cases missing : !memory.initialized || !memory.rulesConfigured ||
        memory.rulesQsbr.isNone || memory.activeRules.isNone
    · simp only [if_pos missing]
      exact ⟨faults.allocations, .inl rfl, memory, rfl, active, ⟨qsbr, kept⟩, represents, rest⟩
    simp only [if_neg missing]
    cases active with
    | none =>
      rw [kept.activeRules] at missing
      exact absurd (by simp) missing
    | some current =>
      obtain ⟨oldSnapshot, oldParts⟩ := current
      have vacant : memory.heap.Vacant (memory.stats.rulesGeneration + 1) :=
        kept.vacant fun _ => (Nat.succ_ne_self _).symm
      obtain ⟨seen, met, outcome⟩ := dpSnapshotBuild_follows stores hash faults flows routes vacant
      refine ⟨seen, met, ?_⟩
      cases build : Native.dpSnapshotBuild tables seen flows routes
          (memory.stats.rulesGeneration + 1) with
      | error status =>
        rw [build] at outcome
        obtain ⟨built, run, negative, undone⟩ := outcome
        rw [bind_run run]
        have mirrored : Mirrored views (some (oldSnapshot, oldParts)) memory state :=
          ⟨⟨qsbr, kept⟩, represents, rest⟩
        have failed := mirrored.undone undone vacant
        rw [stats] at failed
        refine ⟨_, ?_, _, failed⟩
        change (if status < 0 then _ else _ : Call tables _) built = _
        rw [if_pos negative]
        rfl
      | ok value =>
        rw [build] at outcome
        obtain ⟨snapshot, parts, built, run, fresh, success⟩ := outcome
        rw [bind_run run]
        let exchanged : RuleMemory tables :=
          { built with
            activeRules := some snapshot
            stats :=
              { built.stats with
                rulesGeneration := memory.stats.rulesGeneration + 1
                rulesPublishSuccess := built.stats.rulesPublishSuccess + 1 } }
        have split : exchanged.heap.objects =
            qsbrObjects qsbr ++ oldParts.objects oldSnapshot ++ parts.objects snapshot := by
          change built.heap.objects = _
          rw [success.objects, kept.objects]
          simp [activeObjects]
        have start : exchanged = { memory.withHeap exchanged.heap with
            activeRules := some snapshot
            stats :=
              { memory.stats with
                rulesGeneration := memory.stats.rulesGeneration + 1
                rulesPublishSuccess := memory.stats.rulesPublishSuccess + 1 } } := by
          change { built with
            activeRules := some snapshot
            stats :=
              { built.stats with
                rulesGeneration := memory.stats.rulesGeneration + 1
                rulesPublishSuccess := built.stats.rulesPublishSuccess + 1 } } = _
          rw [success.rest]
          rfl
        obtain ⟨after, freeing, freed, counted⟩ := dpSnapshotFree_run oldParts split true true
        refine ⟨after, ?_, some (snapshot, parts), ⟨qsbr, ?_⟩, Option.Rel.some fresh, ?_⟩
        · change ((modify _ : Call tables Unit) >>= _) built = _
          rw [bind_run (modify_run _), kept.activeRules]
          exact bind_run freeing _
        · refine ⟨?_, ?_, ?_, ?_, ?_, freed.orderly (success.orderly kept.orderly vacant)⟩
          · rw [freed.objects]
            simp [activeObjects]
          · rw [freed.rest, start]
            exact kept.rulesQsbr
          · rw [freed.rest, start]
            rfl
          · rw [freed.rest, start]
            exact kept.configured
          · rintro entry same
            obtain rfl := Option.some.inj same
            rw [counted]
            exact ⟨_, _, success.selfContained⟩
        · have old : ∃ value, state.activeRules = some value ∧ oldParts.Represents views value := by
            generalize state.activeRules = snapshot at represents
            cases represents with
            | some represents => exact ⟨_, rfl, represents⟩
          obtain ⟨value, found, represented⟩ := old
          rw [freed.rest, start, counted, represented.freedStats, found, rest, start]
          rfl

theorem dpRulesTeardown_mirrors {state : DpState tables} (mirrors : Mirrors views memory state) :
    ∃ after, dpRulesTeardown memory = some ((), after) ∧
      Mirrors views after (Native.dpRulesTeardown state) := by
  obtain ⟨active, ⟨qsbr, kept⟩, represents, rest⟩ := mirrors
  generalize state.activeRules = value at represents rest
  subst rest
  let detached : RuleMemory tables := { memory with activeRules := none }
  let stats := Native.dpSnapshotFree value false true memory.stats
  have emptied : ∃ heap : RuleHeap tables, dpSnapshotFree memory.activeRules false true detached =
      some ((), { detached.withHeap heap with stats := stats }) ∧
        heap.objects = qsbrObjects qsbr ∧ heap.Orderly := by
    rw [kept.activeRules]
    cases represents with
    | none =>
      exact ⟨memory.heap, rfl, kept.objects.trans (List.append_nil _), kept.orderly⟩
    | @some current value represents =>
      obtain ⟨snapshot, parts⟩ := current
      have split : detached.heap.objects =
          qsbrObjects qsbr ++ parts.objects snapshot ++ [] := by
        change memory.heap.objects = _
        rw [kept.objects]
        simp [activeObjects]
      obtain ⟨middle, run, freed, counted⟩ := dpSnapshotFree_run parts split false true
      refine ⟨middle.heap, ?_, ?_, freed.orderly kept.orderly⟩
      · have counted : middle.stats = stats := counted.trans (represents.freedStats _ _ _)
        have same : middle = { detached.withHeap middle.heap with stats := stats } := by
          apply freed.rest.trans
          rw [counted]
        rw [← same]
        exact run
      · rw [freed.objects, List.append_nil]
  obtain ⟨heap, run, objects, orderly⟩ := emptied
  have start : dpRulesTeardown memory = _ :=
    (bind_run get_run _).trans ((bind_run (modify_run _) _).trans (bind_run run _))
  have nothing (entry : Nat × Parts tables) (impossible : none = some entry) (P : Prop) : P :=
    absurd impossible.symm (Option.some_ne_none _)
  have registry := kept.rulesQsbr
  rw [start, registry]
  cases qsbr with
  | none =>
    refine ⟨_, rfl, none, ⟨none, objects, registry, rfl, rfl, fun _ same => nothing _ same _,
      orderly⟩, Option.Rel.none, ?_⟩
    simp [Native.dpRulesTeardown, RuleMemory.view, RuleMemory.withHeap, registry, stats, detached,
      -dpSnapshotFree_generation]
  | some address =>
    let middle : RuleMemory tables := { detached.withHeap heap with stats := stats }
    have split : heap.objects = [] ++ (address, Object.qsbr) :: [] := objects
    have freed : free address middle = some ((), middle.withHeap (heap.erase address)) := by
      change (heap.release address).map _ = _
      rw [RuleHeap.release_split split]
      rfl
    have released : (heap.erase address).Orderly :=
      orderly.snoc (show Registry.Allowed _ heap.log (.released address) from trivial)
    refine ⟨_, (bind_run freed _).trans rfl, none, ⟨none, RuleHeap.erase_split split, rfl, rfl, rfl,
      fun _ same => nothing _ same _, released⟩, Option.Rel.none, ?_⟩
    simp [Native.dpRulesTeardown, RuleMemory.view, RuleMemory.withHeap, registry, stats, middle,
      detached]

/-- A call answers its caller with a status and, for a publication, with the value behind the
generation pointer. -/
inductive Reply where
  | configured (status : Int)
  | published (status : Int) (generation : Option Nat)
  | done
  deriving DecidableEq, Repr

def RuleCall.answer : RuleCall → Call tables Reply
  | .configureRules qsbrFault faults flows routes => do
      return .configured (← dpConfigureRules qsbrFault faults flows routes)
  | .publishRules faults flows routes generation => do
      let (status, generation) ← dpPublishRules faults flows routes generation
      return .published status generation
  | .rulesTeardown => do
      dpRulesTeardown
      return .done
  | .setFlags initialized ready running ran => do
      modify fun memory => { memory with initialized, ready, running, ran }
      return .done

def answerAll : List RuleCall → Call tables (List Reply)
  | [] => return []
  | call :: rest => do
      let reply ← call.answer
      return reply :: (← answerAll rest)

/-- The same call over values. -/
inductive Answered (state : DpState tables) : RuleCall → Reply → DpState tables → Prop
  | configureRules (qsbrFault : Option QsbrFault) (faults : SnapshotFaults)
      (flows : RuleArray DpFlowRule) (routes : RuleArray DpRouteRule) (seen : BuildFaults) :
      faults.Seen seen →
      Answered state (.configureRules qsbrFault faults flows routes)
        (.configured (Native.dpConfigureRules qsbrFault seen flows routes state).1)
        (Native.dpConfigureRules qsbrFault seen flows routes state).2
  | publishRules (faults : SnapshotFaults) (flows : RuleArray DpFlowRule)
      (routes : RuleArray DpRouteRule) (generation : Option Nat) (seen : BuildFaults) :
      faults.Seen seen →
      Answered state (.publishRules faults flows routes generation)
        (.published (Native.dpPublishRules seen flows routes generation state).1
          (Native.dpPublishRules seen flows routes generation state).2.1)
        (Native.dpPublishRules seen flows routes generation state).2.2
  | rulesTeardown : Answered state .rulesTeardown .done (Native.dpRulesTeardown state)
  | setFlags (initialized ready running ran : Bool) :
      Answered state (.setFlags initialized ready running ran) .done
        { state with initialized, ready, running, ran }

inductive AnsweredAll : DpState tables → List RuleCall → List Reply → DpState tables → Prop
  | nil (state : DpState tables) : AnsweredAll state [] [] state
  | cons {state middle after : DpState tables} {call : RuleCall} {reply : Reply}
      {calls : List RuleCall} {replies : List Reply} :
      Answered state call reply middle → AnsweredAll middle calls replies after →
      AnsweredAll state (call :: calls) (reply :: replies) after

theorem RuleCall.answer_mirrors (stores : views.Stores) (hash : views.ExactHash)
    {state : DpState tables} (mirrors : Mirrors views memory state) (call : RuleCall) :
    ∃ reply after next, call.answer memory = some (reply, after) ∧
      Answered state call reply next ∧ Mirrors views after next := by
  cases call with
  | configureRules qsbrFault faults flows routes =>
    obtain ⟨seen, met, after, run, mirrors⟩ :=
      dpConfigureRules_mirrors stores hash mirrors qsbrFault faults flows routes
    exact ⟨_, after, _, bind_run run _, .configureRules _ _ _ _ seen met, mirrors⟩
  | publishRules faults flows routes generation =>
    obtain ⟨seen, met, after, run, mirrors⟩ :=
      dpPublishRules_mirrors stores hash mirrors faults flows routes generation
    exact ⟨_, after, _, bind_run run _, .publishRules _ _ _ _ seen met, mirrors⟩
  | rulesTeardown =>
    obtain ⟨after, run, mirrors⟩ := dpRulesTeardown_mirrors mirrors
    exact ⟨_, after, _, bind_run run _, .rulesTeardown, mirrors⟩
  | setFlags initialized ready running ran =>
    obtain ⟨active, ⟨qsbr, kept⟩, represents, rest⟩ := mirrors
    refine ⟨_, _, _, rfl, .setFlags initialized ready running ran, active, ⟨qsbr, kept.objects,
      kept.rulesQsbr, kept.activeRules, kept.configured, kept.selfContained, kept.orderly⟩,
      represents, ?_⟩
    rw [rest]
    simp [RuleMemory.view]

theorem answerAll_mirrors (stores : views.Stores) (hash : views.ExactHash)
    (calls : List RuleCall) {state : DpState tables} (mirrors : Mirrors views memory state) :
    ∃ replies after next, answerAll calls memory = some (replies, after) ∧
      AnsweredAll state calls replies next ∧ Mirrors views after next := by
  induction calls generalizing memory state with
  | nil => exact ⟨[], memory, state, rfl, .nil state, mirrors⟩
  | cons call rest ih =>
    obtain ⟨reply, middle, value, first, answered, mirrors⟩ :=
      call.answer_mirrors stores hash mirrors
    obtain ⟨replies, after, next, others, answeredAll, mirrors⟩ := ih mirrors
    exact ⟨reply :: replies, after, next, (bind_run first _).trans (bind_run others _),
      .cons answered answeredAll, mirrors⟩

theorem Mirrors.initial (views : TableViews tables) :
    Mirrors views (.initial tables) (DpState.initial tables) := by
  refine ⟨none, ⟨none, rfl, rfl, rfl, rfl, fun _ impossible => ?_, .nil⟩, Option.Rel.none, rfl⟩
  exact absurd impossible.symm (Option.some_ne_none _)

section Lookups

/-- A pointer to an element of a live action array is read there. -/
def actionAt (heap : RuleHeap tables) (pointer : Nat) : Option DpRuleAction :=
  heap.objects.findSome? fun entry =>
    match entry.2 with
    | .actions slots => if entry.1 ≤ pointer then slots[pointer - entry.1]? else none
    | _ => none

/-- The outer option is missing where the lookup uses freed memory or a null pointer. -/
def lookupFlow (heap : RuleHeap tables) (info : DpPacketMeta) (cell : SnapshotCell) :
    Option (Option Nat) :=
  match cell.flowTable with
  | none => some none
  | some _ => do
      let table ← heap.flowTableAt cell.flowTable
      let found := tables.hashLookupData table (dpFlowKeyFromMeta info).bytes
      return if 0 ≤ found.1 then some found.2 else none

def lookupRoute (heap : RuleHeap tables) (info : DpPacketMeta) (cell : SnapshotCell) :
    Option (Option Nat) :=
  match cell.routeTable with
  | none => some none
  | some _ => do
      let table ← heap.routeTableAt cell.routeTable
      let found := tables.lpmLookup table info.dstIpv4
      if found.1 = 0 ∧ found.2.toNat < cell.actionCount then
        return some ((← cell.actions) + found.2.toNat)
      else return none

/-- The second component of the result is the pointer behind `action`. -/
def dpLookupPacket (heap : RuleHeap tables) (info : DpPacketMeta) (snapshot : Option Nat) :
    Option (DpLookupResult × Option Nat) :=
  match snapshot with
  | none => some (.miss, none)
  | some address => do
      let cell ← heap.snapshotAt address
      match ← lookupFlow heap info cell with
      | some pointer => return (.flowHit, some pointer)
      | none =>
          match ← lookupRoute heap info cell with
          | some pointer => return (.routeHit, some pointer)
          | none => return (.miss, none)

/-- The worker reads the action of a hit through the pointer. -/
def readAction (heap : RuleHeap tables) (found : DpLookupResult × Option Nat) :
    Option (DpLookupResult × Option DpRuleAction) :=
  match found.2 with
  | none => some (found.1, none)
  | some pointer => (actionAt heap pointer).map fun action => (found.1, some action)

/-- The elements of the only action array are read at their addresses. -/
theorem actionAt_element {heap : RuleHeap tables} {base : Nat} {slots : List DpRuleAction}
    (member : (base, Object.actions slots) ∈ heap.objects)
    (only : ∀ entry ∈ heap.objects, ∀ other, entry.2 = .actions other →
      entry = (base, .actions slots)) {index : Nat} {action : DpRuleAction}
    (element : slots[index]? = some action) : actionAt heap (base + index) = some action := by
  cases found : actionAt heap (base + index) with
  | none =>
    have missing := List.findSome?_eq_none_iff.mp found _ member
    simp [element] at missing
  | some other =>
    obtain ⟨⟨address, object⟩, inside, same⟩ := List.exists_of_findSome?_eq_some found
    cases object with
    | actions slots' =>
      obtain ⟨rfl, same'⟩ := Prod.mk.inj (only _ inside slots' rfl)
      obtain rfl := Object.actions.inj same'
      simpa [element] using same.symm
    | _ => exact absurd same.symm (Option.some_ne_none _)

variable {current : Nat × Parts tables} {built : DpRuleSnapshot tables}

/-- The objects of the active snapshot are live. -/
theorem Kept.live (kept : Kept views qsbr (some current) memory) :
    ∀ entry ∈ current.2.objects current.1, entry ∈ memory.heap.objects := by
  intro entry member
  rw [kept.objects]
  simpa [activeObjects] using .inr member

theorem read_live {heap : RuleHeap tables} {address : Nat} {object : Object tables}
    (member : (address, object) ∈ heap.objects) : heap.read address = some object := by
  obtain ⟨left, right, split⟩ := List.append_of_mem member
  exact RuleHeap.read_split split

/-- The active snapshot has the only action array. -/
theorem Kept.only_actions (kept : Kept views qsbr (some current) memory) {base : Nat}
    {slots : List DpRuleAction} (actions : current.2.actions = some (base, slots)) :
    ∀ entry ∈ memory.heap.objects, ∀ other, entry.2 = .actions other →
      entry = (base, .actions slots) := by
  rintro ⟨address, object⟩ member other rfl
  rw [kept.objects] at member
  simpa [qsbrObjects, activeObjects, Parts.objects, Parts.actionObjects, Parts.flowObjects,
    Parts.routeObjects, actions] using member

/-- A pointer in memory reads to what its counterpart over values is. -/
def Reads (heap : RuleHeap tables) (pointer : Option Nat)
    (action : Option (Option DpRuleAction)) : Prop :=
  Option.Rel (fun address found => (actionAt heap address).map some = some found) pointer action

/-- An element of the action array is read alike in memory and over values. -/
theorem Kept.element (kept : Kept views qsbr (some current) memory)
    (represents : current.2.Represents views built) {base : Nat} {slots : List DpRuleAction}
    (actions : current.2.actions = some (base, slots)) {index : Nat}
    (inside : index < slots.length) :
    (actionAt memory.heap (base + index)).map some = some built.actions[index]? := by
  have stored := represents.actions
  rw [actions, Option.map_some] at stored
  obtain ⟨-, same⟩ := unlessEmpty_eq_some stored.symm
  have live : (base, Object.actions slots) ∈ memory.heap.objects := by
    apply kept.live
    simp [Parts.objects, Parts.actionObjects, actions]
  have element := List.getElem?_eq_getElem inside
  rw [actionAt_element live (kept.only_actions actions) element, same, element]
  rfl

/-- The flow lookup in memory reads the action that the lookup over values finds. -/
theorem Kept.lookupFlow (hash : views.ExactHash) (kept : Kept views qsbr (some current) memory)
    (represents : current.2.Represents views built) (info : DpPacketMeta) :
    ∃ pointer, lookupFlow memory.heap info current.2.cell = some pointer ∧
      Reads memory.heap pointer (dpLookupFlow info built) := by
  obtain ⟨flows, routes, contained⟩ := kept.selfContained _ rfl
  have related := represents.flowTable
  unfold Memory.lookupFlow dpLookupFlow
  cases table : current.2.flowTable with
  | none =>
    have cell : current.2.cell.flowTable = none := by rw [Parts.cell, table]; rfl
    rw [table] at related
    generalize built.flowTable = other at related
    cases related
    rw [cell]
    exact ⟨none, rfl, Option.Rel.none⟩
  | some entry =>
    obtain ⟨address, name, table'⟩ := entry
    rw [table] at related
    generalize same : built.flowTable = other at related
    cases related with
    | @some _ value shifted =>
      obtain ⟨base, slots, count, actions, shifted⟩ := shifted
      have live : (address, Object.flowTable name table') ∈ memory.heap.objects := by
        apply kept.live
        simp [Parts.objects, Parts.flowObjects, table]
      have found : memory.heap.flowTableAt (some address) = some table' := by
        unfold RuleHeap.flowTableAt
        rw [Option.bind_some, read_live live]
      have cell : current.2.cell.flowTable = some address := by rw [Parts.cell, table]; rfl
      rw [cell]
      simp only [found, Option.bind_eq_bind, Option.bind_some]
      let key := (dpFlowKeyFromMeta info).bytes
      refine ⟨_, rfl, ?_⟩
      have data := shifted.data key
      cases stored : views.flowData value key with
      | none =>
        rw [stored, Option.map_none] at data
        rw [if_neg (not_le.mpr (hash.lookup_miss _ key data)),
          if_neg (not_le.mpr (hash.lookup_miss _ key stored))]
        exact Option.Rel.none
      | some index =>
        rw [stored, Option.map_some] at data
        obtain ⟨hit, pointer⟩ := hash.lookup_hit _ key _ data
        obtain ⟨hit', position⟩ := hash.lookup_hit _ key _ stored
        rw [if_pos hit, if_pos hit', pointer, position]
        obtain ⟨base', index', actions', inside, same⟩ :=
          contained.flowData address name table' table key _ data
        obtain ⟨rfl, rfl⟩ := Prod.mk.inj (Option.some.inj (actions.symm.trans actions'))
        obtain rfl : index = index' := Nat.add_left_cancel same
        exact Option.Rel.some (kept.element represents actions inside)

/-- The route lookup in memory reads the action that the lookup over values finds. -/
theorem Kept.lookupRoute (kept : Kept views qsbr (some current) memory)
    (represents : current.2.Represents views built) (info : DpPacketMeta) :
    ∃ pointer, lookupRoute memory.heap info current.2.cell = some pointer ∧
      Reads memory.heap pointer (dpLookupRoute info built) := by
  obtain ⟨flows, routes, contained⟩ := kept.selfContained _ rfl
  have related := represents.routeTable
  unfold Memory.lookupRoute dpLookupRoute
  cases table : current.2.routeTable with
  | none =>
    have cell : current.2.cell.routeTable = none := by rw [Parts.cell, table]; rfl
    rw [table, Option.map_none] at related
    rw [cell, ← related]
    exact ⟨none, rfl, Option.Rel.none⟩
  | some entry =>
    obtain ⟨address, name, table'⟩ := entry
    rw [table, Option.map_some] at related
    have live : (address, Object.routeTable name table') ∈ memory.heap.objects := by
      apply kept.live
      simp [Parts.objects, Parts.routeObjects, table]
    have found : memory.heap.routeTableAt (some address) = some table' := by
      unfold RuleHeap.routeTableAt
      rw [Option.bind_some, read_live live]
    have cell : current.2.cell.routeTable = some address := by rw [Parts.cell, table]; rfl
    rw [cell, ← related]
    simp only [found, Option.bind_eq_bind, Option.bind_some]
    have count : current.2.cell.actionCount = built.actionCount := represents.actionCount
    rw [count]
    by_cases hit : (tables.lpmLookup table' info.dstIpv4).1 = 0 ∧
        (tables.lpmLookup table' info.dstIpv4).2.toNat < built.actionCount
    · have inside := hit.2
      rw [represents.length] at inside
      have stored := represents.actions
      rw [unlessEmpty_pos (by omega)] at stored
      obtain ⟨⟨base, slots⟩, actions, same⟩ := Option.map_eq_some_iff.mp stored
      obtain rfl : slots = built.actions := same
      have pointer : current.2.cell.actions = some base := by rw [Parts.cell, actions]; rfl
      rw [if_pos hit, if_pos hit, pointer]
      exact ⟨_, rfl, Option.Rel.some (kept.element represents actions inside)⟩
    · rw [if_neg hit, if_neg hit]
      exact ⟨none, rfl, Option.Rel.none⟩

/-- A lookup in memory reads no freed object and finds what the lookup over values finds. -/
theorem Mirrors.lookup (hash : views.ExactHash) {state : DpState tables}
    (mirrors : Mirrors views memory state) (info : DpPacketMeta) :
    (dpLookupPacket memory.heap info memory.activeRules).bind (readAction memory.heap) =
      some (Native.dpLookupPacket info state.activeRules) := by
  obtain ⟨active, ⟨qsbr, kept⟩, represents, -⟩ := mirrors
  rw [kept.activeRules]
  generalize state.activeRules = value at represents
  cases represents with
  | none => rfl
  | @some current built represents =>
    have cell : memory.heap.snapshotAt current.1 = some current.2.cell := by
      unfold RuleHeap.snapshotAt
      rw [read_live (kept.live _ List.mem_cons_self)]
    obtain ⟨pointer, flow, reads⟩ := kept.lookupFlow hash represents info
    rw [Option.map_some, dpLookupPacket, Native.dpLookupPacket, cell]
    simp only [Option.bind_eq_bind, Option.bind_some, flow]
    generalize dpLookupFlow info built = found at reads
    cases reads with
    | @some address action same =>
      obtain ⟨action, found, rfl⟩ := Option.map_eq_some_iff.mp same
      simp [readAction, found]
    | none =>
      obtain ⟨pointer, route, reads⟩ := kept.lookupRoute represents info
      simp only [route, Option.bind_some]
      generalize dpLookupRoute info built = found at reads
      cases reads with
      | none => rfl
      | @some address action same =>
        obtain ⟨action, found, rfl⟩ := Option.map_eq_some_iff.mp same
        simp [readAction, found]

end Lookups

/-- For every sequence of rule calls the pointer program is defined, it gives its callers the
replies of the program over values, and after the last call every packet lookup reads through live
pointers exactly the action that the lookup over values finds. -/
theorem ruleCalls_refine (stores : views.Stores) (hash : views.ExactHash)
    (calls : List RuleCall) :
    ∃ replies memory state, answerAll calls (.initial tables) = some (replies, memory) ∧
      AnsweredAll (.initial tables) calls replies state ∧ memory.stats = state.stats ∧
      ∀ info, (dpLookupPacket memory.heap info memory.activeRules).bind (readAction memory.heap) =
        some (Native.dpLookupPacket info state.activeRules) := by
  obtain ⟨replies, memory, state, run, answered, mirrors⟩ :=
    answerAll_mirrors stores hash calls (Mirrors.initial views)
  refine ⟨replies, memory, state, run, answered, ?_, mirrors.lookup hash⟩
  obtain ⟨active, mirrored⟩ := mirrors
  rw [mirrored.rest]
  rfl

/-- A configuration, a publication that fails in its hash table and its retry. -/
def retriedCalls : List RuleCall :=
  [.setFlags true false false false,
    .configureRules none ⟨.none, fun _ => none, fun _ => none⟩
      (.block [{ DpFlowRule.zero with l4Proto := 6 }]) (.block []),
    .publishRules ⟨.none, fun _ => some ⟨-enospc, by decide⟩, fun _ => none⟩
      (.block [{ DpFlowRule.zero with l4Proto := 17 }]) (.block []) (some 0),
    .publishRules ⟨.none, fun _ => none, fun _ => none⟩
      (.block [{ DpFlowRule.zero with l4Proto := 17 }]) (.block []) (some 0)]

theorem ruleCalls_refine_retried : ∃ memory, ∃ state : DpState listTables,
    answerAll retriedCalls (.initial listTables) = some ([.done, .configured 0,
      .published (-enospc) (some 0), .published 0 (some 2)], memory) ∧
    memory.stats = state.stats ∧
    ∀ info, (dpLookupPacket memory.heap info memory.activeRules).bind (readAction memory.heap) =
      some (Native.dpLookupPacket info state.activeRules) := by
  obtain ⟨replies, memory, state, run, -, stats, lookup⟩ :=
    ruleCalls_refine listViews_stores listViews_hash retriedCalls
  have answers : (answerAll retriedCalls (.initial listTables)).map Prod.fst =
      some [.done, .configured 0, .published (-enospc) (some 0), .published 0 (some 2)] := by
    decide +kernel
  rw [run] at answers
  obtain rfl := Option.some.inj answers
  exact ⟨memory, state, run, stats, lookup⟩

end FlowRouter.Native.Memory
