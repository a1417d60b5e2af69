import FlowRouter.Library.Simulation
import FlowRouter.Native.Building

namespace FlowRouter.Native.Memory
open Attempt Checks

variable {tables : RteTables} {views : TableViews tables} {before : RuleMemory tables}
  {generation snapshot : Nat}

/-- The library refuses an insertion with this status for reasons of its own. -/
def SnapshotFaults.Injects (faults : SnapshotFaults) (status : Int) : Prop :=
  ∃ failure : { status : Int // status < 0 }, failure.val = status ∧
    ∃ i, faults.flowInserts i = some failure ∨ faults.routeInserts i = some failure

section Shifts

/-- Two hash tables hold the same keys. The first holds pointers into the array at `base` where
the second holds indices. -/
structure Shifted (views : TableViews tables) (base count : Nat) (table table' : tables.Hash) :
    Prop where
  data : ∀ key, views.flowData table key = (views.flowData table' key).map (base + ·)
  counts : views.flowCount table = count ∧ views.flowCount table' = count
  capacities : views.flowCapacity table = 2048 ∧ views.flowCapacity table' = 2048

variable {base count : Nat} {table table' : tables.Hash}

theorem Shifted.create (hash : views.ExactHash) (base : Nat) (name : String) :
    Shifted views base 0 (tables.hashCreate name (dpMaxFlowRules * 2) 16)
      (tables.hashCreate name (dpMaxFlowRules * 2) 16) where
  data key := by rw [hash.create]; rfl
  counts := ⟨hash.create_count _ _ _, hash.create_count _ _ _⟩
  capacities := ⟨hash.create_capacity _ _ _, hash.create_capacity _ _ _⟩

/-- Both tables find the same keys. -/
theorem Shifted.present (shifted : Shifted views base count table table') (hash : views.ExactHash)
    (key : List UInt8) :
    0 ≤ (tables.hashLookupData table key).1 ↔ 0 ≤ (tables.hashLookupData table' key).1 := by
  have same := shifted.data key
  cases stored : views.flowData table' key with
  | none =>
    rw [stored, Option.map_none] at same
    have left := hash.lookup_miss table key same
    have right := hash.lookup_miss table' key stored
    omega
  | some index =>
    rw [stored, Option.map_some] at same
    have left := (hash.lookup_hit table key _ same).1
    have right := (hash.lookup_hit table' key _ stored).1
    exact iff_of_true left right

/-- Both tables store a new key. -/
theorem Shifted.add (shifted : Shifted views base count table table') (hash : views.ExactHash)
    {key : List UInt8} (absent : ¬ 0 ≤ (tables.hashLookupData table key).1) (room : count < 1024)
    (index : Nat) :
    0 ≤ (tables.hashAddKeyData table key (base + index)).1 ∧
      0 ≤ (tables.hashAddKeyData table' key index).1 ∧
      Shifted views base (count + 1) (tables.hashAddKeyData table key (base + index)).2
        (tables.hashAddKeyData table' key index).2 := by
  have free (other : tables.Hash) (missing : ¬ 0 ≤ (tables.hashLookupData other key).1) :
      views.flowData other key = none := by
    cases stored : views.flowData other key with
    | none => rfl
    | some data => exact absurd (hash.lookup_hit other key data stored).1 missing
  have left := free table absent
  have right := free table' fun found => absent ((shifted.present hash key).mpr found)
  have added := hash.add_room table key (base + index) left shifted.capacities.1
    (by rw [shifted.counts.1]; exact room)
  have added' := hash.add_room table' key index right shifted.capacities.2
    (by rw [shifted.counts.2]; exact room)
  obtain ⟨data, count, capacity⟩ := hash.add table key (base + index) left added
  obtain ⟨data', count', capacity'⟩ := hash.add table' key index right added'
  refine ⟨added, added', fun other => ?_, ?_, ?_⟩
  · rw [data, data']
    by_cases same : other = key
    · rw [same, Function.update_self, Function.update_self, Option.map_some]
    · rw [Function.update_of_ne same, Function.update_of_ne same]
      exact shifted.data other
  · rw [count, count', shifted.counts.1, shifted.counts.2]
    exact ⟨rfl, rfl⟩
  · rw [capacity, capacity']
    exact shifted.capacities

end Shifts

section Flows

variable {base flowAddress : Nat} {name : String}
  {routeTable : Option (Nat × String × tables.Lpm)} {actionCount : Nat}

theorem flowTableAt_flowParts {slots : List DpRuleAction} {table : tables.Hash}
    {memory : RuleMemory tables}
    (holding : Holding before generation
      ((flowParts base flowAddress name routeTable actionCount generation slots table).objects
        snapshot) memory) :
    memory.heap.flowTableAt (some flowAddress) = some table := by
  rw [flowParts_objects] at holding
  unfold RuleHeap.flowTableAt
  rw [Option.bind_some, holding.read _]

/-- An insertion without a fault of its own stores the pointer for the index. -/
theorem rteHashAddKeyData_follows (hash : views.ExactHash) {faults : SnapshotFaults} {i : Nat}
    {key : List UInt8} {slots : List DpRuleAction} {table table' : tables.Hash} {count : Nat}
    (shifted : Shifted views base count table table')
    (absent : ¬ 0 ≤ (tables.hashLookupData table key).1) (room : count < 1024) (index : Nat) :
    Follows
      (Holding before generation
        ((flowParts base flowAddress name routeTable actionCount generation slots table).objects
          snapshot))
      (rteHashAddKeyData (faults.flowInserts i) (some flowAddress) key (base + index))
      (checked (tables.hashAddKeyData table' key index).1)
      (fun _ _ => Holding before generation
        ((flowParts base flowAddress name routeTable actionCount generation slots
          (tables.hashAddKeyData table key (base + index)).2).objects snapshot))
      faults.Injects := by
  obtain ⟨added, added', -⟩ := shifted.add hash absent room index
  let next := (tables.hashAddKeyData table key (base + index)).2
  have written : Runs
      (Holding before generation
        ((flowParts base flowAddress name routeTable actionCount generation slots table).objects
          snapshot))
      (alter fun memory => some (memory.withHeap
        (memory.heap.write flowAddress (Object.setHash next) (Object.setHash_resource _))))
      (fun _ => Holding before generation
        ((flowParts base flowAddress name routeTable actionCount generation slots next).objects
          snapshot)) fun (_ : Int) _ => False := by
    apply Runs.alter
    intro memory holding
    rw [flowParts_objects] at holding
    exact ⟨_, rfl, holding.write _ (Object.setHash next) (Object.setHash_resource _)⟩
  have passes : checked (tables.hashAddKeyData table' key index).1 = .ok () :=
    rejectIf_ok.mpr (not_lt.mpr added')
  apply Follows.known flowAddress fun _ _ => rfl
  apply Follows.known table fun _ holding => flowTableAt_flowParts holding
  cases fault : faults.flowInserts i with
  | some failure => exact Follows.excuse ⟨failure, rfl, i, .inl fault⟩
  | none =>
    rw [passes]
    apply Follows.step written
    intro _
    exact Runs.stopIf (fun negative => absurd negative (not_lt.mpr added))
      fun _ _ holding => ⟨(), rfl, holding⟩

/-- The flow loop in memory follows the flow loop over values. -/
theorem addFlows_follows (hash : views.ExactHash) {faults : SnapshotFaults}
    (rest : List DpFlowRule) (done : List DpRuleAction) (free : Nat) (table' : tables.Hash)
    (room : done.length + rest.length ≤ 1024) :
    Follows
      (fun memory => ∃ table, Shifted views base done.length table table' ∧
        Holding before generation
          ((flowParts base flowAddress name routeTable actionCount generation
            (done ++ List.replicate (rest.length + free) .zero) table).objects snapshot) memory)
      (addFlows faults.flowInserts ⟨some flowAddress, routeTable.map Prod.fst, some base,
        actionCount, generation⟩ done.length rest)
      (Native.addFlows table' (done ++ List.replicate (rest.length + free) .zero) done.length rest)
      (fun _ result memory => result.2 = done ++ rest.map (·.action) ++ List.replicate free .zero ∧
        ∃ table, Shifted views base (done.length + rest.length) table result.1 ∧
        Holding before generation
          ((flowParts base flowAddress name routeTable actionCount generation result.2
            table).objects snapshot) memory)
      faults.Injects := by
  induction rest generalizing done table' with
  | nil =>
    apply Follows.pure
    rintro memory ⟨table, shifted, holding⟩
    exact ⟨by simp, table, shifted, holding⟩
  | cons flow rest ih =>
    apply Follows.choose
    intro table
    apply Follows.assume
    intro shifted
    rw [List.length_cons] at room
    have slot : (flow :: rest).length + free = rest.length + free + 1 := by
      rw [List.length_cons]
      omega
    apply Follows.guard Iff.rfl
    intro _
    apply Follows.guard Iff.rfl
    intro _
    apply Follows.known table fun _ holding => flowTableAt_flowParts holding
    apply Follows.guard (shifted.present hash _)
    intro absent
    apply Follows.step
    · apply storeAction_runs
      rw [List.length_append, List.length_replicate, List.length_cons]
      omega
    intro _
    apply Follows.known base fun _ _ => rfl
    rw [slot, set_free_slot]
    apply Follows.bind (rteHashAddKeyData_follows hash shifted absent (by omega) done.length)
    intro _ _
    obtain ⟨-, -, grown⟩ := shifted.add hash absent (by omega) done.length
    have index : done.length + 1 = (done ++ [flow.action]).length := by simp
    rw [index]
    rw [index] at grown
    apply (ih (done ++ [flow.action]) _ (by rw [← index]; omega)).weaken
    · exact fun memory holding => ⟨_, grown, holding⟩
    · rintro _ result memory ⟨actions, table, shifted, holding⟩
      refine ⟨by simpa using actions, table, ?_, holding⟩
      rw [List.length_cons, Nat.add_comm rest.length, ← Nat.add_assoc, index]
      exact shifted

end Flows

section Routes

variable {base routeAddress : Nat} {name : String}
  {flowTable : Option (Nat × String × tables.Hash)} {actionCount : Nat}

/-- Both levels insert the same next hop into the same table. -/
theorem rteLpmAdd_follows {faults : SnapshotFaults} {i : Nat} {prefixBits : UInt32}
    {depth : UInt8} {nextHop : UInt32} {slots : List DpRuleAction} {table : tables.Lpm} :
    Follows
      (Holding before generation
        ((routeParts base routeAddress name flowTable actionCount generation slots table).objects
          snapshot))
      (rteLpmAdd (faults.routeInserts i) (some routeAddress) prefixBits depth nextHop)
      (checked (tables.lpmAdd table prefixBits depth nextHop).1)
      (fun _ _ => Holding before generation
        ((routeParts base routeAddress name flowTable actionCount generation slots
          (tables.lpmAdd table prefixBits depth nextHop).2).objects snapshot))
      faults.Injects := by
  let next := (tables.lpmAdd table prefixBits depth nextHop).2
  have written : Runs
      (Holding before generation
        ((routeParts base routeAddress name flowTable actionCount generation slots table).objects
          snapshot))
      (alter fun memory => some (memory.withHeap
        (memory.heap.write routeAddress (Object.setLpm next) (Object.setLpm_resource _))))
      (fun _ => Holding before generation
        ((routeParts base routeAddress name flowTable actionCount generation slots next).objects
          snapshot)) fun (_ : Int) _ => False := by
    apply Runs.alter
    intro memory holding
    rw [routeParts_objects] at holding
    exact ⟨_, rfl, by rw [routeParts_objects]; exact holding.write _ (Object.setLpm next) _⟩
  apply Follows.known routeAddress fun _ _ => rfl
  apply Follows.known table fun _ holding => routeTableAt_routeParts holding
  cases fault : faults.routeInserts i with
  | some failure => exact Follows.excuse ⟨failure, rfl, i, .inr fault⟩
  | none =>
    apply Follows.step written
    intro _
    exact Follows.stopIf fun _ _ holding => holding

/-- The route loop in memory follows the route loop over values. -/
theorem addRoutes_follows {faults : SnapshotFaults} {flowCount : Nat} (rest : List DpRouteRule)
    {i : Nat} {done : List DpRuleAction} (slot : done.length = flowCount + i)
    (table : tables.Lpm) :
    Follows
      (Holding before generation
        ((routeParts base routeAddress name flowTable actionCount generation
          (done ++ List.replicate rest.length .zero) table).objects snapshot))
      (addRoutes faults.routeInserts ⟨flowTable.map Prod.fst, some routeAddress, some base,
        actionCount, generation⟩ flowCount i rest)
      (Native.addRoutes table (done ++ List.replicate rest.length .zero) done.length rest)
      (fun _ result memory => result.2 = done ++ rest.map (·.action) ∧
        Holding before generation
          ((routeParts base routeAddress name flowTable actionCount generation result.2
            result.1).objects snapshot) memory)
      faults.Injects := by
  induction rest generalizing i done table with
  | nil =>
    apply Follows.pure
    intro memory holding
    exact ⟨by simp, holding⟩
  | cons route rest ih =>
    apply Follows.guard Iff.rfl
    intro _
    apply Follows.guard Iff.rfl
    intro _
    apply Follows.guard Iff.rfl
    intro _
    apply Follows.known table fun _ holding => routeTableAt_routeParts holding
    apply Follows.guard Iff.rfl
    intro _
    apply Follows.guard Iff.rfl
    intro _
    apply Follows.step
    · apply storeAction_runs
      rw [List.length_append, List.length_replicate, List.length_cons]
      omega
    intro _
    rw [← slot, List.length_cons, ← Nat.add_zero rest.length, Nat.add_right_comm, set_free_slot,
      Nat.add_zero]
    apply Follows.bind rteLpmAdd_follows
    intro _ _
    have index : (done ++ [route.action]).length = flowCount + (i + 1) := by
      rw [List.length_append, List.length_singleton, slot]
      omega
    have next : done.length + 1 = (done ++ [route.action]).length := by simp
    rw [next]
    apply (ih index _).weaken fun _ holding => holding
    rintro _ result memory ⟨actions, holding⟩
    exact ⟨by simpa using actions, holding⟩

end Routes

section Stages

variable {parts : Parts tables} {excused : Int → Prop}

theorem rteZmalloc_follows (failure : Option Nat) {object : Object tables}
    (pre : RuleMemory tables → Prop)
    (held : ∀ memory, pre memory → Holding before generation (parts.objects snapshot) memory)
    (unnamed : ∀ memory, pre memory → ∀ entry ∈ memory.heap.objects,
      entry.2.resource = object.resource → object.resource.tableName = none) :
    Follows pre (rteZmalloc failure object) (allocated failure)
      (fun address _ => Holding before generation (parts.objects snapshot ++ [(address, object)]))
      excused := by
  cases failure with
  | some rteErrno => exact Follows.throw _
  | none =>
    intro memory start
    exact ⟨.ok memory.heap.next, _, rfl, (), rfl,
      (held memory start).allocate (unnamed memory start)⟩

/-- No name of the generation is taken, so only the allocation of a table can fail. -/
theorem createTable_follows (vacant : before.heap.Vacant generation) (failure : Option Nat)
    {object : Object tables} (name : TableName) (known : name ∈ generationNames generation)
    (named : object.resource.tableName = some name)
    (unused : ∀ entry ∈ parts.objects snapshot, entry.2.resource ≠ object.resource) :
    Follows (Holding before generation (parts.objects snapshot)) (createTable failure object)
      (allocated failure)
      (fun address _ => Holding before generation (parts.objects snapshot ++ [(address, object)]))
      excused := by
  intro memory holding
  have free : ¬ ∃ entry ∈ memory.heap.objects, entry.2.resource = object.resource := by
    rintro ⟨entry, inside, same⟩
    rw [holding.objects, List.mem_append] at inside
    rcases inside with old | own
    · exact vacant entry old name known (same ▸ named)
    · exact unused entry own same
  obtain ⟨result, after, run, outcome⟩ := rteZmalloc_follows failure (fun other => other = memory)
    (fun _ same => same ▸ holding)
    (fun _ same entry inside equal => absurd ⟨entry, same ▸ inside, equal⟩ free) memory rfl
  refine ⟨result, after, ?_, outcome⟩
  change (if _ then _ else _ : Build tables Nat).run memory = _
  rw [if_neg free]
  exact run

theorem createActions_follows (failure : Option Nat) (totalActions : Nat) :
    Follows (Holding before generation ((emptyParts tables generation).objects snapshot))
      (createActions failure snapshot totalActions) (unlessZero totalActions (allocated failure))
      (fun _ _ memory => ∃ base, Holding before generation
        (Parts.objects ⟨unlessEmpty totalActions (base, List.replicate totalActions .zero), none,
          none, totalActions, generation⟩ snapshot) memory)
      excused := by
  unfold createActions unlessZero unlessEmpty
  by_cases some : totalActions ≠ 0
  · simp only [if_pos some]
    rw [← bind_pure (allocated failure)]
    apply Follows.bind
    · exact rteZmalloc_follows failure _ (fun _ holding => holding) fun _ _ _ _ _ => rfl
    intro base _
    apply Runs.weaken (assign_runs _) fun _ holding => holding
    exact fun _ memory holding => ⟨(), rfl, base, holding⟩
  · simp only [if_neg some]
    apply Follows.pure
    intro memory holding
    obtain rfl := not_not.mp some
    exact ⟨0, holding⟩

theorem createFlowTable_follows (vacant : before.heap.Vacant generation) (failure : Option Nat)
    (flowCount totalActions : Nat) (actions : Option (Nat × List DpRuleAction)) :
    Follows (Holding before generation
        (Parts.objects ⟨actions, none, none, totalActions, generation⟩ snapshot))
      (createFlowTable failure snapshot flowCount generation)
      (unlessZero flowCount (allocated failure))
      (fun _ _ memory => ∃ flowAddress, Holding before generation
        (Parts.objects ⟨actions, unlessEmpty flowCount (flowAddress, s!"dfr_f_{generation}",
          tables.hashCreate s!"dfr_f_{generation}" (dpMaxFlowRules * 2) 16), none, totalActions,
          generation⟩ snapshot) memory)
      excused := by
  unfold createFlowTable unlessZero unlessEmpty
  by_cases some : flowCount ≠ 0
  · simp only [if_pos some]
    rw [← bind_pure (allocated failure)]
    apply Follows.bind
    · apply createTable_follows vacant failure (.flow s!"dfr_f_{generation}") List.mem_cons_self rfl
      cases actions <;> simp [Parts.objects, Parts.actionObjects, Parts.flowObjects,
        Parts.routeObjects, Object.resource]
    intro flowAddress _
    apply Runs.weaken (assign_runs _)
    · intro memory holding
      rw [Parts.objects, List.cons_append] at holding
      exact holding
    · intro _ memory holding
      refine ⟨(), rfl, flowAddress, ?_⟩
      simpa [Parts.objects, Parts.actionObjects, Parts.flowObjects, Parts.routeObjects,
        Parts.cell] using holding
  · simp only [if_neg some]
    apply Follows.pure
    intro memory holding
    exact ⟨0, holding⟩

theorem createRouteTable_follows (vacant : before.heap.Vacant generation) (failure : Option Nat)
    (routeCount totalActions : Nat) (actions : Option (Nat × List DpRuleAction))
    (flowTable : Option (Nat × String × tables.Hash)) :
    Follows (Holding before generation
        (Parts.objects ⟨actions, flowTable, none, totalActions, generation⟩ snapshot))
      (createRouteTable failure snapshot routeCount generation)
      (unlessZero routeCount (allocated failure))
      (fun _ _ memory => ∃ routeAddress, Holding before generation
        (Parts.objects ⟨actions, flowTable, unlessEmpty routeCount (routeAddress,
          s!"dfr_r_{generation}", tables.lpmCreate s!"dfr_r_{generation}" dpMaxRouteRules 256),
          totalActions, generation⟩ snapshot) memory)
      excused := by
  unfold createRouteTable unlessZero unlessEmpty
  by_cases some : routeCount ≠ 0
  · simp only [if_pos some]
    rw [← bind_pure (allocated failure)]
    apply Follows.bind
    · apply createTable_follows vacant failure (.route s!"dfr_r_{generation}")
        (List.mem_cons_of_mem _ List.mem_cons_self) rfl
      cases actions <;> cases flowTable <;> simp [Parts.objects, Parts.actionObjects,
        Parts.flowObjects, Parts.routeObjects, Object.resource]
    intro routeAddress _
    apply Runs.weaken (assign_runs _)
    · intro memory holding
      rw [Parts.objects, List.cons_append] at holding
      exact holding
    · intro _ memory holding
      refine ⟨(), rfl, routeAddress, ?_⟩
      simpa [Parts.objects, Parts.actionObjects, Parts.flowObjects, Parts.routeObjects,
        Parts.cell] using holding
  · simp only [if_neg some]
    apply Follows.pure
    intro memory holding
    exact ⟨0, holding⟩

/-- The hash table of a stage points where its counterpart counts. -/
def ShiftedTables (views : TableViews tables) (base count : Nat)
    (table table' : Option tables.Hash) : Prop :=
  Option.Rel (Shifted views base count) table table'

theorem withTable_some {T A : Type} (table : T) (actions : A) (loop : T → Except Int (T × A)) :
    withTable (some table) actions loop =
      loop table >>= fun result => .ok (some result.1, result.2) := rfl

theorem flowStage_follows (hash : views.ExactHash) (faults : SnapshotFaults)
    (flows : List DpFlowRule) (limit : flows.length ≤ 1024) (free base flowAddress : Nat)
    (name : String) (routeTable : Option (Nat × String × tables.Lpm)) (actionCount : Nat) :
    Follows
      (Holding before generation (Parts.objects
        ⟨unlessEmpty (flows.length + free) (base, List.replicate (flows.length + free) .zero),
          unlessEmpty flows.length
            (flowAddress, name, tables.hashCreate name (dpMaxFlowRules * 2) 16),
          routeTable, actionCount, generation⟩ snapshot))
      (addFlows faults.flowInserts ⟨unlessEmpty flows.length flowAddress,
        routeTable.map Prod.fst, unlessEmpty (flows.length + free) base, actionCount,
        generation⟩ 0 flows)
      (withTable (unlessEmpty flows.length (tables.hashCreate name (dpMaxFlowRules * 2) 16))
        (List.replicate (flows.length + free) DpRuleAction.zero)
        fun table => Native.addFlows table (List.replicate (flows.length + free) .zero) 0 flows)
      (fun _ result memory => result.2 = flows.map (·.action) ++ List.replicate free .zero ∧
        ∃ table, ShiftedTables views base flows.length (unlessEmpty flows.length table) result.1 ∧
        Holding before generation (Parts.objects
          ⟨unlessEmpty (flows.length + free) (base, result.2),
            unlessEmpty flows.length (flowAddress, name, table), routeTable, actionCount,
            generation⟩ snapshot) memory)
      faults.Injects := by
  let fresh := tables.hashCreate name (dpMaxFlowRules * 2) 16
  by_cases none : flows.length = 0
  · obtain rfl := List.length_eq_zero_iff.mp none
    apply Follows.pure
    intro memory holding
    exact ⟨by simp, fresh, Option.Rel.none, holding⟩
  · have total : flows.length + free ≠ 0 := by omega
    simp only [unlessEmpty_pos none, unlessEmpty_pos total]
    rw [withTable_some]
    apply Follows.mapped
    apply (addFlows_follows hash flows [] free fresh (by simpa using limit)).weaken
    · exact fun memory holding => ⟨fresh, Shifted.create hash base name, holding⟩
    · rintro _ result memory ⟨actions, table, shifted, holding⟩
      rw [List.length_nil, Nat.zero_add] at shifted
      exact ⟨actions, table, Option.Rel.some shifted, holding⟩

theorem routeStage_follows (faults : SnapshotFaults) (routes : List DpRouteRule)
    (store : List DpRuleAction) (base routeAddress : Nat) (name : String)
    (flowTable : Option (Nat × String × tables.Hash)) (actionCount : Nat) :
    Follows
      (Holding before generation (Parts.objects
        ⟨unlessEmpty (store.length + routes.length)
            (base, store ++ List.replicate routes.length .zero), flowTable,
          unlessEmpty routes.length
            (routeAddress, name, tables.lpmCreate name dpMaxRouteRules 256),
          actionCount, generation⟩ snapshot))
      (addRoutes faults.routeInserts ⟨flowTable.map Prod.fst,
        unlessEmpty routes.length routeAddress, unlessEmpty (store.length + routes.length) base,
        actionCount, generation⟩ store.length 0 routes)
      (withTable (unlessEmpty routes.length (tables.lpmCreate name dpMaxRouteRules 256))
        (store ++ List.replicate routes.length .zero)
        fun table => Native.addRoutes table (store ++ List.replicate routes.length .zero)
          store.length routes)
      (fun _ result memory => result.2 = store ++ routes.map (·.action) ∧
        ∃ table, unlessEmpty routes.length table = result.1 ∧
        Holding before generation (Parts.objects
          ⟨unlessEmpty (store.length + routes.length) (base, result.2), flowTable,
            unlessEmpty routes.length (routeAddress, name, table), actionCount, generation⟩
          snapshot) memory)
      faults.Injects := by
  let fresh := tables.lpmCreate name dpMaxRouteRules 256
  by_cases none : routes.length = 0
  · obtain rfl := List.length_eq_zero_iff.mp none
    apply Follows.pure
    intro memory holding
    exact ⟨by simp, fresh, rfl, holding⟩
  · have total : store.length + routes.length ≠ 0 := by omega
    simp only [unlessEmpty_pos none, unlessEmpty_pos total]
    rw [withTable_some]
    apply Follows.mapped
    apply (addRoutes_follows routes (Nat.add_zero _).symm fresh).weaken fun _ holding => holding
    rintro _ result memory ⟨actions, holding⟩
    exact ⟨actions, result.1, rfl, holding⟩

end Stages

section Fill

/-- The parts of a snapshot in memory represent a snapshot value. -/
structure Parts.Represents (views : TableViews tables) (parts : Parts tables)
    (built : DpRuleSnapshot tables) : Prop where
  actions : parts.actions.map Prod.snd = unlessEmpty built.actions.length built.actions
  flowTable : Option.Rel (fun entry table => ∃ base slots count,
    parts.actions = some (base, slots) ∧ Shifted views base count entry.2.2 table)
    parts.flowTable built.flowTable
  routeTable : parts.routeTable.map (fun entry => entry.2.2) = built.routeTable
  actionCount : parts.actionCount = built.actionCount
  length : built.actionCount = built.actions.length
  generation : parts.generation = built.generation

/-- This part of the build over values follows the allocation of the snapshot. -/
def filled (tables : RteTables) (faults : BuildFaults) (flows : RuleArray DpFlowRule)
    (routes : RuleArray DpRouteRule) (generation : Nat) : Except Int (DpRuleSnapshot tables) := do
  let totalActions := flows.count + routes.count
  unlessZero totalActions (allocated faults.actions)
  unlessZero flows.count (allocated faults.flowTable)
  unlessZero routes.count (allocated faults.routeTable)
  let (flowTable, actions) ← withTable
    (unlessEmpty flows.count (tables.hashCreate s!"dfr_f_{generation}" (dpMaxFlowRules * 2) 16))
    (List.replicate totalActions .zero)
    fun table => Native.addFlows table (List.replicate totalActions .zero) 0 flows.rules
  let (routeTable, actions) ← withTable
    (unlessEmpty routes.count (tables.lpmCreate s!"dfr_r_{generation}" dpMaxRouteRules 256)) actions
    fun table => Native.addRoutes table actions flows.count routes.rules
  return ⟨flowTable, routeTable, actions, totalActions, generation⟩

theorem dpSnapshotBuild_filled (faults : BuildFaults) (flows : RuleArray DpFlowRule)
    (routes : RuleArray DpRouteRule) (generation : Nat) :
    Native.dpSnapshotBuild tables faults flows routes generation = (do
      rejectIf (flows.count > dpMaxFlowRules ∨ routes.count > dpMaxRouteRules) (-enospc)
      rejectIf ((flows.count ≠ 0 ∧ flows.isNull) ∨ (routes.count ≠ 0 ∧ routes.isNull)) (-einval)
      allocated faults.snapshot
      filled tables faults flows routes generation) := rfl

/-- The stages in memory follow the stages over values and end in what represents their result. -/
theorem fillSnapshot_follows (hash : views.ExactHash) (vacant : before.heap.Vacant generation)
    (faults : SnapshotFaults) {flows : RuleArray DpFlowRule} {routes : RuleArray DpRouteRule}
    (flowCount : flows.count = flows.rules.length)
    (routeCount : routes.count = routes.rules.length) (limit : flows.count ≤ 1024) :
    Follows (Holding before generation ((emptyParts tables generation).objects snapshot))
      (fillSnapshot faults flows routes generation snapshot)
      (filled tables faults.allocations flows routes generation)
      (fun _ built memory => ∃ parts : Parts tables, parts.Represents views built ∧
        Holding before generation (parts.objects snapshot) memory)
      faults.Injects := by
  have length : (flows.rules.map (·.action)).length = flows.rules.length := List.length_map _
  unfold fillSnapshot filled
  rw [flowCount, routeCount]
  rw [flowCount] at limit
  apply Follows.bind (createActions_follows _ _)
  intro _ _
  apply Follows.choose
  intro base
  apply Follows.bind (createFlowTable_follows vacant _ _ _ _)
  intro _ _
  apply Follows.choose
  intro flowAddress
  apply Follows.bind (createRouteTable_follows vacant _ _ _ _ _)
  intro _ _
  apply Follows.choose
  intro routeAddress
  apply Follows.known
    ⟨unlessEmpty flows.rules.length flowAddress, unlessEmpty routes.rules.length routeAddress,
      unlessEmpty (flows.rules.length + routes.rules.length) base,
      flows.rules.length + routes.rules.length, generation⟩
  · intro memory holding
    unfold RuleHeap.snapshotAt
    rw [holding.read []]
    simp only [Parts.cell, unlessEmpty_map]
  apply Follows.bind
  · rw [← unlessEmpty_map routes.rules.length (routeAddress, s!"dfr_r_{generation}",
      tables.lpmCreate s!"dfr_r_{generation}" dpMaxRouteRules 256) Prod.fst]
    exact flowStage_follows hash faults flows.rules limit _ _ _ _ _ _
  rintro _ ⟨hashTable, actions⟩
  apply Follows.assume
  rintro rfl
  apply Follows.choose
  intro flowTable
  apply Follows.assume
  intro shifted
  have stage : Follows (Holding before generation (Parts.objects _ snapshot)) _ _ _ _ :=
    routeStage_follows faults routes.rules (flows.rules.map (·.action)) base routeAddress
    s!"dfr_r_{generation}"
    (unlessEmpty flows.rules.length (flowAddress, s!"dfr_f_{generation}", flowTable))
    (flows.rules.length + routes.rules.length)
  rw [unlessEmpty_map, length] at stage
  apply Follows.mapped
  apply stage.weaken fun _ holding => holding
  rintro _ ⟨lpm, stored⟩ memory ⟨rfl, routeTable, rfl, holding⟩
  refine ⟨_, ?_, holding⟩
  constructor
  · dsimp only
    rw [unlessEmpty_map, List.length_append, List.length_map, List.length_map]
  · dsimp only
    by_cases none : flows.rules.length = 0
    · rw [none] at shifted ⊢
      cases shifted
      exact Option.Rel.none
    · have total : flows.rules.length + routes.rules.length ≠ 0 := by omega
      rw [unlessEmpty_pos none] at shifted ⊢
      rw [unlessEmpty_pos total]
      cases shifted with
      | some shifted => exact Option.Rel.some ⟨base, _, _, rfl, shifted⟩
  · dsimp only
    rw [unlessEmpty_map]
  · rfl
  · dsimp only
    rw [List.length_append, List.length_map, List.length_map]
  · rfl

end Fill

section Build

/-- The objects of a snapshot determine its parts. -/
theorem Parts.objects_inj {parts parts' : Parts tables}
    (same : parts.objects snapshot = parts'.objects snapshot) : parts = parts' := by
  obtain ⟨actions, flowTable, routeTable, actionCount, generation⟩ := parts
  obtain ⟨actions', flowTable', routeTable', actionCount', generation'⟩ := parts'
  obtain ⟨cell, rest⟩ := List.cons.inj same
  have cell := Object.snapshot.inj (Prod.mk.inj cell).2
  simp only [Parts.cell, SnapshotCell.mk.injEq] at cell
  obtain ⟨flow, route, action, rfl, rfl⟩ := cell
  cases actions <;> cases actions' <;> cases flowTable <;> cases flowTable' <;>
    cases routeTable <;> cases routeTable' <;>
    simp_all [Parts.actionObjects, Parts.flowObjects, Parts.routeObjects, Prod.ext_iff]

/-- Over values an insertion that its library refuses is met as a failed allocation with the same
error number. All other failures are the same. -/
def SnapshotFaults.Seen (faults : SnapshotFaults) (seen : BuildFaults) : Prop :=
  seen = faults.allocations ∨ ∃ status, faults.Injects status ∧
    seen = { faults.allocations with snapshot := some status.natAbs }

theorem SnapshotFaults.Injects.errno {faults : SnapshotFaults} {status : Int}
    (injects : faults.Injects status) : errnoOr status.natAbs enomem = status := by
  obtain ⟨⟨failure, negative⟩, rfl, -⟩ := injects
  have present : failure.natAbs ≠ 0 := by omega
  change -(if failure.natAbs ≠ 0 then (failure.natAbs : Int) else enomem) = failure
  rw [if_pos present]
  omega

/-- A build in memory ends as the build over values, with what represents its result. -/
theorem dpSnapshotBuild_follows (stores : views.Stores) (hash : views.ExactHash)
    (faults : SnapshotFaults) (flows : RuleArray DpFlowRule) (routes : RuleArray DpRouteRule)
    (vacant : before.heap.Vacant generation) :
    ∃ seen, faults.Seen seen ∧
      match Native.dpSnapshotBuild tables seen flows routes generation with
      | .ok built => ∃ snapshot parts after,
          dpSnapshotBuild faults flows routes generation before =
            some ((0, some snapshot), after) ∧
          parts.Represents views built ∧
          Built views before flows.rules routes.rules generation snapshot parts after
      | .error status => ∃ after,
          dpSnapshotBuild faults flows routes generation before = some ((status, none), after) ∧
          status < 0 ∧ Undone before generation after := by
  have untouched : Undone before generation before :=
    ⟨rfl, rfl, ⟨[], (List.append_nil _).symm, List.nodup_nil, .nil⟩, fun orderly _ => orderly⟩
  by_cases limit : flows.count > dpMaxFlowRules ∨ routes.count > dpMaxRouteRules
  · refine ⟨faults.allocations, .inl rfl, ?_⟩
    have refused : Native.dpSnapshotBuild tables faults.allocations flows routes generation =
        .error (-enospc) := by
      rw [dpSnapshotBuild_filled, rejectIf, if_pos limit]
      rfl
    rw [refused]
    refine ⟨before, ?_, by decide, untouched⟩
    rw [dpSnapshotBuild, if_pos limit]
    rfl
  by_cases missing : (flows.count ≠ 0 ∧ flows.isNull) ∨ (routes.count ≠ 0 ∧ routes.isNull)
  · refine ⟨faults.allocations, .inl rfl, ?_⟩
    have refused : Native.dpSnapshotBuild tables faults.allocations flows routes generation =
        .error (-einval) := by
      rw [dpSnapshotBuild_filled, rejectIf, if_neg limit, rejectIf, if_pos missing]
      rfl
    rw [refused]
    refine ⟨before, ?_, by decide, untouched⟩
    rw [dpSnapshotBuild, if_neg limit, if_pos missing]
    rfl
  have admitted (seen : BuildFaults) :
      Native.dpSnapshotBuild tables seen flows routes generation =
        allocated seen.snapshot >>= fun _ => filled tables seen flows routes generation := by
    rw [dpSnapshotBuild_filled, rejectIf, if_neg limit, rejectIf, if_neg missing]
    rfl
  rw [dpSnapshotBuild, if_neg limit, if_neg missing]
  cases fault : faults.allocations.snapshot with
  | some rteErrno =>
    refine ⟨faults.allocations, .inl rfl, ?_⟩
    rw [admitted, fault]
    exact ⟨before, rfl, errnoOr_neg rteErrno enomem_pos, untouched⟩
  | none =>
    let object : Object tables := .snapshot ⟨none, none, none, 0, generation⟩
    have holding : Holding before generation
        ((emptyParts tables generation).objects before.heap.next)
        (before.withHeap (before.heap.allocate object)) :=
      (Holding.start before generation).allocate fun _ _ _ => rfl
    obtain ⟨flowLimit, routeLimit⟩ := not_or.mp limit
    obtain ⟨flowPresent, routePresent⟩ := not_or.mp missing
    rw [dpMaxFlowRules] at flowLimit
    rw [dpMaxRouteRules] at routeLimit
    obtain ⟨result, filling, run, outcome⟩ := Runs.both
      (fillSnapshot_runs stores faults (RuleArray.count_eq flowPresent)
        (RuleArray.count_eq routePresent) (by omega))
      (fillSnapshot_follows hash vacant faults (RuleArray.count_eq flowPresent)
        (RuleArray.count_eq routePresent) (not_lt.mp flowLimit)) _ holding
    have start : (rteZmalloc none object : Build tables Nat).run before =
        some (.ok before.heap.next, before.withHeap (before.heap.allocate object)) := rfl
    rw [bind_run start]
    dsimp only
    rw [bind_run (show (fillSnapshot faults flows routes generation before.heap.next).run
      (before.withHeap (before.heap.allocate object)) = _ from run)]
    cases result with
    | ok _ =>
      obtain ⟨⟨parts, selfContained, holds⟩, built, same, parts', represents, holds'⟩ := outcome
      obtain rfl : parts = parts' := by
        apply Parts.objects_inj
        exact List.append_cancel_left (holds.objects.symm.trans holds'.objects)
      refine ⟨faults.allocations, .inl rfl, ?_⟩
      rw [admitted, fault]
      change match filled tables faults.allocations flows routes generation with
        | .ok built => _
        | .error status => _
      rw [same]
      exact ⟨before.heap.next, parts, filling, rfl, represents, holds.rest, holds.objects,
        selfContained, holds.orderly⟩
    | error status =>
      obtain ⟨stopped, same | injects⟩ := outcome
      · obtain ⟨after, freed, undone⟩ := stopped.undone
        refine ⟨faults.allocations, .inl rfl, ?_⟩
        rw [admitted, fault]
        change match filled tables faults.allocations flows routes generation with
          | .ok built => _
          | .error status => _
        rw [same]
        exact ⟨after, bind_run freed _, stopped.1, undone⟩
      · obtain ⟨after, freed, undone⟩ := stopped.undone
        refine ⟨_, .inr ⟨status, injects, rfl⟩, ?_⟩
        have refused : Native.dpSnapshotBuild tables
            { faults.allocations with snapshot := some status.natAbs } flows routes generation =
              .error status := by
          rw [admitted]
          exact congrArg Except.error injects.errno
        rw [refused]
        exact ⟨after, bind_run freed _, stopped.1, undone⟩

end Build

end FlowRouter.Native.Memory
