import FlowRouter.Native.Freeing

namespace FlowRouter.Native.Memory
open Attempt

variable {tables : RteTables} {views : TableViews tables}

/-- Every datum of the hash points to the element of one of the flows in the array at `base`, and an
exact hash has the datum of each flow. -/
structure HashFilled (views : TableViews tables) (table : tables.Hash) (base : Nat)
    (flows : List DpFlowRule) : Prop where
  within : ∀ key data, views.flowData table key = some data →
    ∃ index < flows.length, data = base + index
  stores : views.ExactHash → ∀ index flow, flows[index]? = some flow →
    views.flowData table flow.keyBytes = some (base + index)

/-- Every next hop of the prefix table is the index of one of the first elements, and an exact table
has the rule of each route. -/
structure LpmFilled (views : TableViews tables) (table : tables.Lpm) (flowCount : Nat)
    (routes : List DpRouteRule) : Prop where
  within : ∀ rule ∈ views.lpmRules table, rule.nextHop.toNat < flowCount + routes.length
  stores : views.ExactLpm → ∀ index route, routes[index]? = some route →
    ∃ rule ∈ views.lpmRules table,
      rule.key = route.key ∧ rule.nextHop.toNat = flowCount + index

/-- A successful insertion stores its own datum and nothing else. -/
structure HashAdded (views : TableViews tables) (table : tables.Hash) (key : List UInt8)
    (data : Nat) (next : tables.Hash) : Prop where
  only : ∀ other found, views.flowData next other = some found →
    views.flowData table other = some found ∨ found = data
  stored : views.ExactHash → views.flowData table key = none →
    views.flowData next = Function.update (views.flowData table) key (some data)

structure LpmAdded (views : TableViews tables) (table : tables.Lpm) (added : LpmRule)
    (next : tables.Lpm) : Prop where
  only : ∀ rule ∈ views.lpmRules next,
    rule ∈ views.lpmRules table ∨ rule.nextHop = added.nextHop
  stored : views.ExactLpm → NormalPrefix added.prefixBits added.depth →
    added.key ∉ (views.lpmRules table).map LpmRule.key →
    views.lpmRules next = added :: views.lpmRules table

theorem HashFilled.add {table next : tables.Hash} {base : Nat} {flows : List DpFlowRule}
    (filled : HashFilled views table base flows) {flow : DpFlowRule}
    (added : HashAdded views table flow.keyBytes (base + flows.length) next)
    (fresh : views.ExactHash → views.flowData table flow.keyBytes = none) :
    HashFilled views next base (flows ++ [flow]) := by
  constructor
  case within =>
    intro key data found
    rw [List.length_append, List.length_singleton]
    rcases added.only key data found with old | rfl
    · obtain ⟨index, below, same⟩ := filled.within key data old
      exact ⟨index, by omega, same⟩
    · exact ⟨flows.length, by omega, rfl⟩
  case stores =>
    intro hash index other found
    rw [added.stored hash (fresh hash)]
    by_cases old : index < flows.length
    · rw [List.getElem?_append_left old] at found
      have stored := filled.stores hash index other found
      have differs : other.keyBytes ≠ flow.keyBytes := by
        intro same
        rw [same, fresh hash] at stored
        exact absurd stored.symm (Option.some_ne_none _)
      rw [Function.update_of_ne differs, stored]
    · rw [List.getElem?_append_right (not_lt.mp old), List.getElem?_singleton] at found
      split_ifs at found with last
      have index_eq : index = flows.length := by omega
      rw [← Option.some.inj found, Function.update_self, index_eq]

theorem LpmFilled.add {table next : tables.Lpm} {flowCount : Nat} {routes : List DpRouteRule}
    (filled : LpmFilled views table flowCount routes) {route : DpRouteRule}
    (limit : flowCount + routes.length < 2 ^ 24)
    (added : LpmAdded views table
      ⟨route.prefixBits, route.depth, UInt32.ofNat (flowCount + routes.length)⟩ next)
    (normal : NormalPrefix route.prefixBits route.depth)
    (fresh : views.ExactLpm → route.key ∉ (views.lpmRules table).map LpmRule.key) :
    LpmFilled views next flowCount (routes ++ [route]) := by
  have hop : (UInt32.ofNat (flowCount + routes.length)).toNat = flowCount + routes.length := by
    rw [UInt32.toNat_ofNat']
    omega
  constructor
  case within =>
    intro rule member
    rw [List.length_append, List.length_singleton]
    rcases added.only rule member with old | same
    · have below := filled.within rule old
      omega
    · rw [same, hop]
      omega
  case stores =>
    intro lpm index other found
    rw [added.stored lpm normal (fresh lpm)]
    by_cases old : index < routes.length
    · rw [List.getElem?_append_left old] at found
      obtain ⟨rule, member, same⟩ := filled.stores lpm index other found
      exact ⟨rule, List.mem_cons_of_mem _ member, same⟩
    · rw [List.getElem?_append_right (not_lt.mp old), List.getElem?_singleton] at found
      split_ifs at found with last
      have index_eq : index = routes.length := by omega
      rw [← Option.some.inj found, index_eq]
      exact ⟨_, List.mem_cons_self, rfl, hop⟩

variable {before : RuleMemory tables} {generation snapshot : Nat}

section Flows

variable {base flowAddress : Nat} {name : String}
  {routeTable : Option (Nat × String × tables.Lpm)} {actionCount : Nat}

/-- The parts of a build in its flow loop. -/
def flowParts (base flowAddress : Nat) (name : String)
    (routeTable : Option (Nat × String × tables.Lpm)) (actionCount generation : Nat)
    (slots : List DpRuleAction) (table : tables.Hash) : Parts tables :=
  ⟨some (base, slots), some (flowAddress, name, table), routeTable, actionCount, generation⟩

/-- The action is stored in its element. -/
theorem storeAction_runs {flowTable : Option (Nat × String × tables.Hash)}
    {slots : List DpRuleAction} {index : Nat} {action : DpRuleAction}
    {stop : Int → RuleMemory tables → Prop} (inside : index < slots.length) :
    Runs
      (Holding before generation
        (Parts.objects ⟨some (base, slots), flowTable, routeTable, actionCount, generation⟩
          snapshot))
      (storeAction (some base) index action)
      (fun _ => Holding before generation
        (Parts.objects
          ⟨some (base, slots.set index action), flowTable, routeTable, actionCount, generation⟩
          snapshot)) stop := by
  apply Runs.alter
  intro memory holding
  let cell : SnapshotCell :=
    ⟨flowTable.map Prod.fst, routeTable.map Prod.fst, some base, actionCount, generation⟩
  have found : memory.heap.actionsAt (some base) = some slots := by
    unfold RuleHeap.actionsAt
    rw [Option.bind_some, holding.read [(snapshot, .snapshot cell)]]
  refine ⟨_, ?_, holding.write [(snapshot, .snapshot cell)]
    (Object.setSlot index action) (Object.setSlot_resource _ _)⟩
  simp [found, inside]

/-- The flow table of a build stands between its actions and its prefix table. -/
theorem flowParts_objects (slots : List DpRuleAction) (table : tables.Hash) :
    (flowParts base flowAddress name routeTable actionCount generation slots table).objects
        snapshot =
      [(snapshot, .snapshot ⟨some flowAddress, routeTable.map Prod.fst, some base, actionCount,
          generation⟩), (base, .actions slots)] ++ (flowAddress, .flowTable name table) ::
        routeTable.toList.map fun entry => (entry.1, .routeTable entry.2.1 entry.2.2) := rfl

/-- The insertion puts its own datum into the table. -/
theorem rteHashAddKeyData_runs (stores : views.Stores) {fault : InsertFault}
    {key : List UInt8} {data : Nat} {slots : List DpRuleAction} {table : tables.Hash} :
    Runs
      (Holding before generation
        ((flowParts base flowAddress name routeTable actionCount generation slots table).objects
          snapshot))
      (rteHashAddKeyData fault (some flowAddress) key data)
      (fun _ memory => ∃ next, HashAdded views table key data next ∧
        Holding before generation
          ((flowParts base flowAddress name routeTable actionCount generation slots next).objects
            snapshot) memory)
      (Stopped before generation snapshot) := by
  apply Runs.known flowAddress fun _ _ => rfl
  apply Runs.known table
  · intro memory holding
    rw [flowParts_objects] at holding
    unfold RuleHeap.flowTableAt
    rw [Option.bind_some, holding.read _]
  cases fault with
  | some failure =>
    exact Runs.throw _ fun memory holding => ⟨failure.property, _, holding⟩
  | none =>
    cases added : tables.hashAddKeyData table key data with
    | mk status next =>
      have written : Runs
          (Holding before generation
            ((flowParts base flowAddress name routeTable actionCount generation slots table).objects
              snapshot))
          (alter fun memory => some (memory.withHeap
            (memory.heap.write flowAddress (Object.setHash next) (Object.setHash_resource _))))
          (fun _ => Holding before generation
            ((flowParts base flowAddress name routeTable actionCount generation slots next).objects
              snapshot)) (Stopped before generation snapshot) := by
        apply Runs.alter
        intro memory holding
        rw [flowParts_objects] at holding
        exact ⟨_, rfl, by rw [flowParts_objects]; exact holding.write _ (Object.setHash next) _⟩
      apply Runs.bind written
      intro _
      apply Runs.stopIf
      · exact fun negative memory holding => ⟨negative, _, holding⟩
      · intro accepted memory holding
        have success : 0 ≤ (tables.hashAddKeyData table key data).1 := by
          rw [added]
          exact not_lt.mp accepted
        have only := stores.addHash table key data success
        have stored (hash : views.ExactHash) (fresh : views.flowData table key = none) :=
          (hash.add table key data fresh success).1
        rw [added] at only stored
        exact ⟨next, ⟨only, stored⟩, holding⟩

/-- The flow loop stores valid actions and pointers to them. -/
theorem addFlows_runs (stores : views.Stores) {faults : Nat → InsertFault}
    (rest earlier : List DpFlowRule) (free : Nat) :
    Runs
      (fun memory => ∃ table, HashFilled views table base earlier ∧
        Holding before generation
          ((flowParts base flowAddress name routeTable actionCount generation
            (earlier.map (·.action) ++ List.replicate (rest.length + free) .zero) table).objects
              snapshot) memory)
      (addFlows faults ⟨some flowAddress, routeTable.map Prod.fst, some base, actionCount,
        generation⟩ earlier.length rest)
      (fun _ memory => (∀ flow ∈ rest, flow.action.Valid) ∧
        ∃ table, HashFilled views table base (earlier ++ rest) ∧
        Holding before generation
          ((flowParts base flowAddress name routeTable actionCount generation
            ((earlier ++ rest).map (·.action) ++ List.replicate free .zero) table).objects snapshot)
          memory)
      (Stopped before generation snapshot) := by
  induction rest generalizing earlier with
  | nil =>
    apply Runs.pure
    rintro memory ⟨table, filled, holding⟩
    refine ⟨fun _ impossible => (List.not_mem_nil impossible).elim, table, ?_, ?_⟩
    · simpa using filled
    · simpa using holding
  | cons flow rest ih =>
    apply Runs.choose
    intro table
    apply Runs.assume
    intro filled
    apply Runs.guard
    · exact fun _ memory holding => ⟨by decide, _, holding⟩
    intro _
    apply Runs.guard
    · exact fun negative memory holding => ⟨negative, _, holding⟩
    intro accepted
    have valid := (dpValidateAction_ok _).mp (not_lt.mp accepted)
    apply Runs.known table
    · intro memory holding
      rw [flowParts_objects] at holding
      unfold RuleHeap.flowTableAt
      rw [Option.bind_some, holding.read _]
    apply Runs.guard
    · exact fun _ memory holding => ⟨by decide, _, holding⟩
    intro missing
    have fresh (hash : views.ExactHash) : views.flowData table flow.keyBytes = none := by
      cases found : views.flowData table flow.keyBytes with
      | none => rfl
      | some data => exact absurd (hash.lookup_hit table _ data found).1 missing
    have room : (flow :: rest).length + free = rest.length + free + 1 := by
      rw [List.length_cons]
      omega
    have done : (earlier.map (·.action)).length = earlier.length := List.length_map _
    apply Runs.bind
    · apply storeAction_runs
      rw [List.length_append, List.length_replicate, List.length_cons, done]
      omega
    intro _
    apply Runs.known base fun _ _ => rfl
    rw [room, ← done, set_free_slot, done]
    apply Runs.bind (rteHashAddKeyData_runs stores)
    intro _
    apply Runs.choose
    intro next
    apply Runs.assume
    intro added
    have index : earlier.length + 1 = (earlier ++ [flow]).length := by simp
    rw [index]
    apply (ih (earlier ++ [flow])).weaken
    · intro memory holding
      rw [List.map_append]
      exact ⟨next, filled.add added fresh, holding⟩
    · rintro _ memory ⟨valids, table, filled, holding⟩
      rw [List.append_assoc, List.singleton_append] at filled holding
      exact ⟨List.forall_mem_cons.mpr ⟨valid, valids⟩, table, filled, holding⟩

end Flows

section Routes

variable {base routeAddress : Nat} {name : String}
  {flowTable : Option (Nat × String × tables.Hash)} {actionCount : Nat}

/-- The parts of a build in its route loop. -/
def routeParts (base routeAddress : Nat) (name : String)
    (flowTable : Option (Nat × String × tables.Hash)) (actionCount generation : Nat)
    (slots : List DpRuleAction) (table : tables.Lpm) : Parts tables :=
  ⟨some (base, slots), flowTable, some (routeAddress, name, table), actionCount, generation⟩

/-- The prefix table of a build is its last object. -/
theorem routeParts_objects (slots : List DpRuleAction) (table : tables.Lpm) :
    (routeParts base routeAddress name flowTable actionCount generation slots table).objects
        snapshot =
      ([(snapshot, .snapshot ⟨flowTable.map Prod.fst, some routeAddress, some base, actionCount,
          generation⟩), (base, .actions slots)] ++
        flowTable.toList.map fun entry => (entry.1, .flowTable entry.2.1 entry.2.2)) ++
        (routeAddress, .routeTable name table) :: [] := rfl

theorem routeTableAt_routeParts {slots : List DpRuleAction} {table : tables.Lpm}
    {memory : RuleMemory tables}
    (holding : Holding before generation
      ((routeParts base routeAddress name flowTable actionCount generation slots table).objects
        snapshot) memory) :
    memory.heap.routeTableAt (some routeAddress) = some table := by
  rw [routeParts_objects] at holding
  unfold RuleHeap.routeTableAt
  rw [Option.bind_some, holding.read _]

/-- The insertion puts its own rule into the table. -/
theorem rteLpmAdd_runs (stores : views.Stores) {fault : InsertFault} {prefixBits : UInt32}
    {depth : UInt8} {nextHop : UInt32} {slots : List DpRuleAction} {table : tables.Lpm} :
    Runs
      (Holding before generation
        ((routeParts base routeAddress name flowTable actionCount generation slots table).objects
          snapshot))
      (rteLpmAdd fault (some routeAddress) prefixBits depth nextHop)
      (fun _ memory => ∃ next, LpmAdded views table ⟨prefixBits, depth, nextHop⟩ next ∧
        Holding before generation
          ((routeParts base routeAddress name flowTable actionCount generation slots next).objects
            snapshot) memory)
      (Stopped before generation snapshot) := by
  apply Runs.known routeAddress fun _ _ => rfl
  apply Runs.known table fun _ holding => routeTableAt_routeParts holding
  cases fault with
  | some failure =>
    exact Runs.throw _ fun memory holding => ⟨failure.property, _, holding⟩
  | none =>
    cases added : tables.lpmAdd table prefixBits depth nextHop with
    | mk status next =>
      have written : Runs
          (Holding before generation
            ((routeParts base routeAddress name flowTable actionCount generation slots
              table).objects snapshot))
          (alter fun memory => some (memory.withHeap
            (memory.heap.write routeAddress (Object.setLpm next) (Object.setLpm_resource _))))
          (fun _ => Holding before generation
            ((routeParts base routeAddress name flowTable actionCount generation slots
              next).objects snapshot)) (Stopped before generation snapshot) := by
        apply Runs.alter
        intro memory holding
        rw [routeParts_objects] at holding
        exact ⟨_, rfl, by rw [routeParts_objects]; exact holding.write _ (Object.setLpm next) _⟩
      apply Runs.bind written
      intro _
      apply Runs.stopIf
      · exact fun negative memory holding => ⟨negative, _, holding⟩
      · intro accepted memory holding
        have success : 0 ≤ (tables.lpmAdd table prefixBits depth nextHop).1 := by
          rw [added]
          exact not_lt.mp accepted
        have only := stores.addLpm table prefixBits depth nextHop success
        have stored (lpm : views.ExactLpm) (normal : NormalPrefix prefixBits depth)
            (fresh : (prefixBits, depth) ∉ (views.lpmRules table).map LpmRule.key) :=
          (lpm.add table ⟨prefixBits, depth, nextHop⟩ normal fresh success).1
        rw [added] at only stored
        exact ⟨next, ⟨only, stored⟩, holding⟩

/-- The route loop stores valid actions and their indices behind those of the flows. -/
theorem addRoutes_runs (stores : views.Stores) {faults : Nat → InsertFault}
    (store : List DpRuleAction) (rest earlier : List DpRouteRule)
    (limit : store.length + earlier.length + rest.length ≤ 2 ^ 24) :
    Runs
      (fun memory => ∃ table, LpmFilled views table store.length earlier ∧
        Holding before generation
          ((routeParts base routeAddress name flowTable actionCount generation
            (store ++ earlier.map (·.action) ++ List.replicate rest.length .zero) table).objects
              snapshot) memory)
      (addRoutes faults ⟨flowTable.map Prod.fst, some routeAddress, some base, actionCount,
        generation⟩ store.length earlier.length rest)
      (fun _ memory => (∀ route ∈ rest, route.action.Valid) ∧
        ∃ table, LpmFilled views table store.length (earlier ++ rest) ∧
        Holding before generation
          ((routeParts base routeAddress name flowTable actionCount generation
            (store ++ (earlier ++ rest).map (·.action)) table).objects snapshot) memory)
      (Stopped before generation snapshot) := by
  induction rest generalizing earlier with
  | nil =>
    apply Runs.pure
    rintro memory ⟨table, filled, holding⟩
    refine ⟨fun _ impossible => (List.not_mem_nil impossible).elim, table, ?_, ?_⟩
    · simpa using filled
    · simpa using holding
  | cons route rest ih =>
    apply Runs.choose
    intro table
    apply Runs.assume
    intro filled
    apply Runs.guard
    · exact fun _ memory holding => ⟨by decide, _, holding⟩
    intro shaped
    apply Runs.guard
    · exact fun _ memory holding => ⟨by decide, _, holding⟩
    intro masked
    have normal : NormalPrefix route.prefixBits route.depth := by
      simp only [not_or, UInt8.not_lt] at shaped
      exact ⟨shaped.1, shaped.2.1, not_not.mp masked⟩
    apply Runs.guard
    · exact fun negative memory holding => ⟨negative, _, holding⟩
    intro accepted
    have valid := (dpValidateAction_ok _).mp (not_lt.mp accepted)
    apply Runs.known table fun _ holding => routeTableAt_routeParts holding
    apply Runs.guard
    · exact fun _ memory holding => ⟨by decide, _, holding⟩
    intro absent
    have fresh (lpm : views.ExactLpm) : route.key ∉ (views.lpmRules table).map LpmRule.key :=
      fun present => absent (lpm.present_hit table _ _ normal present)
    apply Runs.guard
    · exact fun negative memory holding => ⟨negative, _, holding⟩
    intro _
    rw [List.length_cons] at limit
    have done : (store ++ earlier.map (·.action)).length = store.length + earlier.length := by simp
    apply Runs.bind
    · apply storeAction_runs
      rw [List.length_append, List.length_replicate, List.length_cons, done]
      omega
    intro _
    rw [← done, List.length_cons, ← Nat.add_zero rest.length, Nat.add_right_comm, set_free_slot,
      Nat.add_zero, done]
    apply Runs.bind (rteLpmAdd_runs stores)
    intro _
    apply Runs.choose
    intro next
    apply Runs.assume
    intro added
    have index : earlier.length + 1 = (earlier ++ [route]).length := by simp
    rw [index]
    apply (ih (earlier ++ [route]) (by rw [← index]; omega)).weaken
    · intro memory holding
      rw [List.map_append, ← List.append_assoc]
      exact ⟨next, filled.add (by omega) added normal fresh, holding⟩
    · rintro _ memory ⟨valids, table, filled, holding⟩
      rw [List.append_assoc, List.singleton_append] at filled holding
      exact ⟨List.forall_mem_cons.mpr ⟨valid, valids⟩, table, filled, holding⟩

end Routes

section Stages

/-- A part of a snapshot that has no elements is absent. -/
def unlessEmpty {A : Type} (count : Nat) (part : A) : Option A :=
  if count ≠ 0 then some part else none

/-- A snapshot starts as zeroed memory with its generation. -/
def emptyParts (tables : RteTables) (generation : Nat) : Parts tables :=
  ⟨none, none, none, 0, generation⟩

theorem createActions_runs (failure : Option Nat) (totalActions : Nat) :
    Runs (Holding before generation ((emptyParts tables generation).objects snapshot))
      (createActions failure snapshot totalActions)
      (fun _ memory => ∃ base, Holding before generation
        (Parts.objects ⟨unlessEmpty totalActions (base, List.replicate totalActions .zero), none,
          none, totalActions, generation⟩ snapshot) memory)
      (Stopped before generation snapshot) := by
  apply Runs.ite
  · intro some
    apply Runs.bind (rteZmalloc_runs failure _ (fun _ holding => holding)
      fun _ _ _ _ _ => rfl)
    intro base
    apply (assign_runs _).weaken fun _ holding => holding
    intro _ memory holding
    refine ⟨base, ?_⟩
    rw [unlessEmpty, if_pos some]
    exact holding
  · intro none
    apply Runs.pure
    intro memory holding
    obtain rfl := not_not.mp none
    exact ⟨0, holding⟩

theorem createFlowTable_runs (failure : Option Nat) (flowCount totalActions : Nat)
    (actions : Option (Nat × List DpRuleAction)) :
    Runs (Holding before generation
        (Parts.objects ⟨actions, none, none, totalActions, generation⟩ snapshot))
      (createFlowTable failure snapshot flowCount generation)
      (fun _ memory => ∃ flowAddress, Holding before generation
        (Parts.objects ⟨actions, unlessEmpty flowCount (flowAddress, s!"dfr_f_{generation}",
          tables.hashCreate s!"dfr_f_{generation}" (dpMaxFlowRules * 2) 16), none, totalActions,
          generation⟩ snapshot) memory)
      (Stopped before generation snapshot) := by
  apply Runs.ite
  · intro some
    apply Runs.bind
    · apply createTable_runs failure (.flow s!"dfr_f_{generation}") List.mem_cons_self rfl
      cases actions <;> simp [Parts.objects, Parts.actionObjects, Parts.flowObjects,
        Parts.routeObjects, Object.resource]
    intro flowAddress
    apply (assign_runs _).weaken
    · intro memory holding
      rw [Parts.objects, List.cons_append] at holding
      exact holding
    · intro _ memory holding
      refine ⟨flowAddress, ?_⟩
      rw [unlessEmpty, if_pos some]
      simpa [Parts.objects, Parts.actionObjects, Parts.flowObjects, Parts.routeObjects,
        Parts.cell] using holding
  · intro none
    apply Runs.pure
    intro memory holding
    obtain rfl := not_not.mp none
    exact ⟨0, holding⟩

theorem createRouteTable_runs (failure : Option Nat) (routeCount totalActions : Nat)
    (actions : Option (Nat × List DpRuleAction))
    (flowTable : Option (Nat × String × tables.Hash)) :
    Runs (Holding before generation
        (Parts.objects ⟨actions, flowTable, none, totalActions, generation⟩ snapshot))
      (createRouteTable failure snapshot routeCount generation)
      (fun _ memory => ∃ routeAddress, Holding before generation
        (Parts.objects ⟨actions, flowTable, unlessEmpty routeCount (routeAddress,
          s!"dfr_r_{generation}", tables.lpmCreate s!"dfr_r_{generation}" dpMaxRouteRules 256),
          totalActions, generation⟩ snapshot) memory)
      (Stopped before generation snapshot) := by
  apply Runs.ite
  · intro some
    apply Runs.bind
    · apply createTable_runs failure (.route s!"dfr_r_{generation}")
        (List.mem_cons_of_mem _ List.mem_cons_self) rfl
      cases actions <;> cases flowTable <;> simp [Parts.objects, Parts.actionObjects,
        Parts.flowObjects, Parts.routeObjects, Object.resource]
    intro routeAddress
    apply (assign_runs _).weaken
    · intro memory holding
      rw [Parts.objects, List.cons_append] at holding
      exact holding
    · intro _ memory holding
      refine ⟨routeAddress, ?_⟩
      rw [unlessEmpty, if_pos some]
      simpa [Parts.objects, Parts.actionObjects, Parts.flowObjects, Parts.routeObjects,
        Parts.cell] using holding
  · intro none
    apply Runs.pure
    intro memory holding
    obtain rfl := not_not.mp none
    exact ⟨0, holding⟩

theorem unlessEmpty_pos {A : Type} {count : Nat} (some : count ≠ 0) (part : A) :
    unlessEmpty count part = .some part := if_pos some

theorem unlessEmpty_map {A B : Type} (count : Nat) (part : A) (image : A → B) :
    (unlessEmpty count part).map image = unlessEmpty count (image part) := by
  unfold unlessEmpty
  split_ifs <;> rfl

theorem unlessEmpty_eq_some {A : Type} {count : Nat} {part found : A}
    (same : unlessEmpty count part = some found) : count ≠ 0 ∧ part = found := by
  unfold unlessEmpty at same
  split_ifs at same with present
  exact ⟨present, Option.some.inj same⟩

/-- The flow stage fills the first elements of the array. -/
theorem flowStage_runs (stores : views.Stores) (faults : Nat → InsertFault)
    (flows : List DpFlowRule) (free base flowAddress : Nat) (name : String)
    (routeTable : Option (Nat × String × tables.Lpm)) (actionCount : Nat) :
    Runs
      (Holding before generation (Parts.objects
        ⟨unlessEmpty (flows.length + free) (base, List.replicate (flows.length + free) .zero),
          unlessEmpty flows.length
            (flowAddress, name, tables.hashCreate name (dpMaxFlowRules * 2) 16),
          routeTable, actionCount, generation⟩ snapshot))
      (addFlows faults ⟨(unlessEmpty flows.length flowAddress), routeTable.map Prod.fst,
        (unlessEmpty (flows.length + free) base), actionCount, generation⟩ 0 flows)
      (fun _ memory => (∀ flow ∈ flows, flow.action.Valid) ∧
        ∃ table, HashFilled views table base flows ∧
        Holding before generation (Parts.objects
          ⟨unlessEmpty (flows.length + free)
              (base, flows.map (·.action) ++ List.replicate free .zero),
            unlessEmpty flows.length (flowAddress, name, table), routeTable, actionCount,
            generation⟩ snapshot) memory)
      (Stopped before generation snapshot) := by
  have fresh : HashFilled views (tables.hashCreate name (dpMaxFlowRules * 2) 16) base [] := by
    constructor
    case within =>
      intro key data found
      rw [stores.createHash] at found
      exact absurd found.symm (Option.some_ne_none _)
    case stores => exact fun _ index flow found => absurd found.symm (Option.some_ne_none _)
  by_cases none : flows.length = 0
  · obtain rfl := List.length_eq_zero_iff.mp none
    apply Runs.pure
    intro memory holding
    exact ⟨fun _ impossible => (List.not_mem_nil impossible).elim, _, fresh, by simpa using holding⟩
  · have total : flows.length + free ≠ 0 := by omega
    simp only [unlessEmpty_pos none, unlessEmpty_pos total]
    apply (addFlows_runs stores flows [] free).weaken
    · exact fun memory holding => ⟨_, fresh, holding⟩
    · exact fun _ memory reached => reached

/-- The route stage fills the remaining elements. -/
theorem routeStage_runs (stores : views.Stores) (faults : Nat → InsertFault)
    (routes : List DpRouteRule) {store : List DpRuleAction}
    (limit : store.length + routes.length ≤ 2 ^ 24) (base routeAddress : Nat) (name : String)
    (flowTable : Option (Nat × String × tables.Hash)) (actionCount : Nat) :
    Runs
      (Holding before generation (Parts.objects
        ⟨unlessEmpty (store.length + routes.length)
            (base, store ++ List.replicate routes.length .zero), flowTable,
          unlessEmpty routes.length
            (routeAddress, name, tables.lpmCreate name dpMaxRouteRules 256),
          actionCount, generation⟩ snapshot))
      (addRoutes faults ⟨flowTable.map Prod.fst, (unlessEmpty routes.length routeAddress),
        (unlessEmpty (store.length + routes.length) base), actionCount, generation⟩
        store.length 0 routes)
      (fun _ memory => (∀ route ∈ routes, route.action.Valid) ∧
        ∃ table, LpmFilled views table store.length routes ∧
        Holding before generation (Parts.objects
          ⟨unlessEmpty (store.length + routes.length) (base, store ++ routes.map (·.action)),
            flowTable, unlessEmpty routes.length (routeAddress, name, table), actionCount,
            generation⟩ snapshot) memory)
      (Stopped before generation snapshot) := by
  have fresh : LpmFilled views (tables.lpmCreate name dpMaxRouteRules 256) store.length [] := by
    constructor
    case within =>
      intro rule member
      rw [stores.createLpm] at member
      exact (List.not_mem_nil member).elim
    case stores => exact fun _ index route found => absurd found.symm (Option.some_ne_none _)
  by_cases none : routes.length = 0
  · obtain rfl := List.length_eq_zero_iff.mp none
    apply Runs.pure
    intro memory holding
    exact ⟨fun _ impossible => (List.not_mem_nil impossible).elim, _, fresh,
      by simpa using holding⟩
  · have total : store.length + routes.length ≠ 0 := by omega
    simp only [unlessEmpty_pos none, unlessEmpty_pos total]
    apply (addRoutes_runs stores store routes [] limit).weaken
    · intro memory holding
      rw [List.map_nil, List.append_nil]
      exact ⟨_, fresh, holding⟩
    · exact fun _ memory reached => reached

end Stages

section Fill

/-- The actions of a rule set stand in the array in this order. -/
def ruleActions (flows : List DpFlowRule) (routes : List DpRouteRule) : List DpRuleAction :=
  flows.map (·.action) ++ routes.map (·.action)

/-- A built snapshot refers to nothing but initialised elements of its own action array. Exact tables
lead each flow and each route of the rule set to its own element. -/
structure Parts.SelfContained (views : TableViews tables) (parts : Parts tables)
    (flows : List DpFlowRule) (routes : List DpRouteRule) (generation : Nat) : Prop where
  initialised : ∀ base slots, parts.actions = some (base, slots) → slots = ruleActions flows routes
  valid : ∀ action ∈ ruleActions flows routes, action.Valid
  actionCount : parts.actionCount = (ruleActions flows routes).length
  flowData : ∀ address name table, parts.flowTable = some (address, name, table) →
    ∀ key data, views.flowData table key = some data →
      ∃ base index, parts.actions = some (base, ruleActions flows routes) ∧
        index < (ruleActions flows routes).length ∧ data = base + index
  nextHops : ∀ address name table, parts.routeTable = some (address, name, table) →
    ∀ rule ∈ views.lpmRules table,
      ∃ base, parts.actions = some (base, ruleActions flows routes) ∧
        rule.nextHop.toNat < (ruleActions flows routes).length
  flowsStored : views.ExactHash → ∀ index flow, flows[index]? = some flow →
    ∃ address name table base, parts.flowTable = some (address, name, table) ∧
      parts.actions = some (base, ruleActions flows routes) ∧
      views.flowData table flow.keyBytes = some (base + index)
  routesStored : views.ExactLpm → ∀ index route, routes[index]? = some route →
    ∃ address name table, parts.routeTable = some (address, name, table) ∧
      ∃ rule ∈ views.lpmRules table,
        rule.key = route.key ∧ rule.nextHop.toNat = flows.length + index
  flowName : ∀ address name table, parts.flowTable = some (address, name, table) →
    name = s!"dfr_f_{generation}"
  routeName : ∀ address name table, parts.routeTable = some (address, name, table) →
    name = s!"dfr_r_{generation}"
  generation : parts.generation = generation

/-- After its stages a snapshot is self-contained. -/
theorem fillSnapshot_runs (stores : views.Stores) (faults : SnapshotFaults)
    {flows : RuleArray DpFlowRule} {routes : RuleArray DpRouteRule}
    (flowCount : flows.count = flows.rules.length)
    (routeCount : routes.count = routes.rules.length)
    (limit : flows.count + routes.count ≤ 2 ^ 24) :
    Runs (Holding before generation ((emptyParts tables generation).objects snapshot))
      (fillSnapshot faults flows routes generation snapshot)
      (fun _ memory => ∃ parts : Parts tables,
        parts.SelfContained views flows.rules routes.rules generation ∧
        Holding before generation (parts.objects snapshot) memory)
      (Stopped before generation snapshot) := by
  rw [flowCount, routeCount] at limit
  unfold fillSnapshot
  rw [flowCount, routeCount]
  apply Runs.bind (createActions_runs _ _)
  intro _
  apply Runs.choose
  intro base
  apply Runs.bind (createFlowTable_runs _ _ _ _)
  intro _
  apply Runs.choose
  intro flowAddress
  apply Runs.bind (createRouteTable_runs _ _ _ _ _)
  intro _
  apply Runs.choose
  intro routeAddress
  apply Runs.known
    ⟨unlessEmpty flows.rules.length flowAddress, unlessEmpty routes.rules.length routeAddress,
      unlessEmpty (flows.rules.length + routes.rules.length) base,
      flows.rules.length + routes.rules.length, generation⟩
  · intro memory holding
    unfold RuleHeap.snapshotAt
    rw [holding.read []]
    simp only [Parts.cell, unlessEmpty_map]
  apply Runs.bind
  · rw [← unlessEmpty_map routes.rules.length (routeAddress, s!"dfr_r_{generation}",
      tables.lpmCreate s!"dfr_r_{generation}" dpMaxRouteRules 256) Prod.fst]
    exact flowStage_runs stores _ _ _ _ _ _ _ _
  intro _
  apply Runs.assume
  intro flowValid
  apply Runs.choose
  intro flowTable
  apply Runs.assume
  intro flowsFilled
  have length : (flows.rules.map (·.action)).length = flows.rules.length := List.length_map _
  rw [← length] at limit
  have stage : Runs _ _ _ (Stopped before generation snapshot) :=
    routeStage_runs stores faults.routeInserts routes.rules limit base routeAddress
      s!"dfr_r_{generation}"
      (unlessEmpty flows.rules.length (flowAddress, s!"dfr_f_{generation}", flowTable))
      (flows.rules.length + routes.rules.length)
  rw [unlessEmpty_map, length] at stage
  apply stage.weaken fun _ holding => holding
  rintro _ memory ⟨routeValid, routeTable, routesFilled, holding⟩
  have size : (ruleActions flows.rules routes.rules).length =
      flows.rules.length + routes.rules.length := by
    simp [ruleActions]
  refine ⟨_, ?_, holding⟩
  constructor
  · intro base slots found
    exact (Prod.mk.inj (unlessEmpty_eq_some found).2).2.symm
  · intro action member
    rw [ruleActions, List.mem_append, List.mem_map, List.mem_map] at member
    rcases member with ⟨flow, inside, rfl⟩ | ⟨route, inside, rfl⟩
    · exact flowValid flow inside
    · exact routeValid route inside
  · exact size.symm
  · intro address name table found key data stored
    obtain ⟨present, same⟩ := unlessEmpty_eq_some found
    obtain ⟨index, below, rfl⟩ := flowsFilled.within key data (by cases same; exact stored)
    exact ⟨base, index, unlessEmpty_pos (by omega) _, by omega, rfl⟩
  · intro address name table found rule member
    obtain ⟨present, same⟩ := unlessEmpty_eq_some found
    have below := routesFilled.within rule (by cases same; exact member)
    exact ⟨base, unlessEmpty_pos (by omega) _, by omega⟩
  · intro hash index flow found
    have small : index < flows.rules.length := (List.getElem?_eq_some_iff.mp found).1
    exact ⟨_, _, flowTable, base, unlessEmpty_pos (by omega) _, unlessEmpty_pos (by omega) _,
      flowsFilled.stores hash index flow found⟩
  · intro lpm index route found
    have small : index < routes.rules.length := (List.getElem?_eq_some_iff.mp found).1
    exact ⟨_, _, routeTable, unlessEmpty_pos (by omega) _,
      routesFilled.stores lpm index route found⟩
  · intro address name table found
    cases (unlessEmpty_eq_some found).2
    rfl
  · intro address name table found
    cases (unlessEmpty_eq_some found).2
    rfl
  · rfl

end Fill

section Build

/-- A successful build has added one self-contained snapshot. -/
structure Built (views : TableViews tables) (before : RuleMemory tables)
    (flows : List DpFlowRule) (routes : List DpRouteRule) (generation snapshot : Nat)
    (parts : Parts tables) (after : RuleMemory tables) : Prop where
  rest : after = before.withHeap after.heap
  objects : after.heap.objects = before.heap.objects ++ parts.objects snapshot
  selfContained : parts.SelfContained views flows routes generation
  orderly : before.heap.Orderly → before.heap.Vacant generation → after.heap.Orderly

/-- A failed build has freed once what it has allocated and has touched nothing else. -/
structure Undone (before : RuleMemory tables) (generation : Nat) (after : RuleMemory tables) :
    Prop where
  rest : after = before.withHeap after.heap
  objects : after.heap.objects = before.heap.objects
  log : ∃ events, after.heap.log = before.heap.log ++ events ∧
    (Registry.createdIds events).Nodup ∧
    (Registry.releasedIds events).Perm (Registry.createdIds events)
  orderly : before.heap.Orderly → before.heap.Vacant generation → after.heap.Orderly

/-- Freeing keeps the log orderly. -/
theorem Freed.orderly {memory after : RuleMemory tables} {kept : List (Nat × Object tables)}
    {addresses : List Nat} (freed : Freed memory kept addresses after)
    (orderly : memory.heap.Orderly) : after.heap.Orderly := by
  rw [RuleHeap.Orderly, freed.log]
  exact Registry.legal_released orderly addresses

/-- What a stopped stage holds is freed by the `fail` label. -/
theorem Stopped.undone {status : Int} {memory : RuleMemory tables}
    (stopped : Stopped before generation snapshot status memory) :
    ∃ after, dpSnapshotFree (some snapshot) false false memory = some ((), after) ∧
      Undone before generation after := by
  obtain ⟨-, parts, holding⟩ := stopped
  have split : memory.heap.objects = before.heap.objects ++ parts.objects snapshot ++ [] := by
    rw [holding.objects, List.append_nil]
  obtain ⟨after, run, freed, stats⟩ := dpSnapshotFree_run parts split false false
  refine ⟨after, run, ?_, ?_, ?_, ?_⟩
  · have same : after.stats = before.stats := by
      rw [stats, holding.rest]
      simp [Parts.freedStats, RuleMemory.withHeap]
    rw [freed.rest, same, holding.rest]
    rfl
  · rw [freed.objects, List.append_nil]
  · obtain ⟨events, log, created, released⟩ := holding.log
    refine ⟨events ++ (parts.freedIds snapshot).map .released, ?_, ?_, ?_⟩
    · rw [freed.log, log, List.append_assoc]
    · rw [Registry.createdIds_append, Registry.createdIds_released, List.append_nil, created]
      exact holding.nodup
    · rw [Registry.createdIds_append, Registry.createdIds_released, List.append_nil, created,
        Registry.releasedIds_append, Registry.releasedIds_released, released, List.nil_append]
      exact parts.freedIds_perm snapshot
  · intro orderly vacant
    exact freed.orderly (holding.orderly orderly vacant)

/-- A build returns a self-contained snapshot, or it returns a negative status and undoes its
work. -/
theorem dpSnapshotBuild_run (stores : views.Stores) (faults : SnapshotFaults)
    (flows : RuleArray DpFlowRule) (routes : RuleArray DpRouteRule) (generation : Nat)
    (before : RuleMemory tables) :
    ∃ status result after,
      dpSnapshotBuild faults flows routes generation before = some ((status, result), after) ∧
        ((status = 0 ∧ ∃ snapshot parts, result = some snapshot ∧
            Built views before flows.rules routes.rules generation snapshot parts after) ∨
          (status < 0 ∧ result = none ∧ Undone before generation after)) := by
  have untouched : Undone before generation before :=
    ⟨rfl, rfl, ⟨[], (List.append_nil _).symm, List.nodup_nil, .nil⟩, fun orderly _ => orderly⟩
  by_cases limit : flows.count > dpMaxFlowRules ∨ routes.count > dpMaxRouteRules
  · refine ⟨-enospc, none, before, ?_, .inr ⟨by decide, rfl, untouched⟩⟩
    rw [dpSnapshotBuild, if_pos limit]
    rfl
  by_cases missing : (flows.count ≠ 0 ∧ flows.isNull) ∨ (routes.count ≠ 0 ∧ routes.isNull)
  · refine ⟨-einval, none, before, ?_, .inr ⟨by decide, rfl, untouched⟩⟩
    rw [dpSnapshotBuild, if_neg limit, if_pos missing]
    rfl
  rw [dpSnapshotBuild, if_neg limit, if_neg missing]
  cases fault : faults.allocations.snapshot with
  | some rteErrno =>
    exact ⟨errnoOr rteErrno enomem, none, before, rfl,
      .inr ⟨errnoOr_neg rteErrno enomem_pos, rfl, untouched⟩⟩
  | none =>
    let object : Object tables := .snapshot ⟨none, none, none, 0, generation⟩
    have holding : Holding before generation
        ((emptyParts tables generation).objects before.heap.next)
        (before.withHeap (before.heap.allocate object)) :=
      (Holding.start before generation).allocate fun _ _ _ => rfl
    obtain ⟨flowLimit, routeLimit⟩ := not_or.mp limit
    obtain ⟨flowPresent, routePresent⟩ := not_or.mp missing
    have small : flows.count + routes.count ≤ 2 ^ 24 := by
      rw [dpMaxFlowRules] at flowLimit
      rw [dpMaxRouteRules] at routeLimit
      omega
    obtain ⟨result, filled, run, outcome⟩ :=
      fillSnapshot_runs stores faults (RuleArray.count_eq flowPresent)
        (RuleArray.count_eq routePresent) small _ holding
    have allocated : (rteZmalloc none object : Build tables Nat).run before =
        some (.ok before.heap.next, before.withHeap (before.heap.allocate object)) := rfl
    rw [bind_run allocated]
    dsimp only
    rw [bind_run (show (fillSnapshot faults flows routes generation before.heap.next).run
      (before.withHeap (before.heap.allocate object)) = _ from run)]
    cases result with
    | ok _ =>
      obtain ⟨parts, selfContained, holds⟩ := outcome
      exact ⟨0, _, filled, rfl, .inl ⟨rfl, _, parts, rfl, holds.rest, holds.objects,
        selfContained, holds.orderly⟩⟩
    | error status =>
      obtain ⟨after, freed, undone⟩ := Stopped.undone outcome
      refine ⟨status, none, after, ?_, .inr ⟨outcome.1, rfl, undone⟩⟩
      exact bind_run freed _

end Build

end FlowRouter.Native.Memory
