import FlowRouter.Native.Lookup
import Mathlib.Data.List.Nodup

namespace FlowRouter.Native
open Checks

/-- The sixteen bytes determine the key. -/
theorem DpFlowKey.bytes_injective : Function.Injective DpFlowKey.bytes := by
  intro first second same
  obtain ⟨srcIpv4, dstIpv4, srcPort, dstPort, l4Proto, reserved0, reserved1, reserved2⟩ := first
  obtain ⟨srcIpv4', dstIpv4', srcPort', dstPort', l4Proto', reserved0', reserved1', reserved2'⟩ :=
    second
  simp only [DpFlowKey.bytes, List.cons.injEq, ← UInt8.toNat_inj, UInt8.toNat_ofNat'] at same
  obtain ⟨s0, s1, s2, s3, d0, d1, d2, d3, p0, p1, q0, q1, proto, r0, r1, r2, -⟩ := same
  have src := srcIpv4.toNat_lt
  have src' := srcIpv4'.toNat_lt
  have dst := dstIpv4.toNat_lt
  have dst' := dstIpv4'.toNat_lt
  have port := srcPort.toNat_lt
  have port' := srcPort'.toNat_lt
  have target := dstPort.toNat_lt
  have target' := dstPort'.toNat_lt
  simp only [DpFlowKey.mk.injEq, ← UInt32.toNat_inj, ← UInt16.toNat_inj, ← UInt8.toNat_inj]
  exact ⟨by omega, by omega, by omega, by omega, proto, r0, r1, r2⟩

/-- These are the actions that the builder admits. -/
def DpRuleAction.Valid (action : DpRuleAction) : Prop :=
  action.reserved = 0 ∧
    (((action.type = dpActionDrop ∨ action.type = dpActionForward) ∧ action.rewriteMask = 0) ∨
      (action.type = dpActionRewrite ∧ action.rewriteMask ≠ 0 ∧ action.rewriteMask &&& 0xf0 = 0))

/-- The action check accepts exactly the valid actions. -/
theorem dpValidateAction_ok (action : DpRuleAction) :
    0 ≤ dpValidateAction action ↔ action.Valid := by
  have mask : ~~~(dpRewriteSrcIpv4 ||| dpRewriteDstIpv4 ||| dpRewriteSrcPort |||
    dpRewriteDstPort) = 0xf0 := by decide
  have positive : 0 < einval := by decide
  unfold dpValidateAction DpRuleAction.Valid
  simp only [mask]
  by_cases reserved : action.reserved = 0
  · rw [if_neg (not_not.mpr reserved)]
    by_cases plain : action.type = dpActionDrop ∨ action.type = dpActionForward
    · have other : action.type ≠ dpActionRewrite := by
        rintro rewrite
        rw [rewrite] at plain
        exact absurd plain (by decide)
      rw [if_pos plain]
      by_cases empty : action.rewriteMask = 0 <;> simp [reserved, plain, other, empty, positive]
    · rw [if_neg plain]
      by_cases rewrite : action.type = dpActionRewrite
      · rw [if_neg (not_not.mpr rewrite)]
        by_cases bits : action.rewriteMask = 0 ∨ action.rewriteMask &&& 0xf0 ≠ 0
        · rw [if_pos bits]
          refine ⟨fun accepted => absurd accepted (by decide), fun accepted => ?_⟩
          tauto
        · rw [if_neg bits]
          tauto
      · simp [plain, rewrite, positive]
  · simp [reserved, positive]

/-- A checked status passes exactly when it is no error. -/
theorem checked_ok {status : Int} : checked status = .ok () ↔ 0 ≤ status :=
  rejectIf_ok.trans not_lt

structure DpFlowRule.Valid (flow : DpFlowRule) : Prop where
  proto : flow.l4Proto = ipprotoTcp ∨ flow.l4Proto = ipprotoUdp
  reserved : flow.reserved0 = 0 ∧ flow.reserved1 = 0 ∧ flow.reserved2 = 0
  action : flow.action.Valid

structure DpRouteRule.Valid (route : DpRouteRule) : Prop where
  normal : NormalPrefix route.prefixBits route.depth
  reserved : route.reserved0 = 0 ∧ route.reserved1 = 0 ∧ route.reserved2 = 0
  action : route.action.Valid

def DpFlowRule.keyBytes (flow : DpFlowRule) : List UInt8 := (flowRuleKeyBytes flow).bytes

def DpRouteRule.key (route : DpRouteRule) : UInt32 × UInt8 := (route.prefixBits, route.depth)

section Loops

variable {tables : RteTables} {views : TableViews tables}

/-- One round of the flow loop accepts a valid rule with a new key. -/
theorem addFlows_cons {table : tables.Hash} {actions : List DpRuleAction} {index : Nat}
    {flow : DpFlowRule} {rest : List DpFlowRule} {result : tables.Hash × List DpRuleAction} :
    addFlows table actions index (flow :: rest) = .ok result ↔
      flow.Valid ∧ (tables.hashLookupData table flow.keyBytes).1 < 0 ∧
      0 ≤ (tables.hashAddKeyData table flow.keyBytes index).1 ∧
      addFlows (tables.hashAddKeyData table flow.keyBytes index).2
        (actions.set index flow.action) (index + 1) rest = .ok result := by
  simp only [addFlows, guard_ok, rejectIf_ok, checked_ok, dpValidateAction_ok, not_le]
  constructor
  · rintro ⟨fields, action, fresh, stored, tail⟩
    exact ⟨⟨by tauto, by tauto, action⟩, fresh, stored, tail⟩
  · rintro ⟨⟨proto, reserved, action⟩, fresh, stored, tail⟩
    exact ⟨by tauto, action, fresh, stored, tail⟩

/-- One round of the route loop accepts a valid rule with a new prefix. -/
theorem addRoutes_cons {table : tables.Lpm} {actions : List DpRuleAction} {index : Nat}
    {route : DpRouteRule} {rest : List DpRouteRule} {result : tables.Lpm × List DpRuleAction} :
    addRoutes table actions index (route :: rest) = .ok result ↔
      route.Valid ∧ (tables.lpmIsRulePresent table route.prefixBits route.depth).1 = 0 ∧
      0 ≤ (tables.lpmAdd table route.prefixBits route.depth (UInt32.ofNat index)).1 ∧
      addRoutes (tables.lpmAdd table route.prefixBits route.depth (UInt32.ofNat index)).2
        (actions.set index route.action) (index + 1) rest = .ok result := by
  simp only [addRoutes, guard_ok, rejectIf_ok, checked_ok, dpValidateAction_ok, not_lt, not_not]
  constructor
  · rintro ⟨fields, masked, action, absent, present, stored, tail⟩
    exact ⟨⟨⟨by tauto, UInt8.not_lt.mp (by tauto), masked⟩, by tauto, action⟩,
      le_antisymm absent present, stored, tail⟩
  · rintro ⟨⟨⟨positive, bounded, masked⟩, reserved, action⟩, absent, stored, tail⟩
    have small := UInt8.not_lt.mpr bounded
    exact ⟨by tauto, masked, action, absent.le, absent.ge, stored, tail⟩

/-- Filling the next free slot extends the written part of the action store. -/
theorem set_free_slot (done : List DpRuleAction) (action : DpRuleAction) (free : Nat) :
    (done ++ List.replicate (free + 1) DpRuleAction.zero).set done.length action =
      (done ++ [action]) ++ List.replicate free DpRuleAction.zero := by
  simp [List.replicate_succ]

/-- The hash maps the key of each stored rule to the index of that rule. -/
structure FlowsStored (views : TableViews tables) (table : tables.Hash)
    (done : List DpFlowRule) : Prop where
  data : ∀ key, views.flowData table key = done.findIdx? fun flow => flow.keyBytes == key
  count : views.flowCount table = done.length
  capacity : views.flowCapacity table = 2048

/-- A key is free exactly when no stored rule has it. -/
theorem FlowsStored.absent {table : tables.Hash} {done : List DpFlowRule}
    (stored : FlowsStored views table done) (key : List UInt8) :
    views.flowData table key = none ↔ key ∉ done.map DpFlowRule.keyBytes := by
  rw [stored.data, List.findIdx?_eq_none_iff]
  simp

/-- The lookup status tells whether a stored rule has the key. -/
theorem FlowsStored.lookup_neg (exact : views.ExactHash) {table : tables.Hash}
    {done : List DpFlowRule} (stored : FlowsStored views table done) (key : List UInt8) :
    (tables.hashLookupData table key).1 < 0 ↔ key ∉ done.map DpFlowRule.keyBytes := by
  rw [← stored.absent]
  cases found : views.flowData table key with
  | none => exact ⟨fun _ => rfl, fun _ => exact.lookup_miss table key found⟩
  | some data =>
    have hit := (exact.lookup_hit table key data found).1
    exact ⟨fun negative => absurd hit (not_le.mpr negative), fun impossible => nomatch impossible⟩

/-- A stored rule joins the table under the next index. -/
theorem FlowsStored.push (exact : views.ExactHash) {table : tables.Hash}
    {done : List DpFlowRule} (stored : FlowsStored views table done) {flow : DpFlowRule}
    (fresh : flow.keyBytes ∉ done.map DpFlowRule.keyBytes)
    (success : 0 ≤ (tables.hashAddKeyData table flow.keyBytes done.length).1) :
    FlowsStored views (tables.hashAddKeyData table flow.keyBytes done.length).2
      (done ++ [flow]) := by
  obtain ⟨data, count, capacity⟩ :=
    exact.add table flow.keyBytes done.length ((stored.absent _).mpr fresh) success
  refine ⟨fun key => ?_, ?_, capacity.trans stored.capacity⟩
  · rw [data, List.findIdx?_append, Function.update_apply, stored.data]
    by_cases same : key = flow.keyBytes
    · have none : (done.findIdx? fun flow => flow.keyBytes == key) = none := by
        rw [← stored.data, stored.absent, same]
        exact fresh
      rw [if_pos same, none, same]
      simp
    · have other : flow.keyBytes ≠ key := Ne.symm same
      simp [same, other]
  · rw [count, stored.count, List.length_append, List.length_singleton]

/-- A new table stores nothing. -/
theorem FlowsStored.empty (exact : views.ExactHash) (name : String) (keyLen : Nat) :
    FlowsStored views (tables.hashCreate name 2048 keyLen) [] :=
  ⟨fun key => by rw [exact.create]; rfl, exact.create_count name 2048 keyLen,
    exact.create_capacity name 2048 keyLen⟩

/-- A completed flow loop has stored every rule, and the rules are valid with distinct keys. -/
theorem addFlows_sound (exact : views.ExactHash) (rest : List DpFlowRule) {table : tables.Hash}
    {done : List DpFlowRule} {store : List DpRuleAction} {free : Nat}
    {result : tables.Hash × List DpRuleAction} (stored : FlowsStored views table done)
    (slot : store.length = done.length) (distinct : (done.map DpFlowRule.keyBytes).Nodup)
    (success : addFlows table (store ++ List.replicate (rest.length + free) DpRuleAction.zero)
      done.length rest = .ok result) :
    (∀ flow ∈ rest, flow.Valid) ∧ ((done ++ rest).map DpFlowRule.keyBytes).Nodup ∧
      FlowsStored views result.1 (done ++ rest) ∧
      result.2 = store ++ rest.map (·.action) ++ List.replicate free DpRuleAction.zero := by
  induction rest generalizing table done store with
  | nil =>
    obtain rfl : (table, store ++ List.replicate free DpRuleAction.zero) = result := by
      simpa [addFlows, pure, Except.pure] using success
    simpa using ⟨distinct, stored⟩
  | cons flow rest ih =>
    obtain ⟨valid, lookup, added, tail⟩ := addFlows_cons.mp success
    have fresh := (stored.lookup_neg exact _).mp lookup
    have next := stored.push exact fresh added
    have apart : ((done ++ [flow]).map DpFlowRule.keyBytes).Nodup := by
      rw [List.map_append, List.nodup_append_comm]
      simpa using ⟨by simpa using fresh, distinct⟩
    have room : (flow :: rest).length + free = rest.length + free + 1 := by
      rw [List.length_cons]
      omega
    rw [room, ← slot, set_free_slot] at tail
    have index : store.length + 1 = (done ++ [flow]).length := by simp [slot]
    rw [index, slot] at tail
    obtain ⟨valids, nodup, whole, actions⟩ := ih next (by simp [slot]) apart tail
    rw [List.append_assoc, List.singleton_append] at nodup whole
    exact ⟨List.forall_mem_cons.mpr ⟨valid, valids⟩, nodup, whole, by simp [actions]⟩

/-- The flow loop completes for valid rules with distinct keys within the published limit. -/
theorem addFlows_complete (exact : views.ExactHash) (rest : List DpFlowRule) {table : tables.Hash}
    {done : List DpFlowRule} (actions : List DpRuleAction) (stored : FlowsStored views table done)
    (valid : ∀ flow ∈ rest, flow.Valid)
    (distinct : ((done ++ rest).map DpFlowRule.keyBytes).Nodup)
    (limit : (done ++ rest).length ≤ 1024) :
    ∃ result, addFlows table actions done.length rest = .ok result := by
  induction rest generalizing table done actions with
  | nil => exact ⟨_, rfl⟩
  | cons flow rest ih =>
    have fresh : flow.keyBytes ∉ done.map DpFlowRule.keyBytes := by
      rw [List.map_append, List.nodup_append] at distinct
      intro member
      exact distinct.2.2 _ member _ (by simp) rfl
    have room : done.length < 1024 := by
      simp only [List.length_append, List.length_cons] at limit
      omega
    have added := exact.add_room table flow.keyBytes done.length ((stored.absent _).mpr fresh)
      stored.capacity (stored.count ▸ room)
    have next := stored.push exact fresh added
    obtain ⟨result, tail⟩ := ih (actions.set done.length flow.action) next
      (fun other member => valid other (List.mem_cons_of_mem _ member))
      (by simpa using distinct) (by simpa using limit)
    rw [List.length_append, List.length_singleton] at tail
    exact ⟨result, addFlows_cons.mpr
      ⟨valid flow (by simp), (stored.lookup_neg exact _).mpr fresh, added, tail⟩⟩

/-- The rule that the prefix table keeps for the route in slot `index`. -/
def lpmRuleOf (route : DpRouteRule) (index : Nat) : LpmRule :=
  ⟨route.prefixBits, route.depth, UInt32.ofNat index⟩

/-- The prefix table keeps the stored routes, whose slots begin at `first`. -/
structure RoutesStored (views : TableViews tables) (first : Nat) (table : tables.Lpm)
    (done : List DpRouteRule) : Prop where
  rules : views.lpmRules table =
    ((done.zipIdx first).map fun entry => lpmRuleOf entry.1 entry.2).reverse
  maxRules : views.lpmMaxRules table = 1024
  tbl8s : views.lpmTbl8s table = 256
  deep : (deepBlocks ((views.lpmRules table).map LpmRule.key)).length ≤ 256

/-- The table has the keys of the stored routes. -/
theorem RoutesStored.keys {first : Nat} {table : tables.Lpm} {done : List DpRouteRule}
    (stored : RoutesStored views first table done) :
    (views.lpmRules table).map LpmRule.key = (done.map DpRouteRule.key).reverse := by
  have key : LpmRule.key ∘ (fun entry : DpRouteRule × Nat => lpmRuleOf entry.1 entry.2) =
      DpRouteRule.key ∘ Prod.fst := rfl
  rw [stored.rules, List.map_reverse, List.map_map, key, ← List.map_map, List.zipIdx_map_fst]

/-- The presence check tells whether a stored route has the prefix. -/
theorem RoutesStored.present_zero (exact : views.ExactLpm) {first : Nat} {table : tables.Lpm}
    {done : List DpRouteRule} (stored : RoutesStored views first table done)
    {route : DpRouteRule} (normal : NormalPrefix route.prefixBits route.depth) :
    (tables.lpmIsRulePresent table route.prefixBits route.depth).1 = 0 ↔
      route.key ∉ done.map DpRouteRule.key := by
  have same : route.key ∈ (views.lpmRules table).map LpmRule.key ↔
      route.key ∈ done.map DpRouteRule.key := by
    rw [stored.keys, List.mem_reverse]
  rw [← same]
  refine ⟨fun absent member => ?_, exact.present_miss table _ _ normal⟩
  have hit := exact.present_hit table _ _ normal member
  omega

/-- Fewer prefixes need no more groups. -/
theorem deepBlocks_length_le {first second : List (UInt32 × UInt8)} (subset : first ⊆ second) :
    (deepBlocks first).length ≤ (deepBlocks second).length := by
  refine (List.nodup_dedup _).length_le_of_subset fun block member => ?_
  simp only [deepBlocks, List.mem_dedup, List.mem_map, List.mem_filter] at member ⊢
  obtain ⟨entry, ⟨inside, deep⟩, same⟩ := member
  exact ⟨entry, ⟨subset inside, deep⟩, same⟩

/-- A stored route joins the table under the next slot. -/
theorem RoutesStored.push (exact : views.ExactLpm) {first : Nat} {table : tables.Lpm}
    {done : List DpRouteRule} (stored : RoutesStored views first table done)
    {route : DpRouteRule} (normal : NormalPrefix route.prefixBits route.depth)
    (fresh : route.key ∉ done.map DpRouteRule.key)
    (success : 0 ≤ (tables.lpmAdd table route.prefixBits route.depth
      (UInt32.ofNat (first + done.length))).1) :
    RoutesStored views first (tables.lpmAdd table route.prefixBits route.depth
      (UInt32.ofNat (first + done.length))).2 (done ++ [route]) := by
  have absent : (lpmRuleOf route (first + done.length)).key ∉
      (views.lpmRules table).map LpmRule.key := by
    rw [stored.keys, List.mem_reverse]
    exact fresh
  obtain ⟨rules, maxRules, tbl8s⟩ :=
    exact.add table (lpmRuleOf route (first + done.length)) normal absent success
  refine ⟨?_, maxRules.trans stored.maxRules, tbl8s.trans stored.tbl8s, ?_⟩
  · refine rules.trans ?_
    rw [stored.rules, List.zipIdx_append]
    simp
  · refine le_of_not_gt fun full => ?_
    rw [← stored.tbl8s] at full
    have refused := exact.add_full table (lpmRuleOf route (first + done.length)) normal absent
      (by rwa [← rules])
    rw [show (tables.lpmAdd table route.prefixBits route.depth
      (UInt32.ofNat (first + done.length))).1 = -enospc from refused] at success
    exact absurd success (by decide)

/-- A new table stores nothing. -/
theorem RoutesStored.empty (exact : views.ExactLpm) (name : String) (first : Nat) :
    RoutesStored views first (tables.lpmCreate name 1024 256) [] :=
  ⟨exact.create name 1024 256, exact.create_maxRules name 1024 256,
    exact.create_tbl8s name 1024 256, by rw [exact.create]; decide⟩

/-- A completed route loop has stored every rule, and the rules are valid with distinct
prefixes. -/
theorem addRoutes_sound (exact : views.ExactLpm) {first : Nat} (rest : List DpRouteRule)
    {table : tables.Lpm} {done : List DpRouteRule} {store : List DpRuleAction} {free : Nat}
    {result : tables.Lpm × List DpRuleAction} (stored : RoutesStored views first table done)
    (slot : store.length = first + done.length) (distinct : (done.map DpRouteRule.key).Nodup)
    (success : addRoutes table (store ++ List.replicate (rest.length + free) DpRuleAction.zero)
      (first + done.length) rest = .ok result) :
    (∀ route ∈ rest, route.Valid) ∧ ((done ++ rest).map DpRouteRule.key).Nodup ∧
      RoutesStored views first result.1 (done ++ rest) ∧
      result.2 = store ++ rest.map (·.action) ++ List.replicate free DpRuleAction.zero := by
  induction rest generalizing table done store with
  | nil =>
    obtain rfl : (table, store ++ List.replicate free DpRuleAction.zero) = result := by
      simpa [addRoutes, pure, Except.pure] using success
    simpa using ⟨distinct, stored⟩
  | cons route rest ih =>
    obtain ⟨valid, absent, added, tail⟩ := addRoutes_cons.mp success
    have fresh := (stored.present_zero exact valid.normal).mp absent
    have next := stored.push exact valid.normal fresh added
    have apart : ((done ++ [route]).map DpRouteRule.key).Nodup := by
      rw [List.map_append, List.nodup_append_comm]
      simpa using ⟨by simpa using fresh, distinct⟩
    have room : (route :: rest).length + free = rest.length + free + 1 := by
      rw [List.length_cons]
      omega
    rw [room, ← slot, set_free_slot] at tail
    have index : store.length + 1 = first + (done ++ [route]).length := by
      rw [slot, List.length_append, List.length_singleton]
      omega
    rw [index, slot] at tail
    obtain ⟨valids, nodup, whole, actions⟩ :=
      ih next (by rw [← index, List.length_append, List.length_singleton]) apart tail
    rw [List.append_assoc, List.singleton_append] at nodup whole
    exact ⟨List.forall_mem_cons.mpr ⟨valid, valids⟩, nodup, whole, by simp [actions]⟩

/-- The route loop completes for valid rules with distinct prefixes within the published limit
when their deep prefixes lie in few enough blocks. -/
theorem addRoutes_complete (exact : views.ExactLpm) {first : Nat} (rest : List DpRouteRule)
    {table : tables.Lpm} {done : List DpRouteRule} (actions : List DpRuleAction)
    (stored : RoutesStored views first table done) (valid : ∀ route ∈ rest, route.Valid)
    (distinct : ((done ++ rest).map DpRouteRule.key).Nodup)
    (slots : first ≤ 1024) (limit : (done ++ rest).length ≤ 1024)
    (deep : (deepBlocks ((done ++ rest).map DpRouteRule.key)).length ≤ 256) :
    ∃ result, addRoutes table actions (first + done.length) rest = .ok result := by
  induction rest generalizing table done actions with
  | nil => exact ⟨_, rfl⟩
  | cons route rest ih =>
    have normal := (valid route (by simp)).normal
    have fresh : route.key ∉ done.map DpRouteRule.key := by
      rw [List.map_append, List.nodup_append] at distinct
      intro member
      exact distinct.2.2 _ member _ (by simp) rfl
    have room : done.length < 1024 := by
      simp only [List.length_append, List.length_cons] at limit
      omega
    have length : (views.lpmRules table).length = done.length := by
      rw [stored.rules, List.length_reverse, List.length_map, List.length_zipIdx]
    have keys : (lpmRuleOf route (first + done.length) :: views.lpmRules table).map LpmRule.key ⊆
        (done ++ route :: rest).map DpRouteRule.key := by
      intro key member
      rw [List.map_cons, stored.keys] at member
      simp only [List.mem_cons, List.mem_reverse, List.map_append, List.map_cons,
        List.mem_append] at member ⊢
      exact member.elim (fun same => .inr (.inl same)) .inl
    have added := exact.add_room table (lpmRuleOf route (first + done.length)) normal
      (by rw [stored.keys, List.mem_reverse]; exact fresh)
      (by simp only [lpmRuleOf, UInt32.toNat_ofNat']; omega)
      (by rw [length, stored.maxRules]; exact room)
      (by rw [stored.tbl8s]; exact (deepBlocks_length_le keys).trans deep)
    have next := stored.push exact normal fresh added
    obtain ⟨result, tail⟩ := ih (actions.set (first + done.length) route.action) next
      (fun other member => valid other (List.mem_cons_of_mem _ member))
      (by simpa using distinct) (by simpa using limit) (by simpa using deep)
    rw [List.length_append, List.length_singleton, ← Nat.add_assoc] at tail
    exact ⟨result, addRoutes_cons.mpr
      ⟨valid route (by simp), (stored.present_zero exact normal).mpr fresh, added, tail⟩⟩

end Loops

section Build

variable {tables : RteTables} {views : TableViews tables}

/-- These are the rule lists that the builder and its tables accept. -/
structure Admitted (flows : List DpFlowRule) (routes : List DpRouteRule) : Prop where
  flowLimit : flows.length ≤ 1024
  routeLimit : routes.length ≤ 1024
  flowValid : ∀ flow ∈ flows, flow.Valid
  routeValid : ∀ route ∈ routes, route.Valid
  flowDistinct : (flows.map DpFlowRule.keyBytes).Nodup
  routeDistinct : (routes.map DpRouteRule.key).Nodup
  deep : (deepBlocks (routes.map DpRouteRule.key)).length ≤ 256

/-- A snapshot holds its rules in its two tables and their actions in one store. -/
structure DpRuleSnapshot.Holds (views : TableViews tables) (snapshot : DpRuleSnapshot tables)
    (flows : List DpFlowRule) (routes : List DpRouteRule) : Prop where
  noFlows : snapshot.flowTable = none → flows = []
  flowsStored : ∀ table, snapshot.flowTable = some table → FlowsStored views table flows
  noRoutes : snapshot.routeTable = none → routes = []
  routesStored : ∀ table, snapshot.routeTable = some table →
    RoutesStored views flows.length table routes
  actions : snapshot.actions = flows.map (·.action) ++ routes.map (·.action)
  actionCount : snapshot.actionCount = flows.length + routes.length

/-- A pointer that passes the null check comes with the count of its rules. -/
theorem RuleArray.count_eq {A : Type} {array : RuleArray A}
    (present : ¬ (array.count ≠ 0 ∧ array.isNull = true)) : array.count = array.rules.length := by
  cases array with
  | null count => simpa [RuleArray.count, RuleArray.isNull, RuleArray.rules] using present
  | block rules => rfl

/-- A completed flow stage holds the flows, and a missing table means that there are none. -/
theorem flowStage_sound (exact : views.ExactHash) {flows : List DpFlowRule} {name : String}
    {free : Nat} {result : Option tables.Hash × List DpRuleAction}
    (success : withTable
      (if flows.length ≠ 0 then some (tables.hashCreate name (dpMaxFlowRules * 2) 16) else none)
      (List.replicate (flows.length + free) DpRuleAction.zero)
      (fun table => addFlows table (List.replicate (flows.length + free) DpRuleAction.zero) 0
        flows) = .ok result) :
    (∀ flow ∈ flows, flow.Valid) ∧ (flows.map DpFlowRule.keyBytes).Nodup ∧
      (result.1 = none → flows = []) ∧
      (∀ table, result.1 = some table → FlowsStored views table flows) ∧
      result.2 = flows.map (·.action) ++ List.replicate free DpRuleAction.zero := by
  by_cases some : flows.length ≠ 0
  · rw [if_pos some] at success
    obtain ⟨⟨table, actions⟩, loop, packed⟩ := bind_ok.mp success
    obtain rfl := Except.ok.inj packed
    obtain ⟨valid, distinct, stored, written⟩ := addFlows_sound exact flows
      (FlowsStored.empty exact name 16) (show ([] : List DpRuleAction).length = 0 from rfl)
      List.nodup_nil loop
    refine ⟨valid, distinct, fun missing => absurd missing (Option.some_ne_none _), ?_,
      by simpa using written⟩
    rintro other same
    obtain rfl := Option.some.inj same
    exact stored
  · obtain rfl := List.length_eq_zero_iff.mp (not_not.mp some)
    rw [if_neg some] at success
    obtain rfl := Except.ok.inj success
    simp

/-- A completed route stage holds the routes, and a missing table means that there are none. -/
theorem routeStage_sound (exact : views.ExactLpm) {store : List DpRuleAction}
    {routes : List DpRouteRule} {name : String} {first : Nat} (slot : store.length = first)
    {result : Option tables.Lpm × List DpRuleAction}
    (success : withTable
      (if routes.length ≠ 0 then some (tables.lpmCreate name dpMaxRouteRules 256) else none)
      (store ++ List.replicate routes.length DpRuleAction.zero)
      (fun table => addRoutes table (store ++ List.replicate routes.length DpRuleAction.zero)
        first routes) = .ok result) :
    (∀ route ∈ routes, route.Valid) ∧ (routes.map DpRouteRule.key).Nodup ∧
      (deepBlocks (routes.map DpRouteRule.key)).length ≤ 256 ∧
      (result.1 = none → routes = []) ∧
      (∀ table, result.1 = some table → RoutesStored views first table routes) ∧
      result.2 = store ++ routes.map (·.action) := by
  by_cases some : routes.length ≠ 0
  · rw [if_pos some] at success
    obtain ⟨⟨table, actions⟩, loop, packed⟩ := bind_ok.mp success
    obtain rfl := Except.ok.inj packed
    obtain ⟨valid, distinct, stored, written⟩ := addRoutes_sound exact routes
      (RoutesStored.empty exact name first) slot List.nodup_nil
      (show addRoutes _ (store ++ List.replicate (routes.length + 0) DpRuleAction.zero) first routes =
        .ok (table, actions) from loop)
    have deep := stored.deep
    rw [stored.keys, List.nil_append] at deep
    refine ⟨valid, distinct,
      (deepBlocks_length_le fun key member => List.mem_reverse.mpr member).trans deep,
      fun missing => absurd missing (Option.some_ne_none _), ?_, by simpa using written⟩
    rintro other same
    obtain rfl := Option.some.inj same
    exact stored
  · obtain rfl := List.length_eq_zero_iff.mp (not_not.mp some)
    rw [if_neg some] at success
    obtain rfl := Except.ok.inj success
    simp [deepBlocks]

/-- A snapshot carries the generation that it was built for. -/
theorem dpSnapshotBuild_generation {faults : BuildFaults} {flows : RuleArray DpFlowRule}
    {routes : RuleArray DpRouteRule} {generation : Nat} {snapshot : DpRuleSnapshot tables}
    (success : dpSnapshotBuild tables faults flows routes generation = .ok snapshot) :
    snapshot.generation = generation := by
  simp only [dpSnapshotBuild, guard_ok, rejectIf_ok] at success
  obtain ⟨-, -, -, -, -, -, stages⟩ := success
  obtain ⟨flowStage, -, rest⟩ := bind_ok.mp stages
  obtain ⟨routeStage, -, packed⟩ := bind_ok.mp rest
  obtain rfl := Except.ok.inj packed
  rfl

/-- A successful build admits its rules and holds them. -/
theorem dpSnapshotBuild_sound (hash : views.ExactHash) (lpm : views.ExactLpm)
    {faults : BuildFaults} {flows : RuleArray DpFlowRule} {routes : RuleArray DpRouteRule}
    {generation : Nat} {snapshot : DpRuleSnapshot tables}
    (success : dpSnapshotBuild tables faults flows routes generation = .ok snapshot) :
    Admitted flows.rules routes.rules ∧ snapshot.Holds views flows.rules routes.rules ∧
      snapshot.generation = generation := by
  simp only [dpSnapshotBuild, guard_ok, rejectIf_ok] at success
  obtain ⟨limit, present, -, -, -, -, stages⟩ := success
  obtain ⟨flowLimit, routeLimit⟩ := not_or.mp limit
  obtain ⟨flowPresent, routePresent⟩ := not_or.mp present
  rw [RuleArray.count_eq flowPresent] at flowLimit
  rw [RuleArray.count_eq routePresent] at routeLimit
  rw [RuleArray.count_eq flowPresent, RuleArray.count_eq routePresent] at stages
  obtain ⟨flowStage, flowLoop, rest⟩ := bind_ok.mp stages
  obtain ⟨routeStage, routeLoop, packed⟩ := bind_ok.mp rest
  obtain rfl := Except.ok.inj packed
  obtain ⟨flowValid, flowDistinct, noFlows, flowsStored, flowActions⟩ :=
    flowStage_sound hash flowLoop
  rw [flowActions] at routeLoop
  obtain ⟨routeValid, routeDistinct, deep, noRoutes, routesStored, actions⟩ :=
    routeStage_sound lpm (List.length_map _) routeLoop
  exact ⟨⟨not_lt.mp flowLimit, not_lt.mp routeLimit, flowValid, routeValid, flowDistinct,
    routeDistinct, deep⟩, ⟨noFlows, flowsStored, noRoutes, routesStored, actions, rfl⟩, rfl⟩

/-- A stage completes when the loop over its own table does. -/
theorem withTable_complete {T A : Type} (count : Nat) {table : T} (actions : A)
    (loop : T → Except Int (T × A)) (run : ∃ result, loop table = .ok result) :
    ∃ result, withTable (if count ≠ 0 then some table else none) actions loop = .ok result := by
  obtain ⟨result, run⟩ := run
  by_cases some : count ≠ 0
  · exact ⟨_, by rw [if_pos some]; exact bind_ok.mpr ⟨result, run, rfl⟩⟩
  · exact ⟨_, by rw [if_neg some]; rfl⟩

/-- Without a failed allocation the builder accepts all admitted rules. -/
theorem dpSnapshotBuild_complete (hash : views.ExactHash) (lpm : views.ExactLpm)
    {flows : RuleArray DpFlowRule} {routes : RuleArray DpRouteRule} (generation : Nat)
    (flowPresent : ¬ (flows.count ≠ 0 ∧ flows.isNull = true))
    (routePresent : ¬ (routes.count ≠ 0 ∧ routes.isNull = true))
    (admitted : Admitted flows.rules routes.rules) :
    ∃ snapshot, dpSnapshotBuild tables .none flows routes generation = .ok snapshot := by
  have allocation (count : Nat) : unlessZero count (allocated none) = .ok () := by
    unfold unlessZero
    by_cases some : count ≠ 0
    · rw [if_pos some]
      rfl
    · rw [if_neg some]
      rfl
  have limit : ¬ (flows.count > dpMaxFlowRules ∨ routes.count > dpMaxRouteRules) := by
    rw [RuleArray.count_eq flowPresent, RuleArray.count_eq routePresent]
    exact not_or.mpr ⟨not_lt.mpr admitted.flowLimit, not_lt.mpr admitted.routeLimit⟩
  let actions := List.replicate (flows.count + routes.count) DpRuleAction.zero
  have slots : flows.count ≤ 1024 := RuleArray.count_eq flowPresent ▸ admitted.flowLimit
  obtain ⟨flowStage, flowLoop⟩ := withTable_complete flows.count actions
    (fun table => addFlows table actions 0 flows.rules)
    (addFlows_complete hash flows.rules actions
      (FlowsStored.empty hash s!"dfr_f_{generation}" 16) admitted.flowValid
      admitted.flowDistinct admitted.flowLimit)
  obtain ⟨routeStage, routeLoop⟩ := withTable_complete routes.count flowStage.2
    (fun table => addRoutes table flowStage.2 flows.count routes.rules)
    (addRoutes_complete lpm routes.rules flowStage.2
      (RoutesStored.empty lpm s!"dfr_r_{generation}" flows.count) admitted.routeValid
      admitted.routeDistinct slots admitted.routeLimit admitted.deep)
  refine ⟨⟨flowStage.1, routeStage.1, routeStage.2, flows.count + routes.count, generation⟩, ?_⟩
  simp only [dpSnapshotBuild, guard_ok, rejectIf_ok]
  exact ⟨limit, not_or.mpr ⟨flowPresent, routePresent⟩, rfl, allocation _, allocation _,
    allocation _, bind_ok.mpr ⟨flowStage, flowLoop, bind_ok.mpr ⟨routeStage, routeLoop, rfl⟩⟩⟩

end Build

end FlowRouter.Native
