import FlowRouter.Library.LongestMatch
import FlowRouter.Native.Snapshot

namespace FlowRouter.Native
open LongestMatch

variable {tables : RteTables} {views : TableViews tables} {snapshot : DpRuleSnapshot tables}
  {flows : List DpFlowRule} {routes : List DpRouteRule}

/-- The index of the first match leads to the first match. -/
theorem find?_of_findIdx? {A : Type} {hits : A → Bool} {items : List A} {index : Nat}
    (found : items.findIdx? hits = some index) :
    ∃ item, items[index]? = some item ∧ items.find? hits = some item := by
  obtain ⟨inside, hit, earlier⟩ := List.findIdx?_eq_some_iff_getElem.mp found
  refine ⟨items[index], List.getElem?_eq_getElem inside, ?_⟩
  exact List.find?_eq_some_iff_getElem.mpr ⟨hit, index, inside, rfl, fun j before => by
    simpa using earlier j before⟩

/-- The flow lookup finds the action of the rule that has the key of the packet. -/
theorem DpRuleSnapshot.Holds.lookupFlow (exact : views.ExactHash)
    (holds : snapshot.Holds views flows routes) (info : DpPacketMeta) :
    dpLookupFlow info snapshot =
      (flows.find? fun flow => flow.keyBytes == (dpFlowKeyFromMeta info).bytes).map
        fun flow => some flow.action := by
  cases present : snapshot.flowTable with
  | none =>
    rw [holds.noFlows present]
    simp [dpLookupFlow, present]
  | some table =>
    have stored := holds.flowsStored table present
    simp only [dpLookupFlow, present]
    cases found : flows.findIdx? fun flow => flow.keyBytes == (dpFlowKeyFromMeta info).bytes with
    | none =>
      have missed := exact.lookup_miss table _ ((stored.data _).trans found)
      rw [if_neg (not_le.mpr missed), List.find?_eq_none.mpr]
      · rfl
      · simpa using List.findIdx?_eq_none_iff.mp found
    | some index =>
      obtain ⟨status, data⟩ := exact.lookup_hit table _ index ((stored.data _).trans found)
      obtain ⟨flow, slot, first⟩ := find?_of_findIdx? found
      have inside := (List.getElem?_eq_some_iff.mp slot).1
      rw [if_pos status, data, first, holds.actions, List.getElem?_append_left (by simpa using inside),
        List.getElem?_map, slot]
      rfl

/-- This predicate selects the routes that cover the destination of a packet. -/
def DpRouteRule.covers (address : UInt32) (route : DpRouteRule) : Bool :=
  decide (Covers address route.prefixBits route.depth)

theorem DpRouteRule.covers_iff {address : UInt32} {route : DpRouteRule} :
    route.covers address = true ↔ Covers address route.prefixBits route.depth :=
  decide_eq_true_iff

/-- Two routes of one depth that cover one address have the same prefix. -/
theorem DpRouteRule.separated (distinct : (routes.map DpRouteRule.key).Nodup) (address : UInt32) :
    Separated (DpRouteRule.covers address) (fun route => route.depth.toNat) routes := by
  intro first inside second member covered covered' same
  have depth : first.depth = second.depth := UInt8.toNat_inj.mp same
  have bits : first.prefixBits = second.prefixBits :=
    (DpRouteRule.covers_iff.mp covered).symm.trans
      ((congrArg (address &&& prefixMask ·) depth).trans (DpRouteRule.covers_iff.mp covered'))
  exact List.inj_on_of_nodup_map distinct inside member (by simp [DpRouteRule.key, depth, bits])

/-- The prefix table answers with the slot of the best route. -/
theorem RoutesStored.lookup (exact : views.ExactLpm) {first : Nat} {table : tables.Lpm}
    (stored : RoutesStored views first table routes)
    (distinct : (routes.map DpRouteRule.key).Nodup) (limit : first + routes.length ≤ 2048)
    (address : UInt32) :
    match best (DpRouteRule.covers address) (fun route => route.depth.toNat) routes with
    | none => (tables.lpmLookup table address).1 < 0
    | some route => ∃ index, routes[index]? = some route ∧
        (tables.lpmLookup table address).1 = 0 ∧
        (tables.lpmLookup table address).2.toNat = first + index := by
  have inTable (rule : LpmRule) : rule ∈ views.lpmRules table ↔
      ∃ route index, routes[index]? = some route ∧ rule = lpmRuleOf route (first + index) := by
    rw [stored.rules, List.mem_reverse, List.mem_map]
    constructor
    · rintro ⟨⟨route, slot⟩, member, rfl⟩
      obtain ⟨lower, here⟩ := List.mk_mem_zipIdx_iff_le_and_getElem?_sub.mp member
      exact ⟨route, slot - first, here, by rw [Nat.add_sub_cancel' lower]⟩
    · rintro ⟨route, index, here, rfl⟩
      exact ⟨(route, first + index), List.mk_add_mem_zipIdx_iff_getElem?.mpr here, rfl⟩
  cases found : best (DpRouteRule.covers address) (fun route => route.depth.toNat) routes with
  | none =>
    refine exact.lookup_none table address fun rule member => ?_
    obtain ⟨route, index, here, rfl⟩ := (inTable rule).mp member
    have missed := best_eq_none.mp found route (List.mem_of_getElem? here)
    exact fun covered => absurd (DpRouteRule.covers_iff.mpr covered) (by simp [missed])
  | some route =>
    have winner := winner_of_best found
    obtain ⟨index, here⟩ := List.mem_iff_getElem?.mp winner.mem
    have inside := (List.getElem?_eq_some_iff.mp here).1
    have longest := exact.lookup_longest table address (lpmRuleOf route (first + index))
      ((inTable _).mpr ⟨route, index, here, rfl⟩) (DpRouteRule.covers_iff.mp winner.hit) ?_
    · refine ⟨index, here, by rw [longest], ?_⟩
      rw [longest]
      simp only [lpmRuleOf, UInt32.toNat_ofNat']
      omega
    · intro other member covered
      obtain ⟨rival, slot, there, rfl⟩ := (inTable other).mp member
      have hit : rival.covers address = true := DpRouteRule.covers_iff.mpr covered
      have below := winner.greatest rival (List.mem_of_getElem? there) hit
      rcases below.lt_or_eq with lower | same
      · exact .inr (UInt8.lt_iff_toNat_lt.mpr lower)
      · left
        obtain rfl := DpRouteRule.separated distinct address rival (List.mem_of_getElem? there) route
          winner.mem hit winner.hit same
        have slots : slot = index := (List.getElem?_inj (List.getElem?_eq_some_iff.mp there).1
          (distinct.of_map _)).mp (there.trans here.symm)
        rw [slots]

/-- The route lookup finds the action of the best route. -/
theorem DpRuleSnapshot.Holds.lookupRoute (exact : views.ExactLpm)
    (holds : snapshot.Holds views flows routes) (admitted : Admitted flows routes)
    (info : DpPacketMeta) :
    dpLookupRoute info snapshot =
      (best (DpRouteRule.covers info.dstIpv4) (fun route => route.depth.toNat) routes).map
        fun route => some route.action := by
  cases present : snapshot.routeTable with
  | none =>
    rw [holds.noRoutes present]
    simp [dpLookupRoute, present, best]
  | some table =>
    have limit : flows.length + routes.length ≤ 2048 := by
      have := admitted.flowLimit
      have := admitted.routeLimit
      omega
    have answer := (holds.routesStored table present).lookup exact admitted.routeDistinct limit
      info.dstIpv4
    simp only [dpLookupRoute, present]
    cases found : best (DpRouteRule.covers info.dstIpv4) (fun route => route.depth.toNat) routes with
    | none =>
      simp only [found] at answer
      exact if_neg fun hit => by omega
    | some route =>
      simp only [found] at answer
      obtain ⟨index, here, status, slot⟩ := answer
      have inside := (List.getElem?_eq_some_iff.mp here).1
      have action : snapshot.actions[flows.length + index]? = some route.action := by
        rw [holds.actions, List.getElem?_append_right (by simp)]
        simp [here]
      rw [if_pos ⟨status, by rw [slot, holds.actionCount]; omega⟩, slot, action]
      rfl

/-- The guard on the action index never refuses a match of the prefix table. -/
theorem DpRuleSnapshot.Holds.guard (exact : views.ExactLpm)
    (holds : snapshot.Holds views flows routes) (admitted : Admitted flows routes)
    {table : tables.Lpm} (present : snapshot.routeTable = some table) (address : UInt32)
    (hit : (tables.lpmLookup table address).1 = 0) :
    (tables.lpmLookup table address).2.toNat < snapshot.actionCount := by
  have limit : flows.length + routes.length ≤ 2048 := by
    have := admitted.flowLimit
    have := admitted.routeLimit
    omega
  have answer := (holds.routesStored table present).lookup exact admitted.routeDistinct limit
    address
  cases found : best (DpRouteRule.covers address) (fun route => route.depth.toNat) routes with
  | none =>
    simp only [found] at answer
    omega
  | some route =>
    simp only [found] at answer
    obtain ⟨index, here, -, slot⟩ := answer
    have inside := (List.getElem?_eq_some_iff.mp here).1
    rw [slot, holds.actionCount]
    omega

end FlowRouter.Native
