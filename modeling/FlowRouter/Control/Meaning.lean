import FlowRouter.Control.Agreement
import FlowRouter.Library.KeyedList
import FlowRouter.Native.Match

namespace FlowRouter.Control
open Checks Native LongestMatch

/-- The five fields of a packet form its flow key. -/
def metaKey (info : DpPacketMeta) : FlowKey where
  srcIpv4 := info.srcIpv4
  dstIpv4 := info.dstIpv4
  srcPort := info.srcPort
  dstPort := info.dstPort
  l4Proto := info.l4Proto

/-- A route contains an address when the masked address is its prefix. -/
def RouteRule.covers (address : UInt32) (rule : RouteRule) : Bool :=
  decide (Covers address rule.prefixBits rule.depth)

/-- The rules of a snapshot decide what happens to a packet. -/
inductive Decision where
  | flow (rule : FlowRule)
  | route (rule : RouteRule)
  | miss
  deriving DecidableEq, Repr

def RuleSnapshot.flowFor (snapshot : RuleSnapshot) (key : FlowKey) : Option FlowRule :=
  KeyedList.index flowRuleKey snapshot.flows key

def RuleSnapshot.routeFor (snapshot : RuleSnapshot) (address : UInt32) : Option RouteRule :=
  best (RouteRule.covers address) (fun rule => rule.depth.toNat) snapshot.routes

/-- This is what the rules mean: an exact flow wins over the longest prefix. -/
def RuleSnapshot.decide (snapshot : RuleSnapshot) (info : DpPacketMeta) : Decision :=
  match snapshot.flowFor (metaKey info) with
  | some rule => .flow rule
  | none =>
      match snapshot.routeFor info.dstIpv4 with
      | some rule => .route rule
      | none => .miss

/-- This is the native answer that reports a decision. -/
def Decision.answer : Decision → DpLookupResult × Option DpRuleAction
  | .flow rule => (.flowHit, some rule.action.record)
  | .route rule => (.routeHit, some rule.action.record)
  | .miss => (.miss, none)

section Lookup

variable {tables : RteTables} {views : TableViews tables}
  {arrayFaults : Binding.ArrayFaults} {faults : BuildFaults} {snapshot : RuleSnapshot}
  {generation : Nat} {built : DpRuleSnapshot tables}

/-- The key bytes of the worker and of the builder agree exactly when the packet has the key of
the flow. -/
theorem FlowRule.keyBytes_eq_meta (rule : FlowRule) (info : DpPacketMeta) :
    rule.record.keyBytes = (dpFlowKeyFromMeta info).bytes ↔ flowRuleKey rule = metaKey info := by
  rw [DpFlowRule.keyBytes, DpFlowKey.bytes_injective.eq_iff]
  simp [flowRuleKeyBytes, FlowRule.record, flowRuleKey, dpFlowKeyFromMeta, metaKey]

/-- The native lookup answers with the decision of the rules that were built. -/
theorem Builds.lookup (hash : views.ExactHash) (lpm : views.ExactLpm)
    (builds : Builds tables arrayFaults faults snapshot generation built) (info : DpPacketMeta) :
    dpLookupPacket info (some built) = (snapshot.decide info).answer := by
  obtain ⟨admitted, holds, -⟩ := builds.holds hash lpm
  have flow : dpLookupFlow info built = (snapshot.flowFor (metaKey info)).map
      fun rule => some rule.action.record := by
    rw [holds.lookupFlow hash, List.find?_map, Option.map_map, RuleSnapshot.flowFor,
      KeyedList.index]
    have same : (fun flow : DpFlowRule => flow.keyBytes == (dpFlowKeyFromMeta info).bytes) ∘
        FlowRule.record = fun rule => Decidable.decide (flowRuleKey rule = metaKey info) := by
      funext rule
      rw [Function.comp_apply, Bool.eq_iff_iff, beq_iff_eq, FlowRule.keyBytes_eq_meta,
        decide_eq_true_iff]
    rw [same]
    rfl
  have route : dpLookupRoute info built = (snapshot.routeFor info.dstIpv4).map
      fun rule => some rule.action.record := by
    rw [holds.lookupRoute lpm admitted, best_map, Option.map_map]
    rfl
  rw [dpLookupPacket, RuleSnapshot.decide, flow]
  cases snapshot.flowFor (metaKey info) with
  | some rule => rfl
  | none =>
    simp only [Option.map_none, route]
    cases snapshot.routeFor info.dstIpv4 with
    | some rule => rfl
    | none => rfl

/-- Two covering routes of one depth are the same rule. -/
theorem RuleSnapshot.separated (distinct : (snapshot.routes.map routeRuleKey).Nodup)
    (address : UInt32) :
    Separated (RouteRule.covers address) (fun rule => rule.depth.toNat) snapshot.routes := by
  intro first inside second member covered covered' same
  have depth : first.depth = second.depth := UInt8.toNat_inj.mp same
  have bits : first.prefixBits = second.prefixBits :=
    (of_decide_eq_true covered).symm.trans
      ((congrArg (address &&& prefixMask ·) depth).trans (of_decide_eq_true covered'))
  exact List.inj_on_of_nodup_map distinct inside member (by simp [routeRuleKey, depth, bits])

/-- The order of the rules does not change a decision. -/
theorem RuleSnapshot.decide_perm {other : RuleSnapshot} (formed : snapshot.WellFormed)
    (flows : other.flows.Perm snapshot.flows) (routes : other.routes.Perm snapshot.routes)
    (info : DpPacketMeta) : other.decide info = snapshot.decide info := by
  have flow : other.flowFor (metaKey info) = snapshot.flowFor (metaKey info) := by
    have distinct := ((flows.map flowRuleKey).nodup_iff).mpr formed.flowDistinct
    refine Option.ext fun rule => ?_
    rw [RuleSnapshot.flowFor, RuleSnapshot.flowFor, KeyedList.index_eq_some distinct,
      KeyedList.index_eq_some formed.flowDistinct, flows.mem_iff]
  have route : other.routeFor info.dstIpv4 = snapshot.routeFor info.dstIpv4 :=
    best_perm (RuleSnapshot.separated formed.routeDistinct _) routes
  rw [RuleSnapshot.decide, RuleSnapshot.decide, flow, route]

/-- A built snapshot answers with the action of the flow that has the key of the packet, else with
the action of the longest route that contains its destination, else with a miss. Neither the
order of the rules nor the guard on the action index changes an answer. -/
theorem dpLookupPacket_meaning (hash : views.ExactHash) (lpm : views.ExactLpm)
    (builds : Builds tables arrayFaults faults snapshot generation built) (info : DpPacketMeta) :
    (∀ rule ∈ snapshot.flows, flowRuleKey rule = metaKey info →
      dpLookupPacket info (some built) =
        (.flowHit, some rule.action.record) ∧
      ∀ other ∈ snapshot.flows, flowRuleKey other = metaKey info → other = rule) ∧
    ((∀ rule ∈ snapshot.flows, flowRuleKey rule ≠ metaKey info) →
      (∀ rule ∈ snapshot.routes, Covers info.dstIpv4 rule.prefixBits rule.depth →
        (∀ other ∈ snapshot.routes, Covers info.dstIpv4 other.prefixBits other.depth →
          other.depth ≤ rule.depth) →
        dpLookupPacket info (some built) =
          (.routeHit, some rule.action.record)) ∧
      ((∀ rule ∈ snapshot.routes, ¬ Covers info.dstIpv4 rule.prefixBits rule.depth) →
        dpLookupPacket info (some built) = (.miss, none))) ∧
    (∀ other arrayFaults' faults' generation' built',
      other.flows.Perm snapshot.flows → other.routes.Perm snapshot.routes →
      Builds tables arrayFaults' faults' other generation' built' →
      dpLookupPacket info (some built') = dpLookupPacket info (some built)) ∧
    (∀ table, built.routeTable = some table → (tables.lpmLookup table info.dstIpv4).1 = 0 →
      (tables.lpmLookup table info.dstIpv4).2.toNat < built.actionCount) := by
  obtain ⟨admitted, holds, -⟩ := builds.holds hash lpm
  have formed := ((admitted_iff snapshot).mp admitted).1
  have noFlowFor (noFlow : ∀ rule ∈ snapshot.flows, flowRuleKey rule ≠ metaKey info) :
      snapshot.flowFor (metaKey info) = none := KeyedList.index_eq_none.mpr noFlow
  refine ⟨fun rule member key => ⟨?_, ?_⟩, fun noFlow => ⟨?_, ?_⟩, ?_, ?_⟩
  · have found : snapshot.flowFor (metaKey info) = some rule :=
      (KeyedList.index_eq_some formed.flowDistinct).mpr ⟨member, key⟩
    rw [builds.lookup hash lpm, RuleSnapshot.decide, found]
    rfl
  · exact fun other inside same =>
      List.inj_on_of_nodup_map formed.flowDistinct inside member (same.trans key.symm)
  · intro rule member covered longest
    have winner : Winner (RouteRule.covers info.dstIpv4) (fun rule => rule.depth.toNat)
        snapshot.routes rule :=
      ⟨member, decide_eq_true covered, fun other inside hit =>
        UInt8.le_iff_toNat_le.mp (longest other inside (of_decide_eq_true hit))⟩
    have found := best_of_winner (RuleSnapshot.separated formed.routeDistinct _) winner
    rw [builds.lookup hash lpm, RuleSnapshot.decide, noFlowFor noFlow]
    simp only [RuleSnapshot.routeFor, found]
    rfl
  · intro noRoute
    have found : snapshot.routeFor info.dstIpv4 = none :=
      best_eq_none.mpr fun rule member => decide_eq_false (noRoute rule member)
    rw [builds.lookup hash lpm, RuleSnapshot.decide, noFlowFor noFlow]
    simp only [found]
    rfl
  · intro other _ _ _ _ flows routes others
    rw [others.lookup hash lpm, builds.lookup hash lpm,
      RuleSnapshot.decide_perm formed flows routes]
  · exact fun table present hit => holds.guard lpm admitted present _ hit

end Lookup

/-- A flow rewrites one connection below two nested routes. -/
def nestedRules : RuleSnapshot where
  flows := [⟨0x0a010203, 0x0a010204, 5000, 80, 6, ⟨dpActionRewrite, 4, 0, 0, 6000, 0⟩⟩]
  routes := [⟨0x0a000000, 8, ⟨dpActionForward, 0, 0, 0, 0, 0⟩⟩,
    ⟨0x0a010000, 16, ⟨dpActionDrop, 0, 0, 0, 0, 0⟩⟩]

def nestedPacket : DpPacketMeta :=
  { DpPacketMeta.zero with srcIpv4 := 0x0a010205, dstIpv4 := 0x0a010204, l4Proto := 17 }

theorem nestedRules_wellFormed : nestedRules.WellFormed :=
  (validateRules_ok nestedRules).mp rfl

/-- The longer of two nested routes decides about a packet without a flow. -/
theorem dpLookupPacket_nested :
    ∃ built, Builds listTables .none .none nestedRules 1 built ∧
      dpLookupPacket nestedPacket (some built) =
        (.routeHit, some ⟨dpActionDrop, 0, 0, 0, 0, 0, 0⟩) := by
  obtain ⟨built, builds⟩ := (builds_iff listViews_hash listViews_lpm nestedRules 1).mpr
    ⟨nestedRules_wellFormed, by decide⟩
  have meaning := dpLookupPacket_meaning listViews_hash listViews_lpm builds nestedPacket
  exact ⟨built, builds, (meaning.2.1 (by decide)).1
    ⟨0x0a010000, 16, ⟨dpActionDrop, 0, 0, 0, 0, 0⟩⟩ (by decide) (by decide) (by decide)⟩

end FlowRouter.Control
