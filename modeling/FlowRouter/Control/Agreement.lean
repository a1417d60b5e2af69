import FlowRouter.Control.Rules
import FlowRouter.Native.ListTables
import FlowRouter.Native.Snapshot

namespace FlowRouter.Control
open Checks Native

/-- The two validators agree on these actions. -/
def RuleAction.Valid (action : RuleAction) : Prop :=
  ((action.type = dpActionDrop ∨ action.type = dpActionForward) ∧ action.rewriteMask = 0) ∨
    (action.type = dpActionRewrite ∧ action.rewriteMask ≠ 0 ∧ action.rewriteMask &&& 0xf0 = 0)

/-- A rule set is well formed when it keeps the published limits, each rule is valid on its own,
and no two rules share a key. -/
structure RuleSnapshot.WellFormed (snapshot : RuleSnapshot) : Prop where
  flowLimit : snapshot.flows.length ≤ 1024
  routeLimit : snapshot.routes.length ≤ 1024
  flowProto : ∀ rule ∈ snapshot.flows, rule.l4Proto = 6 ∨ rule.l4Proto = 17
  flowAction : ∀ rule ∈ snapshot.flows, rule.action.Valid
  routePrefix : ∀ rule ∈ snapshot.routes, NormalPrefix rule.prefixBits rule.depth
  routeAction : ∀ rule ∈ snapshot.routes, rule.action.Valid
  flowDistinct : (snapshot.flows.map flowRuleKey).Nodup
  routeDistinct : (snapshot.routes.map routeRuleKey).Nodup

/-- These are the blocks of 256 addresses in which a snapshot has routes deeper than 24. -/
def RuleSnapshot.deepBlocks (snapshot : RuleSnapshot) : List UInt32 :=
  Native.deepBlocks (snapshot.routes.map fun rule => (rule.prefixBits, rule.depth))

/-- The Go check of an action accepts exactly the valid actions. -/
theorem validateRuleAction_ok (action : RuleAction) :
    validateRuleAction action = .ok () ↔ action.Valid := by
  have mask : ~~~(dpRewriteSrcIpv4 ||| dpRewriteDstIpv4 ||| dpRewriteSrcPort |||
    dpRewriteDstPort) = 0xf0 := by decide
  unfold validateRuleAction RuleAction.Valid
  simp only [mask]
  by_cases plain : action.type = dpActionDrop ∨ action.type = dpActionForward
  · have other : action.type ≠ dpActionRewrite := by
      rintro rewrite
      rw [rewrite] at plain
      exact absurd plain (by decide)
    rw [if_pos plain, rejectIf_ok]
    tauto
  · rw [if_neg plain, guard_ok, rejectIf_ok, rejectIf_ok]
    tauto

theorem wrapError_ok {context : String} {result : Except Binding.GoError Unit} :
    wrapError context result = .ok () ↔ result = .ok () := by
  cases result with
  | error cause => simp [wrapError]
  | ok value => simp [wrapError]

theorem validateFlow_ok (index : Nat) (rule : FlowRule) :
    validateFlow index rule = .ok () ↔
      (rule.l4Proto = 6 ∨ rule.l4Proto = 17) ∧ rule.action.Valid := by
  rw [validateFlow, guard_ok, rejectIf_ok, wrapError_ok, validateRuleAction_ok]
  tauto

theorem validateRoute_ok (index : Nat) (rule : RouteRule) :
    validateRoute index rule = .ok () ↔
      NormalPrefix rule.prefixBits rule.depth ∧ rule.action.Valid := by
  simp only [validateRoute, guard_ok, rejectIf_ok, wrapError_ok, validateRuleAction_ok, not_or,
    not_not]
  constructor
  · rintro ⟨⟨nonzero, small⟩, masked, action⟩
    rw [if_pos nonzero] at masked
    exact ⟨⟨nonzero, UInt8.not_lt.mp small, masked⟩, action⟩
  · rintro ⟨⟨nonzero, small, masked⟩, action⟩
    rw [if_pos nonzero]
    exact ⟨⟨nonzero, UInt8.not_lt.mpr small⟩, masked, action⟩

/-- Two ways to name the keys find the same duplicates. -/
theorem nodup_map_congr {A K L : Type} {first : A → K} {second : A → L}
    (same : ∀ a b, first a = first b ↔ second a = second b) (items : List A) :
    (items.map first).Nodup ↔ (items.map second).Nodup := by
  simp only [List.Nodup, List.pairwise_map, ne_eq, same]

/-- The 64-bit map key tells flows apart exactly as their flow key does. -/
theorem flowMapKey_eq (first second : FlowRule) :
    flowMapKey first = flowMapKey second ↔ flowRuleKey first = flowRuleKey second := by
  simp [flowMapKey, flowRuleKey, ← UInt64.toNat_inj, ← UInt32.toNat_inj, ← UInt16.toNat_inj,
    ← UInt8.toNat_inj]

theorem routeMapKey_eq (first second : RouteRule) :
    routeMapKey first = routeMapKey second ↔ routeRuleKey first = routeRuleKey second := by
  simp [routeMapKey, routeRuleKey, ← UInt64.toNat_inj, ← UInt32.toNat_inj, ← UInt8.toNat_inj]

/-- The Go validator accepts exactly the well-formed rule sets. -/
theorem validateRules_ok (snapshot : RuleSnapshot) :
    validateRules snapshot = .ok () ↔ snapshot.WellFormed := by
  rw [validateRules, guard_ok, guard_ok, rejectIf_ok, scanKeyed_ok validateFlow_ok,
    scanKeyed_ok validateRoute_ok, nodup_map_congr flowMapKey_eq, nodup_map_congr routeMapKey_eq]
  simp only [not_or, not_lt, List.not_mem_nil, not_false_eq_true, implies_true, and_true]
  constructor
  · rintro ⟨⟨flowLimit, routeLimit⟩, ⟨flows, flowDistinct⟩, routes, routeDistinct⟩
    exact ⟨flowLimit, routeLimit, fun rule member => (flows rule member).1,
      fun rule member => (flows rule member).2, fun rule member => (routes rule member).1,
      fun rule member => (routes rule member).2, flowDistinct, routeDistinct⟩
  · rintro ⟨flowLimit, routeLimit, flowProto, flowAction, routePrefix, routeAction, flowDistinct,
      routeDistinct⟩
    exact ⟨⟨flowLimit, routeLimit⟩,
      ⟨fun rule member => ⟨flowProto rule member, flowAction rule member⟩, flowDistinct⟩,
      fun rule member => ⟨routePrefix rule member, routeAction rule member⟩, routeDistinct⟩

/-- This is the C record of an action, field by field. -/
def RuleAction.record (action : RuleAction) : DpRuleAction where
  type := action.type
  rewriteMask := action.rewriteMask
  reserved := 0
  srcIpv4 := action.srcIpv4
  dstIpv4 := action.dstIpv4
  srcPort := action.srcPort
  dstPort := action.dstPort

/-- This is the C record that a flow reaches the builder with. -/
def FlowRule.record (rule : FlowRule) : DpFlowRule :=
  ⟨rule.srcIpv4, rule.dstIpv4, rule.srcPort, rule.dstPort, rule.l4Proto, 0, 0, 0,
    rule.action.record⟩

def RouteRule.record (rule : RouteRule) : DpRouteRule :=
  ⟨rule.prefixBits, rule.depth, 0, 0, 0, rule.action.record⟩

theorem toNativeRules_flows (snapshot : RuleSnapshot) :
    (toNativeRules snapshot).flows.map Binding.FlowRule.record =
      snapshot.flows.map FlowRule.record := by
  rw [toNativeRules, List.map_map]
  rfl

theorem toNativeRules_routes (snapshot : RuleSnapshot) :
    (toNativeRules snapshot).routes.map Binding.RouteRule.record =
      snapshot.routes.map RouteRule.record := by
  rw [toNativeRules, List.map_map]
  rfl

/-- The key bytes of two flows agree exactly when their flow keys do. -/
theorem FlowRule.keyBytes_eq (first second : FlowRule) :
    first.record.keyBytes = second.record.keyBytes ↔ flowRuleKey first = flowRuleKey second := by
  rw [DpFlowRule.keyBytes, DpFlowRule.keyBytes, DpFlowKey.bytes_injective.eq_iff]
  simp [flowRuleKeyBytes, FlowRule.record, flowRuleKey]

theorem RouteRule.key_eq (first second : RouteRule) :
    first.record.key = second.record.key ↔ routeRuleKey first = routeRuleKey second := by
  simp [DpRouteRule.key, RouteRule.record, routeRuleKey]

theorem RuleAction.record_valid (action : RuleAction) :
    action.record.Valid ↔ action.Valid :=
  and_iff_right rfl

/-- The builder admits the well-formed rule sets whose deep routes fit the second-level groups. -/
theorem admitted_iff (snapshot : RuleSnapshot) :
    Admitted (snapshot.flows.map FlowRule.record) (snapshot.routes.map RouteRule.record) ↔
      snapshot.WellFormed ∧ snapshot.deepBlocks.length ≤ 256 := by
  have keys : (snapshot.routes.map RouteRule.record).map DpRouteRule.key =
      snapshot.routes.map fun rule => (rule.prefixBits, rule.depth) := by
    rw [List.map_map]
    rfl
  have flowKeys : ((snapshot.flows.map FlowRule.record).map DpFlowRule.keyBytes).Nodup ↔
      (snapshot.flows.map flowRuleKey).Nodup := by
    rw [List.map_map]
    exact nodup_map_congr FlowRule.keyBytes_eq _
  have routeKeys : ((snapshot.routes.map RouteRule.record).map DpRouteRule.key).Nodup ↔
      (snapshot.routes.map routeRuleKey).Nodup := by
    rw [List.map_map]
    exact nodup_map_congr RouteRule.key_eq _
  constructor
  · rintro ⟨flowLimit, routeLimit, flows, routes, flowDistinct, routeDistinct, deep⟩
    rw [List.forall_mem_map] at flows routes
    rw [List.length_map] at flowLimit routeLimit
    exact ⟨⟨flowLimit, routeLimit, fun rule member => (flows rule member).proto,
      fun rule member => (RuleAction.record_valid _).mp (flows rule member).action,
      fun rule member => (routes rule member).normal,
      fun rule member => (RuleAction.record_valid _).mp (routes rule member).action,
      flowKeys.mp flowDistinct, routeKeys.mp routeDistinct⟩, by
        rw [RuleSnapshot.deepBlocks, ← keys]
        exact deep⟩
  · rintro ⟨formed, deep⟩
    refine ⟨by simpa using formed.flowLimit, by simpa using formed.routeLimit, ?_, ?_,
      flowKeys.mpr formed.flowDistinct, routeKeys.mpr formed.routeDistinct, by rw [keys]; exact deep⟩
    · exact List.forall_mem_map.mpr fun rule member => ⟨formed.flowProto rule member,
        ⟨rfl, rfl, rfl⟩, (RuleAction.record_valid _).mpr (formed.flowAction rule member)⟩
    · exact List.forall_mem_map.mpr fun rule member => ⟨formed.routePrefix rule member,
        ⟨rfl, rfl, rfl⟩, (RuleAction.record_valid _).mpr (formed.routeAction rule member)⟩

/-- A snapshot is built from Go rules through both conversions. -/
def Builds (tables : RteTables) (arrayFaults : Binding.ArrayFaults) (faults : BuildFaults)
    (snapshot : RuleSnapshot) (generation : Nat) (built : DpRuleSnapshot tables) : Prop :=
  ∃ arrays, Binding.newRuleArrays arrayFaults (toNativeRules snapshot) = .ok arrays ∧
    dpSnapshotBuild tables faults arrays.flows arrays.routes generation = .ok built

section Build

variable {tables : RteTables} {views : TableViews tables}

/-- A built snapshot holds the records of its rules. -/
theorem Builds.holds (hash : views.ExactHash) (lpm : views.ExactLpm)
    {arrayFaults : Binding.ArrayFaults} {faults : BuildFaults} {snapshot : RuleSnapshot}
    {generation : Nat} {built : DpRuleSnapshot tables}
    (builds : Builds tables arrayFaults faults snapshot generation built) :
    Admitted (snapshot.flows.map FlowRule.record) (snapshot.routes.map RouteRule.record) ∧
      built.Holds views (snapshot.flows.map FlowRule.record)
        (snapshot.routes.map RouteRule.record) ∧
      built.generation = generation := by
  obtain ⟨arrays, copied, success⟩ := builds
  obtain ⟨⟨flows, -⟩, routes, -⟩ := Binding.newRuleArrays_ok copied
  have sound := dpSnapshotBuild_sound hash lpm success
  rw [flows, routes, toNativeRules_flows, toNativeRules_routes] at sound
  exact sound

/-- Without a failed allocation exactly the rule sets are built that are well formed and have few
enough deep blocks. -/
theorem builds_iff (hash : views.ExactHash) (lpm : views.ExactLpm) (snapshot : RuleSnapshot)
    (generation : Nat) :
    (∃ built, Builds tables .none .none snapshot generation built) ↔
      snapshot.WellFormed ∧ snapshot.deepBlocks.length ≤ 256 := by
  rw [← admitted_iff]
  constructor
  · rintro ⟨built, builds⟩
    exact (builds.holds hash lpm).1
  · intro admitted
    obtain ⟨arrays, copied⟩ := Binding.newRuleArrays_complete (toNativeRules snapshot)
      (by simpa [toNativeRules, dpMaxFlowRules] using admitted.flowLimit)
      (by simpa [toNativeRules, dpMaxRouteRules] using admitted.routeLimit)
    obtain ⟨⟨flows, flowPresent⟩, routes, routePresent⟩ := Binding.newRuleArrays_ok copied
    rw [toNativeRules_flows] at flows
    rw [toNativeRules_routes] at routes
    obtain ⟨built, success⟩ := dpSnapshotBuild_complete hash lpm generation flowPresent
      routePresent (by rw [flows, routes]; exact admitted)
    exact ⟨built, arrays, copied, success⟩

/-- Both validators agree on a rule set exactly when it breaks a rule that both check, or its deep
routes lie in at most 256 blocks. -/
theorem validators_agree_iff (hash : views.ExactHash) (lpm : views.ExactLpm)
    (snapshot : RuleSnapshot) (generation : Nat) :
    (validateRules snapshot = .ok () ↔
        ∃ built, Builds tables .none .none snapshot generation built) ↔
      (¬ snapshot.WellFormed ∨ snapshot.deepBlocks.length ≤ 256) := by
  rw [validateRules_ok, builds_iff hash lpm]
  tauto

end Build

/-- This rule set has one host route in each of 257 blocks. -/
def scatteredHosts : RuleSnapshot where
  flows := []
  routes := (List.range 257).map fun block =>
    { prefixBits := UInt32.ofNat (block * 256), depth := 32, action := ⟨0, 0, 0, 0, 0, 0⟩ }

theorem scatteredHosts_wellFormed : scatteredHosts.WellFormed where
  flowLimit := by simp [scatteredHosts]
  routeLimit := by simp [scatteredHosts]
  flowProto := by simp [scatteredHosts]
  flowAction := by simp [scatteredHosts]
  routePrefix := by
    have full : prefixMask 32 = -1 := by decide
    rw [scatteredHosts, List.forall_mem_map]
    exact fun block _ => ⟨show (32 : UInt8) ≠ 0 by decide, show (32 : UInt8) ≤ 32 by decide,
      by rw [full, UInt32.and_neg_one]⟩
  routeAction := by
    rw [scatteredHosts, List.forall_mem_map]
    exact fun block _ => .inl ⟨.inl rfl, rfl⟩
  flowDistinct := by simp [scatteredHosts]
  routeDistinct := by
    rw [scatteredHosts, List.map_map]
    refine List.nodup_range.map_on fun first inside second member same => ?_
    rw [List.mem_range] at inside member
    have bits := congrArg (fun key => key.prefixBits.toNat) same
    simp only [Function.comp_apply, routeRuleKey, UInt32.toNat_ofNat'] at bits
    omega

/-- Each host lies in a block of its own. -/
theorem scatteredHosts_deepBlocks : scatteredHosts.deepBlocks.length = 257 := by
  have blocks : scatteredHosts.deepBlocks =
      ((List.range 257).map fun block => UInt32.ofNat (block * 256) >>> 8).dedup := by
    simp [RuleSnapshot.deepBlocks, Native.deepBlocks, scatteredHosts, List.filter_map,
      Function.comp_def]
  have distinct : ((List.range 257).map fun block => UInt32.ofNat (block * 256) >>> 8).Nodup := by
    refine List.nodup_range.map_on fun first inside second member same => ?_
    rw [List.mem_range] at inside member
    have bits := congrArg UInt32.toNat same
    simp only [UInt32.toNat_shiftRight, UInt32.toNat_ofNat', Nat.shiftRight_eq_div_pow] at bits
    change first * 256 % 4294967296 / 256 = second * 256 % 4294967296 / 256 at bits
    omega
  rw [blocks, distinct.dedup, List.length_map, List.length_range]

/-- The Go validator accepts the scattered hosts, but no table has a group for the last one. -/
theorem scatteredHosts_disagree :
    ¬ (validateRules scatteredHosts = .ok () ↔
      ∃ built, Builds listTables .none .none scatteredHosts 1 built) := by
  rw [validateRules_ok, builds_iff listViews_hash listViews_lpm, scatteredHosts_deepBlocks]
  exact fun agree => absurd (agree.mp scatteredHosts_wellFormed).2 (by decide)

/-- The characterization applies to the executable tables. -/
theorem validators_agree_listTables :
    (validateRules scatteredHosts = .ok () ↔
        ∃ built, Builds listTables .none .none scatteredHosts 1 built) ↔
      (¬ scatteredHosts.WellFormed ∨ scatteredHosts.deepBlocks.length ≤ 256) :=
  validators_agree_iff listViews_hash listViews_lpm scatteredHosts 1

end FlowRouter.Control
