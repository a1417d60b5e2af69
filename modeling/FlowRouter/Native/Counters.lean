import Mathlib.Algebra.BigOperators.Group.List.Basic
import FlowRouter.Native.Api

namespace FlowRouter.Native

attribute [ext] DpPacketStats

/-- The aggregation adds sixteen counters that wrap at sixty-four bits. -/
def dpPacketStatsAdd (total addend : DpPacketStats) : DpPacketStats where
  rx := total.rx + addend.rx
  parseOk := total.parseOk + addend.parseOk
  parseUnsupported := total.parseUnsupported + addend.parseUnsupported
  parseMalformed := total.parseMalformed + addend.parseMalformed
  flowHit := total.flowHit + addend.flowHit
  routeHit := total.routeHit + addend.routeHit
  lookupMiss := total.lookupMiss + addend.lookupMiss
  actionDrop := total.actionDrop + addend.actionDrop
  actionForward := total.actionForward + addend.actionForward
  actionRewrite := total.actionRewrite + addend.actionRewrite
  txAccepted := total.txAccepted + addend.txAccepted
  txUnsent := total.txUnsent + addend.txUnsent
  drop := total.drop + addend.drop
  rxBursts := total.rxBursts + addend.rxBursts
  rxEmptyPolls := total.rxEmptyPolls + addend.rxEmptyPolls
  txBursts := total.txBursts + addend.txBursts

theorem dpPacketStatsAdd_assoc (first second third : DpPacketStats) :
    dpPacketStatsAdd (dpPacketStatsAdd first second) third =
      dpPacketStatsAdd first (dpPacketStatsAdd second third) := by
  ext1 <;> exact UInt64.add_assoc _ _ _

theorem dpPacketStatsAdd_comm (first second : DpPacketStats) :
    dpPacketStatsAdd first second = dpPacketStatsAdd second first := by
  ext1 <;> exact UInt64.add_comm _ _

theorem dpPacketStatsAdd_zero (stats : DpPacketStats) : dpPacketStatsAdd stats .zero = stats := by
  ext1 <;> exact UInt64.add_zero _

instance : Zero DpPacketStats := ⟨.zero⟩

instance : Add DpPacketStats := ⟨dpPacketStatsAdd⟩

/-- The counters of several runs form sums in any order. -/
instance : AddCommMonoid DpPacketStats where
  add_assoc := dpPacketStatsAdd_assoc
  zero_add stats := (dpPacketStatsAdd_comm .zero stats).trans (dpPacketStatsAdd_zero stats)
  add_zero := dpPacketStatsAdd_zero
  add_comm := dpPacketStatsAdd_comm
  nsmul := nsmulRec

/-- These are the five laws of the packet counters. -/
structure DpPacketStats.Balanced (stats : DpPacketStats) : Prop where
  parsed : stats.rx = stats.parseOk + stats.parseUnsupported + stats.parseMalformed
  answered : stats.parseOk = stats.flowHit + stats.routeHit + stats.lookupMiss
  acted : stats.parseOk = stats.actionDrop + stats.actionForward + stats.actionRewrite
  sent : stats.actionForward + stats.actionRewrite = stats.txAccepted + stats.txUnsent
  dropped : stats.drop =
    stats.parseUnsupported + stats.parseMalformed + stats.actionDrop + stats.txUnsent

theorem DpPacketStats.balanced_zero : DpPacketStats.Balanced 0 :=
  ⟨rfl, rfl, rfl, rfl, rfl⟩

/-- The laws are linear, so sums of records keep them. -/
theorem DpPacketStats.Balanced.add {first second : DpPacketStats} (left : first.Balanced)
    (right : second.Balanced) : (first + second).Balanced := by
  constructor
  · change first.rx + second.rx = _
    rw [left.parsed, right.parsed]
    change _ = first.parseOk + second.parseOk + (first.parseUnsupported + second.parseUnsupported) +
      (first.parseMalformed + second.parseMalformed)
    grind
  · change first.parseOk + second.parseOk = _
    rw [left.answered, right.answered]
    change _ = first.flowHit + second.flowHit + (first.routeHit + second.routeHit) +
      (first.lookupMiss + second.lookupMiss)
    grind
  · change first.parseOk + second.parseOk = _
    rw [left.acted, right.acted]
    change _ = first.actionDrop + second.actionDrop + (first.actionForward + second.actionForward) +
      (first.actionRewrite + second.actionRewrite)
    grind
  · change first.actionForward + second.actionForward +
      (first.actionRewrite + second.actionRewrite) = first.txAccepted + second.txAccepted +
      (first.txUnsent + second.txUnsent)
    have := left.sent
    have := right.sent
    grind
  · change first.drop + second.drop = _
    rw [left.dropped, right.dropped]
    change _ = first.parseUnsupported + second.parseUnsupported +
      (first.parseMalformed + second.parseMalformed) + (first.actionDrop + second.actionDrop) +
      (first.txUnsent + second.txUnsent)
    grind

end FlowRouter.Native
