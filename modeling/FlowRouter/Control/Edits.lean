import FlowRouter.Control.Publication

namespace FlowRouter.Control
open Checks Native LongestMatch

section Decisions

variable {current : RuleSnapshot} {info : DpPacketMeta} {address : UInt32}

end Decisions

section Lookups

variable {tables : RteTables} {views : TableViews tables}

/-- Both sides in agreement answer with the decision of the Go rules. -/
theorem RuleState.Synced.lookup (hash : views.ExactHash) (lpm : views.ExactLpm)
    {state : RuleState tables} (synced : state.Synced) (info : DpPacketMeta) :
    dpLookupPacket info state.native.activeRules =
      (state.runtime.currentRules.decide info).answer := by
  obtain ⟨built, active, arrayFaults, faults, builds⟩ := synced.active
  rw [active, builds.lookup hash lpm]

def narrowRoute : RouteRule := ⟨0x0a010200, 24, ⟨dpActionForward, 0, 0, 0, 0, 0⟩⟩

end Lookups

end FlowRouter.Control
