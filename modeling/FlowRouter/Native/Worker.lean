import FlowRouter.Library.Compaction
import FlowRouter.Native.Action
import FlowRouter.Native.Counters
import FlowRouter.Native.Grammar
import FlowRouter.Native.Lookup

namespace FlowRouter.Native

/-- An mbuf is known by its address. -/
abbrev MbufId := Nat

/-- The log records every use of an mbuf. A transmission records the frames that the driver sees. -/
inductive MbufEvent where
  | touch (id : MbufId)
  | free (id : MbufId)
  | transmit (frames : List (MbufId × RteMbuf)) (sent : Nat)

/-- The calls of a worker to the driver and to the registry of readers show their arguments. -/
inductive WorkerCall where
  | rxBurst (port queue : UInt16)
  | txBurst (port queue : UInt16)
  | readerRegister (readerId : Nat)
  | readerQuiescent (readerId : Nat)
  | readerUnregister (readerId : Nat)
  deriving DecidableEq, Repr

structure WorkerState where
  packets : MbufId → RteMbuf
  events : List MbufEvent
  stats : DpPacketStats
  calls : List WorkerCall

/-- Worker code runs over the mbufs and extends its event log and its call log. -/
abbrev WorkerM := StateM WorkerState

/-- The stray action is the record that a read outside an action store finds. The ports are those
of the setup. -/
structure WorkerEnv where
  checksums : ChecksumLibrary
  strayAction : DpRuleAction
  ports : Nat → UInt16

/-- A packet function reads and writes only the mbuf that it receives. -/
def onPacket {A : Type} (id : MbufId) (program : PacketM A) : WorkerM A := fun state =>
  let done := runPacket program (state.packets id)
  (done.1, { state with
    packets := Function.update state.packets id done.2.mbuf
    events := state.events ++ [.touch id] })

def count (change : DpPacketStats → DpPacketStats) : WorkerM Unit := fun state =>
  ((), { state with stats := change state.stats })

def rtePktmbufFree (id : MbufId) : WorkerM Unit := fun state =>
  ((), { state with events := state.events ++ [.free id] })

def recordCall (call : WorkerCall) : WorkerM Unit := fun state =>
  ((), { state with calls := state.calls ++ [call] })

def dpRulesReaderQuiescent (readerId : Nat) : WorkerM Unit := recordCall (.readerQuiescent readerId)

variable {tables : RteTables}

/-- A refused packet leaves the function through these statements. -/
def dropPacket (mbuf : MbufId) : WorkerM (Option MbufId) := do
  count fun stats => { stats with drop := stats.drop + 1 }
  rtePktmbufFree mbuf
  return none

/-- This is the part of `dp_process_packet` behind a table hit. -/
def processAction (env : WorkerEnv) (mbuf : MbufId) (info : DpPacketMeta) (action : DpRuleAction) :
    WorkerM (Option MbufId) := do
  if action.type = dpActionDrop then
    count fun stats => { stats with actionDrop := stats.actionDrop + 1 }
    return ← dropPacket mbuf
  if action.type = dpActionForward then
    count fun stats => { stats with actionForward := stats.actionForward + 1 }
    return some mbuf
  if action.type = dpActionRewrite then
    if (← onPacket mbuf (dpApplyAction env.checksums info action)) = 0 then
      count fun stats => { stats with actionRewrite := stats.actionRewrite + 1 }
      return some mbuf
  count fun stats => { stats with actionDrop := stats.actionDrop + 1 }
  dropPacket mbuf

/-- No code reads the metadata of a packet that the parser refuses. -/
def dpProcessPacket (env : WorkerEnv) (snapshot : Option (DpRuleSnapshot tables)) (mbuf : MbufId) :
    WorkerM (Option MbufId) := do
  let (parseResult, info) ← onPacket mbuf (dpParsePacket .zero)
  if parseResult ≠ .ok then
    if parseResult = .unsupported then
      count fun stats => { stats with parseUnsupported := stats.parseUnsupported + 1 }
    else
      count fun stats => { stats with parseMalformed := stats.parseMalformed + 1 }
    return ← dropPacket mbuf
  count fun stats => { stats with parseOk := stats.parseOk + 1 }
  let (lookupResult, action) := dpLookupPacket info snapshot
  if lookupResult = .flowHit then
    count fun stats => { stats with flowHit := stats.flowHit + 1 }
  else if lookupResult = .routeHit then
    count fun stats => { stats with routeHit := stats.routeHit + 1 }
  else
    count fun stats => { stats with lookupMiss := stats.lookupMiss + 1 }
    count fun stats => { stats with actionDrop := stats.actionDrop + 1 }
    return ← dropPacket mbuf
  processAction env mbuf info (action.getD env.strayAction)

@[simp] theorem onPacket_run {A : Type} (id : MbufId) (program : PacketM A) (state : WorkerState) :
    (onPacket id program).run state = pure ((runPacket program (state.packets id)).1,
      { state with
        packets := Function.update state.packets id (runPacket program (state.packets id)).2.mbuf
        events := state.events ++ [.touch id] }) := rfl

@[simp] theorem count_run (change : DpPacketStats → DpPacketStats) (state : WorkerState) :
    (count change).run state = pure ((), { state with stats := change state.stats }) := rfl

@[simp] theorem rtePktmbufFree_run (id : MbufId) (state : WorkerState) :
    (rtePktmbufFree id).run state =
      pure ((), { state with events := state.events ++ [.free id] }) := rfl

@[simp] theorem recordCall_run (call : WorkerCall) (state : WorkerState) :
    (recordCall call).run state = pure ((), { state with calls := state.calls ++ [call] }) := rfl

@[simp] theorem dpRulesReaderQuiescent_run (readerId : Nat) (state : WorkerState) :
    (dpRulesReaderQuiescent readerId).run state =
      pure ((), { state with calls := state.calls ++ [.readerQuiescent readerId] }) := rfl

/-- A lookup names the table that answers it. -/
inductive Hit where
  | flow
  | route
  deriving DecidableEq, Repr

/-- A packet leaves the worker through one of these exits. -/
inductive Exit where
  | unsupported
  | malformed
  | missed
  | dropped (hit : Hit)
  | forwarded (hit : Hit)
  | rewritten (hit : Hit)
  deriving DecidableEq, Repr

/-- The worker keeps a packet that it forwards or rewrites. -/
def Exit.keeps : Exit → Bool
  | .forwarded _ => true
  | .rewritten _ => true
  | _ => false

/-- Parsing touches a packet once and a rewrite touches it once more. -/
structure Outcome where
  exit : Exit
  mbuf : RteMbuf
  touches : Nat

/-- A hit applies its action, and an action that cannot be applied drops the packet. -/
def actionOutcome (env : WorkerEnv) (hit : Hit) (action : DpRuleAction) (mbuf : RteMbuf) :
    Outcome :=
  if action.type = dpActionDrop then ⟨.dropped hit, mbuf, 1⟩
  else if action.type = dpActionForward then ⟨.forwarded hit, mbuf, 1⟩
  else if action.type = dpActionRewrite then
    let applied := runPacket (dpApplyAction env.checksums mbuf.decoded action) mbuf
    ⟨if applied.1 = 0 then .rewritten hit else .dropped hit, applied.2.mbuf, 2⟩
  else ⟨.dropped hit, mbuf, 1⟩

/-- This is the treatment of one packet as a function of its contents. -/
def packetOutcome (env : WorkerEnv) (snapshot : Option (DpRuleSnapshot tables)) (mbuf : RteMbuf) :
    Outcome :=
  match mbuf.verdict with
  | .unsupported => ⟨.unsupported, mbuf, 1⟩
  | .malformed => ⟨.malformed, mbuf, 1⟩
  | .ok =>
      let found := dpLookupPacket mbuf.decoded snapshot
      match found.1 with
      | .miss => ⟨.missed, mbuf, 1⟩
      | .flowHit => actionOutcome env .flow (found.2.getD env.strayAction) mbuf
      | .routeHit => actionOutcome env .route (found.2.getD env.strayAction) mbuf

/-- A packet is used first and freed last. -/
def Outcome.events (outcome : Outcome) (id : MbufId) : List MbufEvent :=
  List.replicate outcome.touches (.touch id) ++ if outcome.exit.keeps then [] else [.free id]

def Hit.counters : Hit → DpPacketStats
  | .flow => { DpPacketStats.zero with flowHit := 1 }
  | .route => { DpPacketStats.zero with routeHit := 1 }

/-- Each exit counts its packet in several fields. -/
def Exit.counters : Exit → DpPacketStats
  | .unsupported => { DpPacketStats.zero with parseUnsupported := 1, drop := 1 }
  | .malformed => { DpPacketStats.zero with parseMalformed := 1, drop := 1 }
  | .missed => { DpPacketStats.zero with parseOk := 1, lookupMiss := 1, actionDrop := 1, drop := 1 }
  | .dropped hit => { hit.counters with parseOk := 1, actionDrop := 1, drop := 1 }
  | .forwarded hit => { hit.counters with parseOk := 1, actionForward := 1 }
  | .rewritten hit => { hit.counters with parseOk := 1, actionRewrite := 1 }

/-- The worker parses an mbuf without changing it. -/
theorem onPacket_dpParsePacket (id : MbufId) (state : WorkerState) :
    ∃ info, (onPacket id (dpParsePacket .zero)).run state =
        pure (((state.packets id).verdict, info),
          { state with events := state.events ++ [.touch id] }) ∧
      ((state.packets id).verdict = .ok → info = (state.packets id).decoded) := by
  obtain ⟨result, accesses, reach, -, verdict, value⟩ :=
    dpParsePacket_run .zero ⟨state.packets id, []⟩
  have parsed : runPacket (dpParsePacket .zero) (state.packets id) =
      (result, ⟨state.packets id, accesses⟩) := by
    rw [runPacket, reach]
    rfl
  refine ⟨result.2, ?_, fun ok => value (verdict.trans ok)⟩
  rw [onPacket_run, parsed, Function.update_eq_self]
  change pure (result, _) = _
  rw [← verdict]

/-- The state after an exit differs from the state before it in one packet, the log and the
counters. -/
def WorkerState.leave (state : WorkerState) (id : MbufId) (outcome : Outcome) : WorkerState where
  packets := Function.update state.packets id outcome.mbuf
  events := state.events ++ outcome.events id
  stats := state.stats + outcome.exit.counters
  calls := state.calls

theorem DpPacketStats.add_def (first second : DpPacketStats) :
    first + second = dpPacketStatsAdd first second := rfl

@[simp] theorem dropPacket_run (id : MbufId) (state : WorkerState) :
    (dropPacket id).run state = pure (none, { state with
      events := state.events ++ [.free id]
      stats := { state.stats with drop := state.stats.drop + 1 } }) := rfl

section Exits
attribute [local simp] WorkerState.leave Outcome.events Exit.keeps Exit.counters Hit.counters
  DpPacketStats.add_def dpPacketStatsAdd DpPacketStats.zero

/-- The action of a hit decides the exit. -/
theorem processAction_run (env : WorkerEnv) (hit : Hit) (id : MbufId) (action : DpRuleAction)
    (state : WorkerState) :
    let outcome := actionOutcome env hit action (state.packets id)
    (processAction env id (state.packets id).decoded action).run
        { state with
          events := state.events ++ [.touch id]
          stats := state.stats + { hit.counters with parseOk := 1 } } =
      pure (if outcome.exit.keeps then some id else none, state.leave id outcome) := by
  intro outcome
  unfold processAction
  by_cases drop : action.type = dpActionDrop
  · have left : outcome = ⟨.dropped hit, state.packets id, 1⟩ := if_pos drop
    rw [if_pos drop, left]
    cases hit <;> simp
  rw [if_neg drop]
  by_cases forward : action.type = dpActionForward
  · have left : outcome = ⟨.forwarded hit, state.packets id, 1⟩ := by
      simp only [outcome, actionOutcome, if_neg drop, if_pos forward]
    rw [if_pos forward, left]
    cases hit <;> simp
  rw [if_neg forward]
  by_cases rewrite : action.type = dpActionRewrite
  · let applied := runPacket (dpApplyAction env.checksums (state.packets id).decoded action)
      (state.packets id)
    have left : outcome =
        ⟨if applied.1 = 0 then .rewritten hit else .dropped hit, applied.2.mbuf, 2⟩ := by
      simp only [outcome, actionOutcome, if_neg drop, if_neg forward, if_pos rewrite, applied]
    rw [if_pos rewrite, left]
    by_cases success : applied.1 = 0
    · cases hit <;> simp [applied, success]
    · cases hit <;> simp [applied, success]
  · have left : outcome = ⟨.dropped hit, state.packets id, 1⟩ := by
      simp only [outcome, actionOutcome, if_neg drop, if_neg forward, if_neg rewrite]
    rw [if_neg rewrite, left]
    cases hit <;> simp

/-- The worker treats a packet as its outcome says. -/
theorem dpProcessPacket_run (env : WorkerEnv) (snapshot : Option (DpRuleSnapshot tables))
    (id : MbufId) (state : WorkerState) :
    let outcome := packetOutcome env snapshot (state.packets id)
    (dpProcessPacket env snapshot id).run state =
      pure (if outcome.exit.keeps then some id else none, state.leave id outcome) := by
  obtain ⟨info, parsed, decoded⟩ := onPacket_dpParsePacket id state
  intro outcome
  cases verdict : (state.packets id).verdict with
  | unsupported =>
    have left : outcome = ⟨.unsupported, state.packets id, 1⟩ := by
      simp only [outcome, packetOutcome, verdict]
    rw [verdict] at parsed
    simp [dpProcessPacket, parsed, left]
  | malformed =>
    have left : outcome = ⟨.malformed, state.packets id, 1⟩ := by
      simp only [outcome, packetOutcome, verdict]
    rw [verdict] at parsed
    simp [dpProcessPacket, parsed, left]
  | ok =>
    rw [verdict, decoded verdict] at parsed
    let action := (dpLookupPacket (state.packets id).decoded snapshot).2.getD env.strayAction
    cases found : (dpLookupPacket (state.packets id).decoded snapshot).1 with
    | miss =>
      have left : outcome = ⟨.missed, state.packets id, 1⟩ := by
        simp only [outcome, packetOutcome, verdict, found]
      simp [dpProcessPacket, parsed, found, left]
    | flowHit =>
      have left : outcome = actionOutcome env .flow action (state.packets id) := by
        simp only [outcome, packetOutcome, verdict, found, action]
      rw [left, ← processAction_run]
      simp [dpProcessPacket, parsed, found, action]
    | routeHit =>
      have left : outcome = actionOutcome env .route action (state.packets id) := by
        simp only [outcome, packetOutcome, verdict, found, action]
      rw [left, ← processAction_run]
      simp [dpProcessPacket, parsed, found, action]

end Exits

end FlowRouter.Native
