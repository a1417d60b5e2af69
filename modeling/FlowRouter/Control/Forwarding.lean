import FlowRouter.Control.Publication
import FlowRouter.Control.Meaning
import FlowRouter.Native.Dataplane
import FlowRouter.Native.Validity

namespace FlowRouter.Control
open Native

/-- This is what a rule set demands for a frame. -/
inductive Treatment where
  | drop
  | forward
  | rewrite (action : RuleAction)
  deriving DecidableEq, Repr

def RuleAction.treatment (action : RuleAction) : Treatment :=
  if action.type = dpActionForward then .forward
  else if action.type = dpActionRewrite then .rewrite action
  else .drop

def Decision.treatment : Decision → Treatment
  | .flow rule => rule.action.treatment
  | .route rule => rule.action.treatment
  | .miss => .drop

instance (frame : RteMbuf) : Decidable frame.Accepted :=
  decidable_of_iff _ frame.verdict_ok_iff

/-- Only the frames of the grammar reach the rules. -/
def RuleSnapshot.treatment (rules : RuleSnapshot) (frame : RteMbuf) : Treatment :=
  if frame.Accepted then (rules.decide frame.decoded).treatment else .drop

/-- A forwarded frame keeps its bytes, and a rewritten one is what its action produces. -/
inductive Treatment.Sends (frame : RteMbuf) : Treatment → RteMbuf → Prop
  | forward : Treatment.Sends frame .forward frame
  | rewrite {action : RuleAction} {after : RteMbuf} :
      action.record.Produces frame after →
      Treatment.Sends frame (.rewrite action) after

def Treatment.exit (hit : Hit) : Treatment → Exit
  | .drop => .dropped hit
  | .forward => .forwarded hit
  | .rewrite _ => .rewritten hit

def Decision.exit : Decision → Exit
  | .flow rule => rule.action.treatment.exit .flow
  | .route rule => rule.action.treatment.exit .route
  | .miss => .missed

/-- The grammar and the rules determine the way of a frame through the worker. -/
def RuleSnapshot.exit (rules : RuleSnapshot) (frame : RteMbuf) : Exit :=
  match frame.verdict with
  | .unsupported => .unsupported
  | .malformed => .malformed
  | .ok => (rules.decide frame.decoded).exit

section Packets

variable {tables : RteTables} {views : TableViews tables} {env : WorkerEnv}
  {rules : RuleSnapshot} {frame : RteMbuf} {built : DpRuleSnapshot tables}

/-- The rule behind a decision is one of the rules. -/
theorem RuleSnapshot.WellFormed.decided (formed : rules.WellFormed) (info : DpPacketMeta) :
    match rules.decide info with
    | .flow rule => rule.action.Valid
    | .route rule => rule.action.Valid
    | .miss => True := by
  unfold RuleSnapshot.decide
  cases flow : rules.flowFor (metaKey info) with
  | some rule =>
    exact formed.flowAction rule ((KeyedList.index_eq_some formed.flowDistinct).mp flow).1
  | none =>
    cases route : rules.routeFor info.dstIpv4 with
    | some rule => exact formed.routeAction rule (LongestMatch.winner_of_best route).mem
    | none => trivial

variable (env) in
/-- A valid action takes the exit of its treatment and leaves the frame that its treatment sends. -/
theorem RuleAction.Valid.outcome {action : RuleAction} (valid : action.Valid) (hit : Hit)
    (accepted : frame.Accepted) (exact : env.checksums.Exact) :
    let outcome := actionOutcome env hit action.record frame
    outcome.exit = action.treatment.exit hit ∧
      (outcome.exit.keeps = true → action.treatment.Sends frame outcome.mbuf) := by
  intro outcome
  rcases valid with ⟨drop | forward, -⟩ | ⟨rewrite, mask, -⟩
  · have left : outcome = ⟨.dropped hit, frame, 1⟩ := if_pos drop
    have dropped : action.treatment = .drop := by
      unfold RuleAction.treatment
      rw [drop]
      rfl
    rw [left, dropped]
    exact ⟨rfl, fun impossible => absurd impossible Bool.false_ne_true⟩
  · have left : outcome = ⟨.forwarded hit, frame, 1⟩ := by
      have other : ¬ action.record.type = dpActionDrop := by
        change ¬ action.type = _
        rw [forward]
        decide
      exact (if_neg other).trans (if_pos forward)
    have forwarded : action.treatment = .forward := if_pos forward
    rw [left, forwarded]
    exact ⟨rfl, fun _ => .forward⟩
  · let record := action.record
    have type : record.type = dpActionRewrite := rewrite
    obtain ⟨status, mbuf⟩ := @dpApplyAction_rewritten env.checksums frame record accepted type mask
    have left : outcome = ⟨.rewritten hit, frame.rewritten env.checksums record, 2⟩ := by
      change actionOutcome env hit record frame = _
      unfold actionOutcome
      rw [type, if_neg (by decide), if_neg (by decide), if_pos rfl]
      dsimp only
      rw [status, mbuf, if_pos rfl]
    have rewritten : action.treatment = .rewrite action := by
      unfold RuleAction.treatment
      rw [rewrite, if_neg (by decide), if_pos rfl]
    rw [left, rewritten]
    exact ⟨rfl, fun _ => .rewrite (accepted.rewritten_produced exact)⟩

/-- The worker takes the exit that the rules determine, and it keeps exactly the frames that they
let through. -/
theorem packetOutcome_treatment (hash : views.ExactHash) (lpm : views.ExactLpm)
    (exact : env.checksums.Exact) {generation : Nat} (source : BuiltFrom rules generation built)
    (frame : RteMbuf) :
    let outcome := packetOutcome env (some built) frame
    outcome.exit = rules.exit frame ∧
      (outcome.exit.keeps = true ↔ rules.treatment frame ≠ .drop) ∧
      (outcome.exit.keeps = true → (rules.treatment frame).Sends frame outcome.mbuf) := by
  obtain ⟨arrayFaults, faults, builds⟩ := source
  obtain ⟨admitted, -, -⟩ := builds.holds hash lpm
  have formed := ((admitted_iff rules).mp admitted).1
  have keeps (hit : Hit) (treatment : Treatment) :
      (treatment.exit hit).keeps = true ↔ treatment ≠ .drop := by
    cases treatment <;> simp [Treatment.exit, Exit.keeps]
  have refused {result : DpParseResult} (verdict : frame.verdict = result) (bad : result ≠ .ok) :
      ¬ frame.Accepted := by
    rw [← frame.verdict_ok_iff, verdict]
    exact bad
  intro outcome
  cases verdict : frame.verdict with
  | unsupported =>
    have left : outcome = ⟨.unsupported, frame, 1⟩ := by
      simp only [outcome, packetOutcome, verdict]
    simp [left, RuleSnapshot.exit, verdict, RuleSnapshot.treatment, refused verdict, Exit.keeps]
  | malformed =>
    have left : outcome = ⟨.malformed, frame, 1⟩ := by
      simp only [outcome, packetOutcome, verdict]
    simp [left, RuleSnapshot.exit, verdict, RuleSnapshot.treatment, refused verdict, Exit.keeps]
  | ok =>
    have accepted : frame.Accepted := frame.verdict_ok_iff.mp verdict
    have answer := builds.lookup hash lpm frame.decoded
    have decided := formed.decided frame.decoded
    have demanded : rules.treatment frame = (rules.decide frame.decoded).treatment :=
      if_pos accepted
    have exits : rules.exit frame = (rules.decide frame.decoded).exit := by
      simp only [RuleSnapshot.exit, verdict]
    rw [exits, demanded]
    cases decision : rules.decide frame.decoded with
    | miss =>
      rw [decision] at answer
      have left : outcome = ⟨.missed, frame, 1⟩ := by
        simp only [outcome, packetOutcome, verdict, answer, Decision.answer]
      simp [left, Decision.exit, Decision.treatment, Exit.keeps]
    | flow rule =>
      rw [decision] at answer decided
      obtain ⟨exit, sends⟩ := decided.outcome env .flow accepted exact
      have left : outcome = actionOutcome env .flow rule.action.record frame := by
        simp only [outcome, packetOutcome, verdict, answer, Decision.answer, Option.getD_some]
      rw [left]
      refine ⟨exit, ?_, sends⟩
      rw [exit]
      exact keeps .flow _
    | route rule =>
      rw [decision] at answer decided
      obtain ⟨exit, sends⟩ := decided.outcome env .route accepted exact
      have left : outcome = actionOutcome env .route rule.action.record frame := by
        simp only [outcome, packetOutcome, verdict, answer, Decision.answer, Option.getD_some]
      rw [left]
      refine ⟨exit, ?_, sends⟩
      rw [exit]
      exact keeps .route _

end Packets

section Bursts

/-- A burst knows the rules behind the snapshot that it has loaded. -/
structure RuledBurst (tables : RteTables) where
  rules : RuleSnapshot
  burst : Burst tables
  generation : Nat
  built : DpRuleSnapshot tables
  loaded : burst.snapshot = some built
  source : BuiltFrom rules generation built

variable {tables : RteTables} {views : TableViews tables} {env : WorkerEnv}

def RuledBurst.frameOf (run : RuledBurst tables) (id : MbufId) : RteMbuf :=
  run.burst.received.contents id

/-- These frames of the burst are let through, in the order of their arrival. -/
def RuledBurst.passed (run : RuledBurst tables) : List MbufId :=
  run.burst.received.mbufs.filter fun id => run.rules.treatment (run.frameOf id) ≠ .drop

/-- The driver gets exactly the frames that the rules let through, each as its rule demands. -/
def RuledBurst.Obeyed (run : RuledBurst tables) (frames : List (MbufId × RteMbuf)) : Prop :=
  frames.map Prod.fst = run.passed ∧
    ∀ frame ∈ frames, (run.rules.treatment (run.frameOf frame.1)).Sends (run.frameOf frame.1) frame.2

theorem RuledBurst.kept_eq (hash : views.ExactHash) (lpm : views.ExactLpm)
    (exact : env.checksums.Exact) (run : RuledBurst tables) :
    run.burst.received.kept env run.burst.snapshot = run.passed := by
  apply List.filter_congr
  intro id _
  obtain ⟨-, keeps, -⟩ := packetOutcome_treatment hash lpm exact run.source (run.frameOf id)
  rw [outcomeAt, run.loaded, Bool.eq_iff_iff, decide_eq_true_iff]
  exact keeps

/-- The frames of a burst obey its rules. -/
theorem RuledBurst.frames_obeyed (hash : views.ExactHash) (lpm : views.ExactLpm)
    (exact : env.checksums.Exact) (run : RuledBurst tables) :
    run.Obeyed (run.burst.received.frames env run.burst.snapshot) := by
  refine ⟨?_, fun frame member => ?_⟩
  · rw [frames_fst]
    exact run.kept_eq hash lpm exact
  · obtain ⟨id, kept, rfl⟩ := List.mem_map.mp member
    obtain ⟨-, -, sends⟩ := packetOutcome_treatment hash lpm exact run.source (run.frameOf id)
    have keeps := (List.mem_filter.mp kept).2
    rw [outcomeAt, run.loaded] at keeps ⊢
    exact sends keeps

/-- The loop appends the events of its bursts. -/
theorem workerLoop_events (worker : DpWorkerInfo) (bursts : List (Burst tables))
    (pkts : Nat → MbufId) (state : WorkerState) :
    ((workerLoop env worker bursts pkts).run state).run.2.events = state.events ++
      bursts.flatMap fun burst => burst.received.events env burst.snapshot burst.driver := by
  induction bursts generalizing pkts state with
  | nil => exact (List.append_nil _).symm
  | cons burst rest ih =>
    obtain ⟨pkts', run⟩ :=
      workerIteration_run env worker burst.snapshot burst.received burst.driver pkts state
    simp only [workerLoop, StateT.run_bind, run, pure_bind]
    rw [ih, List.flatMap_cons, List.append_assoc]

/-- A burst is handed to the driver in one call, and not at all when nothing is let through. -/
theorem RuledBurst.transmissions_eq (hash : views.ExactHash) (lpm : views.ExactLpm)
    (exact : env.checksums.Exact) (run : RuledBurst tables) :
    let frames := run.burst.received.frames env run.burst.snapshot
    transmissions (run.burst.received.events env run.burst.snapshot run.burst.driver) =
      if run.passed = [] then [] else [(frames, run.burst.driver.accept frames)] := by
  intro frames
  have nothing : frames = [] ↔ run.passed = [] := by
    rw [← run.kept_eq hash lpm exact]
    exact List.map_eq_nil_iff
  have all : transmissions (run.burst.received.events env run.burst.snapshot run.burst.driver) =
      transmissions _ ++ transmissions _ := List.flatMap_append
  rw [all, (acceptedIds_packetEvents _ _ _ _).2, (completion_ids _ _ _ _).2.2, List.nil_append]
  simp only [← nothing]
  rfl

/-- Over any sequence of bursts a worker hands to the driver exactly the frames that the rules of
each burst let through, burst by burst and in the order of their arrival, unchanged or as the
action of the deciding rule demands. -/
theorem worker_follows_rules (hash : views.ExactHash) (lpm : views.ExactLpm)
    (exact : env.checksums.Exact) (worker : DpWorkerInfo) (runs : List (RuledBurst tables))
    (pkts : Nat → MbufId) (packets : MbufId → RteMbuf) (stats : DpPacketStats) :
    let final := ((workerLoop env worker (runs.map RuledBurst.burst) pkts).run
      ⟨packets, [], stats, []⟩).run.2
    ∃ frames : RuledBurst tables → List (MbufId × RteMbuf),
      (∀ run ∈ runs, run.Obeyed (frames run)) ∧
      transmissions final.events = runs.flatMap fun run =>
        if run.passed = [] then [] else [(frames run, run.burst.driver.accept (frames run))] := by
  intro final
  refine ⟨fun run => run.burst.received.frames env run.burst.snapshot,
    fun run _ => run.frames_obeyed hash lpm exact, ?_⟩
  have events : final.events = _ := workerLoop_events worker _ pkts ⟨packets, [], stats, []⟩
  rw [events, List.nil_append, transmissions, List.flatMap_assoc, List.flatMap_map]
  apply List.flatMap_congr
  intro run _
  exact run.transmissions_eq hash lpm exact

/-- The datagram follows the wider route, and the parser refuses the chained mbuf. -/
def sampleBurst : RxBurst where
  mbufs := [0, 1]
  contents id := if id = 0 then paddedUdp else chainedMbuf
  limit := by decide
  distinct := by decide

/-- The driver accepts every frame. -/
def acceptAll : TxDriver := ⟨List.length, fun _ => Nat.le_refl _⟩

def sampleEnv : WorkerEnv := ⟨computedChecksums, .zero, fun index => .ofNat index⟩

def sampleRun {rules : RuleSnapshot} {generation : Nat} (built : DpRuleSnapshot listTables)
    (builds : Builds listTables .none .none rules generation built) : RuledBurst listTables where
  rules := rules
  burst := ⟨some built, sampleBurst, acceptAll⟩
  generation := generation
  built := built
  loaded := rfl
  source := ⟨.none, .none, builds⟩

theorem nestedRules_builds : ∃ built, Builds listTables .none .none nestedRules 1 built :=
  (builds_iff listViews_hash listViews_lpm nestedRules 1).mpr ⟨nestedRules_wellFormed, by decide⟩

/-- A burst that its rules forward leaves with its bytes. -/
theorem RuledBurst.Obeyed.forwarded {run : RuledBurst tables} {frames : List (MbufId × RteMbuf)}
    (obeyed : run.Obeyed frames)
    (forward : ∀ id ∈ run.passed, run.rules.treatment (run.frameOf id) = .forward) :
    frames = run.passed.map fun id => (id, run.frameOf id) := by
  obtain ⟨ids, demanded⟩ := obeyed
  rw [← ids, List.map_map]
  apply Eq.symm
  apply (List.map_congr_left fun frame member => ?_).trans (List.map_id _)
  have passed : frame.1 ∈ run.passed := by
    rw [← ids]
    exact List.mem_map_of_mem member
  have sends := demanded frame member
  rw [forward frame.1 passed] at sends
  generalize same : frame.2 = after at sends
  cases sends
  exact Prod.ext rfl same.symm

/-- A burst of one rewritten frame leaves with what its action produces. -/
theorem RuledBurst.Obeyed.rewritten {run : RuledBurst tables} {frames : List (MbufId × RteMbuf)}
    (obeyed : run.Obeyed frames) {id : MbufId} {action : RuleAction} (passed : run.passed = [id])
    (rewrite : run.rules.treatment (run.frameOf id) = .rewrite action) :
    ∃ after, frames = [(id, after)] ∧ action.record.Produces (run.frameOf id) after := by
  obtain ⟨ids, demanded⟩ := obeyed
  rw [passed] at ids
  obtain ⟨frame, rfl, same⟩ := List.map_eq_singleton_iff.mp ids
  have sends := demanded frame (List.mem_singleton_self frame)
  rw [same, rewrite] at sends
  cases sends with
  | rewrite produces =>
    refine ⟨frame.2, ?_, produces⟩
    rw [← same]

/-- The nested rules let the datagram of the sample through as it is. -/
theorem sampleRun_forwards {built : DpRuleSnapshot listTables}
    {builds : Builds listTables .none .none nestedRules 1 built}
    {frames : List (MbufId × RteMbuf)} (obeyed : (sampleRun built builds).Obeyed frames) :
    frames = [(0, paddedUdp)] := by
  have passed : (sampleRun built builds).passed = [0] :=
    (show (sampleBurst.mbufs.filter fun id =>
      nestedRules.treatment (sampleBurst.contents id) ≠ .drop) = [0] by decide +kernel)
  have forward : nestedRules.treatment (sampleBurst.contents 0) = .forward := by decide +kernel
  rw [obeyed.forwarded, passed]
  · rfl
  · rw [passed]
    intro id member
    rw [List.mem_singleton.mp member]
    exact forward

/-- The datagram has a flow of its own in the next generation. -/
def redirectAction : RuleAction :=
  ⟨dpActionRewrite, dpRewriteDstIpv4 ||| dpRewriteSrcPort, 0, 0x0a000007, 4000, 0⟩

def redirectRules : RuleSnapshot where
  flows := [⟨0x0a000001, 0x0a000002, 1234, 53, 17, redirectAction⟩]
  routes := nestedRules.routes

theorem redirectRules_builds : ∃ built, Builds listTables .none .none redirectRules 2 built :=
  (builds_iff listViews_hash listViews_lpm redirectRules 2).mpr
    ⟨(validateRules_ok redirectRules).mp rfl, by decide⟩

/-- The worker forwards the datagram with all its bytes and drops the chained mbuf. After the next
publication it rewrites the same datagram. -/
theorem worker_follows_rules_sample :
    ∃ built, ∃ builds : Builds listTables .none .none nestedRules 1 built,
      ∃ next, ∃ rebuilds : Builds listTables .none .none redirectRules 2 next, ∃ after,
        transmissions ((workerLoop sampleEnv ⟨0, 0, 0, 0⟩
          ([sampleRun built builds, sampleRun next rebuilds].map RuledBurst.burst) id).run
            ⟨fun _ => chainedMbuf, [], .zero, []⟩).run.2.events =
          [([(0, paddedUdp)], 1), ([(0, after)], 1)] ∧
        redirectAction.record.Produces paddedUdp after ∧
        BigEndian.word16 after.bytes 38 = 4000 := by
  obtain ⟨built, builds⟩ := nestedRules_builds
  obtain ⟨next, rebuilds⟩ := redirectRules_builds
  have exact : sampleEnv.checksums.Exact := computedChecksums_exact
  obtain ⟨frames, obeyed, sent⟩ := worker_follows_rules listViews_hash listViews_lpm exact
    ⟨0, 0, 0, 0⟩ [sampleRun built builds, sampleRun next rebuilds] id (fun _ => chainedMbuf) .zero
  have passed : (sampleRun built builds).passed = [0] :=
    (show (sampleBurst.mbufs.filter fun id =>
      nestedRules.treatment (sampleBurst.contents id) ≠ .drop) = [0] by decide +kernel)
  have passed' : (sampleRun next rebuilds).passed = [0] :=
    (show (sampleBurst.mbufs.filter fun id =>
      redirectRules.treatment (sampleBurst.contents id) ≠ .drop) = [0] by decide +kernel)
  have rewrite : redirectRules.treatment (sampleBurst.contents 0) = .rewrite redirectAction := by
    decide +kernel
  have left := sampleRun_forwards (obeyed _ (List.mem_cons_self ..))
  obtain ⟨after, left', produces⟩ :=
    (obeyed _ (List.mem_cons_of_mem _ (List.mem_singleton_self _))).rewritten passed' rewrite
  have start : paddedUdp.l4Start = 38 := by decide +kernel
  have port : BigEndian.word16 after.bytes 38 = 4000 := by
    rw [← start]
    exact produces.selected.srcPort (by decide)
  refine ⟨built, builds, next, rebuilds, after, ?_, produces, port⟩
  rw [sent, List.flatMap_cons, List.flatMap_singleton, left, left', passed, passed']
  rfl

end Bursts

section Counters

variable {tables : RteTables} {views : TableViews tables} {env : WorkerEnv}

open Classical in
/-- This is the number of frames of one burst in a class that its rules define. -/
noncomputable def RuledBurst.countOf (run : RuledBurst tables)
    (select : RuleSnapshot → RteMbuf → Prop) : Nat :=
  run.burst.received.mbufs.countP fun id => select run.rules (run.frameOf id)

noncomputable def countFrames (runs : List (RuledBurst tables))
    (select : RuleSnapshot → RteMbuf → Prop) : Nat :=
  (runs.map fun run => run.countOf select).sum

/-- The worker hands these frames of the burst to the driver. -/
def RuledBurst.handed (env : WorkerEnv) (run : RuledBurst tables) : List (MbufId × RteMbuf) :=
  run.burst.received.frames env run.burst.snapshot

/-- The driver takes this many of them and refuses the others. -/
def RuledBurst.taken (env : WorkerEnv) (run : RuledBurst tables) : Nat :=
  run.burst.driver.accept (run.handed env)

/-- Each counter is the number of frames of its class, up to the width of the counter. The frames
that the driver took or refused are those that the rules let through. -/
structure CountersMean (env : WorkerEnv) (stats : DpPacketStats)
    (runs : List (RuledBurst tables)) : Prop where
  handed : ∀ run ∈ runs, run.Obeyed (run.handed env)
  txAccepted : stats.txAccepted = UInt64.ofNat (runs.map (RuledBurst.taken env)).sum
  txUnsent : stats.txUnsent =
    UInt64.ofNat (runs.map fun run => (run.handed env).length - run.taken env).sum
  received : stats.rx = UInt64.ofNat (countFrames runs fun _ _ => True)
  parseOk : stats.parseOk = UInt64.ofNat (countFrames runs fun _ frame => frame.Accepted)
  unsupported : stats.parseUnsupported =
    UInt64.ofNat (countFrames runs fun _ frame => frame.Declined)
  malformed : stats.parseMalformed =
    UInt64.ofNat (countFrames runs fun _ frame => ¬ frame.Accepted ∧ ¬ frame.Declined)
  flowHit : stats.flowHit = UInt64.ofNat (countFrames runs fun rules frame =>
    frame.Accepted ∧ ∃ rule, rules.decide frame.decoded = .flow rule)
  routeHit : stats.routeHit = UInt64.ofNat (countFrames runs fun rules frame =>
    frame.Accepted ∧ ∃ rule, rules.decide frame.decoded = .route rule)
  lookupMiss : stats.lookupMiss = UInt64.ofNat (countFrames runs fun rules frame =>
    frame.Accepted ∧ rules.decide frame.decoded = .miss)
  dropped : stats.actionDrop = UInt64.ofNat (countFrames runs fun rules frame =>
    frame.Accepted ∧ rules.treatment frame = .drop)
  forwarded : stats.actionForward = UInt64.ofNat (countFrames runs fun rules frame =>
    rules.treatment frame = .forward)
  rewritten : stats.actionRewrite = UInt64.ofNat (countFrames runs fun rules frame =>
    ∃ action, rules.treatment frame = .rewrite action)

open Classical in
theorem sum_indicator {A : Type} (select : A → Prop) (items : List A) :
    (items.map fun item => if select item then (1 : UInt64) else 0).sum =
      UInt64.ofNat (items.countP fun item => select item) := by
  induction items with
  | nil => rfl
  | cons item rest ih =>
    rw [List.map_cons, List.sum_cons, ih, List.countP_cons, UInt64.ofNat_add, add_comm]
    by_cases chosen : select item
    · simp [chosen]
    · simp [chosen]

/-- A counter of a single frame tells whether the frame belongs to a class. -/
def Indicates (counter : UInt64) (belongs : Prop) : Prop :=
  (belongs → counter = 1) ∧ (¬ belongs → counter = 0)

/-- The exit of a frame counts the frame in its classes and in no other. -/
structure ClassesCounted (rules : RuleSnapshot) (frame : RteMbuf) (counters : DpPacketStats) :
    Prop where
  parseOk : Indicates counters.parseOk frame.Accepted
  unsupported : Indicates counters.parseUnsupported frame.Declined
  malformed : Indicates counters.parseMalformed (¬ frame.Accepted ∧ ¬ frame.Declined)
  flowHit : Indicates counters.flowHit
    (frame.Accepted ∧ ∃ rule, rules.decide frame.decoded = .flow rule)
  routeHit : Indicates counters.routeHit
    (frame.Accepted ∧ ∃ rule, rules.decide frame.decoded = .route rule)
  lookupMiss : Indicates counters.lookupMiss
    (frame.Accepted ∧ rules.decide frame.decoded = .miss)
  dropped : Indicates counters.actionDrop (frame.Accepted ∧ rules.treatment frame = .drop)
  forwarded : Indicates counters.actionForward (rules.treatment frame = .forward)
  rewritten : Indicates counters.actionRewrite (∃ action, rules.treatment frame = .rewrite action)

theorem RuleSnapshot.exit_counted (rules : RuleSnapshot) (frame : RteMbuf) :
    ClassesCounted rules frame (rules.exit frame).counters := by
  have accepted := frame.verdict_ok_iff
  have declined := frame.verdict_unsupported_iff
  cases verdict : frame.verdict with
  | unsupported =>
    rw [verdict] at accepted declined
    constructor <;> simp_all [Indicates, RuleSnapshot.exit, RuleSnapshot.treatment, Exit.counters,
      DpPacketStats.zero]
  | malformed =>
    rw [verdict] at accepted declined
    constructor <;> simp_all [Indicates, RuleSnapshot.exit, RuleSnapshot.treatment, Exit.counters,
      DpPacketStats.zero]
  | ok =>
    have valid : frame.Accepted := accepted.mp verdict
    have taken : ¬ frame.Declined := by
      rw [← declined, verdict]
      decide
    cases decision : rules.decide frame.decoded with
    | miss =>
      constructor <;> simp [Indicates, RuleSnapshot.exit, RuleSnapshot.treatment, Exit.counters,
        DpPacketStats.zero, verdict, valid, taken, decision, Decision.exit, Decision.treatment]
    | flow rule =>
      cases treatment : rule.action.treatment <;> constructor <;>
        simp [Indicates, RuleSnapshot.exit, RuleSnapshot.treatment, Exit.counters, Hit.counters,
          DpPacketStats.zero, verdict, valid, taken, decision, Decision.exit, Decision.treatment,
          treatment, Treatment.exit]
    | route rule =>
      cases treatment : rule.action.treatment <;> constructor <;>
        simp [Indicates, RuleSnapshot.exit, RuleSnapshot.treatment, Exit.counters, Hit.counters,
          DpPacketStats.zero, verdict, valid, taken, decision, Decision.exit, Decision.treatment,
          treatment, Treatment.exit]

theorem counterFields_add {field : DpPacketStats → UInt64} (listed : field ∈ counterFields)
    (first second : DpPacketStats) : field (first + second) = field first + field second := by
  simpa using counterFields_sum listed [first, second]

/-- The counters of the bursts in a run. -/
def RuledBurst.counters (env : WorkerEnv) (run : RuledBurst tables) : DpPacketStats :=
  run.burst.received.counters env run.burst.snapshot run.burst.driver

/-- What a counter counts in each burst it counts in all of them. -/
theorem burstCounters_field {field : DpPacketStats → UInt64} (listed : field ∈ counterFields)
    {measure : RuledBurst tables → Nat}
    (each : ∀ run : RuledBurst tables, field (run.counters env) = UInt64.ofNat (measure run))
    (runs : List (RuledBurst tables)) :
    field (burstCounters env (runs.map RuledBurst.burst)) =
      UInt64.ofNat (runs.map measure).sum := by
  induction runs with
  | nil => exact counterFields_sum listed []
  | cons run rest ih =>
    change field (run.counters env + burstCounters env (rest.map RuledBurst.burst)) = _
    rw [counterFields_add listed, each, ih, List.map_cons, List.sum_cons, UInt64.ofNat_add]

theorem exit_unsent (exit : Exit) : exit.counters.txAccepted = 0 ∧ exit.counters.txUnsent = 0 := by
  cases exit with
  | unsupported | malformed | missed => exact ⟨rfl, rfl⟩
  | dropped hit | forwarded hit | rewritten hit => cases hit <;> exact ⟨rfl, rfl⟩

/-- Only the transmission of a burst counts what the driver does with its frames. -/
theorem RuledBurst.counters_sent (field : DpPacketStats → UInt64) (listed : field ∈ counterFields)
    (rx : ∀ n, field (rxCounters n) = 0) (exit : ∀ exit : Exit, field exit.counters = 0)
    (run : RuledBurst tables) :
    field (run.counters env) = if run.handed env = [] then 0
      else field (txCounters (run.handed env).length (run.taken env)) := by
  have packets : field (packetCounters env run.burst.snapshot run.burst.received.contents
      run.burst.received.mbufs) = 0 := by
    rw [packetCounters, counterFields_sum listed, List.map_map]
    apply List.sum_eq_zero
    intro value member
    obtain ⟨id, -, rfl⟩ := List.mem_map.mp member
    exact exit _
  have empty : run.handed env = [] ↔ run.burst.received.kept env run.burst.snapshot = [] :=
    List.map_eq_nil_iff
  have length : (run.handed env).length =
      (run.burst.received.kept env run.burst.snapshot).length := List.length_map _
  rw [RuledBurst.counters, RxBurst.counters, counterFields_add listed, counterFields_add listed, rx,
    packets, zero_add, zero_add]
  by_cases nothing : run.handed env = []
  · rw [if_pos nothing, if_pos (empty.mp nothing)]
    exact counterFields_sum listed []
  · rw [if_neg nothing, if_neg (mt empty.mpr nothing), length]
    rfl

/-- The driver takes nothing when it is handed nothing. -/
theorem RuledBurst.taken_le (env : WorkerEnv) (run : RuledBurst tables) :
    run.taken env ≤ (run.handed env).length :=
  run.burst.driver.bounded (run.handed env)

/-- A counter that indicates a class on every frame counts the class in a burst. -/
theorem RuledBurst.counters_field (hash : views.ExactHash) (lpm : views.ExactLpm)
    (exact : env.checksums.Exact) {field : DpPacketStats → UInt64} (listed : field ∈ counterFields)
    (rx : ∀ n, field (rxCounters n) = 0) (tx : ∀ n sent, field (txCounters n sent) = 0)
    {select : RuleSnapshot → RteMbuf → Prop}
    (each : ∀ rules frame, Indicates (field (rules.exit frame).counters) (select rules frame))
    (run : RuledBurst tables) :
    field (run.counters env) = UInt64.ofNat (run.countOf select) := by
  have packets : field (packetCounters env run.burst.snapshot run.burst.received.contents
      run.burst.received.mbufs) = UInt64.ofNat (run.countOf select) := by
    rw [packetCounters, counterFields_sum listed, List.map_map, RuledBurst.countOf, ← sum_indicator]
    apply congrArg List.sum
    apply List.map_congr_left
    intro id _
    obtain ⟨exit, -, -⟩ := packetOutcome_treatment hash lpm exact run.source (run.frameOf id)
    rw [Function.comp_apply, outcomeAt, run.loaded]
    change field (packetOutcome env (some run.built) (run.frameOf id)).exit.counters = _
    rw [exit]
    split_ifs with chosen
    · exact (each _ _).1 chosen
    · exact (each _ _).2 chosen
  have sent (kept : List MbufId) (count : Nat) :
      field (if kept = [] then 0 else txCounters kept.length count) = 0 := by
    split_ifs
    · exact counterFields_sum listed []
    · exact tx _ _
  rw [RuledBurst.counters, RxBurst.counters, counterFields_add listed, counterFields_add listed, rx,
    packets, sent]
  simp

/-- The counters of any bursts count the frames of their classes. -/
theorem burstCounters_mean (hash : views.ExactHash) (lpm : views.ExactLpm)
    (exact : env.checksums.Exact) (runs : List (RuledBurst tables)) :
    CountersMean env (burstCounters env (runs.map RuledBurst.burst)) runs := by
  have counted {field : DpPacketStats → UInt64} (listed : field ∈ counterFields)
      (rx : ∀ n, field (rxCounters n) = 0) (tx : ∀ n sent, field (txCounters n sent) = 0)
      {select : RuleSnapshot → RteMbuf → Prop} (each : ∀ rules frame,
        Indicates (field (rules.exit frame).counters) (select rules frame)) :=
    burstCounters_field listed
      (RuledBurst.counters_field hash lpm exact listed rx tx each) runs
  constructor
  case handed => exact fun run _ => run.frames_obeyed hash lpm exact
  case txAccepted =>
    apply burstCounters_field (by simp [counterFields])
    intro run
    rw [run.counters_sent DpPacketStats.txAccepted (by simp [counterFields]) (fun _ => rfl)
      fun exit => (exit_unsent exit).1]
    have few := run.taken_le env
    by_cases nothing : run.handed env = []
    · rw [nothing, List.length_nil, Nat.le_zero] at few
      rw [if_pos nothing, few]
      rfl
    · exact if_neg nothing
  case txUnsent =>
    apply burstCounters_field (by simp [counterFields])
    intro run
    rw [run.counters_sent DpPacketStats.txUnsent (by simp [counterFields]) (fun _ => rfl)
      fun exit => (exit_unsent exit).2]
    by_cases nothing : run.handed env = []
    · rw [if_pos nothing, nothing, List.length_nil, Nat.zero_sub]
      rfl
    · exact if_neg nothing
  case received =>
    apply burstCounters_field (by simp [counterFields])
    intro run
    obtain ⟨-, -, -, -, -, packets, -⟩ := packetCounters_pending env run.burst.snapshot
      run.burst.received.contents run.burst.received.mbufs
    have sent (kept : List MbufId) (count : Nat) :
        (if kept = [] then 0 else txCounters kept.length count).rx = 0 := by
      split_ifs <;> rfl
    have all : run.countOf (fun _ _ => True) = run.burst.received.mbufs.length := by
      simp [RuledBurst.countOf]
    change UInt64.ofNat _ + (packetCounters _ _ _ _).rx + (if _ then _ else _ : DpPacketStats).rx = _
    rw [packets, sent, all]
    simp
  case parseOk =>
    exact counted (by simp [counterFields]) (fun _ => rfl) (fun _ _ => rfl)
      fun rules frame => (rules.exit_counted frame).parseOk
  case unsupported =>
    exact counted (by simp [counterFields]) (fun _ => rfl) (fun _ _ => rfl)
      fun rules frame => (rules.exit_counted frame).unsupported
  case malformed =>
    exact counted (by simp [counterFields]) (fun _ => rfl) (fun _ _ => rfl)
      fun rules frame => (rules.exit_counted frame).malformed
  case flowHit =>
    exact counted (by simp [counterFields]) (fun _ => rfl) (fun _ _ => rfl)
      fun rules frame => (rules.exit_counted frame).flowHit
  case routeHit =>
    exact counted (by simp [counterFields]) (fun _ => rfl) (fun _ _ => rfl)
      fun rules frame => (rules.exit_counted frame).routeHit
  case lookupMiss =>
    exact counted (by simp [counterFields]) (fun _ => rfl) (fun _ _ => rfl)
      fun rules frame => (rules.exit_counted frame).lookupMiss
  case dropped =>
    exact counted (by simp [counterFields]) (fun _ => rfl) (fun _ _ => rfl)
      fun rules frame => (rules.exit_counted frame).dropped
  case forwarded =>
    exact counted (by simp [counterFields]) (fun _ => rfl) (fun _ _ => rfl)
      fun rules frame => (rules.exit_counted frame).forwarded
  case rewritten =>
    exact counted (by simp [counterFields]) (fun _ => rfl) (fun _ _ => rfl)
      fun rules frame => (rules.exit_counted frame).rewritten

/-- The bursts of several workers count together. -/
theorem burstCounters_flatMap (workers : List Nat) (runs : Nat → List (RuledBurst tables)) :
    (workers.map fun worker => burstCounters env ((runs worker).map RuledBurst.burst)).sum =
      burstCounters env ((workers.flatMap runs).map RuledBurst.burst) := by
  induction workers with
  | nil => rfl
  | cons worker rest ih =>
    rw [List.map_cons, List.sum_cons, ih, List.flatMap_cons, List.map_append]
    simp [burstCounters]

/-- After a run the report of each worker and its totals count the received frames by what the
grammar and the rules of their burst say about them. -/
theorem packetCounters_meaning (hash : views.ExactHash) (lpm : views.ExactLpm)
    (exact : env.checksums.Exact) (launch : Nat → Int) (script : Nat → WorkerScript tables)
    (dp : Dataplane) (before : DpStats) (idle : dp.running = false)
    (fresh : ∀ worker, (dp.workers worker).stats = .zero) (runs : Nat → List (RuledBurst tables))
    (executed : ∀ worker,
      executedBursts launch script dp worker = (runs worker).map RuledBurst.burst) :
    ∃ report, dpDataplaneGetStats (some before) (dpDataplaneRun env launch script dp).2 =
        (0, some report) ∧
      (∀ worker < dp.workerCount,
        CountersMean env (report.workers worker).packets (runs worker)) ∧
      CountersMean env report.toDpPacketStats ((List.range dp.workerCount).flatMap runs) := by
  obtain ⟨stopped, count⟩ := dpDataplaneRun_frame env launch script dp idle
  obtain ⟨report, answer, -, -, records, totals⟩ :=
    dpDataplaneGetStats_eq before (dpDataplaneRun env launch script dp).2 stopped
  have each (worker : Nat) : ((dpDataplaneRun env launch script dp).2.workers worker).stats =
      burstCounters env ((runs worker).map RuledBurst.burst) := by
    rw [dpDataplaneRun_stats, fresh worker, executed worker]
    exact zero_add _
  rw [count] at records totals
  refine ⟨report, answer, fun worker inside => ?_, ?_⟩
  · rw [records worker inside, each worker]
    exact burstCounters_mean hash lpm exact (runs worker)
  · simp only [totals, each, burstCounters_flatMap]
    exact burstCounters_mean hash lpm exact _

/-- The only worker polls the sample burst. -/
def soleWorker : Dataplane :=
  { twoWorkers with workerCount := 1, limit := by decide }

def sampleScript (run : RuledBurst listTables) (_ : Nat) : WorkerScript listTables :=
  .loop (fun _ => chainedMbuf) id [run.burst]

open Classical in
theorem countFrames_sample (built : DpRuleSnapshot listTables)
    (builds : Builds listTables .none .none nestedRules 1 built)
    (select : RuleSnapshot → RteMbuf → Prop) :
    countFrames [sampleRun built builds] select =
      (if select nestedRules (sampleBurst.contents 1) then 1 else 0) +
        if select nestedRules (sampleBurst.contents 0) then 1 else 0 := by
  have counted : countFrames [sampleRun built builds] select =
      [0, 1].countP fun id => select nestedRules (sampleBurst.contents id) :=
    List.sum_singleton
  simp [counted, List.countP_cons]

theorem packetCounters_meaning_sample :
    ∃ built, ∃ builds : Builds listTables .none .none nestedRules 1 built, ∃ report,
      dpDataplaneGetStats (some soleWorker.stats) (dpDataplaneRun sampleEnv (fun _ => 0)
        (sampleScript (sampleRun built builds)) soleWorker).2 = (0, some report) ∧
      report.rx = 2 ∧ report.actionForward = 1 ∧ report.parseOk = 1 ∧ report.txAccepted = 1 ∧
      report.txUnsent = 0 := by
  obtain ⟨built, builds⟩ := nestedRules_builds
  have exact : sampleEnv.checksums.Exact := computedChecksums_exact
  let runs (worker : Nat) := if worker = 0 then [sampleRun built builds] else []
  obtain ⟨report, answer, -, totals⟩ := packetCounters_meaning listViews_hash listViews_lpm exact
    (fun _ => 0) (sampleScript (sampleRun built builds)) soleWorker soleWorker.stats rfl
    (fun _ => rfl) runs (by
      intro worker
      cases worker <;> rfl)
  have all : (List.range soleWorker.workerCount).flatMap runs = [sampleRun built builds] := rfl
  have forward : nestedRules.treatment (sampleBurst.contents 0) = .forward := by decide +kernel
  have dropped : nestedRules.treatment (sampleBurst.contents 1) = .drop := by decide +kernel
  have valid : (sampleBurst.contents 0).Accepted := by decide +kernel
  have refused : ¬ (sampleBurst.contents 1).Accepted := by decide +kernel
  rw [all] at totals
  have left := sampleRun_forwards (totals.handed _ (List.mem_singleton_self _))
  refine ⟨built, builds, report, answer, ?_, ?_, ?_, ?_, ?_⟩
  · rw [totals.received, countFrames_sample]
    simp
  · rw [totals.forwarded, countFrames_sample]
    simp [forward, dropped]
  · rw [totals.parseOk, countFrames_sample]
    simp [valid, refused]
  · rw [totals.txAccepted, List.map_singleton, List.sum_singleton, RuledBurst.taken, left]
    rfl
  · rw [totals.txUnsent, List.map_singleton, List.sum_singleton, RuledBurst.taken, left]
    rfl

end Counters

end FlowRouter.Control
