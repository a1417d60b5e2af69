import FlowRouter.Library.Frame
import FlowRouter.Native.Generations

namespace FlowRouter.Native.Memory
open Frame

variable {A : Type} {tables : RteTables} {views : TableViews tables} {memory : RuleMemory tables}

/-- The outline leaves out the heap and the counters. -/
def RuleMemory.outline (memory : RuleMemory tables) : RuleMemory tables :=
  { memory with heap := .empty tables, stats := .zero }

/-- The flags belong to the rest of the program. -/
def RuleMemory.flags (memory : RuleMemory tables) : Bool × Bool × Bool × Bool :=
  (memory.initialized, memory.ready, memory.running, memory.ran)

theorem RuleMemory.flags_eq {first second : RuleMemory tables} (same : first.flags = second.flags) :
    first.initialized = second.initialized ∧ first.ready = second.ready ∧
      first.running = second.running ∧ first.ran = second.ran := by
  simpa [RuleMemory.flags] using same

/-- Configured rules have a registry of readers. -/
def RuleMemory.Registered (memory : RuleMemory tables) : Prop :=
  memory.rulesConfigured = true → memory.rulesQsbr.isSome

theorem free_keeps (address : Nat) :
    Keeps RuleMemory.outline (free address : Call tables Unit) := by
  intro state value after run
  obtain ⟨heap, -, same⟩ := Option.map_eq_some_iff.mp run
  obtain ⟨-, rfl⟩ := Prod.mk.inj same
  rfl

theorem freeTable_keeps (pointer : Option Nat) (record : DpRuleStats → DpRuleStats) :
    Keeps RuleMemory.outline (freeTable pointer record : Call tables Unit) := by
  cases pointer with
  | none => exact Keeps.pure ()
  | some address => exact (free_keeps address).bind fun _ => Keeps.change fun _ => rfl

/-- Freeing a snapshot touches the heap and the counters only. -/
theorem dpSnapshotFree_keeps (snapshot : Option Nat) (reclaimed recordResourceStats : Bool) :
    Keeps RuleMemory.outline
      (dpSnapshotFree snapshot reclaimed recordResourceStats : Call tables Unit) := by
  cases snapshot with
  | none => exact Keeps.pure ()
  | some address =>
    refine Keeps.read.bind fun memory => (Keeps.lift _).bind fun cell => ?_
    refine (freeTable_keeps _ _).bind fun _ => (freeTable_keeps _ _).bind fun _ => ?_
    refine (freeTable_keeps _ _).bind fun _ => (freeTable_keeps _ _).bind fun _ => ?_
    exact Keeps.ite (Keeps.change fun _ => rfl) (Keeps.pure ())

/-- A build touches the heap only. -/
theorem dpSnapshotBuild_keeps (stores : views.Stores) (faults : SnapshotFaults)
    (flows : RuleArray DpFlowRule) (routes : RuleArray DpRouteRule) (generation : Nat) :
    Keeps RuleMemory.outline
      (dpSnapshotBuild faults flows routes generation : Call tables (Int × Option Nat)) := by
  intro before result after run
  obtain ⟨status, snapshot, built, defined, outcome⟩ :=
    dpSnapshotBuild_run stores faults flows routes generation before
  obtain ⟨-, rfl⟩ := Prod.mk.inj (Option.some.inj (defined.symm.trans run))
  have rest : built = before.withHeap built.heap := by
    rcases outcome with ⟨-, _, _, -, success⟩ | ⟨-, -, undone⟩
    · exact success.rest
    · exact undone.rest
  rw [rest]
  rfl

theorem countFailure_keeps : Keeps RuleMemory.outline (countFailure : Call tables Unit) :=
  Keeps.change fun _ => rfl

theorem zmalloc_keeps (object : Object tables) :
    Keeps RuleMemory.outline (zmalloc object : Call tables Nat) := by
  intro state value after run
  obtain ⟨-, rfl⟩ := Prod.mk.inj (Option.some.inj run)
  rfl

/-- The registry is in place after a creation that reports no error. -/
theorem dpQsbrCreate_leads (fault : Option QsbrFault) (outline : RuleMemory tables) :
    Leads (fun memory : RuleMemory tables => memory.outline = outline) (dpQsbrCreate fault)
      fun status memory =>
        memory.outline = { outline with rulesQsbr := memory.rulesQsbr } ∧
          (0 ≤ status → memory.rulesQsbr.isSome) := by
  have unchanged (memory : RuleMemory tables) (start : memory.outline = outline) :
      memory.outline = { outline with rulesQsbr := memory.rulesQsbr } := by
    rw [← start]
    rfl
  have refused (status : Int) (negative : status < 0) :
      Leads (fun memory : RuleMemory tables => memory.outline = outline)
        (pure status : Call tables Int) fun status memory =>
          memory.outline = { outline with rulesQsbr := memory.rulesQsbr } ∧
            (0 ≤ status → memory.rulesQsbr.isSome) :=
    Leads.pure status fun memory start =>
      ⟨unchanged memory start, fun accepted => absurd accepted (Int.not_le.mpr negative)⟩
  have allocated := (zmalloc_keeps (.qsbr : Object tables)).leads (· = outline)
  have found : Leads (fun memory : RuleMemory tables => memory.outline = outline) get
      fun value memory => memory.outline = outline ∧ value = memory :=
    Leads.read fun _ start => ⟨start, rfl⟩
  refine found.bind fun value => Leads.ite (fun present => ?_) fun _ => ?_
  · exact Leads.pure 0 fun memory ⟨start, same⟩ =>
      ⟨unchanged memory start, fun _ => same ▸ present⟩
  · have negative (rteErrno : Nat) : errnoOr rteErrno einval < 0 := errnoOr_neg _ (by decide)
    refine Leads.narrow ?_ fun memory (start : memory.outline = outline ∧ value = memory) => start.1
    cases fault with
    | none =>
      refine allocated.bind fun address => Leads.bind (Leads.change fun memory start => ?_)
        fun _ => Leads.pure 0 fun memory start => start
      refine ⟨?_, fun _ => rfl⟩
      rw [← start]
      rfl
    | some fault =>
      cases fault with
      | memsize rteErrno => exact refused _ (negative rteErrno)
      | allocation rteErrno => exact refused _ (errnoOr_neg rteErrno enomem_pos)
      | init rteErrno =>
        exact allocated.bind fun address =>
          ((free_keeps address).leads (· = outline)).bind fun _ => refused _ (negative rteErrno)

/-- A publication changes the active snapshot, the heap and the counters. -/
theorem dpPublishRules_keeps (stores : views.Stores) (faults : SnapshotFaults)
    (flows : RuleArray DpFlowRule) (routes : RuleArray DpRouteRule) (generation : Option Nat) :
    Keeps (fun memory => { memory.outline with activeRules := none })
      (dpPublishRules faults flows routes generation : Call tables (Int × Option Nat)) := by
  let hide (outline : RuleMemory tables) : RuleMemory tables := { outline with activeRules := none }
  cases generation with
  | none => exact Keeps.pure _
  | some generation =>
    refine Keeps.read.bind fun memory => Keeps.ite (Keeps.pure _) ?_
    refine ((dpSnapshotBuild_keeps stores faults flows routes _).coarsen hide).bind
      fun result => Keeps.ite ?_ ?_
    · exact (countFailure_keeps.coarsen hide).bind fun _ => Keeps.pure _
    · exact Keeps.bind (Keeps.change fun _ => rfl) fun _ =>
        ((dpSnapshotFree_keeps _ true true).coarsen hide).bind fun _ => Keeps.pure _

theorem dpPublishRules_leads (stores : views.Stores) (faults : SnapshotFaults)
    (flows : RuleArray DpFlowRule) (routes : RuleArray DpRouteRule) (generation : Option Nat)
    (start : RuleMemory tables) :
    Leads (· = start) (dpPublishRules faults flows routes generation)
      fun _ memory => memory.flags = start.flags ∧
        memory.rulesConfigured = start.rulesConfigured ∧ memory.rulesQsbr = start.rulesQsbr := by
  intro memory value after same run
  have kept := dpPublishRules_keeps stores faults flows routes generation memory value after run
  rw [same] at kept
  have flags := congrArg RuleMemory.flags kept
  have configured := congrArg RuleMemory.rulesConfigured kept
  have qsbr := congrArg RuleMemory.rulesQsbr kept
  exact ⟨flags, configured, qsbr⟩

/-- A configuration changes no flag, and configured rules stay as they are. -/
def RuleMemory.ConfiguredFrom (start memory : RuleMemory tables) : Prop :=
  memory.flags = start.flags ∧ memory.Registered ∧
    (start.initialized = false ∨ start.rulesConfigured = true → memory = start)

/-- Past the guards the rules are not configured, and the registry comes first. -/
def RuleMemory.Awaiting (start outline : RuleMemory tables) : Prop :=
  (outline.flags = start.flags ∧ outline.rulesConfigured = false) ∧ outline.rulesQsbr.isSome

/-- Behind its own rules a configuration leaves a registry. -/
theorem dpConfigureRules_leads (stores : views.Stores) (qsbrFault : Option QsbrFault)
    (faults : SnapshotFaults) (flows : RuleArray DpFlowRule) (routes : RuleArray DpRouteRule)
    (start : RuleMemory tables) (registered : start.Registered) :
    Leads (· = start) (dpConfigureRules qsbrFault faults flows routes)
      fun _ memory => start.ConfiguredFrom memory := by
  have unchanged (status : Int) :
      Leads (· = start) (pure status : Call tables Int) fun _ memory => start.ConfiguredFrom memory :=
    Leads.pure status fun memory same => by
      rw [same]
      exact ⟨rfl, registered, fun _ => rfl⟩
  have found : Leads (· = start) get fun value memory => value = start ∧ memory = start :=
    Leads.read fun memory same => ⟨same, same⟩
  refine found.bind fun value => Leads.assume fun same => ?_
  rw [same]
  refine Leads.ite (fun _ => unchanged _) fun initialized => Leads.ite (fun _ => unchanged _)
    fun idle => ?_
  have opened : ¬ (start.initialized = false ∨ start.rulesConfigured = true) := by
    simp_all
  have fresh : start.rulesConfigured = false := by simp_all
  have early (memory : RuleMemory tables)
      (outline : memory.flags = start.flags ∧ memory.rulesConfigured = false) :
      start.ConfiguredFrom memory :=
    ⟨outline.1, fun set => absurd (outline.2.symm.trans set) (by decide),
      fun closed => absurd closed opened⟩
  have created := (dpQsbrCreate_leads qsbrFault start.outline).narrow
    fun memory (same : memory = start) => congrArg RuleMemory.outline same
  refine created.bind fun status => Leads.ite (fun _ => Leads.pure _ fun memory result => ?_)
    fun accepted => ?_
  · have flags := congrArg RuleMemory.flags result.1
    exact early memory ⟨flags, (congrArg RuleMemory.rulesConfigured result.1).trans fresh⟩
  have built := ((dpSnapshotBuild_keeps stores faults flows routes 1).leads start.Awaiting).narrow
    fun memory (result : memory.outline = { start.outline with rulesQsbr := memory.rulesQsbr } ∧
        (0 ≤ status → memory.rulesQsbr.isSome)) => by
      have flags := congrArg RuleMemory.flags result.1
      exact ⟨⟨flags, (congrArg RuleMemory.rulesConfigured result.1).trans fresh⟩,
        result.2 (not_lt.mp accepted)⟩
  refine built.bind fun outcome => Leads.ite (fun _ => ?_) fun _ => ?_
  · exact (countFailure_keeps.leads start.Awaiting).bind fun _ =>
      Leads.pure _ fun memory ready => early memory ready.1
  · refine Leads.bind (Leads.change fun memory ready => ?_) fun _ =>
      Leads.pure _ fun memory reached => reached
    exact ⟨ready.1.1, fun _ => ready.2, fun closed => absurd closed opened⟩

/-- The active rules are withdrawn, and their registry is still there. -/
def RuleMemory.Emptied (flags : Bool × Bool × Bool × Bool) (qsbr : Option Nat)
    (memory : RuleMemory tables) : Prop :=
  memory.flags = flags ∧ memory.activeRules = none ∧ memory.rulesQsbr = qsbr

/-- A teardown changes no flag and withdraws the rules with their registry. -/
theorem dpRulesTeardown_leads (flags : Bool × Bool × Bool × Bool) :
    Leads (fun memory : RuleMemory tables => memory.flags = flags) dpRulesTeardown
      fun _ memory => memory.flags = flags ∧ memory.activeRules = none ∧
        memory.rulesQsbr = none ∧ memory.rulesConfigured = false := by
  have found : Leads (fun memory : RuleMemory tables => memory.flags = flags) get
      fun value memory => memory.flags = flags ∧ memory.rulesQsbr = value.rulesQsbr :=
    Leads.read fun memory start => ⟨start, rfl⟩
  refine found.bind fun value => ?_
  have withdrawn : Leads
      (fun memory : RuleMemory tables => memory.flags = flags ∧
        memory.rulesQsbr = value.rulesQsbr)
      (modify fun memory => { memory with activeRules := none })
      fun _ => RuleMemory.Emptied flags value.rulesQsbr :=
    Leads.change fun memory start => ⟨start.1, rfl, start.2⟩
  refine withdrawn.bind fun _ => ?_
  refine ((dpSnapshotFree_keeps _ false true).leads
    (RuleMemory.Emptied flags value.rulesQsbr)).bind fun _ => ?_
  have finished : Leads
      (fun memory : RuleMemory tables => memory.flags = flags ∧ memory.activeRules = none ∧
        memory.rulesQsbr = none)
      (modify fun memory => { memory with rulesConfigured := false } : Call tables Unit)
      fun _ memory => memory.flags = flags ∧ memory.activeRules = none ∧
        memory.rulesQsbr = none ∧ memory.rulesConfigured = false :=
    Leads.change fun memory start => ⟨start.1, start.2.1, start.2.2, rfl⟩
  cases value.rulesQsbr with
  | none => exact finished.narrow fun memory start => start
  | some address =>
    refine ((free_keeps address).leads (RuleMemory.Emptied flags (some address))).bind
      fun _ => Leads.bind (Leads.change ?_) fun _ => finished
    exact fun memory start => ⟨start.1, start.2.1, rfl⟩

section Steady

/-- The flags are no part of what the memory keeps. -/
theorem Sound.flags (sound : Sound views memory) (initialized ready running ran : Bool) :
    Sound views { memory with initialized, ready, running, ran } := by
  obtain ⟨qsbr, active, kept⟩ := sound
  exact ⟨qsbr, active, kept.objects, kept.rulesQsbr, kept.activeRules, kept.configured,
    kept.selfContained, kept.orderly⟩

/-- What holds after every defined run holds after the run that exists. -/
theorem Sound.leads {program : Call tables A} {pre : RuleMemory tables → Prop}
    {post : A → RuleMemory tables → Prop} (leads : Leads pre program post) (start : pre memory)
    (runs : ∃ value after, program memory = some (value, after) ∧ Sound views after) :
    ∃ value after, program memory = some (value, after) ∧ Sound views after ∧ post value after := by
  obtain ⟨value, after, run, sound⟩ := runs
  exact ⟨value, after, run, sound, leads memory value after start run⟩

end Steady

end FlowRouter.Native.Memory
