import FlowRouter.Library.Census
import FlowRouter.Library.Transition
import FlowRouter.Native.Running

namespace FlowRouter.Native
open Census Transition

/-- The owner has not started these workers yet. -/
def RunPoint.Unstarted (worker : Nat) : RunPoint → Prop
  | .calling => True
  | .launching index _ => worker = 0 ∨ index ≤ worker
  | .flagging index _ => worker = 0 ∨ index < worker
  | .stopping launched _ | .mainFlagging launched | .mainCalling launched =>
      worker = 0 ∨ launched < worker
  | .mainRunning launched | .mainClearing launched _ | .joining _ launched _
  | .clearing _ launched _ _ => launched < worker
  | .finishing _ | .returned _ => False

/-- The owner has started these workers and has not seen their return. -/
def RunPoint.Pending (worker : Nat) : RunPoint → Prop
  | .launching index _ => 1 ≤ worker ∧ worker < index
  | .flagging index _ => 1 ≤ worker ∧ worker ≤ index
  | .stopping launched _ | .mainFlagging launched | .mainCalling launched
  | .mainClearing launched _ => 1 ≤ worker ∧ worker ≤ launched
  | .mainRunning launched => worker ≤ launched
  | .joining index launched _ => index ≤ worker ∧ worker ≤ launched
  | .clearing index launched _ _ => index < worker ∧ worker ≤ launched
  | .calling | .finishing _ | .returned _ => False

/-- The owner has set the flag of these workers and has not cleared it. -/
def RunPoint.Marked (worker : Nat) : RunPoint → Prop
  | .launching index _ | .flagging index _ => 1 ≤ worker ∧ worker < index
  | .stopping launched _ | .mainFlagging launched => 1 ≤ worker ∧ worker ≤ launched
  | .mainCalling launched | .mainRunning launched | .mainClearing launched _ => worker ≤ launched
  | .joining index launched _ | .clearing index launched _ _ => index ≤ worker ∧ worker ≤ launched
  | .calling | .finishing _ | .returned _ => False

/-- The lcores of the remote workers stand in the order of the launch loop. -/
def RunState.lcores (state : RunState) (count : Nat) : List Nat :=
  (List.range' 1 count).map state.lcoreId

def launchedLcores (events : List RunEvent) : List Nat :=
  events.filterMap fun event => match event with
    | .launch lcoreId => some lcoreId
    | _ => none

def waitedLcores (events : List RunEvent) : List Nat :=
  events.filterMap fun event => match event with
    | .wait lcoreId => some lcoreId
    | _ => none

/-- The launches and the waits follow the two loops. -/
def RunState.Follows (state : RunState) (launched waited : List Nat) : Prop :=
  match state.owner with
  | .calling => launched = [] ∧ waited = []
  | .launching index count =>
      index = count + 1 ∧ count ≤ state.workerCount - 1 ∧ launched = state.lcores count ∧
        waited = []
  | .flagging index count =>
      index = count + 1 ∧ index < state.workerCount ∧ launched = state.lcores index ∧ waited = []
  | .stopping count _ | .mainFlagging count | .mainCalling count | .mainRunning count
  | .mainClearing count _ =>
      count ≤ state.workerCount - 1 ∧ launched = state.lcores count ∧ waited = []
  | .joining index count _ =>
      1 ≤ index ∧ index ≤ count + 1 ∧ count ≤ state.workerCount - 1 ∧
        launched = state.lcores count ∧ waited = state.lcores (index - 1)
  | .clearing index count _ _ =>
      1 ≤ index ∧ index ≤ count ∧ count ≤ state.workerCount - 1 ∧
        launched = state.lcores count ∧ waited = state.lcores index
  | .finishing _ | .returned _ => waited = launched

/-- The first error tells whether a launch or one of the joined workers has failed. -/
def RunPoint.Blames (accepted launchFailed : Prop) (failed : Nat → Prop) : RunPoint → Prop
  | .calling => ¬ launchFailed
  | .launching _ _ | .flagging _ _ | .mainFlagging _ | .mainCalling _ | .mainRunning _ =>
      accepted ∧ ¬ launchFailed
  | .stopping _ firstError => accepted ∧ launchFailed ∧ firstError ≠ 0
  | .mainClearing _ ret => accepted ∧ ¬ launchFailed ∧ (ret < 0 ↔ failed 0)
  | .joining index _ firstError =>
      accepted ∧ (firstError ≠ 0 ↔ launchFailed ∨ ∃ worker < index, failed worker)
  | .clearing index _ firstError ret =>
      accepted ∧ (firstError ≠ 0 ↔ launchFailed ∨ ∃ worker < index, failed worker) ∧
        (ret < 0 ↔ failed index)
  | .finishing firstError => accepted ∧ (firstError ≠ 0 ↔ launchFailed ∨ ∃ worker, failed worker)
  | .returned status => status = 0 ↔ accepted ∧ ¬ launchFailed ∧ ∀ worker, ¬ failed worker

def RunPoint.runs : RunPoint → Bool
  | .calling | .returned _ => false
  | _ => true

def RunState.Accepted (state : RunState) : Prop := state.ready = true ∧ state.ran = false

/-- The bookkeeping of a run agrees with its trace. -/
structure RunState.Tracks (state start : RunState) (events : List RunEvent) : Prop where
  unstarted : ∀ worker, state.owner.Unstarted worker → state.workers worker = .absent
  settled : ∀ worker, ¬ state.owner.Pending worker → (state.workers worker).resting = true
  marked : ∀ worker, state.launched worker = true ↔ state.owner.Marked worker
  active : state.activeWorkers =
    census (state.workerCount + 1) fun worker => (state.workers worker).active
  reading : state.registeredReaders =
    census (state.workerCount + 1) fun worker => (state.workers worker).reading
  flagged : ∀ worker, state.readerRegistered worker = (state.workers worker).flagged
  follows : state.Follows (launchedLcores events) (waitedLcores events)
  distinct : (launchedLcores events).Nodup
  failed : ∀ worker, (state.workers worker).failed = true ↔ .workerFailure worker ∈ events
  blamed : state.owner.Blames start.Accepted (.launchFailure ∈ events) fun worker =>
    (state.workers worker).failed = true
  running : state.running = state.owner.runs
  guards : state.owner = .calling → (state.Accepted ↔ start.Accepted)
  setup : state.workerCount = start.workerCount ∧ state.lcoreId = start.lcoreId

section Bookkeeping
variable {start before after : RunState} {events : List RunEvent} {event : RunEvent}

theorem RunPoint.Unstarted.not_pending {point : RunPoint} {worker : Nat}
    (unstarted : point.Unstarted worker) : ¬ point.Pending worker := by
  cases point with
  | calling => exact id
  | _ =>
    simp only [RunPoint.Unstarted, RunPoint.Pending] at unstarted ⊢ <;> omega

/-- Only settled workers count for the first error. -/
theorem RunPoint.Blames.congr {point : RunPoint} {accepted launchFailed : Prop}
    {failed failed' : Nat → Prop} (blamed : point.Blames accepted launchFailed failed)
    (same : ∀ worker, ¬ point.Pending worker → (failed' worker ↔ failed worker)) :
    point.Blames accepted launchFailed failed' := by
  cases point with
  | mainClearing launched ret =>
    rw [Blames, same 0 (fun pending => absurd pending.1 (by decide))]
    exact blamed
  | joining index launched firstError =>
    have earlier : (∃ worker < index, failed' worker) ↔ ∃ worker < index, failed worker :=
      exists_congr fun worker => and_congr_right fun small =>
        same worker fun pending => Nat.not_le_of_lt small pending.1
    rw [Blames, earlier]
    exact blamed
  | clearing index launched firstError ret =>
    have earlier : (∃ worker < index, failed' worker) ↔ ∃ worker < index, failed worker :=
      exists_congr fun worker => and_congr_right fun small =>
        same worker fun pending => Nat.lt_asymm small pending.1
    rw [Blames, earlier, same index fun pending => Nat.lt_irrefl _ pending.1]
    exact blamed
  | finishing firstError =>
    rw [Blames, exists_congr fun worker => same worker id]
    exact blamed
  | returned status =>
    rw [Blames, forall_congr' fun worker => not_congr (same worker id)]
    exact blamed
  | _ => exact blamed

/-- The numbers of the pending workers are bounded. -/
theorem RunState.Tracks.below (tracks : before.Tracks start events) {worker : Nat}
    (pending : before.owner.Pending worker) : worker < before.workerCount + 1 := by
  have follows := tracks.follows
  rw [RunState.Follows] at follows
  cases point : before.owner with
  | calling | finishing firstError | returned status =>
    rw [point] at pending
    exact pending.elim
  | _ =>
    rw [point] at pending follows
    simp only [RunPoint.Pending] at pending
    simp only at follows
    omega

theorem launchedLcores_worker {worker : Nat}
    (own : event = .silent ∨ event = .workerFailure worker ∨ event = .burst worker) :
    launchedLcores (events ++ [event]) = launchedLcores events ∧
      waitedLcores (events ++ [event]) = waitedLcores events := by
  rw [launchedLcores, launchedLcores, waitedLcores, waitedLcores, List.filterMap_append,
    List.filterMap_append]
  rcases own with rfl | rfl | rfl
  all_goals exact ⟨List.append_nil _, List.append_nil _⟩

/-- A worker step keeps the bookkeeping. -/
theorem RunState.Tracks.worker (tracks : before.Tracks start events) {worker : Nat}
    (step : LoopStep before worker (before.workers worker) event after) :
    after.Tracks start (events ++ [event]) := by
  obtain ⟨busy, others, ⟨owner, running, launched⟩, ready, ran, count, lcoreId⟩ := step.frame
  have pending : before.owner.Pending worker := by
    by_contra settled
    exact absurd (busy.symm.trans (tracks.settled worker settled)) (by decide)
  have below : worker < before.workerCount + 1 := tracks.below pending
  obtain ⟨active, reading, flagged⟩ := step.counts
    (tracks.active ▸ toNat_le_census (fun other => (before.workers other).active) below)
    (tracks.reading ▸ toNat_le_census (fun other => (before.workers other).reading) below)
  obtain ⟨failed, own⟩ := step.reports
  obtain ⟨launches, waits⟩ := @launchedLcores_worker events _ _ own
  have elsewhere (other : Nat) (settled : ¬ before.owner.Pending other) :
      after.workers other = before.workers other :=
    (others other fun same => settled (same ▸ pending)).1
  refine
    { unstarted := fun other unstarted => ?_
      settled := fun other settled => ?_
      marked := fun other => ?_
      active := ?_
      reading := ?_
      flagged := fun other => ?_
      follows := ?_
      distinct := ?_
      failed := fun other => ?_
      blamed := ?_
      running := ?_
      guards := fun calling => ?_
      setup := ?_ }
  · rw [owner] at unstarted
    rw [elsewhere other unstarted.not_pending]
    exact tracks.unstarted other unstarted
  · rw [owner] at settled
    rw [elsewhere other settled]
    exact tracks.settled other settled
  · rw [launched, owner]
    exact tracks.marked other
  · have moved : census _ (fun other => (after.workers other).active) + _ = census _ _ + _ :=
      census_move below fun other differs => by rw [(others other differs).1]
    rw [← tracks.active] at moved
    rw [count]
    omega
  · have moved : census _ (fun other => (after.workers other).reading) + _ = census _ _ + _ :=
      census_move below fun other differs => by rw [(others other differs).1]
    rw [← tracks.reading] at moved
    rw [count]
    omega
  · by_cases same : other = worker
    · rw [same]
      exact flagged (tracks.flagged worker)
    · rw [(others other same).1, (others other same).2]
      exact tracks.flagged other
  · simp only [RunState.Follows, RunState.lcores, owner, count, lcoreId, launches, waits]
    exact tracks.follows
  · rw [launches]
    exact tracks.distinct
  · rw [List.mem_append, List.mem_singleton, ← tracks.failed other]
    by_cases same : other = worker
    · rw [same, @eq_comm _ (RunEvent.workerFailure worker)]
      exact failed
    · rw [(others other same).1]
      refine (or_iff_left_of_imp fun reported => absurd reported ?_).symm
      rcases own with rfl | rfl | rfl
      · exact fun impossible => by cases impossible
      · exact fun shared => same (RunEvent.workerFailure.inj shared)
      · exact fun impossible => by cases impossible
  · have quiet : (.launchFailure ∈ events ++ [event]) ↔ .launchFailure ∈ events := by
      rw [List.mem_append, List.mem_singleton]
      refine or_iff_left fun impossible => ?_
      rcases own with rfl | rfl | rfl
      all_goals cases impossible
    rw [owner, quiet]
    exact tracks.blamed.congr fun other settled => by rw [elsewhere other settled]
  · rw [running, owner]
    exact tracks.running
  · rw [Accepted, ready, ran]
    exact tracks.guards (owner ▸ calling)
  · rw [count, lcoreId]
    exact tracks.setup

/-- The owner moves on and starts at most some absent workers. -/
theorem RunState.Tracks.advance (tracks : before.Tracks start events)
    (started : ∀ worker, after.workers worker = before.workers worker ∨
      before.workers worker = .absent ∧ after.workers worker = .entering)
    (kept : after.activeWorkers = before.activeWorkers ∧
      after.registeredReaders = before.registeredReaders ∧
      after.readerRegistered = before.readerRegistered ∧
      after.workerCount = before.workerCount ∧ after.lcoreId = before.lcoreId)
    (silent : ∀ worker, event ≠ .workerFailure worker)
    (unstarted : ∀ worker, after.owner.Unstarted worker → after.workers worker = .absent)
    (settled : ∀ worker, ¬ after.owner.Pending worker → (after.workers worker).resting = true)
    (marked : ∀ worker, after.launched worker = true ↔ after.owner.Marked worker)
    (follows : after.Follows (launchedLcores (events ++ [event]))
      (waitedLcores (events ++ [event])))
    (distinct : (launchedLcores (events ++ [event])).Nodup)
    (blamed : after.owner.Blames start.Accepted (.launchFailure ∈ events ++ [event])
      fun worker => (before.workers worker).failed = true)
    (running : after.running = after.owner.runs) (called : after.owner ≠ .calling) :
    after.Tracks start (events ++ [event]) := by
  obtain ⟨active, reading, flags, count, lcoreId⟩ := kept
  have still {Value : Type} (view : LoopPoint → Value) (idle : view .entering = view .absent) :
      (fun worker => view (after.workers worker)) =
        fun worker => view (before.workers worker) := by
    funext worker
    rcases started worker with same | ⟨absent, entering⟩
    · rw [same]
    · rw [absent, entering, idle]
  have failed := congrFun (still LoopPoint.failed rfl)
  exact
    { unstarted := unstarted
      settled := settled
      marked := marked
      active := by
        rw [active, count, still LoopPoint.active rfl]
        exact tracks.active
      reading := by
        rw [reading, count, still LoopPoint.reading rfl]
        exact tracks.reading
      flagged := fun worker => by
        rw [flags, congrFun (still LoopPoint.flagged rfl) worker]
        exact tracks.flagged worker
      follows := follows
      distinct := distinct
      failed := fun worker => by
        rw [failed worker, tracks.failed worker, List.mem_append, List.mem_singleton]
        exact (or_iff_left (silent worker).symm).symm
      blamed := by
        simp only [failed]
        exact blamed
      running := running
      guards := fun calling => absurd calling called
      setup := by
        rw [count, lcoreId]
        exact tracks.setup }

theorem events_silent (events : List RunEvent) :
    launchedLcores (events ++ [.silent]) = launchedLcores events ∧
      waitedLcores (events ++ [.silent]) = waitedLcores events ∧
      (.launchFailure ∈ events ++ [.silent] ↔ .launchFailure ∈ events) := by
  obtain ⟨launches, waits⟩ := @launchedLcores_worker events .silent 0 (Or.inl rfl)
  refine ⟨launches, waits, ?_⟩
  rw [List.mem_append, List.mem_singleton]
  exact or_iff_left fun impossible => by cases impossible

/-- A silent move of the owner leaves the trace as it was. -/
theorem RunState.Tracks.pass (tracks : before.Tracks start events)
    (kept : after.activeWorkers = before.activeWorkers ∧
      after.registeredReaders = before.registeredReaders ∧
      after.readerRegistered = before.readerRegistered ∧
      after.workerCount = before.workerCount ∧ after.lcoreId = before.lcoreId)
    (started : ∀ worker, after.workers worker = before.workers worker ∨
      before.workers worker = .absent ∧ after.workers worker = .entering)
    (unstarted : ∀ worker, after.owner.Unstarted worker → after.workers worker = .absent)
    (settled : ∀ worker, ¬ after.owner.Pending worker → (after.workers worker).resting = true)
    (marked : ∀ worker, after.launched worker = true ↔ after.owner.Marked worker)
    (follows : after.Follows (launchedLcores events) (waitedLcores events))
    (blamed : after.owner.Blames start.Accepted (.launchFailure ∈ events)
      fun worker => (before.workers worker).failed = true)
    (running : after.running = after.owner.runs) (called : after.owner ≠ .calling) :
    after.Tracks start (events ++ [.silent]) := by
  obtain ⟨launches, waits, failure⟩ := events_silent events
  refine tracks.advance started kept (fun _ impossible => by cases impossible) unstarted settled
    marked ?_ ?_ ?_ running called
  · rw [launches, waits]
    exact follows
  · rw [launches]
    exact tracks.distinct
  · rw [failure]
    exact blamed

theorem RunState.lcores_succ (state : RunState) (count : Nat) :
    state.lcores (count + 1) = state.lcores count ++ [state.lcoreId (count + 1)] := by
  rw [lcores, List.range'_concat, List.map_append, Nat.one_mul, Nat.add_comm 1 count]
  rfl

/-- The lcores of the remote workers differ. -/
theorem RunState.lcores_nodup {state : RunState}
    (apart : Set.InjOn state.lcoreId {worker | worker < state.workerCount}) {count : Nat}
    (small : count ≤ state.workerCount - 1) : (state.lcores count).Nodup := by
  refine List.Nodup.map_on (fun first member second member' same => ?_) (List.nodup_range' _)
  rw [List.mem_range'_1] at member member'
  exact apart (show first < state.workerCount by omega) (show second < state.workerCount by omega)
    same

/-- The first error stays, and a later failure replaces success. -/
theorem firstError_ne_zero {firstError ret : Int} :
    (if ret < 0 ∧ firstError = 0 then ret else firstError) ≠ 0 ↔ firstError ≠ 0 ∨ ret < 0 := by
  by_cases first : ret < 0 ∧ firstError = 0
  · rw [if_pos first]
    omega
  · rw [if_neg first]
    omega

/-- The bookkeeping speaks about the point of the owner. -/
theorem RunState.Tracks.at (tracks : before.Tracks start events) {point : RunPoint}
    (here : before.owner = point) :
    (∀ worker, point.Unstarted worker → before.workers worker = .absent) ∧
      (∀ worker, ¬ point.Pending worker → (before.workers worker).resting = true) ∧
      (∀ worker, before.launched worker = true ↔ point.Marked worker) ∧
      point.Blames start.Accepted (.launchFailure ∈ events)
        (fun worker => (before.workers worker).failed = true) ∧
      before.running = point.runs := by
  rw [← here]
  exact ⟨tracks.unstarted, tracks.settled, tracks.marked, tracks.blamed, tracks.running⟩

/-- The guards keep the bookkeeping. -/
theorem RunState.Tracks.call (tracks : before.Tracks start events)
    (step : CallStep before before.owner event after) : after.Tracks start (events ++ [event]) := by
  obtain ⟨absent, settled, marked, blamed, running⟩ := tracks.at rfl
  have follows := tracks.follows
  have guards := tracks.guards
  generalize here : before.owner = point at step absent settled marked blamed running guards
  rw [RunState.Follows, here] at follows
  cases step with
  | notReady unready =>
    refine tracks.pass ⟨rfl, rfl, rfl, rfl, rfl⟩ (fun _ => Or.inl rfl) (fun _ => False.elim)
      (fun worker _ => settled worker id) marked ?_ ?_ running
      (fun impossible => by cases impossible)
    · exact follows.2.trans follows.1.symm
    · refine iff_of_false (by decide) fun fine => ?_
      exact absurd (unready.symm.trans ((guards rfl).mpr fine.1).1) (by decide)
  | alreadyRan ready ran =>
    refine tracks.pass ⟨rfl, rfl, rfl, rfl, rfl⟩ (fun _ => Or.inl rfl) (fun _ => False.elim)
      (fun worker _ => settled worker id) marked ?_ ?_ running
      (fun impossible => by cases impossible)
    · exact follows.2.trans follows.1.symm
    · refine iff_of_false (by decide) fun fine => ?_
      exact absurd (ran.symm.trans ((guards rfl).mpr fine.1).2) (by decide)
  | begin ready ran =>
    refine tracks.pass ⟨rfl, rfl, rfl, rfl, rfl⟩ (fun _ => Or.inl rfl)
      (fun worker _ => absent worker trivial) (fun worker _ => settled worker id)
      (fun worker => (marked worker).trans ?_) ?_ ⟨(guards rfl).mp ⟨ready, ran⟩, blamed⟩ rfl
      (fun impossible => by cases impossible)
    · refine iff_of_false id fun both => ?_
      exact absurd both.1 (Nat.not_le_of_lt both.2)
    · exact ⟨rfl, Nat.zero_le _, follows.1, follows.2⟩

/-- The launch loop keeps the bookkeeping. -/
theorem RunState.Tracks.launch (tracks : before.Tracks start events)
    (apart : Set.InjOn start.lcoreId {worker | worker < start.workerCount})
    (step : LaunchStep before before.owner event after) : after.Tracks start (events ++ [event]) := by
  obtain ⟨count, lcoreId⟩ := tracks.setup
  rw [← count, ← lcoreId] at apart
  obtain ⟨absent, settled, marked, blamed, running⟩ := tracks.at rfl
  have follows := tracks.follows
  generalize here : before.owner = point at step absent settled marked blamed running
  rw [RunState.Follows, here] at follows
  cases step with
  | @launch index launched more =>
    obtain ⟨rfl, small, remote, waited⟩ := follows
    have vacant := absent (launched + 1) (Or.inr (Nat.le_refl _))
    have extended : launchedLcores (events ++ [.launch (before.lcoreId (launched + 1))]) =
        before.lcores (launched + 1) := by
      rw [launchedLcores, List.filterMap_append, before.lcores_succ, ← remote]
      rfl
    refine tracks.advance (fun worker => ?_) ⟨rfl, rfl, rfl, rfl, rfl⟩
      (fun _ impossible => by cases impossible) (fun worker unstarted => ?_)
      (fun worker quiet => ?_) (fun worker => ?_) ?_ ?_ ?_ running
      (fun impossible => by cases impossible)
    · by_cases same : worker = launched + 1
      · rw [same]
        exact Or.inr ⟨vacant, before.moveWorker_self _ .entering⟩
      · exact Or.inl (before.moveWorker_other same)
    · change worker = 0 ∨ launched + 1 < worker at unstarted
      change (before.moveWorker (launched + 1) .entering).workers worker = .absent
      rw [before.moveWorker_other (by omega)]
      exact absent worker (by simp only [RunPoint.Unstarted]; omega)
    · change ¬ (1 ≤ worker ∧ worker ≤ launched + 1) at quiet
      change ((before.moveWorker (launched + 1) .entering).workers worker).resting = true
      rw [before.moveWorker_other (by omega)]
      exact settled worker (by simp only [RunPoint.Pending]; omega)
    · exact marked worker
    · refine ⟨rfl, more, extended, ?_⟩
      rw [waitedLcores, List.filterMap_append]
      exact (List.append_nil _).trans waited
    · rw [extended]
      exact before.lcores_nodup apart (by omega)
    · refine ⟨blamed.1, fun failure => ?_⟩
      rw [List.mem_append, List.mem_singleton] at failure
      exact failure.elim blamed.2 fun impossible => by cases impossible
  | @launchFailure index launched ret more refused =>
    obtain ⟨rfl, small, remote, waited⟩ := follows
    refine tracks.advance (fun _ => Or.inl rfl) ⟨rfl, rfl, rfl, rfl, rfl⟩
      (fun _ impossible => by cases impossible) (fun worker unstarted => absent worker ?_)
      (fun worker quiet => settled worker ?_) (fun worker => (marked worker).trans ?_) ?_ ?_ ?_
      running (fun impossible => by cases impossible)
    · exact unstarted
    · simp only [RunPoint.Pending] at quiet ⊢
      omega
    · simp only [RunPoint.Marked]
      omega
    · refine ⟨small, ?_, ?_⟩
      · rw [launchedLcores, List.filterMap_append]
        exact (List.append_nil _).trans remote
      · rw [waitedLcores, List.filterMap_append]
        exact (List.append_nil _).trans waited
    · rw [launchedLcores, List.filterMap_append]
      exact (List.append_nil (launchedLcores events)).symm ▸ tracks.distinct
    · refine ⟨blamed.1, List.mem_append_right _ (List.mem_singleton_self _), ?_⟩
      by_cases negative : ret < 0
      · rw [if_pos negative]
        exact refused
      · rw [if_neg negative]
        decide
  | launchedAll all =>
    refine tracks.pass ⟨rfl, rfl, rfl, rfl, rfl⟩ (fun _ => Or.inl rfl)
      (fun worker unstarted => absent worker ?_) (fun worker quiet => settled worker ?_)
      (fun worker => (marked worker).trans ?_) ?_ blamed running
      (fun impossible => by cases impossible)
    all_goals
      simp only [RunPoint.Unstarted, RunPoint.Pending, RunPoint.Marked] at *
    · omega
    · omega
    · omega
    · exact ⟨follows.2.1, follows.2.2.1, follows.2.2.2⟩
  | @flag index launched =>
    obtain ⟨rfl, small, remote, waited⟩ := follows
    refine tracks.pass ⟨rfl, rfl, rfl, rfl, rfl⟩ (fun _ => Or.inl rfl)
      (fun worker unstarted => absent worker ?_) (fun worker quiet => settled worker ?_)
      (fun worker => ?_) ⟨rfl, Nat.le_sub_one_of_lt small, remote, waited⟩ blamed running
      (fun impossible => by cases impossible)
    · simp only [RunPoint.Unstarted] at unstarted ⊢
      omega
    · simp only [RunPoint.Pending] at quiet ⊢
      omega
    · have earlier := marked worker
      simp only [RunPoint.Marked] at earlier ⊢
      by_cases same : worker = launched + 1
      · rw [same, Function.update_self]
        exact iff_of_true rfl (by omega)
      · rw [Function.update_of_ne same, earlier]
        omega
  | @stop launched firstError =>
    obtain ⟨small, remote, waited⟩ := follows
    refine tracks.pass ⟨rfl, rfl, rfl, rfl, rfl⟩ (fun _ => Or.inl rfl)
      (fun worker unstarted => absent worker ?_) settled marked
      ⟨Nat.le_refl _, Nat.le_add_left _ _, small, remote, waited⟩ ⟨blamed.1, ?_⟩ running
      (fun impossible => by cases impossible)
    · exact Or.inr unstarted
    · exact iff_of_true blamed.2.2 (Or.inl blamed.2.1)

/-- The call of worker zero keeps the bookkeeping. -/
theorem RunState.Tracks.main (tracks : before.Tracks start events)
    (step : MainStep before before.owner event after) : after.Tracks start (events ++ [event]) := by
  obtain ⟨absent, settled, marked, blamed, running⟩ := tracks.at rfl
  have follows := tracks.follows
  generalize here : before.owner = point at step absent settled marked blamed running
  rw [RunState.Follows, here] at follows
  cases step with
  | @mainFlag launched =>
    refine tracks.pass ⟨rfl, rfl, rfl, rfl, rfl⟩ (fun _ => Or.inl rfl) absent settled
      (fun worker => ?_) follows blamed running (fun impossible => by cases impossible)
    have earlier := marked worker
    simp only [RunPoint.Marked] at earlier ⊢
    by_cases same : worker = 0
    · rw [same, Function.update_self]
      exact iff_of_true rfl (Nat.zero_le _)
    · rw [Function.update_of_ne same, earlier]
      omega
  | @mainCall launched =>
    refine tracks.pass ⟨rfl, rfl, rfl, rfl, rfl⟩ (fun worker => ?_) (fun worker unstarted => ?_)
      (fun worker quiet => ?_) marked follows blamed running (fun impossible => by cases impossible)
    · by_cases same : worker = 0
      · rw [same]
        exact Or.inr ⟨absent 0 (Or.inl rfl), before.moveWorker_self 0 .entering⟩
      · exact Or.inl (before.moveWorker_other same)
    · change launched < worker at unstarted
      change (before.moveWorker 0 .entering).workers worker = .absent
      rw [before.moveWorker_other (by omega)]
      exact absent worker (Or.inr unstarted)
    · change ¬ worker ≤ launched at quiet
      change ((before.moveWorker 0 .entering).workers worker).resting = true
      rw [before.moveWorker_other (by omega)]
      exact settled worker fun pending => quiet pending.2
  | @mainReturn launched ret done =>
    refine tracks.pass ⟨rfl, rfl, rfl, rfl, rfl⟩ (fun _ => Or.inl rfl) absent
      (fun worker quiet => ?_) marked follows ⟨blamed.1, blamed.2, ?_⟩ running
      (fun impossible => by cases impossible)
    · by_cases same : worker = 0
      · rw [same]
        exact (congrArg LoopPoint.resting done).trans rfl
      · refine settled worker fun pending => quiet ?_
        simp only [RunPoint.Pending] at pending ⊢
        omega
    · change ret < 0 ↔ (before.workers 0).failed = true
      rw [done, LoopPoint.failed, decide_eq_true_iff]
  | @mainClear launched ret =>
    obtain ⟨small, remote, waited⟩ := follows
    refine tracks.pass ⟨rfl, rfl, rfl, rfl, rfl⟩ (fun _ => Or.inl rfl) absent settled
      (fun worker => ?_) ⟨Nat.le_refl _, Nat.le_add_left _ _, small, remote, waited⟩
      ⟨blamed.1, ?_⟩ running (fun impossible => by cases impossible)
    · have earlier := marked worker
      simp only [RunPoint.Marked] at earlier ⊢
      by_cases same : worker = 0
      · rw [same, Function.update_self]
        exact iff_of_false (by decide) (by omega)
      · rw [Function.update_of_ne same, earlier]
        omega
    · obtain ⟨-, launched, failed⟩ := blamed
      rw [or_iff_right launched]
      have first : (∃ worker < 1, (before.workers worker).failed = true) ↔
          (before.workers 0).failed = true := by
        simp only [Nat.lt_one_iff, exists_eq_left]
      rw [first, ← show ret < 0 ↔ (before.workers 0).failed = true from failed]
      by_cases negative : ret < 0
      · rw [if_pos negative]
        exact iff_of_true (by omega) negative
      · rw [if_neg negative]
        exact iff_of_false (by decide) negative

/-- The join loop keeps the bookkeeping. -/
theorem RunState.Tracks.join (tracks : before.Tracks start events)
    (step : JoinStep before before.owner event after) : after.Tracks start (events ++ [event]) := by
  obtain ⟨absent, settled, marked, blamed, running⟩ := tracks.at rfl
  have follows := tracks.follows
  generalize here : before.owner = point at step absent settled marked blamed running
  rw [RunState.Follows, here] at follows
  cases step with
  | @wait index launched firstError ret more done =>
    obtain ⟨least, most, small, remote, waited⟩ := follows
    have unlaunched : launchedLcores (events ++ [.wait (before.lcoreId index)]) =
        launchedLcores events := by
      rw [launchedLcores, List.filterMap_append]
      exact List.append_nil _
    refine tracks.advance (fun _ => Or.inl rfl) ⟨rfl, rfl, rfl, rfl, rfl⟩
      (fun _ impossible => by cases impossible) absent (fun worker quiet => ?_) marked ?_ ?_ ?_
      running (fun impossible => by cases impossible)
    · by_cases same : worker = index
      · rw [same]
        exact (congrArg LoopPoint.resting done).trans rfl
      · refine settled worker fun pending => quiet ?_
        simp only [RunPoint.Pending] at pending ⊢
        omega
    · refine ⟨least, more, small, unlaunched.trans remote, ?_⟩
      obtain ⟨earlier, rfl⟩ := Nat.exists_eq_add_of_le' least
      rw [waitedLcores, List.filterMap_append]
      exact (congrArg (· ++ [before.lcoreId (earlier + 1)]) waited).trans
        (before.lcores_succ earlier).symm
    · rw [unlaunched]
      exact tracks.distinct
    · rw [List.mem_append, List.mem_singleton]
      rw [or_iff_left (fun impossible => by cases impossible)]
      refine ⟨blamed.1, blamed.2, ?_⟩
      change ret < 0 ↔ (before.workers index).failed = true
      rw [done, LoopPoint.failed, decide_eq_true_iff]
  | @clear index launched firstError ret =>
    obtain ⟨least, most, small, remote, waited⟩ := follows
    refine tracks.pass ⟨rfl, rfl, rfl, rfl, rfl⟩ (fun _ => Or.inl rfl) absent settled
      (fun worker => ?_) ⟨Nat.le_add_left _ _, by omega, small, remote, waited⟩
      ⟨blamed.1, ?_⟩ running (fun impossible => by cases impossible)
    · have earlier := marked worker
      simp only [RunPoint.Marked] at earlier ⊢
      by_cases same : worker = index
      · rw [same, Function.update_self]
        exact iff_of_false (by decide) (by omega)
      · rw [Function.update_of_ne same, earlier]
        omega
    · obtain ⟨-, errors, failed⟩ := blamed
      rw [firstError_ne_zero, errors, Nat.exists_lt_succ_right, or_assoc, failed]
  | @joinedAll index launched firstError all =>
    obtain ⟨least, most, small, remote, waited⟩ := follows
    obtain rfl : index = launched + 1 := by omega
    refine tracks.pass ⟨rfl, rfl, rfl, rfl, rfl⟩ (fun _ => Or.inl rfl) (fun _ => False.elim)
      (fun worker _ => settled worker ?_) (fun worker => (marked worker).trans ?_)
      (waited.trans remote.symm) ⟨blamed.1, blamed.2.trans ?_⟩ running
      (fun impossible => by cases impossible)
    · simp only [RunPoint.Pending]
      omega
    · refine iff_of_false (fun both => ?_) id
      exact absurd both.1 (Nat.not_le_of_lt (Nat.lt_succ_of_le both.2))
    · refine or_congr_right (exists_congr fun worker => and_iff_right_of_imp fun failed => ?_)
      refine Nat.lt_of_not_le fun late => ?_
      change (before.workers worker).failed = true at failed
      rw [absent worker late] at failed
      cases failed
  | @finish firstError =>
    refine tracks.pass ⟨rfl, rfl, rfl, rfl, rfl⟩ (fun _ => Or.inl rfl) absent settled marked
      follows ?_ rfl (fun impossible => by cases impossible)
    obtain ⟨accepted, errors⟩ := blamed
    rw [RunPoint.Blames, and_iff_right accepted, ← not_iff_not, not_and_or, not_not,
      not_forall_not]
    exact errors

/-- A stop request changes no bookkeeping. -/
theorem RunState.Tracks.requestStop (tracks : before.Tracks start events) :
    { before with stop := true }.Tracks start (events ++ [RunEvent.silent]) := by
  obtain ⟨launches, waits, failure⟩ := events_silent events
  refine
    { tracks with
      follows := ?_
      distinct := ?_
      failed := fun worker => ?_
      blamed := ?_ }
  · rw [launches, waits]
    exact tracks.follows
  · rw [launches]
    exact tracks.distinct
  · rw [List.mem_append, List.mem_singleton, or_iff_left fun impossible => by cases impossible]
    exact tracks.failed worker
  · rw [failure]
    exact tracks.blamed

theorem RunSystemStep.tracks (tracked : before.Tracks start events)
    (apart : Set.InjOn start.lcoreId {worker | worker < start.workerCount})
    (step : RunSystemStep before event after) : after.Tracks start (events ++ [event]) := by
  cases step with
  | worker worker step => exact tracked.worker step
  | owner step =>
    cases step with
    | call step => exact tracked.call step
    | launch step => exact tracked.launch apart step
    | main step => exact tracked.main step
    | join step => exact tracked.join step
  | requestStop => exact tracked.requestStop

/-- The workers are set up, each on its own lcore, and none of them has been started. -/
structure RunState.Idle (state : RunState) : Prop where
  owner : state.owner = .calling
  running : state.running = false
  active : state.activeWorkers = 0
  reading : state.registeredReaders = 0
  launched : ∀ worker, state.launched worker = false
  flagged : ∀ worker, state.readerRegistered worker = false
  absent : ∀ worker, state.workers worker = .absent
  apart : Set.InjOn state.lcoreId {worker | worker < state.workerCount}

theorem RunState.Idle.tracks (idle : start.Idle) : start.Tracks start [] where
  unstarted worker _ := idle.absent worker
  settled worker _ := by
    rw [idle.absent worker]
    rfl
  marked worker := by
    rw [idle.launched worker, idle.owner]
    exact iff_of_false (by decide) id
  active := by
    rw [idle.active, census_vacant fun worker => by rw [idle.absent worker]; rfl]
  reading := by
    rw [idle.reading, census_vacant fun worker => by rw [idle.absent worker]; rfl]
  flagged worker := by
    rw [idle.flagged worker, idle.absent worker]
    rfl
  follows := by
    rw [Follows, idle.owner]
    exact ⟨rfl, rfl⟩
  distinct := List.nodup_nil
  failed worker := by
    rw [idle.absent worker]
    exact iff_of_false (by decide) (List.not_mem_nil)
  blamed := by
    rw [idle.owner]
    exact List.not_mem_nil
  running := by
    rw [idle.running, idle.owner]
    rfl
  guards _ := Iff.rfl
  setup := ⟨rfl, rfl⟩

/-- Every path of a run keeps the bookkeeping. -/
theorem RunState.Idle.tracks_path (idle : start.Idle) {history : List (RunState × RunEvent)}
    {finish : RunState} (path : Trail RunSystemStep start history finish) :
    finish.Tracks start (history.map Prod.snd) := by
  induction path with
  | refl => exact idle.tracks
  | snoc earlier last ih =>
    rw [List.map_append]
    exact last.tracks ih idle.apart

end Bookkeeping

section Stopping
variable {start before after finish : RunState} {event : RunEvent}
  {history : List (RunState × RunEvent)}

/-- No step clears the stop flag. -/
theorem RunSystemStep.stop (step : RunSystemStep before event after)
    (stopped : before.stop = true) : after.stop = true := by
  cases step with
  | worker worker step =>
    generalize before.workers worker = point at step
    cases step
    case stop => rfl
    all_goals exact stopped
  | owner step =>
    generalize before.owner = point at step
    cases step with
    | call step => cases step <;> exact stopped
    | launch step =>
      cases step
      case stop => rfl
      all_goals exact stopped
    | main step => cases step <;> exact stopped
    | join step => cases step <;> exact stopped
  | requestStop => rfl

/-- A burst begins at its own point, and a worker comes to that point past the stop test only. -/
theorem RunSystemStep.polls (step : RunSystemStep before event after) (worker : Nat) :
    (event = .burst worker → before.workers worker = .polling ∧
      after.workers worker ≠ .polling) ∧
    (after.workers worker = .polling →
      before.workers worker = .polling ∨ before.stop = false) := by
  cases step with
  | worker mover step =>
    by_cases same : worker = mover
    · rw [same]
      generalize here : before.workers mover = point at step
      cases step
      all_goals simp_all [RunState.moveWorker]
    · rw [(step.frame.others worker same).1]
      refine ⟨fun burst => ?_, Or.inl⟩
      rcases step.reports.2 with silent | failure | own
      · rw [silent] at burst
        cases burst
      · rw [failure] at burst
        cases burst
      · rw [own] at burst
        exact absurd (RunEvent.burst.inj burst).symm same
  | owner step =>
    have moved (mover : Nat) (entered : (before.moveWorker mover .entering).workers worker =
        .polling) : before.workers worker = .polling := by
      by_cases same : worker = mover
      · rw [same, before.moveWorker_self] at entered
        cases entered
      · exact (before.moveWorker_other same).symm.trans entered
    generalize before.owner = point at step
    cases step with
    | call step =>
      cases step <;> exact ⟨fun impossible => (by cases impossible), Or.inl⟩
    | launch step =>
      cases step
      case launch =>
        exact ⟨fun impossible => (by cases impossible), fun entered => Or.inl (moved _ entered)⟩
      all_goals exact ⟨fun impossible => (by cases impossible), Or.inl⟩
    | main step =>
      cases step
      case mainCall =>
        exact ⟨fun impossible => (by cases impossible), fun entered => Or.inl (moved _ entered)⟩
      all_goals exact ⟨fun impossible => (by cases impossible), Or.inl⟩
    | join step =>
      cases step <;> exact ⟨fun impossible => (by cases impossible), Or.inl⟩
  | requestStop => exact ⟨fun impossible => (by cases impossible), Or.inl⟩

/-- A late burst begins when the stop flag is set. -/
def lateBursts (worker : Nat) (history : List (RunState × RunEvent)) : Nat :=
  history.countP fun visit => visit.1.stop && visit.2 == .burst worker

/-- A worker with a late burst has left the loop or is about to. -/
structure RunState.Obeys (state : RunState) (worker : Nat)
    (history : List (RunState × RunEvent)) : Prop where
  once : lateBursts worker history ≤ 1
  polling : state.workers worker = .polling → lateBursts worker history = 0
  stopped : 0 < lateBursts worker history → state.stop = true

theorem RunState.Obeys.step {worker : Nat} (obeys : before.Obeys worker history)
    (step : RunSystemStep before event after) :
    after.Obeys worker (history ++ [(before, event)]) := by
  obtain ⟨bursts, polls⟩ := step.polls worker
  have counted : lateBursts worker (history ++ [(before, event)]) = lateBursts worker history +
      (before.stop && event == .burst worker).toNat := by
    rw [lateBursts, List.countP_append, List.countP_singleton]
    cases before.stop && event == .burst worker <;> rfl
  have onTime (running : before.stop = false) : lateBursts worker history = 0 :=
    Nat.eq_zero_of_not_pos fun late => absurd (running.symm.trans (obeys.stopped late)) (by decide)
  by_cases late : before.stop = true ∧ event = .burst worker
  · have one : (before.stop && event == .burst worker) = true := by simp [late]
    have none := obeys.polling (bursts late.2).1
    rw [one, none] at counted
    exact ⟨Nat.le_of_eq counted, fun polling => absurd polling (bursts late.2).2,
      fun _ => step.stop late.1⟩
  · have same : (before.stop && event == .burst worker) = false := by
      simpa using late
    rw [same] at counted
    refine ⟨counted ▸ obeys.once, fun polling => ?_, fun late => ?_⟩
    · rw [counted]
      rcases polls polling with polling | running
      · exact obeys.polling polling
      · exact onTime running
    · rw [counted] at late
      exact step.stop (obeys.stopped late)

theorem RunState.Idle.obeys (idle : start.Idle) (worker : Nat)
    (path : Trail RunSystemStep start history finish) : finish.Obeys worker history := by
  induction path with
  | refl =>
    refine ⟨Nat.zero_le _, fun polling => ?_, fun late => absurd late (Nat.lt_irrefl 0)⟩
    rw [idle.absent worker] at polling
    cases polling
  | snoc earlier last ih => exact ih.step last

/-- A stop before the run lets no burst begin. -/
theorem RunState.Idle.silent (idle : start.Idle) (stopped : start.stop = true) (worker : Nat)
    (path : Trail RunSystemStep start history finish) :
    finish.stop = true ∧ finish.workers worker ≠ .polling ∧
      .burst worker ∉ history.map Prod.snd := by
  induction path with
  | refl =>
    refine ⟨stopped, fun polling => ?_, List.not_mem_nil⟩
    rw [idle.absent worker] at polling
    cases polling
  | snoc earlier last ih =>
    obtain ⟨set, elsewhere, none⟩ := ih
    obtain ⟨bursts, polls⟩ := last.polls worker
    refine ⟨last.stop set, fun polling => ?_, fun burst => ?_⟩
    · rcases polls polling with polling | running
      · exact elsewhere polling
      · exact absurd (running.symm.trans set) (by decide)
    · rw [List.map_append, List.mem_append] at burst
      rcases burst with burst | burst
      · exact none burst
      · exact elsewhere (bursts (List.mem_singleton.mp burst).symm).1

theorem stop_kept (path : Trail RunSystemStep start history finish) :
    ∀ visit ∈ history, visit.1.stop = true → finish.stop = true := by
  induction path with
  | refl => exact fun _ impossible => (List.not_mem_nil impossible).elim
  | snoc earlier last ih =>
    intro visit member stopped
    rcases List.mem_append.mp member with before | now
    · exact last.stop (ih visit before stopped)
    · rw [List.mem_singleton.mp now] at stopped
      exact last.stop stopped

end Stopping

def RunState.dpWorkersStopped (state : RunState) : Bool :=
  if state.activeWorkers ≠ 0 ∨ state.registeredReaders ≠ 0 then false
  else (List.range state.workerCount).all fun index =>
    !(state.launched index || state.readerRegistered index)

/-- The run has joined everything that it has launched. -/
structure RunState.Joined (state : RunState) (events : List RunEvent) : Prop where
  running : state.running = false
  active : state.activeWorkers = 0
  reading : state.registeredReaders = 0
  launched : ∀ worker, state.launched worker = false
  flagged : ∀ worker, state.readerRegistered worker = false
  waited : waitedLcores events = launchedLcores events
  once : (launchedLcores events).Nodup
  stopped : state.dpWorkersStopped = true

theorem RunState.Tracks.joined {start state : RunState} {events : List RunEvent} {status : Int}
    (tracks : state.Tracks start events) (returned : state.owner = .returned status) :
    state.Joined events := by
  have follows := tracks.follows
  rw [RunState.Follows, returned] at follows
  have resting (worker : Nat) : (state.workers worker).resting = true :=
    tracks.settled worker (by rw [returned]; exact id)
  have outside (worker : Nat) : (state.workers worker).active = false ∧
      (state.workers worker).reading = false ∧ (state.workers worker).flagged = false := by
    have rests := resting worker
    cases point : state.workers worker <;> rw [point] at rests
    case absent | returned => exact ⟨rfl, rfl, rfl⟩
    all_goals cases rests
  have active : state.activeWorkers = 0 := by
    rw [tracks.active, census_vacant fun worker => (outside worker).1]
  have reading : state.registeredReaders = 0 := by
    rw [tracks.reading, census_vacant fun worker => (outside worker).2.1]
  have launched (worker : Nat) : state.launched worker = false := by
    refine Bool.eq_false_iff.mpr fun marked => ?_
    have impossible := (tracks.marked worker).mp marked
    rw [returned] at impossible
    exact impossible
  have flagged (worker : Nat) : state.readerRegistered worker = false := by
    rw [tracks.flagged worker, (outside worker).2.2]
  refine ⟨?_, active, reading, launched, flagged, follows, tracks.distinct, ?_⟩
  · rw [tracks.running, returned]
    rfl
  · rw [dpWorkersStopped, if_neg (by omega), List.all_eq_true]
    intro index _
    rw [launched index, flagged index]
    rfl

/-- A run joins what it started in every order of the steps, reports the failures and lets no
worker go on after a stop. -/
theorem dpDataplaneRun_joins {start finish : RunState} {history : List (RunState × RunEvent)}
    (idle : start.Idle) (path : Trail RunSystemStep start history finish) :
    (∀ status, finish.owner = .returned status →
      finish.Joined (history.map Prod.snd) ∧
      (status = 0 ↔ start.ready = true ∧ start.ran = false ∧
        .launchFailure ∉ history.map Prod.snd ∧
        ∀ worker, .workerFailure worker ∉ history.map Prod.snd)) ∧
    (∀ visit ∈ history, visit.1.stop = true → finish.stop = true) ∧
    ∀ worker, lateBursts worker history ≤ 1 ∧
      (start.stop = true → .burst worker ∉ history.map Prod.snd) := by
  have tracks := idle.tracks_path path
  refine ⟨fun status returned => ⟨tracks.joined returned, ?_⟩, stop_kept path,
    fun worker => ⟨(idle.obeys worker path).once, fun stopped => ?_⟩⟩
  · have blamed := tracks.blamed
    rw [returned] at blamed
    refine blamed.trans ?_
    rw [RunState.Accepted, and_assoc, forall_congr' fun worker => not_congr (tracks.failed worker)]
  · exact (idle.silent stopped worker path).2.2

/-- Three workers are ready on three lcores. -/
def RunState.threeWorkers : RunState where
  ready := true
  running := false
  ran := false
  stop := false
  activeWorkers := 0
  registeredReaders := 0
  workerCount := 3
  lcoreId := id
  launched _ := false
  readerRegistered _ := false
  result _ := 0
  workers _ := .absent
  owner := .calling

theorem RunState.threeWorkers_idle : RunState.threeWorkers.Idle :=
  ⟨rfl, rfl, rfl, rfl, fun _ => rfl, fun _ => rfl, fun _ => rfl, Set.injOn_id _⟩

/-- The launch of the last worker fails while the other remote worker is on its way. -/
theorem dpDataplaneRun_joins_threeWorkers :
    ∃ (history : List (RunState × RunEvent)) (finish : RunState),
      finish.owner = .returned (-eio) ∧ finish.Joined (history.map Prod.snd) ∧
        history.map Prod.snd =
          [.silent, .launch 1, .silent, .launchFailure, .silent, .silent, .workerFailure 1,
            .silent, .silent, .silent, .wait 1, .silent, .silent, .silent] := by
  have begun : Trail RunSystemStep .threeWorkers _ _ :=
    Trail.refl.snoc (.owner (.call (.begin rfl rfl)))
  have launched := begun.snoc (.owner (.launch (.launch (by decide))))
  have flagged := launched.snoc (.owner (.launch .flag))
  have refused := flagged.snoc 
    (.owner (.launch (.launchFailure (by decide) (show -eio ≠ 0 by decide))))
  have stopping := refused.snoc (.owner (.launch .stop))
  have entered := stopping.snoc (.worker 1 .enter)
  have failed := entered.snoc (.worker 1 .injectedFailure)
  have recorded := failed.snoc (.worker 1 .record)
  have stopped := recorded.snoc (.worker 1 .stop)
  have left := stopped.snoc (.worker 1 .leave)
  have waited := left.snoc (.owner (.join (.wait (Nat.le_refl 1) rfl)))
  have cleared := waited.snoc (.owner (.join .clear))
  have joined := cleared.snoc (.owner (.join (.joinedAll (by decide))))
  have finished := joined.snoc (.owner (.join .finish))
  exact ⟨_, _, rfl, ((dpDataplaneRun_joins RunState.threeWorkers_idle finished).1 _ rfl).1, rfl⟩

end FlowRouter.Native
