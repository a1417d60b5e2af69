import FlowRouter.Native.Burst

namespace FlowRouter.Native

/-- An event reads or writes these mbufs. -/
def MbufEvent.used : MbufEvent → List MbufId
  | .touch id => [id]
  | .free id => [id]
  | .transmit frames _ => frames.map Prod.fst

def MbufEvent.freed : MbufEvent → List MbufId
  | .free id => [id]
  | _ => []

/-- The driver owns the frames that it accepts. -/
def MbufEvent.accepted : MbufEvent → List MbufId
  | .transmit frames sent => (frames.take sent).map Prod.fst
  | _ => []

def MbufEvent.transmission : MbufEvent → List (List (MbufId × RteMbuf) × Nat)
  | .transmit frames sent => [(frames, sent)]
  | _ => []

def freedIds (events : List MbufEvent) : List MbufId := events.flatMap MbufEvent.freed

def acceptedIds (events : List MbufEvent) : List MbufId := events.flatMap MbufEvent.accepted

def transmissions (events : List MbufEvent) : List (List (MbufId × RteMbuf) × Nat) :=
  events.flatMap MbufEvent.transmission

/-- An mbuf that the earlier event gives away is not used by the later one. -/
def MbufEvent.Before (earlier later : MbufEvent) : Prop :=
  ∀ id ∈ earlier.freed ++ earlier.accepted, id ∉ later.used

variable {tables : RteTables}

/-- The lookup of a parsed packet finds this action. -/
def lookedUpAction (env : WorkerEnv) (snapshot : Option (DpRuleSnapshot tables)) (mbuf : RteMbuf) :
    DpRuleAction :=
  (dpLookupPacket mbuf.decoded snapshot).2.getD env.strayAction

/-- The function returns its mbuf or a null pointer. -/
def returned (env : WorkerEnv) (snapshot : Option (DpRuleSnapshot tables))
    (contents : MbufId → RteMbuf) (id : MbufId) : Bool :=
  ((dpProcessPacket env snapshot id).run ⟨contents, [], .zero, []⟩).run.1.isSome

/-- Each received mbuf is freed or accepted once, the driver sees the returned mbufs in order, and
only a rewrite changes a frame. -/
structure LinearBurst (env : WorkerEnv) (snapshot : Option (DpRuleSnapshot tables))
    (received : RxBurst) (frames : List (MbufId × RteMbuf)) (sent : Nat)
    (events : List MbufEvent) : Prop where
  order : frames.map Prod.fst = received.mbufs.filter (returned env snapshot received.contents)
  transmitted : transmissions events = if frames = [] then [] else [(frames, sent)]
  accepted : acceptedIds events = (frames.map Prod.fst).take sent
  once : ∀ id ∈ received.mbufs,
    ((freedIds events).count id = 1 ∧ (acceptedIds events).count id = 0) ∨
      ((freedIds events).count id = 0 ∧ (acceptedIds events).count id = 1)
  onlyReceived : ∀ event ∈ events, ∀ id ∈ event.used, id ∈ received.mbufs
  released : events.Pairwise MbufEvent.Before
  intact : ∀ frame ∈ frames,
    (lookedUpAction env snapshot (received.contents frame.1)).type ≠ dpActionRewrite →
      frame.2 = received.contents frame.1

theorem returned_eq (env : WorkerEnv) (snapshot : Option (DpRuleSnapshot tables))
    (contents : MbufId → RteMbuf) (id : MbufId) :
    returned env snapshot contents id = (outcomeAt env snapshot contents id).exit.keeps := by
  rw [returned, dpProcessPacket_run]
  change (if (outcomeAt env snapshot contents id).exit.keeps then some id else none).isSome = _
  cases (outcomeAt env snapshot contents id).exit.keeps <;> rfl

/-- Only a rewrite stores into a packet. -/
theorem packetOutcome_mbuf (env : WorkerEnv) (snapshot : Option (DpRuleSnapshot tables))
    (mbuf : RteMbuf) (keep : (lookedUpAction env snapshot mbuf).type ≠ dpActionRewrite) :
    (packetOutcome env snapshot mbuf).mbuf = mbuf := by
  have action (hit : Hit) :
      (actionOutcome env hit (lookedUpAction env snapshot mbuf) mbuf).mbuf = mbuf := by
    unfold actionOutcome
    rw [if_neg keep]
    split_ifs <;> rfl
  unfold packetOutcome
  cases mbuf.verdict with
  | unsupported => rfl
  | malformed => rfl
  | ok =>
    dsimp only
    cases (dpLookupPacket mbuf.decoded snapshot).1 with
    | miss => rfl
    | flowHit => exact action .flow
    | routeHit => exact action .route

section Outcomes
variable {outcome : Outcome} {id : MbufId} {event : MbufEvent}

/-- The events of a packet are touches and at most one free. -/
theorem Outcome.mem_events (member : event ∈ outcome.events id) :
    event = .touch id ∨ event = .free id ∧ outcome.exit.keeps = false := by
  rcases List.mem_append.mp member with touch | free
  · exact .inl (List.eq_of_mem_replicate touch)
  · cases kept : outcome.exit.keeps with
    | true => simp [kept] at free
    | false =>
      rw [kept] at free
      exact .inr ⟨List.mem_singleton.mp free, rfl⟩

theorem Outcome.used_events (member : event ∈ outcome.events id) : event.used = [id] := by
  rcases Outcome.mem_events member with rfl | ⟨rfl, -⟩ <;> rfl

/-- A packet gives away nothing but itself, and only when it is not kept. -/
theorem Outcome.released_events (member : event ∈ outcome.events id) {other : MbufId}
    (given : other ∈ event.freed ++ event.accepted) :
    other = id ∧ outcome.exit.keeps = false := by
  rcases Outcome.mem_events member with rfl | ⟨rfl, dropped⟩
  · exact absurd given List.not_mem_nil
  · exact ⟨List.mem_singleton.mp given, dropped⟩

theorem Outcome.events_before : (outcome.events id).Pairwise MbufEvent.Before := by
  refine List.pairwise_append.mpr ⟨?_, ?_, ?_⟩
  · exact List.pairwise_replicate.mpr (.inr fun other given => absurd given List.not_mem_nil)
  · cases outcome.exit.keeps <;> simp
  · intro earlier touch later _ other given
    rw [List.eq_of_mem_replicate touch] at given
    exact absurd given List.not_mem_nil

end Outcomes

section Packets
variable (env : WorkerEnv) (snapshot : Option (DpRuleSnapshot tables))
  (contents : MbufId → RteMbuf) (ids : List MbufId)

theorem freedIds_packetEvents : freedIds (packetEvents env snapshot contents ids) =
    ids.filter fun id => !(outcomeAt env snapshot contents id).exit.keeps := by
  induction ids with
  | nil => rfl
  | cons id rest ih =>
    have front : freedIds ((outcomeAt env snapshot contents id).events id) =
        if (outcomeAt env snapshot contents id).exit.keeps then [] else [id] := by
      simp only [freedIds, Outcome.events, List.flatMap_append]
      cases (outcomeAt env snapshot contents id).exit.keeps <;> simp [MbufEvent.freed]
    rw [packetEvents, List.flatMap_cons, freedIds, List.flatMap_append, List.filter_cons]
    change freedIds _ ++ freedIds (packetEvents env snapshot contents rest) = _
    rw [front, ih]
    cases (outcomeAt env snapshot contents id).exit.keeps <;> rfl

/-- Packet work transmits nothing. -/
theorem acceptedIds_packetEvents : acceptedIds (packetEvents env snapshot contents ids) = [] ∧
    transmissions (packetEvents env snapshot contents ids) = [] := by
  refine ⟨List.flatMap_eq_nil_iff.mpr ?_, List.flatMap_eq_nil_iff.mpr ?_⟩ <;>
  · intro event member
    obtain ⟨id, -, member⟩ := List.mem_flatMap.mp member
    rcases Outcome.mem_events member with rfl | ⟨rfl, -⟩ <;> rfl

variable {env snapshot contents ids}

theorem used_packetEvents {event : MbufEvent}
    (member : event ∈ packetEvents env snapshot contents ids) :
    ∃ id ∈ ids, event.used = [id] := by
  obtain ⟨id, listed, member⟩ := List.mem_flatMap.mp member
  exact ⟨id, listed, Outcome.used_events member⟩

theorem released_packetEvents {event : MbufEvent} {id : MbufId}
    (member : event ∈ packetEvents env snapshot contents ids)
    (given : id ∈ event.freed ++ event.accepted) : id ∉ keptIds env snapshot contents ids := by
  obtain ⟨listed, -, member⟩ := List.mem_flatMap.mp member
  obtain ⟨rfl, dropped⟩ := Outcome.released_events member given
  intro kept
  rw [List.mem_filter.mp kept |>.2] at dropped
  exact absurd dropped (by decide)

/-- Distinct packets keep their events apart. -/
theorem packetEvents_before (distinct : ids.Nodup) :
    (packetEvents env snapshot contents ids).Pairwise MbufEvent.Before := by
  refine List.pairwise_flatMap.mpr ⟨fun id _ => Outcome.events_before, ?_⟩
  refine distinct.imp fun {first second} different earlier front later back id given => ?_
  rw [(Outcome.released_events front given).1, Outcome.used_events back]
  exact fun same => different (List.mem_singleton.mp same)

end Packets

section Received
variable (env : WorkerEnv) (snapshot : Option (DpRuleSnapshot tables)) (received : RxBurst)
  (driver : TxDriver)

theorem frames_fst :
    (received.frames env snapshot).map Prod.fst = received.kept env snapshot := by
  rw [RxBurst.frames, List.map_map]
  exact List.map_id _

theorem completion_ids :
    freedIds (received.completion env snapshot driver) =
        (received.kept env snapshot).drop (received.sent env snapshot driver) ∧
      acceptedIds (received.completion env snapshot driver) =
        (received.kept env snapshot).take (received.sent env snapshot driver) ∧
      transmissions (received.completion env snapshot driver) =
        if received.frames env snapshot = [] then []
        else [(received.frames env snapshot, received.sent env snapshot driver)] := by
  have same : received.frames env snapshot = [] ↔ received.kept env snapshot = [] :=
    List.map_eq_nil_iff
  unfold RxBurst.completion
  by_cases none : received.kept env snapshot = []
  · simp [none, same.mpr none, freedIds, acceptedIds, transmissions]
  have frees (ids : List MbufId) : freedIds (ids.map .free) = ids ∧
      acceptedIds (ids.map .free) = [] ∧ transmissions (ids.map .free) = [] := by
    induction ids with
    | nil => exact ⟨rfl, rfl, rfl⟩
    | cons id rest ih =>
      exact ⟨congrArg (id :: ·) ih.1, ih.2⟩
  have some : received.frames env snapshot ≠ [] := fun empty => none (same.mp empty)
  obtain ⟨freed, accepted, transmitted⟩ :=
    frees ((received.kept env snapshot).drop (received.sent env snapshot driver))
  rw [if_neg none, if_neg some]
  refine ⟨freed, ?_, ?_⟩
  · change ((received.frames env snapshot).take _).map Prod.fst ++ acceptedIds _ = _
    rw [accepted, List.append_nil, List.map_take, frames_fst]
  · change [_] ++ transmissions _ = _
    rw [transmitted, List.append_nil]

/-- The completion frees only what the driver has not accepted. -/
theorem completion_before :
    (received.completion env snapshot driver).Pairwise MbufEvent.Before := by
  have distinct : (received.kept env snapshot).Nodup := received.distinct.filter _
  unfold RxBurst.completion
  split_ifs
  · exact List.Pairwise.nil
  refine List.pairwise_cons.mpr ⟨?_, ?_⟩
  · intro event member id given used
    obtain ⟨rejected, tail, rfl⟩ := List.mem_map.mp member
    have same : id = rejected := List.mem_singleton.mp used
    change id ∈ [] ++ ((received.frames env snapshot).take _).map Prod.fst at given
    rw [List.nil_append, List.map_take, frames_fst] at given
    exact List.disjoint_take_drop distinct le_rfl given (same ▸ tail)
  · refine List.pairwise_map.mpr ((distinct.sublist (List.drop_sublist _ _)).imp ?_)
    intro first second different id given used
    exact different ((List.mem_singleton.mp given).symm.trans (List.mem_singleton.mp used))

theorem used_completion {event : MbufEvent}
    (member : event ∈ received.completion env snapshot driver) :
    ∀ id ∈ event.used, id ∈ received.kept env snapshot := by
  unfold RxBurst.completion at member
  split_ifs at member
  · exact absurd member List.not_mem_nil
  intro id used
  rcases List.mem_cons.mp member with rfl | free
  · rw [← frames_fst]
    exact used
  · obtain ⟨rejected, rejects, rfl⟩ := List.mem_map.mp free
    rw [List.mem_singleton.mp used]
    exact List.mem_of_mem_drop rejects

/-- Every received mbuf takes one of two ways out. -/
theorem released_once {id : MbufId} (member : id ∈ received.mbufs) :
    let freed := (received.mbufs.filter fun id =>
        !(outcomeAt env snapshot received.contents id).exit.keeps) ++
      (received.kept env snapshot).drop (received.sent env snapshot driver)
    let accepted := (received.kept env snapshot).take (received.sent env snapshot driver)
    (freed.count id = 1 ∧ accepted.count id = 0) ∨
      (freed.count id = 0 ∧ accepted.count id = 1) := by
  have single : received.mbufs.count id = 1 := List.count_eq_one_of_mem received.distinct member
  have filtered (select : MbufId → Bool) : (received.mbufs.filter select).count id =
      if select id then 1 else 0 := by
    by_cases selected : select id
    · rw [List.count_filter selected, single, if_pos selected]
    · rw [if_neg selected]
      exact List.count_eq_zero_of_not_mem fun listed => selected (List.mem_filter.mp listed).2
  have split : ((received.kept env snapshot).take (received.sent env snapshot driver)).count id +
      ((received.kept env snapshot).drop (received.sent env snapshot driver)).count id =
      (received.kept env snapshot).count id := by
    rw [← List.count_append, List.take_append_drop]
  have kept : (received.kept env snapshot).count id =
      if (outcomeAt env snapshot received.contents id).exit.keeps then 1 else 0 := filtered _
  intro freed accepted
  have total : freed.count id = _ := List.count_append
  have taken : accepted.count id =
      ((received.kept env snapshot).take (received.sent env snapshot driver)).count id := rfl
  rw [filtered] at total
  cases keeps : (outcomeAt env snapshot received.contents id).exit.keeps with
  | true =>
    rw [keeps, if_pos rfl] at kept
    rw [keeps] at total
    simp only [Bool.not_true, Bool.false_eq_true, if_false] at total
    omega
  | false =>
    rw [keeps, if_neg Bool.false_ne_true] at kept
    rw [keeps] at total
    simp only [Bool.not_false, if_true] at total
    omega

/-- Packet ownership is linear over one iteration of the worker loop. -/
theorem workerIteration_linear (worker : DpWorkerInfo) (pkts : Nat → MbufId)
    (state : WorkerState) :
    ∃ frames events,
      ((workerIteration env worker snapshot received driver pkts).run state).run.2.events =
        state.events ++ events ∧
      LinearBurst env snapshot received frames (driver.accept frames) events := by
  obtain ⟨pkts', run⟩ := workerIteration_run env worker snapshot received driver pkts state
  obtain ⟨freed, accepted, transmitted⟩ := completion_ids env snapshot received driver
  obtain ⟨acceptedPackets, transmittedPackets⟩ :=
    acceptedIds_packetEvents env snapshot received.contents received.mbufs
  let packets := packetEvents env snapshot received.contents received.mbufs
  let completion := received.completion env snapshot driver
  have allFreed : freedIds (packets ++ completion) = _ := List.flatMap_append
  have allAccepted : acceptedIds (packets ++ completion) = _ := List.flatMap_append
  have allTransmitted : transmissions (packets ++ completion) = _ := List.flatMap_append
  change _ = freedIds packets ++ freedIds completion at allFreed
  change _ = acceptedIds packets ++ acceptedIds completion at allAccepted
  change _ = transmissions packets ++ transmissions completion at allTransmitted
  rw [freedIds_packetEvents, freed] at allFreed
  rw [acceptedPackets, accepted, List.nil_append] at allAccepted
  rw [transmittedPackets, transmitted, List.nil_append] at allTransmitted
  have keptReceived (id : MbufId) (kept : id ∈ received.kept env snapshot) :
      id ∈ received.mbufs := List.mem_of_mem_filter kept
  refine ⟨received.frames env snapshot, packets ++ completion, by rw [run]; rfl, ?_⟩
  constructor
  case order =>
    rw [frames_fst]
    exact List.filter_congr fun id _ => (returned_eq env snapshot received.contents id).symm
  case transmitted => exact allTransmitted
  case accepted =>
    rw [allAccepted, frames_fst]
    rfl
  case once =>
    intro id member
    rw [allFreed, allAccepted]
    exact released_once env snapshot received driver member
  case onlyReceived =>
    intro event member id used
    rcases List.mem_append.mp member with packet | tail
    · obtain ⟨owner, listed, only⟩ := used_packetEvents packet
      rw [only] at used
      rw [List.mem_singleton.mp used]
      exact listed
    · exact keptReceived id (used_completion env snapshot received driver tail id used)
  case released =>
    refine List.pairwise_append.mpr ⟨packetEvents_before received.distinct,
      completion_before env snapshot received driver, ?_⟩
    intro earlier packet later tail id given used
    exact released_packetEvents packet given
      (used_completion env snapshot received driver tail id used)
  case intact =>
    intro frame member plain
    obtain ⟨id, -, rfl⟩ := List.mem_map.mp member
    exact packetOutcome_mbuf env snapshot (received.contents id) plain

end Received

end FlowRouter.Native
