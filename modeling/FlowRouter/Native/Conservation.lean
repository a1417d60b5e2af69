import FlowRouter.Native.Ownership

namespace FlowRouter.Native

/-- Counters of packets that wait for the two burst-level counts satisfy the laws but for them. -/
structure DpPacketStats.Pending (stats : DpPacketStats) (received kept : Nat) : Prop where
  parsed : UInt64.ofNat received =
    stats.parseOk + stats.parseUnsupported + stats.parseMalformed
  answered : stats.parseOk = stats.flowHit + stats.routeHit + stats.lookupMiss
  acted : stats.parseOk = stats.actionDrop + stats.actionForward + stats.actionRewrite
  waiting : stats.actionForward + stats.actionRewrite = UInt64.ofNat kept
  dropped : stats.drop = stats.parseUnsupported + stats.parseMalformed + stats.actionDrop
  uncounted : stats.rx = 0 ∧ stats.txAccepted = 0 ∧ stats.txUnsent = 0 ∧ stats.rxBursts = 0 ∧
    stats.rxEmptyPolls = 0 ∧ stats.txBursts = 0

theorem DpPacketStats.Pending.add {first second : DpPacketStats}
    {received received' kept kept' : Nat} (left : first.Pending received kept)
    (right : second.Pending received' kept') :
    (first + second).Pending (received + received') (kept + kept') := by
  obtain ⟨parsed, answered, acted, waiting, dropped, uncounted⟩ := left
  obtain ⟨parsed', answered', acted', waiting', dropped', uncounted'⟩ := right
  rw [DpPacketStats.add_def]
  constructor <;> simp only [dpPacketStatsAdd, UInt64.ofNat_add]
  all_goals grind

theorem DpPacketStats.pending_zero : DpPacketStats.Pending 0 0 0 := by
  constructor <;> decide

/-- Each exit counts its packet once at every stage. -/
theorem Exit.counters_pending (exit : Exit) :
    exit.counters.Pending 1 (if exit.keeps then 1 else 0) := by
  rcases exit with _ | _ | _ | ⟨_ | _⟩ | ⟨_ | _⟩ | ⟨_ | _⟩ <;> constructor <;> decide

variable {tables : RteTables}

theorem packetCounters_pending (env : WorkerEnv) (snapshot : Option (DpRuleSnapshot tables))
    (contents : MbufId → RteMbuf) (ids : List MbufId) :
    (packetCounters env snapshot contents ids).Pending ids.length
      (keptIds env snapshot contents ids).length := by
  induction ids with
  | nil => exact DpPacketStats.pending_zero
  | cons id rest ih =>
    have kept : (keptIds env snapshot contents (id :: rest)).length =
        (if (outcomeAt env snapshot contents id).exit.keeps then 1 else 0) +
          (keptIds env snapshot contents rest).length := by
      rw [keptIds, List.filter_cons]
      split_ifs
      · exact Nat.add_comm _ _
      · exact (Nat.zero_add _).symm
    rw [kept, List.length_cons, Nat.add_comm rest.length]
    exact (outcomeAt env snapshot contents id).exit.counters_pending.add ih

/-- These are the laws of a record behind some bursts, with true counts beside the wrapped ones. -/
structure DpPacketStats.Conserved (stats : DpPacketStats) (nonEmpty transmitted : Nat) : Prop where
  balanced : stats.Balanced
  nonEmptyBursts : stats.rxBursts - stats.rxEmptyPolls = UInt64.ofNat nonEmpty
  transmissions : stats.txBursts = UInt64.ofNat transmitted
  atLeast : transmitted ≤ nonEmpty

theorem DpPacketStats.conserved_zero : DpPacketStats.Conserved 0 0 0 :=
  ⟨balanced_zero, rfl, rfl, le_rfl⟩

theorem DpPacketStats.Conserved.add {first second : DpPacketStats}
    {nonEmpty nonEmpty' transmitted transmitted' : Nat}
    (left : first.Conserved nonEmpty transmitted)
    (right : second.Conserved nonEmpty' transmitted') :
    (first + second).Conserved (nonEmpty + nonEmpty') (transmitted + transmitted') := by
  refine ⟨left.balanced.add right.balanced, ?_, ?_, Nat.add_le_add left.atLeast right.atLeast⟩
  · change first.rxBursts + second.rxBursts - (first.rxEmptyPolls + second.rxEmptyPolls) = _
    have := left.nonEmptyBursts
    have := right.nonEmptyBursts
    rw [UInt64.ofNat_add]
    grind
  · change first.txBursts + second.txBursts = _
    rw [left.transmissions, right.transmissions, UInt64.ofNat_add]

/-- The transmission of a burst settles its kept packets. -/
theorem DpPacketStats.Pending.settle {stats : DpPacketStats} {received kept sent : Nat}
    (pending : stats.Pending received kept) (bounded : sent ≤ kept) :
    (rxCounters received + stats + txCounters kept sent).Balanced := by
  obtain ⟨parsed, answered, acted, waiting, dropped, uncounted⟩ := pending
  have split : UInt64.ofNat kept = UInt64.ofNat sent + UInt64.ofNat (kept - sent) := by
    rw [← UInt64.ofNat_add, Nat.add_sub_cancel' bounded]
  rw [add_def, add_def]
  constructor <;> simp only [dpPacketStatsAdd, rxCounters, txCounters, zero]
  all_goals grind

/-- A burst without kept packets is settled without a transmission. -/
theorem DpPacketStats.Pending.settle_none {stats : DpPacketStats} {received : Nat}
    (pending : stats.Pending received 0) : (rxCounters received + stats).Balanced := by
  obtain ⟨parsed, answered, acted, waiting, dropped, uncounted⟩ := pending
  rw [add_def]
  constructor <;> simp only [dpPacketStatsAdd, rxCounters, zero]
  all_goals grind

section Received
variable (env : WorkerEnv) (snapshot : Option (DpRuleSnapshot tables)) (received : RxBurst)
  (driver : TxDriver)

/-- Every burst is either empty or counted as a burst with packets. -/
def RxBurst.nonEmpty : Nat := if received.mbufs = [] then 0 else 1

def RxBurst.transmitted : Nat := if received.kept env snapshot = [] then 0 else 1

theorem counters_balanced : (received.counters env snapshot driver).Balanced := by
  have pending := packetCounters_pending env snapshot received.contents received.mbufs
  change DpPacketStats.Pending _ _ (received.kept env snapshot).length at pending
  unfold RxBurst.counters
  by_cases none : received.kept env snapshot = []
  · rw [none] at pending
    rw [if_pos none, add_zero]
    exact pending.settle_none
  · rw [if_neg none]
    have bounded := driver.bounded (received.frames env snapshot)
    rw [RxBurst.frames, List.length_map] at bounded
    exact pending.settle bounded

/-- Each iteration keeps the laws. -/
theorem counters_conserved : (received.counters env snapshot driver).Conserved received.nonEmpty
    (received.transmitted env snapshot) := by
  obtain ⟨-, -, -, -, -, -, -, -, noBursts, noPolls, noTx⟩ :=
    packetCounters_pending env snapshot received.contents received.mbufs
  let completion := if received.kept env snapshot = [] then 0
    else txCounters (received.kept env snapshot).length (received.sent env snapshot driver)
  have settled : completion.rxBursts = 0 ∧ completion.rxEmptyPolls = 0 ∧
      completion.txBursts = UInt64.ofNat (received.transmitted env snapshot) := by
    unfold completion RxBurst.transmitted
    split_ifs <;> exact ⟨rfl, rfl, rfl⟩
  refine ⟨counters_balanced env snapshot received driver, ?_, ?_, ?_⟩
  · change (rxCounters received.mbufs.length).rxBursts + _ + completion.rxBursts -
      ((rxCounters received.mbufs.length).rxEmptyPolls + _ + completion.rxEmptyPolls) = _
    rw [noBursts, noPolls, settled.1, settled.2.1]
    by_cases idle : received.mbufs = []
    · simp [rxCounters, RxBurst.nonEmpty, idle]
    · simp [rxCounters, RxBurst.nonEmpty, idle]
  · change (rxCounters received.mbufs.length).txBursts + _ + completion.txBursts = _
    rw [noTx, settled.2.2, rxCounters, DpPacketStats.zero, UInt64.zero_add, UInt64.zero_add]
  · unfold RxBurst.transmitted RxBurst.nonEmpty
    by_cases idle : received.mbufs = []
    · have none : received.kept env snapshot = [] := by
        rw [RxBurst.kept, idle]
        rfl
      rw [if_pos none]
      exact Nat.zero_le _
    · rw [if_neg idle]
      split_ifs <;> decide

end Received

end FlowRouter.Native
