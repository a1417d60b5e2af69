import FlowRouter.Library.StateLogic
import FlowRouter.Native.Grammar
import FlowRouter.Native.Action

namespace FlowRouter.Native
open BigEndian StateLogic

/-- The rewriter works inside the IPv4 datagram and keeps the fields that its ranges depend on.
The total length is a parameter because the UDP block changes it for one call. -/
structure Rewriting (frame : RteMbuf) (total : Nat) (state : PacketState) : Prop where
  inside : ∀ access ∈ state.accesses, access.Inside 14 (14 + frame.totalLength)
  ihl : state.mbuf.bytes 14 = frame.bytes 14
  total : word16 state.mbuf.bytes 16 = total
  datagram : word16 state.mbuf.bytes (frame.l4Start + 4) = word16 frame.bytes (frame.l4Start + 4)

variable {frame : RteMbuf} {total : Nat}

/-- A store outside the protected fields keeps the invariant. -/
theorem store8_rewriting (index : Nat) (value : UInt8)
    (window : 14 ≤ index ∧ index < 14 + frame.totalLength)
    (free : index ≠ 14 ∧ index ≠ 16 ∧ index ≠ 17 ∧ index ≠ frame.l4Start + 4 ∧
      index ≠ frame.l4Start + 5) :
    Triple (Rewriting frame total) (store8 index value) fun _ => Rewriting frame total := by
  intro state before
  obtain ⟨ihl, high, low, third, fourth⟩ := free
  have keep (other : Nat) (different : index ≠ other) :
      Function.update state.mbuf.bytes index value other = state.mbuf.bytes other :=
    Function.update_of_ne different.symm _ _
  refine ⟨Access.inside_append before.inside ?_, ?_, ?_, ?_⟩
  · simpa [Access.Inside] using window
  · exact (keep 14 ihl).trans before.ihl
  · exact (word16_congr (keep 16 high) (keep 17 low)).trans before.total
  · exact (word16_congr (keep _ third) (keep _ fourth)).trans before.datagram

/-- A two-byte store keeps the invariant when both of its bytes do. -/
theorem storeBe16_rewriting (index : Nat) (value : UInt16)
    (window : 14 ≤ index ∧ index + 1 < 14 + frame.totalLength)
    (free : ∀ offset < 2, index + offset ≠ 14 ∧ index + offset ≠ 16 ∧ index + offset ≠ 17 ∧
      index + offset ≠ frame.l4Start + 4 ∧ index + offset ≠ frame.l4Start + 5) :
    Triple (Rewriting frame total) (storeBe16 index value) fun _ => Rewriting frame total :=
  Triple.bind (store8_rewriting index _ ⟨window.1, by omega⟩ (free 0 (by decide)))
    fun _ => store8_rewriting (index + 1) _ ⟨by omega, window.2⟩ (free 1 (by decide))

/-- A four-byte store keeps the invariant when both of its halves do. -/
theorem storeBe32_rewriting (index : Nat) (value : UInt32)
    (window : 14 ≤ index ∧ index + 3 < 14 + frame.totalLength)
    (free : ∀ offset < 4, index + offset ≠ 14 ∧ index + offset ≠ 16 ∧ index + offset ≠ 17 ∧
      index + offset ≠ frame.l4Start + 4 ∧ index + offset ≠ frame.l4Start + 5) :
    Triple (Rewriting frame total) (storeBe32 index value) fun _ => Rewriting frame total :=
  Triple.bind
    (storeBe16_rewriting index _ ⟨window.1, by omega⟩ fun offset small => free offset (by omega))
    fun _ => storeBe16_rewriting (index + 2) _ ⟨by omega, by omega⟩ fun offset small => by
      rw [Nat.add_assoc]
      exact free (2 + offset) (by omega)

/-- A selected store keeps the invariant whether or not its bit is set. -/
theorem storeSelected_rewriting {mask bit : UInt8} {store : PacketM Unit}
    (keeps : Triple (Rewriting frame total) store fun _ => Rewriting frame total) :
    Triple (Rewriting frame total) (storeSelected mask bit store) fun _ => Rewriting frame total :=
  Triple.ite (fun _ => keeps) fun _ => Triple.pure () fun _ before => before

/-- Reads inside the datagram keep the invariant. -/
theorem Rewriting.log {state : PacketState} {accesses : List Access}
    (before : Rewriting frame total state)
    (inside : ∀ access ∈ accesses, access.Inside 14 (14 + frame.totalLength)) :
    Rewriting frame total (state.log accesses) :=
  ⟨Access.inside_append before.inside inside, before.ihl, before.total, before.datagram⟩

/-- The header checksum reads the IPv4 header only. -/
theorem rteIpv4Cksum_rewriting (library : ChecksumLibrary)
    (covered : 5 ≤ frame.ihl ∧ frame.ihl * 4 ≤ frame.totalLength) :
    Triple (Rewriting frame total) (rteIpv4Cksum library 14) fun _ => Rewriting frame total := by
  intro state before
  have headerLen : (state.mbuf.bytes 14 &&& 0x0f).toNat = frame.ihl := by
    rw [before.ihl]
    exact frame.ihl_byte
  have reach : (rteIpv4Cksum library 14).run state = pure (library.ipv4
      ((List.range (frame.ihl * 4)).map fun offset => state.mbuf.bytes (14 + offset)),
      state.log (.read 14 :: (List.range (frame.ihl * 4)).map fun offset => .read (14 + offset))) := by
    simp only [rteIpv4Cksum, StateT.run_bind, load8_run, pure_bind, headerLen, loadRange_run,
      StateT.run_pure, PacketState.log_log, PacketState.log_mbuf, List.cons_append, List.nil_append]
  rw [reach]
  apply before.log
  rw [List.forall_mem_cons]
  exact ⟨⟨le_rfl, by omega⟩, Access.inside_range le_rfl (by omega)⟩

/-- The transport checksum reads the header fields and the segment that the current total length
describes. -/
theorem rteIpv4UdptcpCksum_rewriting (library : ChecksumLibrary)
    (covered : 5 ≤ frame.ihl ∧ frame.ihl * 4 ≤ frame.totalLength) (fits : total ≤ frame.totalLength) :
    Triple (Rewriting frame total) (rteIpv4UdptcpCksum library 14 frame.l4Start)
      fun _ => Rewriting frame total := by
  intro state before
  have headerLen : (state.mbuf.bytes 14 &&& 0x0f).toNat = frame.ihl := by
    rw [before.ihl]
    exact frame.ihl_byte
  have length : (UInt16.ofNat (word16 state.mbuf.bytes (14 + 2))).toNat = total := by
    rw [toNat_ofNat_word16]
    exact before.total
  have reach : ((rteIpv4UdptcpCksum library 14 frame.l4Start).run state).2 =
      state.log ([.read 14, .read 16, .read 17, .read 26, .read 27, .read 28, .read 29, .read 30,
        .read 31, .read 32, .read 33, .read 23] ++
        (List.range (total - frame.ihl * 4)).map fun offset => .read (frame.l4Start + offset)) := by
    simp only [rteIpv4UdptcpCksum, StateT.run_bind, load8_run, loadBe16_run, loadBe32_run, pure_bind,
      headerLen, length, loadRange_run, StateT.run_pure, PacketState.log_log, PacketState.log_mbuf,
      List.cons_append, List.nil_append]
    rfl
  rw [reach]
  apply before.log
  apply Access.inside_append
  · simp [Access.Inside]
    omega
  · exact Access.inside_range (by unfold RteMbuf.l4Start; omega)
      (by unfold RteMbuf.l4Start; omega)

/-- The UDP block replaces the total length and nothing else of the protected fields. -/
theorem storeTotal_rewriting (value : UInt16)
    (covered : 5 ≤ frame.ihl ∧ frame.ihl * 4 ≤ frame.totalLength) :
    Triple (Rewriting frame total) (storeBe16 16 value) fun _ => Rewriting frame value.toNat := by
  intro state before
  have start : frame.l4Start = 14 + frame.ihl * 4 := rfl
  have bound := value.toNat_lt
  refine ⟨?_, before.ihl, ?_, ?_⟩
  · have accesses : ((storeBe16 16 value).run state).2.accesses =
        state.accesses ++ [.write 16, .write 17] := by
      change (state.accesses ++ [.write 16]) ++ [.write 17] = _
      simp
    rw [accesses]
    apply Access.inside_append before.inside
    simp [Access.Inside]
    omega
  · change (UInt8.ofNat (value.toNat / 256)).toNat * 256 + (UInt8.ofNat value.toNat).toNat = _
    simp only [UInt8.toNat_ofNat']
    omega
  · rw [← before.datagram]
    have keep (index : Nat) (high : index ≠ 16) (low : index ≠ 17) :
        ((storeBe16 16 value).run state).2.mbuf.bytes index = state.mbuf.bytes index := by
      change Function.update (Function.update state.mbuf.bytes 16 _) 17 _ index = _
      rw [Function.update_of_ne low, Function.update_of_ne high]
    exact word16_congr (keep _ (by omega) (by omega)) (keep _ (by omega) (by omega))

/-- A load returns the value that the invariant fixes for its field. -/
theorem loadBe16_rewriting (index expected : Nat)
    (window : 14 ≤ index ∧ index + 1 < 14 + frame.totalLength)
    (fixed : ∀ state, Rewriting frame total state → word16 state.mbuf.bytes index = expected) :
    Triple (Rewriting frame total) (loadBe16 index)
      fun value state => value.toNat = expected ∧ Rewriting frame total state := by
  intro state before
  refine ⟨(toNat_ofNat_word16 _ _).trans (fixed state before), before.log ?_⟩
  simp [Access.Inside]
  omega

theorem narrow16_rewriting (value : Nat) (fits : value < 65536) :
    Triple (Rewriting frame total) (narrow16 ↑value)
      fun result state => result.toNat = value ∧ Rewriting frame total state := by
  intro state before
  refine ⟨?_, before.log ?_⟩
  · change (UInt16.ofInt ↑value).toNat = value
    rw [ofInt16_natCast]
    exact toNat_ofNat16 fits
  · simp [Access.Inside]
    omega

/-- The two ports precede the protected length field of a UDP header. -/
theorem storePorts_rewriting (action : DpRuleAction) {next : PacketM Int}
    {post : Int → PacketState → Prop} (header : 5 ≤ frame.ihl)
    (fits : frame.ihl * 4 ≤ frame.totalLength)
    (room : 8 ≤ frame.l4Length) (rest : Triple (Rewriting frame total) next post) :
    Triple (Rewriting frame total) (do
      storeSelected action.rewriteMask dpRewriteSrcPort (storeBe16 frame.l4Start action.srcPort)
      storeSelected action.rewriteMask dpRewriteDstPort
        (storeBe16 (frame.l4Start + 2) action.dstPort)
      next) post := by
  have start : frame.l4Start = 14 + frame.ihl * 4 := rfl
  have length : frame.l4Length = frame.totalLength - frame.ihl * 4 := rfl
  refine Triple.bind (storeSelected_rewriting (storeBe16_rewriting _ _ ?_ ?_)) fun _ =>
    Triple.bind (storeSelected_rewriting (storeBe16_rewriting _ _ ?_ ?_)) fun _ => rest
  · omega
  · intro offset small
    omega
  · omega
  · intro offset small
    omega

/-- The TCP block stays inside the datagram. -/
theorem rewriteTcp_rewriting (library : ChecksumLibrary) (action : DpRuleAction)
    (valid : frame.Ipv4Valid) (room : 20 ≤ frame.l4Length) :
    Triple (Rewriting frame frame.totalLength) (rewriteTcp library 14 frame.l4Start action)
      fun _ state => ∀ access ∈ state.accesses, access.Inside 14 (14 + frame.totalLength) := by
  obtain ⟨-, -, least, covered, -⟩ := valid
  have start : frame.l4Start = 14 + frame.ihl * 4 := rfl
  have length : frame.l4Length = frame.totalLength - frame.ihl * 4 := rfl
  have checksum (value : UInt16) : Triple (Rewriting frame frame.totalLength)
      (storeBe16 (frame.l4Start + 16) value) fun _ => Rewriting frame frame.totalLength :=
    storeBe16_rewriting _ _ (by omega) fun offset small => by omega
  have header (value : UInt16) : Triple (Rewriting frame frame.totalLength)
      (storeBe16 (14 + 10) value) fun _ => Rewriting frame frame.totalLength :=
    storeBe16_rewriting _ _ (by omega) fun offset small => by omega
  unfold rewriteTcp
  refine storePorts_rewriting action least covered (by omega) ?_
  exact Triple.bind (checksum 0) fun _ => Triple.bind (header 0) fun _ =>
    Triple.bind (rteIpv4Cksum_rewriting library ⟨least, covered⟩) fun sum =>
    Triple.bind (header sum) fun _ =>
    Triple.bind (rteIpv4UdptcpCksum_rewriting library ⟨least, covered⟩ le_rfl) fun sum =>
    Triple.bind (checksum sum) fun _ => Triple.pure 0 fun _ after => after.inside

/-- The UDP block stays inside the datagram while the total length is replaced. -/
theorem rewriteUdp_rewriting (library : ChecksumLibrary) (info : DpPacketMeta)
    (action : DpRuleAction) (valid : frame.Ipv4Valid)
    (udp : UdpFits frame.bytes frame.l4Start frame.l4Length)
    (l3 : info.l3Len.toNat = frame.ihl * 4) :
    Triple (Rewriting frame frame.totalLength) (rewriteUdp library 14 frame.l4Start info action)
      fun _ state => ∀ access ∈ state.accesses, access.Inside 14 (14 + frame.totalLength) := by
  obtain ⟨-, -, least, covered, -⟩ := valid
  obtain ⟨room, -, longest⟩ := udp
  have start : frame.l4Start = 14 + frame.ihl * 4 := rfl
  have length : frame.l4Length = frame.totalLength - frame.ihl * 4 := rfl
  have bound : frame.totalLength < 65536 := word16_lt _ _
  have checksum (total : Nat) (value : UInt16) : Triple (Rewriting frame total)
      (storeBe16 (frame.l4Start + 6) value) fun _ => Rewriting frame total :=
    storeBe16_rewriting _ _ (by omega) fun offset small => by omega
  have header (value : UInt16) : Triple (Rewriting frame frame.totalLength)
      (storeBe16 (14 + 10) value) fun _ => Rewriting frame frame.totalLength :=
    storeBe16_rewriting _ _ (by omega) fun offset small => by omega
  unfold rewriteUdp
  refine storePorts_rewriting action least covered (by omega) ?_
  refine Triple.bind (checksum _ 0) fun _ => Triple.bind (header 0) fun _ =>
    Triple.bind (rteIpv4Cksum_rewriting library ⟨least, covered⟩) fun sum =>
    Triple.bind (header sum) fun _ =>
    Triple.bind (loadBe16_rewriting (14 + 2) frame.totalLength (by omega)
      fun _ before => before.total) fun saved => Triple.assume fun restored => ?_
  refine Triple.bind (loadBe16_rewriting (frame.l4Start + 4)
    (word16 frame.bytes (frame.l4Start + 4)) (by omega) fun _ before => before.datagram)
    fun udpLength => Triple.assume fun datagram => ?_
  refine Triple.bind (narrow16_rewriting _ (by omega)) fun shortened =>
    Triple.assume fun sum => ?_
  exact Triple.bind (storeTotal_rewriting shortened ⟨least, covered⟩) fun _ =>
    Triple.bind (rteIpv4UdptcpCksum_rewriting library ⟨least, covered⟩ (by omega)) fun sum =>
    Triple.bind (checksum _ sum) fun _ =>
    Triple.bind (storeTotal_rewriting saved ⟨least, covered⟩) fun _ =>
    Triple.pure 0 fun _ after => after.inside

/-- The rewriter stays inside the datagram of every accepted frame. -/
theorem dpApplyAction_rewriting (library : ChecksumLibrary) (action : DpRuleAction)
    (accepted : frame.Accepted) :
    Triple (Rewriting frame frame.totalLength) (dpApplyAction library frame.decoded action)
      fun _ state => ∀ access ∈ state.accesses, access.Inside 14 (14 + frame.totalLength) := by
  obtain ⟨⟨-, -, valid⟩, -, transport⟩ := accepted
  have keep : ∀ state, Rewriting frame frame.totalLength state →
      ∀ access ∈ state.accesses, access.Inside 14 (14 + frame.totalLength) :=
    fun _ after => after.inside
  have start : frame.l4Start = 14 + frame.ihl * 4 := rfl
  have l2 : frame.decoded.l2Len.toNat = 14 := rfl
  have l4 : frame.decoded.l4Offset.toNat = frame.l4Start :=
    toNat_ofNat16 (by have := frame.ihl_lt; omega)
  have covered : 20 ≤ frame.totalLength := by
    obtain ⟨-, -, least, covered, -⟩ := valid
    omega
  have least := valid.2.2.1
  have address (index : Nat) (value : UInt32) (lower : 26 ≤ index) (upper : index ≤ 30) :
      Triple (Rewriting frame frame.totalLength) (storeBe32 index value)
        fun _ => Rewriting frame frame.totalLength :=
    storeBe32_rewriting _ _ (by omega) fun offset small => by omega
  unfold dpApplyAction
  simp only [l2, l4]
  refine Triple.ite (fun _ => Triple.pure _ keep) fun _ => ?_
  refine Triple.ite (fun _ => Triple.pure _ keep) fun _ => ?_
  refine Triple.bind (storeSelected_rewriting (address _ _ (by decide) (by decide))) fun _ => ?_
  refine Triple.bind (storeSelected_rewriting (address _ _ (by decide) (by decide))) fun _ => ?_
  refine Triple.ite (fun tcp => ?_) fun noTcp => Triple.ite (fun udp => ?_) fun _ =>
    Triple.pure _ keep
  · have fits : frame.HasTcp := transport.resolve_right fun other =>
      absurd (tcp.symm.trans other.1) (by decide)
    exact rewriteTcp_rewriting library action valid fits.2.1
  · have fits : frame.HasUdp := transport.resolve_left fun other => noTcp other.1
    exact rewriteUdp_rewriting library frame.decoded action valid fits.2 frame.ihlBytes_toNat

/-- Parsing reads below the data length, rewriting stays inside the datagram that parsing accepted,
and no stored sixteen-bit value loses a bit. -/
theorem packetAccess_inside (library : ChecksumLibrary) (mbuf : RteMbuf) (info : DpPacketMeta)
    (action : DpRuleAction) :
    let parsed := runPacket (dpParsePacket info) mbuf
    let rewritten := runPacket (dpApplyAction library parsed.1.2 action) parsed.2.mbuf
    parsed.2.mbuf = mbuf ∧
    (∀ access ∈ parsed.2.accesses, access.Inside 0 mbuf.dataLen.toNat) ∧
    (parsed.1.1 = .ok → 14 + mbuf.totalLength ≤ mbuf.dataLen.toNat ∧
      ∀ access ∈ rewritten.2.accesses, access.Inside 14 (14 + mbuf.totalLength)) := by
  obtain ⟨result, accesses, reach, inside, verdict, value⟩ := dpParsePacket_run info ⟨mbuf, []⟩
  have parsed : runPacket (dpParsePacket info) mbuf = (result, ⟨mbuf, accesses⟩) := by
    rw [runPacket, reach]
    rfl
  rw [parsed]
  refine ⟨rfl, inside, fun ok => ?_⟩
  have accepted : mbuf.Accepted := mbuf.verdict_ok_iff.mp (verdict.symm.trans ok)
  refine ⟨accepted.1.2.2.2.2.2.2, ?_⟩
  change ∀ access ∈ (runPacket (dpApplyAction library result.2 action) mbuf).2.accesses, _
  rw [value ok]
  exact dpApplyAction_rewriting library action accepted ⟨mbuf, []⟩ ⟨by simp, rfl, rfl, rfl⟩

end FlowRouter.Native
