import FlowRouter.Native.Parser

namespace FlowRouter.Native
open BigEndian

/-- The frame lies in one segment and both length fields agree. -/
def RteMbuf.Whole (mbuf : RteMbuf) : Prop :=
  mbuf.nbSegs = 1 ∧ mbuf.pktLen.toNat = mbuf.dataLen.toNat

def RteMbuf.etherType (mbuf : RteMbuf) : Nat := word16 mbuf.bytes 12

def RteMbuf.ipVersion (mbuf : RteMbuf) : Nat := (mbuf.bytes 14).toNat / 16

/-- The IHL field counts words of four bytes. -/
def RteMbuf.ihl (mbuf : RteMbuf) : Nat := (mbuf.bytes 14).toNat % 16

def RteMbuf.totalLength (mbuf : RteMbuf) : Nat := word16 mbuf.bytes 16

/-- The payload follows the Ethernet header and the IPv4 header with its options. -/
def RteMbuf.l4Start (mbuf : RteMbuf) : Nat := 14 + mbuf.ihl * 4

def RteMbuf.l4Length (mbuf : RteMbuf) : Nat := mbuf.totalLength - mbuf.ihl * 4

/-- The IPv4 header is complete, and its total length covers the header and fits in the frame. -/
def RteMbuf.Ipv4Valid (mbuf : RteMbuf) : Prop :=
  34 ≤ mbuf.dataLen.toNat ∧ mbuf.ipVersion = 4 ∧ 5 ≤ mbuf.ihl ∧
    mbuf.ihl * 4 ≤ mbuf.totalLength ∧ 14 + mbuf.totalLength ≤ mbuf.dataLen.toNat

/-- The frame carries a valid IPv4 header. -/
def RteMbuf.HasIpv4 (mbuf : RteMbuf) : Prop :=
  mbuf.Whole ∧ mbuf.etherType = 0x0800 ∧ mbuf.Ipv4Valid

/-- The MF flag is bit thirteen and the fragment offset is the low thirteen bits. -/
def RteMbuf.Fragment (mbuf : RteMbuf) : Prop :=
  word16 mbuf.bytes 20 / 8192 % 2 = 1 ∨ word16 mbuf.bytes 20 % 8192 ≠ 0

/-- The payload of the given length starts with a complete TCP header. -/
def TcpFits (bytes : Nat → UInt8) (start length : Nat) : Prop :=
  20 ≤ length ∧ 5 ≤ (bytes (start + 12)).toNat / 16 ∧
    (bytes (start + 12)).toNat / 16 * 4 ≤ length

/-- The payload of the given length contains a complete UDP datagram. -/
def UdpFits (bytes : Nat → UInt8) (start length : Nat) : Prop :=
  8 ≤ length ∧ 8 ≤ word16 bytes (start + 4) ∧ word16 bytes (start + 4) ≤ length

def RteMbuf.HasTcp (mbuf : RteMbuf) : Prop :=
  mbuf.bytes 23 = ipprotoTcp ∧ TcpFits mbuf.bytes mbuf.l4Start mbuf.l4Length

def RteMbuf.HasUdp (mbuf : RteMbuf) : Prop :=
  mbuf.bytes 23 = ipprotoUdp ∧ UdpFits mbuf.bytes mbuf.l4Start mbuf.l4Length

/-- The grammar of accepted frames. -/
def RteMbuf.Accepted (mbuf : RteMbuf) : Prop :=
  mbuf.HasIpv4 ∧ ¬ mbuf.Fragment ∧ (mbuf.HasTcp ∨ mbuf.HasUdp)

/-- These frames are valid as far as the parser looks, but it does not handle them. -/
def RteMbuf.Declined (mbuf : RteMbuf) : Prop :=
  mbuf.nbSegs ≠ 1 ∨
  (mbuf.Whole ∧ 14 ≤ mbuf.dataLen.toNat ∧ mbuf.etherType ≠ 0x0800) ∨
  (mbuf.HasIpv4 ∧
    (mbuf.Fragment ∨ (mbuf.bytes 23 ≠ ipprotoTcp ∧ mbuf.bytes 23 ≠ ipprotoUdp)))

/-- The transport and network fields of a frame extend the metadata of its Ethernet header. -/
def RteMbuf.decodedFrom (mbuf : RteMbuf) (info : DpPacketMeta) : DpPacketMeta :=
  { info with
    srcIpv4 := UInt32.ofNat (word32 mbuf.bytes 26)
    dstIpv4 := UInt32.ofNat (word32 mbuf.bytes 30)
    l4Proto := mbuf.bytes 23
    srcPort := UInt16.ofNat (word16 mbuf.bytes mbuf.l4Start)
    dstPort := UInt16.ofNat (word16 mbuf.bytes (mbuf.l4Start + 2))
    l3Len := UInt16.ofNat (mbuf.ihl * 4)
    l4Offset := UInt16.ofNat mbuf.l4Start
    l4Len := if mbuf.bytes 23 = ipprotoTcp then
        UInt16.ofNat ((mbuf.bytes (mbuf.l4Start + 12)).toNat / 16 * 4)
      else 8 }

/-- The metadata of an accepted frame are its big-endian fields and its header lengths. -/
def RteMbuf.decoded (mbuf : RteMbuf) : DpPacketMeta :=
  mbuf.decodedFrom { DpPacketMeta.zero with etherType := UInt16.ofNat mbuf.etherType, l2Len := 14 }

instance (bytes : Nat → UInt8) (start length : Nat) : Decidable (TcpFits bytes start length) :=
  inferInstanceAs (Decidable (_ ∧ _ ∧ _))

instance (bytes : Nat → UInt8) (start length : Nat) : Decidable (UdpFits bytes start length) :=
  inferInstanceAs (Decidable (_ ∧ _ ∧ _))

instance (mbuf : RteMbuf) : Decidable mbuf.Ipv4Valid :=
  inferInstanceAs (Decidable (_ ∧ _ ∧ _ ∧ _ ∧ _))

instance (mbuf : RteMbuf) : Decidable mbuf.Fragment :=
  inferInstanceAs (Decidable (_ ∨ _))

/-- The verdict on an IPv4 frame, in the order of the parser's checks. -/
def RteMbuf.ipv4Verdict (mbuf : RteMbuf) : DpParseResult :=
  if ¬ mbuf.Ipv4Valid then .malformed
  else if mbuf.Fragment then .unsupported
  else if mbuf.bytes 23 = ipprotoTcp then
    if TcpFits mbuf.bytes mbuf.l4Start mbuf.l4Length then .ok else .malformed
  else if mbuf.bytes 23 = ipprotoUdp then
    if UdpFits mbuf.bytes mbuf.l4Start mbuf.l4Length then .ok else .malformed
  else .unsupported

/-- The verdict on any frame, in the order of the parser's checks. -/
def RteMbuf.verdict (mbuf : RteMbuf) : DpParseResult :=
  if mbuf.nbSegs ≠ 1 then .unsupported
  else if mbuf.pktLen.toNat ≠ mbuf.dataLen.toNat then .malformed
  else if mbuf.dataLen.toNat < 14 then .malformed
  else if mbuf.etherType ≠ 0x0800 then .unsupported
  else mbuf.ipv4Verdict

/-- The parser's mask covers the MF flag and the fragment offset. -/
theorem fragmentBits_ne_zero (value : Nat) :
    UInt16.ofNat value &&& (rteIpv4HdrMfFlag ||| rteIpv4HdrOffsetMask) ≠ 0 ↔
      value / 8192 % 2 = 1 ∨ value % 8192 ≠ 0 := by
  have mask : (UInt16.ofNat value &&& (rteIpv4HdrMfFlag ||| rteIpv4HdrOffsetMask)).toNat =
      value % 16384 := by
    rw [UInt16.toNat_and,
      show (rteIpv4HdrMfFlag ||| rteIpv4HdrOffsetMask).toNat = 2 ^ 14 - 1 from rfl,
      Nat.and_two_pow_sub_one_eq_mod]
    simp
  rw [ne_eq, ← UInt16.toNat_inj, mask]
  simp
  omega

/-- The TCP branch returns the ports exactly when the header fits, and it stays in the payload. -/
theorem dpParseTcp_run (data : Nat) (payloadLen : UInt16) (info : DpPacketMeta)
    (state : PacketState) :
    ∃ result accesses, (dpParseTcp data payloadLen info).run state =
        pure (result, state.log accesses) ∧
      (∀ access ∈ accesses, access.Inside data (data + payloadLen.toNat)) ∧
      result = if TcpFits state.mbuf.bytes data payloadLen.toNat then
        (.ok, { info with
          srcPort := UInt16.ofNat (word16 state.mbuf.bytes data)
          dstPort := UInt16.ofNat (word16 state.mbuf.bytes (data + 2))
          l4Len := UInt16.ofNat ((state.mbuf.bytes (data + 12)).toNat / 16 * 4) })
        else (.malformed, info) := by
  have byte := (state.mbuf.bytes (data + 12)).toNat_lt
  unfold dpParseTcp
  by_cases short : payloadLen.toNat < 20
  · refine ⟨(.malformed, info), [], ?_, by simp, ?_⟩
    · simp [sizeofTcpHdr, short, PacketState.log_nil]
    · simp [TcpFits, Nat.not_le.mpr short]
  generalize offset : (state.mbuf.bytes (data + 12)).toNat / 16 = words at *
  have header : (UInt16.ofNat (words * 4)).toNat = words * 4 := toNat_ofNat16 (by omega)
  by_cases small : words < 5
  · refine ⟨(.malformed, info), [.read (data + 12)], ?_, ?_, ?_⟩
    · simp only [sizeofTcpHdr, short, small, offset, if_true, if_false, StateT.run_bind, load8_run,
        pure_bind, StateT.run_pure, toNat_shiftRight_four]
    · simp [Access.Inside]
      omega
    · simp [TcpFits, offset, Nat.not_le.mpr small]
  by_cases long : payloadLen.toNat < words * 4
  · refine ⟨(.malformed, info), [.read (data + 12), .narrow ↑(words * 4)], ?_, ?_, ?_⟩
    · simp only [sizeofTcpHdr, short, small, offset, long, if_true, if_false, StateT.run_bind,
        load8_run, narrow16_run, pure_bind, StateT.run_pure, toNat_shiftRight_four, ofInt16_natCast,
        header, gt_iff_lt, PacketState.log_log, List.cons_append, List.nil_append]
    · simp [Access.Inside]
      omega
    · simp [TcpFits, offset, Nat.not_le.mpr long]
  · refine ⟨_, [.read (data + 12), .narrow ↑(words * 4), .read data, .read (data + 1),
      .read (data + 2), .read (data + 2 + 1)], ?_, ?_, (if_pos ?_).symm⟩
    · simp only [sizeofTcpHdr, short, small, offset, long, if_false, StateT.run_bind, load8_run,
        narrow16_run, loadBe16_run, pure_bind, StateT.run_pure, toNat_shiftRight_four,
        ofInt16_natCast, header, gt_iff_lt, PacketState.log_log, PacketState.log_mbuf,
        List.cons_append, List.nil_append]
    · simp [Access.Inside]
      omega
    · exact ⟨by omega, by omega, by omega⟩

/-- The UDP branch returns the ports exactly when the datagram fits. -/
theorem dpParseUdp_run (data : Nat) (payloadLen : UInt16) (info : DpPacketMeta)
    (state : PacketState) :
    ∃ result accesses, (dpParseUdp data payloadLen info).run state =
        pure (result, state.log accesses) ∧
      (∀ access ∈ accesses, access.Inside data (data + payloadLen.toNat)) ∧
      result = if UdpFits state.mbuf.bytes data payloadLen.toNat then
        (.ok, { info with
          srcPort := UInt16.ofNat (word16 state.mbuf.bytes data)
          dstPort := UInt16.ofNat (word16 state.mbuf.bytes (data + 2))
          l4Len := 8 })
        else (.malformed, info) := by
  unfold dpParseUdp
  by_cases short : payloadLen.toNat < 8
  · refine ⟨(.malformed, info), [], ?_, by simp, ?_⟩
    · simp [sizeofUdpHdr, short, PacketState.log_nil]
    · simp [UdpFits, Nat.not_le.mpr short]
  by_cases wrong : word16 state.mbuf.bytes (data + 4) < 8 ∨
      payloadLen.toNat < word16 state.mbuf.bytes (data + 4)
  · refine ⟨(.malformed, info), [.read (data + 4), .read (data + 4 + 1)], ?_, ?_, ?_⟩
    · simp only [sizeofUdpHdr, short, wrong, if_true, if_false, StateT.run_bind, loadBe16_run,
        pure_bind, StateT.run_pure, toNat_ofNat_word16, gt_iff_lt]
    · simp [Access.Inside]
      omega
    · rw [if_neg]
      rintro ⟨-, least, most⟩
      omega
  · refine ⟨_, [.read (data + 4), .read (data + 4 + 1), .read data, .read (data + 1),
      .read (data + 2), .read (data + 2 + 1), .narrow 8], ?_, ?_, (if_pos ?_).symm⟩
    · simp only [sizeofUdpHdr, short, wrong, if_false, StateT.run_bind, loadBe16_run,
        narrow16_run, pure_bind, StateT.run_pure, toNat_ofNat_word16, gt_iff_lt,
        PacketState.log_log, PacketState.log_mbuf, List.cons_append, List.nil_append]
      rfl
    · simp [Access.Inside]
      omega
    · exact ⟨by omega, by omega, by omega⟩

theorem RteMbuf.ipVersion_byte (mbuf : RteMbuf) : (mbuf.bytes 14 >>> 4).toNat = mbuf.ipVersion :=
  toNat_shiftRight_four _

theorem RteMbuf.ihl_byte (mbuf : RteMbuf) : (mbuf.bytes 14 &&& 0x0f).toNat = mbuf.ihl :=
  toNat_and_fifteen _

theorem RteMbuf.totalLength_field (mbuf : RteMbuf) :
    (UInt16.ofNat (word16 mbuf.bytes (14 + 2))).toNat = mbuf.totalLength :=
  toNat_ofNat_word16 _ _

theorem RteMbuf.ihl_lt (mbuf : RteMbuf) : mbuf.ihl < 16 := Nat.mod_lt _ (by decide)

theorem RteMbuf.ihlBytes_toNat (mbuf : RteMbuf) :
    (UInt16.ofNat (mbuf.ihl * 4)).toNat = mbuf.ihl * 4 := by
  have words := mbuf.ihl_lt
  exact toNat_ofNat16 (by omega)

/-- An invalid header ends in the malformed verdict before any field behind it is read. -/
theorem dpParseIpv4_invalid (info : DpPacketMeta) (state : PacketState) (l2 : info.l2Len.toNat = 14)
    (invalid : ¬ state.mbuf.Ipv4Valid) :
    ∃ accesses, (dpParseIpv4 state.mbuf.dataLen info).run state =
        pure ((.malformed, info), state.log accesses) ∧
      ∀ access ∈ accesses, access.Inside 14 state.mbuf.dataLen.toNat := by
  have words := state.mbuf.ihl_lt
  unfold dpParseIpv4
  by_cases short : state.mbuf.dataLen.toNat < 34
  · refine ⟨[], ?_, by simp⟩
    simp only [l2, sizeofIpv4Hdr, short, if_true, StateT.run_pure, PacketState.log_nil]
  by_cases header : state.mbuf.ipVersion ≠ 4 ∨ state.mbuf.ihl < 5
  · refine ⟨[.read 14, .read 14], ?_, ?_⟩
    · simp only [l2, sizeofIpv4Hdr, short, header, if_true, if_false, StateT.run_bind, load8_run,
        pure_bind, StateT.run_pure, RteMbuf.ipVersion_byte, RteMbuf.ihl_byte, PacketState.log_log,
        PacketState.log_mbuf, List.cons_append, List.nil_append]
    · simp [Access.Inside]
      omega
  by_cases options : (state.mbuf.ihl * 4 : Nat) > (state.mbuf.dataLen.toNat : Int) - (14 : Nat)
  · refine ⟨[.read 14, .read 14, .narrow ↑(state.mbuf.ihl * 4)], ?_, ?_⟩
    · simp only [l2, sizeofIpv4Hdr, short, header, options, if_true, if_false, StateT.run_bind,
        load8_run, narrow16_run, pure_bind, StateT.run_pure, RteMbuf.ipVersion_byte,
        RteMbuf.ihl_byte, ofInt16_natCast, RteMbuf.ihlBytes_toNat, PacketState.log_log,
        PacketState.log_mbuf, List.cons_append, List.nil_append]
    · simp [Access.Inside]
      omega
  have length : state.mbuf.totalLength < state.mbuf.ihl * 4 ∨
      (state.mbuf.totalLength : Int) > (state.mbuf.dataLen.toNat : Int) - (14 : Nat) := by
    unfold RteMbuf.Ipv4Valid at invalid
    omega
  refine ⟨[.read 14, .read 14, .narrow ↑(state.mbuf.ihl * 4), .read 16, .read 17], ?_, ?_⟩
  · simp only [l2, sizeofIpv4Hdr, short, header, options, length, if_true, if_false,
      StateT.run_bind, load8_run, narrow16_run, loadBe16_run, pure_bind, StateT.run_pure,
      RteMbuf.ipVersion_byte, RteMbuf.ihl_byte, RteMbuf.totalLength_field, ofInt16_natCast,
      RteMbuf.ihlBytes_toNat, PacketState.log_log, PacketState.log_mbuf, List.cons_append,
      List.nil_append]
  · simp [Access.Inside]
    omega

/-- A valid fragment ends after the parser has read the flags. -/
theorem dpParseIpv4_fragment (info : DpPacketMeta) (state : PacketState) (l2 : info.l2Len.toNat = 14)
    (valid : state.mbuf.Ipv4Valid) (fragment : state.mbuf.Fragment) :
    ∃ accesses, (dpParseIpv4 state.mbuf.dataLen info).run state =
        pure ((.unsupported, info), state.log accesses) ∧
      ∀ access ∈ accesses, access.Inside 14 state.mbuf.dataLen.toNat := by
  obtain ⟨size, version, least, covered, fits⟩ := valid
  have words := state.mbuf.ihl_lt
  have bits := (fragmentBits_ne_zero (word16 state.mbuf.bytes (14 + 6))).mpr fragment
  refine ⟨[.read 14, .read 14, .narrow ↑(state.mbuf.ihl * 4), .read 16, .read 17, .read 20,
    .read 21], ?_, ?_⟩
  · simp only [dpParseIpv4, l2, sizeofIpv4Hdr, show ¬ state.mbuf.dataLen.toNat < 14 + 20 by omega,
      show ¬ (state.mbuf.ipVersion ≠ 4 ∨ state.mbuf.ihl < 5) by omega,
      show ¬ ((state.mbuf.ihl * 4 : Nat) > (state.mbuf.dataLen.toNat : Int) - (14 : Nat)) by omega,
      show ¬ (state.mbuf.totalLength < state.mbuf.ihl * 4 ∨
        (state.mbuf.totalLength : Int) > (state.mbuf.dataLen.toNat : Int) - (14 : Nat)) by omega,
      eq_true bits, if_true, if_false, StateT.run_bind, load8_run, narrow16_run, loadBe16_run,
      pure_bind, StateT.run_pure, RteMbuf.ipVersion_byte, RteMbuf.ihl_byte,
      RteMbuf.totalLength_field, ofInt16_natCast, RteMbuf.ihlBytes_toNat, PacketState.log_log,
      PacketState.log_mbuf, List.cons_append, List.nil_append]
  · simp [Access.Inside]
    omega

/-- The parser stores these fields before it looks at the transport header. -/
def RteMbuf.networkFields (mbuf : RteMbuf) (info : DpPacketMeta) : DpPacketMeta :=
  { info with
    srcIpv4 := UInt32.ofNat (word32 mbuf.bytes 26)
    dstIpv4 := UInt32.ofNat (word32 mbuf.bytes 30)
    l4Proto := mbuf.bytes 23
    l3Len := UInt16.ofNat (mbuf.ihl * 4)
    l4Offset := UInt16.ofNat mbuf.l4Start }

/-- A valid header that is no fragment leads to the transport branch of its protocol. -/
theorem dpParseIpv4_transport (info : DpPacketMeta) (state : PacketState)
    (l2 : info.l2Len.toNat = 14) (valid : state.mbuf.Ipv4Valid) (whole : ¬ state.mbuf.Fragment) :
    ∃ accesses, (dpParseIpv4 state.mbuf.dataLen info).run state =
        (if state.mbuf.bytes 23 = ipprotoTcp then
          dpParseTcp state.mbuf.l4Start (UInt16.ofNat state.mbuf.l4Length)
            (state.mbuf.networkFields info)
        else if state.mbuf.bytes 23 = ipprotoUdp then
          dpParseUdp state.mbuf.l4Start (UInt16.ofNat state.mbuf.l4Length)
            (state.mbuf.networkFields info)
        else pure (.unsupported, state.mbuf.networkFields info)).run (state.log accesses) ∧
      ∀ access ∈ accesses, access.Inside 14 state.mbuf.dataLen.toNat := by
  obtain ⟨size, version, least, covered, fits⟩ := valid
  have words := state.mbuf.ihl_lt
  have total := word16_lt state.mbuf.bytes 16
  change state.mbuf.totalLength < 65536 at total
  have bits : ¬ (UInt16.ofNat (word16 state.mbuf.bytes (14 + 6)) &&&
      (rteIpv4HdrMfFlag ||| rteIpv4HdrOffsetMask) ≠ 0) := by
    rw [fragmentBits_ne_zero]
    exact whole
  have l4Offset : (UInt16.ofNat (14 + state.mbuf.ihl * 4)).toNat = state.mbuf.l4Start :=
    toNat_ofNat16 (by omega)
  have payload : (state.mbuf.totalLength : Int) - ↑(state.mbuf.ihl * 4) =
      ↑state.mbuf.l4Length := by
    unfold RteMbuf.l4Length
    omega
  refine ⟨[.read 14, .read 14, .narrow ↑(state.mbuf.ihl * 4), .read 16, .read 17, .read 20,
    .read 21, .read 26, .read 27, .read 28, .read 29, .read 30, .read 31, .read 32, .read 33,
    .read 23, .narrow ↑state.mbuf.l4Start, .narrow ↑state.mbuf.l4Length], ?_, ?_⟩
  · simp only [dpParseIpv4, l2, sizeofIpv4Hdr, show ¬ state.mbuf.dataLen.toNat < 14 + 20 by omega,
      show ¬ (state.mbuf.ipVersion ≠ 4 ∨ state.mbuf.ihl < 5) by omega,
      show ¬ ((state.mbuf.ihl * 4 : Nat) > (state.mbuf.dataLen.toNat : Int) - (14 : Nat)) by omega,
      show ¬ (state.mbuf.totalLength < state.mbuf.ihl * 4 ∨
        (state.mbuf.totalLength : Int) > (state.mbuf.dataLen.toNat : Int) - (14 : Nat)) by omega,
      eq_false bits, if_false, StateT.run_bind, load8_run, narrow16_run, loadBe16_run,
      loadBe32_run, pure_bind, RteMbuf.ipVersion_byte, RteMbuf.ihl_byte,
      RteMbuf.totalLength_field, ofInt16_natCast, RteMbuf.ihlBytes_toNat, payload, l4Offset,
      PacketState.log_log, PacketState.log_mbuf, List.cons_append, List.nil_append]
    rfl
  · simp [Access.Inside, RteMbuf.l4Start, RteMbuf.l4Length]
    omega

/-- The IPv4 branch follows the verdict and reads the frame behind the Ethernet header only. -/
theorem dpParseIpv4_run (info : DpPacketMeta) (state : PacketState) (l2 : info.l2Len.toNat = 14) :
    ∃ result accesses, (dpParseIpv4 state.mbuf.dataLen info).run state =
        pure (result, state.log accesses) ∧
      (∀ access ∈ accesses, access.Inside 14 state.mbuf.dataLen.toNat) ∧
      result.1 = state.mbuf.ipv4Verdict ∧
      (result.1 = .ok → result.2 = state.mbuf.decodedFrom info) := by
  by_cases valid : state.mbuf.Ipv4Valid
  swap
  · obtain ⟨accesses, reach, inside⟩ := dpParseIpv4_invalid info state l2 valid
    exact ⟨_, accesses, reach, inside, by simp [RteMbuf.ipv4Verdict, valid], by simp⟩
  by_cases fragment : state.mbuf.Fragment
  · obtain ⟨accesses, reach, inside⟩ := dpParseIpv4_fragment info state l2 valid fragment
    exact ⟨_, accesses, reach, inside, by simp [RteMbuf.ipv4Verdict, valid, fragment], by simp⟩
  obtain ⟨front, reach, inside⟩ := dpParseIpv4_transport info state l2 valid fragment
  have payloadLen : (UInt16.ofNat state.mbuf.l4Length).toNat = state.mbuf.l4Length := by
    have total := word16_lt state.mbuf.bytes 16
    change state.mbuf.totalLength < 65536 at total
    exact toNat_ofNat16 (by unfold RteMbuf.l4Length; omega)
  have window : 14 ≤ state.mbuf.l4Start ∧
      state.mbuf.l4Start + state.mbuf.l4Length ≤ state.mbuf.dataLen.toNat := by
    obtain ⟨size, version, least, covered, fits⟩ := valid
    unfold RteMbuf.l4Start RteMbuf.l4Length
    omega
  by_cases tcp : state.mbuf.bytes 23 = ipprotoTcp
  · obtain ⟨result, back, run, stays, value⟩ := dpParseTcp_run state.mbuf.l4Start
      (UInt16.ofNat state.mbuf.l4Length) (state.mbuf.networkFields info) (state.log front)
    simp only [payloadLen, PacketState.log_mbuf] at stays value
    refine ⟨result, front ++ back, ?_, Access.inside_append inside
      fun access member => (stays access member).mono window.1 window.2, ?_, ?_⟩
    · rw [reach, if_pos tcp, run, PacketState.log_log]
    · rw [RteMbuf.ipv4Verdict, if_neg (not_not.mpr valid), if_neg fragment, if_pos tcp, value]
      exact apply_ite Prod.fst _ _ _
    · rw [value]
      split <;> simp [RteMbuf.networkFields, RteMbuf.decodedFrom, tcp]
  by_cases udp : state.mbuf.bytes 23 = ipprotoUdp
  · obtain ⟨result, back, run, stays, value⟩ := dpParseUdp_run state.mbuf.l4Start
      (UInt16.ofNat state.mbuf.l4Length) (state.mbuf.networkFields info) (state.log front)
    simp only [payloadLen, PacketState.log_mbuf] at stays value
    refine ⟨result, front ++ back, ?_, Access.inside_append inside
      fun access member => (stays access member).mono window.1 window.2, ?_, ?_⟩
    · rw [reach, if_neg tcp, if_pos udp, run, PacketState.log_log]
    · rw [RteMbuf.ipv4Verdict, if_neg (not_not.mpr valid), if_neg fragment, if_neg tcp, if_pos udp,
        value]
      exact apply_ite Prod.fst _ _ _
    · rw [value]
      split <;> simp [RteMbuf.networkFields, RteMbuf.decodedFrom, tcp]
  · refine ⟨(.unsupported, state.mbuf.networkFields info), front, ?_, inside, ?_, by simp⟩
    · rw [reach, if_neg tcp, if_neg udp, StateT.run_pure]
    · rw [RteMbuf.ipv4Verdict, if_neg (not_not.mpr valid), if_neg fragment, if_neg tcp, if_neg udp]

theorem RteMbuf.etherType_eq_ipv4 (mbuf : RteMbuf) :
    UInt16.ofNat mbuf.etherType = rteEtherTypeIpv4 ↔ mbuf.etherType = 0x0800 := by
  rw [← UInt16.toNat_inj, RteMbuf.etherType, toNat_ofNat_word16]
  rfl

/-- The parser follows the verdict, reads below the data length only and changes no byte. -/
theorem dpParsePacket_run (info : DpPacketMeta) (state : PacketState) :
    ∃ result accesses, (dpParsePacket info).run state = pure (result, state.log accesses) ∧
      (∀ access ∈ accesses, access.Inside 0 state.mbuf.dataLen.toNat) ∧
      result.1 = state.mbuf.verdict ∧ (result.1 = .ok → result.2 = state.mbuf.decoded) := by
  have bound := state.mbuf.dataLen.toNat_lt
  unfold dpParsePacket
  by_cases segments : state.mbuf.nbSegs ≠ 1
  · refine ⟨(.unsupported, info), [], ?_, by simp, ?_, by simp⟩
    · simp only [StateT.run_bind, StateT.run_get, pure_bind, if_pos segments, StateT.run_pure,
        PacketState.log_nil]
    · rw [RteMbuf.verdict, if_pos segments]
  by_cases lengths : state.mbuf.pktLen.toNat ≠ state.mbuf.dataLen.toNat
  · refine ⟨(.malformed, info), [], ?_, by simp, ?_, by simp⟩
    · simp only [StateT.run_bind, StateT.run_get, pure_bind, if_neg segments,
        if_pos (Or.inl lengths), StateT.run_pure, PacketState.log_nil]
    · rw [RteMbuf.verdict, if_neg segments, if_pos lengths]
  have lengthCheck : ¬ (state.mbuf.pktLen.toNat ≠ state.mbuf.dataLen.toNat ∨
      state.mbuf.pktLen.toNat > 65535) := by omega
  by_cases short : state.mbuf.dataLen.toNat < 14
  · refine ⟨(.malformed, .zero), [], ?_, by simp, ?_, by simp⟩
    · simp only [StateT.run_bind, StateT.run_get, pure_bind, if_neg segments, if_neg lengthCheck,
        sizeofEtherHdr, if_pos short, StateT.run_pure, PacketState.log_nil]
    · rw [RteMbuf.verdict, if_neg segments, if_neg lengths, if_pos short]
  let front : List Access := [.read 12, .read 13, .narrow 14]
  have inside : ∀ access ∈ front, access.Inside 0 state.mbuf.dataLen.toNat := by
    simp [front, Access.Inside]
    omega
  let ethernet : DpPacketMeta := { DpPacketMeta.zero with
    etherType := UInt16.ofNat state.mbuf.etherType, l2Len := 14 }
  have reach : (dpParsePacket info).run state =
      (if UInt16.ofNat state.mbuf.etherType ≠ rteEtherTypeIpv4 then pure (.unsupported, ethernet)
      else dpParseIpv4 state.mbuf.dataLen ethernet).run (state.log front) := by
    simp only [dpParsePacket, StateT.run_bind, StateT.run_get, pure_bind, if_neg segments,
      if_neg lengthCheck, sizeofEtherHdr, if_neg short, loadBe16_run, narrow16_run,
      PacketState.log_log, List.cons_append, List.nil_append]
    rfl
  by_cases other : state.mbuf.etherType ≠ 0x0800
  · refine ⟨(.unsupported, ethernet), front, ?_, inside, ?_, by simp⟩
    · rw [← dpParsePacket, reach, if_pos ((not_congr state.mbuf.etherType_eq_ipv4).mpr other),
        StateT.run_pure]
    · rw [RteMbuf.verdict, if_neg segments, if_neg lengths, if_neg short, if_pos other]
  · obtain ⟨result, back, run, stays, verdict, value⟩ :=
      dpParseIpv4_run ethernet (state.log front) rfl
    refine ⟨result, front ++ back, ?_, Access.inside_append inside
      fun access member => (stays access member).mono (Nat.zero_le _) le_rfl, ?_, value⟩
    · rw [← dpParsePacket, reach, if_neg ((not_congr state.mbuf.etherType_eq_ipv4).not.mpr other)]
      rw [PacketState.log_mbuf] at run
      rw [run, PacketState.log_log]
    · rw [RteMbuf.verdict, if_neg segments, if_neg lengths, if_neg short, if_neg other]
      exact verdict

theorem RteMbuf.ipv4Verdict_ok_iff (mbuf : RteMbuf) :
    mbuf.ipv4Verdict = .ok ↔
      mbuf.Ipv4Valid ∧ ¬ mbuf.Fragment ∧ (mbuf.HasTcp ∨ mbuf.HasUdp) := by
  have distinct : ipprotoUdp ≠ ipprotoTcp := by decide
  unfold RteMbuf.ipv4Verdict RteMbuf.HasTcp RteMbuf.HasUdp
  by_cases valid : mbuf.Ipv4Valid
  swap
  · simp [valid]
  by_cases fragment : mbuf.Fragment
  · simp [valid, fragment]
  by_cases tcp : mbuf.bytes 23 = ipprotoTcp
  · simp [valid, fragment, tcp, distinct.symm]
  by_cases udp : mbuf.bytes 23 = ipprotoUdp
  · simp [valid, fragment, udp, distinct]
  · simp [valid, fragment, tcp, udp]

theorem RteMbuf.ipv4Verdict_unsupported_iff (mbuf : RteMbuf) :
    mbuf.ipv4Verdict = .unsupported ↔ mbuf.Ipv4Valid ∧
      (mbuf.Fragment ∨ (mbuf.bytes 23 ≠ ipprotoTcp ∧ mbuf.bytes 23 ≠ ipprotoUdp)) := by
  have distinct : ipprotoUdp ≠ ipprotoTcp := by decide
  unfold RteMbuf.ipv4Verdict
  by_cases valid : mbuf.Ipv4Valid
  swap
  · simp [valid]
  by_cases fragment : mbuf.Fragment
  · simp [valid, fragment]
  by_cases tcp : mbuf.bytes 23 = ipprotoTcp
  · simp only [valid, fragment, tcp, not_true_eq_false, if_false, if_true]
    split <;> simp
  by_cases udp : mbuf.bytes 23 = ipprotoUdp
  · simp only [valid, fragment, udp, distinct, not_true_eq_false, if_false, if_true]
    split <;> simp
  · simp [valid, fragment, tcp, udp]

/-- An accepted frame is exactly one with the verdict OK. -/
theorem RteMbuf.verdict_ok_iff (mbuf : RteMbuf) : mbuf.verdict = .ok ↔ mbuf.Accepted := by
  unfold RteMbuf.verdict RteMbuf.Accepted RteMbuf.HasIpv4 RteMbuf.Whole
  by_cases segments : mbuf.nbSegs = 1
  swap
  · simp [segments]
  by_cases lengths : mbuf.pktLen.toNat = mbuf.dataLen.toNat
  swap
  · simp [segments, lengths]
  by_cases short : mbuf.dataLen.toNat < 14
  · have invalid : ¬ mbuf.Ipv4Valid := fun valid => by
      have size := valid.1
      omega
    simp [segments, lengths, short, invalid]
  by_cases ethernet : mbuf.etherType = 0x0800
  · simp [segments, lengths, short, ethernet, mbuf.ipv4Verdict_ok_iff]
  · simp [segments, lengths, short, ethernet]

/-- A declined frame is exactly one with the verdict UNSUPPORTED. -/
theorem RteMbuf.verdict_unsupported_iff (mbuf : RteMbuf) :
    mbuf.verdict = .unsupported ↔ mbuf.Declined := by
  unfold RteMbuf.verdict RteMbuf.Declined RteMbuf.HasIpv4 RteMbuf.Whole
  by_cases segments : mbuf.nbSegs = 1
  swap
  · simp [segments]
  by_cases lengths : mbuf.pktLen.toNat = mbuf.dataLen.toNat
  swap
  · simp [segments, lengths]
  by_cases short : mbuf.dataLen.toNat < 14
  · have invalid : ¬ mbuf.Ipv4Valid := fun valid => by
      have size := valid.1
      omega
    simp [segments, lengths, short, invalid]
  by_cases ethernet : mbuf.etherType = 0x0800
  · simp [segments, lengths, short, ethernet, mbuf.ipv4Verdict_unsupported_iff]
  · simp [segments, lengths, short, ethernet]
    omega

/-- The padded frame carries the same bytes and more of them behind a complete datagram. -/
structure RteMbuf.Pads (padded frame : RteMbuf) : Prop where
  frameWhole : frame.Whole
  paddedWhole : padded.Whole
  longer : frame.dataLen.toNat ≤ padded.dataLen.toNat
  ethernet : 14 ≤ frame.dataLen.toNat
  datagram : frame.etherType = 0x0800 →
    34 ≤ frame.dataLen.toNat ∧ 14 + frame.totalLength ≤ frame.dataLen.toNat
  same : ∀ index < frame.dataLen.toNat, padded.bytes index = frame.bytes index

/-- The TCP check looks at the payload only. -/
theorem TcpFits.congr {first second : Nat → UInt8} {start length : Nat}
    (same : ∀ index < start + length, first index = second index) :
    TcpFits first start length ↔ TcpFits second start length := by
  unfold TcpFits
  by_cases room : 20 ≤ length
  · rw [same (start + 12) (by omega)]
  · simp [room]

/-- The UDP check looks at the payload only. -/
theorem UdpFits.congr {first second : Nat → UInt8} {start length : Nat}
    (same : ∀ index < start + length, first index = second index) :
    UdpFits first start length ↔ UdpFits second start length := by
  unfold UdpFits
  by_cases room : 8 ≤ length
  · rw [word16_congr (same (start + 4) (by omega)) (same (start + 4 + 1) (by omega))]
  · simp [room]

namespace RteMbuf.Pads

variable {padded frame : RteMbuf} (pads : padded.Pads frame)
include pads

theorem etherType_eq : padded.etherType = frame.etherType := by
  have ethernet := pads.ethernet
  exact word16_congr (pads.same 12 (by omega)) (pads.same 13 (by omega))

/-- The two frames agree on every byte of the datagram. -/
theorem header_eq (ipv4 : frame.etherType = 0x0800) :
    padded.ipVersion = frame.ipVersion ∧ padded.ihl = frame.ihl ∧
      padded.totalLength = frame.totalLength ∧ (padded.Fragment ↔ frame.Fragment) ∧
      padded.bytes 23 = frame.bytes 23 := by
  have size := (pads.datagram ipv4).1
  have same (index : Nat) (inside : index < 34) : padded.bytes index = frame.bytes index :=
    pads.same index (by omega)
  refine ⟨?_, ?_, ?_, ?_, same 23 (by decide)⟩
  · rw [RteMbuf.ipVersion, RteMbuf.ipVersion, same 14 (by decide)]
  · rw [RteMbuf.ihl, RteMbuf.ihl, same 14 (by decide)]
  · exact word16_congr (same 16 (by decide)) (same 17 (by decide))
  · rw [RteMbuf.Fragment, RteMbuf.Fragment, word16_congr (same 20 (by decide)) (same 21 (by decide))]

theorem ipv4Valid_iff (ipv4 : frame.etherType = 0x0800) :
    padded.Ipv4Valid ↔ frame.Ipv4Valid := by
  obtain ⟨size, fits⟩ := pads.datagram ipv4
  obtain ⟨version, ihl, total, -, -⟩ := pads.header_eq ipv4
  have longer := pads.longer
  unfold RteMbuf.Ipv4Valid
  rw [version, ihl, total]
  omega

theorem l4_eq (ipv4 : frame.etherType = 0x0800) :
    padded.l4Start = frame.l4Start ∧ padded.l4Length = frame.l4Length := by
  obtain ⟨-, ihl, total, -, -⟩ := pads.header_eq ipv4
  simp only [RteMbuf.l4Start, RteMbuf.l4Length, ihl, total, and_self]

/-- The padding does not change the verdict. -/
theorem verdict_eq : padded.verdict = frame.verdict := by
  obtain ⟨segments, lengths⟩ := pads.frameWhole
  obtain ⟨segments', lengths'⟩ := pads.paddedWhole
  have ethernet := pads.ethernet
  have longer := pads.longer
  unfold RteMbuf.verdict
  rw [segments, segments', lengths, lengths', pads.etherType_eq,
    if_neg (show ¬ padded.dataLen.toNat < 14 by omega),
    if_neg (show ¬ frame.dataLen.toNat < 14 by omega)]
  by_cases ipv4 : frame.etherType = 0x0800
  swap
  · simp [ipv4]
  obtain ⟨-, -, -, fragment, protocol⟩ := pads.header_eq ipv4
  obtain ⟨start, length⟩ := pads.l4_eq ipv4
  simp only [ipv4, ne_eq, not_true_eq_false, if_false]
  unfold RteMbuf.ipv4Verdict
  simp only [pads.ipv4Valid_iff ipv4, fragment, protocol, start, length]
  by_cases valid : frame.Ipv4Valid
  swap
  · simp [valid]
  have payload : ∀ index < frame.l4Start + frame.l4Length,
      padded.bytes index = frame.bytes index := by
    obtain ⟨-, -, -, covered, fits⟩ := valid
    intro index inside
    apply pads.same
    unfold RteMbuf.l4Start RteMbuf.l4Length at inside
    omega
  simp only [TcpFits.congr payload, UdpFits.congr payload]

/-- The padding does not change the metadata of an accepted frame. -/
theorem decoded_eq (accepted : frame.Accepted) : padded.decoded = frame.decoded := by
  obtain ⟨⟨-, ipv4, valid⟩, -, transport⟩ := accepted
  obtain ⟨-, ihl, -, -, protocol⟩ := pads.header_eq ipv4
  obtain ⟨start, -⟩ := pads.l4_eq ipv4
  obtain ⟨size, -, -, covered, fits⟩ := valid
  have least : 8 ≤ frame.l4Length := by
    rcases transport with tcp | udp
    · exact le_trans (by decide) tcp.2.1
    · exact udp.2.1
  have payload (index : Nat) (inside : index < frame.l4Start + frame.l4Length) :
      padded.bytes index = frame.bytes index := by
    apply pads.same
    unfold RteMbuf.l4Start RteMbuf.l4Length at inside
    omega
  have source : word32 padded.bytes 26 = word32 frame.bytes 26 :=
    word32_congr fun offset inside => pads.same _ (by omega)
  have target : word32 padded.bytes 30 = word32 frame.bytes 30 :=
    word32_congr fun offset inside => pads.same _ (by omega)
  have srcPort : word16 padded.bytes frame.l4Start = word16 frame.bytes frame.l4Start :=
    word16_congr (payload _ (by omega)) (payload _ (by omega))
  have dstPort : word16 padded.bytes (frame.l4Start + 2) = word16 frame.bytes (frame.l4Start + 2) :=
    word16_congr (payload _ (by omega)) (payload _ (by omega))
  have headerLen : frame.bytes 23 = ipprotoTcp →
      padded.bytes (frame.l4Start + 12) = frame.bytes (frame.l4Start + 12) := by
    intro tcp
    rcases transport with ⟨-, room, -⟩ | ⟨udp, -⟩
    · exact payload _ (by omega)
    · exact absurd (tcp.symm.trans udp) (by decide)
  simp only [RteMbuf.decoded, RteMbuf.decodedFrom, pads.etherType_eq, ihl, start, protocol, source,
    target, srcPort, dstPort]
  by_cases tcp : frame.bytes 23 = ipprotoTcp
  · simp only [tcp, if_true, headerLen tcp]
  · simp only [tcp, if_false]

end RteMbuf.Pads

/-- The parser accepts exactly its grammar, and Ethernet padding never changes its answer. -/
theorem dpParsePacket_grammar (mbuf : RteMbuf) (info : DpPacketMeta) :
    let parse := fun frame => (runPacket (dpParsePacket info) frame).1
    ((parse mbuf).1 = .ok ↔ mbuf.Accepted) ∧
    (mbuf.Accepted → (parse mbuf).2 = mbuf.decoded) ∧
    ((parse mbuf).1 = .unsupported ↔ ¬ mbuf.Accepted ∧ mbuf.Declined) ∧
    ((parse mbuf).1 = .malformed ↔ ¬ mbuf.Accepted ∧ ¬ mbuf.Declined) ∧
    ∀ padded : RteMbuf, padded.Pads mbuf → (parse padded).1 = (parse mbuf).1 ∧
      ((parse mbuf).1 = .ok → (parse padded).2 = (parse mbuf).2) := by
  have runs (frame : RteMbuf) : (runPacket (dpParsePacket info) frame).1.1 = frame.verdict ∧
      ((runPacket (dpParsePacket info) frame).1.1 = .ok →
        (runPacket (dpParsePacket info) frame).1.2 = frame.decoded) := by
    obtain ⟨result, accesses, reach, -, verdict, value⟩ := dpParsePacket_run info ⟨frame, []⟩
    have first : (runPacket (dpParsePacket info) frame).1 = result := by
      rw [runPacket, reach]
      rfl
    rw [first]
    exact ⟨verdict, value⟩
  obtain ⟨verdict, value⟩ := runs mbuf
  intro parse
  have ok := mbuf.verdict_ok_iff
  have unsupported := mbuf.verdict_unsupported_iff
  refine ⟨?_, ?_, ?_, ?_, ?_⟩
  · exact verdict ▸ ok
  · intro accepted
    exact value (verdict.trans (ok.mpr accepted))
  · change (runPacket (dpParsePacket info) mbuf).1.1 = _ ↔ _
    rw [verdict, ← ok, ← unsupported]
    cases mbuf.verdict <;> simp
  · change (runPacket (dpParsePacket info) mbuf).1.1 = _ ↔ _
    rw [verdict, ← ok, ← unsupported]
    cases mbuf.verdict <;> simp
  · intro padded pads
    obtain ⟨verdict', value'⟩ := runs padded
    refine ⟨verdict'.trans (pads.verdict_eq.trans verdict.symm), fun accepted => ?_⟩
    have accepts := ok.mp (verdict.symm.trans accepted)
    rw [value accepted, value' (verdict'.trans (pads.verdict_eq.trans (ok.mpr accepts)))]
    exact pads.decoded_eq accepts

end FlowRouter.Native
