import FlowRouter.Native.Rewritten

namespace FlowRouter.Native
open BigEndian Checksum

/-- The metadata follow the selected fields of the frame. -/
def DpRuleAction.updated (action : DpRuleAction) (info : DpPacketMeta) : DpPacketMeta :=
  { info with
    srcIpv4 :=
      if action.rewriteMask &&& dpRewriteSrcIpv4 ≠ 0 then action.srcIpv4 else info.srcIpv4
    dstIpv4 :=
      if action.rewriteMask &&& dpRewriteDstIpv4 ≠ 0 then action.dstIpv4 else info.dstIpv4
    srcPort :=
      if action.rewriteMask &&& dpRewriteSrcPort ≠ 0 then action.srcPort else info.srcPort
    dstPort :=
      if action.rewriteMask &&& dpRewriteDstPort ≠ 0 then action.dstPort else info.dstPort }

/-- The rewritten frame has the values of the action in the selected fields and two valid
checksums. All its other bytes are those of the frame. -/
structure DpRuleAction.Produces (action : DpRuleAction) (frame after : RteMbuf) : Prop where
  shape : after.nbSegs = frame.nbSegs ∧ after.pktLen = frame.pktLen ∧
    after.dataLen = frame.dataLen
  selected : action.Holds frame.l4Start after.bytes
  others (index : Nat) : ¬ action.Selects frame.l4Start index →
    index ∉ [24, 25, frame.checksumStart, frame.checksumStart + 1] →
    after.bytes index = frame.bytes index
  header : fold (wordSum (slice after.bytes 14 (frame.ihl * 4))) = 65535
  transport : fold (wordSum (
    pseudoHeader (UInt32.ofNat (word32 after.bytes 26)) (UInt32.ofNat (word32 after.bytes 30))
      (after.bytes 23) frame.transportLength ++
      slice after.bytes frame.l4Start frame.transportLength)) = 65535
  udp : frame.bytes 23 = ipprotoUdp → word16 after.bytes frame.checksumStart ≠ 0

section Frames

variable {library : ChecksumLibrary} {frame : RteMbuf} {action : DpRuleAction}

/-- The checksum of the header is outside the transport data, and the other way round. -/
theorem RteMbuf.rewritten_eq_headerSealed {index : Nat} (first : index ≠ frame.checksumStart)
    (second : index ≠ frame.checksumStart + 1) :
    (frame.rewritten library action).bytes index = frame.headerSealed library action index :=
  set16_other _ first second

/-- Neither of the seals touches a byte of a selected field. -/
theorem RteMbuf.Accepted.rewritten_holds (accepted : frame.Accepted) :
    action.Holds frame.l4Start (frame.rewritten library action).bytes := by
  have layout := accepted.layout
  have start : frame.checksumStart = frame.l4Start + frame.checksumOffset := rfl
  have sealing (index : Nat)
      (apart : index ∉ [24, 25, frame.checksumStart, frame.checksumStart + 1]) :
      (frame.rewritten library action).bytes index =
        setFields frame.l4Start action frame.bytes index :=
    sealed_other apart
  apply (setFields_holds layout.1).congr
  · intro index low high
    apply sealing
    simp only [List.mem_cons, List.not_mem_nil, or_false]
    omega
  · intro index low high
    apply sealing
    simp only [List.mem_cons, List.not_mem_nil, or_false]
    omega

/-- The header sum is complete before the transport checksum is stored. -/
theorem RteMbuf.Accepted.rewritten_header (accepted : frame.Accepted) (exact : library.Exact) :
    fold (wordSum (slice (frame.rewritten library action).bytes 14 (frame.ihl * 4))) = 65535 := by
  have layout := accepted.layout
  have start : frame.checksumStart = frame.l4Start + frame.checksumOffset := rfl
  have untouched : slice (frame.rewritten library action).bytes 14 (frame.ihl * 4) =
      slice (frame.headerSealed library action) 14 (frame.ihl * 4) :=
    slice_congr fun offset inside =>
      RteMbuf.rewritten_eq_headerSealed (by omega) (by omega)
  have length : headerLength 14 (frame.cleared action) = frame.ihl * 4 := by
    rw [← accepted.headerSealed_length library action]
    unfold headerLength
    rw [RteMbuf.headerSealed, sealHeader, set16_other _ (by decide) (by decide)]
  have zero : word16 (frame.cleared action) 24 = 0 :=
    (clearSums_zero (show 25 < frame.checksumStart by omega)).1
  have valid := headerSum_valid exact zero (by omega)
  rw [length] at valid
  rw [untouched]
  exact valid

/-- The transport sum covers the addresses and the protocol that the frame ends up with. -/
theorem RteMbuf.Accepted.rewritten_transport (accepted : frame.Accepted) (exact : library.Exact) :
    let after := (frame.rewritten library action).bytes
    fold (wordSum (
      pseudoHeader (UInt32.ofNat (word32 after 26)) (UInt32.ofNat (word32 after 30)) (after 23)
        frame.transportLength ++ slice after frame.l4Start frame.transportLength)) = 65535 ∧
      (frame.bytes 23 = ipprotoUdp → word16 after frame.checksumStart ≠ 0) := by
  have layout := accepted.layout
  have start : frame.checksumStart = frame.l4Start + frame.checksumOffset := rfl
  have header (index : Nat) (below : index < 34) :
      (frame.rewritten library action).bytes index = frame.headerSealed library action index :=
    RteMbuf.rewritten_eq_headerSealed (by omega) (by omega)
  have zero : word16 (frame.headerSealed library action)
      (frame.l4Start + frame.checksumOffset) = 0 := by
    have kept : word16 (frame.headerSealed library action)
        (frame.l4Start + frame.checksumOffset) =
        word16 (frame.cleared action) frame.checksumStart :=
      word16_congr (set16_other _ (by omega) (by omega)) (set16_other _ (by omega) (by omega))
    rw [kept]
    exact (clearSums_zero (by omega)).2
  obtain ⟨outside, apart⟩ := accepted.described action 23 (.inl (by decide))
  have proto : frame.headerSealed library action 23 = frame.bytes 23 :=
    RteMbuf.headerSealed_other outside apart
  have valid := transport_valid exact
    (UInt32.ofNat (word32 (frame.headerSealed library action) 26))
    (UInt32.ofNat (word32 (frame.headerSealed library action) 30))
    (frame.headerSealed library action 23) zero layout.2.2.2.2.2.2.2.2.1 layout.2.2.2.2.2.2.2.2.2
  intro after
  have src : word32 after 26 = word32 (frame.headerSealed library action) 26 :=
    word32_congr fun offset small => header _ (by omega)
  have dst : word32 after 30 = word32 (frame.headerSealed library action) 30 :=
    word32_congr fun offset small => header _ (by omega)
  have protocol : after 23 = frame.headerSealed library action 23 := header 23 (by decide)
  rw [src, dst, protocol]
  refine ⟨valid.1, fun udp => ?_⟩
  have stored : word16 after frame.checksumStart =
      (frame.transportChecksum library action).toNat := word16_set16 _
  rw [stored]
  exact valid.2 (proto.trans udp)

/-- The frame that the rewriter leaves is the intended one. -/
theorem RteMbuf.Accepted.rewritten_produced (accepted : frame.Accepted) (exact : library.Exact) :
    action.Produces frame (frame.rewritten library action) where
  shape := ⟨rfl, rfl, rfl⟩
  selected := accepted.rewritten_holds
  others _ outside apart := RteMbuf.rewritten_other outside apart
  header := accepted.rewritten_header exact
  transport := (accepted.rewritten_transport exact).1
  udp := (accepted.rewritten_transport exact).2

/-- The description of the frame survives. -/
theorem RteMbuf.Accepted.rewritten_layout (accepted : frame.Accepted) (index : Nat)
    (fixed : index < 24 ∨ index = frame.l4Start + 4 ∨ index = frame.l4Start + 5 ∨
      (frame.bytes 23 = ipprotoTcp ∧ index = frame.l4Start + 12)) :
    (frame.rewritten library action).bytes index = frame.bytes index := by
  obtain ⟨outside, apart⟩ := accepted.described action index fixed
  exact RteMbuf.rewritten_other outside apart

theorem RteMbuf.Accepted.rewritten_word (accepted : frame.Accepted) (index : Nat)
    (fixed : index + 1 < 24 ∨ index = frame.l4Start + 4) :
    word16 (frame.rewritten library action).bytes index = word16 frame.bytes index :=
  word16_congr (accepted.rewritten_layout index (by omega))
    (accepted.rewritten_layout (index + 1) (by omega))

/-- These are the quantities that both frames share. -/
theorem RteMbuf.Accepted.rewritten_same (accepted : frame.Accepted) (library : ChecksumLibrary)
    (action : DpRuleAction) :
    let after := frame.rewritten library action
    after.bytes 14 = frame.bytes 14 ∧ after.bytes 23 = frame.bytes 23 ∧
      after.ihl = frame.ihl ∧ after.totalLength = frame.totalLength ∧
      after.l4Start = frame.l4Start ∧ after.l4Length = frame.l4Length ∧
      after.checksumStart = frame.checksumStart ∧
      after.transportLength = frame.transportLength := by
  intro after
  have version : after.bytes 14 = frame.bytes 14 :=
    accepted.rewritten_layout 14 (.inl (by decide))
  have proto : after.bytes 23 = frame.bytes 23 := accepted.rewritten_layout 23 (.inl (by decide))
  have ihl : after.ihl = frame.ihl := by rw [RteMbuf.ihl, RteMbuf.ihl, version]
  have total : after.totalLength = frame.totalLength :=
    accepted.rewritten_word 16 (.inl (by decide))
  have start : after.l4Start = frame.l4Start := by rw [RteMbuf.l4Start, RteMbuf.l4Start, ihl]
  have length : after.l4Length = frame.l4Length := by
    rw [RteMbuf.l4Length, RteMbuf.l4Length, ihl, total]
  have datagram : word16 after.bytes (frame.l4Start + 4) = word16 frame.bytes (frame.l4Start + 4) :=
    accepted.rewritten_word _ (.inr rfl)
  refine ⟨version, proto, ihl, total, start, length, ?_, ?_⟩
  · simp only [RteMbuf.checksumStart, RteMbuf.checksumOffset, start, proto]
  · simp only [RteMbuf.transportLength, proto, length, start, datagram]

/-- The parser accepts the frame again. -/
theorem RteMbuf.Accepted.rewritten_accepted (accepted : frame.Accepted) :
    (frame.rewritten library action).Accepted := by
  obtain ⟨version, proto, ihl, total, start, length, -, -⟩ :=
    accepted.rewritten_same library action
  have etherType : (frame.rewritten library action).etherType = frame.etherType :=
    accepted.rewritten_word 12 (.inl (by decide))
  have flags : (frame.rewritten library action).Fragment ↔ frame.Fragment := by
    rw [RteMbuf.Fragment, RteMbuf.Fragment, accepted.rewritten_word 20 (.inl (by decide))]
  have valid : (frame.rewritten library action).Ipv4Valid ↔ frame.Ipv4Valid := by
    rw [RteMbuf.Ipv4Valid, RteMbuf.Ipv4Valid, RteMbuf.ipVersion, RteMbuf.ipVersion, version, ihl,
      total]
    rfl
  have tcp : frame.HasTcp → (frame.rewritten library action).HasTcp := by
    intro present
    have kept : (frame.rewritten library action).bytes (frame.l4Start + 12) =
        frame.bytes (frame.l4Start + 12) :=
      accepted.rewritten_layout _ (.inr (.inr (.inr ⟨present.1, rfl⟩)))
    rw [RteMbuf.HasTcp, TcpFits, start, length, proto, kept]
    exact present
  have udp : frame.HasUdp → (frame.rewritten library action).HasUdp := by
    intro present
    rw [RteMbuf.HasUdp, UdpFits, start, length, proto, accepted.rewritten_word _ (.inr rfl)]
    exact present
  obtain ⟨⟨whole, ipv4, header⟩, complete, transport⟩ := accepted
  exact ⟨⟨whole, etherType.trans ipv4, valid.mpr header⟩, flags.not.mpr complete,
    transport.imp tcp udp⟩

/-- A field reads as its selected value, and otherwise as before. -/
theorem field32_updated {bytes after : Nat → UInt8} {mask bit : UInt8} {value : UInt32}
    {index : Nat} (chosen : mask &&& bit ≠ 0 → word32 after index = value.toNat)
    (other : ¬ mask &&& bit ≠ 0 → word32 after index = word32 bytes index) :
    UInt32.ofNat (word32 after index) =
      if mask &&& bit ≠ 0 then value else UInt32.ofNat (word32 bytes index) := by
  split_ifs with present
  · rw [chosen present, UInt32.ofNat_toNat]
  · rw [other present]

theorem field16_updated {bytes after : Nat → UInt8} {mask bit : UInt8} {value : UInt16}
    {index : Nat} (chosen : mask &&& bit ≠ 0 → word16 after index = value.toNat)
    (other : ¬ mask &&& bit ≠ 0 → word16 after index = word16 bytes index) :
    UInt16.ofNat (word16 after index) =
      if mask &&& bit ≠ 0 then value else UInt16.ofNat (word16 bytes index) := by
  split_ifs with present
  · rw [chosen present, UInt16.ofNat_toNat]
  · rw [other present]

/-- A field that the mask leaves out keeps its bytes. -/
theorem RteMbuf.Accepted.rewritten_unselected (accepted : frame.Accepted) (index : Nat)
    (field : (26 ≤ index ∧ index < 34) ∨ (frame.l4Start ≤ index ∧ index < frame.l4Start + 4))
    (src : 26 ≤ index → index < 30 → ¬ action.rewriteMask &&& dpRewriteSrcIpv4 ≠ 0)
    (dst : 30 ≤ index → index < 34 → ¬ action.rewriteMask &&& dpRewriteDstIpv4 ≠ 0)
    (srcPort : frame.l4Start ≤ index → index < frame.l4Start + 2 →
      ¬ action.rewriteMask &&& dpRewriteSrcPort ≠ 0)
    (dstPort : frame.l4Start + 2 ≤ index → index < frame.l4Start + 4 →
      ¬ action.rewriteMask &&& dpRewriteDstPort ≠ 0) :
    (frame.rewritten library action).bytes index = frame.bytes index := by
  have layout := accepted.layout
  have start : frame.checksumStart = frame.l4Start + frame.checksumOffset := rfl
  apply RteMbuf.rewritten_other
  · rintro (⟨chosen, low, high⟩ | ⟨chosen, low, high⟩ | ⟨chosen, low, high⟩ | ⟨chosen, low, high⟩)
    · exact src low high chosen
    · exact dst low high chosen
    · exact srcPort low high chosen
    · exact dstPort low high chosen
  · simp only [List.mem_cons, List.not_mem_nil, or_false]
    omega

/-- The metadata of the rewritten frame are the updated ones. -/
theorem RteMbuf.Accepted.rewritten_decoded (accepted : frame.Accepted) :
    (frame.rewritten library action).decoded = action.updated frame.decoded := by
  obtain ⟨-, proto, ihl, -, start, -, -, -⟩ := accepted.rewritten_same library action
  have layout := accepted.layout
  have holds : action.Holds frame.l4Start (frame.rewritten library action).bytes :=
    accepted.rewritten_holds
  have etherType : (frame.rewritten library action).etherType = frame.etherType :=
    accepted.rewritten_word 12 (.inl (by decide))
  have src := field32_updated holds.srcIpv4 fun unselected =>
    word32_congr fun offset small => accepted.rewritten_unselected _ (by omega)
      (fun _ _ => unselected) (by omega) (by omega) (by omega)
  have dst := field32_updated holds.dstIpv4 fun unselected =>
    word32_congr fun offset small => accepted.rewritten_unselected _ (by omega) (by omega)
      (fun _ _ => unselected) (by omega) (by omega)
  have first (index : Nat) (low : frame.l4Start ≤ index) (high : index < frame.l4Start + 2)
      (unselected : ¬ action.rewriteMask &&& dpRewriteSrcPort ≠ 0) :
      (frame.rewritten library action).bytes index = frame.bytes index :=
    accepted.rewritten_unselected _ (by omega) (by omega) (by omega) (fun _ _ => unselected)
      (by omega)
  have second (index : Nat) (low : frame.l4Start + 2 ≤ index) (high : index < frame.l4Start + 4)
      (unselected : ¬ action.rewriteMask &&& dpRewriteDstPort ≠ 0) :
      (frame.rewritten library action).bytes index = frame.bytes index :=
    accepted.rewritten_unselected _ (by omega) (by omega) (by omega) (by omega)
      fun _ _ => unselected
  have srcPort := field16_updated holds.srcPort fun unselected =>
    word16_congr (first _ (by omega) (by omega) unselected)
      (first _ (by omega) (by omega) unselected)
  have dstPort := field16_updated holds.dstPort fun unselected =>
    word16_congr (second _ (by omega) (by omega) unselected)
      (second _ (by omega) (by omega) unselected)
  have l4Len : frame.bytes 23 = ipprotoTcp →
      (frame.rewritten library action).bytes (frame.l4Start + 12) =
        frame.bytes (frame.l4Start + 12) :=
    fun tcp => accepted.rewritten_layout _ (.inr (.inr (.inr ⟨tcp, rfl⟩)))
  unfold RteMbuf.decoded RteMbuf.decodedFrom DpRuleAction.updated
  rw [etherType, proto, ihl, start, src, dst, srcPort, dstPort]
  by_cases tcp : frame.bytes 23 = ipprotoTcp
  · rw [if_pos tcp, if_pos tcp, l4Len tcp]
  · rw [if_neg tcp, if_neg tcp]

/-- A second rewriting finds all its values in place. -/
theorem RteMbuf.Accepted.rewritten_again (accepted : frame.Accepted) :
    (frame.rewritten library action).rewritten library action = frame.rewritten library action := by
  obtain ⟨-, -, -, -, start, -, checksum, length⟩ := accepted.rewritten_same library action
  have layout := accepted.layout
  have checksumStart : frame.checksumStart = frame.l4Start + frame.checksumOffset := rfl
  have holds : action.Holds frame.l4Start (frame.rewritten library action).bytes :=
    accepted.rewritten_holds
  have cleared : (frame.rewritten library action).cleared action = frame.cleared action := by
    unfold RteMbuf.cleared
    rw [start, checksum, holds.setFields_eq]
    exact clearSums_sealed (by omega)
  have header : (frame.rewritten library action).headerSealed library action =
      frame.headerSealed library action := by
    rw [RteMbuf.headerSealed, cleared, RteMbuf.headerSealed]
  have transport : (frame.rewritten library action).transportChecksum library action =
      frame.transportChecksum library action := by
    rw [RteMbuf.transportChecksum, header, start, length, RteMbuf.transportChecksum]
  change RteMbuf.mk _ _ _ _ = RteMbuf.mk _ _ _ _
  rw [header, transport, checksum]
  rfl

end Frames

/-- An accepted frame has its decoded metadata. -/
theorem dpParsePacket_ok (info : DpPacketMeta) (frame : RteMbuf) :
    ((runPacket (dpParsePacket info) frame).1.1 = .ok ↔ frame.Accepted) ∧
      (frame.Accepted → (runPacket (dpParsePacket info) frame).1 = (.ok, frame.decoded)) := by
  obtain ⟨result, accesses, reach, -, verdict, value⟩ := dpParsePacket_run info ⟨frame, []⟩
  have first : (runPacket (dpParsePacket info) frame).1 = result := by
    rw [runPacket, reach]
    rfl
  have ok : result.1 = .ok ↔ frame.Accepted := by
    rw [verdict]
    exact frame.verdict_ok_iff
  rw [first]
  exact ⟨ok, fun accepted => Prod.ext (ok.mpr accepted) (value (ok.mpr accepted))⟩

/-- The rewriter turns every accepted frame into a valid frame that differs in the selected fields
and in the checksums only. The parser accepts it with the updated metadata, and the rewriter does
not change it again. -/
theorem rewrite_valid (library : ChecksumLibrary) (action : DpRuleAction) (info : DpPacketMeta)
    (frame : RteMbuf) (exact : library.Exact) (valid : action.Valid)
    (rewrite : action.type = dpActionRewrite)
    (parsed : (runPacket (dpParsePacket info) frame).1.1 = .ok) :
    let decoded := (runPacket (dpParsePacket info) frame).1.2
    let applied := runPacket (dpApplyAction library decoded action) frame
    let after := applied.2.mbuf
    applied.1 = 0 ∧ action.Produces frame after ∧
      (∀ info', (runPacket (dpParsePacket info') after).1 = (.ok, action.updated decoded)) ∧
      (runPacket (dpApplyAction library decoded action) after).2.mbuf = after ∧
      (runPacket (dpApplyAction library (action.updated decoded) action) after).2.mbuf = after := by
  have accepted := (dpParsePacket_ok info frame).1.mp parsed
  have mask : action.rewriteMask ≠ 0 := by
    rcases valid.2 with ⟨drop | forward, -⟩ | ⟨-, selects, -⟩
    · exact absurd (drop.symm.trans rewrite) (by decide)
    · exact absurd (forward.symm.trans rewrite) (by decide)
    · exact selects
  have accepts : (frame.rewritten library action).Accepted := accepted.rewritten_accepted
  obtain ⟨result, first⟩ : _ ∧ _ = frame.rewritten library action :=
    dpApplyAction_rewritten accepted rewrite mask
  have again : _ ∧ _ = (frame.rewritten library action).rewritten library action :=
    dpApplyAction_rewritten accepts rewrite mask
  rw [accepted.rewritten_again, accepted.rewritten_decoded] at again
  rw [(dpParsePacket_ok info frame).2 accepted]
  intro decoded applied after
  have left : after = frame.rewritten library action := first
  rw [left]
  refine ⟨result, accepted.rewritten_produced exact, fun info' => ?_, again.2, again.2⟩
  rw [(dpParsePacket_ok info' _).2 accepts, accepted.rewritten_decoded]

/-- These routines follow their documentation. -/
def computedChecksums : ChecksumLibrary where
  ipv4 header := UInt16.ofNat (65535 - fold (wordSum header))
  transport srcAddr dstAddr proto segment :=
    let complement := 65535 -
      fold (wordSum (pseudoHeader srcAddr dstAddr proto segment.length ++ segment))
    if complement = 0 ∧ proto = ipprotoUdp then 0xffff else UInt16.ofNat complement

theorem computedChecksums_exact : computedChecksums.Exact where
  ipv4 _ := rfl
  transport _ _ _ _ := rfl

/-- The header has one word of options. The datagram of nine bytes ends before the payload of the
header does, and two bytes of padding follow. -/
def paddedUdp : RteMbuf where
  nbSegs := 1
  pktLen := 51
  dataLen := 51
  bytes index := [2, 0, 0, 0, 0, 1, 2, 0, 0, 0, 0, 2, 8, 0,
    0x46, 0, 0, 35, 0, 1, 0, 0, 64, 17, 0, 0, 10, 0, 0, 1, 10, 0, 0, 2, 1, 1, 1, 1,
    0x04, 0xd2, 0x00, 0x35, 0, 9, 0, 0, 7, 8, 9, 0xaa, 0xbb].getD index 0

def redirect : DpRuleAction :=
  { DpRuleAction.zero with
    type := dpActionRewrite
    rewriteMask := dpRewriteDstIpv4 ||| dpRewriteSrcPort
    dstIpv4 := 0x0a000007
    srcPort := 4000 }

theorem rewrite_valid_paddedUdp :
    let decoded := (runPacket (dpParsePacket .zero) paddedUdp).1.2
    let applied := runPacket (dpApplyAction computedChecksums decoded redirect) paddedUdp
    applied.1 = 0 ∧ redirect.Produces paddedUdp applied.2.mbuf ∧
      (runPacket (dpParsePacket .zero) applied.2.mbuf).1 = (.ok, redirect.updated decoded) := by
  obtain ⟨result, produced, parsed, -⟩ := rewrite_valid computedChecksums redirect .zero paddedUdp
    computedChecksums_exact ((dpValidateAction_ok redirect).mp (by decide)) rfl (by decide)
  exact ⟨result, produced, parsed .zero⟩

end FlowRouter.Native
