import FlowRouter.Native.Grammar
import FlowRouter.Native.Rewrite
import FlowRouter.Native.Snapshot

namespace FlowRouter.Native
open BigEndian Checksum

/-- The pseudo header precedes the transport data in its sum. -/
def pseudoHeader (srcAddr dstAddr : UInt32) (proto : UInt8) (length : Nat) : List UInt8 :=
  [UInt8.ofNat (srcAddr.toNat / 16777216), UInt8.ofNat (srcAddr.toNat / 65536),
    UInt8.ofNat (srcAddr.toNat / 256), UInt8.ofNat srcAddr.toNat,
    UInt8.ofNat (dstAddr.toNat / 16777216), UInt8.ofNat (dstAddr.toNat / 65536),
    UInt8.ofNat (dstAddr.toNat / 256), UInt8.ofNat dstAddr.toNat,
    0, proto, UInt8.ofNat (length / 256), UInt8.ofNat length]

/-- The routines return the complement of the ones' complement sum. A zero UDP checksum is sent as
all ones. -/
structure ChecksumLibrary.Exact (library : ChecksumLibrary) : Prop where
  ipv4 (header : List UInt8) :
    library.ipv4 header = UInt16.ofNat (65535 - fold (wordSum header))
  transport (srcAddr dstAddr : UInt32) (proto : UInt8) (segment : List UInt8) :
    library.transport srcAddr dstAddr proto segment =
      let complement := 65535 -
        fold (wordSum (pseudoHeader srcAddr dstAddr proto segment.length ++ segment))
      if complement = 0 ∧ proto = ipprotoUdp then 0xffff else UInt16.ofNat complement

/-- These bytes belong to the fields that the mask selects. -/
def DpRuleAction.Selects (action : DpRuleAction) (l4 index : Nat) : Prop :=
  (action.rewriteMask &&& dpRewriteSrcIpv4 ≠ 0 ∧ 26 ≤ index ∧ index < 30) ∨
  (action.rewriteMask &&& dpRewriteDstIpv4 ≠ 0 ∧ 30 ≤ index ∧ index < 34) ∨
  (action.rewriteMask &&& dpRewriteSrcPort ≠ 0 ∧ l4 ≤ index ∧ index < l4 + 2) ∨
  (action.rewriteMask &&& dpRewriteDstPort ≠ 0 ∧ l4 + 2 ≤ index ∧ index < l4 + 4)

section Fields

variable {action : DpRuleAction} {bytes : Nat → UInt8} {l4 index : Nat}

theorem selected_other {mask bit : UInt8} {change : (Nat → UInt8) → Nat → UInt8}
    (same : mask &&& bit ≠ 0 → change bytes index = bytes index) :
    selected mask bit change bytes index = bytes index := by
  unfold selected
  by_cases chosen : mask &&& bit ≠ 0
  · rw [if_pos chosen]
    exact same chosen
  · rw [if_neg chosen]

theorem selected_pos {mask bit : UInt8} {change : (Nat → UInt8) → Nat → UInt8}
    (chosen : mask &&& bit ≠ 0) : selected mask bit change bytes = change bytes := if_pos chosen

/-- A change that has taken place may be selected again. -/
theorem selected_self {mask bit : UInt8} {change : (Nat → UInt8) → Nat → UInt8}
    (same : mask &&& bit ≠ 0 → change bytes = bytes) : selected mask bit change bytes = bytes := by
  unfold selected
  by_cases chosen : mask &&& bit ≠ 0
  · rw [if_pos chosen]
    exact same chosen
  · rw [if_neg chosen]

/-- These are the bytes after the stores of the selected fields. -/
def setFields (l4 : Nat) (action : DpRuleAction) (bytes : Nat → UInt8) : Nat → UInt8 :=
  setPorts l4 action (setAddresses 14 action bytes)

theorem setPorts_other (before : index < l4) : setPorts l4 action bytes index = bytes index := by
  unfold setPorts
  rw [selected_other fun _ => set16_other _ (by omega) (by omega),
    selected_other fun _ => set16_other _ (by omega) (by omega)]

/-- The stores touch the selected fields only. -/
theorem setFields_other (outside : ¬ action.Selects l4 index) :
    setFields l4 action bytes index = bytes index := by
  simp only [DpRuleAction.Selects, not_or, not_and] at outside
  obtain ⟨src, dst, srcPort, dstPort⟩ := outside
  unfold setFields setPorts setAddresses
  rw [selected_other, selected_other, selected_other, selected_other]
  · intro chosen
    have := src chosen
    exact set32_other _ (by omega)
  · intro chosen
    have := dst chosen
    exact set32_other _ (by omega)
  · intro chosen
    have := srcPort chosen
    exact set16_other _ (by omega) (by omega)
  · intro chosen
    have := dstPort chosen
    exact set16_other _ (by omega) (by omega)

/-- The selected fields hold the values of the action. -/
structure DpRuleAction.Holds (action : DpRuleAction) (l4 : Nat) (bytes : Nat → UInt8) : Prop where
  srcIpv4 : action.rewriteMask &&& dpRewriteSrcIpv4 ≠ 0 →
    word32 bytes 26 = action.srcIpv4.toNat
  dstIpv4 : action.rewriteMask &&& dpRewriteDstIpv4 ≠ 0 →
    word32 bytes 30 = action.dstIpv4.toNat
  srcPort : action.rewriteMask &&& dpRewriteSrcPort ≠ 0 → word16 bytes l4 = action.srcPort.toNat
  dstPort : action.rewriteMask &&& dpRewriteDstPort ≠ 0 →
    word16 bytes (l4 + 2) = action.dstPort.toNat

theorem setFields_holds (far : 34 ≤ l4) : action.Holds l4 (setFields l4 action bytes) where
  srcIpv4 chosen := by
    rw [← word32_set32 action.srcIpv4]
    apply word32_congr
    intro offset small
    rw [setFields, setPorts_other (by omega), setAddresses,
      selected_other fun _ => set32_other _ (by omega), selected_pos chosen]
  dstIpv4 chosen := by
    rw [← word32_set32 action.dstIpv4]
    apply word32_congr
    intro offset small
    rw [setFields, setPorts_other (by omega), setAddresses, selected_pos chosen]
  srcPort chosen := by
    rw [← word16_set16 action.srcPort]
    apply word16_congr
    · rw [setFields, setPorts, selected_other fun _ => set16_other _ (by omega) (by omega),
        selected_pos chosen]
    · rw [setFields, setPorts, selected_other fun _ => set16_other _ (by omega) (by omega),
        selected_pos chosen]
  dstPort chosen := by
    rw [setFields, setPorts, selected_pos chosen, word16_set16]

/-- Stores of the values that are there change nothing. -/
theorem DpRuleAction.Holds.setFields_eq (holds : action.Holds l4 bytes) :
    setFields l4 action bytes = bytes := by
  unfold setFields setPorts setAddresses
  have src : selected action.rewriteMask dpRewriteSrcIpv4
      (fun bytes => set32 bytes (14 + 12) action.srcIpv4) bytes = bytes :=
    selected_self fun chosen => set32_self (holds.srcIpv4 chosen)
  have dst : selected action.rewriteMask dpRewriteDstIpv4
      (fun bytes => set32 bytes (14 + 16) action.dstIpv4) bytes = bytes :=
    selected_self fun chosen => set32_self (holds.dstIpv4 chosen)
  have srcPort : selected action.rewriteMask dpRewriteSrcPort
      (fun bytes => set16 bytes l4 action.srcPort) bytes = bytes :=
    selected_self fun chosen => set16_self (holds.srcPort chosen)
  rw [src, dst, srcPort]
  exact selected_self fun chosen => set16_self (holds.dstPort chosen)

/-- The values survive changes of other bytes. -/
theorem DpRuleAction.Holds.congr {other : Nat → UInt8} (holds : action.Holds l4 bytes)
    (header : ∀ index, 26 ≤ index → index < 34 → other index = bytes index)
    (ports : ∀ index, l4 ≤ index → index < l4 + 4 → other index = bytes index) :
    action.Holds l4 other where
  srcIpv4 chosen := (word32_congr fun offset small =>
    header _ (by omega) (by omega)).trans (holds.srcIpv4 chosen)
  dstIpv4 chosen := (word32_congr fun offset small =>
    header _ (by omega) (by omega)).trans (holds.dstIpv4 chosen)
  srcPort chosen := (word16_congr (ports _ (by omega) (by omega))
    (ports _ (by omega) (by omega))).trans (holds.srcPort chosen)
  dstPort chosen := (word16_congr (ports _ (by omega) (by omega))
    (ports _ (by omega) (by omega))).trans (holds.dstPort chosen)

end Fields

section Seals

variable {library : ChecksumLibrary} {bytes : Nat → UInt8} {l4 checksum index : Nat}
  {header transport : UInt16}

/-- Two checksums are stored into cleared fields. -/
def sealed (checksum : Nat) (header transport : UInt16) (bytes : Nat → UInt8) : Nat → UInt8 :=
  set16 (set16 (clearSums 14 checksum bytes) 24 header) checksum transport

/-- Sealing touches the two checksum fields only. -/
theorem sealed_other (outside : index ∉ [24, 25, checksum, checksum + 1]) :
    sealed checksum header transport bytes index = bytes index := by
  simp only [List.mem_cons, List.not_mem_nil, or_false, not_or] at outside
  obtain ⟨high, low, first, second⟩ := outside
  rw [sealed, set16_other _ first second, set16_other _ high low, clearSums,
    set16_other _ high low, set16_other _ first second]

theorem clearSums_other (outside : index ∉ [24, 25, checksum, checksum + 1]) :
    clearSums 14 checksum bytes index = bytes index := by
  simp only [List.mem_cons, List.not_mem_nil, or_false, not_or] at outside
  obtain ⟨high, low, first, second⟩ := outside
  rw [clearSums, set16_other _ high low, set16_other _ first second]

/-- Both fields are zero after clearing. -/
theorem clearSums_zero (apart : 25 < checksum) :
    word16 (clearSums 14 checksum bytes) 24 = 0 ∧
      word16 (clearSums 14 checksum bytes) checksum = 0 := by
  constructor
  · exact word16_set16 0
  · have kept : word16 (clearSums 14 checksum bytes) checksum =
        word16 (set16 bytes checksum 0) checksum := by
      unfold clearSums
      exact word16_congr (set16_other _ (by omega) (by omega)) (set16_other _ (by omega) (by omega))
    rw [kept, word16_set16]
    rfl

/-- Clearing undoes the seal. -/
theorem clearSums_sealed (apart : 25 < checksum) :
    clearSums 14 checksum (sealed checksum header transport bytes) =
      clearSums 14 checksum bytes := by
  let cleared := clearSums 14 checksum bytes
  obtain ⟨headerZero, transportZero⟩ : word16 cleared 24 = 0 ∧ word16 cleared checksum = 0 :=
    clearSums_zero apart
  have first : set16 cleared 24 0 = cleared := set16_self headerZero
  have second : set16 cleared checksum 0 = cleared := set16_self transportZero
  calc clearSums 14 checksum (sealed checksum header transport bytes)
      = set16 (set16 (set16 (set16 cleared 24 header) checksum transport) checksum 0) 24 0 := rfl
    _ = set16 (set16 (set16 cleared 24 header) checksum 0) 24 0 := by rw [set16_set16]
    _ = set16 (set16 (set16 cleared checksum 0) 24 header) 24 0 := by
        rw [set16_comm (.inl apart)]
    _ = cleared := by rw [set16_set16, second, first]

/-- The stored header checksum completes the sum of the header. -/
theorem headerSum_valid (exact : library.Exact) (zero : word16 bytes 24 = 0)
    (room : 12 ≤ headerLength 14 bytes) :
    fold (wordSum (slice (set16 bytes 24 (headerSum library 14 bytes)) 14
      (headerLength 14 bytes))) = 65535 := by
  have stored : wordSum (slice (set16 bytes 24 (headerSum library 14 bytes)) 14
        (headerLength 14 bytes)) + word16 bytes 24 =
      wordSum (slice bytes 14 (headerLength 14 bytes)) + (headerSum library 14 bytes).toNat :=
    wordSum_set16 bytes _ 14 (show 10 % 2 = 0 from rfl) room
  have value : (headerSum library 14 bytes).toNat =
      65535 - fold (wordSum (slice bytes 14 (headerLength 14 bytes))) := by
    rw [headerSum, exact.ipv4]
    exact toNat_ofNat16 (by omega)
  rw [zero, value, Nat.add_zero] at stored
  rw [stored]
  exact fold_complement _

/-- The stored transport checksum completes the sum of the pseudo header and the data. -/
theorem transport_valid (exact : library.Exact) (srcAddr dstAddr : UInt32) (proto : UInt8)
    {offset length : Nat} (zero : word16 bytes (l4 + offset) = 0) (even : offset % 2 = 0)
    (room : offset + 2 ≤ length) :
    let value := library.transport srcAddr dstAddr proto (slice bytes l4 length)
    fold (wordSum (pseudoHeader srcAddr dstAddr proto length ++
      slice (set16 bytes (l4 + offset) value) l4 length)) = 65535 ∧
      (proto = ipprotoUdp → value.toNat ≠ 0) := by
  intro value
  have twelve : (pseudoHeader srcAddr dstAddr proto length).length % 2 = 0 := by
    simp [pseudoHeader]
  have pseudo (data : List UInt8) :
      wordSum (pseudoHeader srcAddr dstAddr proto length ++ data) =
        wordSum (pseudoHeader srcAddr dstAddr proto length) + wordSum data :=
    wordSum_append twelve data
  have stored := wordSum_set16 bytes value l4 even room
  rw [zero, Nat.add_zero] at stored
  have small := fold_lt (wordSum (pseudoHeader srcAddr dstAddr proto length) +
    wordSum (slice bytes l4 length))
  rw [pseudo, stored, ← Nat.add_assoc]
  have computed := exact.transport srcAddr dstAddr proto (slice bytes l4 length)
  rw [slice_length, pseudo] at computed
  dsimp only at computed
  by_cases ones : 65535 - fold (wordSum (pseudoHeader srcAddr dstAddr proto length) +
      wordSum (slice bytes l4 length)) = 0 ∧ proto = ipprotoUdp
  · rw [if_pos ones] at computed
    have full : value.toNat = 65535 := congrArg UInt16.toNat computed
    rw [full]
    exact ⟨fold_ones (by omega), fun _ => by decide⟩
  · rw [if_neg ones] at computed
    have complement : value.toNat = 65535 - fold (wordSum
        (pseudoHeader srcAddr dstAddr proto length) + wordSum (slice bytes l4 length)) := by
      rw [show value = _ from computed]
      exact toNat_ofNat16 (by omega)
    rw [complement]
    refine ⟨fold_complement _, fun udp impossible => ones ⟨impossible, udp⟩⟩

end Seals

section Frames

/-- The transport checksum is sixteen bytes into a TCP header and six bytes into a UDP header. -/
def RteMbuf.checksumOffset (frame : RteMbuf) : Nat :=
  if frame.bytes 23 = ipprotoTcp then 16 else 6

def RteMbuf.checksumStart (frame : RteMbuf) : Nat := frame.l4Start + frame.checksumOffset

/-- The transport data of a TCP frame fill its datagram, and a UDP header has its own length. -/
def RteMbuf.transportLength (frame : RteMbuf) : Nat :=
  if frame.bytes 23 = ipprotoTcp then frame.l4Length else word16 frame.bytes (frame.l4Start + 4)

def RteMbuf.cleared (frame : RteMbuf) (action : DpRuleAction) : Nat → UInt8 :=
  clearSums 14 frame.checksumStart (setFields frame.l4Start action frame.bytes)

def RteMbuf.headerSealed (library : ChecksumLibrary) (frame : RteMbuf) (action : DpRuleAction) :
    Nat → UInt8 :=
  sealHeader library 14 (frame.cleared action)

/-- The transport checksum covers the sealed header's addresses and the rewritten data. -/
def RteMbuf.transportChecksum (library : ChecksumLibrary) (frame : RteMbuf)
    (action : DpRuleAction) : UInt16 :=
  library.transport (UInt32.ofNat (word32 (frame.headerSealed library action) 26))
    (UInt32.ofNat (word32 (frame.headerSealed library action) 30))
    (frame.headerSealed library action 23)
    (slice (frame.headerSealed library action) frame.l4Start frame.transportLength)

/-- This is the frame that the rewriter leaves. -/
def RteMbuf.rewritten (library : ChecksumLibrary) (frame : RteMbuf) (action : DpRuleAction) :
    RteMbuf :=
  { frame with
    bytes := set16 (frame.headerSealed library action) frame.checksumStart
      (frame.transportChecksum library action) }

variable {library : ChecksumLibrary} {frame : RteMbuf} {action : DpRuleAction} {index : Nat}

/-- The checksum fields of an accepted frame lie where the rewriter writes them. -/
theorem RteMbuf.Accepted.layout (accepted : frame.Accepted) :
    34 ≤ frame.l4Start ∧ frame.l4Start = 14 + frame.ihl * 4 ∧ frame.ihl < 16 ∧
      frame.transportLength ≤ frame.l4Length ∧ frame.l4Length = frame.totalLength - frame.ihl * 4 ∧
      frame.ihl * 4 ≤ frame.totalLength ∧ frame.totalLength < 65536 ∧
      6 ≤ frame.checksumOffset ∧ frame.checksumOffset % 2 = 0 ∧
      frame.checksumOffset + 2 ≤ frame.transportLength := by
  obtain ⟨⟨-, -, -, -, least, covered, -⟩, -, transport⟩ := accepted
  have start : frame.l4Start = 14 + frame.ihl * 4 := rfl
  have length : frame.l4Length = frame.totalLength - frame.ihl * 4 := rfl
  have words := frame.ihl_lt
  have total : frame.totalLength < 65536 := word16_lt _ _
  refine ⟨by omega, start, words, ?_, length, covered, total, ?_, ?_, ?_⟩
  · unfold RteMbuf.transportLength
    rcases transport with ⟨tcp, -⟩ | ⟨udp, -, -, fits⟩
    · rw [if_pos tcp]
    · rw [if_neg (by rw [udp]; decide)]
      exact fits
  · unfold RteMbuf.checksumOffset
    split_ifs <;> decide
  · unfold RteMbuf.checksumOffset
    split_ifs <;> decide
  · unfold RteMbuf.checksumOffset RteMbuf.transportLength
    rcases transport with ⟨tcp, room, -⟩ | ⟨udp, -, datagram, -⟩
    · rw [if_pos tcp, if_pos tcp]
      omega
    · rw [if_neg (by rw [udp]; decide), if_neg (by rw [udp]; decide)]
      exact datagram

/-- The rewriter changes the selected fields and the two checksums only. -/
theorem RteMbuf.rewritten_other (outside : ¬ action.Selects frame.l4Start index)
    (apart : index ∉ [24, 25, frame.checksumStart, frame.checksumStart + 1]) :
    (frame.rewritten library action).bytes index = frame.bytes index := by
  change sealed frame.checksumStart (headerSum library 14 (frame.cleared action))
    (frame.transportChecksum library action) (setFields frame.l4Start action frame.bytes) index = _
  rw [sealed_other apart, setFields_other outside]

theorem RteMbuf.headerSealed_other (outside : ¬ action.Selects frame.l4Start index)
    (apart : index ∉ [24, 25, frame.checksumStart, frame.checksumStart + 1]) :
    frame.headerSealed library action index = frame.bytes index := by
  have separate : index ≠ 24 ∧ index ≠ 25 := by simp_all
  unfold RteMbuf.headerSealed sealHeader RteMbuf.cleared
  rw [set16_other _ separate.1 separate.2, clearSums_other apart, setFields_other outside]

/-- The fields that describe the layout are neither selected nor checksums. -/
theorem RteMbuf.Accepted.described (accepted : frame.Accepted) (action : DpRuleAction)
    (index : Nat) (fixed : index < 24 ∨ index = frame.l4Start + 4 ∨ index = frame.l4Start + 5 ∨
      (frame.bytes 23 = ipprotoTcp ∧ index = frame.l4Start + 12)) :
    ¬ action.Selects frame.l4Start index ∧
      index ∉ [24, 25, frame.checksumStart, frame.checksumStart + 1] := by
  have layout := accepted.layout
  constructor
  · have below : index < 24 ∨ frame.l4Start + 4 ≤ index := by
      rcases fixed with header | length | length | ⟨-, dataOffset⟩ <;> omega
    unfold DpRuleAction.Selects
    omega
  · have start : frame.checksumStart = frame.l4Start + frame.checksumOffset := rfl
    simp only [List.mem_cons, List.not_mem_nil, or_false]
    rcases fixed with header | length | length | ⟨tcp, dataOffset⟩
    · omega
    · omega
    · omega
    · have offset : frame.checksumOffset = 16 := if_pos tcp
      omega

theorem RteMbuf.Accepted.headerSealed_length (accepted : frame.Accepted)
    (library : ChecksumLibrary) (action : DpRuleAction) :
    headerLength 14 (frame.headerSealed library action) = frame.ihl * 4 := by
  obtain ⟨outside, apart⟩ := accepted.described action 14 (by omega)
  unfold headerLength
  rw [RteMbuf.headerSealed_other outside apart, frame.ihl_byte]

/-- A word of the description survives the header seal. -/
theorem RteMbuf.Accepted.headerSealed_word (accepted : frame.Accepted) (index : Nat)
    (fixed : index + 1 < 24 ∨ index = frame.l4Start + 4) :
    word16 (frame.headerSealed library action) index = word16 frame.bytes index := by
  obtain ⟨outside, apart⟩ := accepted.described action index (by omega)
  obtain ⟨outside', apart'⟩ := accepted.described action (index + 1) (by omega)
  exact word16_congr (RteMbuf.headerSealed_other outside apart)
    (RteMbuf.headerSealed_other outside' apart')

/-- The TCP block leaves the rewritten frame. -/
theorem RteMbuf.Accepted.sealTcp_eq (accepted : frame.Accepted)
    (tcp : frame.bytes 23 = ipprotoTcp) :
    sealTcp library 14 frame.l4Start (frame.headerSealed library action) =
      (frame.rewritten library action).bytes := by
  have offset : frame.checksumStart = frame.l4Start + 16 := by
    unfold RteMbuf.checksumStart RteMbuf.checksumOffset
    rw [if_pos tcp]
  have length : frame.transportLength = frame.totalLength - frame.ihl * 4 := if_pos tcp
  change set16 _ _ _ = set16 _ frame.checksumStart _
  rw [offset, transportSum, accepted.headerSealed_length library action,
    accepted.headerSealed_word (14 + 2) (.inl (by decide))]
  unfold RteMbuf.transportChecksum
  rw [length]
  rfl

/-- The UDP block leaves the rewritten frame, too. -/
theorem RteMbuf.Accepted.sealUdp_eq (accepted : frame.Accepted)
    (udp : frame.bytes 23 = ipprotoUdp) {info : DpPacketMeta}
    (l3 : info.l3Len.toNat = frame.ihl * 4) :
    sealUdp library 14 frame.l4Start info (frame.headerSealed library action) =
      (frame.rewritten library action).bytes := by
  have layout := accepted.layout
  have noTcp : frame.bytes 23 ≠ ipprotoTcp := by
    rw [udp]
    decide
  have offset : frame.checksumStart = frame.l4Start + 6 := by
    unfold RteMbuf.checksumStart RteMbuf.checksumOffset
    rw [if_neg noTcp]
  have length : frame.transportLength = word16 frame.bytes (frame.l4Start + 4) := if_neg noTcp
  let sealedHeader := frame.headerSealed library action
  let shortened := shorten 14 frame.l4Start info sealedHeader
  have keep (index : Nat) (high : index ≠ 16) (low : index ≠ 17) :
      shortened index = sealedHeader index := set16_other _ high low
  have total : word16 shortened 16 = frame.ihl * 4 + frame.transportLength := by
    change word16 (set16 _ 16 _) 16 = _
    rw [word16_set16, l3, accepted.headerSealed_word _ (.inr rfl), ← length]
    exact toNat_ofNat16 (by omega)
  have header : headerLength 14 shortened = frame.ihl * 4 := by
    rw [← accepted.headerSealed_length library action]
    unfold headerLength
    rw [keep 14 (by decide) (by decide)]
  have value : transportSum library 14 frame.l4Start shortened =
      frame.transportChecksum library action := by
    have data : slice shortened frame.l4Start frame.transportLength =
        slice sealedHeader frame.l4Start frame.transportLength :=
      slice_congr fun offset _ => keep _ (by omega) (by omega)
    have src : word32 shortened 26 = word32 sealedHeader 26 :=
      word32_congr fun offset _ => keep _ (by omega) (by omega)
    have dst : word32 shortened 30 = word32 sealedHeader 30 :=
      word32_congr fun offset _ => keep _ (by omega) (by omega)
    have count : word16 shortened (14 + 2) - headerLength 14 shortened =
        frame.transportLength := by
      rw [header, total]
      omega
    unfold transportSum
    rw [count, data, src, dst, keep (14 + 9) (by decide) (by decide)]
    rfl
  change set16 (set16 shortened (frame.l4Start + 6)
    (transportSum library 14 frame.l4Start shortened)) 16 _ = set16 sealedHeader _ _
  have apart : 16 + 1 < frame.l4Start + 6 ∨ frame.l4Start + 6 + 1 < 16 := .inl (by omega)
  have restored : set16 sealedHeader 16 (UInt16.ofNat (word16 sealedHeader 16)) = sealedHeader :=
    set16_self (toNat_ofNat_word16 _ _).symm
  rw [value, offset, ← set16_comm apart]
  change set16 (set16 (set16 sealedHeader 16 _) 16 _) _ _ = _
  rw [set16_set16, restored]

/-- The rewriter returns zero and leaves the rewritten frame. -/
theorem dpApplyAction_rewritten (accepted : frame.Accepted)
    (rewrite : action.type = dpActionRewrite) (mask : action.rewriteMask ≠ 0) :
    (runPacket (dpApplyAction library frame.decoded action) frame).1 = 0 ∧
      (runPacket (dpApplyAction library frame.decoded action) frame).2.mbuf =
        frame.rewritten library action := by
  obtain ⟨⟨-, -, valid⟩, -, transport⟩ := id accepted
  have l2 : frame.decoded.l2Len.toNat = 14 := rfl
  have start : frame.l4Start = 14 + frame.ihl * 4 := rfl
  have l4 : frame.decoded.l4Offset.toNat = frame.l4Start :=
    toNat_ofNat16 (by have := frame.ihl_lt; omega)
  have l3 : frame.decoded.l3Len.toNat = frame.ihl * 4 := frame.ihlBytes_toNat
  have proto : frame.decoded.l4Proto = frame.bytes 23 := rfl
  have other : ¬ (action.type = dpActionDrop ∨ action.type = dpActionForward) := by
    rw [rewrite]
    decide
  have passes : ¬ (action.type ≠ dpActionRewrite ∨ action.rewriteMask = 0) := by tauto
  have prepared (checksum : Nat) (same : frame.checksumStart = checksum) :
      sealHeader library 14 (clearSums 14 checksum (setPorts frame.l4Start action
        (setAddresses 14 action frame.bytes))) = frame.headerSealed library action := by
    rw [← same]
    rfl
  have addresses {program : PacketM Int} {change : (Nat → UInt8) → Nat → UInt8}
      (effect : Effect program (fun _ => 0) change) :
      Effect (do
        storeSelected action.rewriteMask dpRewriteSrcIpv4 (storeBe32 (14 + 12) action.srcIpv4)
        storeSelected action.rewriteMask dpRewriteDstIpv4 (storeBe32 (14 + 16) action.dstIpv4)
        program) (fun _ => 0) fun bytes => change (setAddresses 14 action bytes) :=
    Effect.bind (storeSelected_effect _ _ (storeBe32_effect _ _)) fun _ =>
      Effect.bind (storeSelected_effect _ _ (storeBe32_effect _ _)) fun _ => effect
  unfold dpApplyAction
  simp only [if_neg other, if_neg passes, l2, l4, proto]
  rcases transport with ⟨tcp, -⟩ | ⟨udp, -⟩
  · have offset : frame.checksumStart = frame.l4Start + 16 := by
      unfold RteMbuf.checksumStart RteMbuf.checksumOffset
      rw [if_pos tcp]
    rw [if_pos tcp]
    obtain ⟨value, mbuf⟩ :=
      (addresses (rewriteTcp_effect library 14 frame.l4Start action)).runPacket frame
    refine ⟨value, mbuf.trans ?_⟩
    rw [prepared _ offset, accepted.sealTcp_eq tcp]
    rfl
  · have noTcp : frame.bytes 23 ≠ ipprotoTcp := by
      rw [udp]
      decide
    have offset : frame.checksumStart = frame.l4Start + 6 := by
      unfold RteMbuf.checksumStart RteMbuf.checksumOffset
      rw [if_neg noTcp]
    rw [if_neg noTcp, if_pos udp]
    obtain ⟨value, mbuf⟩ :=
      (addresses (rewriteUdp_effect library 14 frame.l4Start frame.decoded action)).runPacket frame
    refine ⟨value, mbuf.trans ?_⟩
    rw [prepared _ offset, accepted.sealUdp_eq udp l3]
    rfl

end Frames

end FlowRouter.Native
