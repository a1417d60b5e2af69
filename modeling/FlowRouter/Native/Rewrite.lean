import FlowRouter.Library.Checksum
import FlowRouter.Native.Action

namespace FlowRouter.Native
open BigEndian Checksum

variable {A B : Type}

/-- A packet program returns a function of the bytes and replaces them by another. -/
def Effect (program : PacketM A) (value : (Nat → UInt8) → A)
    (change : (Nat → UInt8) → Nat → UInt8) : Prop :=
  ∀ state, (program.run state).1 = value state.mbuf.bytes ∧
    (program.run state).2.mbuf = { state.mbuf with bytes := change state.mbuf.bytes }

/-- Two effects follow each other. -/
theorem Effect.bind {program : PacketM A} {next : A → PacketM B} {value : (Nat → UInt8) → A}
    {change : (Nat → UInt8) → Nat → UInt8} {value' : A → (Nat → UInt8) → B}
    {change' : A → (Nat → UInt8) → Nat → UInt8} (first : Effect program value change)
    (second : ∀ result, Effect (next result) (value' result) (change' result)) :
    Effect (program >>= next) (fun bytes => value' (value bytes) (change bytes))
      (fun bytes => change' (value bytes) (change bytes)) := by
  intro state
  obtain ⟨result, mbuf⟩ := first state
  obtain ⟨result', mbuf'⟩ := second (program.run state).1 (program.run state).2
  exact ⟨result'.trans (by rw [mbuf, result]), mbuf'.trans (by rw [mbuf, result])⟩

/-- A whole run starts from the bytes of its mbuf. -/
theorem Effect.runPacket {program : PacketM A} {value : (Nat → UInt8) → A}
    {change : (Nat → UInt8) → Nat → UInt8} (effect : Effect program value change)
    (mbuf : RteMbuf) :
    (runPacket program mbuf).1 = value mbuf.bytes ∧
      (runPacket program mbuf).2.mbuf = { mbuf with bytes := change mbuf.bytes } :=
  effect ⟨mbuf, []⟩

theorem Effect.pure (result : A) :
    Effect (Pure.pure result) (fun _ => result) (fun bytes => bytes) :=
  fun _ => ⟨rfl, rfl⟩

theorem load8_effect (index : Nat) :
    Effect (load8 index) (fun bytes => bytes index) (fun bytes => bytes) :=
  fun _ => ⟨rfl, rfl⟩

theorem loadBe16_effect (index : Nat) :
    Effect (loadBe16 index) (fun bytes => UInt16.ofNat (word16 bytes index)) (fun bytes => bytes) :=
  fun _ => ⟨rfl, rfl⟩

theorem loadBe32_effect (index : Nat) :
    Effect (loadBe32 index) (fun bytes => UInt32.ofNat (word32 bytes index)) (fun bytes => bytes) :=
  fun _ => ⟨rfl, rfl⟩

theorem loadRange_effect (first count : Nat) :
    Effect (loadRange first count) (fun bytes => slice bytes first count) (fun bytes => bytes) :=
  fun _ => ⟨rfl, rfl⟩

theorem narrow16_effect (value : Int) :
    Effect (narrow16 value) (fun _ => UInt16.ofInt value) (fun bytes => bytes) :=
  fun _ => ⟨rfl, rfl⟩

theorem storeBe16_effect (index : Nat) (value : UInt16) :
    Effect (storeBe16 index value) (fun _ => ()) (fun bytes => set16 bytes index value) :=
  fun _ => ⟨rfl, rfl⟩

theorem storeBe32_effect (index : Nat) (value : UInt32) :
    Effect (storeBe32 index value) (fun _ => ()) (fun bytes => set32 bytes index value) :=
  fun _ => ⟨rfl, rfl⟩

/-- A selected change happens when its bit is set. -/
def selected (mask bit : UInt8) (change : (Nat → UInt8) → Nat → UInt8) (bytes : Nat → UInt8) :
    Nat → UInt8 :=
  if mask &&& bit ≠ 0 then change bytes else bytes

theorem storeSelected_effect (mask bit : UInt8) {store : PacketM Unit}
    {change : (Nat → UInt8) → Nat → UInt8} (effect : Effect store (fun _ => ()) change) :
    Effect (storeSelected mask bit store) (fun _ => ()) (selected mask bit change) := by
  unfold storeSelected selected
  by_cases chosen : mask &&& bit ≠ 0
  · simpa only [if_pos chosen] using effect
  · simpa only [if_neg chosen] using Effect.pure ()

section Sums

variable (library : ChecksumLibrary) (ipv4 l4 : Nat) (bytes : Nat → UInt8)

/-- The header length is read from the first byte of the header. -/
def headerLength : Nat := (bytes ipv4 &&& 0x0f).toNat * 4

def headerSum : UInt16 := library.ipv4 (slice bytes ipv4 (headerLength ipv4 bytes))

def transportSum : UInt16 :=
  library.transport (UInt32.ofNat (word32 bytes (ipv4 + 12)))
    (UInt32.ofNat (word32 bytes (ipv4 + 16))) (bytes (ipv4 + 9))
    (slice bytes l4 (word16 bytes (ipv4 + 2) - headerLength ipv4 bytes))

theorem rteIpv4Cksum_effect :
    Effect (rteIpv4Cksum library ipv4) (headerSum library ipv4) (fun bytes => bytes) :=
  Effect.bind (load8_effect ipv4) fun _ =>
    Effect.bind (loadRange_effect _ _) fun _ => Effect.pure _

theorem rteIpv4UdptcpCksum_effect :
    Effect (rteIpv4UdptcpCksum library ipv4 l4) (transportSum library ipv4 l4)
      (fun bytes => bytes) := by
  intro state
  have effect : Effect (rteIpv4UdptcpCksum library ipv4 l4) _ _ :=
    Effect.bind (load8_effect ipv4) fun _ =>
      Effect.bind (loadBe16_effect (ipv4 + 2)) fun _ =>
      Effect.bind (loadBe32_effect (ipv4 + 12)) fun _ =>
      Effect.bind (loadBe32_effect (ipv4 + 16)) fun _ =>
      Effect.bind (load8_effect (ipv4 + 9)) fun _ =>
      Effect.bind (loadRange_effect l4 _) fun _ => Effect.pure _
  obtain ⟨value, mbuf⟩ := effect state
  refine ⟨value.trans ?_, mbuf⟩
  unfold transportSum headerLength
  rw [toNat_ofNat_word16]

end Sums

section Blocks

variable (library : ChecksumLibrary) (ipv4 l4 : Nat) (info : DpPacketMeta) (action : DpRuleAction)

def setAddresses (bytes : Nat → UInt8) : Nat → UInt8 :=
  selected action.rewriteMask dpRewriteDstIpv4 (fun bytes => set32 bytes (ipv4 + 16) action.dstIpv4)
    (selected action.rewriteMask dpRewriteSrcIpv4
      (fun bytes => set32 bytes (ipv4 + 12) action.srcIpv4) bytes)

def setPorts (bytes : Nat → UInt8) : Nat → UInt8 :=
  selected action.rewriteMask dpRewriteDstPort (fun bytes => set16 bytes (l4 + 2) action.dstPort)
    (selected action.rewriteMask dpRewriteSrcPort (fun bytes => set16 bytes l4 action.srcPort) bytes)

/-- Both checksum fields are zero while the sums are computed. -/
def clearSums (checksum : Nat) (bytes : Nat → UInt8) : Nat → UInt8 :=
  set16 (set16 bytes checksum 0) (ipv4 + 10) 0

def sealHeader (bytes : Nat → UInt8) : Nat → UInt8 :=
  set16 bytes (ipv4 + 10) (headerSum library ipv4 bytes)

def sealTcp (bytes : Nat → UInt8) : Nat → UInt8 :=
  set16 bytes (l4 + 16) (transportSum library ipv4 l4 bytes)

/-- The total length describes the datagram alone while its sum is computed. -/
def shorten (bytes : Nat → UInt8) : Nat → UInt8 :=
  set16 bytes (ipv4 + 2) (UInt16.ofNat (info.l3Len.toNat + word16 bytes (l4 + 4)))

def sealUdp (bytes : Nat → UInt8) : Nat → UInt8 :=
  set16
    (set16 (shorten ipv4 l4 info bytes) (l4 + 6)
      (transportSum library ipv4 l4 (shorten ipv4 l4 info bytes)))
    (ipv4 + 2) (UInt16.ofNat (word16 bytes (ipv4 + 2)))

theorem rewriteTcp_effect :
    Effect (rewriteTcp library ipv4 l4 action) (fun _ => 0) fun bytes =>
      sealTcp library ipv4 l4 (sealHeader library ipv4
        (clearSums ipv4 (l4 + 16) (setPorts l4 action bytes))) :=
  Effect.bind (storeSelected_effect _ _ (storeBe16_effect _ _)) fun _ =>
    Effect.bind (storeSelected_effect _ _ (storeBe16_effect _ _)) fun _ =>
    Effect.bind (storeBe16_effect _ _) fun _ => Effect.bind (storeBe16_effect _ _) fun _ =>
    Effect.bind (rteIpv4Cksum_effect _ _) fun _ => Effect.bind (storeBe16_effect _ _) fun _ =>
    Effect.bind (rteIpv4UdptcpCksum_effect _ _ _) fun _ =>
    Effect.bind (storeBe16_effect _ _) fun _ => Effect.pure _

theorem rewriteUdp_effect :
    Effect (rewriteUdp library ipv4 l4 info action) (fun _ => 0) fun bytes =>
      sealUdp library ipv4 l4 info (sealHeader library ipv4
        (clearSums ipv4 (l4 + 6) (setPorts l4 action bytes))) := by
  intro state
  have effect : Effect (rewriteUdp library ipv4 l4 info action) _ _ :=
    Effect.bind (storeSelected_effect _ _ (storeBe16_effect _ _)) fun _ =>
      Effect.bind (storeSelected_effect _ _ (storeBe16_effect _ _)) fun _ =>
      Effect.bind (storeBe16_effect _ _) fun _ => Effect.bind (storeBe16_effect _ _) fun _ =>
      Effect.bind (rteIpv4Cksum_effect _ _) fun _ => Effect.bind (storeBe16_effect _ _) fun _ =>
      Effect.bind (loadBe16_effect (ipv4 + 2)) fun _ =>
      Effect.bind (loadBe16_effect (l4 + 4)) fun _ => Effect.bind (narrow16_effect _) fun _ =>
      Effect.bind (storeBe16_effect _ _) fun _ =>
      Effect.bind (rteIpv4UdptcpCksum_effect _ _ _) fun _ =>
      Effect.bind (storeBe16_effect _ _) fun _ => Effect.bind (storeBe16_effect _ _) fun _ =>
      Effect.pure _
  obtain ⟨value, mbuf⟩ := effect state
  refine ⟨value, mbuf.trans ?_⟩
  simp only [sealUdp, shorten, ofInt16_natCast, toNat_ofNat_word16]
  rfl

end Blocks

end FlowRouter.Native
