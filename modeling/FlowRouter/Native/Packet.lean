import FlowRouter.Library.BigEndian
import FlowRouter.Native.Api

namespace FlowRouter.Native
open BigEndian

/-- The parser fills this record in host byte order. -/
structure DpPacketMeta where
  etherType : UInt16
  srcIpv4 : UInt32
  dstIpv4 : UInt32
  l4Proto : UInt8
  srcPort : UInt16
  dstPort : UInt16
  l2Len : UInt16
  l3Len : UInt16
  l4Len : UInt16
  l4Offset : UInt16
  deriving DecidableEq, Repr

def DpPacketMeta.zero : DpPacketMeta := ⟨0, 0, 0, 0, 0, 0, 0, 0, 0, 0⟩

inductive DpParseResult where
  | ok
  | unsupported
  | malformed
  deriving DecidableEq, Repr

/-- The byte function is the memory that follows the data pointer of the first segment.
It is total because C reads whatever lies there. The access log decides what is in bounds. -/
structure RteMbuf where
  nbSegs : UInt16
  pktLen : UInt32
  dataLen : UInt16
  bytes : Nat → UInt8

/-- The log records every touched byte and every integer that is stored into sixteen bits. -/
inductive Access where
  | read (index : Nat)
  | write (index : Nat)
  | narrow (value : Int)
  deriving DecidableEq, Repr

structure PacketState where
  mbuf : RteMbuf
  accesses : List Access

/-- Packet code runs over one mbuf and extends its access log. -/
abbrev PacketM := StateM PacketState

def PacketState.log (state : PacketState) (accesses : List Access) : PacketState :=
  { state with accesses := state.accesses ++ accesses }

/-- A run starts with an empty access log. -/
def runPacket {A : Type} (program : PacketM A) (mbuf : RteMbuf) : A × PacketState :=
  Id.run (program.run ⟨mbuf, []⟩)

def load8 (index : Nat) : PacketM UInt8 := fun state =>
  (state.mbuf.bytes index, state.log [.read index])

/-- This load includes `rte_be_to_cpu_16`. -/
def loadBe16 (index : Nat) : PacketM UInt16 := fun state =>
  (UInt16.ofNat (word16 state.mbuf.bytes index), state.log [.read index, .read (index + 1)])

/-- This load includes `rte_be_to_cpu_32`. -/
def loadBe32 (index : Nat) : PacketM UInt32 := fun state =>
  (UInt32.ofNat (word32 state.mbuf.bytes index),
    state.log [.read index, .read (index + 1), .read (index + 2), .read (index + 3)])

/-- A checksum routine reads a contiguous range. -/
def loadRange (first count : Nat) : PacketM (List UInt8) := fun state =>
  ((List.range count).map fun offset => state.mbuf.bytes (first + offset),
    state.log ((List.range count).map fun offset => .read (first + offset)))

def store8 (index : Nat) (value : UInt8) : PacketM Unit := fun state =>
  ((), { mbuf := { state.mbuf with bytes := Function.update state.mbuf.bytes index value }
         accesses := state.accesses ++ [.write index] })

/-- This store includes `rte_cpu_to_be_16`. -/
def storeBe16 (index : Nat) (value : UInt16) : PacketM Unit := do
  store8 index (UInt8.ofNat (value.toNat / 256))
  store8 (index + 1) (UInt8.ofNat value.toNat)

/-- This store includes `rte_cpu_to_be_32`. -/
def storeBe32 (index : Nat) (value : UInt32) : PacketM Unit := do
  storeBe16 index (UInt16.ofNat (value.toNat / 65536))
  storeBe16 (index + 2) (UInt16.ofNat value.toNat)

/-- An `int` expression loses its high bits when the code stores it in a `uint16_t`. -/
def narrow16 (value : Int) : PacketM UInt16 := fun state =>
  (UInt16.ofInt value, state.log [.narrow value])

@[simp] theorem PacketState.log_mbuf (state : PacketState) (accesses : List Access) :
    (state.log accesses).mbuf = state.mbuf := rfl

@[simp] theorem PacketState.log_accesses (state : PacketState) (accesses : List Access) :
    (state.log accesses).accesses = state.accesses ++ accesses := rfl

@[simp] theorem PacketState.log_log (state : PacketState) (first second : List Access) :
    (state.log first).log second = state.log (first ++ second) := by
  simp [PacketState.log]

theorem PacketState.log_nil (state : PacketState) : state.log [] = state := by
  simp [PacketState.log]

@[simp] theorem load8_run (index : Nat) (state : PacketState) :
    (load8 index).run state = pure (state.mbuf.bytes index, state.log [.read index]) := rfl

@[simp] theorem loadBe16_run (index : Nat) (state : PacketState) :
    (loadBe16 index).run state = pure (UInt16.ofNat (word16 state.mbuf.bytes index),
      state.log [.read index, .read (index + 1)]) := rfl

@[simp] theorem loadBe32_run (index : Nat) (state : PacketState) :
    (loadBe32 index).run state = pure (UInt32.ofNat (word32 state.mbuf.bytes index),
      state.log [.read index, .read (index + 1), .read (index + 2), .read (index + 3)]) := rfl

@[simp] theorem loadRange_run (first count : Nat) (state : PacketState) :
    (loadRange first count).run state =
      pure ((List.range count).map fun offset => state.mbuf.bytes (first + offset),
        state.log ((List.range count).map fun offset => .read (first + offset))) := rfl

@[simp] theorem narrow16_run (value : Int) (state : PacketState) :
    (narrow16 value).run state = pure (UInt16.ofInt value, state.log [.narrow value]) := rfl

/-- An access stays inside a window of bytes, and a stored integer keeps its value. -/
def Access.Inside (first last : Nat) : Access → Prop
  | .read index => first ≤ index ∧ index < last
  | .write index => first ≤ index ∧ index < last
  | .narrow value => 0 ≤ value ∧ value < 65536

/-- A larger window admits the same accesses. -/
theorem Access.Inside.mono {first last first' last' : Nat} {access : Access}
    (inside : access.Inside first last) (lower : first' ≤ first) (upper : last ≤ last') :
    access.Inside first' last' := by
  cases access <;> simp only [Access.Inside] at * <;> omega

/-- Two stages stay inside a window when each of them does. -/
theorem Access.inside_append {first last : Nat} {front back : List Access}
    (before : ∀ access ∈ front, access.Inside first last)
    (after : ∀ access ∈ back, access.Inside first last) :
    ∀ access ∈ front ++ back, access.Inside first last := by
  intro access member
  rcases List.mem_append.mp member with earlier | later
  · exact before access earlier
  · exact after access later

/-- A range read touches exactly the bytes of its range. -/
theorem Access.inside_range {first last start count : Nat} (lower : first ≤ start)
    (upper : start + count ≤ last) :
    ∀ access ∈ (List.range count).map fun offset => Access.read (start + offset),
      access.Inside first last := by
  intro access member
  obtain ⟨offset, inside, rfl⟩ := List.mem_map.mp member
  have small := List.mem_range.mp inside
  exact ⟨by omega, by omega⟩

end FlowRouter.Native
