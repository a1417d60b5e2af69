import Mathlib.Logic.Basic

/-- A buffered channel keeps its messages in their order. -/
structure Channel (Message : Type) (capacity : Nat) where
  buffer : List Message
  bounded : buffer.length ≤ capacity

namespace Channel

variable {Message : Type} {capacity : Nat}

def empty : Channel Message capacity := ⟨[], Nat.zero_le _⟩

def HasRoom (channel : Channel Message capacity) : Prop := channel.buffer.length < capacity

instance (channel : Channel Message capacity) : Decidable channel.HasRoom :=
  inferInstanceAs (Decidable (_ < _))

/-- A send that does not block discards its message when the buffer is full. -/
def trySend (channel : Channel Message capacity) (message : Message) : Channel Message capacity :=
  if room : channel.HasRoom then
    ⟨channel.buffer ++ [message], by simpa using Nat.succ_le_of_lt room⟩
  else channel

/-- A receive takes the oldest message. -/
def receive (channel : Channel Message capacity) :
    Option (Message × Channel Message capacity) :=
  match channel with
  | ⟨[], _⟩ => none
  | ⟨message :: rest, bounded⟩ => some (message, ⟨rest, Nat.le_of_succ_le bounded⟩)

theorem mem_trySend {channel : Channel Message capacity} {message other : Message} :
    other ∈ (channel.trySend message).buffer ↔
      other ∈ channel.buffer ∨ channel.HasRoom ∧ other = message := by
  rw [trySend]
  by_cases room : channel.HasRoom
  · rw [dif_pos room, List.mem_append, List.mem_singleton, and_iff_right room]
  · rw [dif_neg room]
    exact ⟨Or.inl, fun either => either.resolve_right fun sent => room sent.1⟩

theorem mem_receive {channel rest : Channel Message capacity} {message : Message}
    (received : channel.receive = some (message, rest)) (other : Message) :
    other ∈ channel.buffer ↔ other = message ∨ other ∈ rest.buffer := by
  obtain ⟨buffer, bounded⟩ := channel
  cases buffer with
  | nil => cases received
  | cons first later =>
    obtain ⟨rfl, rfl⟩ := Prod.mk.inj (Option.some.inj received)
    exact List.mem_cons

end Channel
