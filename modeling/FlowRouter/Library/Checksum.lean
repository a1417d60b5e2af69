import FlowRouter.Library.BigEndian

namespace Checksum
open BigEndian

/-- The words of a range are added in network order. A last odd byte is the high half of a word. -/
def wordSum : List UInt8 → Nat
  | [] => 0
  | [last] => last.toNat * 256
  | high :: low :: rest => high.toNat * 256 + low.toNat + wordSum rest

/-- Ones' complement addition carries the overflow around, so it adds modulo 65535 and keeps zero
apart from 65535. -/
def fold (sum : Nat) : Nat :=
  if sum = 0 then 0 else (sum - 1) % 65535 + 1

theorem fold_lt (sum : Nat) : fold sum < 65536 := by
  unfold fold
  split_ifs <;> omega

/-- A range with the complement of its sum adds up to all ones. -/
theorem fold_complement (sum : Nat) : fold (sum + (65535 - fold sum)) = 65535 := by
  unfold fold
  split_ifs <;> omega

/-- All ones may replace the zero complement. -/
theorem fold_ones {sum : Nat} (full : fold sum = 65535) : fold (sum + 65535) = 65535 := by
  unfold fold at *
  split_ifs at *
  omega

/-- A front of whole words does not mix with the rest. -/
theorem wordSum_append {first : List UInt8} (even : first.length % 2 = 0) (second : List UInt8) :
    wordSum (first ++ second) = wordSum first + wordSum second := by
  induction first using wordSum.induct with
  | case1 => simp [wordSum]
  | case2 last => simp at even
  | case3 high low rest ih =>
    have tail : rest.length % 2 = 0 := by
      simp only [List.length_cons] at even
      omega
    simp only [List.cons_append, wordSum, ih tail]
    omega

/-- A range of memory is a list of bytes. -/
def slice (bytes : Nat → UInt8) (first count : Nat) : List UInt8 :=
  (List.range count).map fun offset => bytes (first + offset)

@[simp] theorem slice_length (bytes : Nat → UInt8) (first count : Nat) :
    (slice bytes first count).length = count := by
  simp [slice]

theorem slice_congr {left right : Nat → UInt8} {first count : Nat}
    (same : ∀ offset < count, left (first + offset) = right (first + offset)) :
    slice left first count = slice right first count :=
  List.map_congr_left fun offset member => same offset (List.mem_range.mp member)

theorem slice_add (bytes : Nat → UInt8) (first count more : Nat) :
    slice bytes first (count + more) =
      slice bytes first count ++ slice bytes (first + count) more := by
  simp [slice, List.range_add, Nat.add_assoc, Function.comp_def]

/-- A word of the range contributes its value. -/
theorem wordSum_slice (bytes : Nat → UInt8) {first count position : Nat}
    (even : position % 2 = 0) (inside : position + 2 ≤ count) :
    wordSum (slice bytes first count) = wordSum (slice bytes first position) +
      (word16 bytes (first + position) +
        wordSum (slice bytes (first + position + 2) (count - position - 2))) := by
  obtain ⟨more, rfl⟩ := Nat.exists_eq_add_of_le inside
  have rest : position + 2 + more - position - 2 = more := by omega
  have word : slice bytes (first + position) 2 =
      [bytes (first + position), bytes (first + position + 1)] := rfl
  rw [rest, Nat.add_assoc, slice_add, wordSum_append (by simpa using even), slice_add, word]
  rfl

/-- Storing a word in the range replaces its contribution. -/
theorem wordSum_set16 (bytes : Nat → UInt8) (value : UInt16) (first : Nat) {count position : Nat}
    (even : position % 2 = 0) (inside : position + 2 ≤ count) :
    wordSum (slice (set16 bytes (first + position) value) first count) +
        word16 bytes (first + position) =
      wordSum (slice bytes first count) + value.toNat := by
  have front : slice (set16 bytes (first + position) value) first position =
      slice bytes first position :=
    slice_congr fun offset below => set16_other _ (by omega) (by omega)
  have back : slice (set16 bytes (first + position) value) (first + position + 2)
      (count - position - 2) = slice bytes (first + position + 2) (count - position - 2) :=
    slice_congr fun offset below => set16_other _ (by omega) (by omega)
  rw [wordSum_slice _ even inside, wordSum_slice bytes even inside, front, back, word16_set16]
  omega

end Checksum
