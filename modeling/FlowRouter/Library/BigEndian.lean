import Mathlib.Data.UInt
import Mathlib.Logic.Function.Basic
import Mathlib.Tactic.Linarith

namespace BigEndian

/-- A sixteen-bit field keeps its most significant byte first. -/
def word16 (bytes : Nat → UInt8) (index : Nat) : Nat :=
  (bytes index).toNat * 256 + (bytes (index + 1)).toNat

/-- A thirty-two-bit field consists of two sixteen-bit fields. -/
def word32 (bytes : Nat → UInt8) (index : Nat) : Nat :=
  word16 bytes index * 65536 + word16 bytes (index + 2)

theorem word16_lt (bytes : Nat → UInt8) (index : Nat) : word16 bytes index < 65536 := by
  have high := (bytes index).toNat_lt
  have low := (bytes (index + 1)).toNat_lt
  unfold word16
  omega

/-- The decoded field fits its fixed-width type. -/
@[simp] theorem toNat_ofNat_word16 (bytes : Nat → UInt8) (index : Nat) :
    (UInt16.ofNat (word16 bytes index)).toNat = word16 bytes index := by
  simpa using word16_lt bytes index

/-- A field depends on its own bytes only. -/
theorem word16_congr {first second : Nat → UInt8} {index : Nat}
    (high : first index = second index) (low : first (index + 1) = second (index + 1)) :
    word16 first index = word16 second index := by
  simp only [word16, high, low]

theorem word32_congr {first second : Nat → UInt8} {index : Nat}
    (same : ∀ offset < 4, first (index + offset) = second (index + offset)) :
    word32 first index = word32 second index := by
  have high : word16 first index = word16 second index :=
    word16_congr (same 0 (by decide)) (same 1 (by decide))
  have low : word16 first (index + 2) = word16 second (index + 2) :=
    word16_congr (same 2 (by decide)) (same 3 (by decide))
  simp only [word32, high, low]

/-- The high four bits of a byte are its quotient by sixteen. -/
theorem toNat_shiftRight_four (value : UInt8) : (value >>> 4).toNat = value.toNat / 16 := by
  simp [UInt8.toNat_shiftRight, Nat.shiftRight_eq_div_pow]

/-- The low four bits of a byte are its remainder by sixteen. -/
theorem toNat_and_fifteen (value : UInt8) : (value &&& 0x0f).toNat = value.toNat % 16 := by
  rw [UInt8.toNat_and]
  exact Nat.and_two_pow_sub_one_eq_mod value.toNat 4

/-- A natural number converts to sixteen bits in the same way as an integer. -/
theorem ofInt16_natCast (value : Nat) : UInt16.ofInt (value : Int) = UInt16.ofNat value := by
  apply UInt16.toNat_inj.mp
  simp only [UInt16.ofInt, UInt16.toNat_ofNat']
  omega

/-- A number below the bound survives the conversion to sixteen bits. -/
theorem toNat_ofNat16 {value : Nat} (fits : value < 65536) : (UInt16.ofNat value).toNat = value := by
  rw [UInt16.toNat_ofNat']
  exact Nat.mod_eq_of_lt fits

section Stores

variable {bytes : Nat → UInt8} {index other : Nat}

/-- The store of a sixteen-bit field writes its most significant byte first. -/
def set16 (bytes : Nat → UInt8) (index : Nat) (value : UInt16) : Nat → UInt8 :=
  Function.update (Function.update bytes index (UInt8.ofNat (value.toNat / 256))) (index + 1)
    (UInt8.ofNat value.toNat)

/-- The store of a thirty-two-bit field stores its most significant half first. -/
def set32 (bytes : Nat → UInt8) (index : Nat) (value : UInt32) : Nat → UInt8 :=
  set16 (set16 bytes index (UInt16.ofNat (value.toNat / 65536))) (index + 2)
    (UInt16.ofNat value.toNat)

theorem set16_other (value : UInt16) (first : other ≠ index) (second : other ≠ index + 1) :
    set16 bytes index value other = bytes other := by
  rw [set16, Function.update_of_ne second, Function.update_of_ne first]

theorem set16_high (value : UInt16) :
    set16 bytes index value index = UInt8.ofNat (value.toNat / 256) := by
  rw [set16, Function.update_of_ne (Nat.succ_ne_self index).symm, Function.update_self]

theorem set16_low (value : UInt16) :
    set16 bytes index value (index + 1) = UInt8.ofNat value.toNat := by
  rw [set16, Function.update_self]

/-- A stored field reads back. -/
theorem word16_set16 (value : UInt16) : word16 (set16 bytes index value) index = value.toNat := by
  have bound := value.toNat_lt
  rw [word16, set16_high, set16_low]
  simp only [UInt8.toNat_ofNat']
  omega

/-- The field that is there may be stored again. -/
theorem set16_self {value : UInt16} (same : word16 bytes index = value.toNat) :
    set16 bytes index value = bytes := by
  have high := (bytes index).toNat_lt
  have low := (bytes (index + 1)).toNat_lt
  unfold word16 at same
  funext position
  by_cases second : position = index + 1
  · rw [second, set16_low, ← UInt8.toNat_inj, UInt8.toNat_ofNat']
    omega
  by_cases first : position = index
  · rw [first, set16_high, ← UInt8.toNat_inj, UInt8.toNat_ofNat']
    omega
  · exact set16_other _ first second

/-- A later store wins. -/
theorem set16_set16 (early late : UInt16) :
    set16 (set16 bytes index early) index late = set16 bytes index late := by
  funext position
  by_cases second : position = index + 1
  · rw [second, set16_low, set16_low]
  by_cases first : position = index
  · rw [first, set16_high, set16_high]
  · rw [set16_other _ first second, set16_other _ first second, set16_other _ first second]

/-- Stores to separate fields commute. -/
theorem set16_comm (apart : index + 1 < other ∨ other + 1 < index) (left right : UInt16) :
    set16 (set16 bytes index left) other right = set16 (set16 bytes other right) index left := by
  funext position
  by_cases inside : position = index ∨ position = index + 1
  · have outside : position ≠ other ∧ position ≠ other + 1 := by omega
    rw [set16_other _ outside.1 outside.2]
    rcases inside with rfl | rfl
    · rw [set16_high, set16_high]
    · rw [set16_low, set16_low]
  · obtain ⟨first, second⟩ := not_or.mp inside
    rw [set16_other left first second]
    by_cases target : position = other + 1
    · rw [target, set16_low, set16_low]
    by_cases origin : position = other
    · rw [origin, set16_high, set16_high]
    · rw [set16_other _ origin target, set16_other _ first second, set16_other _ origin target]

theorem set32_other (value : UInt32) (outside : other < index ∨ index + 3 < other) :
    set32 bytes index value other = bytes other := by
  rw [set32, set16_other _ (by omega) (by omega), set16_other _ (by omega) (by omega)]

theorem word32_set32 (value : UInt32) : word32 (set32 bytes index value) index = value.toNat := by
  have bound := value.toNat_lt
  have high : word16 (set32 bytes index value) index =
      (UInt16.ofNat (value.toNat / 65536)).toNat := by
    have kept : word16 (set32 bytes index value) index =
        word16 (set16 bytes index (UInt16.ofNat (value.toNat / 65536))) index :=
      word16_congr (set16_other _ (by omega) (by omega)) (set16_other _ (by omega) (by omega))
    rw [kept, word16_set16]
  rw [word32, high, set32, word16_set16]
  simp only [UInt16.toNat_ofNat']
  omega

theorem set32_self {value : UInt32} (same : word32 bytes index = value.toNat) :
    set32 bytes index value = bytes := by
  have high := word16_lt bytes index
  have low := word16_lt bytes (index + 2)
  unfold word32 at same
  have first : set16 bytes index (UInt16.ofNat (value.toNat / 65536)) = bytes := by
    apply set16_self
    rw [toNat_ofNat16 (by omega)]
    omega
  rw [set32, first]
  apply set16_self
  rw [UInt16.toNat_ofNat']
  omega

end Stores

end BigEndian
