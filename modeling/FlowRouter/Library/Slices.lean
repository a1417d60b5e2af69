import Mathlib.Data.List.Basic
import Mathlib.Logic.Function.Basic

namespace Slices

/-- A slice is a window of a backing array with room behind it. -/
structure Slice where
  array : Nat
  start : Nat
  length : Nat
  capacity : Nat
  deriving DecidableEq, Repr

/-- The nil slice has no elements and no room. -/
def Slice.nil : Slice := ⟨0, 0, 0, 0⟩

/-- The first elements keep the room of the whole slice behind them. A window may not leave its
array. -/
def Slice.first (slice : Slice) (count : Nat) : Option Slice :=
  if count ≤ slice.capacity then some { slice with length := count } else none

def Slice.after (slice : Slice) (count : Nat) : Option Slice :=
  if count ≤ slice.length then
    some ⟨slice.array, slice.start + count, slice.length - count, slice.capacity - count⟩
  else none

/-- Arrays are known by their numbers. Other code may write the lent arrays. -/
structure Arrays (A : Type) where
  contents : Nat → List A
  lent : Nat → Bool
  next : Nat

variable {A : Type}

def Arrays.read (arrays : Arrays A) (slice : Slice) : List A :=
  ((arrays.contents slice.array).drop slice.start).take slice.length

def overwrite (cells : List A) (start : Nat) (items : List A) : List A :=
  cells.take start ++ items ++ cells.drop (start + items.length)

def Arrays.write (arrays : Arrays A) (array : Nat) (items : List A) : Arrays A :=
  { arrays with contents := Function.update arrays.contents array items }

def Arrays.allocate (arrays : Arrays A) (lent : Bool) (items : List A) : Arrays A where
  contents := Function.update arrays.contents arrays.next items
  lent := Function.update arrays.lent arrays.next lent
  next := arrays.next + 1

/-- The items go to the room behind the slice. Without enough room the slice moves to a new array,
and the allocator chooses by the old capacity and the new length how much room this array has. -/
def Arrays.append [Inhabited A] (arrays : Arrays A) (growth : Nat → Nat → Nat) (slice : Slice)
    (items : List A) : Slice × Arrays A :=
  let length := slice.length + items.length
  let room := growth slice.capacity length
  if length ≤ slice.capacity then
    ({ slice with length := length },
      arrays.write slice.array
        (overwrite (arrays.contents slice.array) (slice.start + slice.length) items))
  else
    (⟨arrays.next, 0, length, length + room⟩,
      arrays.allocate false (arrays.read slice ++ items ++ List.replicate room default))

/-- Nobody else may write the elements of these slices. -/
structure Arrays.Keeps (arrays : Arrays A) (slice : Slice) : Prop where
  fits : slice.length ≤ slice.capacity
  owned : 0 < slice.capacity →
    slice.start + slice.capacity ≤ (arrays.contents slice.array).length ∧
      slice.array < arrays.next ∧ arrays.lent slice.array = false

/-- What happens between two moments changes no array that is not lent. -/
structure Arrays.Spares (before after : Arrays A) : Prop where
  grows : before.next ≤ after.next
  kept : ∀ array < before.next, before.lent array = false →
    after.contents array = before.contents array ∧ after.lent array = false

theorem Arrays.Spares.refl (arrays : Arrays A) : arrays.Spares arrays :=
  ⟨Nat.le_refl _, fun _ _ lent => ⟨rfl, lent⟩⟩

theorem Arrays.Spares.trans {first second third : Arrays A} (earlier : first.Spares second)
    (later : second.Spares third) : first.Spares third := by
  constructor
  · exact Nat.le_trans earlier.grows later.grows
  · intro array below lent
    obtain ⟨same, unlent⟩ := earlier.kept array below lent
    obtain ⟨same', unlent'⟩ := later.kept array (Nat.lt_of_lt_of_le below earlier.grows) unlent
    exact ⟨same'.trans same, unlent'⟩

theorem Arrays.read_empty {arrays : Arrays A} {slice : Slice} (fits : slice.length ≤ slice.capacity)
    (empty : ¬ 0 < slice.capacity) : arrays.read slice = [] := by
  have none : slice.length = 0 := by omega
  rw [Arrays.read, none, List.take_zero]

/-- A slice that is kept reads the same later. -/
theorem Arrays.Keeps.spared {before after : Arrays A} {slice : Slice} (keeps : before.Keeps slice)
    (spares : before.Spares after) :
    after.Keeps slice ∧ after.read slice = before.read slice := by
  by_cases room : 0 < slice.capacity
  · obtain ⟨inside, below, unlent⟩ := keeps.owned room
    obtain ⟨same, unlent'⟩ := spares.kept slice.array below unlent
    refine ⟨⟨keeps.fits, fun _ => ⟨?_, Nat.lt_of_lt_of_le below spares.grows, unlent'⟩⟩, ?_⟩
    · rw [same]
      exact inside
    · rw [Arrays.read, same, Arrays.read]
  · refine ⟨⟨keeps.fits, fun impossible => absurd impossible room⟩, ?_⟩
    rw [Arrays.read_empty keeps.fits room, Arrays.read_empty keeps.fits room]

/-- Other code makes an array of its own. -/
theorem Arrays.allocate_spares (arrays : Arrays A) (lent : Bool) (items : List A) :
    arrays.Spares (arrays.allocate lent items) := by
  constructor
  · exact Nat.le_succ arrays.next
  · intro array below unlent
    have differs : array ≠ arrays.next := Nat.ne_of_lt below
    exact ⟨Function.update_of_ne differs _ _, (Function.update_of_ne differs _ _).trans unlent⟩

/-- Other code writes an array of its own. -/
theorem Arrays.write_spares {arrays : Arrays A} {array : Nat} (lent : arrays.lent array = true)
    (items : List A) : arrays.Spares (arrays.write array items) := by
  constructor
  · exact Nat.le_refl arrays.next
  · intro other _ unlent
    have differs : other ≠ array := by
      rintro rfl
      exact absurd (lent.symm.trans unlent) (by decide)
    exact ⟨Function.update_of_ne differs _ _, unlent⟩

/-- The slice was made since the base, and since then nothing but new arrays was written. -/
structure Private (base now : Arrays A) (slice : Slice) (items : List A) : Prop where
  spares : base.Spares now
  keeps : now.Keeps slice
  fresh : 0 < slice.capacity → base.next ≤ slice.array
  reads : now.read slice = items

section Private
variable {base now : Arrays A} {slice : Slice} {items : List A}

theorem Private.nil (spares : base.Spares now) : Private base now .nil [] := by
  constructor
  case spares => exact spares
  case keeps => exact ⟨Nat.le_refl 0, fun impossible => absurd impossible (Nat.lt_irrefl 0)⟩
  case fresh => exact fun impossible => absurd impossible (Nat.lt_irrefl 0)
  case reads => exact List.take_zero

theorem Private.length (mine : Private base now slice items) : items.length = slice.length := by
  have fits := mine.keeps.fits
  rw [← mine.reads, Arrays.read, List.length_take, List.length_drop]
  by_cases room : 0 < slice.capacity
  · obtain ⟨inside, -⟩ := mine.keeps.owned room
    omega
  · omega

/-- The first elements of a private slice are a private slice. -/
theorem Private.first (mine : Private base now slice items) {count : Nat}
    (small : count ≤ items.length) :
    ∃ front, slice.first count = some front ∧ Private base now front (items.take count) := by
  have fits := mine.keeps.fits
  have length := mine.length
  have inside : count ≤ slice.capacity := by omega
  refine ⟨{ slice with length := count }, if_pos inside, ?_⟩
  constructor
  case spares => exact mine.spares
  case keeps => exact ⟨inside, mine.keeps.owned⟩
  case fresh => exact mine.fresh
  case reads =>
    rw [← mine.reads, Arrays.read, Arrays.read, List.take_take]
    congr 1
    change count = min count slice.length
    omega

/-- The last elements of a private slice can be read. -/
theorem Private.after (mine : Private base now slice items) {count : Nat}
    (small : count ≤ items.length) :
    ∃ back, slice.after count = some back ∧ now.read back = items.drop count := by
  have length := mine.length
  have inside : count ≤ slice.length := by omega
  refine ⟨_, if_pos inside, ?_⟩
  rw [← mine.reads, Arrays.read, Arrays.read, List.drop_take, List.drop_drop]

/-- The window behind which the items were stored shows them. -/
theorem take_overwrite {cells : List A} {start count : Nat} (inside : start + count ≤ cells.length)
    (items : List A) :
    ((overwrite cells (start + count) items).drop start).take (count + items.length) =
      (cells.drop start).take count ++ items := by
  have front : (cells.take (start + count)).length = start + count := by
    rw [List.length_take]
    omega
  have window : ((cells.take (start + count)).drop start).length = count := by
    rw [List.length_drop, front]
    omega
  rw [overwrite, List.append_assoc, List.drop_append_of_le_length (by omega),
    List.take_append, window, Nat.add_sub_cancel_left, List.take_left,
    List.take_of_length_le (by omega), List.drop_take, Nat.add_sub_cancel_left]

/-- An append to a private slice keeps it private. -/
theorem Private.append [Inhabited A] (mine : Private base now slice items)
    (growth : Nat → Nat → Nat) (added : List A) :
    Private base (now.append growth slice added).2 (now.append growth slice added).1
      (items ++ added) := by
  have fits := mine.keeps.fits
  unfold Arrays.append
  by_cases enough : slice.length + added.length ≤ slice.capacity
  · simp only [if_pos enough]
    by_cases positive : 0 < slice.capacity
    · obtain ⟨inside, below, unlent⟩ := mine.keeps.owned positive
      have fresh := mine.fresh positive
      have kept : (overwrite (now.contents slice.array) (slice.start + slice.length)
          added).length = (now.contents slice.array).length := by
        simp only [overwrite, List.length_append, List.length_take, List.length_drop]
        omega
      constructor
      case spares =>
        constructor
        · exact mine.spares.grows
        · intro array old unlent
          have differs : array ≠ slice.array := by omega
          obtain ⟨same, still⟩ := mine.spares.kept array old unlent
          exact ⟨(Function.update_of_ne differs _ _).trans same, still⟩
      case keeps =>
        refine ⟨enough, fun _ => ⟨?_, below, unlent⟩⟩
        change _ ≤ (Function.update now.contents slice.array _ slice.array).length
        rw [Function.update_self, kept]
        exact inside
      case fresh => exact mine.fresh
      case reads =>
        rw [← mine.reads, Arrays.read, Arrays.read]
        change List.take _ (List.drop _ (Function.update now.contents slice.array _ slice.array)) = _
        rw [Function.update_self]
        have within : slice.start + slice.length ≤ (now.contents slice.array).length := by omega
        exact take_overwrite within added
    · have nothing : added = [] := List.length_eq_zero_iff.mp (by omega)
      have empty : items = [] := List.length_eq_zero_iff.mp (by have := mine.length; omega)
      have unchanged : now.write slice.array (overwrite (now.contents slice.array)
          (slice.start + slice.length) added) = now := by
        rw [nothing, overwrite, List.append_nil, List.length_nil, Nat.add_zero,
          List.take_append_drop, Arrays.write, Function.update_eq_self]
      rw [unchanged, nothing, List.append_nil, List.length_nil, Nat.add_zero]
      exact mine
  · simp only [if_neg enough]
    have length := mine.length
    have spared := now.allocate_spares false
      (now.read slice ++ added ++ List.replicate (growth slice.capacity (slice.length + added.length)) default)
    constructor
    case spares => exact mine.spares.trans spared
    case keeps =>
      refine ⟨Nat.le_add_right _ _, fun _ => ⟨?_, Nat.lt_succ_self _, Function.update_self _ _ _⟩⟩
      change _ ≤ (Function.update now.contents now.next _ now.next).length
      rw [Function.update_self, mine.reads]
      simp only [List.length_append, List.length_replicate]
      omega
    case fresh => exact fun _ => mine.spares.grows
    case reads =>
      rw [Arrays.read]
      change List.take _ (List.drop 0 (Function.update now.contents now.next _ now.next)) = _
      rw [Function.update_self, List.drop_zero, mine.reads]
      apply List.take_left'
      rw [List.length_append, length]

end Private

end Slices
