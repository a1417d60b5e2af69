import Mathlib.Logic.Function.Basic

namespace Quiescence

variable {R O : Type}

/-- A writer retires one object at a time. It remembers the token of its grace period and the
readers that it has seen pass. -/
inductive Phase (R O : Type) where
  | idle
  | swapped (old : O)
  | waiting (old : O) (token : Nat) (seen : R → Prop)
  | passed (old : O)

/-- An offline reader has no record. The mark and the floor are history: the rank of the last
published object, and the rank of the last one whose grace period is over. -/
structure Protocol (R O : Type) where
  active : Option O
  mark : Nat
  floor : Nat
  counter : Nat
  record : R → Option Nat
  held : R → Option O
  phase : Phase R O
  freed : O → Nat

/-- The writer may skip an offline reader and a reader that has reported since the token. -/
def Passes (token : Nat) (record : Option Nat) : Prop :=
  ∀ value, record = some value → token ≤ value

variable [DecidableEq R] [DecidableEq O]

/-- These are the atomic actions of readers and writers. -/
inductive Step (rank : O → Nat) (state : Protocol R O) : Protocol R O → Prop
  | report (reader : R) :
      Step rank state { state with
        record := Function.update state.record reader (some state.counter)
        held := Function.update state.held reader none }
  | load (reader : R) :
      state.record reader ≠ none →
      Step rank state { state with held := Function.update state.held reader state.active }
  | offline (reader : R) :
      Step rank state { state with
        record := Function.update state.record reader none
        held := Function.update state.held reader none }
  | swap {old : O} (new : O) :
      state.phase = .idle → state.active = some old → state.mark < rank new →
      Step rank state { state with active := some new, mark := rank new, phase := .swapped old }
  | start {old : O} :
      state.phase = .swapped old →
      Step rank state { state with
        counter := state.counter + 1
        phase := .waiting old (state.counter + 1) fun _ => False }
  | see {old : O} {token : Nat} {seen : R → Prop} (reader : R) :
      state.phase = .waiting old token seen → Passes token (state.record reader) →
      Step rank state { state with
        phase := .waiting old token fun other => other = reader ∨ seen other }
  | pass {old : O} {token : Nat} {seen : R → Prop} :
      state.phase = .waiting old token seen →
      (∀ reader, seen reader ∨ state.record reader = none) →
      Step rank state { state with floor := state.mark, phase := .passed old }
  | withdraw {old : O} :
      state.phase = .idle → state.active = some old → (∀ reader, state.record reader = none) →
      Step rank state { state with active := none, phase := .passed old }
  | free {old : O} :
      state.phase = .passed old →
      Step rank state { state with
        freed := Function.update state.freed old (state.freed old + 1)
        phase := .idle }

omit [DecidableEq R] [DecidableEq O]

/-- The object that the writer retires. -/
def Phase.retired : Phase R O → Option O
  | .idle => none
  | .swapped old => some old
  | .waiting old _ _ => some old
  | .passed old => some old

/-- The writer waits for a reader with this record if the reader may hold the object. -/
def Phase.Protects (reader : R) (value : Nat) (object : O) : Phase R O → Prop
  | .swapped old => object = old
  | .waiting old token seen => object = old ∧ value < token ∧ ¬ seen reader
  | _ => False

/-- A waiting writer has not passed the object that it retires. -/
def Phase.Bounded (rank : O → Nat) (floor counter : Nat) : Phase R O → Prop
  | .swapped old => floor ≤ rank old
  | .waiting old token _ => floor ≤ rank old ∧ token ≤ counter
  | _ => True

/-- This is the inductive invariant of the protocol. -/
structure Protocol.Safe (rank : O → Nat) (state : Protocol R O) : Prop where
  active : ∀ object, state.active = some object →
    rank object = state.mark ∧ state.freed object = 0
  held : ∀ reader object, state.held reader = some object → ∃ value,
    state.record reader = some value ∧
      (state.active = some object ∨ state.phase.Protects reader value object)
  record : ∀ reader value, state.record reader = some value → value ≤ state.counter
  retired : ∀ object, state.phase.retired = some object →
    rank object ≤ state.mark ∧ state.freed object = 0 ∧ state.active ≠ some object
  phase : state.phase.Bounded rank state.floor state.counter
  floor : state.floor ≤ state.mark
  once : ∀ object, state.freed object ≤ 1
  freed : ∀ object, state.freed object ≠ 0 → rank object ≤ state.mark

variable {rank : O → Nat} {state : Protocol R O}

/-- A held object is live, and its rank lies between the floor and the mark. -/
theorem Protocol.Safe.holds (safe : state.Safe rank) {reader : R} {object : O}
    (holds : state.held reader = some object) :
    state.freed object = 0 ∧ state.floor ≤ rank object ∧ rank object ≤ state.mark := by
  obtain ⟨value, -, current | retired⟩ := safe.held reader object holds
  · obtain ⟨newest, live⟩ := safe.active object current
    exact ⟨live, newest ▸ safe.floor, Nat.le_of_eq newest⟩
  · have bounded := safe.phase
    have retires := safe.retired
    cases phase : state.phase with
    | idle => rw [phase] at retired; exact retired.elim
    | passed => rw [phase] at retired; exact retired.elim
    | swapped old =>
      rw [phase] at retired bounded retires
      subst retired
      obtain ⟨below, live, -⟩ := retires object rfl
      exact ⟨live, bounded, below⟩
    | waiting old token seen =>
      rw [phase] at retired bounded retires
      obtain ⟨rfl, -, -⟩ := retired
      obtain ⟨below, live, -⟩ := retires object rfl
      exact ⟨live, bounded.1, below⟩

/-- A reader without a record holds nothing. -/
theorem Protocol.Safe.offline (safe : state.Safe rank) {reader : R}
    (offline : state.record reader = none) : state.held reader = none := by
  cases holds : state.held reader with
  | none => rfl
  | some object =>
    obtain ⟨value, recorded, -⟩ := safe.held reader object holds
    exact absurd (offline.symm.trans recorded) (by simp)

/-- While no writer waits, every reader holds the active object. -/
theorem Protocol.Safe.unprotected (safe : state.Safe rank)
    (settled : ∀ reader value object, ¬ state.phase.Protects reader value object) {reader : R}
    {object : O} (holds : state.held reader = some object) : state.active = some object := by
  obtain ⟨value, -, current | retired⟩ := safe.held reader object holds
  · exact current
  · exact absurd retired (settled reader value object)

section Readers
variable [DecidableEq R]

/-- A reader that lets go of its object may take any record up to the counter. -/
theorem Protocol.Safe.release (safe : state.Safe rank) (reader : R) (record : Option Nat)
    (bounded : ∀ value, record = some value → value ≤ state.counter) :
    Protocol.Safe rank { state with
      record := Function.update state.record reader record
      held := Function.update state.held reader none } where
  active := safe.active
  held other object holds := by
    change Function.update state.held reader none other = some object at holds
    by_cases same : other = reader
    · rw [same, Function.update_self] at holds
      exact absurd holds (by simp)
    · rw [Function.update_of_ne same] at holds
      obtain ⟨value, recorded, kept⟩ := safe.held other object holds
      exact ⟨value, (Function.update_of_ne same _ _).trans recorded, kept⟩
  record other value recorded := by
    change Function.update state.record reader record other = some value at recorded
    by_cases same : other = reader
    · rw [same, Function.update_self] at recorded
      exact bounded value recorded
    · rw [Function.update_of_ne same] at recorded
      exact safe.record other value recorded
  retired := safe.retired
  phase := safe.phase
  floor := safe.floor
  once := safe.once
  freed := safe.freed

/-- A reader that is online may take the active object. -/
theorem Protocol.Safe.load (safe : state.Safe rank) (reader : R)
    (online : state.record reader ≠ none) :
    Protocol.Safe rank { state with
      held := Function.update state.held reader state.active } where
  active := safe.active
  held other object holds := by
    change Function.update state.held reader state.active other = some object at holds
    by_cases same : other = reader
    · rw [same, Function.update_self] at holds
      obtain ⟨value, recorded⟩ := Option.ne_none_iff_exists'.mp online
      exact ⟨value, same ▸ recorded, .inl holds⟩
    · rw [Function.update_of_ne same] at holds
      exact safe.held other object holds
  record := safe.record
  retired := safe.retired
  phase := safe.phase
  floor := safe.floor
  once := safe.once
  freed := safe.freed

end Readers

section Writers
variable {old : O}

/-- The new object is newer than everything that was ever active. -/
theorem Protocol.Safe.swap (safe : state.Safe rank) {new : O} (idle : state.phase = .idle)
    (active : state.active = some old) (newer : state.mark < rank new) :
    Protocol.Safe rank
      { state with active := some new, mark := rank new, phase := .swapped old } where
  active object current := by
    rw [← Option.some.inj current]
    refine ⟨rfl, ?_⟩
    by_contra freed
    have := safe.freed new freed
    omega
  held reader object holds := by
    obtain ⟨value, recorded, -⟩ := safe.held reader object holds
    have current := safe.unprotected (by rw [idle]; exact fun _ _ _ => id) holds
    exact ⟨value, recorded, .inr (Option.some.inj (current.symm.trans active))⟩
  record := safe.record
  retired object retires := by
    obtain rfl : old = object := Option.some.inj retires
    obtain ⟨rankOld, liveOld⟩ := safe.active old active
    refine ⟨by change rank old ≤ rank new; omega, liveOld, fun same => ?_⟩
    rw [Option.some.inj same] at newer
    omega
  phase := by
    have := (safe.active old active).1
    have := safe.floor
    change state.floor ≤ rank old
    omega
  floor := Nat.le_of_lt (Nat.lt_of_le_of_lt safe.floor newer)
  once := safe.once
  freed object freed := Nat.le_of_lt (Nat.lt_of_le_of_lt (safe.freed object freed) newer)

/-- Every record is older than a new token. -/
theorem Protocol.Safe.start (safe : state.Safe rank) (swapped : state.phase = .swapped old) :
    Protocol.Safe rank { state with
      counter := state.counter + 1
      phase := .waiting old (state.counter + 1) fun _ => False } where
  active := safe.active
  held reader object holds := by
    obtain ⟨value, recorded, kept⟩ := safe.held reader object holds
    have := safe.record reader value recorded
    rw [swapped] at kept
    exact ⟨value, recorded, kept.imp_right fun same => ⟨same, by omega, id⟩⟩
  record reader value recorded := Nat.le_succ_of_le (safe.record reader value recorded)
  retired := by
    have retired := safe.retired
    rwa [swapped] at retired
  phase := by
    have bounded := safe.phase
    rw [swapped] at bounded
    exact ⟨bounded, Nat.le_refl _⟩
  floor := safe.floor
  once := safe.once
  freed := safe.freed

variable {token : Nat} {seen : R → Prop}

/-- The writer never passes a reader that still holds the old object. -/
theorem Protocol.Safe.see (safe : state.Safe rank) (reader : R)
    (waiting : state.phase = .waiting old token seen)
    (passes : Passes token (state.record reader)) :
    Protocol.Safe rank { state with
      phase := .waiting old token fun other => other = reader ∨ seen other } where
  active := safe.active
  held other object holds := by
    obtain ⟨value, recorded, kept⟩ := safe.held other object holds
    rw [waiting] at kept
    refine ⟨value, recorded, kept.imp_right fun ⟨same, early, unseen⟩ => ⟨same, early, ?_⟩⟩
    rintro (rfl | known)
    · have := passes value recorded
      omega
    · exact unseen known
  record := safe.record
  retired := by
    have retired := safe.retired
    rwa [waiting] at retired
  phase := by
    have bounded := safe.phase
    rwa [waiting] at bounded
  floor := safe.floor
  once := safe.once
  freed := safe.freed

/-- Behind the grace period every reader holds the active object. -/
theorem Protocol.Safe.pass (safe : state.Safe rank) (waiting : state.phase = .waiting old token seen)
    (complete : ∀ reader, seen reader ∨ state.record reader = none) :
    Protocol.Safe rank { state with floor := state.mark, phase := .passed old } where
  active := safe.active
  held reader object holds := by
    obtain ⟨value, recorded, kept⟩ := safe.held reader object holds
    rw [waiting] at kept
    refine ⟨value, recorded, .inl (kept.resolve_right fun ⟨_, _, unseen⟩ => ?_)⟩
    rcases complete reader with known | absent
    · exact unseen known
    · exact absurd (absent.symm.trans recorded) (by simp)
  record := safe.record
  retired := by
    have retired := safe.retired
    rwa [waiting] at retired
  phase := trivial
  floor := Nat.le_refl _
  once := safe.once
  freed := safe.freed

/-- The last object needs no grace period once every reader is offline. -/
theorem Protocol.Safe.withdraw (safe : state.Safe rank) (active : state.active = some old)
    (absent : ∀ reader, state.record reader = none) :
    Protocol.Safe rank { state with active := none, phase := .passed old } where
  active object impossible := nomatch impossible
  held reader object holds := absurd ((safe.offline (absent reader)).symm.trans holds) (by simp)
  record := safe.record
  retired object retires := by
    obtain rfl : old = object := Option.some.inj retires
    obtain ⟨rankOld, liveOld⟩ := safe.active old active
    exact ⟨Nat.le_of_eq rankOld, liveOld, by simp⟩
  phase := trivial
  floor := safe.floor
  once := safe.once
  freed := safe.freed

variable [DecidableEq O]

/-- Nobody holds the object that the writer frees. -/
theorem Protocol.Safe.free (safe : state.Safe rank) (passed : state.phase = .passed old) :
    Protocol.Safe rank { state with
      freed := Function.update state.freed old (state.freed old + 1)
      phase := .idle } := by
  obtain ⟨rankOld, liveOld, replaced⟩ := safe.retired old (by rw [passed]; rfl)
  have other {object : O} (differs : object ≠ old) :
      Function.update state.freed old (state.freed old + 1) object = state.freed object :=
    Function.update_of_ne differs _ _
  constructor
  case active =>
    intro object current
    have differs : object ≠ old := fun same => replaced (same ▸ current)
    exact ⟨(safe.active object current).1, (other differs).trans (safe.active object current).2⟩
  case held =>
    intro reader object holds
    obtain ⟨value, recorded, -⟩ := safe.held reader object holds
    have current := safe.unprotected (by rw [passed]; exact fun _ _ _ => id) holds
    exact ⟨value, recorded, .inl current⟩
  case record => exact safe.record
  case retired => exact fun object impossible => nomatch impossible
  case phase => exact trivial
  case floor => exact safe.floor
  case once =>
    intro object
    change Function.update state.freed old (state.freed old + 1) object ≤ 1
    by_cases same : object = old
    · rw [same, Function.update_self]
      omega
    · rw [other same]
      exact safe.once object
  case freed =>
    intro object freed
    by_cases same : object = old
    · exact same ▸ rankOld
    · exact safe.freed object (by rwa [← other same])

end Writers

/-- Every atomic action keeps the invariant. -/
theorem Protocol.Safe.step [DecidableEq R] [DecidableEq O] (safe : state.Safe rank)
    {after : Protocol R O} (step : Step rank state after) : after.Safe rank := by
  cases step with
  | report reader =>
    exact safe.release reader (some state.counter) fun value same =>
      Nat.le_of_eq (Option.some.inj same).symm
  | load reader online => exact safe.load reader online
  | offline reader => exact safe.release reader none fun value impossible => nomatch impossible
  | swap new idle active newer => exact safe.swap idle active newer
  | start swapped => exact safe.start swapped
  | see reader waiting passes => exact safe.see reader waiting passes
  | pass waiting complete => exact safe.pass waiting complete
  | withdraw idle active absent => exact safe.withdraw active absent
  | free passed => exact safe.free passed

end Quiescence
