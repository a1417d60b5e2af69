import Mathlib.Data.List.Forall2
import Mathlib.Data.List.Nodup

namespace Checks

variable {E A B K : Type}

/-- A guard stops a program with its error. -/
def rejectIf (bad : Prop) [Decidable bad] (error : E) : Except E Unit :=
  if bad then .error error else .ok ()

@[simp] theorem rejectIf_ok {bad : Prop} [Decidable bad] {error : E} :
    rejectIf bad error = .ok () ↔ ¬ bad := by
  unfold rejectIf
  by_cases holds : bad
  · simp [holds]
  · simp [holds]

/-- A sequence succeeds when its first part and then its second part succeed. -/
theorem bind_ok {first : Except E A} {second : A → Except E B} {result : B} :
    (first >>= second) = .ok result ↔ ∃ value, first = .ok value ∧ second value = .ok result := by
  cases first with
  | error error => simp [bind, Except.bind]
  | ok value => simp [bind, Except.bind]

/-- A guard contributes its own condition. -/
theorem guard_ok {check : Except E Unit} {rest : Unit → Except E B} {result : B} :
    (check >>= rest) = .ok result ↔ check = .ok () ∧ rest () = .ok result := by
  rw [bind_ok]
  exact ⟨fun ⟨_, passed, tail⟩ => ⟨passed, tail⟩, fun ⟨passed, tail⟩ => ⟨(), passed, tail⟩⟩

/-- Every error of a program satisfies a predicate. -/
def Fails (allowed : E → Prop) (program : Except E A) : Prop :=
  ∀ error, program = .error error → allowed error

theorem Fails.ok {allowed : E → Prop} {value : A} : Fails allowed (.ok value) :=
  fun _ impossible => nomatch impossible

theorem Fails.error {allowed : E → Prop} {error : E} (holds : allowed error) :
    Fails allowed (.error error : Except E A) :=
  fun _ same => Except.error.inj same ▸ holds

theorem Fails.rejectIf {allowed : E → Prop} {bad : Prop} [Decidable bad] {error : E}
    (holds : bad → allowed error) : Fails allowed (rejectIf bad error) := by
  unfold Checks.rejectIf
  by_cases refused : bad
  · rw [if_pos refused]
    exact Fails.error (holds refused)
  · rw [if_neg refused]
    exact Fails.ok

theorem Fails.ite {allowed : E → Prop} {condition : Prop} [Decidable condition]
    {first second : Except E A} (left : Fails allowed first) (right : Fails allowed second) :
    Fails allowed (if condition then first else second) := by
  by_cases holds : condition
  · rw [if_pos holds]
    exact left
  · rw [if_neg holds]
    exact right

/-- The errors of a sequence come from its two parts. -/
theorem Fails.bind {allowed : E → Prop} {first : Except E A} {second : A → Except E B}
    (left : Fails allowed first) (right : ∀ value, Fails allowed (second value)) :
    Fails allowed (first >>= second) := by
  cases first with
  | error error => exact fun other same => left other (by rw [← Except.error.inj same])
  | ok value => exact right value

/-- The scan checks each item at its index and then refuses a key that it has already seen. -/
def scanKeyed [DecidableEq K] (check : Nat → A → Except E Unit) (key : A → K)
    (duplicate : Nat → E) (index : Nat) (seen : List K) : List A → Except E Unit
  | [] => return ()
  | item :: rest => do
      check index item
      rejectIf (key item ∈ seen) (duplicate index)
      scanKeyed check key duplicate (index + 1) (key item :: seen) rest

/-- The scan accepts the lists of good items with distinct new keys. -/
theorem scanKeyed_ok [DecidableEq K] {check : Nat → A → Except E Unit} {key : A → K}
    {duplicate : Nat → E} {good : A → Prop}
    (sound : ∀ index item, check index item = .ok () ↔ good item) (items : List A) (index : Nat)
    (seen : List K) :
    scanKeyed check key duplicate index seen items = .ok () ↔
      (∀ item ∈ items, good item) ∧ (items.map key).Nodup ∧ ∀ item ∈ items, key item ∉ seen := by
  induction items generalizing index seen with
  | nil => simp [scanKeyed, pure, Except.pure]
  | cons item rest ih =>
    rw [scanKeyed, guard_ok, guard_ok, sound, rejectIf_ok, ih]
    simp only [List.forall_mem_cons, List.map_cons, List.nodup_cons, List.mem_map]
    simp only [List.mem_cons, not_or, not_exists, not_and]
    constructor
    · rintro ⟨first, fresh, others, distinct, apart⟩
      exact ⟨⟨first, others⟩, ⟨fun other member => (apart other member).1, distinct⟩, fresh,
        fun other member => (apart other member).2⟩
    · rintro ⟨⟨first, others⟩, ⟨unlike, distinct⟩, fresh, apart⟩
      exact ⟨first, fresh, others, distinct, fun other member =>
        ⟨unlike other member, apart other member⟩⟩

/-- The collection parses each item at its index, refuses a key that it has already seen and
appends the parsed value. -/
def collectKeyed [DecidableEq K] (parse : Nat → A → Except E (K × B)) (duplicate : Nat → E)
    (index : Nat) (seen : List K) (collected : List B) : List A → Except E (List B)
  | [] => return collected
  | item :: rest => do
      let entry ← parse index item
      rejectIf (entry.1 ∈ seen) (duplicate index)
      collectKeyed parse duplicate (index + 1) (entry.1 :: seen) (collected ++ [entry.2]) rest

/-- The collection succeeds when the items read as values with distinct new keys, and it gives the
values in order. -/
theorem collectKeyed_ok [DecidableEq K] {parse : Nat → A → Except E (K × B)}
    {duplicate : Nat → E} {reads : A → B → Prop} {key : B → K}
    (sound : ∀ index item entry, parse index item = .ok entry ↔
      reads item entry.2 ∧ entry.1 = key entry.2)
    (items : List A) (index : Nat) (seen : List K) (collected result : List B) :
    collectKeyed parse duplicate index seen collected items = .ok result ↔
      ∃ values, List.Forall₂ reads items values ∧ (values.map key).Nodup ∧
        (∀ value ∈ values, key value ∉ seen) ∧ result = collected ++ values := by
  induction items generalizing index seen collected with
  | nil =>
    simp only [collectKeyed, pure, Except.pure, Except.ok.injEq, List.forall₂_nil_left_iff,
      exists_eq_left, List.map_nil, List.nodup_nil, List.append_nil, true_and]
    exact ⟨fun same => ⟨fun _ impossible => (List.not_mem_nil impossible).elim, same.symm⟩,
      fun same => same.2.symm⟩
  | cons item rest ih =>
    rw [collectKeyed, bind_ok]
    simp only [guard_ok, rejectIf_ok, sound, ih]
    constructor
    · rintro ⟨⟨found, value⟩, ⟨read, keyed⟩, fresh, values, others, distinct, apart, rfl⟩
      obtain rfl : found = key value := keyed
      refine ⟨value :: values, .cons read others, ?_, ?_, by simp⟩
      · rw [List.map_cons, List.nodup_cons]
        refine ⟨fun shared => ?_, distinct⟩
        obtain ⟨other, member, same⟩ := List.mem_map.mp shared
        exact apart other member (same ▸ List.mem_cons_self)
      · rw [List.forall_mem_cons]
        exact ⟨fresh, fun other member seen => apart other member (List.mem_cons_of_mem _ seen)⟩
    · rintro ⟨all, read, distinct, apart, rfl⟩
      cases read with
      | @cons _ value _ values first others =>
        rw [List.map_cons, List.nodup_cons] at distinct
        rw [List.forall_mem_cons] at apart
        refine ⟨(key value, value), ⟨first, rfl⟩, apart.1, values, others, distinct.2,
          fun other member => ?_, by simp⟩
        rw [List.mem_cons, not_or]
        refine ⟨fun same => distinct.1 ?_, apart.2 other member⟩
        exact List.mem_map.mpr ⟨other, member, same⟩

/-- A collection that starts from nothing gives all values in order. -/
theorem collectKeyed_all [DecidableEq K] {parse : Nat → A → Except E (K × B)}
    {duplicate : Nat → E} {reads : A → B → Prop} {key : B → K}
    (sound : ∀ index item entry, parse index item = .ok entry ↔
      reads item entry.2 ∧ entry.1 = key entry.2) (items : List A) (result : List B) :
    collectKeyed parse duplicate 0 [] [] items = .ok result ↔
      List.Forall₂ reads items result ∧ (result.map key).Nodup := by
  rw [collectKeyed_ok sound]
  constructor
  · rintro ⟨values, read, distinct, -, rfl⟩
    exact ⟨read, distinct⟩
  · rintro ⟨read, distinct⟩
    exact ⟨result, read, distinct, fun _ _ => List.not_mem_nil, rfl⟩

/-- A relation that covers every item of a list relates the list to another one. -/
theorem exists_forall₂ {means : A → B → Prop} {items : List A}
    (covers : ∀ item ∈ items, ∃ value, means item value) :
    ∃ values, List.Forall₂ means items values := by
  induction items with
  | nil => exact ⟨[], .nil⟩
  | cons item rest ih =>
    rw [List.forall_mem_cons] at covers
    obtain ⟨value, first⟩ := covers.1
    obtain ⟨values, others⟩ := ih covers.2
    exact ⟨value :: values, .cons first others⟩

/-- Related lists have the same images when related items have. -/
theorem map_eq_of_forall₂ {means : A → B → Prop} {left : A → K} {right : B → K} {items : List A}
    {values : List B} (related : List.Forall₂ means items values)
    (same : ∀ item value, means item value → left item = right value) :
    items.map left = values.map right := by
  induction related with
  | nil => rfl
  | cons first others ih => rw [List.map_cons, List.map_cons, same _ _ first, ih]

/-- Each item of a related list has a partner. -/
theorem forall₂_left {means : A → B → Prop} {items : List A} {values : List B}
    (related : List.Forall₂ means items values) : ∀ item ∈ items, ∃ value, means item value := by
  induction related with
  | nil => exact fun _ impossible => (List.not_mem_nil impossible).elim
  | cons first others ih => exact List.forall_mem_cons.mpr ⟨⟨_, first⟩, ih⟩

theorem forall₂_right {means : A → B → Prop} {items : List A} {values : List B}
    (related : List.Forall₂ means items values) : ∀ value ∈ values, ∃ item, means item value :=
  forall₂_left related.flip

end Checks
