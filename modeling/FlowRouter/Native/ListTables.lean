import FlowRouter.Library.LongestMatch
import FlowRouter.Native.Tables

namespace FlowRouter.Native
open LongestMatch

/-- A list of key bytes and data is the simplest exact map. -/
structure ListHash where
  capacity : Nat
  entries : List (List UInt8 × Nat)

structure ListLpm where
  maxRules : Nat
  tbl8s : Nat
  rules : List LpmRule

def enoent : Int := 2

/-- The list map refuses keys beyond its capacity. -/
def ListHash.add (table : ListHash) (key : List UInt8) (data : Nat) : Int × ListHash :=
  if table.entries.length < table.capacity then
    (0, { table with entries := (key, data) :: table.entries })
  else (-enospc, table)

def ListHash.lookup (table : ListHash) (key : List UInt8) : Int × Nat :=
  match table.entries.lookup key with
  | some data => (0, data)
  | none => (-enoent, 0)

def ListLpm.isRulePresent (table : ListLpm) (prefixBits : UInt32) (depth : UInt8) :
    Int × UInt32 :=
  if depth = 0 ∨ depth > 32 then (-einval, 0)
  else match table.rules.find? fun rule => rule.key = (prefixBits, depth) with
    | some rule => (1, rule.nextHop)
    | none => (0, 0)

/-- The list table counts the groups that its deep prefixes need. -/
def ListLpm.add (table : ListLpm) (prefixBits : UInt32) (depth : UInt8) (nextHop : UInt32) :
    Int × ListLpm :=
  let rules := ⟨prefixBits, depth, nextHop⟩ :: table.rules
  if depth = 0 ∨ depth > 32 then (-einval, table)
  else if table.rules.length < table.maxRules ∧
      (deepBlocks (rules.map LpmRule.key)).length ≤ table.tbl8s then
    (0, { table with rules := rules })
  else (-enospc, table)

def LpmRule.covers (address : UInt32) (rule : LpmRule) : Bool :=
  decide (Covers address rule.prefixBits rule.depth)

def ListLpm.lookup (table : ListLpm) (address : UInt32) : Int × UInt32 :=
  match best (LpmRule.covers address) (fun rule => rule.depth.toNat) table.rules with
  | some rule => (0, rule.nextHop)
  | none => (-enoent, 0)

/-- These tables execute what the documentation says. -/
def listTables : RteTables where
  Hash := ListHash
  Lpm := ListLpm
  hashCreate _ entries _ := ⟨entries, []⟩
  hashLookupData := ListHash.lookup
  hashAddKeyData := ListHash.add
  lpmCreate _ maxRules numberTbl8s := ⟨maxRules, numberTbl8s, []⟩
  lpmIsRulePresent := ListLpm.isRulePresent
  lpmAdd := ListLpm.add
  lpmLookup := ListLpm.lookup

def listViews : TableViews listTables where
  flowData table key := table.entries.lookup key
  flowCount table := table.entries.length
  flowCapacity table := table.capacity
  lpmRules table := table.rules
  lpmMaxRules table := table.maxRules
  lpmTbl8s table := table.tbl8s

/-- The list map is exact. -/
theorem listViews_hash : listViews.ExactHash where
  create _ _ _ := rfl
  create_count _ _ _ := rfl
  create_capacity _ _ _ := rfl
  lookup_hit table key data found := by
    change table.entries.lookup key = some data at found
    change 0 ≤ (table.lookup key).1 ∧ (table.lookup key).2 = data
    simp [ListHash.lookup, found]
  lookup_miss table key found := by
    change table.entries.lookup key = none at found
    change (table.lookup key).1 < 0
    simp [ListHash.lookup, found, enoent]
  add table key data _ success := by
    change 0 ≤ (table.add key data).1 at success
    change (fun other => (table.add key data).2.entries.lookup other) = _ ∧
      (table.add key data).2.entries.length = table.entries.length + 1 ∧
      (table.add key data).2.capacity = table.capacity
    by_cases room : table.entries.length < table.capacity
    · simp only [ListHash.add, if_pos room]
      refine ⟨?_, rfl, trivial⟩
      funext other
      by_cases same : other = key
      · simp [same]
      · have differs : (other == key) = false := by simpa using same
        simp [List.lookup_cons, differs, same, listViews]
    · simp only [ListHash.add, if_neg room] at success
      exact absurd success (by decide)
  add_room table key data _ capacity room := by
    change table.capacity = 2048 at capacity
    change table.entries.length < 1024 at room
    change 0 ≤ (table.add key data).1
    have below : table.entries.length < table.capacity := by omega
    simp only [ListHash.add, if_pos below, le_refl]

/-- A normal prefix passes the depth check. -/
theorem NormalPrefix.inRange {prefixBits : UInt32} {depth : UInt8}
    (normal : NormalPrefix prefixBits depth) : ¬ (depth = 0 ∨ depth > 32) :=
  not_or.mpr ⟨normal.1, UInt8.not_lt.mpr normal.2.1⟩

/-- The list table is exact. -/
theorem listViews_lpm : listViews.ExactLpm where
  create _ _ _ := rfl
  create_maxRules _ _ _ := rfl
  create_tbl8s _ _ _ := rfl
  present_hit table prefixBits depth normal member := by
    change (prefixBits, depth) ∈ table.rules.map LpmRule.key at member
    change 0 < (table.isRulePresent prefixBits depth).1
    simp only [ListLpm.isRulePresent, if_neg normal.inRange]
    cases found : table.rules.find? fun rule => rule.key = (prefixBits, depth) with
    | some rule => simp
    | none =>
      obtain ⟨rule, inside, same⟩ := List.mem_map.mp member
      exact absurd same (by simpa using List.find?_eq_none.mp found rule inside)
  present_miss table prefixBits depth normal absent := by
    change (prefixBits, depth) ∉ table.rules.map LpmRule.key at absent
    change (table.isRulePresent prefixBits depth).1 = 0
    have missing : (table.rules.find? fun rule => rule.key = (prefixBits, depth)) = none :=
      List.find?_eq_none.mpr fun rule inside => by
        simpa using fun same => absent (List.mem_map.mpr ⟨rule, inside, same⟩)
    simp only [ListLpm.isRulePresent, if_neg normal.inRange, missing]
  add table rule normal _ success := by
    change 0 ≤ (table.add rule.prefixBits rule.depth rule.nextHop).1 at success
    change (table.add rule.prefixBits rule.depth rule.nextHop).2.rules = rule :: table.rules ∧
      (table.add rule.prefixBits rule.depth rule.nextHop).2.maxRules = table.maxRules ∧
      (table.add rule.prefixBits rule.depth rule.nextHop).2.tbl8s = table.tbl8s
    simp only [ListLpm.add, if_neg normal.inRange] at success ⊢
    by_cases room : table.rules.length < table.maxRules ∧
        (deepBlocks ((rule :: table.rules).map LpmRule.key)).length ≤ table.tbl8s
    · rw [if_pos room]
      exact ⟨rfl, rfl, rfl⟩
    · rw [if_neg room] at success
      exact absurd (show 0 ≤ -enospc from success) (by decide)
  add_room table rule normal _ _ limit deep := by
    change table.rules.length < table.maxRules at limit
    change _ ≤ table.tbl8s at deep
    change 0 ≤ (table.add rule.prefixBits rule.depth rule.nextHop).1
    simp only [ListLpm.add, if_neg normal.inRange]
    rw [if_pos ⟨limit, deep⟩]
  add_full table rule normal _ deep := by
    change table.tbl8s < _ at deep
    change (table.add rule.prefixBits rule.depth rule.nextHop).1 = -enospc
    simp only [ListLpm.add, if_neg normal.inRange]
    rw [if_neg fun room => absurd room.2 (not_le.mpr deep)]
  lookup_longest table address rule member covered longest := by
    change table.lookup address = (0, rule.nextHop)
    have hit : rule.covers address = true := decide_eq_true covered
    simp only [ListLpm.lookup]
    cases found : best (LpmRule.covers address) (fun rule => rule.depth.toNat) table.rules with
    | none => exact absurd hit (by simp [best_eq_none.mp found rule member])
    | some winner =>
      have first := winner_of_best found
      rcases longest winner first.mem (of_decide_eq_true first.hit) with same | lower
      · rw [same]
      · have above := first.greatest rule member hit
        exact absurd (UInt8.lt_iff_toNat_lt.mp lower) (not_lt.mpr above)
  lookup_none table address missed := by
    change (table.lookup address).1 < 0
    have none : best (LpmRule.covers address) (fun rule => rule.depth.toNat) table.rules = none :=
      best_eq_none.mpr fun rule member => decide_eq_false (missed rule member)
    simp only [ListLpm.lookup, none]
    decide

/-- The list tables store what they are given. -/
theorem listViews_stores : listViews.Stores where
  createHash _ _ _ _ := rfl
  addHash table key data _ other found stored := by
    change (table.add key data).2.entries.lookup other = some found at stored
    change table.entries.lookup other = some found ∨ found = data
    by_cases room : table.entries.length < table.capacity
    · simp only [ListHash.add, if_pos room, List.lookup_cons] at stored
      cases same : other == key with
      | true => exact .inr (Option.some.inj (by rw [same] at stored; exact stored)).symm
      | false => exact .inl (by rw [same] at stored; exact stored)
    · simp only [ListHash.add, if_neg room] at stored
      exact .inl stored
  createLpm _ _ _ := rfl
  addLpm table prefixBits depth nextHop _ rule member := by
    change rule ∈ (table.add prefixBits depth nextHop).2.rules at member
    change rule ∈ table.rules ∨ rule.nextHop = nextHop
    by_cases bad : depth = 0 ∨ depth > 32
    · simp only [ListLpm.add, if_pos bad] at member
      exact .inl member
    simp only [ListLpm.add, if_neg bad] at member
    split_ifs at member
    · rcases List.mem_cons.mp member with rfl | old
      · exact .inr rfl
      · exact .inl old
    · exact .inl member

end FlowRouter.Native
