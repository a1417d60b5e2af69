import FlowRouter.Native.Api
import Mathlib.Data.List.Dedup

namespace FlowRouter.Native

/-- The table libraries supply these calls. A negative status is a failure. -/
structure RteTables where
  Hash : Type
  Lpm : Type
  hashCreate : (name : String) → (entries keyLen : Nat) → Hash
  hashLookupData : Hash → List UInt8 → Int × Nat
  hashAddKeyData : Hash → List UInt8 → Nat → Int × Hash
  lpmCreate : (name : String) → (maxRules numberTbl8s : Nat) → Lpm
  lpmIsRulePresent : Lpm → UInt32 → UInt8 → Int × UInt32
  lpmAdd : Lpm → UInt32 → UInt8 → UInt32 → Int × Lpm
  lpmLookup : Lpm → UInt32 → Int × UInt32

/-- This is the mask of a prefix with the given depth. -/
def prefixMask (depth : UInt8) : UInt32 :=
  0xffffffff <<< (32 - depth).toUInt32

structure LpmRule where
  prefixBits : UInt32
  depth : UInt8
  nextHop : UInt32
  deriving DecidableEq, Repr

/-- An address matches a prefix when their leading bits agree. -/
def Covers (address prefixBits : UInt32) (depth : UInt8) : Prop :=
  address &&& prefixMask depth = prefixBits

instance (address prefixBits : UInt32) (depth : UInt8) :
    Decidable (Covers address prefixBits depth) :=
  inferInstanceAs (Decidable (address &&& prefixMask depth = prefixBits))

/-- A prefix has between one and thirty-two leading bits and no bit after them. -/
def NormalPrefix (prefixBits : UInt32) (depth : UInt8) : Prop :=
  depth ≠ 0 ∧ depth ≤ 32 ∧ prefixBits &&& prefixMask depth = prefixBits

instance (prefixBits : UInt32) (depth : UInt8) : Decidable (NormalPrefix prefixBits depth) :=
  inferInstanceAs (Decidable (depth ≠ 0 ∧ depth ≤ 32 ∧ _))

/-- These are the distinct blocks of 256 addresses that hold a prefix deeper than 24. -/
def deepBlocks (prefixes : List (UInt32 × UInt8)) : List UInt32 :=
  ((prefixes.filter fun entry => 24 < entry.2).map fun entry : UInt32 × UInt8 =>
    entry.1 >>> 8).dedup

def LpmRule.key (rule : LpmRule) : UInt32 × UInt8 := (rule.prefixBits, rule.depth)

/-- These views say what an opaque table holds. -/
structure TableViews (tables : RteTables) where
  flowData : tables.Hash → List UInt8 → Option Nat
  flowCount : tables.Hash → Nat
  flowCapacity : tables.Hash → Nat
  lpmRules : tables.Lpm → List LpmRule
  lpmMaxRules : tables.Lpm → Nat
  lpmTbl8s : tables.Lpm → Nat

/-- The hash is an exact map over its key bytes. A hash of 2048 entries stores 1024 distinct keys
whatever their distribution. -/
structure TableViews.ExactHash {tables : RteTables} (views : TableViews tables) : Prop where
  create (name : String) (entries keyLen : Nat) :
    views.flowData (tables.hashCreate name entries keyLen) = fun _ => none
  create_count (name : String) (entries keyLen : Nat) :
    views.flowCount (tables.hashCreate name entries keyLen) = 0
  create_capacity (name : String) (entries keyLen : Nat) :
    views.flowCapacity (tables.hashCreate name entries keyLen) = entries
  lookup_hit (table : tables.Hash) (key : List UInt8) (data : Nat) :
    views.flowData table key = some data →
      0 ≤ (tables.hashLookupData table key).1 ∧ (tables.hashLookupData table key).2 = data
  lookup_miss (table : tables.Hash) (key : List UInt8) :
    views.flowData table key = none → (tables.hashLookupData table key).1 < 0
  add (table : tables.Hash) (key : List UInt8) (data : Nat) :
    views.flowData table key = none → 0 ≤ (tables.hashAddKeyData table key data).1 →
      views.flowData (tables.hashAddKeyData table key data).2 =
        Function.update (views.flowData table) key (some data) ∧
      views.flowCount (tables.hashAddKeyData table key data).2 = views.flowCount table + 1 ∧
      views.flowCapacity (tables.hashAddKeyData table key data).2 = views.flowCapacity table
  add_room (table : tables.Hash) (key : List UInt8) (data : Nat) :
    views.flowData table key = none → views.flowCapacity table = 2048 →
      views.flowCount table < 1024 →
      0 ≤ (tables.hashAddKeyData table key data).1

/-- The prefix table answers with the longest match. It needs one second-level group for each
block that holds a prefix deeper than 24, and it refuses a rule when no group is left. -/
structure TableViews.ExactLpm {tables : RteTables} (views : TableViews tables) : Prop where
  create (name : String) (maxRules numberTbl8s : Nat) :
    views.lpmRules (tables.lpmCreate name maxRules numberTbl8s) = []
  create_maxRules (name : String) (maxRules numberTbl8s : Nat) :
    views.lpmMaxRules (tables.lpmCreate name maxRules numberTbl8s) = maxRules
  create_tbl8s (name : String) (maxRules numberTbl8s : Nat) :
    views.lpmTbl8s (tables.lpmCreate name maxRules numberTbl8s) = numberTbl8s
  present_hit (table : tables.Lpm) (prefixBits : UInt32) (depth : UInt8) :
    NormalPrefix prefixBits depth →
      (prefixBits, depth) ∈ (views.lpmRules table).map LpmRule.key →
      0 < (tables.lpmIsRulePresent table prefixBits depth).1
  present_miss (table : tables.Lpm) (prefixBits : UInt32) (depth : UInt8) :
    NormalPrefix prefixBits depth →
      (prefixBits, depth) ∉ (views.lpmRules table).map LpmRule.key →
      (tables.lpmIsRulePresent table prefixBits depth).1 = 0
  add (table : tables.Lpm) (rule : LpmRule) :
    NormalPrefix rule.prefixBits rule.depth →
      rule.key ∉ (views.lpmRules table).map LpmRule.key →
      0 ≤ (tables.lpmAdd table rule.prefixBits rule.depth rule.nextHop).1 →
      views.lpmRules (tables.lpmAdd table rule.prefixBits rule.depth rule.nextHop).2 =
        rule :: views.lpmRules table ∧
      views.lpmMaxRules (tables.lpmAdd table rule.prefixBits rule.depth rule.nextHop).2 =
        views.lpmMaxRules table ∧
      views.lpmTbl8s (tables.lpmAdd table rule.prefixBits rule.depth rule.nextHop).2 =
        views.lpmTbl8s table
  add_room (table : tables.Lpm) (rule : LpmRule) :
    NormalPrefix rule.prefixBits rule.depth →
      rule.key ∉ (views.lpmRules table).map LpmRule.key →
      rule.nextHop.toNat < 2 ^ 24 →
      (views.lpmRules table).length < views.lpmMaxRules table →
      (deepBlocks ((rule :: views.lpmRules table).map LpmRule.key)).length ≤
        views.lpmTbl8s table →
      0 ≤ (tables.lpmAdd table rule.prefixBits rule.depth rule.nextHop).1
  add_full (table : tables.Lpm) (rule : LpmRule) :
    NormalPrefix rule.prefixBits rule.depth →
      rule.key ∉ (views.lpmRules table).map LpmRule.key →
      views.lpmTbl8s table <
        (deepBlocks ((rule :: views.lpmRules table).map LpmRule.key)).length →
      (tables.lpmAdd table rule.prefixBits rule.depth rule.nextHop).1 = -enospc
  lookup_longest (table : tables.Lpm) (address : UInt32) (rule : LpmRule) :
    rule ∈ views.lpmRules table → Covers address rule.prefixBits rule.depth →
      (∀ other ∈ views.lpmRules table, Covers address other.prefixBits other.depth →
        other = rule ∨ other.depth < rule.depth) →
      tables.lpmLookup table address = (0, rule.nextHop)
  lookup_none (table : tables.Lpm) (address : UInt32) :
    (∀ rule ∈ views.lpmRules table, ¬ Covers address rule.prefixBits rule.depth) →
      (tables.lpmLookup table address).1 < 0

/-- A new table is empty, and a successful insertion stores nothing but its own datum. -/
structure TableViews.Stores {tables : RteTables} (views : TableViews tables) : Prop where
  createHash (name : String) (entries keyLen : Nat) (key : List UInt8) :
    views.flowData (tables.hashCreate name entries keyLen) key = none
  addHash (table : tables.Hash) (key : List UInt8) (data : Nat) :
    0 ≤ (tables.hashAddKeyData table key data).1 → ∀ other found,
      views.flowData (tables.hashAddKeyData table key data).2 other = some found →
        views.flowData table other = some found ∨ found = data
  createLpm (name : String) (maxRules numberTbl8s : Nat) :
    views.lpmRules (tables.lpmCreate name maxRules numberTbl8s) = []
  addLpm (table : tables.Lpm) (prefixBits : UInt32) (depth : UInt8) (nextHop : UInt32) :
    0 ≤ (tables.lpmAdd table prefixBits depth nextHop).1 →
      ∀ rule ∈ views.lpmRules (tables.lpmAdd table prefixBits depth nextHop).2,
        rule ∈ views.lpmRules table ∨ rule.nextHop = nextHop

end FlowRouter.Native
