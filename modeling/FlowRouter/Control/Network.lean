import FlowRouter.Native.Tables

namespace FlowRouter.Control
open Native

/-- An address of the `net` package is a slice of bytes, and the empty slice is `nil`. -/
abbrev IP := List UInt8

abbrev IPMask := List UInt8

structure IPNet where
  ip : IP
  mask : IPMask
  deriving DecidableEq, Repr

/-- An IPv4 address in sixteen bytes starts with these twelve bytes. -/
def v4InV6Prefix : List UInt8 := [0, 0, 0, 0, 0, 0, 0, 0, 0, 0, 0xff, 0xff]

/-- The method `To4` gives the four bytes of an IPv4 address or `nil`. -/
def IP.to4 (ip : IP) : IP :=
  if ip.length = 4 then ip
  else if ip.length = 16 ∧ ip.take 12 = v4InV6Prefix then ip.drop 12
  else []

/-- The method `Mask` brings both operands to one length before it masks. -/
def IP.mask (ip : IP) (mask : IPMask) : IP :=
  let mask := if mask.length = 16 ∧ ip.length = 4 ∧ mask.take 12 = List.replicate 12 0xff then
    mask.drop 12 else mask
  let ip := if mask.length = 4 ∧ ip.length = 16 ∧ ip.take 12 = v4InV6Prefix then
    ip.drop 12 else ip
  if ip.length ≠ mask.length then [] else List.zipWith (· &&& ·) ip mask

/-- The function `CIDRMask` sets the leading bits of a mask. -/
def cidrMask (ones bits : Nat) : IPMask :=
  (List.range (bits / 8)).map fun index =>
    if 8 * (index + 1) ≤ ones then 0xff else ~~~(0xff >>> UInt8.ofNat (ones - 8 * index))

/-- The method `Size` finds the leading ones of a canonical mask and gives zeros for any other. -/
def IPMask.size (mask : IPMask) : Nat × Nat :=
  let bits := 8 * mask.length
  match (List.range (bits + 1)).find? (fun ones => mask = cidrMask ones bits) with
  | some ones => (ones, bits)
  | none => (0, 0)

/-- This is `binary.BigEndian.Uint32` on the four bytes that every caller passes. -/
def bigEndianUint32 : List UInt8 → UInt32
  | [first, second, third, fourth] =>
      .ofBitVec (first.toBitVec ++ second.toBitVec ++ third.toBitVec ++ fourth.toBitVec)
  | _ => 0

/-- The two parsers and the quotation of the `%q` verb come from the standard library. -/
structure GoLibrary where
  parseIP : String → IP
  parseCIDR : String → Option (IP × IPNet)
  quote : String → String

/-- The network of a CIDR text is its address under its mask. -/
def GoLibrary.Masks (lib : GoLibrary) : Prop :=
  ∀ text address network, lib.parseCIDR text = some (address, network) →
    network.ip = IP.mask address network.mask

theorem IP.to4_length {ip : IP} (found : ip.to4 ≠ []) : ip.to4.length = 4 := by
  unfold IP.to4 at found ⊢
  by_cases short : ip.length = 4
  · rw [if_pos short]
    exact short
  · rw [if_neg short] at found ⊢
    by_cases mapped : ip.length = 16 ∧ ip.take 12 = v4InV6Prefix
    · rw [if_pos mapped, List.length_drop, mapped.1]
    · rw [if_neg mapped] at found
      exact absurd rfl found

/-- A mask of four bytes acts on the four bytes of an IPv4 address. -/
theorem IP.mask_of_to4 {ip : IP} {mask : IPMask} (found : ip.to4 ≠ []) (short : mask.length = 4) :
    ip.mask mask = List.zipWith (· &&& ·) ip.to4 mask := by
  have four := IP.to4_length found
  have kept : ¬ (mask.length = 16 ∧ ip.length = 4 ∧ mask.take 12 = List.replicate 12 0xff) := by
    omega
  unfold IP.mask IP.to4 at *
  rw [if_neg kept]
  by_cases plain : ip.length = 4
  · have whole : ¬ (mask.length = 4 ∧ ip.length = 16 ∧ ip.take 12 = v4InV6Prefix) := by omega
    dsimp only
    rw [if_pos plain, if_neg whole, if_neg (by omega)]
  · rw [if_neg plain] at found four ⊢
    by_cases mapped : ip.length = 16 ∧ ip.take 12 = v4InV6Prefix
    · have whole : mask.length = 4 ∧ ip.length = 16 ∧ ip.take 12 = v4InV6Prefix :=
        ⟨short, mapped⟩
      rw [if_pos mapped] at four ⊢
      dsimp only
      rw [if_pos whole, if_neg (by omega)]
    · rw [if_neg mapped] at found
      exact absurd rfl found

/-- Reading four bytes commutes with a mask. -/
theorem bigEndianUint32_and {bytes mask : List UInt8} (long : bytes.length = 4)
    (short : mask.length = 4) :
    bigEndianUint32 (List.zipWith (· &&& ·) bytes mask) =
      bigEndianUint32 bytes &&& bigEndianUint32 mask := by
  obtain ⟨a, b, c, d, rfl⟩ := List.length_eq_four.mp long
  obtain ⟨e, f, g, h, rfl⟩ := List.length_eq_four.mp short
  have parts (x y z w x' y' z' w' : BitVec 8) :
      (x &&& x') ++ (y &&& y') ++ (z &&& z') ++ (w &&& w') =
        (x ++ y ++ z ++ w) &&& (x' ++ y' ++ z' ++ w') := by
    rw [BitVec.and_append, BitVec.and_append, BitVec.and_append]
  apply UInt32.toBitVec_inj.mp
  exact parts _ _ _ _ _ _ _ _

theorem cidrMask_length (ones : Nat) : (cidrMask ones 32).length = 4 := by
  simp [cidrMask]

/-- The mask of a depth in bytes is the mask of that depth as a number. -/
theorem bigEndianUint32_cidrMask {depth : Nat} (positive : depth ≠ 0) (small : depth ≤ 32) :
    bigEndianUint32 (cidrMask depth 32) = prefixMask (UInt8.ofNat depth) := by
  have all : ∀ depth < 33, depth ≠ 0 →
      bigEndianUint32 (cidrMask depth 32) = prefixMask (UInt8.ofNat depth) := by decide
  exact all depth (Nat.lt_succ_of_le small) positive

/-- A mask of thirty-two bits with a size is the mask of its depth. -/
theorem IPMask.size_eq {mask : IPMask} {depth : Nat} (size : IPMask.size mask = (depth, 32)) :
    mask = cidrMask depth 32 ∧ depth ≤ 32 := by
  unfold IPMask.size at size
  dsimp only at size
  cases found : (List.range (8 * mask.length + 1)).find?
      (fun ones => mask = cidrMask ones (8 * mask.length)) with
  | none =>
    rw [found] at size
    cases size
  | some ones =>
    rw [found] at size
    obtain ⟨rfl, bits⟩ := Prod.mk.inj size
    have canonical : mask = cidrMask ones (8 * mask.length) := by
      simpa using List.find?_some found
    have bounded := List.mem_range.mp (List.mem_of_find?_eq_some found)
    rw [bits] at canonical bounded
    exact ⟨canonical, Nat.le_of_lt_succ bounded⟩

/-- The network of an IPv4 CIDR text has the masked number of its address. -/
theorem GoLibrary.Masks.network {lib : GoLibrary} (masks : lib.Masks) {text : String}
    {address : IP} {network : IPNet} {depth : Nat}
    (parsed : lib.parseCIDR text = some (address, network)) (found : address.to4 ≠ [])
    (size : IPMask.size network.mask = (depth, 32)) (positive : depth ≠ 0) :
    bigEndianUint32 network.ip.to4 =
      bigEndianUint32 address.to4 &&& prefixMask (UInt8.ofNat depth) := by
  obtain ⟨mask, small⟩ := IPMask.size_eq size
  have short : network.mask.length = 4 := by rw [mask, cidrMask_length]
  have four := IP.to4_length found
  have bytes : network.ip = List.zipWith (· &&& ·) address.to4 network.mask := by
    rw [masks text address network parsed, IP.mask_of_to4 found short]
  have same : network.ip.to4 = network.ip := by
    rw [IP.to4, if_pos]
    rw [bytes, List.length_zipWith, four, short]
    rfl
  rw [same, bytes, bigEndianUint32_and four short, mask, bigEndianUint32_cidrMask positive small]

end FlowRouter.Control
