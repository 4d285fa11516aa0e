/-
# Lib.Bytes — byte strings of fixed size, big-endian numbers, files and words

Byte strings are lists.  `Block n` is an array of exactly `n` bytes.  A file is a
byte string too; `resize` is what truncating it to a size does, which may also
lengthen it.  `minus` subtracts unsigned words and says whether the difference wrapped.
-/
import Mathlib.Tactic

namespace Ardents.Lib

set_option autoImplicit false

/-- An array of `size` bytes. -/
structure Block (size : Nat) where
  bytes : List UInt8
  length : bytes.length = size
  deriving DecidableEq

/-- The array of zero bytes. -/
def Block.zero (size : Nat) : Block size := ⟨List.replicate size 0, List.length_replicate⟩

/-- A SHA-256 digest. -/
abbrev Digest := Block 32

abbrev Digest.zero : Digest := Block.zero 32

/-- The digest whose bytes are all the same. -/
def Digest.filled (byte : UInt8) : Digest := ⟨List.replicate 32 byte, List.length_replicate⟩

instance : LawfulBEq Digest := inferInstance

/-! ## Big-endian numbers -/

/-- The low `width` bytes of `value`, the most significant first. -/
def bigEndian : Nat → Nat → List UInt8
  | 0, _ => []
  | width + 1, value => bigEndian width (value / 256) ++ [UInt8.ofNat value]

/-- The number a big-endian byte string stands for. -/
def ofBigEndian (bytes : List UInt8) : Nat :=
  bytes.foldl (fun value byte => value * 256 + byte.toNat) 0

@[simp] theorem bigEndian_length (width value : Nat) : (bigEndian width value).length = width := by
  induction width generalizing value with
  | zero => rfl
  | succ width ih => simp [bigEndian, ih]

theorem ofBigEndian_append (bytes : List UInt8) (byte : UInt8) :
    ofBigEndian (bytes ++ [byte]) = ofBigEndian bytes * 256 + byte.toNat := by
  simp [ofBigEndian]

theorem ofBigEndian_bigEndian (width value : Nat) :
    ofBigEndian (bigEndian width value) = value % 256 ^ width := by
  induction width generalizing value with
  | zero => simp [bigEndian, ofBigEndian, Nat.mod_one]
  | succ width ih =>
    have digits : value % 256 ^ (width + 1) = value % 256 + 256 * (value / 256 % 256 ^ width) := by
      rw [pow_succ', Nat.mod_mul]
    rw [bigEndian, ofBigEndian_append, ih, digits, UInt8.toNat_ofNat', Nat.mul_comm, Nat.add_comm]

theorem bigEndian_ofBigEndian {width : Nat} {bytes : List UInt8} (size : bytes.length = width) :
    bigEndian width (ofBigEndian bytes) = bytes := by
  induction bytes using List.reverseRecOn generalizing width with
  | nil =>
    subst size
    rfl
  | append_singleton front byte ih =>
    rw [List.length_append, List.length_singleton] at size
    subst size
    have low : byte.toNat < 256 := byte.toNat_lt
    have upper : (ofBigEndian front * 256 + byte.toNat) / 256 = ofBigEndian front := by omega
    have lower : UInt8.ofNat (ofBigEndian front * 256 + byte.toNat) = byte := by
      apply UInt8.toNat_inj.1
      rw [UInt8.toNat_ofNat']
      omega
    rw [ofBigEndian_append, bigEndian, upper, lower, ih rfl]

theorem ofBigEndian_lt (bytes : List UInt8) : ofBigEndian bytes < 256 ^ bytes.length := by
  have exactly := ofBigEndian_bigEndian bytes.length (ofBigEndian bytes)
  rw [bigEndian_ofBigEndian rfl] at exactly
  rw [exactly]
  exact Nat.mod_lt _ (by positivity)

/-! ## Parts of a byte string -/

/-- `raw[offset : offset + size]`. -/
def slice (raw : List UInt8) (offset size : Nat) : List UInt8 := (raw.drop offset).take size

variable {size : Nat}

/-- The slice right after `front`. -/
theorem slice_append (front middle back : List UInt8) {offset : Nat}
    (starts : front.length = offset) (spans : middle.length = size) :
    slice (front ++ (middle ++ back)) offset size = middle := by
  subst starts spans
  simp [slice]

/-- The slice up to the end. -/
theorem slice_end (front last : List UInt8) {offset : Nat} (starts : front.length = offset)
    (spans : last.length = size) : slice (front ++ last) offset size = last := by
  have within := slice_append front last [] starts spans
  rwa [List.append_nil] at within

/-- `bytes.Compare(left, right) <= 0`. -/
def bytesLe : List UInt8 → List UInt8 → Bool
  | [], _ => true
  | _ :: _, [] => false
  | left :: lefts, right :: rights =>
    decide (left < right) || (decide (left = right) && bytesLe lefts rights)

/-! ## Files -/

/-- `Truncate(size)`: the file is cut, or lengthened with zero bytes. -/
def resize (file : List UInt8) (size : Nat) : List UInt8 :=
  file.take size ++ List.replicate (size - file.length) 0

theorem length_resize (file : List UInt8) (size : Nat) : (resize file size).length = size := by
  simp only [resize, List.length_append, List.length_take, List.length_replicate]
  omega

theorem resize_append (kept cut : List UInt8) : resize (kept ++ cut) kept.length = kept := by
  simp [resize]

/-- `copy(block[:], bytes)` into a fresh array. -/
def Block.copy (size : Nat) (bytes : List UInt8) : Block size :=
  ⟨resize bytes size, length_resize bytes size⟩

theorem Block.copy_bytes (block : Block size) : Block.copy size block.bytes = block := by
  obtain ⟨bytes, rfl⟩ := block
  simp [Block.copy, resize]

/-- The difference, and whether it wrapped below zero. -/
def minus (width left right : Nat) : Nat × Bool :=
  if right ≤ left then (left - right, false) else (left + 2 ^ width - right, true)

/-- Within its range a subtraction is exact. -/
theorem minus_of_le {left right : Nat} (width : Nat) (within : right ≤ left) :
    minus width left right = (left - right, false) := if_pos within

end Ardents.Lib
