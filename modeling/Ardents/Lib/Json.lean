/-
# Lib.Json — the length of a JSON text

A document that is written as JSON and bounded in its length is modelled without its text;
these are the lengths of the parts that `encoding/json` writes.  An array of bytes is an
array of numbers, a slice of bytes is a string in base64.
-/
import Ardents.Lib.Bytes

namespace Ardents.Lib.Json

set_option autoImplicit false

/-- The digits of a number. -/
def decimals (number : Nat) : Nat := Nat.log 10 number + 1

def signedDecimals (number : Int) : Nat := (if number < 0 then 1 else 0) + decimals number.natAbs

/-- Brackets, the elements, and commas between them. -/
def arrayLength (elements : List Nat) : Nat := 2 + elements.sum + (elements.length - 1)

def blockLength {size : Nat} (block : Block size) : Nat :=
  arrayLength (block.bytes.map fun byte => decimals byte.toNat)

/-- A text that needs no escape, in quotes. -/
def textLength (characters : Nat) : Nat := characters + 2

/-- A slice of bytes, in quotes. -/
def base64Length (bytes : List UInt8) : Nat := textLength (4 * ((bytes.length + 2) / 3))

theorem decimals_le {number digits : Nat} (small : number < 10 ^ digits) (some : 0 < digits) :
    decimals number ≤ digits := by
  rw [decimals, Nat.add_one_le_iff]
  by_cases zero : number = 0
  · simpa [zero] using some
  · exact Nat.log_lt_of_lt_pow zero small

theorem decimals_uint64 (number : UInt64) : decimals number.toNat ≤ 20 :=
  decimals_le (number.toNat_lt.trans (by decide)) (by decide)

theorem signedDecimals_le (number : Int64) : signedDecimals number.toInt ≤ 20 := by
  have above := Int64.le_toInt number
  have below := Int64.toInt_lt number
  have digits : decimals number.toInt.natAbs ≤ 19 := decimals_le (by omega) (by decide)
  rw [signedDecimals]
  split <;> omega

variable {bound : Nat}

theorem arrayLength_le {elements : List Nat} (small : ∀ element ∈ elements, element ≤ bound) :
    arrayLength elements ≤ 2 + elements.length * (bound + 1) := by
  have total := List.sum_le_card_nsmul elements bound small
  simp only [smul_eq_mul] at total
  rw [arrayLength, Nat.mul_add]
  omega

/-- An array of records that are each bounded. -/
theorem arrayLength_map_le {α : Type} {f : α → Nat} {records : List α}
    (small : ∀ record ∈ records, f record ≤ bound) :
    arrayLength (records.map f) ≤ 2 + records.length * (bound + 1) := by
  have each : ∀ element ∈ records.map f, element ≤ bound := by
    intro element member
    obtain ⟨record, among, rfl⟩ := List.mem_map.1 member
    exact small record among
  simpa using arrayLength_le each

theorem blockLength_le {size : Nat} (block : Block size) : blockLength block ≤ 2 + size * 4 := by
  have each : ∀ byte ∈ block.bytes, decimals byte.toNat ≤ 3 := by
    intro byte _
    exact decimals_le (byte.toNat_lt.trans (by decide)) (by decide)
  simpa [blockLength, block.length] using arrayLength_map_le each

theorem base64Length_le {bytes : List UInt8} (short : bytes.length ≤ bound) :
    base64Length bytes ≤ 4 * ((bound + 2) / 3) + 2 := by
  rw [base64Length, textLength]
  omega

end Ardents.Lib.Json
