/-
# Lib.Suite — hashing, signatures and keys written as text

SHA-256 and the check of an Ed25519 signature are parameters: nothing is assumed of them
here.  A public key is written as the lower-case hexadecimal text of its 32 bytes, and
`keyOf_hexText` says that this text determines it.
-/
import Ardents.Lib.Bytes

namespace Ardents.Lib

set_option autoImplicit false

/-- The bytes of a text of ASCII characters. -/
def ascii (text : String) : List UInt8 := text.toList.map fun character => UInt8.ofNat character.toNat

/-- The functions of a cryptographic suite that a program calls. -/
structure Suite where
  sha256 : List UInt8 → Digest
  /-- Whether `signature` is one of `message` under the public key `key`. -/
  verify : Digest → List UInt8 → List UInt8 → Bool

/-- The size of an Ed25519 signature. -/
def signatureSize : Nat := 64

/-- A suite to evaluate a program with: a signature repeats its key, and a digest keeps the
first bytes of its message. -/
def Suite.transparent : Suite where
  sha256 message := Block.copy 32 (1 :: message)
  verify key _ signature := signature == key.bytes ++ key.bytes

/-! ## Hexadecimal text -/

/-- The digit of a number below 16. -/
def hexDigit (number : UInt8) : UInt8 := if number < 10 then 48 + number else 87 + number

/-- The number of a lower-case digit. -/
def ofHexDigit (digit : UInt8) : Option UInt8 :=
  if 48 ≤ digit ∧ digit ≤ 57 then some (digit - 48)
  else if 97 ≤ digit ∧ digit ≤ 102 then some (digit - 87)
  else none

def hexOf : List UInt8 → List UInt8
  | [] => []
  | byte :: bytes => hexDigit (byte / 16) :: hexDigit (byte % 16) :: hexOf bytes

def ofHex : List UInt8 → Option (List UInt8)
  | [] => some []
  | [_] => none
  | upper :: lower :: digits =>
    match ofHexDigit upper, ofHexDigit lower, ofHex digits with
    | some upper, some lower, some bytes => some ((16 * upper + lower) :: bytes)
    | _, _, _ => none

/-- `hex.EncodeToString` of a key. -/
def hexText (key : Digest) : List UInt8 := hexOf key.bytes

/-- The key that a canonical text stands for. -/
def keyOf (text : List UInt8) : Option Digest :=
  match ofHex text with
  | some bytes => if sized : bytes.length = 32 then some ⟨bytes, sized⟩ else none
  | none => none

theorem ofHexDigit_hexDigit {number : UInt8} (small : number < 16) : ofHexDigit (hexDigit number) = some number := by
  have each : ∀ index : Fin 16, ofHexDigit (hexDigit (UInt8.ofNat index)) = some (UInt8.ofNat index) := by decide
  have exactly : UInt8.ofNat number.toNat = number := UInt8.ofNat_toNat
  have found := each ⟨number.toNat, UInt8.lt_iff_toNat_lt.1 small⟩
  rwa [exactly] at found

theorem ofHex_hexOf (bytes : List UInt8) : ofHex (hexOf bytes) = some bytes := by
  induction bytes with
  | nil => rfl
  | cons byte bytes ih =>
    have bounded := byte.toNat_lt
    have upper : byte / 16 < 16 := by
      rw [UInt8.lt_iff_toNat_lt, UInt8.toNat_div]
      simp only [UInt8.reduceToNat]
      omega
    have lower : byte % 16 < 16 := by
      rw [UInt8.lt_iff_toNat_lt, UInt8.toNat_mod]
      simp only [UInt8.reduceToNat]
      omega
    have whole : 16 * (byte / 16) + byte % 16 = byte := by
      apply UInt8.toNat_inj.1
      simp only [UInt8.toNat_add, UInt8.toNat_mul, UInt8.toNat_div, UInt8.toNat_mod, UInt8.reduceToNat]
      omega
    rw [hexOf, ofHex, ofHexDigit_hexDigit upper, ofHexDigit_hexDigit lower, ih]
    simp only [whole]

theorem keyOf_hexText (key : Digest) : keyOf (hexText key) = some key := by
  rw [keyOf, hexText, ofHex_hexOf]
  exact dif_pos key.length

/-- The text of a key is not empty. -/
theorem hexText_ne_nil (key : Digest) : hexText key ≠ [] := by
  obtain ⟨bytes, size⟩ := key
  cases bytes with
  | nil => cases size
  | cons byte bytes => exact List.cons_ne_nil _ _

end Ardents.Lib
