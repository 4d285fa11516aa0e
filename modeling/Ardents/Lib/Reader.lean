/-
# Lib.Reader — a cursor over a byte string

A reader takes bytes from the front of a byte string and answers with a value and the
bytes that it left, or refuses.  The lemmas `*_eq_ok` say for each reader when it
answers: exactly on the encoding of its value, followed by what it left.  Rewriting
with them turns "the decoder accepts `raw`" into an equation for `raw`, from which both
directions of a round trip are read off.

An encoding is the `flatten` of its parts; two encodings whose parts have the same sizes
are equal only when their parts are (`flatten_inj`).
-/
import Ardents.Lib.Bytes

namespace Ardents.Lib

set_option autoImplicit false

def Reader (ε α : Type) : Type := List UInt8 → Except ε (α × List UInt8)

variable {holds : Bool}

namespace Reader

variable {ε α β : Type}

protected def pure (value : α) : Reader ε α := fun raw => .ok (value, raw)

protected def bind (first : Reader ε α) (next : α → Reader ε β) : Reader ε β := fun raw =>
  match first raw with
  | .error refusal => .error refusal
  | .ok (value, rest) => next value rest

instance : Monad (Reader ε) where
  pure := Reader.pure
  bind := Reader.bind

/-- The reader refuses unless `holds`. -/
def demand (holds : Bool) (refusal : ε) : Reader ε Unit := fun raw =>
  if holds then .ok ((), raw) else .error refusal

/-- The next `size` bytes. -/
def bytes (size : Nat) (short : ε) : Reader ε (Block size) := fun raw =>
  if long : size ≤ raw.length then
    .ok (⟨raw.take size, List.length_take_of_le long⟩, raw.drop size)
  else .error short

/-- The number in the next `width` bytes. -/
def number (width : Nat) (short : ε) : Reader ε Nat := do
  let digits ← bytes width short
  pure (ofBigEndian digits.bytes)

def byte (short : ε) : Reader ε UInt8 := do
  let digit ← number 1 short
  pure (UInt8.ofNat digit)

def uint64 (short : ε) : Reader ε UInt64 := do
  let value ← number 8 short
  pure (UInt64.ofNat value)

/-- `count` values, one after the other. -/
def each (read : Reader ε α) : Nat → Reader ε (List α)
  | 0 => pure []
  | count + 1 => do
    let value ← read
    let values ← each read count
    pure (value :: values)

/-- The value that a reader answers with when it leaves nothing. -/
def whole (read : Reader ε α) (trailing : ε) (raw : List UInt8) : Except ε α :=
  match read raw with
  | .error refusal => .error refusal
  | .ok (value, rest) => if rest.isEmpty then .ok value else .error trailing

/-! ## When a reader answers -/

variable {raw rest : List UInt8} {read : Reader ε α} {value : α} {short : ε}

theorem pure_eq_ok {value' : α} :
    (pure value : Reader ε α) raw = .ok (value', rest) ↔ value = value' ∧ raw = rest := by
  change Except.ok (value, raw) = .ok (value', rest) ↔ _
  simp

theorem bind_eq_ok {first : Reader ε α} {next : α → Reader ε β} {value : β} :
    (first >>= next) raw = .ok (value, rest) ↔
      ∃ part middle, first raw = .ok (part, middle) ∧ next part middle = .ok (value, rest) := by
  change Reader.bind first next raw = _ ↔ _
  unfold Reader.bind
  cases first raw with
  | error refusal => simp
  | ok answer =>
    obtain ⟨part, middle⟩ := answer
    simp

theorem demand_eq_ok {refusal : ε} {nothing : Unit} :
    demand holds refusal raw = .ok (nothing, rest) ↔ holds = true ∧ raw = rest := by
  unfold demand
  cases holds <;> simp

theorem bytes_eq_ok {size : Nat} {block : Block size} :
    bytes size short raw = .ok (block, rest) ↔ raw = block.bytes ++ rest := by
  unfold bytes
  constructor
  · intro read
    split at read
    · cases read
      exact (List.take_append_drop size raw).symm
    · cases read
  · rintro rfl
    obtain ⟨front, rfl⟩ := block
    simp

theorem number_eq_ok {width value : Nat} : number width short raw = .ok (value, rest) ↔
      raw = bigEndian width value ++ rest ∧ value < 256 ^ width := by
  simp only [number, bind_eq_ok, bytes_eq_ok, pure_eq_ok]
  constructor
  · rintro ⟨digits, middle, rfl, rfl, rfl⟩
    rw [bigEndian_ofBigEndian digits.length]
    have small := ofBigEndian_lt digits.bytes
    rw [digits.length] at small
    exact ⟨rfl, small⟩
  · rintro ⟨rfl, small⟩
    refine ⟨⟨bigEndian width value, bigEndian_length width value⟩, rest, rfl, ?_, rfl⟩
    rw [ofBigEndian_bigEndian, Nat.mod_eq_of_lt small]

theorem byte_eq_ok {value : UInt8} : byte short raw = .ok (value, rest) ↔ raw = value :: rest := by
  simp only [byte, bind_eq_ok, number_eq_ok, pure_eq_ok]
  constructor
  · rintro ⟨digit, middle, ⟨rfl, -⟩, rfl, rfl⟩
    rfl
  · rintro rfl
    refine ⟨value.toNat, rest, ⟨?_, value.toNat_lt⟩, UInt8.ofNat_toNat, rfl⟩
    simp [bigEndian]

theorem uint64_eq_ok {value : UInt64} :
    uint64 short raw = .ok (value, rest) ↔ raw = bigEndian 8 value.toNat ++ rest := by
  simp only [uint64, bind_eq_ok, number_eq_ok, pure_eq_ok]
  constructor
  · rintro ⟨word, middle, ⟨rfl, small⟩, rfl, rfl⟩
    rw [UInt64.toNat_ofNat_of_lt' small]
  · rintro rfl
    exact ⟨value.toNat, rest, ⟨rfl, value.toNat_lt⟩, UInt64.ofNat_toNat, rfl⟩

/-- Values that are read one after the other are encoded one after the other. -/
theorem each_eq_ok {encode : α → List UInt8}
    (exactly : ∀ {raw value rest}, read raw = .ok (value, rest) ↔ raw = encode value ++ rest)
    {count : Nat} {values : List α} : each read count raw = .ok (values, rest) ↔
      raw = values.flatMap encode ++ rest ∧ values.length = count := by
  induction count generalizing raw values with
  | zero =>
    simp only [each, pure_eq_ok, List.length_eq_zero_iff]
    constructor
    · rintro ⟨rfl, rfl⟩
      exact ⟨rfl, rfl⟩
    · rintro ⟨rfl, rfl⟩
      exact ⟨rfl, rfl⟩
  | succ count ih =>
    simp only [each, bind_eq_ok, exactly, pure_eq_ok]
    constructor
    · rintro ⟨value, middle, rfl, later, tail, read, rfl, rfl⟩
      obtain ⟨rfl, rfl⟩ := ih.1 read
      simp
    rintro ⟨rfl, size⟩
    cases values with
    | nil => cases size
    | cons value later =>
      have read := ih.2 ⟨rfl, Nat.succ.inj size⟩
      exact ⟨value, later.flatMap encode ++ rest, by simp, later, rest, read, rfl, rfl⟩

theorem whole_eq_ok {trailing : ε} :
    whole read trailing raw = .ok value ↔ read raw = .ok (value, []) := by
  unfold whole
  cases read raw with
  | error refusal => simp
  | ok answer =>
    obtain ⟨found, rest⟩ := answer
    cases rest <;> simp

end Reader

theorem except_bind_eq_ok {ε α β : Type} {first : Except ε α} {next : α → Except ε β} {value : β} :
    (first >>= next) = .ok value ↔ ∃ part, first = .ok part ∧ next part = .ok value := by
  change Except.bind first next = _ ↔ _
  cases first <;> simp [Except.bind]

/-- A check that refuses with `fault`. -/
def demand {ε : Type} (holds : Bool) (fault : ε) : Except ε Unit := if holds then .ok () else .error fault

@[simp] theorem demand_eq_ok {ε : Type} {fault : ε} {value : Unit} :
    demand holds fault = .ok value ↔ holds = true := by
  cases holds <;> simp [demand]

/-! ## The parts of an encoding -/

theorem flatten_inj {α : Type} : ∀ {first second : List (List α)},
    first.map List.length = second.map List.length → first.flatten = second.flatten → first = second
  | [], [], _, _ => rfl
  | [], _ :: _, sizes, _ => by cases sizes
  | _ :: _, [], sizes, _ => by cases sizes
  | front :: first, front' :: second, sizes, same => by
    simp only [List.map_cons, List.cons.injEq] at sizes
    obtain ⟨rfl, later⟩ := List.append_inj same sizes.1
    rw [flatten_inj sizes.2 later]

end Ardents.Lib
