/-
# Naming.SignedRecord — the wire of a Record and its signed container

`record_wire.go` and `record_signature.go`.  A Record is encoded with the lengths of its
texts before them, and signed by its own Authority for one network.  `recordWire_injective`:
the wire determines the Record, so comparing two wires compares two Records.

A container that does not decode is not modelled: what decodes is a Record in schema 4, or
in schema 3, which has no validity of its own, together with a signature.
-/
import Ardents.Naming.Record

namespace Ardents.Naming

open Lib

set_option autoImplicit false

def maximumRecordPayloadBytes : Nat := 1846

/-- A text after its length of eight bytes. -/
def appendRecordString (value : Text) : List UInt8 := bigEndian 8 value.length ++ value

def Lease.code : Lease → UInt8
  | .active => 1
  | .grace => 2
  | .released => 3

def Consistency.code : Consistency → UInt8
  | .current => 1
  | .conflict => 2
  | .fork => 3
  | .unavailable => 4

def RecoveryState.code : RecoveryState → UInt8
  | .stable => 1
  | .pending => 2

/-- The numbers of a Record, in the order of the wire. -/
def recordNumbers (record : Record) : List UInt64 :=
  [record.parentGeneration, record.leaseExpiresAt.toUInt64, record.graceExpiresAt.toUInt64,
    record.recoveryExpiresAt.toUInt64, record.recoveryStartedAt.toUInt64, record.recoveryPolicyRev,
    record.recoveryPolicyDelay.toUInt64, record.pendingPolicyRev, record.pendingPolicyDelay.toUInt64,
    record.policyActivatesAt.toUInt64, record.continuity]

/-- What both schemas encode. -/
def recordFields (record : Record) : List UInt8 :=
  appendRecordString record.name ++ (unsigned64 record.generation ++ (unsigned64 record.revision ++
    ([record.lease.code, record.consistency.code, record.recovery.code] ++ (appendRecordString record.authority ++
    (record.target.bytes ++ (record.recoveryPolicy.bytes ++ (record.pendingPolicy.bytes ++
    (record.recoveryOperation.bytes ++ (record.recoverySuccessor.bytes ++ (appendRecordString record.parentName ++
    ((recordNumbers record).flatMap unsigned64 ++ appendRecordString record.conflictIdentifier)))))))))))

/-- Schema 4 of a Record. -/
def recordWire (record : Record) : List UInt8 :=
  bigEndian 2 4 ++ (recordFields record ++ signed64 record.recordNotAfter)

/-- Schema 3, which has no validity of the Record. -/
def legacyWire (record : Record) : List UInt8 := bigEndian 2 3 ++ recordFields record

/-- `EncodeRecord`. -/
def encodeRecord (record : Record) : Option (List UInt8) :=
  if validRecord record then some (recordWire record) else none

structure SignedRecord where
  legacy : Bool
  record : Record
  signature : List UInt8
  deriving DecidableEq

namespace SignedRecord

def wire (signed : SignedRecord) : List UInt8 :=
  if signed.legacy then legacyWire signed.record else recordWire signed.record

/-- `DecodeRecord` of the wire. -/
def decoded (signed : SignedRecord) : Record :=
  if signed.legacy then { signed.record with recordNotAfter := 0 } else signed.record

end SignedRecord

def recordTranscript (network : Digest) (wire : List UInt8) : List UInt8 :=
  bigEndian 2 22 ++ ascii "ardents-name-record-v1" ++ network.bytes ++ bigEndian 8 wire.length ++ wire

/-- `VerifyRecord`. -/
def verifyRecord (suite : Suite) (network : Digest) (signed : SignedRecord) : Option Record :=
  match keyOf signed.decoded.authority with
  | none => none
  | some key =>
    if network != Digest.zero && decide (signed.signature.length = signatureSize) &&
        decide (signed.wire.length ≤ maximumRecordPayloadBytes) && validRecord signed.decoded &&
        suite.verify key (recordTranscript network signed.wire) signed.signature then some signed.decoded
    else none

/-! ## The wire determines the Record -/

theorem unsigned64_splits {first second : UInt64} {rest rest' : List UInt8}
    (same : unsigned64 first ++ rest = unsigned64 second ++ rest') : first = second ∧ rest = rest' := by
  obtain ⟨digits, later⟩ := List.append_inj same (by simp [unsigned64])
  have numbers := congrArg ofBigEndian digits
  rw [unsigned64, unsigned64, ofBigEndian_bigEndian, ofBigEndian_bigEndian,
    Nat.mod_eq_of_lt (by simpa using first.toNat_lt), Nat.mod_eq_of_lt (by simpa using second.toNat_lt)] at numbers
  exact ⟨UInt64.toNat_inj.1 numbers, later⟩

theorem appendRecordString_splits {first second : Text} {rest rest' : List UInt8} (short : first.length < 2 ^ 64)
    (short' : second.length < 2 ^ 64)
    (same : appendRecordString first ++ rest = appendRecordString second ++ rest') : first = second ∧ rest = rest' := by
  simp only [appendRecordString, List.append_assoc] at same
  obtain ⟨digits, later⟩ := List.append_inj same (by simp)
  have lengths := congrArg ofBigEndian digits
  rw [ofBigEndian_bigEndian, ofBigEndian_bigEndian, Nat.mod_eq_of_lt (by simpa using short),
    Nat.mod_eq_of_lt (by simpa using short')] at lengths
  exact List.append_inj later lengths

theorem block_splits {size : Nat} {first second : Block size} {rest rest' : List UInt8}
    (same : first.bytes ++ rest = second.bytes ++ rest') : first = second ∧ rest = rest' := by
  obtain ⟨bytes, later⟩ := List.append_inj same (first.length.trans second.length.symm)
  obtain ⟨_, _⟩ := first
  obtain ⟨_, _⟩ := second
  cases bytes
  exact ⟨rfl, later⟩

theorem numbers_splits : ∀ {first second : List UInt64} {rest rest' : List UInt8}, first.length = second.length →
    first.flatMap unsigned64 ++ rest = second.flatMap unsigned64 ++ rest' → first = second ∧ rest = rest'
  | [], [], _, _, _, same => ⟨rfl, same⟩
  | [], _ :: _, _, _, sizes, _ => by cases sizes
  | _ :: _, [], _, _, sizes, _ => by cases sizes
  | number :: first, number' :: second, rest, rest', sizes, same => by
    simp only [List.flatMap_cons, List.append_assoc] at same
    obtain ⟨rfl, later⟩ := unsigned64_splits same
    obtain ⟨rfl, last⟩ := numbers_splits (Nat.succ.inj sizes) later
    exact ⟨rfl, last⟩

theorem Lease.code_injective {first second : Lease} (same : first.code = second.code) : first = second := by
  revert same
  cases first <;> cases second <;> decide

theorem Consistency.code_injective {first second : Consistency} (same : first.code = second.code) :
    first = second := by
  revert same
  cases first <;> cases second <;> decide

theorem RecoveryState.code_injective {first second : RecoveryState} (same : first.code = second.code) :
    first = second := by
  revert same
  cases first <;> cases second <;> decide

/-- The texts of a Record whose wire is short are short. -/
theorem recordFields_length (record : Record) :
    record.name.length ≤ (recordFields record).length ∧ record.authority.length ≤ (recordFields record).length ∧
      record.parentName.length ≤ (recordFields record).length ∧
      record.conflictIdentifier.length ≤ (recordFields record).length := by
  simp only [recordFields, appendRecordString, List.length_append]
  omega

theorem toUInt64_injective {first second : Int64} (same : first.toUInt64 = second.toUInt64) : first = second := by
  cases first
  cases second
  cases same
  rfl

theorem toUInt64_iff {first second : Int64} : first.toUInt64 = second.toUInt64 ↔ first = second :=
  ⟨toUInt64_injective, congrArg Int64.toUInt64⟩

theorem Record.ext_of_numbers {first second : Record} (name : first.name = second.name)
    (generation : first.generation = second.generation) (revision : first.revision = second.revision)
    (lease : first.lease = second.lease) (consistency : first.consistency = second.consistency)
    (recovery : first.recovery = second.recovery) (authority : first.authority = second.authority)
    (target : first.target = second.target) (recordNotAfter : first.recordNotAfter = second.recordNotAfter)
    (parentName : first.parentName = second.parentName) (operation : first.recoveryOperation = second.recoveryOperation)
    (successor : first.recoverySuccessor = second.recoverySuccessor)
    (policy : first.recoveryPolicy = second.recoveryPolicy)
    (pending : first.pendingPolicy = second.pendingPolicy)
    (conflict : first.conflictIdentifier = second.conflictIdentifier)
    (numbers : recordNumbers first = recordNumbers second) : first = second := by
  cases first
  cases second
  simp only [recordNumbers, List.cons.injEq, toUInt64_iff, and_true] at numbers
  simp_all

theorem recordWire_injective {first second : Record} (same : recordWire first = recordWire second)
    (short : (recordWire first).length < 2 ^ 64) : first = second := by
  have short' : (recordWire second).length < 2 ^ 64 := same ▸ short
  simp only [recordWire, List.length_append] at short short'
  obtain ⟨name, authority, parentName, conflict⟩ := recordFields_length first
  obtain ⟨name', authority', parentName', conflict'⟩ := recordFields_length second
  have fields := (List.append_inj same (by simp)).2
  simp only [recordFields, List.append_assoc] at fields
  obtain ⟨sameName, fields⟩ := appendRecordString_splits (by omega) (by omega) fields
  obtain ⟨sameGeneration, fields⟩ := unsigned64_splits fields
  obtain ⟨sameRevision, fields⟩ := unsigned64_splits fields
  obtain ⟨states, fields⟩ := List.append_inj fields rfl
  simp only [List.cons.injEq, and_true] at states
  obtain ⟨sameAuthority, fields⟩ := appendRecordString_splits (by omega) (by omega) fields
  obtain ⟨sameTarget, fields⟩ := block_splits fields
  obtain ⟨samePolicy, fields⟩ := block_splits fields
  obtain ⟨samePending, fields⟩ := block_splits fields
  obtain ⟨sameOperation, fields⟩ := block_splits fields
  obtain ⟨sameSuccessor, fields⟩ := block_splits fields
  obtain ⟨sameParent, fields⟩ := appendRecordString_splits (by omega) (by omega) fields
  have sizes : (recordNumbers first).length = (recordNumbers second).length := rfl
  obtain ⟨sameNumbers, fields⟩ := numbers_splits sizes fields
  obtain ⟨sameConflict, validity⟩ := appendRecordString_splits (by omega) (by omega) fields
  have sameValidity : first.recordNotAfter = second.recordNotAfter := by
    have word : unsigned64 first.recordNotAfter.toUInt64 ++ [] = unsigned64 second.recordNotAfter.toUInt64 ++ [] := by
      simpa [signed64, unsigned64] using validity
    exact toUInt64_injective (unsigned64_splits word).1
  exact Record.ext_of_numbers sameName sameGeneration sameRevision (Lease.code_injective states.1)
    (Consistency.code_injective states.2.1) (RecoveryState.code_injective states.2.2) sameAuthority sameTarget
    sameValidity sameParent sameOperation sameSuccessor samePolicy samePending sameConflict sameNumbers

/-! ## What a verified container says -/

/-- Two Records have the same wire. -/
def sameRecord (left right : Record) : Bool :=
  match encodeRecord left, encodeRecord right with
  | some left, some right => left == right
  | _, _ => false

structure Verified (suite : Suite) (network : Digest) (signed : SignedRecord) (record : Record) : Prop where
  decoded : signed.decoded = record
  valid : validRecord record = true
  short : signed.wire.length ≤ maximumRecordPayloadBytes
  authority : ∃ key, keyOf record.authority = some key ∧
    suite.verify key (recordTranscript network signed.wire) signed.signature = true

variable {signed : SignedRecord} {network : Digest} {record : Record} {suite : Suite}

theorem verifyRecord_eq_some
    (verified : verifyRecord suite network signed = some record) : Verified suite network signed record := by
  rw [verifyRecord] at verified
  split at verified
  · cases verified
  next key found =>
  split at verified
  · next holds =>
    cases verified
    simp only [Bool.and_eq_true, decide_eq_true_eq] at holds
    obtain ⟨⟨⟨-, short⟩, valid⟩, signature⟩ := holds
    exact ⟨rfl, valid, short, key, found, signature⟩
  · cases verified

theorem signed64_length (value : Int64) : (signed64 value).length = 8 := bigEndian_length _ _

/-- The Record of a verified container has a short wire. -/
theorem Verified.wire_length
    (verified : Verified suite network signed record) : (recordWire record).length < 2 ^ 64 := by
  have short := verified.short
  obtain ⟨rfl, -, -, -⟩ := verified
  unfold SignedRecord.wire maximumRecordPayloadBytes at short
  unfold SignedRecord.decoded
  split at short
  · next legacy =>
    rw [if_pos legacy]
    have fields : recordFields { signed.record with recordNotAfter := 0 } = recordFields signed.record := rfl
    simp only [recordWire, legacyWire, List.length_append, bigEndian_length, signed64_length, fields] at short ⊢
    omega
  next legacy =>
  rw [if_neg legacy]
  omega

/-- A Record with the wire of a verified one is that Record. -/
theorem Verified.eq_of_sameRecord {other : Record}
    (verified : Verified suite network signed record) (same : sameRecord other record = true) :
    other = record := by
  unfold sameRecord at same
  split at same
  · next left right encoded encoded' =>
    rw [encodeRecord] at encoded encoded'
    split at encoded
    · cases encoded
      rw [if_pos verified.valid] at encoded'
      cases encoded'
      exact (recordWire_injective (beq_iff_eq.1 same).symm verified.wire_length).symm
    · cases encoded
  · cases same

end Ardents.Naming
