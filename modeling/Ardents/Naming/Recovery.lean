/-
# Naming.Recovery — Recovery Policies and their authorizations

`internal/naming/namespace/recovery`.  A policy names participants, any threshold of which
may sign the initiation or the cancellation of a recovery.  `authorize` checks such a
proof and seals what it says; `authorize_eq_ok` is what an authorization says about its
proof.

A duration is an `int64` of nanoseconds.  The participants are strictly ordered when a
policy is valid, so the binary search for a signer is membership.
-/
import Ardents.Lib.Suite
import Ardents.Naming.Name

namespace Ardents.Naming

open Lib

set_option autoImplicit false

/-- `72 * time.Hour`. -/
def minimumRecoveryDelay : Int64 := 259200000000000

/-- `30 * 24 * time.Hour`. -/
def maximumRecoveryDelay : Int64 := 2592000000000000

/-- `duration.Milliseconds()`. -/
def milliseconds (duration : Int64) : Int64 := duration / 1000000

def maximumPolicyProofBytes : Nat := 2048

structure RecoveryPolicy where
  network : Digest
  name : Text
  generation : UInt64
  revision : UInt64
  currentAuthority : Digest
  threshold : UInt8
  participants : List Digest
  delay : Int64
  deriving DecidableEq

inductive RecoveryOperation where
  | initiate
  | cancel
  /-- Any other text. -/
  | other (text : Text)
  deriving DecidableEq

def RecoveryOperation.text : RecoveryOperation → Text
  | .initiate => ascii "initiate"
  | .cancel => ascii "cancel"
  | .other text => text

structure Signature where
  signer : Digest
  bytes : List UInt8
  deriving DecidableEq

structure RecoveryProof where
  operation : RecoveryOperation
  policyDigest : Digest
  operationID : Digest
  successor : Digest
  startedAt : Int64
  completesAt : Int64
  signatures : List Signature
  deriving DecidableEq

structure Authorization where
  operation : RecoveryOperation
  policyDigest : Digest
  policyRevision : UInt64
  operationID : Digest
  successor : Digest
  startedAt : Int64
  completesAt : Int64
  validSigners : UInt8
  sealDigest : Digest
  deriving DecidableEq

/-- The zero value, which is not sealed. -/
def Authorization.zero : Authorization where
  operation := .other []
  policyDigest := Digest.zero
  policyRevision := 0
  operationID := Digest.zero
  successor := Digest.zero
  startedAt := 0
  completesAt := 0
  validSigners := 0
  sealDigest := Digest.zero

/-- `bytes.Compare(first[:], second[:]) < 0`. -/
def keyBefore (first second : Digest) : Bool := !bytesLe second.bytes first.bytes

/-- Every participant is a key other than the current Authority's, in strict order. -/
def orderedParticipants (authority : Digest) : Option Digest → List Digest → Bool
  | _, [] => true
  | before, participant :: rest =>
    participant != Digest.zero && participant != authority && before.all (keyBefore · participant) &&
      orderedParticipants authority (some participant) rest

def validPolicy (policy : RecoveryPolicy) : Bool :=
  decide (parse policy.name = some policy.name) && policy.network != Digest.zero && policy.generation != 0 &&
    policy.revision != 0 && policy.currentAuthority != Digest.zero && decide (2 ≤ policy.threshold) &&
    decide (policy.threshold.toNat ≤ policy.participants.length) && decide (policy.participants.length ≤ 8) &&
    decide (minimumRecoveryDelay ≤ policy.delay) && decide (policy.delay ≤ maximumRecoveryDelay) &&
    orderedParticipants policy.currentAuthority none policy.participants

/-! ## Transcripts -/

/-- A length of four bytes before the bytes. -/
def appendBytes (value : List UInt8) : List UInt8 := bigEndian 4 value.length ++ value

/-- `naming.EncodeWire`: the schema, then each label after its length. -/
def encodeName (name : Text) : List UInt8 :=
  bigEndian 2 1 ++ ((name.splitOn dot).map fun label => UInt8.ofNat label.length :: label).flatten

/-- The bytes of an `int64` as a `uint64`. -/
def signed64 (value : Int64) : List UInt8 := bigEndian 8 value.toUInt64.toNat

def unsigned64 (value : UInt64) : List UInt8 := bigEndian 8 value.toNat

variable (suite : Suite)

/-- `policy.Digest()`. -/
def RecoveryPolicy.digest (policy : RecoveryPolicy) : Digest :=
  if !validPolicy policy then Digest.zero
  else
    suite.sha256 (appendBytes (ascii "ardents-name-recovery-policy-v1") ++ policy.network.bytes ++
      appendBytes (encodeName policy.name) ++ unsigned64 policy.generation ++ unsigned64 policy.revision ++
      policy.currentAuthority.bytes ++ [policy.threshold, UInt8.ofNat policy.participants.length] ++
      (policy.participants.map Block.bytes).flatten ++ signed64 (milliseconds policy.delay))

/-- `policy.Transcript(proof)`: what every participant signs. -/
def RecoveryPolicy.transcript (policy : RecoveryPolicy) (proof : RecoveryProof) : List UInt8 :=
  let domain := if proof.operation = .cancel then ascii "ardents-name-recovery-cancel-v1"
    else ascii "ardents-name-recovery-initiate-v1"
  appendBytes domain ++ policy.network.bytes ++ appendBytes (encodeName policy.name) ++
    unsigned64 policy.generation ++ proof.policyDigest.bytes ++ proof.operationID.bytes ++ proof.successor.bytes ++
    signed64 proof.startedAt ++ signed64 proof.completesAt

def authorizationSeal (value : Authorization) : Digest :=
  suite.sha256 (appendBytes (ascii "ardents-name-recovery-authorization-v1") ++ appendBytes value.operation.text ++
    value.policyDigest.bytes ++ unsigned64 value.policyRevision ++ value.operationID.bytes ++ value.successor.bytes ++
    signed64 value.startedAt ++ signed64 value.completesAt ++ [value.validSigners])

/-- `Verified()`: the value came from `authorize` and was not changed since. -/
def Authorization.verified (value : Authorization) : Bool :=
  value.sealDigest != Digest.zero && value.sealDigest == authorizationSeal suite value

/-! ## Authorize -/

inductive RecoveryFault where
  | policy
  | operation
  | mismatch
  | signers
  | signature
  deriving DecidableEq, Repr

def logicalSize (policy : RecoveryPolicy) (proof : RecoveryProof) : Nat :=
  32 + policy.name.length + 90 + policy.participants.length * 32 + proof.operation.text.length +
    proof.signatures.length * (32 + signatureSize)

/-- The loop over the signatures. -/
def checkSignatures (participants : List Digest) (transcript : List UInt8) :
    Option Digest → List Signature → Except RecoveryFault Unit
  | _, [] => .ok ()
  | before, signed :: rest =>
    if before.any fun signer => !keyBefore signer signed.signer then .error .signers
    else if !(participants.contains signed.signer && decide (signed.bytes.length = signatureSize) &&
        suite.verify signed.signer transcript signed.bytes) then .error .signature
    else checkSignatures participants transcript (some signed.signer) rest

def proofMatches (policy : RecoveryPolicy) (proof : RecoveryProof) : Bool :=
  proof.policyDigest == policy.digest suite && proof.operationID != Digest.zero && proof.successor != Digest.zero &&
    decide (0 < proof.startedAt) && proof.completesAt - proof.startedAt == milliseconds policy.delay &&
    decide (policy.threshold.toNat ≤ proof.signatures.length) &&
    decide (proof.signatures.length ≤ policy.participants.length) &&
    decide (logicalSize policy proof ≤ maximumPolicyProofBytes)

/-- What a checked proof says, before it is sealed. -/
def authorizationOf (policy : RecoveryPolicy) (proof : RecoveryProof) : Authorization where
  operation := proof.operation
  policyDigest := proof.policyDigest
  policyRevision := policy.revision
  operationID := proof.operationID
  successor := proof.successor
  startedAt := proof.startedAt
  completesAt := proof.completesAt
  validSigners := UInt8.ofNat proof.signatures.length
  sealDigest := Digest.zero

def Authorization.sealed (value : Authorization) : Authorization :=
  { value with sealDigest := authorizationSeal suite value }

def RecoveryPolicy.authorize (policy : RecoveryPolicy) (proof : RecoveryProof) :
    Except RecoveryFault Authorization :=
  if !validPolicy policy then .error .policy
  else if proof.operation ≠ .initiate ∧ proof.operation ≠ .cancel then .error .operation
  else if !proofMatches suite policy proof then .error .mismatch
  else
    match checkSignatures suite policy.participants (policy.transcript proof) none proof.signatures with
    | .error fault => .error fault
    | .ok () => .ok ((authorizationOf policy proof).sealed suite)

/-! ## What an authorization says -/

variable {suite} {policy : RecoveryPolicy} {proof : RecoveryProof} {value : Authorization}

/-- An authorization is what a proof that matches a valid policy says. -/
theorem authorize_eq_ok (authorized : policy.authorize suite proof = .ok value) :
    validPolicy policy = true ∧ (proof.operation = .initiate ∨ proof.operation = .cancel) ∧
      proofMatches suite policy proof = true ∧
      checkSignatures suite policy.participants (policy.transcript proof) none proof.signatures = .ok () ∧
      value = (authorizationOf policy proof).sealed suite := by
  rw [RecoveryPolicy.authorize] at authorized
  split at authorized
  · cases authorized
  next valid =>
  split at authorized
  · cases authorized
  next kind =>
  split at authorized
  · cases authorized
  next fits =>
  split at authorized
  · cases authorized
  next checked =>
  cases authorized
  refine ⟨by simpa using valid, ?_, by simpa using fits, checked, rfl⟩
  by_contra neither
  exact kind (not_or.1 neither)

/-- The boundaries of an authorization: it starts after the epoch, names an operation and
a successor, and lasts the delay of its policy. -/
structure Authorization.Bounded (value : Authorization) (delay : Int64) : Prop where
  started : 0 < value.startedAt
  operation : value.operationID ≠ Digest.zero
  successor : value.successor ≠ Digest.zero
  lasts : value.completesAt - value.startedAt = delay

theorem authorize_bounded (authorized : policy.authorize suite proof = .ok value) :
    value.Bounded (milliseconds policy.delay) := by
  obtain ⟨-, -, fits, -, rfl⟩ := authorize_eq_ok authorized
  simp only [proofMatches, Bool.and_eq_true, decide_eq_true_eq, bne_iff_ne, beq_iff_eq] at fits
  obtain ⟨⟨⟨⟨⟨⟨⟨-, operation⟩, successor⟩, started⟩, lasts⟩, -⟩, -⟩, -⟩ := fits
  exact ⟨started, operation, successor, lasts⟩

end Ardents.Naming
