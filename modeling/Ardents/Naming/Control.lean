/-
# Naming.Control — authenticated transitions of a Namespace

`internal/naming/namespace/authority`.  A control holds the Records of a Namespace and
decides the operations that are submitted to it: each is signed by the Authority of the
Record it changes, a delegation by that of the parent it names, and a recovery by its
participants.  `transitionAt` is the decision at a time.

An operation arrives as JSON in canonical form; of that text the length is modelled, and
its digest is a parameter.  Left out: `claim` operations, which a durable control refuses
before it looks at them, the volatile control of the evidence runner, `Prepare`, and why
an operation is denied, which the source does not tell either.
-/
import Ardents.Lib.Json
import Ardents.Lib.Table
import Ardents.Lib.Time
import Ardents.Naming.Lifecycle
import Ardents.Naming.SignedRecord

namespace Ardents.Naming

open Lib Json

set_option autoImplicit false

inductive ControlKind where
  | claim
  | renew
  | record
  | release
  | transfer
  | delegate
  | policy
  | recovery
  /-- Any other text. -/
  | other (text : Text)
  deriving DecidableEq

inductive SigningMode where
  | empty
  | custodyDerived
  | other (text : Text)
  deriving DecidableEq

inductive RecoveryStep where
  | empty
  | initiate
  | cancel
  | complete
  | resume
  | other (text : Text)
  deriving DecidableEq

/-- Bytes that hold a document: none, some that are no canonical document, or one. -/
inductive Carried (α : Type) where
  | empty
  | malformed (size : Nat)
  | document (value : α)
  deriving DecidableEq

structure ControlOperation where
  kind : ControlKind
  signingMode : SigningMode := .empty
  operationDigest : Digest
  network : Digest := Digest.zero
  nonce : Digest := Digest.zero
  deadline : Int64 := 0
  name : Text
  parentName : Text := []
  generation : UInt64 := 0
  expectedRevision : UInt64 := 0
  parentGeneration : UInt64 := 0
  parentRevision : UInt64 := 0
  childGeneration : UInt64 := 0
  authority : Digest := Digest.zero
  successorAuthority : Digest := Digest.zero
  target : Digest := Digest.zero
  leaseNotAfter : Int64 := 0
  recordNotAfter : Int64 := 0
  policyNotBefore : Int64 := 0
  recoveryNotBefore : Int64 := 0
  policyID : Digest := Digest.zero
  recoveryStep : RecoveryStep := .empty
  orderingProof : List UInt8 := []
  authorityProof : List UInt8 := []
  recoveryPolicy : Carried RecoveryPolicy := .empty
  recoveryProof : Carried (RecoveryPolicy × RecoveryProof) := .empty
  successorRecord : Carried SignedRecord := .empty
  deriving DecidableEq

/-! ## Lengths -/

namespace Carried

variable {α : Type}

def length (size : α → Nat) : Carried α → Nat
  | .empty => 0
  | .malformed bytes => bytes
  | .document value => size value

def isEmpty : Carried α → Bool
  | .empty => true
  | _ => false

end Carried

/-- The JSON text of a policy; 104 characters are keys, braces and commas. -/
def RecoveryPolicy.jsonLength (policy : RecoveryPolicy) : Nat :=
  104 + blockLength policy.network + textLength policy.name.length + decimals policy.generation.toNat +
    decimals policy.revision.toNat + blockLength policy.currentAuthority + decimals policy.threshold.toNat +
    arrayLength (policy.participants.map blockLength) + signedDecimals policy.delay.toInt

def Signature.jsonLength (signature : Signature) : Nat :=
  20 + blockLength signature.signer + base64Length signature.bytes

def RecoveryProof.jsonLength (proof : RecoveryProof) : Nat :=
  100 + textLength proof.operation.text.length + blockLength proof.policyDigest + blockLength proof.operationID +
    blockLength proof.successor + signedDecimals proof.startedAt.toInt + signedDecimals proof.completesAt.toInt +
    arrayLength (proof.signatures.map Signature.jsonLength)

def envelopeLength (envelope : RecoveryPolicy × RecoveryProof) : Nat :=
  20 + envelope.1.jsonLength + envelope.2.jsonLength

/-- The container of a signed Record. -/
def SignedRecord.size (signed : SignedRecord) : Nat := 10 + signed.wire.length + signed.signature.length

def ControlKind.characters : ControlKind → Nat
  | .claim => 5
  | .renew => 5
  | .record => 6
  | .release => 7
  | .transfer => 8
  | .delegate => 8
  | .policy => 6
  | .recovery => 8
  | .other text => text.length

def RecoveryStep.characters : RecoveryStep → Nat
  | .empty => 0
  | .initiate => 8
  | .cancel => 6
  | .complete => 8
  | .resume => 6
  | .other text => text.length

def SigningMode.characters : SigningMode → Nat
  | .empty => 0
  | .custodyDerived => 18
  | .other text => text.length

/-- The key of a field in quotes, a colon, its value and a comma, unless it is omitted. -/
def fieldLength (key : Nat) (omitted : Bool) (value : Nat) : Nat := if omitted then 0 else key + 4 + value

def textField (key characters : Nat) : Nat := fieldLength key (characters == 0) (textLength characters)
def countField (key : Nat) (value : UInt64) : Nat := fieldLength key (value == 0) (decimals value.toNat)
def timeField (key : Nat) (value : Int64) : Nat := fieldLength key (value == 0) (signedDecimals value.toInt)
def keyField (key : Nat) (value : Digest) : Nat := fieldLength key false (blockLength value)
/-- A slice of bytes is written in base64. -/
def bytesField (key size : Nat) : Nat := fieldLength key (size == 0) (textLength (4 * ((size + 2) / 3)))

/-- The JSON text of an operation; its braces stand for the comma that its last field has not. -/
def ControlOperation.jsonLength (operation : ControlOperation) : Nat :=
  1 + fieldLength 4 false (textLength operation.kind.characters) + textField 12 operation.signingMode.characters +
    keyField 16 operation.operationDigest + keyField 7 operation.network + keyField 5 operation.nonce +
    timeField 8 operation.deadline + fieldLength 4 false (textLength operation.name.length) +
    textField 11 operation.parentName.length + countField 10 operation.generation +
    countField 17 operation.expectedRevision + countField 17 operation.parentGeneration +
    countField 15 operation.parentRevision + countField 16 operation.childGeneration +
    keyField 9 operation.authority + keyField 19 operation.successorAuthority + keyField 6 operation.target +
    timeField 15 operation.leaseNotAfter + timeField 16 operation.recordNotAfter +
    timeField 17 operation.policyNotBefore + timeField 19 operation.recoveryNotBefore +
    keyField 9 operation.policyID + textField 13 operation.recoveryStep.characters +
    bytesField 14 operation.orderingProof.length + bytesField 15 operation.authorityProof.length +
    bytesField 15 (operation.recoveryPolicy.length RecoveryPolicy.jsonLength) +
    bytesField 14 (operation.recoveryProof.length envelopeLength) +
    bytesField 16 (operation.successorRecord.length SignedRecord.size)

/-! ## The shape of an operation -/

def maximumControlBytes : Nat := 16384
def maximumControlProof : Nat := 2048
def maximumSuccessorBytes : Nat := 65536

def validExistingControl (value : ControlOperation) : Bool := value.generation != 0 && value.expectedRevision != 0

/-- What every operation may have. -/
def ControlOperation.header (value : ControlOperation) : ControlOperation where
  kind := value.kind
  signingMode := value.signingMode
  operationDigest := value.operationDigest
  name := value.name
  successorRecord := value.successorRecord

/-- What an operation on an existing Record may have. -/
def ControlOperation.onRecord (value : ControlOperation) : ControlOperation :=
  { value.header with generation := value.generation, expectedRevision := value.expectedRevision }

/-- The fields that the kind of an operation has, when those it needs are there. -/
def expectedFields (value : ControlOperation) : Option ControlOperation :=
  match value.kind with
  | .claim =>
    if value.generation = 0 ∨ value.authority = Digest.zero ∨ value.leaseNotAfter ≤ 0 ∨ value.orderingProof = [] then
      none
    else
      some { value.header with
        generation := value.generation
        authority := value.authority
        leaseNotAfter := value.leaseNotAfter
        orderingProof := value.orderingProof }
  | .renew =>
    if !validExistingControl value || decide (value.leaseNotAfter ≤ 0) || value.authorityProof.isEmpty then none
    else some { value.onRecord with leaseNotAfter := value.leaseNotAfter, authorityProof := value.authorityProof }
  | .record =>
    if !validExistingControl value || value.target == Digest.zero || decide (value.recordNotAfter ≤ 0) ||
        value.authorityProof.isEmpty then none
    else
      some { value.onRecord with
        target := value.target
        recordNotAfter := value.recordNotAfter
        authorityProof := value.authorityProof }
  | .release =>
    if !validExistingControl value || value.authorityProof.isEmpty then none
    else some { value.onRecord with authorityProof := value.authorityProof }
  | .transfer =>
    if !validExistingControl value || value.successorAuthority == Digest.zero || value.authorityProof.isEmpty then none
    else
      some { value.onRecord with
        successorAuthority := value.successorAuthority
        authorityProof := value.authorityProof }
  | .delegate =>
    if parse value.parentName ≠ some value.parentName ∨ value.parentGeneration = 0 ∨ value.parentRevision = 0 ∨
        value.childGeneration = 0 ∨ value.authority = Digest.zero ∨ value.leaseNotAfter ≤ 0 ∨
        value.authorityProof = [] then none
    else
      some { value.header with
        parentName := value.parentName
        parentGeneration := value.parentGeneration
        parentRevision := value.parentRevision
        childGeneration := value.childGeneration
        authority := value.authority
        leaseNotAfter := value.leaseNotAfter
        authorityProof := value.authorityProof }
  | .policy =>
    if !validExistingControl value || decide (value.policyNotBefore ≤ 0) || value.authorityProof.isEmpty then none
    else
      some { value.onRecord with
        policyNotBefore := value.policyNotBefore
        recoveryPolicy := value.recoveryPolicy
        authorityProof := value.authorityProof }
  | .recovery =>
    if !validExistingControl value || value.policyID == Digest.zero || decide (value.recoveryNotBefore ≤ 0) then none
    else
      let expected := { value.onRecord with
        policyID := value.policyID
        recoveryStep := value.recoveryStep
        recoveryNotBefore := value.recoveryNotBefore }
      match value.recoveryStep with
      | .initiate | .cancel | .complete =>
        if value.recoveryProof.isEmpty then none else some { expected with recoveryProof := value.recoveryProof }
      | .resume =>
        if value.target = Digest.zero ∨ value.recordNotAfter ≤ 0 ∨ value.authorityProof = [] then none
        else
          some { expected with
            target := value.target
            recordNotAfter := value.recordNotAfter
            authorityProof := value.authorityProof }
      | _ => none
  | .other _ => none

def SigningMode.known : SigningMode → Bool
  | .other _ => false
  | _ => true

def validControlOperation (value : ControlOperation) : Bool :=
  decide (parse value.name = some value.name) && value.operationDigest != Digest.zero &&
    decide (value.orderingProof.length ≤ maximumControlProof) &&
    decide (value.authorityProof.length ≤ maximumControlProof) &&
    decide (value.recoveryPolicy.length RecoveryPolicy.jsonLength ≤ maximumControlProof) &&
    decide (value.recoveryProof.length envelopeLength ≤ maximumControlProof) && value.signingMode.known &&
    decide (value.successorRecord.length SignedRecord.size ≤ maximumSuccessorBytes) &&
    decide (expectedFields value = some value)

/-- What a control is set up with.  `digest` is that of the JSON text of an operation. -/
structure Setting where
  suite : Suite
  digest : ControlOperation → Digest
  network : Digest
  policy : Policy

/-- What the digest of an operation covers: not itself and not what custody adds. -/
def ControlOperation.covered (value : ControlOperation) : ControlOperation :=
  match value.signingMode with
  | .custodyDerived =>
    { value with operationDigest := Digest.zero, authorityProof := [], successorRecord := .empty }
  | _ => { value with operationDigest := Digest.zero }

/-- `decodeControlOperation` of the JSON text of an operation accepts it. -/
def decodes (setting : Setting) (value : ControlOperation) : Bool :=
  decide (value.jsonLength ≤ maximumControlBytes) && value.network == Digest.zero && value.nonce == Digest.zero &&
    value.deadline == 0 && value.operationDigest == setting.digest value.covered && validControlOperation value

/-! ## The operation on a Record -/

def durationUntil (now : Time) (notAfter : Int64) : Int64 := (notAfter - now.unixMilli) * 1000000

/-- `authorityBytes`: the bytes that a text of hexadecimal digits stands for, cut or filled
to a key.  On a text with another digit the source keeps the bytes before it, and it reads
upper case too; the Authority of a verified Record is 64 lower-case digits. -/
def authorityBytes (encoded : Text) : Digest := Block.copy 32 ((ofHex encoded).getD [])

/-- What every operation on a Record names. -/
def ControlOperation.op (operation : ControlOperation) (kind : Kind) (current : Record) : Op where
  kind := kind
  name := operation.name
  expectedGeneration := operation.generation
  expectedRevision := operation.expectedRevision
  authority := current.authority

/-- The policy that an operation schedules: its digest and delay, or the delay of the
current one that it disables. -/
def scheduledPolicy (setting : Setting) (operation : ControlOperation) (current : Record) :
    Option (Digest × Int64) :=
  match operation.recoveryPolicy with
  | .empty =>
    if current.recoveryPolicy = Digest.zero ∨ current.recoveryPolicyDelay ≤ 0 then none
    else some (Digest.zero, current.recoveryPolicyDelay * 1000000)
  | .malformed _ => none
  | .document policy =>
    if policy.network ≠ setting.network ∨ policy.name ≠ current.name ∨ policy.generation ≠ current.generation ∨
        policy.revision ≠ current.recoveryPolicyRev + 1 ∨
        policy.currentAuthority ≠ authorityBytes current.authority ∨
        policy.digest setting.suite = Digest.zero then none
    else some (policy.digest setting.suite, policy.delay)

/-- The authorization of a recovery that an operation carries. -/
def carriedAuthorization (setting : Setting) (operation : ControlOperation) (current : Record) :
    Option Authorization :=
  match operation.recoveryProof with
  | .document (policy, proof) =>
    if policy.network ≠ setting.network ∨ policy.name ≠ current.name ∨
        policy.digest setting.suite ≠ operation.policyID then none
    else (policy.authorize setting.suite proof).toOption
  | _ => none

/-- The operation that a recovery step stands for, when its boundary is met. -/
def recoveryKind (operation : ControlOperation) (authorization : Authorization) (now : Time) : Option Kind :=
  match operation.recoveryStep with
  | .initiate =>
    if authorization.operation = .initiate ∧ operation.recoveryNotBefore = authorization.startedAt then
      some .startRecovery
    else none
  | .cancel =>
    if authorization.operation = .cancel ∧ operation.recoveryNotBefore = now.unixMilli then some .cancelRecovery
    else none
  | .complete =>
    if authorization.operation = .initiate ∧ operation.recoveryNotBefore = authorization.completesAt ∧
        authorization.completesAt ≤ now.unixMilli then some .completeRecovery
    else none
  | _ => none

/-- `lifecycle`: the transition that an operation asks for, and whether its participants
authorize it and not the Authority. -/
def lifecycle (setting : Setting) (operation : ControlOperation) (current : Record) (now : Time) :
    Option (Op × Bool) :=
  match operation.kind with
  | .renew =>
    if durationUntil now operation.leaseNotAfter ≤ 0 then none
    else
      some ({ operation.op .renew current with leaseDuration := durationUntil now operation.leaseNotAfter }, false)
  | .record =>
    if operation.recordNotAfter ≤ now.unixMilli then none
    else
      some ({ operation.op .publish current with
        target := operation.target
        recordNotAfter := operation.recordNotAfter }, false)
  | .release => some (operation.op .release current, false)
  | .transfer =>
    some ({ operation.op .transfer current with successorAuthority := hexText operation.successorAuthority }, false)
  | .policy =>
    match scheduledPolicy setting operation current with
    | none => none
    | some (digest, delay) =>
      if operation.policyNotBefore ≠ (now.add delay.toInt).unixMilli then none
      else
        some ({ operation.op .scheduleRecoveryPolicy current with
          policyDigest := digest
          policyRevision := current.recoveryPolicyRev + 1
          policyDelay := delay
          policyActivatesAt := operation.policyNotBefore }, false)
  | .recovery =>
    if operation.policyID ≠ current.recoveryPolicy then none
    else if operation.recoveryStep = .resume then
      if now.unixMilli < operation.recoveryNotBefore ∨ operation.recordNotAfter ≤ now.unixMilli then none
      else
        some ({ operation.op .resumeRecovery current with
          target := operation.target
          recordNotAfter := operation.recordNotAfter }, false)
    else
      match carriedAuthorization setting operation current with
      | none => none
      | some authorization =>
        match recoveryKind operation authorization now with
        | none => none
        | some kind => some ({ operation.op kind current with recoveryAuthorization := authorization }, true)
  | _ => none

/-! ## Signed transitions -/

/-- A child is claimed with the signature of the first of its parents. -/
def supportedTransition (current : Record) (op : Op) : Bool :=
  match op.kind with
  | .renew | .release | .publish | .rotate | .transfer | .scheduleRecoveryPolicy | .resumeRecovery =>
    current.name == op.name
  | .claim => op.parents.head? == some current && current.name != op.name
  | _ => false

/-- A text or bytes after their length of eight bytes. -/
def appendTransitionBytes (value : List UInt8) : List UInt8 := bigEndian 8 value.length ++ value

/-- The transcript that an Authority signs; the parents of the operation are not part of it. -/
def transitionTranscript (network : Digest) (wire : List UInt8) (op : Op) : List UInt8 :=
  appendTransitionBytes (ascii "ardents-name-authority-transition-v1") ++ network.bytes ++ appendTransitionBytes wire ++
    appendTransitionBytes op.kind.text ++ appendTransitionBytes op.name ++ unsigned64 op.generation ++
    bigEndian 4 op.claimOrdinal.toNat ++ unsigned64 op.expectedGeneration ++ unsigned64 op.expectedRevision ++
    appendTransitionBytes op.authority ++ appendTransitionBytes op.successorAuthority ++ op.target.bytes ++
    signed64 op.recordNotAfter ++ signed64 op.leaseDuration ++ signed64 op.graceDuration ++
    appendTransitionBytes op.conflictContext ++ op.policyDigest.bytes ++ unsigned64 op.policyRevision ++
    signed64 (milliseconds op.policyDelay) ++ signed64 op.policyActivatesAt ++
    appendTransitionBytes op.recoveryAuthorization.operation.text ++ op.recoveryAuthorization.policyDigest.bytes ++
    unsigned64 op.recoveryAuthorization.policyRevision ++ op.recoveryAuthorization.operationID.bytes ++
    op.recoveryAuthorization.successor.bytes ++ signed64 op.recoveryAuthorization.startedAt ++
    signed64 op.recoveryAuthorization.completesAt ++ [op.recoveryAuthorization.validSigners]

/-- The Authority of `current` signed the transition. -/
def signedTransition (setting : Setting) (current : Record) (op : Op) (proof : List UInt8) : Bool :=
  match keyOf current.authority, encodeRecord current with
  | some key, some wire =>
    decide (proof.length = signatureSize) && supportedTransition current op &&
      setting.suite.verify key (transitionTranscript setting.network wire op) proof
  | _, _ => false

/-- `applyTransition`: the milliseconds of the decision are those of its second. -/
def applyTransition (setting : Setting) (current : Record) (op : Op) (proof : List UInt8) (seconds : Int64) :
    Option Record :=
  if !signedTransition setting current op proof then none
  else
    let before := if op.kind = .claim then none else some current
    (apply setting.suite before seconds (seconds * 1000) op setting.policy).toOption

/-! ## The control -/

abbrev Records := Table Text Record

/-- The loop of `lineage`, `fuel` parents at most. -/
def ancestors (records : Records) : Nat → List Text → Record → Option (List Record)
  | fuel, seen, current =>
    if current.parentName.isEmpty then some []
    else
      match fuel with
      | 0 => none
      | fuel + 1 =>
        if seen.contains current.parentName then none
        else
          match records.find current.parentName with
          | none => none
          | some parent =>
            if parent.generation ≠ current.parentGeneration ∨ validRecord parent = false then none
            else (ancestors records fuel (parent.name :: seen) parent).map (parent :: ·)

/-- The chain from the immediate parent of a Record to its root. -/
def lineage (records : Records) (current : Record) (now : Time) : Option (List Record) :=
  match ancestors records 126 [current.name] current with
  | none => none
  | some parents =>
    match validateParents current.name parents now.unixSeconds with
    | .error _ => none
    | .ok _ => some parents

/-- The claim of a child below `parent`. -/
def ControlOperation.childClaim (operation : ControlOperation) (parents : List Record) (now : Time) : Op where
  kind := .claim
  name := operation.name
  generation := operation.childGeneration
  authority := hexText operation.authority
  parents := parents
  leaseDuration := durationUntil now operation.leaseNotAfter

def delegate (setting : Setting) (records : Records) (operation : ControlOperation) (now : Time) : Option Record :=
  match records.find operation.parentName with
  | none => none
  | some parent =>
    if parent.generation ≠ operation.parentGeneration ∨ parent.revision ≠ operation.parentRevision then none
    else
      match lineage records parent now with
      | none => none
      | some above =>
        applyTransition setting parent (operation.childClaim (parent :: above) now) operation.authorityProof
          now.unixSeconds

def existing (setting : Setting) (records : Records) (operation : ControlOperation) (current : Record) (now : Time) :
    Option Record :=
  match lifecycle setting operation current now, lineage records current now with
  | some (op, threshold), some parents =>
    if threshold then
      (apply setting.suite (some current) now.unixSeconds now.unixMilli { op with parents := parents }
        setting.policy).toOption
    else applyTransition setting current { op with parents := parents } operation.authorityProof now.unixSeconds
  | _, _ => none

/-- The Record that an operation makes, at a time. -/
def transitionAt (setting : Setting) (records : Records) (operation : ControlOperation) (now : Time) : Option Record :=
  match operation.kind with
  | .delegate => delegate setting records operation now
  | .renew | .record | .release | .transfer | .policy | .recovery =>
    match records.find operation.name with
    | none => none
    | some current => existing setting records operation current now
  | _ => none

/-- The Record is the one that the container holds. -/
def exactSignedSuccessor (setting : Setting) (updated : Record) (signed : SignedRecord) : Bool :=
  match verifyRecord setting.suite setting.network signed with
  | none => false
  | some decoded => sameRecord updated decoded

/-- The signed successor of an operation that the control decides to accept. -/
def decision (setting : Setting) (records : Records) (operation : ControlOperation) (now : Time) :
    Option (Record × SignedRecord) :=
  match operation.successorRecord with
  | .document signed =>
    match transitionAt setting records operation now with
    | none => none
    | some updated => if exactSignedSuccessor setting updated signed then some (updated, signed) else none
  | _ => none

end Ardents.Naming
