/-
# Naming.Lifecycle — the transitions of a Record

`internal/naming/namespace/record`: `apply` and the fourteen operations it knows, each
under the name it has in the source.  An operation on a Record names its exact generation
and revision.  The time of a decision is given twice, in seconds and in milliseconds.

Each operation has one lemma that says when it is accepted and what it gives; the later
modules read the transitions only through these.
-/
import Ardents.Lib.Reader
import Ardents.Naming.Record

namespace Ardents.Naming

open Lib

set_option autoImplicit false

structure Policy where
  defaultLeaseDuration : Int64
  defaultGraceDuration : Int64
  deriving DecidableEq

inductive Kind where
  | claim
  | renew
  | release
  | advance
  | conflict
  | publish
  | rotate
  | transfer
  | scheduleRecoveryPolicy
  | activateRecoveryPolicy
  | startRecovery
  | cancelRecovery
  | completeRecovery
  | resumeRecovery
  /-- Any other text. -/
  | other (text : Text)
  deriving DecidableEq

def Kind.text : Kind → Text
  | .claim => ascii "claim"
  | .renew => ascii "renew"
  | .release => ascii "release"
  | .advance => ascii "advance"
  | .conflict => ascii "conflict"
  | .publish => ascii "publish"
  | .rotate => ascii "rotate"
  | .transfer => ascii "transfer"
  | .scheduleRecoveryPolicy => ascii "schedule-recovery-policy"
  | .activateRecoveryPolicy => ascii "activate-recovery-policy"
  | .startRecovery => ascii "start-recovery"
  | .cancelRecovery => ascii "cancel-recovery"
  | .completeRecovery => ascii "complete-recovery"
  | .resumeRecovery => ascii "resume-recovery"
  | .other text => text

/-- The parents are ordered immediate parent first and root last. -/
structure Op where
  kind : Kind
  name : Text
  generation : UInt64 := 0
  claimOrdinal : UInt32 := 0
  expectedGeneration : UInt64 := 0
  expectedRevision : UInt64 := 0
  authority : Text := []
  target : Digest := Digest.zero
  recordNotAfter : Int64 := 0
  parents : List Record := []
  leaseDuration : Int64 := 0
  graceDuration : Int64 := 0
  conflictContext : Text := []
  successorAuthority : Text := []
  policyDigest : Digest := Digest.zero
  policyRevision : UInt64 := 0
  policyDelay : Int64 := 0
  policyActivatesAt : Int64 := 0
  recoveryAuthorization : Authorization := Authorization.zero
  deriving DecidableEq

inductive Reason where
  | name
  | authorityRequired
  | generationRequired
  | firstClaim
  | notReleased
  | nextGeneration
  | parents (fault : ParentFault)
  | leaseOutside
  | unclaimed
  | nameMismatch
  | invalid
  | stale
  | notRenewable
  | lifetimeElapsed
  | renewRecovering
  | authorityMismatch
  | parentBinding
  | renewalOutside
  | alreadyReleased
  | releaseInconsistent
  | releaseRecovering
  | thresholdCompletion
  | conflictReleased
  | conflictAgain
  | conflictContext
  | targetRequired
  | targetUnchanged
  | validityElapsed
  | lease (fault : LeaseFault)
  | lineageStale
  | validityOutside
  | authorities
  | policyLease
  | policyChange
  | policyEligible
  | recoveryLease
  | recoveryAuthorization
  | recoveryCancellation
  | recoveryCompletion
  | freshSuccessor
  | unavailable
  deriving DecidableEq

structure TransitionError where
  action : Kind
  reason : Reason
  deriving DecidableEq

abbrev Transition := Except TransitionError

/-- `int64(duration.Seconds())` of a duration that is not negative.  The seconds and the
rest are added as `float64`, which rounds up to the next second when the rest is within
half a unit in the last place of it. -/
def wholeSeconds (duration : Int64) : Int64 :=
  let seconds := duration.toInt.toNat / 10 ^ 9
  let rest := duration.toInt.toNat % 10 ^ 9
  if seconds ≠ 0 ∧ (10 ^ 9 - rest) * 2 ^ 53 ≤ 10 ^ 9 * 2 ^ seconds.log2 then Int64.ofNat (seconds + 1)
  else Int64.ofNat seconds

/-- `min` of the package. -/
def earliest (first second : Int64) : Int64 := if first < second then first else second

/-! ## What the operations check -/

def requireCurrent (current : Option Record) (op : Op) (action : Kind) : Transition Record :=
  match current with
  | none => .error ⟨action, .unclaimed⟩
  | some current =>
    if current.name ≠ op.name then .error ⟨action, .nameMismatch⟩
    else if !validRecord current then .error ⟨action, .invalid⟩
    else if op.expectedGeneration ≠ current.generation ∨ op.expectedRevision ≠ current.revision then
      .error ⟨action, .stale⟩
    else .ok current

/-- The ends of a Lease and of its grace that begin now, cut off at the parent's. -/
def leaseEnds (now leaseDuration graceDuration : Int64) (parent : Option Record) : Int64 × Int64 :=
  let leaseEnd := now + wholeSeconds leaseDuration
  let graceEnd := leaseEnd + wholeSeconds graceDuration
  match parent with
  | none => (leaseEnd, graceEnd)
  | some parent => (earliest leaseEnd parent.leaseExpiresAt, earliest graceEnd parent.graceExpiresAt)

def fits (now : Int64) (ends : Int64 × Int64) : Bool := decide (now < ends.1) && decide (ends.1 ≤ ends.2)

def withLineage (parents : Except ParentFault (Option Record)) (action : Kind) : Transition (Option Record) :=
  match parents with
  | .error fault => .error ⟨action, .parents fault⟩
  | .ok parent => .ok parent

def withLease (live : Except LeaseFault Unit) (action : Kind) : Transition Unit :=
  match live with
  | .error fault => .error ⟨action, .lease fault⟩
  | .ok () => .ok ()

/-! ## The operations -/

/-- The Record of a new generation. -/
def claimed (continuity : UInt64) (op : Op) (parent : Option Record) (ends : Int64 × Int64) : Record where
  name := op.name
  generation := op.generation
  revision := 1
  lease := .active
  consistency := .current
  recovery := .stable
  authority := op.authority
  target := Digest.zero
  recordNotAfter := 0
  parentName := (parent.map Record.name).getD []
  parentGeneration := (parent.map Record.generation).getD 0
  leaseExpiresAt := ends.1
  graceExpiresAt := ends.2
  recoveryExpiresAt := 0
  recoveryStartedAt := 0
  recoveryOperation := Digest.zero
  recoverySuccessor := Digest.zero
  recoveryPolicy := Digest.zero
  recoveryPolicyRev := 0
  recoveryPolicyDelay := 0
  pendingPolicy := Digest.zero
  pendingPolicyRev := 0
  pendingPolicyDelay := 0
  policyActivatesAt := 0
  continuity := continuity
  conflictIdentifier := []

/-- A claim starts from nothing or from a released Record. -/
def claimFrom (current : Option Record) (op : Op) : Transition Unit :=
  match current with
  | none => demand (op.generation == 1 && op.expectedGeneration == 0 && op.expectedRevision == 0) ⟨.claim, .firstClaim⟩
  | some record => do
    let _ ← requireCurrent (some record) op .claim
    demand (record.lease == .released) ⟨.claim, .notReleased⟩
    demand (op.generation == record.generation + 1) ⟨.claim, .nextGeneration⟩

def continuityAfter : Option Record → UInt64
  | none => 1
  | some record => record.continuity + 1

def applyClaim (current : Option Record) (now : Int64) (op : Op) (leaseDuration graceDuration : Int64) :
    Transition Record := do
  demand (!op.authority.isEmpty) ⟨.claim, .authorityRequired⟩
  demand (op.generation != 0) ⟨.claim, .generationRequired⟩
  claimFrom current op
  let parent ← withLineage (validateParents op.name op.parents now) .claim
  demand (fits now (leaseEnds now leaseDuration graceDuration parent)) ⟨.claim, .leaseOutside⟩
  return claimed (continuityAfter current) op parent (leaseEnds now leaseDuration graceDuration parent)

/-- The next revision. -/
def Record.next (record : Record) : Record := { record with revision := record.revision + 1 }

def Record.renewed (record : Record) (ends : Int64 × Int64) : Record :=
  { record.next with lease := .active, leaseExpiresAt := ends.1, graceExpiresAt := ends.2 }

def applyRenew (current : Option Record) (now : Int64) (op : Op) (leaseDuration graceDuration : Int64) :
    Transition Record := do
  let current ← requireCurrent current op .renew
  demand (current.lease == .active || current.lease == .grace) ⟨.renew, .notRenewable⟩
  demand (decide (now ≤ current.graceExpiresAt)) ⟨.renew, .lifetimeElapsed⟩
  demand (current.consistency == .current && current.recovery == .stable) ⟨.renew, .renewRecovering⟩
  demand (op.authority == current.authority) ⟨.renew, .authorityMismatch⟩
  let parent ← withLineage (validateParents op.name op.parents now) .renew
  demand (sameParent current parent) ⟨.renew, .parentBinding⟩
  demand (fits now (leaseEnds now leaseDuration graceDuration parent)) ⟨.renew, .renewalOutside⟩
  return current.renewed (leaseEnds now leaseDuration graceDuration parent)

def Record.released (record : Record) : Record :=
  { record.next with lease := .released, leaseExpiresAt := 0, graceExpiresAt := 0 }

def applyRelease (current : Option Record) (op : Op) : Transition Record := do
  let current ← requireCurrent current op .release
  demand (op.authority == current.authority) ⟨.release, .authorityMismatch⟩
  demand (current.lease != .released) ⟨.release, .alreadyReleased⟩
  demand (current.consistency == .current) ⟨.release, .releaseInconsistent⟩
  demand (current.recovery == .stable) ⟨.release, .releaseRecovering⟩
  return current.released

/-- What the passing of time makes of a Lease. -/
def Record.advanced (record : Record) (seconds : Int64) : Record :=
  match record.lease with
  | .active =>
    if seconds ≤ record.leaseExpiresAt then record
    else if 0 < record.graceExpiresAt ∧ seconds ≤ record.graceExpiresAt then { record.next with lease := .grace }
    else record.released
  | .grace => if seconds ≤ record.graceExpiresAt then record else record.released
  | .released => record

def applyAdvance (current : Option Record) (seconds : Int64) (op : Op) : Transition Record := do
  let current ← requireCurrent current op .advance
  demand (current.recovery != .pending) ⟨.advance, .thresholdCompletion⟩
  return current.advanced seconds

def Record.conflicted (record : Record) (context : Text) : Record :=
  { record.next with consistency := .conflict, conflictIdentifier := context }

def applyConflict (current : Option Record) (op : Op) : Transition Record := do
  let current ← requireCurrent current op .conflict
  demand (current.lease != .released) ⟨.conflict, .conflictReleased⟩
  demand (current.consistency == .current) ⟨.conflict, .conflictAgain⟩
  demand (!op.conflictContext.isEmpty) ⟨.conflict, .conflictContext⟩
  return current.conflicted op.conflictContext

def Record.published (record : Record) (target : Digest) (recordNotAfter : Int64) : Record :=
  { record.next with target := target, recordNotAfter := recordNotAfter }

/-- Any error of the lineage, or a parent that is not the bound one, is one reason. -/
def boundLineage (current : Record) (op : Op) (now : Int64) : Bool :=
  match validateParents op.name op.parents now with
  | .error _ => false
  | .ok parent => sameParent current parent

def applyPublish (current : Option Record) (now : Int64) (op : Op) : Transition Record := do
  let current ← requireCurrent current op .publish
  demand (op.authority == current.authority) ⟨.publish, .authorityMismatch⟩
  demand (op.target != Digest.zero) ⟨.publish, .targetRequired⟩
  demand (current.target != op.target) ⟨.publish, .targetUnchanged⟩
  demand (decide (now * 1000 < op.recordNotAfter)) ⟨.publish, .validityElapsed⟩
  withLease (liveLease current now) .publish
  demand (boundLineage current op now) ⟨.publish, .lineageStale⟩
  demand (decide (op.recordNotAfter ≤ lineageNotAfter current op.parents * 1000)) ⟨.publish, .validityOutside⟩
  return current.published op.target op.recordNotAfter

def Record.transferred (record : Record) (successor : Text) : Record := { record.next with authority := successor }

/-- Of a rotation and of a transfer. -/
def applyRotate (current : Option Record) (now : Int64) (op : Op) : Transition Record := do
  let current ← requireCurrent current op op.kind
  demand (op.authority == current.authority && !op.successorAuthority.isEmpty &&
    op.successorAuthority != current.authority) ⟨op.kind, .authorities⟩
  withLease (liveLease current now) op.kind
  return current.transferred op.successorAuthority

def Record.scheduled (record : Record) (op : Op) : Record :=
  { record.next with
    pendingPolicy := op.policyDigest
    pendingPolicyRev := op.policyRevision
    pendingPolicyDelay := milliseconds op.policyDelay
    policyActivatesAt := op.policyActivatesAt }

def Record.activated (record : Record) : Record :=
  { record.next with
    recoveryPolicy := record.pendingPolicy
    recoveryPolicyRev := record.pendingPolicyRev
    recoveryPolicyDelay := record.pendingPolicyDelay
    pendingPolicy := Digest.zero
    pendingPolicyRev := 0
    pendingPolicyDelay := 0
    policyActivatesAt := 0 }

def schedules (current : Record) (now : Int64) (op : Op) : Bool :=
  op.authority == current.authority && current.pendingPolicyRev == 0 &&
    op.policyRevision == current.recoveryPolicyRev + 1 && decide (minimumRecoveryDelay ≤ op.policyDelay) &&
    decide (op.policyDelay ≤ maximumRecoveryDelay) && op.policyActivatesAt == now + milliseconds op.policyDelay &&
    (op.policyDigest != Digest.zero || current.recoveryPolicy != Digest.zero)

def applySchedule (current : Option Record) (seconds now : Int64) (op : Op) : Transition Record := do
  let current ← requireCurrent current op .scheduleRecoveryPolicy
  demand (isLive current seconds) ⟨.scheduleRecoveryPolicy, .policyLease⟩
  demand (schedules current now op) ⟨.scheduleRecoveryPolicy, .policyChange⟩
  return current.scheduled op

def applyActivate (current : Option Record) (now : Int64) (op : Op) : Transition Record := do
  let current ← requireCurrent current op .activateRecoveryPolicy
  demand (current.pendingPolicyRev != 0 && decide (current.policyActivatesAt ≤ now) &&
    current.recovery == .stable) ⟨.activateRecoveryPolicy, .policyEligible⟩
  return current.activated

/-- `30 * time.Second.Milliseconds()`: how late an initiation may be. -/
def startWindow : Int64 := 30000

variable (suite : Suite)

def starts (current : Record) (now : Int64) (authorization : Authorization) : Bool :=
  authorization.verified suite && authorization.operation == .initiate && current.recoveryPolicy != Digest.zero &&
    authorization.policyDigest == current.recoveryPolicy &&
    authorization.policyRevision == current.recoveryPolicyRev && decide (authorization.startedAt ≤ now) &&
    decide (now - authorization.startedAt ≤ startWindow) && hexText authorization.successor != current.authority

def matchingPendingRecovery (current : Record) (authorization : Authorization) (operation : RecoveryOperation) : Bool :=
  authorization.verified suite && authorization.operation == operation &&
    authorization.policyDigest == current.recoveryPolicy &&
    authorization.policyRevision == current.recoveryPolicyRev &&
    authorization.operationID == current.recoveryOperation && authorization.successor == current.recoverySuccessor &&
    authorization.startedAt == current.recoveryStartedAt && authorization.completesAt == current.recoveryExpiresAt

def Record.recovering (record : Record) (authorization : Authorization) : Record :=
  { record.next with
    recovery := .pending
    recoveryOperation := authorization.operationID
    recoverySuccessor := authorization.successor
    recoveryStartedAt := authorization.startedAt
    recoveryExpiresAt := authorization.completesAt }

/-- `clearPendingRecovery`. -/
def Record.cleared (record : Record) : Record :=
  { record with
    recovery := .stable
    recoveryOperation := Digest.zero
    recoverySuccessor := Digest.zero
    recoveryStartedAt := 0
    recoveryExpiresAt := 0 }

/-- `completePendingRecovery`. -/
def Record.completed (record : Record) : Record :=
  { record with
    authority := hexText record.recoverySuccessor
    target := Digest.zero
    recordNotAfter := 0
    consistency := .unavailable }.cleared

def Record.resumed (record : Record) (op : Op) : Record :=
  { record.next with target := op.target, recordNotAfter := op.recordNotAfter, consistency := .current }

def applyStart (current : Option Record) (seconds now : Int64) (op : Op) : Transition Record := do
  let current ← requireCurrent current op .startRecovery
  demand (isLive current seconds) ⟨.startRecovery, .recoveryLease⟩
  demand (starts suite current now op.recoveryAuthorization) ⟨.startRecovery, .recoveryAuthorization⟩
  return current.recovering op.recoveryAuthorization

def applyCancel (current : Option Record) (now : Int64) (op : Op) : Transition Record := do
  let current ← requireCurrent current op .cancelRecovery
  demand (matchingPendingRecovery suite current op.recoveryAuthorization .cancel &&
    decide (now < current.recoveryExpiresAt) && current.authority != hexText current.recoverySuccessor)
    ⟨.cancelRecovery, .recoveryCancellation⟩
  return current.cleared.next

def applyComplete (current : Option Record) (now : Int64) (op : Op) : Transition Record := do
  let current ← requireCurrent current op .completeRecovery
  demand (matchingPendingRecovery suite current op.recoveryAuthorization .initiate &&
    decide (current.recoveryExpiresAt ≤ now) && current.authority != hexText current.recoverySuccessor)
    ⟨.completeRecovery, .recoveryCompletion⟩
  return current.completed.next

def resumes (current : Record) (now : Int64) (op : Op) : Bool :=
  current.recovery == .stable && current.consistency == .unavailable && current.target == Digest.zero &&
    op.authority == current.authority && op.target != Digest.zero && decide (now < op.recordNotAfter) &&
    decide (op.recordNotAfter ≤ leaseNotAfter current * 1000)

def applyResume (current : Option Record) (now : Int64) (op : Op) : Transition Record := do
  let current ← requireCurrent current op .resumeRecovery
  demand (resumes current now op) ⟨.resumeRecovery, .freshSuccessor⟩
  return current.resumed op

/-- The duration of an operation, or the default of the policy. -/
def orDefault (duration default : Int64) : Int64 := if duration ≤ 0 then default else duration

/-- `time.Hour`. -/
def leaseHour : Int64 := 3600000000000

def leaseOf (op : Op) (policy : Policy) : Int64 :=
  let duration := orDefault op.leaseDuration policy.defaultLeaseDuration
  if duration ≤ 0 then leaseHour else duration

def graceOf (op : Op) (policy : Policy) : Int64 :=
  let duration := orDefault op.graceDuration policy.defaultGraceDuration
  if duration < 0 then 0 else duration

def apply (current : Option Record) (seconds now : Int64) (op : Op) (policy : Policy) : Transition Record :=
  if parse op.name ≠ some op.name then .error ⟨op.kind, .name⟩
  else
    match op.kind with
    | .claim => applyClaim current seconds op (leaseOf op policy) (graceOf op policy)
    | .renew => applyRenew current seconds op (leaseOf op policy) (graceOf op policy)
    | .release => applyRelease current op
    | .advance => applyAdvance current seconds op
    | .conflict => applyConflict current op
    | .publish => applyPublish current seconds op
    | .rotate | .transfer => applyRotate current seconds op
    | .scheduleRecoveryPolicy => applySchedule current seconds now op
    | .activateRecoveryPolicy => applyActivate current now op
    | .startRecovery => applyStart suite current seconds now op
    | .cancelRecovery => applyCancel suite current now op
    | .completeRecovery => applyComplete suite current now op
    | .resumeRecovery => applyResume current now op
    | .other _ => .error ⟨op.kind, .unavailable⟩

/-! ## What a transition can do -/

/-- The operation names this Record, its generation and its revision. -/
structure Stands (record : Record) (op : Op) : Prop where
  name : record.name = op.name
  valid : validRecord record = true
  generation : op.expectedGeneration = record.generation
  revision : op.expectedRevision = record.revision

variable {action : Kind} {record : Record} {value : Unit}

theorem requireCurrent_eq_ok {current : Option Record} {op : Op} :
    requireCurrent current op action = .ok record ↔ current = some record ∧ Stands record op := by
  constructor
  · intro required
    unfold requireCurrent at required
    split at required
    · cases required
    next found =>
    split at required
    · cases required
    next name =>
    split at required
    · cases required
    next valid =>
    split at required
    · cases required
    next stale =>
    cases required
    rw [not_or, not_not, not_not] at stale
    exact ⟨rfl, not_not.1 name, by simpa using valid, stale.1, stale.2⟩
  · rintro ⟨rfl, stands⟩
    simp [requireCurrent, stands.name, stands.valid, stands.generation, stands.revision]

theorem withLineage_eq_ok {parents : Except ParentFault (Option Record)} {parent : Option Record} :
    withLineage parents action = .ok parent ↔ parents = .ok parent := by
  cases parents <;> simp [withLineage]

theorem withLease_eq_ok {live : Except LeaseFault Unit} :
    withLease live action = .ok value ↔ live = .ok () := by
  cases live <;> simp [withLease]

/-- The ends that a claim or a renewal gives. -/
def endsOf (seconds : Int64) (op : Op) (policy : Policy) (parent : Option Record) : Int64 × Int64 :=
  leaseEnds seconds (leaseOf op policy) (graceOf op policy) parent

/-- Every way in which `apply` accepts, with what it checked. -/
inductive Applies (seconds now : Int64) (op : Op) (policy : Policy) : Option Record → Record → Prop where
  | first {parent : Option Record} (kind : op.kind = .claim) (authority : op.authority ≠ [])
      (generation : op.generation = 1) (lineage : validateParents op.name op.parents seconds = .ok parent)
      (fit : fits seconds (endsOf seconds op policy parent) = true) :
      Applies seconds now op policy none (claimed 1 op parent (endsOf seconds op policy parent))
  | reclaim {record : Record} {parent : Option Record} (kind : op.kind = .claim) (authority : op.authority ≠ [])
      (stands : Stands record op) (released : record.lease = .released) (nonzero : op.generation ≠ 0)
      (generation : op.generation = record.generation + 1)
      (lineage : validateParents op.name op.parents seconds = .ok parent)
      (fit : fits seconds (endsOf seconds op policy parent) = true) :
      Applies seconds now op policy (some record)
        (claimed (record.continuity + 1) op parent (endsOf seconds op policy parent))
  | renew {record : Record} {parent : Option Record} (kind : op.kind = .renew) (stands : Stands record op)
      (lease : record.lease ≠ .released) (within : seconds ≤ record.graceExpiresAt)
      (consistent : record.consistency = .current) (stable : record.recovery = .stable)
      (authority : op.authority = record.authority)
      (lineage : validateParents op.name op.parents seconds = .ok parent) (bound : sameParent record parent = true)
      (fit : fits seconds (endsOf seconds op policy parent) = true) :
      Applies seconds now op policy (some record) (record.renewed (endsOf seconds op policy parent))
  | release {record : Record} (kind : op.kind = .release) (stands : Stands record op)
      (authority : op.authority = record.authority) (lease : record.lease ≠ .released)
      (consistent : record.consistency = .current) (stable : record.recovery = .stable) :
      Applies seconds now op policy (some record) record.released
  | advance {record : Record} (kind : op.kind = .advance) (stands : Stands record op)
      (stable : record.recovery = .stable) : Applies seconds now op policy (some record) (record.advanced seconds)
  | conflict {record : Record} (kind : op.kind = .conflict) (stands : Stands record op)
      (lease : record.lease ≠ .released) (consistent : record.consistency = .current)
      (context : op.conflictContext ≠ []) :
      Applies seconds now op policy (some record) (record.conflicted op.conflictContext)
  | publish {record : Record} (kind : op.kind = .publish) (stands : Stands record op)
      (authority : op.authority = record.authority) (target : op.target ≠ Digest.zero)
      (later : seconds * 1000 < op.recordNotAfter) (live : liveLease record seconds = .ok ())
      (lineage : boundLineage record op seconds = true)
      (within : op.recordNotAfter ≤ lineageNotAfter record op.parents * 1000) :
      Applies seconds now op policy (some record) (record.published op.target op.recordNotAfter)
  | rotate {record : Record} (kind : op.kind = .rotate ∨ op.kind = .transfer) (stands : Stands record op)
      (authority : op.authority = record.authority) (successor : op.successorAuthority ≠ [])
      (live : liveLease record seconds = .ok ()) :
      Applies seconds now op policy (some record) (record.transferred op.successorAuthority)
  | schedule {record : Record} (kind : op.kind = .scheduleRecoveryPolicy) (stands : Stands record op)
      (live : liveLease record seconds = .ok ()) (schedules : schedules record now op = true) :
      Applies seconds now op policy (some record) (record.scheduled op)
  | activate {record : Record} (kind : op.kind = .activateRecoveryPolicy) (stands : Stands record op)
      (pending : record.pendingPolicyRev ≠ 0) (due : record.policyActivatesAt ≤ now)
      (stable : record.recovery = .stable) : Applies seconds now op policy (some record) record.activated
  | start {record : Record} (kind : op.kind = .startRecovery) (stands : Stands record op)
      (live : liveLease record seconds = .ok ()) (starts : starts suite record now op.recoveryAuthorization = true) :
      Applies seconds now op policy (some record) (record.recovering op.recoveryAuthorization)
  | cancel {record : Record} (kind : op.kind = .cancelRecovery) (stands : Stands record op)
      (same : matchingPendingRecovery suite record op.recoveryAuthorization .cancel = true)
      (early : now < record.recoveryExpiresAt) :
      Applies seconds now op policy (some record) record.cleared.next
  | complete {record : Record} (kind : op.kind = .completeRecovery) (stands : Stands record op)
      (same : matchingPendingRecovery suite record op.recoveryAuthorization .initiate = true)
      (due : record.recoveryExpiresAt ≤ now) :
      Applies seconds now op policy (some record) record.completed.next
  | resume {record : Record} (kind : op.kind = .resumeRecovery) (stands : Stands record op)
      (resumes : resumes record now op = true) :
      Applies seconds now op policy (some record) (record.resumed op)

variable {suite} {current : Option Record} {seconds now : Int64} {op : Op} {policy : Policy} {result : Record}

theorem return_eq_ok {α : Type} {value found : α} :
    (pure value : Transition α) = .ok found ↔ value = found := by
  change Except.ok value = _ ↔ _
  simp

theorem isLive_eq_true : isLive record seconds = true ↔ liveLease record seconds = .ok () := by
  rw [isLive, decide_eq_true_eq]

theorem claimFrom_eq_ok : claimFrom current op = .ok value ↔
    current = none ∧ (op.generation = 1 ∧ op.expectedGeneration = 0) ∧ op.expectedRevision = 0 ∨
      ∃ record, current = some record ∧ Stands record op ∧ record.lease = .released ∧
        op.generation = record.generation + 1 := by
  cases current with
  | none => simp [claimFrom]
  | some record =>
    simp only [claimFrom, except_bind_eq_ok, demand_eq_ok, requireCurrent_eq_ok, beq_iff_eq]
    constructor
    · rintro ⟨_, ⟨same, stands⟩, _, released, generation⟩
      cases same
      exact .inr ⟨record, rfl, stands, released, generation⟩
    rintro (⟨absent, -⟩ | ⟨_, same, stands, released, generation⟩)
    · cases absent
    · cases same
      exact ⟨record, ⟨rfl, stands⟩, (), released, generation⟩

theorem applyClaim_applies (kind : op.kind = .claim)
    (accepted : applyClaim current seconds op (leaseOf op policy) (graceOf op policy) = .ok result) :
    Applies suite seconds now op policy current result := by
  simp only [applyClaim, except_bind_eq_ok, demand_eq_ok, withLineage_eq_ok, return_eq_ok, claimFrom_eq_ok,
    bne_iff_ne, Bool.not_eq_true', List.isEmpty_eq_false_iff] at accepted
  obtain ⟨-, authority, -, nonzero, -, from_, parent, lineage, -, fit, rfl⟩ := accepted
  rcases from_ with ⟨rfl, ⟨generation, -⟩, -⟩ | ⟨record, rfl, stands, released, generation⟩
  · exact .first kind authority generation lineage fit
  · exact .reclaim kind authority stands released nonzero generation lineage fit

theorem applyRenew_applies (kind : op.kind = .renew)
    (accepted : applyRenew current seconds op (leaseOf op policy) (graceOf op policy) = .ok result) :
    Applies suite seconds now op policy current result := by
  simp only [applyRenew, except_bind_eq_ok, demand_eq_ok, requireCurrent_eq_ok, withLineage_eq_ok, return_eq_ok,
    Bool.or_eq_true, Bool.and_eq_true, beq_iff_eq, decide_eq_true_eq] at accepted
  obtain ⟨record, ⟨rfl, stands⟩, -, lease, -, within, -, ⟨consistent, stable⟩, -, authority, parent, lineage, -, bound,
    -, fit, rfl⟩ := accepted
  refine .renew kind stands ?_ within consistent stable authority lineage bound fit
  rcases lease with lease | lease <;> rw [lease] <;> decide

theorem applyRelease_applies (kind : op.kind = .release) (accepted : applyRelease current op = .ok result) :
    Applies suite seconds now op policy current result := by
  simp only [applyRelease, except_bind_eq_ok, demand_eq_ok, requireCurrent_eq_ok, return_eq_ok, beq_iff_eq,
    bne_iff_ne] at accepted
  obtain ⟨record, ⟨rfl, stands⟩, -, authority, -, lease, -, consistent, -, stable, rfl⟩ := accepted
  exact .release kind stands authority lease consistent stable

theorem applyAdvance_applies (kind : op.kind = .advance) (accepted : applyAdvance current seconds op = .ok result) :
    Applies suite seconds now op policy current result := by
  simp only [applyAdvance, except_bind_eq_ok, demand_eq_ok, requireCurrent_eq_ok, return_eq_ok, bne_iff_ne] at accepted
  obtain ⟨record, ⟨rfl, stands⟩, -, settled, rfl⟩ := accepted
  refine .advance kind stands ?_
  cases state : record.recovery with
  | stable => rfl
  | pending => exact absurd state settled

theorem applyConflict_applies (kind : op.kind = .conflict) (accepted : applyConflict current op = .ok result) :
    Applies suite seconds now op policy current result := by
  simp only [applyConflict, except_bind_eq_ok, demand_eq_ok, requireCurrent_eq_ok, return_eq_ok, beq_iff_eq,
    bne_iff_ne, Bool.not_eq_true', List.isEmpty_eq_false_iff] at accepted
  obtain ⟨record, ⟨rfl, stands⟩, -, lease, -, consistent, -, context, rfl⟩ := accepted
  exact .conflict kind stands lease consistent context

theorem applyPublish_applies (kind : op.kind = .publish) (accepted : applyPublish current seconds op = .ok result) :
    Applies suite seconds now op policy current result := by
  simp only [applyPublish, except_bind_eq_ok, demand_eq_ok, requireCurrent_eq_ok, withLease_eq_ok, return_eq_ok,
    beq_iff_eq, bne_iff_ne, decide_eq_true_eq] at accepted
  obtain ⟨record, ⟨rfl, stands⟩, -, authority, -, target, -, -, -, later, -, live, -, lineage, -,
    within, rfl⟩ := accepted
  exact .publish kind stands authority target later live lineage within

theorem applyRotate_applies (kind : op.kind = .rotate ∨ op.kind = .transfer)
    (accepted : applyRotate current seconds op = .ok result) :
    Applies suite seconds now op policy current result := by
  simp only [applyRotate, except_bind_eq_ok, demand_eq_ok, requireCurrent_eq_ok, withLease_eq_ok, return_eq_ok,
    Bool.and_eq_true, beq_iff_eq, bne_iff_ne, Bool.not_eq_true', List.isEmpty_eq_false_iff] at accepted
  obtain ⟨record, ⟨rfl, stands⟩, -, ⟨⟨authority, successor⟩, -⟩, -, live, rfl⟩ := accepted
  exact .rotate kind stands authority successor live

theorem applySchedule_applies (kind : op.kind = .scheduleRecoveryPolicy)
    (accepted : applySchedule current seconds now op = .ok result) :
    Applies suite seconds now op policy current result := by
  simp only [applySchedule, except_bind_eq_ok, demand_eq_ok, requireCurrent_eq_ok, return_eq_ok,
    isLive_eq_true] at accepted
  obtain ⟨record, ⟨rfl, stands⟩, -, live, -, schedules, rfl⟩ := accepted
  exact .schedule kind stands live schedules

theorem applyActivate_applies (kind : op.kind = .activateRecoveryPolicy)
    (accepted : applyActivate current now op = .ok result) : Applies suite seconds now op policy current result := by
  simp only [applyActivate, except_bind_eq_ok, demand_eq_ok, requireCurrent_eq_ok, return_eq_ok, Bool.and_eq_true,
    beq_iff_eq, bne_iff_ne, decide_eq_true_eq] at accepted
  obtain ⟨record, ⟨rfl, stands⟩, -, ⟨⟨pending, due⟩, stable⟩, rfl⟩ := accepted
  exact .activate kind stands pending due stable

theorem applyStart_applies (kind : op.kind = .startRecovery)
    (accepted : applyStart suite current seconds now op = .ok result) :
    Applies suite seconds now op policy current result := by
  simp only [applyStart, except_bind_eq_ok, demand_eq_ok, requireCurrent_eq_ok, return_eq_ok,
    isLive_eq_true] at accepted
  obtain ⟨record, ⟨rfl, stands⟩, -, live, -, starts, rfl⟩ := accepted
  exact .start kind stands live starts

theorem applyCancel_applies (kind : op.kind = .cancelRecovery)
    (accepted : applyCancel suite current now op = .ok result) :
    Applies suite seconds now op policy current result := by
  simp only [applyCancel, except_bind_eq_ok, demand_eq_ok, requireCurrent_eq_ok, return_eq_ok, Bool.and_eq_true,
    decide_eq_true_eq] at accepted
  obtain ⟨record, ⟨rfl, stands⟩, -, ⟨⟨same, early⟩, -⟩, rfl⟩ := accepted
  exact .cancel kind stands same early

theorem applyComplete_applies (kind : op.kind = .completeRecovery)
    (accepted : applyComplete suite current now op = .ok result) :
    Applies suite seconds now op policy current result := by
  simp only [applyComplete, except_bind_eq_ok, demand_eq_ok, requireCurrent_eq_ok, return_eq_ok, Bool.and_eq_true,
    decide_eq_true_eq] at accepted
  obtain ⟨record, ⟨rfl, stands⟩, -, ⟨⟨same, due⟩, -⟩, rfl⟩ := accepted
  exact .complete kind stands same due

theorem applyResume_applies (kind : op.kind = .resumeRecovery)
    (accepted : applyResume current now op = .ok result) : Applies suite seconds now op policy current result := by
  simp only [applyResume, except_bind_eq_ok, demand_eq_ok, requireCurrent_eq_ok, return_eq_ok] at accepted
  obtain ⟨record, ⟨rfl, stands⟩, -, resumes, rfl⟩ := accepted
  exact .resume kind stands resumes

/-- **Inversion.**  What `apply` accepts is one of the transitions, of a canonical Name. -/
theorem apply_applies (accepted : apply suite current seconds now op policy = .ok result) :
    parse op.name = some op.name ∧ Applies suite seconds now op policy current result := by
  rw [apply] at accepted
  split at accepted
  · cases accepted
  next name =>
  refine ⟨not_not.1 name, ?_⟩
  split at accepted
  · next kind => exact applyClaim_applies kind accepted
  · next kind => exact applyRenew_applies kind accepted
  · next kind => exact applyRelease_applies kind accepted
  · next kind => exact applyAdvance_applies kind accepted
  · next kind => exact applyConflict_applies kind accepted
  · next kind => exact applyPublish_applies kind accepted
  · next kind => exact applyRotate_applies (.inl kind) accepted
  · next kind => exact applyRotate_applies (.inr kind) accepted
  · next kind => exact applySchedule_applies kind accepted
  · next kind => exact applyActivate_applies kind accepted
  · next kind => exact applyStart_applies kind accepted
  · next kind => exact applyCancel_applies kind accepted
  · next kind => exact applyComplete_applies kind accepted
  · next kind => exact applyResume_applies kind accepted
  · cases accepted

end Ardents.Naming
