/-
# Naming.Record — Name Records, their validity and their lineage

`internal/naming/namespace/record`: `lease_transition.go`, `record_validation.go`,
`record_parent.go`, `record_resolution.go`.  A Record is one revision inside one
generation of a Name.

The states of a Record are enumerations: a text outside them does not decode, and no
transition writes one.  Times are `int64`, in seconds for a Lease and in milliseconds for
everything else.  Of the errors of `validateRecord` only their presence is modelled.
-/
import Ardents.Naming.Recovery

namespace Ardents.Naming

open Lib

set_option autoImplicit false

inductive Lease where
  | active
  | grace
  | released
  deriving DecidableEq, Repr

inductive Consistency where
  | current
  | conflict
  | fork
  | unavailable
  deriving DecidableEq, Repr

inductive RecoveryState where
  | stable
  | pending
  deriving DecidableEq, Repr

structure Record where
  name : Text
  generation : UInt64
  revision : UInt64
  lease : Lease
  consistency : Consistency
  recovery : RecoveryState
  /-- The hexadecimal text of a key. -/
  authority : Text
  target : Digest
  recordNotAfter : Int64
  parentName : Text
  parentGeneration : UInt64
  leaseExpiresAt : Int64
  graceExpiresAt : Int64
  recoveryExpiresAt : Int64
  recoveryStartedAt : Int64
  recoveryOperation : Digest
  recoverySuccessor : Digest
  recoveryPolicy : Digest
  recoveryPolicyRev : UInt64
  recoveryPolicyDelay : Int64
  pendingPolicy : Digest
  pendingPolicyRev : UInt64
  pendingPolicyDelay : Int64
  policyActivatesAt : Int64
  continuity : UInt64
  conflictIdentifier : Text
  deriving DecidableEq

/-! ## Validity -/

def validLease (record : Record) : Bool :=
  match record.lease with
  | .active | .grace => decide (0 < record.leaseExpiresAt) && decide (record.leaseExpiresAt ≤ record.graceExpiresAt)
  | .released => record.leaseExpiresAt == 0 && record.graceExpiresAt == 0

def validRecovery (record : Record) : Bool :=
  match record.recovery with
  | .stable =>
    record.recoveryExpiresAt == 0 && record.recoveryStartedAt == 0 && record.recoveryOperation == Digest.zero &&
      record.recoverySuccessor == Digest.zero
  | .pending =>
    decide (record.recoveryStartedAt < record.recoveryExpiresAt) && decide (0 < record.recoveryStartedAt) &&
      record.recoveryOperation != Digest.zero && record.recoverySuccessor != Digest.zero &&
      record.recoveryPolicy != Digest.zero && decide (0 < record.recoveryPolicyRev) &&
      record.recoveryExpiresAt - record.recoveryStartedAt == record.recoveryPolicyDelay

def validRecordLifetimes (record : Record) : Bool := validLease record && validRecovery record

/-- A delay is one that a policy may have. -/
def delayWithin (delay : Int64) : Bool :=
  decide (milliseconds minimumRecoveryDelay ≤ delay) && decide (delay ≤ milliseconds maximumRecoveryDelay)

def validEffectivePolicy (record : Record) : Bool :=
  if record.recoveryPolicyRev = 0 then record.recoveryPolicy == Digest.zero && record.recoveryPolicyDelay == 0
  else delayWithin record.recoveryPolicyDelay

def validPendingPolicy (record : Record) : Bool :=
  if record.pendingPolicyRev = 0 then
    record.pendingPolicy == Digest.zero && record.pendingPolicyDelay == 0 && record.policyActivatesAt == 0
  else
    decide (record.recoveryPolicyRev < record.pendingPolicyRev) && delayWithin record.pendingPolicyDelay &&
      decide (0 < record.policyActivatesAt)

def validRecoveryBindings (record : Record) : Bool := validEffectivePolicy record && validPendingPolicy record

def hasRequiredParent (record : Record) : Bool := !hasParent record.name || !record.parentName.isEmpty

/-- The binding to a parent names its generation, and the parent is above the Name. -/
def validParentBinding (record : Record) : Bool :=
  record.parentName.isEmpty == (record.parentGeneration == 0) &&
    (record.parentName.isEmpty || isDescendant record.name record.parentName)

def validConflict (record : Record) : Bool :=
  match record.consistency with
  | .current => record.conflictIdentifier.isEmpty
  | .conflict => !record.conflictIdentifier.isEmpty
  | _ => true

/-- `validateRecord` finds nothing wrong. -/
def validRecord (record : Record) : Bool :=
  (parse record.name).isSome && record.generation != 0 && record.revision != 0 && validRecordLifetimes record &&
    hasRequiredParent record && decide (0 ≤ record.recordNotAfter) && !record.authority.isEmpty &&
    validParentBinding record && validConflict record && validRecoveryBindings record

/-! ## A live Lease -/

inductive LeaseFault where
  | consistency
  | recovering
  | elapsed
  | released
  deriving DecidableEq, Repr

/-- An active Lease that ended is in grace. -/
def liveLease (current : Record) (now : Int64) : Except LeaseFault Unit :=
  if current.consistency ≠ .current then .error .consistency
  else if current.recovery ≠ .stable then .error .recovering
  else
    match current.lease with
    | .active =>
      if now ≤ current.leaseExpiresAt then .ok ()
      else if now ≤ current.graceExpiresAt then .ok ()
      else .error .elapsed
    | .grace => if now ≤ current.graceExpiresAt then .ok () else .error .elapsed
    | .released => .error .released

def isLive (current : Record) (now : Int64) : Bool := decide (liveLease current now = .ok ())

/-! ## The lineage of a Name -/

inductive ParentFault where
  | missing
  | name
  | invalid
  | outside
  | discontinuous
  | unresolvable
  | rootless
  deriving DecidableEq, Repr

/-- The child is bound to this very generation of the parent. -/
def boundTo (child parent : Record) : Bool :=
  child.parentName == parent.name && child.parentGeneration == parent.generation

/-- The loop over the parents; `child` is the Name below and `before` its Record, which the
first one does not have. -/
def checkParents (now : Int64) : Text → Option Record → List Record → Except ParentFault Unit
  | _, before, [] => if before.any fun last => !last.parentName.isEmpty then .error .rootless else .ok ()
  | child, before, parent :: rest =>
    if !validRecord parent then .error .invalid
    else if !isDescendant child parent.name then .error .outside
    else if before.any fun below => !boundTo below parent then .error .discontinuous
    else if !isLive parent now then .error .unresolvable
    else checkParents now parent.name (some parent) rest

/-- `validateParents`: the immediate parent of `child`, when the lineage holds. -/
def validateParents (child : Text) (parents : List Record) (now : Int64) : Except ParentFault (Option Record) :=
  match parents with
  | [] => if hasParent child then .error .missing else .ok none
  | first :: rest =>
    if (parse child).isNone then .error .name
    else
      match checkParents now child none (first :: rest) with
      | .error fault => .error fault
      | .ok () => .ok (some first)

def sameParent (record : Record) (parent : Option Record) : Bool :=
  if record.parentName.isEmpty then parent.isNone && record.parentGeneration == 0
  else parent.any (boundTo record)

def leaseNotAfter (record : Record) : Int64 :=
  match record.lease with
  | .active | .grace => record.graceExpiresAt
  | .released => record.leaseExpiresAt

/-- The earliest end of the Leases of a lineage. -/
def lineageNotAfter (record : Record) (parents : List Record) : Int64 :=
  parents.foldl (fun bound parent => if leaseNotAfter parent < bound then leaseNotAfter parent else bound)
    (leaseNotAfter record)

/-! ## Facts about validity and lineages -/

variable {now : Int64} {parents : List Record} {child : Text}

theorem liveLease_eq_ok {current : Record} (live : liveLease current now = .ok ()) :
    current.consistency = .current ∧ current.recovery = .stable ∧ current.lease ≠ .released := by
  rw [liveLease] at live
  split at live
  · cases live
  next consistent =>
  split at live
  · cases live
  next stable =>
  refine ⟨not_not.1 consistent, not_not.1 stable, ?_⟩
  intro released
  rw [released] at live
  cases live

/-- The parent that a lineage gives is above the child, valid and live. -/
theorem validateParents_eq_some {parent : Record}
    (valid : validateParents child parents now = .ok (some parent)) :
    (∃ rest, parents = parent :: rest) ∧ validRecord parent = true ∧ isDescendant child parent.name = true ∧
      liveLease parent now = .ok () := by
  cases parents with
  | nil =>
    rw [validateParents] at valid
    split at valid <;> cases valid
  | cons first rest =>
    rw [validateParents] at valid
    split at valid
    · cases valid
    split at valid
    · cases valid
    next checked =>
    cases valid
    rw [checkParents] at checked
    split at checked
    · cases checked
    next holds =>
    split at checked
    · cases checked
    next below =>
    split at checked
    · cases checked
    split at checked
    · cases checked
    next live =>
    refine ⟨⟨rest, rfl⟩, by simpa using holds, by simpa using below, ?_⟩
    simpa [isLive] using live

theorem validateParents_eq_none
    (valid : validateParents child parents now = .ok none) : parents = [] ∧ hasParent child = false := by
  cases parents with
  | nil =>
    rw [validateParents] at valid
    split at valid
    · cases valid
    · next root => exact ⟨rfl, by simpa using root⟩
  | cons first rest =>
    rw [validateParents] at valid
    split at valid
    · cases valid
    · split at valid <;> cases valid

end Ardents.Naming
