/-
# Naming.LifecycleSafety — what the transitions of a Record keep

`Applies.safe`: an accepted operation gives a valid Record that is later in the order of
generation and revision, keeps the Name and inside a generation the parent binding, changes
the Authority only for one of three reasons, and keeps the Lease of a child inside that of
its parent.  `record_lifecycle_safe` adds what a history of operations on one Name keeps:
each completion of a recovery follows its own initiation.

The condition `Ordinary` leaves out clocks before 1970 or within a month of the last
`int64`, counters at their last value, and the resumption of a Record that still carries
the identifier of a conflict: it would be current with a conflict identifier, which is not
valid.  An initiation may be accepted up to `startWindow` after the start its participants
signed, so a completion may come that much sooner than the delay of the policy
(`recovery_completes_early`).
-/
import Ardents.Lib.Runs
import Ardents.Naming.Lifecycle

namespace Ardents.Naming

open Lib

set_option autoImplicit false

/-! ## Validity, part by part -/

/-- The parts of `validRecord`. -/
structure ValidParts (record : Record) : Prop where
  name : (parse record.name).isSome = true
  generation : record.generation ≠ 0
  revision : record.revision ≠ 0
  lease : validLease record = true
  recovery : validRecovery record = true
  required : hasRequiredParent record = true
  notAfter : 0 ≤ record.recordNotAfter
  authority : record.authority ≠ []
  parent : validParentBinding record = true
  conflict : validConflict record = true
  effective : validEffectivePolicy record = true
  scheduled : validPendingPolicy record = true

theorem validRecord_iff {record : Record} : validRecord record = true ↔ ValidParts record := by
  simp only [validRecord, validRecordLifetimes, validRecoveryBindings, Bool.and_eq_true, bne_iff_ne, decide_eq_true_eq,
    Bool.not_eq_true', List.isEmpty_eq_false_iff]
  constructor
  · rintro ⟨⟨⟨⟨⟨⟨⟨⟨⟨name, generation⟩, revision⟩, lease, recovery⟩, required⟩, notAfter⟩,
      authority⟩, parent⟩, conflict⟩,
      effective, scheduled⟩
    exact ⟨name, generation, revision, lease, recovery, required, notAfter, authority, parent, conflict, effective,
      scheduled⟩
  · intro parts
    exact ⟨⟨⟨⟨⟨⟨⟨⟨⟨parts.name, parts.generation⟩, parts.revision⟩, parts.lease, parts.recovery⟩, parts.required⟩,
      parts.notAfter⟩, parts.authority⟩, parts.parent⟩, parts.conflict⟩, parts.effective, parts.scheduled⟩

section Transitions

variable {suite : Suite} {record : Record} {seconds now : Int64} {op : Op} {policy : Policy} {result : Record}

/-- The last revision there is. -/
def lastRevision : UInt64 := 0xFFFFFFFFFFFFFFFF

theorem revision_next (more : record.revision ≠ lastRevision) :
    record.revision + 1 ≠ 0 ∧ record.revision < record.revision + 1 := by
  unfold lastRevision at more
  constructor <;> grind

theorem ValidParts.next (parts : ValidParts record) (more : record.revision ≠ lastRevision) : ValidParts record.next :=
  { parts with revision := (revision_next more).1 }

/-! ## The ends of a Lease -/

theorem earliest_le (first second : Int64) : earliest first second ≤ second := by
  unfold earliest
  split <;> grind

theorem endsOf_le_parent (seconds : Int64) (op : Op) (policy : Policy) (parent : Record) :
    (endsOf seconds op policy (some parent)).1 ≤ parent.leaseExpiresAt ∧
      (endsOf seconds op policy (some parent)).2 ≤ parent.graceExpiresAt :=
  ⟨earliest_le _ _, earliest_le _ _⟩

variable {ends : Int64 × Int64} {parent : Option Record} {authorization : Authorization}

theorem fits_ends (fit : fits seconds ends = true) (started : 0 ≤ seconds) :
    0 < ends.1 ∧ ends.1 ≤ ends.2 := by
  simp only [fits, Bool.and_eq_true, decide_eq_true_eq] at fit
  obtain ⟨later, ordered⟩ := fit
  exact ⟨by grind, ordered⟩

theorem validLease_of_ends (record : Record) (live : record.lease ≠ .released) (positive : 0 < record.leaseExpiresAt)
    (ordered : record.leaseExpiresAt ≤ record.graceExpiresAt) : validLease record = true := by
  unfold validLease
  split
  · simp [positive, ordered]
  · simp [positive, ordered]
  · next released => exact absurd released live

theorem ends_of_validLease (valid : validLease record = true) (live : record.lease ≠ .released) :
    0 < record.leaseExpiresAt ∧ record.leaseExpiresAt ≤ record.graceExpiresAt := by
  unfold validLease at valid
  split at valid
  · simpa using valid
  · simpa using valid
  · next released => exact absurd released live

/-! ## Delays -/

theorem milliseconds_toInt {duration : Int64} (positive : 0 ≤ duration) :
    (milliseconds duration).toInt = duration.toInt / 1000000 := by
  have divides := Int64.toInt_div_of_ne_right duration 1000000 (by decide)
  have bound : 0 ≤ duration.toInt := Int64.le_iff_toInt_le.1 positive
  rw [milliseconds, divides, Int.tdiv_eq_ediv_of_nonneg bound]
  rfl

theorem delayWithin_milliseconds {delay : Int64} (least : minimumRecoveryDelay ≤ delay)
    (most : delay ≤ maximumRecoveryDelay) : delayWithin (milliseconds delay) = true := by
  have positive : 0 ≤ delay := by
    unfold minimumRecoveryDelay at least
    grind
  have above := Int64.le_iff_toInt_le.1 least
  have below := Int64.le_iff_toInt_le.1 most
  have low : minimumRecoveryDelay.toInt = 259200000000000 := by decide
  have high : maximumRecoveryDelay.toInt = 2592000000000000 := by decide
  have lowest : (milliseconds minimumRecoveryDelay).toInt = 259200000 := by decide
  have highest : (milliseconds maximumRecoveryDelay).toInt = 2592000000 := by decide
  rw [delayWithin, Bool.and_eq_true, decide_eq_true_eq, decide_eq_true_eq, Int64.le_iff_toInt_le,
    Int64.le_iff_toInt_le, milliseconds_toInt positive]
  omega

theorem delayWithin_bounds {delay : Int64} (within : delayWithin delay = true) :
    259200000 ≤ delay ∧ delay ≤ 2592000000 := by
  have low : milliseconds minimumRecoveryDelay = 259200000 := by decide
  have high : milliseconds maximumRecoveryDelay = 2592000000 := by decide
  simpa [delayWithin, low, high] using within

/-- The delay of an effective policy. -/
theorem effective_delay (parts : ValidParts record) (effective : record.recoveryPolicy ≠ Digest.zero) :
    0 < record.recoveryPolicyRev ∧ 259200000 ≤ record.recoveryPolicyDelay ∧
      record.recoveryPolicyDelay ≤ 2592000000 := by
  have policy := parts.effective
  unfold validEffectivePolicy at policy
  split at policy
  · simp [effective] at policy
  next revised =>
  obtain ⟨least, most⟩ := delayWithin_bounds policy
  exact ⟨by grind, least, most⟩

/-! ## The times of ordinary clocks -/

/-- Seconds and milliseconds from the Unix epoch on, which a month can be added to. -/
structure Timely (seconds now : Int64) : Prop where
  seconds_ge : 0 ≤ seconds
  seconds_le : seconds ≤ 9223372036854775
  now_ge : 0 ≤ now
  now_le : now ≤ 9223372034262775807

/-! ## Every transition gives a valid Record -/

variable {current : Option Record} {operation : RecoveryOperation} {continuity : UInt64}

theorem claimed_valid (name : parse op.name = some op.name)
    (authority : op.authority ≠ []) (generation : op.generation ≠ 0)
    (lineage : validateParents op.name op.parents seconds = .ok parent) (fit : fits seconds ends = true)
    (timely : Timely seconds now) : ValidParts (claimed continuity op parent ends) := by
  obtain ⟨positive, ordered⟩ := fits_ends fit timely.seconds_ge
  have lease := validLease_of_ends (claimed continuity op parent ends) nofun positive ordered
  cases parent with
  | none =>
    obtain ⟨-, root⟩ := validateParents_eq_none lineage
    refine ⟨?_, generation, ?_, lease, rfl, ?_, ?_, authority, rfl, rfl, rfl, rfl⟩
    · simp [claimed, name]
    · exact (by decide : (1 : UInt64) ≠ 0)
    · simp [hasRequiredParent, claimed, root]
    · exact Int64.le_refl 0
  | some parent =>
    obtain ⟨-, valid, below, -⟩ := validateParents_eq_some lineage
    have parts := validRecord_iff.1 valid
    have named : parent.name ≠ [] := by
      intro empty
      have parsed := parts.name
      rw [empty] at parsed
      exact absurd parsed (by decide)
    refine ⟨?_, generation, ?_, lease, rfl, ?_, ?_, authority, ?_, rfl, rfl, rfl⟩
    · simp [claimed, name]
    · exact (by decide : (1 : UInt64) ≠ 0)
    · simp [hasRequiredParent, claimed, named]
    · exact Int64.le_refl 0
    · have filled : parent.name.isEmpty = false := List.isEmpty_eq_false_iff.2 named
      have counted : (parent.generation == 0) = false := beq_false_of_ne parts.generation
      simp [validParentBinding, claimed, filled, counted, below]

section Successors

variable (parts : ValidParts record) (more : record.revision ≠ lastRevision)

include parts more

theorem renewed_valid (fit : fits seconds ends = true) (timely : Timely seconds now) :
    ValidParts (record.renewed ends) := by
  obtain ⟨positive, ordered⟩ := fits_ends fit timely.seconds_ge
  exact { parts.next more with lease := validLease_of_ends (record.renewed ends) nofun positive ordered }

theorem released_valid : ValidParts record.released :=
  { parts.next more with lease := rfl }

theorem advanced_valid : ValidParts (record.advanced seconds) := by
  unfold Record.advanced
  split
  · next active =>
    split
    · exact parts
    split
    · obtain ⟨positive, ordered⟩ := ends_of_validLease parts.lease (by rw [active]; decide)
      have lease := validLease_of_ends { record.next with lease := .grace } nofun positive ordered
      exact { parts.next more with lease := lease }
    · exact released_valid parts more
  · split
    · exact parts
    · exact released_valid parts more
  · exact parts

theorem conflicted_valid {context : Text} (given : context ≠ []) :
    ValidParts (record.conflicted context) :=
  { parts.next more with conflict := by simpa [validConflict, Record.conflicted] using given }

theorem published_valid {target : Digest} {recordNotAfter : Int64} (timely : Timely seconds now)
    (later : seconds * 1000 < recordNotAfter) :
    ValidParts (record.published target recordNotAfter) := by
  have positive : 0 ≤ recordNotAfter := by
    have above := timely.seconds_ge
    have below := timely.seconds_le
    grind
  exact { parts.next more with notAfter := positive }

theorem transferred_valid {successor : Text} (given : successor ≠ []) :
    ValidParts (record.transferred successor) :=
  { parts.next more with authority := given }

theorem scheduled_valid (policies : record.recoveryPolicyRev ≠ lastRevision)
    (timely : Timely seconds now) (schedules : schedules record now op = true) :
    ValidParts (record.scheduled op) := by
  simp only [Naming.schedules, Bool.and_eq_true, beq_iff_eq, decide_eq_true_eq] at schedules
  obtain ⟨⟨⟨⟨⟨⟨-, -⟩, revision⟩, least⟩, most⟩, activates⟩, -⟩ := schedules
  have within := delayWithin_milliseconds least most
  obtain ⟨low, high⟩ := delayWithin_bounds within
  have due : 0 < op.policyActivatesAt := by
    have above := timely.now_ge
    have below := timely.now_le
    grind
  have pending : validPendingPolicy (record.scheduled op) = true := by
    unfold validPendingPolicy
    split
    · next none =>
      have exhausted : record.recoveryPolicyRev + 1 = 0 := revision.symm.trans none
      unfold lastRevision at policies
      grind
    have above : record.recoveryPolicyRev < op.policyRevision := by
      unfold lastRevision at policies
      grind
    simp [Record.scheduled, Record.next, above, within, due]
  exact { parts.next more with scheduled := pending }

theorem activated_valid (pending : record.pendingPolicyRev ≠ 0) (stable : record.recovery = .stable) :
    ValidParts record.activated := by
  have waiting := parts.scheduled
  simp only [validPendingPolicy, pending, if_false, Bool.and_eq_true, decide_eq_true_eq] at waiting
  obtain ⟨⟨-, within⟩, -⟩ := waiting
  have effective : validEffectivePolicy record.activated = true := by
    simpa [validEffectivePolicy, Record.activated, pending] using within
  have recovery : validRecovery record.activated = true := by
    have settled := parts.recovery
    rw [validRecovery, stable] at settled
    rw [validRecovery]
    simpa [Record.activated, Record.next, stable] using settled
  exact { parts.next more with effective := effective, scheduled := rfl, recovery := recovery }

end Successors

/-- What an authorization that starts a recovery says. -/
theorem starts_parts (starting : starts suite record now authorization = true) :
    record.recoveryPolicy ≠ Digest.zero ∧ authorization.policyDigest = record.recoveryPolicy ∧
      authorization.startedAt ≤ now ∧ now - authorization.startedAt ≤ startWindow := by
  simp only [starts, Bool.and_eq_true, beq_iff_eq, bne_iff_ne, decide_eq_true_eq] at starting
  obtain ⟨⟨⟨⟨⟨⟨⟨-, -⟩, effective⟩, digest⟩, -⟩, begun⟩, window⟩, -⟩ := starting
  exact ⟨effective, digest, begun, window⟩

section Recoveries

variable (parts : ValidParts record) (more : record.revision ≠ lastRevision)

include parts more

theorem recovering_valid (timely : Timely seconds now)
    (starting : starts suite record now authorization = true)
    (bounded : authorization.Bounded record.recoveryPolicyDelay) :
    ValidParts (record.recovering authorization) := by
  obtain ⟨effective, -, begun, -⟩ := starts_parts starting
  obtain ⟨revised, low, high⟩ := effective_delay parts effective
  have lasts := bounded.lasts
  have started := bounded.started
  have last := timely.now_le
  have later : authorization.startedAt < authorization.completesAt := by grind
  have recovery : validRecovery (record.recovering authorization) = true := by
    simp [validRecovery, Record.recovering, Record.next, later, started, bounded.operation,
      bounded.successor, effective,
      revised, lasts]
  exact { parts.next more with recovery := recovery }

theorem cleared_valid : ValidParts record.cleared.next :=
  { parts.next more with recovery := rfl }

theorem completed_valid : ValidParts record.completed.next :=
  { parts.next more with
    recovery := rfl, authority := hexText_ne_nil _, notAfter := Int64.le_refl 0, conflict := rfl }

theorem resumed_valid (timely : Timely seconds now) (plain : record.conflictIdentifier = [])
    (resumes : resumes record now op = true) : ValidParts (record.resumed op) := by
  simp only [Naming.resumes, Bool.and_eq_true, beq_iff_eq, bne_iff_ne, decide_eq_true_eq] at resumes
  have positive : 0 ≤ op.recordNotAfter := by
    have above := timely.now_ge
    grind
  have conflict : validConflict (record.resumed op) = true := by
    simp [validConflict, Record.resumed, Record.next, plain]
  exact { parts.next more with notAfter := positive, conflict := conflict }

end Recoveries

/-! ## One transition -/

/-- The authorization of a recovery is one that `authorize` gave, for a policy that has the
delay it was scheduled with. -/
def Presented (suite : Suite) (record : Record) (op : Op) : Prop :=
  op.kind = .startRecovery ∨ op.kind = .cancelRecovery ∨ op.kind = .completeRecovery →
    ∃ policy proof, RecoveryPolicy.authorize suite policy proof = .ok op.recoveryAuthorization ∧
      (policy.digest suite = record.recoveryPolicy → milliseconds policy.delay = record.recoveryPolicyDelay)

/-- The clock is an ordinary one, no counter of the Record is exhausted, and a Record that
is resumed has no conflict identifier left from a conflict before its recovery. -/
structure Ordinary (suite : Suite) (current : Option Record) (seconds now : Int64) (op : Op) : Prop where
  timely : Timely seconds now
  counted : ∀ record, current = some record →
    record.revision ≠ lastRevision ∧ record.recoveryPolicyRev ≠ lastRevision
  plain : op.kind = .resumeRecovery → ∀ record, current = some record → record.conflictIdentifier = []
  presented : ∀ record, current = some record → Presented suite record op

/-- Lexicographic order of generation and revision. -/
def Record.Before (first second : Record) : Prop :=
  first.generation < second.generation ∨ first.generation = second.generation ∧ first.revision < second.revision

/-- Why the Authority of a Record may change. -/
def MayChange (record : Record) (now : Int64) (op : Op) : Prop :=
  op.kind = .claim ∧ record.lease = .released ∨
    (op.kind = .rotate ∨ op.kind = .transfer) ∧ op.authority = record.authority ∨
    op.kind = .completeRecovery ∧ record.recovery = .pending ∧ record.recoveryExpiresAt ≤ now

/-- What an accepted operation gives. -/
structure Safe (current : Option Record) (now : Int64) (op : Op) (result : Record) : Prop where
  valid : validRecord result = true
  order : ∀ record, current = some record → record.Before result ∨ op.kind = .advance ∧ result = record
  binding : ∀ record, current = some record → result.name = record.name ∧
    (result.generation = record.generation →
      result.parentName = record.parentName ∧ result.parentGeneration = record.parentGeneration)
  authority : ∀ record, current = some record → result.authority ≠ record.authority → MayChange record now op
  child : op.kind = .claim ∨ op.kind = .renew → result.parentName ≠ [] →
    ∃ parent, op.parents.head? = some parent ∧ boundTo result parent = true ∧
      result.leaseExpiresAt ≤ parent.leaseExpiresAt ∧ result.graceExpiresAt ≤ parent.graceExpiresAt

theorem before_of_next (same : result.generation = record.generation) (next : result.revision = record.revision + 1)
    (more : record.revision ≠ lastRevision) : record.Before result := by
  refine .inr ⟨same.symm, ?_⟩
  rw [next]
  exact (revision_next more).2

/-- What a Record is bound to. -/
def Record.binding (record : Record) :=
  (record.generation, record.name, record.parentName, record.parentGeneration)

/-- An operation on a Record that keeps its generation and its binding. -/
theorem Safe.of_next (parts : ValidParts result) (more : record.revision ≠ lastRevision)
    (revision : result.revision = record.revision + 1) (binding : result.binding = record.binding)
    (authority : result.authority ≠ record.authority → MayChange record now op)
    (neither : ¬(op.kind = .claim ∨ op.kind = .renew)) : Safe (some record) now op result := by
  simp only [Record.binding, Prod.mk.injEq] at binding
  obtain ⟨generation, name, parent, parentGeneration⟩ := binding
  refine ⟨validRecord_iff.2 parts, ?_, ?_, ?_, fun either => absurd either neither⟩
  · rintro _ ⟨⟩
    exact .inl (before_of_next generation revision more)
  · rintro _ ⟨⟩
    exact ⟨name, fun _ => ⟨parent, parentGeneration⟩⟩
  · rintro _ ⟨⟩
    exact authority

theorem kind_neither {kind : Kind} (same : op.kind = kind) (claim : kind ≠ .claim) (renew : kind ≠ .renew) :
    ¬(op.kind = .claim ∨ op.kind = .renew) := by
  rw [same]
  exact not_or.2 ⟨claim, renew⟩

/-- The same of an operation that keeps the Authority as well. -/
theorem Safe.of_same {kind : Kind} (parts : ValidParts result) (more : record.revision ≠ lastRevision)
    (revision : result.revision = record.revision + 1) (binding : result.binding = record.binding)
    (authority : result.authority = record.authority) (same : op.kind = kind) (claim : kind ≠ .claim)
    (renew : kind ≠ .renew) : Safe (some record) now op result :=
  .of_next parts more revision binding (fun changed => absurd authority changed) (kind_neither same claim renew)

/-- The authorization of a recovery is bounded by the delay of the Record's policy. -/
theorem Presented.bounded (presented : Presented suite record op)
    (kind : op.kind = .startRecovery ∨ op.kind = .cancelRecovery ∨ op.kind = .completeRecovery)
    (digest : op.recoveryAuthorization.policyDigest = record.recoveryPolicy) :
    op.recoveryAuthorization.Bounded record.recoveryPolicyDelay := by
  obtain ⟨policy, proof, authorized, delay⟩ := presented kind
  have bounded := authorize_bounded authorized
  obtain ⟨-, -, fits, -, same⟩ := authorize_eq_ok authorized
  simp only [proofMatches, Bool.and_eq_true, beq_iff_eq] at fits
  have named : op.recoveryAuthorization.policyDigest = policy.digest suite := by
    rw [same]
    exact fits.1.1.1.1.1.1.1
  rwa [delay (named.symm.trans digest)] at bounded

theorem matching_parts
    (same : matchingPendingRecovery suite record authorization operation = true) :
    authorization.policyDigest = record.recoveryPolicy ∧ authorization.operationID = record.recoveryOperation ∧
      authorization.startedAt = record.recoveryStartedAt ∧ authorization.completesAt = record.recoveryExpiresAt := by
  simp only [matchingPendingRecovery, Bool.and_eq_true, beq_iff_eq] at same
  obtain ⟨⟨⟨⟨⟨⟨-, digest⟩, -⟩, operation⟩, -⟩, started⟩, completes⟩ := same
  exact ⟨digest, operation, started, completes⟩

/-- A recovery can only be completed or cancelled while one is pending. -/
theorem pending_of_matching (parts : ValidParts record) (presented : Presented suite record op)
    (kind : op.kind = .startRecovery ∨ op.kind = .cancelRecovery ∨ op.kind = .completeRecovery)
    (same : matchingPendingRecovery suite record op.recoveryAuthorization operation = true) :
    record.recovery = .pending := by
  obtain ⟨digest, named, -, -⟩ := matching_parts same
  have bounded := presented.bounded kind digest
  cases state : record.recovery with
  | pending => rfl
  | stable =>
    have settled := parts.recovery
    rw [validRecovery, state] at settled
    simp only [Bool.and_eq_true, beq_iff_eq] at settled
    exact absurd (named.trans settled.1.2) bounded.operation

theorem claimed_child (lineage : validateParents op.name op.parents seconds = .ok parent)
    (bound : (claimed continuity op parent (endsOf seconds op policy parent)).parentName ≠ []) :
    ∃ above, op.parents.head? = some above ∧
      boundTo (claimed continuity op parent (endsOf seconds op policy parent)) above = true ∧
      (endsOf seconds op policy parent).1 ≤ above.leaseExpiresAt ∧
      (endsOf seconds op policy parent).2 ≤ above.graceExpiresAt := by
  cases parent with
  | none => exact absurd rfl bound
  | some parent =>
    obtain ⟨⟨rest, parents⟩, -, -, -⟩ := validateParents_eq_some lineage
    refine ⟨parent, by rw [parents]; rfl, ?_, endsOf_le_parent seconds op policy parent⟩
    simp [boundTo, claimed]

theorem renewed_child (lineage : validateParents op.name op.parents seconds = .ok parent)
    (same : sameParent record parent = true) (bound : record.parentName ≠ []) :
    ∃ above, op.parents.head? = some above ∧ boundTo record above = true ∧
      (endsOf seconds op policy parent).1 ≤ above.leaseExpiresAt ∧
      (endsOf seconds op policy parent).2 ≤ above.graceExpiresAt := by
  have filled : record.parentName.isEmpty = false := List.isEmpty_eq_false_iff.2 bound
  cases parent with
  | none => simp [sameParent, filled] at same
  | some parent =>
    obtain ⟨⟨rest, parents⟩, -, -, -⟩ := validateParents_eq_some lineage
    refine ⟨parent, by rw [parents]; rfl, ?_, endsOf_le_parent seconds op policy parent⟩
    simpa [sameParent, filled] using same

theorem Safe.of_claim (name : parse op.name = some op.name)
    (authority : op.authority ≠ []) (nonzero : op.generation ≠ 0)
    (released : ∀ record, current = some record → Stands record op ∧ record.lease = .released ∧
      op.generation = record.generation + 1)
    (kind : op.kind = .claim) (lineage : validateParents op.name op.parents seconds = .ok parent)
    (fit : fits seconds (endsOf seconds op policy parent) = true) (timely : Timely seconds now) :
    Safe current now op (claimed continuity op parent (endsOf seconds op policy parent)) where
  valid := validRecord_iff.2 (claimed_valid name authority nonzero lineage fit timely)
  order := by
    intro record held
    obtain ⟨-, -, generation⟩ := released record held
    refine .inl (.inl ?_)
    rw [show (claimed continuity op parent (endsOf seconds op policy parent)).generation = op.generation from rfl,
      generation]
    grind
  binding := by
    intro record held
    obtain ⟨stands, -, generation⟩ := released record held
    refine ⟨stands.name.symm, fun same => ?_⟩
    have next : record.generation + 1 = record.generation := generation.symm.trans same
    grind
  authority := fun record held _ => .inl ⟨kind, (released record held).2.1⟩
  child := fun _ bound => claimed_child lineage bound

theorem advanced_keeps (record : Record) (seconds : Int64) : record.advanced seconds = record ∨
      (record.advanced seconds).revision = record.revision + 1 ∧
        (record.advanced seconds).binding = record.binding ∧
        (record.advanced seconds).authority = record.authority := by
  unfold Record.advanced
  split
  · split
    · exact .inl rfl
    · split
      · exact .inr ⟨rfl, rfl, rfl⟩
      · exact .inr ⟨rfl, rfl, rfl⟩
  · split
    · exact .inl rfl
    · exact .inr ⟨rfl, rfl, rfl⟩
  · exact .inl rfl

theorem Safe.of_advance (parts : ValidParts record) (more : record.revision ≠ lastRevision)
    (kind : op.kind = .advance) :
    Safe (some record) now op (record.advanced seconds) := by
  rcases advanced_keeps record seconds with same | ⟨revision, binding, authority⟩
  · rw [same]
    refine ⟨validRecord_iff.2 parts, ?_, ?_, ?_, fun either => absurd either (kind_neither kind nofun nofun)⟩
    · rintro _ ⟨⟩
      exact .inr ⟨kind, rfl⟩
    · rintro _ ⟨⟩
      exact ⟨rfl, fun _ => ⟨rfl, rfl⟩⟩
    · rintro _ ⟨⟩ changed
      exact absurd rfl changed
  · exact .of_same (advanced_valid parts more) more revision binding authority kind nofun nofun

theorem Stands.parts (stands : Stands record op) : ValidParts record := validRecord_iff.1 stands.valid

theorem Ordinary.more (ordinary : Ordinary suite (some record) seconds now op) :
    record.revision ≠ lastRevision :=
  (ordinary.counted record rfl).1

/-- **One transition.**  An operation that is accepted in ordinary circumstances is safe. -/
theorem Applies.safe (applies : Applies suite seconds now op policy current result)
    (name : parse op.name = some op.name) (ordinary : Ordinary suite current seconds now op) :
    Safe current now op result := by
  have timely := ordinary.timely
  cases applies with
  | first kind authority generation lineage fit =>
    exact .of_claim name authority (by rw [generation]; decide) nofun kind lineage fit timely
  | reclaim kind authority stands released nonzero generation lineage fit =>
    refine .of_claim name authority nonzero ?_ kind lineage fit timely
    rintro _ ⟨⟩
    exact ⟨stands, released, generation⟩
  | renew kind stands lease within consistent stable authority lineage bound fit =>
    refine ⟨validRecord_iff.2 (renewed_valid stands.parts ordinary.more fit timely), ?_, ?_, ?_, ?_⟩
    · rintro _ ⟨⟩
      exact .inl (before_of_next rfl rfl ordinary.more)
    · rintro _ ⟨⟩
      exact ⟨rfl, fun _ => ⟨rfl, rfl⟩⟩
    · rintro _ ⟨⟩ changed
      exact absurd rfl changed
    · intro _ child
      exact renewed_child lineage bound child
  | release kind stands =>
    have parts := released_valid stands.parts ordinary.more
    exact .of_same parts ordinary.more rfl rfl rfl kind nofun nofun
  | advance kind stands => exact .of_advance stands.parts ordinary.more kind
  | conflict kind stands lease consistent context =>
    have parts := conflicted_valid stands.parts ordinary.more context
    exact .of_same parts ordinary.more rfl rfl rfl kind nofun nofun
  | publish kind stands authority target later =>
    exact .of_same (published_valid stands.parts ordinary.more timely later) ordinary.more rfl rfl rfl kind
      nofun nofun
  | rotate kind stands authority successor =>
    refine .of_next (transferred_valid stands.parts ordinary.more successor) ordinary.more rfl rfl
      (fun _ => .inr (.inl ⟨kind, authority⟩)) ?_
    rcases kind with kind | kind
    · exact kind_neither kind nofun nofun
    · exact kind_neither kind nofun nofun
  | @schedule record kind stands live schedules =>
    have policies := (ordinary.counted record rfl).2
    have parts := scheduled_valid stands.parts ordinary.more policies timely schedules
    exact .of_same parts ordinary.more rfl rfl rfl kind nofun nofun
  | activate kind stands pending due stable =>
    have parts := activated_valid stands.parts ordinary.more pending stable
    exact .of_same parts ordinary.more rfl rfl rfl kind nofun nofun
  | @start record kind stands live starts =>
    have bounded := (ordinary.presented record rfl).bounded (.inl kind) (starts_parts starts).2.1
    have parts := recovering_valid stands.parts ordinary.more timely starts bounded
    exact .of_same parts ordinary.more rfl rfl rfl kind nofun nofun
  | cancel kind stands =>
    have parts := cleared_valid stands.parts ordinary.more
    exact .of_same parts ordinary.more rfl rfl rfl kind nofun nofun
  | @complete record kind stands same due =>
    have pending := pending_of_matching stands.parts (ordinary.presented record rfl) (.inr (.inr kind)) same
    exact .of_next (completed_valid stands.parts ordinary.more) ordinary.more rfl rfl
      (fun _ => .inr (.inr ⟨kind, pending, due⟩)) (kind_neither kind nofun nofun)
  | @resume record kind stands resumes =>
    have plain := ordinary.plain kind record rfl
    have parts := resumed_valid stands.parts ordinary.more timely plain resumes
    exact .of_same parts ordinary.more rfl rfl rfl kind nofun nofun

/-! ## Histories of one Name -/

/-- An operation that is tried at a time. -/
structure Attempt where
  seconds : Int64
  now : Int64
  op : Op

/-- An operation that was accepted, with the Record before it. -/
structure Decision where
  attempt : Attempt
  before : Option Record

structure History where
  record : Option Record
  /-- The accepted operations, newest first. -/
  log : List Decision

def History.start (record : Option Record) : History := ⟨record, []⟩

/-- An operation that is refused changes nothing. -/
def History.step (suite : Suite) (policy : Policy) (history : History) (attempt : Attempt) : Option History :=
  match apply suite history.record attempt.seconds attempt.now attempt.op policy with
  | .ok result => some ⟨some result, ⟨attempt, history.record⟩ :: history.log⟩
  | .error _ => some history

def Kind.ofRecovery (kind : Kind) : Prop :=
  kind = .startRecovery ∨ kind = .cancelRecovery ∨ kind = .completeRecovery

/-- The last of the recovery operations in a log is this initiation. -/
def LastInitiation (log : List Decision) (start : Decision) : Prop :=
  ∃ between older, log = between ++ start :: older ∧ start.attempt.op.kind = .startRecovery ∧
    ∀ decision ∈ between, ¬decision.attempt.op.kind.ofRecovery

/-- A completion follows an initiation that no other completion, cancellation or initiation
stands after, and that was accepted at least the delay of the policy earlier, but for the
window in which an initiation may be late. -/
def Initiated (completion : Decision) (earlier : List Decision) : Prop :=
  ∃ start record, LastInitiation earlier start ∧ start.before = some record ∧
    start.attempt.op.recoveryAuthorization.operationID = completion.attempt.op.recoveryAuthorization.operationID ∧
    start.attempt.now.toInt + record.recoveryPolicyDelay.toInt ≤ completion.attempt.now.toInt + startWindow.toInt

/-- Every completion of a log follows its own initiation. -/
def EachInitiated : List Decision → Prop
  | [] => True
  | decision :: earlier =>
    (decision.attempt.op.kind = .completeRecovery → Initiated decision earlier) ∧ EachInitiated earlier

/-- The initiation that a pending recovery comes from. -/
def PendingFrom (log : List Decision) (record : Record) : Prop :=
  ∃ start before, LastInitiation log start ∧ start.before = some before ∧
    start.attempt.op.recoveryAuthorization.operationID = record.recoveryOperation ∧
    start.attempt.now.toInt ≤ record.recoveryStartedAt.toInt + startWindow.toInt ∧
    record.recoveryStartedAt.toInt + before.recoveryPolicyDelay.toInt = record.recoveryExpiresAt.toInt

structure History.Sound (history : History) : Prop where
  valid : ∀ record, history.record = some record → validRecord record = true
  pending : ∀ record, history.record = some record → record.recovery = .pending → PendingFrom history.log record
  initiated : EachInitiated history.log

variable {log : List Decision}

theorem PendingFrom.cons {decision : Decision} (from_ : PendingFrom log record)
    (other : ¬decision.attempt.op.kind.ofRecovery) (operation : result.recoveryOperation = record.recoveryOperation)
    (started : result.recoveryStartedAt = record.recoveryStartedAt)
    (expires : result.recoveryExpiresAt = record.recoveryExpiresAt) : PendingFrom (decision :: log) result := by
  obtain ⟨start, before, ⟨between, older, rfl, kind, none⟩, held, named, window, ends⟩ := from_
  refine ⟨start, before, ⟨decision :: between, older, rfl, kind, ?_⟩, held, operation ▸ named, started ▸ window,
    started ▸ expires ▸ ends⟩
  intro later member
  rcases List.mem_cons.1 member with rfl | among
  · exact other
  · exact none later among

/-- Up to a month can be added to an ordinary time. -/
theorem toInt_add_month {time duration : Int64} (positive : 0 ≤ time) (early : time ≤ 9223372034262775807)
    (least : 0 ≤ duration) (most : duration ≤ 2592000000) :
    (time + duration).toInt = time.toInt + duration.toInt := by
  rw [Int64.le_iff_toInt_le] at positive early least most
  have zero : (0 : Int64).toInt = 0 := by decide
  have last : (9223372034262775807 : Int64).toInt = 9223372034262775807 := by decide
  have month : (2592000000 : Int64).toInt = 2592000000 := by decide
  rw [Int64.toInt_add, Int.bmod_eq_of_le]
  · omega
  · omega

/-- How late an initiation was, and when its recovery ends. -/
theorem initiation_times (timely : Timely seconds now) (parts : ValidParts record)
    (starting : starts suite record now authorization = true)
    (bounded : authorization.Bounded record.recoveryPolicyDelay) :
    now.toInt ≤ authorization.startedAt.toInt + startWindow.toInt ∧
      authorization.startedAt.toInt + record.recoveryPolicyDelay.toInt = authorization.completesAt.toInt := by
  obtain ⟨effective, -, begun, window⟩ := starts_parts starting
  obtain ⟨-, low, high⟩ := effective_delay parts effective
  have lasts := bounded.lasts
  have started := bounded.started
  have last := timely.now_le
  have positive : 0 ≤ authorization.startedAt := by grind
  have early : authorization.startedAt ≤ 9223372034262775807 := by grind
  have late : now ≤ authorization.startedAt + startWindow := by
    unfold startWindow at window ⊢
    grind
  have ends : authorization.startedAt + record.recoveryPolicyDelay = authorization.completesAt := by grind
  constructor
  · rw [← toInt_add_month positive early (by decide) (by decide)]
    exact Int64.le_iff_toInt_le.1 late
  · rw [← toInt_add_month positive early (by grind) high, ends]

/-- The recovery that an initiation begins. -/
theorem pendingFrom_start (start : Decision) (kind : start.attempt.op.kind = .startRecovery)
    (held : start.before = some record) (timely : Timely start.attempt.seconds start.attempt.now)
    (parts : ValidParts record)
    (starting : starts suite record start.attempt.now start.attempt.op.recoveryAuthorization = true)
    (bounded : start.attempt.op.recoveryAuthorization.Bounded record.recoveryPolicyDelay) :
    PendingFrom (start :: log) (record.recovering start.attempt.op.recoveryAuthorization) := by
  obtain ⟨late, ends⟩ := initiation_times timely parts starting bounded
  have none : ∀ decision ∈ ([] : List Decision), ¬decision.attempt.op.kind.ofRecovery :=
    fun _ among => absurd among List.not_mem_nil
  exact ⟨start, record, ⟨[], log, rfl, kind, none⟩, held, rfl, late, ends⟩

/-- Only a conflict keeps a pending recovery, and only an initiation begins one. -/
theorem Applies.pending (applies : Applies suite seconds now op policy current result)
    (pending : result.recovery = .pending) :
    (∃ record, current = some record ∧ op.kind = .conflict ∧ record.lease ≠ .released ∧
        result = record.conflicted op.conflictContext) ∨
      ∃ record, current = some record ∧ op.kind = .startRecovery ∧ Stands record op ∧
        liveLease record seconds = .ok () ∧ starts suite record now op.recoveryAuthorization = true ∧
        result = record.recovering op.recoveryAuthorization := by
  cases applies with
  | first => cases pending
  | reclaim => cases pending
  | renew kind stands lease within consistent stable => cases stable.symm.trans pending
  | release kind stands authority lease consistent stable => cases stable.symm.trans pending
  | @advance record kind stands stable =>
    have kept : (record.advanced seconds).recovery = record.recovery := by
      unfold Record.advanced
      split
      · split
        · rfl
        · split <;> rfl
      · split <;> rfl
      · rfl
    cases stable.symm.trans (kept.symm.trans pending)
  | @conflict record kind stands lease => exact .inl ⟨record, rfl, kind, lease, rfl⟩
  | publish kind stands authority target later live => cases (liveLease_eq_ok live).2.1.symm.trans pending
  | rotate kind stands authority successor live => cases (liveLease_eq_ok live).2.1.symm.trans pending
  | schedule kind stands live => cases (liveLease_eq_ok live).2.1.symm.trans pending
  | activate kind stands waiting due stable => cases stable.symm.trans pending
  | @start record kind stands live starts => exact .inr ⟨record, rfl, kind, stands, live, starts, rfl⟩
  | cancel => cases pending
  | complete => cases pending
  | resume kind stands resumes =>
    simp only [Naming.resumes, Bool.and_eq_true, beq_iff_eq] at resumes
    cases resumes.1.1.1.1.1.1.symm.trans pending

section Pending

variable {history : History} {attempt : Attempt} (sound : history.Sound)
  (applies : Applies suite attempt.seconds attempt.now attempt.op policy history.record result)
  (ordinary : Ordinary suite history.record attempt.seconds attempt.now attempt.op)

include sound applies ordinary

/-- What an accepted operation leaves of a recovery. -/
theorem Applies.pendingFrom (pending : result.recovery = .pending) :
    PendingFrom (⟨attempt, history.record⟩ :: history.log) result := by
  obtain ⟨record, held, kind, -, rfl⟩ | ⟨record, held, kind, stands, -, starts, rfl⟩ := applies.pending pending
  · refine (sound.pending record held pending).cons ?_ rfl rfl rfl
    rintro (other | other | other) <;> cases kind.symm.trans other
  · have bounded := (ordinary.presented record held).bounded (.inl kind) (starts_parts starts).2.1
    exact pendingFrom_start ⟨attempt, history.record⟩ kind held ordinary.timely stands.parts starts bounded

/-- A completion follows its initiation. -/
theorem Applies.initiated (kind : attempt.op.kind = .completeRecovery) :
    Initiated ⟨attempt, history.record⟩ history.log := by
  generalize held : history.record = current at applies ordinary
  cases applies with
  | @complete record _ stands same due =>
    have pending := pending_of_matching stands.parts (ordinary.presented record rfl) (.inr (.inr kind)) same
    obtain ⟨start, before, last, before_eq, named, window, ends⟩ := sound.pending record held pending
    obtain ⟨-, operation, -, -⟩ := matching_parts same
    refine ⟨start, before, last, before_eq, named.trans operation.symm, ?_⟩
    have late := Int64.le_iff_toInt_le.1 due
    dsimp only
    omega
  | rotate other =>
    rcases other with other | other
    · cases kind.symm.trans other
    · cases kind.symm.trans other
  | _ other => cases kind.symm.trans other

end Pending

/-- The condition of a step of a history. -/
def OrdinaryStep (suite : Suite) (history : History) (attempt : Attempt) : Prop :=
  Ordinary suite history.record attempt.seconds attempt.now attempt.op

theorem History.Sound.step {history later : History} {attempt : Attempt} (sound : history.Sound)
    (ordinary : OrdinaryStep suite history attempt) (stepped : history.step suite policy attempt = some later) :
    later.Sound := by
  rw [History.step] at stepped
  split at stepped
  · next result accepted =>
    cases stepped
    obtain ⟨name, applies⟩ := apply_applies accepted
    refine ⟨?_, ?_, fun kind => applies.initiated sound ordinary kind, sound.initiated⟩
    · rintro _ ⟨⟩
      exact (applies.safe name ordinary).valid
    · rintro _ ⟨⟩ pending
      exact applies.pendingFrom sound ordinary pending
  · cases stepped
    exact sound

/-- **Record lifecycle.**  Every operation that is accepted in ordinary circumstances is
safe, and in every history of such operations each completion of a recovery follows its
own initiation. -/
theorem record_lifecycle_safe (suite : Suite) (policy : Policy) :
    (∀ current seconds now op result, Ordinary suite current seconds now op →
      apply suite current seconds now op policy = .ok result → Safe current now op result) ∧
    ∀ start events, (∀ record, start = some record → validRecord record = true ∧ record.recovery = .stable) →
      Along (History.step suite policy) (OrdinaryStep suite) (History.start start) events →
      Throughout (History.step suite policy) (fun history => EachInitiated history.log) (History.start start)
        events := by
  constructor
  · intro current seconds now op result ordinary accepted
    obtain ⟨name, applies⟩ := apply_applies accepted
    exact applies.safe name ordinary
  intro start events valid along
  have sound : (History.start start).Sound := by
    refine ⟨fun record held => (valid record held).1, ?_, trivial⟩
    intro record held pending
    cases (valid record held).2.symm.trans pending
  have throughout := along.throughout (fun _ _ _ sound ordinary stepped => sound.step ordinary stepped) sound
  exact throughout.imp fun _ sound => sound.initiated

end Transitions

/-! ## A recovery that is initiated late -/

namespace Late

def leases : Policy := ⟨8640000000000000, 0⟩

def name : Text := [97]

def recovery : RecoveryPolicy where
  network := Digest.filled 9
  name := name
  generation := 1
  revision := 1
  currentAuthority := Digest.filled 1
  threshold := 2
  participants := [Digest.filled 2, Digest.filled 3]
  delay := minimumRecoveryDelay

/-- Two participants sign that the recovery starts at 260200 seconds. -/
def proof : RecoveryProof where
  operation := .initiate
  policyDigest := recovery.digest Suite.transparent
  operationID := Digest.filled 5
  successor := Digest.filled 4
  startedAt := 260200000
  completesAt := 519400000
  signatures := [⟨Digest.filled 2, (Digest.filled 2).bytes ++ (Digest.filled 2).bytes⟩,
    ⟨Digest.filled 3, (Digest.filled 3).bytes ++ (Digest.filled 3).bytes⟩]

def authorization : Authorization := (authorizationOf recovery proof).sealed Suite.transparent

theorem authorized : recovery.authorize Suite.transparent proof = .ok authorization := by decide +kernel

def claim : Op := { kind := .claim, name := name, generation := 1, authority := hexText (Digest.filled 1) }

def schedule : Op where
  kind := .scheduleRecoveryPolicy
  name := name
  expectedGeneration := 1
  expectedRevision := 1
  authority := hexText (Digest.filled 1)
  policyDigest := recovery.digest Suite.transparent
  policyRevision := 1
  policyDelay := minimumRecoveryDelay
  policyActivatesAt := 260200000

def activate : Op := { kind := .activateRecoveryPolicy, name := name, expectedGeneration := 1, expectedRevision := 2 }

def initiate : Op where
  kind := .startRecovery
  name := name
  expectedGeneration := 1
  expectedRevision := 3
  recoveryAuthorization := authorization

def complete : Op where
  kind := .completeRecovery
  name := name
  expectedGeneration := 1
  expectedRevision := 4
  recoveryAuthorization := authorization

/-- The initiation comes thirty seconds after its start. -/
def attempts : List Attempt :=
  [⟨1000, 1000000, claim⟩, ⟨1000, 1000000, schedule⟩, ⟨260200, 260200000, activate⟩, ⟨260230, 260230000, initiate⟩,
    ⟨519400, 519400000, complete⟩]

/-- A decidable form of the condition for the one authorization of this history. -/
def Plain (history : History) (attempt : Attempt) : Prop :=
  (0 ≤ attempt.seconds ∧ attempt.seconds ≤ 9223372036854775 ∧ 0 ≤ attempt.now ∧ attempt.now ≤ 9223372034262775807) ∧
    attempt.op.kind ≠ .resumeRecovery ∧
    history.record.all (fun record => record.revision != lastRevision && record.recoveryPolicyRev != lastRevision &&
      (attempt.op.recoveryAuthorization != authorization || record.recoveryPolicyDelay == 259200000)) = true ∧
    (attempt.op.kind ≠ .startRecovery ∧ attempt.op.kind ≠ .cancelRecovery ∧ attempt.op.kind ≠ .completeRecovery ∨
      attempt.op.recoveryAuthorization = authorization)

instance (history : History) (attempt : Attempt) : Decidable (Plain history attempt) :=
  inferInstanceAs (Decidable (_ ∧ _))

theorem Plain.ordinary {history : History} {attempt : Attempt} (plain : Plain history attempt) :
    OrdinaryStep Suite.transparent history attempt := by
  obtain ⟨⟨first, second, third, fourth⟩, other, all, presented⟩ := plain
  refine ⟨⟨first, second, third, fourth⟩, ?_, fun kind => absurd kind other, ?_⟩
  · intro record held
    rw [held] at all
    simp only [Option.all_some, Bool.and_eq_true, bne_iff_ne] at all
    exact all.1
  intro record held kind
  rw [held] at all
  simp only [Option.all_some, Bool.and_eq_true, Bool.or_eq_true, bne_iff_ne, beq_iff_eq] at all
  rcases presented with ⟨notStart, notCancel, notComplete⟩ | same
  · rcases kind with kind | kind | kind
    · exact absurd kind notStart
    · exact absurd kind notCancel
    · exact absurd kind notComplete
  refine ⟨recovery, proof, authorized.trans (by rw [same]), fun _ => ?_⟩
  rcases all.2 with differs | delay
  · exact absurd same differs
  · rw [delay]
    decide +kernel

theorem attempts_plain : Along (History.step Suite.transparent leases) Plain
    (History.start none) attempts := by decide +kernel

/-- The last two accepted operations are an initiation and its completion, sooner than the
delay of the policy. -/
def completesEarly (history : History) : Bool :=
  match history.log with
  | completion :: start :: _ =>
    completion.attempt.op.kind == .completeRecovery && start.attempt.op.kind == .startRecovery &&
      start.before.any fun record =>
        decide (completion.attempt.now.toInt < start.attempt.now.toInt + record.recoveryPolicyDelay.toInt)
  | _ => false

end Late

theorem record_lifecycle_safe_late :
    Along (History.step Suite.transparent Late.leases) (OrdinaryStep Suite.transparent)
      (History.start none) Late.attempts ∧
      Throughout (History.step Suite.transparent Late.leases)
        (fun history => EachInitiated history.log) (History.start none)
        Late.attempts := by
  have along := Late.attempts_plain.imp fun _ _ plain => plain.ordinary
  exact ⟨along, (record_lifecycle_safe Suite.transparent Late.leases).2 none Late.attempts nofun along⟩

/-- A recovery is completed thirty seconds before its policy's delay has passed since its
initiation was accepted. -/
theorem recovery_completes_early :
    Along (History.step Suite.transparent Late.leases) (OrdinaryStep Suite.transparent)
      (History.start none) Late.attempts ∧
      ∃ history, run (History.step Suite.transparent Late.leases) (History.start none) Late.attempts = some history ∧
        history.log.length = 5 ∧ Late.completesEarly history = true := by
  refine ⟨Late.attempts_plain.imp fun _ _ plain => plain.ordinary, ?_⟩
  have ends : (run (History.step Suite.transparent Late.leases) (History.start none) Late.attempts).any
      (fun history => decide (history.log.length = 5) && Late.completesEarly history) = true := by decide +kernel
  obtain ⟨history, ran, early⟩ := (Option.any_eq_true _ _).1 ends
  rw [Bool.and_eq_true, decide_eq_true_eq] at early
  exact ⟨history, ran, early⟩

end Ardents.Naming
