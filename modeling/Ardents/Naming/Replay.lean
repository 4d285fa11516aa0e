/-
# Naming.Replay — what a control decides, and that it decides it again

A control decides on the Records it has in memory, at the nanosecond it is asked; a restart
and an installation decide on other Records, and a restart at the milliseconds of the
journal.  Three facts carry a decision from the one to the others.

* `transitionAt_eq_some` — a decision is the claim of a child below a live parent, or one of
  nine transitions of an unreleased Record.
* `Shadows.transitionAt` — it reads unreleased Records only, so it comes out alike wherever
  these are the same.  `Shadows` is what a control that was not reopened misses: roots that
  were claimed since, of which it has no Record or a released one.
* `truncated_transitionAt` — it comes out alike at the milliseconds of its time.

`Follows` is a journal whose entries were decided one after the other; `Follows.shadows` and
`Follows.replay` are the three facts along it.
-/
import Ardents.Naming.Installation
import Ardents.Naming.LifecycleSafety

namespace Ardents.Naming

open Lib

set_option autoImplicit false

/-! ## What a control decides -/

/-- The transitions that a control asks for, but for the claim of a child. -/
def Kind.ofControl (kind : Kind) : Prop :=
  kind = .renew ∨ kind = .publish ∨ kind = .release ∨ kind = .transfer ∨ kind = .scheduleRecoveryPolicy ∨
    kind = .resumeRecovery ∨ kind = .startRecovery ∨ kind = .cancelRecovery ∨ kind = .completeRecovery

theorem Kind.ofControl.others {kind : Kind} (control : kind.ofControl) :
    kind ≠ .claim ∧ kind ≠ .advance ∧ kind ≠ .activateRecoveryPolicy := by
  revert control
  cases kind <;> simp [Kind.ofControl]

theorem toOption_eq_some {ε α : Type} {answer : Except ε α} {value : α} :
    answer.toOption = some value ↔ answer = .ok value := by
  cases answer <;> simp [Except.toOption]

variable {setting : Setting} {records other : Records} {operation : ControlOperation} {now : Time}
  {current updated parent : Record} {parents above : List Record}

theorem recoveryKind_eq_some {authorization : Authorization} {kind : Kind}
    (found : recoveryKind operation authorization now = some kind) :
    kind = .startRecovery ∨ kind = .cancelRecovery ∨ kind = .completeRecovery := by
  unfold recoveryKind at found
  repeat' split at found
  all_goals cases found
  · exact .inl rfl
  · exact .inr (.inl rfl)
  · exact .inr (.inr rfl)

theorem carriedAuthorization_eq_some {authorization : Authorization}
    (found : carriedAuthorization setting operation current = some authorization) :
    ∃ policy proof, RecoveryPolicy.authorize setting.suite policy proof = .ok authorization := by
  unfold carriedAuthorization at found
  split at found
  · next policy proof _ =>
    split at found
    · cases found
    · exact ⟨policy, proof, toOption_eq_some.1 found⟩
  · cases found

/-- What the transition of an operation on a Record is. -/
structure Requests (setting : Setting) (operation : ControlOperation) (now : Time) (op : Op) : Prop where
  name : op.name = operation.name
  control : op.kind.ofControl
  authorized : op.kind = .startRecovery ∨ op.kind = .cancelRecovery ∨ op.kind = .completeRecovery →
    ∃ policy proof, RecoveryPolicy.authorize setting.suite policy proof = .ok op.recoveryAuthorization
  later : op.kind = .resumeRecovery → now.unixMilli < op.recordNotAfter

theorem lifecycle_eq_some {op : Op} {threshold : Bool}
    (found : lifecycle setting operation current now = some (op, threshold)) :
    Requests setting operation now op := by
  unfold lifecycle at found
  repeat' split at found
  all_goals cases found
  · exact ⟨rfl, .inl rfl, nofun, nofun⟩
  · exact ⟨rfl, .inr (.inl rfl), nofun, nofun⟩
  · exact ⟨rfl, .inr (.inr (.inl rfl)), nofun, nofun⟩
  · exact ⟨rfl, .inr (.inr (.inr (.inl rfl))), nofun, nofun⟩
  · exact ⟨rfl, .inr (.inr (.inr (.inr (.inl rfl)))), nofun, nofun⟩
  · next early =>
    refine ⟨rfl, .inr (.inr (.inr (.inr (.inr (.inl rfl))))), nofun, fun _ => ?_⟩
    exact Int64.not_le.1 (not_or.1 early).2
  next authorization carried _ kind found =>
  have step := recoveryKind_eq_some found
  refine ⟨rfl, .inr (.inr (.inr (.inr (.inr (.inr step))))), fun _ => carriedAuthorization_eq_some carried, ?_⟩
  intro resume
  rcases step with other | other | other <;> cases other.symm.trans resume

/-- Only a recovery is authorized by participants. -/
theorem lifecycle_threshold {op : Op} (found : lifecycle setting operation current now = some (op, true)) :
    operation.kind = .recovery := by
  unfold lifecycle at found
  split at found
  all_goals first
    | assumption
    | repeat' split at found
      all_goals cases found

/-- The transitions that a recovery asks for. -/
theorem lifecycle_recovery {op : Op} {threshold : Bool} (kind : operation.kind = .recovery)
    (found : lifecycle setting operation current now = some (op, threshold)) :
    op.kind = .resumeRecovery ∨ op.kind = .startRecovery ∨ op.kind = .cancelRecovery ∨ op.kind = .completeRecovery := by
  unfold lifecycle at found
  rw [kind] at found
  dsimp only at found
  repeat' split at found
  all_goals cases found
  · exact .inl rfl
  · next step => exact .inr (recoveryKind_eq_some step)

/-- A delegation that is accepted: the claim of a child, signed by the parent it names. -/
structure Delegates (setting : Setting) (records : Records) (operation : ControlOperation) (now : Time)
    (parent : Record) (above : List Record) (updated : Record) : Prop where
  kind : operation.kind = .delegate
  found : records.find operation.parentName = some parent
  lineage : lineage records parent now = some above
  signed : signedTransition setting parent (operation.childClaim (parent :: above) now) operation.authorityProof = true
  name : parse operation.name = some operation.name
  applies : Applies setting.suite now.unixSeconds (now.unixSeconds * 1000)
    (operation.childClaim (parent :: above) now) setting.policy none updated

/-- An operation on a Record that is accepted. -/
structure Advances (setting : Setting) (records : Records) (operation : ControlOperation) (now : Time)
    (current : Record) (parents : List Record) (op : Op) (updated : Record) : Prop where
  kind : operation.kind ≠ .delegate
  found : records.find operation.name = some current
  lineage : lineage records current now = some parents
  requests : Requests setting operation now op
  recovers : operation.kind = .recovery → op.kind = .resumeRecovery ∨ op.kind = .startRecovery ∨
    op.kind = .cancelRecovery ∨ op.kind = .completeRecovery
  entitled : lifecycle setting operation current now = some (op, true) ∨
    lifecycle setting operation current now = some (op, false) ∧
      signedTransition setting current op operation.authorityProof = true
  applies : ∃ milliseconds, Applies setting.suite now.unixSeconds milliseconds { op with parents := parents }
    setting.policy (some current) updated

/-- The parents of a transition are signed in the claim of a child only. -/
theorem signedTransition_parents {op : Op} {proof : List UInt8} {parents : List Record} (other : op.kind ≠ .claim) :
    signedTransition setting current { op with parents := parents } proof =
      signedTransition setting current op proof := by
  have supported : supportedTransition current { op with parents := parents } = supportedTransition current op := by
    unfold supportedTransition
    dsimp only
    generalize op.kind = kind at other
    cases kind with
    | claim => exact absurd rfl other
    | _ => rfl
  have transcript : ∀ wire, transitionTranscript setting.network wire { op with parents := parents } =
      transitionTranscript setting.network wire op := fun _ => rfl
  simp only [signedTransition, supported, transcript]

theorem applyTransition_eq_some {op : Op} {proof : List UInt8} {seconds : Int64}
    (accepted : applyTransition setting current op proof seconds = some updated) :
    signedTransition setting current op proof = true ∧
      apply setting.suite (if op.kind = .claim then none else some current) seconds (seconds * 1000) op
        setting.policy = .ok updated := by
  unfold applyTransition at accepted
  split at accepted
  · cases accepted
  · next signed => exact ⟨by simpa using signed, toOption_eq_some.1 accepted⟩

theorem delegate_eq_some (accepted : delegate setting records operation now = some updated)
    (kind : operation.kind = .delegate) :
    ∃ parent above, Delegates setting records operation now parent above updated := by
  unfold delegate at accepted
  split at accepted
  · cases accepted
  next parent found =>
  split at accepted
  · cases accepted
  split at accepted
  · cases accepted
  next above lineage =>
  obtain ⟨signed, applied⟩ := applyTransition_eq_some accepted
  obtain ⟨name, applies⟩ := apply_applies applied
  exact ⟨parent, above, kind, found, lineage, signed, name, applies⟩

theorem existing_eq_some (accepted : existing setting records operation current now = some updated)
    (kind : operation.kind ≠ .delegate) (found : records.find operation.name = some current) :
    ∃ parents op, Advances setting records operation now current parents op updated := by
  unfold existing at accepted
  split at accepted
  · next op threshold parents decided lineage =>
    have requests := lifecycle_eq_some decided
    have recovers := fun recovery => lifecycle_recovery recovery decided
    split at accepted
    · next authorized =>
      cases authorized
      exact ⟨parents, op, kind, found, lineage, requests, recovers, .inl decided, now.unixMilli,
        (apply_applies (toOption_eq_some.1 accepted)).2⟩
    next authority =>
    obtain ⟨signed, applied⟩ := applyTransition_eq_some accepted
    have other : op.kind ≠ .claim := by
      intro claim
      rcases requests.control with kind | kind | kind | kind | kind | kind | kind | kind | kind <;>
        cases kind.symm.trans claim
    rw [Bool.not_eq_true] at authority
    rw [signedTransition_parents other] at signed
    rw [if_neg other] at applied
    exact ⟨parents, op, kind, found, lineage, requests, recovers, .inr ⟨authority ▸ decided, signed⟩,
      now.unixSeconds * 1000, (apply_applies applied).2⟩
  · cases accepted

/-- **What a control decides.** -/
theorem transitionAt_eq_some (accepted : transitionAt setting records operation now = some updated) :
    (∃ parent above, Delegates setting records operation now parent above updated) ∨
      ∃ current parents op, Advances setting records operation now current parents op updated := by
  unfold transitionAt at accepted
  split at accepted
  · next kind => exact .inl (delegate_eq_some accepted kind)
  all_goals
    first
    | cases accepted
    | split at accepted
      · cases accepted
      · next kind _ current found =>
        exact .inr ⟨current, existing_eq_some accepted (by rw [kind]; nofun) found⟩

/-! ## What an accepted operation makes of a Record -/

/-- The next revision of a Record, in the same generation and under the same parent. -/
structure Succeeds (current updated : Record) : Prop where
  name : updated.name = current.name
  generation : updated.generation = current.generation
  revision : updated.revision = current.revision + 1
  parentName : updated.parentName = current.parentName
  parentGeneration : updated.parentGeneration = current.parentGeneration

theorem Applies.succeeds {suite : Suite} {seconds now : Int64} {op : Op} {policy : Policy}
    (applies : Applies suite seconds now op policy (some current) updated) (control : op.kind.ofControl) :
    Succeeds current updated := by
  cases applies with
  | reclaim kind => exact absurd kind control.others.1
  | advance kind => exact absurd kind control.others.2.1
  | _ => exact ⟨rfl, rfl, rfl, rfl, rfl⟩

/-- A released Record is settled: no recovery is pending. -/
def Record.Settled (record : Record) : Prop := record.lease = .released → record.recovery = .stable

theorem Applies.settled {suite : Suite} {seconds now : Int64} {op : Op} {policy : Policy} {current : Option Record}
    {updated : Record} (applies : Applies suite seconds now op policy current updated) : updated.Settled := by
  intro released
  cases state : updated.recovery with
  | stable => rfl
  | pending =>
    obtain ⟨record, -, -, lease, rfl⟩ | ⟨record, -, -, -, live, -, rfl⟩ := applies.pending state
    · exact absurd released lease
    · exact absurd released (liveLease_eq_ok live).2.2

/-- No authorization matches a Record without a pending recovery. -/
theorem stable_mismatch {suite : Suite} {record : Record} {authorization : Authorization}
    {operation : RecoveryOperation} (parts : ValidParts record) (stable : record.recovery = .stable)
    (named : authorization.operationID ≠ Digest.zero)
    (same : matchingPendingRecovery suite record authorization operation = true) : False := by
  have settled := parts.recovery
  rw [validRecovery, stable] at settled
  simp only [Bool.and_eq_true, beq_iff_eq] at settled
  exact named ((matching_parts same).2.1.trans settled.1.2)

/-- A Record that an operation is accepted on is not released. -/
theorem Advances.unreleased {op : Op}
    (advances : Advances setting records operation now current parents op updated) (settled : current.Settled)
    (positive : 0 < now.unixMilli) : current.lease ≠ .released := by
  intro released
  obtain ⟨milliseconds, applies⟩ := advances.applies
  have control := advances.requests.control
  have authorized := advances.requests.authorized
  cases applies with
  | reclaim kind => exact control.others.1 kind
  | renew kind stands lease => exact lease released
  | release kind stands authority lease => exact lease released
  | advance kind => exact control.others.2.1 kind
  | conflict kind stands lease => exact lease released
  | publish kind stands authority target later live => exact (liveLease_eq_ok live).2.2 released
  | rotate kind stands authority successor live => exact (liveLease_eq_ok live).2.2 released
  | schedule kind stands live => exact (liveLease_eq_ok live).2.2 released
  | activate kind => exact control.others.2.2 kind
  | start kind stands live => exact (liveLease_eq_ok live).2.2 released
  | cancel kind stands same =>
    obtain ⟨policy, proof, granted⟩ := authorized (.inr (.inl kind))
    exact stable_mismatch stands.parts (settled released) (authorize_bounded granted).operation same
  | complete kind stands same =>
    obtain ⟨policy, proof, granted⟩ := authorized (.inr (.inr kind))
    exact stable_mismatch stands.parts (settled released) (authorize_bounded granted).operation same
  | resume kind stands resumes =>
    have later := advances.requests.later kind
    have lease := stands.parts.lease
    simp only [Naming.resumes, leaseNotAfter, released, Bool.and_eq_true, decide_eq_true_eq] at resumes
    simp only [validLease, released, Bool.and_eq_true, beq_iff_eq] at lease
    have within := resumes.2
    grind

/-! ## Records that agree decide alike -/

/-- `other` has every Record of `records` that is not released. -/
def Agrees (records other : Records) : Prop :=
  ∀ name record, records.find name = some record → record.lease ≠ .released → other.find name = some record

theorem checkParents_live {now : Int64} : ∀ {parents : List Record} {child : Text} {before : Option Record},
    checkParents now child before parents = .ok () → ∀ parent ∈ parents, liveLease parent now = .ok ()
  | [], _, _, _, parent, member => absurd member List.not_mem_nil
  | first :: rest, child, before, checked, parent, member => by
    rw [checkParents] at checked
    split at checked
    · cases checked
    split at checked
    · cases checked
    split at checked
    · cases checked
    split at checked
    · cases checked
    next live =>
    rcases List.mem_cons.1 member with rfl | among
    · exact isLive_eq_true.1 (by simpa using live)
    · exact checkParents_live checked parent among

theorem validateParents_live {child : Text} {parents : List Record} {now : Int64} {first : Option Record}
    (valid : validateParents child parents now = .ok first) : ∀ parent ∈ parents, liveLease parent now = .ok () := by
  cases parents with
  | nil => exact fun _ member => absurd member List.not_mem_nil
  | cons head rest =>
    rw [validateParents] at valid
    split at valid
    · cases valid
    · split at valid
      · cases valid
      · next checked => exact checkParents_live checked

theorem ancestors_agrees (agrees : Agrees records other) : ∀ {fuel : Nat} {seen : List Text} {current : Record}
    {parents : List Record}, ancestors records fuel seen current = some parents →
    (∀ parent ∈ parents, parent.lease ≠ .released) → ancestors other fuel seen current = some parents
  | 0, seen, current, parents, found, live => by
    unfold ancestors at found ⊢
    exact found
  | fuel + 1, seen, current, parents, found, live => by
    unfold ancestors at found ⊢
    split at found
    · next root =>
      rw [if_pos root]
      exact found
    next bound =>
    rw [if_neg bound]
    dsimp only at found ⊢
    split at found
    · cases found
    next fresh =>
    rw [if_neg fresh]
    split at found
    · cases found
    next parent held =>
    split at found
    · cases found
    next holds =>
    obtain ⟨rest, above, rfl⟩ := Option.map_eq_some_iff.1 found
    have kept := agrees _ parent held (live parent List.mem_cons_self)
    have later := ancestors_agrees agrees above fun parent among =>
      live parent (List.mem_cons_of_mem _ among)
    simp only [kept, if_neg holds, later, Option.map_some]

theorem lineage_eq_some (found : lineage records current now = some parents) :
    ancestors records 126 [current.name] current = some parents ∧
      ∃ first, validateParents current.name parents now.unixSeconds = .ok first := by
  unfold lineage at found
  split at found
  · cases found
  next above walked =>
  split at found
  · cases found
  next first valid =>
  cases found
  exact ⟨walked, first, valid⟩

theorem lineage_live (found : lineage records current now = some parents) :
    ∀ parent ∈ parents, parent.lease ≠ .released := by
  obtain ⟨-, first, valid⟩ := lineage_eq_some found
  intro parent member
  exact (liveLease_eq_ok (validateParents_live valid parent member)).2.2

theorem lineage_agrees (agrees : Agrees records other) (found : lineage records current now = some parents) :
    lineage other current now = some parents := by
  obtain ⟨walked, first, valid⟩ := lineage_eq_some found
  rw [lineage, ancestors_agrees agrees walked (lineage_live found)]
  simp only [valid]

/-- The parent of an accepted delegation is live. -/
theorem Delegates.live
    (delegates : Delegates setting records operation now parent above updated) :
    liveLease parent now.unixSeconds = .ok () := by
  cases delegates.applies with
  | first kind authority generation lineage fit =>
    exact validateParents_live lineage parent List.mem_cons_self

theorem delegate_agrees (agrees : Agrees records other)
    (accepted : delegate setting records operation now = some updated)
    (kind : operation.kind = .delegate) : delegate setting other operation now = some updated := by
  obtain ⟨parent, above, delegates⟩ := delegate_eq_some accepted kind
  have kept := agrees _ parent delegates.found (liveLease_eq_ok delegates.live).2.2
  have later := lineage_agrees agrees delegates.lineage
  unfold delegate at accepted ⊢
  rw [delegates.found] at accepted
  rw [kept]
  dsimp only at accepted ⊢
  rw [delegates.lineage] at accepted
  rw [later]
  exact accepted

theorem existing_agrees (agrees : Agrees records other)
    (accepted : existing setting records operation current now = some updated) :
    existing setting other operation current now = some updated := by
  unfold existing at accepted ⊢
  split at accepted
  · next op threshold parents decided found =>
    rw [decided, lineage_agrees agrees found]
    exact accepted
  · cases accepted

/-- **Agreement.**  An operation that one control accepts on a Record that is not released is
accepted by every control that has the Records of the first that are not. -/
theorem transitionAt_agrees (agrees : Agrees records other)
    (accepted : transitionAt setting records operation now = some updated)
    (unreleased : ∀ current, records.find operation.name = some current → operation.kind ≠ .delegate →
      current.lease ≠ .released) : transitionAt setting other operation now = some updated := by
  unfold transitionAt at accepted ⊢
  split at accepted
  · next kind => exact delegate_agrees agrees accepted kind
  all_goals
    first
    | cases accepted
    | split at accepted
      · cases accepted
      next kind _ current found =>
      have kept := agrees _ current found (unreleased current found (by rw [kind]; rintro ⟨⟩))
      rw [kept]
      exact existing_agrees agrees accepted

/-! ## A decision at its milliseconds -/

/-- The instant that the journal stores. -/
def truncated (now : Time) : Time := Time.ofMilli now.unixMilli

theorem truncated_unixMilli (now : Time) : (truncated now).unixMilli = now.unixMilli :=
  Time.unixMilli_ofMilli _

theorem truncated_unixSeconds (fits : now.milliFits) : (truncated now).unixSeconds = now.unixSeconds :=
  Time.unixSeconds_ofMilli fits

theorem truncated_lineage (fits : now.milliFits) (current : Record) :
    lineage records current (truncated now) = lineage records current now := by
  rw [lineage, lineage, truncated_unixSeconds fits]

theorem truncated_durationUntil (now : Time) (notAfter : Int64) :
    durationUntil (truncated now) notAfter = durationUntil now notAfter := by
  rw [durationUntil, durationUntil, truncated_unixMilli]

theorem truncated_delegate (fits : now.milliFits) :
    delegate setting records operation (truncated now) = delegate setting records operation now := by
  simp only [delegate, ControlOperation.childClaim, truncated_lineage fits, truncated_durationUntil,
    truncated_unixSeconds fits]

theorem truncated_recoveryKind (authorization : Authorization) :
    recoveryKind operation authorization (truncated now) = recoveryKind operation authorization now := by
  simp only [recoveryKind, truncated_unixMilli]

theorem truncated_lifecycle (kind : operation.kind ≠ .policy) :
    lifecycle setting operation current (truncated now) = lifecycle setting operation current now := by
  unfold lifecycle
  split
  all_goals first
    | exact absurd (by assumption) kind
    | simp only [truncated_unixMilli, truncated_durationUntil, truncated_recoveryKind]

/-- A policy that is scheduled ends its delay from the second of its decision, so the
milliseconds of that decision do not matter. -/
theorem scheduled_boundary {op : Op} {parents : List Record} (fits : now.milliFits)
    (applies : Applies setting.suite now.unixSeconds (now.unixSeconds * 1000)
      { op with parents := parents } setting.policy (some current) updated)
    (kind : op.kind = .scheduleRecoveryPolicy)
    (boundary : op.policyActivatesAt = (now.add op.policyDelay.toInt).unixMilli) :
    ((truncated now).add op.policyDelay.toInt).unixMilli = (now.add op.policyDelay.toInt).unixMilli := by
  apply Time.unixMilli_add_ofMilli fits
  have schedules : schedules current (now.unixSeconds * 1000) { op with parents := parents } = true := by
    cases applies with
    | schedule kind stands live schedules => exact schedules
    | rotate other =>
      rcases other with other | other <;> cases kind.symm.trans other
    | reclaim other | renew other | release other | advance other | conflict other | publish other | activate other
    | start other | cancel other | complete other | resume other => cases kind.symm.trans other
  simp only [Naming.schedules, Bool.and_eq_true, decide_eq_true_eq, beq_iff_eq] at schedules
  obtain ⟨⟨⟨⟨-, long⟩, -⟩, activates⟩, -⟩ := schedules
  have division : (milliseconds op.policyDelay).toInt = op.policyDelay.toInt / 1000000 := by
    have positive : 0 ≤ op.policyDelay.toInt := by
      have least : minimumRecoveryDelay.toInt = 259200000000000 := by decide
      have bound := Int64.le_iff_toInt_le.1 long
      omega
    rw [milliseconds, Int64.toInt_div_of_ne_right _ _ (by decide)]
    exact Int.tdiv_eq_ediv_of_nonneg positive
  rw [← boundary, activates, Int64.ofInt_add, ← division, Int64.ofInt_toInt, Int64.ofInt_mul]
  rfl

theorem truncated_policy (fits : now.milliFits) (kind : operation.kind = .policy)
    (accepted : existing setting records operation current now = some updated) :
    lifecycle setting operation current (truncated now) = lifecycle setting operation current now := by
  unfold existing at accepted
  split at accepted
  · next op threshold parents decided lineage =>
    unfold lifecycle at decided ⊢
    rw [kind] at decided ⊢
    dsimp only at decided ⊢
    split at decided
    · cases decided
    next digest delay scheduled =>
    split at decided
    · cases decided
    next boundary =>
    cases decided
    have applied := (applyTransition_eq_some accepted).2
    have same := scheduled_boundary fits (apply_applies applied).2 rfl (not_not.1 boundary)
    rw [same]
  · cases accepted

theorem truncated_existing (fits : now.milliFits)
    (accepted : existing setting records operation current now = some updated) :
    existing setting records operation current (truncated now) = some updated := by
  have same : lifecycle setting operation current (truncated now) = lifecycle setting operation current now := by
    by_cases kind : operation.kind = .policy
    · exact truncated_policy fits kind accepted
    · exact truncated_lifecycle kind
  unfold existing at accepted ⊢
  rw [same, truncated_lineage fits, truncated_unixSeconds fits, truncated_unixMilli]
  exact accepted

/-- **Truncation.**  What a control decides it decides again at the milliseconds of its time. -/
theorem truncated_transitionAt (fits : now.milliFits)
    (accepted : transitionAt setting records operation now = some updated) :
    transitionAt setting records operation (truncated now) = some updated := by
  unfold transitionAt at accepted ⊢
  split at accepted
  · rw [truncated_delegate fits]
    exact accepted
  all_goals
    first
    | cases accepted
    | split at accepted
      · cases accepted
      · exact truncated_existing fits accepted

/-! ## Following the journal -/

variable {signed : SignedRecord}

theorem sameRecord_self {record : Record} (valid : validRecord record = true) : sameRecord record record = true := by
  have encoded : encodeRecord record = some (recordWire record) := by
    rw [encodeRecord, if_pos valid]
  unfold sameRecord
  rw [encoded]
  exact beq_self_eq_true (recordWire record)

theorem decision_eq_some : decision setting records operation now = some (updated, signed) ↔
    operation.successorRecord = .document signed ∧ transitionAt setting records operation now = some updated ∧
      verifyRecord setting.suite setting.network signed = some updated := by
  constructor
  · intro decided
    unfold decision at decided
    split at decided
    · next carried document =>
      split at decided
      · cases decided
      next made accepted =>
      split at decided
      · next exact =>
        cases decided
        refine ⟨document, accepted, ?_⟩
        unfold exactSignedSuccessor at exact
        split at exact
        · cases exact
        next decoded verified =>
        rw [(verifyRecord_eq_some verified).eq_of_sameRecord exact]
        exact verified
      · cases decided
    · cases decided
  · rintro ⟨document, accepted, verified⟩
    have valid := (verifyRecord_eq_some verified).valid
    simp only [decision, document, accepted, exactSignedSuccessor, verified, sameRecord_self valid, if_true]

theorem replayed_eq_some {entry : Entry} : replayed setting records entry = some updated ↔
    decodes setting entry.submission = true ∧ entry.submission.successorRecord = .document entry.successor ∧
      transitionAt setting records entry.submission (Time.ofMilli entry.decisionAt) = some updated ∧
      verifyRecord setting.suite setting.network entry.successor = some updated := by
  constructor
  · intro accepted
    unfold replayed at accepted
    split at accepted
    · cases accepted
    next decoded =>
    split at accepted
    · cases accepted
    next made carried decided =>
    split at accepted
    · next same =>
      cases accepted
      subst same
      exact ⟨by simpa using decoded, decision_eq_some.1 decided⟩
    · cases accepted
  · rintro ⟨decoded, decided⟩
    simp only [replayed, decoded, decision_eq_some.2 decided, Bool.not_true, Bool.false_eq_true, if_false, if_true]

/-- What holds of every Record that a control or an installation holds. -/
structure Kept (record : Record) : Prop where
  valid : validRecord record = true
  settled : record.Settled

/-- Every Record is under its own Name, and meets `Q`. -/
def Each (Q : Record → Prop) (records : Records) : Prop :=
  ∀ name record, records.find name = some record → record.name = name ∧ Q record

theorem Each.put {Q : Record → Prop} (each : Each Q records) (holds : Q updated) :
    Each Q (records.put updated.name updated) := by
  intro name record found
  rw [Table.find_put] at found
  split at found
  · next same =>
    cases found
    exact ⟨same, holds⟩
  · exact each name record found

/-- Every Record is kept under its own Name. -/
def Keeps (records : Records) : Prop := Each Kept records

theorem Keeps.put (keeps : Keeps records) (kept : Kept updated) : Keeps (records.put updated.name updated) :=
  Each.put keeps kept

/-- The Records that `other` has and `records` does not know of are those of `names`, which
are roots; there `records` has none, or one that was released. -/
structure Shadows (names : List Text) (records other : Records) : Prop where
  root : ∀ name ∈ names, hasParent name = false
  elsewhere : ∀ name, name ∉ names → other.find name = records.find name
  released : ∀ name ∈ names, ∀ record, records.find name = some record → record.lease = .released

theorem Shadows.refl (records : Records) : Shadows [] records records where
  root := fun _ among => absurd among List.not_mem_nil
  elsewhere := fun _ _ => rfl
  released := fun _ among => absurd among List.not_mem_nil

variable {names : List Text}

theorem Shadows.agrees (shadows : Shadows names records other) : Agrees records other := by
  intro name record found unreleased
  have outside : name ∉ names := fun among => unreleased (shadows.released name among record found)
  rw [shadows.elsewhere name outside, found]

theorem Shadows.trans {later : List Text} {middle : Records} (first : Shadows names records middle)
    (second : Shadows later middle other) : Shadows (later ++ names) records other where
  root := by
    intro name among
    rcases List.mem_append.1 among with among | among
    · exact second.root name among
    · exact first.root name among
  elsewhere := by
    intro name outside
    rw [List.mem_append, not_or] at outside
    rw [second.elsewhere name outside.1, first.elsewhere name outside.2]
  released := by
    intro name among record found
    by_cases before : name ∈ names
    · exact first.released name before record found
    rcases List.mem_append.1 among with among | among
    · rw [← first.elsewhere name before] at found
      exact second.released name among record found
    · exact absurd among before

theorem Shadows.put (shadows : Shadows names records other) {name : Text} (outside : name ∉ names)
    (record : Record) : Shadows names (records.put name record) (other.put name record) where
  root := shadows.root
  elsewhere := by
    intro asked absent
    rw [Table.find_put, Table.find_put, shadows.elsewhere asked absent]
  released := by
    intro asked among found present
    have differs : name ≠ asked := by
      rintro rfl
      exact outside among
    rw [Table.find_put, if_neg differs] at present
    exact shadows.released asked among found present

/-- A delegation names a child of the parent it names. -/
theorem Delegates.hasParent
    (delegates : Delegates setting records operation now parent above updated) :
    hasParent operation.name = true ∧ updated.name = operation.name := by
  cases delegates.applies with
  | @first found kind authority generation lineage fit =>
    refine ⟨?_, rfl⟩
    cases found with
    | none => cases (validateParents_eq_none lineage).1
    | some found => exact isDescendant_hasParent (validateParents_eq_some lineage).2.2.1

/-- A delegation binds the child to the parent it was decided with. -/
theorem Delegates.bound
    (delegates : Delegates setting records operation now parent above updated) :
    updated.parentName = parent.name ∧ updated.parentGeneration = parent.generation := by
  cases delegates.applies with
  | @first found kind authority generation lineage fit =>
    cases found with
    | none => cases (validateParents_eq_none lineage).1
    | some found =>
      obtain ⟨rest, same⟩ := (validateParents_eq_some lineage).1
      cases same
      exact ⟨rfl, rfl⟩

/-- The Name that an accepted operation changes is not one of the shadowed. -/
theorem Shadows.untouched (shadows : Shadows names records other) (keeps : Keeps records)
    (positive : 0 < now.unixMilli) (accepted : transitionAt setting records operation now = some updated) :
    updated.name ∉ names := by
  intro among
  rcases transitionAt_eq_some accepted with ⟨parent, above, delegates⟩ | ⟨current, parents, op, advances⟩
  · obtain ⟨child, same⟩ := delegates.hasParent
    rw [← same, shadows.root _ among] at child
    cases child
  obtain ⟨milliseconds, applies⟩ := advances.applies
  have name := (applies.succeeds advances.requests.control).name
  obtain ⟨own, kept⟩ := keeps _ _ advances.found
  rw [name, own] at among
  exact advances.unreleased kept.settled positive (shadows.released _ among _ advances.found)

/-- What one control decides, every control with its unreleased Records decides. -/
theorem Shadows.transitionAt (shadows : Shadows names records other) (keeps : Keeps records)
    (positive : 0 < now.unixMilli) (accepted : transitionAt setting records operation now = some updated) :
    Naming.transitionAt setting other operation now = some updated := by
  apply transitionAt_agrees shadows.agrees accepted
  intro current found kind
  rcases transitionAt_eq_some accepted with ⟨parent, above, delegates⟩ | ⟨record, parents, op, advances⟩
  · exact absurd delegates.kind kind
  · rw [advances.found] at found
    cases found
    exact advances.unreleased (keeps _ _ advances.found).2.settled positive

/-- An entry of the journal was decided on these Records, at a time. -/
structure Decides (setting : Setting) (records : Records) (entry : Entry) (now : Time) (updated : Record) : Prop where
  stored : entry.decisionAt = now.unixMilli
  positive : 0 < now.unixMilli
  decodes : decodes setting entry.submission = true
  carried : entry.submission.successorRecord = .document entry.successor
  accepted : Naming.transitionAt setting records entry.submission now = some updated
  verified : verifyRecord setting.suite setting.network entry.successor = some updated

/-- Entries that were decided one after the other, each under the condition `P`. -/
inductive Follows (setting : Setting) (P : Records → Entry → Time → Prop) : Records → List Entry → Records → Prop where
  | nil {records : Records} : Follows setting P records [] records
  | cons {records last : Records} {entry : Entry} {entries : List Entry} {now : Time} {updated : Record}
      (decides : Decides setting records entry now updated) (holds : P records entry now)
      (rest : Follows setting P (records.put updated.name updated) entries last) :
      Follows setting P records (entry :: entries) last

variable {P : Records → Entry → Time → Prop} {entry : Entry}

theorem Decides.kept (decides : Decides setting records entry now updated) : Kept updated := by
  refine ⟨(verifyRecord_eq_some decides.verified).valid, ?_⟩
  rcases transitionAt_eq_some decides.accepted with
    ⟨parent, above, delegates⟩ | ⟨current, parents, op, advances⟩
  · exact delegates.applies.settled
  · obtain ⟨milliseconds, applies⟩ := advances.applies
    exact applies.settled

theorem Decides.shadows (decides : Decides setting records entry now updated) (keeps : Keeps records)
    (shadows : Shadows names records other) : Decides setting other entry now updated :=
  ⟨decides.stored, decides.positive, decides.decodes, decides.carried,
    shadows.transitionAt keeps decides.positive decides.accepted, decides.verified⟩

theorem Decides.replayed (decides : Decides setting records entry now updated) (fits : now.milliFits) :
    Naming.replayed setting records entry = some updated := by
  refine replayed_eq_some.2 ⟨decides.decodes, decides.carried, ?_, decides.verified⟩
  rw [decides.stored]
  exact truncated_transitionAt fits decides.accepted

namespace Follows

variable {last middle : Records} {entries later : List Entry}

theorem keeps (follows : Follows setting P records entries last) : Keeps records → Keeps last := by
  induction follows with
  | nil => exact id
  | cons decides holds rest ih => exact fun keeps => ih (keeps.put decides.kept)

theorem append (first : Follows setting P records entries middle) :
    Follows setting P middle later last → Follows setting P records (entries ++ later) last := by
  induction first with
  | nil => exact id
  | cons decides holds rest ih => exact fun second => .cons decides holds (ih second)

theorem divide : ∀ {entries : List Entry} {records : Records}, Follows setting P records (entries ++ later) last →
    ∃ middle, Follows setting P records entries middle ∧ Follows setting P middle later last
  | [], records, follows => ⟨records, .nil, follows⟩
  | _ :: _, _, .cons decides holds rest =>
    let ⟨middle, first, second⟩ := divide rest
    ⟨middle, .cons decides holds first, second⟩

/-- The entries are decided alike on the Records of a shadow. -/
theorem shadows {names : List Text}
    (carries : ∀ {records other : Records} {entry : Entry} {now : Time} {updated : Record},
      Keeps records → Shadows names records other → Decides setting records entry now updated →
      P records entry now → P other entry now)
    (follows : Follows setting P records entries last) : ∀ {other : Records}, Keeps records →
    Shadows names records other → ∃ final, Follows setting P other entries final ∧ Shadows names last final := by
  induction follows with
  | nil => exact fun _ shadows => ⟨_, .nil, shadows⟩
  | @cons records last entry entries now updated decides holds rest ih =>
    intro other keeps shadows
    have outside := shadows.untouched keeps decides.positive decides.accepted
    obtain ⟨final, follows, shadowed⟩ := ih (keeps.put decides.kept) (shadows.put outside updated)
    exact ⟨final, .cons (decides.shadows keeps shadows) (carries keeps shadows decides holds) follows, shadowed⟩

/-- The entries replay when their times are such that their milliseconds fit. -/
theorem replay (fits : ∀ held asked moment, P held asked moment → moment.milliFits)
    (follows : Follows setting P records entries last) : Naming.replay setting records entries = some last := by
  induction follows with
  | nil => rfl
  | cons decides holds rest ih =>
    rw [Naming.replay, decides.replayed (fits _ _ _ holds)]
    exact ih

/-- Whatever the entries replay to is what they were decided to be. -/
theorem eq_of_replay (follows : Follows setting P records entries last) : ∀ {other : Records},
    Naming.replay setting records entries = some other → other = last := by
  induction follows with
  | nil =>
    intro other replays
    cases replays
    rfl
  | cons decides holds rest ih =>
    intro other replays
    rw [Naming.replay] at replays
    split at replays
    · cases replays
    next found accepted =>
    have same := (replayed_eq_some.1 accepted).2.2.2.symm.trans decides.verified
    cases same
    exact ih replays

end Follows

end Ardents.Naming
