/-
# Naming.RecoveryAccess — a recovery needs the Authority it recovers from

Participants of a policy authorize the initiation of a recovery, and the control then asks for
the Record it makes with the signature of that Record's Authority.  While the recovery is
pending this is still the Authority that the recovery is to replace.

* `recovery_needs_authority` — whatever is submitted without a signature of the current
  Authority, by participants and a successor or by others, a Record with a live Lease stays as
  it is.  Only a delegation of the Name itself is set aside, which its parent signs.
* `due_policy_is_useless` — a Record with a policy that is due, reached through the control.
-/
import Ardents.Naming.Continuity

namespace Ardents.Naming

open Lib

set_option autoImplicit false

section Access

variable {setting : Setting} {key : Digest} {name : Text} {current : Record}

/-- The Records of the control and the store after calls one after the other. -/
def submitAll (setting : Setting) : Records → Store → List Call → Records × Store
  | records, store, [] => (records, store)
  | records, store, call :: rest =>
    submitAll setting ((submit setting records store call).2.getD records) (submit setting records store call).1 rest

/-- A call brings no signature of the key on what the control checks: not on a transition that
needs one, and not on the Record that comes with the operation. -/
structure Unsigned (setting : Setting) (key : Digest) (current : Record) (call : Call) : Prop where
  transition : ∀ op wire, lifecycle setting call.operation current call.now = some (op, false) →
    encodeRecord current = some wire →
    setting.suite.verify key (transitionTranscript setting.network wire op) call.operation.authorityProof = false
  record : ∀ signed, call.operation.successorRecord = .document signed →
    setting.suite.verify key (recordTranscript setting.network signed.wire) signed.signature = false

/-- Calls one after the other, of which those on the Name are unsigned and no delegations. -/
def Without (setting : Setting) (name : Text) (key : Digest) : Records → Store → List Call → Prop
  | _, _, [] => True
  | records, store, call :: rest =>
    (call.operation.name = name → call.operation.kind ≠ .delegate ∧
      ∀ current, records.find name = some current → Unsigned setting key current call) ∧
    Without setting name key ((submit setting records store call).2.getD records)
      (submit setting records store call).1 rest

/-- Calls without a signature of the current Authority end with the successor as the Authority
of the Name. -/
def RecoversWithout (setting : Setting) (records : Records) (store : Store) (name : Text) (key : Digest) : Prop :=
  ∃ (calls : List Call) (successor : Digest), successor ≠ key ∧ Without setting name key records store calls ∧
    ((submitAll setting records store calls).1.find name).map Record.authority = some (hexText successor)

variable {records : Records} {updated : Record} {store : Store} {now : Time}

/-- A Record is accepted with the signature of its own Authority. -/
theorem Decides.signed {call : Call} {signed : SignedRecord}
    (decides : Decides setting records (call.entry signed) now updated)
    (authority : keyOf updated.authority = some key) : ¬ Unsigned setting key current call := by
  intro unsigned
  obtain ⟨found, named, signature⟩ := (verifyRecord_eq_some decides.verified).authority
  cases authority.symm.trans named
  rw [unsigned.record _ decides.carried] at signature
  cases signature

/-- A transition that the Authority signed. -/
theorem signedTransition_verifies {op : Op} {proof : List UInt8} (authority : keyOf current.authority = some key)
    (signed : signedTransition setting current op proof = true) : ∃ wire, encodeRecord current = some wire ∧
      setting.suite.verify key (transitionTranscript setting.network wire op) proof = true := by
  rw [signedTransition, authority] at signed
  split at signed
  · next found wire named encoded =>
    cases named
    exact ⟨wire, encoded, (Bool.and_eq_true _ _ ▸ signed).2⟩
  · cases signed

/-- A recovery of a stable Record keeps its Authority. -/
theorem Advances.authority {operation : ControlOperation} {parents : List Record} {op : Op}
    (advances : Advances setting records operation now current parents op updated)
    (recovery : operation.kind = .recovery) (stable : current.recovery = .stable) :
    updated.authority = current.authority := by
  obtain ⟨milliseconds, applies⟩ := advances.applies
  have authorized := advances.requests.authorized
  have kinds := advances.recovers recovery
  cases applies with
  | complete kind stands same =>
    obtain ⟨policy, proof, granted⟩ := authorized (.inr (.inr kind))
    exact (stable_mismatch stands.parts stable (authorize_bounded granted).operation same).elim
  | rotate other =>
    have other : op.kind = .rotate ∨ op.kind = .transfer := other
    rcases other with other | other <;> simp [other] at kinds
  | reclaim other =>
    have other : op.kind = .claim := other
    simp [other] at kinds
  | advance other =>
    have other : op.kind = .advance := other
    simp [other] at kinds
  | renew | release | conflict | publish | schedule | activate | start | cancel | resume => rfl

/-- A call without a signature of the Authority leaves a stable Record as it is. -/
theorem submit_unsigned {call : Call} (found : records.find name = some current)
    (authority : keyOf current.authority = some key) (stable : current.recovery = .stable)
    (without : call.operation.name = name → call.operation.kind ≠ .delegate ∧ Unsigned setting key current call) :
    ((submit setting records store call).2.getD records).find name = some current := by
  have submits := submit_submits setting records store call
  generalize submit setting records store call = outcome at submits
  cases submits with
  | denied => exact found
  | stranded => exact found
  | late => exact found
  | @submitted updated signed enters =>
    rw [Option.getD_some, Table.find_put]
    split
    · next same =>
      exfalso
      obtain ⟨kind, unsigned⟩ := without (enters.name.symm.trans same)
      rcases transitionAt_eq_some enters.decides.accepted with
        ⟨parent, above, delegates⟩ | ⟨record, parents, op, advances⟩
      · exact kind delegates.kind
      have held : records.find call.operation.name = some record := advances.found
      rw [← enters.name, same, found] at held
      cases held
      rcases advances.entitled with asked | ⟨asked, signed⟩
      · -- participants authorized it, and the Record it makes is that of the same Authority
        have kept := advances.authority (lifecycle_threshold asked) stable
        exact enters.decides.signed (kept ▸ authority) unsigned
      · obtain ⟨wire, encoded, verifies⟩ := signedTransition_verifies authority signed
        cases (unsigned.transition op wire asked encoded).symm.trans verifies
    · exact found

theorem submitAll_without (authority : keyOf current.authority = some key) (stable : current.recovery = .stable) :
    ∀ {calls : List Call} {records : Records} {store : Store}, records.find name = some current →
    Without setting name key records store calls → (submitAll setting records store calls).1.find name = some current
  | [], records, store, found, without => found
  | call :: rest, records, store, found, without => by
    rw [submitAll]
    refine submitAll_without authority stable (submit_unsigned found authority stable ?_) without.2
    intro named
    exact ⟨(without.1 named).1, (without.1 named).2 current found⟩

theorem not_recoversWithout (found : records.find name = some current)
    (authority : keyOf current.authority = some key) (stable : current.recovery = .stable) :
    ¬ RecoversWithout setting records store name key := by
  rintro ⟨calls, successor, differs, without, changed⟩
  rw [submitAll_without authority stable found without, Option.map_some, Option.some.injEq] at changed
  rw [changed, keyOf_hexText, Option.some.injEq] at authority
  exact differs authority

end Access

/-- **A recovery needs the current Authority.**  No Record with a live Lease is recovered
without it, whatever its policy; and nothing else that is submitted without it changes the
Record, unless its parent delegates the Name once more. -/
theorem recovery_needs_authority (setting : Setting) (records : Records) (store : Store) (name : Text)
    (current : Record) (key : Digest) (now : Int64) (found : records.find name = some current)
    (authority : keyOf current.authority = some key) (live : isLive current now = true) :
    ¬ RecoversWithout setting records store name key ∧
      ∀ calls, Without setting name key records store calls →
        (submitAll setting records store calls).1.find name = some current := by
  have stable := (liveLease_eq_ok (isLive_eq_true.1 live)).2.1
  exact ⟨not_recoversWithout found authority stable, fun _ => submitAll_without authority stable found⟩

/-! ## A policy that is due -/

namespace Sample

def recoveryPolicy : RecoveryPolicy where
  network := Digest.filled 1
  name := ascii "a"
  generation := 1
  revision := 1
  currentAuthority := founder
  threshold := 2
  participants := [Digest.filled 5, Digest.filled 6]
  delay := minimumRecoveryDelay

/-- The root with its policy scheduled. -/
def guarded : Record :=
  { root.next with
    pendingPolicy := recoveryPolicy.digest Suite.transparent
    pendingPolicyRev := 1
    pendingPolicyDelay := 259200000
    policyActivatesAt := 260200000 }

/-- What the founder submits to schedule the policy. -/
def scheduling : ControlOperation where
  kind := .policy
  operationDigest := Digest.filled 9
  name := ascii "a"
  generation := 1
  expectedRevision := 1
  policyNotBefore := 260200000
  recoveryPolicy := .document recoveryPolicy
  authorityProof := signature founder
  successorRecord := .document ⟨false, guarded, signature founder⟩

def guarding : List NamespaceEvent := [.installs founding, .opens, submission scheduling .none]

/-- Both participants sign that the stranger is to have the root. -/
def recoveryProof : RecoveryProof where
  operation := .initiate
  policyDigest := recoveryPolicy.digest Suite.transparent
  operationID := Digest.filled 8
  successor := stranger
  startedAt := 260200000
  completesAt := 519400000
  signatures := [⟨Digest.filled 5, signature (Digest.filled 5)⟩, ⟨Digest.filled 6, signature (Digest.filled 6)⟩]

/-- What they submit when the policy is due. -/
def initiation : Call where
  operation :=
    { kind := .recovery
      operationDigest := Digest.filled 9
      name := ascii "a"
      generation := 1
      expectedRevision := 2
      successorAuthority := stranger
      policyID := recoveryPolicy.digest Suite.transparent
      recoveryStep := .initiate
      recoveryProof := .document (recoveryPolicy, recoveryProof)
      successorRecord := .document ⟨false, guarded.next, signature stranger⟩ }
  now := Time.ofSeconds 260200
  admitted := true
  fault := .none

/-- The control with the guarded root alone. -/
def guardedRecords : Records := Table.empty.put (ascii "a") guarded

theorem initiation_without (records : Records) (store : Store) :
    Without setting (ascii "a") founder records store [initiation] := by
  refine ⟨fun _ => ⟨by decide, fun current _ => ⟨?_, ?_⟩⟩, trivial⟩
  · intro op wire asked encoded
    rfl
  · intro signed carried
    cases carried
    decide

end Sample

open Sample

theorem guarded_root_needs_authority :
    isLive guarded 260200 = true ∧ guarded.policyActivatesAt ≤ 260200 * 1000 ∧
      ¬ RecoversWithout setting guardedRecords Store.empty (ascii "a") founder ∧
      (submitAll setting guardedRecords Store.empty [initiation]).1.find (ascii "a") =
        some guarded := by
  obtain ⟨never, keeps⟩ := recovery_needs_authority setting guardedRecords Store.empty
    (ascii "a") guarded founder 260200 (by decide +kernel) (by decide +kernel) (by decide +kernel)
  exact ⟨by decide +kernel, by decide, never, keeps [initiation] (initiation_without _ _)⟩

/-- The founder schedules a policy of two participants through the control.  When it is due the
Lease is live, and the root is not recovered without the founder. -/
theorem due_policy_is_useless :
    ∃ world records, run (Namespace.step setting) Namespace.start guarding = some world ∧
      world.control = some records ∧ records.find (ascii "a") = some guarded ∧
      guarded.pendingPolicy = recoveryPolicy.digest Suite.transparent ∧
      guarded.policyActivatesAt ≤ 260200 * 1000 ∧ isLive guarded 260200 = true ∧
      ¬ RecoversWithout setting records world.store (ascii "a") founder := by
  have ran : (run (Namespace.step setting) Namespace.start guarding).any (fun world =>
      world.control.any fun records => records.find (ascii "a") == some guarded) = true := by decide +kernel
  obtain ⟨world, reached, ran⟩ := (Option.any_eq_true _ _).1 ran
  obtain ⟨records, control, facts⟩ := (Option.any_eq_true _ _).1 ran
  have found := beq_iff_eq.1 facts
  refine ⟨world, records, reached, control, found, rfl, by decide, by decide +kernel, ?_⟩
  exact not_recoversWithout found (by decide +kernel) rfl

end Ardents.Naming
