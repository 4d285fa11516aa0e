/-
# Entry.Admission — an Entry attachment is admitted once

An Initiator keeps the attachments it has admitted until their deadlines.  A commit that fails, before
or after its durable effect, leaves an owner that takes no more calls; any owner may be closed and
opened again.  The ledger keeps no floor under the clock, so the clock is taken not to run back.
-/
import Ardents.Lib.Bytes
import Ardents.Lib.Runs
import Ardents.Lib.Time

namespace Ardents.Entry

open Lib

set_option autoImplicit false

def maximumAdmissions : Nat := 64

structure Authorization where
  inviteID : Digest
  recipientPublicKey : Digest
  notAfter : Time

structure AdmissionRecord where
  inviteID : Digest
  attachmentID : Digest
  clientKeyDigest : Digest
  notAfter : Int64

/-- The record is still needed. -/
def AdmissionRecord.live (record : AdmissionRecord) (now : Time) : Bool :=
  now.before (Time.ofSeconds record.notAfter)

/-- A call; `invite` is what `validateInvite` accepts. -/
structure AdmitRequest where
  invite : Option Authorization
  attachment : Digest
  clientKey : Digest
  recipient : Digest
  notAfter : Time
  now : Time
  timeConfident : Bool

inductive AdmissionError where
  | notAdmitted
  | recipient
  | invalid
  | expired
  | replayed
  | full

/-- The admissions that stay, and the new one. -/
def consumeLocked (admissions : List AdmissionRecord) (authorization : Authorization)
    (request : AdmitRequest) : Except AdmissionError (List AdmissionRecord × AdmissionRecord) :=
  if authorization.inviteID = .zero ∨ request.attachment = .zero ∨ request.clientKey = .zero ∨
      request.notAfter.isZero ∨ authorization.notAfter.isZero ∨
      request.notAfter.after authorization.notAfter then .error .invalid
  else if !request.timeConfident || !request.now.before request.notAfter then .error .expired
  else
    let kept := admissions.filter (·.live request.now)
    if kept.any (·.attachmentID = request.attachment) then .error .replayed
    else if maximumAdmissions ≤ kept.length then .error .full
    else .ok (kept, ⟨authorization.inviteID, request.attachment, request.clientKey,
      request.notAfter.unixSeconds⟩)

def admitAndConsume (admissions : List AdmissionRecord) (request : AdmitRequest) :
    Except AdmissionError (List AdmissionRecord × AdmissionRecord) :=
  match request.invite with
  | none => .error .notAdmitted
  | some authorization =>
    if request.recipient = .zero ∨ authorization.recipientPublicKey ≠ request.recipient then .error .recipient
    else consumeLocked admissions authorization request

/-- The root, the records of an owner that takes calls, and what was admitted, newest first. -/
structure Ledger where
  durable : List AdmissionRecord
  owner : Option (List AdmissionRecord)
  clock : Time
  admitted : List (Time × AdmissionRecord)

inductive Commit where
  | done
  | failsBefore
  | failsAfter

inductive LedgerEvent where
  | opens
  | closes
  | admits (request : AdmitRequest) (commit : Commit)

namespace Ledger

def commit (ledger : Ledger) (next : List AdmissionRecord) (record : AdmissionRecord) : Commit → Ledger
  | .done => ⟨next, some next, ledger.clock, (ledger.clock, record) :: ledger.admitted⟩
  | .failsBefore => { ledger with owner := none }
  | .failsAfter => { ledger with durable := next, owner := none }

def step (ledger : Ledger) : LedgerEvent → Option Ledger
  | .opens => some { ledger with owner := some ledger.durable }
  | .closes => some { ledger with owner := none }
  | .admits request outcome =>
    if request.now.before ledger.clock then none
    else
      let later := { ledger with clock := request.now }
      match ledger.owner.bind fun admissions => (admitAndConsume admissions request).toOption with
      | none => some later
      | some (kept, record) => some (later.commit (kept ++ [record]) record outcome)

end Ledger

theorem admitAndConsume_ok {admissions kept : List AdmissionRecord} {request : AdmitRequest}
    {record : AdmissionRecord} (admitted : admitAndConsume admissions request = .ok (kept, record)) :
    kept = admissions.filter (·.live request.now) ∧ kept.length < maximumAdmissions ∧
      ∀ other ∈ kept, other.attachmentID ≠ record.attachmentID := by
  unfold admitAndConsume consumeLocked at admitted
  dsimp only at admitted
  split at admitted
  · cases admitted
  split_ifs at admitted with _ _ _ replayed full
  cases admitted
  refine ⟨rfl, by omega, fun other member same => replayed ?_⟩
  exact List.any_eq_true.2 ⟨other, member, decide_eq_true same⟩

namespace Ledger

/-- An owner holds what is durable, and what was admitted is durable while it is needed. -/
structure Sound (ledger : Ledger) : Prop where
  current : ∀ admissions, ledger.owner = some admissions → admissions = ledger.durable
  bounded : ledger.durable.length ≤ maximumAdmissions
  kept : ∀ entry ∈ ledger.admitted, entry.2.live ledger.clock = true → entry.2 ∈ ledger.durable
  once : ledger.admitted.Pairwise fun later earlier =>
    later.2.attachmentID = earlier.2.attachmentID → earlier.2.live later.1 = false

variable {ledger : Ledger} {request : AdmitRequest} {kept : List AdmissionRecord} {record : AdmissionRecord}

theorem Sound.later (sound : ledger.Sound) {now : Time} (later : now.before ledger.clock = false) :
    { ledger with clock := now }.Sound := by
  refine ⟨sound.current, sound.bounded, fun entry member live => sound.kept entry member ?_, sound.once⟩
  simp only [AdmissionRecord.live, Time.before, decide_eq_true_eq, decide_eq_false_iff_not] at *
  omega

theorem Sound.commit (sound : ledger.Sound) (same : request.now = ledger.clock)
    (admitted : admitAndConsume ledger.durable request = .ok (kept, record)) (outcome : Commit) :
    (ledger.commit (kept ++ [record]) record outcome).Sound := by
  obtain ⟨rfl, room, fresh⟩ := admitAndConsume_ok admitted
  rw [same] at *
  have bounded : (ledger.durable.filter (·.live ledger.clock) ++ [record]).length ≤ maximumAdmissions := by
    rw [List.length_append]
    exact room
  have still : ∀ entry ∈ ledger.admitted, entry.2.live ledger.clock = true →
      entry.2 ∈ ledger.durable.filter (·.live ledger.clock) := fun entry member live =>
    List.mem_filter.2 ⟨sound.kept entry member live, live⟩
  cases outcome with
  | done =>
    refine ⟨fun _ held => (Option.some.inj held).symm, bounded, fun entry member live => ?_,
      List.pairwise_cons.2 ⟨fun earlier member again => ?_, sound.once⟩⟩
    · rcases List.mem_cons.1 member with rfl | older
      · exact List.mem_append_right _ List.mem_cons_self
      · exact List.mem_append_left _ (still entry older live)
    · -- a record that is still live has passed the filter, and the check finds it
      by_contra live
      exact fresh _ (still earlier member (Bool.not_eq_false _ ▸ live)) again.symm
  | failsBefore => exact ⟨by rintro _ ⟨⟩, sound.bounded, sound.kept, sound.once⟩
  | failsAfter =>
    exact ⟨by rintro _ ⟨⟩, bounded, fun entry member live => List.mem_append_left _ (still entry member live),
      sound.once⟩

/-- **An Entry attachment is admitted once**: again only from the second of its deadline on, over
openings, closings and failing commits; and the ledger holds at most 64 records. -/
theorem attachment_admitted_once (clock : Time) (events : List LedgerEvent) :
    Throughout step (fun ledger => ledger.durable.length ≤ maximumAdmissions ∧
      ledger.admitted.Pairwise fun later earlier =>
        later.2.attachmentID = earlier.2.attachmentID → earlier.2.live later.1 = false)
      ⟨[], none, clock, []⟩ events := by
  have sound : Throughout step Sound ⟨[], none, clock, []⟩ events := by
    refine throughout_of_invariant (fun ledger event next sound stepped => ?_)
      ⟨by simp, Nat.zero_le _, by simp, List.Pairwise.nil⟩ events
    cases event with
    | opens =>
      cases stepped
      exact ⟨fun _ held => (Option.some.inj held).symm, sound.bounded, sound.kept, sound.once⟩
    | closes =>
      cases stepped
      exact ⟨by rintro _ ⟨⟩, sound.bounded, sound.kept, sound.once⟩
    | admits request outcome =>
      simp only [step] at stepped
      split at stepped
      · cases stepped
      next later =>
      have moved := sound.later (Bool.not_eq_true _ ▸ later)
      split at stepped <;> cases stepped
      · exact moved
      next kept record found =>
      obtain ⟨admissions, held, admitted⟩ := Option.bind_eq_some_iff.1 found
      obtain rfl := sound.current admissions held
      refine moved.commit rfl ?_ outcome
      cases answer : admitAndConsume ledger.durable request with
      | error _ => rw [answer] at admitted; cases admitted
      | ok _ => rw [answer] at admitted; cases admitted; rfl
  exact sound.imp fun _ sound => ⟨sound.bounded, sound.once⟩

end Ledger

end Ardents.Entry
