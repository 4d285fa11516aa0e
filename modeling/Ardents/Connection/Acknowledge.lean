/-
# Connection.Acknowledge — what a cutover says about received bytes

A recovery snapshots `ReceiveNext` when it starts and sends it in its Continuity
record; `commitAttachment` later raises `ackSent` to the live `recvNext`.  An
Application write that completes in between moves `recvNext` past the snapshot,
and the acknowledgement of those bytes is then counted as sent although neither a
record nor the Continuity exchange carried it.

`conveyed` is the largest offset the peer was told.  `ackSent` stays within it,
and an acknowledgement beyond it stays owed, in every history whose cutovers find
no byte delivered after their snapshot that was not acknowledged before
(`ackSent_le_conveyed`).  `deliveryDuringRecovery` is a history without that
property: the acknowledgement is lost, and a replay of the byte does not bring it
back.
-/
import Ardents.Connection.Steps

namespace Ardents.Connection

open Lib

set_option autoImplicit false

/-- The received offset a record tells the peer.  A confirmation names the offset
of the other direction. -/
def StreamRecord.acknowledges : StreamRecord → Nat
  | .acknowledgement _ offset _ false => offset
  | _ => 0

namespace Stream

/-- The largest received offset this Stream has conveyed: by an Acknowledgement a
carrier took, or by the Continuity record of a committed Attachment. -/
def conveyed (stream : Stream) : Nat :=
  max ((stream.history.log.map fun entry => entry.2.acknowledges).foldr max 0)
    ((stream.history.commits.map fun state => state.receiveNext).foldr max 0)

/-- The receive worker is past the point where it owes `queueAcknowledgement` a
call: in the Application write, just before the call, or returned with an error. -/
def receiveOwes (stream : Stream) : Prop :=
  (∃ range, stream.phase .receive = .delivering range) ∨
    stream.phase .receive = .acknowledging stream.receive.recvNext ∨
    ∃ err, stream.phase .receive = .returned (some err)

/-- **No acknowledgement is lost**: `ackSent` is within what was conveyed, and
when more was received than conveyed an acknowledgement is owed. -/
structure Conveyed (stream : Stream) : Prop where
  ackSent_le : stream.acks.ackSent ≤ stream.conveyed
  owed : stream.conveyed < stream.receive.recvNext →
    stream.acks.ackSent < stream.acks.ackPending ∨ stream.receiveOwes

/-- The event is no cutover past a delivery its snapshot has not seen: the live
`recvNext` is within the snapshot or within `ackSent`.  A commit that is refused is
no cutover. -/
def commitsSnapshot (stream : Stream) : Event → Bool
  | .commit worker cancelled =>
    match stream.phase worker with
    | .recovering failed (.exchanged state attachment peer) =>
      (stream.commitRefusal failed attachment peer cancelled).isSome ||
        decide (stream.receive.recvNext ≤ max stream.acks.ackSent state.receiveNext)
    | _ => true
  | _ => true

/-! ## Conveyed offsets -/

theorem foldr_max_append (first second : List Nat) :
    (first ++ second).foldr max 0 = max (first.foldr max 0) (second.foldr max 0) := by
  induction first with
  | nil => simp
  | cons head tail ih =>
    simp only [List.cons_append, List.foldr_cons, ih]
    omega

variable {stream : Stream}

theorem acknowledges_le_conveyed {attachment : Attachment} {record : StreamRecord}
    (member : (attachment, record) ∈ stream.history.log) : record.acknowledges ≤ stream.conveyed :=
  (List.le_max_of_le (List.mem_map_of_mem (f := fun entry => entry.2.acknowledges) member)
    le_rfl).trans (Nat.le_max_left _ _)

variable {config : Config} {before after : Stream} {event : Event}

/-! ## The sections that touch `ackPending` and `ackSent` -/

theorem step_finish_acknowledge (stepped : step config before (.finish .acknowledge) = some after) :
    ∃ attachment generation offset terminal confirmation,
      before.phase .acknowledge =
        .written attachment (.acknowledgement generation offset terminal confirmation) ∧
      after = (before.acknowledged config attachment offset terminal confirmation).goto
        .acknowledge .idle := by
  simp only [step, finish] at stepped
  split at stepped
  · contradiction
  · rename_i attachment generation offset terminal confirmation _ written
    cases stepped
    exact ⟨attachment, generation, offset, terminal, confirmation, written, rfl⟩
  · contradiction
  · cases stepped

/-- Handling a record never moves `recvNext` or `ackSent`, and raises `ackPending` at
most to `recvNext`; if it leaves an acknowledgement to queue, that is for `recvNext`. -/
theorem step_process_acks (stepped : step config before .process = some after) :
    after.receive.recvNext = before.receive.recvNext ∧
      after.acks.ackSent = before.acks.ackSent ∧
      (before.acks.ackPending ≤ after.acks.ackPending ∧
        after.acks.ackPending ≤ max before.acks.ackPending before.receive.recvNext) ∧
      ∀ offset, after.phase .receive = .acknowledging offset → offset = after.receive.recvNext := by
  obtain ⟨attachment, record, held, handled⟩ := step_process stepped
  have same : before.acks.ackPending ≤ before.acks.ackPending ∧
      before.acks.ackPending ≤ max before.acks.ackPending before.receive.recvNext := by omega
  cases handled with
  | data offset payload =>
    refine ⟨Receiving.acceptData_recvNext _ _ _ _ _, rfl, same, fun next now => ?_⟩
    rw [receiveData, goto_phase_self] at now
    generalize section_ : before.receive.acceptData before.control.postClose before.limit offset
      payload = result at now
    obtain ⟨receiving, progress⟩ := result
    cases progress with
    | acknowledges acknowledged =>
      cases now
      exact (Receiving.acceptData_acknowledges section_).trans
        (Receiving.acceptData_recvNext _ _ _ _ _).symm
    | _ => cases now
  | acknowledged offset terminal confirmation plain named =>
    unfold receiveAcknowledgement refuse
    split <;> exact ⟨rfl, rfl, same, fun _ now => by cases now⟩
  | terminal offset bounded =>
    unfold receiveTerminal refuse
    split
    · exact ⟨rfl, rfl, same, fun _ now => by cases now⟩
    rename_i expected
    obtain rfl := Decidable.not_not.mp expected
    refine ⟨rfl, rfl, ⟨Nat.le_max_right _ _, Nat.le_of_eq (Nat.max_comm _ _)⟩, fun _ now => ?_⟩
    rw [goto_phase_self] at now
    split at now <;> cases now
  | _ => exact ⟨rfl, rfl, same, fun _ now => by cases now⟩

/-- A completed Application write moves `recvNext`, and then the worker owes. -/
theorem step_applicationWrites (stepped : step config before .applicationWrites = some after) :
    ∃ range progress, before.phase .receive = .delivering range ∧
      after.receive.recvNext = before.receive.recvNext + range.data.length ∧
      after.phase .receive = progressed progress ∧
      ∀ offset, progress = .acknowledges offset → offset = after.receive.recvNext := by
  simp only [step, applicationWrites] at stepped
  split at stepped
  · rename_i range delivering
    cases stepped
    refine ⟨range, _, delivering, Receiving.deliverNext_recvNext _ _, goto_phase_self _ _ _, ?_⟩
    intro offset acknowledges
    exact (Receiving.deliverNext_acknowledges (Prod.ext rfl acknowledges)).trans
      (Receiving.deliverNext_recvNext _ _).symm
  · cases stepped

/-! ## What is owed -/

/-- Unless the receive worker still owes the call, everything received is queued
for acknowledgement. -/
structure Owing (stream : Stream) : Prop where
  queued : stream.receive.recvNext ≤ stream.acks.ackPending ∨ stream.receiveOwes
  exact : ∀ offset, stream.phase .receive = .acknowledging offset →
    offset = stream.receive.recvNext

theorem initial_owing (config : Config) (attachment : Attachment) :
    Owing (initial config attachment) :=
  ⟨.inl (Nat.le_refl 0), nofun⟩

/-- A step of the receive worker that starts while nothing is owed, or a step of
any other worker. -/
theorem Owing.keep (owing : Owing before) (receive : after.receive.recvNext = before.receive.recvNext)
    (acks : before.acks.ackPending ≤ after.acks.ackPending)
    (phase : after.phase .receive = before.phase .receive) : Owing after := by
  refine ⟨?_, fun offset now => ?_⟩
  · rcases owing.queued with queued | owes
    · exact .inl (by omega)
    · right
      rwa [receiveOwes, phase, receive]
  · rw [phase] at now
    rw [receive]
    exact owing.exact offset now

/-- From a phase in which the worker owes nothing, it can only come to owe by a
completed Application write. -/
theorem Owing.settled (owing : Owing before) (none_ : ¬ before.receiveOwes)
    (receive : after.receive.recvNext = before.receive.recvNext)
    (acks : before.acks.ackPending ≤ after.acks.ackPending)
    (exact : ∀ offset, after.phase .receive = .acknowledging offset →
      offset = after.receive.recvNext) : Owing after := by
  refine ⟨.inl ?_, exact⟩
  have queued := owing.queued.resolve_right none_
  omega

section Steps

variable (stepped : step config before event = some after)

include stepped

theorem step_conveyed_le : before.conveyed ≤ after.conveyed := by
  have frame := step_frame stepped
  have quiet (log : after.history.log = before.history.log)
      (commits : after.history.commits = before.history.commits) :
      before.conveyed ≤ after.conveyed := by
    rw [conveyed, conveyed, log, commits]
  cases event with
  | write worker =>
    obtain ⟨_, _, _, _, rfl⟩ := step_write stepped
    simp only [conveyed, goto, List.map_append, foldr_max_append]
    omega
  | commit worker cancelled =>
    obtain ⟨_, _, _, _, _, ⟨_, rfl⟩ | ⟨_, _, _, rfl⟩⟩ := step_commit stepped
    · exact Nat.le_refl _
    · simp only [conveyed, cutover, goto, List.map_cons, List.foldr_cons]
      omega
  | _ => exact quiet (frame.log rfl) (frame.commits rfl)

/-- `ackPending` is only ever raised, and at most to `recvNext`. -/
theorem step_ackPending (owing : Owing before) : before.acks.ackPending ≤ after.acks.ackPending ∧
    after.acks.ackPending ≤ max before.acks.ackPending before.receive.recvNext := by
  have frame := step_frame stepped
  have kept (same : after.acks.ackPending = before.acks.ackPending) :
      before.acks.ackPending ≤ after.acks.ackPending ∧
        after.acks.ackPending ≤ max before.acks.ackPending before.receive.recvNext := by omega
  cases event with
  | finish worker =>
    cases worker with
    | acknowledge =>
      obtain ⟨_, _, _, _, confirmation, _, rfl⟩ := step_finish_acknowledge stepped
      cases confirmation <;> exact kept rfl
    | _ => exact kept (by rw [frame.acks rfl])
  | process => exact (step_process_acks stepped).2.2.1
  | queueAcknowledgement =>
    simp only [step, queueAcknowledgement] at stepped
    split at stepped
    · rename_i offset acknowledging
      obtain rfl := owing.exact offset acknowledging
      cases stepped
      exact ⟨Nat.le_max_right _ _, Nat.le_of_eq (Nat.max_comm _ _)⟩
    · cases stepped
  | commit worker cancelled =>
    obtain ⟨_, _, _, _, _, ⟨_, rfl⟩ | ⟨_, _, _, rfl⟩⟩ := step_commit stepped <;> exact kept rfl
  | _ => exact kept (by rw [frame.acks rfl])

theorem step_owing (owing : Owing before) : Owing after := by
  have frame := step_frame stepped
  have acks := (step_ackPending stepped owing).1
  by_cases mine : event.worker = some .receive
  · cases event
    case process =>
      obtain ⟨receive, _, _, exact⟩ := step_process_acks stepped
      refine owing.settled ?_ receive acks exact
      intro owes
      simp only [step, process] at stepped
      rcases owes with ⟨range, at_⟩ | at_ | ⟨err, at_⟩ <;> rw [at_] at stepped <;> cases stepped
    case applicationWrites =>
      obtain ⟨range, progress, _, _, now, exact⟩ := step_applicationWrites stepped
      refine ⟨.inr ?_, fun offset at_ => ?_⟩
      · cases progress with
        | fails err => exact .inr (.inr ⟨err, now⟩)
        | delivers range => exact .inl ⟨range, now⟩
        | acknowledges offset => exact .inr (.inl (exact offset rfl ▸ now))
      rw [now] at at_
      cases progress with
      | acknowledges offset' =>
        cases at_
        exact exact offset rfl
      | _ => cases at_
    case queueAcknowledgement =>
      simp only [step, queueAcknowledgement] at stepped
      split at stepped
      · rename_i offset acknowledging
        have same := owing.exact offset acknowledging
        cases stepped
        refine ⟨.inl ?_, fun _ now => by cases now⟩
        simp only [goto]
        omega
      · cases stepped
    case applicationFails count =>
      obtain ⟨_, _, _, _, returned⟩ := step_applicationFails stepped
      refine ⟨.inr (.inr (.inr ⟨_, returned⟩)), fun offset now => ?_⟩
      rw [returned] at now
      cases now
    -- the other steps of this worker start where nothing is owed
    all_goals
      obtain ⟨old, new, was, now, moved⟩ := step_moves stepped mine
      refine owing.settled ?_ (congrArg Receiving.recvNext (frame.receive rfl)) acks ?_
      · cases moved <;> grind [receiveOwes]
      · cases moved <;> grind
  · exact owing.keep (by
      by_cases receives : event.receives = false
      · rw [frame.receive receives]
      · cases event <;> first | exact absurd rfl receives | exact absurd rfl mine) acks
      (frame.phase _ mine)

/-! ## `ackSent` -/

/-- **One step keeps `ackSent` within what was conveyed**, when a cutover finds no
unconveyed delivery after its snapshot. -/
theorem step_ackSent_le (tracked : Tracked before) (bound : before.acks.ackSent ≤ before.conveyed)
    (snapshot : before.commitsSnapshot event) : after.acks.ackSent ≤ after.conveyed := by
  have frame := step_frame stepped
  have grows := step_conveyed_le stepped
  have quiet (same : after.acks.ackSent = before.acks.ackSent) :
      after.acks.ackSent ≤ after.conveyed := by omega
  cases event with
  | finish worker =>
    cases worker with
    | acknowledge =>
      obtain ⟨attachment, generation, offset, terminal, confirmation, written, rfl⟩ :=
        step_finish_acknowledge stepped
      have mine := tracked.on written
      cases confirmation with
      | true => exact quiet rfl
      | false =>
        have conveyed : offset ≤ before.conveyed := acknowledges_le_conveyed mine.2.2
        exact (Nat.max_le.mpr ⟨conveyed, bound⟩).trans grows
    | _ => exact quiet (congrArg Acknowledging.ackSent (frame.acks rfl))
  | process => exact quiet (step_process_acks stepped).2.1
  | queueAcknowledgement =>
    simp only [step, queueAcknowledgement] at stepped
    split at stepped <;> cases stepped
    exact quiet rfl
  | commit worker cancelled =>
    simp only [step, commit] at stepped
    split at stepped
    · rename_i failed state attachment peer exchanged
      split at stepped
      · cases stepped
        exact quiet rfl
      rename_i passed
      split at stepped <;> cases stepped
      · exact quiet rfl
      have within : before.receive.recvNext ≤ max before.acks.ackSent state.receiveNext := by
        simpa [commitsSnapshot, exchanged, passed] using snapshot
      simp only [conveyed, cutover, goto, List.map_cons, List.foldr_cons] at bound within ⊢
      omega
    · cases stepped
  | _ => exact quiet (congrArg Acknowledging.ackSent (frame.acks rfl))

end Steps

/-- What is received but not conveyed is owed, since `ackPending` follows `recvNext`. -/
theorem Owing.conveyed (owing : Owing stream)
    (bound : stream.acks.ackSent ≤ stream.conveyed) : Conveyed stream where
  ackSent_le := bound
  owed := fun beyond => by
    rcases owing.queued with queued | owes
    · exact .inl (by omega)
    · exact .inr owes

/-- **No acknowledgement is dropped by a cutover.**  In every history whose
cutovers find no delivery past their snapshot that was not acknowledged before,
`ackSent` never exceeds what the peer was told, and whatever was received beyond
that is still owed an acknowledgement. -/
theorem ackSent_le_conveyed (config : Config) (attachment : Attachment) (events : List Event)
    (snapshots : Along (step config) (fun stream event => stream.commitsSnapshot event)
      (initial config attachment) events) :
    Throughout (step config) Conveyed (initial config attachment) events := by
  have kept : Throughout (step config)
      (fun stream => Tracked stream ∧ Owing stream ∧ stream.acks.ackSent ≤ stream.conveyed)
      (initial config attachment) events := by
    refine snapshots.throughout ?_ ⟨initial_tracked config attachment,
      initial_owing config attachment, Nat.le_refl 0⟩
    rintro before event after ⟨tracked, owing, bound⟩ snapshot stepped
    exact ⟨step_tracked stepped tracked, step_owing stepped owing,
      step_ackSent_le stepped tracked bound snapshot⟩
  exact kept.imp fun stream ⟨_, owing, bound⟩ => owing.conveyed bound

/-! ## A delivery during a recovery -/

/-- A byte from the peer is being written to the Application when a failed write
starts a recovery; the write completes after the snapshot and before the cutover.
The peer, told that nothing was received, replays the byte. -/
def deliveryDuringRecovery : List Event :=
  [.ask, .input [7], .pick, .attach .flush, .enterWrite .flush,
    .check, .attach .receive, .read (.data 1 0 [9]), .process,
    .writeFails .flush, .enterRecovery .flush false, .closeFailed .flush, .propose .flush none,
    .opened .flush .second, .exchange .flush ⟨0, 1, 0, 1, 2⟩,
    .applicationWrites, .commit .flush false, .queueAcknowledgement,
    .check, .attach .receive, .read (.data 2 0 [9]), .process, .queueAcknowledgement,
    .attach .acknowledge, .choose .acknowledge]

/-- The received byte was never conveyed, yet it counts as acknowledged and the
acknowledgement worker finds nothing to send. -/
theorem deliveryDuringRecovery_drops :
    ∃ last, run (step recoverableConfig)
        (initial recoverableConfig (.mk 1 1)) deliveryDuringRecovery = some last ∧
      last.receive.recvNext = 1 ∧ last.conveyed = 0 ∧ last.acks = ⟨1, 1⟩ ∧
      last.phase .acknowledge = .idle ∧ last.phase .receive = .idle ∧
      last.link.terminal = none ∧ ¬ Conveyed last := by
  refine ⟨_, rfl, rfl, rfl, rfl, rfl, rfl, rfl, ?_⟩
  intro conveyed
  exact absurd conveyed.ackSent_le (by decide)

/-- A byte is delivered and acknowledged, and a recovery commits the snapshot that
holds it.  A second byte is delivered during the next recovery, whose commit is
cancelled: its acknowledgement stays owed. -/
def acknowledgedRecovery : List Event :=
  [.check, .attach .receive, .read (.data 1 0 [9]), .process, .applicationWrites,
    .queueAcknowledgement, .attach .acknowledge, .choose .acknowledge,
    .enterWrite .acknowledge, .write .acknowledge, .finish .acknowledge,
    .ask, .input [7], .pick, .attach .flush, .enterWrite .flush, .writeFails .flush,
    .enterRecovery .flush false, .closeFailed .flush, .propose .flush none,
    .opened .flush .second, .exchange .flush ⟨0, 1, 0, 1, 2⟩, .commit .flush false,
    .check, .attach .receive, .read (.data 2 1 [8]), .process,
    .pick, .attach .flush, .enterWrite .flush, .writeFails .flush,
    .enterRecovery .flush false, .closeFailed .flush, .propose .flush none,
    .opened .flush (.mk 3 3), .exchange .flush ⟨0, 2, 0, 1, 2⟩, .applicationWrites,
    .commit .flush true, .queueAcknowledgement]

theorem acknowledgedRecovery_conveys :
    (∃ last, run (step recoverableConfig) (initial recoverableConfig (.mk 1 1))
        acknowledgedRecovery = some last ∧
      last.receive.recvNext = 2 ∧ last.conveyed = 1 ∧ last.acks = ⟨2, 1⟩) ∧
      Throughout (step recoverableConfig) Conveyed
        (initial recoverableConfig (.mk 1 1)) acknowledgedRecovery :=
  ⟨⟨_, rfl, rfl, rfl, rfl⟩, ackSent_le_conveyed _ _ _ (by decide)⟩

end Stream

end Ardents.Connection
