/-
# Connection.Honest — what a Stream puts on its carriers

Two facts about one Stream, whatever its peer sends and however its workers are
scheduled.  `Sourced`: every Data record it writes carries bytes its Application
gave it, at their logical offset.  `Modest`: every offset it acknowledges, in a
record or in a Continuity exchange, is at most `recvNext`.  Both only get weaker
as the Stream runs on, so a record that was honest when it was written is honest
when it is read.
-/
import Ardents.Connection.Acknowledge
import Ardents.Connection.Replay

namespace Ardents.Connection

open Lib

set_option autoImplicit false

/-- The state a recovery has snapshotted, while it may still be exchanged. -/
def Recovery.snapshot : Recovery → Option ContinuityExchange
  | .closing state | .proposing state | .opening state | .exchanging state _
  | .exchanged state _ _ | .refused state _ => some state
  | .abandoned _ => none

def Phase.snapshot : Phase → Option ContinuityExchange
  | .recovering _ recovery => recovery.snapshot
  | _ => none

/-- The worker stands at `attachment()` with a pick, or past it with an Attachment. -/
def Phase.waits : Phase → Bool
  | .picked _ _ | .attached _ => true
  | _ => false

namespace Stream

variable {config : Config} {before after : Stream} {event : Event}

/-! ## Data comes from the Application -/

/-- The retained bytes, the picked bytes and every Data record written are the
Application's input at their offset. -/
structure Sourced (stream : Stream) : Prop where
  flushing : Flushing stream
  sendEnd : stream.history.input.length = stream.send.sendEnd
  sendData : stream.send.sendData = stream.history.input.drop stream.send.sendBase
  picked : ∀ offset payload, (stream.phase .flush).pick = some (offset, payload) →
    payload.length ≤ maximumDataBytes ∧ Agrees (labelled stream.history.input) offset payload
  logged : ∀ attachment generation offset payload,
    (attachment, StreamRecord.data generation offset payload) ∈ stream.history.log →
      payload ≠ [] ∧ payload.length ≤ maximumDataBytes ∧
        Agrees (labelled stream.history.input) offset payload

theorem initial_sourced (config : Config) (attachment : Attachment) :
    Sourced (initial config attachment) where
  flushing := initial_flushing config attachment
  sendEnd := rfl
  sendData := rfl
  picked := nofun
  logged := nofun

variable {offset : Nat} {payload : List UInt8} {attachment : Attachment}

/-- An acknowledgement drops exactly the acknowledged bytes. -/
theorem acknowledgeLocked_sendData {send next : Sending} {input : List UInt8}
    (sendData : send.sendData = input.drop send.sendBase)
    (acknowledged : send.acknowledgeLocked offset = some next) :
    next.sendData = input.drop next.sendBase := by
  unfold Sending.acknowledgeLocked at acknowledged
  split at acknowledged
  · cases acknowledged
    exact sendData
  split at acknowledged
  · cases acknowledged
  cases acknowledged
  show send.sendData.drop (offset - send.sendBase) = input.drop offset
  rw [sendData, List.drop_drop]
  congr 1
  omega

theorem resumed_snapshot (worker : Worker) : (resumed worker).snapshot = none := by
  cases worker <;> rfl

theorem aborted_snapshot (worker : Worker) (err : StreamError) :
    (aborted worker err).snapshot = none := by
  cases worker <;> rfl

/-- Every offset this Stream acknowledges, or may still acknowledge, is at most
`recvNext`; every snapshot is at most the live state. -/
structure Modest (stream : Stream) : Prop where
  owing : Owing stream
  ackPending : stream.acks.ackPending ≤ stream.receive.recvNext
  terminalAckOffset : stream.control.terminalAckOffset ≤ stream.receive.recvNext
  picked : ∀ offset payload, stream.phase .acknowledge = .picked offset payload →
    offset ≤ stream.receive.recvNext
  carried : ∀ attachment generation offset terminal, (stream.phase .acknowledge).carried =
    some (attachment, .acknowledgement generation offset terminal false) →
      offset ≤ stream.receive.recvNext
  logged : ∀ attachment generation offset terminal,
    (attachment, StreamRecord.acknowledgement generation offset terminal false) ∈
      stream.history.log → offset ≤ stream.receive.recvNext
  snapshot : ∀ worker state, (stream.phase worker).snapshot = some state →
    state.receiveNext ≤ stream.receive.recvNext
  offers : ∀ attachment state, (attachment, state) ∈ stream.history.offers →
    state.receiveNext ≤ stream.receive.recvNext

theorem initial_modest (config : Config) (attachment : Attachment) :
    Modest (initial config attachment) where
  owing := initial_owing config attachment
  ackPending := Nat.le_refl 0
  terminalAckOffset := Nat.le_refl 0
  picked := nofun
  carried := nofun
  logged := nofun
  snapshot := nofun
  offers := nofun

variable {terminal : Bool} {generation : Nat}

/-- What the acknowledgement worker takes in hand is at most `recvNext`. -/
theorem Modest.carried_fresh (modest : Modest before)
    (ready : before.attachedPhase config .acknowledge =
      some (.holding attachment (.acknowledgement generation offset terminal false))) :
    offset ≤ before.receive.recvNext := by
  unfold attachedPhase at ready
  split at ready
  · contradiction
  · rename_i offset' payload _ picked
    cases ready
    exact modest.picked _ _ picked
  · split at ready <;> cases ready
  · contradiction
  · contradiction
  · cases ready

theorem Modest.chosen (modest : Modest before) {holder : Attachment}
    (carried : ((before.chooseAcknowledgement attachment).phase .acknowledge).carried =
      some (holder, .acknowledgement generation offset terminal false)) :
    offset ≤ before.receive.recvNext := by
  unfold chooseAcknowledgement at carried
  dsimp only at carried
  split at carried
  · cases carried
  rw [goto_phase_self] at carried
  simp only [Phase.carried, Option.some.injEq, Prod.mk.injEq,
    StreamRecord.acknowledgement.injEq] at carried
  obtain ⟨_, _, rfl, _, plain⟩ := carried
  have confirmation : (before.pendingAcknowledgementLocked attachment).confirmation = false :=
    plain
  simp only [pendingAcknowledgementLocked] at confirmation ⊢
  rw [confirmation]
  split
  · exact modest.terminalAckOffset
  · exact modest.ackPending

/-! ## `Run` sends no Terminal control -/

/-- The acknowledgements of `sendAcknowledgements` carry no marker. -/
structure Unmarked (stream : Stream) : Prop where
  attached : ∀ attachment, stream.phase .acknowledge ≠ .attached attachment
  carried : ∀ attachment generation offset terminal confirmation,
    (stream.phase .acknowledge).carried =
      some (attachment, .acknowledgement generation offset terminal confirmation) →
    confirmation = false
  logged : ∀ attachment generation offset terminal confirmation,
    (attachment, StreamRecord.acknowledgement generation offset terminal confirmation) ∈
      stream.history.log → confirmation = false

theorem initial_unmarked (config : Config) (attachment : Attachment) :
    Unmarked (initial config attachment) where
  attached := nofun
  carried := nofun
  logged := nofun

section Steps

variable (stepped : step config before event = some after)

include stepped

/-- The input only grows. -/
theorem step_history_input : after.history.input = before.history.input ∨
      ∃ bytes, event = .input bytes ∧
        after.history.input = before.history.input ++ bytes := by
  cases step_sends stepped with
  | stays _ input => exact .inl input
  | reads _ input => exact .inr ⟨_, rfl, input⟩
  | _ => exact .inl ((step_frame stepped).input rfl)

theorem step_agrees (agrees : Agrees (labelled before.history.input) offset payload) :
    Agrees (labelled after.history.input) offset payload := by
  rcases step_history_input stepped with same | ⟨bytes, _, same⟩
  · rw [same]
    exact agrees
  · rw [same]
    exact agrees.labelled_append bytes

/-- The window of retained bytes stays the tail of the input. -/
theorem step_sendData (sourced : Sourced before) : after.history.input.length = after.send.sendEnd ∧
      after.send.sendData = after.history.input.drop after.send.sendBase := by
  have frame := step_frame stepped
  have ordered := sourced.flushing.ordered
  cases step_sends stepped with
  | stays send input =>
    rw [input, send]
    exact ⟨sourced.sendEnd, sourced.sendData⟩
  | reads send input =>
    have le : before.send.sendBase ≤ before.history.input.length := by
      rw [sourced.sendEnd]
      exact ordered.base_le.trans ordered.next_le
    rw [input, send]
    constructor
    · simp [sourced.sendEnd]
    · simp [sourced.sendData, List.drop_append_of_le_length le]
  | advances _ _ send =>
    rw [frame.input rfl, send]
    exact ⟨sourced.sendEnd, sourced.sendData⟩
  | acknowledges _ _ acknowledged =>
    rw [frame.input rfl, (ordered.acknowledgeLocked acknowledged).2.1]
    exact ⟨sourced.sendEnd, acknowledgeLocked_sendData sourced.sendData acknowledged⟩
  | rewinds _ acknowledged rewound =>
    have kept := acknowledgeLocked_sendData sourced.sendData acknowledged
    rw [frame.input rfl, rewound]
    refine ⟨?_, kept⟩
    rw [(ordered.acknowledgeLocked acknowledged).2.1]
    exact sourced.sendEnd

/-- A pick is a slice of the retained bytes. -/
theorem step_sourced_pick (sourced : Sourced before)
    (flushed : (after.phase .flush).pick = some (offset, payload)) :
    payload.length ≤ maximumDataBytes ∧ Agrees (labelled after.history.input) offset payload := by
  rcases step_flush_pick stepped flushed with had | ⟨rfl, rfl, rfl⟩
  · exact ⟨(sourced.picked _ _ had).1, step_agrees stepped (sourced.picked _ _ had).2⟩
  have base_le := sourced.flushing.ordered.base_le
  constructor
  · rw [List.length_take]
    omega
  · rw [(step_frame stepped).input rfl, sourced.sendData, List.drop_drop,
      Nat.add_sub_cancel' base_le]
    exact Agrees.labelled_slice _ _ _

/-- A record reaches the log from the hands of the worker it was admitted for. -/
theorem step_logged {record : StreamRecord} (member : (attachment, record) ∈ after.history.log) :
    (attachment, record) ∈ before.history.log ∨
      ∃ worker, event = .write worker ∧ before.phase worker = .admitted attachment record := by
  by_cases writes : event.writes = false
  · rw [(step_frame stepped).log writes] at member
    exact .inl member
  cases event with
  | write worker =>
    obtain ⟨wrote, entry, admitted, _, rfl⟩ := step_write stepped
    simp only [goto, List.mem_append, List.mem_singleton, Prod.mk.injEq] at member
    rcases member with member | ⟨rfl, rfl⟩
    · exact .inl member
    · exact .inr ⟨worker, rfl, admitted⟩
  | _ => exact absurd rfl writes

theorem step_sourced (sourced : Sourced before) : Sourced after where
  flushing := step_flushing sourced.flushing stepped
  sendEnd := (step_sendData stepped sourced).1
  sendData := (step_sendData stepped sourced).2
  picked := fun _ _ => step_sourced_pick stepped sourced
  logged := by
    intro attachment generation offset payload member
    rcases step_logged stepped member with had | ⟨worker, _, admitted⟩
    · obtain ⟨nonempty, small, agrees⟩ := sourced.logged _ _ _ _ had
      exact ⟨nonempty, small, step_agrees stepped agrees⟩
    -- a Data record in hand was picked
    obtain rfl := (sourced.flushing.tracked.writer admitted).2.1 rfl
    have carried : (before.phase .flush).pick = some (offset, payload) := by
      rw [admitted]
      rfl
    have agrees := (sourced.picked _ _ carried).2
    exact ⟨(sourced.flushing.picked _ _ carried).1, (sourced.picked _ _ carried).1,
      step_agrees stepped agrees⟩

/-! ## Acknowledgements stay within what was received -/

theorem step_recvNext_le : before.receive.recvNext ≤ after.receive.recvNext := by
  cases event with
  | process => exact Nat.le_of_eq (step_process_acks stepped).1.symm
  | applicationWrites =>
    obtain ⟨_, _, _, moved, _⟩ := step_applicationWrites stepped
    omega
  | _ => exact Nat.le_of_eq (congrArg Receiving.recvNext ((step_frame stepped).receive rfl)).symm

variable {state : ContinuityExchange} {worker : Worker}

/-- A snapshot is taken by the first section of `recoverAttachment` and kept. -/
theorem step_snapshot (has : (after.phase worker).snapshot = some state) :
    (before.phase worker).snapshot = some state ∨
      state = ⟨before.link.current.generation + 1, before.send.sendBase, before.send.sendEnd,
        before.receive.recvNext⟩ := by
  by_cases mine : event.worker = some worker
  · by_cases recovers : event.recovers = true
    · cases event
      all_goals first | (cases recovers; done) | skip
      all_goals
        rw [Event.worker, Option.some.injEq] at mine
        subst mine
        simp only [step, enterRecovery, closeFailed, propose, opened, openFails, exchange,
          exchangeFails, commit, retry, abandon, unlessComplete] at stepped
      all_goals (repeat' split at stepped)
      all_goals cases stepped
      all_goals rw [goto_phase_self] at has
      all_goals first
        | (rw [resumed_snapshot] at has; cases has)
        | (rw [aborted_snapshot] at has; cases has)
        | (left; simp_all [Phase.snapshot, Recovery.snapshot]; done)
        | skip
      · rename_i same _ _
        cases has
        have failed := Decidable.not_not.mp same
        exact .inr (by rw [failed])
    · have kept (failed : Attachment) (recovery : Recovery)
          (now : after.phase worker = .recovering failed recovery) :
          before.phase worker = .recovering failed recovery :=
        step_recovering_of stepped (Bool.eq_false_iff.mpr recovers) now
      left
      generalize after.phase worker = phase at has kept
      cases phase with
      | recovering failed recovery =>
        rw [kept failed recovery rfl]
        exact has
      | _ => cases has
  · left
    rw [← (step_frame stepped).phase _ mine]
    exact has

/-- A Continuity record on a proposed Attachment is the snapshot of the worker
that proposed it. -/
theorem step_offers (offered : (attachment, state) ∈ after.history.offers) :
    (attachment, state) ∈ before.history.offers ∨
      ∃ worker, event = .opened worker attachment ∧
        (before.phase worker).snapshot = some state := by
  by_cases opens : event.opens = false
  · left
    rw [← (step_frame stepped).offers opens]
    exact offered
  cases event with
  | opened worker proposed =>
    simp only [step, opened] at stepped
    split at stepped
    · rename_i failed snapshot opening
      split at stepped
      · cases stepped
        exact .inl offered
      cases stepped
      rcases List.mem_cons.mp offered with same | member
      · cases same
        exact .inr ⟨worker, rfl, by rw [opening]; rfl⟩
      · exact .inl member
    · cases stepped
  | _ => exact absurd rfl opens

/-- An accepted Terminal's receipt names `recvNext`. -/
theorem step_terminalAckOffset (tracked : Tracked before)
    (bound : before.control.terminalAckOffset ≤ before.receive.recvNext) :
    after.control.terminalAckOffset ≤ after.receive.recvNext := by
  have grows := step_recvNext_le stepped
  rcases step_receipt tracked stepped with ⟨_, _, _, offset, _⟩ | ⟨rfl, attachment, _, rfl⟩
  · rw [offset]
    exact bound.trans grows
  simp only [receiveTerminal, goto, ne_eq, not_true_eq_false, if_false]
  split
  · exact Nat.le_refl _
  · exact bound

/-- **Where a worker comes to wait for its next section**, with a pick or with an
Attachment: from `flushAvailable`, `attachment()` or `sendAcknowledgements`. -/
theorem step_waits (now : (after.phase worker).waits = true) :
    after.phase worker = before.phase worker ∨ worker = .flush ∨
      (event = .attach worker ∧ before.attachedPhase config worker = some (after.phase worker)) ∨
      (worker = .acknowledge ∧ config.bounded = false ∧
        after.phase worker = .picked before.acks.ackPending []) := by
  by_cases mine : event.worker = some worker
  · obtain ⟨old, new, was, now', moved⟩ := step_moves stepped mine
    cases moved
    case attachPending | attachTerminal => simp_all [attachedPhase]
    all_goals grind [Phase.waits]
  · exact .inl ((step_frame stepped).phase _ mine)

theorem step_acknowledge_picked (now : after.phase .acknowledge = .picked offset payload) :
    before.phase .acknowledge = .picked offset payload ∨ offset = before.acks.ackPending := by
  have waits : (after.phase .acknowledge).waits = true := by
    rw [now]
    rfl
  rcases step_waits stepped waits with same | never | ⟨_, ready⟩ | ⟨_, _, picked⟩
  · exact .inl (same ▸ now)
  · cases never
  · rw [now] at ready
    unfold attachedPhase at ready
    (repeat' split at ready) <;> cases ready
  · rw [now] at picked
    cases picked
    exact .inr rfl

theorem step_modest_carried (modest : Modest before)
    (carried : (after.phase .acknowledge).carried =
      some (attachment, .acknowledgement generation offset terminal false)) :
    offset ≤ before.receive.recvNext := by
  rcases step_carried stepped carried with had | ⟨_, ready⟩ | ⟨rfl, attached⟩
  · exact modest.carried _ _ _ _ had
  · exact modest.carried_fresh ready
  · simp only [step, choose, attached, Option.some.injEq] at stepped
    subst stepped
    exact modest.chosen carried

theorem step_modest (tracked : Tracked before) (modest : Modest before) : Modest after where
  owing := step_owing stepped modest.owing
  ackPending := by
    have raised := (step_ackPending stepped modest.owing).2
    rw [Nat.max_eq_right modest.ackPending] at raised
    exact raised.trans (step_recvNext_le stepped)
  terminalAckOffset := step_terminalAckOffset stepped tracked modest.terminalAckOffset
  picked := by
    intro offset payload now
    have grows := step_recvNext_le stepped
    rcases step_acknowledge_picked stepped now with had | rfl
    · exact (modest.picked _ _ had).trans grows
    · exact modest.ackPending.trans grows
  carried := fun _ _ _ _ carried =>
    (step_modest_carried stepped modest carried).trans (step_recvNext_le stepped)
  logged := by
    intro attachment generation offset terminal member
    refine Nat.le_trans ?_ (step_recvNext_le stepped)
    rcases step_logged stepped member with had | ⟨worker, _, admitted⟩
    · exact modest.logged _ _ _ _ had
    · obtain rfl := (tracked.writer admitted).2.2 rfl rfl
      exact modest.carried _ _ _ _ (by rw [admitted]; rfl)
  snapshot := by
    intro worker state has
    have grows := step_recvNext_le stepped
    rcases step_snapshot stepped has with had | rfl
    · exact (modest.snapshot _ _ had).trans grows
    · exact grows
  offers := by
    intro attachment state offered
    have grows := step_recvNext_le stepped
    rcases step_offers stepped offered with had | ⟨worker, _, opening⟩
    · exact (modest.offers _ _ had).trans grows
    · exact (modest.snapshot worker _ opening).trans grows

theorem step_unmarked (counted : config.bounded = false) (tracked : Tracked before)
    (unmarked : Unmarked before) : Unmarked after where
  attached := by
    intro attachment now
    have waits : (after.phase .acknowledge).waits = true := by
      rw [now]
      rfl
    rcases step_waits stepped waits with same | never | ⟨_, ready⟩ | ⟨_, _, picked⟩
    · exact unmarked.attached attachment (same ▸ now)
    · cases never
    · rw [now] at ready
      simp only [attachedPhase, counted] at ready
      (repeat' split at ready) <;> cases ready
      all_goals contradiction
    · rw [now] at picked
      cases picked
  carried := by
    intro attachment generation offset terminal confirmation carried
    rcases step_carried stepped carried with had | ⟨_, ready⟩ | ⟨_, attached⟩
    · exact unmarked.carried _ _ _ _ _ had
    · unfold attachedPhase at ready
      split at ready <;> first | contradiction | skip
      · cases ready
        rfl
      · split at ready <;> cases ready
    · exact absurd attached (unmarked.attached _)
  logged := by
    intro attachment generation offset terminal confirmation member
    rcases step_logged stepped member with had | ⟨worker, _, admitted⟩
    · exact unmarked.logged _ _ _ _ _ had
    · obtain rfl := (tracked.writer admitted).2.2 rfl rfl
      exact unmarked.carried _ _ _ _ _ (by rw [admitted]; rfl)

end Steps

end Stream

end Ardents.Connection
