/-
# Connection.Control — the Terminal-control fields of one Stream

The three-way close of `RunBounded` (Terminal, receipt, confirmation) is kept in
some twenty fields that four workers touch.  The invariants here are those of one
Stream, whatever its peer sends: `Terminating` for the direction it ends itself,
`Receipting` for the direction its peer ends, and `Concluding` for what
`RunBounded` has seen when it takes its outcome.
-/
import Ardents.Connection.Flow

namespace Ardents.Connection

open Lib

set_option autoImplicit false

/-- The Attachment the receive worker reads from, or whose record it holds. -/
def Phase.source : Phase → Option Attachment
  | .reading attachment | .readFailed attachment _ | .held attachment _ => some attachment
  | _ => none

/-- The outcome `RunBounded` has taken. -/
def MainPhase.outcome : MainPhase → Option Outcome
  | .waiting => none
  | .taken outcome | .checked outcome | .awaiting outcome | .returned outcome => some outcome

namespace Stream

variable {config : Config} {before after : Stream} {event : Event}

/-! ## Where the Terminal and acknowledgement workers go -/

theorem step_choose_terminal (stepped : step config before (.choose .terminal) = some after) :
    ∃ attachment, before.phase .terminal = .attached attachment ∧
      after = before.chooseTerminal config attachment := by
  simp only [step, choose] at stepped
  split at stepped <;> first | contradiction | skip
  rename_i attachment _ attached
  cases stepped
  exact ⟨attachment, attached, rfl⟩

variable {attachment : Attachment} {generation : Nat} {record : StreamRecord}

/-- A receipt is pending for the Attachment that carried the accepted Terminal. -/
theorem pending_terminal (terminal : (before.pendingAcknowledgementLocked attachment).terminal = true) :
    before.control.terminalAckPending = true ∧
      before.control.terminalAckPendingGeneration = attachment.generation ∧
      (before.pendingAcknowledgementLocked attachment).offset = before.control.terminalAckOffset ∧
      (before.pendingAcknowledgementLocked attachment).confirmation = false := by
  have fields := terminal
  simp only [pendingAcknowledgementLocked, Bool.and_eq_true, decide_eq_true_eq] at fields
  refine ⟨fields.1.1, fields.2, ?_, ?_⟩
  · exact if_pos terminal
  · simp only [pendingAcknowledgementLocked] at terminal ⊢
    rw [terminal]
    rfl

/-- A confirmation is pending for the Attachment that carried the receipt. -/
theorem pending_confirmation
    (confirmation : (before.pendingAcknowledgementLocked attachment).confirmation = true) :
    before.control.terminalConfirmationPending = true ∧
      before.control.terminalConfirmationGeneration = attachment.generation ∧
      (before.pendingAcknowledgementLocked attachment).offset =
        before.control.terminalConfirmationOffset := by
  have fields := confirmation
  simp only [pendingAcknowledgementLocked, Bool.and_eq_true, decide_eq_true_eq,
    Bool.not_eq_true'] at fields
  obtain ⟨⟨⟨terminal, pending⟩, _⟩, generation⟩ := fields
  refine ⟨pending, generation, ?_⟩
  simp only [pendingAcknowledgementLocked] at confirmation ⊢
  rw [terminal, if_neg (by simp), if_pos (by simpa [terminal] using confirmation)]

variable {offset : Nat}

/-- The record the acknowledgement worker chooses is the pending one. -/
theorem chooseAcknowledgement_carried {holder : Attachment} {terminal confirmation : Bool}
    (carried : ((before.chooseAcknowledgement attachment).phase .acknowledge).carried =
      some (holder, .acknowledgement generation offset terminal confirmation)) :
    holder = attachment ∧ generation = attachment.generation ∧
      offset = (before.pendingAcknowledgementLocked attachment).offset ∧
      terminal = ((before.pendingAcknowledgementLocked attachment).terminal ||
        (before.pendingAcknowledgementLocked attachment).confirmation) ∧
      confirmation = (before.pendingAcknowledgementLocked attachment).confirmation := by
  unfold chooseAcknowledgement at carried
  dsimp only at carried
  split at carried <;> rw [goto_phase_self] at carried <;> cases carried
  exact ⟨rfl, rfl, rfl, rfl, rfl⟩

theorem chooseAcknowledgement_control (attachment : Attachment) :
    (before.chooseAcknowledgement attachment).control =
      if (before.pendingAcknowledgementLocked attachment).terminal then
        { before.control with
          terminalAckWriting := true
          terminalAckWritingGeneration := attachment.generation
          terminalAckWritingOffset := (before.pendingAcknowledgementLocked attachment).offset }
      else before.control := by
  unfold chooseAcknowledgement
  dsimp only
  (repeat' split) <;> rfl

/-! ## The direction this Stream ends -/

/-- **The local Terminal**: it is chosen after the end of input, so every Terminal
in hand or on a carrier names `sendEnd`; and the one on the current Attachment is
recorded in `terminalGeneration`, or about to be. -/
structure Terminating (config : Config) (stream : Stream) : Prop where
  ended : stream.control.localTerminal = true → stream.sender = .ended
  busy : stream.phase .terminal ≠ .idle → stream.sender = .ended
  localTerminal : config.bounded = true → stream.phase .terminal ≠ .idle →
    stream.control.localTerminal = true
  carried : ∀ attachment record, (stream.phase .terminal).carried = some (attachment, record) →
    record.offset = stream.send.sendEnd ∧ (config.bounded = true →
      stream.control.terminalWriting = true ∧
      stream.control.terminalWritingGeneration = attachment.generation ∧
      stream.control.terminalOffset = stream.send.sendEnd)
  logged : ∀ attachment generation offset,
    (attachment, StreamRecord.terminal generation offset) ∈ stream.history.log →
      offset = stream.send.sendEnd ∧ stream.sender = .ended
  current : config.bounded = true → ∀ generation offset,
    (stream.link.current, StreamRecord.terminal generation offset) ∈ stream.history.log →
      stream.control.localTerminal = true ∧ stream.control.terminalOffset = stream.send.sendEnd ∧
      (stream.control.terminalGeneration = stream.link.current.generation ∨
        ∃ record, stream.phase .terminal = .written stream.link.current record)

theorem initial_terminating (config : Config) (attachment : Attachment) :
    Terminating config (initial config attachment) where
  ended := nofun
  busy := fun never => absurd rfl never
  localTerminal := fun _ never => absurd rfl never
  carried := nofun
  logged := nofun
  current := nofun

/-- The worker that carries a record is not idle. -/
theorem ne_idle_of_carried {phase : Phase} {entry : Attachment × StreamRecord}
    (carried : phase.carried = some entry) : phase ≠ .idle := by
  rintro rfl
  cases carried

theorem step_endOfInput (stepped : step config before .endOfInput = some after) :
    after.sender = .ended ∧ (config.bounded = true → after.control.localTerminal = true) := by
  simp only [step, endOfInput] at stepped
  split at stepped
  · split at stepped
    · cases stepped
      exact ⟨rfl, fun _ => rfl⟩
    · rename_i counted
      split at stepped <;> cases stepped
      exact ⟨rfl, fun bounded => absurd bounded counted⟩
  · cases stepped

section Steps

variable (stepped : step config before event = some after)

include stepped

/-- **A step of the Terminal worker** leaves it with no record, with the Terminal
that `ensureTerminal` just chose, or with the record it had and all fields as they
were. -/
theorem step_terminal (mine : event.worker = some .terminal) :
    (after.phase .terminal).carried = none ∨
      (∃ attachment, event = .choose .terminal ∧ before.phase .terminal = .attached attachment ∧
        after = before.chooseTerminal config attachment) ∨
      ((before.phase .terminal).carried = (after.phase .terminal).carried ∧
        after.control = before.control ∧ event ≠ .finish .terminal) := by
  obtain ⟨old, new, was, now, moved⟩ := step_moves stepped mine
  have control := (step_frame stepped).control
  cases moved <;> grind [Phase.carried, Event.controls]

/-- **A step of the acknowledgement worker**, in the same three ways; in `Run` it
takes its record at `attachment()`. -/
theorem step_acknowledger (mine : event.worker = some .acknowledge) :
    (after.phase .acknowledge).carried = none ∨
      (∃ attachment, event = .choose .acknowledge ∧
        before.phase .acknowledge = .attached attachment ∧
        after = before.chooseAcknowledgement attachment) ∨
      (∃ attachment generation offset, event = .attach .acknowledge ∧ after.phase .acknowledge =
        .holding attachment (.acknowledgement generation offset false false)) ∨
      ((before.phase .acknowledge).carried = (after.phase .acknowledge).carried ∧
        after.control = before.control ∧ event ≠ .finish .acknowledge) := by
  obtain ⟨old, new, was, now, moved⟩ := step_moves stepped mine
  have control := (step_frame stepped).control
  cases moved <;> grind [Phase.carried, Event.controls]

/-- After the end of input no more bytes are accepted. -/
theorem step_sendEnd (ordered : before.send.Ordered) (ended : before.sender = .ended) :
    after.send.sendEnd = before.send.sendEnd :=
  (step_window stepped ordered).2.resolve_right fun ⟨bytes, read, _⟩ =>
    (step_ended stepped ended).2 bytes read

variable {worker : Worker}

/-- A worker that has written its record next records that it did. -/
theorem step_written (written : before.phase worker = .written attachment record)
    (mine : event.worker = some worker) :
    event = .finish worker ∨ event = .endOfInput ∨ event = .startTail := by
  obtain ⟨old, new, was, now, moved⟩ := step_moves stepped mine
  cases moved <;> simp_all

/-- A worker that has returned stays returned, unless the tail replaces it. -/
theorem step_returned {result : Option StreamError}
    (returned : before.phase worker = .returned result) (mine : event.worker = some worker) :
    event = .endOfInput ∨ event = .startTail ∨ event = .tailReceive := by
  obtain ⟨old, new, was, now, moved⟩ := step_moves stepped mine
  cases moved <;> simp_all

end Steps

theorem step_finish_terminal (bounded : config.bounded = true)
    (stepped : step config before (.finish .terminal) = some after) :
    ∃ attachment generation offset,
      before.phase .terminal = .written attachment (.terminal generation offset) ∧
      after = (before.terminalWritten attachment).goto .terminal .checking := by
  simp only [step, finish, bounded, if_true] at stepped
  split at stepped
  · contradiction
  · contradiction
  · rename_i attachment generation offset _ written
    cases stepped
    exact ⟨attachment, generation, offset, written, rfl⟩
  · cases stepped

section Terminating

variable (tracked : Tracked before) (ordered : before.send.Ordered)
  (terminating : Terminating config before) (stepped : step config before event = some after)

include tracked ordered terminating stepped

/-- The Terminal worker carries nothing but Terminals of the whole input. -/
theorem step_terminating_carried
    (carried : (after.phase .terminal).carried = some (attachment, record)) :
    record.offset = after.send.sendEnd ∧ (config.bounded = true →
      after.control.terminalWriting = true ∧
      after.control.terminalWritingGeneration = attachment.generation ∧
      after.control.terminalOffset = after.send.sendEnd) := by
  by_cases mine : event.worker = some .terminal
  · rcases step_terminal stepped mine with none_ | ⟨holder, rfl, attached, chosen⟩ | ⟨same, control, _⟩
    · rw [none_] at carried
      cases carried
    · unfold chooseTerminal at chosen
      (repeat' split at chosen) <;> subst chosen <;> rw [goto_phase_self] at carried <;>
        cases carried
      · rename_i counted
        exact ⟨rfl, fun bounded => absurd bounded (by simp [counted])⟩
      · exact ⟨rfl, fun _ => ⟨rfl, rfl, rfl⟩⟩
    · rw [← same] at carried
      obtain ⟨offset, fields⟩ := terminating.carried _ _ carried
      have sendEnd := step_sendEnd stepped ordered (terminating.busy (ne_idle_of_carried carried))
      rw [control, sendEnd]
      exact ⟨offset, fields⟩
  · rw [(step_frame stepped).phase _ mine] at carried
    have control := step_controlFrame stepped tracked
    have sendEnd := step_sendEnd stepped ordered (terminating.busy (ne_idle_of_carried carried))
    have other : event ≠ .choose .terminal := by
      rintro rfl
      exact mine rfl
    rw [control.terminalWriting mine, control.terminalWritingGeneration other,
      control.terminalOffset other, sendEnd]
    exact terminating.carried _ _ carried

/-- The Terminal on the current Attachment stays recorded. -/
theorem step_terminating_current (bounded : config.bounded = true)
    (member : (after.link.current, StreamRecord.terminal generation offset) ∈ after.history.log) :
    after.control.localTerminal = true ∧ after.control.terminalOffset = after.send.sendEnd ∧
      (after.control.terminalGeneration = after.link.current.generation ∨
        ∃ record, after.phase .terminal = .written after.link.current record) := by
  have frame := step_frame stepped
  have control := step_controlFrame stepped tracked
  rcases step_current stepped with same | ⟨newer, log, _⟩
  · rw [same] at member ⊢
    rcases step_logged stepped member with had | ⟨worker, rfl, admitted⟩
    · obtain ⟨localTerminal, terminalOffset, recorded⟩ := terminating.current bounded _ _ had
      have ended := terminating.ended localTerminal
      have sendEnd := step_sendEnd stepped ordered ended
      have ends : event ≠ .endOfInput := by
        rintro rfl
        simp [step, endOfInput, ended] at stepped
      refine ⟨by rw [control.localTerminal ends]; exact localTerminal, ?_, ?_⟩
      · rw [sendEnd]
        by_cases chooses : event = .choose .terminal
        · subst chooses
          obtain ⟨holder, _, rfl⟩ := step_choose_terminal stepped
          unfold chooseTerminal
          (repeat' split) <;> first | exact terminalOffset | rfl
        · rw [control.terminalOffset chooses]
          exact terminalOffset
      · by_cases finishes : event = .finish .terminal
        · subst finishes
          obtain ⟨holder, _, _, written, rfl⟩ := step_finish_terminal bounded stepped
          left
          show (if _ then _ else _) = _
          split
          · rename_i same
            rw [same]
          rename_i differs
          rcases recorded with same | ⟨record, now⟩
          · exact same
          · rw [written] at now
            cases now
            exact absurd rfl differs
        · rw [control.terminalGeneration finishes]
          rcases recorded with same | ⟨record, now⟩
          · exact .inl same
          right
          refine ⟨record, ?_⟩
          rw [frame.phase .terminal fun mine => ?_]
          · exact now
          rcases step_written stepped now mine with same | same | same
          · exact finishes same
          · exact ends same
          · subst same
            cases mine
    · obtain rfl := (tracked.writer admitted).1 rfl
      have busy : before.phase .terminal ≠ .idle := by
        rw [admitted]
        rintro ⟨⟩
      obtain ⟨_, fields⟩ := terminating.carried before.link.current (.terminal generation offset)
        (by rw [admitted]; rfl)
      obtain ⟨wrote, record, admitted', _, rfl⟩ := step_write stepped
      rw [admitted] at admitted'
      cases admitted'
      exact ⟨terminating.localTerminal bounded busy, (fields bounded).2.2,
        .inr ⟨_, goto_phase_self _ _ _⟩⟩
  · exact absurd (log ▸ member) (tracked.fresh newer _)

theorem step_terminating : Terminating config after where
  ended := by
    intro localTerminal
    by_cases ends : event = .endOfInput
    · subst ends
      exact (step_endOfInput stepped).1
    · rw [(step_controlFrame stepped tracked).localTerminal ends] at localTerminal
      exact (step_ended stepped (terminating.ended localTerminal)).1
  busy := by
    intro busy
    by_cases idle : before.phase .terminal = .idle
    · rcases step_terminal_idle stepped idle with still | rfl
      · exact absurd still busy
      · exact (step_endOfInput stepped).1
    · exact (step_ended stepped (terminating.busy idle)).1
  localTerminal := by
    intro bounded busy
    by_cases ends : event = .endOfInput
    · subst ends
      exact (step_endOfInput stepped).2 bounded
    rw [(step_controlFrame stepped tracked).localTerminal ends]
    refine terminating.localTerminal bounded fun idle => ?_
    rcases step_terminal_idle stepped idle with still | same
    · exact busy still
    · exact ends same
  carried := fun _ _ carried => step_terminating_carried tracked ordered terminating stepped carried
  logged := by
    intro attachment generation offset member
    rcases step_logged stepped member with had | ⟨worker, rfl, admitted⟩
    · obtain ⟨same, ended⟩ := terminating.logged _ _ _ had
      exact ⟨same.trans (step_sendEnd stepped ordered ended).symm, (step_ended stepped ended).1⟩
    obtain rfl := (tracked.writer admitted).1 rfl
    have ended := terminating.busy (by rw [admitted]; nofun)
    have same := (terminating.carried attachment (.terminal generation offset)
      (by rw [admitted]; rfl)).1
    exact ⟨same.trans (step_sendEnd stepped ordered ended).symm, (step_ended stepped ended).1⟩
  current := fun bounded _ _ member =>
    step_terminating_current tracked ordered terminating stepped bounded member

end Terminating

/-! ## The direction the peer ends -/

/-- Handling a record leaves the receive worker without an Attachment. -/
theorem step_process_source (stepped : step config before .process = some after) :
    (after.phase .receive).source = none := by
  obtain ⟨attachment, record, held, handled⟩ := step_process stepped
  cases handled with
  | data offset payload =>
    rw [receiveData, goto_phase_self]
    unfold progressed
    split <;> rfl
  | acknowledged offset terminal confirmation plain named =>
    unfold receiveAcknowledgement refuse
    split <;> rw [goto_phase_self] <;> rfl
  | terminal offset bounded =>
    unfold receiveTerminal refuse
    split <;> rw [goto_phase_self]
    · rfl
    · split <;> rfl
  | _ => first | (rw [refuse, goto_phase_self]; rfl) | (rw [goto_phase_self]; rfl)

section Marks

variable (stepped : step config before event = some after)

include stepped

/-- The receive worker reads from the Attachment that was current when it began. -/
theorem step_source (now : (after.phase .receive).source = some attachment) :
    (before.phase .receive).source = some attachment ∨ attachment = before.link.current := by
  by_cases mine : event.worker = some .receive
  · obtain ⟨old, new, was, now', moved⟩ := step_moves stepped mine
    cases moved <;> grind [Phase.source]
  · rw [(step_frame stepped).phase _ mine] at now
    exact .inl now

/-- The current generation never goes back. -/
theorem step_generation_le : before.link.current.generation ≤ after.link.current.generation := by
  rcases step_current stepped with same | ⟨newer, _⟩
  · rw [same]
  · exact Nat.le_of_lt newer

end Marks

/-- **The peer's Terminal and its receipt**: a receipt is owed once the Terminal
was accepted, names the Attachment of the newest accepted Terminal, and the one on
the current Attachment is recorded as sent, or about to be. -/
structure Receipting (config : Config) (stream : Stream) : Prop where
  remote : stream.control.terminalAckPending = true → stream.control.remoteTerminal = true
  owed : stream.control.remoteTerminal = true → config.receipts = true →
    stream.control.terminalAckPending = true
  named : stream.control.terminalAckGeneration ≠ 0 → stream.control.terminalAckPending = true
  sent : stream.control.terminalAckSent = true → stream.control.terminalAckGeneration ≠ 0
  carried : ∀ attachment generation offset, (stream.phase .acknowledge).carried =
      some (attachment, .acknowledgement generation offset true false) →
    stream.control.terminalAckPending = true ∧ stream.control.terminalAckWriting = true ∧
    stream.control.terminalAckWritingGeneration = attachment.generation ∧
    stream.control.terminalAckWritingOffset = offset ∧
    attachment.generation ≤ stream.control.terminalAckPendingGeneration
  logged : ∀ attachment generation offset,
    (attachment, StreamRecord.acknowledgement generation offset true false) ∈ stream.history.log →
      stream.control.terminalAckPending = true ∧
      attachment.generation ≤ stream.control.terminalAckPendingGeneration
  generation_le : stream.control.terminalAckPendingGeneration ≤ stream.link.current.generation
  reader : ∀ attachment, (stream.phase .receive).source = some attachment →
    stream.control.terminalAckPendingGeneration ≤ attachment.generation
  concluded : ∀ outcome, stream.main = .taken outcome ∨ stream.main = .checked outcome →
    stream.phase .acknowledge = .returned none
  current : ∀ generation offset,
    (stream.link.current, StreamRecord.acknowledgement generation offset true false) ∈
      stream.history.log →
    stream.control.terminalAckSent = true ∧
        stream.control.terminalAckGeneration = stream.link.current.generation ∨
      ∃ stamp offset, stream.phase .acknowledge =
        .written stream.link.current (.acknowledgement stamp offset true false)

theorem initial_receipting (config : Config) (attachment : Attachment) :
    Receipting config (initial config attachment) where
  remote := nofun
  owed := nofun
  named := fun never => absurd rfl never
  sent := nofun
  carried := nofun
  logged := nofun
  generation_le := Nat.zero_le _
  reader := nofun
  concluded := fun _ never => by rcases never with never | never <;> cases never
  current := nofun

section Receipting

variable (tracked : Tracked before) (receipting : Receipting config before)
  (stepped : step config before event = some after)

include tracked receipting stepped

/-- A receipt owed stays owed, and never for an older Attachment. -/
theorem step_pending :
    (before.control.terminalAckPending = true → after.control.terminalAckPending = true) ∧
      before.control.terminalAckPendingGeneration ≤
        after.control.terminalAckPendingGeneration := by
  rcases step_receipt tracked stepped with ⟨_, pending, generation, _⟩ | ⟨rfl, attachment, held, rfl⟩
  · rw [pending, generation]
    exact ⟨id, Nat.le_refl _⟩
  have newer := receipting.reader attachment (by rw [held]; rfl)
  simp only [receiveTerminal, goto, ne_eq, not_true_eq_false, if_false]
  constructor
  · intro pending
    split
    · rfl
    · exact pending
  · split
    · exact newer
    · exact Nat.le_refl _

/-- A receipt in hand was chosen for the Attachment it is owed on. -/
theorem step_receipting_carried
    (carried : (after.phase .acknowledge).carried = some (attachment, .acknowledgement generation offset true false)) :
    after.control.terminalAckPending = true ∧ after.control.terminalAckWriting = true ∧
    after.control.terminalAckWritingGeneration = attachment.generation ∧
    after.control.terminalAckWritingOffset = offset ∧
    attachment.generation ≤ after.control.terminalAckPendingGeneration := by
  by_cases mine : event.worker = some .acknowledge
  · rcases step_acknowledger stepped mine with none_ | ⟨holder, rfl, _, rfl⟩ |
      ⟨_, _, _, _, now⟩ | ⟨same, control, _⟩
    · rw [none_] at carried
      cases carried
    · obtain ⟨rfl, _, rfl, terminal, confirmation⟩ := chooseAcknowledgement_carried carried
      rw [← confirmation, Bool.or_false] at terminal
      obtain ⟨pending, generation, _, _⟩ := pending_terminal terminal.symm
      rw [chooseAcknowledgement_control, if_pos terminal.symm]
      exact ⟨pending, rfl, rfl, rfl, Nat.le_of_eq generation.symm⟩
    · rw [now] at carried
      cases carried
    · rw [control]
      exact receipting.carried _ _ _ (same ▸ carried)
  · have control := step_controlFrame stepped tracked
    rw [(step_frame stepped).phase _ mine] at carried
    obtain ⟨pending, writing, writingGeneration, writingOffset, older⟩ :=
      receipting.carried _ _ _ carried
    have grows := step_pending tracked receipting stepped
    have other : event ≠ .choose .acknowledge := by
      rintro rfl
      exact mine rfl
    rw [control.terminalAckWriting mine, control.terminalAckWritingGeneration other,
      control.terminalAckWritingOffset other]
    exact ⟨grows.1 pending, writing, writingGeneration, writingOffset, older.trans grows.2⟩

/-- An acknowledgement on the current Attachment, once written, is recorded. -/
theorem step_receipting_current (bounded : config.bounded = true)
    (member : (after.link.current, StreamRecord.acknowledgement generation offset true false) ∈ after.history.log) :
    after.control.terminalAckSent = true ∧
        after.control.terminalAckGeneration = after.link.current.generation ∨
      ∃ stamp offset, after.phase .acknowledge =
        .written after.link.current (.acknowledgement stamp offset true false) := by
  have frame := step_frame stepped
  have control := step_controlFrame stepped tracked
  rcases step_current stepped with same | ⟨newer, log, _⟩
  · rw [same] at member ⊢
    rcases step_logged stepped member with had | ⟨worker, rfl, admitted⟩
    · have recorded := receipting.current _ _ had
      by_cases finishes : event = .finish .acknowledge
      · subst finishes
        left
        obtain ⟨holder, stamp, place, terminal, confirmation, written, rfl⟩ :=
          step_finish_acknowledge stepped
        rcases recorded with ⟨sent, same⟩ | ⟨stamp', place', now⟩
        · simp only [acknowledged, goto]
          refine ⟨by split <;> first | rfl | exact sent, ?_⟩
          split
          · rename_i receipt
            simp only [Bool.and_eq_true, decide_eq_true_eq] at receipt
            rw [receipt.2]
          · exact same
        · rw [written] at now
          cases now
          simp [acknowledged, goto, bounded]
      · rcases recorded with ⟨sent, same⟩ | ⟨stamp, place, now⟩
        · left
          rw [control.terminalAckGeneration finishes]
          refine ⟨?_, same⟩
          rcases step_receipt tracked stepped with ⟨_, _, _, _, _, unchanged⟩ | ⟨rfl, attachment, held, rfl⟩
          · rw [unchanged finishes]
            exact sent
          -- the Terminal being accepted can only be on the current Attachment
          have upper : attachment.generation ≤ before.link.current.generation := by
            have known := tracked.on held
            exact Known.generation_le known
          have lower := (receipting.logged _ _ _ had).2.trans
            (receipting.reader attachment (by rw [held]; rfl))
          have equal : before.control.terminalAckGeneration = attachment.generation := by
            omega
          simp [receiveTerminal, goto, equal, sent]
        · right
          refine ⟨stamp, place, ?_⟩
          rw [frame.phase .acknowledge fun mine => ?_]
          · exact now
          rcases step_written stepped now mine with same | same | same
          · exact finishes same
          · subst same
            cases mine
          subst same
          simp only [step, startTail] at stepped
          split at stepped
          · rename_i outcome checked
            have returned := receipting.concluded outcome (.inr checked)
            rw [now] at returned
            cases returned
          · cases stepped
    · obtain rfl := (tracked.writer admitted).2.2 rfl rfl
      obtain ⟨wrote, record, admitted', _, rfl⟩ := step_write stepped
      rw [admitted] at admitted'
      cases admitted'
      exact .inr ⟨_, _, goto_phase_self _ _ _⟩
  · exact absurd (log ▸ member) (tracked.fresh newer _)

omit tracked in
/-- Until the tail starts, the acknowledgement worker that the outcome waited for
stays returned. -/
theorem step_concluded {outcome : Outcome}
    (concluded : after.main = .taken outcome ∨ after.main = .checked outcome) :
    after.phase .acknowledge = .returned none := by
  have frame := step_frame stepped
  have keep (had : before.main = .taken outcome ∨ before.main = .checked outcome)
      (other : event ≠ .startTail) : after.phase .acknowledge = .returned none := by
    have returned := receipting.concluded outcome had
    rw [frame.phase .acknowledge fun mine => ?_]
    · exact returned
    rcases step_returned stepped returned mine with rfl | rfl | rfl
    · cases mine
    · exact other rfl
    · cases mine
  cases event with
  | takeOutcome =>
    simp only [step, takeOutcome] at stepped
    split at stepped
    · rename_i ready
      cases stepped
      exact ready.2.2.2.1
    · cases stepped
  | checkOutcome =>
    simp only [step, checkOutcome] at stepped
    split at stepped
    · rename_i taken waiting
      split at stepped
      · cases stepped
        exact receipting.concluded taken (.inl waiting)
      · cases stepped
    · cases stepped
  | startTail =>
    simp only [step, startTail] at stepped
    (repeat' split at stepped) <;> cases stepped <;>
      rcases concluded with concluded | concluded <;> cases concluded
  | join =>
    simp only [step, join] at stepped
    split at stepped <;> cases stepped
    rcases concluded with concluded | concluded <;> cases concluded
  | _ =>
    rw [frame.main rfl] at concluded
    exact keep concluded (by rintro ⟨⟩)

theorem step_receipting (bounded : config.bounded = true) : Receipting config after where
  remote := by
    intro pending
    rcases step_receipt tracked stepped with ⟨remote, same, _⟩ | ⟨rfl, _, _, rfl⟩
    · rw [remote]
      exact receipting.remote (same ▸ pending)
    · simp [receiveTerminal, goto]
  owed := by
    intro remote receipts
    rcases step_receipt tracked stepped with ⟨same, pending, _⟩ | ⟨rfl, attachment, _, rfl⟩
    · rw [pending]
      exact receipting.owed (same ▸ remote) receipts
    simp only [receiveTerminal, goto, ne_eq, not_true_eq_false, if_false, receipts,
      Bool.true_and]
    split
    · rfl
    rename_i named
    refine receipting.named ?_
    rw [decide_eq_true_eq, Decidable.not_not] at named
    rw [named]
    exact attachment.positive.ne'
  named := by
    intro named
    by_cases finishes : event = .finish .acknowledge
    · subst finishes
      obtain ⟨holder, stamp, place, terminal, confirmation, written, rfl⟩ :=
        step_finish_acknowledge stepped
      simp only [acknowledged, goto] at named ⊢
      split at named
      · rename_i receipt
        simp only [Bool.and_eq_true, Bool.not_eq_true'] at receipt
        obtain ⟨⟨⟨rfl, rfl⟩, _⟩, _⟩ := receipt
        exact (receipting.carried holder stamp place (by rw [written]; rfl)).1
      · exact receipting.named named
    · have control := step_controlFrame stepped tracked
      rw [control.terminalAckGeneration finishes] at named
      exact (step_pending tracked receipting stepped).1 (receipting.named named)
  sent := by
    intro sent
    by_cases finishes : event = .finish .acknowledge
    · subst finishes
      obtain ⟨holder, stamp, place, terminal, confirmation, written, rfl⟩ :=
        step_finish_acknowledge stepped
      simp only [acknowledged, goto] at sent ⊢
      split
      · exact holder.positive.ne'
      · rename_i plain
        rw [if_neg plain] at sent
        exact receipting.sent sent
    · have control := step_controlFrame stepped tracked
      rw [control.terminalAckGeneration finishes]
      refine receipting.sent ?_
      rcases step_receipt tracked stepped with ⟨_, _, _, _, _, same⟩ | ⟨rfl, _, _, rfl⟩
      · exact same finishes ▸ sent
      simp only [receiveTerminal, goto, ne_eq, not_true_eq_false, if_false] at sent
      split at sent
      · cases sent
      · exact sent
  carried := fun _ _ _ carried => step_receipting_carried tracked receipting stepped carried
  logged := by
    intro attachment generation offset member
    have grows := step_pending tracked receipting stepped
    rcases step_logged stepped member with had | ⟨worker, rfl, admitted⟩
    · obtain ⟨pending, older⟩ := receipting.logged _ _ _ had
      exact ⟨grows.1 pending, older.trans grows.2⟩
    obtain rfl := (tracked.writer admitted).2.2 rfl rfl
    obtain ⟨pending, _, _, _, older⟩ := receipting.carried attachment generation offset
      (by rw [admitted]; rfl)
    exact ⟨grows.1 pending, older.trans grows.2⟩
  generation_le := by
    refine Nat.le_trans ?_ (step_generation_le stepped)
    rcases step_receipt tracked stepped with ⟨_, _, same, _⟩ | ⟨rfl, attachment, held, rfl⟩
    · rw [same]
      exact receipting.generation_le
    have known := tracked.on held
    simp only [receiveTerminal, goto, ne_eq, not_true_eq_false, if_false]
    split
    · exact Known.generation_le known
    · exact receipting.generation_le
  reader := by
    intro attachment source
    by_cases process : event = .process
    · subst process
      rw [step_process_source stepped] at source
      cases source
    rw [(step_controlFrame stepped tracked).terminalAckPendingGeneration process]
    rcases step_source stepped source with had | rfl
    · exact receipting.reader attachment had
    · exact receipting.generation_le
  concluded := fun _ concluded => step_concluded receipting stepped concluded
  current := fun _ _ member => step_receipting_current tracked receipting stepped bounded member

end Receipting

/-! ## Confirmations -/

/-- What handling a record marks is never unmarked, and a mark names a generation. -/
theorem step_marks (tracked : Tracked before) (stepped : step config before event = some after) :
    (before.control.remoteTerminal = true → after.control.remoteTerminal = true) ∧
    (before.control.terminalConfirmationPending = true →
      after.control.terminalConfirmationPending = true) ∧
    (before.control.terminalAckConfirmedGeneration ≠ 0 →
      after.control.terminalAckConfirmedGeneration ≠ 0) ∧
    (before.control.terminalAcknowledgedGeneration ≠ 0 →
      after.control.terminalAcknowledgedGeneration ≠ 0) := by
  by_cases process : event = .process
  · subst process
    obtain ⟨attachment, record, held, handled⟩ := step_process stepped
    cases handled with
    | confirmed offset terminal bounded named => exact ⟨id, id, fun _ => attachment.positive.ne', id⟩
    | acknowledged offset terminal confirmation plain named =>
      unfold receiveAcknowledgement refuse
      (repeat' split) <;> first
        | exact ⟨id, id, id, id⟩
        | exact ⟨id, fun _ => rfl, id, fun _ => attachment.positive.ne'⟩
        | exact ⟨id, id, id, fun _ => attachment.positive.ne'⟩
    | terminal offset bounded =>
      unfold receiveTerminal refuse
      split
      · exact ⟨id, id, id, id⟩
      · exact ⟨fun _ => rfl, id, id, id⟩
    | _ => exact ⟨id, id, id, id⟩
  · have control := step_controlFrame stepped tracked
    rw [control.remoteTerminal process, control.terminalConfirmationPending process,
      control.terminalAckConfirmedGeneration process,
      control.terminalAcknowledgedGeneration process]
    exact ⟨id, id, id, id⟩

/-- A confirmation is only sent after the peer's receipt was handled. -/
structure Confirming (stream : Stream) : Prop where
  carried : ∀ attachment generation offset terminal, (stream.phase .acknowledge).carried =
      some (attachment, .acknowledgement generation offset terminal true) →
    stream.control.terminalConfirmationPending = true
  logged : ∀ attachment generation offset terminal,
    (attachment, StreamRecord.acknowledgement generation offset terminal true) ∈
      stream.history.log → stream.control.terminalConfirmationPending = true

theorem initial_confirming (config : Config) (attachment : Attachment) :
    Confirming (initial config attachment) where
  carried := nofun
  logged := nofun

/-- **What `RunBounded` has seen**: end of input is presented once, after the first
Terminal; a confirmation is only handled after that; and an outcome is only taken
from a connection that is complete in both directions. -/
structure Concluding (config : Config) (stream : Stream) : Prop where
  unclosed : stream.control.remoteTerminal = false → stream.history.inputCloses = 0
  closing : stream.phase .receive = .closing → stream.control.remoteTerminal = true ∧
    stream.history.inputCloses = 0
  closed : stream.control.remoteTerminal = true → stream.history.inputCloses = 1 ∨
    stream.history.inputCloses = 0 ∧ (stream.phase .receive = .closing ∨
      ∃ err, stream.phase .receive = .returned (some err))
  confirmed : stream.control.terminalAckConfirmedGeneration ≠ 0 → stream.history.inputCloses = 1
  complete : stream.phase .acknowledge = .returned none ∨ stream.main ≠ .waiting →
    stream.control.remoteTerminal = true ∧ stream.control.localTerminal = true ∧
    stream.send.sendBase = stream.send.sendEnd ∧ (config.receipts = true →
      stream.control.terminalAckConfirmedGeneration ≠ 0 ∧
      stream.control.terminalAcknowledgedGeneration ≠ 0)
  postClose : stream.control.postClose = true → config.recoverable = true ∧ stream.main ≠ .waiting
  limit : stream.control.postClose = false → stream.limit = config.receiveLimit
  outcome : ∀ outcome, stream.main.outcome = some outcome →
    outcome.accepted = stream.send.sendEnd % 2 ^ 32 ∧
      outcome.acknowledged = stream.send.sendEnd % 2 ^ 32

theorem initial_concluding (config : Config) (attachment : Attachment) :
    Concluding config (initial config attachment) where
  unclosed := fun _ => rfl
  closing := nofun
  closed := nofun
  confirmed := fun never => absurd rfl never
  complete := fun never => never.elim (fun never => nomatch never) fun never => absurd rfl never
  postClose := nofun
  limit := fun _ => rfl
  outcome := nofun

section Closing

variable (stepped : step config before event = some after)

include stepped

theorem step_confirming (tracked : Tracked before) (confirming : Confirming before) :
    Confirming after where
  carried := by
    intro attachment generation offset terminal carried
    refine (step_marks tracked stepped).2.1 ?_
    rcases step_carried stepped carried with had | ⟨_, ready⟩ | ⟨rfl, attached⟩
    · exact confirming.carried _ _ _ _ had
    · unfold attachedPhase at ready
      (repeat' split at ready) <;> cases ready
    simp only [step, choose, attached, Option.some.injEq] at stepped
    subst stepped
    obtain ⟨_, _, _, _, confirmation⟩ := chooseAcknowledgement_carried carried
    exact (pending_confirmation confirmation.symm).1
  logged := by
    intro attachment generation offset terminal member
    refine (step_marks tracked stepped).2.1 ?_
    rcases step_logged stepped member with had | ⟨worker, _, admitted⟩
    · exact confirming.logged _ _ _ _ had
    · obtain rfl := (tracked.writer admitted).2.2 rfl rfl
      exact confirming.carried attachment generation offset terminal (by rw [admitted]; rfl)

/-! ## End of input and the outcome -/

/-- The receive worker comes to close the Application's input by accepting the
first Terminal. -/
theorem step_closing (now : after.phase .receive = .closing) : before.phase .receive = .closing ∨
      (event = .process ∧ before.control.remoteTerminal = false ∧
        after.control.remoteTerminal = true) := by
  by_cases mine : event.worker = some .receive
  · right
    obtain ⟨old, new, was, now', moved⟩ := step_moves stepped mine
    obtain rfl : event = .process := by cases moved <;> grind
    refine ⟨rfl, ?_⟩
    obtain ⟨attachment, record, held, handled⟩ := step_process stepped
    cases handled with
    | data offset payload =>
      rw [receiveData, goto_phase_self] at now
      unfold progressed at now
      split at now <;> cases now
    | acknowledged offset terminal confirmation plain named =>
      unfold receiveAcknowledgement refuse at now
      split at now <;> rw [goto_phase_self] at now <;> cases now
    | terminal offset bounded =>
      unfold receiveTerminal refuse at now ⊢
      split at now
      · cases now
      rename_i same
      rw [if_neg same]
      rw [goto_phase_self] at now
      split at now
      · cases now
      · rename_i first
        exact ⟨by simpa using first, rfl⟩
    | _ => first
        | (rw [refuse, goto_phase_self] at now; cases now)
        | (rw [goto_phase_self] at now; cases now)
  · rw [(step_frame stepped).phase _ mine] at now
    exact .inl now

/-- From `closing` the worker presents end of input, or fails. -/
theorem step_from_closing (closing : before.phase .receive = .closing)
    (mine : event.worker = some .receive) : event = .closeInput ∨ event = .closeInputFails := by
  obtain ⟨old, new, was, now, moved⟩ := step_moves stepped mine
  cases moved <;> simp_all

/-- The acknowledgement worker returns nil when it finds the connection complete. -/
theorem step_acknowledge_returned (now : after.phase .acknowledge = .returned none) :
    before.phase .acknowledge = .returned none ∨
      (event = .acknowledgementsDone ∧
        before.boundedAcknowledgementCompleteLocked config = true) := by
  by_cases mine : event.worker = some .acknowledge
  · obtain ⟨old, new, was, now', moved⟩ := step_moves stepped mine
    cases moved <;> grind
  · rw [(step_frame stepped).phase _ mine] at now
    exact .inl now

/-- `RunBounded` never waits again. -/
theorem step_main_left (left : before.main ≠ .waiting) : after.main ≠ .waiting := by
  cases event with
  | takeOutcome | checkOutcome | startTail | join =>
    simp only [step, takeOutcome, checkOutcome, startTail, join] at stepped
    (repeat' split at stepped) <;> cases stepped <;> rintro ⟨⟩
  | _ =>
    rw [(step_frame stepped).main rfl]
    exact left

end Closing

section Concluding

variable (concluding : Concluding config before) (stepped : step config before event = some after)

include concluding stepped

theorem step_inputCloses : after.history.inputCloses = before.history.inputCloses ∨
      event = .closeInput ∧ before.history.inputCloses = 0 ∧ after.history.inputCloses = 1 ∧
        before.control.remoteTerminal = true := by
  by_cases closes : event = .closeInput
  · subst closes
    right
    simp only [step, closeInput] at stepped
    split at stepped <;> cases stepped
    rename_i closing
    obtain ⟨remote, none_⟩ := concluding.closing closing
    exact ⟨rfl, none_, by simp [goto, none_], remote⟩
  · exact .inl ((step_frame stepped).inputCloses closes)

theorem step_concluding_closed (tracked : Tracked before)
    (remote : after.control.remoteTerminal = true) :
    after.history.inputCloses = 1 ∨ after.history.inputCloses = 0 ∧
      (after.phase .receive = .closing ∨ ∃ err, after.phase .receive = .returned (some err)) := by
  have frame := step_frame stepped
  by_cases had : before.control.remoteTerminal = true
  · rcases step_inputCloses concluding stepped with same | ⟨_, _, once, _⟩
    · rw [same]
      rcases concluding.closed had with once | ⟨none_, waiting⟩
      · exact .inl once
      right
      refine ⟨none_, ?_⟩
      by_cases mine : event.worker = some .receive
      · rcases waiting with closing | ⟨err, returned⟩
        · rcases step_from_closing stepped closing mine with rfl | rfl
          · simp only [step, closeInput, closing, Option.some.injEq] at stepped
            subst stepped
            simp [goto, none_] at same
          · simp only [step, closeInputFails, closing, Option.some.injEq] at stepped
            subst stepped
            exact .inr ⟨_, goto_phase_self _ _ _⟩
        · rcases step_returned stepped returned mine with rfl | rfl | rfl
          · cases mine
          · cases mine
          · simp [step, tailReceive, returned] at stepped
      · rw [frame.phase _ mine]
        exact waiting
    · exact .inl once
  · -- the first Terminal has just been accepted
    have first : before.control.remoteTerminal = false := by simpa using had
    rcases step_receipt tracked stepped with ⟨same, _⟩ | ⟨rfl, attachment, _, rfl⟩
    · exact absurd (same ▸ remote) had
    right
    rw [frame.inputCloses (by rintro ⟨⟩)]
    refine ⟨concluding.unclosed first, .inl ?_⟩
    simp [receiveTerminal, first]

theorem step_concluding_confirmed (tracked : Tracked before)
    (confirmed : after.control.terminalAckConfirmedGeneration ≠ 0) :
    after.history.inputCloses = 1 := by
  have once (had : before.history.inputCloses = 1) : after.history.inputCloses = 1 := by
    rcases step_inputCloses concluding stepped with same | ⟨_, none_, _⟩
    · exact same.trans had
    · omega
  by_cases process : event = .process
  · subst process
    apply once
    obtain ⟨attachment, record, held, handled⟩ := step_process stepped
    cases handled with
    | confirmed offset terminal bounded named =>
      have remote : before.control.remoteTerminal = true := by
        simp only [confirms, Bool.and_eq_true] at named
        exact named.1.1
      rcases concluding.closed remote with once | ⟨_, closing | ⟨_, returned⟩⟩
      · exact once
      · rw [held] at closing
        cases closing
      · rw [held] at returned
        cases returned
    | acknowledged offset terminal confirmation plain named =>
      apply concluding.confirmed
      unfold receiveAcknowledgement refuse at confirmed
      (repeat' split at confirmed) <;> exact confirmed
    | terminal offset bounded =>
      apply concluding.confirmed
      unfold receiveTerminal refuse at confirmed
      split at confirmed <;> exact confirmed
    | _ => exact concluding.confirmed confirmed
  · rw [(step_controlFrame stepped tracked).terminalAckConfirmedGeneration process] at confirmed
    exact once (concluding.confirmed confirmed)

/-- A connection once found complete stays complete. -/
theorem step_concluding_complete (tracked : Tracked before) (ordered : before.send.Ordered)
    (orderedAfter : after.send.Ordered) (terminating : Terminating config before)
    (receipting : Receipting config before)
    (done : after.phase .acknowledge = .returned none ∨ after.main ≠ .waiting) :
    after.control.remoteTerminal = true ∧ after.control.localTerminal = true ∧
    after.send.sendBase = after.send.sendEnd ∧ (config.receipts = true →
      after.control.terminalAckConfirmedGeneration ≠ 0 ∧
      after.control.terminalAcknowledgedGeneration ≠ 0) := by
  have frame := step_frame stepped
  obtain ⟨remote_, _, confirmed_, acknowledged_⟩ := step_marks tracked stepped
  by_cases had : before.phase .acknowledge = .returned none ∨ before.main ≠ .waiting
  · obtain ⟨remote, localTerminal, all, marks⟩ := concluding.complete had
    have ended := terminating.ended localTerminal
    refine ⟨remote_ remote, ?_, ?_, fun receipts =>
      ⟨confirmed_ (marks receipts).1, acknowledged_ (marks receipts).2⟩⟩
    · rw [(step_controlFrame stepped tracked).localTerminal]
      · exact localTerminal
      · rintro rfl
        simp [step, endOfInput, ended] at stepped
    have grows := (step_window stepped ordered).1
    have same := step_sendEnd stepped ordered ended
    have base := orderedAfter.base_le.trans orderedAfter.next_le
    omega
  · rw [not_or, not_not] at had
    have finishes : event = .acknowledgementsDone ∧
        before.boundedAcknowledgementCompleteLocked config = true := by
      rcases done with now | left
      · exact (step_acknowledge_returned stepped now).resolve_left had.1
      exfalso
      apply left
      cases event with
      | takeOutcome =>
        simp only [step, takeOutcome] at stepped
        split at stepped
        · rename_i ready
          exact absurd ready.2.2.2.1 had.1
        · cases stepped
      | checkOutcome => simp [step, checkOutcome, had.2] at stepped
      | startTail => simp [step, startTail, had.2] at stepped
      | join => simp [step, join, had.2] at stepped
      | _ => exact (frame.main rfl).trans had.2
    obtain ⟨rfl, complete⟩ := finishes
    simp only [boundedAcknowledgementCompleteLocked, boundedReceiveCompleteLocked,
      Bool.and_eq_true, Bool.or_eq_true, Bool.not_eq_true', decide_eq_true_eq] at complete
    obtain ⟨⟨⟨⟨⟨⟨⟨_, remote⟩, localTerminal⟩, all⟩, acknowledged⟩, confirmed⟩, _⟩, _⟩ := complete
    rw [frame.control rfl, frame.send rfl]
    refine ⟨remote, localTerminal, all, fun receipts => ⟨?_, ?_⟩⟩
    · rcases confirmed with none_ | ⟨sent, same⟩
      · rw [receipting.owed remote receipts] at none_
        cases none_
      · rw [same]
        exact receipting.sent sent
    · rcases acknowledged with none_ | acknowledged
      · rw [receipts] at none_
        cases none_
      · exact acknowledged

/-- The outcome taken counts the whole input, accepted and acknowledged. -/
theorem step_concluding_outcome (ordered : before.send.Ordered)
    (terminating : Terminating config before) {outcome : Outcome}
    (has : after.main.outcome = some outcome) : outcome.accepted = after.send.sendEnd % 2 ^ 32 ∧
      outcome.acknowledged = after.send.sendEnd % 2 ^ 32 := by
  have frame := step_frame stepped
  have keep (had : before.main.outcome = some outcome) :
      outcome.accepted = after.send.sendEnd % 2 ^ 32 ∧
        outcome.acknowledged = after.send.sendEnd % 2 ^ 32 := by
    have left : before.main ≠ .waiting := by
      intro waiting
      rw [waiting] at had
      cases had
    have ended := terminating.ended (concluding.complete (.inr left)).2.1
    rw [step_sendEnd stepped ordered ended]
    exact concluding.outcome outcome had
  cases event with
  | takeOutcome =>
    simp only [step, takeOutcome] at stepped
    split at stepped
    · rename_i ready
      cases stepped
      cases has
      obtain ⟨_, _, _, returned, same⟩ := ready
      exact ⟨rfl, same⟩
    · cases stepped
  | checkOutcome =>
    simp only [step, checkOutcome] at stepped
    split at stepped
    · rename_i taken waiting
      split at stepped <;> cases stepped
      exact keep (by rw [waiting]; exact has)
    · cases stepped
  | startTail =>
    simp only [step, startTail] at stepped
    split at stepped
    · rename_i taken checked
      (repeat' split at stepped) <;> cases stepped <;> exact keep (by rw [checked]; exact has)
    · cases stepped
  | join =>
    simp only [step, join] at stepped
    split at stepped
    · rename_i awaiting returned
      cases stepped
      exact keep (by rw [awaiting]; exact has)
    · cases stepped
  | _ =>
    rw [frame.main rfl] at has
    exact keep has

theorem step_concluding (tracked : Tracked before) (ordered : before.send.Ordered)
    (orderedAfter : after.send.Ordered) (terminating : Terminating config before)
    (receipting : Receipting config before) : Concluding config after where
  unclosed := by
    intro unset
    have remote : before.control.remoteTerminal = false := by
      rw [Bool.eq_false_iff]
      intro set
      rw [(step_marks tracked stepped).1 set] at unset
      cases unset
    rcases step_inputCloses concluding stepped with same | ⟨_, _, _, set⟩
    · exact same.trans (concluding.unclosed remote)
    · rw [set] at remote
      cases remote
  closing := by
    intro now
    rcases step_closing stepped now with had | ⟨rfl, first, remote⟩
    · obtain ⟨remote, none_⟩ := concluding.closing had
      refine ⟨(step_marks tracked stepped).1 remote, ?_⟩
      rcases step_inputCloses concluding stepped with same | ⟨rfl, _⟩
      · exact same.trans none_
      simp only [step, closeInput, had, Option.some.injEq] at stepped
      subst stepped
      cases now
    · exact ⟨remote, ((step_frame stepped).inputCloses (by rintro ⟨⟩)).trans (concluding.unclosed first)⟩
  closed := step_concluding_closed concluding stepped tracked
  confirmed := step_concluding_confirmed concluding stepped tracked
  complete := step_concluding_complete concluding stepped tracked ordered orderedAfter terminating
    receipting
  postClose := by
    intro set
    by_cases tail : event = .startTail
    · subst tail
      simp only [step, startTail] at stepped
      (repeat' split at stepped) <;> cases stepped
      · rename_i eligible
        exact ⟨eligible.1, by rintro ⟨⟩⟩
      · exact ⟨(concluding.postClose set).1, by rintro ⟨⟩⟩
    · rw [(step_controlFrame stepped tracked).postClose tail] at set
      obtain ⟨recoverable, left⟩ := concluding.postClose set
      exact ⟨recoverable, step_main_left stepped left⟩
  limit := by
    intro unset
    have still : before.control.postClose = false := by
      by_cases tail : event = .startTail
      · subst tail
        simp only [step, startTail] at stepped
        (repeat' split at stepped) <;> cases stepped
        · cases unset
        · exact unset
      · rw [← (step_controlFrame stepped tracked).postClose tail]
        exact unset
    rw [(step_frame stepped).limit]
    · exact concluding.limit still
    · rintro rfl
      simp [step, tailReceive, still] at stepped
  outcome := fun _ has => step_concluding_outcome concluding stepped ordered terminating has

end Concluding

/-- **The Terminal-control invariants of one Stream.** -/
structure Controlled (config : Config) (stream : Stream) : Prop where
  terminating : Terminating config stream
  receipting : Receipting config stream
  confirming : Confirming stream
  concluding : Concluding config stream

theorem initial_controlled (config : Config) (attachment : Attachment) :
    Controlled config (initial config attachment) :=
  ⟨initial_terminating config attachment, initial_receipting config attachment,
    initial_confirming config attachment, initial_concluding config attachment⟩

theorem step_controlled (bounded : config.bounded = true) (flushing : Flushing before)
    (controlled : Controlled config before) (stepped : step config before event = some after) :
    Controlled config after := by
  obtain ⟨terminating, receipting, confirming, concluding⟩ := controlled
  have ordered := step_ordered flushing stepped
  exact ⟨step_terminating flushing.tracked flushing.ordered terminating stepped,
    step_receipting flushing.tracked receipting stepped bounded,
    step_confirming stepped flushing.tracked confirming,
    step_concluding concluding stepped flushing.tracked flushing.ordered ordered terminating
      receipting⟩

end Stream

end Ardents.Connection
