/-
# Connection.TerminalAgreement — what both ends know when `RunBounded` returns

The close of a recovery-enabled connection is a three-way exchange: a Terminal, its
receipt (marker 1) and the confirmation of the receipt (marker 2).  Each answer an
honest end owes, holds or has written rests on a record its peer has written on an
Attachment of the same generation (`Evidenced`).  Together with the fields of
either end (`Controlled`) and the bytes of both directions (`Sound`) this gives the
agreement, in every history.  That no answer is taken for a forged one needs more:
it has to be handled while its Attachment is current.
-/
import Ardents.Connection.Delivery
import Ardents.Connection.RemoteTerminal

namespace Ardents.Connection

open Lib

set_option autoImplicit false

namespace StreamRecord

/-- The record an Acknowledgement of the close answers: a receipt the Terminal, a
confirmation the receipt. -/
def answers : StreamRecord → Option StreamRecord
  | .acknowledgement generation offset _ true => some (.acknowledgement generation offset true false)
  | .acknowledgement generation offset true false => some (.terminal generation offset)
  | _ => none

/-- A Terminal, a receipt or a confirmation. -/
def closes (record : StreamRecord) : Bool := record.isTerminal || record.answers.isSome

end StreamRecord

/-- The record was written on an Attachment of its own generation. -/
def Sent (log : List (Attachment × StreamRecord)) (record : StreamRecord) : Prop :=
  ∃ attachment : Attachment, attachment.generation = record.generation ∧ (attachment, record) ∈ log

variable {record : StreamRecord}

theorem Sent.mono {log further : List (Attachment × StreamRecord)}
    (sent : Sent log record) (grows : ∀ entry ∈ log, entry ∈ further) : Sent further record := by
  obtain ⟨attachment, generation, member⟩ := sent
  exact ⟨attachment, generation, grows _ member⟩

namespace Stream

variable {config : Config} {before after : Stream} {event : Event}
  {log further : List (Attachment × StreamRecord)}

/-! ## Evidence for the marks of one end -/

/-- The Terminal an end has accepted, and the one its receipt is owed for, were
written by the peer, whose log is `log`. -/
structure TerminalEvidence (stream : Stream) (log : List (Attachment × StreamRecord)) : Prop where
  accepted : ∀ offset, stream.history.acceptedTerminal = some offset →
    offset ≤ stream.receive.recvNext ∧ ∃ generation, Sent log (.terminal generation offset)
  owed : stream.control.terminalAckPending = true →
    Sent log (.terminal stream.control.terminalAckPendingGeneration stream.control.terminalAckOffset)

/-- The receipt an end has taken for its own Terminal, and the one it owes a
confirmation for, were written by the peer. -/
structure ReceiptEvidence (stream : Stream) (log : List (Attachment × StreamRecord)) : Prop where
  taken : stream.control.terminalAcknowledgedGeneration ≠ 0 →
    ∃ generation offset, Sent log (.acknowledgement generation offset true false)
  owed : stream.control.terminalConfirmationPending = true →
    Sent log (.acknowledgement stream.control.terminalConfirmationGeneration
      stream.control.terminalConfirmationOffset true false)

/-- **Every part of the close rests on a record of the peer**: the marks, and every
answer in hand or written. -/
structure Evidenced (stream : Stream) (log : List (Attachment × StreamRecord)) : Prop where
  terminal : TerminalEvidence stream log
  receipt : ReceiptEvidence stream log
  carried : ∀ attachment record question,
    (stream.phase .acknowledge).carried = some (attachment, record) →
      record.answers = some question → Sent log question
  logged : ∀ attachment record question, (attachment, record) ∈ stream.history.log →
    record.answers = some question → Sent log question

theorem initial_evidenced (config : Config) (attachment : Attachment) :
    Evidenced (initial config attachment) log where
  terminal := ⟨nofun, nofun⟩
  receipt := ⟨fun never => absurd rfl never, nofun⟩
  carried := nofun
  logged := nofun

theorem Evidenced.mono (evidenced : Evidenced before log)
    (grows : ∀ entry ∈ log, entry ∈ further) : Evidenced before further where
  terminal := by
    constructor
    · intro offset accepted
      obtain ⟨le, generation, sent⟩ := evidenced.terminal.accepted offset accepted
      exact ⟨le, generation, sent.mono grows⟩
    · intro pending
      exact (evidenced.terminal.owed pending).mono grows
  receipt := by
    constructor
    · intro marked
      obtain ⟨generation, offset, sent⟩ := evidenced.receipt.taken marked
      exact ⟨generation, offset, sent.mono grows⟩
    · intro pending
      exact (evidenced.receipt.owed pending).mono grows
  carried := fun _ _ _ carried answers => (evidenced.carried _ _ _ carried answers).mono grows
  logged := fun _ _ _ member answers => (evidenced.logged _ _ _ member answers).mono grows

variable {attachment : Attachment}

/-- An accepted Terminal is the evidence for itself and for its receipt. -/
theorem TerminalEvidence.receiveTerminal (evidence : TerminalEvidence before log)
    (sent : Sent log (.terminal attachment.generation before.receive.recvNext)) :
    TerminalEvidence (before.receiveTerminal config attachment before.receive.recvNext) log := by
  simp only [Stream.receiveTerminal, goto, ne_eq, not_true_eq_false, if_false]
  constructor
  · dsimp only
    intro offset accepted
    split at accepted
    · exact evidence.accepted offset accepted
    · cases accepted
      exact ⟨Nat.le_refl _, _, sent⟩
  · split
    · exact fun _ => sent
    · exact evidence.owed

/-- A step touches the confirmation fields only when it handles the receipt of the local
Terminal. -/
theorem step_confirmation (tracked : Tracked before) (stepped : step config before event = some after) :
    (after.control.terminalAcknowledgedGeneration =
          before.control.terminalAcknowledgedGeneration ∧
        after.control.terminalConfirmationPending = before.control.terminalConfirmationPending ∧
        after.control.terminalConfirmationGeneration =
          before.control.terminalConfirmationGeneration ∧
        after.control.terminalConfirmationOffset = before.control.terminalConfirmationOffset) ∨
      ∃ attachment offset, before.phase .receive =
          .held attachment (.acknowledgement attachment.generation offset true false) ∧
        after = before.receiveAcknowledgement config attachment.generation offset true := by
  by_cases process : event = .process
  · subst process
    obtain ⟨attachment, record, held, handled⟩ := step_process stepped
    cases handled with
    | acknowledged offset terminal confirmation plain named =>
      by_cases marked : (terminal && config.bounded) = true
      · rw [Bool.and_eq_true] at marked
        obtain ⟨rfl, bounded⟩ := marked
        obtain rfl := plain bounded
        exact .inr ⟨attachment, offset, held, rfl⟩
      left
      unfold receiveAcknowledgement refuse
      split
      · exact ⟨rfl, rfl, rfl, rfl⟩
      · dsimp only
        rw [if_neg marked]
        exact ⟨rfl, rfl, rfl, rfl⟩
    | terminal offset bounded =>
      left
      unfold receiveTerminal refuse
      split <;> exact ⟨rfl, rfl, rfl, rfl⟩
    | _ => exact .inl ⟨rfl, rfl, rfl, rfl⟩
  · have control := step_controlFrame stepped tracked
    exact .inl ⟨control.terminalAcknowledgedGeneration process,
      control.terminalConfirmationPending process, control.terminalConfirmationGeneration process,
      control.terminalConfirmationOffset process⟩

/-- What `sendBoundedAcknowledgements` chooses answers what is owed. -/
theorem Evidenced.chosen (evidenced : Evidenced before log) {holder : Attachment}
    {question : StreamRecord}
    (carried : ((before.chooseAcknowledgement attachment).phase .acknowledge).carried =
      some (holder, record)) (answers : record.answers = some question) : Sent log question := by
  cases record with
  | data generation offset payload => cases answers
  | terminal generation offset => cases answers
  | acknowledgement generation offset terminal confirmation =>
    obtain ⟨_, rfl, rfl, marked, confirms⟩ := chooseAcknowledgement_carried carried
    cases confirmation with
    | true =>
      obtain ⟨pending, generation, offset⟩ := pending_confirmation confirms.symm
      cases answers
      rw [offset, ← generation]
      exact evidenced.receipt.owed pending
    | false =>
      rw [← confirms, Bool.or_false] at marked
      cases terminal with
      | false => cases answers
      | true =>
        obtain ⟨pending, generation, offset, _⟩ := pending_terminal marked.symm
        cases answers
        rw [offset, ← generation]
        exact evidenced.terminal.owed pending

section Evidence

variable (tracked : Tracked before)
  (held : ∀ attachment record, before.phase .receive = .held attachment record → Sent log record)
  (stepped : step config before event = some after)

include tracked held stepped

theorem step_terminalEvidence (evidence : TerminalEvidence before log) :
    TerminalEvidence after log := by
  have grows := step_recvNext_le stepped
  rcases step_receipt tracked stepped with ⟨_, pending, generation, offset, accepted, _⟩ |
    ⟨rfl, attachment, holding, rfl⟩
  · constructor
    · intro end_ was
      obtain ⟨le, sent⟩ := evidence.accepted end_ (accepted ▸ was)
      exact ⟨le.trans grows, sent⟩
    · rw [pending, generation, offset]
      exact evidence.owed
  · exact evidence.receiveTerminal (held _ _ holding)

theorem step_receiptEvidence (evidence : ReceiptEvidence before log) :
    ReceiptEvidence after log := by
  rcases step_confirmation tracked stepped with ⟨marked, pending, generation, offset⟩ |
    ⟨attachment, offset, holding, rfl⟩
  · constructor
    · rw [marked]
      exact evidence.taken
    · rw [pending, generation, offset]
      exact evidence.owed
  · have sent := held _ _ holding
    refine ⟨fun _ => ⟨_, _, sent⟩, ?_⟩
    unfold receiveAcknowledgement refuse
    (repeat' split) <;> first
      | exact evidence.owed
      | exact fun _ => sent

/-- **A step keeps everything evidenced**, as long as what the receive worker handles
is the peer's. -/
theorem step_evidenced (evidenced : Evidenced before log) : Evidenced after log where
  terminal := step_terminalEvidence tracked held stepped evidenced.terminal
  receipt := step_receiptEvidence tracked held stepped evidenced.receipt
  carried := by
    intro attachment record question carried answers
    rcases step_carried stepped carried with had | ⟨_, ready⟩ | ⟨rfl, attached⟩
    · exact evidenced.carried _ _ _ had answers
    · unfold attachedPhase at ready
      (repeat' split at ready) <;> cases ready <;> cases answers
    · simp only [step, choose, attached, Option.some.injEq] at stepped
      subst stepped
      exact evidenced.chosen carried answers
  logged := by
    intro attachment record question member answers
    rcases step_logged stepped member with had | ⟨worker, _, admitted⟩
    · exact evidenced.logged _ _ _ had answers
    obtain rfl : worker = .acknowledge := by
      cases record with
      | acknowledgement => exact (tracked.writer admitted).2.2 rfl rfl
      | _ => cases answers
    exact evidenced.carried attachment record question (by rw [admitted]; rfl) answers

end Evidence

/-- The error the receive worker returns for the record it holds. -/
def refusal (config : Config) (stream : Stream) : Option StreamError :=
  (stream.process config).bind fun next =>
    match next.phase .receive with
    | .returned result => result
    | _ => none

end Stream

namespace Net

open Connection.Stream

variable {config : Side → Config} {net next : Net} {side : Side} {event : Stream.Event}

/-- Both ends run `RunBounded` with an opener or with `terminalReceipts`. -/
def RecoveryEnabled (config : Side → Config) : Prop :=
  ∀ side, (config side).bounded = true ∧ (config side).receipts = true

/-- What both ends keep about the close, in every schedule. -/
structure Closing (config : Side → Config) (net : Net) : Prop where
  sound : Sound config net
  regular : ∀ side, Regular (config side) (net.stream side)
  remote : ∀ side, RemoteTerminalSet (net.stream side)
  evidenced : ∀ side : Side, Evidenced (net.stream side) (net.stream side.peer).history.log

theorem initial_closing (config : Side → Config) (attachment : Attachment) :
    Closing config (initial config attachment) where
  sound := initial_sound config attachment
  regular := fun side => initial_regular (config side) attachment
  remote := fun _ => rfl
  evidenced := fun side => initial_evidenced (config side) attachment

variable {attachment : Attachment} {record : StreamRecord} {generation offset : Nat}

/-- The record an end handles was sent by its peer on its own generation. -/
theorem Sound.sent (sound : Sound config net)
    (held : (net.stream side).phase .receive = .held attachment record) :
    Sent (net.stream side.peer).history.log record := by
  have logged := sound.held held
  exact ⟨attachment, ((sound.honest side.peer).tracked.logged _ _ logged).2.symm, logged⟩

theorem step_closing (mode : SameMode config) (closing : Closing config net)
    (stepped : step config net (side, event) = some next) : Closing config next := by
  have sound := step_sound mode closing.sound stepped
  obtain ⟨permitted, after, moved, rfl⟩ := step_eq_some stepped
  have peer := Side.peer_ne side
  refine ⟨sound, ?_, ?_, ?_⟩ <;> intro end_ <;> rcases Side.eq_or_eq_peer side end_ with rfl | rfl
  · simpa using step_regular moved (closing.regular end_)
  · simpa [peer] using closing.regular side.peer
  · simpa using step_remoteTerminalSet moved (closing.sound.honest end_).tracked (closing.remote end_)
  · simpa [peer] using closing.remote side.peer
  · have kept := step_evidenced (closing.sound.honest end_).tracked (fun _ _ held => closing.sound.sent held)
      moved (closing.evidenced end_)
    simpa [peer] using kept
  have kept : Evidenced (net.stream side.peer) after.history.log := by
    refine (closing.evidenced side.peer).mono fun entry member => ?_
    rw [Side.peer_peer] at member
    exact step_log_subset moved member
  simpa [peer] using kept

theorem throughout_closing (mode : SameMode config) (attachment : Attachment)
    (moves : List (Side × Stream.Event)) :
    Throughout (step config) (Closing config) (initial config attachment) moves :=
  throughout_of_invariant (fun _ _ _ closing stepped => step_closing mode closing stepped)
    (initial_closing config attachment) moves

/-! ## Agreement -/

section Closing

variable (closing : Closing config net)

include closing

/-- Every Terminal an end has written names its last byte. -/
theorem Closing.terminal_offset
    (sent : Sent (net.stream side).history.log (.terminal generation offset)) :
    offset = (net.stream side).send.sendEnd := by
  obtain ⟨attachment, _, member⟩ := sent
  exact ((closing.regular side).terminating.logged _ _ _ member).1

/-- Every receipt an end has written names the last byte of its peer. -/
theorem Closing.receipt_offset
    (sent : Sent (net.stream side).history.log (.acknowledgement generation offset true false)) :
    offset = (net.stream side.peer).send.sendEnd := by
  obtain ⟨attachment, _, member⟩ := sent
  exact closing.terminal_offset ((closing.evidenced side).logged _ _ _ member rfl)

/-- An end that has accepted a Terminal has everything its peer has read. -/
theorem Closing.received (remote : (net.stream side).control.remoteTerminal = true) :
    (net.stream side).history.acceptedTerminal = some (net.stream side.peer).send.sendEnd ∧
      (net.stream side).receive.recvNext = (net.stream side.peer).send.sendEnd ∧
      (net.stream side).history.output = (net.stream side.peer).history.input := by
  have set := closing.remote side
  rw [RemoteTerminalSet, remote, eq_comm, Option.isSome_iff_exists] at set
  obtain ⟨offset, accepted⟩ := set
  obtain ⟨le, generation, sent⟩ := (closing.evidenced side).terminal.accepted offset accepted
  obtain rfl := closing.terminal_offset sent
  have carries := closing.sound.carries side.peer
  rw [Side.peer_peer] at carries
  have length := (closing.sound.honest side.peer).sourced.sendEnd
  have output := carries.output
  have fits := congrArg List.length output
  rw [List.length_take] at fits
  have reaches := carries.recvNext_le
  refine ⟨accepted, by omega, ?_⟩
  rw [output, List.take_of_length_le (by omega)]

end Closing

/-- **What both ends know**: the peer has accepted this end's Terminal and delivered
all its bytes, this end has delivered all of the peer's and presented end of input
once, and the outcome counts the peer's `recvNext`. -/
structure Agreed (net : Net) (side : Side) (outcome : Outcome) : Prop where
  terminal : (net.stream side.peer).history.acceptedTerminal = some (net.stream side).send.sendEnd
  sent : (net.stream side).history.input.length = (net.stream side).send.sendEnd
  delivered : (net.stream side.peer).history.output = (net.stream side).history.input
  received : (net.stream side).history.output = (net.stream side.peer).history.input
  counted : (net.stream side).receive.recvNext = (net.stream side.peer).send.sendEnd
  presented : (net.stream side).history.inputCloses = 1
  accepted : outcome.accepted = (net.stream side.peer).receive.recvNext
  acknowledged : outcome.acknowledged = (net.stream side.peer).receive.recvNext

theorem Closing.agreed (enabled : RecoveryEnabled config) (closing : Closing config net)
    {outcome : Outcome} (returned : (net.stream side).main = .returned outcome) :
    Agreed net side outcome := by
  have concluding := ((closing.regular side).controlled (enabled side).1).concluding
  obtain ⟨remote, _, _, marks⟩ := concluding.complete (.inr (by rw [returned]; nofun))
  obtain ⟨confirmed, taken⟩ := marks (enabled side).2
  -- the receipt was written by the peer, which had accepted the Terminal
  obtain ⟨generation, offset, attachment, _, receipt⟩ := (closing.evidenced side).receipt.taken taken
  have receipting := ((closing.regular side.peer).controlled (enabled side.peer).1).receipting
  have peerRemote := receipting.remote (receipting.logged _ _ _ receipt).1
  obtain ⟨_, counted, received⟩ := closing.received remote
  obtain ⟨terminal, reached, delivered⟩ := closing.received peerRemote
  rw [Side.peer_peer] at terminal reached delivered
  obtain ⟨accepted, acknowledged⟩ := concluding.outcome outcome (by rw [returned]; rfl)
  have small : (net.stream side).send.sendEnd < 2 ^ 32 :=
    (closing.regular side).metered.limit.trans_lt (config side).sendLimit_lt
  rw [Nat.mod_eq_of_lt small, ← reached] at accepted acknowledged
  exact ⟨terminal, (closing.sound.honest side).sourced.sendEnd, delivered, received, counted,
    concluding.confirmed confirmed, accepted, acknowledged⟩

/-! ## Records of the close are not taken for forged ones -/

/-- A receipt or confirmation is handled while its Attachment is current. -/
def answersOnCurrent (net : Net) (move : Side × Stream.Event) : Bool :=
  match move.2, (net.stream move.1).phase .receive with
  | .process, .held attachment record =>
    record.answers.isNone || decide (attachment = (net.stream move.1).link.current)
  | _, _ => true

/-- A Terminal, receipt or confirmation is not classified as `ErrActiveViolation`. -/
def acceptsClose (config : Side → Config) (net : Net) (move : Side × Stream.Event) : Bool :=
  match move.2, (net.stream move.1).phase .receive with
  | .process, .held _ record =>
    !record.closes ||
      ((net.stream move.1).refusal (config move.1)).all fun err => !err.isActiveViolation
  | _, _ => true

section Closed

variable (closing : Closing config net)

include closing

/-- A record written on an Attachment of the current generation was written on the
current Attachment. -/
theorem Closing.sent_current (sent : Sent (net.stream side).history.log record)
    (current : record.generation = (net.stream side).link.current.generation) :
    ((net.stream side).link.current, record) ∈ (net.stream side).history.log := by
  obtain ⟨attachment, generation, member⟩ := sent
  have known := ((closing.sound.honest side).tracked.logged _ _ member).1
  rwa [known.eq_current (generation.trans current)] at member

/-- A receipt on the current Attachment names the local Terminal. -/
theorem Closing.receipts (enabled : RecoveryEnabled config)
    (held : (net.stream side).phase .receive =
      .held (net.stream side).link.current (.acknowledgement generation offset true false)) :
    Stream.receipts (net.stream side).control generation offset = true := by
  have stamped : generation = (net.stream side).link.current.generation :=
    ((closing.sound.honest side.peer).tracked.logged _ _ (closing.sound.held held)).2
  have question := (closing.evidenced side.peer).logged _ _ _ (closing.sound.held held) rfl
  rw [Side.peer_peer] at question
  obtain rfl := closing.terminal_offset question
  have terminating := (closing.regular side).terminating
  obtain ⟨localTerminal, named, written⟩ := terminating.current (enabled side).1 _ _
    (closing.sent_current question stamped)
  unfold Stream.receipts
  rcases written with done | ⟨record, writing⟩
  · simp [localTerminal, named, done, stamped]
  · obtain ⟨_, fields⟩ := terminating.carried _ _ (by rw [writing]; rfl)
    obtain ⟨busy, writes, _⟩ := fields (enabled side).1
    simp [localTerminal, named, busy, writes, stamped]

/-- A confirmation on the current Attachment names the receipt that was sent. -/
theorem Closing.confirms (enabled : RecoveryEnabled config) {terminal : Bool}
    (held : (net.stream side).phase .receive =
      .held (net.stream side).link.current (.acknowledgement generation offset terminal true)) :
    Stream.confirms (net.stream side).control generation offset = true := by
  have stamped : generation = (net.stream side).link.current.generation :=
    ((closing.sound.honest side.peer).tracked.logged _ _ (closing.sound.held held)).2
  have question := (closing.evidenced side.peer).logged _ _ _ (closing.sound.held held) rfl
  rw [Side.peer_peer] at question
  have here := closing.sent_current question stamped
  obtain rfl := closing.receipt_offset question
  have receipting := ((closing.regular side).controlled (enabled side).1).receipting
  obtain ⟨pending, _⟩ := receipting.logged _ _ _ here
  have remote := receipting.remote pending
  have owed := closing.terminal_offset ((closing.evidenced side).terminal.owed pending)
  unfold Stream.confirms
  rcases receipting.current _ _ here with ⟨sent, names⟩ | ⟨stamp, named, writing⟩
  · simp [remote, pending, sent, names, stamped, owed]
  have carried : ((net.stream side).phase .acknowledge).carried =
      some ((net.stream side).link.current, .acknowledgement stamp named true false) := by
    rw [writing]
    rfl
  obtain ⟨_, busy, writes, offset, _⟩ := receipting.carried _ _ _ carried
  have answered := closing.terminal_offset ((closing.evidenced side).carried _ _ _ carried rfl)
  simp [remote, pending, busy, writes, stamped, offset, answered]

end Closed

/-- A Terminal that arrives in order is at `recvNext`. -/
theorem Orderly.terminal (orderly : Orderly config net)
    (held : (net.stream side).phase .receive = .held attachment (.terminal generation offset)) :
    offset = (net.stream side).receive.recvNext := by
  have ordered := orderly.inOrder side.peer
  have delivered := orderly.sound.delivered side.peer
  rw [Side.peer_peer] at ordered
  have inOrder := ordered.resolve_left fun ⟨err, failed⟩ => by
    rw [held] at failed
    cases failed
  have named := ((orderly.regular side.peer).terminating.logged _ _ _ (orderly.sound.held held)).1
  have length := (orderly.sound.honest side.peer).sourced.sendEnd
  have le := inOrder.terminal _ _ _ held
  have bound := delivered.recvNext_le
  rw [Side.peer_peer] at bound
  omega

/-- A record of the close is handled without a violation, if an answer among them is
handled while its Attachment is current. -/
theorem Orderly.closes (enabled : RecoveryEnabled config) (orderly : Orderly config net)
    (closing : Closing config net) {after : Stream}
    (held : (net.stream side).phase .receive = .held attachment record)
    (current : record.answers ≠ none → attachment = (net.stream side).link.current)
    (closes : record.closes = true)
    (handled : Handled (config side) (net.stream side) attachment record after) :
    ∀ err, after.phase .receive ≠ .returned (some err) := by
  have logged := closing.sound.held held
  cases handled with
  | stale err differs violation =>
    exact absurd ((closing.sound.honest side.peer).tracked.logged _ _ logged).2 differs
  | confirmed offset terminal bounded named => simp
  | unconfirmed offset terminal bounded differs =>
    obtain rfl := current nofun
    rw [closing.confirms enabled held] at differs
    cases differs
  | unreceipted offset bounded differs =>
    obtain rfl := current nofun
    rw [closing.receipts enabled held] at differs
    cases differs
  | ended offset err counted expected =>
    rw [(enabled side).1] at counted
    cases counted
  | acknowledged offset terminal confirmation plain named =>
    -- the peer acknowledges no more than it has received, and this end has sent that
    have le := (closing.sound.honest side.peer).acknowledgement_le logged fun _ =>
      plain (enabled side).1
    have bound := (closing.sound.delivered side).recvNext_le
    have length := (closing.sound.honest side).sourced.sendEnd
    unfold receiveAcknowledgement Sending.acknowledgeLocked
    by_cases old : offset < (net.stream side).send.sendBase
    · simp [old]
    · have fits : ¬ (net.stream side).send.sendEnd < offset := by omega
      simp [old, fits]
  | terminal offset bounded =>
    obtain rfl := orderly.terminal held
    unfold receiveTerminal
    simp only [ne_eq, not_true_eq_false, if_false, goto_phase_self]
    split <;> nofun
  | data offset payload => cases closes

theorem Orderly.acceptsClose (enabled : RecoveryEnabled config) (orderly : Orderly config net)
    (closing : Closing config net) {move : Side × Stream.Event}
    (current : net.answersOnCurrent move = true) : net.acceptsClose config move = true := by
  obtain ⟨side, event⟩ := move
  unfold Net.answersOnCurrent at current
  unfold Net.acceptsClose
  dsimp only at current ⊢
  split
  · rename_i attachment record held
    simp only [held, Bool.or_eq_true, decide_eq_true_eq, Option.isNone_iff_eq_none] at current
    rw [Bool.or_eq_true, Bool.not_eq_true', Bool.eq_false_iff, ← imp_iff_not_or]
    intro closes
    unfold refusal
    cases moved : (net.stream side).process (config side) with
    | none => rfl
    | some after =>
      obtain ⟨holder, found, same, handled⟩ := step_process moved
      rw [held] at same
      cases same
      have quiet := orderly.closes enabled closing held
        (fun answers => current.resolve_left answers) closes handled
      rw [Option.bind_some]
      split
      · rename_i result returned
        cases result with
        | none => rfl
        | some err => exact absurd returned (quiet err)
      · rfl
  · rfl

/-- **Terminal-control agreement.**  In every state of every history of two
recovery-enabled ends, an end whose `RunBounded` has returned agrees with its peer;
and in every history whose Data goes out in order and whose receipts and
confirmations are handled while their Attachment is current, no record of the close
is classified as a violation. -/
theorem terminal_control_agreement (config : Side → Config) (matched : Matched config)
    (enabled : RecoveryEnabled config) (attachment : Attachment)
    (moves : List (Side × Stream.Event)) :
    Throughout (step config)
        (fun net => ∀ side outcome, (net.stream side).main = .returned outcome →
          Agreed net side outcome) (initial config attachment) moves ∧
      (Along (step config) (fun net move => net.flushesInOrder move && net.answersOnCurrent move)
          (initial config attachment) moves →
        Along (step config) (fun net move => net.acceptsClose config move)
          (initial config attachment) moves) := by
  have closing := throughout_closing matched.mode attachment moves
  constructor
  · refine closing.imp fun net closing => ?_
    intro side outcome returned
    exact closing.agreed enabled returned
  intro fresh
  have both : Throughout (step config) (fun net => Orderly config net ∧ Closing config net)
      (initial config attachment) moves := by
    refine fresh.throughout (fun net move next kept here stepped => ?_)
      ⟨initial_orderly config attachment, initial_closing config attachment⟩
    rw [Bool.and_eq_true] at here
    exact ⟨step_orderly matched kept.1 here.1 stepped, step_closing matched.mode kept.2 stepped⟩
  refine both.along (fun net move kept here => ?_) fresh
  rw [Bool.and_eq_true] at here
  exact kept.1.acceptsClose enabled kept.2 here.2

theorem recoverableEnds_enabled : RecoveryEnabled recoverableEnds := fun _ => ⟨rfl, rfl⟩

/-- `side` ends its input and writes its Terminal. -/
def ends (side : Side) : List (Side × Stream.Event) :=
  [(side, .ask), (side, .endOfInput)] ++ writes side .terminal ++
    [(side, .checkTerminal), (side, .checkTerminal)]

/-- The client sends one byte, both ends close the connection and the client's
`RunBounded` returns. -/
def closesInOrder : List (Side × Stream.Event) :=
  List.flatten [
    flushes .client, [(.client, .finish .flush)], ends .client, ends .publisher,
    receives .publisher (.data 1 0 [7]),
    [(.publisher, .applicationWrites), (.publisher, .queueAcknowledgement)],
    receives .publisher (.terminal 1 1), [(.publisher, .closeInput)], writes .publisher .acknowledge,
    receives .client (.terminal 1 0), [(.client, .closeInput)], writes .client .acknowledge,
    receives .client (.acknowledgement 1 1 true false), writes .client .acknowledge,
    receives .publisher (.acknowledgement 1 0 true false), writes .publisher .acknowledge,
    receives .client (.acknowledgement 1 0 true true),
    [(.client, .acknowledgementsDone), (.client, .takeOutcome), (.client, .checkOutcome),
      (.client, .startTail)]]

theorem closesInOrder_agrees :
    (∃ last, run (step recoverableEnds) (initial recoverableEnds (.mk 1 1)) closesInOrder =
        some last ∧
      (last.stream .client).main = .returned ⟨1, 1, 0, 1⟩ ∧ Agreed last .client ⟨1, 1, 0, 1⟩) ∧
    Along (step recoverableEnds) (fun net move => net.acceptsClose recoverableEnds move)
      (initial recoverableEnds (.mk 1 1)) closesInOrder := by
  have agreement := terminal_control_agreement recoverableEnds recoverableEnds_matched
    recoverableEnds_enabled (.mk 1 1) closesInOrder
  exact ⟨⟨_, rfl, rfl, agreement.1.last rfl .client _ rfl⟩, agreement.2 (by decide +kernel)⟩

/-- The client's byte is written on the first Attachment, which both ends then
replace; the client's flush advances `sendNext` only after the cutover, so its
Terminal is the first record on the replacement. -/
def skippedData : List (Side × Stream.Event) :=
  List.flatten [
    flushes .client, losesRead .client, losesRead .publisher,
    proposes .client .receive .second, proposes .publisher .receive .second,
    cutsOver .client .receive ⟨0, 0, 0, 2, 1⟩, cutsOver .publisher .receive ⟨0, 1, 0, 1, 2⟩,
    [(.client, .finish .flush)], ends .client, receives .publisher (.terminal 2 1)]

/-- The client holds the receipt of its Terminal when both ends replace the
Attachment; its Terminal is written on the replacement before the receipt is
handled. -/
def lateReceipt : List (Side × Stream.Event) :=
  List.flatten [
    ends .client, ends .publisher,
    receives .publisher (.terminal 1 0), [(.publisher, .closeInput)], writes .publisher .acknowledge,
    receives .client (.terminal 1 0), [(.client, .closeInput)],
    [(.client, .check), (.client, .attach .receive), (.client, .read (.acknowledgement 1 0 true false))],
    losesWrite .client .acknowledge, [(.client, .clearReceipt)], losesRead .publisher,
    proposes .client .acknowledge .second, proposes .publisher .receive .second,
    cutsOver .client .acknowledge ⟨0, 0, 0, 2, 1⟩, cutsOver .publisher .receive ⟨0, 0, 0, 1, 2⟩,
    [(.client, .checkTerminal)], writes .client .terminal, [(.client, .process)]]

/-- The publisher has written its receipt and holds the confirmation when both ends
replace the Attachment; its acknowledgement worker records the write only after the
cutover, and therefore not as sent. -/
def lateConfirmation : List (Side × Stream.Event) :=
  List.flatten [
    ends .client, receives .publisher (.terminal 1 0),
    [(.publisher, .closeInput), (.publisher, .attach .acknowledge), (.publisher, .choose .acknowledge),
      (.publisher, .enterWrite .acknowledge), (.publisher, .write .acknowledge)],
    receives .client (.acknowledgement 1 0 true false), writes .client .acknowledge,
    [(.publisher, .check), (.publisher, .attach .receive), (.publisher, .read (.acknowledgement 1 0 true true)),
      (.publisher, .ask), (.publisher, .endOfInput)],
    losesWrite .publisher .terminal, losesRead .client,
    proposes .client .receive .second, proposes .publisher .terminal .second,
    cutsOver .client .receive ⟨0, 0, 0, 2, 1⟩, cutsOver .publisher .terminal ⟨0, 0, 0, 1, 2⟩,
    [(.publisher, .finish .acknowledge), (.publisher, .process)]]

/-- The history runs, and in it the receive worker of `side` returns
`ErrActiveViolation`. -/
def Violates (moves : List (Side × Stream.Event)) (side : Side) : Prop :=
  ∃ last err, run (step recoverableEnds) (initial recoverableEnds (.mk 1 1)) moves = some last ∧
    (last.stream side).phase .receive = .returned (some err) ∧ err.isActiveViolation = true

/-- An honest Terminal, an honest receipt and an honest confirmation are each
classified as `ErrActiveViolation`. -/
theorem close_misclassified :
    Violates skippedData .publisher ∧ Violates lateReceipt .client ∧
      Violates lateConfirmation .publisher :=
  ⟨⟨_, _, rfl, rfl, rfl⟩, ⟨_, _, rfl, rfl, rfl⟩, ⟨_, _, rfl, rfl, rfl⟩⟩

end Net

end Ardents.Connection
