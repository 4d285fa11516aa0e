/-
# Connection.Steps — what one step of a Stream can change

Every invariant of a Stream is kept by most events because they do not touch the
fields it speaks of.  `step_frame` says once, for every event, which parts of the
state it leaves alone; the lemmas after it give the exact effect of the events
that do touch the send half, the carriers or the current Attachment.  Later
modules read steps through these and unfold only the sections they are about.
-/
import Ardents.Connection.Stream

namespace Ardents.Connection

set_option autoImplicit false

/-- The receive worker has a record in hand. -/
def Phase.serving : Phase → Bool
  | .held _ _ | .delivering _ | .acknowledging _ | .closing => true
  | _ => false

/-- The record in a writer's hands, with its Attachment. -/
def Phase.carried : Phase → Option (Attachment × StreamRecord)
  | .holding attachment record | .admitted attachment record | .written attachment record
  | .failed attachment record => some (attachment, record)
  | _ => none

/-- Where an error, or the end of `recoverAttachment`, leaves a worker. -/
@[simp, grind =] def Phase.Left (phase : Phase) : Prop :=
  phase = .idle ∨ (∃ result, phase = .clearing result) ∨ ∃ err, phase = .returned (some err)

/-- Where `acceptData` leaves the receive worker. -/
@[simp, grind =] def Phase.Progressed (phase : Phase) : Prop :=
  (∃ range, phase = .delivering range) ∨ (∃ offset, phase = .acknowledging offset) ∨
    ∃ err, phase = .returned (some err)

namespace Stream

/-! ## Which events touch what -/

namespace Event

/-- The worker whose phase the event moves. -/
def worker : Event → Option Worker
  | .pick => some .flush
  | .attach worker | .choose worker | .enterWrite worker | .write worker | .writeFails worker
  | .finish worker | .enterRecovery worker _ | .closeFailed worker | .propose worker _
  | .opened worker _ | .openFails worker _ | .exchange worker _ | .exchangeFails worker _
  | .commit worker _ | .retry worker | .abandon worker => some worker
  | .endOfInput | .clearTerminal | .checkTerminal => some .terminal
  | .clearReceipt | .acknowledgementsDone | .startTail => some .acknowledge
  | .check | .read _ | .readFails | .rejoin _ | .process | .applicationWrites
  | .applicationFails _ | .queueAcknowledgement | .closeInput | .closeInputFails
  | .tailReceive => some .receive
  | .ask | .input _ | .takeOutcome | .checkOutcome | .join | .fail _ => none

/-- The event may move the send window. -/
def sends : Event → Bool
  | .input _ | .finish .flush | .process | .commit _ _ => true
  | _ => false

/-- The event may change the reassembly state. -/
def receives : Event → Bool
  | .process | .applicationWrites => true
  | _ => false

/-- The event may change `ackPending` or `ackSent`. -/
def acknowledges : Event → Bool
  | .finish .acknowledge | .process | .queueAcknowledgement | .commit _ _ => true
  | _ => false

/-- The event may change a Terminal-control field. -/
def controls : Event → Bool
  | .endOfInput | .choose _ | .enterWrite _ | .finish _ | .clearReceipt | .clearTerminal
  | .checkTerminal | .process | .startTail => true
  | _ => false

/-- The event may install another Attachment. -/
def commits : Event → Bool
  | .commit _ _ => true
  | _ => false

/-- The event may send a Continuity record. -/
def opens : Event → Bool
  | .opened _ _ => true
  | _ => false

/-- The event may put a record on a carrier. -/
def writes : Event → Bool
  | .write _ => true
  | _ => false

/-- The event belongs to `recoverAttachment`. -/
def recovers : Event → Bool
  | .enterRecovery _ _ | .closeFailed _ | .propose _ _ | .opened _ _ | .openFails _ _
  | .exchange _ _ | .exchangeFails _ _ | .commit _ _ | .retry _ | .abandon _ => true
  | _ => false

/-- The event takes a record from the carrier or deals with one. -/
def serves : Event → Bool
  | .read _ | .process | .applicationWrites | .applicationFails _ | .queueAcknowledgement
  | .closeInput | .closeInputFails => true
  | _ => false

/-- The event may read from the Application. -/
def asks : Event → Bool
  | .ask | .input _ | .endOfInput => true
  | _ => false

/-- The event may write to the Application. -/
def delivers : Event → Bool
  | .applicationWrites | .applicationFails _ => true
  | _ => false

/-- The event may move the goroutine of `RunBounded`. -/
def concludes : Event → Bool
  | .takeOutcome | .checkOutcome | .startTail | .join => true
  | _ => false

end Event

/-- What `event` leaves alone on its way from `before` to `after`. -/
structure Frame (event : Event) (before after : Stream) : Prop where
  phase : ∀ worker, event.worker ≠ some worker → after.phase worker = before.phase worker
  send : event.sends = false → after.send = before.send
  receive : event.receives = false → after.receive = before.receive
  acks : event.acknowledges = false → after.acks = before.acks
  control : event.controls = false → after.control = before.control
  current : event.commits = false → after.link.current = before.link.current
  commits : event.commits = false → after.history.commits = before.history.commits
  log : event.writes = false → after.history.log = before.history.log
  sender : event.asks = false → after.sender = before.sender
  input : event.asks = false → after.history.input = before.history.input
  output : event.delivers = false → after.history.output = before.history.output
  main : event.concludes = false → after.main = before.main
  limit : event ≠ .tailReceive → after.limit = before.limit
  inputCloses : event ≠ .closeInput → after.history.inputCloses = before.history.inputCloses
  acceptedTerminal : event ≠ .process →
    after.history.acceptedTerminal = before.history.acceptedTerminal
  applicationFailed : event.delivers = false →
    after.history.applicationFailed = before.history.applicationFailed
  closed : before.link.closed ⊆ after.link.closed
  offers : event.opens = false → after.history.offers = before.history.offers
  terminal : before.link.terminal ≠ none → after.link.terminal = before.link.terminal

variable {worker : Worker} {event : Event} {attachment : Attachment} {record : StreamRecord}
  {stream : Stream}

@[simp] theorem goto_phase_self (stream : Stream) (worker : Worker) (phase : Phase) :
    (stream.goto worker phase).phase worker = phase := by
  simp [goto]

theorem goto_phase_of_ne (stream : Stream) {other : Worker} (phase : Phase) (ne : other ≠ worker) :
    (stream.goto worker phase).phase other = stream.phase other := by
  simp [goto, ne]

/-- **The frame of a step**: an event changes nothing outside what it touches. -/
theorem step_frame {config : Config} {before after : Stream}
    (stepped : step config before event = some after) : Frame event before after := by
  cases event
  all_goals
    simp only [step, ask, input, endOfInput, pick, attach, choose, enterWrite, write, writeFails, finish,
      clearReceipt, clearTerminal, checkTerminal, enterRecovery, closeFailed, propose, opened,
      openFails, exchange, exchangeFails, commit, retry, abandon, check, read, readFails, rejoin,
      process, applicationWrites, applicationFails, queueAcknowledgement, closeInput,
      closeInputFails, acknowledgementsDone, takeOutcome, checkOutcome, startTail, join,
      tailReceive, fail, unlessComplete, unwritten, chooseAcknowledgement, chooseTerminal, advance,
      receiveAcknowledgement, receiveData, receiveTerminal, refuse] at stepped
  all_goals (repeat' split at stepped)
  all_goals cases stepped
  -- each remaining field is untouched by computation, or the event is one that touches it
  all_goals
    constructor
    all_goals first
      | exact fun _ => rfl
      | exact fun _ _ => rfl
      | exact fun _ ne => goto_phase_of_ne _ _ fun same => ne (congrArg some same.symm)
      | exact List.Subset.refl _
      | exact List.subset_cons_self _ _
      | (intro touched; cases touched)
      | (intro touched; contradiction)

/-! ## The events that move the send window or a carrier -/

variable {config : Config} {before after : Stream}

theorem step_input {bytes : List UInt8} (stepped : step config before (.input bytes) = some after) :
    ∃ want, before.sender = .asking want ∧ bytes ≠ [] ∧ bytes.length ≤ want ∧
      after = { before with
        sender := .idle
        send := { before.send with
          sendData := before.send.sendData ++ bytes
          sendEnd := before.send.sendEnd + bytes.length }
        history := { before.history with input := before.history.input ++ bytes } } := by
  simp only [step, input] at stepped
  split at stepped
  · rename_i want asking
    split at stepped
    · rename_i fits
      cases stepped
      exact ⟨want, asking, fits.1, fits.2, rfl⟩
    · cases stepped
  · cases stepped

theorem step_write (stepped : step config before (.write worker) = some after) :
    ∃ attachment record, before.phase worker = .admitted attachment record ∧
      attachment ∉ before.link.closed ∧
      after = { before with history := { before.history with
        log := before.history.log ++ [(attachment, record)] } }.goto worker
          (.written attachment record) := by
  simp only [step, write] at stepped
  split at stepped
  · rename_i attachment record admitted
    split at stepped
    · cases stepped
    · rename_i opened
      cases stepped
      exact ⟨attachment, record, admitted, opened, rfl⟩
  · cases stepped

theorem step_finish_flush (stepped : step config before (.finish .flush) = some after) :
    ∃ attachment generation offset payload,
      before.phase .flush = .written attachment (.data generation offset payload) ∧
      after = (before.advance offset payload).goto .flush .idle := by
  simp only [step, finish] at stepped
  split at stepped
  · rename_i attachment generation offset payload _ written
    cases stepped
    exact ⟨attachment, generation, offset, payload, written, rfl⟩
  all_goals contradiction

/-- `attachment()` either aborts the worker or hands it the current Attachment. -/
theorem step_attach (stepped : step config before (.attach worker) = some after) :
    ∃ phase, before.attachedPhase config worker = some phase ∧
      ((∃ err, after = before.goto worker (aborted worker err)) ∨
        before.link.terminal = none ∧ before.link.recovering = false ∧
          after = before.goto worker phase) := by
  simp only [step, attach] at stepped
  split at stepped
  · cases stepped
  rename_i phase ready
  refine ⟨phase, ready, ?_⟩
  split at stepped
  · rename_i err _
    cases stepped
    exact .inl ⟨err, rfl⟩
  rename_i terminal
  split at stepped
  · cases stepped
  · rename_i settled
    cases stepped
    exact .inr ⟨terminal, by simpa using settled, rfl⟩

/-- What `commitAttachment` has checked of the Attachments when it goes through. -/
structure Committed (before : Stream) (failed attachment : Attachment) : Prop where
  current : before.link.current = failed
  generation : failed.generation < attachment.generation

variable {failed : Attachment} {cancelled : Bool} {phase : Phase}

theorem commitRefusal_none {peer : ContinuityPeer}
    (passed : before.commitRefusal failed attachment peer cancelled = none) :
    Committed before failed attachment := by
  unfold commitRefusal at passed
  split at passed
  · cases passed
  · rename_i terminal
    repeat (split at passed; · cases passed)
    constructor <;> first | assumption | omega | (rename_i h _ _ _ _; simpa using h)

/-- A commit either closes the proposed carrier or cuts over to it. -/
theorem step_commit (stepped : step config before (.commit worker cancelled) = some after) :
    ∃ failed state attachment peer,
      before.phase worker = .recovering failed (.exchanged state attachment peer) ∧
      ((∃ err, after = (before.closeCarrier attachment).goto worker
          (.recovering failed (.refused state err))) ∨
        ∃ send, Committed before failed attachment ∧
          before.send.acknowledgeLocked peer.receiveNext = some send ∧
          after = (before.cutover state attachment send).goto worker (resumed worker)) := by
  simp only [step, commit] at stepped
  split at stepped
  · rename_i failed state attachment peer exchanged
    refine ⟨failed, state, attachment, peer, exchanged, ?_⟩
    split at stepped
    · rename_i err _
      cases stepped
      exact .inl ⟨err, rfl⟩
    rename_i passed
    split at stepped
    · cases stepped
      exact .inl ⟨_, rfl⟩
    · rename_i send acknowledged
      cases stepped
      exact .inr ⟨send, commitRefusal_none passed, acknowledged, rfl⟩
  · cases stepped

/-- Only a cutover replaces the current Attachment: by one of a later generation, and the
window is rewound. -/
theorem step_current (stepped : step config before event = some after) :
    after.link.current = before.link.current ∨
      before.link.current.generation < after.link.current.generation ∧
        after.history.log = before.history.log ∧ after.send.sendNext = after.send.sendBase ∧
        ∃ worker state peer, before.phase worker =
          .recovering before.link.current (.exchanged state after.link.current peer) := by
  by_cases commits : event.commits = false
  · exact .inl ((step_frame stepped).current commits)
  cases event with
  | commit worker cancelled =>
    obtain ⟨_, state, _, peer, exchanged, ⟨_, rfl⟩ | ⟨_, committed, _, rfl⟩⟩ := step_commit stepped
    · exact .inl rfl
    · obtain rfl := committed.current
      exact .inr ⟨committed.generation, rfl, rfl, worker, state, peer, exchanged⟩
  | _ => exact absurd rfl commits

/-- **What the receive worker can do with the record it read**, by its kind. -/
inductive Handled (config : Config) (before : Stream) (attachment : Attachment) :
    StreamRecord → Stream → Prop where
  | stale {record : StreamRecord} (err : StreamError)
      (differs : record.generation ≠ attachment.generation)
      (violation : err.isActiveViolation = true) :
      Handled config before attachment record (before.refuse err)
  | data (offset : Nat) (payload : List UInt8) :
      Handled config before attachment (.data attachment.generation offset payload)
        (before.receiveData offset payload)
  | confirmed (offset : Nat) (terminal : Bool) (bounded : config.bounded = true)
      (named : confirms before.control attachment.generation offset = true) :
      Handled config before attachment
        (.acknowledgement attachment.generation offset terminal true)
        ({ before with control := { before.control with
          terminalAckConfirmedGeneration := attachment.generation } }.goto .receive .idle)
  | unconfirmed (offset : Nat) (terminal : Bool) (bounded : config.bounded = true)
      (differs : confirms before.control attachment.generation offset = false) :
      Handled config before attachment
        (.acknowledgement attachment.generation offset terminal true)
        (before.refuse .unmatchedConfirmation)
  | unreceipted (offset : Nat) (bounded : config.bounded = true)
      (differs : receipts before.control attachment.generation offset = false) :
      Handled config before attachment (.acknowledgement attachment.generation offset true false)
        (before.refuse (unmatchedReceipt before.control attachment.generation offset))
  | acknowledged (offset : Nat) (terminal confirmation : Bool)
      (plain : config.bounded = true → confirmation = false)
      (named : config.bounded = true → terminal = true →
        receipts before.control attachment.generation offset = true) :
      Handled config before attachment
        (.acknowledgement attachment.generation offset terminal confirmation)
        (before.receiveAcknowledgement config attachment.generation offset terminal)
  | terminal (offset : Nat) (bounded : config.bounded = true) :
      Handled config before attachment (.terminal attachment.generation offset)
        (before.receiveTerminal config attachment offset)
  | ended (offset : Nat) (err : StreamError) (counted : config.bounded = false)
      (expected : offset = before.receive.recvNext → err = .remoteEnded) :
      Handled config before attachment (.terminal attachment.generation offset) (before.refuse err)

theorem step_process (stepped : step config before .process = some after) :
    ∃ attachment record, before.phase .receive = .held attachment record ∧
      Handled config before attachment record after := by
  simp only [step, process] at stepped
  split at stepped
  · rename_i attachment record held
    refine ⟨attachment, record, held, ?_⟩
    split at stepped
    · rename_i differs
      cases stepped
      exact .stale _ differs (by split <;> rfl)
    rename_i same
    rw [ne_eq, Decidable.not_not] at same
    split at stepped
    · rename_i generation offset terminal confirmation
      obtain rfl : generation = attachment.generation := same
      split at stepped
      · rename_i conf
        obtain ⟨bounded, rfl⟩ := conf
        split at stepped
        · rename_i named
          cases stepped
          exact .confirmed offset terminal bounded named
        · rename_i differs
          cases stepped
          exact .unconfirmed offset terminal bounded (by simpa using differs)
      · rename_i plain
        split at stepped
        · rename_i wrong
          obtain ⟨bounded, rfl, differs⟩ := wrong
          obtain rfl : confirmation = false := by simpa [bounded] using plain
          cases stepped
          exact .unreceipted offset bounded differs
        · rename_i named
          cases stepped
          refine .acknowledged offset terminal confirmation (fun bounded => ?_)
            (fun bounded receipt => ?_)
          · simpa [bounded] using plain
          · simpa [bounded, receipt] using named
    · rename_i generation offset payload
      obtain rfl : generation = attachment.generation := same
      cases stepped
      exact .data offset payload
    · rename_i generation offset
      obtain rfl : generation = attachment.generation := same
      split at stepped
      · rename_i bounded
        cases stepped
        exact .terminal offset bounded
      rename_i counted
      split at stepped <;> cases stepped
      · exact .ended offset _ (by simpa using counted) fun _ => rfl
      · rename_i differs
        exact .ended offset _ (by simpa using counted) fun same => absurd same differs
  · cases stepped

theorem receiveTerminal_send (stream : Stream) (attachment : Attachment) (offset : Nat) :
    (stream.receiveTerminal config attachment offset).send = stream.send := by
  unfold receiveTerminal
  split <;> rfl

/-- **What a step can do to the bytes to send.** -/
inductive Sends (config : Config) (before after : Stream) : Event → Prop where
  | stays {event : Event} (send : after.send = before.send)
      (input : after.history.input = before.history.input) : Sends config before after event
  | reads {bytes : List UInt8} (send : after.send = { before.send with
        sendData := before.send.sendData ++ bytes
        sendEnd := before.send.sendEnd + bytes.length })
      (input : after.history.input = before.history.input ++ bytes) :
      Sends config before after (.input bytes)
  | advances {attachment : Attachment} {generation offset : Nat} {payload : List UInt8}
      (written : before.phase .flush = .written attachment (.data generation offset payload))
      (next : offset = before.send.sendNext)
      (send : after.send = { before.send with sendNext := offset + payload.length }) :
      Sends config before after (.finish .flush)
  /-- it was not a confirmation of the bounded protocol -/
  | acknowledges {attachment : Attachment} {generation offset : Nat} {terminal confirmation : Bool}
      (held : before.phase .receive =
        .held attachment (.acknowledgement generation offset terminal confirmation))
      (plain : config.bounded = true → confirmation = false)
      (acknowledged : before.send.acknowledgeLocked offset = some after.send) :
      Sends config before after .process
  | rewinds {worker : Worker} {cancelled : Bool} {failed attachment : Attachment}
      {state : ContinuityExchange} {peer : ContinuityPeer} {send : Sending}
      (exchanged : before.phase worker = .recovering failed (.exchanged state attachment peer))
      (acknowledged : before.send.acknowledgeLocked peer.receiveNext = some send)
      (rewound : after.send = { send with sendNext := send.sendBase }) :
      Sends config before after (.commit worker cancelled)

theorem step_sends (stepped : step config before event = some after) :
    Sends config before after event := by
  have frame := step_frame stepped
  cases event with
  | ask =>
    refine .stays (frame.send rfl) ?_
    simp only [step, ask] at stepped
    split at stepped <;> cases stepped
    rfl
  | input bytes =>
    obtain ⟨_, _, _, _, rfl⟩ := step_input stepped
    exact .reads rfl rfl
  | endOfInput =>
    refine .stays (frame.send rfl) ?_
    simp only [step, endOfInput] at stepped
    (repeat' split at stepped) <;> cases stepped <;> rfl
  | finish worker =>
    cases worker with
    | flush =>
      obtain ⟨_, _, _, _, written, rfl⟩ := step_finish_flush stepped
      unfold advance
      split
      · next same => exact .advances written same rfl
      · exact .stays rfl rfl
    | _ => exact .stays (frame.send rfl) (frame.input rfl)
  | process =>
    obtain ⟨attachment, record, held, handled⟩ := step_process stepped
    cases handled with
    | acknowledged offset terminal confirmation plain named =>
      unfold receiveAcknowledgement
      split
      · exact .stays rfl rfl
      · next acknowledged => exact .acknowledges held plain acknowledged
    | terminal offset bounded => exact .stays (receiveTerminal_send _ _ _) (frame.input rfl)
    | _ => exact .stays rfl rfl
  | commit worker cancelled =>
    obtain ⟨_, _, _, _, exchanged, ⟨_, rfl⟩ | ⟨_, _, acknowledged, rfl⟩⟩ := step_commit stepped
    · exact .stays rfl rfl
    · exact .rewinds exchanged acknowledged rfl
  | _ => exact .stays (frame.send rfl) (frame.input rfl)

theorem step_read (stepped : step config before (.read record) = some after) :
    ∃ attachment, before.phase .receive = .reading attachment ∧ attachment ∉ before.link.closed ∧
      after = before.goto .receive (.held attachment record) := by
  simp only [step, read] at stepped
  split at stepped
  · rename_i attachment reading
    split at stepped
    · cases stepped
    · rename_i opened
      cases stepped
      exact ⟨attachment, reading, opened, rfl⟩
  · cases stepped

theorem step_applicationFails {count : Nat}
    (stepped : step config before (.applicationFails count) = some after) :
    ∃ range, before.phase .receive = .delivering range ∧
      after.history.output = before.history.output ++ range.data.take count ∧
      after.history.applicationFailed = true ∧
      after.phase .receive = .returned (some .application) := by
  simp only [step, applicationFails, fail] at stepped
  split at stepped
  · rename_i range delivering
    split at stepped
    · split at stepped <;> cases stepped <;>
        exact ⟨range, delivering, rfl, rfl, goto_phase_self _ _ _⟩
    · cases stepped
  · cases stepped

/-! ## Where a step takes its worker -/

section Moves

variable (config : Config) (before after : Stream)

/-- **Where a step takes the worker it moves**, from phase to phase: one constructor for
each section of the source, and one for all of `recoverAttachment`. -/
inductive Moves : Event → Worker → Phase → Phase → Prop
  | endOfInput (old : Phase) : Moves .endOfInput .terminal old .attaching
  | pick (offset : Nat) (payload : List UInt8) : Moves .pick .flush .idle (.picked offset payload)
  | attachData (offset : Nat) (payload : List UInt8) :
      Moves (.attach .flush) .flush (.picked offset payload) (.holding before.link.current
        (.data before.link.current.generation offset payload))
  | attachOffset (offset : Nat) (payload : List UInt8) :
      Moves (.attach .acknowledge) .acknowledge (.picked offset payload) (.holding before.link.current
        (.acknowledgement before.link.current.generation offset false false))
  | attachPending (bounded : config.bounded = true) :
      Moves (.attach .acknowledge) .acknowledge .idle (.attached before.link.current)
  | attachTerminal : Moves (.attach .terminal) .terminal .attaching (.attached before.link.current)
  | attachReader : Moves (.attach .receive) .receive .attaching (.reading before.link.current)
  | choosePending {new : Phase} (attachment : Attachment)
      (chosen : after = before.chooseAcknowledgement attachment)
      (now : new = .idle ∨ ∃ record, new = .holding attachment record) :
      Moves (.choose .acknowledge) .acknowledge (.attached attachment) new
  | chooseOffset (counted : config.bounded = false) :
      Moves (.choose .acknowledge) .acknowledge .idle (.picked before.acks.ackPending [])
  | chooseTerminal {new : Phase} (attachment : Attachment)
      (chosen : after = before.chooseTerminal config attachment)
      (now : new = .attaching ∨ new = .checking ∨ (∃ err, new = .returned (some err)) ∨
        ∃ record, new = .holding attachment record) :
      Moves (.choose .terminal) .terminal (.attached attachment) new
  | putOff (worker : Worker) (attachment : Attachment) (record : StreamRecord) :
      Moves (.enterWrite worker) worker (.holding attachment record) .attaching
  | admits (worker : Worker) (attachment : Attachment) (record : StreamRecord)
      (current : before.link.current = attachment) (control : after.control = before.control)
      (sent : record.isTerminal = true → before.send.sendEnd ≤ before.send.sendNext) :
      Moves (.enterWrite worker) worker (.holding attachment record) (.admitted attachment record)
  | write (worker : Worker) (attachment : Attachment) (record : StreamRecord) :
      Moves (.write worker) worker (.admitted attachment record) (.written attachment record)
  | finish {worker : Worker} {new : Phase} (attachment : Attachment) (record : StreamRecord)
      (now : new = .idle ∨ new = .checking ∨ new = .returned none ∧ worker = .terminal) :
      Moves (.finish worker) worker (.written attachment record) new
  | clearReceipt (attachment : Attachment) (record : StreamRecord) :
      Moves .clearReceipt .acknowledge (.failed attachment record) (.lost attachment)
  | clearTerminal {new : Phase} (result : Option StreamError)
      (now : new = .checking ∨ ∃ err, new = .returned (some err)) :
      Moves .clearTerminal .terminal (.clearing result) new
  | checkTerminal {old new : Phase} (was : old = .checking ∨ old = .settling ∨ old = .settled)
      (now : new = .attaching ∨ new = .settling ∨ new = .settled ∨ ∃ err, new = .returned (some err)) :
      Moves .checkTerminal .terminal old new
  | check {new : Phase} (now : new = .attaching ∨ ∃ result, new = .returned result) :
      Moves .check .receive .idle new
  | read (attachment : Attachment) (record : StreamRecord) :
      Moves (.read record) .receive (.reading attachment) (.held attachment record)
  | readFails (attachment : Attachment) (waits : Bool) :
      Moves .readFails .receive (.reading attachment) (.readFailed attachment waits)
  | rejoin {eof : Bool} {new : Phase} (attachment : Attachment) (waits : Bool)
      (now : new = .lost attachment ∨ ∃ result, new = .returned result) :
      Moves (.rejoin eof) .receive (.readFailed attachment waits) new
  | process {new : Phase} (attachment : Attachment) (record : StreamRecord)
      (now : new = .idle ∨ new = .closing ∨ new.Progressed) :
      Moves .process .receive (.held attachment record) new
  | applicationWrites {new : Phase} (range : ReceivedRange) (now : new.Progressed) :
      Moves .applicationWrites .receive (.delivering range) new
  | applicationFails (count : Nat) (range : ReceivedRange) : Moves (.applicationFails count) .receive
      (.delivering range) (.returned (some .application))
  | queueAcknowledgement (offset : Nat) :
      Moves .queueAcknowledgement .receive (.acknowledging offset) .idle
  | closeInput : Moves .closeInput .receive .closing .idle
  | closeInputFails : Moves .closeInputFails .receive .closing (.returned (some .application))
  | tailReceive : Moves .tailReceive .receive (.returned none) .idle
  | acknowledgementsDone (complete : before.boundedAcknowledgementCompleteLocked config = true) :
      Moves .acknowledgementsDone .acknowledge .idle (.returned none)
  | startTail {old new : Phase} (now : new = .idle ∨ new = old ∧ after.control = before.control) :
      Moves .startTail .acknowledge old new
  | attachFails {worker : Worker} {old new : Phase}
      (was : old = .attaching ∨ worker = .acknowledge ∧ old = .idle ∨
        ∃ offset payload, old = .picked offset payload)
      (now : new.Left) : Moves (.attach worker) worker old new
  | unwritten {event : Event} {worker : Worker} {old new : Phase} (attachment : Attachment)
      (record : StreamRecord) (control : after.control = before.control)
      (was : event = .enterWrite worker ∧ old = .holding attachment record ∨
        event = .writeFails worker ∧ old = .admitted attachment record)
      (now : new = .lost attachment ∨ (∃ err, new = .returned (some err)) ∨
        worker = .acknowledge ∧ new = .failed attachment record) : Moves event worker old new
  | recover {event : Event} {worker : Worker} {old new : Phase} (recovers : event.recovers = true)
      (was : (∃ failed, old = .lost failed) ∨ ∃ failed recovery, old = .recovering failed recovery)
      (now : (∃ failed recovery, new = .recovering failed recovery) ∨ new.Left) :
      Moves event worker old new

end Moves

theorem resumed_left (worker : Worker) : (resumed worker).Left := by
  cases worker <;> simp [resumed]

theorem aborted_left (worker : Worker) (err : StreamError) : (aborted worker err).Left := by
  cases worker <;> simp [aborted]

theorem progressed_progressed (progress : Progress) : (progressed progress).Progressed := by
  cases progress <;> simp [progressed]

section Moving

variable (stepped : step config before event = some after)

include stepped

theorem step_moves (mine : event.worker = some worker) :
    ∃ old new, before.phase worker = old ∧ after.phase worker = new ∧
      Moves config before after event worker old new := by
  refine ⟨_, _, rfl, rfl, ?_⟩
  cases event
  case pick =>
    cases mine
    obtain ⟨idle, _, rfl⟩ := step_pick stepped
    rw [goto_phase_self, idle]
    exact .pick _ _
  case attach owner =>
    cases mine
    obtain ⟨phase, ready, moved⟩ := step_attach stepped
    unfold attachedPhase at ready
    rcases moved with ⟨err, rfl⟩ | ⟨_, _, rfl⟩ <;> rw [goto_phase_self] <;>
      (repeat' split at ready) <;> cases ready
    all_goals rw [‹before.phase _ = _›]
    all_goals first | exact .attachFails (by simp) (aborted_left _ _) | constructor
    assumption
  case choose owner =>
    cases mine
    simp only [step, choose] at stepped
    split at stepped <;> (try split at stepped) <;> cases stepped
    all_goals rw [‹before.phase _ = _›]
    · refine .choosePending _ rfl ?_
      unfold chooseAcknowledgement
      dsimp only
      split <;> rw [goto_phase_self] <;> simp
    · exact .chooseOffset (by simp_all)
    refine .chooseTerminal _ rfl ?_
    unfold chooseTerminal
    (repeat' split) <;> rw [goto_phase_self] <;> simp
  all_goals first | (cases mine; done) | skip
  all_goals
    rw [Event.worker, Option.some.injEq] at mine
    subst mine
    simp only [step, endOfInput, enterWrite, write, writeFails, finish, unwritten,
      clearReceipt, clearTerminal, checkTerminal, enterRecovery, closeFailed, propose, opened,
      openFails, exchange, exchangeFails, commit, retry, abandon, unlessComplete, check, read,
      readFails, rejoin, process, applicationWrites, applicationFails, queueAcknowledgement,
      closeInput, closeInputFails, acknowledgementsDone, startTail, tailReceive,
      receiveAcknowledgement, receiveData, receiveTerminal, refuse] at stepped
  all_goals (repeat' split at stepped)
  all_goals first | (cases stepped; done) | cases stepped
  all_goals first | rw [goto_phase_self] | skip
  all_goals first | rw [‹before.phase _ = _›] | skip
  all_goals first
    | (constructor; done)
    | (constructor <;> first | rfl | assumption | simp_all; done)
    | exact .unwritten _ _ rfl (.inl ⟨rfl, rfl⟩) (by simp)
    | exact .unwritten _ _ rfl (.inr ⟨rfl, rfl⟩) (by simp)
    | exact .process _ _ (.inr (.inr (progressed_progressed _)))
    | exact .process _ _ (.inr (.inr (.inr (.inr ⟨_, rfl⟩))))
    | exact .applicationWrites _ (progressed_progressed _)
    | exact .recover rfl (by simp) (.inr (resumed_left _))
    | exact .recover rfl (by simp) (.inr (aborted_left _ _))
    | exact .recover rfl (by simp) (.inl ⟨_, _, rfl⟩)
    | skip
  case acknowledgementsDone.isTrue.refl ready =>
    rw [ready.2.1]
    exact .acknowledgementsDone ready.2.2.2
  case tailReceive.isTrue.refl ready =>
    rw [ready.2]
    exact .tailReceive

/-- A step of the receive worker that neither takes a record nor deals with one
starts and ends without a record in hand, and not after an error. -/
theorem step_receive_quiet (mine : event.worker = some .receive) (other : event.serves = false) :
    (before.phase .receive).serving = false ∧ (after.phase .receive).serving = false ∧
      ∀ err, before.phase .receive ≠ .returned (some err) := by
  obtain ⟨old, new, was, now, moved⟩ := step_moves stepped mine
  cases moved <;> grind [Phase.serving, Event.serves, Event.recovers]

/-- **Where a record in a writer's hands comes from**: it was there before, or this
step took an Attachment for it or chose it. -/
theorem step_carried (carried : (after.phase worker).carried = some (attachment, record)) :
    (before.phase worker).carried = some (attachment, record) ∨
      (event = .attach worker ∧
        before.attachedPhase config worker = some (.holding attachment record)) ∨
      (event = .choose worker ∧ before.phase worker = .attached attachment) := by
  by_cases mine : event.worker = some worker
  · obtain ⟨old, new, was, now, moved⟩ := step_moves stepped mine
    rw [now] at carried
    cases moved
    case attachData | attachOffset =>
      cases carried
      simp [attachedPhase, was]
    all_goals grind [Phase.carried]
  · exact .inl (by rw [← (step_frame stepped).phase _ mine]; exact carried)

/-- Only the events of `recoverAttachment` move a worker inside it. -/
theorem step_recovering_of {recovery : Recovery}
    (other : event.recovers = false) (now : after.phase worker = .recovering failed recovery) :
    before.phase worker = .recovering failed recovery := by
  by_cases mine : event.worker = some worker
  · obtain ⟨old, new, was, now', moved⟩ := step_moves stepped mine
    cases moved <;> grind
  · rw [← (step_frame stepped).phase _ mine]
    exact now

end Moving

/-! ## The Attachments a Stream knows -/

/-- The Attachment is the current one, or an earlier one whose carrier this end
has closed. -/
def Known (stream : Stream) (attachment : Attachment) : Prop :=
  attachment = stream.link.current ∨
    attachment.generation < stream.link.current.generation ∧ attachment ∈ stream.link.closed

/-- The record is of the worker's kind and names the Attachment's generation. -/
def Fits (attachment : Attachment) : Worker → StreamRecord → Prop
  | .flush, .data generation _ _ => generation = attachment.generation
  | .acknowledge, .acknowledgement generation _ _ _ => generation = attachment.generation
  | .terminal, .terminal generation _ => generation = attachment.generation
  | _, _ => False

/-- A worker only holds Attachments the Stream knows, only records of its kind,
and once it owns a recovery past its first section the failed carrier is closed. -/
def PhaseTracked (stream : Stream) (worker : Worker) : Phase → Prop
  | .attached attachment | .lost attachment | .reading attachment | .readFailed attachment _
  | .held attachment _ => Known stream attachment
  | .holding attachment record | .admitted attachment record | .failed attachment record =>
    Known stream attachment ∧ Fits attachment worker record
  | .written attachment record =>
    Known stream attachment ∧ Fits attachment worker record ∧
      (attachment, record) ∈ stream.history.log
  | .recovering failed (.closing _) => Known stream failed
  | .recovering failed _ => Known stream failed ∧ failed ∈ stream.link.closed
  | _ => True

/-- Every Attachment in a worker's hands or in the log is known. -/
structure Tracked (stream : Stream) : Prop where
  phases : ∀ worker, PhaseTracked stream worker (stream.phase worker)
  logged : ∀ attachment record, (attachment, record) ∈ stream.history.log →
    Known stream attachment ∧ record.generation = attachment.generation

theorem Tracked.on (tracked : Tracked before) (now : before.phase worker = phase) :
    PhaseTracked before worker phase :=
  now ▸ tracked.phases worker

theorem initial_tracked (config : Config) (attachment : Attachment) :
    Tracked (initial config attachment) :=
  ⟨fun _ => trivial, fun _ _ member => by simp [initial] at member⟩

theorem resumed_tracked (stream : Stream) (worker caller : Worker) :
    PhaseTracked stream worker (resumed caller) := by
  cases caller <;> trivial

theorem aborted_tracked (stream : Stream) (worker caller : Worker) (err : StreamError) :
    PhaseTracked stream worker (aborted caller err) := by
  cases caller <;> trivial

theorem progressed_tracked (stream : Stream) (worker : Worker) (progress : Progress) :
    PhaseTracked stream worker (progressed progress) := by
  cases progress <;> trivial

theorem attachedPhase_tracked (ready : stream.attachedPhase config worker = some phase) :
    PhaseTracked stream worker phase := by
  unfold attachedPhase at ready
  split at ready
  · cases ready
    exact ⟨.inl rfl, rfl⟩
  · cases ready
    exact ⟨.inl rfl, rfl⟩
  · split at ready
    · cases ready
      exact .inl rfl
    · cases ready
  · cases ready
    exact .inl rfl
  · cases ready
    exact .inl rfl
  · cases ready

theorem Known.generation_le (known : Known stream attachment) :
    attachment.generation ≤ stream.link.current.generation := by
  rcases known with rfl | ⟨older, _⟩
  · exact Nat.le_refl _
  · exact Nat.le_of_lt older

/-- Attachments a Stream knows are told apart from the current one by generation. -/
theorem Known.eq_current (known : Known stream attachment)
    (same : attachment.generation = stream.link.current.generation) : attachment = stream.link.current := by
  rcases known with rfl | ⟨older, _⟩
  · rfl
  · omega

/-- A carrier this end can still use belongs to the current Attachment. -/
theorem Known.eq_of_open (known : Known stream attachment) (opened : attachment ∉ stream.link.closed) :
    attachment = stream.link.current := by
  rcases known with rfl | ⟨_, closed⟩
  · rfl
  · exact absurd closed opened

/-- A cutover leaves a known Attachment known: the one it replaces was closed. -/
theorem Known.step (known : Known before attachment) (tracked : Tracked before)
    (stepped : step config before event = some after) : Known after attachment := by
  have frame := step_frame stepped
  rcases step_current stepped with same | ⟨newer, _, _, worker, _, _, exchanged⟩
  · rcases known with rfl | ⟨older, closed⟩
    · exact .inl same.symm
    · exact .inr ⟨same ▸ older, frame.closed closed⟩
  have mine := tracked.on exchanged
  rcases known with rfl | ⟨older, closed⟩
  · exact .inr ⟨newer, frame.closed mine.2⟩
  · exact .inr ⟨older.trans newer, frame.closed closed⟩

/-- A new Attachment starts with an empty log. -/
theorem Tracked.fresh (tracked : Tracked before)
    (newer : before.link.current.generation < attachment.generation) (record : StreamRecord) :
    (attachment, record) ∉ before.history.log := by
  intro member
  have older := (tracked.logged _ _ member).1.generation_le
  omega

theorem PhaseTracked.mono (tracked : PhaseTracked before worker phase)
    (known : ∀ attachment, Known before attachment → Known after attachment)
    (closed : before.link.closed ⊆ after.link.closed) (log : before.history.log ⊆ after.history.log) :
    PhaseTracked after worker phase := by
  cases phase with
  | attached | lost | reading | readFailed | held => exact known _ tracked
  | holding | admitted | failed => exact ⟨known _ tracked.1, tracked.2⟩
  | written => exact ⟨known _ tracked.1, tracked.2.1, log tracked.2.2⟩
  | recovering failed recovery =>
    cases recovery with
    | closing => exact known _ tracked
    | _ => exact ⟨known _ tracked.1, closed tracked.2⟩
  | _ => trivial

/-! ## The Terminal-control fields -/

/-- Which events may change which Terminal-control fields. -/
structure ControlFrame (event : Event) (before after : TerminalControl) : Prop where
  localTerminal : event ≠ .endOfInput → after.localTerminal = before.localTerminal
  terminalSettled : event ≠ .checkTerminal → after.terminalSettled = before.terminalSettled
  terminalWriting : event.worker ≠ some .terminal → after.terminalWriting = before.terminalWriting
  terminalWritingGeneration : event ≠ .choose .terminal →
    after.terminalWritingGeneration = before.terminalWritingGeneration
  terminalOffset : event ≠ .choose .terminal → after.terminalOffset = before.terminalOffset
  terminalGeneration : event ≠ .finish .terminal →
    after.terminalGeneration = before.terminalGeneration
  terminalAcknowledgedGeneration : event ≠ .process →
    after.terminalAcknowledgedGeneration = before.terminalAcknowledgedGeneration
  remoteTerminal : event ≠ .process → after.remoteTerminal = before.remoteTerminal
  terminalAckPending : event ≠ .process → after.terminalAckPending = before.terminalAckPending
  terminalAckSent : event ≠ .process → event ≠ .finish .acknowledge →
    after.terminalAckSent = before.terminalAckSent
  terminalAckWriting : event.worker ≠ some .acknowledge →
    after.terminalAckWriting = before.terminalAckWriting
  terminalAckPendingGeneration : event ≠ .process →
    after.terminalAckPendingGeneration = before.terminalAckPendingGeneration
  terminalAckGeneration : event ≠ .finish .acknowledge →
    after.terminalAckGeneration = before.terminalAckGeneration
  terminalAckOffset : event ≠ .process → after.terminalAckOffset = before.terminalAckOffset
  terminalAckWritingGeneration : event ≠ .choose .acknowledge →
    after.terminalAckWritingGeneration = before.terminalAckWritingGeneration
  terminalAckWritingOffset : event ≠ .choose .acknowledge →
    after.terminalAckWritingOffset = before.terminalAckWritingOffset
  terminalAckConfirmedGeneration : event ≠ .process →
    after.terminalAckConfirmedGeneration = before.terminalAckConfirmedGeneration
  terminalConfirmationPending : event ≠ .process →
    after.terminalConfirmationPending = before.terminalConfirmationPending
  terminalConfirmationSent : event ≠ .process → event ≠ .finish .acknowledge →
    after.terminalConfirmationSent = before.terminalConfirmationSent
  terminalConfirmationGeneration : event ≠ .process →
    after.terminalConfirmationGeneration = before.terminalConfirmationGeneration
  terminalConfirmationOffset : event ≠ .process →
    after.terminalConfirmationOffset = before.terminalConfirmationOffset
  postClose : event ≠ .startTail → after.postClose = before.postClose

theorem ControlFrame.refl (event : Event) (control : TerminalControl) :
    ControlFrame event control control := by
  constructor <;> (intros; rfl)

/-- Only the Terminal worker carries a Terminal record. -/
theorem Tracked.isTerminal (tracked : Tracked before)
    (holding : before.phase worker = .holding attachment record) (terminal : record.isTerminal = true) :
    worker = .terminal := by
  have fits := tracked.on holding
  cases worker <;> cases record <;> first | rfl | exact fits.2.elim | cases terminal

/-- A record on a carrier was in the hands of the worker that writes its kind. -/
theorem Tracked.writer (tracked : Tracked before)
    (admitted : before.phase worker = .admitted attachment record) :
    (record.isTerminal = true → worker = .terminal) ∧ (record.isData = true → worker = .flush) ∧
      (record.isTerminal = false → record.isData = false → worker = .acknowledge) := by
  have fits := tracked.on admitted
  cases worker <;> cases record <;> first
    | exact fits.2.elim
    | exact ⟨nofun, fun _ => rfl, nofun⟩
    | exact ⟨fun _ => rfl, nofun, nofun⟩
    | exact ⟨nofun, nofun, fun _ _ => rfl⟩

section Tracking

variable (stepped : step config before event = some after)

include stepped

/-- Where an event that neither commits nor writes leaves its worker: at a phase
that names no Attachment, with the Attachment it already had, or with the current
one. -/
theorem step_phaseTracked (tracked : Tracked before) (commits : event.commits = false)
    (writes : event.writes = false) (mine : event.worker = some worker) :
    PhaseTracked after worker (after.phase worker) := by
  have had := tracked.phases worker
  cases event
  case attach owner =>
    cases mine
    obtain ⟨phase, ready, ⟨err, rfl⟩ | ⟨_, _, rfl⟩⟩ := step_attach stepped
    · rw [goto_phase_self]
      exact aborted_tracked _ _ _ _
    · rw [goto_phase_self]
      exact (attachedPhase_tracked ready).mono (fun _ known => known) (List.Subset.refl _)
        (List.Subset.refl _)
  all_goals try (first | (cases commits; done) | (cases writes; done) | (cases mine; done))
  all_goals
    rw [Event.worker, Option.some.injEq] at mine
    subst mine
    simp only [step, endOfInput, pick, choose, enterWrite, writeFails, finish, clearReceipt,
      clearTerminal, checkTerminal, enterRecovery, closeFailed, propose, opened, openFails, exchange,
      exchangeFails, retry, abandon, check, read, readFails, rejoin, process, applicationWrites,
      applicationFails, queueAcknowledgement, closeInput, closeInputFails, acknowledgementsDone,
      startTail, tailReceive, fail, unlessComplete, unwritten, chooseAcknowledgement,
      chooseTerminal, advance, receiveAcknowledgement, receiveData, receiveTerminal,
      refuse] at stepped
  all_goals (repeat' split at stepped)
  all_goals cases stepped
  all_goals try rw [goto_phase_self]
  all_goals first
    | trivial
    | exact resumed_tracked _ _ _
    | exact aborted_tracked _ _ _ _
    | exact progressed_tracked _ _ _
    | exact had.mono (fun _ known => known) (List.Subset.refl _) (List.Subset.refl _)
    | (rename_i at_; rw [at_] at had; exact had)
    | (simp_all [PhaseTracked, Known, Fits, closeCarrier, goto]; done)
    | (simp_all [PhaseTracked, Known, closeCarrier, goto]; tauto)

/-- **Attachments stay tracked along every step.** -/
theorem step_tracked (tracked : Tracked before) : Tracked after := by
  have frame := step_frame stepped
  have known (attachment : Attachment) (was : Known before attachment) : Known after attachment :=
    was.step tracked stepped
  by_cases writes : event.writes = false
  · have log := frame.log writes
    refine ⟨fun worker => ?_, fun attachment record member => ?_⟩
    · by_cases mine : event.worker = some worker
      · by_cases commits : event.commits = false
        · exact step_phaseTracked stepped tracked commits writes mine
        cases event with
        | commit owner cancelled =>
          rw [Event.worker, Option.some.injEq] at mine
          subst mine
          obtain ⟨failed, state, replacement, peer, exchanged, closes | cuts⟩ :=
            step_commit stepped
          · obtain ⟨err, rfl⟩ := closes
            have had := tracked.on exchanged
            rw [goto_phase_self]
            exact ⟨known _ had.1, frame.closed had.2⟩
          · obtain ⟨send, _, _, rfl⟩ := cuts
            rw [goto_phase_self]
            exact resumed_tracked _ _ _
        | _ => exact absurd rfl commits
      · rw [frame.phase worker mine]
        exact (tracked.phases worker).mono known frame.closed (log ▸ List.Subset.refl _)
    · rw [log] at member
      exact ⟨known _ (tracked.logged _ _ member).1, (tracked.logged _ _ member).2⟩
  · cases event with
    | write writer =>
      obtain ⟨attachment, record, admitted, _, rfl⟩ := step_write stepped
      have had := tracked.on admitted
      have stamped : record.generation = attachment.generation := by
        obtain ⟨_, fits⟩ := had
        cases writer <;> cases record <;> first | exact fits | exact fits.elim
      refine ⟨fun worker => ?_, fun other entry member => ?_⟩
      · by_cases mine : worker = writer
        · subst mine
          rw [goto_phase_self]
          exact ⟨had.1, had.2, by simp [goto]⟩
        · rw [goto_phase_of_ne _ _ mine]
          exact (tracked.phases worker).mono known frame.closed (by simp [goto])
      · simp only [goto, List.mem_append, List.mem_singleton, Prod.mk.injEq] at member
        rcases member with member | ⟨rfl, rfl⟩
        · exact ⟨known _ (tracked.logged _ _ member).1, (tracked.logged _ _ member).2⟩
        · exact ⟨had.1, stamped⟩
    | _ => exact absurd rfl writes

/-- **The frame of the Terminal-control fields.** -/
theorem step_controlFrame (tracked : Tracked before) :
    ControlFrame event before.control after.control := by
  by_cases controls : event.controls = false
  · rw [(step_frame stepped).control controls]
    exact ControlFrame.refl _ _
  cases event
  all_goals first | exact absurd rfl controls | skip
  case process =>
    obtain ⟨attachment, record, held, handled⟩ := step_process stepped
    cases handled with
    | acknowledged offset terminal confirmation plain named =>
      unfold receiveAcknowledgement refuse
      (repeat' split) <;> constructor <;> (intros; first | rfl | contradiction)
    | terminal offset bounded =>
      unfold receiveTerminal refuse
      split <;> constructor <;> (intros; first | rfl | contradiction)
    | _ => constructor <;> (intros; first | rfl | contradiction)
  all_goals
    simp only [step, endOfInput, choose, enterWrite, finish, clearReceipt, clearTerminal,
      checkTerminal, startTail, unwritten, chooseAcknowledgement, chooseTerminal, advance,
      terminalWritten, acknowledged] at stepped
    (repeat' split at stepped) <;> cases stepped <;> constructor <;>
      (intros; first | rfl | contradiction | skip)
  -- `writeRecord` puts a Terminal off only for the worker that carries Terminals
  rename_i holding _ pending _ other
  exact absurd (congrArg some (tracked.isTerminal holding pending.1)) other

end Tracking

/-- A step touches the receipt fields only when it accepts a Terminal, or records that the
receipt was sent. -/
theorem step_receipt (tracked : Tracked before) (stepped : step config before event = some after) :
    (after.control.remoteTerminal = before.control.remoteTerminal ∧
        after.control.terminalAckPending = before.control.terminalAckPending ∧
        after.control.terminalAckPendingGeneration =
          before.control.terminalAckPendingGeneration ∧
        after.control.terminalAckOffset = before.control.terminalAckOffset ∧
        after.history.acceptedTerminal = before.history.acceptedTerminal ∧
        (event ≠ .finish .acknowledge →
          after.control.terminalAckSent = before.control.terminalAckSent)) ∨
      event = .process ∧ ∃ attachment, before.phase .receive =
          .held attachment (.terminal attachment.generation before.receive.recvNext) ∧
        after = before.receiveTerminal config attachment before.receive.recvNext := by
  by_cases process : event = .process
  · subst process
    obtain ⟨attachment, record, held, handled⟩ := step_process stepped
    cases handled with
    | acknowledged offset terminal confirmation plain named =>
      left
      unfold receiveAcknowledgement refuse
      (repeat' split) <;> exact ⟨rfl, rfl, rfl, rfl, rfl, fun _ => rfl⟩
    | terminal offset bounded =>
      by_cases same : offset = before.receive.recvNext
      · subst same
        exact .inr ⟨rfl, attachment, held, rfl⟩
      · left
        rw [receiveTerminal, if_pos same]
        exact ⟨rfl, rfl, rfl, rfl, rfl, fun _ => rfl⟩
    | _ => exact .inl ⟨rfl, rfl, rfl, rfl, rfl, fun _ => rfl⟩
  · have control := step_controlFrame stepped tracked
    exact .inl ⟨control.remoteTerminal process, control.terminalAckPending process,
      control.terminalAckPendingGeneration process, control.terminalAckOffset process,
      (step_frame stepped).acceptedTerminal process, control.terminalAckSent process⟩

end Stream

end Ardents.Connection
