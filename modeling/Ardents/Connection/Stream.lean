/-
# Connection.Stream — one Stream and its concurrent workers

A Stream (`stream_contract.go`) is shared by the goroutines of `Run` or
`RunBounded`: the sender, whichever goroutine holds `flushMu` in
`flushAvailable`, the owner of `ensureTerminal`, the acknowledgement worker, the
receive worker and, after a successful bounded run, the terminal tail.  Every
atomic step is one critical section under `stream.mu`, one successful or failed
carrier write, one carrier read, one Application call, or one answer of the
environment (the opener, the Continuity exchange, a timer, a cancellation).
A worker's `Phase` is the place where it last released `stream.mu`.

What is left out only delays a worker (the condition-variable wait for
`dataReplaying`, `writerMu`, `ackSignal`) or is never read back (`queueMax`,
`recoveries`, `lastProgress`): a history of the source is a history of this
model.  A failed write leaves no complete record on the carrier.
-/
import Ardents.Connection.Receive
import Ardents.Lib.Runs

namespace Ardents.Connection

set_option autoImplicit false

/-- What `NewStream` and `RunBounded` (or `Run`, when `bounded` is false) fix.  The
limits are `uint32`. -/
structure Config where
  bounded : Bool
  recoverable : Bool
  terminalReceipts : Bool
  closeApplicationOnRemoteTerminal : Bool
  sendLimit : Nat
  receiveLimit : Nat
  sendLimit_lt : sendLimit < 2 ^ 32 := by decide
  receiveLimit_lt : receiveLimit < 2 ^ 32 := by decide
  deriving DecidableEq, Repr

/-- `stream.terminalReceipts || stream.opener != nil`. -/
def Config.receipts (config : Config) : Bool := config.terminalReceipts || config.recoverable

/-- A bounded run with an opener and sixteen bytes in each direction. -/
def recoverableConfig : Config := .mk true true false false 16 16

/-- `proposalLimit`. -/
def proposalLimit : Nat := 3

/-- The Attachment fields.  `terminal` is the failure `stream.terminal`, and
`closed` the Attachments on which this end has called `closeCarrier`. -/
structure Link where
  current : Attachment
  recovering : Bool
  terminal : Option StreamError
  proposals : Nat
  closed : List Attachment
  deriving DecidableEq, Repr

/-- The send fields. -/
structure Sending where
  sendBase : Nat
  sendEnd : Nat
  sendNext : Nat
  sendData : List UInt8
  deriving DecidableEq, Repr

/-- `ackPending` and `ackSent`. -/
structure Acknowledging where
  ackPending : Nat
  ackSent : Nat
  deriving DecidableEq, Repr

/-- The Terminal-control fields. -/
structure TerminalControl where
  localTerminal : Bool
  terminalSettled : Bool
  terminalWriting : Bool
  terminalGeneration : Nat
  terminalWritingGeneration : Nat
  terminalOffset : Nat
  terminalAcknowledgedGeneration : Nat
  remoteTerminal : Bool
  terminalAckPending : Bool
  terminalAckSent : Bool
  terminalAckWriting : Bool
  terminalAckPendingGeneration : Nat
  terminalAckGeneration : Nat
  terminalAckOffset : Nat
  terminalAckWritingGeneration : Nat
  terminalAckWritingOffset : Nat
  terminalAckConfirmedGeneration : Nat
  terminalConfirmationPending : Bool
  terminalConfirmationSent : Bool
  terminalConfirmationGeneration : Nat
  terminalConfirmationOffset : Nat
  postClose : Bool
  deriving DecidableEq, Repr

def TerminalControl.initial : TerminalControl :=
  ⟨false, false, false, 0, 0, 0, 0, false, false, false, false, 0, 0, 0, 0, 0, 0, false, false, 0, 0,
    false⟩

/-- The goroutines that write or read a carrier.  `flush` is the holder of
`flushMu`, `terminal` the owner of `ensureTerminal` (of `sendTerminal` in `Run`). -/
inductive Worker where
  | flush
  | terminal
  | acknowledge
  | receive
  deriving DecidableEq, Repr

/-- Inside `recoverAttachment`, after its first section took ownership. -/
inductive Recovery where
  | closing (state : ContinuityExchange)
  | proposing (state : ContinuityExchange)
  | opening (state : ContinuityExchange)
  | exchanging (state : ContinuityExchange) (attachment : Attachment)
  | exchanged (state : ContinuityExchange) (attachment : Attachment) (peer : ContinuityPeer)
  | refused (state : ContinuityExchange) (last : StreamError)
  | abandoned (last : StreamError)
  deriving DecidableEq, Repr

/-- Where a worker last released `stream.mu`. -/
inductive Phase where
  | idle
  /-- chosen, before `attachment()` -/
  | picked (offset : Nat) (payload : List UInt8)
  /-- before `attachment()`, nothing chosen yet -/
  | attaching
  /-- `attachment()` returned, before the section that chooses -/
  | attached (attachment : Attachment)
  /-- calls `writeRecord` -/
  | holding (attachment : Attachment) (record : StreamRecord)
  /-- `writeRecord` found the Attachment current, before `Write` -/
  | admitted (attachment : Attachment) (record : StreamRecord)
  /-- `Write` returned nil, before the section that records it -/
  | written (attachment : Attachment) (record : StreamRecord)
  /-- a Terminal receipt was not written, before the section that clears it -/
  | failed (attachment : Attachment) (record : StreamRecord)
  /-- calls `recoverAttachment` -/
  | lost (failed : Attachment)
  | recovering (failed : Attachment) (recovery : Recovery)
  /-- `ensureTerminal` after `recoverAttachment`, before it clears `terminalWriting` -/
  | clearing (result : Option StreamError)
  /-- `ensureTerminal` returned nil, before the caller reads `terminalGeneration` -/
  | checking
  /-- the Terminal was found sent, before `terminalSettled` is set -/
  | settling
  | settled
  | reading (attachment : Attachment)
  /-- `ReadStream` failed; `waits` is `writingTerminal` -/
  | readFailed (attachment : Attachment) (waits : Bool)
  | held (attachment : Attachment) (record : StreamRecord)
  /-- the Application write of `acceptData` -/
  | delivering (range : ReceivedRange)
  /-- before `queueAcknowledgement` -/
  | acknowledging (offset : Nat)
  /-- the first Terminal was accepted, before `CloseInput` or `Close` -/
  | closing
  | returned (result : Option StreamError)
  deriving DecidableEq, Repr

/-- The sender: before its section, in `Application.Read`, or past end of input. -/
inductive SenderPhase where
  | idle
  | asking (want : Nat)
  | ended
  deriving DecidableEq, Repr

/-- `Outcome`, less the evidence no modelled function reads. -/
structure Outcome where
  accepted : Nat
  acknowledged : Nat
  received : Nat
  generation : Nat
  deriving DecidableEq, Repr

/-- The goroutine of `RunBounded`. -/
inductive MainPhase where
  | waiting
  | taken (outcome : Outcome)
  | checked (outcome : Outcome)
  | awaiting (outcome : Outcome)
  | returned (outcome : Outcome)
  deriving DecidableEq, Repr

/-- What the Stream has done to the world: the records its carriers took, the
bytes it read from and wrote to its Application, how often it presented end of
input, the Continuity records it sent, those whose Attachment was committed, and
the offset of the first Terminal it accepted. -/
structure History where
  log : List (Attachment × StreamRecord)
  input : List UInt8
  output : List UInt8
  inputCloses : Nat
  offers : List (Attachment × ContinuityExchange)
  commits : List ContinuityExchange
  acceptedTerminal : Option Nat
  applicationFailed : Bool
  deriving DecidableEq, Repr

structure Stream where
  link : Link
  send : Sending
  receive : Receiving
  acks : Acknowledging
  control : TerminalControl
  phase : Worker → Phase
  sender : SenderPhase
  main : MainPhase
  limit : Nat
  history : History

namespace Stream

/-- Established on its first Attachment, before any worker runs. -/
def initial (config : Config) (attachment : Attachment) : Stream where
  link := ⟨attachment, false, none, 0, []⟩
  send := ⟨0, 0, 0, []⟩
  receive := Receiving.initial
  acks := ⟨0, 0⟩
  control := TerminalControl.initial
  phase := fun _ => .idle
  sender := .idle
  main := .waiting
  limit := config.receiveLimit
  history := ⟨[], [], [], 0, [], [], none, false⟩

/-- The worker releases `stream.mu` at `phase`. -/
def goto (stream : Stream) (worker : Worker) (phase : Phase) : Stream :=
  { stream with phase := Function.update stream.phase worker phase }

/-- Where `recoverAttachment` returning nil leaves its caller. -/
def resumed : Worker → Phase
  | .flush => .idle
  | .terminal => .clearing none
  | .acknowledge => .idle
  | .receive => .idle

/-- Where an error leaves the worker.  `flushAvailable` releases `flushMu`, so
another caller may enter it until the failure is published. -/
def aborted : Worker → StreamError → Phase
  | .flush, _ => .idle
  | .terminal, err => .clearing (some err)
  | .acknowledge, err => .returned (some err)
  | .receive, err => .returned (some err)

/-! ## `stream_lifecycle.go` -/

def closeCarrier (stream : Stream) (attachment : Attachment) : Stream :=
  { stream with link := { stream.link with closed := attachment :: stream.link.closed } }

/-- `failLocked`, with the closing of the Attachment it returns. -/
def fail (stream : Stream) (err : StreamError) : Stream :=
  match stream.link.terminal with
  | some _ => { stream with link := { stream.link with recovering := false } }
  | none =>
    { stream with link := { stream.link with
        terminal := some err
        recovering := false
        closed := stream.link.current :: stream.link.closed } }

def outcome (stream : Stream) : Outcome where
  accepted := stream.send.sendEnd % 2 ^ 32
  acknowledged := stream.send.sendBase % 2 ^ 32
  received := stream.receive.recvNext % 2 ^ 32
  generation := stream.link.current.generation

def boundedReceiveCompleteLocked (config : Config) (stream : Stream) : Bool :=
  let control := stream.control
  !control.postClose && control.remoteTerminal && control.localTerminal &&
    decide (stream.send.sendBase = stream.send.sendEnd) &&
    (!config.receipts || decide (control.terminalAcknowledgedGeneration ≠ 0)) &&
    (!control.terminalAckPending || (control.terminalAckSent &&
      decide (control.terminalAckConfirmedGeneration = control.terminalAckGeneration)))

def boundedAcknowledgementCompleteLocked (config : Config) (stream : Stream) : Bool :=
  boundedReceiveCompleteLocked config stream &&
    decide (stream.acks.ackPending ≤ stream.acks.ackSent) &&
    (!stream.control.terminalConfirmationPending || stream.control.terminalConfirmationSent)

/-! ## `stream_send.go` -/

def sendQueueBlockedLocked (stream : Stream) : Bool :=
  decide (logicalQueueLimit ≤ stream.send.sendData.length) &&
    decide (stream.send.sendEnd ≤ stream.send.sendNext)

/-- The sender's section before `Application.Read`: how much it will accept. -/
def ask (config : Config) (stream : Stream) : Option Stream :=
  if stream.sender = .idle ∧ stream.link.terminal = none ∧
      stream.sendQueueBlockedLocked = false ∧ stream.send.sendEnd ≤ stream.send.sendNext then
    some { stream with sender := .asking (min maximumDataBytes
      (min (config.sendLimit - stream.send.sendEnd)
        (logicalQueueLimit - stream.send.sendData.length))) }
  else none

/-- `Application.Read` returned bytes, which the next section appends. -/
def input (stream : Stream) (bytes : List UInt8) : Option Stream :=
  match stream.sender with
  | .asking want =>
    if bytes ≠ [] ∧ bytes.length ≤ want then
      some { stream with
        sender := .idle
        send := { stream.send with
          sendData := stream.send.sendData ++ bytes
          sendEnd := stream.send.sendEnd + bytes.length }
        history := { stream.history with input := stream.history.input ++ bytes } }
    else none
  | _ => none

/-- `Application.Read` returned `io.EOF`: `finishBoundedSend`, or in `Run` before
the declared count `sendTerminal`. -/
def endOfInput (config : Config) (stream : Stream) : Option Stream :=
  match stream.sender with
  | .asking _ =>
    if config.bounded then
      some ({ stream with
        sender := .ended
        control := { stream.control with localTerminal := true } }.goto .terminal .attaching)
    else if stream.send.sendEnd < config.sendLimit then
      some ({ stream with sender := .ended }.goto .terminal .attaching)
    else none
  | _ => none

/-- The first section of `flushAvailable`. -/
def pick (stream : Stream) : Option Stream :=
  if stream.phase .flush = .idle ∧ stream.link.terminal = none ∧
      stream.send.sendNext < stream.send.sendEnd then
    let start := stream.send.sendNext - stream.send.sendBase
    let length := min maximumDataBytes (stream.send.sendEnd - stream.send.sendNext)
    some (stream.goto .flush
      (.picked stream.send.sendNext ((stream.send.sendData.drop start).take length)))
  else none

/-- What the worker holds once `attachment()` has returned the current Attachment. -/
def attachedPhase (config : Config) (stream : Stream) (worker : Worker) : Option Phase :=
  let current := stream.link.current
  match worker, stream.phase worker with
  | .flush, .picked offset payload =>
    some (.holding current (.data current.generation offset payload))
  | .acknowledge, .picked offset _ =>
    some (.holding current (.acknowledgement current.generation offset false false))
  | .acknowledge, .idle => if config.bounded then some (.attached current) else none
  | .terminal, .attaching => some (.attached current)
  | .receive, .attaching => some (.reading current)
  | _, _ => none

/-- `attachment()`: blocks while a recovery runs, fails with the stream. -/
def attach (config : Config) (stream : Stream) (worker : Worker) : Option Stream :=
  match stream.attachedPhase config worker with
  | none => none
  | some phase =>
    match stream.link.terminal with
    | some err => some (stream.goto worker (aborted worker err))
    | none => if stream.link.recovering then none else some (stream.goto worker phase)

/-- What `pendingAcknowledgementLocked` returns, less `ackSent`. -/
structure PendingAcknowledgement where
  offset : Nat
  terminal : Bool
  confirmation : Bool
  deriving DecidableEq, Repr

def pendingAcknowledgementLocked (stream : Stream) (attachment : Attachment) :
    PendingAcknowledgement :=
  let control := stream.control
  let terminal := control.terminalAckPending && !control.terminalAckSent &&
    decide (control.terminalAckPendingGeneration = attachment.generation)
  let confirmation := !terminal && control.terminalConfirmationPending &&
    !control.terminalConfirmationSent &&
    decide (control.terminalConfirmationGeneration = attachment.generation)
  let offset := if terminal then control.terminalAckOffset
    else if confirmation then control.terminalConfirmationOffset
    else stream.acks.ackPending
  ⟨offset, terminal, confirmation⟩

/-- The section of `sendBoundedAcknowledgements` that chooses a record. -/
def chooseAcknowledgement (stream : Stream) (attachment : Attachment) : Stream :=
  let pending := stream.pendingAcknowledgementLocked attachment
  let chosen : Stream :=
    if pending.terminal then
      { stream with control := { stream.control with
          terminalAckWriting := true
          terminalAckWritingGeneration := attachment.generation
          terminalAckWritingOffset := pending.offset } }
    else stream
  if pending.offset ≤ stream.acks.ackSent ∧ pending.terminal = false ∧
      pending.confirmation = false then
    chosen.goto .acknowledge .idle
  else
    chosen.goto .acknowledge (.holding attachment
      (.acknowledgement attachment.generation pending.offset
        (pending.terminal || pending.confirmation) pending.confirmation))

/-- The section of `ensureTerminal` (in `Run`, of `sendTerminal`) that fixes the
Terminal's offset. -/
def chooseTerminal (config : Config) (stream : Stream) (attachment : Attachment) : Stream :=
  let record := StreamRecord.terminal attachment.generation stream.send.sendEnd
  if config.bounded = false then stream.goto .terminal (.holding attachment record)
  else
    match stream.link.terminal with
    | some err => stream.goto .terminal (.returned (some err))
    | none =>
      if stream.control.localTerminal = false ∨
          stream.control.terminalGeneration = attachment.generation then
        stream.goto .terminal .checking
      else if stream.send.sendNext < stream.send.sendEnd then stream.goto .terminal .attaching
      else
        { stream with control := { stream.control with
            terminalWriting := true
            terminalWritingGeneration := attachment.generation
            terminalOffset := stream.send.sendEnd } }.goto .terminal (.holding attachment record)

/-- The sections that choose what to write. -/
def choose (config : Config) (stream : Stream) (worker : Worker) : Option Stream :=
  match worker, stream.phase worker with
  | .acknowledge, .attached attachment => some (stream.chooseAcknowledgement attachment)
  | .acknowledge, .idle =>
    -- `sendAcknowledgements` reads the offset before it takes an Attachment
    if config.bounded = false ∧ stream.acks.ackSent < stream.acks.ackPending then
      some (stream.goto .acknowledge (.picked stream.acks.ackPending []))
    else none
  | .terminal, .attached attachment => some (stream.chooseTerminal config attachment)
  | _, _ => none

/-- `writeRecord` returned an error other than `errTerminalDataPending`. -/
def unwritten (config : Config) (stream : Stream) (worker : Worker) (attachment : Attachment)
    (record : StreamRecord) : Stream :=
  match worker, record with
  | .acknowledge, .acknowledgement _ _ true false => stream.goto worker (.failed attachment record)
  | .terminal, _ =>
    if config.bounded then stream.goto worker (.lost attachment)
    else stream.goto worker (.returned (some .closedPipe))
  | _, _ => stream.goto worker (.lost attachment)

/-- The section of `writeRecord`. -/
def enterWrite (config : Config) (stream : Stream) (worker : Worker) : Option Stream :=
  match stream.phase worker with
  | .holding attachment record =>
    if stream.link.current = attachment ∧ stream.link.recovering = false ∧
        stream.link.terminal = none then
      if record.isTerminal = true ∧ stream.send.sendNext < stream.send.sendEnd then
        -- `errTerminalDataPending`: `ensureTerminal` starts over, `sendTerminal` gives up
        if config.bounded then
          some ({ stream with control := { stream.control with terminalWriting := false } }.goto
            worker .attaching)
        else some (stream.goto worker (.returned (some .terminalDataPending)))
      else some (stream.goto worker (.admitted attachment record))
    else some (stream.unwritten config worker attachment record)
  | _ => none

/-- `Write` returned nil. -/
def write (stream : Stream) (worker : Worker) : Option Stream :=
  match stream.phase worker with
  | .admitted attachment record =>
    if attachment ∈ stream.link.closed then none
    else
      some ({ stream with history := { stream.history with
        log := stream.history.log ++ [(attachment, record)] } }.goto worker
          (.written attachment record))
  | _ => none

/-- `Write` returned an error. -/
def writeFails (config : Config) (stream : Stream) (worker : Worker) : Option Stream :=
  match stream.phase worker with
  | .admitted attachment record => some (stream.unwritten config worker attachment record)
  | _ => none

/-- The section of `flushAvailable` after a successful write. -/
def advance (stream : Stream) (offset : Nat) (payload : List UInt8) : Stream :=
  if offset = stream.send.sendNext then
    { stream with send := { stream.send with sendNext := offset + payload.length } }
  else stream

/-- The section of `sendBoundedAcknowledgements` (in `Run`, of
`sendAcknowledgements`) after a successful write. -/
def acknowledged (config : Config) (stream : Stream) (attachment : Attachment) (offset : Nat)
    (terminal confirmation : Bool) : Stream :=
  let receipt := terminal && !confirmation && config.bounded
  let control := stream.control
  let current := decide (stream.link.current = attachment)
  let matching := decide (control.terminalAckWritingGeneration = attachment.generation) &&
    decide (control.terminalAckWritingOffset = offset)
  { stream with
    acks := if confirmation then stream.acks
      else { stream.acks with ackSent := max offset stream.acks.ackSent }
    control := { control with
      terminalAckWriting := if receipt && matching then false else control.terminalAckWriting
      terminalAckSent := if receipt && current then true else control.terminalAckSent
      terminalAckGeneration :=
        if receipt && current then attachment.generation else control.terminalAckGeneration
      terminalConfirmationSent :=
        if confirmation && current then true else control.terminalConfirmationSent } }

/-- The section of `ensureTerminal` after a successful write. -/
def terminalWritten (stream : Stream) (attachment : Attachment) : Stream :=
  { stream with control := { stream.control with
      terminalWriting := false
      terminalGeneration :=
        if stream.link.current = attachment then attachment.generation
        else stream.control.terminalGeneration } }

/-- The section after a successful write. -/
def finish (config : Config) (stream : Stream) (worker : Worker) : Option Stream :=
  match worker, stream.phase worker with
  | .flush, .written _ (.data _ offset payload) =>
    some ((stream.advance offset payload).goto .flush .idle)
  | .acknowledge, .written attachment (.acknowledgement _ offset terminal confirmation) =>
    some ((stream.acknowledged config attachment offset terminal confirmation).goto
      .acknowledge .idle)
  | .terminal, .written attachment (.terminal _ _) =>
    if config.bounded then some ((stream.terminalWritten attachment).goto .terminal .checking)
    else some (stream.goto .terminal (.returned none))
  | _, _ => none

/-- The section of `sendBoundedAcknowledgements` after a receipt was not written. -/
def clearReceipt (stream : Stream) : Option Stream :=
  match stream.phase .acknowledge with
  | .failed attachment record =>
    let control := stream.control
    let cleared : Stream :=
      if control.terminalAckWritingGeneration = attachment.generation ∧
          control.terminalAckWritingOffset = record.offset then
        { stream with control := { control with terminalAckWriting := false } }
      else stream
    some (cleared.goto .acknowledge (.lost attachment))
  | _ => none

/-! ## `stream_terminal_replay.go` -/

/-- `ensureTerminal` clears `terminalWriting` after `recoverAttachment`. -/
def clearTerminal (stream : Stream) : Option Stream :=
  match stream.phase .terminal with
  | .clearing result =>
    let cleared : Stream :=
      { stream with control := { stream.control with terminalWriting := false } }
    match result with
    | none => some (cleared.goto .terminal .checking)
    | some err => some (cleared.goto .terminal (.returned (some err)))
  | _ => none

/-- The Terminal was not yet written on the current Attachment. -/
def terminalOwed (stream : Stream) : Bool :=
  stream.control.localTerminal && decide (stream.link.terminal = none) &&
    decide (stream.control.terminalGeneration ≠ stream.link.current.generation)

/-- The caller of `ensureTerminal`: `finishBoundedSend` until it has settled,
`replaySettledTerminal` afterwards. -/
def checkTerminal (stream : Stream) : Option Stream :=
  match stream.phase .terminal with
  | .checking =>
    if stream.control.terminalSettled then
      some (stream.goto .terminal (if stream.terminalOwed then .attaching else .settled))
    else
      match stream.link.terminal with
      | some err => some (stream.goto .terminal (.returned (some err)))
      | none =>
        some (stream.goto .terminal
          (if stream.control.terminalGeneration = stream.link.current.generation then .settling
          else .attaching))
  | .settling =>
    some ({ stream with control := { stream.control with terminalSettled := true } }.goto
      .terminal .settled)
  | .settled => if stream.terminalOwed then some (stream.goto .terminal .attaching) else none
  | _ => none

/-- `terminalReplaying`: a settled Terminal is being written again. -/
def terminalReplaying (stream : Stream) : Bool :=
  stream.control.terminalSettled && decide (stream.phase .terminal ≠ .settled)

/-! ## `stream_recovery.go` -/

/-- `finishRecoveryIfCompleteLocked`, when it finds the connection complete. -/
def finishRecovery (stream : Stream) : Stream :=
  { stream with link := { stream.link with recovering := false, proposals := 0 } }

/-- A section of `recoverAttachment` that first retires a completed recovery. -/
def unlessComplete (config : Config) (stream : Stream) (worker : Worker) (next : Stream) : Stream :=
  if stream.boundedReceiveCompleteLocked config then stream.finishRecovery.goto worker (resumed worker)
  else next

/-- The first section of `recoverAttachment`; `expired` answers the test against
`NoNewRecoveryAfter`.  A second worker waits while another one owns the recovery
of the same Attachment. -/
def enterRecovery (config : Config) (stream : Stream) (worker : Worker) (expired : Bool) :
    Option Stream :=
  match stream.phase worker with
  | .lost failed =>
    match stream.link.terminal with
    | some err => some (stream.goto worker (aborted worker err))
    | none =>
      if stream.link.recovering = true ∧ stream.link.current = failed then none
      else
        some <| stream.unlessComplete config worker <|
          if stream.link.current ≠ failed then stream.goto worker (resumed worker)
          else if config.recoverable = false then
            stream.goto worker (aborted worker .noRouteRemains)
          else if expired then stream.goto worker (aborted worker .recoveryExpired)
          else
            { stream with link := { stream.link with recovering := true } }.goto worker
              (.recovering failed (.closing
                ⟨failed.generation + 1, stream.send.sendBase, stream.send.sendEnd,
                  stream.receive.recvNext⟩))
  | _ => none

/-- `failed.closeCarrier()`. -/
def closeFailed (stream : Stream) (worker : Worker) : Option Stream :=
  match stream.phase worker with
  | .recovering failed (.closing state) =>
    some ((stream.closeCarrier failed).goto worker (.recovering failed (.proposing state)))
  | _ => none

/-- The head of the proposal loop; `stopped` is the time or Context test that
ends it. -/
def propose (config : Config) (stream : Stream) (worker : Worker) (stopped : Option StreamError) :
    Option Stream :=
  match stream.phase worker with
  | .recovering failed (.proposing state) =>
    some <| stream.unlessComplete config worker <|
      match stopped with
      | some err => stream.goto worker (.recovering failed (.abandoned err))
      | none =>
        if proposalLimit ≤ stream.link.proposals then
          stream.goto worker (.recovering failed (.abandoned .recoveryExhausted))
        else
          { stream with link := { stream.link with
              proposals := stream.link.proposals + 1 } }.goto worker
            (.recovering failed (.opening state))
  | _ => none

/-- The opener returned an Attachment; the Continuity record goes out on it. -/
def opened (config : Config) (stream : Stream) (worker : Worker) (attachment : Attachment) :
    Option Stream :=
  match stream.phase worker with
  | .recovering failed (.opening state) =>
    if stream.boundedReceiveCompleteLocked config then
      some ((stream.finishRecovery.closeCarrier attachment).goto worker (resumed worker))
    else
      some ({ stream with history := { stream.history with
          offers := (attachment, state) :: stream.history.offers } }.goto worker
        (.recovering failed (.exchanging state attachment)))
  | _ => none

/-- The opener returned an error. -/
def openFails (config : Config) (stream : Stream) (worker : Worker) (err : StreamError) :
    Option Stream :=
  match stream.phase worker with
  | .recovering failed (.opening state) =>
    some (stream.unlessComplete config worker
      (stream.goto worker (.recovering failed (.refused state err))))
  | _ => none

/-- `ExchangeContinuity` returned the verified state of the peer. -/
def exchange (stream : Stream) (worker : Worker) (peer : ContinuityPeer) : Option Stream :=
  match stream.phase worker with
  | .recovering failed (.exchanging state attachment) =>
    some (stream.goto worker (.recovering failed (.exchanged state attachment peer)))
  | _ => none

/-- `ExchangeContinuity` failed, or the attempt was cancelled. -/
def exchangeFails (stream : Stream) (worker : Worker) (err : StreamError) : Option Stream :=
  match stream.phase worker with
  | .recovering failed (.exchanging state attachment) =>
    some ((stream.closeCarrier attachment).goto worker (.recovering failed (.refused state err)))
  | _ => none

end Stream

/-- `acknowledgeLocked`; `none` is `ErrActiveViolation`. -/
def Sending.acknowledgeLocked (send : Sending) (offset : Nat) : Option Sending :=
  if offset < send.sendBase then some send
  else if send.sendEnd < offset then none
  else some { send with
    sendData := send.sendData.drop (offset - send.sendBase)
    sendBase := offset
    sendNext := max send.sendNext offset }

namespace Stream

/-- The checks of `commitAttachment`, in the source's order. -/
def commitRefusal (stream : Stream) (failed attachment : Attachment) (peer : ContinuityPeer)
    (cancelled : Bool) : Option StreamError :=
  match stream.link.terminal with
  | some err => some err
  | none =>
    if cancelled then some .cancelled
    else if stream.link.current ≠ failed then some .replacementNotOwned
    else if attachment.generation ≤ failed.generation then some .replacementNotAdvanced
    else if peer.receiveNext < stream.send.sendBase ∨ stream.send.sendEnd < peer.receiveNext then
      some .replacementOutsideSendRange
    else if peer.sendEnd < stream.receive.recvNext then some .replacementForgot
    else if peer.peerNonce = 0 ∨ peer.localNonce = 0 ∨ peer.peerNonce = peer.localNonce then
      some .replacementNonce
    else none

/-- The cutover of `commitAttachment`: the peer's `ReceiveNext` is acknowledged,
`ackSent` is raised to the live `recvNext`, and `sendNext` is rewound. -/
def cutover (stream : Stream) (state : ContinuityExchange) (attachment : Attachment)
    (send : Sending) : Stream :=
  { stream with
    send := { send with sendNext := send.sendBase }
    acks := { stream.acks with ackSent := max stream.receive.recvNext stream.acks.ackSent }
    link := { stream.link with current := attachment, recovering := false, proposals := 0 }
    history := { stream.history with commits := state :: stream.history.commits } }

/-- `commitAttachment` and the return of `recoverAttachment`.  A proposal that is
not committed has its carrier closed. -/
def commit (stream : Stream) (worker : Worker) (cancelled : Bool) : Option Stream :=
  match stream.phase worker with
  | .recovering failed (.exchanged state attachment peer) =>
    let refuse (err : StreamError) : Stream :=
      (stream.closeCarrier attachment).goto worker (.recovering failed (.refused state err))
    match stream.commitRefusal failed attachment peer cancelled with
    | some err => some (refuse err)
    | none =>
      match stream.send.acknowledgeLocked peer.receiveNext with
      | none => some (refuse (.activeViolation ""))
      | some send => some ((stream.cutover state attachment send).goto worker (resumed worker))
  | _ => none

/-- The section after a failed proposal. -/
def retry (config : Config) (stream : Stream) (worker : Worker) : Option Stream :=
  match stream.phase worker with
  | .recovering failed (.refused state err) =>
    some <| stream.unlessComplete config worker <|
      stream.goto worker (.recovering failed
        (if err.isActiveViolation then .abandoned err else .proposing state))
  | _ => none

/-- The end of `recoverAttachment` without a replacement. -/
def abandon (config : Config) (stream : Stream) (worker : Worker) : Option Stream :=
  match stream.phase worker with
  | .recovering _ (.abandoned err) =>
    some (stream.unlessComplete config worker
      ((stream.fail err).goto worker (aborted worker err)))
  | _ => none

/-! ## `receiveApplicationBounded` and `receiveApplication` -/

def receiveComplete (config : Config) (stream : Stream) : Bool :=
  if config.bounded then stream.boundedReceiveCompleteLocked config
  else decide (stream.receive.recvNext = stream.limit) &&
    decide (stream.send.sendBase = config.sendLimit)

/-- The head of the receive loop. -/
def check (config : Config) (stream : Stream) : Option Stream :=
  match stream.phase .receive, stream.link.terminal with
  | .idle, some err => some (stream.goto .receive (.returned (some err)))
  | .idle, none =>
    some (stream.goto .receive
      (if stream.receiveComplete config then .returned none else .attaching))
  | _, _ => none

/-- `ReadStream` returned a record. -/
def read (stream : Stream) (record : StreamRecord) : Option Stream :=
  match stream.phase .receive with
  | .reading attachment =>
    if attachment ∈ stream.link.closed then none
    else some (stream.goto .receive (.held attachment record))
  | _ => none

/-- `ReadStream` failed.  While a Terminal is being written the carrier is closed
so that its writer owns the recovery. -/
def readFails (config : Config) (stream : Stream) : Option Stream :=
  match stream.phase .receive with
  | .reading attachment =>
    let waits := config.bounded && (stream.terminalReplaying || stream.control.terminalWriting)
    let closed := if waits && config.recoverable then stream.closeCarrier attachment else stream
    some (closed.goto .receive (.readFailed attachment waits))
  | _ => none

/-- The section after a failed read; `eof` says that the error was `io.EOF` or
`io.ErrClosedPipe`. -/
def rejoin (config : Config) (stream : Stream) (eof : Bool) : Option Stream :=
  match stream.phase .receive with
  | .readFailed attachment waits =>
    match stream.link.terminal with
    | some err => some (stream.goto .receive (.returned (some err)))
    | none =>
      if waits = true ∧ (stream.terminalReplaying || stream.control.terminalWriting) = true then
        none
      else if stream.receiveComplete config = true ∧ eof = true then
        some (stream.goto .receive (.returned none))
      else some (stream.goto .receive (.lost attachment))
  | _ => none

/-- A Terminal receipt confirmation that names a receipt sent or being written. -/
def confirms (control : TerminalControl) (generation offset : Nat) : Bool :=
  let receiptSent := control.terminalAckSent &&
    decide (generation = control.terminalAckGeneration) &&
    decide (offset = control.terminalAckOffset)
  let receiptWriting := control.terminalAckWriting &&
    decide (generation = control.terminalAckWritingGeneration) &&
    decide (offset = control.terminalAckWritingOffset)
  control.remoteTerminal && control.terminalAckPending && (receiptSent || receiptWriting)

/-- A Terminal receipt that names the local Terminal sent or being written. -/
def receipts (control : TerminalControl) (generation offset : Nat) : Bool :=
  control.localTerminal && decide (offset = control.terminalOffset) &&
    (decide (generation = control.terminalGeneration) ||
      (control.terminalWriting && decide (generation = control.terminalWritingGeneration)))

def unmatchedReceipt (control : TerminalControl) (generation offset : Nat) : StreamError :=
  .activeViolation <| "Terminal receipt does not match a local Terminal\n" ++
    s!"received generation {generation} offset {offset}; " ++
    s!"local generation {control.terminalGeneration} offset {control.terminalOffset}; " ++
    s!"writing {control.terminalWriting} generation {control.terminalWritingGeneration}"

/-- The worker returns `err`. -/
def refuse (stream : Stream) (err : StreamError) : Stream :=
  stream.goto .receive (.returned (some err))

/-- An Acknowledgement that is not a confirmation: bytes, and with `terminal` the
receipt of the local Terminal. -/
def receiveAcknowledgement (config : Config) (stream : Stream) (generation offset : Nat)
    (terminal : Bool) : Stream :=
  match stream.send.acknowledgeLocked offset with
  | none => stream.refuse (.activeViolation "")
  | some send =>
    let control := stream.control
    let settled : TerminalControl :=
      if terminal && config.bounded then
        if config.receipts then
          { control with
            terminalAcknowledgedGeneration := generation
            terminalConfirmationPending := true
            terminalConfirmationSent := false
            terminalConfirmationGeneration := generation
            terminalConfirmationOffset := offset }
        else { control with terminalAcknowledgedGeneration := generation }
      else control
    { stream with send := send, control := settled }.goto .receive .idle

/-- Where `acceptData` leaves the worker. -/
def progressed : Progress → Phase
  | .fails err => .returned (some err)
  | .delivers range => .delivering range
  | .acknowledges offset => .acknowledging offset

def receiveData (stream : Stream) (offset : Nat) (payload : List UInt8) : Stream :=
  let section_ := stream.receive.acceptData stream.control.postClose stream.limit offset payload
  { stream with receive := section_.1 }.goto .receive (progressed section_.2)

/-- A Terminal in `receiveApplicationBounded`. -/
def receiveTerminal (config : Config) (stream : Stream) (attachment : Attachment) (offset : Nat) :
    Stream :=
  if offset ≠ stream.receive.recvNext then stream.refuse .unmatchedTerminal
  else
    let control := stream.control
    let owed := config.receipts && decide (control.terminalAckGeneration ≠ attachment.generation)
    let accepted : Stream :=
      { stream with
        acks := { stream.acks with ackPending := max offset stream.acks.ackPending }
        control := { control with
          remoteTerminal := true
          terminalAckPending := if owed then true else control.terminalAckPending
          terminalAckSent := if owed then false else control.terminalAckSent
          terminalAckPendingGeneration :=
            if owed then attachment.generation else control.terminalAckPendingGeneration
          terminalAckOffset := if owed then offset else control.terminalAckOffset }
        history := { stream.history with
          acceptedTerminal :=
            if control.remoteTerminal then stream.history.acceptedTerminal else some offset } }
    accepted.goto .receive (if control.remoteTerminal then .idle else .closing)

/-- The worker handles the record it read. -/
def process (config : Config) (stream : Stream) : Option Stream :=
  match stream.phase .receive with
  | .held attachment record =>
    if record.generation ≠ attachment.generation then
      some (stream.refuse (if config.bounded then .staleAttachment else .activeViolation ""))
    else
      match record with
      | .acknowledgement generation offset terminal confirmation =>
        if config.bounded = true ∧ confirmation = true then
          if confirms stream.control generation offset then
            some ({ stream with control := { stream.control with
              terminalAckConfirmedGeneration := generation } }.goto .receive .idle)
          else some (stream.refuse .unmatchedConfirmation)
        else if config.bounded = true ∧ terminal = true ∧
            receipts stream.control generation offset = false then
          some (stream.refuse (unmatchedReceipt stream.control generation offset))
        else some (stream.receiveAcknowledgement config generation offset terminal)
      | .data _ offset payload => some (stream.receiveData offset payload)
      | .terminal _ offset =>
        if config.bounded then some (stream.receiveTerminal config attachment offset)
        else if offset = stream.receive.recvNext then some (stream.refuse .remoteEnded)
        else some (stream.refuse (.activeViolation ""))
  | _ => none

/-- The Application took the whole range; the section after `writeAll`. -/
def applicationWrites (stream : Stream) : Option Stream :=
  match stream.phase .receive with
  | .delivering range =>
    let section_ := (stream.receive.delivered range).deliverNext stream.control.postClose
    some ({ stream with
      receive := section_.1
      history := { stream.history with
        output := stream.history.output ++ range.data } }.goto .receive (progressed section_.2))
  | _ => none

/-- The Application took `count` bytes of the range and failed. -/
def applicationFails (stream : Stream) (count : Nat) : Option Stream :=
  match stream.phase .receive with
  | .delivering range =>
    if count < range.data.length then
      some (({ stream with history := { stream.history with
          output := stream.history.output ++ range.data.take count
          applicationFailed := true } }.fail .application).goto .receive
        (.returned (some .application)))
    else none
  | _ => none

def queueAcknowledgement (stream : Stream) : Option Stream :=
  match stream.phase .receive with
  | .acknowledging offset =>
    some ({ stream with acks := { stream.acks with
      ackPending := max offset stream.acks.ackPending } }.goto .receive .idle)
  | _ => none

/-- `CloseInput` or, for a presentation that asks for it, `Close` returned nil. -/
def closeInput (stream : Stream) : Option Stream :=
  match stream.phase .receive with
  | .closing =>
    some ({ stream with history := { stream.history with
      inputCloses := stream.history.inputCloses + 1 } }.goto .receive .idle)
  | _ => none

def closeInputFails (stream : Stream) : Option Stream :=
  match stream.phase .receive with
  | .closing => some (stream.refuse .application)
  | _ => none

/-! ## `RunBounded` and `stream_terminal_tail.go` -/

/-- The acknowledgement worker finds nothing left to send. -/
def acknowledgementsDone (config : Config) (stream : Stream) : Option Stream :=
  if config.bounded = true ∧ stream.phase .acknowledge = .idle ∧ stream.link.terminal = none ∧
      stream.boundedAcknowledgementCompleteLocked config = true then
    some (stream.goto .acknowledge (.returned none))
  else none

/-- Both results are in: `stream.outcome()`. -/
def takeOutcome (config : Config) (stream : Stream) : Option Stream :=
  if config.bounded = true ∧ stream.main = .waiting ∧ stream.control.terminalSettled = true ∧
      stream.phase .acknowledge = .returned none ∧
      stream.outcome.acknowledged = stream.outcome.accepted then
    some { stream with main := .taken stream.outcome }
  else none

/-- The test of `stream.terminal` before the result is published. -/
def checkOutcome (stream : Stream) : Option Stream :=
  match stream.main with
  | .taken outcome =>
    if stream.link.terminal = none then some { stream with main := .checked outcome } else none
  | _ => none

/-- `applicationWriting`. -/
def applicationWriting (stream : Stream) : Bool :=
  match stream.phase .receive with
  | .delivering _ => true
  | _ => false

/-- `startTerminalTail`.  An eligible Stream returns its outcome and keeps an
acknowledgement worker; any other first waits for its receive worker. -/
def startTail (config : Config) (stream : Stream) : Option Stream :=
  match stream.main with
  | .checked outcome =>
    if stream.applicationWriting = true ∧ stream.link.terminal = none then none
    else if config.recoverable = true ∧ stream.link.terminal = none ∧
        stream.control.localTerminal = true ∧ stream.control.remoteTerminal = true ∧
        stream.control.terminalConfirmationSent = true then
      some ({ stream with
        main := .returned outcome
        control := { stream.control with postClose := true } }.goto .acknowledge .idle)
    else some { stream with main := .awaiting outcome }
  | _ => none

/-- The receive worker of a Stream without a tail returned nil. -/
def join (stream : Stream) : Option Stream :=
  match stream.main, stream.phase .receive with
  | .awaiting outcome, .returned none => some { stream with main := .returned outcome }
  | _, _ => none

/-- `startTerminalTailReceive` replaces a receive worker that returned nil. -/
def tailReceive (stream : Stream) : Option Stream :=
  if stream.control.postClose = true ∧ stream.phase .receive = .returned none then
    some ({ stream with limit := stream.receive.recvNext }.goto .receive .idle)
  else none

/-! ## Steps -/

inductive Event where
  | ask
  | input (bytes : List UInt8)
  | endOfInput
  | pick
  | attach (worker : Worker)
  | choose (worker : Worker)
  | enterWrite (worker : Worker)
  | write (worker : Worker)
  | writeFails (worker : Worker)
  | finish (worker : Worker)
  | clearReceipt
  | clearTerminal
  | checkTerminal
  | enterRecovery (worker : Worker) (expired : Bool)
  | closeFailed (worker : Worker)
  | propose (worker : Worker) (stopped : Option StreamError)
  | opened (worker : Worker) (attachment : Attachment)
  | openFails (worker : Worker) (err : StreamError)
  | exchange (worker : Worker) (peer : ContinuityPeer)
  | exchangeFails (worker : Worker) (err : StreamError)
  | commit (worker : Worker) (cancelled : Bool)
  | retry (worker : Worker)
  | abandon (worker : Worker)
  | check
  | read (record : StreamRecord)
  | readFails
  | rejoin (eof : Bool)
  | process
  | applicationWrites
  | applicationFails (count : Nat)
  | queueAcknowledgement
  | closeInput
  | closeInputFails
  | acknowledgementsDone
  | takeOutcome
  | checkOutcome
  | startTail
  | join
  | tailReceive
  | fail (err : StreamError)
  deriving DecidableEq, Repr

/-- One atomic step; `none` when the event is not possible in the state. -/
def step (config : Config) (stream : Stream) : Event → Option Stream
  | .ask => stream.ask config
  | .input bytes => stream.input bytes
  | .endOfInput => stream.endOfInput config
  | .pick => stream.pick
  | .attach worker => stream.attach config worker
  | .choose worker => stream.choose config worker
  | .enterWrite worker => stream.enterWrite config worker
  | .write worker => stream.write worker
  | .writeFails worker => stream.writeFails config worker
  | .finish worker => stream.finish config worker
  | .clearReceipt => stream.clearReceipt
  | .clearTerminal => stream.clearTerminal
  | .checkTerminal => stream.checkTerminal
  | .enterRecovery worker expired => stream.enterRecovery config worker expired
  | .closeFailed worker => stream.closeFailed worker
  | .propose worker stopped => stream.propose config worker stopped
  | .opened worker attachment => stream.opened config worker attachment
  | .openFails worker err => stream.openFails config worker err
  | .exchange worker peer => stream.exchange worker peer
  | .exchangeFails worker err => stream.exchangeFails worker err
  | .commit worker cancelled => stream.commit worker cancelled
  | .retry worker => stream.retry config worker
  | .abandon worker => stream.abandon config worker
  | .check => stream.check config
  | .read record => stream.read record
  | .readFails => stream.readFails config
  | .rejoin eof => stream.rejoin config eof
  | .process => stream.process config
  | .applicationWrites => stream.applicationWrites
  | .applicationFails count => stream.applicationFails count
  | .queueAcknowledgement => stream.queueAcknowledgement
  | .closeInput => stream.closeInput
  | .closeInputFails => stream.closeInputFails
  | .acknowledgementsDone => stream.acknowledgementsDone config
  | .takeOutcome => stream.takeOutcome config
  | .checkOutcome => stream.checkOutcome
  | .startTail => stream.startTail config
  | .join => stream.join
  | .tailReceive => stream.tailReceive
  | .fail err => some (stream.fail err)

/-- Flushing starts from the first byte that is not sent. -/
theorem step_pick {config : Config} {before after : Stream} (stepped : step config before .pick = some after) :
    before.phase .flush = .idle ∧ before.send.sendNext < before.send.sendEnd ∧
      after = before.goto .flush (.picked before.send.sendNext
        ((before.send.sendData.drop (before.send.sendNext - before.send.sendBase)).take
          (min maximumDataBytes (before.send.sendEnd - before.send.sendNext)))) := by
  simp only [step, pick] at stepped
  split at stepped
  · rename_i enabled
    cases stepped
    exact ⟨enabled.1, enabled.2.2, rfl⟩
  · cases stepped

end Stream

end Ardents.Connection
