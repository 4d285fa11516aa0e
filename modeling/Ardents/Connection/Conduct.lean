/-
# Connection.Conduct — what one end does, whoever its peer is

The records a Stream reads, the continuity answers it gets and the failures it meets are free
inputs of `step`, so what is an invariant of one Stream holds against any peer.
-/
import Ardents.Connection.Delivery

namespace Ardents.Connection.Stream

open Lib

set_option autoImplicit false

/-- Data are the Application's bytes, an acknowledgement is of bytes received in order, and a
Terminal is at the end of an input that has ended. -/
def Truthful (stream : Stream) : StreamRecord → Prop
  | .data _ offset payload => payload ≠ [] ∧ payload.length ≤ maximumDataBytes ∧
    Agrees (labelled stream.history.input) offset payload
  | .acknowledgement _ offset _ confirmation => confirmation = false → offset ≤ stream.receive.recvNext
  | .terminal _ offset => offset = stream.history.input.length ∧ stream.sender = .ended

variable {config : Config} {stream : Stream}

theorem Regular.truthful (regular : Regular config stream) {attachment : Attachment} {record : StreamRecord}
    (logged : (attachment, record) ∈ stream.history.log) : stream.Truthful record := by
  have sourced := regular.honest.sourced
  cases record with
  | data generation offset payload => exact sourced.logged _ _ _ _ logged
  | acknowledgement generation offset terminal confirmation =>
    rintro rfl
    exact regular.honest.modest.logged _ _ _ _ logged
  | terminal generation offset =>
    rw [Truthful, sourced.sendEnd]
    exact regular.terminating.logged _ _ _ logged

theorem throughout_regular (config : Config) (attachment : Attachment) (events : List Event) :
    Throughout (step config) (Regular config) (initial config attachment) events :=
  throughout_of_invariant (fun _ _ _ regular stepped => step_regular stepped regular)
    (initial_regular config attachment) events

/-- **A Stream tells the truth.**  Every record carries the generation of its Attachment and is
true; none goes out on an Attachment that was replaced; and what may have to be sent again is the
rest of the input, within the queue. -/
theorem records_truthful (config : Config) (attachment : Attachment) (events : List Event) :
    Throughout (step config) (fun stream =>
      (∀ entry ∈ stream.history.log,
        entry.2.generation = entry.1.generation ∧ stream.Truthful entry.2) ∧
      (stream.history.log.Pairwise fun earlier later =>
        earlier.1.generation < later.1.generation ∨ earlier.1 = later.1) ∧
      stream.send.sendData = stream.history.input.drop stream.send.sendBase ∧
      stream.send.sendData.length ≤ logicalQueueLimit) (initial config attachment) events := by
  refine (throughout_regular config attachment events).imp fun stream regular => ?_
  refine ⟨fun entry logged => ?_, ?_, regular.honest.sourced.sendData, regular.metered.window⟩
  · exact ⟨(regular.honest.tracked.logged _ _ logged).2, regular.truthful logged⟩
  · refine regular.paced.log.imp fun {earlier later} precedes => ?_
    rcases Nat.lt_or_eq_of_le precedes.generation_le with older | same
    · exact .inl older
    · exact .inr (precedes.same same)

/-- **`RunBounded` settles before it concludes without an error.**  It does so only once both
Terminals are through and the whole input is acknowledged; with receipts, the peer has confirmed
too and end of input was presented, exactly once. -/
theorem bounded_run_settled (config : Config) (attachment : Attachment) (events : List Event) :
    Throughout (step config) (fun stream => config.bounded = true → stream.main ≠ .waiting →
      stream.control.remoteTerminal = true ∧ stream.control.localTerminal = true ∧
      stream.sender = .ended ∧ stream.send.sendBase = stream.history.input.length ∧
      (config.receipts = true → stream.history.inputCloses = 1 ∧
        stream.control.terminalAcknowledgedGeneration ≠ 0)) (initial config attachment) events := by
  refine (throughout_regular config attachment events).imp fun stream regular bounded concluded => ?_
  have concluding := (regular.controlled bounded).concluding
  obtain ⟨remote, finished, acknowledged, receipts⟩ := concluding.complete (.inr concluded)
  refine ⟨remote, finished, regular.terminating.ended finished, ?_, fun enabled => ?_⟩
  · rw [acknowledged, regular.honest.sourced.sendEnd]
  · obtain ⟨confirmed, seen⟩ := receipts enabled
    exact ⟨concluding.confirmed confirmed, seen⟩

end Ardents.Connection.Stream
