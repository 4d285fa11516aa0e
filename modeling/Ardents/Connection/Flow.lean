/-
# Connection.Flow — how far a Stream's Data records spread

The send queue holds at most `logicalQueueLimit` unacknowledged bytes, and
`flushAvailable` has one holder, so no Data record a Stream writes starts a whole
queue below the end of one it wrote earlier (`Paced`).  That is what lets the
receiver trim its retained window and still recognise every replay.
-/
import Ardents.Connection.Honest

namespace Ardents.Connection

open Lib

set_option autoImplicit false

namespace StreamRecord

/-- The end of a Data record's bytes; zero for a record without bytes. -/
def stop : StreamRecord → Nat
  | .data _ offset payload => offset + payload.length
  | _ => 0

end StreamRecord

/-- The first record was put out on the same or an older Attachment, and its bytes
end less than a queue above the start of the second. -/
structure Precedes (first second : Attachment × StreamRecord) : Prop where
  generation_le : first.1.generation ≤ second.1.generation
  same : first.1.generation = second.1.generation → first.1 = second.1
  window : second.2.isData = true → first.2.stop ≤ second.2.offset + logicalQueueLimit

namespace Stream

variable {config : Config} {before after : Stream} {event : Event}

/-! ## The send queue -/

/-- The bytes accepted, and those being asked for, stay within the limit of the
run and the bound of the queue. -/
structure Metered (config : Config) (stream : Stream) : Prop where
  limit : stream.send.sendEnd ≤ config.sendLimit
  window : stream.send.sendData.length ≤ logicalQueueLimit
  asking : ∀ want, stream.sender = .asking want →
    stream.send.sendEnd + want ≤ config.sendLimit ∧
      stream.send.sendData.length + want ≤ logicalQueueLimit

theorem initial_metered (config : Config) (attachment : Attachment) :
    Metered config (initial config attachment) :=
  ⟨Nat.zero_le _, Nat.zero_le _, nofun⟩

/-- A window that lost bytes at its base stays within its bounds. -/
theorem Metered.shrink (metered : Metered config before)
    (sendEnd : after.send.sendEnd = before.send.sendEnd)
    (sendData : after.send.sendData.length ≤ before.send.sendData.length)
    (sender : after.sender = before.sender) : Metered config after := by
  refine ⟨sendEnd ▸ metered.limit, sendData.trans metered.window, fun want asking => ?_⟩
  obtain ⟨limit, window⟩ := metered.asking want (sender ▸ asking)
  exact ⟨by omega, by omega⟩

variable {entry : Attachment × StreamRecord} {offset : Nat}

theorem acknowledgeLocked_length {send next : Sending}
    (acknowledged : send.acknowledgeLocked offset = some next) :
    next.sendEnd = send.sendEnd ∧ next.sendData.length ≤ send.sendData.length := by
  unfold Sending.acknowledgeLocked at acknowledged
  (repeat' split at acknowledged) <;> cases acknowledged
  · exact ⟨rfl, Nat.le_refl _⟩
  · refine ⟨rfl, ?_⟩
    simp

/-! ## The log -/

/-- The records go out Attachment by Attachment, and no Data record starts a queue
below the end of an earlier one; a pick already keeps that distance. -/
structure Paced (stream : Stream) : Prop where
  picked : ∀ offset payload, (stream.phase .flush).pick = some (offset, payload) →
    ∀ entry ∈ stream.history.log, entry.2.stop ≤ offset + logicalQueueLimit
  log : stream.history.log.Pairwise Precedes

theorem initial_paced (config : Config) (attachment : Attachment) :
    Paced (initial config attachment) where
  picked := nofun
  log := List.Pairwise.nil

/-- No record ends beyond what was accepted. -/
theorem Sourced.stop_le (sourced : Sourced before)
    (member : entry ∈ before.history.log) : entry.2.stop ≤ before.send.sendEnd := by
  obtain ⟨attachment, record⟩ := entry
  cases record with
  | data generation offset payload =>
    obtain ⟨nonempty, _, agrees⟩ := sourced.logged _ _ _ _ member
    rw [← sourced.sendEnd]
    exact agrees.labelled_le nonempty
  | _ => exact Nat.zero_le _

section Steps

variable (metered : Metered config before) (stepped : step config before event = some after)

include metered stepped

theorem step_metered : Metered config after := by
  by_cases asks : event.asks = false
  · have sender := (step_frame stepped).sender asks
    cases step_sends stepped with
    | stays send _ => exact metered.shrink (by rw [send]) (by rw [send]) sender
    | reads => cases asks
    | advances _ _ send => exact metered.shrink (by rw [send]) (by rw [send]) sender
    | acknowledges _ _ acknowledged =>
      obtain ⟨ends, shrinks⟩ := acknowledgeLocked_length acknowledged
      exact metered.shrink ends shrinks sender
    | rewinds _ acknowledged rewound =>
      obtain ⟨ends, shrinks⟩ := acknowledgeLocked_length acknowledged
      exact metered.shrink (rewound ▸ ends) (rewound ▸ shrinks) sender
  · cases event with
    | ask =>
      simp only [step, ask] at stepped
      split at stepped
      · cases stepped
        refine ⟨metered.limit, metered.window, fun want asking => ?_⟩
        have limit := metered.limit
        have window := metered.window
        cases asking
        constructor
        · show before.send.sendEnd + _ ≤ _
          omega
        · show before.send.sendData.length + _ ≤ _
          omega
      · cases stepped
    | input bytes =>
      obtain ⟨want, asking, _, fits, rfl⟩ := step_input stepped
      obtain ⟨limit, window⟩ := metered.asking want asking
      refine ⟨?_, ?_, fun _ never => by cases never⟩
      · show before.send.sendEnd + bytes.length ≤ _
        omega
      · rw [List.length_append]
        omega
    | endOfInput =>
      simp only [step, endOfInput] at stepped
      (repeat' split at stepped) <;> cases stepped <;>
        exact ⟨metered.limit, metered.window, fun _ never => by cases never⟩
    | _ => exact absurd rfl asks

theorem step_paced_picked (sourced : Sourced before) (paced : Paced before)
    {payload : List UInt8} (flushed : (after.phase .flush).pick = some (offset, payload))
    (member : entry ∈ after.history.log) : entry.2.stop ≤ offset + logicalQueueLimit := by
  have frame := step_frame stepped
  rcases step_flush_pick stepped flushed with had | ⟨rfl, rfl, _⟩
  · obtain ⟨attachment, record⟩ := entry
    rcases step_logged stepped member with older | ⟨worker, _, admitted⟩
    · exact paced.picked _ _ had _ older
    -- the flush writes nothing but its own pick
    cases record with
    | data generation start bytes =>
      obtain rfl := (sourced.flushing.tracked.writer admitted).2.1 rfl
      rw [admitted] at had
      cases had
      have small := (sourced.picked offset payload (by rw [admitted]; rfl)).1
      have room : maximumDataBytes ≤ logicalQueueLimit := by decide
      show offset + payload.length ≤ _
      omega
    | _ => exact Nat.zero_le _
  · rw [frame.log rfl] at member
    have stop := sourced.stop_le member
    have retained := sourced.flushing.ordered.retained
    have base := sourced.flushing.ordered.base_le
    have window := metered.window
    omega

theorem step_paced (sourced : Sourced before) (paced : Paced before) : Paced after where
  picked := fun _ _ flushed _ member =>
    step_paced_picked metered stepped sourced paced flushed member
  log := by
    have tracked := sourced.flushing.tracked
    by_cases writes : event.writes = false
    · rw [(step_frame stepped).log writes]
      exact paced.log
    cases event with
    | write worker =>
      obtain ⟨attachment, record, admitted, opened, rfl⟩ := step_write stepped
      have mine := tracked.on admitted
      have current := mine.1.eq_of_open opened
      refine List.pairwise_append.mpr ⟨paced.log, List.pairwise_singleton _ _, ?_⟩
      intro earlier member later new
      rw [List.mem_singleton] at new
      subst new
      have known := (tracked.logged _ _ member).1
      refine ⟨current ▸ known.generation_le, fun same => ?_, fun data => ?_⟩
      · rw [current] at same ⊢
        exact known.eq_current same
      cases record with
      | data generation offset payload =>
        cases worker with
        | flush => exact paced.picked offset payload (by rw [admitted]; rfl) _ member
        | _ => exact mine.2.elim
      | _ => cases data
    | _ => exact absurd rfl writes

end Steps

end Stream

end Ardents.Connection
