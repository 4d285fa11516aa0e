/-
# Connection.RemoteTerminal — the end of the received direction

`receiveApplicationBounded` accepts a Terminal whose offset is `recvNext` and
presents end of input.  It does not look at the ranges held out of order, and
`acceptData` does not look at `remoteTerminal`: until `postClose` is set, bytes
beyond an accepted Terminal are stored and delivered like any others.

`Final` says that an accepted Terminal ended the direction: `recvNext` stays at
its offset, nothing is held beyond it and nothing is being delivered.
`accepted_terminal_final` proves it for every history in which no record carries
bytes beyond the Terminal past the tests that do reject them;
`dataAfterTerminal` is a history of an authenticated peer in which bytes are
delivered after end of input was presented.
-/
import Ardents.Connection.Steps

namespace Ardents.Connection

open Lib

set_option autoImplicit false

variable {postClose : Bool} {payload : List UInt8} {receiving : Receiving}

/-- A record that ends at or below `recvNext` changes nothing and delivers nothing. -/
theorem Receiving.acceptData_old {limit offset : Nat}
    (old : offset + payload.length ≤ receiving.recvNext) :
    (receiving.acceptData postClose limit offset payload).1 = receiving ∧
      ∀ range, (receiving.acceptData postClose limit offset payload).2 ≠ .delivers range := by
  unfold Receiving.acceptData
  dsimp only
  split
  · exact ⟨rfl, fun _ => nofun⟩
  split
  · exact ⟨rfl, fun _ => nofun⟩
  split
  · exact ⟨rfl, fun _ => nofun⟩
  · split
    · exact ⟨rfl, fun _ => nofun⟩
    · omega

/-- A record is refused once `postClose` is set, and whenever it ends beyond the
directional limit. -/
theorem Receiving.acceptData_refused {limit offset : Nat}
    (refused : postClose = true ∨ limit < offset + payload.length) :
    ∃ err, receiving.acceptData postClose limit offset payload = (receiving, .fails err) ∧
      err.isActiveViolation = true := by
  unfold Receiving.acceptData
  dsimp only
  split
  · exact ⟨_, rfl, rfl⟩
  rename_i within
  rcases refused with closed | beyond
  · rw [if_pos closed]
    exact ⟨_, rfl, rfl⟩
  · omega

namespace Stream

/-- **An accepted Terminal is final in this state.** -/
structure Final (stream : Stream) : Prop where
  recvNext : ∀ offset, stream.history.acceptedTerminal = some offset →
    stream.receive.recvNext = offset
  drained : stream.history.acceptedTerminal ≠ none → stream.receive.pending = []
  quiet : stream.history.acceptedTerminal ≠ none → ∀ range,
    stream.phase .receive ≠ .delivering range

/-- **An accepted Terminal is final for this step**: the Application gets no
further byte, and a Data record with bytes at or beyond the Terminal's offset
fails the stream with `ErrActiveViolation`. -/
def FinalStep (config : Config) (stream : Stream) (event : Event) : Prop :=
  ∀ final next, stream.history.acceptedTerminal = some final →
    step config stream event = some next →
      next.history.output = stream.history.output ∧
      ∀ attachment generation offset payload, event = .process →
        stream.phase .receive = .held attachment (.data generation offset payload) →
          final < offset + payload.length →
            ∃ err, next.phase .receive = .returned (some err) ∧ err.isActiveViolation = true

/-- The record about to be handled carries nothing past an accepted Terminal: a
Terminal at `recvNext` finds no range held beyond it, and a Data record after it
ends at or below its offset, or arrives after `postClose` or beyond the limit. -/
def endsAtTerminal (stream : Stream) : Event → Bool
  | .process =>
    match stream.phase .receive with
    | .held _ (.terminal _ offset) =>
      decide (offset = stream.receive.recvNext → stream.receive.pending = [])
    | .held _ (.data _ offset payload) =>
      decide (stream.control.remoteTerminal = true →
        offset + payload.length ≤ stream.receive.recvNext ∨ stream.control.postClose = true ∨
          stream.limit < offset + payload.length)
    | _ => true
  | _ => true

variable {config : Config} {before after : Stream} {event : Event}

theorem initial_final (config : Config) (attachment : Attachment) :
    Final (initial config attachment) where
  recvNext := nofun
  drained := fun never => absurd rfl never
  quiet := fun never => absurd rfl never

/-- `remoteTerminal` is set exactly when a Terminal has been accepted. -/
def RemoteTerminalSet (stream : Stream) : Prop :=
  stream.control.remoteTerminal = stream.history.acceptedTerminal.isSome

theorem receiveAcknowledgement_history (config : Config) (stream : Stream)
    (generation offset : Nat) (terminal : Bool) :
    (stream.receiveAcknowledgement config generation offset terminal).history = stream.history := by
  simp only [receiveAcknowledgement, refuse, goto]
  split <;> rfl

theorem receiveAcknowledgement_receive (config : Config) (stream : Stream)
    (generation offset : Nat) (terminal : Bool) :
    (stream.receiveAcknowledgement config generation offset terminal).receive = stream.receive ∧
      ∀ range, (stream.receiveAcknowledgement config generation offset terminal).phase .receive ≠
        .delivering range := by
  simp only [receiveAcknowledgement, refuse]
  split <;> exact ⟨rfl, fun _ => by rw [goto_phase_self]; rintro ⟨⟩⟩

section Steps

variable (stepped : step config before event = some after)

include stepped

theorem step_remoteTerminalSet (tracked : Tracked before) (set : RemoteTerminalSet before) :
    RemoteTerminalSet after := by
  unfold RemoteTerminalSet at set ⊢
  rcases step_receipt tracked stepped with ⟨remote, _, _, _, accepted, _⟩ | ⟨rfl, _, _, rfl⟩
  · rw [remote, accepted]
    exact set
  simp only [receiveTerminal, goto, ne_eq, not_true_eq_false, if_false]
  split
  · rename_i already
    rw [← set, already]
  · rfl

/-- Outside the handling of records, the receive worker delivers nothing new. -/
theorem step_delivering (other : event ≠ .process)
    (idle : ∀ range, before.phase .receive ≠ .delivering range) (range : ReceivedRange) :
    after.phase .receive ≠ .delivering range := by
  by_cases mine : event.worker = some .receive
  · obtain ⟨old, new, was, now, moved⟩ := step_moves stepped mine
    cases moved <;> grind
  · rw [(step_frame stepped).phase _ mine]
    exact idle range

/-- The Application is written to only while the receive worker delivers. -/
theorem step_delivers (delivers : event.delivers = true) :
    ∃ range, before.phase .receive = .delivering range := by
  cases event
  all_goals first | (cases delivers; done) | skip
  all_goals
    simp only [step, applicationWrites, applicationFails] at stepped
    split at stepped
    · exact ⟨_, by assumption⟩
    · cases stepped

theorem step_output (idle : ∀ range, before.phase .receive ≠ .delivering range) :
    after.history.output = before.history.output := by
  refine (step_frame stepped).output (Bool.eq_false_iff.mpr fun delivers => ?_)
  obtain ⟨range, delivering⟩ := step_delivers stepped delivers
  exact idle range delivering

/-- **One step keeps a Terminal final** when the record it handles, if any,
respects it. -/
theorem step_final (set : RemoteTerminalSet before) (final : Final before)
    (respects : before.endsAtTerminal event) : Final after := by
  have frame := step_frame stepped
  by_cases process : event = .process
  · subst process
    obtain ⟨attachment, record, held, handled⟩ := step_process stepped
    have refused (err : StreamError) : Final (before.refuse err) :=
      ⟨final.recvNext, final.drained, fun _ _ => by rw [refuse, goto_phase_self]; rintro ⟨⟩⟩
    cases handled with
    | data offset payload =>
      have untouched (accepted : before.history.acceptedTerminal ≠ none) :
          (before.receive.acceptData before.control.postClose before.limit offset payload).1 =
              before.receive ∧
            ∀ range, (before.receive.acceptData before.control.postClose before.limit offset
              payload).2 ≠ .delivers range := by
        have on : before.control.remoteTerminal = true :=
          set.trans (Option.isSome_iff_ne_none.mpr accepted)
        have ends : offset + payload.length ≤ before.receive.recvNext ∨
            before.control.postClose = true ∨ before.limit < offset + payload.length := by
          simp only [endsAtTerminal, held, decide_eq_true_eq] at respects
          exact respects on
        rcases ends with old | refuses
        · exact Receiving.acceptData_old old
        · obtain ⟨err, same, _⟩ := Receiving.acceptData_refused refuses
          rw [same]
          exact ⟨rfl, fun _ => by rintro ⟨⟩⟩
      refine ⟨fun offset' accepted => ?_, fun accepted => ?_, fun accepted range now => ?_⟩
      · have some_ : before.history.acceptedTerminal = some offset' := accepted
        exact (Receiving.acceptData_recvNext _ _ _ _ _).trans (final.recvNext _ some_)
      · rw [receiveData, goto]
        rw [(untouched accepted).1]
        exact final.drained accepted
      rw [receiveData, goto_phase_self] at now
      have never := (untouched accepted).2
      generalize (before.receive.acceptData before.control.postClose before.limit offset
        payload).2 = progress at now never
      cases progress with
      | delivers range' => exact never range' rfl
      | _ => cases now
    | acknowledged offset terminal confirmation plain named =>
      have history := receiveAcknowledgement_history config before attachment.generation
        offset terminal
      obtain ⟨receive, idle⟩ := receiveAcknowledgement_receive config before
        attachment.generation offset terminal
      constructor
      · rw [history, receive]
        exact final.recvNext
      · rw [history, receive]
        exact final.drained
      · exact fun _ => idle
    | terminal offset bounded =>
      unfold receiveTerminal
      split
      · exact refused _
      rename_i matching
      have same : offset = before.receive.recvNext := Decidable.not_not.mp matching
      have empty : before.receive.pending = [] := by
        simp only [endsAtTerminal, held, decide_eq_true_eq] at respects
        exact respects same
      refine ⟨fun offset' accepted => ?_, fun _ => empty, fun _ range now => ?_⟩
      · simp only [goto] at accepted ⊢
        split at accepted
        · exact final.recvNext _ accepted
        · cases accepted
          exact same.symm
      · rw [goto_phase_self] at now
        split at now <;> cases now
    | confirmed offset terminal bounded named =>
      exact ⟨final.recvNext, final.drained, fun _ _ => by rw [goto_phase_self]; rintro ⟨⟩⟩
    | _ => exact refused _
  · have accepted := frame.acceptedTerminal process
    have receive (some_ : before.history.acceptedTerminal ≠ none) :
        after.receive = before.receive := by
      refine frame.receive (Bool.eq_false_iff.mpr fun receives => ?_)
      cases event with
      | process => exact process rfl
      | applicationWrites =>
        obtain ⟨range, delivering⟩ := step_delivers stepped rfl
        exact final.quiet some_ range delivering
      | _ => cases receives
    refine ⟨fun offset now => ?_, fun now => ?_, fun now => ?_⟩
    · rw [accepted] at now
      rw [receive (by rw [now]; rintro ⟨⟩)]
      exact final.recvNext offset now
    · rw [accepted] at now
      rw [receive now]
      exact final.drained now
    · rw [accepted] at now
      exact step_delivering stepped process (final.quiet now)

end Steps

theorem final_step (set : RemoteTerminalSet before) (final : Final before)
    (respects : before.endsAtTerminal event) : FinalStep config before event := by
  intro offset next accepted stepped
  have some_ : before.history.acceptedTerminal ≠ none := by
    rw [accepted]
    nofun
  refine ⟨step_output stepped (final.quiet some_), ?_⟩
  rintro attachment generation start payload rfl held beyond
  obtain ⟨attachment', record, held', handled⟩ := step_process stepped
  rw [held] at held'
  cases held'
  cases handled with
  | stale err differs violation => exact ⟨err, goto_phase_self _ _ _, violation⟩
  | data _ _ =>
    have on : before.control.remoteTerminal = true :=
      set.trans (Option.isSome_iff_ne_none.mpr some_)
    have refuses : before.control.postClose = true ∨ before.limit < start + payload.length := by
      simp only [endsAtTerminal, held, decide_eq_true_eq] at respects
      have final_ := final.recvNext offset accepted
      exact (respects on).resolve_left (by omega)
    obtain ⟨err, same, violation⟩ := Receiving.acceptData_refused refuses
    refine ⟨err, ?_, violation⟩
    rw [receiveData, goto_phase_self, same]
    rfl

/-- **A verified remote Terminal is final for its direction**, over every history
of records from any authenticated peer in which no record carries bytes beyond an
accepted Terminal past the post-close and limit tests: `recvNext` stays at the
Terminal's offset, nothing is held or delivered beyond it, and a Data record that
reaches beyond it fails the stream. -/
theorem accepted_terminal_final (config : Config) (attachment : Attachment) (events : List Event)
    (respects : Along (step config) (fun stream event => stream.endsAtTerminal event)
      (initial config attachment) events) :
    Throughout (step config) Final (initial config attachment) events ∧
      Along (step config) (FinalStep config) (initial config attachment) events := by
  have kept : Throughout (step config)
      (fun stream => Tracked stream ∧ RemoteTerminalSet stream ∧ Final stream)
      (initial config attachment) events := by
    refine respects.throughout ?_
      ⟨initial_tracked config attachment, rfl, initial_final config attachment⟩
    rintro before event after ⟨tracked, set, final⟩ here stepped
    exact ⟨step_tracked stepped tracked, step_remoteTerminalSet stepped tracked set,
      step_final stepped set final here⟩
  refine ⟨kept.imp fun _ all => all.2.2, kept.along ?_ respects⟩
  rintro stream event ⟨_, set, final⟩ here
  exact final_step set final here

/-- The peer sends one byte, its Terminal, and on the same Attachment the byte
again. -/
def replayAfterTerminal : List Event :=
  [.check, .attach .receive, .read (.data 1 0 [8]), .process, .applicationWrites,
    .queueAcknowledgement,
    .check, .attach .receive, .read (.terminal 1 1), .process, .closeInput,
    .check, .attach .receive, .read (.data 1 0 [8]), .process, .queueAcknowledgement]

theorem replayAfterTerminal_final :
    (run (step recoverableConfig)
        (initial recoverableConfig (.mk 1 1)) replayAfterTerminal).isSome = true ∧
      Throughout (step recoverableConfig) Final
        (initial recoverableConfig (.mk 1 1)) replayAfterTerminal :=
  ⟨rfl, (accepted_terminal_final _ _ _ (by decide)).1⟩

/-- The peer sends the byte at offset 1, then a Terminal at offset 0, and after
the Application saw end of input the byte at offset 0. -/
def dataAfterTerminal : List Event :=
  [.check, .attach .receive, .read (.data 1 1 [9]), .process, .queueAcknowledgement,
    .check, .attach .receive, .read (.terminal 1 0), .process, .closeInput,
    .check, .attach .receive, .read (.data 1 0 [8]), .process, .applicationWrites,
    .queueAcknowledgement]

/-- Both bytes are delivered after end of input; the stream has not failed. -/
theorem dataAfterTerminal_delivers :
    ∃ last, run (step recoverableConfig)
        (initial recoverableConfig (.mk 1 1)) dataAfterTerminal = some last ∧
      last.history.acceptedTerminal = some 0 ∧ last.history.inputCloses = 1 ∧
      last.receive.recvNext = 2 ∧ last.history.output = [8, 9] ∧
      last.phase .receive = .idle ∧ last.link.terminal = none ∧ ¬ Final last := by
  refine ⟨_, rfl, rfl, rfl, rfl, rfl, rfl, rfl, ?_⟩
  intro final
  exact absurd (final.recvNext 0 rfl) (by decide)

end Stream

end Ardents.Connection
