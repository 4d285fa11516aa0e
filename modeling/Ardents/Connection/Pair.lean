/-
# Connection.Pair — two Streams and the carriers between them

A `Net` is the two ends of one Service Connection.  Each Attachment is a reliable
in-order carrier in each direction: the records an end has put on it wait there
(`unread`) until the other end takes them, one by one and in order.  A carrier
that fails just stops being read, so whatever was still on it is lost.  An opener
hands out Attachments of the generation it was asked for, and a verified
Continuity exchange returns the state the peer has sent on the same carrier for
the same generation.

`Sound` holds in every state of every history (`throughout_sound`): whatever the
schedule, the losses and the replays, the receiver's Application has the exact
prefix of the sender's input that `recvNext` counts, and the sender never forgets
a byte the receiver has not delivered.
-/
import Ardents.Connection.Honest
import Ardents.Lib.Channels

namespace Ardents.Connection

open Lib Receiving

set_option autoImplicit false

/-- `RoleClient` and `RolePublisher`. -/
inductive Side where
  | client
  | publisher
  deriving DecidableEq, Repr

def Side.peer : Side → Side
  | .client => .publisher
  | .publisher => .client

@[simp] theorem Side.peer_peer (side : Side) : side.peer.peer = side := by
  cases side <;> rfl

theorem Side.peer_ne (side : Side) : side.peer ≠ side := by
  cases side <;> nofun

theorem Side.eq_or_eq_peer (side other : Side) : other = side ∨ other = side.peer := by
  cases side <;> cases other <;> simp [Side.peer]

/-- Both ends, and how many records each end has taken from each carrier. -/
structure Net where
  stream : Side → Stream
  taken : Side → Attachment → Nat

variable {attachment : Attachment} {offset : Nat} {record : StreamRecord} {worker : Worker}

namespace Net

def initial (config : Side → Config) (attachment : Attachment) : Net where
  stream := fun side => Stream.initial (config side) attachment
  taken := fun _ _ => 0

/-- What waits on the carrier for `side`. -/
def unread (net : Net) (side : Side) (attachment : Attachment) : List StreamRecord :=
  waiting (net.stream side.peer).history.log (net.taken side) attachment

/-- The answers the carriers, the opener and the Continuity exchange can give;
everything else is the end's own step. -/
def permits (net : Net) (side : Side) : Stream.Event → Bool
  | .read record =>
    match (net.stream side).phase .receive with
    | .reading attachment => decide ((net.unread side attachment).head? = some record)
    | _ => false
  | .opened worker attachment =>
    match (net.stream side).phase worker with
    | .recovering _ (.opening state) => decide (attachment.generation = state.generation)
    | _ => false
  | .exchange worker peer =>
    match (net.stream side).phase worker with
    | .recovering _ (.exchanging state attachment) =>
      (net.stream side.peer).history.offers.any fun offer =>
        decide (offer.1 = attachment ∧ offer.2.generation = state.generation ∧
          offer.2.sendBase = peer.sendBase ∧ offer.2.sendEnd = peer.sendEnd ∧
          offer.2.receiveNext = peer.receiveNext)
    | _ => false
  | _ => true

/-- A read takes the record off its carrier. -/
def took (net : Net) (side : Side) : Stream.Event → Attachment → Nat
  | .read _ =>
    match (net.stream side).phase .receive with
    | .reading attachment =>
      Function.update (net.taken side) attachment (net.taken side attachment + 1)
    | _ => net.taken side
  | _ => net.taken side

/-- One end takes a step that its surroundings permit. -/
def step (config : Side → Config) (net : Net) (move : Side × Stream.Event) : Option Net :=
  if net.permits move.1 move.2 then
    (Stream.step (config move.1) (net.stream move.1) move.2).map fun next =>
      { stream := Function.update net.stream move.1 next
        taken := Function.update net.taken move.1 (net.took move.1 move.2) }
  else none

variable {config : Side → Config} {net next : Net} {side : Side} {event : Stream.Event}

theorem step_eq_some (stepped : step config net (side, event) = some next) :
    net.permits side event = true ∧
      ∃ after, Stream.step (config side) (net.stream side) event = some after ∧
        next = ⟨Function.update net.stream side after,
          Function.update net.taken side (net.took side event)⟩ := by
  unfold step at stepped
  split at stepped
  · rename_i permitted
    rw [Option.map_eq_some_iff] at stepped
    obtain ⟨after, moved, rfl⟩ := stepped
    exact ⟨permitted, after, moved, rfl⟩
  · cases stepped

/-- A record that is read was put on the carrier by the peer. -/
theorem permits_read (permitted : net.permits side (.read record) = true) :
    ∃ attachment rest, (net.stream side).phase .receive = .reading attachment ∧
      net.unread side attachment = record :: rest := by
  simp only [permits] at permitted
  split at permitted
  · rename_i attachment reading
    rw [decide_eq_true_eq, List.head?_eq_some_iff] at permitted
    obtain ⟨rest, found⟩ := permitted
    exact ⟨attachment, rest, reading, found⟩
  · cases permitted

/-- The state an exchange returns was offered by the peer. -/
theorem permits_exchange {peer : ContinuityPeer}
    (permitted : net.permits side (.exchange worker peer) = true) :
    ∃ failed state attachment offer, (net.stream side).phase worker =
        .recovering failed (.exchanging state attachment) ∧
      (attachment, offer) ∈ (net.stream side.peer).history.offers ∧
      offer.generation = state.generation ∧ offer.sendBase = peer.sendBase ∧
      offer.sendEnd = peer.sendEnd ∧ offer.receiveNext = peer.receiveNext := by
  simp only [permits] at permitted
  split at permitted
  · rename_i failed state attachment exchanging
    rw [List.any_eq_true] at permitted
    obtain ⟨⟨carrier, offer⟩, offered, same⟩ := permitted
    rw [decide_eq_true_eq] at same
    obtain ⟨rfl, fields⟩ := same
    exact ⟨failed, state, carrier, offer, exchanging, offered, fields⟩
  · cases permitted

end Net

/-- Retained bytes of a sequence are retained bytes of every extension of it. -/
theorem Receiving.Holds.mono {source further : Nat → Option UInt8} {receiving : Receiving}
    (holds : Receiving.Holds source receiving)
    (keeps : ∀ offset data, Agrees source offset data → Agrees further offset data) :
    Receiving.Holds further receiving :=
  ⟨holds.window, keeps _ _ holds.recent, fun range member => keeps _ _ (holds.pending range member)⟩

/-- The receive worker has bytes of the sender in hand. -/
def Phase.loaded : Phase → Bool
  | .held _ _ | .delivering _ => true
  | _ => false

theorem Phase.loaded_of_serving {phase : Phase} (idle : phase.serving = false) :
    phase.loaded = false := by
  cases phase <;> first | rfl | cases idle

/-- An acknowledgement moves `sendBase` to its offset, or not at all. -/
theorem acknowledgeLocked_sendBase {send next : Sending}
    (acknowledged : send.acknowledgeLocked offset = some next) :
    next.sendBase = send.sendBase ∨ next.sendBase = offset := by
  unfold Sending.acknowledgeLocked at acknowledged
  (repeat' split at acknowledged) <;> cases acknowledged
  · exact .inl rfl
  · exact .inr rfl

namespace Stream

variable {config : Config} {before after sender receiver : Stream} {event : Event}

/-! ## One direction -/

/-- **What one direction keeps, in every schedule**: the receiver handles only
records of the sender, retains and delivers only the sender's bytes at their
offset, and the sender drops only bytes the receiver has delivered. -/
structure Carries (sender receiver : Stream) : Prop where
  held : ∀ attachment record, receiver.phase .receive = .held attachment record →
    (attachment, record) ∈ sender.history.log
  holds : Receiving.Holds (labelled sender.history.input) receiver.receive
  delivering : ∀ range, receiver.phase .receive = .delivering range →
    range.offset = receiver.receive.recvNext ∧
      Agrees (labelled sender.history.input) range.offset range.data
  acknowledged : sender.send.sendBase ≤ receiver.receive.recvNext
  exchanged : ∀ worker failed state attachment peer,
    sender.phase worker = .recovering failed (.exchanged state attachment peer) →
      peer.receiveNext ≤ receiver.receive.recvNext
  output : receiver.history.output =
    sender.history.input.take receiver.history.output.length
  recvNext_le : receiver.receive.recvNext ≤ receiver.history.output.length
  counted : receiver.history.applicationFailed = false →
    receiver.history.output.length = receiver.receive.recvNext
  stopped : receiver.history.applicationFailed = true →
    ∃ err, receiver.phase .receive = .returned (some err)

theorem initial_carries (config other : Config) (attachment : Attachment) :
    Carries (initial config attachment) (initial other attachment) where
  held := nofun
  holds := initial_holds _
  delivering := nofun
  acknowledged := Nat.le_refl 0
  exchanged := nofun
  output := rfl
  recvNext_le := Nat.le_refl 0
  counted := fun _ => rfl
  stopped := nofun

/-- A receiver that kept its bytes and its output, and has no record in hand that
it did not have. -/
theorem Carries.rest (carries : Carries sender before) (receive : after.receive = before.receive)
    (output : after.history.output = before.history.output)
    (failed : after.history.applicationFailed = before.history.applicationFailed)
    (phase : after.phase .receive = before.phase .receive ∨
      (after.phase .receive).loaded = false ∧
        ∀ err, before.phase .receive ≠ .returned (some err)) : Carries sender after where
  held := by
    intro attachment record held
    rcases phase with same | ⟨idle, _⟩
    · exact carries.held _ _ (same ▸ held)
    · rw [held] at idle
      cases idle
  holds := receive ▸ carries.holds
  delivering := by
    intro range delivering
    rw [receive]
    rcases phase with same | ⟨idle, _⟩
    · exact carries.delivering _ (same ▸ delivering)
    · rw [delivering] at idle
      cases idle
  acknowledged := receive ▸ carries.acknowledged
  exchanged := receive ▸ carries.exchanged
  output := output ▸ carries.output
  recvNext_le := by
    rw [receive, output]
    exact carries.recvNext_le
  counted := by
    rw [failed, output, receive]
    exact carries.counted
  stopped := by
    intro stopped
    obtain ⟨err, at_⟩ := carries.stopped (failed ▸ stopped)
    rcases phase with same | ⟨_, never⟩
    · exact ⟨err, same.trans at_⟩
    · exact absurd at_ (never err)

/-- A receiver in the middle of its work has not seen its Application fail. -/
theorem Carries.working (carries : Carries sender receiver)
    (busy : ∀ err, receiver.phase .receive ≠ .returned (some err)) :
    receiver.history.applicationFailed = false := by
  rw [Bool.eq_false_iff]
  intro failed
  obtain ⟨err, at_⟩ := carries.stopped failed
  exact busy err at_

/-- Handling a record of the sender keeps the direction sound. -/
theorem Carries.process (carries : Carries sender before) (sourced : Sourced sender)
    (stepped : step config before .process = some after) : Carries sender after := by
  obtain ⟨attachment, record, held, handled⟩ := step_process stepped
  have busy : ∀ err, before.phase .receive ≠ .returned (some err) := by
    intro err at_
    rw [held] at at_
    cases at_
  have refused (err : StreamError) : Carries sender (before.refuse err) :=
    carries.rest rfl rfl rfl (.inr ⟨by rw [refuse, goto_phase_self]; rfl, busy⟩)
  cases handled with
  | stale err differs violation => exact refused err
  | confirmed offset terminal bounded named =>
    exact carries.rest rfl rfl rfl (.inr ⟨by rw [goto_phase_self]; rfl, busy⟩)
  | unconfirmed offset terminal bounded differs => exact refused _
  | unreceipted offset bounded differs => exact refused _
  | ended offset err counted expected => exact refused err
  | acknowledged offset terminal confirmation plain named =>
    unfold receiveAcknowledgement
    split
    · exact refused _
    · exact carries.rest rfl rfl rfl (.inr ⟨by rw [goto_phase_self]; rfl, busy⟩)
  | terminal offset bounded =>
    unfold receiveTerminal
    split
    · exact refused _
    · refine carries.rest rfl rfl rfl (.inr ⟨?_, busy⟩)
      rw [goto_phase_self]
      split <;> rfl
  | data offset payload =>
    obtain ⟨_, _, agrees⟩ := sourced.logged _ _ _ _ (carries.held _ _ held)
    generalize accepted : before.receive.acceptData before.control.postClose before.limit offset
      payload = result
    have holds := acceptData_holds carries.holds before.control.postClose before.limit
      agrees
    have next := acceptData_recvNext before.receive before.control.postClose before.limit
      offset payload
    obtain ⟨receiving, progress⟩ := result
    rw [accepted] at holds next
    have moved : before.receiveData offset payload =
        { before with receive := receiving }.goto .receive (progressed progress) := by
      rw [receiveData, accepted]
    rw [moved]
    refine ⟨?_, holds, ?_, by exact next ▸ carries.acknowledged, by exact next ▸ carries.exchanged,
      carries.output, by exact next ▸ carries.recvNext_le, by exact next ▸ carries.counted, ?_⟩
    · intro holder record now
      cases progress <;> cases now
    · intro range now
      cases progress with
      | delivers ready =>
        cases now
        exact acceptData_delivers carries.holds agrees accepted
      | _ => cases now
    · intro failed
      obtain ⟨err, at_⟩ := carries.stopped failed
      exact absurd at_ (busy err)

/-- Handing a range to the Application keeps the direction sound. -/
theorem Carries.applicationWrites (carries : Carries sender before)
    (stepped : step config before .applicationWrites = some after) : Carries sender after := by
  simp only [step, Stream.applicationWrites] at stepped
  split at stepped
  · rename_i range delivering
    cases stepped
    obtain ⟨starts, agrees⟩ := carries.delivering range delivering
    have busy : before.history.applicationFailed = false :=
      carries.working (by rw [delivering]; rintro _ ⟨⟩)
    have holds := delivered_holds carries.holds starts agrees
    have kept := deliverNext_holds holds before.control.postClose
    generalize section_ : (before.receive.delivered range).deliverNext before.control.postClose =
      result at kept ⊢
    have next := deliverNext_recvNext (before.receive.delivered range)
      before.control.postClose
    rw [section_, delivered_recvNext] at next
    obtain ⟨receiving, progress⟩ := result
    dsimp only at kept next ⊢
    have length := carries.counted busy
    have written : before.history.output ++ range.data =
        sender.history.input.take (before.history.output ++ range.data).length := by
      apply Agrees.labelled_zero
      rw [Agrees.append_iff]
      constructor
      · rw [carries.output]
        exact Agrees.labelled_slice sender.history.input 0 _
      · rw [Nat.zero_add, length, ← starts]
        exact agrees
    have total : (before.history.output ++ range.data).length = receiving.recvNext := by
      rw [List.length_append, length, next]
    refine ⟨?_, kept, ?_, ?_, ?_, written, Nat.le_of_eq total.symm, fun _ => total, ?_⟩
    · intro holder record now
      cases progress <;> cases now
    · intro ready now
      cases progress with
      | delivers ready' =>
        cases now
        obtain ⟨begins, pending, shape, _⟩ := deliverNext_delivers section_
        refine ⟨?_, holds.pending _ (by rw [pending]; simp)⟩
        rw [shape]
        exact begins
      | _ => cases now
    · have := carries.acknowledged
      show sender.send.sendBase ≤ receiving.recvNext
      omega
    · intro worker failed state attachment peer exchanged
      have := carries.exchanged worker failed state attachment peer exchanged
      show peer.receiveNext ≤ receiving.recvNext
      omega
    · intro failed
      rw [show before.history.applicationFailed = true from failed] at busy
      cases busy
  · cases stepped

/-- A failing Application has still taken only the sender's bytes. -/
theorem Carries.applicationFails (carries : Carries sender before) {count : Nat}
    (stepped : step config before (.applicationFails count) = some after) :
    Carries sender after := by
  have receive := (step_frame stepped).receive rfl
  obtain ⟨range, delivering, output, failed, returned⟩ := step_applicationFails stepped
  obtain ⟨starts, agrees⟩ := carries.delivering range delivering
  have length := carries.counted (carries.working (by rw [delivering]; nofun))
  refine ⟨fun _ _ now => ?_, receive ▸ carries.holds, fun _ now => ?_, receive ▸ carries.acknowledged,
    receive ▸ carries.exchanged, ?_, ?_, fun working => ?_, fun _ => ⟨_, returned⟩⟩
  · rw [returned] at now
    cases now
  · rw [returned] at now
    cases now
  · rw [output]
    apply Agrees.labelled_zero
    rw [Agrees.append_iff]
    constructor
    · rw [carries.output]
      exact Agrees.labelled_slice sender.history.input 0 _
    · rw [Nat.zero_add, length, ← starts]
      exact agrees.take count
  · rw [receive, output, List.length_append]
    exact Nat.le_add_right_of_le carries.recvNext_le
  · rw [failed] at working
    cases working

/-- **The receiver's steps keep the direction sound**, when what it reads was sent. -/
theorem Carries.receiver_step (carries : Carries sender before) (sourced : Sourced sender)
    (stepped : step config before event = some after)
    (reads : ∀ attachment record, event = .read record → before.phase .receive = .reading attachment →
      (attachment, record) ∈ sender.history.log) : Carries sender after := by
  have frame := step_frame stepped
  by_cases mine : event.worker = some .receive
  · by_cases serves : event.serves = false
    · obtain ⟨_, idle, busy⟩ := step_receive_quiet stepped mine serves
      refine carries.rest ?_ ?_ ?_ (.inr ⟨Phase.loaded_of_serving idle, busy⟩)
      · exact frame.receive (by cases event <;> first | rfl | cases serves)
      · exact frame.output (by cases event <;> first | rfl | cases serves)
      · exact frame.applicationFailed (by cases event <;> first | rfl | cases serves)
    · cases event with
      | process => exact carries.process sourced stepped
      | applicationWrites => exact carries.applicationWrites stepped
      | applicationFails count => exact carries.applicationFails stepped
      | read record =>
        obtain ⟨attachment, reading, _, rfl⟩ := step_read stepped
        have entry := reads attachment record rfl reading
        refine ⟨?_, carries.holds, ?_, carries.acknowledged, carries.exchanged, carries.output,
          carries.recvNext_le, carries.counted, ?_⟩
        · intro holder held now
          cases now
          exact entry
        · intro range now
          cases now
        intro failed
        obtain ⟨err, at_⟩ := carries.stopped failed
        rw [reading] at at_
        cases at_
      | queueAcknowledgement | closeInput | closeInputFails =>
        simp only [step, queueAcknowledgement, closeInput, closeInputFails, refuse] at stepped
        split at stepped <;> cases stepped
        rename_i at_
        refine carries.rest rfl rfl rfl (.inr ⟨by rw [goto_phase_self]; rfl, fun err => ?_⟩)
        rw [at_]
        rintro ⟨⟩
      | _ => exact absurd rfl serves
  · have other : ∀ touched, event.receives = touched → touched = true → False := by
      intro touched same set
      subst same
      cases event <;> first | (cases set; done) | exact mine rfl
    refine carries.rest (frame.receive (Bool.eq_false_iff.mpr (other _ rfl))) ?_ ?_
      (.inl (frame.phase _ mine))
    · exact frame.output (by cases event <;> first | rfl | exact absurd rfl mine)
    · exact frame.applicationFailed (by cases event <;> first | rfl | exact absurd rfl mine)

/-- An exchange that was completed stays completed until it is committed. -/
theorem step_exchanged {failed : Attachment} {peer : ContinuityPeer}
    {state : ContinuityExchange} (stepped : step config before event = some after)
    (now : after.phase worker = .recovering failed (.exchanged state attachment peer)) :
    before.phase worker = .recovering failed (.exchanged state attachment peer) ∨
      event = .exchange worker peer := by
  by_cases recovers : event.recovers = false
  · exact .inl (step_recovering_of stepped recovers now)
  by_cases mine : event.worker = some worker
  · cases event
    all_goals first | exact absurd rfl recovers | skip
    all_goals
      rw [Event.worker, Option.some.injEq] at mine
      subst mine
      simp only [step, enterRecovery, closeFailed, propose, opened, openFails, exchange,
        exchangeFails, commit, retry, abandon, unlessComplete] at stepped
      (repeat' split at stepped) <;> cases stepped <;> rw [goto_phase_self] at now
    all_goals first
      | (cases now; done)
      | (cases now; exact .inr rfl)
      | (unfold resumed at now; split at now <;> cases now)
      | (unfold aborted at now; split at now <;> cases now)
  · exact .inl ((step_frame stepped).phase _ mine ▸ now)

/-- **The sender's steps keep the direction sound**, when the acknowledgements it
handles and the exchanges it completes are the receiver's. -/
theorem Carries.sender_step (carries : Carries before receiver)
    (stepped : step config before event = some after)
    (acknowledgements : ∀ attachment generation offset terminal confirmation,
      before.phase .receive =
        .held attachment (.acknowledgement generation offset terminal confirmation) →
      (config.bounded = true → confirmation = false) → offset ≤ receiver.receive.recvNext)
    (exchanges : ∀ worker peer, event = .exchange worker peer →
      peer.receiveNext ≤ receiver.receive.recvNext) : Carries after receiver where
  held := fun attachment record held =>
    step_log_subset stepped (carries.held attachment record held)
  holds := carries.holds.mono fun _ _ agrees => step_agrees stepped agrees
  delivering := fun range delivering =>
    ⟨(carries.delivering range delivering).1, step_agrees stepped (carries.delivering range delivering).2⟩
  acknowledged := by
    have base := carries.acknowledged
    cases step_sends stepped with
    | stays send _ => exact send ▸ base
    | reads send _ =>
      rw [send]
      exact base
    | advances _ _ send =>
      rw [send]
      exact base
    | acknowledges held plain acknowledged =>
      have le := acknowledgements _ _ _ _ _ held plain
      rcases acknowledgeLocked_sendBase acknowledged with same | same <;> omega
    | rewinds exchanged acknowledged rewound =>
      have le := carries.exchanged _ _ _ _ _ exchanged
      rw [rewound]
      dsimp only
      rcases acknowledgeLocked_sendBase acknowledged with same | same <;> omega
  exchanged := by
    intro worker failed state attachment peer now
    rcases step_exchanged stepped now with had | completes
    · exact carries.exchanged _ _ _ _ _ had
    · exact exchanges worker peer completes
  output := by
    rcases step_history_input stepped with same | ⟨bytes, _, same⟩
    · rw [same]
      exact carries.output
    have fits := congrArg List.length carries.output
    rw [List.length_take] at fits
    rw [same, List.take_append_of_le_length (by omega)]
    exact carries.output
  recvNext_le := carries.recvNext_le
  counted := carries.counted
  stopped := carries.stopped

/-- What an end keeps by itself, whoever its peer is. -/
structure Honest (config : Config) (stream : Stream) : Prop where
  sourced : Sourced stream
  modest : Modest stream
  unmarked : config.bounded = false → Unmarked stream

theorem Honest.tracked (honest : Honest config before) : Tracked before :=
  honest.sourced.flushing.tracked

theorem initial_honest (config : Config) (attachment : Attachment) :
    Honest config (initial config attachment) :=
  ⟨initial_sourced config attachment, initial_modest config attachment,
    fun _ => initial_unmarked config attachment⟩

theorem step_honest (honest : Honest config before) (stepped : step config before event = some after) :
    Honest config after where
  sourced := step_sourced stepped honest.sourced
  modest := step_modest stepped honest.tracked honest.modest
  unmarked := fun counted => step_unmarked stepped counted honest.tracked (honest.unmarked counted)

/-- An acknowledgement of bytes that an honest end has sent is within its
`recvNext`. -/
theorem Honest.acknowledgement_le (honest : Honest config before)
    {generation : Nat} {terminal confirmation : Bool}
    (logged : (attachment, StreamRecord.acknowledgement generation offset terminal confirmation) ∈
      before.history.log) (plain : config.bounded = true → confirmation = false) :
    offset ≤ before.receive.recvNext := by
  obtain rfl : confirmation = false := by
    cases bounded : config.bounded with
    | true => exact plain bounded
    | false => exact (honest.unmarked bounded).logged _ _ _ _ _ logged
  exact honest.modest.logged _ _ _ _ logged

end Stream

namespace Net

open Connection.Stream

variable {config : Side → Config} {net next : Net} {side : Side} {event : Stream.Event}

/-- Both ends run the same protocol, `Run` or `RunBounded`. -/
def SameMode (config : Side → Config) : Prop :=
  ∀ side : Side, (config side).bounded = (config side.peer).bounded

/-- Both ends are honest and both directions sound. -/
structure Sound (config : Side → Config) (net : Net) : Prop where
  honest : ∀ side, Honest (config side) (net.stream side)
  carries : ∀ side : Side, Carries (net.stream side) (net.stream side.peer)

theorem initial_sound (config : Side → Config) (attachment : Attachment) :
    Sound config (initial config attachment) :=
  ⟨fun side => initial_honest (config side) attachment,
    fun side => initial_carries (config side) (config side.peer) attachment⟩

/-- The records an end handles were sent by its peer. -/
theorem Sound.held (sound : Sound config net)
    (held : (net.stream side).phase .receive = .held attachment record) :
    (attachment, record) ∈ (net.stream side.peer).history.log := by
  have carries := sound.carries side.peer
  rw [Side.peer_peer] at carries
  exact carries.held attachment record held

/-- What a read takes was sent by the peer. -/
theorem permits_read_logged (permitted : net.permits side (.read record) = true)
    (reading : (net.stream side).phase .receive = .reading attachment) :
    (attachment, record) ∈ (net.stream side.peer).history.log := by
  obtain ⟨holder, rest, reading', waits⟩ := permits_read permitted
  rw [reading] at reading'
  cases reading'
  apply mem_log_of_waiting
  show record ∈ net.unread side attachment
  rw [waits]
  exact List.mem_cons_self

/-- **Every step of either end keeps both directions sound.** -/
theorem step_sound (mode : SameMode config) (sound : Sound config net)
    (stepped : step config net (side, event) = some next) : Sound config next := by
  obtain ⟨permitted, after, moved, rfl⟩ := step_eq_some stepped
  have peer := Side.peer_ne side
  constructor
  · intro end_
    rcases Side.eq_or_eq_peer side end_ with rfl | rfl
    · simpa using step_honest (sound.honest end_) moved
    · simpa [peer] using sound.honest side.peer
  intro end_
  rcases Side.eq_or_eq_peer side end_ with rfl | rfl
  · have kept : Carries after (net.stream end_.peer) := by
      refine (sound.carries end_).sender_step moved ?_ ?_
      · intro attachment generation offset terminal confirmation held plain
        rw [mode end_] at plain
        exact (sound.honest end_.peer).acknowledgement_le (sound.held held) plain
      rintro worker answer rfl
      obtain ⟨_, _, attachment, offer, _, offered, _, _, _, same⟩ := permits_exchange permitted
      rw [← same]
      exact (sound.honest end_.peer).modest.offers attachment offer offered
    simpa [peer] using kept
  · have carries := sound.carries side.peer
    rw [Side.peer_peer] at carries
    have kept : Carries (net.stream side.peer) after := by
      refine carries.receiver_step (sound.honest side.peer).sourced moved ?_
      rintro attachment record rfl reading
      exact permits_read_logged permitted reading
    simpa [peer] using kept

/-- **Sound in every state of every history.** -/
theorem throughout_sound (mode : SameMode config) (attachment : Attachment)
    (moves : List (Side × Stream.Event)) :
    Throughout (step config) (Sound config) (initial config attachment) moves :=
  throughout_of_invariant (fun _ _ _ sound stepped => step_sound mode sound stepped)
    (initial_sound config attachment) moves

end Net

end Ardents.Connection
