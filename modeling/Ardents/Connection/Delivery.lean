/-
# Connection.Delivery — records arrive in order

Between two honest ends the only thing that can put Data out of order is
`flushAvailable` itself: a pick made before a cutover may be written after it, on
the replacement, ahead of `sendNext` or after the close; and an advance made for a
write on a replaced Attachment makes the next pick skip bytes.  While neither
happens (`flushesInOrder`), what waits on every carrier the receiver can still
read is gapless above what it has (`InOrder`), and `acceptData` refuses nothing
(`ordered_delivery`).  `lateReplay` is a history in which a stale pick is written
after both ends have finished, and the receiver takes the connection down.
-/
import Ardents.Connection.Pair
import Ardents.Connection.Control

namespace Ardents.Connection

open Lib Function

set_option autoImplicit false

namespace StreamRecord

/-- The bytes a record carries or claims to follow, as an interval. -/
def span : StreamRecord → Option (Nat × Nat)
  | .data _ offset payload => some (offset, offset + payload.length)
  | .terminal _ offset => some (offset, offset)
  | .acknowledgement _ _ _ _ => none

/-- `Acknowledgement.TerminalConfirmation`. -/
def isConfirmation : StreamRecord → Bool
  | .acknowledgement _ _ _ confirmation => confirmation
  | _ => false

end StreamRecord

def spans (records : List StreamRecord) : List (Nat × Nat) := records.filterMap StreamRecord.span

/-- Whatever relates the entries of a log in their order relates the record at the
head of a carrier to those behind it, and to those on newer Attachments. -/
theorem pairwise_waiting {log : List (Attachment × StreamRecord)} {taken : Attachment → Nat}
    {relation : Attachment × StreamRecord → Attachment × StreamRecord → Prop}
    (related : log.Pairwise relation) (paced : log.Pairwise Precedes) {attachment other : Attachment}
    {record later : StreamRecord} {rest : List StreamRecord}
    (head : waiting log taken attachment = record :: rest)
    (newer : attachment.generation ≤ other.generation) (member : other = attachment ∧ later ∈ rest ∨
      other ≠ attachment ∧ later ∈ waiting log taken other) :
    relation (attachment, record) (other, later) := by
  rcases member with ⟨rfl, behind⟩ | ⟨ne, waits⟩
  · exact pairwise_behind related head behind
  have first : (attachment, record) ∈ log :=
    mem_log_of_waiting (by rw [head]; exact List.mem_cons_self)
  rcases pairwise_cases (related.and paced) first (mem_log_of_waiting waits) with
    same | ⟨here, _⟩ | ⟨_, precedes⟩
  · cases same
    exact absurd rfl ne
  · exact here
  · -- an entry of a newer Attachment cannot stand before
    exact absurd (precedes.same (Nat.le_antisymm precedes.generation_le newer)) ne

namespace Stream

variable {config : Config} {before after sender receiver : Stream} {event : Event}
  {taken : Attachment → Nat}

/-- How far the bytes go that the receiver has delivered or has in hand. -/
def horizon (receiver : Stream) : Nat :=
  match receiver.phase .receive with
  | .held _ record => max receiver.receive.recvNext record.stop
  | .delivering range => max receiver.receive.recvNext range.stop
  | _ => receiver.receive.recvNext

theorem recvNext_le_horizon (receiver : Stream) : receiver.receive.recvNext ≤ receiver.horizon := by
  unfold horizon
  split
  · exact Nat.le_max_left _ _
  · exact Nat.le_max_left _ _
  · exact Nat.le_refl _

theorem horizon_of_unloaded (unloaded : (receiver.phase .receive).loaded = false) :
    receiver.horizon = receiver.receive.recvNext := by
  unfold horizon
  split <;> first | rfl | simp_all [Phase.loaded]

/-- The receiver has a confirmation of its receipt, in hand or handled. -/
def confirmation (receiver : Stream) : Prop :=
  receiver.control.terminalAckConfirmedGeneration ≠ 0 ∨
    ∃ attachment record, receiver.phase .receive = .held attachment record ∧
      record.isConfirmation = true

/-- The event writes Data only at or below `sendNext` and before the peer's receipt
came in, and advances `sendNext` only for a write on the current Attachment. -/
def flushesInOrder (stream : Stream) : Event → Bool
  | .write .flush =>
    match stream.phase .flush with
    | .admitted _ (.data _ offset _) =>
      decide (offset ≤ stream.send.sendNext) && !stream.control.terminalConfirmationPending
    | _ => true
  | event => stream.advancesOnCurrent event

/-- **One direction in order**: nothing is held out of order, what waits on every
carrier the receiver can still read is gapless above its horizon and not a queue
below it, and after a confirmation no Data waits. -/
structure InOrder (sender receiver : Stream) (taken : Attachment → Nat) : Prop where
  taken_le : ∀ attachment, taken attachment ≤ (wire sender.history.log attachment).length
  empty : receiver.receive.pending = []
  reached : receiver.receive.Reached receiver.horizon
  sent : ∀ bound, (∀ entry ∈ sender.history.log, entry.2.stop ≤ bound) → receiver.horizon ≤ bound
  data : ∀ attachment generation offset payload,
    receiver.phase .receive = .held attachment (.data generation offset payload) →
      offset ≤ receiver.receive.recvNext ∧ receiver.receive.recentAt ≤ offset
  terminal : ∀ attachment generation offset,
    receiver.phase .receive = .held attachment (.terminal generation offset) →
      offset ≤ receiver.receive.recvNext
  gapless : ∀ attachment, receiver.link.current.generation ≤ attachment.generation →
    Gapless receiver.horizon (spans (waiting sender.history.log taken attachment))
  window : ∀ attachment, receiver.link.current.generation ≤ attachment.generation →
    ∀ record ∈ waiting sender.history.log taken attachment, record.isData = true →
      receiver.horizon ≤ record.offset + logicalQueueLimit
  next : sender.send.sendNext ≤
    reach receiver.horizon (spans (waiting sender.history.log taken sender.link.current))
  written : ∀ generation offset payload,
    sender.phase .flush = .written sender.link.current (.data generation offset payload) →
      offset + payload.length ≤
        reach receiver.horizon (spans (waiting sender.history.log taken sender.link.current))
  ending : ∀ generation offset,
    sender.phase .terminal = .admitted sender.link.current (.terminal generation offset) →
      offset ≤ reach receiver.horizon (spans (waiting sender.history.log taken sender.link.current))
  confirmed : receiver.confirmation → ∃ entry ∈ sender.history.log, entry.2.isConfirmation = true
  quiet : receiver.confirmation → ∀ attachment,
    receiver.link.current.generation ≤ attachment.generation →
      ∀ record ∈ waiting sender.history.log taken attachment, record.isData = false
  idle : receiver.control.terminalAckConfirmedGeneration ≠ 0 →
    receiver.horizon = receiver.receive.recvNext ∧
      ∀ attachment record, receiver.phase .receive = .held attachment record → record.isData = false

/-- A receiver that put its record down or holds it still, with its horizon where it was. -/
theorem InOrder.settle (inOrder : InOrder sender before taken)
    (empty : after.receive.pending = []) (reached : after.receive.Reached before.horizon)
    (horizon : after.horizon = before.horizon)
    (current : before.link.current.generation ≤ after.link.current.generation)
    (holds : ∀ attachment record, after.phase .receive = .held attachment record →
      before.phase .receive = .held attachment record ∧ after.receive = before.receive ∧
        after.control.terminalAckConfirmedGeneration = before.control.terminalAckConfirmedGeneration)
    (marked : after.control.terminalAckConfirmedGeneration ≠ 0 →
      before.confirmation ∧ after.horizon = after.receive.recvNext) : InOrder sender after taken := by
  have confirmation : after.confirmation → before.confirmation := by
    rintro (set | ⟨attachment, record, held, confirms⟩)
    · exact (marked set).1
    · exact .inr ⟨attachment, record, (holds _ _ held).1, confirms⟩
  exact {
    taken_le := inOrder.taken_le
    empty := empty
    reached := horizon ▸ reached
    sent := horizon ▸ inOrder.sent
    data := by
      intro attachment generation offset payload held
      obtain ⟨had, receive, _⟩ := holds _ _ held
      rw [receive]
      exact inOrder.data _ _ _ _ had
    terminal := by
      intro attachment generation offset held
      obtain ⟨had, receive, _⟩ := holds _ _ held
      rw [receive]
      exact inOrder.terminal _ _ _ had
    gapless := fun attachment newer => horizon ▸ inOrder.gapless attachment (current.trans newer)
    window := fun attachment newer => horizon ▸ inOrder.window attachment (current.trans newer)
    next := horizon ▸ inOrder.next
    written := horizon ▸ inOrder.written
    ending := horizon ▸ inOrder.ending
    confirmed := fun confirmed => inOrder.confirmed (confirmation confirmed)
    quiet := fun confirmed attachment newer =>
      inOrder.quiet (confirmation confirmed) attachment (current.trans newer)
    idle := by
      refine fun set => ⟨(marked set).2, fun attachment record held => ?_⟩
      obtain ⟨had, _, control⟩ := holds _ _ held
      exact (inOrder.idle (control ▸ set)).2 _ _ had }

/-- A receiver without a record in hand, its bytes as they were. -/
theorem InOrder.rest (inOrder : InOrder sender before taken)
    (receive : after.receive = before.receive) (horizon : before.horizon = before.receive.recvNext)
    (current : before.link.current.generation ≤ after.link.current.generation)
    (unloaded : (after.phase .receive).loaded = false)
    (marked : after.control.terminalAckConfirmedGeneration ≠ 0 → before.confirmation) :
    InOrder sender after taken := by
  have kept : after.horizon = after.receive.recvNext := horizon_of_unloaded unloaded
  refine inOrder.settle (receive ▸ inOrder.empty) (receive ▸ inOrder.reached) ?_ current ?_
    fun set => ⟨marked set, kept⟩
  · rw [kept, receive, horizon]
  · intro attachment record held
    rw [held] at unloaded
    cases unloaded

/-- A step of another worker of the receiver. -/
theorem InOrder.other (inOrder : InOrder sender before taken)
    (receive : after.receive = before.receive)
    (phase : after.phase .receive = before.phase .receive)
    (current : before.link.current.generation ≤ after.link.current.generation)
    (control : after.control.terminalAckConfirmedGeneration =
      before.control.terminalAckConfirmedGeneration) : InOrder sender after taken := by
  have horizon : after.horizon = before.horizon := by
    rw [Stream.horizon, Stream.horizon, phase, receive]
  refine inOrder.settle (receive ▸ inOrder.empty) (receive ▸ inOrder.reached) horizon current
    (fun _ _ held => ⟨phase ▸ held, receive, control⟩) fun set => ⟨.inl (control ▸ set), ?_⟩
  rw [horizon, receive]
  exact (inOrder.idle (control ▸ set)).1

/-- No Data goes out after a confirmation. -/
def Parted (stream : Stream) : Prop :=
  stream.history.log.Pairwise fun first second =>
    first.2.isConfirmation = true → second.2.isData = false

/-! ## The receiver's steps -/

variable {record : StreamRecord} {attachment : Attachment}

/-- What a record at the head of its carrier gives, and what it leaves. -/
theorem gapless_cons {rest : List StreamRecord} {base : Nat}
    (gapless : Gapless base (spans (record :: rest))) :
    (∀ interval, record.span = some interval → interval.1 ≤ base) ∧
      Gapless (max base record.stop) (spans rest) ∧
      reach base (spans (record :: rest)) = reach (max base record.stop) (spans rest) := by
  cases record with
  | data generation offset payload =>
    refine ⟨?_, gapless.2, rfl⟩
    rintro interval ⟨⟩
    exact gapless.1
  | terminal generation offset =>
    have le : offset ≤ base := gapless.1
    have same : max base offset = base := Nat.max_eq_left le
    refine ⟨?_, ?_, ?_⟩
    · rintro interval ⟨⟩
      exact le
    · exact gapless.2.mono (by simp [same])
    · show reach (max base offset) _ = reach (max base 0) _
      rw [same, Nat.max_eq_left (Nat.zero_le _)]
      rfl
  | acknowledgement generation offset terminal confirmation =>
    refine ⟨?_, ?_, ?_⟩
    · rintro interval ⟨⟩
    · exact Gapless.mono gapless (Nat.le_max_left _ _)
    · show reach base (spans rest) = reach (max base 0) _
      rw [Nat.max_eq_left (Nat.zero_le _)]

/-- Taking the next record from the current carrier keeps the direction in order. -/
theorem InOrder.read (inOrder : InOrder sender before taken) (paced : Paced sender) (parted : Parted sender)
    {rest : List StreamRecord} (reading : before.phase .receive = .reading attachment)
    (current : attachment = before.link.current)
    (head : waiting sender.history.log taken attachment = record :: rest) :
    InOrder sender (before.goto .receive (.held attachment record))
      (update taken attachment (taken attachment + 1)) := by
  have unloaded : before.horizon = before.receive.recvNext :=
    horizon_of_unloaded (by rw [reading]; rfl)
  have logged : (attachment, record) ∈ sender.history.log :=
    mem_log_of_waiting (by rw [head]; exact List.mem_cons_self)
  have horizon : (before.goto .receive (.held attachment record)).horizon =
      max before.horizon record.stop := by
    rw [unloaded]
    simp [Stream.horizon, goto]
  have mine : before.link.current.generation ≤ attachment.generation := current ▸ Nat.le_refl _
  have gapless := inOrder.gapless attachment mine
  rw [head] at gapless
  obtain ⟨starts, remains, reaches⟩ := gapless_cons gapless
  -- what waits afterwards waited before, behind the record
  have behind (other : Attachment) (later : StreamRecord)
      (waits : later ∈ waiting sender.history.log
        (update taken attachment (taken attachment + 1)) other) :
      later ∈ waiting sender.history.log taken other ∧
        (other = attachment ∧ later ∈ rest ∨
          other ≠ attachment ∧ later ∈ waiting sender.history.log taken other) := by
    by_cases same : other = attachment
    · subst same
      rw [waiting_update head] at waits
      exact ⟨by rw [head]; exact List.mem_cons_of_mem _ waits, .inl ⟨rfl, waits⟩⟩
    · rw [waiting_update_of_ne same] at waits
      exact ⟨waits, .inr ⟨same, waits⟩⟩
  have further (other : Attachment) :
      reach before.horizon (spans (waiting sender.history.log taken other)) ≤
        reach (max before.horizon record.stop) (spans (waiting sender.history.log
          (update taken attachment (taken attachment + 1)) other)) := by
    by_cases same : other = attachment
    · subst same
      rw [waiting_update head, head, reaches]
    · rw [waiting_update_of_ne same]
      exact reach_mono (Nat.le_max_left _ _) _
  have retained (data : record.isData = true) : before.receive.recentAt ≤ record.offset := by
    have window := inOrder.window attachment mine record (by rw [head]; exact List.mem_cons_self) data
    rcases inOrder.reached.2 with zero | kept <;> omega
  refine ⟨?_, inOrder.empty, ?_, ?_, ?_, ?_, ?_, ?_, ?_, ?_, ?_, ?_, ?_, ?_⟩
  · intro other
    have lt := taken_lt_of_waiting head
    by_cases same : other = attachment
    · subst same
      rw [update_self]
      exact lt
    · rw [update_of_ne same]
      exact inOrder.taken_le other
  · rw [horizon]
    exact inOrder.reached.mono (Nat.le_max_left _ _)
  · intro bound bounds
    rw [horizon]
    exact Nat.max_le.mpr ⟨inOrder.sent bound bounds, bounds _ logged⟩
  · intro holder generation offset payload held
    cases held
    exact ⟨unloaded ▸ starts _ rfl, retained rfl⟩
  · intro holder generation offset held
    cases held
    exact unloaded ▸ starts _ rfl
  · intro other newer
    rw [horizon]
    by_cases same : other = attachment
    · subst same
      rw [waiting_update head]
      exact remains
    · rw [waiting_update_of_ne same]
      exact (inOrder.gapless other newer).mono (Nat.le_max_left _ _)
  · intro other newer later waits data
    obtain ⟨waited, place⟩ := behind other later waits
    rw [horizon]
    refine Nat.max_le.mpr ⟨inOrder.window other newer later waited data, ?_⟩
    exact (pairwise_waiting paced.log paced.log head (current ▸ newer) place).window data
  · rw [horizon]
    exact inOrder.next.trans (further _)
  · intro generation offset payload written
    rw [horizon]
    exact (inOrder.written _ _ _ written).trans (further _)
  · intro generation offset admitted
    rw [horizon]
    exact (inOrder.ending _ _ admitted).trans (further _)
  · rintro (marked | ⟨holder, held, now, confirmation⟩)
    · exact inOrder.confirmed (.inl marked)
    · cases now
      exact ⟨_, logged, confirmation⟩
  · rintro (marked | ⟨holder, held, now, confirmation⟩) other newer later waits
    · exact inOrder.quiet (.inl marked) other newer later (behind other later waits).1
    cases now
    exact pairwise_waiting parted paced.log head (current ▸ newer) (behind other later waits).2
      confirmation
  · intro marked
    have plain := inOrder.quiet (.inl marked) attachment mine record
      (by rw [head]; exact List.mem_cons_self)
    refine ⟨?_, ?_⟩
    · cases record <;> first | exact Nat.max_eq_left (Nat.zero_le _) | cases plain
    intro holder held now
    cases now
    exact plain

/-- What the receiver knows about the Data it has in hand: it is within its limit,
and the connection is not closed. -/
structure Admits (sender receiver : Stream) : Prop where
  limit : receiver.control.postClose = false → sender.send.sendEnd ≤ receiver.limit
  small : sender.send.sendEnd < 2 ^ 64
  closed : receiver.control.postClose = true →
    receiver.control.terminalAckConfirmedGeneration ≠ 0

section Receiver

variable (inOrder : InOrder sender before taken) (carries : Carries sender before)

include inOrder carries

/-- **Data in order is accepted.** -/
theorem InOrder.acceptData (sourced : Sourced sender) (admits : Admits sender before)
    {generation offset : Nat} {payload : List UInt8}
    (held : before.phase .receive = .held attachment (.data generation offset payload)) :
    before.receive.acceptData before.control.postClose before.limit offset payload =
        (before.receive, .acknowledges before.receive.recvNext) ∧
        offset + payload.length ≤ before.receive.recvNext ∨
      ∃ stored, before.receive.acceptData before.control.postClose before.limit offset payload =
          (stored, .delivers ⟨before.receive.recvNext,
            payload.drop (before.receive.recvNext - offset)⟩) ∧
        stored.pending = [] ∧ stored.Reached before.horizon ∧
        before.receive.recvNext < offset + payload.length := by
  have opened : before.control.postClose = false := by
    rw [Bool.eq_false_iff]
    intro closed
    have never := (inOrder.idle (admits.closed closed)).2 _ _ held
    cases never
  obtain ⟨nonempty, small, agrees⟩ := sourced.logged _ _ _ _ (carries.held _ _ held)
  have within := agrees.labelled_le nonempty
  rw [sourced.sendEnd] at within
  have bound := admits.small
  obtain ⟨starts, retained⟩ := inOrder.data _ _ _ _ held
  have room : maximumDataBytes ≤ logicalQueueLimit := by decide
  have ends : offset + payload.length ≤ before.horizon := by
    simp only [horizon, held, StreamRecord.stop]
    exact Nat.le_max_right _ _
  rw [opened]
  exact Receiving.acceptData_inOrder carries.holds agrees inOrder.empty nonempty (small.trans room)
    (by omega) (within.trans (admits.limit opened)) starts retained inOrder.reached ends

/-- Handling a record in order keeps the direction in order, or ends the worker. -/
theorem InOrder.process (sourced : Sourced sender) (admits : Admits sender before)
    (stepped : step config before .process = some after) :
    (∃ err, after.phase .receive = .returned (some err)) ∨ InOrder sender after taken := by
  obtain ⟨attachment, record, held, handled⟩ := step_process stepped
  have refused (err : StreamError) :
      ∃ err', (before.refuse err).phase .receive = .returned (some err') :=
    ⟨err, goto_phase_self _ _ _⟩
  have bare (plain : record.isData = false) : before.horizon = before.receive.recvNext := by
    simp only [horizon, held]
    cases record <;> first | exact Nat.max_eq_left (Nat.zero_le _) | cases plain
  cases handled with
  | stale err differs violation => exact .inl (refused err)
  | unconfirmed offset terminal bounded differs => exact .inl (refused _)
  | unreceipted offset bounded differs => exact .inl (refused _)
  | ended offset err counted expected => exact .inl (refused err)
  | confirmed offset terminal bounded named =>
    right
    exact inOrder.rest rfl (bare rfl) (Nat.le_refl _) (by rw [goto_phase_self]; rfl)
      fun _ => .inr ⟨attachment, _, held, rfl⟩
  | acknowledged offset terminal confirmation plain named =>
    unfold receiveAcknowledgement
    split
    · exact .inl (refused _)
    right
    refine inOrder.rest rfl (bare rfl) (Nat.le_refl _) (by rw [goto_phase_self]; rfl)
      fun marked => .inl ?_
    (repeat' split at marked) <;> exact marked
  | terminal offset bounded =>
    unfold receiveTerminal
    split
    · exact .inl (refused _)
    right
    refine inOrder.rest rfl (bare rfl) (Nat.le_refl _) ?_ .inl
    rw [goto_phase_self]
    split <;> rfl
  | data offset payload =>
    right
    rcases inOrder.acceptData carries sourced admits held with ⟨accepted, old⟩ |
      ⟨stored, accepted, empty, reached, fresh⟩
    · rw [receiveData, accepted]
      refine inOrder.rest rfl ?_ (Nat.le_refl _) (by rw [goto_phase_self]; rfl) .inl
      simp only [horizon, held, StreamRecord.stop]
      exact Nat.max_eq_left old
    have recvNext : stored.recvNext = before.receive.recvNext := by
      have kept := Receiving.acceptData_recvNext before.receive before.control.postClose
        before.limit offset payload
      rw [accepted] at kept
      exact kept
    obtain ⟨starts, _⟩ := inOrder.data _ _ _ _ held
    rw [receiveData, accepted]
    refine inOrder.settle empty reached ?_ (Nat.le_refl _) ?_ fun set => ?_
    · simp only [horizon, goto_phase_self, progressed, held, StreamRecord.stop,
        ReceivedRange.stop, List.length_drop]
      simp only [goto, recvNext]
      omega
    · intro holder record now
      cases now
    · have never := (inOrder.idle set).2 _ _ held
      cases never

/-- Handing the range in hand to the Application keeps the direction in order. -/
theorem InOrder.applicationWrites {range : ReceivedRange}
    (delivering : before.phase .receive = .delivering range) :
    (before.receive.delivered range).deliverNext before.control.postClose =
        (before.receive.delivered range,
          .acknowledges (before.receive.recvNext + range.data.length)) ∧
      (before.receive.delivered range).Reached before.horizon ∧
      before.horizon = before.receive.recvNext + range.data.length := by
  have starts := (carries.delivering range delivering).1
  have horizon : before.horizon = before.receive.recvNext + range.data.length := by
    simp only [Stream.horizon, delivering, ReceivedRange.stop, starts]
    omega
  refine ⟨?_, ?_, horizon⟩
  · unfold Receiving.deliverNext
    rw [Receiving.delivered_pending, inOrder.empty]
    rfl
  · exact Receiving.delivered_reached carries.holds inOrder.reached inOrder.empty
      (Nat.le_of_eq horizon.symm)

/-- **The receiver's steps keep the direction in order** until its worker fails. -/
theorem InOrder.receiver_step (sourced : Sourced sender) (paced : Paced sender)
    (parted : Parted sender) (admits : Admits sender before) (tracked : Tracked before)
    (stepped : step config before event = some after) {took : Attachment → Nat}
    (reads : ∀ attachment record, event = .read record → before.phase .receive = .reading attachment →
      (∃ rest, waiting sender.history.log taken attachment = record :: rest) ∧
        took = update taken attachment (taken attachment + 1))
    (rests : (∀ record, event ≠ .read record) → took = taken) :
    (∃ err, after.phase .receive = .returned (some err)) ∨ InOrder sender after took := by
  have frame := step_frame stepped
  have current := step_generation_le stepped
  have control := step_controlFrame stepped tracked
  by_cases mine : event.worker = some .receive
  · by_cases serves : event.serves = false
    · right
      rw [rests (by rintro record rfl; cases serves)]
      obtain ⟨began, ended, _⟩ := step_receive_quiet stepped mine serves
      have other : event ≠ .process := by
        rintro rfl
        cases serves
      refine inOrder.rest (frame.receive ?_) (horizon_of_unloaded (Phase.loaded_of_serving began))
        current (Phase.loaded_of_serving ended) fun marked => .inl ?_
      · cases event <;> first | rfl | cases serves
      · rw [control.terminalAckConfirmedGeneration other] at marked
        exact marked
    · cases event with
      | read record =>
        right
        obtain ⟨attachment, reading, opened, rfl⟩ := step_read stepped
        obtain ⟨⟨rest, head⟩, rfl⟩ := reads attachment record rfl reading
        have known := tracked.on reading
        exact inOrder.read paced parted reading (Known.eq_of_open known opened) head
      | process =>
        rw [rests (by rintro _ ⟨⟩)]
        exact inOrder.process carries sourced admits stepped
      | applicationWrites =>
        right
        rw [rests (by rintro _ ⟨⟩)]
        simp only [step, Stream.applicationWrites] at stepped
        split at stepped
        · rename_i range delivering
          obtain ⟨section_, reached, horizon⟩ := inOrder.applicationWrites carries delivering
          rw [section_] at stepped
          cases stepped
          refine inOrder.settle inOrder.empty reached ?_ (Nat.le_refl _) ?_ fun set => ⟨.inl set, ?_⟩
          · rw [horizon_of_unloaded (by rw [goto_phase_self]; rfl), horizon]
            rfl
          · intro holder record now
            cases now
          · exact horizon_of_unloaded (by rw [goto_phase_self]; rfl)
        · cases stepped
      | applicationFails count =>
        obtain ⟨_, _, _, _, returned⟩ := step_applicationFails stepped
        exact .inl ⟨_, returned⟩
      | closeInputFails =>
        simp only [step, closeInputFails, refuse] at stepped
        split at stepped <;> cases stepped
        exact .inl ⟨_, goto_phase_self _ _ _⟩
      | queueAcknowledgement | closeInput =>
        right
        rw [rests (by rintro _ ⟨⟩)]
        simp only [step, queueAcknowledgement, closeInput] at stepped
        split at stepped <;> cases stepped
        rename_i at_
        exact inOrder.rest rfl (horizon_of_unloaded (by rw [at_]; rfl)) (Nat.le_refl _)
          (by rw [goto_phase_self]; rfl) .inl
      | _ => exact absurd rfl serves
  · right
    rw [rests (by rintro record rfl; exact mine rfl)]
    refine inOrder.other (frame.receive ?_) (frame.phase _ mine) current
      (control.terminalAckConfirmedGeneration ?_)
    · cases event <;> first | rfl | exact absurd rfl mine
    · rintro rfl
      exact mine rfl

end Receiver

/-! ## The sender's steps -/

/-- How far the receiver's bytes and what waits on the sender's current carrier go. -/
def ahead (sender receiver : Stream) (taken : Attachment → Nat) : Nat :=
  reach receiver.horizon (spans (waiting sender.history.log taken sender.link.current))

section Steps

variable (stepped : step config before event = some after)

include stepped

/-- A flush has written its record only by writing it. -/
theorem step_flush_written (now : after.phase .flush = .written attachment record)
    (other : event.writes = false) : before.phase .flush = .written attachment record := by
  by_cases mine : event.worker = some .flush
  · rcases step_flush stepped mine with ⟨_, none_⟩ | rfl | ⟨_, _, _, at_⟩ | ⟨_, _, _, _, at_⟩ |
      ⟨_, _, rfl, _, _⟩
    · rw [now] at none_
      cases none_
    · obtain ⟨_, _, rfl⟩ := step_pick stepped
      cases now
    · rw [now] at at_
      cases at_
    · rw [now] at at_
      cases at_
    · cases other
  · rw [(step_frame stepped).phase _ mine] at now
    exact now

/-- Where a step leaves what is ahead of the receiver: a cutover finds an empty
carrier, everything else but a write keeps it. -/
theorem step_ahead (writes : event.writes = false) : after.link.current = before.link.current ∧
        ahead after receiver taken = ahead before receiver taken ∨
      after.send.sendNext = after.send.sendBase ∧
        ∀ attachment, Known before attachment → attachment ≠ after.link.current := by
  have log := (step_frame stepped).log writes
  rcases step_current stepped with same | ⟨newer, _, rewound, _⟩
  · exact .inl ⟨same, by rw [ahead, ahead, log, same]⟩
  right
  refine ⟨rewound, ?_⟩
  rintro attachment known rfl
  have older := known.generation_le
  omega

end Steps

theorem recvNext_le_ahead (sender receiver : Stream) (taken : Attachment → Nat) :
    receiver.receive.recvNext ≤ ahead sender receiver taken :=
  (recvNext_le_horizon receiver).trans (le_reach _ _)

/-- A step of the sender that puts nothing on a carrier. -/
theorem InOrder.unwritten (inOrder : InOrder before receiver taken) (sourced : Sourced before)
    (terminating : Terminating config before) (carries : Carries after receiver)
    (stepped : step config before event = some after) (fresh : before.flushesInOrder event = true)
    (writes : event.writes = false) : InOrder after receiver taken := by
  have tracked := sourced.flushing.tracked
  have ordered := sourced.flushing.ordered
  have log := (step_frame stepped).log writes
  refine ⟨log ▸ inOrder.taken_le, inOrder.empty, inOrder.reached, log ▸ inOrder.sent, inOrder.data,
    inOrder.terminal, log ▸ inOrder.gapless, log ▸ inOrder.window, ?_, ?_, ?_,
    log ▸ inOrder.confirmed, log ▸ inOrder.quiet, inOrder.idle⟩
  · show after.send.sendNext ≤ ahead after receiver taken
    have base := carries.acknowledged.trans (recvNext_le_ahead after receiver taken)
    rcases step_ahead stepped writes with ⟨_, same⟩ | ⟨rewound, _⟩
    · cases step_sends stepped with
      | stays send _ =>
        rw [send, same]
        exact inOrder.next
      | reads send _ =>
        rw [send, same]
        exact inOrder.next
      | advances written mine send =>
        simp only [flushesInOrder, advancesOnCurrent, written, decide_eq_true_eq] at fresh
        rw [send, same]
        exact inOrder.written _ _ _ (fresh mine ▸ written)
      | acknowledges _ _ acknowledged =>
        rcases (ordered.acknowledgeLocked acknowledged).2.2.2 with still | back
        · rw [still, same]
          exact inOrder.next
        · rw [back]
          exact base
      | rewinds _ _ rewound =>
        rw [rewound] at base ⊢
        exact base
    · rw [rewound]
      exact base
  · intro generation offset payload written
    show _ ≤ ahead after receiver taken
    have had := step_flush_written stepped written writes
    rcases step_ahead stepped writes with ⟨current, same⟩ | ⟨_, replaced⟩
    · rw [same]
      exact inOrder.written generation offset payload (current ▸ had)
    · have known := tracked.on had
      exact absurd rfl (replaced _ known.1)
  · intro generation offset admitted
    show _ ≤ ahead after receiver taken
    rcases step_terminal_admitted stepped tracked admitted with had | ⟨_, sent, rfl⟩
    · rcases step_ahead stepped writes with ⟨current, same⟩ | ⟨_, replaced⟩
      · rw [same]
        exact inOrder.ending generation offset (current ▸ had)
      · have known := tracked.on had
        exact absurd rfl (replaced _ known.1)
    · have ends := (step_terminating_carried tracked ordered terminating stepped
        (by rw [admitted]; rfl)).1
      have send := (step_frame stepped).send rfl
      rw [send] at ends
      have next := inOrder.next
      have same : ahead after receiver taken = ahead before receiver taken := by
        rw [ahead, ahead, log, (step_frame stepped).current rfl]
      rw [same]
      have total : offset = before.send.sendEnd := ends
      exact (total ▸ sent).trans next

variable {worker : Worker}

/-- A Data record that goes out in order goes out before any confirmation. -/
theorem Confirming.unconfirmed (confirming : Confirming before) (tracked : Tracked before)
    (admitted : before.phase worker = .admitted attachment record) (data : record.isData = true)
    (fresh : before.flushesInOrder (.write worker) = true) (entry : Attachment × StreamRecord)
    (member : entry ∈ before.history.log) : entry.2.isConfirmation = false := by
  obtain rfl := (tracked.writer admitted).2.1 data
  cases record with
  | data generation offset payload =>
    simp only [flushesInOrder, admitted, Bool.and_eq_true, Bool.not_eq_true'] at fresh
    obtain ⟨carrier, entry⟩ := entry
    cases entry with
    | acknowledgement generation offset terminal confirmation =>
      rw [Bool.eq_false_iff]
      rintro rfl
      rw [confirming.logged _ _ _ _ member] at fresh
      cases fresh.2
    | _ => rfl
  | _ => cases data

/-- A record put on the current carrier waits behind what the receiver can reach. -/
theorem InOrder.write (inOrder : InOrder before receiver taken) (sourced : Sourced before)
    (paced : Paced before) (confirming : Confirming before)
    (stepped : step config before (.write worker) = some after)
    (fresh : before.flushesInOrder (.write worker) = true) : InOrder after receiver taken := by
  have tracked := sourced.flushing.tracked
  obtain ⟨attachment, record, admitted, opened, rfl⟩ := step_write stepped
  have known := tracked.on admitted
  obtain rfl : attachment = before.link.current := known.1.eq_of_open opened
  have waits := waiting_append (inOrder.taken_le before.link.current) record
  have kept (other : Attachment) (ne : other ≠ before.link.current) :
      waiting (before.history.log ++ [(before.link.current, record)]) taken other =
        waiting before.history.log taken other :=
    waiting_append_of_ne ne record
  have begins (interval : Nat × Nat) (span : record.span = some interval) :
      interval.1 ≤ ahead before receiver taken := by
    cases record with
    | data generation offset payload =>
      obtain rfl := (tracked.writer admitted).2.1 rfl
      cases span
      simp only [flushesInOrder, admitted, Bool.and_eq_true, decide_eq_true_eq] at fresh
      exact fresh.1.trans inOrder.next
    | terminal generation offset =>
      obtain rfl := (tracked.writer admitted).1 rfl
      cases span
      exact inOrder.ending generation offset admitted
    | acknowledgement => cases span
  have grows : ahead before receiver taken ≤ reach receiver.horizon (spans (waiting
      (before.history.log ++ [(before.link.current, record)]) taken before.link.current)) := by
    rw [waits, spans, List.filterMap_append, reach_append]
    exact le_reach _ _
  have silent (data : record.isData = true) : ¬ receiver.confirmation := by
    intro confirmation
    obtain ⟨entry, logged, marked⟩ := inOrder.confirmed confirmation
    rw [confirming.unconfirmed tracked admitted data fresh entry logged] at marked
    cases marked
  refine ⟨?_, inOrder.empty, inOrder.reached, ?_, inOrder.data, inOrder.terminal, ?_, ?_, ?_, ?_, ?_,
    ?_, ?_, inOrder.idle⟩
  · intro other
    refine (inOrder.taken_le other).trans ?_
    simp [goto, wire_append]
  · intro bound bounds
    exact inOrder.sent bound fun entry member => bounds entry (List.mem_append_left _ member)
  · intro other newer
    by_cases same : other = before.link.current
    · subst same
      simp only [goto]
      rw [waits, spans, List.filterMap_append, gapless_append]
      refine ⟨inOrder.gapless _ newer, ?_⟩
      cases found : record.span with
      | none => simp [found, Gapless]
      | some interval => simpa [found, Gapless, ahead, spans] using begins interval found
    · simp only [goto]
      rw [kept other same]
      exact inOrder.gapless other newer
  · intro other newer later member data
    simp only [goto] at member
    by_cases same : other = before.link.current
    · subst same
      rw [waits, List.mem_append, List.mem_singleton] at member
      rcases member with older | rfl
      · exact inOrder.window _ newer later older data
      cases later with
      | data generation offset payload =>
        obtain rfl := (tracked.writer admitted).2.1 rfl
        exact inOrder.sent _ (paced.picked offset payload (by rw [admitted]; rfl))
      | _ => cases data
    · rw [kept other same] at member
      exact inOrder.window other newer later member data
  · exact inOrder.next.trans grows
  · intro generation offset payload written
    by_cases mine : worker = .flush
    · subst mine
      cases written
      simp only [goto]
      rw [waits, spans, List.filterMap_append, reach_append]
      simp [StreamRecord.span, reach]
    · rw [goto_phase_of_ne _ _ (Ne.symm mine)] at written
      exact (inOrder.written generation offset payload written).trans grows
  · intro generation offset now
    by_cases mine : worker = .terminal
    · subst mine
      cases now
    · rw [goto_phase_of_ne _ _ (Ne.symm mine)] at now
      exact (inOrder.ending generation offset now).trans grows
  · intro confirmation
    obtain ⟨entry, member, marked⟩ := inOrder.confirmed confirmation
    exact ⟨entry, List.mem_append_left _ member, marked⟩
  · intro confirmation other newer later member
    simp only [goto] at member
    by_cases same : other = before.link.current
    · subst same
      rw [waits, List.mem_append, List.mem_singleton] at member
      rcases member with older | rfl
      · exact inOrder.quiet confirmation _ newer later older
      · rw [Bool.eq_false_iff]
        exact fun data => silent data confirmation
    · rw [kept other same] at member
      exact inOrder.quiet confirmation other newer later member

/-- **The sender's steps keep the direction in order** when its flush does. -/
theorem InOrder.sender_step (inOrder : InOrder before receiver taken) (sourced : Sourced before)
    (paced : Paced before) (confirming : Confirming before)
    (terminating : Terminating config before) (carries : Carries after receiver)
    (stepped : step config before event = some after)
    (fresh : before.flushesInOrder event = true) : InOrder after receiver taken := by
  by_cases writes : event.writes = false
  · exact inOrder.unwritten sourced terminating carries stepped fresh writes
  · cases event with
    | write worker => exact inOrder.write sourced paced confirming stepped fresh
    | _ => exact absurd rfl writes

/-! ## What an end keeps by itself -/

/-- `Run` has no tail. -/
structure Counting (config : Config) (stream : Stream) : Prop where
  main : stream.main = .waiting
  postClose : stream.control.postClose = false
  limit : stream.limit = config.receiveLimit

/-- Everything one end keeps, whoever its peer is. -/
structure Regular (config : Config) (stream : Stream) : Prop where
  honest : Honest config stream
  metered : Metered config stream
  paced : Paced stream
  terminating : Terminating config stream
  confirming : Confirming stream
  controlled : config.bounded = true → Controlled config stream
  counting : config.bounded = false → Counting config stream

theorem initial_regular (config : Config) (attachment : Attachment) :
    Regular config (initial config attachment) where
  honest := initial_honest config attachment
  metered := initial_metered config attachment
  paced := initial_paced config attachment
  terminating := initial_terminating config attachment
  confirming := initial_confirming config attachment
  controlled := fun _ => initial_controlled config attachment
  counting := fun _ => ⟨rfl, rfl, rfl⟩

section Parts

variable (stepped : step config before event = some after)

include stepped

theorem step_parted (tracked : Tracked before) (confirming : Confirming before)
    (parted : Parted before) (fresh : before.flushesInOrder event = true) : Parted after := by
  by_cases writes : event.writes = false
  · rw [Parted, (step_frame stepped).log writes]
    exact parted
  cases event with
  | write worker =>
    obtain ⟨attachment, record, admitted, _, rfl⟩ := step_write stepped
    refine List.pairwise_append.mpr ⟨parted, List.pairwise_singleton _ _, ?_⟩
    rintro entry member later new marked
    rw [List.mem_singleton] at new
    subst new
    rw [Bool.eq_false_iff]
    intro data
    rw [confirming.unconfirmed tracked admitted data fresh entry member] at marked
    cases marked
  | _ => exact absurd rfl writes

theorem step_counting (counted : config.bounded = false) (tracked : Tracked before)
    (counting : Counting config before) : Counting config after := by
  have frame := step_frame stepped
  have control := step_controlFrame stepped tracked
  have main := counting.main
  cases event with
  | takeOutcome => simp [step, takeOutcome, counted] at stepped
  | checkOutcome => simp [step, checkOutcome, main] at stepped
  | startTail => simp [step, startTail, main] at stepped
  | join => simp [step, join, main] at stepped
  | tailReceive => simp [step, tailReceive, counting.postClose] at stepped
  | _ =>
    exact ⟨(frame.main rfl).trans main, (control.postClose (by rintro ⟨⟩)).trans counting.postClose,
      (frame.limit (by rintro ⟨⟩)).trans counting.limit⟩

theorem step_regular (regular : Regular config before) : Regular config after := by
  have sourced := regular.honest.sourced
  have tracked := regular.honest.tracked
  exact {
    honest := step_honest regular.honest stepped
    metered := step_metered regular.metered stepped
    paced := step_paced regular.metered stepped sourced regular.paced
    terminating := step_terminating tracked sourced.flushing.ordered regular.terminating stepped
    confirming := step_confirming stepped tracked regular.confirming
    controlled := fun bounded =>
      step_controlled bounded sourced.flushing (regular.controlled bounded) stepped
    counting := fun counted => step_counting stepped counted tracked (regular.counting counted) }

end Parts

/-- An end knows when the connection is closed, and its limit until then. -/
theorem Regular.admits {other : Config} (regular : Regular config receiver)
    (peer : Regular other sender) (fits : other.sendLimit ≤ config.receiveLimit) :
    Admits sender receiver where
  limit := by
    intro opened
    have limit : receiver.limit = config.receiveLimit := by
      cases bounded : config.bounded with
      | true => exact (regular.controlled bounded).concluding.limit opened
      | false => exact (regular.counting bounded).limit
    rw [limit]
    exact peer.metered.limit.trans fits
  small := by
    have bound := peer.metered.limit
    have lt := other.sendLimit_lt
    omega
  closed := by
    intro closed
    cases bounded : config.bounded with
    | true =>
      have concluding := (regular.controlled bounded).concluding
      obtain ⟨recoverable, left⟩ := concluding.postClose closed
      exact ((concluding.complete (.inr left)).2.2.2 (by simp [Config.receipts, recoverable])).1
    | false =>
      rw [(regular.counting bounded).postClose] at closed
      cases closed

end Stream

namespace Net

open Connection.Stream

variable {config : Side → Config} {net next : Net} {side : Side} {event : Stream.Event}

/-- Both ends run the same protocol, and each may send what the other may receive. -/
structure Matched (config : Side → Config) : Prop where
  mode : SameMode config
  limits : ∀ side : Side, (config side).sendLimit ≤ (config side.peer).receiveLimit

/-- The move keeps its end's Data in order. -/
def flushesInOrder (net : Net) (move : Side × Stream.Event) : Bool :=
  (net.stream move.1).flushesInOrder move.2

/-- Both directions are in order, each until its receiver fails. -/
structure Orderly (config : Side → Config) (net : Net) : Prop where
  sound : Sound config net
  regular : ∀ side, Regular (config side) (net.stream side)
  parted : ∀ side, Parted (net.stream side)
  inOrder : ∀ side : Side, (∃ err, (net.stream side.peer).phase .receive = .returned (some err)) ∨
    InOrder (net.stream side) (net.stream side.peer) (net.taken side.peer)

theorem initial_inOrder (config other : Config) (attachment : Attachment) :
    InOrder (Stream.initial config attachment) (Stream.initial other attachment) fun _ => 0 where
  taken_le := fun _ => Nat.zero_le _
  empty := rfl
  reached := ⟨Nat.le_refl 0, .inl rfl⟩
  sent := fun _ _ => Nat.zero_le _
  data := nofun
  terminal := nofun
  gapless := fun _ _ => trivial
  window := nofun
  next := Nat.zero_le _
  written := nofun
  ending := nofun
  confirmed := fun never => never.elim (absurd rfl) fun ⟨_, _, now, _⟩ => nomatch now
  quiet := nofun
  idle := fun never => absurd rfl never

theorem initial_orderly (config : Side → Config) (attachment : Attachment) :
    Orderly config (initial config attachment) where
  sound := initial_sound config attachment
  regular := fun side => initial_regular (config side) attachment
  parted := fun _ => List.Pairwise.nil
  inOrder := fun side => .inr (initial_inOrder (config side) (config side.peer) attachment)

/-- A worker that failed stays failed. -/
theorem failed_step {other : Config} {before after : Stream} {err : StreamError}
    (stepped : Stream.step other before event = some after)
    (failed : before.phase .receive = .returned (some err)) :
    after.phase .receive = .returned (some err) := by
  rw [(step_frame stepped).phase .receive fun mine => ?_]
  · exact failed
  rcases step_returned stepped failed mine with rfl | rfl | rfl
  · cases mine
  · cases mine
  · simp [Stream.step, tailReceive, failed] at stepped

/-- **A move that flushes in order keeps both directions in order.** -/
theorem step_orderly (matched : Matched config) (orderly : Orderly config net)
    (fresh : net.flushesInOrder (side, event) = true)
    (stepped : step config net (side, event) = some next) : Orderly config next := by
  have sound := step_sound matched.mode orderly.sound stepped
  obtain ⟨permitted, after, moved, rfl⟩ := step_eq_some stepped
  have peer := Side.peer_ne side
  have mine := orderly.regular side
  refine ⟨sound, ?_, ?_, ?_⟩
  · intro end_
    rcases Side.eq_or_eq_peer side end_ with rfl | rfl
    · simpa using step_regular moved mine
    · simpa [peer] using orderly.regular side.peer
  · intro end_
    rcases Side.eq_or_eq_peer side end_ with rfl | rfl
    · simpa using step_parted moved mine.honest.tracked mine.confirming (orderly.parted end_) fresh
    · simpa [peer] using orderly.parted side.peer
  intro end_
  rcases Side.eq_or_eq_peer side end_ with rfl | rfl
  · -- the sender moves
    have carries := sound.carries end_
    simp only [update_self, update_of_ne peer] at carries ⊢
    rcases orderly.inOrder end_ with failed | inOrder
    · exact .inl failed
    · exact .inr (inOrder.sender_step mine.honest.sourced mine.paced mine.confirming
        mine.terminating carries moved fresh)
  · -- the receiver moves
    have other := orderly.regular side.peer
    have carries := orderly.sound.carries side.peer
    have before := orderly.inOrder side.peer
    have limits := matched.limits side.peer
    rw [Side.peer_peer] at carries before limits ⊢
    simp only [update_self, update_of_ne peer]
    rcases before with ⟨err, failed⟩ | inOrder
    · exact .inl ⟨err, failed_step moved failed⟩
    refine inOrder.receiver_step carries other.honest.sourced other.paced
      (orderly.parted side.peer) (mine.admits other limits) mine.honest.tracked moved ?_ ?_
    · rintro attachment record rfl reading
      obtain ⟨holder, rest, reading', waits⟩ := permits_read permitted
      rw [reading] at reading'
      cases reading'
      exact ⟨⟨rest, waits⟩, by simp [took, reading]⟩
    · intro other
      unfold took
      split
      · exact absurd rfl (other _)
      · rfl

/-! ## The delivery law -/

/-- What the receiver has and what the sender may forget: the Application has the
sender's bytes in order, exactly `recvNext` of them unless its own write failed
halfway, and the sender's `sendBase` is within `recvNext`. -/
structure Delivered (net : Net) (side : Side) : Prop where
  output : (net.stream side.peer).history.output =
    (net.stream side).history.input.take (net.stream side.peer).history.output.length
  counted : (net.stream side.peer).history.applicationFailed = false →
    (net.stream side.peer).history.output =
      (net.stream side).history.input.take (net.stream side.peer).receive.recvNext
  recvNext_le : (net.stream side.peer).receive.recvNext ≤ (net.stream side).history.input.length
  sendBase_le : (net.stream side).send.sendBase ≤ (net.stream side.peer).receive.recvNext

theorem Sound.delivered (sound : Sound config net) (side : Side) : Delivered net side := by
  have carries := sound.carries side
  refine ⟨carries.output, fun working => ?_, ?_, carries.acknowledged⟩
  · have output := carries.output
    rwa [carries.counted working] at output
  have fits := congrArg List.length carries.output
  rw [List.length_take] at fits
  have le := carries.recvNext_le
  omega

/-- `acceptData`, in either of its sections, returns no `ErrActiveViolation`. -/
def acceptsData (net : Net) (move : Side × Stream.Event) : Bool :=
  let stream := net.stream move.1
  let passes (progress : Progress) : Bool :=
    match progress with
    | .fails err => !err.isActiveViolation
    | _ => true
  match move.2, stream.phase .receive with
  | .process, .held _ (.data _ offset payload) =>
    passes (stream.receive.acceptData stream.control.postClose stream.limit offset payload).2
  | .applicationWrites, .delivering range =>
    passes ((stream.receive.delivered range).deliverNext stream.control.postClose).2
  | _, _ => true

theorem Orderly.acceptsData (matched : Matched config) (orderly : Orderly config net)
    (move : Side × Stream.Event) : net.acceptsData move = true := by
  obtain ⟨side, event⟩ := move
  have mine := orderly.regular side
  have other := orderly.regular side.peer
  have carries := orderly.sound.carries side.peer
  have ordered := orderly.inOrder side.peer
  have limits := matched.limits side.peer
  rw [Side.peer_peer] at carries ordered limits
  unfold Net.acceptsData
  dsimp only
  split
  · rename_i attachment generation offset payload _ held
    have inOrder := ordered.resolve_left fun ⟨err, failed⟩ => by
      rw [held] at failed
      cases failed
    rcases inOrder.acceptData carries other.honest.sourced (mine.admits other limits) held with
      ⟨accepted, _⟩ | ⟨_, accepted, _⟩ <;> rw [accepted]
  · rename_i range _ delivering
    have inOrder := ordered.resolve_left fun ⟨err, failed⟩ => by
      rw [delivering] at failed
      cases failed
    rw [(inOrder.applicationWrites carries delivering).1]
  · rfl

/-- **End-to-end ordered delivery.**  In every state of every history of two
matched ends, each Application has the exact prefix of the other's input that
`recvNext` counts, and no sender forgets an undelivered byte; and in every history
whose Data goes out in order, `acceptData` never reports a violation. -/
theorem ordered_delivery (config : Side → Config) (matched : Matched config)
    (attachment : Attachment) (moves : List (Side × Stream.Event)) :
    Throughout (step config) (fun net => ∀ side, Delivered net side) (initial config attachment)
        moves ∧
      (Along (step config) (fun net move => net.flushesInOrder move) (initial config attachment)
          moves →
        Along (step config) (fun net move => net.acceptsData move) (initial config attachment)
          moves) := by
  constructor
  · exact (throughout_sound matched.mode attachment moves).imp fun _ sound => sound.delivered
  intro fresh
  have orderly : Throughout (step config) (Orderly config) (initial config attachment) moves :=
    fresh.throughout (fun _ _ _ orderly here stepped => step_orderly matched orderly here stepped)
      (initial_orderly config attachment)
  exact orderly.along (fun _ move orderly _ => orderly.acceptsData matched move) fresh

/-- Both ends of `recoverableConfig`. -/
def recoverableEnds : Side → Config := fun _ => recoverableConfig

theorem recoverableEnds_matched : Matched recoverableEnds :=
  ⟨fun _ => rfl, fun _ => Nat.le_refl _⟩

/-- `side` gives its failed Attachment up and sends its state on `attachment`. -/
def proposes (side : Side) (worker : Worker) (attachment : Attachment) :
    List (Side × Stream.Event) :=
  [(side, .enterRecovery worker false), (side, .closeFailed worker), (side, .propose worker none),
    (side, .opened worker attachment)]

/-- `side` gets the peer's state and cuts over. -/
def cutsOver (side : Side) (worker : Worker) (peer : ContinuityPeer) :
    List (Side × Stream.Event) :=
  [(side, .exchange worker peer), (side, .commit worker false)]

/-- The worker takes an Attachment, chooses its record and writes it. -/
def writes (side : Side) (worker : Worker) : List (Side × Stream.Event) :=
  [(side, .attach worker), (side, .choose worker), (side, .enterWrite worker), (side, .write worker),
    (side, .finish worker)]

/-- `side` is given a byte and its flush writes it. -/
def flushes (side : Side) : List (Side × Stream.Event) :=
  [(side, .ask), (side, .input [7]), (side, .pick), (side, .attach .flush), (side, .enterWrite .flush),
    (side, .write .flush)]

/-- `side` finds its Attachment failed on a write. -/
def losesWrite (side : Side) (worker : Worker) : List (Side × Stream.Event) :=
  [(side, .attach worker), (side, .choose worker), (side, .enterWrite worker), (side, .writeFails worker)]

/-- `side` finds its Attachment failed on a read. -/
def losesRead (side : Side) : List (Side × Stream.Event) :=
  [(side, .check), (side, .attach .receive), (side, .readFails), (side, .rejoin true)]

/-- The receive worker takes a record and handles it. -/
def receives (side : Side) (record : StreamRecord) : List (Side × Stream.Event) :=
  [(side, .check), (side, .attach .receive), (side, .read record), (side, .process)]

/-- The client's byte is in the publisher's hands when both replace the Attachment;
the client sends it again on the replacement, and the publisher knows it. -/
def replayInOrder : List (Side × Stream.Event) :=
  List.flatten [
    flushes .client, [(.client, .finish .flush)], receives .publisher (.data 1 0 [7]),
    losesRead .client, [(.publisher, .ask), (.publisher, .endOfInput)], losesWrite .publisher .terminal,
    proposes .client .receive .second, proposes .publisher .terminal .second,
    cutsOver .client .receive ⟨0, 0, 0, 2, 1⟩, cutsOver .publisher .terminal ⟨0, 1, 0, 1, 2⟩,
    [(.client, .pick), (.client, .attach .flush), (.client, .enterWrite .flush),
      (.client, .write .flush), (.client, .finish .flush),
      (.publisher, .applicationWrites), (.publisher, .queueAcknowledgement)],
    receives .publisher (.data 2 0 [7]), [(.publisher, .queueAcknowledgement)]]

theorem replayInOrder_delivers :
    (run (step recoverableEnds) (initial recoverableEnds (.mk 1 1)) replayInOrder).map
        (fun last => (last.stream .publisher).history.output) = some [7] ∧
      Along (step recoverableEnds) (fun net move => net.acceptsData move)
        (initial recoverableEnds (.mk 1 1)) replayInOrder :=
  ⟨rfl, (ordered_delivery recoverableEnds recoverableEnds_matched (.mk 1 1) replayInOrder).2
    (by decide +kernel)⟩

/-- A history of two matched ends.  The client's byte is in the publisher's hands
when both replace the Attachment, so the client rewinds and picks the byte again;
the pick stalls.  The publisher acknowledges the byte, both ends close the
connection on the replacement, and the publisher is done.  Then the client's flush
goes on and writes the byte a second time. -/
def lateReplay : List (Side × Stream.Event) :=
  List.flatten [
    flushes .client,
    [(.client, .finish .flush), (.client, .ask), (.client, .endOfInput), (.publisher, .ask),
      (.publisher, .endOfInput)],
    receives .publisher (.data 1 0 [7]), losesWrite .publisher .terminal, losesRead .client,
    proposes .client .receive .second, proposes .publisher .terminal .second,
    cutsOver .client .receive ⟨0, 0, 0, 2, 1⟩, cutsOver .publisher .terminal ⟨0, 1, 0, 1, 2⟩,
    [(.publisher, .clearTerminal), (.publisher, .checkTerminal), (.client, .pick),
      (.publisher, .applicationWrites), (.publisher, .queueAcknowledgement)],
    writes .publisher .acknowledge, receives .client (.acknowledgement 2 1 false false),
    writes .client .terminal, [(.client, .checkTerminal), (.client, .checkTerminal)],
    writes .publisher .terminal, [(.publisher, .checkTerminal), (.publisher, .checkTerminal)],
    receives .publisher (.terminal 2 1), [(.publisher, .closeInput)],
    writes .publisher .acknowledge,
    receives .client (.terminal 2 0), [(.client, .closeInput)],
    writes .client .acknowledge,
    receives .client (.acknowledgement 2 1 true false), writes .client .acknowledge,
    receives .publisher (.acknowledgement 2 0 true false), writes .publisher .acknowledge,
    receives .publisher (.acknowledgement 2 1 true true),
    [(.publisher, .acknowledgementsDone), (.publisher, .takeOutcome), (.publisher, .checkOutcome),
      (.publisher, .startTail),
      (.client, .attach .flush), (.client, .enterWrite .flush), (.client, .write .flush)],
    receives .publisher (.data 2 0 [7])]

/-- The byte is refused as Data after the close: `acceptData` returns
`ErrActiveViolation` for a record of the honest client. -/
theorem lateReplay_refused :
    ∃ last, run (step recoverableEnds) (initial recoverableEnds (.mk 1 1)) lateReplay = some last ∧
      (last.stream .publisher).history.output = [7] ∧
      (last.stream .publisher).phase .receive = .returned (some .postCloseData) ∧
      ¬ Along (step recoverableEnds) (fun net move => net.acceptsData move)
        (initial recoverableEnds (.mk 1 1)) lateReplay :=
  ⟨_, rfl, rfl, rfl, by decide +kernel⟩

end Net

end Ardents.Connection
