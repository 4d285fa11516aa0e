/-
# Connection.Replay — what an Attachment has carried of the unacknowledged bytes

`flushAvailable` picks the bytes at `sendNext`, releases `stream.mu`, writes them
on whatever Attachment is current by then, and advances `sendNext` if it still
stands where the pick was made.  A cutover rewinds `sendNext` to `sendBase`, which
may be that same place.

`Replayed` is the coverage law: every byte of `[sendBase, sendNext)` was written in
a Data record on the current Attachment.  It holds in every state of a history
exactly when no advance is made on behalf of a write on another Attachment than
the current one (`replayed_iff_advancesOnCurrent`), and then no Terminal is
written before the unacknowledged bytes were written on its own Attachment.
`staleAdvance` is a history in which a stale advance skips a byte for good.
-/
import Ardents.Connection.Steps

namespace Ardents.Connection

open Lib

set_option autoImplicit false

/-- The send offsets are ordered and the retained bytes are those not yet
acknowledged. -/
structure Sending.Ordered (send : Sending) : Prop where
  base_le : send.sendBase ≤ send.sendNext
  next_le : send.sendNext ≤ send.sendEnd
  retained : send.sendData.length = send.sendEnd - send.sendBase

variable {offset : Nat}

/-- An acknowledgement leaves the window ordered: `sendBase` only moves up, and
`sendNext` follows it where it was overtaken. -/
theorem Sending.Ordered.acknowledgeLocked {send next : Sending}
    (ordered : send.Ordered) (acknowledged : send.acknowledgeLocked offset = some next) :
    next.Ordered ∧ next.sendEnd = send.sendEnd ∧ send.sendBase ≤ next.sendBase ∧
      (next.sendNext = send.sendNext ∨ next.sendNext = next.sendBase) := by
  obtain ⟨base_le, next_le, retained⟩ := ordered
  unfold Sending.acknowledgeLocked at acknowledged
  split at acknowledged
  · cases acknowledged
    exact ⟨⟨base_le, next_le, retained⟩, rfl, Nat.le_refl _, .inl rfl⟩
  split at acknowledged
  · cases acknowledged
  cases acknowledged
  refine ⟨⟨by simp, by simp; omega, by simp; omega⟩, rfl, by simp; omega, ?_⟩
  simp only
  omega

/-- The byte at logical offset `index` was written in a Data record on `attachment`. -/
def Covers (log : List (Attachment × StreamRecord)) (attachment : Attachment) (index : Nat) : Prop :=
  ∃ generation offset payload, (attachment, StreamRecord.data generation offset payload) ∈ log ∧
    offset ≤ index ∧ index < offset + payload.length

theorem Covers.mono {log further : List (Attachment × StreamRecord)} {attachment : Attachment}
    {index : Nat} (covers : Covers log attachment index) (more : log ⊆ further) :
    Covers further attachment index := by
  obtain ⟨generation, offset, payload, member, bounds⟩ := covers
  exact ⟨generation, offset, payload, more member, bounds⟩

/-- The bytes a flush carries, from its pick to its advance. -/
def Phase.pick : Phase → Option (Nat × List UInt8)
  | .picked offset payload => some (offset, payload)
  | .holding _ (.data _ offset payload) | .admitted _ (.data _ offset payload)
  | .written _ (.data _ offset payload) => some (offset, payload)
  | _ => none

/-- The Attachment a writer has taken for its record. -/
def Phase.target : Phase → Option Attachment
  | .holding attachment _ | .admitted attachment _ | .written attachment _ => some attachment
  | _ => none

namespace Stream

/-- **Replay coverage**: the window is ordered, and all of it up to `sendNext` was
written on the current Attachment. -/
structure Replayed (stream : Stream) : Prop where
  ordered : stream.send.Ordered
  covered : ∀ index, stream.send.sendBase ≤ index → index < stream.send.sendNext →
    Covers stream.history.log stream.link.current index

/-- The event advances `sendNext` only for a write on the Attachment that is still
current. -/
def advancesOnCurrent (stream : Stream) : Event → Bool
  | .finish .flush =>
    match stream.phase .flush with
    | .written attachment (.data _ offset _) =>
      decide (offset = stream.send.sendNext → attachment = stream.link.current)
    | _ => true
  | _ => true

/-- The event puts a Terminal on a carrier only after every unacknowledged byte
went out on that same Attachment. -/
def TerminalAfterData (stream : Stream) (event : Event) : Prop :=
  ∀ worker attachment generation offset, event = .write worker →
    stream.phase worker = .admitted attachment (.terminal generation offset) →
      ∀ index, stream.send.sendBase ≤ index → index < stream.send.sendEnd →
        Covers stream.history.log attachment index

variable {config : Config} {before after : Stream} {event : Event}

/-! ## The flush worker -/

variable {payload : List UInt8} {attachment : Attachment}

/-- The facts about a flush that hold whatever the schedule: its bytes lie within
what was accepted, and while it is bound to an Attachment that was replaced no
Data record is on the replacement. -/
structure Flushing (stream : Stream) : Prop where
  tracked : Tracked stream
  ordered : stream.send.Ordered
  picked : ∀ offset payload, (stream.phase .flush).pick = some (offset, payload) →
    payload ≠ [] ∧ offset + payload.length ≤ stream.send.sendEnd
  parked : ∀ attachment, (stream.phase .flush).target = some attachment →
    attachment ≠ stream.link.current → ∀ generation offset payload,
      (stream.link.current, StreamRecord.data generation offset payload) ∉ stream.history.log

theorem initial_flushing (config : Config) (attachment : Attachment) :
    Flushing (initial config attachment) where
  tracked := initial_tracked config attachment
  ordered := ⟨Nat.le_refl 0, Nat.le_refl 0, rfl⟩
  picked := nofun
  parked := nofun

section Steps

variable (stepped : step config before event = some after)

include stepped

/-- **Where `flushAvailable` can go in one step.** -/
theorem step_flush (mine : event.worker = some .flush) :
    (after.phase .flush).pick = none ∧ (after.phase .flush).target = none ∨
      event = .pick ∨
      (∃ offset payload, before.phase .flush = .picked offset payload ∧
        after.phase .flush = .holding before.link.current
          (.data before.link.current.generation offset payload)) ∨
      (∃ attachment record, before.phase .flush = .holding attachment record ∧
        before.link.current = attachment ∧ after.phase .flush = .admitted attachment record) ∨
      (∃ attachment record, event = .write .flush ∧
        before.phase .flush = .admitted attachment record ∧
        after.phase .flush = .written attachment record) := by
  obtain ⟨old, new, was, now, moved⟩ := step_moves stepped mine
  rw [was, now]
  cases moved <;> grind [Phase.pick, Phase.target]

/-- **Where the bytes a flush carries come from**: it carried them already, or it
picks them at `sendNext`. -/
theorem step_flush_pick (flushed : (after.phase .flush).pick = some (offset, payload)) :
    (before.phase .flush).pick = some (offset, payload) ∨
      (event = .pick ∧ offset = before.send.sendNext ∧ payload =
        (before.send.sendData.drop (before.send.sendNext - before.send.sendBase)).take
          (min maximumDataBytes (before.send.sendEnd - before.send.sendNext))) := by
  by_cases mine : event.worker = some .flush
  · rcases step_flush stepped mine with ⟨none_, _⟩ | rfl | ⟨_, _, had, now⟩ | ⟨_, _, had, _, now⟩ |
      ⟨_, _, _, had, now⟩
    · rw [none_] at flushed
      cases flushed
    · obtain ⟨_, _, rfl⟩ := step_pick stepped
      rw [goto_phase_self] at flushed
      cases flushed
      exact .inr ⟨rfl, rfl, rfl⟩
    · left
      rw [had]
      rw [now] at flushed
      exact flushed
    · left
      rw [had]
      rw [now] at flushed
      cases ‹StreamRecord› <;> exact flushed
    left
    rw [had]
    rw [now] at flushed
    cases ‹StreamRecord› <;> exact flushed
  · rw [(step_frame stepped).phase _ mine] at flushed
    exact .inl flushed

/-- The window only moves up, and only `Application.Read` extends it. -/
theorem step_window (ordered : before.send.Ordered) : before.send.sendBase ≤ after.send.sendBase ∧
      (after.send.sendEnd = before.send.sendEnd ∨
        ∃ bytes, event = .input bytes ∧
          after.send.sendEnd = before.send.sendEnd + bytes.length) := by
  cases step_sends stepped with
  | stays send _ =>
    rw [send]
    exact ⟨Nat.le_refl _, .inl rfl⟩
  | reads send _ =>
    rw [send]
    exact ⟨Nat.le_refl _, .inr ⟨_, rfl, rfl⟩⟩
  | advances _ _ send =>
    rw [send]
    exact ⟨Nat.le_refl _, .inl rfl⟩
  | acknowledges _ _ acknowledged =>
    obtain ⟨_, same, base, _⟩ := ordered.acknowledgeLocked acknowledged
    exact ⟨base, .inl same⟩
  | rewinds _ acknowledged rewound =>
    obtain ⟨_, same, base, _⟩ := ordered.acknowledgeLocked acknowledged
    rw [rewound]
    exact ⟨base, .inl same⟩

theorem step_log_subset : before.history.log ⊆ after.history.log := by
  by_cases writes : event.writes = false
  · exact (step_frame stepped).log writes ▸ List.Subset.refl _
  cases event with
  | write worker =>
    obtain ⟨_, _, _, _, rfl⟩ := step_write stepped
    exact List.subset_append_left _ _
  | _ => exact absurd rfl writes

end Steps

section Flushing

variable (flushing : Flushing before) (stepped : step config before event = some after)

include flushing stepped

theorem step_ordered : after.send.Ordered := by
  have ordered := flushing.ordered
  obtain ⟨base_le, next_le, retained⟩ := flushing.ordered
  cases step_sends stepped with
  | stays send _ => exact send ▸ ordered
  | reads send _ =>
    rw [send]
    exact ⟨base_le, by simp; omega, by simp; omega⟩
  | @advances _ _ offset payload written same send =>
    have fits := (flushing.picked offset payload (by rw [written]; rfl)).2
    rw [send]
    exact ⟨by simp; omega, fits, retained⟩
  | acknowledges _ _ acknowledged => exact (ordered.acknowledgeLocked acknowledged).1
  | rewinds _ acknowledged rewound =>
    obtain ⟨moved, _, _, _⟩ := ordered.acknowledgeLocked acknowledged
    rw [rewound]
    exact ⟨Nat.le_refl _, moved.base_le.trans moved.next_le, moved.retained⟩

/-- The picked bytes of a flush stay within what was accepted. -/
theorem step_picked (flushed : (after.phase .flush).pick = some (offset, payload)) :
    payload ≠ [] ∧ offset + payload.length ≤ after.send.sendEnd := by
  have grows : before.send.sendEnd ≤ after.send.sendEnd := by
    rcases (step_window stepped flushing.ordered).2 with same | ⟨bytes, _, same⟩ <;> omega
  have keep : (before.phase .flush).pick = some (offset, payload) →
      payload ≠ [] ∧ offset + payload.length ≤ after.send.sendEnd := fun had =>
    ⟨(flushing.picked _ _ had).1, (flushing.picked _ _ had).2.trans grows⟩
  rcases step_flush_pick stepped flushed with had | ⟨rfl, rfl, rfl⟩
  · exact keep had
  obtain ⟨_, lt, rfl⟩ := step_pick stepped
  have retained := flushing.ordered.retained
  have base_le := flushing.ordered.base_le
  have size : 0 < maximumDataBytes := by decide
  refine ⟨fun empty => ?_, ?_⟩
  · have := congrArg List.length empty
    simp only [List.length_take, List.length_drop, List.length_nil] at this
    omega
  · simp only [List.length_take, List.length_drop, goto]
    omega

/-- A flush bound to a replaced Attachment keeps the replacement free of Data. -/
theorem step_parked (target : (after.phase .flush).target = some attachment)
    (replaced : attachment ≠ after.link.current) (generation offset : Nat) (payload : List UInt8) :
    (after.link.current, StreamRecord.data generation offset payload) ∉ after.history.log := by
  have frame := step_frame stepped
  have tracked := flushing.tracked
  rcases step_current stepped with same | ⟨newer, log, _⟩
  · rw [same] at replaced ⊢
    -- the flush had its target before this step: only then can it differ from the current one
    have had : (before.phase .flush).target = some attachment := by
      by_cases mine : event.worker = some .flush
      · rcases step_flush stepped mine with ⟨_, none_⟩ | rfl | ⟨_, _, _, now⟩ | ⟨_, _, had, _, now⟩ |
          ⟨_, _, _, had, now⟩
        · rw [none_] at target
          cases target
        · obtain ⟨_, _, rfl⟩ := step_pick stepped
          rw [goto_phase_self] at target
          cases target
        · rw [now] at target
          cases target
          exact absurd rfl replaced
        · rw [had]
          rw [now] at target
          exact target
        · rw [had]
          rw [now] at target
          exact target
      · rw [frame.phase _ mine] at target
        exact target
    have free := flushing.parked attachment had replaced
    by_cases writes : event.writes = false
    · rw [frame.log writes]
      exact free generation offset payload
    cases event with
    | write worker =>
      obtain ⟨wrote, record, admitted, open_, rfl⟩ := step_write stepped
      have mine := tracked.on admitted
      intro member
      simp only [goto, List.mem_append, List.mem_singleton, Prod.mk.injEq] at member
      rcases member with member | ⟨_, rfl⟩
      · exact free _ _ _ member
      -- only the flush writes Data, and it writes on its own target
      cases worker with
      | flush =>
        rw [admitted] at had
        cases had
        exact replaced (Known.eq_of_open mine.1 open_)
      | _ => exact mine.2
    | _ => exact absurd rfl writes
  · rw [log]
    exact tracked.fresh newer _

theorem step_flushing : Flushing after where
  tracked := step_tracked stepped flushing.tracked
  ordered := step_ordered flushing stepped
  picked := fun _ _ => step_picked flushing stepped
  parked := fun _ target replaced => step_parked flushing stepped target replaced

end Flushing

/-! ## Coverage -/

theorem initial_replayed (config : Config) (attachment : Attachment) :
    Replayed (initial config attachment) :=
  ⟨(initial_flushing config attachment).ordered, fun _ _ lt => absurd lt (Nat.not_lt_zero _)⟩

/-- A window that lost bytes at its base, or nothing else, stays covered. -/
theorem Replayed.shrink (replayed : Replayed before) (ordered : after.send.Ordered)
    (log : before.history.log ⊆ after.history.log)
    (current : after.link.current = before.link.current)
    (base : before.send.sendBase ≤ after.send.sendBase)
    (next : after.send.sendNext = before.send.sendNext ∨
      after.send.sendNext = after.send.sendBase) : Replayed after := by
  refine ⟨ordered, fun index above below => ?_⟩
  rw [current]
  exact (replayed.covered index (by omega) (by omega)).mono log

/-- **One step keeps coverage** when its advance, if it makes one, is for a write
on the current Attachment. -/
theorem step_replayed (flushing : Flushing before) (replayed : Replayed before)
    (fresh : before.advancesOnCurrent event)
    (stepped : step config before event = some after) : Replayed after := by
  have ordered := step_ordered flushing stepped
  have log := step_log_subset stepped
  -- a rewound window is empty
  have empty (rewound : after.send.sendNext = after.send.sendBase) : Replayed after :=
    ⟨ordered, fun index above below => by omega⟩
  rcases step_current stepped with current | ⟨_, _, rewound, _⟩
  · cases step_sends stepped with
    | stays send _ => exact replayed.shrink ordered log current (by rw [send]) (.inl (by rw [send]))
    | reads send _ => exact replayed.shrink ordered log current (by rw [send]) (.inl (by rw [send]))
    | @advances _ generation offset payload written same send =>
      have mine := flushing.tracked.on written
      simp only [advancesOnCurrent, written, decide_eq_true_eq] at fresh
      refine ⟨ordered, fun index above below => ?_⟩
      rw [send] at above below
      rw [current]
      by_cases before_ : index < before.send.sendNext
      · exact (replayed.covered index above before_).mono log
      · exact ⟨generation, offset, payload, log (fresh same ▸ mine.2.2), by omega, below⟩
    | acknowledges _ _ acknowledged =>
      obtain ⟨_, _, base, next⟩ := replayed.ordered.acknowledgeLocked acknowledged
      exact replayed.shrink ordered log current base next
    | rewinds _ _ rewound => exact empty (by rw [rewound])
  · exact empty rewound

/-- **A stale advance breaks coverage at once**: nothing was written on the
replacement while the flush was bound to the Attachment it replaced. -/
theorem step_stale (flushing : Flushing before) (stepped : step config before (.finish .flush) = some after)
    (replayed : Replayed after) {generation : Nat}
    (written : before.phase .flush = .written attachment (.data generation offset payload))
    (same : offset = before.send.sendNext) : attachment = before.link.current := by
  obtain ⟨_, _, _, _, written', rfl⟩ := step_finish_flush stepped
  rw [written] at written'
  cases written'
  by_contra replaced
  have fits := flushing.picked offset payload (by rw [written]; rfl)
  have positive : 0 < payload.length := List.length_pos_iff.mpr fits.1
  have base_le := flushing.ordered.base_le
  have skipped := replayed.covered offset (by simp only [advance, if_pos same, goto]; omega)
    (by simp only [advance, if_pos same, goto]; omega)
  obtain ⟨_, _, _, member, _⟩ := skipped
  simp only [advance, if_pos same, goto] at member
  exact flushing.parked attachment (by rw [written]; rfl) replaced _ _ _ member

/-- A written Data record can always be concluded. -/
theorem finish_flush_enabled (config : Config) {generation : Nat}
    (written : before.phase .flush = .written attachment (.data generation offset payload)) :
    step config before (.finish .flush) =
      some ((before.advance offset payload).goto .flush .idle) := by
  simp [step, finish, written]

/-- Over a history, coverage is exactly the absence of stale advances. -/
theorem throughout_replayed_iff (flushing : Flushing before) (events : List Event) :
    Throughout (step config) Replayed before events ↔
      Replayed before ∧ Along (step config) (fun stream event => stream.advancesOnCurrent event) before events := by
  induction events generalizing before with
  | nil => exact (and_iff_left trivial).symm
  | cons event events ih =>
    constructor
    · rintro ⟨replayed, rest⟩
      refine ⟨replayed, ?_, fun next stepped =>
        ((ih (step_flushing flushing stepped)).mp (rest next stepped)).2⟩
      show before.advancesOnCurrent event = true
      unfold advancesOnCurrent
      split
      · split
        · rename_i attachment generation offset payload written
          have stepped := finish_flush_enabled config written
          exact decide_eq_true (step_stale flushing stepped (rest _ stepped).first written)
        · rfl
      · rfl
    · rintro ⟨replayed, fresh, rest⟩
      refine ⟨replayed, fun next stepped => ?_⟩
      exact (ih (step_flushing flushing stepped)).mpr
        ⟨step_replayed flushing replayed fresh stepped, rest next stepped⟩

/-! ## The Terminal after the Data -/

/-- A Terminal about to be written finds all unacknowledged bytes on its own
Attachment, and no more bytes will be accepted. -/
structure TerminalReady (stream : Stream) : Prop where
  ended : stream.phase .terminal ≠ .idle → stream.sender = .ended
  covered : ∀ attachment record, stream.phase .terminal = .admitted attachment record →
    ∀ index, stream.send.sendBase ≤ index → index < stream.send.sendEnd →
      Covers stream.history.log attachment index

theorem initial_terminalReady (config : Config) (attachment : Attachment) :
    TerminalReady (initial config attachment) :=
  ⟨fun busy => absurd rfl busy, nofun⟩

section Ends

variable (stepped : step config before event = some after)

include stepped

/-- The Terminal worker is admitted only in `writeRecord`, with nothing unsent. -/
theorem step_terminal_admitted (tracked : Tracked before) {record : StreamRecord}
    (admitted : after.phase .terminal = .admitted attachment record) :
    before.phase .terminal = .admitted attachment record ∨
      before.link.current = attachment ∧ before.send.sendEnd ≤ before.send.sendNext ∧
        event = .enterWrite .terminal := by
  by_cases mine : event.worker = some .terminal
  · obtain ⟨old, new, was, now, moved⟩ := step_moves stepped mine
    cases moved
    case admits holder record' current control sent =>
      have fits := tracked.on was
      rw [now] at admitted
      cases admitted
      cases record with
      | terminal generation offset => exact .inr ⟨current, sent rfl, rfl⟩
      | _ => exact fits.2.elim
    all_goals grind
  · left
    rw [← (step_frame stepped).phase _ mine]
    exact admitted

/-- The Terminal worker leaves its idle phase only at the end of input. -/
theorem step_terminal_idle (idle : before.phase .terminal = .idle) :
    after.phase .terminal = .idle ∨ event = .endOfInput := by
  by_cases mine : event.worker = some .terminal
  · obtain ⟨old, new, was, now, moved⟩ := step_moves stepped mine
    cases moved <;> simp_all
  · exact .inl (((step_frame stepped).phase _ mine).trans idle)

/-- End of input is final for the sender. -/
theorem step_ended (ended : before.sender = .ended) :
    after.sender = .ended ∧ ∀ bytes, event ≠ .input bytes := by
  have frame := step_frame stepped
  cases event with
  | ask => simp [step, ask, ended] at stepped
  | input bytes => simp [step, input, ended] at stepped
  | endOfInput => simp [step, endOfInput, ended] at stepped
  | _ => exact ⟨(frame.sender rfl).trans ended, fun _ => by rintro ⟨⟩⟩

theorem step_terminalReady (flushing : Flushing before) (replayed : Replayed before)
    (ready : TerminalReady before) : TerminalReady after := by
  refine ⟨fun busy => ?_, fun attachment record admitted index above below => ?_⟩
  · by_cases idle : before.phase .terminal = .idle
    · rcases step_terminal_idle stepped idle with still | rfl
      · exact absurd still busy
      · simp only [step, endOfInput] at stepped
        (repeat' split at stepped) <;> cases stepped <;> rfl
    · exact (step_ended stepped (ready.ended idle)).1
  · obtain ⟨base, extends_⟩ := step_window stepped flushing.ordered
    have log := step_log_subset stepped
    rcases step_terminal_admitted stepped flushing.tracked admitted with had | ⟨current, sent, rfl⟩
    · have ended := (step_ended stepped (ready.ended (by rw [had]; rintro ⟨⟩))).2
      have same : after.send.sendEnd = before.send.sendEnd := by
        apply extends_.resolve_right
        rintro ⟨bytes, read, -⟩
        exact ended bytes read
      exact (ready.covered attachment record had index (by omega) (by omega)).mono log
    · have same := (step_frame stepped).send rfl
      rw [same] at above below
      exact current ▸ (replayed.covered index above (by omega)).mono log

end Ends

/-- A Terminal record is only ever in the Terminal worker's hands. -/
theorem TerminalReady.terminalAfterData (ready : TerminalReady before) (tracked : Tracked before)
    (event : Event) : TerminalAfterData before event := by
  rintro worker attachment generation offset - admitted
  obtain rfl := (tracked.writer admitted).1 rfl
  exact ready.covered attachment _ admitted

/-- **Replay coverage over every history.**  The window is ordered and covered by
the current Attachment in every state of a history exactly when every advance of
`sendNext` is made for a write on the Attachment current at that moment; in such
a history a Terminal follows, on its own Attachment, every unacknowledged byte. -/
theorem replayed_iff_advancesOnCurrent (config : Config) (attachment : Attachment)
    (events : List Event) :
    (Throughout (step config) Replayed (initial config attachment) events ↔
        Along (step config) (fun stream event => stream.advancesOnCurrent event)
          (initial config attachment) events) ∧
      (Along (step config) (fun stream event => stream.advancesOnCurrent event)
          (initial config attachment) events →
        Along (step config) TerminalAfterData (initial config attachment) events) := by
  have flushing := initial_flushing config attachment
  have replayed := initial_replayed config attachment
  refine ⟨(throughout_replayed_iff flushing events).trans (and_iff_right replayed), fun fresh => ?_⟩
  have kept : Throughout (step config)
      (fun stream => Flushing stream ∧ Replayed stream ∧ TerminalReady stream)
      (initial config attachment) events := by
    refine fresh.throughout ?_ ⟨flushing, replayed, initial_terminalReady config attachment⟩
    rintro before event after ⟨flushing, replayed, ready⟩ fresh stepped
    exact ⟨step_flushing flushing stepped, step_replayed flushing replayed fresh stepped,
      step_terminalReady stepped flushing replayed ready⟩
  refine kept.along ?_ fresh
  rintro stream event ⟨flushing, _, ready⟩ _
  exact ready.terminalAfterData flushing.tracked event

/-! ## A stale advance -/

/-- One byte is accepted and written on the first Attachment; before its writer
takes `stream.mu` again the receive worker sees the carrier end, the peer has
received nothing, and the replacement is committed.  The writer then finds
`sendNext` where it left it and advances; end of input follows. -/
def staleAdvance : List Event :=
  [.ask, .input [7], .pick, .attach .flush, .enterWrite .flush, .write .flush,
    .check, .attach .receive, .readFails, .rejoin false, .enterRecovery .receive false,
    .closeFailed .receive, .propose .receive none, .opened .receive .second,
    .exchange .receive ⟨0, 0, 0, 1, 2⟩, .commit .receive false,
    .finish .flush,
    .ask, .endOfInput, .attach .terminal, .choose .terminal, .enterWrite .terminal, .write .terminal]

/-- What the stale advance leaves: the byte counts as sent on the replacement,
which has carried only a Terminal beyond it. -/
theorem staleAdvance_skips :
    ∃ last, run (step recoverableConfig) (initial recoverableConfig (.mk 1 1)) staleAdvance = some last ∧
      last.send = ⟨0, 1, 1, [7]⟩ ∧ last.link.current = .mk 2 2 ∧
      last.history.log = [(.mk 1 1, .data 1 0 [7]), (.mk 2 2, .terminal 2 1)] ∧
      ¬ Covers last.history.log last.link.current 0 ∧ ¬ Replayed last := by
  refine ⟨_, rfl, rfl, rfl, rfl, ?_, ?_⟩
  · rintro ⟨generation, offset, payload, member, _⟩
    cases member with
    | tail _ member => cases member with | tail _ member => cases member
  intro replayed
  obtain ⟨generation, offset, payload, member, _⟩ :=
    replayed.covered 0 (Nat.le_refl 0) Nat.one_pos
  cases member with
  | tail _ member => cases member with | tail _ member => cases member

end Stream

end Ardents.Connection
