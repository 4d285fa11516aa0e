/-
# Connection.Reassembly — whole calls of `acceptData`

A call that returns nil stores what is new of its record and writes to the Application
whatever the stored ranges now continue.  `Assembled` is what such calls keep: the ranges
are sorted and apart, ahead of what was delivered, and few; the retained window is the end
of what was delivered; and a byte is held or delivered for an offset exactly when an
accepted record carries it there.  The last part leaves the order of the records no say in
what is delivered (`Assembled.written_eq`).
-/
import Ardents.Lib.Runs
import Ardents.Connection.Receive

namespace Ardents.Connection

open Lib

set_option autoImplicit false

/-- The byte that a range carries for an offset. -/
def ReceivedRange.byteAt (range : ReceivedRange) (offset : Nat) : Option UInt8 :=
  if range.offset ≤ offset then range.data[offset - range.offset]? else none

/-- One range ends before the other starts, with a gap between them. -/
def ReceivedRange.Before (first second : ReceivedRange) : Prop := first.stop < second.offset

namespace Receiving

variable {receiving next : Receiving} {candidate existing grown range : ReceivedRange}
  {ranges kept : List ReceivedRange} {offset : Nat} {byte : UInt8}

theorem apart_iff : apart candidate existing = true ↔ candidate.Before existing ∨ existing.Before candidate := by
  simp [apart, ReceivedRange.Before]

theorem byteAt_eq_some : range.byteAt offset = some byte ↔
    range.offset ≤ offset ∧ range.data[offset - range.offset]? = some byte := by
  simp [ReceivedRange.byteAt]

theorem exists_byteAt : (∃ byte, range.byteAt offset = some byte) ↔
    range.offset ≤ offset ∧ offset < range.stop := by
  simp only [byteAt_eq_some, exists_and_left, List.getElem?_eq_some_iff, ReceivedRange.stop]
  grind

theorem byteAt_bounds (carries : range.byteAt offset = some byte) :
    range.offset ≤ offset ∧ offset < range.stop :=
  exists_byteAt.1 ⟨byte, carries⟩

/-! ## The loop of `storeRangeLocked` -/

theorem agrees_iff {source : Nat → Option UInt8} : Agrees source range.offset range.data ↔
    ∀ offset byte, range.byteAt offset = some byte → source offset = some byte := by
  constructor
  · intro agrees offset byte carries
    obtain ⟨starts, found⟩ := byteAt_eq_some.1 carries
    have same := agrees (offset - range.offset) (List.getElem?_eq_some_iff.1 found).1
    rw [Nat.add_sub_cancel' starts, found] at same
    exact same.symm
  · intro carries i lt
    have here := carries (range.offset + i) range.data[i] (byteAt_eq_some.2 ⟨by omega, by simp⟩)
    rw [here, List.getElem?_eq_getElem lt]

/-- Ranges that overlap are stored only when they carry the same bytes. -/
theorem byteAt_consistent (agree : consistent candidate existing = true) {other : UInt8}
    (mine : candidate.byteAt offset = some byte) (theirs : existing.byteAt offset = some other) : byte = other := by
  have first := byteAt_bounds mine
  have second := byteAt_bounds theirs
  simp only [consistent, Bool.or_eq_true, decide_eq_true_eq] at agree
  obtain empty | shared := agree
  · omega
  have same := congrArg (fun data => data[offset - max candidate.offset existing.offset]?) shared
  simp only [byteAt_eq_some] at mine theirs
  rw [List.getElem?_take_of_lt (by omega), List.getElem?_take_of_lt (by omega), List.getElem?_drop,
    List.getElem?_drop, show max candidate.offset existing.offset - candidate.offset +
      (offset - max candidate.offset existing.offset) = offset - candidate.offset by omega,
    show max candidate.offset existing.offset - existing.offset +
      (offset - max candidate.offset existing.offset) = offset - existing.offset by omega,
    mine.2, theirs.2] at same
  exact Option.some.inj same

theorem byteAt_merged (touch : apart candidate existing = false) (agree : consistent candidate existing = true) :
    (merged candidate existing).byteAt offset = some byte ↔
      candidate.byteAt offset = some byte ∨ existing.byteAt offset = some byte := by
  have first : Agrees (fun offset => (candidate.byteAt offset).or (existing.byteAt offset))
      candidate.offset candidate.data := by
    refine agrees_iff.2 fun offset byte carries => ?_
    rw [carries, Option.some_or]
  have second : Agrees (fun offset => (candidate.byteAt offset).or (existing.byteAt offset))
      existing.offset existing.data := by
    refine agrees_iff.2 fun offset byte carries => ?_
    cases mine : candidate.byteAt offset with
    | none => rw [carries, Option.none_or]
    | some other => rw [Option.some_or, byteAt_consistent agree mine carries]
  obtain ⟨agrees, stop⟩ := merged_agrees touch first second
  have whole := agrees_iff.1 agrees
  constructor
  · intro carries
    obtain mine | ⟨-, theirs⟩ := Option.or_eq_some_iff.1 (whole offset byte carries)
    · exact .inl mine
    · exact .inr theirs
  intro carries
  have found : (candidate.byteAt offset).or (existing.byteAt offset) = some byte :=
    carries.elim (agrees_iff.1 first offset byte) (agrees_iff.1 second offset byte)
  obtain ⟨other, held⟩ : ∃ other, (merged candidate existing).byteAt offset = some other := by
    have bounds := carries.imp byteAt_bounds byteAt_bounds
    rw [exists_byteAt, stop]
    simp only [merged]
    omega
  rw [held, ← whole offset other held, found]

/-- A candidate that ends before every range leaves them all. -/
theorem absorb_before (before : ∀ range ∈ ranges, candidate.Before range) :
    absorb candidate ranges = some (ranges, candidate) := by
  induction ranges with
  | nil => rfl
  | cons existing ranges ih =>
    have here := before existing List.mem_cons_self
    rw [absorb, if_pos (apart_iff.2 (.inl here)),
      ih fun range member => before range (List.mem_cons_of_mem _ member)]
    rfl

/-- What the candidate grows to starts no lower than it and the ranges did. -/
theorem absorb_offset (absorbed : absorb candidate ranges = some (kept, grown)) {bound : Nat}
    (first : bound ≤ candidate.offset) (rest : ∀ range ∈ ranges, bound ≤ range.offset) :
    bound ≤ grown.offset := by
  induction ranges generalizing candidate kept with
  | nil =>
    cases absorbed
    exact first
  | cons existing ranges ih =>
    have here := rest existing List.mem_cons_self
    have later : ∀ range ∈ ranges, bound ≤ range.offset := fun range member =>
      rest range (List.mem_cons_of_mem _ member)
    unfold absorb at absorbed
    split at absorbed
    · obtain ⟨result, found, same⟩ := Option.map_eq_some_iff.1 absorbed
      cases same
      exact ih found first later
    · split at absorbed
      · exact ih absorbed (le_min first here) later
      · cases absorbed

/-- A range that is kept is apart from what the candidate grows to over the later ones. -/
theorem apart_absorbed (gap : apart candidate existing = true)
    (later : ∀ range ∈ ranges, existing.Before range) (absorbed : absorb candidate ranges = some (kept, grown)) :
    apart grown existing = true := by
  obtain below | above := apart_iff.1 gap
  · -- nothing is left for the candidate to grow over
    have before : ∀ range ∈ ranges, candidate.Before range := by
      intro range member
      have gap := later range member
      simp only [ReceivedRange.Before, ReceivedRange.stop] at *
      omega
    rw [absorb_before before] at absorbed
    cases absorbed
    exact gap
  · exact apart_iff.2 (.inr (absorb_offset absorbed above later))

/-- The ranges that are kept are apart from what the candidate grows to, and together they
carry what the ranges and the candidate did. -/
theorem absorb_spec (absorbed : absorb candidate ranges = some (kept, grown))
    (sorted : ranges.Pairwise ReceivedRange.Before) :
    kept.Sublist ranges ∧ (∀ range ∈ kept, apart grown range = true) ∧
      ∀ offset byte, (∃ range ∈ kept ++ [grown], range.byteAt offset = some byte) ↔
        candidate.byteAt offset = some byte ∨ ∃ range ∈ ranges, range.byteAt offset = some byte := by
  induction ranges generalizing candidate kept with
  | nil =>
    cases absorbed
    simp
  | cons existing ranges ih =>
    obtain ⟨first, rest⟩ := List.pairwise_cons.1 sorted
    unfold absorb at absorbed
    split at absorbed
    · next gap =>
      obtain ⟨result, found, same⟩ := Option.map_eq_some_iff.1 absorbed
      cases same
      obtain ⟨sublist, separate, carries⟩ := ih found rest
      refine ⟨sublist.cons_cons _, ?_, ?_⟩
      · rintro range (_ | ⟨_, member⟩)
        · exact apart_absorbed gap first found
        · exact separate range member
      intro offset byte
      have carried := carries offset byte
      simp only [List.cons_append, List.exists_mem_cons_iff]
      rw [carried, or_left_comm]
    · next touch =>
      split at absorbed
      · next agree =>
        obtain ⟨sublist, separate, carries⟩ := ih absorbed rest
        refine ⟨sublist.cons _, separate, ?_⟩
        intro offset byte
        rw [carries, byteAt_merged (by simpa using touch) agree, List.exists_mem_cons_iff, or_assoc]
      · cases absorbed

/-- Ranges that are apart are in order once they are sorted. -/
theorem before_insertionSort (separate : ranges.Pairwise fun first second => apart first second = true) :
    (ranges.insertionSort fun first second => first.offset ≤ second.offset).Pairwise ReceivedRange.Before := by
  have total : Std.Total fun first second : ReceivedRange => first.offset ≤ second.offset :=
    ⟨fun first second => Nat.le_total _ _⟩
  have trans : IsTrans ReceivedRange fun first second => first.offset ≤ second.offset :=
    ⟨fun _ _ _ => Nat.le_trans⟩
  refine (List.pairwise_insertionSort _ ranges).imp₂ ?_
    (((List.perm_insertionSort _ ranges).pairwise_iff fun gap => apart_iff.2 (apart_iff.1 gap).symm).2 separate)
  intro first second le gap
  refine (apart_iff.1 gap).resolve_right fun behind => ?_
  rw [ReceivedRange.Before, ReceivedRange.stop] at behind
  omega

/-- The part of a range before an offset, and the part from it on. -/
theorem byteAt_take_drop (count : Nat) :
    (⟨range.offset, range.data.take count⟩ : ReceivedRange).byteAt offset =
        (if offset < range.offset + count then range.byteAt offset else none) ∧
      (⟨range.offset + count, range.data.drop count⟩ : ReceivedRange).byteAt offset =
        if range.offset + count ≤ offset then range.byteAt offset else none := by
  simp only [ReceivedRange.byteAt, List.getElem?_take, List.getElem?_drop]
  grind

/-- The delivery loop ends when nothing continues what was delivered. -/
theorem deliverNext_waits {progress : Progress} (section_ : receiving.deliverNext false = (next, progress))
    (quiet : ∀ range, progress ≠ .delivers range) :
    next = receiving ∧ ∀ range ∈ receiving.pending.head?, range.offset ≠ receiving.recvNext := by
  unfold deliverNext at section_
  grind

/-! ## Calls -/

/-- The delivery loop: what is ready is written to the Application until the first range no
longer continues what was delivered. -/
def drain (receiving : Receiving) (written : List UInt8) : Receiving × List UInt8 :=
  match _ : receiving.deliverNext false with
  | (next, .delivers range) => drain (next.delivered range) (written ++ range.data)
  | (next, _) => (next, written)
termination_by receiving.pending.length
decreasing_by
  rename_i progress
  rw [(deliverNext_delivers progress).2.1]
  simp

end Receiving

/-- The receive half of a Stream with the bytes written to the Application and the records
whose calls returned nil. -/
structure Reassembly where
  receiving : Receiving
  written : List UInt8
  accepted : List ReceivedRange

namespace Reassembly

open Receiving

def start : Reassembly := ⟨.initial, [], []⟩

/-- A call of `acceptData` that returns nil: the Application takes what is written. -/
def step (state : Reassembly) (call : Nat × ReceivedRange) : Option Reassembly :=
  let accepted := call.2 :: state.accepted
  match state.receiving.acceptData false call.1 call.2.offset call.2.data with
  | (_, .fails _) => none
  | (next, .acknowledges _) => some ⟨next, state.written, accepted⟩
  | (next, .delivers range) =>
    let result := (next.delivered range).drain (state.written ++ range.data)
    some ⟨result.1, result.2, accepted⟩

/-- A byte is delivered or held for an offset. -/
def Held (state : Reassembly) (offset : Nat) (byte : UInt8) : Prop :=
  state.written[offset]? = some byte ∨ ∃ range ∈ state.receiving.pending, range.byteAt offset = some byte

/-- What holds in the delivery loop. -/
structure Assembling (state : Reassembly) : Prop where
  sorted : state.receiving.pending.Pairwise ReceivedRange.Before
  reached : ∀ range ∈ state.receiving.pending, state.receiving.recvNext ≤ range.offset
  few : state.receiving.pending.length ≤ maximumPendingRanges
  next : state.receiving.recvNext = state.written.length
  window : state.receiving.recentAt + state.receiving.recent.length = state.receiving.recvNext
  recent : state.receiving.recent = state.written.drop state.receiving.recentAt
  bounded : state.receiving.pendingBytesLocked + state.receiving.recent.length ≤ logicalQueueLimit
  held : ∀ offset byte, state.Held offset byte ↔ ∃ record ∈ state.accepted, record.byteAt offset = some byte

/-- What holds between calls. -/
structure Assembled (state : Reassembly) : Prop extends Assembling state where
  ahead : ∀ range ∈ state.receiving.pending, state.receiving.recvNext < range.offset

variable {state : Reassembly} {receiving next : Receiving} {written : List UInt8} {accepted : List ReceivedRange}
  {record range : ReceivedRange} {reserved : Nat}

theorem Assembling.start : start.Assembling where
  sorted := .nil
  reached := nofun
  few := by decide
  next := rfl
  window := rfl
  recent := rfl
  bounded := by decide
  held := by simp [Held, Reassembly.start, initial]

/-- Cutting the retained window to what `reserved` bytes leave of the queue. -/
theorem Assembling.trim (fits : reserved ≤ logicalQueueLimit)
    (window : receiving.recentAt + receiving.recent.length = receiving.recvNext)
    (recent : receiving.recent = written.drop receiving.recentAt) :
    (receiving.trimRecentLocked reserved).recentAt + (receiving.trimRecentLocked reserved).recent.length =
        receiving.recvNext ∧
      (receiving.trimRecentLocked reserved).recent =
        written.drop (receiving.trimRecentLocked reserved).recentAt ∧
      reserved + (receiving.trimRecentLocked reserved).recent.length ≤ logicalQueueLimit := by
  simp only [trimRecentLocked, List.length_drop]
  refine ⟨by omega, ?_, by omega⟩
  rw [recent, List.drop_drop]

variable {offset : Nat} {other : Reassembly} {byte : UInt8}

/-- Bytes that were found in the retained window are those that were delivered. -/
theorem Assembling.matched (assembling : state.Assembling) {start : Nat} {data : List UInt8}
    (matched : state.receiving.matchesRecentLocked start data = true)
    (carries : ReceivedRange.byteAt ⟨start, data⟩ offset = some byte) : state.written[offset]? = some byte := by
  obtain ⟨starts, found⟩ := byteAt_eq_some.1 carries
  dsimp only at starts found
  simp only [matchesRecentLocked, Bool.and_eq_true, decide_eq_true_eq] at matched
  obtain ⟨⟨retained, fits⟩, same⟩ := matched
  have inside := (List.getElem?_eq_some_iff.1 found).1
  rw [← same, assembling.recent, List.drop_drop, List.getElem?_take_of_lt inside, List.getElem?_drop] at found
  rw [← found]
  congr 1
  omega

/-- One turn of the delivery loop. -/
theorem Assembling.delivered {rest : List ReceivedRange} (assembling : state.Assembling)
    (pending : state.receiving.pending = range :: rest) (ready : range.offset = state.receiving.recvNext) :
    Assembling ⟨{ state.receiving with pending := rest }.delivered range, state.written ++ range.data,
      state.accepted⟩ := by
  obtain ⟨sorted, -, few, next, window, recent, bounded, held⟩ := assembling
  rw [pending] at sorted few
  obtain ⟨first, sorted⟩ := List.pairwise_cons.1 sorted
  simp only [pendingBytesLocked, pending, List.map_cons, List.sum_cons] at bounded
  have fits : (rest.map fun range => range.data.length).sum ≤ logicalQueueLimit := by omega
  let advanced : Receiving := ⟨state.receiving.recvNext + range.data.length, state.receiving.recentAt,
    state.receiving.recent ++ range.data, rest⟩
  have whole : advanced.recentAt + advanced.recent.length = advanced.recvNext := by
    simp only [advanced, List.length_append]
    omega
  have tail : advanced.recent = (state.written ++ range.data).drop advanced.recentAt := by
    simp only [advanced]
    rw [recent, List.drop_append_of_le_length (by omega)]
  obtain ⟨window, recent, bounded⟩ := trim fits whole tail
  refine ⟨sorted, ?_, (Nat.le_succ _).trans few, ?_, window, recent, bounded, ?_⟩
  · intro later member
    have gap := first later member
    rw [ReceivedRange.Before, ReceivedRange.stop, ready] at gap
    exact gap.le
  · simp [next]
  intro offset byte
  rw [← held offset byte]
  simp only [Held, pending, List.exists_mem_cons_iff, ← or_assoc]
  refine or_congr_left ?_
  rw [byteAt_eq_some, ready, next, List.getElem?_append]
  split
  · next inside => simp [Nat.not_le.2 inside]
  · next beyond => simp [Nat.not_lt.1 beyond]

/-- What is new of a record is stored. -/
theorem Assembling.stored {stored : Receiving} (assembling : state.Assembling)
    (kept : state.receiving.storeRangeLocked range = some stored)
    (ahead : state.receiving.recvNext ≤ range.offset)
    (carries : ∀ offset byte, record.byteAt offset = some byte →
      state.written[offset]? = some byte ∨ range.byteAt offset = some byte)
    (part : ∀ offset byte, range.byteAt offset = some byte → record.byteAt offset = some byte) :
    Assembling ⟨stored, state.written, record :: state.accepted⟩ := by
  obtain ⟨ranges, grown, absorbed, pending, few, bounded, shape⟩ := storeRangeLocked_cases kept
  obtain ⟨sublist, separate, covers⟩ := absorb_spec absorbed assembling.sorted
  have members : ∀ range, range ∈ stored.pending ↔ range ∈ ranges ++ [grown] := by
    intro range
    rw [pending, List.mem_insertionSort]
  obtain ⟨window, recent, -⟩ := trim ((Nat.le_add_right _ _).trans bounded) assembling.window assembling.recent
  refine ⟨?_, ?_, few, ?_, ?_, ?_, bounded, ?_⟩
  · rw [pending]
    apply before_insertionSort
    rw [List.pairwise_append]
    refine ⟨(assembling.sorted.sublist sublist).imp fun gap => apart_iff.2 (.inl gap),
      List.pairwise_singleton _ _, fun other member last among => ?_⟩
    rw [List.mem_singleton.1 among]
    exact apart_iff.2 (apart_iff.1 (separate other member)).symm
  · intro other member
    rw [storeRangeLocked_recvNext kept]
    obtain old | new := List.mem_append.1 ((members other).1 member)
    · exact assembling.reached other (sublist.subset old)
    · rw [List.mem_singleton.1 new]
      exact absorb_offset absorbed ahead assembling.reached
  · rw [storeRangeLocked_recvNext kept]
    exact assembling.next
  · rw [shape]
    exact window
  · rw [shape]
    exact recent
  · intro offset byte
    simp only [Held, members, covers, List.exists_mem_cons_iff]
    rw [← assembling.held, Held]
    constructor
    · rintro (old | new | other)
      · exact .inr (.inl old)
      · exact .inl (part offset byte new)
      · exact .inr (.inr other)
    rintro (mine | old | other)
    · exact (carries offset byte mine).imp_right .inl
    · exact .inl old
    · exact .inr (.inr other)

/-- Nothing of a record is new. -/
theorem Assembling.replayed (assembling : state.Assembling)
    (carries : ∀ offset byte, record.byteAt offset = some byte → state.written[offset]? = some byte) :
    Assembling ⟨state.receiving, state.written, record :: state.accepted⟩ := by
  refine { assembling with held := ?_ }
  intro offset byte
  have held := assembling.held offset byte
  simp only [Held, List.exists_mem_cons_iff] at held ⊢
  rw [← held]
  exact ⟨.inr, fun known => known.elim (fun mine => .inl (carries offset byte mine)) id⟩

/-- Between calls no range continues what was delivered. -/
theorem Assembling.settle (assembling : state.Assembling)
    (waits : ∀ first ∈ state.receiving.pending.head?, first.offset ≠ state.receiving.recvNext) :
    state.Assembled := by
  refine { assembling with ahead := ?_ }
  intro range member
  have sorted := assembling.sorted
  have reached := assembling.reached
  cases pending : state.receiving.pending with
  | nil => simp [pending] at member
  | cons first rest =>
    rw [pending] at member sorted reached
    have early := reached first List.mem_cons_self
    have head := waits first (by simp [pending])
    obtain rfl | later := List.mem_cons.1 member
    · exact lt_of_le_of_ne early head.symm
    · have gap := (List.pairwise_cons.1 sorted).1 range later
      rw [ReceivedRange.Before, ReceivedRange.stop] at gap
      omega

theorem Assembling.drain (assembling : Assembling ⟨receiving, written, accepted⟩) :
    Assembled ⟨(receiving.drain written).1, (receiving.drain written).2, accepted⟩ := by
  fun_induction receiving.drain written with
  | case1 receiving written next range progress ih =>
    obtain ⟨ready, pending, shape, -⟩ := deliverNext_delivers progress
    apply ih
    rw [shape]
    exact assembling.delivered pending ready
  | case2 receiving written next answer quiet progress =>
    obtain ⟨rfl, waits⟩ := deliverNext_waits progress quiet
    exact assembling.settle waits

theorem Assembled.step {call : Nat × ReceivedRange} {later : Reassembly} (assembled : state.Assembled)
    (stepped : state.step call = some later) : later.Assembled := by
  obtain ⟨limit, record⟩ := call
  unfold Reassembly.step at stepped
  cases section_ : state.receiving.acceptData false limit record.offset record.data with
  | mk next progress =>
    simp only [section_] at stepped
    obtain ⟨_, -, rfl⟩ | ⟨-, matched, new⟩ := acceptData_cases section_
    · cases stepped
    -- the part of the record that was delivered before is what was delivered
    have replayed : ∀ offset byte, record.byteAt offset = some byte → offset < state.receiving.recvNext →
        state.written[offset]? = some byte := by
      intro offset byte carries below
      have bounds := byteAt_bounds carries
      apply assembled.toAssembling.matched (matched (by omega))
      rw [(byteAt_take_drop _).1, if_pos (by omega)]
      exact carries
    obtain ⟨old, rfl, rfl⟩ | ⟨stored, beyond, kept, rest⟩ := new
    · cases stepped
      refine { assembled.toAssembling.replayed fun offset byte carries => ?_ with ahead := assembled.ahead }
      have bounds := byteAt_bounds carries
      exact replayed offset byte carries (bounds.2.trans_le old)
    have assembling : Assembling ⟨stored, state.written, record :: state.accepted⟩ := by
      refine assembled.toAssembling.stored kept (by dsimp only; omega) ?_ ?_
      · intro offset byte carries
        rw [(byteAt_take_drop _).2]
        by_cases below : offset < state.receiving.recvNext
        · exact .inl (replayed offset byte carries below)
        · have bounds := byteAt_bounds carries
          rw [if_pos (by omega)]
          exact .inr carries
      · intro offset byte carries
        rw [(byteAt_take_drop _).2] at carries
        exact (Option.ite_none_right_eq_some.1 carries).2
    cases progress with
    | fails err => cases stepped
    | acknowledges offset =>
      obtain ⟨rfl, waits⟩ := deliverNext_waits rest nofun
      cases stepped
      exact assembling.settle waits
    | delivers range =>
      obtain ⟨ready, pending, shape, -⟩ := deliverNext_delivers rest
      cases stepped
      apply Assembling.drain
      rw [shape]
      exact assembling.delivered pending ready

/-- A byte that an accepted record carries no later than the next offset was delivered. -/
theorem Assembled.delivered_of_carried (assembled : state.Assembled)
    (next : offset ≤ state.written.length) (among : record ∈ state.accepted)
    (carries : record.byteAt offset = some byte) : state.written[offset]? = some byte := by
  refine ((assembled.held offset byte).2 ⟨record, among, carries⟩).resolve_right ?_
  rintro ⟨range, member, holds⟩
  have ahead := assembled.ahead range member
  have bounds := byteAt_bounds holds
  have reached := assembled.next
  omega

theorem Assembled.written_length_le (first : state.Assembled) (second : other.Assembled)
    (same : ∀ record ∈ state.accepted, record ∈ other.accepted) :
    state.written.length ≤ other.written.length := by
  by_contra short
  obtain ⟨record, among, carries⟩ := (first.held other.written.length _).1
    (.inl (List.getElem?_eq_getElem (Nat.not_le.1 short)))
  have delivered := second.delivered_of_carried le_rfl (same record among) carries
  rw [List.getElem?_eq_none le_rfl] at delivered
  cases delivered

/-- The same records deliver the same bytes. -/
theorem Assembled.written_eq (first : state.Assembled) (second : other.Assembled)
    (same : ∀ record, record ∈ state.accepted ↔ record ∈ other.accepted) : state.written = other.written := by
  have some_ := first.written_length_le second fun record => (same record).1
  have all := second.written_length_le first fun record => (same record).2
  apply List.ext_getElem (by omega)
  intro offset mine theirs
  obtain ⟨record, among, carries⟩ := (first.held offset _).1 (.inl (List.getElem?_eq_getElem mine))
  have delivered := second.delivered_of_carried theirs.le ((same record).1 among) carries
  rw [List.getElem?_eq_getElem theirs] at delivered
  exact (Option.some.inj delivered).symm

theorem run_accepted {calls : List (Nat × ReceivedRange)} {last : Reassembly}
    (ran : run step state calls = some last) :
    ∀ record, record ∈ last.accepted ↔ record ∈ calls.map Prod.snd ∨ record ∈ state.accepted := by
  induction calls generalizing state with
  | nil =>
    cases ran
    simp
  | cons call calls ih =>
    obtain ⟨next, stepped, rest⟩ := (run_cons_eq_some _).1 ran
    have grown : next.accepted = call.2 :: state.accepted := by
      unfold step at stepped
      split at stepped <;> cases stepped <;> rfl
    intro record
    rw [ih rest, grown, List.map_cons, List.mem_cons, List.mem_cons, or_left_comm, or_assoc]

end Reassembly

/-- **Reassembly.**  Calls that return nil keep the ranges sorted, apart, ahead of what was
delivered and few, and hold or deliver for every offset the byte of every record that
carries it; calls for the same records in any order deliver the same bytes. -/
theorem reassembly_sound (calls : List (Nat × ReceivedRange)) :
    Throughout Reassembly.step Reassembly.Assembled .start calls ∧
      ∀ others last final, (∀ record, record ∈ calls.map Prod.snd ↔ record ∈ others.map Prod.snd) →
        run Reassembly.step .start calls = some last → run Reassembly.step .start others = some final →
        last.written = final.written ∧ last.receiving.recvNext = final.receiving.recvNext := by
  have sound : ∀ calls, Throughout Reassembly.step Reassembly.Assembled .start calls :=
    throughout_of_invariant (fun _ _ _ assembled stepped => assembled.step stepped)
      (Reassembly.Assembling.start.settle nofun)
  refine ⟨sound calls, ?_⟩
  intro others last final same ran again
  have first := (sound calls).last ran
  have second := (sound others).last again
  have written := first.written_eq second fun record => by
    rw [Reassembly.run_accepted ran, Reassembly.run_accepted again, same]
  exact ⟨written, by rw [first.next, second.next, written]⟩

end Ardents.Connection
