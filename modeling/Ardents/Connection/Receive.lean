/-
# Connection.Receive — ordered reassembly of one direction

The receive half of a Stream (`stream_receive.go`): the next offset owed to the
Application, the retained window of delivered bytes, and the ranges held out of
order.  `acceptData` runs in critical sections separated by the Application
write, so each section is one function here, and `Progress` says where the
worker stands after it.

`Holds source` says that every retained byte is the byte `source` has at its
offset.  Every section keeps it when the record it is given agrees with
`source`, whatever the order of arrival (`acceptData_holds`,
`delivered_holds`).  A record that starts at or below the next offset and not
below the retained window is never refused (`acceptData_inOrder`).
-/
import Ardents.Connection.Records
import Ardents.Lib.Segments

namespace Ardents.Connection

open Lib

set_option autoImplicit false

/-- The receive fields of `Stream`. -/
structure Receiving where
  recvNext : Nat
  recentAt : Nat
  recent : List UInt8
  pending : List ReceivedRange
  deriving DecidableEq, Repr

/-- Where `acceptData` stands when it releases `stream.mu`. -/
inductive Progress where
  | fails (err : StreamError)
  | delivers (range : ReceivedRange)
  | acknowledges (offset : Nat)
  deriving DecidableEq, Repr

namespace Receiving

def initial : Receiving := ⟨0, 0, [], []⟩

def pendingBytesLocked (receiving : Receiving) : Nat :=
  (receiving.pending.map fun range => range.data.length).sum

def trimRecentLocked (receiving : Receiving) (reserved : Nat) : Receiving :=
  let keep := logicalQueueLimit - reserved
  let trim := receiving.recent.length - keep
  { receiving with
    recent := receiving.recent.drop trim
    recentAt := receiving.recentAt + trim }

def matchesRecentLocked (receiving : Receiving) (offset : Nat) (data : List UInt8) : Bool :=
  decide (receiving.recentAt ≤ offset) &&
    decide (offset + data.length ≤ receiving.recentAt + receiving.recent.length) &&
    decide ((receiving.recent.drop (offset - receiving.recentAt)).take data.length = data)

/-- The two ranges share no byte and do not touch. -/
def apart (candidate existing : ReceivedRange) : Bool :=
  decide (candidate.stop < existing.offset) || decide (existing.stop < candidate.offset)

/-- The bytes both ranges carry are the same. -/
def consistent (candidate existing : ReceivedRange) : Bool :=
  let overlapStart := max candidate.offset existing.offset
  let overlapEnd := min candidate.stop existing.stop
  let shared (range : ReceivedRange) :=
    (range.data.drop (overlapStart - range.offset)).take (overlapEnd - overlapStart)
  decide (overlapEnd ≤ overlapStart) || decide (shared candidate = shared existing)

/-- One range over the union of two that touch. -/
def merged (candidate existing : ReceivedRange) : ReceivedRange :=
  let mergedStart := min candidate.offset existing.offset
  let mergedEnd := max candidate.stop existing.stop
  let blank := List.replicate (mergedEnd - mergedStart) 0
  { offset := mergedStart
    data := overlay (overlay blank (existing.offset - mergedStart) existing.data)
      (candidate.offset - mergedStart) candidate.data }

/-- The loop of `storeRangeLocked`: the ranges kept apart, and the candidate
grown over every range it touches.  `none` is a conflicting overlap. -/
def absorb : ReceivedRange → List ReceivedRange → Option (List ReceivedRange × ReceivedRange)
  | candidate, [] => some ([], candidate)
  | candidate, existing :: rest =>
    if apart candidate existing then
      (absorb candidate rest).map fun result => (existing :: result.1, result.2)
    else if consistent candidate existing then
      absorb (merged candidate existing) rest
    else none

/-- `none` is `ErrActiveViolation`: a conflict, more than eight ranges, or more
retained bytes than one direction may hold. -/
def storeRangeLocked (receiving : Receiving) (candidate : ReceivedRange) : Option Receiving :=
  match absorb candidate receiving.pending with
  | none => none
  | some (apartRanges, grown) =>
    let retained := (apartRanges ++ [grown]).insertionSort fun first second =>
      first.offset ≤ second.offset
    if maximumPendingRanges < retained.length then none
    else
      let stored := { receiving with pending := retained }
      let trimmed := stored.trimRecentLocked stored.pendingBytesLocked
      if logicalQueueLimit < trimmed.pendingBytesLocked + trimmed.recent.length then none
      else some trimmed

/-- The head of the delivery loop of `acceptData`. -/
def deliverNext (receiving : Receiving) (postClose : Bool) : Receiving × Progress :=
  match receiving.pending with
  | [] => (receiving, .acknowledges receiving.recvNext)
  | ready :: rest =>
    if ready.offset = receiving.recvNext then
      if postClose then (receiving, .fails .postCloseData)
      else ({ receiving with pending := rest }, .delivers ready)
    else (receiving, .acknowledges receiving.recvNext)

/-- `acceptData` up to its first Application write. -/
def acceptData (receiving : Receiving) (postClose : Bool) (limit offset : Nat)
    (payload : List UInt8) : Receiving × Progress :=
  let stop := offset + payload.length
  if payload.length = 0 ∨ 2 ^ 64 ≤ stop ∨ limit < stop then
    (receiving, .fails (.activeViolation ""))
  else if postClose then (receiving, .fails .postCloseData)
  else
    -- the replayed part, empty when the record starts at or after `recvNext`
    let replayed := min (receiving.recvNext - offset) payload.length
    if offset < receiving.recvNext ∧
        receiving.matchesRecentLocked offset (payload.take replayed) = false then
      (receiving, .fails (.activeViolation ""))
    else if payload.length ≤ replayed then (receiving, .acknowledges receiving.recvNext)
    else
      match receiving.storeRangeLocked ⟨offset + replayed, payload.drop replayed⟩ with
      | none => (receiving, .fails (.activeViolation ""))
      | some stored => stored.deliverNext postClose

/-- The section after a successful Application write. -/
def delivered (receiving : Receiving) (range : ReceivedRange) : Receiving :=
  let advanced := { receiving with
    recent := receiving.recent ++ range.data
    recvNext := receiving.recvNext + range.data.length }
  advanced.trimRecentLocked advanced.pendingBytesLocked

/-! ## What a section leaves alone -/

variable {receiving next : Receiving} {candidate range : ReceivedRange} {postClose : Bool} {offset : Nat}
  {payload : List UInt8} {limit reach : Nat} {stored : Receiving}

/-- What `storeRangeLocked` keeps: the ranges of its loop in order, with the retained window
cut to what is left of the queue. -/
theorem storeRangeLocked_cases (kept : receiving.storeRangeLocked candidate = some stored) :
    ∃ ranges grown, absorb candidate receiving.pending = some (ranges, grown) ∧
      stored.pending = (ranges ++ [grown]).insertionSort (fun first second => first.offset ≤ second.offset) ∧
      stored.pending.length ≤ maximumPendingRanges ∧
      stored.pendingBytesLocked + stored.recent.length ≤ logicalQueueLimit ∧
      stored = { receiving with pending := stored.pending }.trimRecentLocked stored.pendingBytesLocked := by
  unfold storeRangeLocked at kept
  split at kept
  · cases kept
  next ranges grown absorbed =>
  dsimp only at kept
  split at kept
  · cases kept
  next few =>
  split at kept
  · cases kept
  next bounded =>
  cases kept
  exact ⟨ranges, grown, absorbed, rfl, Nat.not_lt.1 few, Nat.not_lt.1 bounded, rfl⟩

theorem storeRangeLocked_recvNext
    (kept : receiving.storeRangeLocked candidate = some stored) : stored.recvNext = receiving.recvNext := by
  obtain ⟨_, _, _, _, _, _, shape⟩ := storeRangeLocked_cases kept
  rw [shape]
  rfl

theorem deliverNext_recvNext (receiving : Receiving) (postClose : Bool) :
    (receiving.deliverNext postClose).1.recvNext = receiving.recvNext := by
  unfold deliverNext
  split
  · rfl
  · split
    · split <;> rfl
    · rfl

/-- What `acceptData` does up to its first Application write: it fails, it finds nothing but
delivered bytes again, or it stores what is new and goes to the delivery loop. -/
theorem acceptData_cases {progress : Progress}
    (section_ : receiving.acceptData postClose limit offset payload = (next, progress)) :
    (∃ err, next = receiving ∧ progress = .fails err) ∨
      payload ≠ [] ∧ (offset < receiving.recvNext → receiving.matchesRecentLocked offset
        (payload.take (receiving.recvNext - offset)) = true) ∧
      (offset + payload.length ≤ receiving.recvNext ∧ next = receiving ∧
          progress = .acknowledges receiving.recvNext ∨
        ∃ stored, receiving.recvNext < offset + payload.length ∧
          receiving.storeRangeLocked ⟨offset + (receiving.recvNext - offset),
            payload.drop (receiving.recvNext - offset)⟩ = some stored ∧
          stored.deliverNext postClose = (next, progress)) := by
  unfold acceptData at section_
  dsimp only at section_
  split at section_
  · cases section_
    exact .inl ⟨_, rfl, rfl⟩
  next proper =>
  split at section_
  · cases section_
    exact .inl ⟨_, rfl, rfl⟩
  split at section_
  · cases section_
    exact .inl ⟨_, rfl, rfl⟩
  next matched =>
  have replayed : payload.take (min (receiving.recvNext - offset) payload.length) =
      payload.take (receiving.recvNext - offset) := by
    rw [← List.take_take, List.take_length]
  rw [replayed, not_and, Bool.not_eq_false] at matched
  have nonempty : payload ≠ [] := by grind
  split at section_
  · cases section_
    exact .inr ⟨nonempty, matched, .inl ⟨by grind, rfl, rfl⟩⟩
  next more =>
  have whole : min (receiving.recvNext - offset) payload.length = receiving.recvNext - offset := by
    omega
  rw [whole] at section_ more
  split at section_
  · cases section_
    exact .inl ⟨_, rfl, rfl⟩
  next stored kept =>
  exact .inr ⟨nonempty, matched, .inr ⟨stored, by omega, kept, section_⟩⟩

/-- Receiving a record never moves `recvNext`; only a completed Application
write does. -/
theorem acceptData_recvNext (receiving : Receiving) (postClose : Bool) (limit offset : Nat)
    (payload : List UInt8) :
    (receiving.acceptData postClose limit offset payload).1.recvNext = receiving.recvNext := by
  obtain ⟨_, same, -⟩ | ⟨-, -, ⟨-, same, -⟩ | ⟨stored, -, kept, rest⟩⟩ := acceptData_cases (Prod.eta _).symm
  · rw [same]
  · rw [same]
  · rw [← storeRangeLocked_recvNext kept, ← deliverNext_recvNext stored postClose, rest]

@[simp] theorem delivered_recvNext (receiving : Receiving) (range : ReceivedRange) :
    (receiving.delivered range).recvNext = receiving.recvNext + range.data.length := rfl

@[simp] theorem delivered_pending (receiving : Receiving) (range : ReceivedRange) :
    (receiving.delivered range).pending = receiving.pending := rfl

theorem deliverNext_acknowledges (section_ : receiving.deliverNext postClose = (next, .acknowledges offset)) :
    offset = receiving.recvNext := by
  unfold deliverNext at section_
  split at section_
  · cases section_
    rfl
  split at section_
  · split at section_ <;> cases section_
  · cases section_
    rfl

theorem deliverNext_delivers (section_ : receiving.deliverNext postClose = (next, .delivers range)) :
    range.offset = receiving.recvNext ∧ receiving.pending = range :: next.pending ∧
      next = { receiving with pending := next.pending } ∧ postClose = false := by
  unfold deliverNext at section_
  split at section_
  · cases section_
  rename_i ready rest pending
  split at section_
  · rename_i starts
    split at section_
    · cases section_
    · rename_i opened
      cases section_
      exact ⟨starts, pending, rfl, by simpa using opened⟩
  · cases section_

/-! ## Agreement with the sender's bytes -/

/-- Every retained byte is the byte `source` has at its offset. -/
structure Holds (source : Nat → Option UInt8) (receiving : Receiving) : Prop where
  window : receiving.recentAt + receiving.recent.length = receiving.recvNext
  recent : Agrees source receiving.recentAt receiving.recent
  pending : ∀ range ∈ receiving.pending, Agrees source range.offset range.data

theorem initial_holds (source : Nat → Option UInt8) : Holds source initial :=
  ⟨rfl, Agrees.nil 0, by simp [initial]⟩

variable {source : Nat → Option UInt8}

theorem Holds.trim (holds : Holds source receiving) (reserved : Nat) :
    Holds source (receiving.trimRecentLocked reserved) := by
  have fits : receiving.recent.length - (logicalQueueLimit - reserved) ≤ receiving.recent.length :=
    Nat.sub_le _ _
  refine ⟨?_, holds.recent.drop _ fits, holds.pending⟩
  have window := holds.window
  simp only [trimRecentLocked, List.length_drop]
  omega

theorem merged_agrees {existing : ReceivedRange} (touch : apart candidate existing = false)
    (first : Agrees source candidate.offset candidate.data)
    (second : Agrees source existing.offset existing.data) :
    Agrees source (merged candidate existing).offset (merged candidate existing).data ∧
      (merged candidate existing).stop = max candidate.stop existing.stop := by
  rw [apart, Bool.or_eq_false_iff, decide_eq_false_iff_not, decide_eq_false_iff_not] at touch
  simp only [ReceivedRange.stop] at touch
  have union : max candidate.stop existing.stop =
      max (existing.offset + existing.data.length) (candidate.offset + candidate.data.length) :=
    Nat.max_comm _ _
  have blank := List.length_replicate (a := (0 : UInt8))
    (n := max candidate.stop existing.stop - min candidate.offset existing.offset)
  obtain ⟨agrees, size⟩ := agrees_overlay_overlay second first (Nat.min_comm _ _) union (by omega)
    (by omega) blank
  refine ⟨agrees, ?_⟩
  rw [ReceivedRange.stop, merged, size]
  simp only [ReceivedRange.stop]
  omega

theorem absorb_agrees {ranges kept : List ReceivedRange} {grown : ReceivedRange}
    (absorbed : absorb candidate ranges = some (kept, grown))
    (first : Agrees source candidate.offset candidate.data)
    (rest : ∀ range ∈ ranges, Agrees source range.offset range.data) :
    ∀ range ∈ kept ++ [grown], Agrees source range.offset range.data := by
  induction ranges generalizing candidate kept with
  | nil =>
    cases absorbed
    simpa using first
  | cons existing ranges ih =>
    have here := rest existing (by simp)
    have later : ∀ range ∈ ranges, Agrees source range.offset range.data := fun range member =>
      rest range (by simp [member])
    unfold absorb at absorbed
    split at absorbed
    · rw [Option.map_eq_some_iff] at absorbed
      obtain ⟨result, found, same⟩ := absorbed
      cases same
      intro range member
      simp only [List.cons_append, List.mem_cons] at member
      rcases member with rfl | member
      · exact here
      · exact ih found first later range member
    · rename_i touch
      split at absorbed
      · exact ih absorbed (merged_agrees (by simpa using touch) first here).1 later
      · cases absorbed

theorem storeRangeLocked_holds (holds : Holds source receiving)
    (agrees : Agrees source candidate.offset candidate.data)
    (kept : receiving.storeRangeLocked candidate = some stored) : Holds source stored := by
  obtain ⟨ranges, grown, absorbed, pending, -, -, shape⟩ := storeRangeLocked_cases kept
  rw [shape]
  apply Holds.trim
  refine ⟨holds.window, holds.recent, fun range member => ?_⟩
  rw [pending, List.mem_insertionSort] at member
  exact absorb_agrees absorbed agrees holds.pending range member

theorem deliverNext_holds (holds : Holds source receiving) (postClose : Bool) :
    Holds source (receiving.deliverNext postClose).1 := by
  unfold deliverNext
  split
  · exact holds
  rename_i ready rest pending
  split
  · split
    · exact holds
    · exact ⟨holds.window, holds.recent, fun range member =>
        holds.pending range (by simp [pending, member])⟩
  · exact holds

/-- **Reception keeps agreement**: a record that agrees with the sender's bytes
leaves only such bytes behind, in whatever order records arrive. -/
theorem acceptData_holds (holds : Holds source receiving) (postClose : Bool) (limit : Nat)
    (agrees : Agrees source offset payload) :
    Holds source (receiving.acceptData postClose limit offset payload).1 := by
  obtain ⟨_, same, -⟩ | ⟨-, -, ⟨-, same, -⟩ | ⟨stored, new, kept, rest⟩⟩ := acceptData_cases (Prod.eta _).symm
  · rwa [same]
  · rwa [same]
  · have delivers := deliverNext_holds (storeRangeLocked_holds holds (agrees.drop _ (by omega)) kept) postClose
    rwa [rest] at delivers

/-- The range handed to the Application agrees and starts at `recvNext`. -/
theorem acceptData_delivers (holds : Holds source receiving) (agrees : Agrees source offset payload)
    (section_ : receiving.acceptData postClose limit offset payload = (next, .delivers range)) :
    range.offset = next.recvNext ∧ Agrees source range.offset range.data := by
  obtain ⟨_, -, ⟨⟩⟩ | ⟨-, -, ⟨-, -, ⟨⟩⟩ | ⟨stored, new, kept, rest⟩⟩ := acceptData_cases section_
  obtain ⟨starts, pending, shape, _⟩ := deliverNext_delivers rest
  have stored_holds := storeRangeLocked_holds holds (agrees.drop _ (by omega)) kept
  refine ⟨?_, stored_holds.pending range (by simp [pending])⟩
  rw [shape]
  exact starts

theorem acceptData_acknowledges {acknowledged : Nat}
    (section_ : receiving.acceptData postClose limit offset payload = (next, .acknowledges acknowledged)) :
    acknowledged = receiving.recvNext := by
  obtain ⟨_, -, ⟨⟩⟩ | ⟨-, -, ⟨-, -, ⟨⟩⟩ | ⟨stored, -, kept, rest⟩⟩ := acceptData_cases section_
  · rfl
  · rw [deliverNext_acknowledges rest, storeRangeLocked_recvNext kept]

theorem delivered_holds (holds : Holds source receiving) (starts : range.offset = receiving.recvNext)
    (agrees : Agrees source range.offset range.data) : Holds source (receiving.delivered range) := by
  apply Holds.trim
  refine ⟨?_, ?_, holds.pending⟩
  · have window := holds.window
    simp only [List.length_append]
    omega
  · refine Agrees.append_iff.mpr ⟨holds.recent, ?_⟩
    rw [holds.window, ← starts]
    exact agrees

/-! ## Records in order are never refused -/

theorem matchesRecentLocked_of_agrees (holds : Holds source receiving) {data : List UInt8}
    (agrees : Agrees source offset data) (retained : receiving.recentAt ≤ offset)
    (old : offset + data.length ≤ receiving.recvNext) : receiving.matchesRecentLocked offset data = true := by
  have window := holds.window
  unfold matchesRecentLocked
  simp only [Bool.and_eq_true, decide_eq_true_eq]
  refine ⟨⟨retained, by omega⟩, ?_⟩
  have kept := (holds.recent.drop (offset - receiving.recentAt) (by omega)).take data.length
  rw [Nat.add_sub_cancel' retained] at kept
  refine kept.eq_of_length agrees ?_
  simp only [List.length_take, List.length_drop]
  omega

/-- Storing into an empty buffer only fails when the range alone is too large. -/
theorem storeRangeLocked_empty (empty : receiving.pending = [])
    (fits : candidate.data.length ≤ logicalQueueLimit) : receiving.storeRangeLocked candidate =
      some ({ receiving with pending := [candidate] }.trimRecentLocked candidate.data.length) := by
  have bounded : ¬ logicalQueueLimit < candidate.data.length +
      (receiving.recent.length -
        (receiving.recent.length - (logicalQueueLimit - candidate.data.length))) := by
    omega
  simp [storeRangeLocked, empty, absorb, maximumPendingRanges, pendingBytesLocked,
    trimRecentLocked, bounded]

/-- How far the records handled so far reach: no byte is trimmed from the
retained window before the reach is a whole queue beyond it. -/
def Reached (receiving : Receiving) (reach : Nat) : Prop :=
  receiving.recvNext ≤ reach ∧ (receiving.recentAt = 0 ∨ receiving.recentAt + logicalQueueLimit ≤ reach)

theorem Reached.mono {further : Nat} (reached : Reached receiving reach) (le : reach ≤ further) :
    Reached receiving further := by
  obtain ⟨next, window⟩ := reached
  exact ⟨by omega, by omega⟩

theorem Reached.trim {reserved : Nat} (reached : Reached receiving reach)
    (window : receiving.recentAt + receiving.recent.length = receiving.recvNext)
    (fits : reserved ≤ logicalQueueLimit) (le : receiving.recvNext + reserved ≤ reach) :
    Reached (receiving.trimRecentLocked reserved) reach := by
  obtain ⟨next, kept⟩ := reached
  refine ⟨next, ?_⟩
  simp only [trimRecentLocked]
  omega

/-- **In-order acceptance.**  With nothing held out of order, an honest record
that starts at or below `recvNext` and inside the retained window is accepted:
it is either wholly old, or its new part is handed to the Application at once. -/
theorem acceptData_inOrder (holds : Holds source receiving)
    (agrees : Agrees source offset payload) (empty : receiving.pending = []) (nonempty : payload ≠ [])
    (small : payload.length ≤ logicalQueueLimit) (range : offset + payload.length < 2 ^ 64)
    (limited : offset + payload.length ≤ limit) (starts : offset ≤ receiving.recvNext)
    (retained : receiving.recentAt ≤ offset) (reached : Reached receiving reach)
    (ends : offset + payload.length ≤ reach) :
    receiving.acceptData false limit offset payload = (receiving, .acknowledges receiving.recvNext) ∧
        offset + payload.length ≤ receiving.recvNext ∨
      ∃ stored, receiving.acceptData false limit offset payload =
          (stored, .delivers ⟨receiving.recvNext, payload.drop (receiving.recvNext - offset)⟩) ∧
        stored.pending = [] ∧ Reached stored reach ∧ receiving.recvNext < offset + payload.length := by
  have positive : 0 < payload.length := List.length_pos_iff.mpr nonempty
  have matched : receiving.matchesRecentLocked offset
      (payload.take (min (receiving.recvNext - offset) payload.length)) = true := by
    refine matchesRecentLocked_of_agrees holds (agrees.take _) retained ?_
    simp only [List.length_take]
    omega
  unfold acceptData
  dsimp only
  rw [if_neg (by omega), if_neg (by simp), matched, if_neg (by simp)]
  by_cases old : offset + payload.length ≤ receiving.recvNext
  · left
    rw [if_pos (by omega)]
    exact ⟨rfl, old⟩
  right
  have count : min (receiving.recvNext - offset) payload.length = receiving.recvNext - offset := by
    omega
  rw [if_neg (by omega), count, Nat.add_sub_cancel' starts,
    storeRangeLocked_empty empty (by simp only [List.length_drop]; omega)]
  have fresh := List.length_drop (i := receiving.recvNext - offset) (l := payload)
  refine ⟨receiving.trimRecentLocked (payload.drop (receiving.recvNext - offset)).length,
    ?_, empty, Reached.trim reached holds.window (by omega) (by omega), by omega⟩
  simp [deliverNext, trimRecentLocked, empty]

theorem delivered_reached (holds : Holds source receiving) (reached : Reached receiving reach)
    (empty : receiving.pending = []) (ends : receiving.recvNext + range.data.length ≤ reach) :
    Reached (receiving.delivered range) reach := by
  have window := holds.window
  obtain ⟨_, kept⟩ := reached
  have none : (receiving.pending.map fun range => range.data.length).sum = 0 := by simp [empty]
  refine Reached.trim ⟨ends, kept⟩ ?_ ?_ ?_
  · simp only [List.length_append]
    omega
  · simp only [pendingBytesLocked, none]
    omega
  · simp only [pendingBytesLocked, none]
    omega

end Receiving

end Ardents.Connection
