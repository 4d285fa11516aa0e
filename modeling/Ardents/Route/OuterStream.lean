/-
# Route.OuterStream — what the reader of a lane gets

The bridge keeps the bytes of a lane and the handshake keeps its credit; `Linked` says
how the two views of one lane agree, and `Sound` that they do on every lane that is
alive.  A lane of a sound bridge is `Faithful`: its reader got a prefix of what was
accepted, nothing was dropped on the way, the end of the stream came last, and the
credit that went back is exactly what was read of the bytes behind the inner HELLO.

`Read` asks the handshake for credit only after it took its bytes, and the handshake
gives none once it accepted an EOF.  The bridge is therefore sound as long as no `Read`
is in between when the EOF of its lane was accepted.
-/
import Ardents.Route.OuterBridge

namespace Ardents.Route

open Lib Table ClosedOuterHandshake

set_option autoImplicit false

/-! ## What the handshake does to its children -/

variable {answer : Except OuterError (List UInt8)} {size : Nat}

namespace ClosedOuterHandshake

/-- What a handshake keeps when it only changes children. -/
structure Same (before after : ClosedOuterHandshake) : Prop where
  closed : after.closed = before.closed
  hold : after.hold = before.hold
  lastOdd : after.lastOdd = before.lastOdd

/-- What accepting a frame does to the children of a handshake. -/
inductive Effect (before : ClosedOuterHandshake) (frame : ClosedLaneFrame) :
    Except OuterError (List UInt8) → ClosedOuterHandshake → Prop where
  | refused {refusal : OuterError} {after : ClosedOuterHandshake} (same : Same before after)
      (children : after.children = before.children) : Effect before frame (.error refusal) after
  | hello {after : ClosedOuterHandshake} (kind : frame.kind = .closedFrameHello)
      (same : Same before after) (children : after.children = before.children) :
      Effect before frame (.ok []) after
  | opened {after : ClosedOuterHandshake} {child : ClosedOuterChild}
      (kind : frame.kind = .closedFrameOpen) (closed : after.closed = before.closed)
      (hold : after.hold = before.hold) (higher : before.lastOdd < frame.lane)
      (lastOdd : after.lastOdd = frame.lane)
      (children : after.children = before.children.put frame.lane child)
      (credit : child.credit = closedOuterLaneCredit) (queued : child.queued = 0)
      (innerHello : child.innerHello = false) (eof : child.eof = false) :
      Effect before frame (.ok []) after
  | bytes {after : ClosedOuterHandshake} {child child' : ClosedOuterChild}
      (kind : frame.kind = .closedFrameBytes) (same : Same before after)
      (found : before.children.find frame.lane = some child) (open_ : child.eof = false)
      (children : after.children = before.children.put frame.lane child')
      (innerHello : child'.innerHello = child.innerHello) (eof : child'.eof = child.eof)
      (counts : child.innerHello = false ∧ child'.credit = child.credit ∧
          child'.queued = child.queued ∨
        child.innerHello = true ∧ frame.body.length % 2 ^ 32 ≤ child.credit ∧
          child'.credit = child.credit - frame.body.length % 2 ^ 32 ∧
          child'.queued = (child.queued + frame.body.length % 2 ^ 32) % 2 ^ 32) :
      Effect before frame (.ok frame.body) after
  | eof {after : ClosedOuterHandshake} {child : ClosedOuterChild}
      (kind : frame.kind = .closedFrameEOF) (same : Same before after)
      (found : before.children.find frame.lane = some child) (begun : child.innerHello = true)
      (children : after.children = before.children.put frame.lane { child with eof := true }) :
      Effect before frame (.ok []) after
  | closed {after : ClosedOuterHandshake} {child : ClosedOuterChild}
      (kind : frame.kind = .closedFrameClose)
      (found : before.children.find frame.lane = some child)
      (closed : after.closed = before.closed) (lastOdd : after.lastOdd = before.lastOdd)
      (hold : after.hold = .retire) (children : after.children = before.children.erase frame.lane) :
      Effect before frame (.ok []) after

variable {limits : ClosedDutyLimits} {handshake : ClosedOuterHandshake} {frame : ClosedLaneFrame}
  {clock : Readings}

theorem Same.refl (handshake : ClosedOuterHandshake) : Same handshake handshake := ⟨rfl, rfl, rfl⟩

theorem openChild_effect (kind : frame.kind = .closedFrameOpen) (now : Time) :
    Effect handshake frame (handshake.openChild limits frame now).1
      (handshake.openChild limits frame now).2.2 := by
  unfold openChild
  split
  · exact .refused (.refl _) rfl
  next laneValid =>
  split
  · exact .refused (.refl _) rfl
  split
  · exact .refused (.refl _) rfl
  split
  · exact .refused (.refl _) rfl
  next fresh =>
  have higher : handshake.lastOdd < frame.lane := UInt32.not_le.1 (not_or.1 (not_or.1 laneValid).2).2
  split
  · exact .refused ⟨rfl, rfl, rfl⟩ rfl
  · exact .opened kind rfl rfl higher rfl rfl rfl rfl rfl rfl

theorem bytes_effect (kind : frame.kind = .closedFrameBytes) :
    Effect handshake frame (handshake.bytes limits frame clock).1
      (handshake.bytes limits frame clock).2.2 := by
  unfold bytes
  split
  · exact .refused (.refl _) rfl
  next child found =>
  split
  · exact .refused (.refl _) rfl
  next allowed =>
  have open_ : child.eof = false := by
    simp only [Bool.or_eq_true, not_or, Bool.not_eq_true] at allowed
    exact allowed.1.1.2
  dsimp only
  split
  · next early =>
    split
    · exact .refused (.refl _) rfl
    · exact .bytes kind ⟨rfl, rfl, rfl⟩ found open_ rfl rfl rfl
        (.inl ⟨by simpa using early, rfl, rfl⟩)
  next begun =>
  split
  · exact .refused (.refl _) rfl
  next room =>
  split
  · exact .refused (.refl _) rfl
  · exact .bytes kind ⟨rfl, rfl, rfl⟩ found open_ rfl rfl rfl
      (.inr ⟨by simpa using begun, Nat.not_lt.1 (not_or.1 room).1, rfl, rfl⟩)

theorem accept_effect : Effect handshake frame (handshake.accept limits frame clock).1
      (handshake.accept limits frame clock).2.2 := by
  unfold accept
  split
  · exact .refused (.refl _) rfl
  split
  · unfold acceptHello
    split
    · exact .refused (.refl _) rfl
    next helloFrame =>
    split
    · exact .refused (.refl _) rfl
    split
    · exact .refused (.refl _) rfl
    · exact .hello (by simpa using (not_or.1 helloFrame).1) ⟨rfl, rfl, rfl⟩ rfl
  split
  · next kind => exact openChild_effect kind clock.second
  · next kind => exact bytes_effect kind
  · next kind =>
    unfold eof
    split
    · exact .refused (.refl _) rfl
    next child found =>
    split
    · exact .refused (.refl _) rfl
    next allowed =>
    simp only [Bool.or_eq_true, not_or, Bool.not_eq_true, Bool.not_eq_eq_eq_not, Bool.not_true,
      Bool.not_eq_false] at allowed
    exact .eof kind ⟨rfl, rfl, rfl⟩ found allowed.1.1 rfl
  · next kind =>
    unfold close
    split
    · exact .refused (.refl _) rfl
    next child found =>
    split
    · exact .refused (.refl _) rfl
    · exact .closed kind found rfl rfl rfl rfl
  · exact .refused (.refl _) rfl

variable {child : ClosedOuterChild} {after : ClosedOuterHandshake} {lane : UInt32}

/-- The handshake returns the credit of bytes that wait on a lane, as long as the lane
has not ended and the Carrier has not expired. -/
theorem consumeInnerBytes_of_live {bytes : Nat}
    (open_ : handshake.closed = false) (some_ : bytes ≠ 0)
    (inTime : clock.first.before handshake.receiver.deadline = true)
    (found : handshake.children.find lane = some child) (begun : child.innerHello = true)
    (live : child.eof = false) (waiting : bytes ≤ child.queued)
    (window : child.credit + child.queued = closedOuterLaneCredit) :
    handshake.consumeInnerBytes limits lane bytes clock =
      (.ok ⟨.closedFrameCredit, lane, bigEndian 4 bytes⟩, limits.dequeue bytes,
        handshake.setChild lane
          { child with queued := child.queued - bytes, credit := child.credit + bytes }) := by
  have room := minus_of_le 32 (show child.credit ≤ closedOuterLaneCredit by omega)
  have covered : ¬closedOuterLaneCredit - child.credit < bytes := by omega
  have held : ¬child.queued < bytes := by omega
  unfold consumeInnerBytes
  rw [if_neg (by simp [open_, some_, inTime]), found]
  simp only [room, ClosedDutyChannel.noting_false]
  rw [if_neg (by simp [begun, live, held, covered])]

/-- No child has a lane above the last one that was opened. -/
def Below (handshake : ClosedOuterHandshake) : Prop :=
  ∀ lane child, handshake.children.find lane = some child → lane ≤ handshake.lastOdd

theorem Below.put (below : handshake.Below) {child' : ClosedOuterChild}
    (found : handshake.children.find lane = some child)
    (children : after.children = handshake.children.put lane child')
    (lastOdd : after.lastOdd = handshake.lastOdd) : after.Below := by
  intro other value held
  rw [children, find_put] at held
  rw [lastOdd]
  split at held
  · next same => exact same ▸ below lane child found
  · exact below other value held

theorem Effect.below
    (effect : Effect handshake frame answer after) (below : handshake.Below) : after.Below := by
  cases effect with
  | refused same children =>
    intro lane child found
    exact same.lastOdd ▸ below lane child (children ▸ found)
  | hello _ same children =>
    intro lane child found
    exact same.lastOdd ▸ below lane child (children ▸ found)
  | opened _ _ _ higher lastOdd children =>
    intro lane child found
    rw [children, find_put] at found
    rw [lastOdd]
    split at found
    · next same => exact same ▸ UInt32.le_refl _
    · exact UInt32.le_of_lt (UInt32.lt_of_le_of_lt (below lane child found) higher)
  | bytes _ same found _ children => exact below.put found children same.lastOdd
  | eof _ same found _ children => exact below.put found children same.lastOdd
  | closed _ _ _ lastOdd _ children =>
    intro lane child found
    rw [children, find_erase] at found
    split at found
    · cases found
    · exact lastOdd ▸ below lane child found

/-- A frame changes the child of its own lane only. -/
theorem Effect.others (effect : Effect handshake frame answer after) :
    after.closed = handshake.closed ∧
      ∀ lane, lane ≠ frame.lane → after.children.find lane = handshake.children.find lane := by
  cases effect with
  | refused same children => exact ⟨same.closed, fun _ _ => children ▸ rfl⟩
  | hello _ same children => exact ⟨same.closed, fun _ _ => children ▸ rfl⟩
  | opened _ closed _ _ _ children =>
    exact ⟨closed, fun _ differs => by rw [children, find_put, if_neg (Ne.symm differs)]⟩
  | bytes _ same _ _ children =>
    exact ⟨same.closed, fun _ differs => by rw [children, find_put, if_neg (Ne.symm differs)]⟩
  | eof _ same _ _ children =>
    exact ⟨same.closed, fun _ differs => by rw [children, find_put, if_neg (Ne.symm differs)]⟩
  | closed _ _ closed _ _ children =>
    exact ⟨closed, fun _ differs => by rw [children, find_erase, if_neg (Ne.symm differs)]⟩

/-- Whatever it answers, `ConsumeInnerBytes` touches no other lane. -/
theorem consumeInnerBytes_frame (limits : ClosedDutyLimits) (clock : Readings)
    (below : handshake.Below) (lane : UInt32) (bytes : Nat) :
    Same handshake (handshake.consumeInnerBytes limits lane bytes clock).2.2 ∧
      (handshake.consumeInnerBytes limits lane bytes clock).2.2.Below ∧
      ∀ other, other ≠ lane →
        (handshake.consumeInnerBytes limits lane bytes clock).2.2.children.find other =
          handshake.children.find other := by
  unfold consumeInnerBytes
  split
  · exact ⟨.refl _, below, fun _ _ => rfl⟩
  split
  · exact ⟨.refl _, below, fun _ _ => rfl⟩
  next child found =>
  dsimp only
  split
  · exact ⟨⟨rfl, rfl, rfl⟩, below, fun _ _ => rfl⟩
  refine ⟨⟨rfl, rfl, rfl⟩, below.put found rfl rfl, ?_⟩
  intro other differs
  show (handshake.children.put lane _).find other = _
  rw [find_put, if_neg (Ne.symm differs)]

end ClosedOuterHandshake

/-! ## A lane and its child -/

namespace ClosedOuterBridgeLane

/-- The bytes that a `Read` in progress has taken. -/
def taken (lane : ClosedOuterBridgeLane) : List UInt8 := (lane.reading.map Prod.fst).getD []

/-- The credit that a `Read` in progress is about to return. -/
def pending (lane : ClosedOuterBridgeLane) : Nat := (lane.reading.map Prod.snd).getD 0

/-- A lane of the bridge agrees with the child of the handshake. -/
structure Linked (child : ClosedOuterChild) (lane : ClosedOuterBridgeLane) : Prop where
  innerHello : lane.innerHello = child.innerHello
  inputEOF : lane.inputEOF = child.eof
  conserved : lane.history.accepted = lane.history.returned ++ lane.taken ++ lane.buffer
  bounded : lane.buffer.length ≤ closedOuterLaneCredit
  window : child.credit + child.queued = closedOuterLaneCredit
  early : lane.innerHello = false → lane.unaccounted = 0 ∧ lane.reading = none ∧
    lane.history.credit = 0 ∧ lane.inputEOF = false
  unread : lane.unaccounted ≤ lane.buffer.length
  queued : lane.innerHello = true →
    lane.pending + (lane.buffer.length - lane.unaccounted) ≤ child.queued
  -- every byte that left the buffer was there before the inner HELLO, or is credited
  credited : lane.innerHello = true → lane.history.returned.length + lane.taken.length +
    lane.unaccounted = lane.history.early + lane.history.credit + lane.pending
  first : 0 < lane.unaccounted → lane.history.credit = 0 ∧ lane.reading = none
  covers : lane.pending ≤ lane.taken.length
  straddles : lane.pending < lane.taken.length → lane.history.credit = 0
  positive : ∀ value credit, lane.reading = some (value, credit) → 0 < credit
  ended : lane.history.ended = true →
    lane.inputEOF = true ∧ lane.buffer = [] ∧ lane.reading = none

/-- The stream that the reader of a lane sees. -/
structure Faithful (lane : ClosedOuterBridgeLane) : Prop where
  inOrder : lane.history.returned <+: lane.history.accepted
  keeps : lane.history.accepted = lane.history.returned ++ lane.taken ++ lane.buffer
  ends : lane.history.ended = true →
    lane.inputEOF = true ∧ lane.history.returned = lane.history.accepted
  credits : lane.history.credit =
    if lane.innerHello then lane.history.returned.length - lane.history.early else 0

variable {child child' : ClosedOuterChild} {lane : ClosedOuterBridgeLane}

theorem Linked.faithful (linked : Linked child lane) : lane.Faithful where
  inOrder := ⟨lane.taken ++ lane.buffer, by rw [linked.conserved, List.append_assoc]⟩
  keeps := linked.conserved
  ends := by
    intro ended
    obtain ⟨eof, empty, idle⟩ := linked.ended ended
    refine ⟨eof, ?_⟩
    rw [linked.conserved, empty, taken, idle]
    simp
  credits := by
    cases begun : lane.innerHello with
    | false => exact (linked.early begun).2.2.1
    | true =>
      have credited := linked.credited begun
      have straddles := linked.straddles
      have first := linked.first
      rw [if_pos rfl]
      by_cases early : 0 < lane.unaccounted
      · obtain ⟨none, idle⟩ := first early
        simp only [taken, pending, idle, Option.map_none, Option.getD_none, List.length_nil]
          at credited
        omega
      by_cases part : lane.pending < lane.taken.length
      · omega
      · have covers := linked.covers
        omega

theorem linked_new (restriction : ClosedChildRestriction)
    (credit : child.credit = closedOuterLaneCredit) (queued : child.queued = 0)
    (innerHello : child.innerHello = false) (eof : child.eof = false) :
    Linked child (new restriction) where
  innerHello := innerHello.symm
  inputEOF := eof.symm
  conserved := rfl
  bounded := Nat.zero_le _
  window := by rw [credit, queued, Nat.add_zero]
  early := fun _ => ⟨rfl, rfl, rfl, rfl⟩
  unread := Nat.le_refl _
  queued := nofun
  credited := nofun
  first := nofun
  covers := Nat.le_refl _
  straddles := nofun
  positive := nofun
  ended := nofun

/-- BYTES use the credit of a lane once its inner HELLO is there. -/
def Counts (child child' : ClosedOuterChild) (count : Nat) : Prop :=
  child.innerHello = false ∧ child'.credit = child.credit ∧ child'.queued = child.queued ∨
    child.innerHello = true ∧ count ≤ child.credit ∧ child'.credit = child.credit - count ∧
      child'.queued = (child.queued + count) % 2 ^ 32

variable {rest : List UInt8} {count : Nat}

/-- The handshake has accepted BYTES for the lane; until they are fed, and also when
they are not, the lane is as it was. -/
theorem Linked.accepted (linked : Linked child lane)
    (innerHello : child'.innerHello = child.innerHello) (eof : child'.eof = child.eof)
    (counts : Counts child child' count) :
    Linked child' lane ∧ (lane.innerHello = true → child'.queued = child.queued + count) := by
  have window := linked.window
  rcases counts with ⟨early, credit, queued⟩ | ⟨begun, within, credit, queued⟩
  · refine ⟨{ linked with
      innerHello := linked.innerHello.trans innerHello.symm
      inputEOF := linked.inputEOF.trans eof.symm
      window := by rw [credit, queued]; exact window
      queued := by rw [queued]; exact linked.queued }, fun begun => ?_⟩
    cases early.symm.trans (linked.innerHello.symm.trans begun)
  · simp only [closedOuterLaneCredit] at window
    have more : child'.queued = child.queued + count := by
      rw [queued]
      exact Nat.mod_eq_of_lt (by omega)
    refine ⟨{ linked with
      innerHello := linked.innerHello.trans innerHello.symm
      inputEOF := linked.inputEOF.trans eof.symm
      window := by simp only [closedOuterLaneCredit]; omega
      queued := fun open_ => (linked.queued open_).trans (by omega) }, fun _ => more⟩

variable {value : List UInt8} {after : ClosedOuterBridgeLane}

/-- Bytes are fed only to a lane that is still open, and within its window. -/
theorem feed_eq_some (fed : lane.feed value = some after) :
    lane.inputEOF = false ∧ lane.buffer.length + value.length ≤ closedOuterLaneCredit ∧
      after = { lane with
        buffer := lane.buffer ++ value
        history := { lane.history with accepted := lane.history.accepted ++ value } } := by
  have small : (if lane.innerHello then closedOuterLaneCredit else closedOuterHandshakeBytes) ≤
      closedOuterLaneCredit := by
    split <;> decide
  unfold feed at fed
  dsimp only at fed
  generalize (if lane.innerHello then closedOuterLaneCredit else closedOuterHandshakeBytes) = limit
    at small fed
  split at fed
  · cases fed
  next allowed =>
  simp only [Bool.or_eq_true, decide_eq_true_eq, not_or, Nat.not_lt, Bool.not_eq_true] at allowed
  cases fed
  exact ⟨allowed.1.2, allowed.2.trans small, rfl⟩

theorem Linked.feed (linked : Linked child lane) (innerHello : child'.innerHello = child.innerHello)
    (eof : child'.eof = child.eof)
    (counts : Counts child child' (value.length % 2 ^ 32)) (fed : lane.feed value = some after) :
    Linked child' after := by
  obtain ⟨linked', more⟩ := linked.accepted innerHello eof counts
  obtain ⟨open_, fits, after_eq⟩ := feed_eq_some fed
  subst after_eq
  refine { linked' with
    conserved := ?_, bounded := ?_, unread := ?_, queued := ?_, ended := ?_ }
  · show lane.history.accepted ++ value = lane.history.returned ++ lane.taken ++ (lane.buffer ++ value)
    rw [linked.conserved]
    simp
  · rw [List.length_append]
    exact fits
  · have unread := linked.unread
    show lane.unaccounted ≤ (lane.buffer ++ value).length
    rw [List.length_append]
    omega
  · intro begun
    have before := linked.queued begun
    have small : value.length % 2 ^ 32 = value.length :=
      Nat.mod_eq_of_lt (by simp only [closedOuterLaneCredit] at fits; omega)
    rw [more begun, small]
    show lane.pending + ((lane.buffer ++ value).length - lane.unaccounted) ≤ _
    rw [List.length_append]
    omega
  · intro ended
    cases open_.symm.trans (linked.ended ended).1

theorem Linked.finishInput (linked : Linked child lane) (begun : child.innerHello = true) :
    Linked { child with eof := true } lane.finishInput :=
  { linked with
    inputEOF := rfl
    early := fun early => nomatch early.symm.trans (linked.innerHello.trans begun)
    ended := fun ended => ⟨rfl, (linked.ended ended).2⟩ }

theorem Linked.beginInnerHello (linked : Linked child lane) (early : lane.innerHello = false) :
    Linked { child with innerHello := true } { lane with
      innerHello := true
      unaccounted := lane.buffer.length % 2 ^ 32
      history := { lane.history with early := lane.history.accepted.length } } := by
  obtain ⟨_, idle, credit, open_⟩ := linked.early early
  have bounded := linked.bounded
  have conserved := linked.conserved
  have small : lane.buffer.length % 2 ^ 32 = lane.buffer.length :=
    Nat.mod_eq_of_lt (by simp only [closedOuterLaneCredit] at bounded; omega)
  rw [small]
  refine { linked with
    innerHello := rfl, early := (by rintro ⟨⟩), unread := Nat.le_refl _, queued := ?_, credited := ?_,
    first := ?_ }
  · simp [pending, idle]
  · simp only [taken, pending, idle, Option.map_none, Option.getD_none, List.append_nil] at conserved ⊢
    rw [conserved, credit, List.length_append]
    simp
  · intro _
    exact ⟨credit, idle⟩

theorem accountRead_eq (small : count < 2 ^ 32) : lane.accountRead count =
      if count ≤ lane.unaccounted then (0, lane.unaccounted - count)
      else (count - lane.unaccounted, 0) := by
  rw [accountRead, Nat.mod_eq_of_lt small]

/-- `Read` returns bytes that came before the inner HELLO. -/
theorem Linked.readEarly (linked : Linked child lane) (idle : lane.reading = none)
    (cut : lane.buffer = value ++ rest) (some_ : lane.buffer ≠ [])
    (covered : lane.innerHello = true → value.length ≤ lane.unaccounted) :
    Linked child ({ lane with buffer := rest, unaccounted := lane.unaccounted - value.length }.returns
      value 0) := by
  have conserved := linked.conserved
  have credited := linked.credited
  have queued := linked.queued
  have bounded := linked.bounded
  have unread := linked.unread
  rw [cut, List.length_append] at bounded unread
  simp only [taken, pending, idle, cut, Option.map_none, Option.getD_none, List.append_nil,
    List.length_nil, List.length_append] at conserved credited queued
  refine { linked with
    conserved := ?_, bounded := ?_, early := ?_, unread := ?_, queued := ?_, credited := ?_,
    first := ?_, covers := Nat.le_refl _, straddles := ?_, positive := nofun, ended := ?_ }
  · simpa [ClosedOuterBridgeLane.returns, taken] using conserved
  · exact (Nat.le_add_left _ _).trans bounded
  · intro early
    obtain ⟨none, _, credit, open_⟩ := linked.early early
    refine ⟨?_, rfl, credit, open_⟩
    show lane.unaccounted - value.length = 0
    omega
  · show lane.unaccounted - value.length ≤ rest.length
    omega
  · intro begun
    have before := queued begun
    have early := covered begun
    show 0 + (rest.length - (lane.unaccounted - value.length)) ≤ child.queued
    omega
  · intro begun
    have before := credited begun
    have early := covered begun
    show (lane.history.returned ++ value).length + 0 + (lane.unaccounted - value.length) =
      lane.history.early + (lane.history.credit + 0) + 0
    rw [List.length_append]
    omega
  · intro more
    have more' : 0 < lane.unaccounted - value.length := more
    exact ⟨(linked.first (by omega)).1, rfl⟩
  · intro less
    exact absurd less (Nat.lt_irrefl _)
  · intro ended
    exact absurd (linked.ended ended).2.1 some_

/-- `Read` has taken bytes for which it owes credit. -/
theorem Linked.readCredited (linked : Linked child lane) (idle : lane.reading = none)
    (cut : lane.buffer = value ++ rest) (some_ : lane.buffer ≠ []) (begun : lane.innerHello = true)
    (more : lane.unaccounted < value.length) : Linked child { lane with
      buffer := rest, unaccounted := 0
      reading := some (value, value.length - lane.unaccounted) } := by
  have conserved := linked.conserved
  have credited := linked.credited begun
  have queued := linked.queued begun
  have bounded := linked.bounded
  have unread := linked.unread
  have first := linked.first
  rw [cut, List.length_append] at bounded unread
  simp only [taken, pending, idle, cut, Option.map_none, Option.getD_none, List.append_nil,
    List.length_nil, List.length_append] at conserved credited queued
  refine { linked with
    conserved := ?_, bounded := ?_, early := ?_, unread := Nat.zero_le _, queued := ?_, credited := ?_,
    first := nofun, covers := Nat.sub_le _ _, straddles := ?_, positive := ?_, ended := ?_ }
  · simpa [taken] using conserved
  · exact (Nat.le_add_left _ _).trans bounded
  · intro early
    cases begun.symm.trans early
  · intro _
    show value.length - lane.unaccounted + (rest.length - 0) ≤ child.queued
    omega
  · intro _
    show lane.history.returned.length + value.length + 0 =
      lane.history.early + lane.history.credit + (value.length - lane.unaccounted)
    omega
  · intro less
    have less' : value.length - lane.unaccounted < value.length := less
    exact (first (by omega)).1
  · intro _ _ same
    cases same
    omega
  · intro ended
    exact absurd (linked.ended ended).2.1 some_

theorem Linked.readTake (linked : Linked child lane) (alive : lane.dead = false)
    (idle : lane.reading = none) (took : lane.readTake size = some after) : Linked child after := by
  have bounded := linked.bounded
  unfold ClosedOuterBridgeLane.readTake at took
  split at took
  · next empty =>
    simp only [alive, Bool.false_or] at took
    split at took
    · next eof =>
      cases took
      exact { linked with ended := fun _ => ⟨eof, empty, idle⟩ }
    · cases took
  next some_ =>
  have cut := (List.take_append_drop size lane.buffer).symm
  have small : (lane.buffer.take size).length < 2 ^ 32 := by
    simp only [closedOuterLaneCredit] at bounded
    simp only [List.length_take]
    omega
  dsimp only at took
  rw [accountRead_eq small] at took
  by_cases covered : (lane.buffer.take size).length ≤ lane.unaccounted
  · rw [if_pos covered] at took
    simp only [ne_eq, not_true_eq_false, decide_false, Bool.and_false, Bool.false_eq_true,
      if_false, Option.some.injEq] at took
    exact took ▸ linked.readEarly idle cut some_ fun _ => covered
  rw [if_neg covered] at took
  have more := Nat.not_le.1 covered
  cases begun : lane.innerHello with
  | false =>
    simp only [begun, Bool.false_and, Bool.false_eq_true, if_false, Option.some.injEq] at took
    have same : lane.unaccounted - (lane.buffer.take size).length = 0 := by omega
    have early := linked.readEarly idle cut some_ fun begun' => by cases begun.symm.trans begun'
    rw [same, begun] at early
    exact took ▸ early
  | true =>
    have owed : (lane.buffer.take size).length - lane.unaccounted ≠ 0 := by omega
    simp only [begun, owed, ne_eq, not_false_eq_true, decide_true, Bool.and_self, if_true,
      Option.some.injEq] at took
    have owing := linked.readCredited idle cut some_ begun more
    rw [begun] at owing
    exact took ▸ owing

theorem readTake_dead (took : lane.readTake size = some after) : after.dead = lane.dead := by
  unfold readTake at took
  split at took
  · split at took
    · cases took
      rfl
    · cases took
  dsimp only at took
  split at took
  all_goals
    cases took
    rfl

theorem Linked.returns (linked : Linked child lane) {credit : Nat} (begun : lane.innerHello = true)
    (reading : lane.reading = some (value, credit)) :
    Linked { child with queued := child.queued - credit, credit := child.credit + credit }
      (lane.returns value credit) := by
  have conserved := linked.conserved
  have credited := linked.credited begun
  have queued := linked.queued begun
  have window := linked.window
  have covers := linked.covers
  have positive := linked.positive value credit reading
  simp only [taken, pending, reading, Option.map_some, Option.getD_some] at conserved credited queued covers
  refine { linked with
    conserved := ?_, window := ?_, early := ?_, queued := ?_, credited := ?_, first := ?_, covers := ?_,
    straddles := ?_, positive := ?_, ended := ?_ }
  · simpa [ClosedOuterBridgeLane.returns, taken] using conserved
  · dsimp only
    omega
  · intro early
    cases begun.symm.trans early
  · intro _
    show 0 + (lane.buffer.length - lane.unaccounted) ≤ child.queued - credit
    omega
  · intro _
    show (lane.history.returned ++ value).length + 0 + lane.unaccounted =
      lane.history.early + (lane.history.credit + credit) + 0
    rw [List.length_append]
    omega
  · intro early
    cases reading.symm.trans (linked.first early).2
  · exact Nat.le_refl _
  · intro less
    exact absurd less (Nat.lt_irrefl _)
  · intro _ _ none
    cases none
  · intro ended
    cases reading.symm.trans (linked.ended ended).2.2

end ClosedOuterBridgeLane

/-! ## The bridge and its handshake -/

namespace ClosedOuterBridge

open ClosedOuterBridgeLane (Linked)

/-- Every live lane of the bridge has its child, and is not taken for a retired one. -/
structure Sound (bridge : ClosedOuterBridge) : Prop where
  open_ : bridge.handshake.closed = false
  idle : bridge.handshake.hold = .idle
  lanes : ∀ id lane, bridge.lanes.find id = some lane → lane.dead = false →
    id ∉ bridge.retired ∧ id ≤ bridge.handshake.lastOdd ∧
      ∃ child, bridge.handshake.children.find id = some child ∧ Linked child lane
  gone : ∀ id ∈ bridge.retired, id ≤ bridge.handshake.lastOdd
  below : bridge.handshake.Below

variable {bridge : ClosedOuterBridge} {frame : ClosedLaneFrame} {context : BridgeContext}

theorem new_sound (receiver : ClosedOuterReceiver) (duty : ClosedDutyChannel) :
    (new (.new receiver duty)).Sound where
  open_ := rfl
  idle := rfl
  lanes := by intro id lane found; cases found
  gone := by
    intro id member
    have zero := List.eq_of_mem_replicate member
    subst zero
    exact UInt32.zero_le
  below := by intro lane child found; cases found

/-- A handshake whose held work is done. -/
structure Released (after handshake : ClosedOuterHandshake) : Prop where
  children : handshake.children = after.children
  closed : handshake.closed = after.closed
  lastOdd : handshake.lastOdd = after.lastOdd
  hold : handshake.hold = .idle

/-- The handshake accepts a frame to the end. -/
theorem handshakeAccept_effect (frame : ClosedLaneFrame) (context : BridgeContext)
    {handshake : ClosedOuterHandshake} (idle : handshake.hold = .idle) :
    ∃ after, Effect handshake frame (handshakeAccept handshake frame context).1 after ∧
      Released after (handshakeAccept handshake frame context).2 := by
  have effect : Effect handshake frame
      (handshake.accept context.limits frame context.clock).1
      (handshake.accept context.limits frame context.clock).2.2 := accept_effect
  unfold handshakeAccept
  generalize handshake.accept context.limits frame context.clock = result at effect ⊢
  obtain ⟨answer, limits, after⟩ := result
  have holds : after.hold = .idle ∨ after.hold = .retire := by
    cases effect with
    | refused same _ => exact .inl (same.hold.trans idle)
    | hello _ same _ => exact .inl (same.hold.trans idle)
    | opened _ _ hold => exact .inl (hold.trans idle)
    | bytes _ same => exact .inl (same.hold.trans idle)
    | eof _ same => exact .inl (same.hold.trans idle)
    | closed _ _ _ _ hold => exact .inr hold
  rcases holds with quiet | retire
  · have none : after.resume limits 0 = none := by rw [ClosedOuterHandshake.resume, quiet]
    dsimp only
    rw [none]
    exact ⟨after, effect, rfl, rfl, rfl, quiet⟩
  have resumed : after.resume limits 0 = some ((after.duty.releaseChild limits).1,
      { after with duty := (after.duty.releaseChild limits).2, hold := .idle }) := by
    rw [ClosedOuterHandshake.resume, retire]
  dsimp only
  rw [resumed]
  exact ⟨after, effect, rfl, rfl, rfl, rfl⟩

/-- A handshake that differs from the bridge's one at most in the child of one lane. -/
structure Beside (bridge : ClosedOuterBridge) (id : UInt32) (handshake : ClosedOuterHandshake) : Prop where
  closed : handshake.closed = bridge.handshake.closed
  hold : handshake.hold = .idle
  lastOdd : handshake.lastOdd = bridge.handshake.lastOdd
  below : handshake.Below
  others : ∀ other, other ≠ id → handshake.children.find other = bridge.handshake.children.find other

variable {id : UInt32} {lane lane' : ClosedOuterBridgeLane} {handshake after : ClosedOuterHandshake}
  {child child' : ClosedOuterChild}

theorem mem_of_mem_set {list : List UInt32} {index : Nat} {value other : UInt32}
    (member : other ∈ list.set index value) : other = value ∨ other ∈ list :=
  (List.mem_or_eq_of_mem_set member).symm

variable {value : List UInt8} {credited : Nat}

section Calls

variable (sound : bridge.Sound)

include sound

theorem Sound.stillBelow
    (effect : Effect bridge.handshake frame answer after) (released : Released after handshake) :
    handshake.Below := by
  intro lane child found
  exact released.lastOdd ▸ effect.below sound.below lane child (released.children ▸ found)

/-- What an accepted frame leaves, unless it opens a lane. -/
theorem Sound.beside (effect : Effect bridge.handshake frame answer after)
    (released : Released after handshake) (lastOdd : after.lastOdd = bridge.handshake.lastOdd) :
    bridge.Beside frame.lane handshake where
  closed := released.closed.trans effect.others.1
  hold := released.hold
  lastOdd := released.lastOdd.trans lastOdd
  below := sound.stillBelow effect released
  others := fun other differs => by
    rw [released.children]
    exact effect.others.2 other differs

/-- One child of the handshake is changed. -/
theorem Sound.besideChild (held : bridge.handshake.children.find id = some child) :
    bridge.Beside id (bridge.handshake.setChild id child') where
  closed := rfl
  hold := sound.idle
  lastOdd := rfl
  below := sound.below.put held rfl rfl
  others := fun other differs => by
    show (bridge.handshake.children.put id child').find other = _
    rw [find_put, if_neg (Ne.symm differs)]

theorem Sound.alone : bridge.Beside id bridge.handshake :=
  ⟨rfl, sound.idle, rfl, sound.below, fun _ _ => rfl⟩

/-- Writing one lane that stays linked keeps the bridge sound. -/
theorem Sound.setLane (found : bridge.lanes.find id = some lane)
    (alive : lane'.dead = false → lane.dead = false) (beside : bridge.Beside id handshake)
    (linked : lane'.dead = false → ∀ child, bridge.handshake.children.find id = some child →
      Linked child lane → ∃ child', handshake.children.find id = some child' ∧ Linked child' lane') :
    Sound ({ bridge with handshake }.setLane id lane') where
  open_ := beside.closed.trans sound.open_
  idle := beside.hold
  lanes := by
    intro other value at_ live
    simp only [ClosedOuterBridge.setLane, find_put] at at_
    split at at_
    · next same =>
      cases at_
      subst same
      obtain ⟨present, within, child, kept, link⟩ := sound.lanes _ lane found (alive live)
      exact ⟨present, beside.lastOdd ▸ within, linked live child kept link⟩
    next differs =>
    obtain ⟨present, within, child, kept, link⟩ := sound.lanes other value at_ live
    exact ⟨present, beside.lastOdd ▸ within, child, (beside.others other (Ne.symm differs)).trans kept,
      link⟩
  gone := fun other member => beside.lastOdd ▸ sound.gone other member
  below := beside.below

/-- Changes of the handshake that no lane of the bridge sees. -/
theorem Sound.swap (beside : bridge.Beside id handshake)
    (linked : ∀ child lane, bridge.lanes.find id = some lane →
      bridge.handshake.children.find id = some child → Linked child lane →
        ∃ child', handshake.children.find id = some child' ∧ Linked child' lane) :
    Sound { bridge with handshake } where
  open_ := beside.closed.trans sound.open_
  idle := beside.hold
  lanes := by
    intro other lane found live
    obtain ⟨present, within, child, kept, link⟩ := sound.lanes other lane found live
    refine ⟨present, beside.lastOdd ▸ within, ?_⟩
    by_cases same : other = id
    · subst same
      exact linked child lane found kept link
    · exact ⟨child, (beside.others other same).trans kept, link⟩
  gone := fun other member => beside.lastOdd ▸ sound.gone other member
  below := beside.below

/-- A lane that leaves is remembered as retired. -/
theorem Sound.retireLane (beside : bridge.Beside id handshake) (within : id ≤ bridge.handshake.lastOdd) :
    Sound ({ bridge with handshake }.retireLane id) where
  open_ := beside.closed.trans sound.open_
  idle := beside.hold
  lanes := by
    intro other value at_ live
    simp only [ClosedOuterBridge.retireLane, rememberRetired, find_erase] at at_
    split at at_
    · cases at_
    next differs =>
    obtain ⟨present, below, child, kept, link⟩ := sound.lanes other value at_ live
    refine ⟨?_, beside.lastOdd ▸ below, child, (beside.others other (Ne.symm differs)).trans kept, link⟩
    intro member
    rcases mem_of_mem_set member with same | old
    · exact differs same.symm
    · exact present old
  gone := by
    intro other member
    rcases mem_of_mem_set member with same | old
    · subst same
      exact beside.lastOdd ▸ within
    · exact beside.lastOdd ▸ sound.gone other old
  below := beside.below

/-- What a lane may send does not matter to its reader. -/
theorem Sound.setCredit (found : bridge.lanes.find id = some lane) (credit : Nat) :
    (bridge.setLane id { lane with outboundCredit := credit }).Sound := by
  refine sound.setLane found ?_ sound.alone ?_
  · exact fun live => live
  · intro live child held link
    exact ⟨child, held, { link with }⟩

theorem credit_sound : (bridge.credit frame).2.Sound := by
  unfold credit
  split
  · exact sound
  split
  · exact sound
  next lane found =>
  dsimp only
  split
  · exact sound
  · exact sound.setCredit found _

/-- What `Accept` leaves after the handshake took the frame. -/
theorem dispatch_sound {bytes : List UInt8} (effect : Effect bridge.handshake frame (.ok bytes) after)
    (released : Released after handshake) :
    ({ bridge with handshake }.dispatch frame bytes context).2.Sound := by
  have beside := sound.beside effect released
  have below := sound.stillBelow effect released
  have children := released.children
  cases effect with
  | hello kind same kept =>
    simp only [dispatch, kind]
    refine sound.swap (beside same.lastOdd) ?_
    intro child lane _ found link
    exact ⟨child, by rw [children, kept]; exact found, link⟩
  | opened kind closed hold higher lastOdd put credit queued innerHello eof =>
    simp only [dispatch, kind]
    -- the new lane is above every lane there ever was
    have rises {id : UInt32} (within : id ≤ bridge.handshake.lastOdd) : id < frame.lane :=
      UInt32.lt_of_le_of_lt within higher
    refine ⟨released.closed.trans (closed.trans sound.open_), released.hold, ?_, ?_, below⟩
    · intro id lane at_ live
      simp only [ClosedOuterBridge.setLane, find_put] at at_
      show id ∉ bridge.retired ∧ id ≤ handshake.lastOdd ∧
        ∃ child, handshake.children.find id = some child ∧ Linked child lane
      rw [released.lastOdd, lastOdd, children, put]
      split at at_
      · next same =>
        cases at_
        subst same
        refine ⟨fun member => ?_, UInt32.le_refl _, _, by rw [find_put, if_pos rfl],
          ClosedOuterBridgeLane.linked_new _ credit queued innerHello eof⟩
        exact UInt32.lt_irrefl _ (rises (sound.gone _ member))
      next differs =>
      obtain ⟨present, within, child, kept, link⟩ := sound.lanes id lane at_ live
      exact ⟨present, UInt32.le_of_lt (rises within), child,
        by rw [find_put, if_neg differs]; exact kept, link⟩
    · intro id member
      show id ≤ handshake.lastOdd
      rw [released.lastOdd, lastOdd]
      exact UInt32.le_of_lt (rises (sound.gone id member))
  | @bytes after child child' kind same found open_ put innerHello eof counts =>
    have now : handshake.children.find frame.lane = some child' := by
      rw [children, put, find_put, if_pos rfl]
    have unfed : Sound { bridge with handshake } := by
      refine sound.swap (beside same.lastOdd) ?_
      intro value lane _ held link
      cases found.symm.trans held
      exact ⟨child', now, (link.accepted innerHello eof counts).1⟩
    simp only [dispatch, kind]
    split
    · exact unfed
    next lane at_ =>
    split
    · exact unfed
    next fed_lane fed =>
    refine sound.setLane at_ ?_ (beside same.lastOdd) ?_
    · obtain ⟨_, _, after_eq⟩ := ClosedOuterBridgeLane.feed_eq_some fed
      intro live
      rw [after_eq] at live
      exact live
    · intro live value held link
      cases found.symm.trans held
      exact ⟨child', now, link.feed innerHello eof counts fed⟩
  | @eof after child kind same found begun put =>
    have now : handshake.children.find frame.lane = some { child with eof := true } := by
      rw [children, put, find_put, if_pos rfl]
    simp only [dispatch, kind]
    split
    · next absent =>
      refine sound.swap (beside same.lastOdd) ?_
      intro value lane at_
      cases absent.symm.trans at_
    next lane at_ =>
    refine sound.setLane at_ ?_ (beside same.lastOdd) ?_
    · exact fun live => live
    · intro live value held link
      cases found.symm.trans held
      exact ⟨_, now, link.finishInput begun⟩
  | @closed after child kind found closed lastOdd hold gone =>
    simp only [dispatch, kind]
    split
    · next absent =>
      refine sound.swap (beside lastOdd) ?_
      intro value lane at_
      cases absent.symm.trans at_
    next lane at_ =>
    split
    · exact sound.retireLane (beside lastOdd) (sound.below _ _ found)
    refine sound.setLane at_ ?_ (beside lastOdd) ?_
    · intro live
      cases live
    · intro live
      cases live

/-- A refusal of the handshake leaves every lane as it is. -/
theorem refused_sound {refusal : OuterError} (effect : Effect bridge.handshake frame (.error refusal) after)
    (released : Released after handshake) : Sound { bridge with handshake } := by
  have beside := sound.beside effect released
  cases effect with
  | refused same kept =>
    refine sound.swap (beside same.lastOdd) ?_
    intro child lane _ found link
    exact ⟨child, by rw [released.children, kept]; exact found, link⟩

theorem accept_sound : (bridge.accept frame context).2.Sound := by
  unfold accept
  split
  · exact sound
  split
  · exact sound
  split
  · exact credit_sound sound
  obtain ⟨after, effect, released⟩ := handshakeAccept_effect frame context sound.idle
  split
  · next refusal handshake answer =>
    rw [answer] at effect released
    exact refused_sound sound effect released
  next bytes handshake answer =>
  rw [answer] at effect released
  exact dispatch_sound sound effect released

theorem closeLocal_sound {status : UInt8} : (bridge.closeLocal id status context).2.Sound := by
  unfold closeLocal
  split
  · exact sound
  obtain ⟨after, effect, released⟩ :=
    handshakeAccept_effect ⟨.closedFrameClose, id, [status]⟩ context sound.idle
  split
  · next refusal handshake answer =>
    rw [answer] at effect released
    exact refused_sound sound effect released
  next bytes handshake answer =>
  rw [answer] at effect released
  have beside := sound.beside effect released
  cases effect with
  | closed _ found _ lastOdd _ _ => exact sound.retireLane (beside lastOdd) (sound.below _ _ found)
  | _ => contradiction

/-- An operation of the handshake that changes one child, and its lane with it. -/
theorem Sound.setChild (found : bridge.lanes.find id = some lane)
    (alive : lane'.dead = false → lane.dead = false)
    (held : bridge.handshake.children.find id = some child)
    (linked : lane'.dead = false → Linked child lane → Linked child' lane') :
    Sound ({ bridge with handshake := bridge.handshake.setChild id child' }.setLane id lane') := by
  refine sound.setLane found alive (sound.besideChild held) ?_
  intro live value at_ link
  cases held.symm.trans at_
  refine ⟨child', ?_, linked live link⟩
  show (bridge.handshake.children.put id child').find id = _
  rw [find_put, if_pos rfl]

theorem beginInnerHello_sound : (bridge.beginInnerHello id context).2.Sound := by
  unfold beginInnerHello
  split
  · exact sound
  next lane found =>
  split
  · exact sound
  next allowed =>
  have early : lane.innerHello = false := by
    simp only [Bool.or_eq_true, not_or, Bool.not_eq_true] at allowed
    exact allowed.1.2
  rcases beginInnerHello_changes id with ⟨refusal, refused⟩ | ⟨child, held, begun⟩
  · rw [refused]
    exact sound
  rw [begun]
  refine sound.setChild found ?_ held ?_
  · exact fun live => live
  · exact fun _ link => link.beginInnerHello early

theorem activate_sound {hello : ClosedHello} : (bridge.activate id hello context).2.Sound := by
  unfold activate
  split
  · exact sound
  next lane found =>
  split
  · exact sound
  rcases verifyInnerHello_changes id hello with ⟨refusal, refused⟩ | ⟨child, held, verified⟩
  · rw [refused]
    exact sound
  rw [verified]
  refine sound.setChild found ?_ held ?_
  · exact fun live => live
  · exact fun _ link => { link with }

theorem bindAdmission_sound {lease : ClosedAdmission} :
    (bridge.bindAdmission id lease context).2.Sound := by
  unfold bindAdmission
  rcases bindAdmission_changes id lease with ⟨refusal, refused⟩ | ⟨child, held, bound⟩
  · rw [refused]
    exact sound
  rw [bound]
  refine sound.swap (sound.besideChild held) ?_
  intro value lane _ at_ link
  cases held.symm.trans at_
  show ∃ child', (bridge.handshake.children.put id _).find id = some child' ∧ _
  rw [find_put, if_pos rfl]
  exact ⟨_, rfl, { link with }⟩

theorem close_sound : bridge.close.Sound := by
  unfold close
  split
  · exact sound
  · exact { sound with lanes := by intro id lane found; cases found }

theorem readTake_sound {after : ClosedOuterBridgeLane}
    (found : bridge.lanes.find id = some lane) (idle : lane.reading = none)
    (took : lane.readTake size = some after) : (bridge.setLane id after).Sound := by
  refine sound.setLane found ?_ sound.alone ?_
  · intro live
    exact (ClosedOuterBridgeLane.readTake_dead took).symm.trans live
  · intro live child held link
    exact ⟨child, held, link.readTake ((ClosedOuterBridgeLane.readTake_dead took).symm.trans live)
      idle took⟩

/-- A lane that is dead stays so, whatever the handshake answers to its `Read`. -/
theorem Sound.readReturn_dead (found : bridge.lanes.find id = some lane) (dead : lane.dead = true) :
    (bridge.readReturn id lane value credited context).Sound := by
  have frame := consumeInnerBytes_frame context.limits context.clock sound.below id
    credited
  unfold readReturn
  generalize bridge.handshake.consumeInnerBytes context.limits id credited context.clock = result
    at frame ⊢
  obtain ⟨answer, limits, handshake⟩ := result
  obtain ⟨same, below, others⟩ := frame
  have stays (lane' : ClosedOuterBridgeLane) (dead' : lane'.dead = true) :
      Sound ({ bridge with handshake }.setLane id lane') :=
    sound.setLane found (fun live => nomatch dead'.symm.trans live)
      ⟨same.closed, same.hold.trans sound.idle, same.lastOdd, below, others⟩
      (fun live => nomatch dead'.symm.trans live)
  cases answer with
  | error refusal => exact stays _ dead
  | ok credit =>
    dsimp only
    split
    · exact stays _ dead
    · exact stays _ dead

end Calls

/-! ## Streams -/

/-- The premise that nothing fails from outside: the credit of a `Read` is returned
before the Carrier's deadline, and its write succeeds. -/
def inTime (bridge : ClosedOuterBridge) : BridgeEvent → Bool
  | .readReturn _ context =>
    context.writes && context.clock.first.before bridge.handshake.receiver.deadline
  | _ => true

/-- No `Read` returns credit on a lane whose EOF was accepted already. -/
def beforeEOF (bridge : ClosedOuterBridge) : BridgeEvent → Bool
  | .readReturn id _ =>
    match bridge.handshake.children.find id with
    | some child => !child.eof
    | none => true
  | _ => true

theorem readReturn_sound (sound : bridge.Sound) (found : bridge.lanes.find id = some lane)
    (reading : lane.reading = some (value, credited))
    (timely : bridge.inTime (.readReturn id context) = true)
    (early : bridge.beforeEOF (.readReturn id context) = true) :
    (bridge.readReturn id lane value credited context).Sound := by
  simp only [inTime, Bool.and_eq_true] at timely
  obtain ⟨writes, timely⟩ := timely
  by_cases dead : lane.dead = true
  · exact sound.readReturn_dead found dead
  obtain ⟨_, _, child, held, link⟩ := sound.lanes id lane found (by simpa using dead)
  have some_ : credited ≠ 0 := Nat.pos_iff_ne_zero.1 (link.positive value credited reading)
  have begun : lane.innerHello = true := by
    cases before : lane.innerHello with
    | true => rfl
    | false => cases reading.symm.trans (link.early before).2.1
  have waiting := link.queued begun
  simp only [ClosedOuterBridgeLane.pending, reading, Option.map_some, Option.getD_some] at waiting
  have live : child.eof = false := by simpa [beforeEOF, held] using early
  unfold readReturn
  rw [consumeInnerBytes_of_live sound.open_ some_ timely held
    (link.innerHello.symm.trans begun) live (by omega) link.window]
  simp only [writes, if_true]
  refine sound.setChild found ?_ held ?_
  · exact fun live => live
  · exact fun _ link => link.returns begun reading

theorem step_sound (sound : bridge.Sound) {event : BridgeEvent} {next : ClosedOuterBridge}
    (timely : bridge.inTime event = true) (early : bridge.beforeEOF event = true)
    (stepped : bridge.step event = some next) : next.Sound := by
  cases event with
  | accept frame context =>
    cases stepped
    exact accept_sound sound
  | beginInnerHello id context =>
    cases stepped
    exact beginInnerHello_sound sound
  | activate id hello context =>
    cases stepped
    exact activate_sound sound
  | bindAdmission id lease context =>
    cases stepped
    exact bindAdmission_sound sound
  | closeLocal id status context =>
    cases stepped
    exact closeLocal_sound sound
  | close =>
    cases stepped
    exact close_sound sound
  | readTake id size =>
    simp only [step] at stepped
    split at stepped
    · cases stepped
    next lane found =>
    split at stepped
    · cases stepped
    next allowed =>
    obtain ⟨after, took, same⟩ := Option.map_eq_some_iff.1 stepped
    cases same
    have idle : lane.reading = none := by
      simp only [Bool.or_eq_true, not_or, Bool.not_eq_true, Option.isSome_eq_false_iff,
        Option.isNone_iff_eq_none] at allowed
      exact allowed.1
    exact readTake_sound sound found idle took
  | readReturn id context =>
    simp only [step] at stepped
    split at stepped
    · cases stepped
    next lane found =>
    obtain ⟨⟨value, credited⟩, reading, same⟩ := Option.map_eq_some_iff.1 stepped
    cases same
    exact readReturn_sound sound found reading timely early
  | write id size =>
    simp only [step] at stepped
    split at stepped
    · cases stepped
    next lane found =>
    split at stepped
    · cases stepped
    cases stepped
    exact sound.setCredit found _

/-- As long as no `Read` returns credit on a lane behind its EOF, every lane is a
faithful byte stream until it is closed. -/
theorem lane_stream_faithful (receiver : ClosedOuterReceiver) (duty : ClosedDutyChannel)
    (events : List BridgeEvent)
    (timely : Along step (fun bridge event => bridge.inTime event = true)
      (new (.new receiver duty)) events)
    (early : Along step (fun bridge event => bridge.beforeEOF event = true)
      (new (.new receiver duty)) events) :
    Throughout step (fun bridge => ∀ id lane, bridge.lanes.find id = some lane →
      lane.dead = false → lane.Faithful) (new (.new receiver duty)) events := by
  have sound : Throughout step Sound (new (.new receiver duty)) events :=
    Along.throughout
      (fun _ _ _ sound allowed stepped => step_sound sound allowed.1 allowed.2 stepped)
      (new_sound receiver duty) (timely.and early)
  refine sound.imp ?_
  intro bridge sound id lane found live
  obtain ⟨_, _, child, _, link⟩ := sound.lanes id lane found live
  exact link.faithful

/-! ## An EOF behind unread bytes -/

/-- A byte repeated over a block. -/
def mark (byte : UInt8) : Block 32 := Digest.filled byte

def adjacentReceiver : ClosedOuterReceiver :=
  { networkID := mark 1, stateGeneration := mark 2, stateDigest := mark 3, profileDigest := mark 4,
    nodeID := mark 5, dutyGeneration := 1,
    roleDomain := closedRoleDomainInitiator, subrole := closedDutyAdjacent, deadline := .ofUnix 100 }

def opened : ClosedOuterBridge := new (.new adjacentReceiver ⟨0, 0, false, false⟩)

/-- One second after the epoch, on a Carrier that writes. -/
def calm : BridgeContext :=
  ⟨.new, ⟨.ofUnix 1, .ofUnix 1, .ofUnix 1⟩, true, true⟩

def helloBody : List UInt8 :=
  (mark 1).bytes ++ (mark 2).bytes ++ (mark 3).bytes ++ (mark 4).bytes ++ (mark 5).bytes ++
    bigEndian 8 1 ++ [7] ++ (mark 7).bytes ++ bigEndian 8 90

def openBody : List UInt8 := (mark 5).bytes ++ bigEndian 8 1 ++ [7] ++ bigEndian 8 80 ++ [0]

/-- Lane 1 is opened, and one byte before and two bytes after its inner HELLO are
accepted; the reader takes the first two of them. -/
def twoOfThree : List BridgeEvent :=
  [.accept ⟨.closedFrameHello, 0, helloBody⟩ calm, .accept ⟨.closedFrameOpen, 1, openBody⟩ calm,
    .accept ⟨.closedFrameBytes, 1, [10]⟩ calm, .beginInnerHello 1 calm,
    .accept ⟨.closedFrameBytes, 1, [11, 12]⟩ calm, .readTake 1 2, .readReturn 1 calm]

def endOfLane : BridgeEvent := .accept ⟨.closedFrameEOF, 1, []⟩ calm

/-- The reader takes the last byte, the EOF comes, and the reader sees it. -/
def readBeforeEOF : List BridgeEvent :=
  twoOfThree ++ [.readTake 1 5, .readReturn 1 calm, endOfLane, .readTake 1 5]

/-- The EOF comes while the last byte is in the buffer. -/
def readBehindEOF : List BridgeEvent :=
  twoOfThree ++ [endOfLane, .readTake 1 5, .readReturn 1 calm, .readTake 1 5]

/-- Lane 1 at the end of a run. -/
def laneAfter (events : List BridgeEvent) : Option ClosedOuterBridgeLane :=
  (run step opened events).bind fun bridge => bridge.lanes.find 1

/-- Lane 1 behind its EOF, with nothing in its buffer and no `Read` in progress. -/
def drained (history : LaneHistory) : ClosedOuterBridgeLane :=
  ⟨.ordinary, [], true, false, true, false, 0, closedOuterLaneCredit, none, history⟩

theorem readBeforeEOF_faithful :
    laneAfter readBeforeEOF = some (drained ⟨[10, 11, 12], [10, 11, 12], 1, 2, true⟩) ∧
      (drained ⟨[10, 11, 12], [10, 11, 12], 1, 2, true⟩).Faithful := by
  have reached :
      laneAfter readBeforeEOF = some (drained ⟨[10, 11, 12], [10, 11, 12], 1, 2, true⟩) := by
    decide +kernel
  obtain ⟨last, ran, found⟩ := Option.bind_eq_some_iff.1 reached
  have faithful := lane_stream_faithful adjacentReceiver ⟨0, 0, false, false⟩
    readBeforeEOF (by decide +kernel) (by decide +kernel)
  exact ⟨reached, faithful.last ran 1 _ found rfl⟩

/-- All frames are accepted in time and every write succeeds, and yet the last byte is
lost and the reader gets `io.EOF` behind the second one. -/
theorem readBehindEOF_loses :
    Along step (fun bridge event => bridge.inTime event = true) opened readBehindEOF ∧
      laneAfter readBehindEOF = some (drained ⟨[10, 11, 12], [10, 11], 1, 1, true⟩) :=
  ⟨by decide +kernel, by decide +kernel⟩

end ClosedOuterBridge

end Ardents.Route
