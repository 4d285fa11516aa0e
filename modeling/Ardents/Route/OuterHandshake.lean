/-
# Route.OuterHandshake — the lanes of an outer Carrier

`closed_outer_handshake.go` and `closed_outer_admission.go`: the state machine of one
authenticated outer Carrier.  After the outer HELLO every lane is opened by the peer,
receives at most 4 KiB before its inner HELLO, and has 64 KiB of credit afterwards.

As for a forwarding channel, an operation holds the handshake's mutex and is cut after
each call into the limits of the duty; `Hold` is what it still has to do.  `closed` is
`handshake.duty == nil`.  An operation that reads the clock several times gets a
reading for each.
-/
import Ardents.Route.ForwardingAccounts

namespace Ardents.Route

open Lib Table

set_option autoImplicit false

def closedOuterHandshakeBytes : Nat := 4096
def closedOuterLaneCredit : Nat := 65536

structure ClosedOuterReceiver where
  networkID : Block 32
  stateGeneration : Block 32
  stateDigest : Block 32
  profileDigest : Block 32
  nodeID : Block 32
  dutyGeneration : Nat
  roleDomain : UInt8
  subrole : UInt8
  deadline : Time
  deriving DecidableEq

structure ClosedOuterChild where
  deadline : Time
  pendingDeadline : Time
  hello : Option ClosedHello
  restriction : ClosedChildRestriction
  admitted : Bool
  purpose : ClosedPurpose
  bytes : Nat
  credit : Nat
  queued : Nat
  innerHello : Bool
  active : Bool
  eof : Bool
  deriving DecidableEq

structure ClosedOuterHandshake where
  receiver : ClosedOuterReceiver
  duty : ClosedDutyChannel
  closed : Bool
  hello : Bool
  lastOdd : UInt32
  children : Table UInt32 ClosedOuterChild
  hold : Hold

/-- The readings of the clock in one operation. -/
structure Readings where
  first : Time
  second : Time
  third : Time

inductive OuterError where
  | unavailable
  | helloRequired
  | helloUnavailable
  | frameUnavailable
  | laneInvalid
  | openUnavailable
  | laneReused
  | handshakeBytes
  | laneBytes
  | laneEOF
  | laneClose
  | innerHello
  | laneCredit
  | admission
  deriving DecidableEq, Repr

/-- What an admission offers to the lane it was made on. -/
structure ClosedAdmission where
  cls : UInt8
  deadline : Time
  bytes : Nat
  hello : ClosedHello
  live : Bool

def closedOuterAdmissionClass (lease : ClosedAdmission) : Bool :=
  (lease.cls == 2 && (decide (lease.hello.purpose = .forwarding) ||
      decide (lease.hello.purpose = .dataJoin))) ||
    (lease.cls == 1 && (decide (lease.hello.purpose = .issuer) ||
      decide (lease.hello.purpose = .reachability) || decide (lease.hello.purpose = .submission))) ||
    (lease.cls == 3 && decide (lease.hello.purpose = .introduction))

namespace ClosedOuterHandshake

/-- What an operation answers, with the limits and the handshake after its first part. -/
abbrev Answer (α : Type) : Type := Except OuterError α × ClosedDutyLimits × ClosedOuterHandshake

/-- `NewClosedOuterHandshake`, once `duty` was reserved. -/
def new (receiver : ClosedOuterReceiver) (duty : ClosedDutyChannel) : ClosedOuterHandshake :=
  { receiver, duty, closed := false, hello := false, lastOdd := 0, children := Table.empty,
    hold := .idle }

/-- `handshake.children[lane] = child`. -/
def setChild (handshake : ClosedOuterHandshake) (lane : UInt32) (child : ClosedOuterChild) :
    ClosedOuterHandshake :=
  { handshake with children := handshake.children.put lane child }

/-- The facts of a HELLO that name the receiver. -/
def namesReceiver (receiver : ClosedOuterReceiver) (hello : ClosedHello) : Bool :=
  decide (hello.networkID = receiver.networkID) &&
    decide (hello.stateGeneration = receiver.stateGeneration) &&
    decide (hello.stateDigest = receiver.stateDigest) &&
    decide (hello.profileDigest = receiver.profileDigest) &&
    decide (hello.recipientNodeID = receiver.nodeID) &&
    decide (hello.recipientDutyGeneration = receiver.dutyGeneration)

def matchesHello (handshake : ClosedOuterHandshake) (hello : ClosedHello) (now : Time) : Bool :=
  namesReceiver handshake.receiver hello && decide (hello.purpose = .forwarding) &&
    hello.deadline.after now && !hello.deadline.after handshake.receiver.deadline

/-- The handshake once `duty` has a place for a child on `lane`. -/
def inserted (handshake : ClosedOuterHandshake) (duty : ClosedDutyChannel) (lane : UInt32)
    (child : ClosedOuterChild) : ClosedOuterHandshake :=
  { handshake with duty, lastOdd := lane, children := handshake.children.put lane child }

def openChild (limits : ClosedDutyLimits) (handshake : ClosedOuterHandshake)
    (frame : ClosedLaneFrame) (now : Time) : Answer (List UInt8) :=
  if frame.lane = 0 ∨ frame.lane % 2 = 0 ∨ frame.lane ≤ handshake.lastOdd then
    (.error .laneInvalid, limits, handshake)
  else
    match decodeClosedNodeOpen frame.body with
    | .error _ => (.error .openUnavailable, limits, handshake)
    | .ok (opens, restriction) =>
      if decide (opens.nextNodeID ≠ handshake.receiver.nodeID) ||
          decide (opens.nextDutyGeneration ≠ handshake.receiver.dutyGeneration) ||
          !closedPurposePermitsDuty opens.purpose handshake.receiver.roleDomain
            handshake.receiver.subrole ||
          !opens.deadline.after now || opens.deadline.after handshake.receiver.deadline ||
          (decide (restriction = .issuerBootstrap) &&
            opens.deadline.after (now.addSeconds 10)) then
        (.error .openUnavailable, limits, handshake)
      else if (handshake.children.find frame.lane).isSome then
        (.error .laneReused, limits, handshake)
      else
        match handshake.duty.reserveChild limits with
        | (false, limits, duty) => (.error .laneReused, limits, { handshake with duty })
        | (true, limits, duty) =>
          (.ok [], limits, handshake.inserted duty frame.lane
            { deadline := opens.deadline
              pendingDeadline := (now.addSeconds 10).earlier opens.deadline
              hello := none, restriction, admitted := false, purpose := opens.purpose
              bytes := 0, credit := closedOuterLaneCredit, queued := 0
              innerHello := false, active := false, eof := false })

/-- BYTES: before the inner HELLO they only count towards its bound, afterwards they
take credit and are queued. -/
def bytes (limits : ClosedDutyLimits) (handshake : ClosedOuterHandshake) (frame : ClosedLaneFrame)
    (clock : Readings) : Answer (List UInt8) :=
  match handshake.children.find frame.lane with
  | none => (.error .handshakeBytes, limits, handshake)
  | some child =>
    if frame.body = [] || child.eof || !clock.second.before child.deadline ||
        (!child.admitted && !clock.third.before child.pendingDeadline) then
      (.error .handshakeBytes, limits, handshake)
    else
      let bytes := frame.body.length % 2 ^ 32
      if !child.innerHello then
        if closedOuterHandshakeBytes < (child.bytes + bytes) % 2 ^ 32 then
          (.error .handshakeBytes, limits, handshake)
        else
          (.ok frame.body, limits, handshake.setChild frame.lane
            { child with bytes := (child.bytes + bytes) % 2 ^ 32 })
      else if child.credit < bytes ∨ closedOuterLaneCredit < (child.queued + bytes) % 2 ^ 32 then
        (.error .laneBytes, limits, handshake)
      else
        match limits.queue bytes with
        | (false, limits) => (.error .laneBytes, limits, handshake)
        | (true, limits) =>
          (.ok frame.body, limits, handshake.setChild frame.lane
            { child with
              credit := child.credit - bytes
              queued := (child.queued + bytes) % 2 ^ 32 })

def eof (limits : ClosedDutyLimits) (handshake : ClosedOuterHandshake) (frame : ClosedLaneFrame) :
    Answer (List UInt8) :=
  match handshake.children.find frame.lane with
  | none => (.error .laneEOF, limits, handshake)
  | some child =>
    if !child.innerHello || child.eof || decide (frame.body ≠ []) then
      (.error .laneEOF, limits, handshake)
    else (.ok [], limits, handshake.setChild frame.lane { child with eof := true })

/-- The queue of a child that leaves is given back; its place is not yet. -/
def releaseQueues (limits : ClosedDutyLimits) (handshake : ClosedOuterHandshake) (lane : UInt32)
    (child : ClosedOuterChild) (hold : Hold) : ClosedDutyLimits × ClosedOuterHandshake :=
  (limits.dequeue child.queued, { handshake with children := handshake.children.erase lane, hold })

def close (limits : ClosedDutyLimits) (handshake : ClosedOuterHandshake) (frame : ClosedLaneFrame) :
    Answer (List UInt8) :=
  match handshake.children.find frame.lane with
  | none => (.error .laneClose, limits, handshake)
  | some child =>
    if frame.body.length ≠ 1 ∨ 6 < frame.body.getD 0 0 then (.error .laneClose, limits, handshake)
    else
      let (limits, handshake) := handshake.releaseQueues limits frame.lane child .retire
      (.ok [], limits, handshake)

def acceptHello (limits : ClosedDutyLimits) (handshake : ClosedOuterHandshake)
    (frame : ClosedLaneFrame) (now : Time) : Answer (List UInt8) :=
  if frame.kind ≠ .closedFrameHello ∨ frame.lane ≠ 0 then
    (.error .helloRequired, limits, handshake)
  else
    match decodeClosedHello frame.body with
    | .error _ => (.error .helloUnavailable, limits, handshake)
    | .ok hello =>
      if !handshake.matchesHello hello now then (.error .helloUnavailable, limits, handshake)
      else
        (.ok [], limits, { handshake with
          receiver := { handshake.receiver with deadline := hello.deadline }, hello := true })

def accept (limits : ClosedDutyLimits) (handshake : ClosedOuterHandshake) (frame : ClosedLaneFrame)
    (clock : Readings) : Answer (List UInt8) :=
  if handshake.closed || !clock.first.before handshake.receiver.deadline then
    (.error .unavailable, limits, handshake)
  else if !handshake.hello then handshake.acceptHello limits frame clock.second
  else
    match frame.kind with
    | .closedFrameOpen => handshake.openChild limits frame clock.second
    | .closedFrameBytes => handshake.bytes limits frame clock
    | .closedFrameEOF => handshake.eof limits frame
    | .closedFrameClose => handshake.close limits frame
    | _ => (.error .frameUnavailable, limits, handshake)

/-! ## The inner channel of a lane -/

def verifyInnerHello (handshake : ClosedOuterHandshake) (lane : UInt32) (hello : ClosedHello)
    (clock : Readings) : Option OuterError × ClosedOuterHandshake :=
  if handshake.closed || !clock.first.before handshake.receiver.deadline then
    (some .innerHello, handshake)
  else
    match handshake.children.find lane with
    | none => (some .innerHello, handshake)
    | some child =>
      if !clock.second.before child.pendingDeadline || !child.innerHello ||
          !validClosedHello hello || !namesReceiver handshake.receiver hello ||
          decide (hello.purpose ≠ child.purpose) || !hello.deadline.after clock.third ||
          hello.deadline.after child.deadline then (some .innerHello, handshake)
      else (none, handshake.setChild lane { child with active := true, hello := some hello })

def beginInnerHello (handshake : ClosedOuterHandshake) (lane : UInt32) (clock : Readings) :
    Option OuterError × ClosedOuterHandshake :=
  match handshake.children.find lane with
  | none => (some .innerHello, handshake)
  | some child =>
    if !clock.first.before child.pendingDeadline || child.innerHello || child.active ||
        child.eof || decide (child.bytes = 0) then (some .innerHello, handshake)
    else (none, handshake.setChild lane { child with innerHello := true })

/-- `admit`: the receiving admission of the inner channel is bound to the lane. -/
def bindAdmission (handshake : ClosedOuterHandshake) (lane : UInt32) (lease : ClosedAdmission)
    (clock : Readings) : Option OuterError × ClosedOuterHandshake :=
  match handshake.children.find lane with
  | none => (some .admission, handshake)
  | some child =>
    if handshake.closed || !child.active || child.admitted || child.eof ||
        decide (child.restriction ≠ .ordinary) || !lease.live ||
        decide (child.hello ≠ some lease.hello) || !closedOuterAdmissionClass lease ||
        decide (lease.bytes ≠ closedClassBytes lease.cls) ||
        !clock.first.before child.pendingDeadline || !clock.first.before lease.deadline ||
        lease.deadline.after child.deadline ||
        lease.deadline.after handshake.receiver.deadline then (some .admission, handshake)
    else
      (none, handshake.setChild lane { child with admitted := true, deadline := lease.deadline })

def consumeInnerBytes (limits : ClosedDutyLimits) (handshake : ClosedOuterHandshake) (lane : UInt32)
    (bytes : Nat) (clock : Readings) : Answer ClosedLaneFrame :=
  if handshake.closed || decide (bytes = 0) || !clock.first.before handshake.receiver.deadline then
    (.error .laneCredit, limits, handshake)
  else
    match handshake.children.find lane with
    | none => (.error .laneCredit, limits, handshake)
    | some child =>
      let room := minus 32 closedOuterLaneCredit child.credit
      let handshake := { handshake with duty := handshake.duty.noting room.2 }
      if !child.innerHello || child.eof || decide (child.queued < bytes) ||
          decide (room.1 < bytes) then (.error .laneCredit, limits, handshake)
      else
        (.ok ⟨.closedFrameCredit, lane, bigEndian 4 bytes⟩, limits.dequeue bytes,
          handshake.setChild lane { child with
            queued := child.queued - bytes
            credit := child.credit + bytes })

/-! ## The end, and the later parts of an operation -/

/-- `Close`, up to its first call into the limits. -/
def shut (handshake : ClosedOuterHandshake) : ClosedOuterHandshake :=
  if handshake.closed then handshake else { handshake with hold := .cancel 0 }

/-- The last part of `Close`, once no child is left. -/
def finish (limits : ClosedDutyLimits) (handshake : ClosedOuterHandshake) :
    ClosedDutyLimits × ClosedOuterHandshake :=
  let (limits, duty) := handshake.duty.release limits
  (limits, { handshake with duty, closed := true, hold := .idle })

/-- The next part of the operation that has the mutex.  `pick` is the lane that
`Close`'s loop comes to; when no child is left it ends. -/
def resume (limits : ClosedDutyLimits) (handshake : ClosedOuterHandshake) (pick : UInt32) :
    Option (ClosedDutyLimits × ClosedOuterHandshake) :=
  match handshake.hold with
  | .idle => none
  | .refund _ => none
  | .retire =>
    let (limits, duty) := handshake.duty.releaseChild limits
    some (limits, { handshake with duty, hold := .idle })
  | .cancel gone =>
    match handshake.children.find pick with
    | some child => some (handshake.releaseQueues limits pick child (.cancel (gone + 1)))
    | none => if handshake.children.size = 0 then some (handshake.finish limits) else none

/-! ## Its counters -/

/-- What the handshake holds of the limits. -/
def share (handshake : ClosedOuterHandshake) : Share where
  queued := handshake.children.total ClosedOuterChild.queued
  children := handshake.children.size + handshake.hold.places
  channels := (!handshake.duty.released).toNat

/-- The counters of a handshake agree with its children. -/
structure Valid (handshake : ClosedOuterHandshake) : Prop where
  places : handshake.duty.children = handshake.children.size + handshake.hold.places
  credits : ∀ lane child, handshake.children.find lane = some child →
    child.credit ≤ closedOuterLaneCredit ∧ child.queued ≤ closedOuterLaneCredit
  lanes : ∀ lane child, handshake.children.find lane = some child → lane ≤ handshake.lastOdd
  open_ : handshake.closed = false → handshake.duty.released = false
  shut_ : handshake.closed = true →
    handshake.duty.released = true ∧ handshake.children.size = 0 ∧ handshake.hold = .idle
  unwrapped : handshake.duty.wraps = false

structure Kept (others : Share) (limits : ClosedDutyLimits) (handshake : ClosedOuterHandshake) :
    Prop where
  accounts : Accounts limits handshake.share others
  valid : handshake.Valid

variable {limits : ClosedDutyLimits} {handshake : ClosedOuterHandshake} {others : Share}
  {lane : UInt32} {child child' : ClosedOuterChild} {frame : ClosedLaneFrame} {clock : Readings}

/-- A call on a lane is refused, or changes its child. -/
def Changes (handshake : ClosedOuterHandshake) (lane : UInt32) (change : ClosedOuterChild → ClosedOuterChild)
    (result : Option OuterError × ClosedOuterHandshake) : Prop :=
  (∃ refusal, result = (some refusal, handshake)) ∨
    ∃ child, handshake.children.find lane = some child ∧ result = (none, handshake.setChild lane (change child))

theorem verifyInnerHello_changes (lane : UInt32) (hello : ClosedHello) : handshake.Changes lane
    (fun child => { child with active := true, hello := some hello })
    (handshake.verifyInnerHello lane hello clock) := by
  unfold verifyInnerHello
  split
  · exact .inl ⟨_, rfl⟩
  split
  · exact .inl ⟨_, rfl⟩
  next child found =>
  split
  · exact .inl ⟨_, rfl⟩
  · exact .inr ⟨child, found, rfl⟩

theorem beginInnerHello_changes (lane : UInt32) :
    handshake.Changes lane (fun child => { child with innerHello := true })
      (handshake.beginInnerHello lane clock) := by
  unfold beginInnerHello
  split
  · exact .inl ⟨_, rfl⟩
  next child found =>
  split
  · exact .inl ⟨_, rfl⟩
  · exact .inr ⟨child, found, rfl⟩

theorem bindAdmission_changes (lane : UInt32) (lease : ClosedAdmission) : handshake.Changes lane
    (fun child => { child with admitted := true, deadline := lease.deadline })
    (handshake.bindAdmission lane lease clock) := by
  unfold bindAdmission
  split
  · exact .inl ⟨_, rfl⟩
  next child found =>
  split
  · exact .inl ⟨_, rfl⟩
  · exact .inr ⟨child, found, rfl⟩

theorem new_valid (receiver : ClosedOuterReceiver) : (new receiver ⟨0, 0, false, false⟩).Valid where
  places := rfl
  credits := by intro lane child found; cases found
  lanes := by intro lane child found; cases found
  open_ := fun _ => rfl
  shut_ := by intro closed; cases closed
  unwrapped := rfl

variable {limits' : ClosedDutyLimits}

/-- A child changes, and the limits along with it. -/
theorem Kept.setChild {bytes : Nat} (valid : handshake.Valid)
    (accounts : Accounts limits' { handshake.share with queued := bytes } others)
    (found : handshake.children.find lane = some child)
    (credit : child'.credit ≤ closedOuterLaneCredit) (queued : child'.queued ≤ closedOuterLaneCredit)
    (held : bytes + child.queued = handshake.share.queued + child'.queued) :
    Kept others limits' (handshake.setChild lane child') := by
  have moved := total_put ClosedOuterChild.queued child' found
  have same := size_put child' found
  have total : bytes = (handshake.children.put lane child').total ClosedOuterChild.queued := by
    simp only [share] at held
    omega
  refine ⟨{ accounts with queued := ?_, children := ?_ }, { valid with
    places := ?_, credits := ?_, lanes := ?_, shut_ := ?_ }⟩
  · exact accounts.queued.trans (congrArg (· + others.queued) total)
  · show limits'.children = (handshake.children.put lane child').size + handshake.hold.places + _
    rw [same]
    exact accounts.children
  · show handshake.duty.children = (handshake.children.put lane child').size + handshake.hold.places
    rw [same]
    exact valid.places
  · exact fun _ _ => forall_put valid.credits ⟨credit, queued⟩
  · exact fun _ _ => forall_put valid.lanes (valid.lanes lane child found)
  intro closed
  obtain ⟨released, none, idle⟩ := valid.shut_ closed
  have one := size_erase found
  omega

section Kept

variable (kept : Kept others limits handshake)

include kept

/-- A change of a child that no counter depends on. -/
theorem Kept.touch (found : handshake.children.find lane = some child)
    (credit : child'.credit = child.credit) (queued : child'.queued = child.queued) :
    Kept others limits (handshake.setChild lane child') := by
  have ⟨accounts, valid⟩ := kept
  obtain ⟨creditBound, queueBound⟩ := valid.credits _ _ found
  exact Kept.setChild valid accounts found (credit ▸ creditBound) (queued ▸ queueBound)
    (congrArg _ queued.symm)

theorem openChild_kept (idle : handshake.hold = .idle) (now : Time) :
    Kept others (handshake.openChild limits frame now).2.1
      (handshake.openChild limits frame now).2.2 := by
  have ⟨accounts, valid⟩ := kept
  unfold openChild
  split
  · exact kept
  next laneValid =>
  split
  · exact kept
  next opens restriction _ =>
  split
  · exact kept
  split
  · exact kept
  next fresh =>
  have absent : handshake.children.find frame.lane = none := by simpa using fresh
  have higher : handshake.lastOdd < frame.lane := UInt32.not_le.1 (not_or.1 (not_or.1 laneValid).2).2
  rcases accounts.reserveChild handshake.duty with refused | ⟨live, taken, accounts'⟩
  · rw [refused]
    exact kept
  rw [taken]
  generalize child_eq : ClosedOuterChild.mk _ _ _ _ _ _ _ _ _ _ _ _ = child
  have credit : child.credit = closedOuterLaneCredit := by rw [← child_eq]
  have queued : child.queued = 0 := by rw [← child_eq]
  have one := size_put_fresh child absent
  have more := total_put_fresh ClosedOuterChild.queued child absent
  have before := valid.places
  refine ⟨?_, { valid with places := ?_, credits := ?_, lanes := ?_, open_ := ?_, shut_ := ?_ }⟩
  · have share_eq : (handshake.inserted ⟨handshake.duty.children + 1, handshake.duty.controlQueued,
        handshake.duty.released, handshake.duty.wraps⟩ frame.lane child).share =
        { handshake.share with children := handshake.share.children + 1 } := by
      simp [share, inserted, idle, Hold.places, one, more, queued]
    rw [share_eq]
    exact accounts'
  · simp only [inserted, one]
    omega
  · exact fun _ _ => forall_put valid.credits ⟨credit.le, by omega⟩
  · have below : ∀ lane child, handshake.children.find lane = some child → lane ≤ frame.lane :=
      fun lane child found => UInt32.le_of_lt (UInt32.lt_of_le_of_lt (valid.lanes lane child found) higher)
    exact fun _ _ => forall_put below (UInt32.le_refl _)
  · intro _
    exact live
  · intro closed
    cases live.symm.trans (valid.shut_ closed).1

theorem bytes_kept :
    Kept others (handshake.bytes limits frame clock).2.1 (handshake.bytes limits frame clock).2.2 := by
  unfold bytes
  split
  · exact kept
  next child found =>
  split
  · exact kept
  dsimp only
  split
  · split
    · exact kept
    · exact kept.touch found rfl rfl
  split
  · exact kept
  next allowed =>
  have ⟨accounts, valid⟩ := kept
  obtain ⟨creditBound, queueBound⟩ := valid.credits _ _ found
  simp only [not_or, Nat.not_lt] at allowed
  obtain ⟨covered, room⟩ := allowed
  generalize frame.body.length % 2 ^ 32 = count at covered room ⊢
  simp only [closedOuterLaneCredit] at creditBound queueBound room
  rcases accounts.queue count with refused | ⟨positive, taken, accounts'⟩
  · rw [refused]
    exact kept
  rw [taken]
  refine Kept.setChild valid accounts' found ?_ room ?_
  · exact (Nat.sub_le _ _).trans creditBound
  · dsimp only
    omega

theorem eof_kept :
    Kept others (handshake.eof limits frame).2.1 (handshake.eof limits frame).2.2 := by
  unfold eof
  split
  · exact kept
  next child found =>
  split
  · exact kept
  · exact kept.touch found rfl rfl

/-- The queue of a child that leaves is released exactly; its place is not yet. -/
theorem releaseQueues_kept (found : handshake.children.find lane = some child) {hold : Hold}
    (places : hold.places = handshake.hold.places + 1) :
    Kept others (handshake.releaseQueues limits lane child hold).1
      (handshake.releaseQueues limits lane child hold).2 := by
  have ⟨accounts, valid⟩ := kept
  have data := total_erase ClosedOuterChild.queued found
  have counted := size_erase found
  have before := valid.places
  have released := accounts.dequeue (show child.queued ≤ handshake.share.queued by
    simp only [share]
    omega)
  unfold releaseQueues
  refine ⟨{ released with queued := ?_, children := ?_ }, { valid with
    places := ?_, credits := ?_, lanes := ?_, shut_ := ?_ }⟩
  · rw [released.queued]
    simp only [share]
    omega
  · rw [released.children]
    simp only [share]
    omega
  · dsimp only
    omega
  · exact fun _ _ found => valid.credits _ _ (find_of_erase found)
  · exact fun _ _ found => valid.lanes _ _ (find_of_erase found)
  · intro closed
    obtain ⟨_, none, _⟩ := valid.shut_ closed
    omega

theorem accept_kept (idle : handshake.hold = .idle) :
    Kept others (handshake.accept limits frame clock).2.1
      (handshake.accept limits frame clock).2.2 := by
  unfold accept
  split
  · exact kept
  split
  · unfold acceptHello
    split
    · exact kept
    split
    · exact kept
    split
    · exact kept
    · exact ⟨kept.accounts, { kept.valid with }⟩
  split
  · exact openChild_kept kept idle clock.second
  · exact bytes_kept kept
  · exact eof_kept kept
  · unfold close
    split
    · exact kept
    next child found =>
    split
    · exact kept
    · exact releaseQueues_kept kept found (by rw [idle]; rfl)
  · exact kept

theorem Changes.keeps {change : ClosedOuterChild → ClosedOuterChild}
    {result : Option OuterError × ClosedOuterHandshake} (changes : handshake.Changes lane change result)
    (credit : ∀ child, (change child).credit = child.credit)
    (queued : ∀ child, (change child).queued = child.queued) : Kept others limits result.2 := by
  obtain ⟨refusal, rfl⟩ | ⟨child, found, rfl⟩ := changes
  · exact kept
  · exact kept.touch found (credit child) (queued child)

theorem consumeInnerBytes_kept (bytes : Nat) :
    Kept others (handshake.consumeInnerBytes limits lane bytes clock).2.1
      (handshake.consumeInnerBytes limits lane bytes clock).2.2 := by
  have ⟨accounts, valid⟩ := kept
  unfold consumeInnerBytes
  split
  · exact kept
  split
  · exact kept
  next child found =>
  obtain ⟨creditBound, queueBound⟩ := valid.credits _ _ found
  simp only [minus_of_le 32 creditBound, ClosedDutyChannel.noting_false]
  split
  · exact kept
  next allowed =>
  simp only [Bool.or_eq_true, decide_eq_true_eq, not_or, Nat.not_lt] at allowed
  have data := le_total ClosedOuterChild.queued found
  have released := accounts.dequeue (show bytes ≤ handshake.share.queued by
    simp only [share]
    omega)
  refine Kept.setChild valid released found ?_ ?_ ?_
  · show child.credit + bytes ≤ closedOuterLaneCredit
    omega
  · exact (Nat.sub_le _ _).trans queueBound
  · simp only [share]
    omega

theorem shut_kept (idle : handshake.hold = .idle) : Kept others limits handshake.shut := by
  have ⟨accounts, valid⟩ := kept
  unfold shut
  split
  · exact kept
  next live =>
  refine ⟨?_, { valid with places := ?_, shut_ := ?_ }⟩
  · simpa [share, idle, Hold.places] using accounts
  · simpa [idle, Hold.places] using valid.places
  · intro closed
    exact absurd closed live

theorem finish_kept {gone : Nat} (hold : handshake.hold = .cancel gone)
    (empty : handshake.children.size = 0) :
    Kept others (handshake.finish limits).1 (handshake.finish limits).2 := by
  have ⟨accounts, valid⟩ := kept
  have live : handshake.duty.released = false := by
    apply valid.open_
    cases closed : handshake.closed with
    | false => rfl
    | true => cases hold.symm.trans (valid.shut_ closed).2.2
  have counted : handshake.duty.children = handshake.share.children := valid.places
  have one : handshake.share.channels = 1 := by simp [share, live]
  obtain ⟨given, accounts'⟩ := accounts.release live counted one
  unfold finish
  rw [given]
  refine ⟨?_, { valid with places := ?_, open_ := ?_, shut_ := ?_ }⟩
  · simpa [share, empty, Hold.places] using accounts'
  · simp [Hold.places, empty]
  · intro closed
    cases closed
  · intro _
    exact ⟨rfl, empty, rfl⟩

theorem resume_kept {handshake' : ClosedOuterHandshake} {pick : UInt32}
    (resumed : handshake.resume limits pick = some (limits', handshake')) :
    Kept others limits' handshake' := by
  have ⟨accounts, valid⟩ := kept
  have places := valid.places
  unfold resume at resumed
  split at resumed
  · cases resumed
  · cases resumed
  · next hold =>
    have positive : 0 < handshake.share.children := by
      simp only [share, hold, Hold.places]
      omega
    obtain ⟨given, accounts'⟩ := accounts.releaseChild places positive
    rw [given] at resumed
    cases resumed
    refine ⟨?_, { valid with places := ?_, shut_ := ?_ }⟩
    · simpa [share, hold, Hold.places] using accounts'
    · rw [hold] at places
      simp only [Hold.places] at places ⊢
      omega
    · intro closed
      obtain ⟨_, _, idle⟩ := valid.shut_ closed
      cases hold.symm.trans idle
  · next gone hold =>
    split at resumed
    · next child found =>
      cases resumed
      exact releaseQueues_kept kept found (by rw [hold]; rfl)
    split at resumed
    · next empty =>
      cases resumed
      exact finish_kept kept hold empty
    · cases resumed

end Kept

end ClosedOuterHandshake

end Ardents.Route
