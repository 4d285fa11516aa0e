/-
# Route.Forwarding — the forwarding channel

`closed_forwarding_channel.go`, `closed_forwarding_reverse.go` and
`closed_forwarding_budget.go`: child lanes under one admission, with their queued
bytes, their credit in both directions and the control events that wait for the
consumer.

An operation holds the channel's mutex from its start to its end, but the limits of
the duty have a mutex of their own, so operations of other channels fall between two
of its calls into the limits.  An operation is therefore cut after each such call:
`Hold` is what the operation that has the mutex still has to do.  Everything else it
does is visible to nobody before it returns, and stands with the call before it.

`Surroundings` is what an operation reads of the outside: two readings of the clock,
and the answers of the authorizer, of the replenisher and of the bootstrap lease.
`wraps` records that an unsigned subtraction wrapped.  Left out: HELLO and exporter,
which only the replenisher reads, and the host-capacity releases that `Cancel` calls.
-/
import Ardents.Lib.Table
import Ardents.Route.DutyLimits
import Ardents.Route.Lane

namespace Ardents.Route

open Lib

set_option autoImplicit false

def closedLaneCredit : Nat := 65536
def closedPrefixQueueBytes : Nat := 4194304
def closedAdmissionFrameBytes : Nat := 2 * closedLaneHeaderSize + 209 + 355
def closedBootstrapLaneBytes : Nat := 131072

/-- What the operation that has an owner's mutex still has to do with the limits:
give back bytes that the bootstrap lease refused, give back the place of a child that
is gone already, or go on retiring children, of which so many are gone already. -/
inductive Hold where
  | idle
  | refund (size : Nat)
  | retire
  | cancel (gone : Nat)
  deriving DecidableEq, Repr

/-- The bytes that are still to be given back. -/
def Hold.bytes : Hold → Nat
  | .refund size => size
  | _ => 0

/-- The children that are gone but whose places are still to be given back. -/
def Hold.places : Hold → Nat
  | .retire => 1
  | .cancel gone => gone
  | _ => 0

structure ClosedForwardingEvent where
  kind : ClosedFrameKind
  lane : UInt32
  opens : Option ClosedOpen
  restriction : ClosedChildRestriction
  bytes : List UInt8
  deriving DecidableEq

structure ClosedForwardChild where
  deadline : Time
  credit : Nat
  reverseCredit : Nat
  reverseQueued : Nat
  reverseControlQueued : Nat
  queued : Nat
  delivered : Nat
  frames : List (List UInt8)
  ready : Bool
  eof : Bool
  eofSent : Bool
  deriving DecidableEq

/-- The state of a new lane. -/
def ClosedForwardChild.new (deadline : Time) : ClosedForwardChild :=
  { deadline, credit := closedLaneCredit, reverseCredit := closedLaneCredit, reverseQueued := 0,
    reverseControlQueued := 0, queued := 0, delivered := 0, frames := [], ready := false,
    eof := false, eofSent := false }

structure ClosedForwardingChannel where
  duty : ClosedDutyChannel
  deadline : Time
  byteLimit : Nat
  bootstrap : Bool
  replenish : Bool
  lastOdd : UInt32
  children : Table UInt32 ClosedForwardChild
  ready : List UInt32
  controls : List ClosedForwardingEvent
  controlBytes : Nat
  usedBytes : Nat
  queued : Nat
  terminated : Bool
  hold : Hold
  wraps : Bool

/-- What one operation reads of its surroundings. -/
structure Surroundings where
  now : Time
  later : Time
  authorizes : Bool
  replenishes : Bool
  receives : Bool
  sends : Bool
  queues : Bool

inductive ForwardError where
  | channelUnavailable
  | inputExhausted
  | frameUnavailable
  | replenishmentUnavailable
  | laneInvalid
  | openUnavailable
  | childCapacity
  | controlQueue
  | bytesUnavailable
  | queueUnavailable
  | eofUnavailable
  | closeUnavailable
  | creditUnavailable
  | childRetired
  | peerCreditInvalid
  | peerCreditExceeds
  | peerCreditQueue
  | reverseExceeded
  | reverseUnavailable
  | outputUnavailable
  | outputExhausted
  | limits
  | bootstrap
  deriving DecidableEq, Repr

/-- `uint32(len(bytes))` after a header, in `uint32`. -/
def closedForwardControlSize (event : ClosedForwardingEvent) : Nat :=
  if event.kind = .closedFrameOpen then closedLaneHeaderSize + 50
  else (closedLaneHeaderSize + event.bytes.length % 2 ^ 32) % 2 ^ 32

namespace ClosedForwardingChannel

/-- What an operation answers, with the limits and the channel after its first part. -/
abbrev Answer (α : Type) : Type :=
  Except ForwardError α × ClosedDutyLimits × ClosedForwardingChannel

/-- `newClosedForwardingChannel`, of a class-2 admission that holds `duty`. -/
def new (duty : ClosedDutyChannel) (deadline : Time) (replenish : Bool) : ClosedForwardingChannel :=
  { duty, deadline, byteLimit := closedClassBytes 2, bootstrap := false, replenish, lastOdd := 0,
    children := Table.empty, ready := [], controls := [], controlBytes := 0,
    usedBytes := closedAdmissionFrameBytes, queued := 0, terminated := false, hold := .idle,
    wraps := false }

/-- `NewClosedBootstrapForwardingChannel`, once the lease was transferred. -/
def newBootstrap (duty : ClosedDutyChannel) (deadline : Time) : ClosedForwardingChannel :=
  { new duty deadline false with
    byteLimit := closedBootstrapLaneBytes, bootstrap := true, usedBytes := 0 }

def noting (channel : ClosedForwardingChannel) (wrapped : Bool) : ClosedForwardingChannel :=
  { channel with wraps := channel.wraps || wrapped }

/-- `channel.queued -= bytes`. -/
def unqueue (channel : ClosedForwardingChannel) (bytes : Nat) : ClosedForwardingChannel :=
  let left := minus 64 channel.queued bytes
  { channel.noting left.2 with queued := left.1 }

/-! ## Reservations -/

def reserveQueue (limits : ClosedDutyLimits) (channel : ClosedForwardingChannel) (size : Nat)
    (around : Surroundings) : Option ForwardError × ClosedDutyLimits × ClosedForwardingChannel :=
  match limits.queue size with
  | (false, limits) => (some .limits, limits, channel)
  | (true, limits) =>
    -- the bytes are given back in a second call into the limits
    if channel.bootstrap && !around.queues then
      (some .bootstrap, limits, { channel with hold := .refund size })
    else (none, limits, channel)

def releaseQueue (limits : ClosedDutyLimits) (size : Nat) : ClosedDutyLimits :=
  if size = 0 then limits else limits.dequeue size

def reserveControlQueue (channel : ClosedForwardingChannel) (size : Nat) (around : Surroundings) :
    Option ForwardError × ClosedForwardingChannel :=
  match channel.duty.queueControl size with
  | (false, duty) => (some .limits, { channel with duty })
  | (true, duty) =>
    if channel.bootstrap && !around.queues then
      (some .bootstrap, { channel with duty := duty.dequeueControl size })
    else (none, { channel with duty })

def releaseControlQueue (channel : ClosedForwardingChannel) (size : Nat) : ClosedForwardingChannel :=
  { channel with duty := channel.duty.dequeueControl size }

def queueControl (channel : ClosedForwardingChannel) (event : ClosedForwardingEvent)
    (around : Surroundings) : Bool × ClosedForwardingChannel :=
  let size := closedForwardControlSize event
  if closedChannelControlBytes < size ∨
      closedChannelControlBytes < (channel.controlBytes + size) % 2 ^ 32 then (false, channel)
  else
    match channel.reserveControlQueue size around with
    | (some _, channel) => (false, channel)
    | (none, channel) =>
      (true, { channel with
        controls := channel.controls ++ [event]
        controlBytes := (channel.controlBytes + size) % 2 ^ 32 })

/-- `channel.children[lane] = child`. -/
def setChild (channel : ClosedForwardingChannel) (lane : UInt32) (child : ClosedForwardChild) :
    ClosedForwardingChannel :=
  { channel with children := channel.children.put lane child }

/-! ## Frames from the peer -/

/-- The channel once `duty` has a place for a child on `lane`.  A child whose control
is refused is deleted again, and its place is given back in a second call. -/
def placed (channel : ClosedForwardingChannel) (duty : ClosedDutyChannel) (lane : UInt32) :
    ClosedForwardingChannel :=
  { channel with duty, lastOdd := lane, hold := .retire }

def inserted (channel : ClosedForwardingChannel) (lane : UInt32) (child : ClosedForwardChild) :
    ClosedForwardingChannel :=
  { channel with hold := .idle, children := channel.children.put lane child }

def openChild (limits : ClosedDutyLimits) (channel : ClosedForwardingChannel) (frame : ClosedLaneFrame)
    (around : Surroundings) : Answer Unit :=
  if frame.lane % 2 = 0 ∨ frame.lane ≤ channel.lastOdd ∨
      closedForwardChildren ≤ channel.children.size then (.error .laneInvalid, limits, channel)
  else
    match decodeClosedOpen frame.body with
    | .error _ => (.error .openUnavailable, limits, channel)
    | .ok opens =>
      -- a bootstrap channel has an authorizer of its own around the given one
      if !around.later.before opens.deadline || opens.deadline.after channel.deadline ||
          (channel.bootstrap && decide (opens.purpose ≠ .forwarding ∧ opens.purpose ≠ .issuer)) ||
          !around.authorizes then (.error .openUnavailable, limits, channel)
      else if channel.bootstrap && !around.sends then (.error .bootstrap, limits, channel)
      else
        match channel.duty.reserveChild limits with
        | (false, limits, duty) => (.error .childCapacity, limits, { channel with duty })
        | (true, limits, duty) =>
          let restriction :=
            if channel.bootstrap then ClosedChildRestriction.issuerBootstrap else .ordinary
          match (channel.placed duty frame.lane).queueControl
              ⟨.closedFrameOpen, frame.lane, some opens, restriction, []⟩ around with
          | (false, channel) => (.error .controlQueue, limits, channel)
          | (true, channel) =>
            (.ok (), limits, channel.inserted frame.lane (ClosedForwardChild.new opens.deadline))

def bytes (limits : ClosedDutyLimits) (channel : ClosedForwardingChannel) (frame : ClosedLaneFrame)
    (around : Surroundings) : Answer Unit :=
  match channel.children.find frame.lane with
  | none => (.error .bytesUnavailable, limits, channel)
  | some child =>
    let bytes := frame.body.length
    if child.eof || !around.later.before child.deadline || decide (child.credit < bytes) ||
        decide (closedPrefixQueueBytes < channel.queued + bytes) then
      (.error .bytesUnavailable, limits, channel)
    else
      match channel.reserveQueue limits bytes around with
      | (some _, limits, channel) => (.error .queueUnavailable, limits, channel)
      | (none, limits, channel) =>
        let channel := { channel with
          ready := if child.ready then channel.ready else channel.ready ++ [frame.lane]
          queued := channel.queued + bytes }
        (.ok (), limits, channel.setChild frame.lane { child with
          credit := child.credit - bytes
          queued := child.queued + bytes
          frames := child.frames ++ [frame.body]
          ready := true })

def peerCredit (limits : ClosedDutyLimits) (channel : ClosedForwardingChannel)
    (frame : ClosedLaneFrame) (around : Surroundings) : Answer Unit :=
  match channel.children.find frame.lane with
  | none => (.error .peerCreditInvalid, limits, channel)
  | some child =>
    if frame.body.length ≠ 4 then (.error .peerCreditInvalid, limits, channel)
    else
      let increment := ofBigEndian frame.body
      let room := minus 64 closedLaneCredit child.reverseCredit
      let channel := channel.noting room.2
      if increment = 0 ∨ room.1 < increment then (.error .peerCreditExceeds, limits, channel)
      else
        match channel.queueControl
            ⟨.closedFrameCredit, frame.lane, none, .ordinary, frame.body⟩ around with
        | (false, channel) => (.error .peerCreditQueue, limits, channel)
        | (true, channel) =>
          (.ok (), limits, channel.setChild frame.lane
            { child with reverseCredit := child.reverseCredit + increment })

def eof (limits : ClosedDutyLimits) (channel : ClosedForwardingChannel) (frame : ClosedLaneFrame) :
    Answer Unit :=
  match channel.children.find frame.lane with
  | none => (.error .eofUnavailable, limits, channel)
  | some child =>
    if child.eof then (.error .eofUnavailable, limits, channel)
    else
      (.ok (), limits, channel.setChild frame.lane { child with eof := true })

/-- The release of a child's queues: what `close` and each turn of `Cancel`'s loop do. -/
def releaseQueues (limits : ClosedDutyLimits) (channel : ClosedForwardingChannel) (lane : UInt32)
    (child : ClosedForwardChild) : ClosedDutyLimits × ClosedForwardingChannel :=
  let channel := channel.releaseControlQueue child.reverseControlQueued
  let channel := channel.unqueue (child.queued + child.reverseQueued)
  (releaseQueue limits (child.queued + child.reverseQueued),
    { channel with children := channel.children.erase lane })

def close (limits : ClosedDutyLimits) (channel : ClosedForwardingChannel) (frame : ClosedLaneFrame)
    (around : Surroundings) : Answer Unit :=
  match channel.children.find frame.lane with
  | none => (.error .closeUnavailable, limits, channel)
  | some child =>
    match channel.queueControl
        ⟨.closedFrameClose, frame.lane, none, .ordinary, frame.body⟩ around with
    | (false, channel) => (.error .controlQueue, limits, channel)
    | (true, channel) =>
      let (limits, channel) := channel.releaseQueues limits frame.lane child
      (.ok (), limits, { channel with hold := .retire })

/-- A lane-zero ADMIT: replenishment of the byte budget. -/
def replenishBudget (limits : ClosedDutyLimits) (channel : ClosedForwardingChannel)
    (frame : ClosedLaneFrame) (around : Surroundings) : Answer Unit :=
  if frame.lane ≠ 0 ∨ channel.replenish = false then
    (.error .replenishmentUnavailable, limits, channel)
  else
    match decodeClosedAdmit frame.body with
    | .error _ => (.error .replenishmentUnavailable, limits, channel)
    | .ok (cls, _) =>
      if cls ≠ 2 ∨ around.replenishes = false ∨ 2 ^ 64 - 1 - 33554432 < channel.usedBytes then
        (.error .replenishmentUnavailable, limits, channel)
      else (.ok (), limits, { channel with byteLimit := channel.usedBytes + 33554432 })

/-- The charge of a complete frame, by the bootstrap lease or by the budget. -/
def charge (channel : ClosedForwardingChannel) (size : Nat) (granted : Bool)
    (exhausted : ForwardError) : Option ForwardError × ClosedForwardingChannel :=
  if channel.bootstrap then (if granted then none else some .bootstrap, channel)
  else
    let left := minus 64 channel.byteLimit channel.usedBytes
    let channel := channel.noting left.2
    if left.1 < size then (some exhausted, channel)
    else (none, { channel with usedBytes := channel.usedBytes + size })

def accept (limits : ClosedDutyLimits) (channel : ClosedForwardingChannel) (frame : ClosedLaneFrame)
    (around : Surroundings) : Answer Unit :=
  if channel.terminated || !around.now.before channel.deadline then
    (.error .channelUnavailable, limits, channel)
  else
    match channel.charge (closedLaneHeaderSize + frame.body.length) around.receives .inputExhausted with
    | (some refusal, channel) => (.error refusal, limits, channel)
    | (none, channel) =>
      match frame.kind with
      | .closedFrameOpen => channel.openChild limits frame around
      | .closedFrameBytes => channel.bytes limits frame around
      | .closedFrameCredit => channel.peerCredit limits frame around
      | .closedFrameEOF => channel.eof limits frame
      | .closedFrameClose => channel.close limits frame around
      | .closedFrameAdmit => channel.replenishBudget limits frame around
      | _ => (.error .frameUnavailable, limits, channel)

/-! ## The consumer -/

/-- `Credit`: the consumer has taken `bytes` bytes of a lane. -/
def credit (limits : ClosedDutyLimits) (channel : ClosedForwardingChannel) (lane : UInt32)
    (bytes : Nat) (around : Surroundings) : Answer ClosedLaneFrame :=
  if channel.terminated || decide (bytes = 0) || !around.now.before channel.deadline then
    (.error .creditUnavailable, limits, channel)
  else
    match channel.children.find lane with
    | none => (.error .childRetired, limits, channel)
    | some child =>
      let room := minus 64 closedLaneCredit child.credit
      let channel := channel.noting room.2
      if room.1 < bytes ∨ child.delivered < bytes ∨ child.queued < bytes then
        (.error .creditUnavailable, limits, channel)
      else
        (.ok ⟨.closedFrameCredit, lane, bigEndian 4 bytes⟩, releaseQueue limits bytes,
          (channel.unqueue bytes).setChild lane { child with
            credit := child.credit + bytes
            queued := child.queued - bytes
            delivered := child.delivered - bytes })

/-- The loop of `Next` over the lanes that are ready: the first that still has a frame. -/
def nextReady (children : Table UInt32 ClosedForwardChild) :
    List UInt32 → Option (UInt32 × ClosedForwardChild × List UInt8 × List (List UInt8) × List UInt32)
  | [] => none
  | lane :: rest =>
    match children.find lane with
    | none => nextReady children rest
    | some child =>
      match child.frames with
      | [] => nextReady children rest
      | body :: frames => some (lane, child, body, frames, rest)

/-- Whether the end of a lane is still to be announced. -/
def owesEOF (child : ClosedForwardChild) : Bool := child.eof && !child.eofSent

/-- A lane whose end is to be announced: `pick` when it is one, as the order of a map
is nobody's, else the first. -/
def nextEOF (children : Table UInt32 ClosedForwardChild) (pick : UInt32) :
    Option (UInt32 × ClosedForwardChild) :=
  match (children.find pick).filter owesEOF with
  | some child => some (pick, child)
  | none => children.entries.find? fun entry => owesEOF entry.2

/-- `Next` takes the frame `body` of `child`, which leaves it `frames`. -/
def deliver (channel : ClosedForwardingChannel) (lane : UInt32) (child : ClosedForwardChild)
    (body : List UInt8) (frames : List (List UInt8)) (around : Surroundings) :
    Option ClosedForwardingEvent × ClosedForwardingChannel :=
  let child := { child with frames, delivered := child.delivered + body.length }
  let event : ClosedForwardingEvent := ⟨.closedFrameBytes, lane, none, .ordinary, body⟩
  if frames ≠ [] then
    (some event, { channel with ready := channel.ready ++ [lane] }.setChild lane child)
  else if owesEOF child then
    let child := { child with ready := false, eofSent := true }
    match channel.queueControl ⟨.closedFrameEOF, lane, none, .ordinary, []⟩ around with
    | (false, channel) => (none, { channel with terminated := true }.setChild lane child)
    | (true, channel) => (some event, channel.setChild lane child)
  else (some event, channel.setChild lane { child with ready := false })

def next (channel : ClosedForwardingChannel) (pick : UInt32) (around : Surroundings) :
    Option ClosedForwardingEvent × ClosedForwardingChannel :=
  if channel.terminated || !around.now.before channel.deadline then (none, channel)
  else
    match channel.controls with
    | event :: controls =>
      let left := minus 32 channel.controlBytes (closedForwardControlSize event)
      let channel := { channel.noting left.2 with controls, controlBytes := left.1 }
      (some event, channel.releaseControlQueue (closedForwardControlSize event))
    | [] =>
      match nextReady channel.children channel.ready with
      | some (lane, child, body, frames, rest) =>
        { channel with ready := rest }.deliver lane child body frames around
      | none =>
        let channel := { channel with ready := [] }
        match nextEOF channel.children pick with
        | some (lane, child) =>
          (some ⟨.closedFrameEOF, lane, none, .ordinary, []⟩,
            channel.setChild lane { child with eofSent := true })
        | none => (none, channel)

/-! ## The reverse direction -/

/-- The kinds whose reverse frames count as control. -/
def isReverseControl : ClosedFrameKind → Bool
  | .closedFrameAccept | .closedFrameCredit | .closedFrameEOF | .closedFrameClose => true
  | _ => false

def queueReverse (limits : ClosedDutyLimits) (channel : ClosedForwardingChannel)
    (frame : ClosedLaneFrame) (around : Surroundings) : Answer Unit :=
  let size := closedLaneHeaderSize + frame.body.length
  match channel.children.find frame.lane with
  | none => (.error .childRetired, limits, channel)
  | some child =>
    if channel.terminated || !around.now.before channel.deadline ||
        !around.now.before child.deadline then (.error .childRetired, limits, channel)
    else if isReverseControl frame.kind then
      match channel.reserveControlQueue size around with
      | (some refusal, channel) => (.error refusal, limits, channel)
      | (none, channel) =>
        (.ok (), limits, channel.setChild frame.lane
          { child with reverseControlQueued := child.reverseControlQueued + size })
    else if frame.kind = .closedFrameBytes then
      let room := minus 64 closedPrefixQueueBytes channel.queued
      let channel := channel.noting room.2
      if child.reverseCredit < frame.body.length ∨ room.1 < size then
        (.error .reverseExceeded, limits, channel)
      else
        match channel.reserveQueue limits size around with
        | (some refusal, limits, channel) => (.error refusal, limits, channel)
        | (none, limits, channel) =>
          let channel := { channel with queued := channel.queued + size }
          (.ok (), limits, channel.setChild frame.lane { child with
            reverseCredit := child.reverseCredit - frame.body.length
            reverseQueued := child.reverseQueued + size })
    else (.error .reverseUnavailable, limits, channel)

def releaseReverse (limits : ClosedDutyLimits) (channel : ClosedForwardingChannel)
    (frame : ClosedLaneFrame) : ClosedDutyLimits × ClosedForwardingChannel :=
  let size := closedLaneHeaderSize + frame.body.length
  match channel.children.find frame.lane with
  | none => (limits, channel)
  | some child =>
    if isReverseControl frame.kind then
      if child.reverseControlQueued < size then (limits, channel)
      else
        (limits, (channel.releaseControlQueue size).setChild frame.lane
          { child with reverseControlQueued := child.reverseControlQueued - size })
    else if frame.kind = .closedFrameBytes then
      if child.reverseQueued < size then (limits, channel)
      else
        (releaseQueue limits size, (channel.unqueue size).setChild frame.lane
          { child with reverseQueued := child.reverseQueued - size })
    else (limits, channel)

def accountOutput (channel : ClosedForwardingChannel) (frame : ClosedLaneFrame)
    (around : Surroundings) : Option ForwardError × ClosedForwardingChannel :=
  if channel.terminated || !around.now.before channel.deadline then (some .outputUnavailable, channel)
  else if frame.lane ≠ 0 ∧ channel.children.find frame.lane = none then (some .childRetired, channel)
  else channel.charge (closedLaneHeaderSize + frame.body.length) around.sends .outputExhausted

/-! ## The end, and the later parts of an operation -/

/-- `Cancel`, up to its first call into the limits. -/
def cancel (channel : ClosedForwardingChannel) : ClosedForwardingChannel :=
  { channel with terminated := true, hold := .cancel 0 }

/-- `controls` and `ready` after `Cancel`'s second loop. -/
def dropControls (channel : ClosedForwardingChannel) : ClosedForwardingChannel :=
  let duty := channel.controls.foldl
    (fun duty event => duty.dequeueControl (closedForwardControlSize event)) channel.duty
  { channel with duty, controls := [], ready := [], controlBytes := 0 }

/-- The last part of `Cancel`, once no child is left. -/
def finish (limits : ClosedDutyLimits) (channel : ClosedForwardingChannel) :
    ClosedDutyLimits × ClosedForwardingChannel :=
  let (limits, duty) := channel.dropControls.duty.release limits
  (limits, { channel.dropControls with duty, hold := .idle })

/-- The next part of the operation that has the mutex.  `pick` is the lane that
`Cancel`'s loop comes to; when no child is left it ends. -/
def resume (limits : ClosedDutyLimits) (channel : ClosedForwardingChannel) (pick : UInt32) :
    Option (ClosedDutyLimits × ClosedForwardingChannel) :=
  match channel.hold with
  | .idle => none
  | .refund size => some (limits.dequeue size, { channel with hold := .idle })
  | .retire =>
    let (limits, duty) := channel.duty.releaseChild limits
    some (limits, { channel with duty, hold := .idle })
  | .cancel gone =>
    match channel.children.find pick with
    | some child =>
      let (limits, channel) := channel.releaseQueues limits pick child
      some (limits, { channel with hold := .cancel (gone + 1) })
    | none =>
      if channel.children.size = 0 then some (channel.finish limits) else none

end ClosedForwardingChannel

end Ardents.Route
