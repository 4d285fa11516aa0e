/-
# Route.OuterBridge — lanes of an outer Carrier as byte streams

`closed_outer_bridge.go`: the bridge gives each lane of the handshake to one reader as
a stream of opaque bytes.  `Accept` feeds a lane under the bridge's mutex.  `Read`
takes bytes from the lane's buffer under the lane's mutex, and only then, without it,
asks the handshake to return their credit; a lane has one reader, so a `Read` that has
taken bytes and not returned yet is part of the lane's state.

The limits of the duty belong to other owners as well, so every event brings the limits
it finds.  Each lane keeps a history of what was accepted for it and what its reader
got.  Left out: write and read deadlines, which bound how long a call waits, the
outbound direction apart from its credit, and the wake-up channels.
-/
import Ardents.Lib.Runs
import Ardents.Route.OuterHandshake

namespace Ardents.Route

open Lib

set_option autoImplicit false

/-- What was accepted for a lane and what its reader got.  `early` is how much had been
accepted when the inner HELLO began, `credit` the sum of the CREDIT frames of the lane. -/
structure LaneHistory where
  accepted : List UInt8
  returned : List UInt8
  early : Nat
  credit : Nat
  ended : Bool
  deriving DecidableEq, Repr

structure ClosedOuterBridgeLane where
  restriction : ClosedChildRestriction
  buffer : List UInt8
  innerHello : Bool
  active : Bool
  inputEOF : Bool
  dead : Bool
  unaccounted : Nat
  outboundCredit : Nat
  /-- The bytes a `Read` has taken, and for how many of them it returns credit. -/
  reading : Option (List UInt8 × Nat)
  history : LaneHistory
  deriving DecidableEq, Repr

structure ClosedOuterBridge where
  handshake : ClosedOuterHandshake
  lanes : Table UInt32 ClosedOuterBridgeLane
  retired : List UInt32
  retiredNext : Nat
  closed : Bool

inductive BridgeError where
  | unavailable
  | handshake (refusal : OuterError)
  | write
  | laneUnavailable
  | input
  | creditInvalid
  | creditUnavailable
  deriving DecidableEq, Repr

/-- What an event finds around it: the limits of the duty, the readings of the clock,
whether the Carrier writes, and whether its write deadline can be updated. -/
structure BridgeContext where
  limits : ClosedDutyLimits
  clock : Readings
  writes : Bool
  updates : Bool

namespace ClosedOuterBridgeLane

/-- The lane of an OPEN. -/
def new (restriction : ClosedChildRestriction) : ClosedOuterBridgeLane :=
  { restriction, buffer := [], innerHello := false, active := false, inputEOF := false, dead := false,
    unaccounted := 0, outboundCredit := closedOuterLaneCredit, reading := none,
    history := ⟨[], [], 0, 0, false⟩ }

/-- `feed`: the body of a BYTES frame that the handshake accepted. -/
def feed (lane : ClosedOuterBridgeLane) (value : List UInt8) : Option ClosedOuterBridgeLane :=
  let limit := if lane.innerHello then closedOuterLaneCredit else closedOuterHandshakeBytes
  if lane.dead || lane.inputEOF || decide (limit < lane.buffer.length + value.length) then none
  else
    some { lane with
      buffer := lane.buffer ++ value
      history := { lane.history with accepted := lane.history.accepted ++ value } }

def finishInput (lane : ClosedOuterBridgeLane) : ClosedOuterBridgeLane := { lane with inputEOF := true }

/-- One round of `Write` with `size` bytes left; without credit it waits. -/
def write (lane : ClosedOuterBridgeLane) (size : Nat) : ClosedOuterBridgeLane :=
  let count := min (min size closedLaneMaximum) lane.outboundCredit
  { lane with outboundCredit := lane.outboundCredit - count }

def closeInput (lane : ClosedOuterBridgeLane) : ClosedOuterBridgeLane :=
  { lane with dead := true, buffer := [] }

/-- A `Read` returns `value`, and `credit` was returned to the peer for it. -/
def returns (lane : ClosedOuterBridgeLane) (value : List UInt8) (credit : Nat) :
    ClosedOuterBridgeLane :=
  { lane with
    reading := none
    history := { lane.history with
      returned := lane.history.returned ++ value, credit := lane.history.credit + credit } }

/-- How many of `count` bytes that leave the buffer are credited, and how many bytes of
before the inner HELLO are then left. -/
def accountRead (lane : ClosedOuterBridgeLane) (count : Nat) : Nat × Nat :=
  let credited := count % 2 ^ 32
  if credited ≤ lane.unaccounted then (0, lane.unaccounted - credited)
  else (credited - lane.unaccounted, 0)

/-- `Read` into `size` bytes, up to the end of its critical section; none while it has
to wait. -/
def readTake (lane : ClosedOuterBridgeLane) (size : Nat) : Option ClosedOuterBridgeLane :=
  if lane.buffer = [] then
    if lane.dead || lane.inputEOF then
      some { lane with history := { lane.history with ended := true } }
    else none
  else
    let value := lane.buffer.take size
    let (credited, unaccounted) := lane.accountRead value.length
    let lane := { lane with buffer := lane.buffer.drop size, unaccounted }
    if lane.innerHello && decide (credited ≠ 0) then some { lane with reading := some (value, credited) }
    else some (lane.returns value 0)

end ClosedOuterBridgeLane

namespace ClosedOuterBridge

/-- `NewClosedOuterBridge`. -/
def new (handshake : ClosedOuterHandshake) : ClosedOuterBridge :=
  { handshake, lanes := Table.empty, retired := List.replicate closedForwardChildren 0,
    retiredNext := 0, closed := false }

def rememberRetired (bridge : ClosedOuterBridge) (id : UInt32) : ClosedOuterBridge :=
  { bridge with
    retired := bridge.retired.set (bridge.retiredNext % closedForwardChildren) id
    retiredNext := (bridge.retiredNext + 1) % 2 ^ 32 }

def retiredFrame (bridge : ClosedOuterBridge) (frame : ClosedLaneFrame) : Bool :=
  decide (frame.lane ≠ 0) && validClosedFrame frame &&
    (decide (frame.kind = .closedFrameBytes) || decide (frame.kind = .closedFrameCredit) ||
      decide (frame.kind = .closedFrameEOF) || decide (frame.kind = .closedFrameClose)) &&
    decide (frame.lane ∈ bridge.retired)

/-- `bridge.lanes[id] = lane`. -/
def setLane (bridge : ClosedOuterBridge) (id : UInt32) (lane : ClosedOuterBridgeLane) :
    ClosedOuterBridge :=
  { bridge with lanes := bridge.lanes.put id lane }

def retireLane (bridge : ClosedOuterBridge) (id : UInt32) : ClosedOuterBridge :=
  let bridge := bridge.rememberRetired id
  { bridge with lanes := bridge.lanes.erase id }

def credit (bridge : ClosedOuterBridge) (frame : ClosedLaneFrame) :
    Except BridgeError Unit × ClosedOuterBridge :=
  if frame.lane = 0 ∨ frame.body.length ≠ 4 then (.error .creditInvalid, bridge)
  else
    match bridge.lanes.find frame.lane with
    | none => (.error .creditUnavailable, bridge)
    | some lane =>
      let bytes := ofBigEndian frame.body
      if !lane.active || lane.dead || decide (bytes = 0) ||
          decide ((minus 32 closedOuterLaneCredit lane.outboundCredit).1 < bytes) then
        (.error .creditUnavailable, bridge)
      else
        (.ok (), bridge.setLane frame.lane { lane with outboundCredit := lane.outboundCredit + bytes })

/-- The handshake accepts a frame; a CLOSE also gives the place of the child back. -/
def handshakeAccept (handshake : ClosedOuterHandshake) (frame : ClosedLaneFrame)
    (context : BridgeContext) : Except OuterError (List UInt8) × ClosedOuterHandshake :=
  let (answer, limits, handshake) := handshake.accept context.limits frame context.clock
  match handshake.resume limits 0 with
  | some (_, handshake) => (answer, handshake)
  | none => (answer, handshake)

/-- What `Accept` does with its lanes once the handshake accepted `bytes`. -/
def dispatch (bridge : ClosedOuterBridge) (frame : ClosedLaneFrame) (bytes : List UInt8)
    (context : BridgeContext) : Except BridgeError Unit × ClosedOuterBridge :=
  match frame.kind with
  | .closedFrameHello => (if context.writes then .ok () else .error .write, bridge)
  | .closedFrameOpen =>
    (.ok (), bridge.setLane frame.lane
      (.new (ClosedChildRestriction.ofByte (frame.body.getD 49 0))))
  | .closedFrameBytes =>
    match bridge.lanes.find frame.lane with
    | none => (.error .laneUnavailable, bridge)
    | some lane =>
      match lane.feed bytes with
      | none => (.error .input, bridge)
      | some lane => (.ok (), bridge.setLane frame.lane lane)
  | .closedFrameEOF =>
    match bridge.lanes.find frame.lane with
    | none => (.ok (), bridge)
    | some lane => (.ok (), bridge.setLane frame.lane lane.finishInput)
  | .closedFrameClose =>
    match bridge.lanes.find frame.lane with
    | none => (.ok (), bridge)
    | some lane =>
      if context.updates then (.ok (), bridge.retireLane frame.lane)
      else (.error .write, bridge.setLane frame.lane lane.closeInput)
  | _ => (.ok (), bridge)

def accept (bridge : ClosedOuterBridge) (frame : ClosedLaneFrame) (context : BridgeContext) :
    Except BridgeError Unit × ClosedOuterBridge :=
  if bridge.closed then (.error .unavailable, bridge)
  else if bridge.retiredFrame frame then (.ok (), bridge)
  else if frame.kind = .closedFrameCredit then bridge.credit frame
  else
    match handshakeAccept bridge.handshake frame context with
    | (.error refusal, handshake) => (.error (.handshake refusal), { bridge with handshake })
    | (.ok bytes, handshake) => { bridge with handshake }.dispatch frame bytes context

def beginInnerHello (bridge : ClosedOuterBridge) (id : UInt32) (context : BridgeContext) :
    Except BridgeError Unit × ClosedOuterBridge :=
  match bridge.lanes.find id with
  | none => (.error .laneUnavailable, bridge)
  | some lane =>
    if lane.dead || lane.innerHello || lane.active then (.error .laneUnavailable, bridge)
    else
      match bridge.handshake.beginInnerHello id context.clock with
      | (some refusal, handshake) => (.error (.handshake refusal), { bridge with handshake })
      | (none, handshake) =>
        (.ok (), { bridge with handshake }.setLane id { lane with
          innerHello := true
          unaccounted := lane.buffer.length % 2 ^ 32
          history := { lane.history with early := lane.history.accepted.length } })

def activate (bridge : ClosedOuterBridge) (id : UInt32) (hello : ClosedHello)
    (context : BridgeContext) : Except BridgeError Unit × ClosedOuterBridge :=
  match bridge.lanes.find id with
  | none => (.error .laneUnavailable, bridge)
  | some lane =>
    if lane.dead || lane.active then (.error .laneUnavailable, bridge)
    else
      match bridge.handshake.verifyInnerHello id hello context.clock with
      | (some refusal, handshake) => (.error (.handshake refusal), { bridge with handshake })
      | (none, handshake) => (.ok (), { bridge with handshake }.setLane id { lane with active := true })

/-- `admitVerified`. -/
def bindAdmission (bridge : ClosedOuterBridge) (id : UInt32) (lease : ClosedAdmission)
    (context : BridgeContext) : Except BridgeError Unit × ClosedOuterBridge :=
  match bridge.handshake.bindAdmission id lease context.clock with
  | (some refusal, handshake) => (.error (.handshake refusal), { bridge with handshake })
  | (none, handshake) => (.ok (), { bridge with handshake })

/-- `closeLocal`: the owner of a lane closes it with a status. -/
def closeLocal (bridge : ClosedOuterBridge) (id : UInt32) (status : UInt8) (context : BridgeContext) :
    Except BridgeError Unit × ClosedOuterBridge :=
  if bridge.closed || (bridge.lanes.find id).isNone then (.ok (), bridge)
  else
    match handshakeAccept bridge.handshake ⟨.closedFrameClose, id, [status]⟩ context with
    | (.error refusal, handshake) => (.error (.handshake refusal), { bridge with handshake })
    | (.ok _, handshake) =>
      (if context.updates && context.writes then .ok () else .error .write,
        { bridge with handshake }.retireLane id)

def close (bridge : ClosedOuterBridge) : ClosedOuterBridge :=
  if bridge.closed then bridge else { bridge with closed := true, lanes := Table.empty }

/-- The second half of a `Read` that has taken bytes with credit: it answers with the
bytes, or with an error and no bytes. -/
def readReturn (bridge : ClosedOuterBridge) (id : UInt32) (lane : ClosedOuterBridgeLane)
    (value : List UInt8) (credited : Nat) (context : BridgeContext) : ClosedOuterBridge :=
  match bridge.handshake.consumeInnerBytes context.limits id credited context.clock with
  | (.error _, _, handshake) => { bridge with handshake }.setLane id { lane with reading := none }
  | (.ok _, _, handshake) =>
    if context.writes then { bridge with handshake }.setLane id (lane.returns value credited)
    else { bridge with handshake }.setLane id { lane with reading := none }

end ClosedOuterBridge

inductive BridgeEvent where
  | accept (frame : ClosedLaneFrame) (context : BridgeContext)
  | beginInnerHello (id : UInt32) (context : BridgeContext)
  | activate (id : UInt32) (hello : ClosedHello) (context : BridgeContext)
  | bindAdmission (id : UInt32) (lease : ClosedAdmission) (context : BridgeContext)
  | closeLocal (id : UInt32) (status : UInt8) (context : BridgeContext)
  | close
  | readTake (id : UInt32) (size : Nat)
  | readReturn (id : UInt32) (context : BridgeContext)
  | write (id : UInt32) (size : Nat)

namespace ClosedOuterBridge

def step (bridge : ClosedOuterBridge) : BridgeEvent → Option ClosedOuterBridge
  | .accept frame context => some (bridge.accept frame context).2
  | .beginInnerHello id context => some (bridge.beginInnerHello id context).2
  | .activate id hello context => some (bridge.activate id hello context).2
  | .bindAdmission id lease context => some (bridge.bindAdmission id lease context).2
  | .closeLocal id status context => some (bridge.closeLocal id status context).2
  | .close => some bridge.close
  | .readTake id size =>
    match bridge.lanes.find id with
    | none => none
    | some lane =>
      if lane.reading.isSome || size = 0 then none
      else (lane.readTake size).map (bridge.setLane id)
  | .readReturn id context =>
    match bridge.lanes.find id with
    | none => none
    | some lane =>
      lane.reading.map fun taken => bridge.readReturn id lane taken.1 taken.2 context
  | .write id size =>
    match bridge.lanes.find id with
    | none => none
    | some lane => if lane.dead then none else some (bridge.setLane id (lane.write size))

end ClosedOuterBridge

end Ardents.Route
