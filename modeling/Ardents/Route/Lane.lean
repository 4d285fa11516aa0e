/-
# Route.Lane — frames of a lane and the bodies that name a duty

`closed_lane.go`, `closed_node_open.go` and the OPEN grammar of
`closed_outer_handshake.go`.  A frame has a kind, a lane and a body.  Kinds,
purposes and restrictions are single bytes on the wire; a byte outside the table
keeps its code.  Decoding answers with an error when it refuses.
-/
import Ardents.Lib.Bytes
import Ardents.Lib.Time

namespace Ardents.Route

open Lib

set_option autoImplicit false

def closedLaneHeaderSize : Nat := 16
def closedLaneMaximum : Nat := 16384
def closedTerminalOperationSize : Nat := 16384
def closedSmallTerminalOperation : Nat := 4096
def closedJoinStreamQueue : Nat := 2 * (closedLaneHeaderSize + closedLaneMaximum)

inductive ClosedFrameKind where
  | closedFrameHello
  | closedFrameAdmit
  | closedFrameBootstrap
  | closedFrameOpen
  | closedFrameAccept
  | closedFrameBytes
  | closedFrameCredit
  | closedFrameEOF
  | closedFrameClose
  | closedFrameOperation
  | closedFrameResult
  | closedFrameKeepalive
  | other (code : UInt8)
  deriving DecidableEq, Repr

structure ClosedLaneFrame where
  kind : ClosedFrameKind
  lane : UInt32
  body : List UInt8
  deriving DecidableEq, Repr

def validClosedFrame (frame : ClosedLaneFrame) : Bool :=
  decide (frame.body.length ≤ closedLaneMaximum) &&
    match frame.kind with
    | .closedFrameHello => frame.lane == 0 && frame.body.length == 209
    | .closedFrameAdmit => frame.body.length == 355
    | .closedFrameBootstrap => frame.lane == 0 && frame.body.length == 1
    | .closedFrameOpen => frame.lane != 0 && (frame.body.length == 49 || frame.body.length == 50)
    | .closedFrameAccept => frame.lane == 0 && frame.body.length == 5
    | .closedFrameBytes => frame.lane != 0 && decide (1 ≤ frame.body.length)
    | .closedFrameCredit =>
      frame.lane != 0 && frame.body.length == 4 && ofBigEndian frame.body != 0
    | .closedFrameEOF => frame.lane != 0 && frame.body.length == 0
    | .closedFrameClose =>
      frame.lane != 0 && frame.body.length == 1 && frame.body.all fun byte => decide (byte ≤ 6)
    | .closedFrameOperation =>
      frame.body.length == closedTerminalOperationSize ||
        frame.body.length == closedSmallTerminalOperation
    | .closedFrameResult => frame.body.length == closedTerminalOperationSize
    | .closedFrameKeepalive => frame.lane == 0 && frame.body.length == 0
    | .other _ => false

/-! ## Purposes and duties -/

inductive ClosedPurpose where
  | issuer
  | name
  | reachability
  | introduction
  | submission
  | dataJoin
  | forwarding
  | other (code : UInt8)
  deriving DecidableEq, Repr

def ClosedPurpose.ofByte (byte : UInt8) : ClosedPurpose :=
  if byte = 1 then .issuer
  else if byte = 2 then .name
  else if byte = 3 then .reachability
  else if byte = 4 then .introduction
  else if byte = 5 then .submission
  else if byte = 6 then .dataJoin
  else if byte = 7 then .forwarding
  else .other byte

def validClosedPurpose : ClosedPurpose → Bool
  | .other _ => false
  | _ => true

def closedRoleDomainInitiator : UInt8 := 1
def closedRoleDomainRendezvous : UInt8 := 2
def closedRoleDomainResponder : UInt8 := 3
def closedRoleDomainIntroduction : UInt8 := 4

def closedDutyAdjacent : UInt8 := 1
def closedDutyInterior : UInt8 := 2
def closedDutyIntroduction : UInt8 := 3
def closedDutyDataJoin : UInt8 := 4
def closedDutyResolution : UInt8 := 5
def closedDutyIssuance : UInt8 := 6

def closedPurposePermitsDuty (purpose : ClosedPurpose) (domain subrole : UInt8) : Bool :=
  match purpose with
  | .issuer => domain == closedRoleDomainRendezvous && subrole == closedDutyIssuance
  | .name | .reachability => domain == closedRoleDomainRendezvous && subrole == closedDutyResolution
  | .introduction | .submission =>
    domain == closedRoleDomainIntroduction && subrole == closedDutyIntroduction
  | .dataJoin => domain == closedRoleDomainRendezvous && subrole == closedDutyDataJoin
  | .forwarding =>
    (domain == closedRoleDomainInitiator || domain == closedRoleDomainResponder ||
        domain == closedRoleDomainIntroduction) &&
      (subrole == closedDutyAdjacent || subrole == closedDutyInterior)
  | .other _ => false

/-! ## HELLO, OPEN and ADMIT -/

inductive LaneError where
  | helloLength
  | helloFacts
  | openLength
  | openInvalid
  | nodeOpenLength
  | nodeRestriction
  | nodeBootstrapPurpose
  | tokenInvalid
  deriving DecidableEq, Repr

structure ClosedHello where
  networkID : Block 32
  stateGeneration : Block 32
  stateDigest : Block 32
  profileDigest : Block 32
  recipientNodeID : Block 32
  recipientDutyGeneration : Nat
  purpose : ClosedPurpose
  channelNonce : Block 32
  deadline : Time
  deriving DecidableEq

def validClosedHello (hello : ClosedHello) : Bool :=
  decide (hello.networkID ≠ Block.zero 32) && decide (hello.stateGeneration ≠ Block.zero 32) &&
    decide (hello.stateDigest ≠ Block.zero 32) && decide (hello.profileDigest ≠ Block.zero 32) &&
    decide (hello.recipientNodeID ≠ Block.zero 32) && decide (hello.recipientDutyGeneration ≠ 0) &&
    validClosedPurpose hello.purpose && decide (hello.channelNonce ≠ Block.zero 32) &&
    !hello.deadline.isZero && hello.deadline.isTruncated Time.second

def decodeClosedHello (body : List UInt8) : Except LaneError ClosedHello :=
  if body.length ≠ 209 then .error .helloLength
  else
    let hello : ClosedHello :=
      { networkID := Block.copy 32 (slice body 0 32)
        stateGeneration := Block.copy 32 (slice body 32 32)
        stateDigest := Block.copy 32 (slice body 64 32)
        profileDigest := Block.copy 32 (slice body 96 32)
        recipientNodeID := Block.copy 32 (slice body 128 32)
        recipientDutyGeneration := ofBigEndian (slice body 160 8)
        purpose := ClosedPurpose.ofByte (body.getD 168 0)
        channelNonce := Block.copy 32 (slice body 169 32)
        deadline := Time.ofUnix (ofBigEndian (slice body 201 8)) }
    if validClosedHello hello then .ok hello else .error .helloFacts

structure ClosedOpen where
  nextNodeID : Block 32
  nextDutyGeneration : Nat
  purpose : ClosedPurpose
  deadline : Time
  deriving DecidableEq

/-- What `EncodeClosedOpen` requires. -/
def validClosedOpen (opens : ClosedOpen) : Bool :=
  decide (opens.nextNodeID ≠ Block.zero 32) && decide (opens.nextDutyGeneration ≠ 0) &&
    validClosedPurpose opens.purpose && !opens.deadline.isZero &&
    opens.deadline.isTruncated Time.second

def decodeClosedOpen (body : List UInt8) : Except LaneError ClosedOpen :=
  if body.length ≠ 49 then .error .openLength
  else
    let opens : ClosedOpen :=
      { nextNodeID := Block.copy 32 (slice body 0 32)
        nextDutyGeneration := ofBigEndian (slice body 32 8)
        purpose := ClosedPurpose.ofByte (body.getD 40 0)
        deadline := Time.ofUnix (ofBigEndian (slice body 41 8)) }
    if validClosedOpen opens then .ok opens else .error .openInvalid

inductive ClosedChildRestriction where
  | ordinary
  | issuerBootstrap
  | other (code : UInt8)
  deriving DecidableEq, Repr

def ClosedChildRestriction.ofByte (byte : UInt8) : ClosedChildRestriction :=
  if byte = 0 then .ordinary else if byte = 1 then .issuerBootstrap else .other byte

def decodeClosedNodeOpen (body : List UInt8) :
    Except LaneError (ClosedOpen × ClosedChildRestriction) :=
  if body.length ≠ 50 then .error .nodeOpenLength
  else
    match decodeClosedOpen (body.take 49) with
    | .error refusal => .error refusal
    | .ok opens =>
      match ClosedChildRestriction.ofByte (body.getD 49 0) with
      | .other _ => .error .nodeRestriction
      | .issuerBootstrap =>
        if opens.purpose ≠ .forwarding ∧ opens.purpose ≠ .issuer then
          .error .nodeBootstrapPurpose
        else .ok (opens, .issuerBootstrap)
      | .ordinary => .ok (opens, .ordinary)

/-- The class and the token of an ADMIT body. -/
def decodeClosedAdmit (body : List UInt8) : Except LaneError (UInt8 × List UInt8) :=
  if body.length ≠ 355 ∨ body.getD 0 0 < 1 ∨ 3 < body.getD 0 0 then .error .tokenInvalid
  else .ok (body.getD 0 0, body.drop 1)

def closedClassBytes (cls : UInt8) : Nat :=
  if cls = 1 then 64 * 1024 else if cls = 2 then 32 * 1048576 else if cls = 3 then 1048576 else 0

end Ardents.Route
