/-
# Connection.Records — what a native Service Connection exchanges

The records of `record.go` that an application stream carries (`ReadStream`
admits no other kind), the Attachment that carries them, the verified peer state
of one Continuity exchange, and the errors a Stream ends with.  Byte offsets and
generations are `uint64` in the source; here they are `Nat`, and the one place
where the wrap is observable (`acceptData`) tests for it.
-/
import Mathlib.Tactic

namespace Ardents.Connection

set_option autoImplicit false

/-- `MaximumDataBytes`: the parser bound of one Data payload. -/
def maximumDataBytes : Nat := 16 * 1024

/-- `logicalQueueLimit`: retained bytes per direction. -/
def logicalQueueLimit : Nat := 256 * 1024

/-- `len(retained) > 8` in `storeRangeLocked`. -/
def maximumPendingRanges : Nat := 8

/-- One authenticated carrier with its generation, which `NewAttachment` refuses
to be zero.  The source compares Attachments by pointer; `carrier` is that
identity. -/
structure Attachment where
  carrier : Nat
  generation : Nat
  positive : 0 < generation := by decide
  deriving DecidableEq, Repr

/-- The replacement of the first Attachment. -/
def Attachment.second : Attachment := .mk 2 2

/-- `StreamRecord`: exactly one of Data, Acknowledgement and Terminal. -/
inductive StreamRecord where
  | data (generation offset : Nat) (payload : List UInt8)
  | acknowledgement (generation offset : Nat) (terminal terminalConfirmation : Bool)
  | terminal (generation offset : Nat)
  deriving DecidableEq, Repr

namespace StreamRecord

/-- `AttachmentGeneration` of whichever kind the record is. -/
def generation : StreamRecord → Nat
  | .data generation _ _ => generation
  | .acknowledgement generation _ _ _ => generation
  | .terminal generation _ => generation

/-- `Offset` of whichever kind the record is. -/
def offset : StreamRecord → Nat
  | .data _ offset _ => offset
  | .acknowledgement _ offset _ _ => offset
  | .terminal _ offset => offset

/-- `record.Data != nil`. -/
def isData : StreamRecord → Bool
  | .data _ _ _ => true
  | _ => false

/-- `record.Terminal != nil`. -/
def isTerminal : StreamRecord → Bool
  | .terminal _ _ => true
  | _ => false

end StreamRecord

/-- `ContinuityExchange` less its keys: the local state one recovery proposes. -/
structure ContinuityExchange where
  generation : Nat
  sendBase : Nat
  sendEnd : Nat
  receiveNext : Nat
  deriving DecidableEq, Repr

/-- `ContinuityPeer`: the verified remote state.  A nonce is a 32-byte array in
the source; here it is its value, so `0` is the all-zero array. -/
structure ContinuityPeer where
  sendBase : Nat
  sendEnd : Nat
  receiveNext : Nat
  peerNonce : Nat
  localNonce : Nat
  deriving DecidableEq, Repr

/-- The errors of a Stream.  `activeViolation` is `ErrActiveViolation`, joined
with the detail the source joins to it. -/
inductive StreamError where
  | activeViolation (detail : String)
  | closedPipe
  | terminalDataPending
  | noRouteRemains
  | recoveryExpired
  | recoveryExhausted
  | remoteEnded
  | application
  | inputExceeded
  | cancelled
  | carrier
  deriving DecidableEq, Repr

namespace StreamError

/-- `errors.Is(err, ErrActiveViolation)`. -/
def isActiveViolation : StreamError → Bool
  | .activeViolation _ => true
  | _ => false

def postCloseData : StreamError :=
  .activeViolation "received Application data after Terminal control completed"

def staleAttachment : StreamError :=
  .activeViolation "record names a stale Service Connection Attachment"

def unmatchedConfirmation : StreamError :=
  .activeViolation "Terminal receipt confirmation does not match a sent receipt"

def unmatchedTerminal : StreamError :=
  .activeViolation "Terminal does not match the received logical offset"

def replacementNotOwned : StreamError :=
  .activeViolation "replacement no longer owns the failed Attachment"

def replacementNotAdvanced : StreamError :=
  .activeViolation "replacement Attachment generation did not advance"

def replacementOutsideSendRange : StreamError :=
  .activeViolation "replacement peer acknowledgement is outside the retained send range"

def replacementForgot : StreamError :=
  .activeViolation "replacement peer forgot already delivered bytes"

def replacementNonce : StreamError :=
  .activeViolation "replacement continuity nonce is invalid"

end StreamError

/-- A contiguous byte range held at its logical offset. -/
structure ReceivedRange where
  offset : Nat
  data : List UInt8
  deriving DecidableEq, Repr

namespace ReceivedRange

/-- The first offset after the range. -/
def stop (range : ReceivedRange) : Nat := range.offset + range.data.length

end ReceivedRange

end Ardents.Connection
