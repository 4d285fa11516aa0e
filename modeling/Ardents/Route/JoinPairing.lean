/-
# Route.JoinPairing — matching the two sides of a JOIN

`closed_join_pairing.go`, `closed_join_operation.go` and `closed_join_stream.go`: an
owner matches two admitted requests that name the same secret, lets each side take and
confirm one RESULT, and then forwards frames between them.  A side keeps the duty
channel of its admission until it is released.

Pairs, sides, leases and duty channels are shared by pointers in the source; here they
live in tables, and an address is a number that was free when it was allocated.  A step
is one critical section of the owner's mutex, or one action between two of them.
`ready` is closed together with `paired`, and `done` together with `stopped`.  The
counters of the duty limits belong to other owners as well, so every event brings the
limits it finds.  `origin`, `results` and `releases` are not in the source; they record
what a side was reserved with, how many RESULTs it took and how often a channel was
released.  Left out: the connection itself, whose answers are inputs, with
the goroutine that interrupts it, and `graceful`, which only it reads.
-/
import Ardents.Lib.Runs
import Ardents.Route.Forwarding

namespace Ardents.Route

open Lib

set_option autoImplicit false

/-! ## Requests -/

structure ClosedRoleReceiver where
  networkID : Block 32
  stateGeneration : Block 32
  stateDigest : Block 32
  profileDigest : Block 32
  nodeID : Block 32
  recordDigest : Block 32
  dutyGeneration : Nat
  roleDomain : UInt8
  subrole : UInt8
  expectedPurpose : ClosedPurpose
  notAfter : Time

structure ClosedJoinRequest where
  nonce : Block 32
  secret : Block 32
  side : UInt8
  context : Block 32
  deadline : Time

inductive JoinError where
  | lane
  | operation
  | deadline
  | binding
  | admission
  | counterpart
  | capacity
  | children
  | queue
  | ended
  | cancelled
  | result
  | confirmation
  | stream
  | traffic
  | inactive
  | dataCredit
  | creditExceeds
  | repeatedEOF
  | afterActivation
  deriving DecidableEq, Repr

def validClosedJoinRequest (request : ClosedJoinRequest) : Bool :=
  decide (request.nonce ≠ Block.zero 32) && decide (request.secret ≠ Block.zero 32) &&
    decide (request.context ≠ Block.zero 32) &&
    (decide (request.side = 1) || decide (request.side = 2)) &&
    decide (0 < request.deadline.seconds) && request.deadline.isTruncated Time.second

def decodeClosedJoinRequest (body : List UInt8) : Except JoinError ClosedJoinRequest :=
  if body.length ≠ closedSmallTerminalOperation ∨ body.getD 0 0 ≠ 5 ∨
      (body.drop 106).any (fun byte => byte != 0) then .error .operation
  else
    let seconds := ofBigEndian (slice body 98 8)
    if seconds = 0 ∨ 2 ^ 63 - 1 < seconds then .error .deadline
    else
      let request : ClosedJoinRequest :=
        { nonce := Block.copy 32 (slice body 1 32)
          secret := Block.copy 32 (slice body 33 32)
          side := body.getD 65 0
          context := Block.copy 32 (slice body 66 32)
          deadline := Time.ofUnix seconds }
      if validClosedJoinRequest request then .ok request else .error .binding

/-- The body of a RESULT; the nonce of a side that is not released is never zero. -/
def encodeClosedJoinResult (nonce : Block 32) (status : UInt8) : Option (List UInt8) :=
  if nonce = Block.zero 32 ∨ 4 < status then none
  else some (nonce.bytes ++ [status] ++ List.replicate (closedTerminalOperationSize - 33) 0)

/-! ## State -/

/-- A timer of `schedule`: it waits, its callback has started, or it is through. -/
inductive JoinTimer where
  | pending
  | running
  | done
  deriving DecidableEq, Repr

/-- A timer that is stopped; one that has fired already runs to its end. -/
def JoinTimer.stop : JoinTimer → JoinTimer
  | .pending => .done
  | timer => timer

/-- Where `Serve` stands. -/
inductive ServePhase where
  | waitPair
  | pairing
  | result
  | answer (body : List UInt8)
  | confirm
  | waitData
  | activating
  | reading
  | header
  | body (length : Nat)
  | forward (frame : ClosedLaneFrame)
  | relay (frame : ClosedLaneFrame) (peer : Nat)
  | write (frame : ClosedLaneFrame)
  | terminal
  | leaving
  | aborted
  | joining
  | released
  | returned
  deriving DecidableEq, Repr

structure ClosedJoinStream where
  credit : Nat
  eof : Bool
  ioDone : Bool
  finished : Bool
  phase : ServePhase
  deriving DecidableEq, Repr

/-- What a side was reserved with. -/
structure JoinOrigin where
  request : ClosedJoinRequest
  profile : Block 32
  duty : Nat

structure ClosedJoinSide where
  pair : Nat
  duty : Option Nat
  stream : Option ClosedJoinStream
  used : Nat
  nonce : Block 32
  deadline : Time
  wallDeadline : Time
  timer : JoinTimer
  resultTaken : Bool
  confirmed : Bool
  closed : Bool
  /-- How many calls of `Close` wait for the stream of the side. -/
  closing : Nat
  origin : JoinOrigin
  results : Nat

structure ClosedJoinPair where
  secret : Block 32
  context : Block 32
  profile : Block 32
  side1 : Option Nat
  side2 : Option Nat
  setup : Time
  setupWall : Time
  timer : JoinTimer
  paired : Bool
  stopped : Bool
  dataReady : Bool

/-- A duty channel, the limits it belongs to, and how often it was released. -/
structure JoinDuty where
  channel : ClosedDutyChannel
  limits : Nat
  releases : Nat

/-- A `ClosedAdmission` and the duty channel that it still owns. -/
structure JoinLease where
  cls : UInt8
  deadline : Time
  bytes : Nat
  hello : ClosedHello
  duty : Option Nat

structure ClosedJoinPairs where
  receiver : ClosedRoleReceiver
  limits : Nat
  entries : Table (Block 32) Nat
  closed : Bool
  drained : Bool
  /-- How many calls of `Close` wait for the owner to drain. -/
  closing : Nat
  pairs : Table Nat ClosedJoinPair
  sides : Table Nat ClosedJoinSide
  leases : Table Nat JoinLease
  duties : Table Nat JoinDuty

/-- What `limits.clock` and `time.Now` read in one critical section. -/
structure JoinClock where
  now : Time
  wall : Time

/-- `pair.sides[number-1]`. -/
def ClosedJoinPair.side (pair : ClosedJoinPair) (number : UInt8) : Option Nat :=
  if number = 1 then pair.side1 else pair.side2

/-- `pair.sides[number-1] = side`. -/
def ClosedJoinPair.setSide (pair : ClosedJoinPair) (number : UInt8) (side : Nat) : ClosedJoinPair :=
  if number = 1 then { pair with side1 := some side } else { pair with side2 := some side }

/-- The sides of a pair that are not nil. -/
def ClosedJoinPair.members (pair : ClosedJoinPair) : List Nat := pair.side1.toList ++ pair.side2.toList

/-- `pair.sides[request.Side-1] = side`; a second side completes the pair. -/
def ClosedJoinPair.seat (pair : ClosedJoinPair) (number : UInt8) (side : Nat) : ClosedJoinPair :=
  let pair := pair.setSide number side
  if pair.side1.isSome && pair.side2.isSome then
    { pair with paired := true, timer := pair.timer.stop }
  else pair

/-- `duty.release()`, which counts as one release. -/
def JoinDuty.release (held : JoinDuty) (limits : ClosedDutyLimits) : JoinDuty :=
  { held with channel := (held.channel.release limits).2, releases := held.releases + 1 }

namespace ClosedJoinPairs

/-- `NewClosedJoinPairs`. -/
def new (receiver : ClosedRoleReceiver) (limits : Nat) : ClosedJoinPairs :=
  { receiver, limits, entries := Table.empty, closed := false, drained := false, closing := 0,
    pairs := Table.empty, sides := Table.empty, leases := Table.empty, duties := Table.empty }

def setPair (owner : ClosedJoinPairs) (id : Nat) (pair : ClosedJoinPair) : ClosedJoinPairs :=
  { owner with pairs := owner.pairs.put id pair }

def setSide (owner : ClosedJoinPairs) (id : Nat) (side : ClosedJoinSide) : ClosedJoinPairs :=
  { owner with sides := owner.sides.put id side }

/-! ## Ending a pair -/

/-- `side.timer.Stop()`. -/
def stopTimer (owner : ClosedJoinPairs) (id : Nat) : ClosedJoinPairs :=
  match owner.sides.find id with
  | none => owner
  | some side => owner.setSide id { side with timer := side.timer.stop }

def stopLocked (owner : ClosedJoinPairs) (id : Nat) : ClosedJoinPairs :=
  match owner.pairs.find id with
  | none => owner
  | some pair =>
    if pair.stopped then owner
    else
      pair.members.foldl stopTimer
        (owner.setPair id { pair with stopped := true, timer := pair.timer.stop })

/-- The setup or a deadline of the pair is over, by the network's clock or by the wall. -/
def expired (owner : ClosedJoinPairs) (pair : ClosedJoinPair) (clock : JoinClock) : Bool :=
  (!pair.paired && (!clock.now.before pair.setup || !clock.wall.before pair.setupWall)) ||
    pair.members.any fun id =>
      match owner.sides.find id with
      | none => false
      | some side => !clock.now.before side.deadline || !clock.wall.before side.wallDeadline

def expireLocked (owner : ClosedJoinPairs) (id : Nat) (clock : JoinClock) : ClosedJoinPairs :=
  match owner.pairs.find id with
  | none => owner
  | some pair => if owner.expired pair clock then owner.stopLocked id else owner

/-- The pair of a side, once what has expired was stopped. -/
def pairStopped (owner : ClosedJoinPairs) (id : Nat) : Bool :=
  match owner.pairs.find id with
  | none => true
  | some pair => pair.stopped

/-! ## Reserving a side -/

/-- The admission facts that `Reserve` requires. -/
def admits (owner : ClosedJoinPairs) (lease : JoinLease) (duty : JoinDuty)
    (request : ClosedJoinRequest) (now : Time) : Bool :=
  !owner.closed && decide (duty.limits = owner.limits) && decide (lease.cls = 2) &&
    decide (lease.bytes = closedClassBytes 2) && decide (lease.hello.purpose = .dataJoin) &&
    decide (lease.hello.networkID = owner.receiver.networkID) &&
    decide (lease.hello.stateGeneration = owner.receiver.stateGeneration) &&
    decide (lease.hello.stateDigest = owner.receiver.stateDigest) &&
    decide (lease.hello.profileDigest = owner.receiver.profileDigest) &&
    decide (lease.hello.recipientNodeID = owner.receiver.nodeID) &&
    decide (lease.hello.recipientDutyGeneration = owner.receiver.dutyGeneration) &&
    now.before lease.deadline && !lease.deadline.after owner.receiver.notAfter &&
    now.before request.deadline && !request.deadline.after lease.deadline

/-- A waiting pair that the request completes. -/
def fits (pair : ClosedJoinPair) (request : ClosedJoinRequest) (profile : Block 32) : Bool :=
  !pair.stopped && !pair.paired && decide (pair.context = request.context) &&
    decide (pair.profile = profile) && (pair.side request.side).isNone

/-- The pair of a first side. -/
def newPair (request : ClosedJoinRequest) (profile : Block 32) (clock : JoinClock) : ClosedJoinPair :=
  let ends := (clock.now.addSeconds 10).earlier request.deadline
  { secret := request.secret, context := request.context, profile, side1 := none, side2 := none
    setup := ends, setupWall := clock.wall.add (ends.sub clock.now), timer := .pending
    paired := false, stopped := false, dataReady := false }

def newSide (lease : JoinLease) (duty pair : Nat) (request : ClosedJoinRequest) (clock : JoinClock) :
    ClosedJoinSide :=
  { pair, duty := some duty, stream := none
    used := 3 * closedLaneHeaderSize + 209 + 355 + 5 + closedLaneHeaderSize + 4096
    nonce := request.nonce, deadline := lease.deadline
    wallDeadline := clock.wall.add (lease.deadline.sub clock.now), timer := .pending
    resultTaken := false, confirmed := false, closed := false, closing := 0
    origin := ⟨request, lease.hello.profileDigest, duty⟩, results := 0 }

/-- The owner once `duty` has a place for the side. -/
def seated (owner : ClosedJoinPairs) (lease : Nat) (value : JoinLease) (duty : Nat)
    (channel : JoinDuty) (id : Nat) (pair : ClosedJoinPair) (side : Nat)
    (request : ClosedJoinRequest) (clock : JoinClock) : ClosedJoinPairs :=
  { owner with
    pairs := owner.pairs.put id (pair.seat request.side side)
    sides := owner.sides.put side (newSide value duty id request clock)
    leases := owner.leases.put lease { value with duty := none }
    duties := owner.duties.put duty channel }

/-- `Reserve` with the addresses of a new pair and of the new side. -/
def reserve (owner : ClosedJoinPairs) (lease : Nat) (value : JoinLease) (frame : ClosedLaneFrame)
    (fresh side : Nat) (limits : ClosedDutyLimits) (clock : JoinClock) :
    Except JoinError Nat × ClosedJoinPairs :=
  if frame.kind ≠ .closedFrameOperation ∨ frame.lane ≠ 1 then (.error .lane, owner)
  else
    match decodeClosedJoinRequest frame.body with
    | .error refusal => (.error refusal, owner)
    | .ok request =>
      match value.duty.bind fun duty => (owner.duties.find duty).map fun held => (duty, held) with
      | none => (.error .admission, owner)
      | some (duty, held) =>
        if !owner.admits value held request clock.now then (.error .admission, owner)
        else
          let reserved := held.channel.reserveChild limits
          let channel := { held with channel := reserved.2.2 }
          match owner.entries.find request.secret with
          | some id =>
            let owner := owner.expireLocked id clock
            match owner.pairs.find id with
            | none => (.error .counterpart, owner)
            | some pair =>
              if !fits pair request value.hello.profileDigest then
                (.error .counterpart, owner)
              else if !reserved.1 then (.error .children, owner)
              else (.ok side, owner.seated lease value duty channel id pair side request clock)
          | none =>
            if closedDutyChannels ≤ owner.entries.size then (.error .capacity, owner)
            else if !reserved.1 then (.error .children, owner)
            else
              let owner := { owner with entries := owner.entries.put request.secret fresh }
              (.ok side, owner.seated lease value duty channel fresh
                (newPair request value.hello.profileDigest clock) side request clock)

/-! ## A side's own operations -/

/-- The critical section of `WaitPair` and `WaitData` behind their channel. -/
def waited (owner : ClosedJoinPairs) (side : ClosedJoinSide) (cancelled : Bool)
    (clock : JoinClock) : Option JoinError × ClosedJoinPairs :=
  let owner := owner.expireLocked side.pair clock
  if cancelled then (some .cancelled, owner.stopLocked side.pair)
  else if side.closed || owner.pairStopped side.pair then (some .ended, owner)
  else (none, owner)

def result (owner : ClosedJoinPairs) (id : Nat) (clock : JoinClock) :
    Except JoinError (List UInt8) × ClosedJoinPairs :=
  match owner.sides.find id with
  | none => (.error .result, owner)
  | some side =>
    let owner := owner.expireLocked side.pair clock
    match owner.sides.find id, owner.pairs.find side.pair with
    | some side, some pair =>
      if side.closed || pair.stopped || !pair.paired || side.resultTaken then
        (.error .result, owner)
      else
        match encodeClosedJoinResult side.nonce 0 with
        | none => (.error .result, owner.setSide id { side with resultTaken := true })
        | some body =>
          (.ok body, owner.setSide id
            { side with resultTaken := true, results := side.results + 1 })
    | _, _ => (.error .result, owner)

/-- `pair.sides[0].confirmed && pair.sides[1].confirmed`. -/
def bothConfirmed (owner : ClosedJoinPairs) (pair : ClosedJoinPair) : Bool :=
  [pair.side1, pair.side2].all fun slot =>
    match slot.bind owner.sides.find with
    | none => false
    | some side => side.confirmed

def confirmResult (owner : ClosedJoinPairs) (id : Nat) (clock : JoinClock) :
    Option JoinError × ClosedJoinPairs :=
  match owner.sides.find id with
  | none => (some .confirmation, owner)
  | some side =>
    let owner := owner.expireLocked side.pair clock
    match owner.sides.find id, owner.pairs.find side.pair with
    | some side, some pair =>
      if side.closed || pair.stopped || !side.resultTaken || side.confirmed then
        (some .confirmation, owner)
      else
        let owner := owner.setSide id { side with confirmed := true }
        if owner.bothConfirmed pair then
          (none, owner.setPair side.pair { pair with dataReady := true })
        else (none, owner)
    | _, _ => (some .confirmation, owner)

def abort (owner : ClosedJoinPairs) (id : Nat) : ClosedJoinPairs :=
  match owner.sides.find id with
  | none => owner
  | some side => owner.stopLocked side.pair

/-- The release of a duty channel that may be nil. -/
def releaseDuty (owner : ClosedJoinPairs) (duty : Option Nat) (limits : ClosedDutyLimits) :
    ClosedJoinPairs :=
  match duty with
  | none => owner
  | some id =>
    match owner.duties.find id with
    | none => owner
    | some held => { owner with duties := owner.duties.put id (held.release limits) }

/-- Every side of the pair is released. -/
def allClosed (owner : ClosedJoinPairs) (pair : ClosedJoinPair) : Bool :=
  pair.members.all fun id =>
    match owner.sides.find id with
    | none => true
    | some side => side.closed

/-- The entry of a pair whose sides are all released. -/
def retire (owner : ClosedJoinPairs) (id : Nat) (pair : ClosedJoinPair) : ClosedJoinPairs :=
  let entries := owner.entries.erase pair.secret
  { owner with
    entries
    pairs := owner.pairs.put id
      { pair with secret := Block.zero 32, context := Block.zero 32, profile := Block.zero 32 }
    drained := owner.drained || (owner.closed && decide (entries.size = 0)) }

def release (owner : ClosedJoinPairs) (id : Nat) (limits : ClosedDutyLimits) : ClosedJoinPairs :=
  match owner.sides.find id with
  | none => owner
  | some side =>
    if side.closed then owner
    else
      let owner := owner.stopLocked side.pair
      match owner.sides.find id, owner.pairs.find side.pair with
      | some side, some pair =>
        let owner := (owner.releaseDuty side.duty limits).setSide id
          { side with closed := true, duty := none, nonce := Block.zero 32 }
        if owner.allClosed pair then owner.retire side.pair pair else owner
      | _, _ => owner

/-! ## Forwarding -/

def peerLocked (owner : ClosedJoinPairs) (id : Nat) (side : ClosedJoinSide) : Option Nat :=
  match owner.pairs.find side.pair with
  | none => none
  | some pair => pair.members.find? fun peer => peer != id

def account (owner : ClosedJoinPairs) (id : Nat) (size : Nat) (clock : JoinClock) :
    Option JoinError × ClosedJoinPairs :=
  match owner.sides.find id with
  | none => (some .traffic, owner)
  | some side =>
    let owner := owner.expireLocked side.pair clock
    match owner.sides.find id with
    | none => (some .traffic, owner)
    | some side =>
      if side.closed || owner.pairStopped side.pair ||
          decide ((minus 64 (closedClassBytes 2) side.used).1 < size) then (some .traffic, owner)
      else (none, owner.setSide id { side with used := side.used + size })

/-- What a frame does to the streams of its side and of the peer. -/
def forwardStreams (frame : ClosedLaneFrame) (own peer : ClosedJoinStream) :
    Except JoinError (ClosedJoinStream × ClosedJoinStream) :=
  match frame.kind with
  | .closedFrameBytes =>
    if own.eof || decide (own.credit < frame.body.length) then .error .dataCredit
    else .ok ({ own with credit := own.credit - frame.body.length }, peer)
  | .closedFrameCredit =>
    let increment := ofBigEndian frame.body
    if increment = 0 ∨ (minus 64 closedLaneCredit peer.credit).1 < increment then
      .error .creditExceeds
    else .ok (own, { peer with credit := peer.credit + increment })
  | .closedFrameEOF => if own.eof then .error .repeatedEOF else .ok ({ own with eof := true }, peer)
  | .closedFrameClose => .ok (own, peer)
  | _ => .error .afterActivation

def forwardFrame (owner : ClosedJoinPairs) (id : Nat) (frame : ClosedLaneFrame) (clock : JoinClock) :
    Except JoinError Nat × ClosedJoinPairs :=
  match owner.sides.find id with
  | none => (.error .inactive, owner)
  | some side =>
    let owner := owner.expireLocked side.pair clock
    match owner.sides.find id, owner.peerLocked id side with
    | some side, some peer =>
      match owner.sides.find peer with
      | none => (.error .inactive, owner)
      | some other =>
        match side.stream, other.stream with
        | some own, some opposite =>
          if side.closed || owner.pairStopped side.pair || !side.confirmed ||
              !other.confirmed || decide (frame.lane ≠ 1) then (.error .inactive, owner)
          else
            match forwardStreams frame own opposite with
            | .error refusal => (.error refusal, owner)
            | .ok (own, opposite) =>
              (.ok peer, (owner.setSide id { side with stream := some own }).setSide peer
                { other with stream := some opposite })
        | _, _ => (.error .inactive, owner)
    | _, _ => (.error .inactive, owner)

/-! ## Serve -/

/-- What a step of `Serve` meets: the clock, the limits, whether its context is done,
whether its input or output works, and the frame that it reads. -/
structure ServeInput where
  clock : JoinClock
  limits : ClosedDutyLimits
  cancelled : Bool
  works : Bool
  frame : ClosedLaneFrame

/-- The start of `Serve`. -/
def serve (owner : ClosedJoinPairs) (id : Nat) (input : ServeInput) :
    Option JoinError × ClosedJoinPairs :=
  match owner.sides.find id with
  | none => (some .stream, owner)
  | some side =>
    let owner := owner.expireLocked side.pair input.clock
    match owner.sides.find id with
    | none => (some .stream, owner)
    | some side =>
      if side.closed || owner.pairStopped side.pair || side.stream.isSome || side.resultTaken ||
          input.cancelled then (some .stream, owner)
      else if !(input.limits.queue closedJoinStreamQueue).1 then (some .queue, owner)
      else
        (none, owner.setSide id { side with
          stream := some ⟨closedLaneCredit, false, false, false, .waitPair⟩ })

/-- `Serve` of a side goes on at `phase`. -/
def setStream (owner : ClosedJoinPairs) (id : Nat)
    (change : ClosedJoinStream → ClosedJoinStream) : ClosedJoinPairs :=
  match owner.sides.find id with
  | none => owner
  | some side => owner.setSide id { side with stream := side.stream.map change }

def goOn (owner : ClosedJoinPairs) (id : Nat) (phase : ServePhase) : ClosedJoinPairs :=
  owner.setStream id fun stream => { stream with phase }

/-- `Serve` goes on where its operation succeeded, and leaves otherwise. -/
def goOnOr (id : Nat) (phase : ServePhase) (answer : Option JoinError × ClosedJoinPairs) :
    ClosedJoinPairs :=
  answer.2.goOn id (if answer.1.isNone then phase else .leaving)

/-- The channel that a wait of `Serve` is about. -/
def channelReady (owner : ClosedJoinPairs) (pair : Nat) (data : Bool) : Bool :=
  match owner.pairs.find pair with
  | none => false
  | some pair => if data then pair.dataReady else pair.paired

/-- The `select` of a wait: a context that is done aborts, a stopped pair ends the wait,
and a closed channel leads to its last critical section.  Where several of them are
possible they end in the same state. -/
def select (owner : ClosedJoinPairs) (id : Nat) (side : ClosedJoinSide) (data : Bool)
    (phase : ServePhase) (input : ServeInput) : Option ClosedJoinPairs :=
  if owner.channelReady side.pair data then
    some (goOnOr id phase (owner.waited side input.cancelled input.clock))
  else if owner.pairStopped side.pair then some (owner.goOn id .leaving)
  else if input.cancelled then some ((owner.abort id).goOn id .leaving)
  else none

/-- The other side's stream has no input or output in progress. -/
def peerJoined (owner : ClosedJoinPairs) (id : Nat) (side : ClosedJoinSide) : Bool :=
  match (owner.peerLocked id side).bind owner.sides.find with
  | none => true
  | some peer =>
    match peer.stream with
    | none => true
    | some stream => stream.ioDone

/-- One step of `Serve`. -/
def serving (owner : ClosedJoinPairs) (id : Nat) (side : ClosedJoinSide) (phase : ServePhase)
    (input : ServeInput) : Option ClosedJoinPairs :=
  match phase with
  | .waitPair => some ((owner.expireLocked side.pair input.clock).goOn id .pairing)
  | .pairing => owner.select id side false .result input
  | .result =>
    match owner.result id input.clock with
    | (.ok body, owner) => some (owner.goOn id (.answer body))
    | (.error _, owner) => some (owner.goOn id .leaving)
  | .answer body =>
    some (goOnOr id (if input.works then .confirm else .leaving)
      (owner.account id (closedLaneHeaderSize + body.length) input.clock))
  | .confirm => some (goOnOr id .waitData (owner.confirmResult id input.clock))
  | .waitData => some ((owner.expireLocked side.pair input.clock).goOn id .activating)
  | .activating => owner.select id side true .reading input
  | .reading => some (goOnOr id .header (owner.account id closedLaneHeaderSize input.clock))
  | .header =>
    if !input.works || decide (closedLaneMaximum < input.frame.body.length) then
      some (owner.goOn id .leaving)
    else
      some (goOnOr id (.body input.frame.body.length)
        (owner.account id input.frame.body.length input.clock))
  | .body length =>
    if input.frame.body.length ≠ length then none
    else if input.works && validClosedFrame input.frame then
      some (owner.goOn id (.forward input.frame))
    else some (owner.goOn id .leaving)
  | .forward frame =>
    match owner.forwardFrame id frame input.clock with
    | (.ok peer, owner) => some (owner.goOn id (.relay frame peer))
    | (.error _, owner) => some (owner.goOn id .leaving)
  | .relay frame peer =>
    some (goOnOr id (.write frame)
      (owner.account peer (closedLaneHeaderSize + frame.body.length) input.clock))
  | .write frame =>
    if !input.works then some (owner.goOn id .leaving)
    else if frame.kind = .closedFrameClose then some (owner.goOn id .terminal)
    else some (owner.goOn id .reading)
  | .terminal =>
    some (((owner.expireLocked side.pair input.clock).stopLocked side.pair).goOn id .leaving)
  -- from here on the deferred function of `Serve` runs
  | .leaving => some ((owner.abort id).goOn id .aborted)
  | .aborted => some (owner.setStream id fun stream => { stream with phase := .joining, ioDone := true })
  | .joining =>
    if owner.peerJoined id side then some ((owner.release id input.limits).goOn id .released)
    else none
  | .released =>
    some (owner.setStream id fun stream => { stream with phase := .returned, finished := true })
  | .returned => none

/-! ## Closing -/

/-- The start of a side's `Close`. -/
def closeSide (owner : ClosedJoinPairs) (id : Nat) : ClosedJoinPairs :=
  match owner.sides.find id with
  | none => owner
  | some side =>
    let owner := owner.stopLocked side.pair
    match owner.sides.find id with
    | none => owner
    | some side => owner.setSide id { side with closing := side.closing + 1 }

/-- The stream of the side has finished, if there is one. -/
def streamFinished (side : ClosedJoinSide) : Bool :=
  match side.stream with
  | none => true
  | some stream => stream.finished

/-- The owner's `Close`, up to the point where it waits. -/
def close (owner : ClosedJoinPairs) : ClosedJoinPairs :=
  let owner := (owner.entries.entries.map Prod.snd).foldl stopLocked { owner with closed := true }
  { owner with
    drained := owner.drained || decide (owner.entries.size = 0)
    closing := owner.closing + 1 }

/-- No callback of a timer is left. -/
def timersDone (owner : ClosedJoinPairs) : Bool :=
  (owner.pairs.entries.all fun entry => decide (entry.2.timer = .done)) &&
    owner.sides.entries.all fun entry => decide (entry.2.timer = .done)

end ClosedJoinPairs

/-! ## Steps -/

inductive JoinEvent where
  | admitLease (lease duty : Nat) (value : JoinLease) (channel : ClosedDutyChannel) (limits : Nat)
  | releaseLease (lease : Nat) (limits : ClosedDutyLimits)
  | reserve (lease : Nat) (frame : ClosedLaneFrame) (fresh side : Nat) (limits : ClosedDutyLimits)
      (clock : JoinClock)
  | pairTimerFires (pair : Nat)
  | pairTimer (pair : Nat)
  | sideTimerFires (side : Nat)
  | sideTimer (side : Nat)
  | enterWait (side : Nat) (clock : JoinClock)
  | leaveWait (side : Nat) (data cancelled : Bool) (clock : JoinClock)
  | result (side : Nat) (clock : JoinClock)
  | confirmResult (side : Nat) (clock : JoinClock)
  | abort (side : Nat)
  | serve (side : Nat) (input : ClosedJoinPairs.ServeInput)
  | serving (side : Nat) (input : ClosedJoinPairs.ServeInput)
  | closeSide (side : Nat)
  | closeRelease (side : Nat) (limits : ClosedDutyLimits)
  | close
  | closeReturned

namespace ClosedJoinPairs

/-- A role channel was admitted: a lease with a duty channel of its own. -/
def admitLease (owner : ClosedJoinPairs) (lease duty : Nat) (value : JoinLease)
    (channel : ClosedDutyChannel) (limits : Nat) : ClosedJoinPairs :=
  { owner with
    leases := owner.leases.put lease { value with duty := some duty }
    duties := owner.duties.put duty ⟨channel, limits, 0⟩ }

/-- `ClosedAdmission.Release`. -/
def releaseLease (owner : ClosedJoinPairs) (id : Nat) (lease : JoinLease)
    (limits : ClosedDutyLimits) : ClosedJoinPairs :=
  let owner := owner.releaseDuty lease.duty limits
  { owner with leases := owner.leases.put id { lease with duty := none } }

def step (owner : ClosedJoinPairs) : JoinEvent → Option ClosedJoinPairs
  | .admitLease lease duty value channel limits =>
    if (owner.leases.find lease).isSome || (owner.duties.find duty).isSome then none
    else some (owner.admitLease lease duty value channel limits)
  | .releaseLease id limits =>
    (owner.leases.find id).map fun lease => owner.releaseLease id lease limits
  | .reserve lease frame fresh side limits clock =>
    if (owner.pairs.find fresh).isSome || (owner.sides.find side).isSome then none
    else
      (owner.leases.find lease).map fun value =>
        (owner.reserve lease value frame fresh side limits clock).2
  | .pairTimerFires id =>
    match owner.pairs.find id with
    | none => none
    | some pair =>
      if pair.timer = .pending then some (owner.setPair id { pair with timer := .running })
      else none
  | .pairTimer id =>
    match owner.pairs.find id with
    | none => none
    | some pair =>
      if pair.timer ≠ .running then none
      else
        let owner := owner.setPair id { pair with timer := .done }
        some (if pair.paired then owner else owner.stopLocked id)
  | .sideTimerFires id =>
    match owner.sides.find id with
    | none => none
    | some side =>
      if side.timer = .pending then some (owner.setSide id { side with timer := .running })
      else none
  | .sideTimer id =>
    match owner.sides.find id with
    | none => none
    | some side =>
      if side.timer ≠ .running then none
      else some ((owner.setSide id { side with timer := .done }).stopLocked side.pair)
  | .enterWait id clock => (owner.sides.find id).map fun side => owner.expireLocked side.pair clock
  | .leaveWait id data cancelled clock =>
    match owner.sides.find id with
    | none => none
    | some side =>
      if owner.channelReady side.pair data then some (owner.waited side cancelled clock).2
      else none
  | .result id clock => some (owner.result id clock).2
  | .confirmResult id clock => some (owner.confirmResult id clock).2
  | .abort id => some (owner.abort id)
  | .serve id input => some (owner.serve id input).2
  | .serving id input =>
    match owner.sides.find id with
    | none => none
    | some side =>
      match side.stream with
      | none => none
      | some stream => owner.serving id side stream.phase input
  | .closeSide id => some (owner.closeSide id)
  | .closeRelease id limits =>
    match owner.sides.find id with
    | none => none
    | some side =>
      if side.closing = 0 ∨ streamFinished side = false then none
      else
        some ((owner.setSide id { side with closing := side.closing - 1 }).release id limits)
  | .close => some owner.close
  | .closeReturned =>
    if owner.closing ≠ 0 ∧ owner.drained = true ∧ owner.timersDone = true then
      some { owner with closing := owner.closing - 1 }
    else none

end ClosedJoinPairs

end Ardents.Route
