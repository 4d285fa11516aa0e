/-
# Endpoint.Introductions — how a publisher receives Introduction capsules

The publisher side of a text context (`text_introduction_dispatch.go`,
`text_introduction_accept.go`, `text_introduction_exchange.go`).  Any number of receivers wait
at once.  Each registers a waiter, competes for the one consumer gate, claims a capsule from a
lane, inspects it, and routes it to a waiter or to the owner of a recovery; whoever it went to
accepts it later.  Claim, inspect, route, release and accept are separate critical sections,
so every one of them is an event of its own, and the events of different receivers interleave
freely.

A capsule that was inspected and is neither accepted nor refused is a `Flight`.  Its `place`
says which channel or goroutine of the source holds it; its `opening` is the number of the
reservation that `inspectTextIntroductionDelivery` made for it.

Instants are nanoseconds.  The checks of job, profile, publication and lease that do not read
the fields below are one input `entitled` of the event.  Opening a capsule is a parameter.
The random slot of a registration is one that no registration had before.
-/
import Ardents.Lib.Runs
import Ardents.Lib.Table
import Ardents.Lib.Pace
import Ardents.Lib.Suite

namespace Ardents.Endpoint

open Lib

set_option autoImplicit false

/-- `time.Second`. -/
def second : Int := 1000000000

def maximumTextIntroductionWaiters : Nat := 16

/-- `textIntroductionExpiryReserve`, 250 ms. -/
def textIntroductionExpiryReserve : Int := 250000000

def maximumTextIntroductionReplays : Nat := 4 * (600 + 60)

/-- The zero `time.Time`, the first instant of the year 1. -/
def zeroTime : Int := -62135596800 * second

/-- What `DecodeClosedIntroductionSubmission` answers with. -/
structure Capsule where
  slot : Digest
  revision : UInt64
  expiry : Int
  deliveryNonce : Digest
  ciphertext : List UInt8
  deriving DecidableEq

/-- The facts of an opened capsule that dispatch and acceptance read. -/
structure Plaintext where
  connectionNonce : Digest
  attachmentGeneration : UInt64
  deadline : Int
  deriving DecidableEq

/-- `OpenClosedIntroduction` with the recipient of the registration of a slot. -/
structure Setting where
  openClosedIntroduction : Digest → Capsule → Int → Option Plaintext

/-- `textIntroductionDeliveryKey`. -/
structure DeliveryKey where
  connection : Digest
  generation : UInt64
  deriving DecidableEq

def textIntroductionDeliveryMatches (key want : DeliveryKey) : Bool :=
  key.generation == want.generation && (want.generation == 1 || key.connection == want.connection)

/-- A registration; `asked` is the instant at which `openTextRegistration` checked its expiry. -/
structure Registration where
  slot : Digest
  revision : UInt64
  expiry : Int
  published : Bool
  asked : Int
  deriving DecidableEq

/-- Who holds an inspected capsule. -/
inductive Place where
  /-- the receiver that inspected it, before it routes it -/
  | inspected (receiver : Nat)
  /-- the channel of a waiter -/
  | assigned (receiver : Nat)
  /-- a receiver that leaves the dispatch with it -/
  | returned (receiver : Nat)
  /-- a receiver about to accept it -/
  | held (want : DeliveryKey) (recoveryDeadline : Option Int)
  /-- the channel of a recovery owner -/
  | buffered (recovery : Nat)
  deriving DecidableEq

/-- `textIntroductionRoutedDelivery`. -/
structure Flight where
  opening : Nat
  capsule : Capsule
  key : DeliveryKey
  place : Place
  deriving DecidableEq

/-- Where a receiver with a registered waiter stands in `dispatchTextIntroductionDelivery`. -/
inductive Phase where
  | waiting
  /-- at the inner loop, with the gate -/
  | consuming
  | claimed (delivery : Option Capsule)
  | routing
  | returning
  | failing
  deriving DecidableEq

structure Receiver where
  want : DeliveryKey
  recoveryDeadline : Option Int
  phase : Phase
  deriving DecidableEq

/-- `textIntroductionRecoveryOwner`; `expiring` says that `expiryDone` is set. -/
structure Recovery where
  connection : Digest
  generation : UInt64
  expiring : Bool
  deriving DecidableEq

/-- `introductionOpenings`, oldest first. -/
structure Openings where
  first : Int
  second : Int
  third : Int
  fourth : Int
  deriving DecidableEq

/-- One acceptance: what was accepted, when, and how long its nonce is to be remembered. -/
structure Acceptance where
  opening : Nat
  nonce : Digest
  time : Int
  remembered : Int
  deriving DecidableEq

/-- The fields of `textContext` that receiving reads, with the records of what happened:
`registrations` all registrations, `reservations` and `accepted` newest first. -/
structure TextContext where
  clock : Int
  registration : Option Registration
  previousRegistration : Option Registration
  previousUntil : Int
  introductionReplays : Table Digest Int
  introductionOpenings : Openings
  gate : Bool
  receivers : Table Nat Receiver
  recoveries : Table Nat Recovery
  bindings : List Digest
  flights : List Flight
  registrations : List Registration
  reservations : List Int
  accepted : List Acceptance

def TextContext.start (clock : Int) : TextContext where
  clock := clock
  registration := none
  previousRegistration := none
  previousUntil := zeroTime
  introductionReplays := Table.empty
  introductionOpenings := ⟨zeroTime, zeroTime, zeroTime, zeroTime⟩
  gate := true
  receivers := Table.empty
  recoveries := Table.empty
  bindings := []
  flights := []
  registrations := []
  reservations := []
  accepted := []

namespace TextContext

/-! ## Registrations -/

/-- The registration a capsule is read with: the predecessor while it is retained and the
capsule names it, else the current one. -/
def registered (owner : TextContext) (capsule : Capsule) : Option Registration :=
  match owner.previousRegistration with
  | none => owner.registration
  | some prior =>
    if owner.clock < owner.previousUntil ∧ prior.slot = capsule.slot ∧ prior.revision = capsule.revision then some prior
    else owner.registration

/-- A registration is installed. -/
def install (owner : TextContext) (opened : Registration) : TextContext :=
  { owner with registration := some opened, registrations := opened :: owner.registrations }

/-- `openTextRegistration` up to `finishTextRegistration`.  The expiry was checked when the
registration was asked for. -/
def openTextRegistration (owner : TextContext) (refresh : Bool) (opened : Registration) : Option TextContext :=
  if opened.revision = 0 ∨ opened.published = true ∨ owner.clock < opened.asked ∨ opened.expiry ≤ opened.asked ∨
      opened.asked + 600 * second < opened.expiry ∨ opened.slot ∈ owner.registrations.map Registration.slot then none
  else
    match refresh, owner.registration with
    | false, none => some (owner.install opened)
    | true, some previous =>
      if owner.previousRegistration = none ∧ previous.revision < opened.revision then
        some { owner.install opened with previousRegistration := some previous, previousUntil := previous.expiry }
      else none
    | _, _ => none

/-- How long a predecessor is kept after its successor was published. -/
def overlap (owner : TextContext) (previous : Registration) : Int :=
  min (owner.clock - owner.clock % second + 60 * second) previous.expiry

/-- The acknowledgement of the Descriptor in `publishTextDescriptor`. -/
def publishTextDescriptor (owner : TextContext) : Option TextContext :=
  match owner.registration with
  | none => none
  | some current =>
    if current.published then some owner
    else
      some { owner with
        registration := some { current with published := true }
        previousUntil := (owner.previousRegistration.map owner.overlap).getD owner.previousUntil }

/-! ## Reservations -/

/-- What has run out leaves the replay set. -/
def purged (owner : TextContext) : TextContext :=
  { owner with introductionReplays := owner.introductionReplays.filter fun _ expiry => decide (owner.clock < expiry) }

/-- `reserveTextIntroductionOpeningLocked` after the deletions: whether the opening is free. -/
def openingFree (owner : TextContext) (nonce : Digest) : Bool :=
  !(owner.introductionReplays.find nonce).isSome &&
    decide (owner.introductionReplays.size < maximumTextIntroductionReplays) &&
    decide (owner.introductionOpenings.fourth ≤ owner.clock) &&
    decide (owner.introductionOpenings.first + second ≤ owner.clock)

/-- The opening is taken. -/
def reserved (owner : TextContext) : TextContext :=
  { owner with
    introductionOpenings :=
      ⟨owner.introductionOpenings.second, owner.introductionOpenings.third,
        owner.introductionOpenings.fourth, owner.clock⟩
    reservations := owner.clock :: owner.reservations }

/-! ## Receivers -/

def setPhase (owner : TextContext) (id : Nat) (receiver : Receiver) (phase : Phase) : TextContext :=
  { owner with receivers := owner.receivers.put id { receiver with phase := phase } }

/-- The receiver returns the gate and leaves the dispatch with an error. -/
def fail (owner : TextContext) (id : Nat) (receiver : Receiver) : TextContext :=
  { owner.setPhase id receiver .failing with gate := true }

/-- A flight goes to another place. -/
def move (owner : TextContext) (opening : Nat) (place : Place) : TextContext :=
  { owner with
    flights := owner.flights.map fun flight =>
      if flight.opening = opening then { flight with place := place } else flight }

/-- The flights at a place are refused. -/
def refuse (owner : TextContext) (place : Place) : TextContext :=
  { owner with flights := owner.flights.filter fun flight => !decide (flight.place = place) }

/-- The flight at a place. -/
def flightAt (owner : TextContext) (place : Place) : Option Flight :=
  owner.flights.find? fun flight => decide (flight.place = place)

/-- The waiter of a receiver. -/
def enter (owner : TextContext) (id : Nat) (want : DeliveryKey) (recoveryDeadline : Option Int) : TextContext :=
  { owner with receivers := owner.receivers.put id ⟨want, recoveryDeadline, .waiting⟩ }

/-- A receiver of generation 2 or more takes what its recovery owner buffered for it. -/
def adopt (owner : TextContext) (id : Nat) (want : DeliveryKey) (name : Nat) (recovery : Recovery) : TextContext :=
  match (owner.flightAt (.buffered name)).filter fun flight => textIntroductionDeliveryMatches flight.key want with
  | none => { owner with recoveries := owner.recoveries.put name { recovery with generation := want.generation } }
  | some flight =>
    { owner.move flight.opening (.assigned id) with
      recoveries := owner.recoveries.put name { recovery with generation := want.generation, expiring := false } }

/-- `registerTextIntroductionWaiter`; a recovery comes with its owner and its deadline. -/
def registerTextIntroductionWaiter (owner : TextContext) (id : Nat) (want : DeliveryKey)
    (recovery : Option (Nat × Int)) :
    Option TextContext :=
  if want.generation = 0 ∨ (owner.receivers.find id).isSome ∨
      maximumTextIntroductionWaiters ≤ owner.receivers.size then none
  else
    match recovery with
    | none => if want.generation = 1 then some (owner.enter id want none) else none
    | some (name, deadline) =>
      (owner.recoveries.find name).bind fun held =>
        if 1 < want.generation ∧ want.connection = held.connection ∧ held.generation ≤ want.generation ∧
            want.generation ≤ held.generation + 1 then
          some ((owner.enter id want (some deadline)).adopt id want name held)
        else none

/-- A receiver leaves the dispatch with the capsule assigned to it. -/
def take (owner : TextContext) (id : Nat) (receiver : Receiver) (flight : Flight) : TextContext :=
  (owner.move flight.opening (.returned id)).setPhase id receiver .returning

/-- A waiting receiver takes what was assigned to it, or the gate.  With the gate it looks
again whether something was assigned before it consumes. -/
def takeGate (owner : TextContext) (id : Nat) (receiver : Receiver) : Option TextContext :=
  if receiver.phase ≠ .waiting then none
  else
    match owner.flightAt (.assigned id) with
    | some flight => some (owner.take id receiver flight)
    | none => if owner.gate then some { owner.setPhase id receiver .consuming with gate := false } else none

/-- The checks of `inspectTextIntroductionDelivery` before it reserves an opening. -/
def inspectable (owner : TextContext) (capsule : Capsule) (registered : Registration) : Bool :=
  registered.published && decide (capsule.slot = registered.slot) && decide (capsule.revision = registered.revision) &&
    decide (owner.clock + textIntroductionExpiryReserve < capsule.expiry) && decide (capsule.expiry ≤ registered.expiry)

/-- The inspected capsule, with the number of its opening. -/
def launch (owner : TextContext) (id : Nat) (receiver : Receiver) (capsule : Capsule)
    (key : DeliveryKey) : TextContext :=
  { owner.setPhase id receiver .routing with
    flights := ⟨owner.reservations.length - 1, capsule, key, .inspected id⟩ :: owner.flights }

/-- The identity that an opened capsule is routed by. -/
def routingKey (plaintext : Plaintext) : Option DeliveryKey :=
  if plaintext.connectionNonce = Digest.zero ∨ plaintext.attachmentGeneration = 0 then none
  else some ⟨plaintext.connectionNonce, plaintext.attachmentGeneration⟩

/-- `inspectTextIntroductionDelivery` on the capsule that a receiver claimed.  The opening stays
reserved when the capsule does not open. -/
def inspectTextIntroductionDelivery (setting : Setting) (owner : TextContext) (id : Nat) (receiver : Receiver)
    (capsule : Capsule) (entitled : Bool) : TextContext :=
  match (owner.registered capsule).filter (fun registered => entitled && owner.inspectable capsule registered) with
  | none => owner.fail id receiver
  | some registered =>
    if owner.purged.openingFree capsule.deliveryNonce then
      match (setting.openClosedIntroduction registered.slot capsule owner.clock).bind routingKey with
      | none => owner.purged.reserved.fail id receiver
      | some key => owner.purged.reserved.launch id receiver capsule key
    else owner.purged.fail id receiver

/-! ## Routing -/

/-- A waiter with an empty channel that wants the capsule (`selectTextIntroductionWaiterLocked`). -/
def waits (owner : TextContext) (key : DeliveryKey) (id : Nat) : Bool :=
  (owner.receivers.find id).any (fun receiver => textIntroductionDeliveryMatches key receiver.want) &&
    (owner.flightAt (.assigned id)).isNone

/-- A recovery owner with an empty channel for the connection and the generation
(`selectTextIntroductionRecoveryLocked`). -/
def recovers (owner : TextContext) (key : DeliveryKey) (name : Nat) : Bool :=
  (owner.recoveries.find name).any (fun recovery =>
    decide (recovery.connection = key.connection) && decide (recovery.generation ≤ key.generation) &&
      decide (key.generation ≤ recovery.generation + 1)) &&
    (owner.flightAt (.buffered name)).isNone

/-- The capsule of a receiver is refused; the receiver waits again when that was answered. -/
def refuseTextIntroductionDelivery (owner : TextContext) (id : Nat) (receiver : Receiver)
    (completed : Bool) : TextContext :=
  if completed then { (owner.refuse (.inspected id)).setPhase id receiver .waiting with gate := true }
  else (owner.refuse (.inspected id)).fail id receiver

/-- `bufferTextIntroductionRecoveryLocked`. -/
def bufferTextIntroductionRecovery (owner : TextContext) (id : Nat) (receiver : Receiver) (flight : Flight) (name : Nat)
    (recovery : Recovery) (completed : Bool) : TextContext :=
  if recovery.expiring = false ∧ owner.clock + textIntroductionExpiryReserve < flight.capsule.expiry then
    { (owner.move flight.opening (.buffered name)).setPhase id receiver .consuming with
      recoveries := owner.recoveries.put name { recovery with expiring := true } }
  else owner.refuseTextIntroductionDelivery id receiver completed

/-- The critical section of the dispatch that routes an inspected capsule.  The maps are walked
in any order, so the waiter and the recovery owner that are found are inputs. -/
def routeDelivery (owner : TextContext) (id : Nat) (receiver : Receiver) (flight : Flight)
    (waiter recovery : Option Nat)
    (completed : Bool) : Option TextContext :=
  match waiter with
  | some target =>
    if owner.waits flight.key target = false then none
    else if target = id then some { owner.take id receiver flight with gate := true }
    else some ((owner.move flight.opening (.assigned target)).setPhase id receiver .consuming)
  | none =>
    if owner.receivers.keys.any (owner.waits flight.key) then none
    else
      match recovery with
      | some name =>
        if owner.recovers flight.key name then
          (owner.recoveries.find name).map fun held =>
            owner.bufferTextIntroductionRecovery id receiver flight name held completed
        else none
      | none =>
        if owner.recoveries.keys.any (owner.recovers flight.key) then none
        else some (owner.refuseTextIntroductionDelivery id receiver completed)

/-- `releaseTextIntroductionWaiter`, when the dispatch returns.  A capsule assigned meanwhile is
refused; if that cannot be answered the receiver fails with the one it had. -/
def releaseTextIntroductionWaiter (owner : TextContext) (id : Nat) (receiver : Receiver) (completed : Bool) :
    Option TextContext :=
  match receiver.phase with
  | .failing => some { owner.refuse (.assigned id) with receivers := owner.receivers.erase id }
  | .returning =>
    if (owner.flightAt (.assigned id)).isSome ∧ completed = false then
      some { (owner.refuse (.assigned id)).refuse (.returned id) with receivers := owner.receivers.erase id }
    else
      (owner.flightAt (.returned id)).map fun flight =>
        { (owner.refuse (.assigned id)).move flight.opening (.held receiver.want receiver.recoveryDeadline) with
          receivers := owner.receivers.erase id }
  | _ => none

/-! ## Acceptance -/

/-- The checks of `acceptTextIntroductionGeneration` on the registration. -/
def acceptable (owner : TextContext) (capsule : Capsule) (registered : Registration) : Bool :=
  registered.published && decide (capsule.slot = registered.slot) && decide (capsule.revision = registered.revision) &&
    decide (owner.clock < capsule.expiry) && decide (capsule.expiry ≤ registered.expiry)

/-- The checks on the opened facts and at the second reading of the clock. -/
def bound (owner : TextContext) (flight : Flight) (want : DeliveryKey) (recoveryDeadline : Option Int)
    (registered : Registration) (plaintext : Plaintext) (at_ : Int) : Bool :=
  decide (plaintext.attachmentGeneration = want.generation) &&
    (decide (want.generation = 1) || decide (plaintext.connectionNonce = want.connection)) &&
    recoveryDeadline.all (fun deadline => decide (plaintext.deadline ≤ deadline)) &&
    decide (at_ < flight.capsule.expiry) &&
    (decide (some registered = owner.registration) ||
      decide (some registered = owner.previousRegistration) && decide (at_ < owner.previousUntil))

/-- `acceptTextIntroductionGeneration` with `openingReserved` set: the registration and the facts
it accepts with.  The replay set is not read. -/
def acceptTextIntroductionGeneration (setting : Setting) (owner : TextContext) (flight : Flight) (want : DeliveryKey)
    (recoveryDeadline : Option Int) (entitled : Bool) (elapsed : Nat) : Option (Registration × Plaintext) :=
  ((owner.registered flight.capsule).filter fun registered =>
    entitled && owner.acceptable flight.capsule registered).bind
    fun registered =>
      ((setting.openClosedIntroduction registered.slot flight.capsule owner.clock).filter fun plaintext =>
        owner.bound flight want recoveryDeadline registered plaintext
          (owner.clock + elapsed)).map fun plaintext => (registered, plaintext)

/-- The flight is over, at the second reading of the clock. -/
def land (owner : TextContext) (opening elapsed : Nat) : TextContext :=
  { owner with
    clock := owner.clock + elapsed
    flights := owner.flights.filter fun flight => !decide (flight.opening = opening) }

/-- The nonce is recorded.  The binding of a first generation can be retained for recovery. -/
def record (owner : TextContext) (flight : Flight) (registered : Registration) (plaintext : Plaintext) : TextContext :=
  { owner with
    introductionReplays := owner.introductionReplays.put flight.capsule.deliveryNonce (registered.expiry + 60 * second)
    accepted := ⟨flight.opening, flight.capsule.deliveryNonce, owner.clock,
      registered.expiry + 60 * second⟩ :: owner.accepted
    bindings :=
      if plaintext.attachmentGeneration = 1 then plaintext.connectionNonce :: owner.bindings
      else owner.bindings }

def accept (setting : Setting) (owner : TextContext) (flight : Flight) (entitled : Bool)
    (elapsed : Nat) : Option TextContext :=
  match flight.place with
  | .held want recoveryDeadline =>
    match owner.acceptTextIntroductionGeneration setting flight want recoveryDeadline entitled elapsed with
    | none => some (owner.land flight.opening elapsed)
    | some (registered, plaintext) => some ((owner.land flight.opening elapsed).record flight registered plaintext)
  | _ => none

/-- `retainTextIntroductionRecovery`. -/
def retainTextIntroductionRecovery (owner : TextContext) (name : Nat) (connection : Digest) : Option TextContext :=
  if connection ∈ owner.bindings ∧ owner.recoveries.find name = none ∧
      owner.recoveries.size < maximumTextIntroductionWaiters then
    some { owner with
      bindings := owner.bindings.erase connection
      recoveries := owner.recoveries.put name ⟨connection, 2, false⟩ }
  else none

/-- `expireTextIntroductionRecovery` after its timer. -/
def expireTextIntroductionRecovery (owner : TextContext) (name : Nat) (recovery : Recovery) : Option TextContext :=
  match owner.flightAt (.buffered name) with
  | none => none
  | some flight =>
    if flight.capsule.expiry ≤ owner.clock + textIntroductionExpiryReserve then
      some { owner.refuse (.buffered name) with
        recoveries := owner.recoveries.put name { recovery with expiring := false } }
    else none

/-- `releaseTextIntroductionRecovery`. -/
def releaseTextIntroductionRecovery (owner : TextContext) (name : Nat) : TextContext :=
  { owner.refuse (.buffered name) with recoveries := owner.recoveries.erase name }

end TextContext

/-- What happens next in a text context. -/
inductive IntroductionEvent where
  | tick (elapsed : Nat)
  | registers (refresh : Bool) (opened : Registration)
  | publishes
  /-- the current registration ends or is withdrawn -/
  | drops
  /-- the predecessor is closed -/
  | retires
  | enters (id : Nat) (want : DeliveryKey) (recovery : Option (Nat × Int))
  | takesGate (id : Nat)
  | cancels (id : Nat)
  | claims (id : Nat) (delivery : Option Capsule)
  | claimFails (id : Nat)
  | inspects (id : Nat) (entitled : Bool)
  | routes (id : Nat) (waiter recovery : Option Nat) (completed : Bool)
  | releases (id : Nat) (completed : Bool)
  | accepts (opening : Nat) (entitled : Bool) (elapsed : Nat)
  | retains (name : Nat) (connection : Digest)
  | expires (name : Nat)
  | forgets (name : Nat)

open TextContext in
/-- One critical section. -/
def TextContext.step (setting : Setting) (owner : TextContext) : IntroductionEvent → Option TextContext
  | .tick elapsed => some { owner with clock := owner.clock + elapsed }
  | .registers refresh opened => owner.openTextRegistration refresh opened
  | .publishes => owner.publishTextDescriptor
  | .drops => some { owner with registration := none }
  | .retires => some { owner with previousRegistration := none }
  | .enters id want recovery => owner.registerTextIntroductionWaiter id want recovery
  | .takesGate id => (owner.receivers.find id).bind fun receiver => owner.takeGate id receiver
  | .cancels id =>
    (owner.receivers.find id).bind fun receiver =>
      if receiver.phase = .waiting then some (owner.setPhase id receiver .failing) else none
  | .claims id delivery =>
    (owner.receivers.find id).bind fun receiver =>
      if receiver.phase = .consuming then some (owner.setPhase id receiver (.claimed delivery)) else none
  | .claimFails id =>
    (owner.receivers.find id).bind fun receiver =>
      if receiver.phase = .consuming then some (owner.fail id receiver) else none
  | .inspects id entitled =>
    (owner.receivers.find id).bind fun receiver =>
      match receiver.phase with
      | .claimed none => some (owner.fail id receiver)
      | .claimed (some capsule) => some (inspectTextIntroductionDelivery setting owner id receiver capsule entitled)
      | _ => none
  | .routes id waiter recovery completed =>
    (owner.receivers.find id).bind fun receiver =>
      (owner.flightAt (.inspected id)).bind fun flight =>
        owner.routeDelivery id receiver flight waiter recovery completed
  | .releases id completed =>
    (owner.receivers.find id).bind fun receiver => owner.releaseTextIntroductionWaiter id receiver completed
  | .accepts opening entitled elapsed =>
    (owner.flights.find? fun flight => decide (flight.opening = opening)).bind fun flight =>
      owner.accept setting flight entitled elapsed
  | .retains name connection => owner.retainTextIntroductionRecovery name connection
  | .expires name => (owner.recoveries.find name).bind fun recovery =>
    owner.expireTextIntroductionRecovery name recovery
  | .forgets name =>
    if (owner.recoveries.find name).isSome then some (owner.releaseTextIntroductionRecovery name) else none

end Ardents.Endpoint
