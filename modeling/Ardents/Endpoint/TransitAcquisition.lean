/-
# Endpoint.TransitAcquisition — the journal of a transit grant acquisition

`transit_acquisition.go`, `transit_acquisition_files.go` and
`transit_acquisition_compatibility.go`: an endpoint acquires a grant for one transit node.  The
attempt, its one-use TLS key and the grant are one document in an owned directory, and every
transition replaces the document before it is answered.

The owner in memory changes before the document does, so after a commit that failed the two
differ; the owner is then unusable until it is opened again.

Parameters: whether a certificate, a private key and a key digest belong together (X.509), and
the verification of a grant.  What `begin` draws at random is an input of the call.  A document
is read back as it was written; that its text is too long is one of the failures of a write.
Left out: permissions, the `responder` directory that the inventory skips, and a lock held by
another process.
-/
import Ardents.Lib.Bytes
import Ardents.Lib.Replace
import Ardents.Lib.Restarts
import Ardents.Lib.Time
import Ardents.Lib.Watermark

namespace Ardents.Endpoint

open Lib Restarts Watermark

set_option autoImplicit false

inductive TransitAcquisitionPhase where
  | pending
  | ready
  | presenting
  | spent
  | burned
  | exhausted
  | withdrawn
  | unavailable
  deriving DecidableEq, Repr

def terminalTransitPhase : TransitAcquisitionPhase → Bool
  | .spent | .burned | .exhausted | .withdrawn | .unavailable => true
  | .pending | .ready | .presenting => false

def introductionRole : UInt8 := 2
def responderRole : UInt8 := 4

def validTransitAcquisitionRole (role : UInt8) : Bool :=
  decide (role = introductionRole) || decide (role = responderRole)

structure TransitAcquisitionScope where
  networkID : Digest
  digest : Digest
  epoch : UInt64
  issuerNodeID : Digest
  issuerPublicKey : Digest
  issuerProfileDigest : Digest
  grantSignerPublicKey : Digest
  transitNodeID : Digest
  attachmentID : Digest
  transitRole : UInt8
  notAfter : Time
  deriving DecidableEq

/-- A state with a phase; the empty state of the source is the absence of one. -/
structure TransitAcquisitionState where
  phase : TransitAcquisitionPhase
  networkID : Digest
  digest : Digest
  epoch : UInt64
  issuerNodeID : Digest
  issuerPublicKey : Digest
  issuerProfileDigest : Digest
  grantSignerPublicKey : Digest
  transitNodeID : Digest
  attachmentID : Digest
  transitRole : UInt8
  notAfter : Int64
  requestID : Digest
  clientKeyDigest : Digest
  certificate : List UInt8
  privateKey : List UInt8
  grant : List UInt8
  deriving DecidableEq

/-- The record of the first version, for introductions only. -/
structure TransitAcquisitionStateV1 where
  phase : TransitAcquisitionPhase
  networkID : Digest
  digest : Digest
  epoch : UInt64
  issuerNodeID : Digest
  issuerPublicKey : Digest
  issuerProfileDigest : Digest
  grantSignerPublicKey : Digest
  introductionNodeID : Digest
  notAfter : Int64
  requestID : Digest
  attachmentID : Digest
  clientKeyDigest : Digest
  certificate : List UInt8
  privateKey : List UInt8
  grant : List UInt8
  deriving DecidableEq

/-- The fields of a grant that are compared. -/
structure TransitGrant where
  networkID : Digest
  digest : Digest
  epoch : UInt64
  transitNodeID : Digest
  transitRole : UInt8
  attachmentID : Digest
  clientKeyDigest : Digest
  notAfter : Int64
  deriving DecidableEq

/-- `transitGrantBodyLength()` and a signature. -/
def transitGrantLength : Nat := 25 + 2 + 7 * 32 + 8 + 1 + 8 + 64

structure Acquisition where
  /-- the certificate parses, its key is that of the private key, and the digest is its own -/
  identifies : List UInt8 → List UInt8 → Digest → Bool
  /-- body and signature of a grant under a key -/
  opens : List UInt8 → Digest → Option TransitGrant

def Acquisition.verifyTransitGrant (acquisition : Acquisition) (raw : List UInt8)
    (authority : Digest) : Option TransitGrant :=
  if raw.length = transitGrantLength then acquisition.opens raw authority else none

/-! ## Checks -/

def validTransitAcquisitionScope (scope : TransitAcquisitionScope) (now : Time) : Bool :=
  decide (scope.networkID ≠ Digest.zero) && decide (scope.digest ≠ Digest.zero) && decide (scope.epoch ≠ 0) &&
    decide (scope.issuerNodeID ≠ Digest.zero) && decide (scope.issuerPublicKey ≠ Digest.zero) &&
    decide (scope.issuerProfileDigest ≠ Digest.zero) && decide (scope.grantSignerPublicKey ≠ Digest.zero) &&
    decide (scope.transitNodeID ≠ Digest.zero) && validTransitAcquisitionRole scope.transitRole &&
    now.before scope.notAfter && scope.notAfter.isTruncated Time.second

namespace TransitAcquisitionState

/-- The fields that every state has. -/
def base (state : TransitAcquisitionState) : Bool :=
  decide (state.networkID ≠ Digest.zero) && decide (state.digest ≠ Digest.zero) && decide (state.epoch ≠ 0) &&
    decide (state.issuerNodeID ≠ Digest.zero) && decide (state.issuerPublicKey ≠ Digest.zero) &&
    decide (state.issuerProfileDigest ≠ Digest.zero) && decide (state.grantSignerPublicKey ≠ Digest.zero) &&
    decide (state.transitNodeID ≠ Digest.zero) && validTransitAcquisitionRole state.transitRole &&
    decide (0 < state.notAfter) && decide (state.requestID ≠ Digest.zero) &&
    decide (state.attachmentID ≠ Digest.zero) &&
    decide (state.clientKeyDigest ≠ Digest.zero)

/-- The secrets that a state of its phase has. -/
def secrets (state : TransitAcquisitionState) : Bool :=
  match state.phase with
  | .pending => decide (state.certificate ≠ []) && decide (state.privateKey.length = 64) && decide (state.grant = [])
  | .ready | .presenting =>
    decide (state.certificate ≠ []) && decide (state.privateKey.length = 64) && decide (state.grant ≠ []) &&
      decide (state.grant.length ≤ 512)
  | _ => decide (state.certificate = []) && decide (state.privateKey = []) && decide (state.grant = [])

/-- `validTransitAcquisitionState`. -/
def valid (state : TransitAcquisitionState) : Bool := state.base && state.secrets

def matching (state : TransitAcquisitionState) (scope : TransitAcquisitionScope) : Bool :=
  decide (state.networkID = scope.networkID) && decide (state.digest = scope.digest) &&
    decide (state.epoch = scope.epoch) &&
    decide (state.issuerNodeID = scope.issuerNodeID) && decide (state.issuerPublicKey = scope.issuerPublicKey) &&
    decide (state.issuerProfileDigest = scope.issuerProfileDigest) &&
    decide (state.grantSignerPublicKey = scope.grantSignerPublicKey) &&
    decide (state.transitNodeID = scope.transitNodeID) &&
    decide (state.transitRole = scope.transitRole) &&
    (decide (scope.attachmentID = Digest.zero) || decide (state.attachmentID = scope.attachmentID)) &&
    decide (state.notAfter = scope.notAfter.unixSeconds)

def matchesGrant (state : TransitAcquisitionState) (grant : TransitGrant) : Bool :=
  decide (grant = ⟨state.networkID, state.digest, state.epoch, state.transitNodeID,
    state.transitRole, state.attachmentID,
    state.clientKeyDigest, state.notAfter⟩)

/-- `terminalTransitAcquisition`: the secrets are dropped. -/
def terminal (state : TransitAcquisitionState) (phase : TransitAcquisitionPhase) : TransitAcquisitionState :=
  { state with phase := phase, certificate := [], privateKey := [], grant := [] }

/-- `certificate()`: the TLS identity can be used. -/
def identified (acquisition : Acquisition) (state : TransitAcquisitionState) : Bool :=
  decide (state.certificate ≠ []) && decide (state.privateKey.length = 64) &&
    acquisition.identifies state.certificate state.privateKey state.clientKeyDigest

end TransitAcquisitionState

def TransitAcquisitionStateV1.migrate (previous : TransitAcquisitionStateV1) : TransitAcquisitionState where
  phase := previous.phase
  networkID := previous.networkID
  digest := previous.digest
  epoch := previous.epoch
  issuerNodeID := previous.issuerNodeID
  issuerPublicKey := previous.issuerPublicKey
  issuerProfileDigest := previous.issuerProfileDigest
  grantSignerPublicKey := previous.grantSignerPublicKey
  transitNodeID := previous.introductionNodeID
  attachmentID := previous.attachmentID
  transitRole := introductionRole
  notAfter := previous.notAfter
  requestID := previous.requestID
  clientKeyDigest := previous.clientKeyDigest
  certificate := previous.certificate
  privateKey := previous.privateKey
  grant := previous.grant

/-- A document of either version. -/
inductive TransitDocument where
  | first (state : TransitAcquisitionStateV1)
  | second (state : TransitAcquisitionState)
  deriving DecidableEq

def TransitDocument.state : TransitDocument → TransitAcquisitionState
  | .first previous => previous.migrate
  | .second state => state

/-- `decodeTransitAcquisitionState`. -/
def decodeTransitAcquisitionState (document : TransitDocument) : Option TransitAcquisitionState :=
  if document.state.valid then some document.state else none

/-! ## The root -/

inductive TransitRefusal where
  | incomplete
  | missing
  | entryUnknown
  | uninitialized
  | marker
  | unclaimed
  | creation
  | stateInvalid
  | commit
  | restart
  | scopeInvalid
  | terminal (phase : TransitAcquisitionPhase)
  | dutyChanged
  | identity
  | stale
  | phaseFinal
  | notPending
  | grantInvalid
  | outcomeInvalid
  | notReady
  | notPresenting
  deriving DecidableEq, Repr

/-- A lock, a marker and the document in a directory. -/
structure TransitRoot where
  made : Bool
  lock : Bool
  marker : Marker
  slot : Slot TransitDocument
  deriving DecidableEq

/-- Nothing was made yet. -/
def TransitRoot.absent : TransitRoot := ⟨false, false, .absent, ⟨none, []⟩⟩

/-- `failed` says that a commit failed. -/
structure TransitOwner where
  state : Option TransitAcquisitionState
  failed : Bool
  deriving DecidableEq

/-- What is refused, and the owner after it. -/
abbrev TransitFailure : Type := TransitRefusal × TransitOwner

def TransitOwner.blank : TransitOwner := ⟨none, false⟩

/-- What fails when a root is made. -/
inductive CreationFailure where
  | directory
  | lock
  | marker
  | text
  deriving DecidableEq, Repr

structure TransitOpening where
  create : Bool
  now : Time
  creation : Option CreationFailure
  failure : Option Failure
  deriving DecidableEq

/-- `commitState`. -/
def commitTransitState (state : TransitAcquisitionState) (failure : Option Failure) :
    Program TransitRoot TransitFailure Unit :=
  if state.valid = false then Program.refuse (.stateInvalid, ⟨some state, false⟩)
  else
    ((Slot.replace (.second state) failure).inside TransitRoot.slot fun root slot => { root with slot }).mapError
      fun _ => (.commit, ⟨some state, true⟩)

/-- The inventory and the marker, as `prepareTransitAcquisitionRoot` looks at them. -/
def inspectTransitRoot (create : Bool) (root : TransitRoot) : Except TransitFailure Unit :=
  if root.slot.temporaries ≠ [] then .error (.entryUnknown, .blank)
  else
    match root.marker with
    | .whole => .ok ()
    | .torn => .error (.marker, .blank)
    | .absent =>
      if create = false ∨ root.lock = true ∨ root.slot.document ≠ none then .error (.uninitialized, .blank) else .ok ()

/-- The directory is made. -/
def makeTransitRoot (request : TransitOpening) (root : TransitRoot) : Program TransitRoot TransitFailure Unit :=
  if root.made then pure ()
  else if request.create = false then Program.refuse (.missing, .blank)
  else if request.creation = some .directory then Program.refuse (.creation, .blank)
  else Program.effect fun root => { root with made := true }

/-- `acquireTransitAcquisitionLease`, as far as it makes the file. -/
def lockTransitRoot (request : TransitOpening) (root : TransitRoot) : Program TransitRoot TransitFailure Unit :=
  if root.lock then pure ()
  else if request.creation = some .lock then Program.refuse (.creation, .blank)
  else Program.effect fun root => { root with lock := true }

/-- `initializeTransitAcquisitionRoot`. -/
def initializeTransitAcquisitionRoot (request : TransitOpening) (root : TransitRoot) :
    Program TransitRoot TransitFailure Unit :=
  match root.marker with
  | .whole => pure ()
  | .torn => Program.refuse (.marker, .blank)
  | .absent =>
    if request.create = false then Program.refuse (.uninitialized, .blank)
    else if root.slot.document ≠ none then Program.refuse (.unclaimed, .blank)
    else if request.creation = some .marker then Program.refuse (.creation, .blank)
    else do
      Program.effect fun root => { root with marker := .torn }
      if request.creation = some .text then Program.refuse (.creation, .blank)
      Program.effect fun root => { root with marker := .whole }

/-- `loadTransitAcquisitionState`. -/
def loadTransitAcquisitionState (root : TransitRoot) : Except TransitFailure (Option TransitAcquisitionState) :=
  match root.slot.document with
  | none => .ok none
  | some document =>
    match decodeTransitAcquisitionState document with
    | none => .error (.stateInvalid, .blank)
    | some state => .ok (some state)

/-- The state that an open ends in: an attempt that was presenting is burned, and one that has
run out is unavailable. -/
def reopened (state : TransitAcquisitionState) (now : Time) : TransitAcquisitionState :=
  if state.phase = .presenting then state.terminal .burned
  else if !now.before (.ofSeconds state.notAfter) && !terminalTransitPhase state.phase then state.terminal .unavailable
  else state

/-- The end of an open, which commits when the state changes. -/
def resumeTransitAcquisition (now : Time) (failure : Option Failure) :
    Option TransitAcquisitionState → Program TransitRoot TransitFailure TransitOwner
  | none => pure ⟨none, false⟩
  | some state =>
    if reopened state now = state then pure ⟨some state, false⟩
    else do
      commitTransitState (reopened state now) failure
      pure ⟨some (reopened state now), false⟩

def openTransitAcquisition (request : TransitOpening) : Program TransitRoot TransitFailure TransitOwner :=
  if request.now.isZero then Program.refuse (.incomplete, .blank)
  else do
    makeTransitRoot request (← Program.look)
    Program.lift (inspectTransitRoot request.create (← Program.look))
    lockTransitRoot request (← Program.look)
    initializeTransitAcquisitionRoot request (← Program.look)
    let state ← Program.lift (loadTransitAcquisitionState (← Program.look))
    resumeTransitAcquisition request.now request.failure state

/-! ## Calls -/

structure TransitRequest where
  requestID : Digest
  networkID : Digest
  digest : Digest
  epoch : UInt64
  transitNodeID : Digest
  attachmentID : Digest
  clientKeyDigest : Digest
  transitRole : UInt8
  notAfter : Time
  deriving DecidableEq

structure TransitAcquisitionAttempt where
  phase : TransitAcquisitionPhase
  request : TransitRequest
  certificate : List UInt8
  privateKey : List UInt8
  grant : List UInt8
  deriving DecidableEq

def TransitAcquisitionState.request (state : TransitAcquisitionState) : TransitRequest :=
  ⟨state.requestID, state.networkID, state.digest, state.epoch, state.transitNodeID, state.attachmentID,
    state.clientKeyDigest, state.transitRole, .ofSeconds state.notAfter⟩

/-- `attempt()` with a usable identity. -/
def TransitAcquisitionState.attempt (state : TransitAcquisitionState) : TransitAcquisitionAttempt :=
  ⟨state.phase, state.request, state.certificate, state.privateKey, state.grant⟩

/-- What `begin` draws: a TLS identity and identifiers. -/
structure Drawn where
  certificate : List UInt8
  privateKey : List UInt8
  clientKeyDigest : Digest
  requestID : Digest
  attachmentID : Digest
  deriving DecidableEq

/-- The result of an issuer. -/
inductive TransitResult where
  | issued (grant : List UInt8)
  | exhausted
  | withdrawn
  | unavailable
  | other
  deriving DecidableEq

inductive TransitAction where
  | begins (scope : TransitAcquisitionScope) (now : Time) (drawn : Drawn)
  | fails (requestID : Digest)
  | commits (requestID : Digest) (result : TransitResult)
  | presents (requestID : Digest) (scope : TransitAcquisitionScope)
  | finishes (requestID : Digest) (presented : Bool)
  deriving DecidableEq

structure TransitCall where
  action : TransitAction
  failure : Option Failure
  deriving DecidableEq

/-- What a call comes to, up to its commit. -/
inductive TransitDecision where
  | refuses (refusal : TransitRefusal) (state : Option TransitAcquisitionState)
  | answers (attempt : TransitAcquisitionAttempt)
  /-- the state is committed, and then there is an answer or a refusal -/
  | commits (state : TransitAcquisitionState) (outcome : Except TransitRefusal (Option TransitAcquisitionAttempt))
  deriving DecidableEq

/-- The state of a new attempt. -/
def beginState (scope : TransitAcquisitionScope) (drawn : Drawn) : TransitAcquisitionState where
  phase := .pending
  networkID := scope.networkID
  digest := scope.digest
  epoch := scope.epoch
  issuerNodeID := scope.issuerNodeID
  issuerPublicKey := scope.issuerPublicKey
  issuerProfileDigest := scope.issuerProfileDigest
  grantSignerPublicKey := scope.grantSignerPublicKey
  transitNodeID := scope.transitNodeID
  attachmentID := if scope.attachmentID = Digest.zero then drawn.attachmentID else scope.attachmentID
  transitRole := scope.transitRole
  notAfter := scope.notAfter.unixSeconds
  requestID := drawn.requestID
  clientKeyDigest := drawn.clientKeyDigest
  certificate := drawn.certificate
  privateKey := drawn.privateKey
  grant := []

section Decisions

variable (acquisition : Acquisition)

/-- An attempt that can be answered with. -/
def answered (state : TransitAcquisitionState) : Except TransitRefusal (Option TransitAcquisitionAttempt) :=
  if state.identified acquisition then .ok (some state.attempt) else .error .identity

/-- `begin` without a current attempt.  A certificate that cannot be made refuses it. -/
def beginFresh (scope : TransitAcquisitionScope) (drawn : Drawn) : TransitDecision :=
  if (beginState scope drawn).identified acquisition = false then .refuses .identity none
  else .commits (beginState scope drawn) (answered acquisition (beginState scope drawn))

/-- `begin` on the state of a usable owner. -/
def beginTransit (current : Option TransitAcquisitionState) (scope : TransitAcquisitionScope)
    (now : Time) (drawn : Drawn) :
    TransitDecision :=
  if validTransitAcquisitionScope scope now = false then .refuses .scopeInvalid current
  else
    match current with
    | none => beginFresh acquisition scope drawn
    | some state =>
      if terminalTransitPhase state.phase then
        if (state.phase = .exhausted ∨ state.phase = .withdrawn) ∧ state.matching scope = true then
          .refuses (.terminal state.phase) current
        else beginFresh acquisition scope drawn
      else if state.matching scope = false then .commits (state.terminal .burned) (.error .dutyChanged)
      else if state.identified acquisition then .answers state.attempt
      else .refuses .identity current

/-- `fail` on its own attempt. -/
def failTransit (state : TransitAcquisitionState) : TransitDecision :=
  if state.phase = .pending ∨ state.phase = .ready then .commits (state.terminal .unavailable) (.ok none)
  else .refuses .phaseFinal (some state)

/-- `commit` on its own attempt. -/
def commitTransit (state : TransitAcquisitionState) (result : TransitResult) : TransitDecision :=
  if state.phase ≠ .pending then .refuses .notPending (some state)
  else
    match result with
    | .issued raw =>
      match acquisition.verifyTransitGrant raw state.grantSignerPublicKey with
      | some grant =>
        if state.matchesGrant grant then .commits { state with phase := .ready, grant := raw } (.ok none)
        else .commits (state.terminal .unavailable) (.error .grantInvalid)
      | none => .commits (state.terminal .unavailable) (.error .grantInvalid)
    | .exhausted => .commits (state.terminal .exhausted) (.ok none)
    | .withdrawn => .commits (state.terminal .withdrawn) (.ok none)
    | .unavailable => .commits (state.terminal .unavailable) (.ok none)
    | .other => .commits (state.terminal .unavailable) (.error .outcomeInvalid)

/-- `present` on its own attempt. -/
def presentTransit (state : TransitAcquisitionState) (scope : TransitAcquisitionScope) : TransitDecision :=
  if state.phase ≠ .ready ∨ state.matching scope = false then .refuses .notReady (some state)
  else .commits { state with phase := .presenting } (answered acquisition { state with phase := .presenting })

/-- `finish` on its own attempt. -/
def finishTransit (state : TransitAcquisitionState) (presented : Bool) : TransitDecision :=
  if state.phase ≠ .presenting then .refuses .notPresenting (some state)
  else .commits (state.terminal (if presented then .spent else .burned)) (.ok none)

/-- A completion carries the identifier of its attempt.  The empty state has the zero
identifier and no phase, which refuses a completion as `idle`. -/
def completes (current : Option TransitAcquisitionState) (requestID : Digest) (idle : TransitRefusal)
    (decide : TransitAcquisitionState → TransitDecision) : TransitDecision :=
  match current with
  | none => .refuses (if requestID = Digest.zero then idle else .stale) none
  | some state => if state.requestID ≠ requestID then .refuses .stale current else decide state

def decideTransit (current : Option TransitAcquisitionState) : TransitAction → TransitDecision
  | .begins scope now drawn => beginTransit acquisition current scope now drawn
  | .fails requestID => completes current requestID .phaseFinal failTransit
  | .commits requestID result => completes current requestID .notPending fun state =>
    commitTransit acquisition state result
  | .presents requestID scope => completes current requestID .notReady fun state =>
    presentTransit acquisition state scope
  | .finishes requestID presented => completes current requestID .notPresenting fun state =>
    finishTransit state presented

/-- A call of an owner. -/
def TransitOwner.perform (owner : TransitOwner) (call : TransitCall) :
    Program TransitRoot TransitFailure (TransitOwner × Option TransitAcquisitionAttempt) :=
  if owner.failed then Program.refuse (.restart, owner)
  else
    match decideTransit acquisition owner.state call.action with
    | .refuses refusal state => Program.refuse (refusal, ⟨state, false⟩)
    | .answers attempt => pure (owner, some attempt)
    | .commits state outcome => do
      commitTransitState state call.failure
      match outcome with
      | .ok answer => pure (⟨some state, false⟩, answer)
      | .error refusal => Program.refuse (refusal, ⟨some state, false⟩)

/-- The journal, as it is opened and called. -/
def transitAcquisition :
    Component TransitRoot TransitOwner TransitFailure TransitOpening TransitCall
      (Option TransitAcquisitionAttempt) where
  opens := openTransitAcquisition
  calls := TransitOwner.perform acquisition
  refused := fun _ _ failure => failure.2

end Decisions

abbrev TransitWorld : Type :=
  World TransitRoot TransitOwner TransitOpening TransitCall (Option TransitAcquisitionAttempt)
abbrev TransitEvent : Type := Event TransitOpening TransitCall

/-- The request identifiers that were drawn so far. -/
def begun (past : List (TransitEvent × Option (Option TransitAcquisitionAttempt))) : List Digest :=
  past.filterMap fun entry =>
    match entry.1 with
    | .calls ⟨.begins _ _ drawn, _⟩ _ => some drawn.requestID
    | _ => none

/-- What `begin` draws is not zero, and its identifier is new: none drawn before, nor one of
`taken`, which are those in use when the history starts. -/
def TransitWorld.draws (taken : List Digest) (world : TransitWorld) : TransitEvent → Bool
  | .calls ⟨.begins _ _ drawn, _⟩ _ =>
    !(taken ++ begun world.past).contains drawn.requestID && decide (drawn.requestID ≠ Digest.zero) &&
      decide (drawn.attachmentID ≠ Digest.zero) && decide (drawn.clientKeyDigest ≠ Digest.zero)
  | _ => true

/-- One event, with random identifiers that do not come twice. -/
def TransitWorld.step (acquisition : Acquisition) (taken : List Digest) (world : TransitWorld) (event : TransitEvent) :
    Option TransitWorld :=
  if world.draws taken event then Restarts.step (transitAcquisition acquisition) world event else none

end Ardents.Endpoint
