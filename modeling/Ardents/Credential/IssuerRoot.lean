/-
# Credential.IssuerRoot — the durable root of a transit grant issuer

`issuer_root_store.go` and `issuer_root_files.go`: an issuer keeps its key material, the
assignment it is bound to, and the grant it reserved for each request, in one document of
numbered generations, committed as `Lib.Watermark` describes.

Parameters: `digest`, which names a document (SHA-256 of its JSON text), and `sha256`,
which names a profile.  A document that was stored is read back as it was; of its text only
the length is modelled.  Left out: the duties and spends of the document, which are always
empty; roots of the first version, which are refused as a whole; the path of the root and
its permissions; failures of the filesystem; and `find` and `material`, which only read.
The root has no entries but those this package writes.
-/
import Ardents.Lib.Json
import Ardents.Lib.Restarts
import Ardents.Lib.Time
import Ardents.Lib.Watermark

namespace Ardents.Credential

open Lib Json Restarts Watermark

set_option autoImplicit false

def maximumIssuerState : Nat := 65536
def maximumIssuerMaterial : Nat := 256
def maximumIssuerProfile : Nat := 4096
def maximumIssuerBudget : Nat := 64
def maximumIssuerEntries : Nat := 9

/-- The text that names a generation of the network state. -/
inductive GenerationName where
  | absent
  /-- Sixty-four hexadecimal digits. -/
  | named (digest : Digest)
  | other (text : String)
  deriving DecidableEq

def GenerationName.wellFormed : GenerationName → Bool
  | .named _ => true
  | _ => false

structure IssuerRootReservation where
  requestID : Digest
  requestDigest : Digest
  grantID : Digest
  deriving DecidableEq

/-- The assignment that an issuer is bound to. -/
structure IssuerBinding where
  stateGeneration : GenerationName
  networkID : Digest
  digest : Digest
  issuerNodeID : Digest
  grantSignerID : Digest
  epoch : UInt64
  notAfter : Int64
  deriving DecidableEq

structure IssuerRootRecord where
  profileDigest : Digest
  profile : List UInt8
  binding : IssuerBinding
  budget : UInt16
  withdrawn : Bool
  privateMaterial : List UInt8
  reservations : List IssuerRootReservation
  deriving DecidableEq

structure IssuerRootState where
  version : UInt8
  generation : UInt64
  previous : Option Digest
  transitGrantIssuer : Option IssuerRootRecord
  deriving DecidableEq

structure IssuerScope where
  generation : GenerationName
  networkID : Digest
  digest : Digest
  issuerNodeID : Digest
  grantSignerID : Digest
  epoch : UInt64
  notAfter : Time
  deriving DecidableEq

inductive IssuerRefusal where
  | incomplete
  | marker
  | entryBound
  | unclaimed
  | uninitialized
  | files (fault : Fault)
  | stateInvalid
  | byteBound
  | initialization
  | replaced
  | bindingInvalid
  | notInitialized
  | bound
  | reservationInvalid
  | scopeUnavailable
  | requestConflict
  | withdrawn
  | exhausted
  | withdrawalInvalid
  deriving DecidableEq, Repr

/-! ## Checks of a document -/

def unboundBinding : IssuerBinding :=
  ⟨.absent, Digest.zero, Digest.zero, Digest.zero, Digest.zero, 0, 0⟩

def IssuerBinding.bound (binding : IssuerBinding) : Bool :=
  binding.stateGeneration.wellFormed && decide (binding.networkID ≠ Digest.zero) &&
    decide (binding.digest ≠ Digest.zero) && decide (binding.issuerNodeID ≠ Digest.zero) &&
    decide (binding.grantSignerID ≠ Digest.zero) && decide (binding.epoch ≠ 0) && decide (0 < binding.notAfter)

def IssuerBinding.unbound (binding : IssuerBinding) : Bool := decide (binding = unboundBinding)

/-- The loop over the reservations; `seen` are the requests of the earlier ones. -/
def validReservations (seen : List Digest) : List IssuerRootReservation → Bool
  | [] => true
  | reservation :: rest =>
    decide (reservation.requestID ≠ Digest.zero) && decide (reservation.requestDigest ≠ Digest.zero) &&
      decide (reservation.grantID ≠ Digest.zero) && !seen.contains reservation.requestID &&
      validReservations (reservation.requestID :: seen) rest

section Checks

variable (sha256 : List UInt8 → Digest)

def validProfile (profile : List UInt8) (profileDigest : Digest) : Bool :=
  decide (profile ≠ []) && decide (profile.length ≤ maximumIssuerProfile) && decide (sha256 profile = profileDigest)

def validBudget (budget : UInt16) : Bool := decide (budget ≠ 0) && decide (budget.toNat ≤ maximumIssuerBudget)

def validMaterial (material : List UInt8) : Bool :=
  decide (material ≠ []) && decide (material.length ≤ maximumIssuerMaterial)

def validIssuerRootRecord (issuer : IssuerRootRecord) : Bool :=
  validProfile sha256 issuer.profile issuer.profileDigest && (issuer.binding.bound || issuer.binding.unbound) &&
    validBudget issuer.budget && validMaterial issuer.privateMaterial &&
    decide (issuer.reservations.length ≤ issuer.budget.toNat) && validReservations [] issuer.reservations

def validIssuerRootState (state : IssuerRootState) : Bool :=
  decide (state.version = 2) && decide (state.generation ≠ 0) &&
    state.transitGrantIssuer.all (validIssuerRootRecord sha256)

end Checks

/-! ## The length of the JSON text -/

def GenerationName.characters : GenerationName → Nat
  | .absent => 0
  | .named _ => 64
  | .other text => text.length

def IssuerRootReservation.jsonLength (reservation : IssuerRootReservation) : Nat :=
  14 + blockLength reservation.requestID + 18 + blockLength reservation.requestDigest + 12 +
    blockLength reservation.grantID + 1

/-- An empty profile is left out. -/
def IssuerRootRecord.jsonLength (issuer : IssuerRootRecord) : Nat :=
  20 + textLength issuer.binding.stateGeneration.characters + 18 + blockLength issuer.profileDigest +
    (if issuer.profile = [] then 0 else 11 + base64Length issuer.profile) +
    14 + blockLength issuer.binding.networkID + 10 + blockLength issuer.binding.digest +
    18 + blockLength issuer.binding.issuerNodeID + 19 + blockLength issuer.binding.grantSignerID +
    9 + decimals issuer.binding.epoch.toNat + 13 + signedDecimals issuer.binding.notAfter.toInt +
    10 + decimals issuer.budget.toNat + 13 + (if issuer.withdrawn then 4 else 5) +
    20 + base64Length issuer.privateMaterial +
    16 + arrayLength (issuer.reservations.map IssuerRootReservation.jsonLength) + 1

/-- The empty lists of duties and spends are written, an absent predecessor or issuer is not. -/
def IssuerRootState.jsonLength (state : IssuerRootState) : Nat :=
  11 + decimals state.version.toNat + 14 + decimals state.generation.toNat +
    (if state.previous.isSome then 12 + textLength 64 else 0) + 10 + 2 + 24 + 2 +
    (match state.transitGrantIssuer with
      | none => 0
      | some issuer => 24 + issuer.jsonLength) + 1

/-! ## The store -/

abbrev IssuerDirectory : Type := Root Digest IssuerRootState

structure IssuerRootStore where
  state : IssuerRootState
  current : Option Digest
  failed : Bool
  deriving DecidableEq

/-- `digest` is SHA-256 of the JSON text of a document. -/
structure IssuerHashes where
  digest : IssuerRootState → Digest
  sha256 : List UInt8 → Digest

def IssuerHashes.scheme (hashes : IssuerHashes) : Scheme Digest IssuerRootState where
  name := hashes.digest
  number := fun state => state.generation.toNat
  valid := validIssuerRootState hashes.sha256

/-- The document of a root that nothing was committed to. -/
def unwritten : IssuerRootState := ⟨2, 0, none, none⟩

/-- The next generation, as `commit` completes it. -/
def IssuerRootStore.next (store : IssuerRootStore) (issuer : Option IssuerRootRecord) : IssuerRootState :=
  ⟨2, store.state.generation + 1, store.current, issuer⟩

def commit (hashes : IssuerHashes) (store : IssuerRootStore) (issuer : Option IssuerRootRecord) :
    Program IssuerDirectory IssuerRefusal IssuerRootStore :=
  let next := store.next issuer
  if !validIssuerRootState hashes.sha256 next then Program.refuse .stateInvalid
  else if maximumIssuerState < next.jsonLength then Program.refuse .byteBound
  else do
    Root.inside IssuerRefusal.files (Directory.commit hashes.scheme next store.current)
    pure ⟨next, some (hashes.digest next), false⟩

def preflightIssuerRoot (root : IssuerDirectory) : Except IssuerRefusal Unit :=
  if maximumIssuerEntries < root.entries then .error .entryBound else .ok ()

/-- The checks of `prepareIssuerRoot` before it writes. -/
def checkIssuerRoot (create : Bool) (root : IssuerDirectory) : Except IssuerRefusal Unit :=
  if root.marker = .torn then .error .marker
  else if maximumIssuerEntries < root.entries then .error .entryBound
  else if root.marker = .absent ∧ (create = false ∨ root.entries ≠ 1) then .error .unclaimed
  else .ok ()

def prepareIssuerRoot (create : Bool) : Program IssuerDirectory IssuerRefusal Unit := do
  let root ← Program.look
  Program.lift (checkIssuerRoot create root)
  if root.marker = .absent then Root.writeMarker
  Root.inside IssuerRefusal.files Directory.sweep

/-- What an open does once the root is prepared. -/
def loadIssuerRoot (hashes : IssuerHashes) (create : Bool) :
    Program IssuerDirectory IssuerRefusal IssuerRootStore := do
  match ← Root.inside IssuerRefusal.files (Directory.load hashes.scheme) with
  | some (state, current) => pure ⟨state, some current, false⟩
  | none =>
    if create then commit hashes ⟨unwritten, none, false⟩ none
    else Program.refuse .uninitialized

def openIssuerRootStore (hashes : IssuerHashes) (create : Bool) (now : Time) :
    Program IssuerDirectory IssuerRefusal IssuerRootStore := do
  if now.isZero then Program.refuse .incomplete
  let root ← Program.look
  Program.lift (preflightIssuerRoot root)
  Program.effect Root.locked
  let root ← Program.look
  Program.lift (preflightIssuerRoot root)
  prepareIssuerRoot create
  loadIssuerRoot hashes create

/-! ## Calls -/

/-- What a call answers. -/
inductive IssuerAnswer where
  | profile (profile : List UInt8)
  | done
  /-- The grant of a request, and whether it was reserved by this call. -/
  | grant (grantID : Digest) (reserved : Bool)
  deriving DecidableEq

/-- A call that is not refused answers as things are, or commits first. -/
inductive Decision where
  | answers (answer : IssuerAnswer)
  | commits (issuer : IssuerRootRecord) (answer : IssuerAnswer)
  deriving DecidableEq

def validIssuerScope (scope : IssuerScope) : Bool :=
  scope.generation.wellFormed && decide (scope.networkID ≠ Digest.zero) && decide (scope.digest ≠ Digest.zero) &&
    decide (scope.issuerNodeID ≠ Digest.zero) && decide (scope.grantSignerID ≠ Digest.zero) &&
    decide (scope.epoch ≠ 0) && !scope.notAfter.isZero && decide (0 < scope.notAfter.unixSeconds) &&
    scope.notAfter.isTruncated Time.second

/-- The binding that a scope asks for. -/
def IssuerScope.binding (scope : IssuerScope) : IssuerBinding :=
  ⟨scope.generation, scope.networkID, scope.digest, scope.issuerNodeID, scope.grantSignerID, scope.epoch,
    scope.notAfter.unixSeconds⟩

def sameIssuerScope (issuer : IssuerRootRecord) (scope : IssuerScope) : Bool :=
  decide (issuer.binding = scope.binding)

/-- `initialize` up to its commit. -/
def IssuerRootStore.initializeIssuer (sha256 : List UInt8 → Digest) (store : IssuerRootStore) (profileDigest : Digest)
    (budget : UInt16) (privateMaterial profile : List UInt8) : Except IssuerRefusal Decision :=
  if store.failed ∨ profileDigest = Digest.zero ∨ !validBudget budget ∨ !validMaterial privateMaterial ∨
      !validProfile sha256 profile profileDigest then .error .initialization
  else
    match store.state.transitGrantIssuer with
    | some existing =>
      if existing.budget ≠ budget then .error .replaced else .ok (.answers (.profile existing.profile))
    | none =>
      .ok (.commits ⟨profileDigest, profile, unboundBinding, budget, false, privateMaterial, []⟩ (.profile profile))

/-- `bind` up to its commit. -/
def IssuerRootStore.bind (store : IssuerRootStore) (scope : IssuerScope) : Except IssuerRefusal Decision :=
  if store.failed ∨ !validIssuerScope scope then .error .bindingInvalid
  else
    match store.state.transitGrantIssuer with
    | none => .error .notInitialized
    | some issuer =>
      if issuer.binding.epoch ≠ 0 then
        if sameIssuerScope issuer scope then .ok (.answers .done) else .error .bound
      else .ok (.commits { issuer with binding := scope.binding } .done)

/-- `reserve` up to its commit; `now` is the clock when no reservation is found. -/
def IssuerRootStore.reserve (store : IssuerRootStore) (scope : IssuerScope)
    (requestID requestDigest grantID : Digest) (now : Time) : Except IssuerRefusal Decision :=
  if store.failed ∨ !validIssuerScope scope ∨ requestID = Digest.zero ∨ requestDigest = Digest.zero ∨
      grantID = Digest.zero then .error .reservationInvalid
  else
    match store.state.transitGrantIssuer with
    | none => .error .scopeUnavailable
    | some issuer =>
      if !sameIssuerScope issuer scope then .error .scopeUnavailable
      else
        match issuer.reservations.find? fun reservation => decide (reservation.requestID = requestID) with
        | some reservation =>
          if reservation.requestDigest ≠ requestDigest then .error .requestConflict
          else .ok (.answers (.grant reservation.grantID false))
        | none =>
          if issuer.withdrawn ∨ !now.before scope.notAfter then .error .withdrawn
          else if issuer.budget.toNat ≤ issuer.reservations.length then .error .exhausted
          else
            .ok (.commits { issuer with
              reservations := issuer.reservations ++ [⟨requestID, requestDigest, grantID⟩] } (.grant grantID true))

/-- `withdraw` up to its commit; its scope is not checked but compared. -/
def IssuerRootStore.withdraw (store : IssuerRootStore) (scope : IssuerScope) : Except IssuerRefusal Decision :=
  match store.state.transitGrantIssuer with
  | none => .error .withdrawalInvalid
  | some issuer =>
    if store.failed ∨ !sameIssuerScope issuer scope then .error .withdrawalInvalid
    else if issuer.withdrawn then .ok (.answers .done)
    else .ok (.commits { issuer with withdrawn := true } .done)

inductive IssuerCall where
  | initializeIssuer (profileDigest : Digest) (budget : UInt16) (privateMaterial profile : List UInt8)
  | bind (scope : IssuerScope)
  | reserve (scope : IssuerScope) (requestID requestDigest grantID : Digest) (now : Time)
  | withdraw (scope : IssuerScope)
  deriving DecidableEq

def IssuerRootStore.decided (sha256 : List UInt8 → Digest) (store : IssuerRootStore) :
    IssuerCall → Except IssuerRefusal Decision
  | .initializeIssuer profileDigest budget privateMaterial profile =>
    store.initializeIssuer sha256 profileDigest budget privateMaterial profile
  | .bind scope => store.bind scope
  | .reserve scope requestID requestDigest grantID now => store.reserve scope requestID requestDigest grantID now
  | .withdraw scope => store.withdraw scope

def IssuerRootStore.perform (hashes : IssuerHashes) (store : IssuerRootStore) (call : IssuerCall) :
    Program IssuerDirectory IssuerRefusal (IssuerRootStore × IssuerAnswer) := do
  match ← Program.lift (store.decided hashes.sha256 call) with
  | .answers answer => pure (store, answer)
  | .commits issuer answer =>
    let store ← commit hashes store (some issuer)
    pure (store, answer)

/-- A commit that failed half-way leaves the store unusable. -/
def IssuerRefusal.fails : IssuerRefusal → Bool
  | .files _ => true
  | _ => false

structure IssuerOpening where
  create : Bool
  now : Time
  deriving DecidableEq

/-- The root, as it is opened and called. -/
def issuerRoot (hashes : IssuerHashes) :
    Component IssuerDirectory IssuerRootStore IssuerRefusal IssuerOpening IssuerCall IssuerAnswer where
  opens := fun request => openIssuerRootStore hashes request.create request.now
  calls := IssuerRootStore.perform hashes
  refused := fun store _ refusal => { store with failed := store.failed || refusal.fails }

abbrev IssuerWorld : Type := World IssuerDirectory IssuerRootStore IssuerOpening IssuerCall IssuerAnswer
abbrev IssuerEvent : Type := Event IssuerOpening IssuerCall

end Ardents.Credential
