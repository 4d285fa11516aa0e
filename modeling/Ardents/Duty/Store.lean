/-
# Duty.Store — the local role store

`internal/network/duty`: an endpoint keeps the duties its producers took on, and the
transit grants that were spent at it, in one bounded document.  Every change of it is a
new generation of the document, committed as `Lib.Watermark` describes.

A document is stored under the SHA-256 of its JSON text, which is the parameter `digest`,
and a document that was stored is read back as it was; of the text itself only the length
is modelled.  Left out: the path of the root and its permissions, failures of the
filesystem, the wait for a lease that is held, and `Conflict`, which only reads.  The root
has no entries but those this package writes.
-/
import Ardents.Lib.Json
import Ardents.Lib.Restarts
import Ardents.Lib.Time
import Ardents.Lib.Watermark

namespace Ardents.Duty

open Lib Json Restarts Watermark

set_option autoImplicit false
set_option linter.dupNamespace false

inductive Class where
  | ordinaryInitiator
  | directSource
  | routeInterior
  | routeRendezvous
  | routeResponder
  | routeIntroduction
  | destinationResolution
  | transitIssuance
  | nodeDuty
  /-- Any other text. -/
  | other (text : String)
  deriving DecidableEq, Repr

inductive Phase where
  | exposed
  | prepared
  | quarantined
  | live
  /-- Any other text. -/
  | other (text : String)
  deriving DecidableEq, Repr

def Class.text : Class → String
  | .ordinaryInitiator => "ordinary-initiator"
  | .directSource => "direct-source"
  | .routeInterior => "route-interior"
  | .routeRendezvous => "route-rendezvous"
  | .routeResponder => "route-responder"
  | .routeIntroduction => "route-introduction"
  | .destinationResolution => "destination-resolution"
  | .transitIssuance => "transit-issuance"
  | .nodeDuty => "node-duty"
  | .other text => text

def Phase.text : Phase → String
  | .exposed => "exposed"
  | .prepared => "prepared"
  | .quarantined => "quarantined"
  | .live => "live"
  | .other text => text

def validClass : Class → Bool
  | .other _ => false
  | _ => true

def validState : Phase → Bool
  | .other _ => false
  | _ => true

structure Duty where
  identity : Digest
  family : Digest
  kind : Class
  state : Phase
  notAfter : Time
  deriving DecidableEq

structure DutyRecord where
  producer : Digest
  identity : Digest
  family : Digest
  kind : Class
  state : Phase
  notAfter : Int64
  deriving DecidableEq

structure TransitGrantSpend where
  nodeID : Digest
  grantID : Digest
  notAfter : Int64
  deriving DecidableEq

structure DurableState where
  version : UInt8
  generation : UInt64
  previous : Option Digest
  duties : List DutyRecord
  transitGrantSpends : List TransitGrantSpend
  deriving DecidableEq

def maximumStateBytes : Nat := 65536
def maximumTransitGrantSpends : Nat := 64
def maximumInstallationDirectSource : Nat := 64
def maximumEntries : Nat := 9

inductive Refusal where
  | incomplete
  | marker
  | entryBound
  | unclaimed
  | uninitialized
  | files (fault : Fault)
  | byteBound
  | restart
  | replacement
  | recordLimit
  | producerLimit
  | conflict
  | sourceExhausted
  | duty
  | record
  | duplicated
  | stateBound
  | spendInvalid
  | spendExpired
  | spendRepeated
  | ledgerFull
  | ledgerInvalid
  deriving DecidableEq, Repr

/-! ## Checks of a document -/

def validDuty (duty : Duty) (now : Time) : Bool :=
  decide (duty.identity ≠ Digest.zero) && decide (duty.family ≠ Digest.zero) && validClass duty.kind &&
    validState duty.state && now.before duty.notAfter

def underInstallationSourceCap (records : List DutyRecord) : Bool :=
  decide ((records.filter fun record => decide (record.kind = .directSource)).length ≤
    maximumInstallationDirectSource)

def validRecord (record : DutyRecord) : Bool :=
  decide (record.producer ≠ Digest.zero) && decide (record.identity ≠ Digest.zero) &&
    decide (record.family ≠ Digest.zero) && validClass record.kind && validState record.state &&
    decide (0 < record.notAfter)

def DutyRecord.key (record : DutyRecord) : Digest × Digest × Digest :=
  (record.producer, record.identity, record.family)

/-- Two duties other than those of an initiator share an identity or a family. -/
def clash (first second : DutyRecord) : Bool :=
  decide (first.kind ≠ .ordinaryInitiator) && decide (second.kind ≠ .ordinaryInitiator) &&
    (decide (first.identity = second.identity) || decide (first.family = second.family))

def conflictFree : List DutyRecord → Bool
  | [] => true
  | first :: rest => rest.all (fun second => !clash first second) && conflictFree rest

/-- The loop over the records; `seen` are the keys of the earlier ones. -/
def validateEach (seen : List (Digest × Digest × Digest)) : List DutyRecord → Except Refusal Unit
  | [] => .ok ()
  | record :: rest =>
    if !validRecord record then .error .record
    else if seen.contains record.key then .error .duplicated
    else validateEach (record.key :: seen) rest

def producers (records : List DutyRecord) : List Digest := (records.map DutyRecord.producer).dedup

def validateRecords (records : List DutyRecord) : Except Refusal Unit :=
  if 64 < records.length then .error .recordLimit
  else
    match validateEach [] records with
    | .error refusal => .error refusal
    | .ok () =>
      if 16 < (producers records).length then .error .producerLimit
      else if !conflictFree records then .error .conflict
      else .ok ()

def validRecords (records : List DutyRecord) : Bool := decide (validateRecords records = .ok ())

/-- The loop over the spends; `seen` are the grants of the earlier ones. -/
def validSpends (seen : List Digest) : List TransitGrantSpend → Bool
  | [] => true
  | spend :: rest =>
    decide (spend.nodeID ≠ Digest.zero) && decide (spend.grantID ≠ Digest.zero) &&
      decide (0 < spend.notAfter) && !seen.contains spend.grantID && validSpends (spend.grantID :: seen) rest

def validTransitGrantSpends (spends : List TransitGrantSpend) : Bool :=
  decide (spends.length ≤ maximumTransitGrantSpends) && validSpends [] spends

def validDurableState (state : DurableState) : Bool :=
  decide (state.version = 1) && decide (0 < state.generation) && validRecords state.duties &&
    validTransitGrantSpends state.transitGrantSpends

/-! ## The length of the JSON text -/

def DutyRecord.jsonLength (record : DutyRecord) : Nat :=
  12 + blockLength record.producer + 12 + blockLength record.identity + 10 + blockLength record.family +
    9 + textLength record.kind.text.length + 9 + textLength record.state.text.length + 13 +
    signedDecimals record.notAfter.toInt + 1

def TransitGrantSpend.jsonLength (spend : TransitGrantSpend) : Nat :=
  11 + blockLength spend.nodeID + 12 + blockLength spend.grantID + 13 + signedDecimals spend.notAfter.toInt + 1

/-- The text of an absent predecessor is left out. -/
def DurableState.jsonLength (state : DurableState) : Nat :=
  11 + decimals state.version.toNat + 14 + decimals state.generation.toNat +
    (if state.previous.isSome then 12 + textLength 64 else 0) +
    10 + arrayLength (state.duties.map DutyRecord.jsonLength) +
    24 + arrayLength (state.transitGrantSpends.map TransitGrantSpend.jsonLength) + 1

/-! ## The store -/

/-- `digest` is SHA-256 of the JSON text. -/
def scheme (digest : DurableState → Digest) : Scheme Digest DurableState where
  name := digest
  number := fun state => state.generation.toNat
  valid := validDurableState

abbrev DutyRoot : Type := Root Digest DurableState

structure Store where
  state : DurableState
  current : Option Digest
  failed : Bool
  deriving DecidableEq

/-- The document of a root that nothing was committed to. -/
def unwritten : DurableState := ⟨1, 0, none, [], []⟩

/-- The next generation, as `commit` completes it. -/
def Store.next (store : Store) (duties : List DutyRecord) (spends : List TransitGrantSpend) : DurableState :=
  ⟨1, store.state.generation + 1, store.current, duties, spends⟩

def commit (digest : DurableState → Digest) (store : Store) (next : DurableState) : Program DutyRoot Refusal Store :=
  if maximumStateBytes < next.jsonLength then Program.refuse .byteBound
  else do
    Root.inside Refusal.files (Directory.commit (scheme digest) next store.current)
    pure ⟨next, some (digest next), false⟩

/-- `verifyRootCandidate`, and `verifyRootClaim` with the lock in the root. -/
def verifyRoot (create : Bool) (claimed : Nat) (root : DutyRoot) : Except Refusal Unit :=
  if root.marker = .torn then .error .marker
  else if maximumEntries < root.entries then .error .entryBound
  else if root.marker = .absent ∧ (create = false ∨ root.entries ≠ claimed) then .error .unclaimed
  else .ok ()

def prepareRoot : Program DutyRoot Refusal Unit := do
  let root ← Program.look
  if root.marker = .absent then Root.writeMarker
  let root ← Program.look
  if maximumEntries < root.entries then Program.refuse .entryBound
  Root.inside Refusal.files Directory.sweep

def openStore (digest : DurableState → Digest) (create : Bool) (now : Time) : Program DutyRoot Refusal Store := do
  if now.isZero then Program.refuse .incomplete
  let root ← Program.look
  Program.lift (verifyRoot create 0 root)
  Program.effect Root.locked
  let root ← Program.look
  Program.lift (verifyRoot create 1 root)
  prepareRoot
  match ← Root.inside Refusal.files (Directory.load (scheme digest)) with
  | some (state, current) => pure ⟨state, some current, false⟩
  | none =>
    if create then
      let store : Store := ⟨unwritten, none, false⟩
      commit digest store (store.next [] [])
    else Program.refuse .uninitialized

/-- The spends that are not over. -/
def liveTransitGrantSpends (spends : List TransitGrantSpend) (now : Time) : List TransitGrantSpend :=
  spends.filter fun spend => decide (now.unixSeconds < spend.notAfter)

def dutyRecord (producer : Digest) (duty : Duty) : DutyRecord :=
  ⟨producer, duty.identity, duty.family, duty.kind, duty.state, duty.notAfter.unixSeconds⟩

/-- `Replace` up to its commit. -/
def Store.replace (store : Store) (producer : Digest) (duties : List Duty) (now : Time) :
    Except Refusal DurableState :=
  if store.failed then .error .restart
  else if producer = Digest.zero then .error .replacement
  else if 64 < duties.length then .error .recordLimit
  else if duties.any fun duty => !validDuty duty now then .error .duty
  else
    let spends := liveTransitGrantSpends store.state.transitGrantSpends now
    let retained := store.state.duties.filter fun record =>
      decide (record.producer ≠ producer) && decide (now.unixSeconds < record.notAfter)
    let records := retained ++ duties.map (dutyRecord producer)
    if !underInstallationSourceCap records then .error .sourceExhausted
    else
      match validateRecords records with
      | .error refusal => .error refusal
      | .ok () =>
        if !validTransitGrantSpends spends then .error .stateBound
        else .ok (store.next records spends)

/-- `SpendTransitGrant` up to its commit. -/
def Store.spendTransitGrant (store : Store) (nodeID grantID : Digest) (notAfter now : Time) :
    Except Refusal DurableState :=
  if store.failed ∨ nodeID = Digest.zero ∨ grantID = Digest.zero ∨ notAfter.isZero ∨
      !notAfter.isTruncated Time.second then .error .spendInvalid
  else if !now.before notAfter then .error .spendExpired
  else
    let spends := liveTransitGrantSpends store.state.transitGrantSpends now
    if spends.any fun spend => decide (spend.grantID = grantID) then .error .spendRepeated
    else if maximumTransitGrantSpends ≤ spends.length then .error .ledgerFull
    else
      let records := store.state.duties.filter fun record => decide (now.unixSeconds < record.notAfter)
      let spends := spends ++ [⟨nodeID, grantID, notAfter.unixSeconds⟩]
      if !validRecords records || !validTransitGrantSpends spends then .error .ledgerInvalid
      else .ok (store.next records spends)

/-! ## Calls -/

/-- A call on the open store, with the reading of the clock it takes. -/
inductive Call where
  | replace (producer : Digest) (duties : List Duty) (now : Time)
  | spendTransitGrant (nodeID grantID : Digest) (notAfter now : Time)
  deriving DecidableEq

def Call.now : Call → Time
  | .replace _ _ now => now
  | .spendTransitGrant _ _ _ now => now

structure Opening where
  create : Bool
  now : Time
  deriving DecidableEq

/-- What a call wants to commit. -/
def Store.decided (store : Store) : Call → Except Refusal DurableState
  | .replace producer duties now => store.replace producer duties now
  | .spendTransitGrant nodeID grantID notAfter now => store.spendTransitGrant nodeID grantID notAfter now

/-- A call as a program on the root. -/
def Store.perform (digest : DurableState → Digest) (store : Store) (call : Call) :
    Program DutyRoot Refusal (Store × Unit) := do
  let next ← Program.lift (store.decided call)
  let store ← commit digest store next
  pure (store, ())

/-- A commit that failed half-way leaves the store unusable. -/
def Refusal.fails : Refusal → Bool
  | .files _ => true
  | _ => false

/-- The store, as it is opened and called. -/
def localRoles (digest : DurableState → Digest) : Component DutyRoot Store Refusal Opening Call Unit where
  opens := fun request => openStore digest request.create request.now
  calls := Store.perform digest
  refused := fun store _ refusal => { store with failed := store.failed || refusal.fails }

abbrev DutyWorld : Type := World DutyRoot Store Opening Call Unit
abbrev DutyEvent : Type := Event Opening Call

/-- A root that was claimed and that nothing was committed to. -/
def claimed : DutyRoot := ⟨true, .whole, .empty⟩

end Ardents.Duty
