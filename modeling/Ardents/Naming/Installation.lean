/-
# Naming.Installation — the pending journal and the installation of an Epoch

`internal/naming/namespace/epoch` above its files: a store holds the journal of the
successors that a control accepted and the current snapshot, which an installation
replaces.  An installation starts from the snapshot, takes the next entries of the journal
and verified winners of root claims, and commits them under a threshold attestation.

The journal and the snapshots are files; here they are values, with the bounds that reading
them has.  A write into the journal can fail at three places (`AppendFault`).  Whether an
attestation is valid is an input, and so is a winner, whose claim was ordered elsewhere.
-/
import Ardents.Naming.Control

namespace Ardents.Naming

open Lib

set_option autoImplicit false

def maximumPendingEntries : Nat := 127
def maximumNamespaceGenerations : Nat := 64
def maximumRecords : Nat := 127

/-- An accepted submission; its sequence is its place in the journal. -/
structure Entry where
  decisionAt : Int64
  submission : ControlOperation
  successor : SignedRecord

abbrev SignedRecords := Table Text SignedRecord

structure Snapshot where
  epoch : UInt64
  records : SignedRecords
  /-- The entries of the journal that the snapshot includes. -/
  pending : Nat

structure Store where
  journal : List Entry
  /-- Directories that an interrupted write left in the journal. -/
  stranded : Nat
  /-- Generation directories; the current snapshot is one of them. -/
  generations : Nat
  current : Option Snapshot

def Store.empty : Store := ⟨[], 0, 0, none⟩

section Reading

variable (setting : Setting)

def verifies (signed : SignedRecord) : Bool := (verifyRecord setting.suite setting.network signed).isSome

/-- `store.pending()`. -/
def Store.pending (store : Store) : Option (List Entry) :=
  if store.stranded = 0 ∧ store.journal.length ≤ maximumPendingEntries ∧
      store.journal.all (fun entry => verifies setting entry.successor) then some store.journal
  else none

/-- A directory of more generations than its bound does not load. -/
def Store.loads (store : Store) : Bool := decide (store.generations ≤ maximumNamespaceGenerations)

/-- The signed Records of the current snapshot and its cursor. -/
def Store.snapshot (store : Store) : SignedRecords × Nat :=
  match store.current with
  | none => (Table.empty, 0)
  | some snapshot => (snapshot.records, snapshot.pending)

def decodedRecords (records : SignedRecords) : Records := records.map SignedRecord.decoded

/-- `CurrentRecords`. -/
def Store.currentRecords (store : Store) : Option (Records × Nat) :=
  if store.loads && store.snapshot.1.entries.all fun entry => verifies setting entry.2 then
    some (decodedRecords store.snapshot.1, store.snapshot.2)
  else none

end Reading

/-! ## Writing into the journal -/

/-- Where a write into the journal fails: nowhere, before its directory is renamed, there
without the staging directory being removed, or at the sync after the rename. -/
inductive AppendFault where
  | none
  | early
  | stranded
  | late
  deriving DecidableEq, Repr

/-- `AppendPending`, and whether it returned without an error. -/
def Store.appendPending (setting : Setting) (store : Store) (name : Text) (entry : Entry) (fault : AppendFault) :
    Store × Bool :=
  match verifyRecord setting.suite setting.network entry.successor, store.pending setting with
  | some current, some entries =>
    if name = [] ∨ entry.decisionAt ≤ 0 ∨ current.name ≠ name ∨ maximumPendingEntries ≤ entries.length then
      (store, false)
    else
      match fault with
      | .none => ({ store with journal := store.journal ++ [entry] }, true)
      | .early => (store, false)
      | .stranded => ({ store with stranded := store.stranded + 1 }, false)
      | .late => ({ store with journal := store.journal ++ [entry] }, false)
  | _, _ => (store, false)

/-! ## Opening a control -/

variable (setting : Setting)

/-- An entry decides the same again, at its own time. -/
def replayed (records : Records) (entry : Entry) : Option Record :=
  if !decodes setting entry.submission then none
  else
    match decision setting records entry.submission (Time.ofMilli entry.decisionAt) with
    | none => none
    | some (updated, signed) => if signed = entry.successor then some updated else none

def replay : Records → List Entry → Option Records
  | records, [] => some records
  | records, entry :: rest =>
    match replayed setting records entry with
    | none => none
    | some updated => replay (records.put updated.name updated) rest

/-- `OpenControl`: the Records that a control on the store holds. -/
def openControl (store : Store) : Option Records :=
  match store.currentRecords setting, store.pending setting with
  | some (records, cursor), some entries => replay setting records (entries.drop cursor)
  | _, _ => none

/-! ## An installation -/

structure Epoch where
  number : UInt64
  digest : Digest
  deriving DecidableEq

structure Installation where
  epoch : Epoch
  materializedAt : Time
  /-- The snapshot it starts from, which its Epoch number identifies. -/
  base : Option UInt64
  records : SignedRecords
  cursor : Nat

/-- `BeginEpochInstallation`. -/
def beginInstallation (store : Store) (epoch : Epoch) (materializedAt : Time) : Option Installation :=
  if epoch.number = 0 ∨ epoch.digest = Digest.zero ∨ materializedAt.isZero ∨ materializedAt.unixSeconds ≤ 0 ∨
      !store.loads ∨ !store.snapshot.1.entries.all (fun entry => verifies setting entry.2) then none
  else some ⟨epoch, materializedAt, store.current.map Snapshot.epoch, store.snapshot.1, store.snapshot.2⟩

def continuousSuccessor (previous current : Record) : Bool :=
  if current.generation = previous.generation then current.revision == previous.revision + 1
  else previous.lease == .released && current.generation == previous.generation + 1 && current.revision == 1

/-- One entry is taken into the Records of an installation. -/
def includeEntry (records : SignedRecords) (entry : Entry) : Option SignedRecords :=
  match verifyRecord setting.suite setting.network entry.successor with
  | none => none
  | some current =>
    match records.find current.name with
    | none =>
      if current.generation = 1 ∧ current.revision = 1 then some (records.put current.name entry.successor) else none
    | some predecessor =>
      match verifyRecord setting.suite setting.network predecessor with
      | none => none
      | some previous =>
        if continuousSuccessor previous current then some (records.put current.name entry.successor) else none

def includeEntries : SignedRecords → List Entry → Option SignedRecords
  | records, [] => some records
  | records, entry :: rest => (includeEntry setting records entry).bind fun next => includeEntries next rest

/-- `IncludePendingThrough`, when it returns no error. -/
def includePendingThrough (store : Store) (installation : Installation) (sequence : Nat) : Option Installation :=
  match store.pending setting with
  | none => none
  | some entries =>
    if sequence < installation.cursor ∨ entries.length < sequence then none
    else
      (includeEntries setting installation.records ((entries.take sequence).drop installation.cursor)).map
        fun records => { installation with records := records, cursor := sequence }

/-- A verified winner of a root claim. -/
structure Winner where
  network : Digest
  epoch : UInt64
  close : Digest
  name : Text
  authority : Digest
  deriving DecidableEq

/-- The claim that a winner materializes. -/
def Winner.op (winner : Winner) (current : Option Record) : Op where
  kind := .claim
  name := winner.name
  generation := match current with
    | none => 1
    | some record => record.generation + 1
  expectedGeneration := (current.map Record.generation).getD 0
  expectedRevision := (current.map Record.revision).getD 0
  authority := hexText winner.authority

/-- The Record that a winner makes, after the one the installation holds. -/
def Winner.materialize (winner : Winner) (installation : Installation) : Option Record :=
  match installation.records.find winner.name with
  | none =>
    (apply setting.suite none installation.materializedAt.unixSeconds installation.materializedAt.unixMilli
      (winner.op none) setting.policy).toOption
  | some signed =>
    match verifyRecord setting.suite setting.network signed with
    | none => none
    | some current =>
      (apply setting.suite (some current) installation.materializedAt.unixSeconds
        installation.materializedAt.unixMilli (winner.op (some current)) setting.policy).toOption

/-- `MaterializeClaim`, when it returns no error; `signature` is what the claimant's signer gives. -/
def materializeClaim (installation : Installation) (winner : Winner) (signature : List UInt8) : Option Installation :=
  if winner.network ≠ setting.network ∨ winner.epoch ≠ installation.epoch.number ∨
      winner.close ≠ installation.epoch.digest then none
  else
    match winner.materialize setting installation with
    | none => none
    | some record =>
      let signed : SignedRecord := ⟨false, record, signature⟩
      if verifies setting signed then
        some { installation with records := installation.records.put record.name signed }
      else none

/-! ## The commit of an installation -/

/-- The loop of `materializeLeaf` over the parents of one Record. -/
def continuousLineage (records : Records) : Nat → List Text → Record → Bool
  | fuel, seen, current =>
    if current.parentName.isEmpty then true
    else
      match fuel with
      | 0 => false
      | fuel + 1 =>
        match records.find current.parentName with
        | none => false
        | some parent =>
          !seen.contains current.parentName && parent.generation == current.parentGeneration &&
            continuousLineage records fuel (current.parentName :: seen) parent

/-- `materializeRecords` accepts the corpus. -/
def materializes (records : SignedRecords) : Bool :=
  decide (records.size ≠ 0) && decide (records.size ≤ maximumRecords) &&
    records.entries.all (fun entry => verifies setting entry.2) &&
    records.entries.all fun entry =>
      continuousLineage (decodedRecords records) 126 [entry.2.decoded.name] entry.2.decoded

/-- `Commit`; `attested` says whether the attestation is a valid threshold. -/
def Installation.commit (installation : Installation) (store : Store) (attested : Bool) : Option Store :=
  match store.pending setting with
  | none => none
  | some entries =>
    if store.loads && decide (store.current.map Snapshot.epoch = installation.base) &&
        decide (store.snapshot.2 ≤ installation.cursor) && decide (installation.cursor ≤ entries.length) &&
        materializes setting installation.records && attested &&
        store.current.all (fun snapshot => decide (snapshot.epoch < installation.epoch.number)) then
      some { store with
        generations := store.generations + 1
        current := some ⟨installation.epoch.number, installation.records, installation.cursor⟩ }
    else none

/-! ## A Namespace over time -/

structure Call where
  operation : ControlOperation
  now : Time
  /-- Whether the anonymous admission of the call holds. -/
  admitted : Bool
  fault : AppendFault

/-- `Submit`: the store after it, and the Records of the control when it was accepted. -/
def submit (records : Records) (store : Store) (call : Call) : Store × Option Records :=
  if !decodes setting call.operation || decide (call.operation.kind = .claim) || !call.admitted then (store, none)
  else
    match decision setting records call.operation call.now with
    | none => (store, none)
    | some (updated, signed) =>
      match store.appendPending setting call.operation.name ⟨call.now.unixMilli, call.operation, signed⟩
          call.fault with
      | (store, true) => (store, some (records.put updated.name updated))
      | (store, false) => (store, none)

inductive Action where
  | through (sequence : Nat)
  | claim (winner : Winner) (signature : List UInt8)

def Installation.act (store : Store) (installation : Installation) : Action → Option Installation
  | .through sequence => includePendingThrough setting store installation sequence
  | .claim winner signature => materializeClaim setting installation winner signature

/-- Calls of an installation that all return no error. -/
def Installation.acts (store : Store) : Installation → List Action → Option Installation
  | installation, [] => some installation
  | installation, action :: rest =>
    (installation.act setting store action).bind fun next => Installation.acts store next rest

structure Install where
  epoch : Epoch
  materializedAt : Time
  actions : List Action
  attested : Bool

/-- An installation from its beginning to its commit. -/
def Store.install (store : Store) (install : Install) : Option Store :=
  (beginInstallation setting store install.epoch install.materializedAt).bind fun installation =>
    (installation.acts setting store install.actions).bind fun built => built.commit setting store install.attested

/-- The Names whose Record a list of actions takes from a winner. -/
def claimedNames (actions : List Action) : List Text :=
  actions.filterMap fun action =>
    match action with
    | .through _ => none
    | .claim winner _ => some winner.name

/-- An operation that entered the journal, with the Records that decided it. -/
structure Decided where
  operation : ControlOperation
  now : Time
  before : Records

structure Namespace where
  store : Store
  control : Option Records
  /-- The Names that winners changed since the control was opened. -/
  claimed : List Text
  /-- What entered the journal, newest first. -/
  decided : List Decided

def Namespace.start : Namespace := ⟨Store.empty, none, [], []⟩

inductive NamespaceEvent where
  | submits (call : Call)
  | installs (install : Install)
  /-- A control is opened on the store as it is. -/
  | opens
  /-- The store is closed and opened again; interrupted writes are removed. -/
  | reopens

def Namespace.submitted (world : Namespace) (records : Records) (call : Call) (store : Store) (next : Option Records) :
    Namespace where
  store := store
  control := some (next.getD records)
  claimed := world.claimed
  decided :=
    if store.journal.length = world.store.journal.length then world.decided
    else ⟨call.operation, call.now, records⟩ :: world.decided

def Namespace.step (world : Namespace) : NamespaceEvent → Option Namespace
  | .submits call =>
    match world.control with
    | none => none
    | some records =>
      let outcome := submit setting records world.store call
      some (world.submitted records call outcome.1 outcome.2)
  | .installs install =>
    match world.store.install setting install with
    | none => some world
    | some store => some { world with store := store, claimed := claimedNames install.actions ++ world.claimed }
  | .opens =>
    match openControl setting world.store with
    | none => some world
    | some records => some { world with control := some records, claimed := [] }
  | .reopens => some { world with store := { world.store with stranded := 0 }, control := none, claimed := [] }

end Ardents.Naming
