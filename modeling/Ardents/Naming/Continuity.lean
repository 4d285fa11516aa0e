/-
# Naming.Continuity — what the control accepts can be installed and replayed

The control decides on its Records; an installation checks each entry of the journal again,
by continuity with the Record it holds, and a restart decides each entry again.

* `submissions_installable` — every prefix of the journal can be taken by an installation, in
  every history whose delegations are of Names that the control has no Record of.  A
  delegation does not look at the Record of its child: `child_is_seized` delegates a Name
  twice, and from then on no installation gets past the second entry.
* `control_rebuilt` — opening a control gives the Records of the live one, in every history in
  which no write into the journal fails once it is renamed.  Such a write is denied and yet
  durable: after `denied_renewal_is_durable` no control opens.
-/
import Ardents.Naming.Installing

namespace Ardents.Naming

open Lib

set_option autoImplicit false

/-! ## A Namespace to evaluate the model on -/

namespace Sample

/-- A network whose digest of an operation is always the same. -/
def setting : Setting :=
  ⟨Suite.transparent, fun _ => Digest.filled 9, Digest.filled 1, ⟨2592000000000000, 604800000000000⟩⟩

def signature (owner : Digest) : List UInt8 := owner.bytes ++ owner.bytes

def founder : Digest := Digest.filled 2
def tenant : Digest := Digest.filled 3
def stranger : Digest := Digest.filled 4

def moment : Time := Time.ofSeconds 1000

def epoch (number : UInt64) : Epoch := ⟨number, Digest.filled 5⟩

def winner (number : UInt64) (name : Text) : Winner := ⟨Digest.filled 1, number, Digest.filled 5, name, founder⟩

/-- The first installation: the founder has won the root. -/
def founding : Install := ⟨epoch 1, moment, [.claim (winner 1 (ascii "a")) (signature founder)], true⟩

/-- The Record of a new Name, with a Lease that ends at these seconds. -/
def record (name : Text) (owner : Digest) (parent : Option Record) (ends : Int64 × Int64) : Record :=
  claimed 1 { kind := .claim, name := name, generation := 1, authority := hexText owner } parent ends

def root : Record := record (ascii "a") founder none (2593000, 3197800)

def child (owner : Digest) : Record := record (ascii "b.a") owner (some root) (2000, 606800)

/-- What the founder submits to delegate the child to `owner`. -/
def delegation (owner : Digest) : ControlOperation where
  kind := .delegate
  operationDigest := Digest.filled 9
  name := ascii "b.a"
  parentName := ascii "a"
  parentGeneration := 1
  parentRevision := 1
  childGeneration := 1
  authority := owner
  leaseNotAfter := 2000000
  authorityProof := signature founder
  successorRecord := .document ⟨false, child owner, signature owner⟩

/-- What the founder submits to renew the root. -/
def renewal : ControlOperation where
  kind := .renew
  operationDigest := Digest.filled 9
  name := ascii "a"
  generation := 1
  expectedRevision := 1
  leaseNotAfter := 2000000
  authorityProof := signature founder
  successorRecord := .document ⟨false, root.renewed (2000, 606800), signature founder⟩

/-- A submission at the moment, whose write into the journal fails as given. -/
def submission (operation : ControlOperation) (fault : AppendFault) : NamespaceEvent :=
  .submits ⟨operation, moment, true, fault⟩

end Sample

/-! ## Every accepted submission can be installed -/

variable {event : NamespaceEvent}

section Installable

variable (setting : Setting)

/-- Every prefix of the journal above the cursor can be taken by an installation that begins. -/
def Installable (store : Store) : Prop :=
  ∀ (epoch : Epoch) (materializedAt : Time) (sequence : Nat), epoch.number ≠ 0 → epoch.digest ≠ Digest.zero →
    materializedAt.isZero = false → 0 < materializedAt.unixSeconds → store.snapshot.2 ≤ sequence →
    sequence ≤ store.journal.length → ∃ installation built,
      beginInstallation setting store epoch materializedAt = some installation ∧
        includePendingThrough setting store installation sequence = some built

/-- A call leaves a Record as it is, or makes its next revision: by the transition that its
operation asks for, which participants of a policy authorize or else the Authority signed. -/
def Respects (call : Call) (records next : Records) : Prop :=
  ∀ name current, records.find name = some current → next.find name = some current ∨
    ∃ updated op, next.find name = some updated ∧ Succeeds current updated ∧ current.lease ≠ .released ∧
      (lifecycle setting call.operation current call.now = some (op, true) ∨
        lifecycle setting call.operation current call.now = some (op, false) ∧
          signedTransition setting current op call.operation.authorityProof = true)

/-- Delegations are of Names that the control has no Record of; writes into the journal do
not fail after their rename, and the store has room for another generation. -/
def DelegatesFresh (world : Namespace) : NamespaceEvent → Prop
  | .submits call => (call.fault = .none ∨ call.fault = .early) ∧
      (call.operation.kind = .delegate → ∀ records ∈ world.control, records.find call.operation.name = none)
  | .installs _ => world.store.generations < maximumNamespaceGenerations
  | .opens | .reopens => True

variable {setting} {world : Namespace}

theorem fresh_persistent : Persistent setting Fresh := by
  intro names records other entry now updated keeps shadows decides fresh kind
  have outside := shadows.untouched keeps decides.positive decides.accepted
  rcases transitionAt_eq_some decides.accepted with ⟨parent, above, delegates⟩ | ⟨current, parents, op, advances⟩
  · rw [delegates.hasParent.2] at outside
    rw [shadows.elsewhere _ outside]
    exact fresh kind
  · exact absurd kind advances.kind

theorem DelegatesFresh.calm (fresh : DelegatesFresh world event) : Calm Fresh world event := by
  cases event with
  | submits call =>
    refine ⟨fresh.1, ?_⟩
    intro records signed control kind
    exact fresh.2 kind records control
  | installs install => exact fresh
  | opens => trivial
  | reopens => trivial

theorem Coherent.installable (coherent : Coherent setting Fresh world) : Installable setting world.store := by
  intro epoch materializedAt sequence number digest nonzero positive after within
  have begun : beginInstallation setting world.store epoch materializedAt =
      some ⟨epoch, materializedAt, world.store.current.map Snapshot.epoch, world.store.snapshot.1,
        world.store.snapshot.2⟩ := by
    rw [beginInstallation, if_neg]
    simp only [number, digest, nonzero, coherent.holds.verifies, Store.loads, decide_eq_true coherent.loads,
      Int64.not_le.2 positive, Bool.not_true, Bool.false_eq_true, or_self, not_false_eq_true]
  obtain ⟨final, follows, -⟩ := coherent.follows
  rw [drop_eq_append after] at follows
  obtain ⟨middle, first, -⟩ := follows.divide
  obtain ⟨records, included⟩ := first.includable coherent.holds.keeps coherent.holds (Shadows.refl _)
  refine ⟨_, ⟨epoch, materializedAt, world.store.current.map Snapshot.epoch, records, sequence⟩, begun, ?_⟩
  rw [includePendingThrough, coherent.pending]
  dsimp only
  rw [if_neg (by omega), included]
  rfl

/-- What a submission that is accepted does to the Records of the control. -/
theorem Coherent.respects (coherent : Coherent setting Fresh world) {records next : Records}
    (control : world.control = some records) {call : Call}
    (fresh : DelegatesFresh world (.submits call)) {store : Store}
    (accepted : submit setting records world.store call = (store, some next)) :
    Respects setting call records next := by
  obtain ⟨final, follows, controls⟩ := coherent.follows
  obtain ⟨keeps, -⟩ := controls records control
  have submits := submit_submits setting records world.store call
  rw [accepted] at submits
  cases submits with
  | @submitted updated signed enters =>
    intro name current found
    rw [Table.find_put]
    split
    · next same =>
      right
      rcases transitionAt_eq_some enters.decides.accepted with
        ⟨parent, above, delegates⟩ | ⟨record, parents, op, advances⟩
      · have absent := fresh.2 delegates.kind records control
        rw [← enters.name, same, found] at absent
        cases absent
      obtain ⟨milliseconds, applies⟩ := advances.applies
      have held : records.find call.operation.name = some record := advances.found
      rw [← enters.name, same, found] at held
      cases held
      exact ⟨updated, op, rfl, applies.succeeds advances.requests.control,
        advances.unreleased (keeps _ _ found).2.settled enters.decides.positive, advances.entitled⟩
    · exact .inl found

end Installable

/-- **Accepted submissions can be installed** in every history whose delegations are of new
Names, and none replaces a Record but by its next revision. -/
theorem submissions_installable (setting : Setting) (events : List NamespaceEvent)
    (fresh : Along (Namespace.step setting) DelegatesFresh Namespace.start events) :
    Throughout (Namespace.step setting) (fun world => Installable setting world.store ∧
      ∀ call, DelegatesFresh world (.submits call) → ∀ records store next, world.control = some records →
        submit setting records world.store call = (store, some next) →
        Respects setting call records next) Namespace.start events := by
  have calm := fresh.imp fun _ _ fresh => fresh.calm
  refine (coherent_throughout fresh_persistent calm).imp ?_
  intro world coherent
  refine ⟨coherent.installable, ?_⟩
  intro call fresh records store next control accepted
  exact coherent.respects control fresh accepted

instance (world : Namespace) (event : NamespaceEvent) : Decidable (DelegatesFresh world event) := by
  cases event <;> unfold DelegatesFresh <;> infer_instance

open Sample

/-- A founded Namespace in which the child is delegated once, and the delegation installed. -/
def Sample.delegating : List NamespaceEvent :=
  [.installs founding, .opens, submission (delegation tenant) .none,
    .installs ⟨epoch 2, moment, [.through 1], true⟩, submission renewal .none]

theorem delegating_installable :
    (run (Namespace.step setting) Namespace.start delegating).any
        (fun world => world.store.journal.length == 2 && world.store.generations == 2) = true ∧
      Throughout (Namespace.step setting) (fun world => Installable setting world.store ∧
        ∀ call, DelegatesFresh world (.submits call) → ∀ records store next, world.control = some records →
          submit setting records world.store call = (store, some next) →
          Respects setting call records next) Namespace.start delegating :=
  ⟨by decide +kernel, submissions_installable setting delegating (by decide +kernel)⟩

/-- The founder delegates the child of a tenant once more, to a stranger. -/
def Sample.seizing : List NamespaceEvent :=
  [.installs founding, .opens, submission (delegation tenant) .none,
    submission (delegation stranger) .none]

/-- The second delegation replaces the tenant's Record by the stranger's, and its entry is not
taken by an installation. -/
def Sample.seized (world : Namespace) : Bool :=
  world.decided.head?.any (fun last => last.before.find (ascii "b.a") == some (child tenant)) &&
    world.control.any (fun records => records.find (ascii "b.a") == some (child stranger)) &&
    decide (world.store.journal.length = 2) && decide (world.store.snapshot.2 = 0) &&
    (beginInstallation setting world.store (epoch 2) moment).all fun installation =>
      (includePendingThrough setting world.store installation 2).isNone

theorem child_is_seized : ∃ world, run (Namespace.step setting) Namespace.start seizing = some world ∧
    world.decided.head?.any
      (fun last => last.before.find (ascii "b.a") == some (child tenant)) = true ∧
    world.control.any (fun records => records.find (ascii "b.a") == some (child stranger)) = true ∧
    ¬ Installable setting world.store := by
  have ran : (run (Namespace.step setting) Namespace.start seizing).any Sample.seized = true := by
    decide +kernel
  obtain ⟨world, reached, seized⟩ := (Option.any_eq_true _ _).1 ran
  simp only [Sample.seized, Bool.and_eq_true, decide_eq_true_eq] at seized
  obtain ⟨⟨⟨⟨tenant, stranger⟩, entries⟩, cursor⟩, refused⟩ := seized
  refine ⟨world, reached, tenant, stranger, ?_⟩
  intro installable
  obtain ⟨installation, built, begun, included⟩ := installable (epoch 2) moment 2 (by decide)
    (by decide) (by decide) (by decide) (by omega) (by omega)
  rw [begun, Option.all_some, included] at refused
  cases refused

/-! ## A restart rebuilds the control -/

section Restarting

variable {setting : Setting} {world : Namespace}

/-- Writes into the journal do not fail after their rename, the milliseconds of the clock fit
an `int64`, and the store has room for another generation. -/
def Undisturbed (world : Namespace) : NamespaceEvent → Prop
  | .submits call => (call.fault = .none ∨ call.fault = .early) ∧ call.now.milliFits
  | .installs _ => world.store.generations < maximumNamespaceGenerations
  | .opens | .reopens => True

instance (world : Namespace) (event : NamespaceEvent) : Decidable (Undisturbed world event) := by
  cases event <;> unfold Undisturbed <;> infer_instance

/-- Opening a control succeeds, with the Records of the live one but where winners changed them. -/
def Rebuilds (setting : Setting) (world : Namespace) : Prop :=
  ∃ rebuilt, openControl setting world.store = some rebuilt ∧
    ∀ records, world.control = some records → ∀ name, name ∉ world.claimed → rebuilt.find name = records.find name

/-- The milliseconds of a decision fit. -/
def Fits (_ : Records) (_ : Entry) (now : Time) : Prop := now.milliFits

theorem Undisturbed.calm (undisturbed : Undisturbed world event) : Calm Fits world event := by
  cases event with
  | submits call => exact ⟨undisturbed.1, fun _ _ _ => undisturbed.2⟩
  | installs install => exact undisturbed
  | opens => trivial
  | reopens => trivial

theorem Coherent.rebuilds (coherent : Coherent setting Fits world) : Rebuilds setting world := by
  obtain ⟨final, follows, controls⟩ := coherent.follows
  refine ⟨final, ?_, ?_⟩
  · rw [coherent.openControl]
    exact follows.replay fun _ _ _ fits => fits
  · intro records control name outside
    exact (controls records control).2.elsewhere name outside

end Restarting

/-- **A restart rebuilds the live control** in every undisturbed history. -/
theorem control_rebuilt (setting : Setting) (events : List NamespaceEvent)
    (undisturbed : Along (Namespace.step setting) Undisturbed Namespace.start events) :
    Throughout (Namespace.step setting) (Rebuilds setting) Namespace.start events := by
  have calm := undisturbed.imp fun _ _ undisturbed => undisturbed.calm
  have persistent : Persistent setting Fits := fun _ _ _ fits => fits
  exact (coherent_throughout persistent calm).imp fun _ coherent => coherent.rebuilds

theorem delegating_rebuilt :
    (run (Namespace.step setting) Namespace.start delegating).any
        (fun world => world.store.journal.length == 2 && world.control.isSome) = true ∧
      Throughout (Namespace.step setting) (Rebuilds setting) Namespace.start delegating :=
  ⟨by decide +kernel, control_rebuilt setting delegating (by decide +kernel)⟩

/-- The write of a renewal fails at the sync after its rename, so that the renewal is denied;
the founder submits it again. -/
def Sample.retrying : List NamespaceEvent :=
  [.installs founding, .opens, submission renewal .late, submission renewal .none]

theorem denied_renewal_is_durable :
    ∃ world, run (Namespace.step setting) Namespace.start retrying = some world ∧
      world.control.any (fun records => records.find (ascii "a") == some (root.renewed (2000, 606800))) = true ∧
      openControl setting world.store = none := by
  have ran : (run (Namespace.step setting) Namespace.start retrying).any (fun world =>
      world.control.any (fun records => records.find (ascii "a") == some (root.renewed (2000, 606800))) &&
        (openControl setting world.store).isNone) = true := by decide +kernel
  obtain ⟨world, reached, facts⟩ := (Option.any_eq_true _ _).1 ran
  rw [Bool.and_eq_true, Option.isNone_iff_eq_none] at facts
  exact ⟨world, reached, facts.1, facts.2⟩

end Ardents.Naming
