/-
# Naming.Lineage — no corpus wedges the installation of an Epoch

A commit materializes every Record of the installation together with the chain of its
parents, each in the very generation that the Record below it is bound to.  `Lineal` is that
condition on one link; Names get shorter along a chain, so `Lineal` is all a commit needs
(`Lineal.continuous`).

* `corpus_commits` — every installation whose calls all succeeded commits, in every history in
  which no winner takes a Name that a held Record is bound to.
* `reclaimed_root_wedges` — a released root is claimed again while a child is bound to its old
  generation; the installation does not commit, and neither does any later one.
-/
import Ardents.Naming.Continuity

namespace Ardents.Naming

open Lib

set_option autoImplicit false

/-! ## Links between Records -/

section Links

variable {records : Records}

/-- Every Record that is bound to a parent finds it in the generation it is bound to. -/
def Lineal (records : Records) : Prop :=
  ∀ name record, records.find name = some record → record.parentName ≠ [] →
    ∃ parent, records.find record.parentName = some parent ∧ parent.generation = record.parentGeneration

variable {record : Record}

theorem Kept.descends (kept : Kept record) (bound : record.parentName ≠ []) :
    record.parentName.length + 2 ≤ record.name.length := by
  have binding := (validRecord_iff.1 kept.valid).parent
  rw [validParentBinding, Bool.and_eq_true, Bool.or_eq_true] at binding
  rcases binding.2 with empty | below
  · exact absurd (List.isEmpty_iff.1 empty) bound
  · exact isDescendant_length below

theorem Kept.bound_ne (kept : Kept record) (bound : record.parentName ≠ []) :
    record.parentName ≠ record.name := by
  intro same
  have shorter := kept.descends bound
  rw [same] at shorter
  omega

/-- The loop over the parents of a Record ends at a root: their Names get shorter by two
bytes, and none comes twice. -/
theorem Lineal.continuousLineage (lineal : Lineal records) (keeps : Keeps records) : ∀ {fuel : Nat} {seen : List Text}
    {record : Record}, records.find record.name = some record → record.name.length ≤ 2 * fuel + 1 →
    (∀ name ∈ seen, record.name.length ≤ name.length) → continuousLineage records fuel seen record = true
  | fuel, seen, record, held, short, longer => by
    unfold Naming.continuousLineage
    split
    · rfl
    next bound =>
    rw [List.isEmpty_iff] at bound
    have shorter := (keeps _ _ held).2.descends bound
    obtain ⟨parent, found, generation⟩ := lineal _ _ held bound
    have own := (keeps _ _ found).1
    have size : parent.name.length = record.parentName.length := by rw [own]
    cases fuel with
    | zero => omega
    | succ fuel =>
      have unseen : seen.contains record.parentName = false := by
        rw [← Bool.not_eq_true, List.contains_iff_mem]
        intro among
        have least := longer _ among
        omega
      simp only [found, unseen, generation, Bool.not_false, beq_self_eq_true, Bool.and_self, Bool.true_and]
      refine lineal.continuousLineage keeps (own ▸ found) (by omega) ?_
      intro name among
      rcases List.mem_cons.1 among with rfl | among
      · rw [own]
      · have least := longer name among
        omega

theorem Lineal.materializes {setting : Setting} {held : SignedRecords} (lineal : Lineal (decodedRecords held))
    (holds : Holds setting held) (some_ : held.size ≠ 0) (few : held.size ≤ maximumRecords) :
    materializes setting held = true := by
  have keeps := holds.keeps
  rw [Naming.materializes, holds.verifies, decide_eq_true some_, decide_eq_true few]
  simp only [Bool.and_self, Bool.true_and, List.all_eq_true]
  rintro ⟨name, signed⟩ member
  have found : (decodedRecords held).find name = some signed.decoded := by
    rw [decodedRecords, Table.find_map, Table.find_of_mem held member]
    rfl
  obtain ⟨own, kept⟩ := keeps _ _ found
  have short := parse_length (validRecord_iff.1 kept.valid).name
  rw [maxNameLength] at short
  apply lineal.continuousLineage keeps
  · rw [own]
    exact found
  · omega
  · intro other among
    rw [List.mem_singleton.1 among]

end Links

/-! ## An installation keeps the links -/

section Acting

variable {setting : Setting} {P : Records → Entry → Time → Prop} {names : List Text} {records last final : Records}
  {held next : SignedRecords} {entries : List Entry} {store : Store} {installation built : Installation}
  {action : Action} {updated : Record}

/-- A Record is written over one of the same generation, or where there was none, and finds
its own parent. -/
theorem Lineal.put (lineal : Lineal records)
    (same : ∀ current, records.find updated.name = some current → current.generation = updated.generation)
    (bound : updated.parentName ≠ [] → updated.parentName ≠ updated.name ∧
      ∃ parent, records.find updated.parentName = some parent ∧ parent.generation = updated.parentGeneration) :
    Lineal (records.put updated.name updated) := by
  intro name record found hasParent
  rw [Table.find_put] at found
  rw [Table.find_put]
  split at found
  · cases found
    obtain ⟨differs, parent, present, generation⟩ := bound hasParent
    rw [if_neg (Ne.symm differs)]
    exact ⟨parent, present, generation⟩
  obtain ⟨parent, present, generation⟩ := lineal name record found hasParent
  split
  · next own =>
    rw [← own] at present
    exact ⟨updated, rfl, (same parent present).symm.trans generation⟩
  · exact ⟨parent, present, generation⟩

/-- The Record that an installation held before it took the first Record of a Name is of the
same generation. -/
theorem continuousSuccessor_first {previous current : Record} (kept : Kept previous)
    (continuous : continuousSuccessor previous current = true) (first : current.generation = 1) :
    previous.generation = current.generation := by
  unfold continuousSuccessor at continuous
  split at continuous
  · next same => exact same.symm
  simp only [Bool.and_eq_true, beq_iff_eq] at continuous
  have nonzero := (validRecord_iff.1 kept.valid).generation
  have following := continuous.1.2
  exact absurd (by grind) nonzero

theorem Decides.lineal {entry : Entry} {now : Time} (decides : Decides setting records entry now updated)
    (keeps : Keeps records) (holds : Holds setting held) (shadows : Shadows names records (decodedRecords held))
    (included : includeEntry setting held entry = some next) (lineal : Lineal (decodedRecords held)) :
    Lineal (decodedRecords next) := by
  have outside := shadows.untouched keeps decides.positive decides.accepted
  have kept := decides.kept
  obtain ⟨current, verified, rfl, before⟩ := includeEntry_eq_some included
  cases verified.symm.trans decides.verified
  rw [decodedRecords_put, verifyRecord_decoded verified]
  rcases transitionAt_eq_some decides.accepted with ⟨parent, above, delegates⟩ | ⟨record, parents, op, advances⟩
  · apply lineal.put
    · intro previous found
      obtain ⟨signed, present, verified'⟩ := holds.find_decoded found
      rcases before with absent | ⟨predecessor, other, present', verified'', continuous⟩
      · rw [absent] at present
        cases present
      · cases present.symm.trans present'
        cases verified'.symm.trans verified''
        exact continuousSuccessor_first (holds.keeps _ _ found).2 continuous delegates.first.1
    · intro bound
      refine ⟨kept.bound_ne bound, parent, ?_, delegates.bound.2.symm⟩
      rw [delegates.bound.1, (keeps _ _ delegates.found).1]
      exact shadows.agrees _ _ delegates.found (liveLease_eq_ok delegates.live).2.2
  · obtain ⟨milliseconds, applies⟩ := advances.applies
    have succeeds := applies.succeeds advances.requests.control
    have found : (decodedRecords held).find updated.name = some record := by
      rw [shadows.elsewhere _ outside, succeeds.name, (keeps _ _ advances.found).1]
      exact advances.found
    apply lineal.put
    · intro previous found'
      cases found.symm.trans found'
      exact succeeds.generation.symm
    intro bound
    refine ⟨kept.bound_ne bound, ?_⟩
    rw [succeeds.parentName, succeeds.parentGeneration]
    exact lineal _ _ found (succeeds.parentName ▸ bound)

theorem Follows.lineal (follows : Follows setting P records entries last) : ∀ {held : SignedRecords},
    Keeps records → Holds setting held → Shadows names records (decodedRecords held) →
    includeEntries setting held entries = some next → Lineal (decodedRecords held) → Lineal (decodedRecords next) := by
  induction follows with
  | nil =>
    intro held keeps holds shadows included lineal
    cases included
    exact lineal
  | @cons records last entry entries now updated decides holds' rest ih =>
    intro held keeps holds shadows included lineal
    obtain ⟨middle, first, later⟩ := Option.bind_eq_some_iff.1 included
    have single : Follows setting P records [entry] (records.put updated.name updated) := .cons decides holds' .nil
    have alone : includeEntries setting held [entry] = some middle := by
      rw [includeEntries, first]
      rfl
    obtain ⟨held', shadowed⟩ := single.includes keeps holds shadows alone
    exact ih (keeps.put decides.kept) held' shadowed later
      (decides.lineal keeps holds shadows first lineal)

/-- A winner takes no Name that a Record of the installation is bound to. -/
def Unbound (installation : Installation) : Action → Prop
  | .through _ => True
  | .claim winner _ => ∀ entry ∈ installation.records.entries, entry.2.decoded.parentName ≠ winner.name

theorem Builds.act_lineal (builds : Builds setting P store.journal final names installation)
    (acted : installation.act setting store action = some built) (unbound : Unbound installation action)
    (lineal : Lineal (decodedRecords installation.records)) : Lineal (decodedRecords built.records) := by
  cases action with
  | through sequence =>
    obtain ⟨after, within, taken, included, rfl⟩ := includePendingThrough_eq_some acted
    obtain ⟨before, keeps, follows, shadows⟩ := builds.follows
    rw [drop_eq_append after] at follows
    obtain ⟨middle, first, -⟩ := follows.divide
    exact first.lineal keeps builds.holds shadows included lineal
  | claim winner signature =>
    obtain ⟨record, accepted, verified, rfl⟩ := materializeClaim_eq_some acted
    have materializes := Winner.materialize_eq_some accepted
    rw [decodedRecords_put, verifyRecord_decoded verified]
    intro name other found bound
    rw [Table.find_put] at found
    split at found
    · cases found
      exact absurd materializes.parentName bound
    obtain ⟨parent, present, generation⟩ := lineal name other found bound
    obtain ⟨signed, held, decoded⟩ := Option.map_eq_some_iff.1
      ((Table.find_map SignedRecord.decoded installation.records name).symm.trans found)
    have member : (name, signed) ∈ installation.records.entries := Table.mem_of_find held
    have differs := unbound _ member
    rw [decoded, ← materializes.name] at differs
    rw [Table.find_put, if_neg (Ne.symm differs)]
    exact ⟨parent, present, generation⟩

theorem Builds.act (builds : Builds setting P store.journal final names installation)
    (acted : installation.act setting store action = some built) :
    ∃ names, Builds setting P store.journal final names built := by
  cases action with
  | through sequence => exact ⟨names, builds.through acted⟩
  | claim winner signature => exact ⟨winner.name :: names, builds.claim acted⟩

theorem Builds.acts_lineal : ∀ {actions : List Action} {names : List Text} {installation : Installation},
    Builds setting P store.journal final names installation →
    Along (Installation.act setting store) Unbound installation actions →
    installation.acts setting store actions = some built → Lineal (decodedRecords installation.records) →
    Lineal (decodedRecords built.records)
  | [], names, installation, builds, unbound, acted, lineal => by
    cases acted
    exact lineal
  | action :: rest, names, installation, builds, unbound, acted, lineal => by
    obtain ⟨next, first, later⟩ := Option.bind_eq_some_iff.1 acted
    obtain ⟨names', builds'⟩ := builds.act first
    exact builds'.acts_lineal (unbound.2 next first) later (builds.act_lineal first unbound.1 lineal)

/-- What the calls of an installation leave as it is. -/
structure Continues (installation built : Installation) : Prop where
  epoch : built.epoch = installation.epoch
  base : built.base = installation.base
  cursor : installation.cursor ≤ built.cursor

theorem Installation.act_continues (acted : installation.act setting store action = some built) :
    Continues installation built := by
  cases action with
  | through sequence =>
    obtain ⟨after, -, records, -, rfl⟩ := includePendingThrough_eq_some acted
    exact ⟨rfl, rfl, after⟩
  | claim winner signature =>
    obtain ⟨record, -, -, rfl⟩ := materializeClaim_eq_some acted
    exact ⟨rfl, rfl, Nat.le_refl _⟩

theorem Installation.acts_continues : ∀ {actions : List Action} {installation : Installation},
    installation.acts setting store actions = some built → Continues installation built
  | [], installation, acted => by
    cases acted
    exact ⟨rfl, rfl, Nat.le_refl _⟩
  | action :: rest, installation, acted => by
    obtain ⟨next, first, later⟩ := Option.bind_eq_some_iff.1 acted
    have before := Installation.act_continues first
    have after := Installation.acts_continues later
    exact ⟨after.epoch.trans before.epoch, after.base.trans before.base, Nat.le_trans before.cursor after.cursor⟩

end Acting

/-! ## Commits along a history -/

section Committing

variable {setting : Setting} {world after : Namespace}

/-- Any entry. -/
def Any (_ : Records) (_ : Entry) (_ : Time) : Prop := True

/-- No winner of an installation that commits takes a Name that a Record it holds is bound to,
and the store has room for its generation; writes into the journal do not fail after their
rename. -/
def ClaimsUnbound (setting : Setting) (world : Namespace) : NamespaceEvent → Prop
  | .submits call => call.fault = .none ∨ call.fault = .early
  | .installs install => (world.store.install setting install).isSome = true →
      world.store.generations < maximumNamespaceGenerations ∧
        ∀ installation ∈ beginInstallation setting world.store install.epoch install.materializedAt,
          Along (Installation.act setting world.store) Unbound installation install.actions
  | .opens | .reopens => True

variable {event : NamespaceEvent}

/-- The journal was decided, and the snapshot has its links. -/
structure Linked (setting : Setting) (world : Namespace) : Prop where
  coherent : Coherent setting Any world
  lineal : Lineal (decodedRecords world.store.snapshot.1)

theorem any_persistent : Persistent setting Any := fun _ _ _ _ => trivial

/-- An installation over a linked snapshot has its links. -/
theorem Linked.built (linked : Linked setting world) {epoch : Epoch} {materializedAt : Time} {actions : List Action}
    {installation built : Installation}
    (begun : beginInstallation setting world.store epoch materializedAt = some installation)
    (unbound : Along (Installation.act setting world.store) Unbound installation actions)
    (acted : installation.acts setting world.store actions = some built) :
    Holds setting built.records ∧ Lineal (decodedRecords built.records) ∧
      built.cursor ≤ world.store.journal.length := by
  obtain ⟨final, follows, -⟩ := linked.coherent.follows
  have builds := linked.coherent.builds begun follows
  have start : Lineal (decodedRecords installation.records) := by
    cases beginInstallation_eq_some begun
    exact linked.lineal
  have last := builds.acts acted
  exact ⟨last.holds, builds.acts_lineal unbound acted start, last.within⟩

theorem Linked.step (linked : Linked setting world)
    (unbound : ClaimsUnbound setting world event) (stepped : world.step setting event = some after) :
    Linked setting after := by
  have coherent : Calm Any world event → Coherent setting Any after :=
    fun calm => linked.coherent.step any_persistent calm stepped
  cases event with
  | submits call =>
    refine ⟨coherent ⟨unbound, fun _ _ _ => trivial⟩, ?_⟩
    simp only [Namespace.step] at stepped
    split at stepped
    · cases stepped
    next records control =>
    cases stepped
    have submits := submit_submits setting records world.store call
    generalize submit setting records world.store call = outcome at submits
    cases submits <;> exact linked.lineal
  | installs install =>
    simp only [Namespace.step] at stepped
    split at stepped
    · cases stepped
      exact linked
    next store installed =>
    cases stepped
    obtain ⟨room, unbound⟩ := unbound (Option.isSome_of_eq_some installed)
    obtain ⟨installation, built, commits⟩ := install_eq_some installed
    cases commits.next
    exact ⟨coherent room, (linked.built commits.begun (unbound installation commits.begun) commits.acted).2.1⟩
  | opens =>
    refine ⟨coherent trivial, ?_⟩
    simp only [Namespace.step] at stepped
    split at stepped <;> cases stepped <;> exact linked.lineal
  | reopens =>
    cases stepped
    exact ⟨coherent trivial, linked.lineal⟩

theorem Linked.start : Linked setting Namespace.start where
  coherent := Coherent.start
  lineal := nofun

/-- Every installation that holds a Record, and no more Names than the bound, commits under a
later Epoch when its calls succeeded. -/
def Commitable (setting : Setting) (store : Store) : Prop :=
  ∀ (epoch : Epoch) (materializedAt : Time) (actions : List Action) (installation built : Installation),
    beginInstallation setting store epoch materializedAt = some installation →
    Along (Installation.act setting store) Unbound installation actions →
    installation.acts setting store actions = some built → built.records.size ≠ 0 →
    built.records.size ≤ maximumRecords → (∀ snapshot ∈ store.current, snapshot.epoch < epoch.number) →
    ∃ next, built.commit setting store true = some next

theorem Linked.commitable (linked : Linked setting world) : Commitable setting world.store := by
  intro epoch materializedAt actions installation built begun unbound acted present few newer
  obtain ⟨holds, lineal, within⟩ := linked.built begun unbound acted
  have continues := Installation.acts_continues acted
  cases beginInstallation_eq_some begun
  have later : world.store.current.all (fun snapshot => decide (snapshot.epoch < built.epoch.number)) = true := by
    rw [Option.all_eq_true, continues.epoch]
    intro snapshot current
    exact decide_eq_true (newer snapshot current)
  unfold Installation.commit
  rw [linked.coherent.pending]
  simp only [Store.loads, decide_eq_true linked.coherent.loads, continues.base, decide_eq_true continues.cursor,
    decide_eq_true within, lineal.materializes holds present few, later, decide_true, Bool.and_self, if_true]
  exact ⟨_, rfl⟩

end Committing

/-- **No corpus wedges a commit** in every history in which winners take no Name that a held
Record is bound to. -/
theorem corpus_commits (setting : Setting) (events : List NamespaceEvent)
    (unbound : Along (Namespace.step setting) (ClaimsUnbound setting) Namespace.start events) :
    Throughout (Namespace.step setting) (fun world => Commitable setting world.store) Namespace.start events := by
  have linked : Throughout (Namespace.step setting) (Linked setting) Namespace.start events :=
    Along.throughout (fun _ _ _ linked unbound stepped => linked.step unbound stepped) Linked.start unbound
  exact linked.imp fun _ linked => linked.commitable

instance (installation : Installation) (action : Action) : Decidable (Unbound installation action) := by
  cases action <;> unfold Unbound <;> infer_instance

instance (setting : Setting) (world : Namespace) : ∀ event, Decidable (ClaimsUnbound setting world event)
  | .submits _ => inferInstanceAs (Decidable (_ ∨ _))
  | .installs _ => inferInstanceAs (Decidable (_ → _))
  | .opens | .reopens => isTrue trivial

open Sample

theorem delegating_commits :
    (run (Namespace.step setting) Namespace.start delegating).any
        (fun world => world.store.snapshot.1.size == 2) = true ∧
      Throughout (Namespace.step setting) (fun world => Commitable setting world.store)
        Namespace.start delegating :=
  ⟨by decide +kernel, corpus_commits setting delegating (by decide +kernel)⟩

/-- What the founder submits to release the root. -/
def Sample.release : ControlOperation where
  kind := .release
  operationDigest := Digest.filled 9
  name := ascii "a"
  generation := 1
  expectedRevision := 1
  authorityProof := signature founder
  successorRecord := .document ⟨false, root.released, signature founder⟩

/-- A child is delegated below the root, and then the root is released. -/
def Sample.releasing : List NamespaceEvent :=
  [.installs founding, .opens, submission (delegation tenant) .none,
    submission release .none]

/-- The released root has a new winner. -/
def Sample.reclaiming : List Action :=
  [.through 2, .claim (winner 2 (ascii "a")) (signature founder)]

theorem reclaimed_root_wedges : ∃ world installation built,
    run (Namespace.step setting) Namespace.start releasing = some world ∧
      beginInstallation setting world.store (epoch 2) moment = some installation ∧
      installation.acts setting world.store reclaiming = some built ∧ built.records.size = 2 ∧
      (∀ snapshot ∈ world.store.current, snapshot.epoch < (epoch 2).number) ∧
      built.commit setting world.store true = none := by
  have ran : (run (Namespace.step setting) Namespace.start releasing).any (fun world =>
      (beginInstallation setting world.store (epoch 2) moment).any fun installation =>
        (installation.acts setting world.store reclaiming).any fun built =>
          decide (built.records.size = 2) &&
            decide (∀ snapshot ∈ world.store.current, snapshot.epoch < (epoch 2).number) &&
            (built.commit setting world.store true).isNone) = true := by decide +kernel
  obtain ⟨world, reached, ran⟩ := (Option.any_eq_true _ _).1 ran
  obtain ⟨installation, begun, ran⟩ := (Option.any_eq_true _ _).1 ran
  obtain ⟨built, acted, facts⟩ := (Option.any_eq_true _ _).1 ran
  simp only [Bool.and_eq_true, decide_eq_true_eq, Option.isNone_iff_eq_none] at facts
  exact ⟨world, installation, built, reached, begun, acted, facts.1.1, facts.1.2, facts.2⟩

end Ardents.Naming
