/-
# Naming.Installing — installations over a journal that was decided

An installation holds the signed Records of the snapshot it began from, of the entries it
took and of the winners it materialized.  `Builds` relates it to the journal: its Records
are those that the journal makes up to its cursor, but for the roots that winners claimed.

`Coherent` is the invariant of a Namespace: from the snapshot on the journal was decided one
entry after the other, and the control has the Records it ends in, but for the roots that
were claimed since the control was opened.  `coherent_throughout`: it holds along every
history in which no write into the journal fails after its rename and the store has room.
It is stated for any condition `P` on an entry that a shadow of the Records keeps.
-/
import Ardents.Naming.Replay

namespace Ardents.Naming

open Lib

set_option autoImplicit false

/-! ## Signed Records -/

variable {record updated : Record} {signed : SignedRecord} {name : Text}

section Signed

variable {setting : Setting} {records next : SignedRecords} {entry : Entry}

/-- Every signed Record is verified, under its own Name. -/
def Holds (setting : Setting) (records : SignedRecords) : Prop :=
  ∀ name signed, records.find name = some signed →
    ∃ record, verifyRecord setting.suite setting.network signed = some record ∧ record.name = name ∧ Kept record

theorem Holds.empty : Holds setting Table.empty := by
  intro name signed found
  cases found

theorem Holds.put (holds : Holds setting records)
    (verified : verifyRecord setting.suite setting.network signed = some record) (kept : Kept record) :
    Holds setting (records.put record.name signed) := by
  intro name found present
  rw [Table.find_put] at present
  split at present
  · next same =>
    cases present
    exact ⟨record, verified, same, kept⟩
  · exact holds name found present

theorem verifyRecord_decoded
    (verified : verifyRecord setting.suite setting.network signed = some record) : signed.decoded = record :=
  (verifyRecord_eq_some verified).decoded

theorem decodedRecords_put (records : SignedRecords) (name : Text) (signed : SignedRecord) :
    decodedRecords (records.put name signed) = (decodedRecords records).put name signed.decoded :=
  Table.map_put _ _ _ _

theorem Holds.find_decoded (holds : Holds setting records)
    (found : (decodedRecords records).find name = some record) :
    ∃ signed, records.find name = some signed ∧ verifyRecord setting.suite setting.network signed = some record := by
  rw [decodedRecords, Table.find_map, Option.map_eq_some_iff] at found
  obtain ⟨signed, present, rfl⟩ := found
  obtain ⟨record, verified, -, -⟩ := holds name signed present
  rw [verifyRecord_decoded verified]
  exact ⟨signed, present, verified⟩

theorem Holds.keeps (holds : Holds setting records) : Keeps (decodedRecords records) := by
  intro name record found
  obtain ⟨signed, present, verified⟩ := holds.find_decoded found
  obtain ⟨other, verified', own, kept⟩ := holds name signed present
  cases verified.symm.trans verified'
  exact ⟨own, kept⟩

theorem Holds.verifies (holds : Holds setting records) :
    records.entries.all (fun entry => verifies setting entry.2) = true := by
  rw [List.all_eq_true]
  rintro ⟨name, signed⟩ member
  obtain ⟨record, verified, -⟩ := holds name signed (Table.find_of_mem records member)
  simp [Naming.verifies, verified]

/-- What taking an entry into an installation does. -/
theorem includeEntry_eq_some (included : includeEntry setting records entry = some next) :
    ∃ current, verifyRecord setting.suite setting.network entry.successor = some current ∧
      next = records.put current.name entry.successor ∧
      (records.find current.name = none ∨ ∃ predecessor previous, records.find current.name = some predecessor ∧
        verifyRecord setting.suite setting.network predecessor = some previous ∧
        continuousSuccessor previous current = true) := by
  unfold includeEntry at included
  split at included
  · cases included
  next current verified =>
  refine ⟨current, verified, ?_⟩
  split at included
  · next absent =>
    split at included
    · cases included
      exact ⟨rfl, .inl absent⟩
    · cases included
  next predecessor present =>
  split at included
  · cases included
  next previous verified' =>
  split at included
  · next continuous =>
    cases included
    exact ⟨rfl, .inr ⟨predecessor, previous, present, verified', continuous⟩⟩
  · cases included

end Signed

/-! ## Entries in an installation -/

section Including

variable {setting : Setting} {P : Records → Entry → Time → Prop} {names : List Text} {records last : Records}
  {held next : SignedRecords} {entries : List Entry}

/-- Taking the entries that follow keeps what an installation has: the Records that the
journal makes, but for the winners. -/
theorem Follows.includes (follows : Follows setting P records entries last) : ∀ {held : SignedRecords},
    Keeps records → Holds setting held → Shadows names records (decodedRecords held) →
    includeEntries setting held entries = some next →
    Holds setting next ∧ Shadows names last (decodedRecords next) := by
  induction follows with
  | nil =>
    intro held keeps holds shadows included
    cases included
    exact ⟨holds, shadows⟩
  | @cons records last entry entries now updated decides _ rest ih =>
    intro held keeps holds shadows included
    rw [includeEntries, Option.bind_eq_some_iff] at included
    obtain ⟨middle, first, later⟩ := included
    obtain ⟨current, verified, rfl, -⟩ := includeEntry_eq_some first
    cases verified.symm.trans decides.verified
    have kept := decides.kept
    have outside := shadows.untouched keeps decides.positive decides.accepted
    refine ih (keeps.put kept) (holds.put verified kept) ?_ later
    rw [decodedRecords_put, verifyRecord_decoded verified]
    exact shadows.put outside updated

/-- A delegation is of a Name without a Record. -/
def Fresh (records : Records) (entry : Entry) (_ : Time) : Prop :=
  entry.submission.kind = .delegate → records.find entry.submission.name = none

variable {operation : ControlOperation} {now : Time}

theorem Advances.continuous {current : Record}
    {parents : List Record} {op : Op} (advances : Advances setting records operation now current parents op updated) :
    continuousSuccessor current updated = true := by
  obtain ⟨milliseconds, applies⟩ := advances.applies
  have succeeds := applies.succeeds advances.requests.control
  rw [continuousSuccessor, if_pos succeeds.generation, succeeds.revision]
  exact beq_self_eq_true _

/-- The first Record of a Name that a delegation makes. -/
theorem Delegates.first {parent : Record} {above : List Record}
    (delegates : Delegates setting records operation now parent above updated) :
    updated.generation = 1 ∧ updated.revision = 1 := by
  cases delegates.applies with
  | first kind authority generation => exact ⟨generation, rfl⟩

/-- The Record that an installation holds where the journal has one. -/
theorem Shadows.find_held {other : SignedRecords} (shadows : Shadows names records (decodedRecords other))
    (outside : name ∉ names) : (other.find name).map SignedRecord.decoded = records.find name := by
  rw [← shadows.elsewhere name outside, decodedRecords, Table.find_map]

theorem Decides.include {entry : Entry} (decides : Decides setting records entry now updated)
    (fresh : Fresh records entry now) (keeps : Keeps records) (holds : Holds setting held)
    (shadows : Shadows names records (decodedRecords held)) :
    includeEntry setting held entry = some (held.put updated.name entry.successor) := by
  have outside := shadows.untouched keeps decides.positive decides.accepted
  have same := shadows.find_held outside
  rw [includeEntry, decides.verified]
  dsimp only
  rcases transitionAt_eq_some decides.accepted with ⟨parent, above, delegates⟩ | ⟨current, parents, op, advances⟩
  · have absent := fresh delegates.kind
    rw [← delegates.hasParent.2, ← same, Option.map_eq_none_iff] at absent
    rw [absent]
    exact if_pos delegates.first
  obtain ⟨milliseconds, applies⟩ := advances.applies
  have own := (applies.succeeds advances.requests.control).name
  have found := advances.found
  rw [← (keeps _ _ found).1, ← own, ← same] at found
  obtain ⟨signed, present, decoded⟩ := Option.map_eq_some_iff.1 found
  obtain ⟨previous, verified, -⟩ := holds _ _ present
  cases (verifyRecord_decoded verified).symm.trans decoded
  rw [present]
  dsimp only
  rw [verified]
  exact if_pos advances.continuous

/-- Entries whose delegations are all of new Names are taken. -/
theorem Follows.includable (follows : Follows setting Fresh records entries last) : ∀ {held : SignedRecords},
    Keeps records → Holds setting held → Shadows names records (decodedRecords held) →
    ∃ next, includeEntries setting held entries = some next := by
  induction follows with
  | nil => exact fun _ _ _ => ⟨_, rfl⟩
  | @cons records last entry entries now updated decides fresh rest ih =>
    intro held keeps holds shadows
    have kept := decides.kept
    have outside := shadows.untouched keeps decides.positive decides.accepted
    have shadows' : Shadows names (records.put updated.name updated)
        (decodedRecords (held.put updated.name entry.successor)) := by
      rw [decodedRecords_put, verifyRecord_decoded decides.verified]
      exact shadows.put outside updated
    obtain ⟨next, included⟩ := ih (keeps.put kept) (holds.put decides.verified kept) shadows'
    refine ⟨next, ?_⟩
    rw [includeEntries, decides.include fresh keeps holds shadows]
    exact included

end Including

/-! ## The calls of an installation -/

section Building

variable {setting : Setting} {P : Records → Entry → Time → Prop} {names : List Text} {final : Records}
  {journal : List Entry} {store : Store} {installation built : Installation}

theorem Shadows.congr {other : List Text} {records shadow : Records} (shadows : Shadows names records shadow)
    (same : ∀ name, name ∈ other ↔ name ∈ names) : Shadows other records shadow where
  root := fun name among => shadows.root name ((same name).1 among)
  elsewhere := fun name outside => shadows.elsewhere name fun among => outside ((same name).2 among)
  released := fun name among => shadows.released name ((same name).1 among)

/-- A root was claimed. -/
theorem Shadows.claim {records other : Records} (shadows : Shadows names records other) (record : Record)
    (root : hasParent name = false)
    (released : ∀ current, other.find name = some current → current.lease = .released) :
    Shadows (name :: names) records (other.put name record) where
  root := by
    intro asked among
    rcases List.mem_cons.1 among with rfl | among
    · exact root
    · exact shadows.root asked among
  elsewhere := by
    intro asked outside
    rw [List.mem_cons, not_or] at outside
    rw [Table.find_put, if_neg (Ne.symm outside.1), shadows.elsewhere asked outside.2]
  released := by
    intro asked among current found
    by_cases before : asked ∈ names
    · exact shadows.released asked before current found
    rcases List.mem_cons.1 among with rfl | among
    · rw [← shadows.elsewhere asked before] at found
      exact released current found
    · exact absurd among before

/-- An installation is built over a journal that ends in the Records `final`, with winners for
`names`. -/
structure Builds (setting : Setting) (P : Records → Entry → Time → Prop) (journal : List Entry) (final : Records)
    (names : List Text) (installation : Installation) : Prop where
  within : installation.cursor ≤ journal.length
  holds : Holds setting installation.records
  follows : ∃ records, Keeps records ∧ Follows setting P records (journal.drop installation.cursor) final ∧
    Shadows names records (decodedRecords installation.records)

variable {entries : List Entry} {signature : List UInt8} {sequence : Nat} {winner : Winner}

theorem Store.pending_eq_some (found : store.pending setting = some entries) :
    entries = store.journal := by
  unfold Store.pending at found
  split at found
  · cases found
    rfl
  · cases found

theorem includePendingThrough_eq_some
    (included : includePendingThrough setting store installation sequence = some built) :
    installation.cursor ≤ sequence ∧ sequence ≤ store.journal.length ∧
      ∃ records, includeEntries setting installation.records
        ((store.journal.take sequence).drop installation.cursor) = some records ∧
        built = { installation with records := records, cursor := sequence } := by
  unfold includePendingThrough at included
  split at included
  · cases included
  next entries found =>
  cases Store.pending_eq_some found
  split at included
  · cases included
  next range =>
  obtain ⟨records, taken, rfl⟩ := Option.map_eq_some_iff.1 included
  rw [not_or, Nat.not_lt, Nat.not_lt] at range
  exact ⟨range.1, range.2, records, taken, rfl⟩

/-- The entries after `first` are those up to `second` and those after it. -/
theorem drop_eq_append {first second : Nat} (order : first ≤ second) :
    entries.drop first = (entries.take second).drop first ++ entries.drop second := by
  rw [List.drop_take]
  conv_lhs => rw [← List.take_append_drop (second - first) (entries.drop first)]
  rw [List.drop_drop, Nat.add_sub_cancel' order]

theorem Builds.through (builds : Builds setting P store.journal final names installation)
    (included : includePendingThrough setting store installation sequence = some built) :
    Builds setting P store.journal final names built := by
  obtain ⟨after, within, records, taken, rfl⟩ := includePendingThrough_eq_some included
  obtain ⟨before, keeps, follows, shadows⟩ := builds.follows
  rw [drop_eq_append after] at follows
  obtain ⟨middle, first, rest⟩ := follows.divide
  obtain ⟨holds, shadowed⟩ := first.includes keeps builds.holds shadows taken
  exact ⟨within, holds, middle, first.keeps keeps, rest, shadowed⟩

/-- What a winner makes. -/
structure Materializes (setting : Setting) (installation : Installation) (winner : Winner)
    (record : Record) : Prop where
  name : record.name = winner.name
  root : hasParent winner.name = false
  parentName : record.parentName = []
  lease : record.lease = .active
  released : ∀ signed, installation.records.find winner.name = some signed → ∃ current,
    verifyRecord setting.suite setting.network signed = some current ∧ current.lease = .released ∧
      record.generation = current.generation + 1

theorem Winner.materialize_eq_some
    (made : winner.materialize setting installation = some record) :
    Materializes setting installation winner record := by
  unfold Winner.materialize at made
  split at made
  · next absent =>
    have applies := (apply_applies (toOption_eq_some.1 made)).2
    cases applies with
    | @first parent kind authority generation lineage fit =>
      cases parent with
      | none =>
        refine ⟨rfl, (validateParents_eq_none lineage).2, rfl, rfl, ?_⟩
        intro signed present
        rw [absent] at present
        cases present
      | some parent =>
        obtain ⟨rest, same⟩ := (validateParents_eq_some lineage).1
        cases same
  · next signed present =>
    split at made
    · cases made
    next current verified =>
    have applies := (apply_applies (toOption_eq_some.1 made)).2
    cases applies with
    | @reclaim _ parent kind authority stands released nonzero generation lineage fit =>
      cases parent with
      | none =>
        refine ⟨rfl, (validateParents_eq_none lineage).2, rfl, rfl, ?_⟩
        intro other found
        cases present.symm.trans found
        exact ⟨current, verified, released, generation⟩
      | some parent =>
        obtain ⟨rest, same⟩ := (validateParents_eq_some lineage).1
        cases same
    | rotate other => rcases other with other | other <;> cases other
    | renew other | release other | advance other | conflict other | publish other | schedule other
    | activate other | start other | cancel other | complete other | resume other => cases other

theorem materializeClaim_eq_some
    (made : materializeClaim setting installation winner signature = some built) :
    ∃ record, winner.materialize setting installation = some record ∧
      verifyRecord setting.suite setting.network ⟨false, record, signature⟩ = some record ∧
      built = { installation with records := installation.records.put record.name ⟨false, record, signature⟩ } := by
  unfold materializeClaim at made
  split at made
  · cases made
  split at made
  · cases made
  next record accepted =>
  dsimp only at made
  split at made
  · next verifies =>
    cases made
    obtain ⟨decoded, verified⟩ := Option.isSome_iff_exists.1 verifies
    have same : record = decoded := verifyRecord_decoded verified
    rw [← same] at verified
    exact ⟨record, accepted, verified, rfl⟩
  · cases made

theorem Builds.claim (builds : Builds setting P journal final names installation)
    (made : materializeClaim setting installation winner signature = some built) :
    Builds setting P journal final (winner.name :: names) built := by
  obtain ⟨record, accepted, verified, rfl⟩ := materializeClaim_eq_some made
  have materializes := Winner.materialize_eq_some accepted
  obtain ⟨before, keeps, follows, shadows⟩ := builds.follows
  have kept : Kept record := by
    refine ⟨(verifyRecord_eq_some verified).valid, ?_⟩
    intro released
    rw [materializes.lease] at released
    cases released
  refine ⟨builds.within, builds.holds.put verified kept, before, keeps, follows, ?_⟩
  rw [decodedRecords_put, verifyRecord_decoded verified, materializes.name]
  apply shadows.claim record materializes.root
  intro current found
  obtain ⟨signed, present, verified'⟩ := builds.holds.find_decoded found
  obtain ⟨other, verified'', released, -⟩ := materializes.released signed present
  cases verified'.symm.trans verified''
  exact released

/-- The calls of an installation keep it built over the journal. -/
theorem Builds.acts : ∀ {actions : List Action} {names : List Text} {installation : Installation},
    Builds setting P store.journal final names installation →
    installation.acts setting store actions = some built →
    Builds setting P store.journal final (claimedNames actions ++ names) built
  | [], names, installation, builds, acted => by
    cases acted
    exact builds
  | .through sequence :: rest, names, installation, builds, acted => by
    obtain ⟨next, first, later⟩ := Option.bind_eq_some_iff.1 acted
    have last : Builds setting P store.journal final (claimedNames rest ++ names) built :=
      (builds.through first).acts later
    exact last
  | .claim winner signature :: rest, names, installation, builds, acted => by
    obtain ⟨next, first, later⟩ := Option.bind_eq_some_iff.1 acted
    have last := (builds.claim first).acts later
    obtain ⟨records, keeps, follows, shadows⟩ := last.follows
    refine ⟨last.within, last.holds, records, keeps, follows, shadows.congr fun name => ?_⟩
    simp only [claimedNames, List.filterMap_cons, List.cons_append, List.mem_cons, List.mem_append]
    tauto

end Building

/-! ## Submissions and installations of a Namespace -/

section Namespaces

variable {setting : Setting} {P : Records → Entry → Time → Prop} {records : Records} {store next : Store}
  {world after : Namespace}

/-- The entry of a call. -/
def Call.entry (call : Call) (signed : SignedRecord) : Entry := ⟨call.now.unixMilli, call.operation, signed⟩

/-- What entering the journal takes. -/
structure Enters (setting : Setting) (records : Records) (store : Store) (call : Call) (updated : Record)
    (signed : SignedRecord) : Prop where
  pending : store.pending setting = some store.journal
  room : store.journal.length < maximumPendingEntries
  name : updated.name = call.operation.name
  decides : Decides setting records (call.entry signed) call.now updated

/-- What a submission can do. -/
inductive Submits (setting : Setting) (records : Records) (store : Store) (call : Call) :
    Store × Option Records → Prop where
  | denied : Submits setting records store call (store, none)
  | submitted {updated : Record} {signed : SignedRecord} (enters : Enters setting records store call updated signed) :
      Submits setting records store call
        ({ store with journal := store.journal ++ [call.entry signed] }, some (records.put updated.name updated))
  | stranded {updated : Record} {signed : SignedRecord} (enters : Enters setting records store call updated signed)
      (fault : call.fault = .stranded) :
      Submits setting records store call ({ store with stranded := store.stranded + 1 }, none)
  | late {updated : Record} {signed : SignedRecord} (enters : Enters setting records store call updated signed)
      (fault : call.fault = .late) :
      Submits setting records store call ({ store with journal := store.journal ++ [call.entry signed] }, none)

variable (setting records store) in
theorem submit_submits (call : Call) : Submits setting records store call (submit setting records store call) := by
  unfold submit
  split
  · exact .denied
  next open_ =>
  simp only [Bool.or_eq_true, Bool.not_eq_true', not_or, Bool.not_eq_false] at open_
  split
  · exact .denied
  next updated signed decided =>
  obtain ⟨carried, accepted, verified⟩ := decision_eq_some.1 decided
  unfold Store.appendPending
  rw [verified]
  cases found : store.pending setting with
  | none => exact .denied
  | some entries =>
    cases Store.pending_eq_some found
    dsimp only
    by_cases refused : call.operation.name = [] ∨ call.now.unixMilli ≤ 0 ∨
        updated.name ≠ call.operation.name ∨ maximumPendingEntries ≤ store.journal.length
    · rw [if_pos refused]
      exact .denied
    rw [if_neg refused]
    rw [not_or, not_or, not_or, Int64.not_le, Nat.not_le, not_not] at refused
    obtain ⟨-, positive, name, room⟩ := refused
    have enters : Enters setting records store call updated signed :=
      ⟨found, room, name, rfl, positive, open_.1.1, carried, accepted, verified⟩
    cases fault : call.fault with
    | none => exact .submitted enters
    | early => exact .denied
    | stranded => exact .stranded enters fault
    | late => exact .late enters fault

/-- What an installation that is committed did. -/
structure Commits (setting : Setting) (store : Store) (install : Install) (installation built : Installation)
    (next : Store) : Prop where
  begun : beginInstallation setting store install.epoch install.materializedAt = some installation
  acted : installation.acts setting store install.actions = some built
  newer : store.current.all (fun snapshot => decide (snapshot.epoch < built.epoch.number)) = true
  next : next = { store with
    generations := store.generations + 1
    current := some ⟨built.epoch.number, built.records, built.cursor⟩ }

variable {epoch : Epoch} {install : Install} {materializedAt : Time}

theorem install_eq_some (installed : store.install setting install = some next) :
    ∃ installation built, Commits setting store install installation built next := by
  obtain ⟨installation, begun, rest⟩ := Option.bind_eq_some_iff.1 installed
  obtain ⟨built, acted, committed⟩ := Option.bind_eq_some_iff.1 rest
  refine ⟨installation, built, begun, acted, ?_, ?_⟩
  all_goals
    unfold Installation.commit at committed
    split at committed
    · cases committed
    split at committed
    · next checks =>
      cases committed
      first
      | rfl
      | exact (Bool.and_eq_true _ _ ▸ checks).2
    · cases committed

variable {installation : Installation}

theorem beginInstallation_eq_some
    (begun : beginInstallation setting store epoch materializedAt = some installation) :
    installation = ⟨epoch, materializedAt, store.current.map Snapshot.epoch, store.snapshot.1, store.snapshot.2⟩ := by
  unfold beginInstallation at begun
  split at begun
  · cases begun
  · cases begun
    rfl

/-- A Namespace whose journal was decided one entry after the other from its snapshot on, by
the control it has. -/
structure Coherent (setting : Setting) (P : Records → Entry → Time → Prop) (world : Namespace) : Prop where
  unstranded : world.store.stranded = 0
  bounded : world.store.journal.length ≤ maximumPendingEntries
  verified : ∀ entry ∈ world.store.journal, verifies setting entry.successor = true
  loads : world.store.generations ≤ maximumNamespaceGenerations
  holds : Holds setting world.store.snapshot.1
  within : world.store.snapshot.2 ≤ world.store.journal.length
  follows : ∃ final, Follows setting P (decodedRecords world.store.snapshot.1)
      (world.store.journal.drop world.store.snapshot.2) final ∧
    ∀ records, world.control = some records → Keeps records ∧ Shadows world.claimed records final

theorem Coherent.start : Coherent setting P Namespace.start where
  unstranded := rfl
  bounded := Nat.zero_le _
  verified := fun _ among => absurd among List.not_mem_nil
  loads := Nat.zero_le _
  holds := Holds.empty
  within := Nat.le_refl _
  follows := ⟨_, .nil, nofun⟩

/-- A condition on an entry that a shadow of the Records keeps. -/
def Persistent (setting : Setting) (P : Records → Entry → Time → Prop) : Prop :=
  ∀ {names : List Text} {records other : Records} {entry : Entry} {now : Time} {updated : Record},
    Keeps records → Shadows names records other → Decides setting records entry now updated →
    P records entry now → P other entry now

/-- No write into the journal fails after its rename or leaves its staging behind, the entry
meets `P`, and the store has room for another generation. -/
def Calm (P : Records → Entry → Time → Prop) (world : Namespace) : NamespaceEvent → Prop
  | .submits call => (call.fault = .none ∨ call.fault = .early) ∧
      ∀ records signed, world.control = some records → P records (call.entry signed) call.now
  | .installs _ => world.store.generations < maximumNamespaceGenerations
  | .opens | .reopens => True

section Coherent

variable (coherent : Coherent setting P world)

include coherent

theorem Coherent.pending : world.store.pending setting = some world.store.journal := by
  unfold Store.pending
  rw [if_pos]
  exact ⟨coherent.unstranded, coherent.bounded, List.all_eq_true.2 coherent.verified⟩

theorem Coherent.currentRecords :
    world.store.currentRecords setting = some (decodedRecords world.store.snapshot.1, world.store.snapshot.2) := by
  unfold Store.currentRecords
  rw [coherent.holds.verifies, Store.loads, decide_eq_true coherent.loads]
  rfl

theorem Coherent.openControl :
    openControl setting world.store = replay setting (decodedRecords world.store.snapshot.1)
      (world.store.journal.drop world.store.snapshot.2) := by
  unfold Naming.openControl
  rw [coherent.currentRecords, coherent.pending]

/-- The installation that begins is built over the journal. -/
theorem Coherent.builds
    (begun : beginInstallation setting world.store epoch materializedAt = some installation)
    {final : Records}
    (follows : Follows setting P (decodedRecords world.store.snapshot.1)
      (world.store.journal.drop world.store.snapshot.2) final) :
    Builds setting P world.store.journal final [] installation := by
  cases beginInstallation_eq_some begun
  exact ⟨coherent.within, coherent.holds, _, coherent.holds.keeps, follows, Shadows.refl _⟩

theorem Coherent.submitted (persistent : Persistent setting P)
    (control : world.control = some records) {call : Call}
    (enters : Enters setting records world.store call updated signed)
    (holds : P records (call.entry signed) call.now) :
    Coherent setting P (world.submitted records call
      { world.store with journal := world.store.journal ++ [call.entry signed] }
      (some (records.put updated.name updated))) := by
  obtain ⟨final, follows, controls⟩ := coherent.follows
  obtain ⟨keeps, shadows⟩ := controls records control
  have decides := enters.decides
  have outside := shadows.untouched keeps decides.positive decides.accepted
  refine ⟨coherent.unstranded, ?_, ?_, coherent.loads, coherent.holds, ?_, ?_⟩
  · have room := enters.room
    simp only [Namespace.submitted, List.length_append, List.length_singleton]
    omega
  · intro entry among
    rcases List.mem_append.1 among with among | among
    · exact coherent.verified entry among
    · cases List.mem_singleton.1 among
      rw [verifies, decides.verified]
      rfl
  · have within := coherent.within
    simp only [Namespace.submitted, List.length_append, Store.snapshot] at within ⊢
    omega
  · refine ⟨final.put updated.name updated, ?_, ?_⟩
    · have extended := follows.append (.cons (decides.shadows keeps shadows)
        (persistent keeps shadows decides holds) .nil)
      have same : (world.store.journal ++ [call.entry signed]).drop world.store.snapshot.2 =
          world.store.journal.drop world.store.snapshot.2 ++ [call.entry signed] :=
        List.drop_append_of_le_length coherent.within
      rw [← same] at extended
      exact extended
    · intro held same
      cases same
      exact ⟨keeps.put decides.kept, shadows.put outside updated⟩

theorem Coherent.unchanged (control : world.control = some records) (call : Call) :
    Coherent setting P (world.submitted records call world.store none) := by
  refine ⟨coherent.unstranded, coherent.bounded, coherent.verified, coherent.loads, coherent.holds, coherent.within, ?_⟩
  obtain ⟨final, follows, controls⟩ := coherent.follows
  refine ⟨final, follows, ?_⟩
  intro held same
  cases same
  exact controls records control

theorem Coherent.installed (persistent : Persistent setting P)
    {built : Installation} (commits : Commits setting world.store install installation built next)
    (room : world.store.generations < maximumNamespaceGenerations) :
    Coherent setting P { world with store := next, claimed := claimedNames install.actions ++ world.claimed } := by
  obtain ⟨final, follows, controls⟩ := coherent.follows
  have builds := (coherent.builds commits.begun follows).acts commits.acted
  obtain ⟨before, keeps, rest, shadows⟩ := builds.follows
  obtain ⟨last, follows', shadowed⟩ := rest.shadows persistent keeps shadows
  rw [List.append_nil] at shadowed
  cases commits.next
  refine ⟨coherent.unstranded, coherent.bounded, coherent.verified, room, builds.holds,
    builds.within, last, follows', ?_⟩
  intro records control
  obtain ⟨kept, shadow⟩ := controls records control
  exact ⟨kept, shadow.trans shadowed⟩

theorem Coherent.opened (found : Naming.openControl setting world.store = some records) :
    Coherent setting P { world with control := some records, claimed := [] } := by
  refine ⟨coherent.unstranded, coherent.bounded, coherent.verified, coherent.loads, coherent.holds, coherent.within, ?_⟩
  obtain ⟨final, follows, -⟩ := coherent.follows
  rw [coherent.openControl] at found
  cases follows.eq_of_replay found
  refine ⟨records, follows, ?_⟩
  intro held same
  cases same
  exact ⟨follows.keeps coherent.holds.keeps, Shadows.refl _⟩

theorem Coherent.reopened : Coherent setting P
      { world with store := { world.store with stranded := 0 }, control := none, claimed := [] } := by
  obtain ⟨final, follows, -⟩ := coherent.follows
  exact ⟨rfl, coherent.bounded, coherent.verified, coherent.loads, coherent.holds, coherent.within,
    final, follows, nofun⟩

/-- **A step keeps the journal decided.** -/
theorem Coherent.step (persistent : Persistent setting P) {event : NamespaceEvent}
    (calm : Calm P world event) (stepped : world.step setting event = some after) :
    Coherent setting P after := by
  cases event with
  | submits call =>
    obtain ⟨fault, holds⟩ := calm
    simp only [Namespace.step] at stepped
    split at stepped
    · cases stepped
    next records control =>
    cases stepped
    generalize answer : submit setting records world.store call = outcome
    have submits := submit_submits setting records world.store call
    rw [answer] at submits
    cases submits with
    | denied => exact coherent.unchanged control call
    | submitted enters => exact coherent.submitted persistent control enters (holds records _ control)
    | stranded enters stranded => rcases fault with fault | fault <;> cases fault.symm.trans stranded
    | late enters late => rcases fault with fault | fault <;> cases fault.symm.trans late
  | installs install =>
    simp only [Namespace.step] at stepped
    split at stepped
    · cases stepped
      exact coherent
    next store installed =>
    cases stepped
    obtain ⟨installation, built, commits⟩ := install_eq_some installed
    exact coherent.installed persistent commits calm
  | opens =>
    simp only [Namespace.step] at stepped
    split at stepped
    · cases stepped
      exact coherent
    next records found =>
    cases stepped
    exact coherent.opened found
  | reopens =>
    cases stepped
    exact coherent.reopened

end Coherent

/-- The journal stays decided along every history that is calm. -/
theorem coherent_throughout (persistent : Persistent setting P) {events : List NamespaceEvent}
    (calm : Along (Namespace.step setting) (Calm P) Namespace.start events) :
    Throughout (Namespace.step setting) (Coherent setting P) Namespace.start events :=
  Along.throughout (fun _ _ _ coherent calm stepped => coherent.step persistent calm stepped) Coherent.start calm

end Namespaces

end Ardents.Naming
