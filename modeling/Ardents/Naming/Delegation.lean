/-
# Naming.Delegation — who delegated a child

A delegation names the parent that signs it, and any Name above the child will do.

* `children_of_immediate_parents` — in every history whose delegations name the Name right
  above the child, each delegation that was decided was signed by the Authority which that Name
  had then, and each Record of a child in the control is bound to that Name and has its
  delegation among the decided.  Writes into the journal may fail in any way.
* `grandchild_is_taken` — the owner of a root delegates a Name below a live Name of a tenant.
-/
import Ardents.Naming.Continuity

namespace Ardents.Naming

open Lib

set_option autoImplicit false

/-! ## Records with their delegation -/

section Delegated

variable {setting : Setting} {decided : List Decided} {record : Record}

/-- A delegation was signed by the Authority that the Name right above the child had then. -/
def SignedByParent (setting : Setting) (delegation : Decided) : Prop :=
  ∃ parent above, delegation.before.find (immediateParent delegation.operation.name) = some parent ∧
    parent.name = immediateParent delegation.operation.name ∧
    signedTransition setting parent (delegation.operation.childClaim (parent :: above) delegation.now)
      delegation.operation.authorityProof = true

/-- Every delegation that was decided was signed by the parent. -/
def SignedByParents (setting : Setting) (decided : List Decided) : Prop :=
  ∀ delegation ∈ decided, delegation.operation.kind = .delegate → SignedByParent setting delegation

def HasDelegation (decided : List Decided) (name : Text) : Prop :=
  ∃ delegation ∈ decided, delegation.operation.kind = .delegate ∧ delegation.operation.name = name

/-- A Record is valid, and the delegation of a child is among the decided. -/
structure Delegated (decided : List Decided) (record : Record) : Prop where
  valid : validRecord record = true
  child : record.parentName ≠ [] →
    record.parentName = immediateParent record.name ∧ HasDelegation decided record.name

theorem Delegated.mono {later : List Decided} (delegated : Delegated decided record)
    (grows : decided ⊆ later) : Delegated later record := by
  refine ⟨delegated.valid, ?_⟩
  intro bound
  obtain ⟨parentName, delegation, among, rest⟩ := delegated.child bound
  exact ⟨parentName, delegation, grows among, rest⟩

theorem Each.mono {Q R : Record → Prop} {records : Records} (each : Each Q records)
    (weaken : ∀ record, Q record → R record) : Each R records := by
  intro name record found
  obtain ⟨own, holds⟩ := each name record found
  exact ⟨own, weaken record holds⟩

variable {records : Records} {entry : Entry} {now : Time} {updated : Record}

/-- What a control decides on Records with their delegations has its own. -/
theorem Delegated.decides (each : Each (Delegated decided) records)
    (decides : Decides setting records entry now updated)
    (names : entry.submission.kind = .delegate → entry.submission.parentName = immediateParent entry.submission.name) :
    Delegated (⟨entry.submission, now, records⟩ :: decided) updated := by
  refine ⟨(verifyRecord_eq_some decides.verified).valid, ?_⟩
  intro bound
  rcases transitionAt_eq_some decides.accepted with ⟨parent, above, delegates⟩ | ⟨current, parents, op, advances⟩
  · have own := (each _ _ delegates.found).1
    rw [delegates.hasParent.2]
    exact ⟨delegates.bound.1.trans (own.trans (names delegates.kind)), _, List.mem_cons_self, delegates.kind, rfl⟩
  · obtain ⟨milliseconds, applies⟩ := advances.applies
    have succeeds := applies.succeeds advances.requests.control
    rw [succeeds.parentName] at bound
    have before := (each _ _ advances.found).2.mono (List.subset_cons_self ⟨entry.submission, now, records⟩ decided)
    rw [succeeds.parentName, succeeds.name]
    exact before.child bound

/-- A delegation that a control decides is signed by the Authority of the Name it names. -/
theorem SignedByParents.decides (signed : SignedByParents setting decided) (each : Each (Delegated decided) records)
    (decides : Decides setting records entry now updated)
    (names : entry.submission.kind = .delegate → entry.submission.parentName = immediateParent entry.submission.name) :
    SignedByParents setting (⟨entry.submission, now, records⟩ :: decided) := by
  intro delegation among kind
  rcases List.mem_cons.1 among with rfl | among
  · rcases transitionAt_eq_some decides.accepted with ⟨parent, above, delegates⟩ | ⟨current, parents, op, advances⟩
    · have own := (each _ _ delegates.found).1
      have right := names delegates.kind
      refine ⟨parent, above, ?_, own.trans right, delegates.signed⟩
      rw [← right]
      exact delegates.found
    · exact absurd kind advances.kind
  · exact signed delegation among kind

end Delegated

/-! ## Records taken from the journal -/

section Taking

variable {setting : Setting} {Q : Record → Prop} {store : Store} {installation built : Installation}

/-- The Records that a replay ends in are those it began with and those of the journal. -/
theorem replay_each : ∀ {entries : List Entry} {records last : Records}, Each Q records →
    (∀ entry ∈ entries, Q entry.successor.decoded) → replay setting records entries = some last → Each Q last
  | [], records, last, each, journal, replays => by
    cases replays
    exact each
  | entry :: entries, records, last, each, journal, replays => by
    rw [replay] at replays
    split at replays
    · cases replays
    next updated accepted =>
    have decoded := verifyRecord_decoded (replayed_eq_some.1 accepted).2.2.2
    have first := journal entry List.mem_cons_self
    rw [decoded] at first
    exact replay_each (each.put first) (fun later among => journal later (List.mem_cons_of_mem _ among)) replays

theorem includeEntries_each : ∀ {entries : List Entry} {records next : SignedRecords}, Each Q (decodedRecords records) →
    (∀ entry ∈ entries, Q entry.successor.decoded) → includeEntries setting records entries = some next →
    Each Q (decodedRecords next)
  | [], records, next, each, journal, included => by
    cases included
    exact each
  | entry :: entries, records, next, each, journal, included => by
    obtain ⟨middle, first, later⟩ := Option.bind_eq_some_iff.1 included
    obtain ⟨current, verified, rfl, -⟩ := includeEntry_eq_some first
    have taken := journal entry List.mem_cons_self
    have each' : Each Q (decodedRecords (records.put current.name entry.successor)) := by
      rw [decodedRecords_put, verifyRecord_decoded verified]
      rw [verifyRecord_decoded verified] at taken
      exact each.put taken
    exact includeEntries_each each' (fun later among => journal later (List.mem_cons_of_mem _ among)) later

/-- The Records of an installation are those it began with, those of the journal and those of
its winners, which have no parent. -/
theorem act_each {action : Action} (each : Each Q (decodedRecords installation.records))
    (journal : ∀ entry ∈ store.journal, Q entry.successor.decoded)
    (roots : ∀ record, validRecord record = true → record.parentName = [] → Q record)
    (acted : installation.act setting store action = some built) : Each Q (decodedRecords built.records) := by
  cases action with
  | through sequence =>
    obtain ⟨-, -, records, included, rfl⟩ := includePendingThrough_eq_some acted
    refine includeEntries_each each ?_ included
    intro entry among
    exact journal entry (List.mem_of_mem_take (List.mem_of_mem_drop among))
  | claim winner signature =>
    obtain ⟨record, accepted, verified, rfl⟩ := materializeClaim_eq_some acted
    rw [decodedRecords_put, verifyRecord_decoded verified]
    exact each.put (roots record (verifyRecord_eq_some verified).valid (Winner.materialize_eq_some accepted).parentName)

theorem acts_each : ∀ {actions : List Action} {installation : Installation},
    Each Q (decodedRecords installation.records) → (∀ entry ∈ store.journal, Q entry.successor.decoded) →
    (∀ record, validRecord record = true → record.parentName = [] → Q record) →
    installation.acts setting store actions = some built → Each Q (decodedRecords built.records)
  | [], installation, each, journal, roots, acted => by
    cases acted
    exact each
  | action :: rest, installation, each, journal, roots, acted => by
    obtain ⟨next, first, later⟩ := Option.bind_eq_some_iff.1 acted
    exact acts_each (act_each each journal roots first) journal roots later

/-- The Records of a control that is opened are those of the snapshot and of the journal. -/
theorem openControl_each {records : Records} (snapshot : Each Q (decodedRecords store.snapshot.1))
    (journal : ∀ entry ∈ store.journal, Q entry.successor.decoded)
    (opened : openControl setting store = some records) : Each Q records := by
  unfold openControl at opened
  split at opened
  · next base cursor entries current pending =>
    cases Store.pending_eq_some pending
    unfold Store.currentRecords at current
    split at current
    · cases current
      refine replay_each snapshot ?_ opened
      intro entry among
      exact journal entry (List.mem_of_mem_drop among)
    · cases current
  · cases opened

end Taking

/-! ## Delegations along a history -/

section Descending

variable {setting : Setting} {world after : Namespace}

/-- A delegation names the Name right above its child. -/
def NamesParent (_ : Namespace) : NamespaceEvent → Prop
  | .submits call =>
    call.operation.kind = .delegate → call.operation.parentName = immediateParent call.operation.name
  | _ => True

/-- Every Record of the Namespace has its delegation, and every delegation its signature. -/
structure Descended (setting : Setting) (world : Namespace) : Prop where
  signed : SignedByParents setting world.decided
  snapshot : Each (Delegated world.decided) (decodedRecords world.store.snapshot.1)
  journal : ∀ entry ∈ world.store.journal, Delegated world.decided entry.successor.decoded
  control : ∀ records, world.control = some records → Each (Delegated world.decided) records

theorem Descended.start : Descended setting Namespace.start where
  signed := fun _ among => absurd among List.not_mem_nil
  snapshot := nofun
  journal := fun _ among => absurd among List.not_mem_nil
  control := nofun

/-- An entry is decided and enters the journal; the control has advanced or not. -/
theorem Descended.enters (descended : Descended setting world) {records : Records}
    (control : world.control = some records) {call : Call} {updated : Record} {signed : SignedRecord}
    (enters : Enters setting records world.store call updated signed) (names : NamesParent world (.submits call))
    (next : Option Records) (advanced : next = none ∨ next = some (records.put updated.name updated)) :
    Descended setting (world.submitted records call
      { world.store with journal := world.store.journal ++ [call.entry signed] } next) := by
  have each := descended.control records control
  have made : Delegated (⟨call.operation, call.now, records⟩ :: world.decided) updated :=
    Delegated.decides each enters.decides names
  have grown : (world.submitted records call
      { world.store with journal := world.store.journal ++ [call.entry signed] } next).decided =
      ⟨call.operation, call.now, records⟩ :: world.decided := by
    simp [Namespace.submitted]
  have later : ∀ record, Delegated world.decided record →
      Delegated (⟨call.operation, call.now, records⟩ :: world.decided) record :=
    fun record delegated => delegated.mono (List.subset_cons_self _ _)
  refine ⟨?_, ?_, ?_, ?_⟩
  · rw [grown]
    exact descended.signed.decides each enters.decides names
  · rw [grown]
    exact descended.snapshot.mono later
  · rw [grown]
    intro entry among
    rcases List.mem_append.1 among with among | among
    · exact later _ (descended.journal entry among)
    · cases List.mem_singleton.1 among
      rw [verifyRecord_decoded enters.decides.verified]
      exact made
  · rw [grown]
    intro held same
    rcases advanced with rfl | rfl
    · cases same
      exact each.mono later
    · cases same
      exact (each.mono later).put made

theorem Descended.step {event : NamespaceEvent} (descended : Descended setting world) (names : NamesParent world event)
    (stepped : world.step setting event = some after) : Descended setting after := by
  cases event with
  | submits call =>
    simp only [Namespace.step] at stepped
    split at stepped
    · cases stepped
    next records control =>
    cases stepped
    have unchanged : ∀ stranded, Descended setting
        (world.submitted records call { world.store with stranded := stranded } none) := by
      intro stranded
      refine ⟨?_, ?_, ?_, ?_⟩ <;> simp only [Namespace.submitted, if_true]
      · exact descended.signed
      · exact descended.snapshot
      · exact descended.journal
      · intro held same
        cases same
        exact descended.control records control
    have submits := submit_submits setting records world.store call
    generalize submit setting records world.store call = outcome at submits
    cases submits with
    | denied => exact unchanged world.store.stranded
    | submitted enters => exact descended.enters control enters names _ (.inr rfl)
    | stranded enters fault => exact unchanged _
    | late enters fault => exact descended.enters control enters names none (.inl rfl)
  | installs install =>
    simp only [Namespace.step] at stepped
    split at stepped
    · cases stepped
      exact descended
    next store installed =>
    cases stepped
    obtain ⟨installation, built, commits⟩ := install_eq_some installed
    have begun : Each (Delegated world.decided) (decodedRecords installation.records) := by
      cases beginInstallation_eq_some commits.begun
      exact descended.snapshot
    have taken := acts_each begun descended.journal
      (fun record valid root => ⟨valid, fun bound => absurd root bound⟩) commits.acted
    cases commits.next
    exact ⟨descended.signed, taken, descended.journal, descended.control⟩
  | opens =>
    simp only [Namespace.step] at stepped
    split at stepped
    · cases stepped
      exact descended
    next records found =>
    cases stepped
    refine ⟨descended.signed, descended.snapshot, descended.journal, ?_⟩
    intro held same
    cases same
    exact openControl_each descended.snapshot descended.journal found
  | reopens =>
    cases stepped
    exact ⟨descended.signed, descended.snapshot, descended.journal, by rintro _ ⟨⟩⟩

end Descending

/-- **Children are delegated by the Name right above them** in every history whose delegations
name it: it signed every delegation, whichever made a Record of the control. -/
theorem children_of_immediate_parents (setting : Setting) (events : List NamespaceEvent)
    (names : Along (Namespace.step setting) NamesParent Namespace.start events) :
    Throughout (Namespace.step setting) (fun world => SignedByParents setting world.decided ∧
      ∀ records, world.control = some records →
        ∀ name record, records.find name = some record → hasParent name = true →
          record.parentName = immediateParent name ∧ HasDelegation world.decided name)
      Namespace.start events := by
  have descended : Throughout (Namespace.step setting) (Descended setting) Namespace.start events :=
    Along.throughout (fun _ _ _ descended names stepped => descended.step names stepped) Descended.start names
  refine descended.imp ?_
  intro world descended
  refine ⟨descended.signed, ?_⟩
  intro records control name record found child
  obtain ⟨rfl, delegated⟩ := descended.control records control name record found
  have required := (validRecord_iff.1 delegated.valid).required
  rw [hasRequiredParent, child, Bool.not_true, Bool.false_or, Bool.not_eq_true', List.isEmpty_eq_false_iff] at required
  exact delegated.child required

instance (world : Namespace) : ∀ event, Decidable (NamesParent world event)
  | .submits _ => inferInstanceAs (Decidable (_ → _))
  | .installs _ | .opens | .reopens => isTrue trivial

open Sample

theorem delegating_children :
    (run (Namespace.step setting) Namespace.start delegating).any
        (fun world => world.control.any fun records => (records.find (ascii "b.a")).isSome) = true ∧
      Throughout (Namespace.step setting) (fun world => SignedByParents setting world.decided ∧
        ∀ records, world.control = some records →
          ∀ name record, records.find name = some record → hasParent name = true →
            record.parentName = immediateParent name ∧ HasDelegation world.decided name)
        Namespace.start delegating :=
  ⟨by decide +kernel, children_of_immediate_parents setting delegating (by decide +kernel)⟩

def Sample.grandchild : Record :=
  record (ascii "c.b.a") stranger (some root) (2000, 606800)

/-- The founder delegates a Name below that of the tenant. -/
def Sample.grandDelegation : ControlOperation :=
  { delegation stranger with
    name := ascii "c.b.a"
    successorRecord := .document ⟨false, grandchild, signature stranger⟩ }

theorem grandchild_is_taken :
    ∃ world records, run (Namespace.step setting) Namespace.start
        [.installs founding, .opens, submission (delegation tenant) .none,
          submission grandDelegation .none] = some world ∧ world.control = some records ∧
      records.find (ascii "b.a") = some (child tenant) ∧
      isLive (child tenant) moment.unixSeconds = true ∧
      records.find (ascii "c.b.a") = some grandchild ∧
      grandchild.parentName ≠ immediateParent (ascii "c.b.a") := by
  have ran : (run (Namespace.step setting) Namespace.start
      [.installs founding, .opens, submission (delegation tenant) .none,
        submission grandDelegation .none]).any (fun world => world.control.any fun records =>
          records.find (ascii "b.a") == some (child tenant) &&
            records.find (ascii "c.b.a") == some grandchild) = true := by decide +kernel
  obtain ⟨world, reached, ran⟩ := (Option.any_eq_true _ _).1 ran
  obtain ⟨records, control, facts⟩ := (Option.any_eq_true _ _).1 ran
  rw [Bool.and_eq_true, beq_iff_eq, beq_iff_eq] at facts
  exact ⟨world, records, reached, control, facts.1, by decide +kernel, facts.2, by decide +kernel⟩

end Ardents.Naming
