/-
# Lib.Watermark — numbered documents behind a watermark and a pointer

A directory holds documents in files that are named by what they contain.  Two small
files say which document counts: the watermark, with the number and the name of the
newest document, and the pointer to the current one.  A commit writes the document, then
the watermark, then the pointer, and then removes the documents that neither of the last
two pointers named.  Every file is written aside and renamed, so that a process that stops
leaves at most one temporary file.

`Reads directory content` says what the directory stands for, whatever the order in which
its files were left; `none` is a directory that nothing was committed to.  `load_meets`
and `commit_meets` say that loading finds that content and that a commit changes it in one
step.
-/
import Ardents.Lib.Crash
import Ardents.Lib.Table

namespace Ardents.Lib.Watermark

open Table Program

set_option autoImplicit false

/-- How documents `γ` are named and numbered, and which of them are accepted. -/
structure Scheme (κ γ : Type) where
  name : γ → κ
  number : γ → Nat
  valid : γ → Bool

structure Directory (κ γ : Type) where
  files : Table κ γ
  watermark : Option (Nat × κ)
  current : Option κ
  /-- Files that were not renamed yet. -/
  temporaries : Nat

inductive Fault where
  | watermark
  | watermarkTarget
  | generation
  | violation
  | disagreement
  deriving DecidableEq, Repr

namespace Directory

variable {κ γ : Type}

def empty : Directory κ γ := ⟨Table.empty, none, none, 0⟩

/-- The number of directory entries. -/
def entries (directory : Directory κ γ) : Nat :=
  directory.files.size + directory.watermark.toList.length + directory.current.toList.length +
    directory.temporaries

def created (directory : Directory κ γ) : Directory κ γ :=
  { directory with temporaries := directory.temporaries + 1 }

def removed (directory : Directory κ γ) : Directory κ γ :=
  { directory with temporaries := directory.temporaries - 1 }

def marked (number : Nat) (name : κ) (directory : Directory κ γ) : Directory κ γ :=
  { directory.removed with watermark := some (number, name) }

def pointed (name : κ) (directory : Directory κ γ) : Directory κ γ :=
  { directory.removed with current := some name }

def replaceWatermark (number : Nat) (name : κ) : Program (Directory κ γ) Fault Unit := do
  Program.effect created
  Program.effect (marked number name)

def replaceCurrent (name : κ) : Program (Directory κ γ) Fault Unit := do
  Program.effect created
  Program.effect (pointed name)

/-- Temporary files are removed one by one. -/
def sweep : Program (Directory κ γ) Fault Unit := do
  let directory ← Program.look
  Program.effects (List.replicate directory.temporaries removed)

variable [DecidableEq κ]

def placed (name : κ) (document : γ) (directory : Directory κ γ) : Directory κ γ :=
  { directory.removed with files := directory.files.put name document }

def dropped (name : κ) (directory : Directory κ γ) : Directory κ γ :=
  { directory with files := directory.files.erase name }

/-- Every document but two is removed. -/
def cleanup (current : κ) (previous : Option κ) : Program (Directory κ γ) Fault Unit := do
  let directory ← Program.look
  Program.effects ((directory.files.keys.filter fun name =>
    decide (name ≠ current) && decide (some name ≠ previous)).map dropped)

variable (scheme : Scheme κ γ)

def loadGeneration (directory : Directory κ γ) (name : κ) : Except Fault γ :=
  match directory.files.find name with
  | none => .error .generation
  | some document =>
    if scheme.name document = name ∧ scheme.valid document = true then .ok document
    else .error .generation

/-- The document that the watermark names. -/
def loadTarget (directory : Directory κ γ) (number : Nat) (name : κ) : Except Fault γ :=
  match loadGeneration scheme directory name with
  | .error _ => .error .watermarkTarget
  | .ok document => if scheme.number document = number then .ok document else .error .watermarkTarget

/-- The document that counts; a pointer that is behind the watermark is repaired. -/
def load : Program (Directory κ γ) Fault (Option (γ × κ)) := do
  let directory ← Program.look
  if directory.watermark.any fun mark => mark.1 == 0 then Program.refuse .watermark else
  match directory.current, directory.watermark with
  | none, none => pure none
  | none, some (number, name) =>
    let document ← Program.lift (loadTarget scheme directory number name)
    replaceCurrent name
    pure (some (document, name))
  | some current, mark =>
    let document ← Program.lift (loadGeneration scheme directory current)
    match mark with
    | none => Program.refuse .violation
    | some (number, name) =>
      if number < scheme.number document ∨ scheme.number document = number ∧ current ≠ name then
        Program.refuse .violation
      else if scheme.number document < number then
        let document ← Program.lift (loadTarget scheme directory number name)
        replaceCurrent name
        pure (some (document, name))
      else pure (some (document, current))

variable [DecidableEq γ]

def writeGeneration (document : γ) : Program (Directory κ γ) Fault Unit := do
  let directory ← Program.look
  match directory.files.find (scheme.name document) with
  | some existing => if existing = document then pure () else Program.refuse .disagreement
  | none =>
    Program.effect created
    Program.effect (placed (scheme.name document) document)

def commit (document : γ) (previous : Option κ) : Program (Directory κ γ) Fault Unit := do
  writeGeneration scheme document
  replaceWatermark (scheme.number document) (scheme.name document)
  replaceCurrent (scheme.name document)
  cleanup (scheme.name document) previous

/-! ## Replacing one of the small files -/

section Replacing

variable {directory : Directory κ γ} {name : κ} {number : Nat} {on : Directory κ γ → Prop}
  {refused : Fault → Directory κ γ → Prop}

omit [DecidableEq κ] [DecidableEq γ]

theorem replaceWatermark_meets (early : on directory.created) (late : on (directory.created.marked number name)) :
    Meets (replaceWatermark number name) directory on
      (fun _ after => after = directory.created.marked number name) refused :=
  meets_effect_bind early (meets_effect late rfl)

theorem replaceCurrent_meets (early : on directory.created) (late : on (directory.created.pointed name)) :
    Meets (replaceCurrent name) directory on
      (fun _ after => after = directory.created.pointed name) refused :=
  meets_effect_bind early (meets_effect late rfl)

end Replacing

/-! ## What a directory stands for -/

variable {scheme : Scheme κ γ} {directory : Directory κ γ} {content : Option γ} {document : γ}

/-- The watermark names the document, and the pointer names it or an older one. -/
structure Stands (scheme : Scheme κ γ) (directory : Directory κ γ) (document : γ) : Prop where
  valid : scheme.valid document = true
  positive : 0 < scheme.number document
  watermark : directory.watermark = some (scheme.number document, scheme.name document)
  file : directory.files.find (scheme.name document) = some document
  behind : ∀ name, directory.current = some name → name = scheme.name document ∨
    ∃ older, directory.files.find name = some older ∧ scheme.name older = name ∧
      scheme.valid older = true ∧ scheme.number older < scheme.number document

/-- What the directory stands for; nothing was committed to a directory that stands for
nothing, but documents of commits that stopped early may be there. -/
def Reads (scheme : Scheme κ γ) (content : Option γ) (directory : Directory κ γ) : Prop :=
  match content with
  | none => directory.watermark = none ∧ directory.current = none
  | some document => Stands scheme directory document

/-- Nothing is left to repair. -/
structure Settled (scheme : Scheme κ γ) (content : Option γ) (directory : Directory κ γ) : Prop where
  reads : Reads scheme content directory
  current : directory.current = content.map scheme.name
  temporaries : directory.temporaries = 0

omit [DecidableEq γ]

theorem Stands.loads (stands : Stands scheme directory document) :
    loadGeneration scheme directory (scheme.name document) = .ok document := by
  simp [loadGeneration, stands.file, stands.valid]

theorem Stands.target (stands : Stands scheme directory document) :
    loadTarget scheme directory (scheme.number document) (scheme.name document) = .ok document := by
  simp [loadTarget, stands.loads]

/-- Temporary files do not change what a directory stands for. -/
theorem Reads.of_same {other : Directory κ γ} (reads : Reads scheme content directory)
    (files : other.files = directory.files) (watermark : other.watermark = directory.watermark)
    (current : other.current = directory.current) : Reads scheme content other := by
  cases content with
  | none => exact ⟨watermark.trans reads.1, current.trans reads.2⟩
  | some document =>
    exact {
      valid := reads.valid
      positive := reads.positive
      watermark := watermark.trans reads.watermark
      file := by rw [files]; exact reads.file
      behind := by rw [files, current]; exact reads.behind }

/-- The pointer to the newest document may be written at any time. -/
theorem Stands.pointed (stands : Stands scheme directory document) :
    Stands scheme (directory.pointed (scheme.name document)) document where
  valid := stands.valid
  positive := stands.positive
  watermark := stands.watermark
  file := stands.file
  behind := by
    rintro _ ⟨⟩
    exact .inl rfl

variable {refused : Fault → Directory κ γ → Prop}

theorem sweep_meets (reads : Reads scheme content directory) : Meets sweep directory
      (fun point => Reads scheme content point ∧ point.files = directory.files ∧
        point.temporaries ≤ directory.temporaries)
      (fun _ after => Reads scheme content after ∧ after.files = directory.files ∧ after.temporaries = 0)
      refused := by
  have emptied : ∀ (count : Nat) (from' : Directory κ γ),
      ((List.replicate count removed).foldl (fun point change => change point) from').temporaries =
        from'.temporaries - count := by
    intro count
    induction count with
    | zero => exact fun _ => rfl
    | succ count ih =>
      simp only [List.replicate_succ, List.foldl_cons, ih, removed]
      omega
  refine meets_look_bind ((meets_effects ?_ ⟨reads, rfl, le_rfl⟩).imp (fun _ => id) ?_
    fun _ _ => id)
  · intro change member point kept
    obtain rfl := List.eq_of_mem_replicate member
    exact ⟨kept.1.of_same rfl rfl rfl, kept.2.1, (Nat.sub_le _ _).trans kept.2.2⟩
  rintro _ after ⟨kept, rfl⟩
  refine ⟨kept.1, kept.2.1, ?_⟩
  rw [emptied]
  omega

/-- The pointer is repaired. -/
theorem repair_meets (stands : Stands scheme directory document) (clean : directory.temporaries = 0) :
    Meets (do replaceCurrent (scheme.name document)
              pure (some (document, scheme.name document))) directory
      (fun point => Reads scheme (some document) point ∧ point.files = directory.files ∧
        point.temporaries ≤ 1) (fun value after => value = some (document, scheme.name document) ∧
        Settled scheme (some document) after ∧ after.files = directory.files) refused := by
  have reads : Reads scheme (some document) directory := stands
  have early : Reads scheme (some document) directory.created := reads.of_same rfl rfl rfl
  have late : Stands scheme (directory.created.pointed (scheme.name document)) document :=
    Stands.pointed early
  have gone : (directory.created.pointed (scheme.name document)).temporaries = 0 := clean
  refine meets_bind (replaceCurrent_meets ⟨early, rfl, ?_⟩ ⟨late, rfl, ?_⟩) ?_
  · simp [created, clean]
  · rw [gone]
    exact Nat.zero_le _
  · rintro _ _ rfl
    exact meets_pure ⟨rfl, ⟨late, rfl, gone⟩, rfl⟩

/-- **Loading finds what the directory stands for**, and leaves it settled. -/
theorem load_meets (reads : Reads scheme content directory) (clean : directory.temporaries = 0) :
    Meets (load scheme) directory
      (fun point => Reads scheme content point ∧ point.files = directory.files ∧ point.temporaries ≤ 1)
      (fun value after => value = content.map (fun document => (document, scheme.name document)) ∧
        Settled scheme content after ∧ after.files = directory.files) (fun _ _ => False) := by
  apply meets_look_bind
  cases content with
  | none =>
    rw [reads.1, reads.2]
    exact meets_pure ⟨rfl, ⟨reads, reads.2, clean⟩, rfl⟩
  | some document =>
    have stands : Stands scheme directory document := reads
    have counted : (scheme.number document == 0) = false := by
      have := stands.positive
      simp
      omega
    rw [stands.watermark]
    simp only [Option.any_some, counted, Bool.false_eq_true, if_false]
    cases pointer : directory.current with
    | none =>
      dsimp only
      rw [stands.target]
      exact repair_meets stands clean
    | some name =>
      dsimp only
      obtain rfl | ⟨older, found, named, valid, less⟩ := stands.behind name pointer
      · rw [stands.loads]
        refine meets_lift_bind ?_ nofun
        rintro _ ⟨⟩
        rw [if_neg (by simp), if_neg (by simp)]
        exact meets_pure ⟨rfl, ⟨reads, pointer, clean⟩, rfl⟩
      · have loads : loadGeneration scheme directory name = .ok older := by
          simp [loadGeneration, found, named, valid]
        rw [loads]
        refine meets_lift_bind ?_ nofun
        rintro _ ⟨⟩
        rw [if_neg (by omega), if_pos less, stands.target]
        exact repair_meets stands clean

/-! ## Committing -/

/-- Every document of `after` is one of the directory's or the given one. -/
def Among (scheme : Scheme κ γ) (document : γ) (directory after : Directory κ γ) : Prop :=
  ∀ name other, after.files.find name = some other →
    directory.files.find name = some other ∨ name = scheme.name document ∧ other = document

/-- The directory `after` has the document, and everything else as before. -/
structure Wrote (scheme : Scheme κ γ) (document : γ) (directory after : Directory κ γ) : Prop where
  file : after.files.find (scheme.name document) = some document
  kept : ∀ name other, directory.files.find name = some other → after.files.find name = some other
  among : Among scheme document directory after
  watermark : after.watermark = directory.watermark
  current : after.current = directory.current
  temporaries : after.temporaries = 0
  size : after.files.size ≤ directory.files.size + 1

variable {after : Directory κ γ} {name : κ}

/-- A document more does not change what a directory stands for. -/
theorem Reads.wrote (reads : Reads scheme content directory)
    (wrote : Wrote scheme document directory after) : Reads scheme content after := by
  cases content with
  | none => exact ⟨wrote.watermark.trans reads.1, wrote.current.trans reads.2⟩
  | some older =>
    exact {
      valid := reads.valid
      positive := reads.positive
      watermark := wrote.watermark.trans reads.watermark
      file := wrote.kept _ _ reads.file
      behind := by
        intro name pointer
        rw [wrote.current] at pointer
        obtain same | ⟨oldest, found, rest⟩ := reads.behind name pointer
        · exact .inl same
        · exact .inr ⟨oldest, wrote.kept _ _ found, rest⟩ }

theorem writeGeneration_meets [DecidableEq γ] (settled : Settled scheme content directory) :
    Meets (writeGeneration scheme document) directory
      (fun point => Reads scheme content point ∧ Among scheme document directory point ∧
        point.files.size ≤ directory.files.size + 1 ∧ point.temporaries ≤ 1)
      (fun _ after => Wrote scheme document directory after) (fun _ after => after = directory ∧
        ∃ other, directory.files.find (scheme.name document) = some other ∧ other ≠ document) := by
  apply meets_look_bind
  cases found : directory.files.find (scheme.name document) with
  | some existing =>
    dsimp only
    split
    · next same =>
      subst same
      exact meets_pure
        ⟨found, fun _ _ => id, fun _ _ => .inl, rfl, rfl, settled.temporaries, Nat.le_succ _⟩
    · next differs => exact meets_refuse ⟨rfl, existing, rfl, differs⟩
  | none =>
    have wrote : Wrote scheme document directory
        (directory.created.placed (scheme.name document) document) := {
      file := by simp [placed, created, find_put]
      kept := by
        intro name other member
        have differs : scheme.name document ≠ name := by
          rintro rfl
          rw [found] at member
          cases member
        simpa [placed, created, find_put, differs] using member
      among := by
        intro name other member
        simp only [placed, created, removed, find_put] at member
        split at member
        · next same => exact .inr ⟨same.symm, (Option.some.inj member).symm⟩
        · exact .inl member
      watermark := rfl
      current := rfl
      temporaries := settled.temporaries
      size := (size_put_fresh document found).le }
    refine meets_effect_bind ⟨settled.reads.of_same rfl rfl rfl, fun _ _ => .inl, Nat.le_succ _, ?_⟩
      (meets_effect ⟨settled.reads.wrote wrote, wrote.among, wrote.size, ?_⟩ wrote)
    · simp [created, settled.temporaries]
    · rw [wrote.temporaries]
      exact Nat.zero_le _

/-- The watermark moves on to a document that follows the one the pointer names. -/
theorem Wrote.marked (settled : Settled scheme content directory)
    (wrote : Wrote scheme document directory after) (valid : scheme.valid document = true)
    (follows : scheme.number document = (content.map scheme.number).getD 0 + 1) :
    Stands scheme (after.marked (scheme.number document) (scheme.name document)) document where
  valid := valid
  positive := by omega
  watermark := rfl
  file := wrote.file
  behind := by
    intro name pointer
    have points : directory.current = some name := wrote.current ▸ pointer
    rw [settled.current] at points
    cases content with
    | none => cases points
    | some older =>
      obtain rfl : scheme.name older = name := Option.some.inj points
      have stands : Stands scheme directory older := settled.reads
      have less : scheme.number older < scheme.number document := by
        simp only [Option.map_some, Option.getD_some] at follows
        omega
      exact .inr ⟨older, wrote.kept _ _ stands.file, rfl, stands.valid, less⟩

/-- Another document may go once the pointer names the newest one. -/
theorem Settled.dropped (settled : Settled scheme (some document) directory)
    (other : name ≠ scheme.name document) : Settled scheme (some document) (directory.dropped name) := by
  have stands : Stands scheme directory document := settled.reads
  refine ⟨?_, settled.current, settled.temporaries⟩
  exact {
    valid := stands.valid
    positive := stands.positive
    watermark := stands.watermark
    file := by simp [Directory.dropped, find_erase, other, stands.file]
    behind := by
      intro pointer points
      have same : directory.current = some pointer := points
      rw [settled.current] at same
      exact .inl (Option.some.inj same).symm }

theorem keys_dropped {names : List κ}
    (member : name ∈ ((names.map Directory.dropped).foldl (fun point change => change point) directory).files.keys) :
    name ∈ directory.files.keys ∧ name ∉ names := by
  induction names generalizing directory with
  | nil => exact ⟨member, List.not_mem_nil⟩
  | cons first names ih =>
    obtain ⟨among, absent⟩ := ih member
    obtain ⟨document, found⟩ := find_of_mem_keys among
    simp only [Directory.dropped, find_erase] at found
    split at found
    · cases found
    next differs =>
    refine ⟨mem_keys_of_find found, ?_⟩
    simp only [List.mem_cons, not_or]
    exact ⟨Ne.symm differs, absent⟩

theorem cleanup_meets (settled : Settled scheme (some document) directory) (previous : Option κ) :
    Meets (cleanup (scheme.name document) previous) directory
      (fun point => Settled scheme (some document) point ∧ Among scheme document directory point ∧
        point.files.size ≤ directory.files.size)
      (fun _ after => Settled scheme (some document) after ∧ Among scheme document directory after ∧
        after.files.size ≤ 2) refused := by
  refine meets_look_bind ((meets_effects ?_ ⟨settled, fun _ _ => .inl, le_rfl⟩).imp
    (fun _ => id) ?_ fun _ _ => id)
  · intro change member point kept
    obtain ⟨name, among, rfl⟩ := List.mem_map.1 member
    have chosen := (List.mem_filter.1 among).2
    simp only [Bool.and_eq_true, decide_eq_true_eq] at chosen
    have other := chosen.1
    refine ⟨kept.1.dropped other, ?_, (size_erase_le _ _).trans kept.2.2⟩
    intro asked found member
    simp only [Directory.dropped, find_erase] at member
    split at member
    · cases member
    · exact kept.2.1 asked found member
  · rintro _ after ⟨kept, rfl⟩
    refine ⟨kept.1, kept.2.1, ?_⟩
    have within : ∀ name ∈ (((directory.files.keys.filter fun name => decide (name ≠ scheme.name document) &&
        decide (some name ≠ previous)).map Directory.dropped).foldl (fun point change => change point)
          directory).files.keys, name ∈ scheme.name document :: previous.toList := by
      intro name member
      obtain ⟨among, stays⟩ := keys_dropped member
      by_contra outside
      simp only [List.mem_cons, Option.mem_toList, not_or] at outside
      refine stays (List.mem_filter.2 ⟨among, ?_⟩)
      simp only [Bool.and_eq_true, decide_eq_true_eq]
      exact ⟨outside.1, fun same => outside.2 same.symm⟩
    refine (size_le_of_keys within).trans ?_
    cases previous <;> simp

/-- **A commit changes what the directory stands for in one step.**  On the way there are at
most two files more than before; afterwards two documents are left.  A commit is refused
only when another document has its name. -/
theorem commit_meets [DecidableEq γ] (settled : Settled scheme content directory)
    (valid : scheme.valid document = true)
    (follows : scheme.number document = (content.map scheme.number).getD 0 + 1) :
    Meets (commit scheme document (content.map scheme.name)) directory
      (fun point => (Reads scheme content point ∨ Reads scheme (some document) point) ∧
        Among scheme document directory point ∧ point.files.size ≤ directory.files.size + 1 ∧
          point.temporaries ≤ 1)
      (fun _ after => Settled scheme (some document) after ∧ Among scheme document directory after ∧
        after.files.size ≤ 2) (fun _ after => after = directory ∧
        ∃ other, directory.files.find (scheme.name document) = some other ∧ other ≠ document) := by
  refine meets_bind ((writeGeneration_meets settled).imp ?_ (fun _ _ => id) fun _ _ => id) ?_
  · rintro point ⟨reads, among, bounds⟩
    exact ⟨.inl reads, among, bounds⟩
  intro _ written wrote
  have clean := wrote.temporaries
  have stands : Reads scheme (some document)
      (written.marked (scheme.number document) (scheme.name document)) := wrote.marked settled valid follows
  have once : written.created.temporaries ≤ 1 := by simp [created, clean]
  -- what the directory stands for changes with the rename of the watermark
  refine meets_bind (replaceWatermark_meets ?_ ?_) ?_
  · exact ⟨.inl ((settled.reads.wrote wrote).of_same rfl rfl rfl), wrote.among, wrote.size, once⟩
  · refine ⟨.inr (stands.of_same rfl rfl rfl), wrote.among, wrote.size, ?_⟩
    exact (Nat.sub_le _ _).trans once
  rintro _ _ rfl
  have pointed : Settled scheme (some document)
      ((written.created.marked (scheme.number document) (scheme.name document)).created.pointed
        (scheme.name document)) :=
    ⟨Stands.pointed (stands.of_same rfl rfl rfl), rfl, clean⟩
  refine meets_bind (replaceCurrent_meets ?_ ?_) ?_
  · exact ⟨.inr (stands.of_same rfl rfl rfl), wrote.among, wrote.size, once⟩
  · exact ⟨.inr pointed.reads, wrote.among, wrote.size, pointed.temporaries.trans_le (Nat.zero_le _)⟩
  rintro _ _ rfl
  have through : ∀ point : Directory κ γ, Among scheme document ((written.created.marked
      (scheme.number document) (scheme.name document)).created.pointed (scheme.name document)) point →
        Among scheme document directory point := by
    intro point among name other found
    obtain early | new := among name other found
    · exact wrote.among name other early
    · exact .inr new
  refine (cleanup_meets pointed _).imp ?_ ?_ fun _ _ => False.elim
  · rintro point ⟨later, among, fewer⟩
    refine ⟨.inr later.reads, through point among, fewer.trans wrote.size, ?_⟩
    exact later.temporaries.trans_le (Nat.zero_le _)
  · rintro _ after ⟨later, among, few⟩
    exact ⟨later, through after among, few⟩

end Directory

/-! ## A claimed root

The directory belongs to the process that holds its lock, and a marker says that it is a
directory of this kind. -/

/-- The marker is created and then written; `torn` is what a stop in between leaves. -/
inductive Marker where
  | absent
  | torn
  | whole
  deriving DecidableEq, Repr

structure Root (κ γ : Type) where
  lock : Bool
  marker : Marker
  directory : Directory κ γ

namespace Root

variable {κ γ ε α : Type}

def entries (root : Root κ γ) : Nat :=
  (if root.lock then 1 else 0) + (if root.marker = .absent then 0 else 1) + root.directory.entries

def locked (root : Root κ γ) : Root κ γ := { root with lock := true }

def writeMarker : Program (Root κ γ) ε Unit := do
  Program.effect fun root => { root with marker := .torn }
  Program.effect fun root => { root with marker := .whole }

/-- A program on the documents of the root. -/
def inside (wrap : Fault → ε) (program : Program (Directory κ γ) Fault α) : Program (Root κ γ) ε α :=
  (program.inside Root.directory fun root directory => { root with directory }).mapError wrap

variable {wrap : Fault → ε} {root : Root κ γ}

theorem inside_meets {program : Program (Directory κ γ) Fault α}
    {on : Root κ γ → Prop} {after : α → Root κ γ → Prop} {refused : ε → Root κ γ → Prop}
    (meets : Meets program root.directory (fun directory => on { root with directory })
      (fun value directory => after value { root with directory })
      (fun fault directory => refused (wrap fault) { root with directory })) :
    Meets (inside wrap program) root on after refused :=
  Meets.mapError (Meets.inside meets)

theorem entries_le {count : Nat}
    (few : root.directory.files.size + root.directory.temporaries ≤ count) : root.entries ≤ count + 4 := by
  have watermark : root.directory.watermark.toList.length ≤ 1 := by
    cases root.directory.watermark <;> simp
  have current : root.directory.current.toList.length ≤ 1 := by
    cases root.directory.current <;> simp
  simp only [entries, Directory.entries]
  split <;> split <;> omega

section Claimed

variable [DecidableEq κ] (scheme : Scheme κ γ) (first : γ)

/-- A claimed root with a content.  One that nothing was committed to may have the first
document, which is the same every time. -/
structure Holds (content : Option γ) (root : Root κ γ) : Prop where
  lock : root.lock = true
  marker : root.marker = .whole
  reads : Directory.Reads scheme content root.directory
  files : root.directory.files.size ≤ 4
  temporaries : root.directory.temporaries ≤ 1
  blank : content = none → ∀ name document, root.directory.files.find name = some document →
    name = scheme.name first ∧ document = first

/-- A root that a store holds open. -/
structure Ready (content : Option γ) (root : Root κ γ) : Prop where
  holds : Holds scheme first content root
  settled : Directory.Settled scheme content root.directory

variable {scheme} {first} {content : Option γ} {root : Root κ γ}

theorem Holds.entries_le (holds : Holds scheme first content root) : root.entries ≤ 9 :=
  Root.entries_le (Nat.add_le_add holds.files holds.temporaries)

theorem Holds.locked (holds : Holds scheme first content root) : root.locked = root := by
  rw [Root.locked, ← holds.lock]

theorem Holds.files_le (holds : Holds scheme first none root) : root.directory.files.size ≤ 1 := by
  have within : ∀ name ∈ root.directory.files.keys, name ∈ [scheme.name first] := by
    intro name member
    obtain ⟨document, found⟩ := find_of_mem_keys member
    simpa using (holds.blank rfl name document found).1
  exact size_le_of_keys within

variable {directory : Directory κ γ}

/-- The directory of a claimed root changes. -/
theorem Holds.within {content' : Option γ}
    (holds : Holds scheme first content root) (reads : Directory.Reads scheme content' directory)
    (files : directory.files.size ≤ 4) (temporaries : directory.temporaries ≤ 1)
    (blank : content' = none → ∀ name document, directory.files.find name = some document →
      name = scheme.name first ∧ document = first) :
    Holds scheme first content' { root with directory } :=
  ⟨holds.lock, holds.marker, reads, files, temporaries, blank⟩

/-- The directory keeps its documents. -/
theorem Holds.same (holds : Holds scheme first content root)
    (reads : Directory.Reads scheme content directory) (files : directory.files = root.directory.files)
    (temporaries : directory.temporaries ≤ 1) : Holds scheme first content { root with directory } :=
  holds.within reads (files ▸ holds.files) temporaries (files ▸ holds.blank)

theorem sweep_meets (holds : Holds scheme first content root) :
    Meets (inside wrap Directory.sweep) root (fun point => Holds scheme first content point)
      (fun _ after => Holds scheme first content after ∧ after.directory.temporaries = 0)
      (fun _ _ => False) := by
  refine inside_meets ((Directory.sweep_meets holds.reads).imp ?_ ?_ fun _ _ => id)
  · rintro directory ⟨reads, files, fewer⟩
    exact holds.same reads files (fewer.trans holds.temporaries)
  · rintro _ directory ⟨reads, files, clean⟩
    exact ⟨holds.same reads files (by omega), clean⟩

theorem load_meets (holds : Holds scheme first content root)
    (clean : root.directory.temporaries = 0) :
    Meets (inside wrap (Directory.load scheme)) root (fun point => Holds scheme first content point)
      (fun value after => value = content.map (fun document => (document, scheme.name document)) ∧
        Ready scheme first content after) (fun _ _ => False) := by
  refine inside_meets ((Directory.load_meets holds.reads clean).imp ?_ ?_ fun _ _ => id)
  · rintro directory ⟨reads, files, fewer⟩
    exact holds.same reads files fewer
  · rintro value directory ⟨rfl, settled, files⟩
    have gone := settled.temporaries
    exact ⟨rfl, holds.same settled.reads files (by omega), settled⟩

/-- **A commit to a claimed root** with at most three documents; the first commit is never
refused, and another one only when a different document has the name. -/
theorem commit_meets [DecidableEq γ] {next : γ} (ready : Ready scheme first content root)
    (valid : scheme.valid next = true)
    (follows : scheme.number next = (content.map scheme.number).getD 0 + 1)
    (few : root.directory.files.size ≤ 3) (beginning : content = none → next = first) :
    Meets (inside wrap (Directory.commit scheme next (content.map scheme.name))) root
      (fun point => Holds scheme first content point ∨ Holds scheme first (some next) point)
      (fun _ after => Ready scheme first (some next) after)
      (fun _ after => after = root ∧ content ≠ none) := by
  have documents : ∀ directory, Directory.Among scheme next root.directory directory →
      content = none → ∀ name document, directory.files.find name = some document →
        name = scheme.name first ∧ document = first := by
    intro directory among none name document found
    obtain early | ⟨rfl, rfl⟩ := among name document found
    · exact ready.holds.blank none name document early
    · rw [beginning none]
      exact ⟨rfl, rfl⟩
  refine inside_meets ((Directory.commit_meets ready.settled valid follows).imp ?_ ?_ ?_)
  · rintro directory ⟨reads | reads, among, files, temporaries⟩
    · exact .inl (ready.holds.within reads (by omega) temporaries (documents directory among))
    · exact .inr (ready.holds.within reads (by omega) temporaries nofun)
  · rintro _ directory ⟨settled, -, size⟩
    have clean := settled.temporaries
    exact ⟨ready.holds.within settled.reads (by omega) (by omega) nofun, settled⟩
  rintro fault directory ⟨rfl, other, found, differs⟩
  refine ⟨rfl, fun none => differs ?_⟩
  rw [beginning none]
  exact (ready.holds.blank none _ other found).2

end Claimed

end Root

end Ardents.Lib.Watermark
