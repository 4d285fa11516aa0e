/-
# State.Storage — the files of the state root

`durable_store.go`, `distribution_journal.go`, `durable_files.go` and `durable_root.go`:
the root holds the generations of the decisions and the control journal, each with a
pointer to its current generation.  Every creation, write, rename and removal is one
effect.  Directories that opening removes are in `staging` and `temporaries`; of the
other entries of the root four are always there (the marker, the lock and the two
directories).
-/
import Ardents.Lib.Generations
import Ardents.State.Epochs

namespace Ardents.State

open Lib Program

set_option autoImplicit false

def maximumStateGenerations : Nat := 64
def maximumControlGenerations : Nat := 4096

/-- A staging directory of the generations. -/
structure Staging where
  epoch : Option (List UInt8)
  inputs : Option (List (List UInt8))
  deriving DecidableEq

abbrev StateTree := Generations Digest StoredGeneration Staging

/-- The control journal; a staging directory holds `state.bin` or nothing. -/
abbrev ControlTree := Generations Digest (List UInt8) (Option (List UInt8))

structure Disk where
  state : StateTree
  control : ControlTree

def Disk.empty : Disk := ⟨Generations.empty, Generations.empty⟩

/-- A program on the generations. -/
def onState {α : Type} (program : Program StateTree StateError α) : Program Disk StateError α :=
  program.inside Disk.state fun disk state => { disk with state }

/-- A program on the control journal. -/
def onControl {α : Type} (program : Program ControlTree StateError α) : Program Disk StateError α :=
  program.inside Disk.control fun disk control => { disk with control }

/-! ## Generations of decisions -/

/-- The two writes of an input: its file is created, and then filled. -/
def inputWrites (input : List UInt8) : List (Staging → Staging) :=
  [fun part => { part with inputs := part.inputs.map (· ++ [[]]) },
    fun part => { part with inputs := part.inputs.map (·.dropLast ++ [input]) }]

def writeStateGeneration (generation : StoredGeneration) : List (Staging → Staging) :=
  (fun part => { part with inputs := some [] }) :: (fun part => { part with epoch := some [] }) ::
    (fun part => { part with epoch := some generation.epoch }) ::
      generation.inputs.flatMap inputWrites

/-- The generation that a staging directory becomes. -/
def Staging.generation (part : Staging) : StoredGeneration := ⟨part.epoch.getD [], part.inputs.getD []⟩

def commitState (name : Digest) (generation : StoredGeneration) (activate : Bool) :
    Program Disk StateError Unit :=
  if generation.epoch.isEmpty || decide (maximumEpochBytes < generation.epoch.length) ||
      decide (64 < generation.inputs.length) then Program.refuse .generationBounds
  else if generation.inputs.any fun input =>
      input.isEmpty || decide (maximumRecordBytes < input.length) then Program.refuse .inputBounds
  else
    onState (Generations.commit name generation ⟨none, none⟩ (writeStateGeneration generation)
      Staging.generation activate .generationDisagrees)

def loadState (tree : StateTree) : Except StateError (Option Digest) :=
  if maximumStateGenerations < tree.generations.size + tree.staging.length then .error .directoryBound
  else if !tree.staging.isEmpty then .error .generationDirectory
  else
    match tree.current with
    | none => .ok none
    | some name =>
      if (tree.generations.find name).isNone then .error .currentPointer else .ok (some name)

/-! ## The control journal -/

def removeControl (name : Digest) (tree : ControlTree) : ControlTree :=
  { tree with generations := tree.generations.erase name }

def pruneSupersededControl : Program ControlTree StateError Unit := do
  let tree ← Program.look
  match tree.current with
  | none =>
    if tree.generations.size + tree.staging.length ≠ 0 then Program.refuse .controlWithoutPointer
    else pure ()
  | some current =>
    if maximumControlGenerations + 1 < tree.generations.size + tree.staging.length then
      Program.refuse .directoryBound
    else if !tree.staging.isEmpty then Program.refuse .controlForeign
    else do
      Program.effects ((tree.generations.keys.filter (· ≠ current)).map removeControl)
      if (tree.generations.find current).isNone then Program.refuse .controlMissing else pure ()

/-- The body of `commitControl`, on the journal. -/
def writeControl (name : Digest) (raw : List UInt8) : Program ControlTree StateError Unit := do
  pruneSupersededControl
  let tree ← Program.look
  if maximumControlGenerations ≤ tree.generations.size + tree.staging.length then
    Program.refuse .controlExhausted
  else
    match tree.generations.find name with
    | some existing =>
      if existing ≠ raw then Program.refuse .controlDisagrees else Generations.point name
    | none => do
      Generations.stage none [fun _ => some [], fun _ => some raw]
      Generations.publish (·.getD []) name
      Generations.point name

def commitControl (name : Digest) (raw : List UInt8) : Program Disk StateError Unit :=
  if raw.isEmpty || decide (4096 < raw.length) then Program.refuse .controlGeneration
  else onControl (writeControl name raw)

def loadControl (tree : ControlTree) : Except StateError (Option (Digest × List UInt8)) :=
  match tree.current with
  | none =>
    if tree.generations.size + tree.staging.length ≠ 0 then .error .controlLacksPointer else .ok none
  | some name =>
    match tree.generations.find name with
    | none => .error .controlMissing
    | some raw => if 4096 < raw.length then .error .controlGeneration else .ok (some (name, raw))

/-! ## Opening the root -/

def rootEntries (tree : StateTree) : Nat :=
  4 + tree.current.toList.length + tree.temporaries.length

/-- `cleanupOwnedStaging`, on the root before its generations; the source leaves the order
of the two directories open. -/
def cleanupOwnedStaging : Program StateTree StateError Unit :=
  Generations.sweep 128 rootEntries .directoryBound

/-- `prepareControl`. -/
def prepareControl : Program ControlTree StateError Unit :=
  Generations.sweep (maximumControlGenerations + 2)
    (fun tree => 1 + tree.current.toList.length + tree.temporaries.length) .directoryBound

/-- `openDurableRoot` on a root with its marker: what interrupted writes left is removed,
and the root is probed with a temporary file. -/
def openDurableRoot : Program Disk StateError Unit := do
  onState cleanupOwnedStaging
  Program.effect fun disk => { disk with state := { disk.state with temporaries := [none] } }
  Program.effect fun disk => { disk with state := { disk.state with temporaries := [] } }
  onControl prepareControl

/-! ## What a commit of a decision does -/

theorem built_inputs (inputs : List (List UInt8)) (epoch : Option (List UInt8))
    (written : List (List UInt8)) :
    Generations.built ⟨epoch, some written⟩ (inputs.flatMap inputWrites) =
      ⟨epoch, some (written ++ inputs)⟩ := by
  induction inputs generalizing written with
  | nil => simp [Generations.built]
  | cons input inputs ih =>
    rw [List.flatMap_cons, Generations.built, List.foldl_append]
    have two : (inputWrites input).foldl (fun part write => write part) (⟨epoch, some written⟩ : Staging) =
        ⟨epoch, some (written ++ [input])⟩ := by simp [inputWrites]
    rw [two]
    have rest := ih (written ++ [input])
    rw [Generations.built] at rest
    rw [rest, List.append_assoc]
    rfl

/-- The staging directory becomes the generation that was written to it. -/
theorem built_generation (generation : StoredGeneration) :
    (Generations.built ⟨none, none⟩ (writeStateGeneration generation)).generation = generation := by
  have rest := built_inputs generation.inputs (some generation.epoch) []
  have unfolds : Generations.built ⟨none, none⟩ (writeStateGeneration generation) =
      Generations.built ⟨some generation.epoch, some []⟩ (generation.inputs.flatMap inputWrites) := rfl
  rw [unfolds, rest]
  rfl

/-! ## What a commit to the journal does -/

/-- `raw` is the current generation of the journal. -/
structure Settled (tree : ControlTree) (name : Digest) (raw : List UInt8) : Prop where
  current : tree.current = some name
  found : tree.generations.find name = some raw
  few : tree.generations.size ≤ 2
  staging : tree.staging.length ≤ 1
  temporaries : tree.temporaries.length ≤ 1

/-- Nothing was interrupted. -/
def Clean {κ γ σ : Type} (tree : Generations κ γ σ) : Prop := tree.staging = [] ∧ tree.temporaries = []

section Journal

variable {tree : ControlTree} {old name : Digest} {before raw : List UInt8}

theorem Settled.remove (settled : Settled tree old before) {other : Digest} (differs : other ≠ old) :
    Settled (removeControl other tree) old before where
  current := settled.current
  found := by
    change (tree.generations.erase other).find old = _
    rw [Table.find_erase, if_neg differs, settled.found]
  few := (Table.size_erase_le _ _).trans settled.few
  staging := settled.staging
  temporaries := settled.temporaries

variable {refused : StateError → ControlTree → Prop}

/-- The superseded generations are removed, one by one. -/
theorem removeAll_meets (names : List Digest) (others : ∀ other ∈ names, other ≠ old)
    (settled : Settled tree old before) (clean : Clean tree) :
    Meets (Program.effects (names.map removeControl)) tree
      (fun point => Settled point old before)
      (fun _ after => Settled after old before ∧ Clean after ∧
        ∀ other, after.generations.find other =
          if other ∈ names then none else tree.generations.find other) refused := by
  induction names generalizing tree with
  | nil => exact meets_pure ⟨settled, clean, fun other => by simp⟩
  | cons first names ih =>
    have removed := settled.remove (others first List.mem_cons_self)
    refine meets_effect_bind removed ?_
    refine (ih (fun other among => others other (List.mem_cons_of_mem _ among)) removed clean).imp
      (fun _ => id) ?_ (fun _ _ => id)
    rintro _ after ⟨kept, still, left⟩
    refine ⟨kept, still, fun other => ?_⟩
    rw [left other]
    change (if _ then none else (tree.generations.erase first).find other) = _
    rw [Table.find_erase]
    by_cases among : other ∈ names <;> by_cases same : first = other <;>
      simp_all [List.mem_cons, eq_comm]

theorem prune_meets (settled : Settled tree old before) (clean : Clean tree) :
    Meets pruneSupersededControl tree (fun point => Settled point old before)
      (fun _ after => Settled after old before ∧ Clean after ∧
        ∀ other, other ≠ old → after.generations.find other = none) refused := by
  have few := settled.few
  refine meets_look_bind ?_
  simp only [settled.current, clean.1, settled.found, Option.isNone_some, List.isEmpty_nil,
    List.length_nil, Bool.not_true, Bool.false_eq_true, if_false]
  rw [if_neg (by simp only [maximumControlGenerations]; omega)]
  refine meets_bind (removeAll_meets _ ?_ settled clean) ?_
  · intro other among
    exact of_decide_eq_true (List.mem_filter.1 among).2
  rintro _ after ⟨kept, still, left⟩
  refine meets_pure ⟨kept, still, fun other differs => ?_⟩
  rw [left other]
  split
  · rfl
  next absent =>
  rw [List.mem_filter, not_and] at absent
  by_contra found
  obtain ⟨value, held⟩ := Option.ne_none_iff_exists'.1 found
  exact absent (Table.mem_keys_of_find held) (decide_eq_true differs)

variable {on : ControlTree → Prop}

/-- A generation that is not there yet is staged, published and pointed to. -/
theorem writeFresh_meets (clean : Clean tree) (few : tree.generations.size ≤ 1)
    (absent : tree.generations.find name = none)
    (staged : ∀ part, on { tree with staging := part :: tree.staging })
    (published : ∀ temporaries, temporaries.length ≤ 1 →
      on { tree with generations := tree.generations.put name raw, temporaries })
    (pointed : ∀ point, Settled point name raw → on point) :
    Meets (do
        Generations.stage none [fun _ => some [], fun _ => some raw]
        Generations.publish (·.getD []) name
        Generations.point name) tree on (fun _ after => Settled after name raw ∧ Clean after) refused := by
  have settled : Settled { tree with
      generations := tree.generations.put name raw, current := some name } name raw := by
    refine ⟨rfl, ?_, ?_, by simp [clean.1], by simp [clean.2]⟩
    · rw [Table.find_put, if_pos rfl]
    · rw [Table.size_put_fresh raw absent]
      omega
  refine meets_bind ((Generations.stage_meets _ _).imp ?_ (fun _ _ => id) fun _ _ => id) ?_
  · rintro point ⟨part, rfl⟩
    exact staged part
  rintro _ _ rfl
  refine meets_effect_bind (published tree.temporaries (by simp [clean.2])) ?_
  refine meets_effect_bind (published _ (by simp [clean.2])) ?_
  refine meets_effect_bind (published _ (by simp [clean.2])) ?_
  exact meets_effect (pointed _ settled) ⟨settled, clean⟩

/-- **A commit to a journal with a current generation**: before or after, wherever it stops. -/
theorem writeControl_meets (settled : Settled tree old before) (clean : Clean tree) :
    Meets (writeControl name raw) tree
      (fun point => Settled point old before ∨ Settled point name raw)
      (fun _ after => Settled after name raw ∧ Clean after)
      (fun _ after => Settled after old before ∧ Clean after ∧ name = old ∧ before ≠ raw) := by
  refine meets_bind ((prune_meets settled clean).imp (fun _ => .inl) (fun _ _ => id)
    fun _ _ => id) ?_
  rintro _ pruned ⟨kept, still, others⟩
  have few : pruned.generations.size ≤ 1 := Table.size_le_one others
  refine meets_look_bind ?_
  rw [if_neg (by simp only [still.1, List.length_nil, maximumControlGenerations]; omega)]
  by_cases same : name = old
  · subst same
    simp only [kept.found]
    split
    · next differs => exact meets_refuse ⟨kept, still, trivial, differs⟩
    next equal =>
    obtain rfl : before = raw := not_not.1 equal
    refine (Generations.point_meets name).imp ?_ ?_ (fun _ _ => False.elim)
    · rintro point (⟨staging, temporaries, more, short, rfl⟩ | rfl)
      · rw [still.1] at more
        rw [still.2] at short
        exact .inl ⟨kept.current, kept.found, kept.few, more, short⟩
      · exact .inr ⟨rfl, kept.found, kept.few, kept.staging, kept.temporaries⟩
    · rintro _ _ rfl
      exact ⟨⟨rfl, kept.found, kept.few, kept.staging, kept.temporaries⟩, still⟩
  · simp only [others name same]
    refine writeFresh_meets still few (others name same) (fun part => .inl ?_)
      (fun temporaries short => .inl ?_) (fun _ => .inr)
    · exact ⟨kept.current, kept.found, kept.few, by simp [still.1], kept.temporaries⟩
    refine ⟨kept.current, ?_, ?_, kept.staging, short⟩
    · rw [Table.find_put, if_neg same, kept.found]
    · rw [Table.size_put_fresh raw (others name same)]
      omega

/-- The journal has no pointer.  With a generation it does not load any more. -/
structure Unpointed (tree : ControlTree) : Prop where
  current : tree.current = none
  few : tree.generations.size ≤ 1
  staging : tree.staging.length ≤ 1
  temporaries : tree.temporaries.length ≤ 1

theorem find_of_size {κ α : Type} [DecidableEq κ] {table : Table κ α} (none : table.size = 0) (key : κ) :
    table.find key = Option.none := by
  rw [Table.find, List.length_eq_zero_iff.1 none]
  rfl

theorem prune_unborn (current : tree.current = none) (unborn : tree.generations.size = 0) (clean : Clean tree) :
    Meets pruneSupersededControl tree on (fun _ after => after = tree) refused := by
  refine meets_look_bind ?_
  simp only [current, unborn, clean.1, List.length_nil, ne_eq, not_true_eq_false, if_false]
  exact meets_pure rfl

/-- The first commit to a journal; between the rename and the pointer it has a generation and
no pointer. -/
theorem writeControl_meets_unborn (unpointed : Unpointed tree) (unborn : tree.generations.size = 0)
    (clean : Clean tree) :
    Meets (writeControl name raw) tree (fun point => Unpointed point ∨ Settled point name raw)
      (fun _ after => Settled after name raw ∧ Clean after) (fun _ _ => False) := by
  have absent := find_of_size unborn name
  refine meets_bind (prune_unborn unpointed.current unborn clean) ?_
  rintro _ _ rfl
  refine meets_look_bind ?_
  rw [if_neg (by simp only [unborn, clean.1, List.length_nil, maximumControlGenerations]; omega)]
  simp only [absent]
  refine writeFresh_meets clean (by rw [unborn]; omega) absent (fun part => .inl ?_)
    (fun temporaries short => .inl ?_) (fun _ => .inr)
  · exact ⟨unpointed.current, unpointed.few, by simp [clean.1], unpointed.temporaries⟩
  · refine ⟨unpointed.current, ?_, unpointed.staging, short⟩
    rw [Table.size_put_fresh raw absent, unborn]

end Journal

end Ardents.State
