/-
# Lib.Generations — immutable generations and a pointer to one of them

A directory of generations is written in one way only: a generation is built in a
staging directory of its own and renamed to its final name, and the pointer to the
current one is a file that is written aside and renamed over the old one.  `stage`,
`publish`, `discard` and `point` are these steps, `commit` is the usual order of them.

`built` is what a staging directory holds after its writes.  Whatever the writes are, a
stop leaves the generations and the pointer as they were before or as they are after
the rename, which is what `commit_meets` says of a whole commit.
-/
import Ardents.Lib.Crash
import Ardents.Lib.Table

namespace Ardents.Lib

open Program

set_option autoImplicit false

/-- Generations `γ` with names `κ`; `σ` is a staging directory. -/
structure Generations (κ γ σ : Type) where
  generations : Table κ γ
  staging : List σ
  /-- Pointer files that were not renamed yet, empty or with a name in them. -/
  temporaries : List (Option κ)
  current : Option κ

namespace Generations

variable {κ γ σ ε : Type}

def empty : Generations κ γ σ := ⟨Table.empty, [], [], none⟩

/-- What a staging directory holds after its writes. -/
def built (first : σ) (writes : List (σ → σ)) : σ := writes.foldl (fun part write => write part) first

/-- The newest staging directory is written to. -/
def rewrite (write : σ → σ) (tree : Generations κ γ σ) : Generations κ γ σ :=
  { tree with staging := tree.staging.modifyHead write }

def writeAll (writes : List (σ → σ)) : Program (Generations κ γ σ) ε Unit :=
  Program.effects (writes.map rewrite)

def stage (first : σ) (writes : List (σ → σ)) : Program (Generations κ γ σ) ε Unit := do
  Program.effect fun tree => { tree with staging := first :: tree.staging }
  writeAll writes

/-- The newest staging directory is removed. -/
def discard : Program (Generations κ γ σ) ε Unit :=
  Program.effect fun tree => { tree with staging := tree.staging.drop 1 }

/-- The pointer files that interrupted writes left are removed, one by one. -/
def sweepTemporaries : Program (Generations κ γ σ) ε Unit := do
  let tree ← Program.look
  Program.effects (List.replicate tree.temporaries.length
    fun tree => { tree with temporaries := tree.temporaries.drop 1 })

/-- The staging directories that interrupted writes left are removed, one by one. -/
def sweepStaging : Program (Generations κ γ σ) ε Unit := do
  let tree ← Program.look
  Program.effects (List.replicate tree.staging.length fun tree => { tree with staging := tree.staging.drop 1 })

/-- What interrupted writes left is removed, first where `entries` counts and then beside the
generations; a directory with more than `limit` entries is refused. -/
def sweep (limit : Nat) (entries : Generations κ γ σ → Nat) (bound : ε) : Program (Generations κ γ σ) ε Unit := do
  let tree ← Program.look
  if limit < entries tree then Program.refuse bound
  else do
    sweepTemporaries
    if limit < tree.generations.size + tree.staging.length then Program.refuse bound else sweepStaging

/-! ## Staging -/

variable {tree : Generations κ γ σ}

variable {refused : ε → Generations κ γ σ → Prop}

variable {on : Generations κ γ σ → Prop} {after : Unit → Generations κ γ σ → Prop}

theorem sweepTemporaries_meets
    (fewer : ∀ temporaries, temporaries.length ≤ tree.temporaries.length → on { tree with temporaries }) :
    Meets sweepTemporaries tree on (fun _ after => after = { tree with temporaries := [] }) refused := by
  refine meets_look_bind ?_
  obtain ⟨generations, staging, temporaries, current⟩ := tree
  induction temporaries with
  | nil => exact meets_pure rfl
  | cons first rest ih =>
    refine meets_effect_bind (fewer rest (Nat.le_succ _)) (ih ?_)
    exact fun temporaries short => fewer temporaries (Nat.le_succ_of_le short)

theorem sweepStaging_meets
    (fewer : ∀ staging, staging.length ≤ tree.staging.length → on { tree with staging }) :
    Meets sweepStaging tree on (fun _ after => after = { tree with staging := [] }) refused := by
  refine meets_look_bind ?_
  obtain ⟨generations, staging, temporaries, current⟩ := tree
  induction staging with
  | nil => exact meets_pure rfl
  | cons first rest ih =>
    refine meets_effect_bind (fewer rest (Nat.le_succ _)) (ih ?_)
    exact fun staging short => fewer staging (Nat.le_succ_of_le short)

theorem sweep_meets {limit : Nat} {entries : Generations κ γ σ → Nat} {bound : ε}
    (fewer : ∀ staging temporaries, staging.length ≤ tree.staging.length →
      temporaries.length ≤ tree.temporaries.length → on { tree with staging, temporaries })
    (many : limit < entries tree → refused bound tree)
    (crowded : limit < tree.generations.size + tree.staging.length → refused bound { tree with temporaries := [] })
    (swept : after () { tree with staging := [], temporaries := [] }) :
    Meets (sweep limit entries bound) tree on after refused := by
  refine meets_look_bind ?_
  split
  · next beyond => exact meets_refuse (many beyond)
  refine meets_bind (sweepTemporaries_meets fun temporaries short => fewer _ temporaries le_rfl short) ?_
  rintro _ _ rfl
  split
  · next beyond => exact meets_refuse (crowded beyond)
  refine (sweepStaging_meets fun staging short => ?_).imp (fun _ => id) ?_ fun _ _ => id
  · exact fewer staging [] short (Nat.zero_le _)
  · rintro _ _ rfl
    exact swept

theorem writeAll_meets (writes : List (σ → σ)) (part : σ) :
    Meets (writeAll writes) { tree with staging := part :: tree.staging }
      (fun point => ∃ part, point = { tree with staging := part :: tree.staging })
      (fun _ after => after = { tree with staging := built part writes :: tree.staging }) refused := by
  induction writes generalizing part with
  | nil => exact meets_pure rfl
  | cons write writes ih =>
    exact meets_effect_bind ⟨write part, rfl⟩ (ih (write part))

theorem stage_meets (first : σ) (writes : List (σ → σ)) : Meets (stage first writes) tree
      (fun point => ∃ part, point = { tree with staging := part :: tree.staging })
      (fun _ after => after = { tree with staging := built first writes :: tree.staging }) refused := by
  exact meets_effect_bind ⟨first, rfl⟩ (writeAll_meets writes first)

/-! ## Committing -/

variable [DecidableEq κ]

/-- The newest staging directory gets its final name. -/
def publish (finish : σ → γ) (name : κ) : Program (Generations κ γ σ) ε Unit :=
  Program.effect fun tree =>
    match tree.staging with
    | [] => tree
    | part :: staging => { tree with generations := tree.generations.put name (finish part), staging }

/-- The pointer is written aside and renamed. -/
def point (name : κ) : Program (Generations κ γ σ) ε Unit := do
  Program.effect fun tree => { tree with temporaries := none :: tree.temporaries }
  Program.effect fun tree => { tree with temporaries := some name :: tree.temporaries.drop 1 }
  Program.effect fun tree =>
    { tree with temporaries := tree.temporaries.drop 1, current := some name }

/-- A generation is staged and gets its final name, unless it is there already; the
pointer follows when it is to be activated. -/
def commit [DecidableEq γ] (name : κ) (generation : γ) (first : σ) (writes : List (σ → σ))
    (finish : σ → γ) (activate : Bool) (disagrees : ε) : Program (Generations κ γ σ) ε Unit := do
  stage first writes
  let tree ← Program.look
  match tree.generations.find name with
  | some existing =>
    discard
    if existing = generation then pure () else Program.refuse disagrees
  | none => publish finish name
  if activate then point name else pure ()

/-- The generation is there. -/
def published (tree : Generations κ γ σ) (name : κ) (generation : γ) : Generations κ γ σ :=
  { tree with generations := tree.generations.put name generation }

/-- One more staging directory or pointer file may be there. -/
def Litter (tree point : Generations κ γ σ) : Prop :=
  ∃ staging temporaries, staging.length ≤ tree.staging.length + 1 ∧
    temporaries.length ≤ tree.temporaries.length + 1 ∧ point = { tree with staging, temporaries }

omit [DecidableEq κ] in
theorem Litter.refl (tree : Generations κ γ σ) : tree.Litter tree :=
  ⟨_, _, Nat.le_succ _, Nat.le_succ _, rfl⟩

omit [DecidableEq κ] in
theorem Litter.staged (tree : Generations κ γ σ) (part : σ) :
    tree.Litter { tree with staging := part :: tree.staging } :=
  ⟨_, _, le_rfl, Nat.le_succ _, rfl⟩

omit [DecidableEq κ] in
theorem Litter.pointed (tree : Generations κ γ σ) (pointer : Option κ) :
    tree.Litter { tree with temporaries := pointer :: tree.temporaries } :=
  ⟨_, _, Nat.le_succ _, le_rfl, rfl⟩

omit [DecidableEq κ] in
theorem Litter.current {tree point : Generations κ γ σ} (litter : tree.Litter point) :
    point.current = tree.current := by
  obtain ⟨staging, temporaries, -, -, rfl⟩ := litter
  rfl

omit [DecidableEq κ] in
theorem Litter.generations {tree point : Generations κ γ σ} (litter : tree.Litter point) :
    point.generations = tree.generations := by
  obtain ⟨staging, temporaries, -, -, rfl⟩ := litter
  rfl

omit [DecidableEq κ] in
theorem point_meets (name : κ) : Meets (point name) tree
      (fun point => tree.Litter point ∨ point = { tree with current := some name })
      (fun _ after => after = { tree with current := some name }) refused := by
  refine meets_effect_bind (.inl (.pointed _ _)) ?_
  refine meets_effect_bind (.inl (.pointed _ _)) ?_
  exact meets_effect (.inr rfl) rfl

omit [DecidableEq κ] in
theorem activate_meets (name : κ) (activate : Bool) : Meets (if activate then point name else pure ()) tree
      (fun point => tree.Litter point ∨ activate = true ∧ point = { tree with current := some name })
      (fun _ after => after = { tree with current := if activate then some name else tree.current }) refused := by
  cases activate with
  | false => exact meets_pure rfl
  | true =>
    refine (point_meets name).imp ?_ (fun _ _ => id) (fun _ _ => id)
    rintro point (litter | rfl)
    · exact .inl litter
    · exact .inr ⟨rfl, rfl⟩

variable [DecidableEq γ] {name : κ} {generation : γ} {first : σ} {writes : List (σ → σ)} {finish : σ → γ}
  {activate : Bool} {disagrees : ε}

/-- **A commit.**  On the way the generations and the pointer are those from before, those
with the generation, or those with the pointer to it. -/
theorem commit_meets (finished : finish (built first writes) = generation)
    (good : ∀ existing, tree.generations.find name = some existing → existing = generation) :
    Meets (commit name generation first writes finish activate disagrees) tree
      (fun point => tree.Litter point ∨ (tree.published name generation).Litter point ∨
        activate = true ∧ point = { tree.published name generation with current := some name })
      (fun _ after => after = { tree.published name generation with
        current := if activate then some name else tree.current })
      (fun _ _ => False) := by
  refine meets_bind ((stage_meets first writes).imp ?_ (fun _ _ => id) fun _ _ => id) ?_
  · rintro point ⟨part, rfl⟩
    exact .inl (.staged _ part)
  rintro _ _ rfl
  refine meets_look_bind ?_
  cases found : tree.generations.find name with
  | some existing =>
    obtain rfl := good existing found
    have same : tree.published name existing = tree := by
      rw [published, Table.put_same found]
    rw [same]
    refine meets_effect_bind (.inl (.refl _)) ?_
    rw [if_pos rfl]
    exact (activate_meets name activate).imp (fun _ => .inr) (fun _ _ => id) fun _ _ => id
  | none =>
    subst finished
    refine meets_effect_bind (.inr (.inl (.refl _))) ?_
    exact (activate_meets name activate).imp (fun _ => .inr) (fun _ _ => id) fun _ _ => id

/-- A generation that is there with another content is not written over. -/
theorem commit_disagrees {existing : γ} (found : tree.generations.find name = some existing)
    (differs : existing ≠ generation) :
    Meets (commit name generation first writes finish activate disagrees) tree
      (fun point => tree.Litter point) (fun _ _ => False)
      (fun refusal after => refusal = disagrees ∧ after = tree) := by
  refine meets_bind ((stage_meets first writes).imp ?_ (fun _ _ => id) fun _ _ => id) ?_
  · rintro point ⟨part, rfl⟩
    exact .staged _ part
  rintro _ _ rfl
  refine meets_look_bind ?_
  simp only [found]
  refine meets_effect_bind (.refl _) ?_
  rw [if_neg differs]
  exact meets_bind (meets_refuse ⟨rfl, rfl⟩) fun _ _ => False.elim

end Generations

end Ardents.Lib
