/-
# Lib.Replace — a document that is replaced by a rename

A document is written aside, to a temporary file, and the file is then renamed to its name.
A process that stops on the way leaves the old document and the temporary file, or the new
document.  An operation that fails is answered with an error: the temporary file is removed,
which may fail as well, and only a failure to make the rename durable comes after the new
document is in place.

`replace_meets` says where a replacement can be: at the old document, at the new one, or with
one more temporary file.
-/
import Ardents.Lib.Crash

namespace Ardents.Lib

open Program

set_option autoImplicit false

/-- A document and the temporary files beside it, each with what was written to it. -/
structure Slot (γ : Type) where
  document : Option γ
  temporaries : List (Option γ)
  deriving DecidableEq

/-- The operation that fails; the temporary file is then removed, unless it is stranded. -/
inductive Failure where
  | create
  | write (stranded : Bool)
  | rename (stranded : Bool)
  | sync
  deriving DecidableEq, Repr

namespace Slot

variable {γ : Type}

def created (slot : Slot γ) : Slot γ := { slot with temporaries := none :: slot.temporaries }

def written (document : γ) (slot : Slot γ) : Slot γ :=
  { slot with temporaries := some document :: slot.temporaries.tail }

def removed (slot : Slot γ) : Slot γ := { slot with temporaries := slot.temporaries.tail }

def renamed (document : γ) (slot : Slot γ) : Slot γ := ⟨some document, slot.temporaries.tail⟩

/-- The new document in place of the old one. -/
def settled (document : γ) (slot : Slot γ) : Slot γ := { slot with document := some document }

/-- The temporary file is removed, and the replacement refused. -/
def discard (stranded : Bool) : Program (Slot γ) Unit Unit := do
  if stranded = false then Program.effect removed
  Program.refuse ()

/-- The replacement, with the operation that fails, if one does. -/
def replace (document : γ) : Option Failure → Program (Slot γ) Unit Unit
  | none => do
    Program.effect created
    Program.effect (written document)
    Program.effect (renamed document)
  | some .create => Program.refuse ()
  | some (.write stranded) => do
    Program.effect created
    discard stranded
  | some (.rename stranded) => do
    Program.effect created
    Program.effect (written document)
    discard stranded
  | some .sync => do
    Program.effect created
    Program.effect (written document)
    Program.effect (renamed document)
    Program.refuse ()

/-- A temporary file was left. -/
def Littered (slot point : Slot γ) : Prop := slot.temporaries.length < point.temporaries.length

/-- Where a replacement of the document of `slot` can be. -/
def Reaches (slot : Slot γ) (document : γ) (point : Slot γ) : Prop :=
  point = slot ∨ point = slot.settled document ∨ slot.Littered point

variable {document : γ} {slot point : Slot γ}

/-- The newest temporary file of `point` is removed, or stays. -/
theorem discard_meets (stranded : Bool) (littered : slot.Littered point) (before : point.removed = slot) :
    Meets (discard stranded) point (slot.Reaches document) (fun _ _ => False)
      (fun _ after => slot.Reaches document after) := by
  cases stranded with
  | true => exact meets_refuse (.inr (.inr littered))
  | false => exact meets_effect_bind (.inl before) (meets_refuse (.inl before))

/-- **A replacement** leaves the new document, or after a failure one of the three. -/
theorem replace_meets (document : γ) (failure : Option Failure) (slot : Slot γ) :
    Meets (replace document failure) slot (slot.Reaches document)
      (fun _ after => failure = none ∧ after = slot.settled document)
      (fun _ after => failure ≠ none ∧ slot.Reaches document after) := by
  have created : slot.Littered slot.created := Nat.lt_succ_self _
  have written : slot.Littered (slot.created.written document) := Nat.lt_succ_self _
  have settles : slot.Reaches document (slot.settled document) := .inr (.inl rfl)
  cases failure with
  | none =>
    refine meets_effect_bind (.inr (.inr created)) (meets_effect_bind (.inr (.inr written)) ?_)
    exact meets_effect settles ⟨rfl, rfl⟩
  | some failure =>
    cases failure with
    | create => exact meets_refuse ⟨nofun, .inl rfl⟩
    | write stranded =>
      refine meets_effect_bind (.inr (.inr created)) ?_
      exact (discard_meets stranded created rfl).imp (fun _ => id) (fun _ _ => False.elim) fun _ _ at_ => ⟨nofun, at_⟩
    | rename stranded =>
      refine meets_effect_bind (.inr (.inr created)) (meets_effect_bind (.inr (.inr written)) ?_)
      exact (discard_meets stranded written rfl).imp (fun _ => id) (fun _ _ => False.elim) fun _ _ at_ => ⟨nofun, at_⟩
    | sync =>
      refine meets_effect_bind (.inr (.inr created)) (meets_effect_bind (.inr (.inr written)) ?_)
      exact meets_effect_bind settles (meets_refuse ⟨nofun, settles⟩)

end Slot

end Ardents.Lib
