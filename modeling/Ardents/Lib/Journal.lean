/-
# Lib.Journal — a component that commits one document at a time

A call of such a component decides from what it holds: it answers, or replaces the document
(`Lib.Replace`) and then answers.  `Lands` says where such a plan ends when no temporary file is
left: with the document as it was or with the new one, and with the answer only if the new one is
in place.  `calls_lands` and `opens_lands` are the rules for an event of a history
(`Lib.Restarts`).
-/
import Ardents.Lib.Replace
import Ardents.Lib.Restarts

namespace Ardents.Lib

set_option autoImplicit false

/-- What a program comes to that commits at most one document. -/
inductive Plan (γ ε α : Type) where
  | answers (answer : Except ε α)
  /-- `failed` is the refusal when the commit fails -/
  | commits (document : γ) (failure : Option Failure) (failed : ε) (answer : Except ε α)

namespace Plan

variable {γ δ ε α : Type}

def program (get : δ → Slot γ) (set : δ → Slot γ → δ) : Plan γ ε α → Program δ ε α
  | .answers answer => Program.lift answer
  | .commits document failure failed answer => do
    ((Slot.replace document failure).inside get set).mapError fun _ => failed
    Program.lift answer

/-- Where a plan ends, with its answer unless the process stopped. -/
inductive Lands (disk : δ) (settled : γ → δ) : Plan γ ε α → δ → Option (Except ε α) → Prop where
  | stopped (plan : Plan γ ε α) : Lands disk settled plan disk none
  | answered (answer : Except ε α) : Lands disk settled (.answers answer) disk (some answer)
  | stoppedLate {document : γ} {failure : Option Failure} {failed : ε} {answer : Except ε α} :
      Lands disk settled (.commits document failure failed answer) (settled document) none
  | committed {document : γ} {failed : ε} {answer : Except ε α} :
      Lands disk settled (.commits document none failed answer) (settled document) (some answer)
  | failed {document : γ} {failure : Failure} {failed : ε} {answer : Except ε α} :
      Lands disk settled (.commits document (some failure) failed answer) disk (some (.error failed))
  | failedLate {document : γ} {failure : Failure} {failed : ε} {answer : Except ε α} :
      Lands disk settled (.commits document (some failure) failed answer) (settled document) (some (.error failed))

variable {get : δ → Slot γ} {set : δ → Slot γ → δ} {plan : Plan γ ε α} {disk : δ}

theorem commits_stops (document : γ) (failure : Option Failure) (failed : ε) (answer : Except ε α)
    (same : set disk (get disk) = disk) :
    ((commits document failure failed answer).program get set).stops disk =
      ((Slot.replace document failure).stops (get disk)).map (set disk) := by
  have quiet : ∀ _ : Unit, Program.Quiet (Program.lift answer : Program δ ε α) := fun _ _ => ⟨rfl, rfl⟩
  rw [program, (Program.bind_quiet quiet disk).1, Program.stops, Program.stops, List.map_cons, same]
  rfl

section Lands

variable {code : Program δ ε α} (planned : code disk = plan.program get set disk)
  (same : set disk (get disk) = disk) (inverse : ∀ slot, get (set disk slot) = slot)

include planned same inverse

theorem lands_of_stop {point : δ} (found : point ∈ code.stops disk) (tidy : ¬ (get disk).Littered (get point)) :
    Lands disk (fun document => set disk ((get disk).settled document)) plan point none := by
  have found : point ∈ (plan.program get set).stops disk := by rwa [Program.stops, ← planned]
  cases plan with
  | answers answer =>
    obtain rfl := List.mem_singleton.1 found
    exact .stopped _
  | commits document failure failed answer =>
    rw [commits_stops document failure failed answer same] at found
    obtain ⟨slot, reached, rfl⟩ := List.mem_map.1 found
    rw [inverse] at tidy
    rcases (Slot.replace_meets document failure (get disk)).stops (.inl rfl) slot reached with rfl | rfl | littered
    · rw [same]
      exact .stopped _
    · exact .stoppedLate
    · exact absurd littered tidy

theorem lands_of_end {answer : Except ε α} (answered : code.result disk = answer)
    (tidy : ¬ (get disk).Littered (get (code.final disk))) :
    Lands disk (fun document => set disk ((get disk).settled document)) plan (code.final disk) (some answer) := by
  have result : code.result disk = (plan.program get set).result disk := congrArg Outcome.answer planned
  have final : code.final disk = (plan.program get set).final disk := congrArg Outcome.disk planned
  rw [← answered, result]
  rw [final] at tidy ⊢
  cases plan with
  | answers answer => exact .answered answer
  | commits document failure failed answer =>
    have quiet : ∀ _ : Unit, Program.Quiet (Program.lift answer : Program δ ε α) := fun _ _ => ⟨rfl, rfl⟩
    have final : ((commits document failure failed answer).program get set).final disk =
        set disk ((Slot.replace document failure).final (get disk)) := (Program.bind_quiet quiet disk).2
    rw [final, inverse] at tidy
    have meets := Slot.replace_meets document failure (get disk)
    have replaced : (((Slot.replace document failure).inside get set).mapError fun _ => failed).result disk =
        ((Slot.replace document failure).result (get disk)).mapError fun _ => failed := rfl
    rw [final, program, Program.bind_result, replaced]
    cases ended : (Slot.replace document failure).result (get disk) with
    | ok done =>
      obtain ⟨rfl, settled⟩ := meets.ok done ended
      rw [show (Slot.replace document none).final (get disk) = _ from settled]
      exact .committed
    | error refusal =>
      obtain ⟨fails, reaches⟩ := meets.error refusal ended
      obtain ⟨failure, rfl⟩ := Option.ne_none_iff_exists'.1 fails
      rcases reaches with before | settled | littered
      · rw [show (Slot.replace document (some failure)).final (get disk) = _ from before, same]
        exact .failed
      · rw [show (Slot.replace document (some failure)).final (get disk) = _ from settled]
        exact .failedLate
      · exact absurd littered tidy

end Lands

end Plan

namespace Restarts

variable {γ δ σ ε ω χ ρ : Type} {component : Component δ σ ε ω χ ρ} {world next : World δ σ ω χ ρ}
  {get : δ → Slot γ} {set : δ → Slot γ → δ} {cut : Option Nat}

/-- The world after a call that ended at `point`. -/
def called (component : Component δ σ ε ω χ ρ) (world : World δ σ ω χ ρ) (store : σ) (call : χ)
    (cut : Option Nat) (point : δ) : Option (Except ε (σ × ρ)) → World δ σ ω χ ρ
  | none => ⟨point, none, (.calls call cut, none) :: world.past⟩
  | some (.ok (later, answer)) => ⟨point, some later, (.calls call cut, some answer) :: world.past⟩
  | some (.error refusal) => ⟨point, some (component.refused store call refusal), (.calls call cut, none) :: world.past⟩

/-- The world after an open that ended at `point`. -/
def opened (outcome : Option (Except ε σ)) (world : World δ σ ω χ ρ) (request : ω) (cut : Option Nat) (point : δ) :
    World δ σ ω χ ρ :=
  match outcome with
  | some (.ok store) => ⟨point, some store, (.opens request cut, none) :: world.past⟩
  | _ => ⟨point, none, (.opens request cut, none) :: world.past⟩

section Lands

variable (same : set world.disk (get world.disk) = world.disk) (inverse : ∀ slot, get (set world.disk slot) = slot)
  (tidy : ¬ (get world.disk).Littered (get next.disk))

include same inverse tidy

/-- **A call lands where its plan does.** -/
theorem calls_lands {store : σ} {call : χ} (plan : Plan γ ε (σ × ρ)) (held : world.held = some store)
    (planned : component.calls store call world.disk = plan.program get set world.disk)
    (stepped : step component world (.calls call cut) = some next) :
    ∃ point outcome,
      plan.Lands world.disk (fun document => set world.disk ((get world.disk).settled document)) point outcome ∧
        next = called component world store call cut point outcome := by
  obtain ⟨effects, point, rfl, found, rfl⟩ | ⟨later, answer, rfl, answered, rfl⟩ | ⟨refusal, rfl, answered, rfl⟩ :=
    calls_cases held stepped
  · exact ⟨point, none, Plan.lands_of_stop planned same inverse (List.mem_of_getElem? found) tidy, rfl⟩
  · exact ⟨_, _, Plan.lands_of_end planned same inverse answered tidy, rfl⟩
  · exact ⟨_, _, Plan.lands_of_end planned same inverse answered tidy, rfl⟩

variable {request : ω}

/-- **An open lands where its plan does.** -/
theorem opens_lands (plan : Plan γ ε σ)
    (planned : component.opens request world.disk = plan.program get set world.disk)
    (stepped : step component world (.opens request cut) = some next) :
    ∃ point outcome,
      plan.Lands world.disk (fun document => set world.disk ((get world.disk).settled document)) point outcome ∧
        next = opened outcome world request cut point := by
  obtain ⟨-, ⟨effects, point, rfl, found, rfl⟩ | ⟨store, rfl, answered, rfl⟩ | ⟨refusal, rfl, answered, rfl⟩⟩ :=
    opens_cases stepped
  · exact ⟨point, none, Plan.lands_of_stop planned same inverse (List.mem_of_getElem? found) tidy, rfl⟩
  · exact ⟨_, _, Plan.lands_of_end planned same inverse answered tidy, rfl⟩
  · exact ⟨_, _, Plan.lands_of_end planned same inverse answered tidy, rfl⟩

end Lands

end Restarts

end Ardents.Lib
