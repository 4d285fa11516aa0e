/-
# Lib.Crash — programs over a disk that may stop after any effect

A program reads and changes a disk and answers or refuses.  Running it also lists the
disks it goes through, one after each effect, in order; a process that stops leaves one
of them, or the disk it started with.

`Meets` is a triple for such programs: every disk on the way satisfies one condition,
and the disk at the end another one that may depend on the answer.  The rules follow
the constructors of a program.
-/
import Mathlib.Tactic

namespace Ardents.Lib

set_option autoImplicit false

/-- What a program does to a disk. -/
structure Outcome (δ ε α : Type) where
  points : List δ
  disk : δ
  answer : Except ε α

def Program (δ ε α : Type) : Type := δ → Outcome δ ε α

namespace Program

variable {δ ε α β : Type}

protected def pure (value : α) : Program δ ε α := fun disk => ⟨[], disk, .ok value⟩

/-- The program refuses. -/
def refuse (refusal : ε) : Program δ ε α := fun disk => ⟨[], disk, .error refusal⟩

/-- The disk as it is. -/
def look : Program δ ε δ := fun disk => ⟨[], disk, .ok disk⟩

/-- An answer that needs no effect. -/
def lift (answer : Except ε α) : Program δ ε α := fun disk => ⟨[], disk, answer⟩

/-- One effect. -/
def effect (change : δ → δ) : Program δ ε Unit := fun disk => ⟨[change disk], change disk, .ok ()⟩

protected def bind (first : Program δ ε α) (next : α → Program δ ε β) : Program δ ε β := fun disk =>
  let begun := first disk
  match begun.answer with
  | .error refusal => ⟨begun.points, begun.disk, .error refusal⟩
  | .ok value =>
    let ended := next value begun.disk
    ⟨begun.points ++ ended.points, ended.disk, ended.answer⟩

instance : Monad (Program δ ε) where
  pure := Program.pure
  bind := Program.bind

/-- Several effects, one after the other. -/
def effects : List (δ → δ) → Program δ ε Unit
  | [] => pure ()
  | change :: changes => do
    effect change
    effects changes

/-- A program on a part of the disk. -/
def inside {ρ : Type} (get : δ → ρ) (set : δ → ρ → δ) (program : Program ρ ε α) : Program δ ε α :=
  fun disk =>
    let outcome := program (get disk)
    ⟨outcome.points.map (set disk), set disk outcome.disk, outcome.answer⟩

/-- A program whose refusals are those of another layer. -/
def mapError {ε' : Type} (wrap : ε → ε') (program : Program δ ε α) : Program δ ε' α := fun disk =>
  let outcome := program disk
  ⟨outcome.points, outcome.disk, outcome.answer.mapError wrap⟩

/-- The disks that a stop can leave. -/
def stops (program : Program δ ε α) (disk : δ) : List δ := disk :: (program disk).points

/-- The answer of a program that ran to its end. -/
def result (program : Program δ ε α) (disk : δ) : Except ε α := (program disk).answer

def final (program : Program δ ε α) (disk : δ) : δ := (program disk).disk

/-! ## Running a program -/

theorem pure_apply (value : α) (disk : δ) : (pure value : Program δ ε α) disk = ⟨[], disk, .ok value⟩ := rfl

theorem refuse_apply (refusal : ε) (disk : δ) :
    (refuse refusal : Program δ ε α) disk = ⟨[], disk, .error refusal⟩ := rfl

theorem look_bind (next : δ → Program δ ε α) (disk : δ) : (look >>= next) disk = next disk disk := rfl

theorem pure_bind_apply (value : α) (next : α → Program δ ε β) (disk : δ) :
    ((pure value : Program δ ε α) >>= next) disk = next value disk := rfl

theorem lift_ok_bind (value : α) (next : α → Program δ ε β) (disk : δ) :
    (lift (.ok value) >>= next) disk = next value disk := rfl

variable {first program : Program δ ε α} {next : α → Program δ ε β} {value : α} {change : δ → δ}
  {refusal : ε}

theorem bind_of_ok {disk middle : δ} {points : List δ}
    (begun : first disk = ⟨points, middle, .ok value⟩) :
    (first >>= next) disk = ⟨points ++ (next value middle).points, (next value middle).disk,
      (next value middle).answer⟩ := by
  have unfolds : (first >>= next) disk = Program.bind first next disk := rfl
  rw [unfolds, Program.bind, begun]

/-- The answer of a sequence. -/
theorem bind_result (first : Program δ ε α) (next : α → Program δ ε β) (disk : δ) :
    (first >>= next).result disk =
      match first.result disk with
      | .error refusal => .error refusal
      | .ok value => (next value).result (first.final disk) := by
  have unfolds : (first >>= next) disk = Program.bind first next disk := rfl
  rw [result, unfolds, Program.bind, result]
  cases answer : (first disk).answer <;> rfl

/-- A program that only answers. -/
def Quiet (program : Program δ ε α) : Prop := ∀ disk, (program disk).points = [] ∧ (program disk).disk = disk

/-- What only answers adds no effect. -/
theorem bind_quiet (quiet : ∀ value, Quiet (next value)) (disk : δ) :
    (first >>= next).stops disk = first.stops disk ∧ (first >>= next).final disk = first.final disk := by
  have unfolds : (first >>= next) disk = Program.bind first next disk := rfl
  rw [stops, stops, final, final, unfolds, Program.bind]
  cases answer : (first disk).answer with
  | error refusal => exact ⟨rfl, rfl⟩
  | ok value =>
    dsimp only
    rw [(quiet value _).1, (quiet value _).2, List.append_nil]
    exact ⟨rfl, rfl⟩

/-! ## Triples -/

/-- From `disk`, every disk on the way satisfies `on`, an answer satisfies `after`, and a
refusal satisfies `refused`. -/
structure Meets (program : Program δ ε α) (disk : δ) (on : δ → Prop) (after : α → δ → Prop)
    (refused : ε → δ → Prop) : Prop where
  way : ∀ point ∈ (program disk).points, on point
  ok : ∀ value, (program disk).answer = .ok value → after value (program disk).disk
  error : ∀ refusal, (program disk).answer = .error refusal → refused refusal (program disk).disk

variable {disk : δ} {on : δ → Prop} {after : α → δ → Prop} {after' : β → δ → Prop}
  {refused : ε → δ → Prop}

theorem meets_pure (holds : after value disk) :
    Meets (pure value : Program δ ε α) disk on after refused where
  way := nofun
  ok := by
    rintro _ ⟨⟩
    exact holds
  error := nofun

theorem meets_refuse (holds : refused refusal disk) :
    Meets (refuse refusal : Program δ ε α) disk on after refused where
  way := nofun
  ok := nofun
  error := by
    rintro _ ⟨⟩
    exact holds

theorem meets_effect {after : Unit → δ → Prop} (way : on (change disk))
    (holds : after () (change disk)) : Meets (effect change) disk on after refused where
  way := by
    intro point member
    rwa [List.mem_singleton.1 member]
  ok := by
    rintro _ ⟨⟩
    exact holds
  error := nofun

theorem meets_bind (begun : Meets first disk on after refused)
    (ended : ∀ value middle, after value middle → Meets (next value) middle on after' refused) :
    Meets (first >>= next) disk on after' refused := by
  have unfolds : (first >>= next) disk = Program.bind first next disk := rfl
  cases answer : (first disk).answer with
  | error refusal =>
    have stops : (first >>= next) disk = ⟨(first disk).points, (first disk).disk, .error refusal⟩ := by
      rw [unfolds, Program.bind]
      simp only [answer]
    constructor <;> rw [stops]
    · exact begun.way
    · exact nofun
    · rintro _ ⟨⟩
      exact begun.error refusal answer
  | ok value =>
    have later := ended value (first disk).disk (begun.ok value answer)
    have goesOn : (first >>= next) disk = ⟨(first disk).points ++ (next value (first disk).disk).points,
        (next value (first disk).disk).disk, (next value (first disk).disk).answer⟩ := by
      rw [unfolds, Program.bind]
      simp only [answer]
    constructor <;> rw [goesOn]
    · intro point member
      rcases List.mem_append.1 member with early | late
      · exact begun.way point early
      · exact later.way point late
    · exact later.ok
    · exact later.error

theorem meets_effect_bind {next : Unit → Program δ ε α} (way : on (change disk))
    (later : Meets (next ()) (change disk) on after refused) :
    Meets (effect change >>= next) disk on after refused where
  way := by
    intro point member
    rcases List.mem_cons.1 member with rfl | among
    · exact way
    · exact later.way point among
  ok := later.ok
  error := later.error

/-- Effects that each keep a condition. -/
theorem meets_effects {changes : List (δ → δ)}
    (keeps : ∀ change ∈ changes, ∀ point, on point → on (change point)) (start : on disk) :
    Meets (effects changes) disk on
      (fun _ after => on after ∧ after = changes.foldl (fun point change => change point) disk) refused := by
  induction changes generalizing disk with
  | nil => exact meets_pure ⟨start, rfl⟩
  | cons change changes ih =>
    have kept := keeps change List.mem_cons_self disk start
    exact meets_effect_bind kept (ih (fun later member => keeps later (List.mem_cons_of_mem _ member)) kept)

theorem meets_look_bind {next : δ → Program δ ε α} (later : Meets (next disk) disk on after refused) :
    Meets (look >>= next) disk on after refused :=
  ⟨later.way, later.ok, later.error⟩

theorem meets_lift_bind {answer : Except ε α}
    (ok : ∀ value, answer = .ok value → Meets (next value) disk on after' refused)
    (error : ∀ refusal, answer = .error refusal → refused refusal disk) :
    Meets (lift answer >>= next) disk on after' refused := by
  cases answer with
  | error refusal => exact meets_refuse (error refusal rfl)
  | ok value => exact ok value rfl

theorem meets_ok_bind (later : Meets (next value) disk on after' refused) :
    Meets (lift (.ok value) >>= next) disk on after' refused :=
  ⟨later.way, later.ok, later.error⟩

theorem Meets.imp {on' : δ → Prop} {after'' : α → δ → Prop} {refused' : ε → δ → Prop}
    (meets : Meets program disk on after refused) (way : ∀ point, on point → on' point)
    (ok : ∀ value point, after value point → after'' value point)
    (error : ∀ refusal point, refused refusal point → refused' refusal point) :
    Meets program disk on' after'' refused' where
  way := fun point member => way point (meets.way point member)
  ok := fun value answer => ok value _ (meets.ok value answer)
  error := fun refusal answer => error refusal _ (meets.error refusal answer)

theorem Meets.inside {ρ : Type} {get : δ → ρ} {set : δ → ρ → δ} {program : Program ρ ε α}
    (meets : Meets program (get disk) (fun part => on (set disk part))
      (fun value part => after value (set disk part))
      (fun refusal part => refused refusal (set disk part))) :
    Meets (program.inside get set) disk on after refused where
  way := by
    intro point member
    obtain ⟨part, among, rfl⟩ := List.mem_map.1 member
    exact meets.way part among
  ok := meets.ok
  error := meets.error

/-- A program that never answers refuses. -/
theorem Meets.result_error
    (meets : Meets program disk on (fun _ _ => False) fun other _ => other = refusal) :
    program.result disk = .error refusal := by
  cases answer : (program disk).answer with
  | ok value => exact (meets.ok value answer).elim
  | error other => rw [Program.result, answer, meets.error other answer]

theorem Meets.mapError {ε' : Type} {wrap : ε → ε'} {refused' : ε' → δ → Prop}
    (meets : Meets program disk on after fun refusal => refused' (wrap refusal)) :
    Meets (program.mapError wrap) disk on after refused' where
  way := meets.way
  ok := by
    intro value answer
    apply meets.ok value
    cases answered : (program disk).answer with
    | error refusal => simp [Program.mapError, answered, Except.mapError] at answer
    | ok other => simpa [Program.mapError, answered, Except.mapError] using answer
  error := by
    intro refusal answer
    cases answered : (program disk).answer with
    | ok value => simp [Program.mapError, answered, Except.mapError] at answer
    | error inner =>
      obtain rfl : wrap inner = refusal := by
        simpa [Program.mapError, answered, Except.mapError] using answer
      exact meets.error inner answered

/-- What holds on the way holds after every stop, if it held at the start. -/
theorem Meets.stops (meets : Meets program disk on after refused) (start : on disk) :
    ∀ point ∈ program.stops disk, on point := by
  intro point member
  rcases List.mem_cons.1 member with rfl | way
  · exact start
  · exact meets.way point way

end Program

end Ardents.Lib
