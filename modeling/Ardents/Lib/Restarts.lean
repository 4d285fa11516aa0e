/-
# Lib.Restarts — a component that is opened, called, stopped and opened again

A component lives on a disk.  A process opens it, which gives a store, and calls the
store; each of both is a program on the disk (`Lib.Crash`) and may stop after any of its
effects, and then the store is gone.  `step` is one event of such a history.  A world
remembers the events that happened and what the calls that returned answered, so that a
property of a history can speak of them.

`step_opens` and `step_calls` are the rules: a triple of the program says what the next
world is, in the three ways in which a program ends.
-/
import Ardents.Lib.Crash
import Ardents.Lib.Runs

namespace Ardents.Lib.Restarts

set_option autoImplicit false

/-- A component with stores `σ`, requests to open it `ω`, calls `χ` and answers `ρ`. -/
structure Component (δ σ ε ω χ ρ : Type) where
  opens : ω → Program δ ε σ
  calls : σ → χ → Program δ ε (σ × ρ)
  /-- What a call that was refused makes of the store. -/
  refused : σ → χ → ε → σ

/-- `cut` is the number of effects after which the process stops. -/
inductive Event (ω χ : Type) where
  | opens (request : ω) (cut : Option Nat)
  | calls (call : χ) (cut : Option Nat)
  /-- The store is closed, or its process stops between two calls. -/
  | closes
  deriving DecidableEq

structure World (δ σ ω χ ρ : Type) where
  disk : δ
  held : Option σ
  /-- The events so far, newest first, with the answer of a call that returned one. -/
  past : List (Event ω χ × Option ρ)

section Steps

variable {δ σ ε ω χ ρ : Type}

def World.start (disk : δ) : World δ σ ω χ ρ := ⟨disk, none, []⟩

/-- The process stops during a program. -/
def World.stopped {α : Type} (world : World δ σ ω χ ρ) (event : Event ω χ) (program : Program δ ε α)
    (effects : Nat) : Option (World δ σ ω χ ρ) :=
  (program.stops world.disk)[effects]?.map fun disk => ⟨disk, none, (event, none) :: world.past⟩

variable (component : Component δ σ ε ω χ ρ)

/-- Only one process at a time holds a store. -/
def stepOpens (world : World δ σ ω χ ρ) (request : ω) (cut : Option Nat) : Option (World δ σ ω χ ρ) :=
  match world.held, cut with
  | some _, _ => none
  | none, some effects => world.stopped (.opens request cut) (component.opens request) effects
  | none, none =>
    some ⟨(component.opens request).final world.disk, ((component.opens request).result world.disk).toOption,
      (.opens request none, none) :: world.past⟩

def stepCalls (world : World δ σ ω χ ρ) (call : χ) (cut : Option Nat) : Option (World δ σ ω χ ρ) :=
  match world.held, cut with
  | none, _ => none
  | some store, some effects => world.stopped (.calls call cut) (component.calls store call) effects
  | some store, none =>
    match (component.calls store call).result world.disk with
    | .ok (next, answer) =>
      some ⟨(component.calls store call).final world.disk, some next, (.calls call none, some answer) :: world.past⟩
    | .error refusal =>
      some ⟨(component.calls store call).final world.disk, some (component.refused store call refusal),
        (.calls call none, none) :: world.past⟩

def step (world : World δ σ ω χ ρ) : Event ω χ → Option (World δ σ ω χ ρ)
  | .opens request cut => stepOpens component world request cut
  | .calls call cut => stepCalls component world call cut
  | .closes => some ⟨world.disk, none, (.closes, none) :: world.past⟩

/-! ## What a step can do -/

variable {component} {world next : World δ σ ω χ ρ} {on : δ → Prop} {refused : ε → δ → Prop} {cut : Option Nat}
  {store : σ} {call : χ} {request : ω}

/-- An open finds no store held, and stops, gives a store, or is refused. -/
theorem opens_cases (stepped : step component world (.opens request cut) = some next) :
    world.held = none ∧
      ((∃ effects point, cut = some effects ∧ ((component.opens request).stops world.disk)[effects]? = some point ∧
          next = ⟨point, none, (.opens request cut, none) :: world.past⟩) ∨
        (∃ store, cut = none ∧ (component.opens request).result world.disk = .ok store ∧
          next = ⟨(component.opens request).final world.disk, some store, (.opens request cut, none) :: world.past⟩) ∨
        ∃ refusal, cut = none ∧ (component.opens request).result world.disk = .error refusal ∧
          next = ⟨(component.opens request).final world.disk, none, (.opens request cut, none) :: world.past⟩) := by
  have opened : stepOpens component world request cut = some next := stepped
  unfold stepOpens at opened
  split at opened
  · cases opened
  · next effects free =>
    obtain ⟨point, found, rfl⟩ := Option.map_eq_some_iff.1 opened
    exact ⟨free, .inl ⟨effects, point, rfl, found, rfl⟩⟩
  next free =>
  obtain rfl := Option.some.inj opened
  refine ⟨free, .inr ?_⟩
  cases answer : (component.opens request).result world.disk with
  | ok store => exact .inl ⟨store, rfl, rfl, rfl⟩
  | error refusal => exact .inr ⟨refusal, rfl, rfl, rfl⟩

/-- A call of the store that is held stops, returns, or is refused. -/
theorem calls_cases (held : world.held = some store)
    (stepped : step component world (.calls call cut) = some next) :
    (∃ effects point, cut = some effects ∧ ((component.calls store call).stops world.disk)[effects]? = some point ∧
        next = ⟨point, none, (.calls call cut, none) :: world.past⟩) ∨
      (∃ later answer, cut = none ∧ (component.calls store call).result world.disk = .ok (later, answer) ∧
        next = ⟨(component.calls store call).final world.disk, some later,
          (.calls call cut, some answer) :: world.past⟩) ∨
      ∃ refusal, cut = none ∧ (component.calls store call).result world.disk = .error refusal ∧
        next = ⟨(component.calls store call).final world.disk, some (component.refused store call refusal),
          (.calls call cut, none) :: world.past⟩ := by
  unfold step stepCalls at stepped
  rw [held] at stepped
  cases cut with
  | some effects =>
    obtain ⟨point, found, rfl⟩ := Option.map_eq_some_iff.1 stepped
    exact .inl ⟨effects, point, rfl, found, rfl⟩
  | none =>
    dsimp only at stepped
    cases answer : (component.calls store call).result world.disk with
    | ok value =>
      rw [answer] at stepped
      exact .inr (.inl ⟨value.1, value.2, rfl, rfl, (Option.some.inj stepped).symm⟩)
    | error refusal =>
      rw [answer] at stepped
      exact .inr (.inr ⟨refusal, rfl, rfl, (Option.some.inj stepped).symm⟩)

/-- An open stops, gives a store, or is refused. -/
theorem step_opens {after : σ → δ → Prop}
    (stepped : step component world (.opens request cut) = some next)
    (meets : Program.Meets (component.opens request) world.disk on after refused) (start : on world.disk) :
    world.held = none ∧
      ((∃ point, on point ∧ next = ⟨point, none, (.opens request cut, none) :: world.past⟩) ∨
        (∃ store point, after store point ∧ next = ⟨point, some store, (.opens request cut, none) :: world.past⟩) ∨
        ∃ refusal point, refused refusal point ∧
          next = ⟨point, none, (.opens request cut, none) :: world.past⟩) := by
  obtain ⟨free, cases⟩ := opens_cases stepped
  refine ⟨free, ?_⟩
  obtain ⟨effects, point, -, found, rfl⟩ | ⟨store, -, answer, rfl⟩ | ⟨refusal, -, answer, rfl⟩ := cases
  · exact .inl ⟨point, meets.stops start point (List.mem_of_getElem? found), rfl⟩
  · exact .inr (.inl ⟨store, _, meets.ok store answer, rfl⟩)
  · exact .inr (.inr ⟨refusal, _, meets.error refusal answer, rfl⟩)

/-- A call of the store that is held stops, returns, or is refused. -/
theorem step_calls {after : σ × ρ → δ → Prop} (held : world.held = some store)
    (stepped : step component world (.calls call cut) = some next)
    (meets : Program.Meets (component.calls store call) world.disk on after refused) (start : on world.disk) :
    (∃ point, on point ∧ next = ⟨point, none, (.calls call cut, none) :: world.past⟩ ∧ cut ≠ none) ∨
      (∃ later answer point, after (later, answer) point ∧ cut = none ∧
        (component.calls store call).result world.disk = .ok (later, answer) ∧
        next = ⟨point, some later, (.calls call cut, some answer) :: world.past⟩) ∨
      ∃ refusal point, refused refusal point ∧ cut = none ∧
        (component.calls store call).result world.disk = .error refusal ∧
        next = ⟨point, some (component.refused store call refusal), (.calls call cut, none) :: world.past⟩ := by
  obtain ⟨effects, point, rfl, found, rfl⟩ | ⟨later, answer, uncut, answered, rfl⟩ | ⟨refusal, uncut, answered, rfl⟩ :=
    calls_cases held stepped
  · exact .inl ⟨point, meets.stops start point (List.mem_of_getElem? found), rfl, nofun⟩
  · exact .inr (.inl ⟨later, answer, _, meets.ok _ answered, uncut, answered, rfl⟩)
  · exact .inr (.inr ⟨refusal, _, meets.error refusal answered, uncut, answered, rfl⟩)

theorem held_of_calls (stepped : step component world (.calls call cut) = some next) :
    ∃ store, world.held = some store := by
  cases held : world.held with
  | none =>
    unfold step stepCalls at stepped
    rw [held] at stepped
    cases stepped
  | some store => exact ⟨store, rfl⟩

end Steps

end Ardents.Lib.Restarts
