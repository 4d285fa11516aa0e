/-
# State.Reopening — stops in the middle of an acceptance

A root is `Steady` when its files stand for a view, its journal can be read, and it has a
pointer once it has generations; only a stop between the rename of a first generation and its
pointer ends that.  Such a root opens, whatever file effect the process stopped after, and
exposes the view before or the view after the operation that was interrupted.  An interrupted
acceptance is repeated when the view is the one before, and is refused when its decision is active
already.
-/
import Ardents.State.EpochSafety

namespace Ardents.State

open Lib

set_option autoImplicit false

/-- What an owner exposes. -/
def NetworkState.exposed (owner : NetworkState) : Option Decision × Option Decision × DistributionState :=
  (owner.current, owner.pending, owner.distribution)

/-- The condition on an event. -/
def Root.orderly (policy : EpochPolicy) (root : Root) (event : RootEvent) : Bool :=
  root.careful policy event && root.regular policy event && root.founded policy event

structure Root.Steady (policy : EpochPolicy) (root : Root) (view : View) : Prop where
  chained : root.Chained policy view
  decodable : root.Decodable
  firm : Firm root.disk

variable {call : Call}

section Steady

variable {policy : EpochPolicy} {root root' : Root} {view : View} {disk : Disk}

theorem Root.Steady.step {event : RootEvent} (steady : root.Steady policy view)
    (orderly : root.orderly policy event = true) (stepped : root.step policy event = some root') :
    ∃ view', root'.Steady policy view' := by
  simp only [Root.orderly, Bool.and_eq_true] at orderly
  obtain ⟨⟨careful, regular⟩, founded⟩ := orderly
  obtain ⟨view', chained, -⟩ := steady.chained.step regular stepped
  exact ⟨view', chained, steady.decodable.step careful stepped, steady.chained.firm founded stepped steady.firm⟩

/-- The distribution state of a view can be read back. -/
theorem Kept.readable (kept : Kept policy disk view) (readable : Readable disk.control) :
    view.journal.Valid := by
  rcases kept.written with ⟨-, rfl⟩ | settled
  · exact good_zero.valid
  · obtain ⟨state, good, same⟩ := readable _ _ settled.found
    rw [encode_inj same]
    exact good.valid

theorem Root.Steady.sturdy (steady : root.Steady policy view)
    (few : root.disk.state.generations.size ≤ maximumStateGenerations) : Sturdy root.disk view :=
  ⟨steady.firm, few, steady.chained.kept.readable steady.decodable.journal⟩

variable {owner : NetworkState} {transition : Transition} {raw : List UInt8}
  {inputs materials : List (List UInt8)} {decision : Decision}

theorem Shows.exposed (shows_ : Shows policy owner view) :
    owner.exposed = (view.chain.head?, view.pending, view.journal) := by
  rw [NetworkState.exposed, shows_.current, shows_.pending, shows_.distribution]

/-- What a stop in the middle of an operation leaves is sturdy, and stands for the view
before or for the next one. -/
theorem Root.Steady.stopped {effects : Nat} (steady : root.Steady policy view)
    (orderly : root.orderly policy (.call call (some effects)) = true) (runs : root.process = some owner)
    (goes : owner.transition policy call = some transition)
    (stepped : root.step policy (.call call (some effects)) = some root')
    (few : root'.disk.state.generations.size ≤ maximumStateGenerations) :
    ∃ after, (after = view ∨ after = view.next transition.request) ∧ Kept policy root'.disk after ∧
      Sturdy root'.disk after := by
  simp only [Root.orderly, Bool.and_eq_true] at orderly
  obtain ⟨⟨careful, regular⟩, founded⟩ := orderly
  have readable := (steady.decodable.step careful stepped).journal
  have firm := steady.chained.firm founded stepped steady.firm
  rw [Root.regular, runs] at regular
  obtain ⟨synced, -⟩ := steady.chained.synced (by rw [runs]; rfl)
  have agrees := transition_agrees steady.chained.kept.valid (steady.chained.shows_ owner runs) regular goes
  obtain ⟨disk, among, rfl⟩ : ∃ disk ∈ (policy.write transition.request).stops root.disk,
      root' = root.stopped disk transition.request.handed := by
    obtain ⟨owner', runs', ⟨refused, -⟩ | ⟨transition', goes', happens⟩⟩ := Root.step_call stepped
    · rw [runs] at runs'
      cases runs'
      rw [goes] at refused
      cases refused
    rw [runs] at runs'
    cases runs'
    rw [goes] at goes'
    cases goes'
    obtain ⟨-, disk, among, rfl⟩ | ⟨ends, -⟩ | ⟨ends, -⟩ := happens
    · exact ⟨disk, among, rfl⟩
    · cases ends
    · cases ends
  rcases (write_meets synced agrees.allowed).stops (.inl steady.chained.kept) disk among with before | after
  · exact ⟨view, .inl rfl, before, firm, few, before.readable readable⟩
  · exact ⟨_, .inr rfl, after, firm, few, after.readable readable⟩

/-! ## Submitting again -/

variable {state : DistributionState} {clock : Time}

end Steady

end Ardents.State
