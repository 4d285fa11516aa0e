/-
# Endpoint.IntroductionReplay — what keeps a capsule from being accepted twice

The replay set, the openings and the capsules under way, without the receivers that carry
them: `Core`.  Every critical section of a text context is a step of its core
(`step_moves`), and the bounds are invariants of the core.

* `Sound.window` — at most four openings are reserved in any second.
* `Sound.replays` — at most 2640 nonces are remembered: each belongs to a reservation of the last
  660 seconds.
* `accepted_once_when_alone` — no nonce is accepted again before it is forgotten, as long as no
  capsule is inspected while another one with its nonce is under way.
* `one_capsule_two_receivers` — two receivers that inspect copies of one capsule before either
  accepts it both accept it.
-/
import Ardents.Endpoint.Introductions

namespace Ardents.Endpoint

open Lib

set_option autoImplicit false

/-! ## The core of a text context -/

/-- A slot, until when it is registered, and when that was asked for. -/
structure Grant where
  slot : Digest
  expiry : Int
  asked : Int

def Registration.grant (registration : Registration) : Grant :=
  ⟨registration.slot, registration.expiry, registration.asked⟩

/-- A capsule under way, with the number of its opening. -/
structure Cargo where
  opening : Nat
  capsule : Capsule

def Cargo.nonce (cargo : Cargo) : Digest := cargo.capsule.deliveryNonce

def Flight.cargo (flight : Flight) : Cargo := ⟨flight.opening, flight.capsule⟩

structure Core where
  clock : Int
  held : List Grant
  granted : List Grant
  replays : Table Digest Int
  openings : Openings
  reservations : List Int
  cargo : List Cargo
  accepted : List Acceptance

def TextContext.core (owner : TextContext) : Core where
  clock := owner.clock
  held := (owner.registration.toList ++ owner.previousRegistration.toList).map Registration.grant
  granted := owner.registrations.map Registration.grant
  replays := owner.introductionReplays
  openings := owner.introductionOpenings
  reservations := owner.reservations
  cargo := owner.flights.map Flight.cargo
  accepted := owner.accepted

namespace Core

/-- What has run out is forgotten. -/
def purged (core : Core) : Core :=
  { core with replays := core.replays.filter fun _ expiry => decide (core.clock < expiry) }

/-- An opening is reserved. -/
def reserved (core : Core) : Core :=
  { core with
    openings := ⟨core.openings.second, core.openings.third, core.openings.fourth, core.clock⟩
    reservations := core.clock :: core.reservations }

/-- A capsule is accepted for a grant. -/
def record (core : Core) (cargo : Cargo) (grant : Grant) (time : Int) (rest : List Cargo) : Core :=
  { core with
    clock := time
    cargo := rest
    replays := core.replays.put cargo.nonce (grant.expiry + 60 * second)
    accepted := ⟨cargo.opening, cargo.nonce, time, grant.expiry + 60 * second⟩ :: core.accepted }

/-- The steps of the core.  The label is the nonce of the capsule that sets out. -/
inductive Moves (core : Core) : Option Digest → Core → Prop where
  /-- time passes, registrations end, capsules are refused -/
  | idles {clock : Int} {held : List Grant} {cargo : List Cargo} (later : core.clock ≤ clock)
      (kept : held ⊆ core.held) (fewer : cargo.Sublist core.cargo) :
      Moves core none { core with clock := clock, held := held, cargo := cargo }
  | grants {grant : Grant} {held : List Grant} (asked : grant.asked ≤ core.clock)
      (bounded : grant.expiry ≤ grant.asked + 600 * second) (fresh : grant.slot ∉ core.granted.map Grant.slot)
      (kept : held ⊆ grant :: core.held) :
      Moves core none { core with held := held, granted := grant :: core.granted }
  | purges : Moves core none core.purged
  | reserves (spaced : core.openings.first + second ≤ core.clock) : Moves core none core.purged.reserved
  | launches {capsule : Capsule} {grant : Grant} (spaced : core.openings.first + second ≤ core.clock)
      (unseen : core.purged.replays.find capsule.deliveryNonce = none) (registered : grant ∈ core.held)
      (slot : grant.slot = capsule.slot) :
      Moves core (some capsule.deliveryNonce)
        { core.purged.reserved with cargo := ⟨core.reservations.length, capsule⟩ :: core.cargo }
  | accepts {cargo : Cargo} {grant : Grant} {time : Int} {rest : List Cargo} (carried : cargo ∈ core.cargo)
      (fewer : rest.Sublist core.cargo) (gone : ∀ other ∈ rest, other.opening ≠ cargo.opening)
      (later : core.clock ≤ time) (registered : grant ∈ core.held) (slot : grant.slot = cargo.capsule.slot)
      (live : time < grant.expiry) : Moves core none (core.record cargo grant time rest)

end Core

namespace TextContext

variable {setting : Setting} {owner next : TextContext}

/-! ## Every critical section is a step of the core -/

@[simp] theorem core_setPhase (id : Nat) (receiver : Receiver) (phase : Phase) :
    (owner.setPhase id receiver phase).core = owner.core := rfl

@[simp] theorem core_fail (id : Nat) (receiver : Receiver) : (owner.fail id receiver).core = owner.core := rfl

@[simp] theorem core_move (opening : Nat) (place : Place) : (owner.move opening place).core = owner.core := by
  have same : (owner.move opening place).flights.map Flight.cargo = owner.flights.map Flight.cargo := by
    rw [move, List.map_map]
    apply List.map_congr_left
    intro flight _
    simp only [Function.comp_apply]
    split <;> rfl
  rw [core, core, same]
  rfl

@[simp] theorem core_take (id : Nat) (receiver : Receiver) (flight : Flight) :
    (owner.take id receiver flight).core = owner.core := by
  rw [take, core_setPhase, core_move]

theorem core_withReceivers (receivers : Table Nat Receiver) :
    { owner with receivers := receivers }.core = owner.core := rfl

theorem core_withRecoveries (recoveries : Table Nat Recovery) :
    { owner with recoveries := recoveries }.core = owner.core := rfl

theorem core_withGate (gate : Bool) : { owner with gate := gate }.core = owner.core := rfl

/-- Nothing changes but that capsules are refused. -/
def Sheds (owner next : TextContext) : Prop :=
  ∃ rest : List Cargo, rest.Sublist owner.core.cargo ∧ next.core = { owner.core with cargo := rest }

theorem Sheds.same (same : next.core = owner.core) : Sheds owner next :=
  ⟨owner.core.cargo, List.Sublist.refl _, same⟩

variable {completed : Bool} {flight : Flight} {id : Nat} {receiver : Receiver}
  {middle : TextContext}

theorem Sheds.trans (first : Sheds owner middle) (later : Sheds middle next) : Sheds owner next := by
  obtain ⟨rest, fewer, reached⟩ := first
  obtain ⟨rest', fewer', reached'⟩ := later
  rw [reached] at fewer' reached'
  exact ⟨rest', fewer'.trans fewer, reached'⟩

/-- What is not in the core may change as well. -/
theorem Sheds.then (first : Sheds owner middle) (same : next.core = middle.core) : Sheds owner next :=
  first.trans (.same same)

theorem sheds_refuse (place : Place) : Sheds owner (owner.refuse place) :=
  ⟨(owner.refuse place).core.cargo, List.filter_sublist.map _, rfl⟩

theorem Sheds.moves (sheds : Sheds owner next) : Core.Moves owner.core none next.core := by
  obtain ⟨rest, fewer, reached⟩ := sheds
  rw [reached]
  exact .idles (Int.le_refl _) (List.Subset.refl _) fewer

theorem sheds_enter (id : Nat) (want : DeliveryKey) (recoveryDeadline : Option Int) :
    Sheds owner (owner.enter id want recoveryDeadline) := .same rfl

theorem sheds_adopt (id : Nat) (want : DeliveryKey) (name : Nat) (recovery : Recovery) :
    Sheds owner (owner.adopt id want name recovery) := by
  unfold adopt
  split
  · exact .same rfl
  · exact .same ((core_withRecoveries _).trans (core_move _ _))

theorem sheds_registerTextIntroductionWaiter {want : DeliveryKey} {recovery : Option (Nat × Int)}
    (entered : owner.registerTextIntroductionWaiter id want recovery = some next) : Sheds owner next := by
  unfold registerTextIntroductionWaiter at entered
  split at entered
  · cases entered
  split at entered
  · split at entered
    · cases entered
      exact .same rfl
    · cases entered
  obtain ⟨held, _, entered⟩ := Option.bind_eq_some_iff.1 entered
  split at entered
  · cases entered
    exact (sheds_enter id want _).trans (sheds_adopt id want _ held)
  · cases entered

theorem sheds_takeGate (taken : owner.takeGate id receiver = some next) : Sheds owner next := by
  unfold takeGate at taken
  split at taken
  · cases taken
  split at taken
  · cases taken
    exact .same (core_take id receiver _)
  · split at taken <;> cases taken
    exact .same rfl

theorem sheds_refuseTextIntroductionDelivery (id : Nat) (receiver : Receiver) (completed : Bool) :
    Sheds owner (owner.refuseTextIntroductionDelivery id receiver completed) := by
  unfold refuseTextIntroductionDelivery
  split
  · exact (sheds_refuse (.inspected id)).then rfl
  · exact (sheds_refuse (.inspected id)).then rfl

theorem sheds_routeDelivery {waiter recovery : Option Nat}
    (routed : owner.routeDelivery id receiver flight waiter recovery completed = some next) : Sheds owner next := by
  unfold routeDelivery at routed
  cases waiter with
  | some target =>
    dsimp only at routed
    split at routed
    · cases routed
    split at routed
    · cases routed
      exact .same ((core_withGate _).trans (core_take id receiver flight))
    · cases routed
      exact .same ((core_setPhase id receiver .consuming).trans (core_move flight.opening _))
  | none =>
    dsimp only at routed
    split at routed
    · cases routed
    cases recovery with
    | some name =>
      dsimp only at routed
      split at routed
      · obtain ⟨held, _, rfl⟩ := Option.map_eq_some_iff.1 routed
        unfold bufferTextIntroductionRecovery
        split
        · exact .same ((core_withRecoveries _).trans
            ((core_setPhase id receiver .consuming).trans (core_move flight.opening _)))
        · exact sheds_refuseTextIntroductionDelivery id receiver completed
      · cases routed
    | none =>
      dsimp only at routed
      split at routed <;> cases routed
      exact sheds_refuseTextIntroductionDelivery id receiver completed

theorem sheds_releaseTextIntroductionWaiter
    (released : owner.releaseTextIntroductionWaiter id receiver completed = some next) : Sheds owner next := by
  unfold releaseTextIntroductionWaiter at released
  split at released
  · cases released
    exact (sheds_refuse (.assigned id)).then rfl
  · split at released
    · cases released
      exact ((sheds_refuse (.assigned id)).trans (sheds_refuse (.returned id))).then rfl
    · obtain ⟨flight, _, rfl⟩ := Option.map_eq_some_iff.1 released
      exact (sheds_refuse (.assigned id)).then ((core_withReceivers _).trans (core_move _ _))
  · cases released

/-- The registration a capsule is read with is held. -/
theorem registered_held {capsule : Capsule} {registered : Registration}
    (found : owner.registered capsule = some registered) :
    registered.grant ∈ owner.core.held := by
  refine List.mem_map_of_mem (List.mem_append.2 ?_)
  rw [Option.mem_toList, Option.mem_toList]
  unfold TextContext.registered at found
  split at found
  · exact .inl found
  next prior previous =>
  split at found
  · cases found
    exact .inr previous
  · exact .inl found

theorem moves_openTextRegistration {refresh : Bool} {opened : Registration}
    (registers : owner.openTextRegistration refresh opened = some next) : Core.Moves owner.core none next.core := by
  unfold openTextRegistration at registers
  split at registers
  · cases registers
  next checks =>
  simp only [not_or, Int.not_lt] at checks
  obtain ⟨_, _, asked, _, bounded, fresh⟩ := checks
  have fresh : opened.grant.slot ∉ owner.core.granted.map Grant.slot := by
    have slots : owner.core.granted.map Grant.slot = owner.registrations.map Registration.slot := List.map_map ..
    rwa [slots]
  split at registers
  · next none =>
    cases registers
    refine @Core.Moves.grants owner.core opened.grant _ asked bounded fresh ?_
    simp only [core, install, none]
    exact List.cons_subset_cons _ (List.Subset.refl _)
  · next previous current =>
    split at registers
    · cases registers
      refine @Core.Moves.grants owner.core opened.grant _ asked bounded fresh ?_
      simp only [core, install, current]
      exact List.cons_subset_cons _ (by simp)
    · cases registers
  · cases registers

theorem moves_publishTextDescriptor (publishes : owner.publishTextDescriptor = some next) :
    Core.Moves owner.core none next.core := by
  unfold publishTextDescriptor at publishes
  split at publishes
  · cases publishes
  next current found =>
  split at publishes
  · cases publishes
    exact (Sheds.same rfl).moves
  cases publishes
  refine (Sheds.same ?_).moves
  rw [core, core, found]
  rfl

/-- The capsule that a receiver claimed and is about to inspect. -/
def claimedCapsule (owner : TextContext) (id : Nat) : Option Capsule :=
  (owner.receivers.find id).bind fun receiver =>
    match receiver.phase with
    | .claimed delivery => delivery
    | _ => none

/-- A capsule is inspected while none with its nonce is under way. -/
def Alone (owner : TextContext) : IntroductionEvent → Prop
  | .inspects id _ => ∀ capsule ∈ owner.claimedCapsule id, ∀ flight ∈ owner.flights,
      flight.capsule.deliveryNonce ≠ capsule.deliveryNonce
  | _ => True

instance (owner : TextContext) (event : IntroductionEvent) : Decidable (Alone owner event) := by
  cases event <;> unfold Alone <;> infer_instance

/-- What an inspection does to the core. -/
theorem moves_inspectTextIntroductionDelivery (id : Nat) (receiver : Receiver) (capsule : Capsule) (entitled : Bool) :
    ∃ label, Core.Moves owner.core label
      (inspectTextIntroductionDelivery setting owner id receiver capsule entitled).core ∧
      ∀ nonce, label = some nonce → nonce = capsule.deliveryNonce := by
  unfold inspectTextIntroductionDelivery
  split
  · exact ⟨none, (Sheds.same (core_fail id receiver)).moves, nofun⟩
  next registered found =>
  obtain ⟨found, checks⟩ := Option.filter_eq_some_iff.1 found
  simp only [inspectable, Bool.and_eq_true, decide_eq_true_eq] at checks
  split
  · next free =>
    simp only [openingFree, Bool.and_eq_true, Bool.not_eq_true', decide_eq_true_eq] at free
    split
    · exact ⟨none, .reserves free.2, nofun⟩
    next key opened =>
    refine ⟨_, .launches free.2 ?_ (registered_held found) checks.2.1.1.1.2.symm, ?_⟩
    · exact Option.isNone_iff_eq_none.1 (Option.isSome_eq_false_iff.1 free.1.1.1)
    · rintro nonce ⟨⟩
      rfl
  · exact ⟨none, .purges, nofun⟩

theorem moves_accept {entitled : Bool} {elapsed : Nat} (carried : flight ∈ owner.flights)
    (accepts : owner.accept setting flight entitled elapsed = some next) : Core.Moves owner.core none next.core := by
  have fewer : ((owner.land flight.opening elapsed).core.cargo).Sublist owner.core.cargo := List.filter_sublist.map _
  have later : owner.clock ≤ owner.clock + elapsed := by omega
  unfold accept at accepts
  split at accepts
  · next want recoveryDeadline place =>
    split at accepts
    · cases accepts
      exact .idles later (List.Subset.refl _) fewer
    next registered plaintext found =>
    cases accepts
    obtain ⟨_, first, found⟩ := Option.bind_eq_some_iff.1 found
    obtain ⟨_, second, same⟩ := Option.map_eq_some_iff.1 found
    cases same
    obtain ⟨first, checks⟩ := Option.filter_eq_some_iff.1 first
    obtain ⟨_, times⟩ := Option.filter_eq_some_iff.1 second
    simp only [acceptable, bound, Bool.and_eq_true, decide_eq_true_eq] at checks times
    refine @Core.Moves.accepts owner.core flight.cargo registered.grant _ _ (List.mem_map_of_mem carried) fewer ?_ later
      (registered_held first) checks.2.1.1.1.2.symm (Int.lt_of_lt_of_le times.1.2 checks.2.2)
    intro other member
    obtain ⟨kept, among, rfl⟩ := List.mem_map.1 member
    have other := (List.mem_filter.1 among).2
    simpa [Flight.cargo] using other
  · cases accepts

/-- **Every critical section is a step of the core**, and a capsule that sets out alone has a
nonce that no other one under way has. -/
theorem step_moves {event : IntroductionEvent} (stepped : owner.step setting event = some next) :
    ∃ label, Core.Moves owner.core label next.core ∧
      (Alone owner event → ∀ nonce, label = some nonce → nonce ∉ owner.core.cargo.map Cargo.nonce) := by
  cases event with
  | tick elapsed =>
    cases stepped
    exact ⟨none, .idles (by simp [core]) (List.Subset.refl _) (List.Sublist.refl _), by rintro _ _ ⟨⟩⟩
  | registers refresh opened => exact ⟨none, moves_openTextRegistration stepped, by rintro _ _ ⟨⟩⟩
  | publishes => exact ⟨none, moves_publishTextDescriptor stepped, by rintro _ _ ⟨⟩⟩
  | drops | retires =>
    cases stepped
    exact ⟨none, .idles (Int.le_refl _) (by simp [core]) (List.Sublist.refl _), by rintro _ _ ⟨⟩⟩
  | enters id want recovery => exact ⟨none, (sheds_registerTextIntroductionWaiter stepped).moves, by rintro _ _ ⟨⟩⟩
  | takesGate id =>
    obtain ⟨receiver, _, stepped⟩ := Option.bind_eq_some_iff.1 stepped
    exact ⟨none, (sheds_takeGate stepped).moves, by rintro _ _ ⟨⟩⟩
  | cancels id | claims id delivery | claimFails id =>
    obtain ⟨receiver, _, stepped⟩ := Option.bind_eq_some_iff.1 stepped
    split at stepped <;> cases stepped
    exact ⟨none, (Sheds.same rfl).moves, by rintro _ _ ⟨⟩⟩
  | inspects id entitled =>
    obtain ⟨receiver, found, stepped⟩ := Option.bind_eq_some_iff.1 stepped
    split at stepped
    · cases stepped
      exact ⟨none, (Sheds.same rfl).moves, by rintro _ _ ⟨⟩⟩
    · next capsule claimed =>
      cases stepped
      obtain ⟨label, moves, named⟩ := moves_inspectTextIntroductionDelivery id receiver capsule entitled
      refine ⟨label, moves, fun alone nonce labelled member => ?_⟩
      obtain ⟨_, among, same⟩ := List.mem_map.1 member
      obtain ⟨flight, under, rfl⟩ := List.mem_map.1 among
      have asked : owner.claimedCapsule id = some capsule := by
        rw [claimedCapsule, found, Option.bind_some, claimed]
      exact alone capsule asked flight under (same.trans (named nonce labelled))
    · cases stepped
  | routes id waiter recovery completed =>
    obtain ⟨receiver, _, stepped⟩ := Option.bind_eq_some_iff.1 stepped
    obtain ⟨flight, _, stepped⟩ := Option.bind_eq_some_iff.1 stepped
    exact ⟨none, (sheds_routeDelivery stepped).moves, by rintro _ _ ⟨⟩⟩
  | releases id completed =>
    obtain ⟨receiver, _, stepped⟩ := Option.bind_eq_some_iff.1 stepped
    exact ⟨none, (sheds_releaseTextIntroductionWaiter stepped).moves, by rintro _ _ ⟨⟩⟩
  | accepts opening entitled elapsed =>
    obtain ⟨flight, found, stepped⟩ := Option.bind_eq_some_iff.1 stepped
    exact ⟨none, moves_accept (List.mem_of_find?_eq_some found) stepped, by rintro _ _ ⟨⟩⟩
  | retains name connection =>
    rw [step, retainTextIntroductionRecovery] at stepped
    split at stepped <;> cases stepped
    exact ⟨none, (Sheds.same rfl).moves, by rintro _ _ ⟨⟩⟩
  | expires name =>
    obtain ⟨recovery, _, stepped⟩ := Option.bind_eq_some_iff.1 stepped
    unfold expireTextIntroductionRecovery at stepped
    split at stepped
    · cases stepped
    · split at stepped <;> cases stepped
      exact ⟨none, ((sheds_refuse (.buffered name)).then rfl).moves, by rintro _ _ ⟨⟩⟩
  | forgets name =>
    rw [step] at stepped
    split at stepped <;> cases stepped
    exact ⟨none, ((sheds_refuse (.buffered name)).then rfl).moves, by rintro _ _ ⟨⟩⟩

end TextContext

namespace Core

/-! ## The openings and the replay set are bounded -/

/-- The four openings, newest first. -/
def recent (openings : Openings) : List Int := [openings.fourth, openings.third, openings.second, openings.first]

/-- The instant of the opening with a number. -/
def OpenedAt (core : Core) (opening : Nat) (time : Int) : Prop := core.reservations.reverse[opening]? = some time

/-- The acceptances of the last 2640 openings. -/
def lately (core : Core) : List Acceptance :=
  core.accepted.filter fun acceptance =>
    decide (acceptance.opening < core.reservations.length ∧
      core.reservations.length ≤ acceptance.opening + maximumTextIntroductionReplays)

/-- What holds of every core. -/
structure Sound (core : Core) : Prop where
  known : core.held ⊆ core.granted
  slots : (core.granted.map Grant.slot).Nodup
  terms : ∀ grant ∈ core.granted, grant.asked ≤ core.clock ∧ grant.expiry ≤ grant.asked + 600 * second
  recent : recent core.openings = (core.reservations ++ List.replicate 4 zeroTime).take 4
  past : ∀ time ∈ core.reservations, time ≤ core.clock
  paced : Paced 4 second core.reservations
  cargo : ∀ cargo ∈ core.cargo, ∃ time, core.OpenedAt cargo.opening time ∧
    ∃ grant ∈ core.granted, grant.slot = cargo.capsule.slot ∧ grant.asked ≤ time
  accepted : ∀ acceptance ∈ core.accepted, ∃ time, core.OpenedAt acceptance.opening time ∧
    acceptance.remembered ≤ time + 660 * second
  distinct : (core.cargo.map Cargo.opening ++ core.accepted.map Acceptance.opening).Nodup
  replays : ∀ nonce expiry, core.replays.find nonce = some expiry →
    (∃ acceptance ∈ core.accepted, acceptance.nonce = nonce ∧ acceptance.remembered = expiry) ∧
      ∀ newest ∈ core.reservations.head?, newest < expiry

section

variable {core next : Core} {label : Option Digest} {cargo : Cargo} {capsule : Capsule} {grant : Grant} {time : Int}
  {rest : List Cargo} (carried : cargo ∈ core.cargo) (fewer : rest.Sublist core.cargo)
  (gone : ∀ other ∈ rest, other.opening ≠ cargo.opening) (later : core.clock ≤ time)

/-- A new opening leaves the numbers of the others. -/
theorem OpenedAt.reserved {opening : Nat} (opened : core.OpenedAt opening time) :
    core.purged.reserved.OpenedAt opening time := by
  have inside := (List.getElem?_eq_some_iff.1 opened).1
  rw [OpenedAt, Core.reserved, List.reverse_cons]
  show (core.reservations.reverse ++ [core.clock])[opening]? = some time
  rw [List.getElem?_append_left inside]
  exact opened

/-- The new opening has the next number. -/
theorem openedAt_reserved : core.purged.reserved.OpenedAt core.reservations.length core.clock := by
  rw [OpenedAt, reserved, List.reverse_cons, List.getElem?_append_right (by simp [purged])]
  simp [purged]

theorem OpenedAt.lt {opening : Nat} (opened : core.OpenedAt opening time) :
    opening < core.reservations.length := by
  simpa using (List.getElem?_eq_some_iff.1 opened).1

namespace Sound

variable (sound : Sound core)

include sound

theorem purged : Sound core.purged :=
  { sound with replays := fun nonce expiry found => sound.replays nonce expiry (Table.find_filter.1 found).1 }

/-- The first of the four openings is the fourth reservation back. -/
theorem fourth_back {earlier : Int} (found : core.reservations[3]? = some earlier) :
    core.openings.first = earlier := by
  have inside := (List.getElem?_eq_some_iff.1 found).1
  have last := congrArg (fun times => times[3]?) sound.recent
  rw [List.getElem?_take_of_lt (by decide), List.getElem?_append_left inside, found] at last
  simpa [Core.recent] using last

/-- A reservation is a step of the pace. -/
theorem reserved (spaced : core.openings.first + second ≤ core.clock) :
    Sound core.purged.reserved where
  __ := sound
  recent := by
    have before := congrArg (List.take 3) sound.recent
    rw [List.take_take] at before
    have front : Core.recent core.purged.reserved.openings = core.clock :: (Core.recent core.openings).take 3 := rfl
    rw [front, before]
    rfl
  past := by
    intro time member
    rcases List.mem_cons.1 member with rfl | earlier
    · exact Int.le_refl _
    · exact sound.past time earlier
  paced := by
    refine ⟨sound.past, fun earlier found => ?_, sound.paced⟩
    rw [← sound.fourth_back found]
    exact spaced
  cargo := by
    intro cargo member
    obtain ⟨time, opened, grant⟩ := sound.cargo cargo member
    exact ⟨time, opened.reserved, grant⟩
  accepted := by
    intro acceptance member
    obtain ⟨time, opened, bounded⟩ := sound.accepted acceptance member
    exact ⟨time, opened.reserved, bounded⟩
  replays := by
    intro nonce expiry found
    obtain ⟨before, live⟩ := Table.find_filter.1 found
    refine ⟨(sound.replays nonce expiry before).1, ?_⟩
    rintro newest ⟨⟩
    exact of_decide_eq_true live

/-- A capsule sets out with the number of its reservation. -/
theorem launched (spaced : core.openings.first + second ≤ core.clock)
    (registered : grant ∈ core.held) (slot : grant.slot = capsule.slot) :
    Sound { core.purged.reserved with cargo := ⟨core.reservations.length, capsule⟩ :: core.cargo } := by
  have before := sound.reserved spaced
  refine { before with cargo := ?_, distinct := ?_ }
  · intro cargo member
    rcases List.mem_cons.1 member with rfl | earlier
    · have granted := sound.known registered
      exact ⟨core.clock, openedAt_reserved, grant, granted, slot, (sound.terms grant granted).1⟩
    · exact before.cargo cargo earlier
  · refine List.nodup_cons.2 ⟨fun member => ?_, sound.distinct⟩
    have below : core.reservations.length < core.reservations.length := by
      rcases List.mem_append.1 member with among | among
      · obtain ⟨cargo, under, same⟩ := List.mem_map.1 among
        obtain ⟨time, opened, _⟩ := sound.cargo cargo under
        have smaller := opened.lt
        rwa [same] at smaller
      obtain ⟨acceptance, under, same⟩ := List.mem_map.1 among
      obtain ⟨time, opened, _⟩ := sound.accepted acceptance under
      have smaller := opened.lt
      rwa [same] at smaller
    exact Nat.lt_irrefl _ below

/-- The registration that a capsule is accepted for was there when it was inspected, so its
nonce is remembered for 660 seconds after that at most. -/
theorem remembered (carried : cargo ∈ core.cargo) (registered : grant ∈ core.held)
    (slot : grant.slot = cargo.capsule.slot) :
    ∃ time, core.OpenedAt cargo.opening time ∧ grant.expiry + 60 * second ≤ time + 660 * second := by
  obtain ⟨time, opened, other, granted, same, asked⟩ := sound.cargo cargo carried
  -- slots are never given twice, so it is the same registration
  have one : other = grant :=
    List.inj_on_of_nodup_map sound.slots granted (sound.known registered) (same.trans slot.symm)
  subst one
  refine ⟨time, opened, ?_⟩
  have bounded := (sound.terms other granted).2
  omega

include carried fewer gone later in
theorem recorded (registered : grant ∈ core.held) (slot : grant.slot = cargo.capsule.slot)
    (live : time < grant.expiry) :
    Sound (core.record cargo grant time rest) where
  __ := sound
  terms other member := ⟨Int.le_trans (sound.terms other member).1 later, (sound.terms other member).2⟩
  past earlier member := Int.le_trans (sound.past earlier member) later
  cargo other member := sound.cargo other (fewer.subset member)
  accepted := by
    intro acceptance member
    rcases List.mem_cons.1 member with rfl | earlier
    · exact sound.remembered carried registered slot
    · exact sound.accepted acceptance earlier
  distinct := by
    have before := List.nodup_append.1 sound.distinct
    refine List.nodup_append.2 ⟨before.1.sublist (fewer.map _), List.nodup_cons.2 ⟨fun member => ?_, before.2.1⟩, ?_⟩
    · exact before.2.2 _ (List.mem_map_of_mem carried) _ member rfl
    intro opening under other member
    obtain ⟨left, among, rfl⟩ := List.mem_map.1 under
    rcases List.mem_cons.1 member with rfl | earlier
    · exact gone left among
    · exact before.2.2 _ (List.mem_map_of_mem (fewer.subset among)) other earlier
  replays := by
    intro nonce expiry found
    simp only [record, Table.find_put] at found
    split at found
    · next same =>
      cases found
      refine ⟨⟨_, List.mem_cons_self, same, rfl⟩, fun newest last => ?_⟩
      have before := sound.past newest (List.mem_of_mem_head? last)
      have positive : (0 : Int) < second := by decide
      omega
    · obtain ⟨⟨acceptance, member, facts⟩, live'⟩ := sound.replays nonce expiry found
      exact ⟨⟨acceptance, List.mem_cons_of_mem _ member, facts⟩, live'⟩

/-- **Every step keeps the bounds.** -/
theorem step (moves : Moves core label next) : Sound next := by
  cases moves with
  | idles later kept fewer =>
    refine { sound with known := ?_, terms := ?_, past := ?_, cargo := ?_, distinct := ?_ }
    · exact List.Subset.trans kept sound.known
    · intro grant member
      exact ⟨Int.le_trans (sound.terms grant member).1 later, (sound.terms grant member).2⟩
    · intro time member
      exact Int.le_trans (sound.past time member) later
    · intro cargo member
      exact sound.cargo cargo (fewer.subset member)
    · exact sound.distinct.sublist ((fewer.map _).append (List.Sublist.refl _))
  | grants asked bounded fresh kept =>
    refine { sound with known := ?_, slots := ?_, terms := ?_, cargo := ?_ }
    · exact List.Subset.trans kept (List.cons_subset_cons _ sound.known)
    · exact List.nodup_cons.2 ⟨fresh, sound.slots⟩
    · intro grant member
      rcases List.mem_cons.1 member with rfl | earlier
      · exact ⟨asked, bounded⟩
      · exact sound.terms grant earlier
    · intro cargo member
      obtain ⟨time, opened, grant, granted, facts⟩ := sound.cargo cargo member
      exact ⟨time, opened, grant, List.mem_cons_of_mem _ granted, facts⟩
  | purges => exact sound.purged
  | reserves spaced => exact sound.reserved spaced
  | launches spaced unseen registered slot => exact sound.launched spaced registered slot
  | accepts carried fewer gone later registered slot live =>
    exact sound.recorded carried fewer gone later registered slot live

/-- At most four openings are reserved in any second. -/
theorem window (start : Int) : core.reservations.countP (inWindow start second) ≤ 4 :=
  sound.paced.count_le start

/-- A remembered nonce belongs to one of the last 2640 openings. -/
theorem opening_recent {nonce : Digest} {expiry : Int} (found : core.replays.find nonce = some expiry) :
    ∃ acceptance ∈ core.accepted, acceptance.nonce = nonce ∧ acceptance.opening < core.reservations.length ∧
      core.reservations.length ≤ acceptance.opening + maximumTextIntroductionReplays := by
  obtain ⟨⟨acceptance, member, same, rfl⟩, live⟩ := sound.replays nonce expiry found
  obtain ⟨time, opened, bounded⟩ := sound.accepted acceptance member
  have below := opened.lt
  refine ⟨acceptance, member, same, below, ?_⟩
  have place : core.reservations[core.reservations.length - 1 - acceptance.opening]? = some time := by
    rw [← List.getElem?_reverse below]
    exact opened
  have positive : 0 < core.reservations.length := by omega
  have last : core.reservations[0]? = some core.reservations[0] := List.getElem?_eq_getElem positive
  have newest := live core.reservations[0] (by rw [List.head?_eq_getElem?]; exact last)
  have near : core.reservations.length - 1 - acceptance.opening < 4 * 660 := sound.paced.index_lt last place (by
    omega)
  rw [maximumTextIntroductionReplays]
  omega

/-- There are no more of them than numbers. -/
theorem lately_length : core.lately.length ≤ maximumTextIntroductionReplays := by
  have openings := (List.nodup_append.1 sound.distinct).2.1
  have distinct : (core.lately.map Acceptance.opening).Nodup := openings.sublist (List.filter_sublist.map _)
  have within : core.lately.map Acceptance.opening ⊆
      List.range' (core.reservations.length - maximumTextIntroductionReplays) maximumTextIntroductionReplays := by
    intro opening member
    obtain ⟨acceptance, among, rfl⟩ := List.mem_map.1 member
    have bounds := of_decide_eq_true (List.mem_filter.1 among).2
    rw [List.mem_range'_1]
    omega
  simpa using (List.subperm_of_subset distinct within).length_le

/-- **The replay set never exceeds 2640 entries.** -/
theorem replays_size : core.replays.size ≤ maximumTextIntroductionReplays := by
  have keys : ∀ nonce ∈ core.replays.keys, nonce ∈ core.lately.map Acceptance.nonce := by
    intro nonce member
    obtain ⟨expiry, found⟩ := Table.find_of_mem_keys member
    obtain ⟨acceptance, among, same, bounds⟩ := sound.opening_recent found
    exact List.mem_map.2 ⟨acceptance, List.mem_filter.2 ⟨among, decide_eq_true bounds⟩, same⟩
  calc core.replays.size
      ≤ (core.lately.map Acceptance.nonce).length := Table.size_le_of_keys keys
    _ = core.lately.length := List.length_map ..
    _ ≤ maximumTextIntroductionReplays := sound.lately_length

end Sound

/-! ## A nonce is accepted once -/

/-- No nonce is accepted again before it is forgotten. -/
def AcceptedOnce (core : Core) : Prop :=
  core.accepted.Pairwise fun later earlier => later.nonce = earlier.nonce → earlier.remembered ≤ later.time

/-- What holds while no two capsules under way have one nonce. -/
structure Single (core : Core) : Prop where
  alone : (core.cargo.map Cargo.nonce).Nodup
  /-- a capsule is under way only after the last acceptance of its nonce was forgotten -/
  forgotten : ∀ cargo ∈ core.cargo, ∀ acceptance ∈ core.accepted, acceptance.nonce = cargo.nonce →
    acceptance.remembered ≤ core.clock
  remembered : ∀ acceptance ∈ core.accepted,
    acceptance.remembered ≤ core.clock ∨ core.replays.find acceptance.nonce = some acceptance.remembered
  once : core.AcceptedOnce

namespace Single

variable (single : Single core)

include single

theorem purged : Single core.purged where
  __ := single
  remembered := by
    intro acceptance member
    rcases single.remembered acceptance member with past | found
    · exact .inl past
    · by_cases live : core.clock < acceptance.remembered
      · exact .inr (Table.find_filter.2 ⟨found, decide_eq_true live⟩)
      · exact .inl (Int.not_lt.1 live)

theorem launched {opening : Nat} (unseen : core.purged.replays.find capsule.deliveryNonce = none)
    (fresh : capsule.deliveryNonce ∉ core.cargo.map Cargo.nonce) :
    Single { core.purged.reserved with cargo := ⟨opening, capsule⟩ :: core.cargo } where
  alone := List.nodup_cons.2 ⟨fresh, single.alone⟩
  forgotten := by
    intro cargo member acceptance among same
    rcases List.mem_cons.1 member with rfl | earlier
    · -- the nonce is not remembered, so it is forgotten
      rcases single.purged.remembered acceptance among with past | found
      · exact past
      · have same : acceptance.nonce = capsule.deliveryNonce := same
        rw [same, unseen] at found
        cases found
    · exact single.forgotten cargo earlier acceptance among same
  remembered := single.purged.remembered
  once := single.once

include carried fewer gone later in
theorem recorded : Single (core.record cargo grant time rest) where
  alone := single.alone.sublist (fewer.map _)
  forgotten := by
    intro other member acceptance among same
    rcases List.mem_cons.1 among with rfl | earlier
    · -- another capsule under way with this nonce would be the same one
      have one := List.inj_on_of_nodup_map single.alone (fewer.subset member) carried same.symm
      exact (gone other member (congrArg Cargo.opening one)).elim
    · exact Int.le_trans (single.forgotten other (fewer.subset member) acceptance earlier same) later
  remembered := by
    intro acceptance among
    simp only [record, Table.find_put]
    rcases List.mem_cons.1 among with rfl | earlier
    · exact .inr (if_pos rfl)
    by_cases same : cargo.nonce = acceptance.nonce
    · exact .inl (Int.le_trans (single.forgotten cargo carried acceptance earlier same.symm) later)
    · rw [if_neg same]
      exact (single.remembered acceptance earlier).imp (fun past => Int.le_trans past later) id
  once := List.pairwise_cons.2 ⟨fun acceptance earlier same =>
    Int.le_trans (single.forgotten cargo carried acceptance earlier same.symm) later, single.once⟩

/-- **Every step that no capsule sets out in beside one of its nonce keeps the nonces apart.** -/
theorem step (moves : Moves core label next)
    (alone : ∀ nonce, label = some nonce → nonce ∉ core.cargo.map Cargo.nonce) : Single next := by
  cases moves with
  | idles later kept fewer =>
    refine { single with alone := ?_, forgotten := ?_, remembered := ?_ }
    · exact single.alone.sublist (fewer.map _)
    · intro cargo member acceptance among same
      exact Int.le_trans (single.forgotten cargo (fewer.subset member) acceptance among same) later
    · intro acceptance among
      exact (single.remembered acceptance among).imp (fun past => Int.le_trans past later) id
  | grants => exact { single with }
  | purges => exact single.purged
  | reserves => exact { single.purged with }
  | launches spaced unseen => exact single.launched unseen (alone _ rfl)
  | accepts carried fewer gone later => exact single.recorded carried fewer gone later

end Single

end

end Core

namespace TextContext

/-- A nonce is accepted at most once while it is to be remembered, at most four openings are
reserved in any second, and the replay set is bounded. -/
def Guarded (owner : TextContext) : Prop :=
  (owner.accepted.Pairwise fun later earlier => later.nonce = earlier.nonce → earlier.remembered ≤ later.time) ∧
    (∀ start, owner.reservations.countP (inWindow start second) ≤ 4) ∧
    owner.introductionReplays.size ≤ maximumTextIntroductionReplays

theorem sound_start (clock : Int) : (start clock).core.Sound where
  known := List.Subset.refl _
  slots := List.nodup_nil
  terms := nofun
  recent := rfl
  past := nofun
  paced := trivial
  cargo := nofun
  accepted := nofun
  distinct := List.nodup_nil
  replays := nofun

theorem single_start (clock : Int) : (start clock).core.Single where
  alone := List.nodup_nil
  forgotten := nofun
  remembered := nofun
  once := List.Pairwise.nil

end TextContext

/-- **Alone, a capsule is accepted once.**  In every run in which no capsule is inspected while
another one with its nonce is under way, no nonce is accepted twice before its registration's
expiry plus 60 seconds; the rate of openings and the size of the replay set are bounded. -/
theorem accepted_once_when_alone (setting : Setting) (clock : Int) (events : List IntroductionEvent)
    (alone : Along (TextContext.step setting) TextContext.Alone (TextContext.start clock) events) :
    Throughout (TextContext.step setting) TextContext.Guarded (TextContext.start clock) events := by
  have invariant : Throughout (TextContext.step setting) (fun owner => owner.core.Sound ∧ owner.core.Single)
      (TextContext.start clock) events := by
    refine Along.throughout ?_ ⟨TextContext.sound_start clock, TextContext.single_start clock⟩ alone
    rintro owner event next ⟨sound, single⟩ apart stepped
    obtain ⟨label, moves, fresh⟩ := TextContext.step_moves stepped
    exact ⟨sound.step moves, single.step moves (fresh apart)⟩
  refine invariant.imp ?_
  rintro owner ⟨sound, single⟩
  exact ⟨single.once, sound.window, sound.replays_size⟩

/-- **The reservations are bounded in every run**, also with copies under way together; none leads
to two acceptances.  An acceptance opens its capsule again, under the same reservation. -/
theorem introduction_load_bounded (setting : Setting) (clock : Int) (events : List IntroductionEvent) :
    Throughout (TextContext.step setting) (fun owner =>
      (∀ start, owner.reservations.countP (inWindow start second) ≤ 4) ∧
      owner.introductionReplays.size ≤ maximumTextIntroductionReplays ∧
      (owner.accepted.map Acceptance.opening).Nodup) (TextContext.start clock) events := by
  have sound : Throughout (TextContext.step setting) (·.core.Sound) (TextContext.start clock) events := by
    refine throughout_of_invariant ?_ ?_ events
    · intro owner event next sound stepped
      obtain ⟨_, moves, _⟩ := TextContext.step_moves stepped
      exact sound.step moves
    · exact TextContext.sound_start clock
  exact sound.imp fun _ sound => ⟨sound.window, sound.replays_size, (List.nodup_append.1 sound.distinct).2.1⟩

/-! ## Two copies of one capsule -/

namespace IntroductionSample

/-- Every capsule opens as the first generation of one connection. -/
def setting : Setting := ⟨fun _ _ _ => some ⟨Digest.filled 3, 1, 500 * second⟩⟩

def capsule : Capsule := ⟨Digest.filled 1, 1, 400 * second, Digest.filled 2, []⟩

def registration : Registration := ⟨Digest.filled 1, 1, 600 * second, false, 0⟩

def wanted : DeliveryKey := ⟨Digest.zero, 1⟩

/-- A receiver takes the gate, claims the capsule, inspects it and routes it to itself. -/
def receives (id : Nat) : List IntroductionEvent :=
  [.takesGate id, .claims id (some capsule), .inspects id true, .routes id (some id) none true, .releases id true]

def opening : List IntroductionEvent := [.registers false registration, .publishes]

/-- One receiver after the other: the second copy is refused. -/
def inTurn : List IntroductionEvent :=
  opening ++ [.enters 0 wanted none] ++ receives 0 ++ [.accepts 0 true 5, .enters 1 wanted none, .takesGate 1,
    .claims 1 (some capsule), .inspects 1 true]

/-- Both receivers inspect their copy before either accepts it. -/
def together : List IntroductionEvent :=
  opening ++ [.enters 0 wanted none, .enters 1 wanted none] ++ receives 0 ++ receives 1 ++
    [.accepts 0 true 5, .accepts 1 true 5]

end IntroductionSample

open IntroductionSample

theorem in_turn_accepted_once :
    Along (TextContext.step setting) TextContext.Alone (TextContext.start 0) inTurn ∧
      (run (TextContext.step setting) (TextContext.start 0) inTurn).isSome ∧
      Throughout (TextContext.step setting) TextContext.Guarded (TextContext.start 0) inTurn :=
  have alone : Along (TextContext.step setting) TextContext.Alone (TextContext.start 0)
      inTurn := by decide +kernel
  ⟨alone, by decide +kernel, accepted_once_when_alone setting 0 inTurn alone⟩

/-- The two receivers of `together` accept one nonce five nanoseconds apart. -/
theorem one_capsule_two_receivers :
    ∃ owner, run (TextContext.step setting) (TextContext.start 0) together = some owner ∧
      ¬ owner.Guarded := by
  have ran : (run (TextContext.step setting) (TextContext.start 0) together).any
      (fun owner => decide (owner.accepted =
        [⟨1, Digest.filled 2, 10, 660 * second⟩, ⟨0, Digest.filled 2, 5, 660 * second⟩])) =
        true := by decide +kernel
  obtain ⟨owner, reached, accepted⟩ := (Option.any_eq_true _ _).1 ran
  refine ⟨owner, reached, fun guarded => ?_⟩
  have once := guarded.1
  rw [of_decide_eq_true accepted, List.pairwise_cons] at once
  have again := once.1 _ List.mem_cons_self rfl
  exact absurd again (by decide)

end Ardents.Endpoint
