/-
# Route.JoinSafety — at most two sides share a JOIN secret

`JoinLedger` is what matters of an owner of JOIN pairs: which secret has an entry, which
sides a pair has, what each side was reserved with, and how often each duty channel was
released.  Timers, clocks, streams and stopped pairs are not in it.  An owner's step is
at most one `Move` of its ledger, and a `Sound` ledger stays so.

A side that is not released keeps the entry of its secret.  From that follow the claims
on secrets: a new entry for a secret comes only after all sides of the old one are gone.
-/
import Ardents.Route.JoinPairing

namespace Ardents.Route

open Lib Table Function

set_option autoImplicit false

/-! ## The ledger -/

structure PairFacts where
  secret : Block 32
  context : Block 32
  profile : Block 32
  side1 : Option Nat
  side2 : Option Nat

def PairFacts.side (pair : PairFacts) (number : UInt8) : Option Nat :=
  if number = 1 then pair.side1 else pair.side2

def PairFacts.setSide (pair : PairFacts) (number : UInt8) (side : Nat) : PairFacts :=
  if number = 1 then { pair with side1 := some side } else { pair with side2 := some side }

/-- The pair without the texts that identify it. -/
def PairFacts.clear (pair : PairFacts) : PairFacts :=
  { pair with secret := Block.zero 32, context := Block.zero 32, profile := Block.zero 32 }

theorem PairFacts.side_setSide (pair : PairFacts) {number : UInt8} (known : number = 1 ∨ number = 2)
    (side : Nat) {other : UInt8} (known' : other = 1 ∨ other = 2) :
    (pair.setSide number side).side other = if other = number then some side else pair.side other := by
  rcases known with rfl | rfl <;> rcases known' with rfl | rfl <;> rfl

@[simp] theorem PairFacts.setSide_secret (pair : PairFacts) (number : UInt8) (side : Nat) :
    (pair.setSide number side).secret = pair.secret := by
  unfold setSide
  split <;> rfl

@[simp] theorem PairFacts.setSide_context (pair : PairFacts) (number : UInt8) (side : Nat) :
    (pair.setSide number side).context = pair.context := by
  unfold setSide
  split <;> rfl

@[simp] theorem PairFacts.setSide_profile (pair : PairFacts) (number : UInt8) (side : Nat) :
    (pair.setSide number side).profile = pair.profile := by
  unfold setSide
  split <;> rfl

structure SideFacts where
  pair : Nat
  duty : Option Nat
  taken : Bool
  confirmed : Bool
  closed : Bool
  results : Nat
  origin : JoinOrigin

def SideFacts.secret (side : SideFacts) : Block 32 := side.origin.request.secret

def SideFacts.number (side : SideFacts) : UInt8 := side.origin.request.side

/-- A side that was just reserved. -/
def SideFacts.new (pair : Nat) (origin : JoinOrigin) : SideFacts :=
  ⟨pair, some origin.duty, false, false, false, 0, origin⟩

structure JoinLedger where
  entries : Table (Block 32) Nat
  pairs : Nat → Option PairFacts
  sides : Nat → Option SideFacts
  leases : Nat → Option (Option Nat)
  duties : Nat → Option Nat
  closed : Bool
  drained : Bool

variable {lease duty count : Nat}

namespace JoinLedger

def setSide (ledger : JoinLedger) (id : Nat) (side : SideFacts) : JoinLedger :=
  { ledger with sides := update ledger.sides id (some side) }

/-- `side` sits down at `pair`, and takes the duty channel of `lease` with it. -/
def seated (ledger : JoinLedger) (lease id : Nat) (pair : PairFacts) (side : Nat)
    (origin : JoinOrigin) : JoinLedger :=
  { ledger with
    pairs := update ledger.pairs id (some (pair.setSide origin.request.side side))
    sides := update ledger.sides side (some (.new id origin))
    leases := update ledger.leases lease (some none) }

/-- `side` gives its duty channel back. -/
def released (ledger : JoinLedger) (id : Nat) (side : SideFacts) (count : Nat) : JoinLedger :=
  { ledger with
    sides := update ledger.sides id (some { side with closed := true, duty := none })
    duties := update ledger.duties side.origin.duty (some (count + 1)) }

/-- The entry of a pair goes away. -/
def retired (ledger : JoinLedger) (id : Nat) (pair : PairFacts) : JoinLedger :=
  { ledger with
    entries := ledger.entries.erase pair.secret
    pairs := update ledger.pairs id (some pair.clear)
    drained := ledger.drained ||
      (ledger.closed && decide ((ledger.entries.erase pair.secret).size = 0)) }

/-- Every side of the pair is released. -/
def AllClosed (ledger : JoinLedger) (pair : Nat) : Prop :=
  ∀ id side, ledger.sides id = some side → side.pair = pair → side.closed = true

/-- What a step of the owner can do to its ledger. -/
inductive Move (ledger : JoinLedger) : JoinLedger → Prop where
  | stay : Move ledger ledger
  | take {id : Nat} {side : SideFacts} (found : ledger.sides id = some side)
      (first : side.taken = false) (count : Nat) (once : count ≤ side.results + 1) :
      Move ledger (ledger.setSide id { side with taken := true, results := count })
  | confirm {id : Nat} {side : SideFacts} (found : ledger.sides id = some side)
      (taken : side.taken = true) : Move ledger (ledger.setSide id { side with confirmed := true })
  | admitLease {lease duty : Nat} (newLease : ledger.leases lease = none)
      (newDuty : ledger.duties duty = none) :
      Move ledger { ledger with
        leases := update ledger.leases lease (some (some duty))
        duties := update ledger.duties duty (some 0) }
  | leave {lease duty count : Nat} (leased : ledger.leases lease = some (some duty))
      (known : ledger.duties duty = some count) :
      Move ledger { ledger with
        leases := update ledger.leases lease (some none)
        duties := update ledger.duties duty (some (count + 1)) }
  | join {lease id side : Nat} {pair : PairFacts} {origin : JoinOrigin}
      (entry : ledger.entries.find origin.request.secret = some id)
      (known : ledger.pairs id = some pair) (context : pair.context = origin.request.context)
      (profile : pair.profile = origin.profile)
      (number : origin.request.side = 1 ∨ origin.request.side = 2)
      (empty : pair.side origin.request.side = none)
      (newSide : ledger.sides side = none) (leased : ledger.leases lease = some (some origin.duty)) :
      Move ledger (ledger.seated lease id pair side origin)
  | start {lease id side : Nat} {origin : JoinOrigin}
      (entry : ledger.entries.find origin.request.secret = none)
      (room : ledger.entries.size < closedDutyChannels)
      (number : origin.request.side = 1 ∨ origin.request.side = 2)
      (newPair : ledger.pairs id = none) (newSide : ledger.sides side = none)
      (leased : ledger.leases lease = some (some origin.duty)) (running : ledger.closed = false) :
      Move ledger ({ ledger with entries := ledger.entries.put origin.request.secret id }.seated
        lease id ⟨origin.request.secret, origin.request.context, origin.profile, none, none⟩ side
        origin)
  | release {id count : Nat} {side : SideFacts} (found : ledger.sides id = some side)
      (live : side.closed = false) (known : ledger.duties side.origin.duty = some count) :
      Move ledger (ledger.released id side count)
  | retire {id count : Nat} {side : SideFacts} {pair : PairFacts}
      (found : ledger.sides id = some side) (live : side.closed = false)
      (known : ledger.duties side.origin.duty = some count)
      (place : ledger.pairs side.pair = some pair)
      (all : (ledger.released id side count).AllClosed side.pair) :
      Move ledger ((ledger.released id side count).retired side.pair pair)
  | shut (drained : Bool) (last : drained = true → ledger.drained = true ∨ ledger.entries.size = 0) :
      Move ledger { ledger with closed := true, drained }

/-! ## Sound ledgers -/

structure Sound (ledger : JoinLedger) : Prop where
  seat : ∀ id side, ledger.sides id = some side → (side.number = 1 ∨ side.number = 2) ∧
    ∃ pair, ledger.pairs side.pair = some pair ∧ pair.side side.number = some id
  named : ∀ secret id, ledger.entries.find secret = some id →
    ∃ pair, ledger.pairs id = some pair ∧ pair.secret = secret
  -- while the entry is there, the pair has the texts of its sides
  agrees : ∀ id side pair, ledger.sides id = some side →
    ledger.entries.find side.secret = some side.pair → ledger.pairs side.pair = some pair →
      pair.context = side.origin.request.context ∧ pair.profile = side.origin.profile
  held : ∀ id side, ledger.sides id = some side → side.closed = false →
    ledger.entries.find side.secret = some side.pair
  owns : ∀ id side, ledger.sides id = some side → side.closed = false →
    side.duty = some side.origin.duty
  small : ledger.entries.size ≤ closedDutyChannels
  results : ∀ id side, ledger.sides id = some side →
    side.results ≤ side.taken.toNat ∧ (side.confirmed = true → side.taken = true)
  releases : ∀ id side, ledger.sides id = some side →
    ledger.duties side.origin.duty = some side.closed.toNat
  sole : ∀ id id' side side', ledger.sides id = some side → ledger.sides id' = some side' →
    side.origin.duty = side'.origin.duty → id = id'
  leased : ∀ lease duty, ledger.leases lease = some (some duty) → ledger.duties duty = some 0 ∧
    ∀ id side, ledger.sides id = some side → side.origin.duty ≠ duty
  soleLease : ∀ lease lease' duty, ledger.leases lease = some (some duty) →
    ledger.leases lease' = some (some duty) → lease = lease'
  drained : ledger.drained = true → ledger.closed = true ∧ ledger.entries.size = 0

variable {ledger next : JoinLedger}

attribute [grind] SideFacts.number SideFacts.secret SideFacts.new
attribute [grind =] PairFacts.setSide_secret PairFacts.setSide_context PairFacts.setSide_profile

section Kept

variable (sound : ledger.Sound)

include sound

/-- A side may take its RESULT or confirm it. -/
theorem Sound.setSide {id : Nat} {side side' : SideFacts} (found : ledger.sides id = some side)
    (pair : side'.pair = side.pair) (origin : side'.origin = side.origin)
    (closed : side'.closed = side.closed) (duty : side'.duty = side.duty)
    (results : side'.results ≤ side'.taken.toNat ∧ (side'.confirmed = true → side'.taken = true)) :
    (ledger.setSide id side').Sound := by
  have seat := sound.seat id side found
  have agrees := sound.agrees id side
  have held := sound.held id side found
  have releases := sound.releases id side found
  unfold JoinLedger.setSide
  exact { sound with
    seat := by grind [sound.seat]
    agrees := by grind [sound.agrees]
    held := by grind [sound.held]
    owns := by grind [sound.owns]
    results := by grind [→ sound.results]
    releases := by grind [sound.releases]
    sole := by grind [sound.sole]
    leased := by grind [sound.leased] }

/-- A role channel is admitted on a new duty channel. -/
theorem Sound.admitLease (newDuty : ledger.duties duty = none) : Sound { ledger with
      leases := update ledger.leases lease (some (some duty))
      duties := update ledger.duties duty (some 0) } := by
  have unowned : ∀ id side, ledger.sides id = some side → side.origin.duty ≠ duty := by
    grind [sound.releases]
  have unleased : ∀ other, ledger.leases other ≠ some (some duty) := by
    grind [sound.leased]
  exact { sound with
    releases := by grind [sound.releases]
    leased := by grind [sound.leased]
    soleLease := by grind [sound.soleLease] }

/-- A lease that was not handed over gives its duty channel back. -/
theorem Sound.leave (leased : ledger.leases lease = some (some duty)) : Sound { ledger with
      leases := update ledger.leases lease (some none)
      duties := update ledger.duties duty (some count) } := by
  have unowned := (sound.leased lease duty leased).2
  exact { sound with
    releases := by grind [sound.releases]
    leased := by grind [sound.leased, sound.soleLease]
    soleLease := by grind [sound.soleLease] }

variable {origin : JoinOrigin} {pair : PairFacts}

/-- A lease is handed over to a new side of `pair`, whose entry is there. -/
theorem Sound.seated {id : Nat} (side : Nat)
    (entry : ledger.entries.find origin.request.secret = some id)
    (known : ledger.pairs id = some pair) (context : pair.context = origin.request.context)
    (profile : pair.profile = origin.profile)
    (number : origin.request.side = 1 ∨ origin.request.side = 2)
    (empty : pair.side origin.request.side = none)
    (leased : ledger.leases lease = some (some origin.duty)) :
    (ledger.seated lease id pair side origin).Sound := by
  obtain ⟨unreleased, unowned⟩ := sound.leased lease origin.duty leased
  have places := fun (other : UInt8) => @PairFacts.side_setSide pair _ number side other
  unfold JoinLedger.seated
  exact { sound with
    seat := by grind [sound.seat]
    named := by grind [sound.named]
    agrees := by grind [sound.agrees]
    held := by grind [sound.held]
    owns := by grind [sound.owns]
    results := by grind [→ sound.results]
    releases := by grind [sound.releases]
    sole := by grind [sound.sole]
    leased := by grind [sound.leased, sound.soleLease]
    soleLease := by grind [sound.soleLease] }

/-- A new pair gets the entry of its secret; no side is at it yet. -/
theorem Sound.start {id : Nat} (entry : ledger.entries.find origin.request.secret = none)
    (room : ledger.entries.size < closedDutyChannels) (newPair : ledger.pairs id = none)
    (running : ledger.closed = false) (pair : PairFacts)
    (secret : pair.secret = origin.request.secret) : Sound { ledger with
      entries := ledger.entries.put origin.request.secret id
      pairs := update ledger.pairs id (some pair) } := by
  have elsewhere : ∀ key value, ledger.sides key = some value → value.pair ≠ id := by
    grind [→ sound.seat]
  exact { sound with
    seat := by grind [sound.seat]
    named := by grind [sound.named, find_put]
    agrees := by grind [sound.agrees, find_put]
    held := by grind [sound.held, find_put]
    small := (size_put_fresh id entry).trans_le room
    drained := by grind [sound.drained] }

/-- A side that was not released gives its duty channel back; only then may the entry of
its pair go away. -/
theorem Sound.released {id : Nat} {side : SideFacts} (found : ledger.sides id = some side)
    (live : side.closed = false) (known : ledger.duties side.origin.duty = some count) :
    (ledger.released id side count).Sound := by
  have none : count = 0 := by
    have before := sound.releases id side found
    rw [known, live] at before
    exact Option.some.inj before
  have seat := sound.seat id side found
  have agrees := sound.agrees id side
  unfold JoinLedger.released
  exact { sound with
    seat := by grind [sound.seat]
    agrees := by grind [sound.agrees]
    held := by grind [sound.held]
    owns := by grind [sound.owns]
    results := by grind [→ sound.results]
    releases := by grind [sound.releases, sound.sole, Bool.toNat]
    sole := by grind [sound.sole]
    leased := by grind [sound.leased] }

/-- The entry of a pair goes away once all its sides are released. -/
theorem Sound.retired {id : Nat} (place : ledger.pairs id = some pair)
    (entry : ledger.entries.find pair.secret = some id) (all : ledger.AllClosed id) :
    (ledger.retired id pair).Sound := by
  have shrunk : (ledger.entries.erase pair.secret).size + 1 = ledger.entries.size :=
    size_erase entry
  have small := sound.small
  unfold JoinLedger.retired
  exact { sound with
    seat := by grind [sound.seat, PairFacts.clear, PairFacts.side]
    named := by grind [sound.named, find_erase]
    agrees := by grind [sound.agrees, sound.named, find_erase]
    held := by grind [sound.held, find_erase, JoinLedger.AllClosed]
    small := by grind [JoinLedger.retired]
    drained := by grind [sound.drained, JoinLedger.retired] }

end Kept

/-! ## Every move keeps a ledger sound -/

theorem Move.sound (move : Move ledger next) (sound : ledger.Sound) : next.Sound := by
  cases move with
  | stay => exact sound
  | take found first count once =>
    obtain ⟨few, confirmed⟩ := sound.results _ _ found
    refine sound.setSide found rfl rfl rfl rfl ⟨?_, fun _ => rfl⟩
    rw [first] at few
    exact once.trans (Nat.succ_le_succ few)
  | confirm found taken =>
    obtain ⟨few, _⟩ := sound.results _ _ found
    exact sound.setSide found rfl rfl rfl rfl ⟨few, fun _ => taken⟩
  | admitLease newLease newDuty => exact sound.admitLease newDuty
  | leave leased known => exact sound.leave leased
  | join entry known context profile number empty _ leased =>
    exact sound.seated _ entry known context profile number empty leased
  | @start lease id side origin entry room number newPair _ leased running =>
    let pair : PairFacts :=
      ⟨origin.request.secret, origin.request.context, origin.profile, none, none⟩
    have started := sound.start entry room newPair running pair rfl
    have empty : pair.side origin.request.side = none := by
      unfold PairFacts.side
      split <;> rfl
    have seated := started.seated side ((find_put ..).trans (if_pos rfl))
      (update_self ..) rfl rfl number empty leased
    rwa [JoinLedger.seated, update_idem] at seated
  | release found live known => exact sound.released found live known
  | @retire id count side pair found live known place all =>
    have released := sound.released found live known
    have entry := sound.held id side found live
    obtain ⟨_, at_, named⟩ := sound.named _ _ entry
    cases place.symm.trans at_
    rw [← named] at entry
    exact released.retired place entry all
  | shut drained last =>
    refine { sound with drained := fun last' => ⟨rfl, ?_⟩ }
    rcases last last' with before | empty
    · exact (sound.drained before).2
    · exact empty

end JoinLedger

/-! ## The ledger of an owner -/

def ClosedJoinPair.facts (pair : ClosedJoinPair) : PairFacts :=
  ⟨pair.secret, pair.context, pair.profile, pair.side1, pair.side2⟩

def ClosedJoinSide.facts (side : ClosedJoinSide) : SideFacts :=
  ⟨side.pair, side.duty, side.resultTaken, side.confirmed, side.closed, side.results, side.origin⟩

namespace ClosedJoinPairs

def ledger (owner : ClosedJoinPairs) : JoinLedger :=
  { entries := owner.entries
    pairs := fun id => (owner.pairs.find id).map ClosedJoinPair.facts
    sides := fun id => (owner.sides.find id).map ClosedJoinSide.facts
    leases := fun id => (owner.leases.find id).map JoinLease.duty
    duties := fun id => (owner.duties.find id).map JoinDuty.releases
    closed := owner.closed
    drained := owner.drained }

variable {owner : ClosedJoinPairs} {id : Nat}

variable {side side' : ClosedJoinSide} {pair : ClosedJoinPair} {request : ClosedJoinRequest}
  {frame : ClosedLaneFrame} {next : ClosedJoinPairs}

section Quiet

variable (owner id)

end Quiet

variable {later : ClosedJoinPairs} {clock : JoinClock} {value : JoinLease} {place peer : Nat}
  {input : ServeInput} {phase : ServePhase}

open JoinLedger (Move)

section Released

variable (sound : owner.ledger.Sound)

include sound

end Released

/-! ### Reserving -/

/-- The side holds its JOIN secret: the entry of the secret is that of its pair. -/
def holds (owner : ClosedJoinPairs) (secret : Block 32) (side : ClosedJoinSide) : Bool :=
  decide (side.origin.request.secret = secret) && decide (owner.entries.find secret = some side.pair)

def holders (owner : ClosedJoinPairs) (secret : Block 32) : List (Nat × ClosedJoinSide) :=
  owner.sides.entries.filter fun entry => owner.holds secret entry.2

/-- Every side of the pair has taken its RESULT and confirmed it. -/
def BothConfirmed (owner : ClosedJoinPairs) (pair : ClosedJoinPair) : Prop :=
  pair.members.length = 2 ∧ ∀ id ∈ pair.members, ∃ side, owner.sides.find id = some side ∧
    side.resultTaken = true ∧ side.confirmed = true

structure Safe (owner : ClosedJoinPairs) : Prop where
  two : ∀ secret, (owner.holders secret).length ≤ 2
  matched : ∀ secret id id' side side', owner.sides.find id = some side →
    owner.sides.find id' = some side' → owner.holds secret side = true →
    owner.holds secret side' = true → id ≠ id' →
      side.origin.request.side ≠ side'.origin.request.side ∧
      side.origin.request.context = side'.origin.request.context ∧
      side.origin.profile = side'.origin.profile
  forwards : ∀ id frame clock peer, (owner.forwardFrame id frame clock).1 = .ok peer →
    ∃ side pair, owner.sides.find id = some side ∧
      (owner.forwardFrame id frame clock).2.pairs.find side.pair = some pair ∧
      pair.stopped = false ∧ peer ∈ pair.members ∧ peer ≠ id ∧ owner.BothConfirmed pair
  results : ∀ id side, owner.sides.find id = some side → side.results ≤ 1
  bounded : owner.entries.size ≤ closedDutyChannels
  -- an entry is there as long as one of its sides is not released
  kept : ∀ id side, owner.sides.find id = some side → side.closed = false →
    owner.holds side.origin.request.secret side = true
  released : ∀ id side, owner.sides.find id = some side → ∃ duty,
    owner.duties.find side.origin.duty = some duty ∧ duty.releases = side.closed.toNat
  sole : ∀ id id' side side', owner.sides.find id = some side → owner.sides.find id' = some side' →
    side.origin.duty = side'.origin.duty → id = id'
  ends : ∀ next, owner.step .closeReturned = some next →
    next.entries.size = 0 ∧ ∀ id side, next.sides.find id = some side → side.closed = true

theorem new_sound (receiver : ClosedRoleReceiver) (limits : Nat) : (new receiver limits).ledger.Sound := by
  have nobody {id : Nat} {side : SideFacts} (found : (new receiver limits).ledger.sides id = some side) :
      False := nomatch (rfl : (new receiver limits).ledger.sides id = none).symm.trans found
  have unleased {lease duty : Nat}
      (found : (new receiver limits).ledger.leases lease = some (some duty)) : False :=
    nomatch (rfl : (new receiver limits).ledger.leases lease = none).symm.trans found
  constructor
  case small => exact Nat.zero_le _
  case named => exact nofun
  case drained => exact nofun
  case leased => exact fun _ _ found => (unleased found).elim
  case soleLease => exact fun _ _ _ found => (unleased found).elim
  case agrees => exact fun _ _ _ found => (nobody found).elim
  case sole => exact fun _ _ _ _ found => (nobody found).elim
  all_goals exact fun _ _ found => (nobody found).elim

section Judged

variable (sound : owner.ledger.Sound)

include sound

end Judged

end ClosedJoinPairs

end Ardents.Route
