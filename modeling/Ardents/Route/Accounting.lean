/-
# Route.Accounting — every owner of one duty's reservations

The owners that share one `ClosedDutyLimits`: admissions that were not handed on yet,
forwarding channels, outer handshakes and JOIN sides.  An event is one call into the
limits with everything its caller does around it, so a history interleaves the parts
of operations on different owners in any order, refused operations and operations on
owners that have ended included.

* `accounting_conserved`: along every history the counters of the limits are exactly what the
  owners hold, the counters of every forwarding channel are exactly what its children
  hold, the bounds of the duty are respected, and no subtraction ever wrapped and no
  counter was ever clamped; when every owner has ended, nothing is left in any counter.
-/
import Ardents.Lib.Runs
import Ardents.Route.OuterHandshake

namespace Ardents.Route

open Lib Table

set_option autoImplicit false

/-- An admission with its place in the duty.  `accepting` is the reserve that
`AcceptStream` holds around the matching; once `Reserve` has matched it, the same
place belongs to a JOIN side, and `serving` is the reserve of its stream. -/
structure Admission where
  duty : ClosedDutyChannel
  joined : Bool
  accepting : Bool
  serving : Bool

inductive Owner where
  | admission (admission : Admission)
  | forwarding (channel : ClosedForwardingChannel)
  | outer (handshake : ClosedOuterHandshake)

inductive ForwardOperation where
  | accept (frame : ClosedLaneFrame) (around : Surroundings)
  | credit (lane : UInt32) (bytes : Nat) (around : Surroundings)
  | next (pick : UInt32) (around : Surroundings)
  | queueReverse (frame : ClosedLaneFrame) (around : Surroundings)
  | releaseReverse (frame : ClosedLaneFrame)
  | accountOutput (frame : ClosedLaneFrame) (around : Surroundings)
  | cancel

inductive OuterOperation where
  | accept (frame : ClosedLaneFrame) (clock : Readings)
  | verifyInnerHello (lane : UInt32) (hello : ClosedHello) (clock : Readings)
  | beginInnerHello (lane : UInt32) (clock : Readings)
  | bindAdmission (lane : UInt32) (lease : ClosedAdmission) (clock : Readings)
  | consumeInnerBytes (lane : UInt32) (bytes : Nat) (clock : Readings)
  | close

inductive DutyEvent where
  | reserveChannel (id : Nat)
  | newHandshake (id : Nat) (receiver : ClosedOuterReceiver)
  | newForwarding (id : Nat) (deadline : Time) (replenish : Bool)
  | newBootstrapForwarding (id : Nat) (deadline : Time)
  | acceptStream (id : Nat)
  | acceptStreamEnds (id : Nat)
  | reserveJoin (id : Nat)
  | serve (id : Nat)
  | serveEnds (id : Nat)
  | release (id : Nat)
  | forwarding (id : Nat) (operation : ForwardOperation)
  | outer (id : Nat) (operation : OuterOperation)
  | resume (id : Nat) (pick : UInt32)

structure Duty where
  limits : ClosedDutyLimits
  owners : Table Nat Owner

/-! ## Steps -/

/-- What an operation of a forwarding channel leaves, up to its first call into the limits. -/
def ForwardOperation.apply (limits : ClosedDutyLimits) (channel : ClosedForwardingChannel) :
    ForwardOperation → ClosedDutyLimits × ClosedForwardingChannel
  | .accept frame around => (channel.accept limits frame around).2
  | .credit lane bytes around => (channel.credit limits lane bytes around).2
  | .next pick around => (limits, (channel.next pick around).2)
  | .queueReverse frame around => (channel.queueReverse limits frame around).2
  | .releaseReverse frame => channel.releaseReverse limits frame
  | .accountOutput frame around => (limits, (channel.accountOutput frame around).2)
  | .cancel => (limits, channel.cancel)

def OuterOperation.apply (limits : ClosedDutyLimits) (handshake : ClosedOuterHandshake) :
    OuterOperation → ClosedDutyLimits × ClosedOuterHandshake
  | .accept frame clock => (handshake.accept limits frame clock).2
  | .verifyInnerHello lane hello clock => (limits, (handshake.verifyInnerHello lane hello clock).2)
  | .beginInnerHello lane clock => (limits, (handshake.beginInnerHello lane clock).2)
  | .bindAdmission lane lease clock => (limits, (handshake.bindAdmission lane lease clock).2)
  | .consumeInnerBytes lane bytes clock => (handshake.consumeInnerBytes limits lane bytes clock).2
  | .close => (limits, handshake.shut)

/-- A live admission that no JOIN side has taken and no `AcceptStream` is working on. -/
def Admission.free (admission : Admission) : Bool :=
  !admission.duty.released && !admission.joined && !admission.accepting

/-- What an event does to the owner it names. -/
def Owner.step (limits : ClosedDutyLimits) : Owner → DutyEvent → Option (ClosedDutyLimits × Owner)
  | .admission lease, .newForwarding _ deadline replenish =>
    if lease.free then
      some (limits, .forwarding (.new lease.duty deadline replenish))
    else none
  | .admission lease, .newBootstrapForwarding _ deadline =>
    if lease.free then some (limits, .forwarding (.newBootstrap lease.duty deadline))
    else none
  | .admission lease, .acceptStream _ =>
    if lease.free then
      match limits.queue closedJoinStreamQueue with
      | (taken, limits) => some (limits, .admission { lease with accepting := taken })
    else none
  | .admission lease, .acceptStreamEnds _ =>
    if lease.accepting then
      some (limits.dequeue closedJoinStreamQueue, .admission { lease with accepting := false })
    else none
  | .admission lease, .reserveJoin _ =>
    -- a refusal of the pairing itself changes nothing here
    if lease.duty.released || lease.joined then none
    else
      match lease.duty.reserveChild limits with
      | (taken, limits, duty) => some (limits, .admission { lease with duty, joined := taken })
  | .admission lease, .serve _ =>
    if lease.duty.released || !lease.joined || lease.serving then none
    else
      match limits.queue closedJoinStreamQueue with
      | (taken, limits) => some (limits, .admission { lease with serving := taken })
  | .admission lease, .serveEnds _ =>
    if lease.serving then
      some (limits.dequeue closedJoinStreamQueue, .admission { lease with serving := false })
    else none
  | .admission lease, .release _ =>
    let (limits, duty) := lease.duty.release limits
    some (limits, .admission { lease with duty })
  | .forwarding channel, .forwarding _ operation =>
    if channel.hold = .idle then
      let (limits, channel) := operation.apply limits channel
      some (limits, .forwarding channel)
    else none
  | .forwarding channel, .resume _ pick =>
    (channel.resume limits pick).map fun result => (result.1, .forwarding result.2)
  | .outer handshake, .outer _ operation =>
    if handshake.hold = .idle then
      let (limits, handshake) := operation.apply limits handshake
      some (limits, .outer handshake)
    else none
  | .outer handshake, .resume _ pick =>
    (handshake.resume limits pick).map fun result => (result.1, .outer result.2)
  | _, _ => none

/-- The owner an event is about. -/
def DutyEvent.owner : DutyEvent → Nat
  | .reserveChannel id | .newHandshake id _ | .newForwarding id _ _ | .newBootstrapForwarding id _
  | .acceptStream id | .acceptStreamEnds id | .reserveJoin id | .serve id | .serveEnds id
  | .release id | .forwarding id _ | .outer id _ | .resume id _ => id

/-- The owner that a new place starts, when the event reserves one. -/
def DutyEvent.starts : DutyEvent → Option (ClosedDutyChannel → Owner)
  | .reserveChannel _ => some fun place => .admission ⟨place, false, false, false⟩
  | .newHandshake _ receiver => some fun place => .outer (.new receiver place)
  | _ => none

namespace Duty

def initial : Duty := ⟨.new, .empty⟩

def step (duty : Duty) (event : DutyEvent) : Option Duty :=
  match duty.owners.find event.owner with
  | some owner =>
    (owner.step duty.limits event).map fun result =>
      ⟨result.1, duty.owners.put event.owner result.2⟩
  | none =>
    event.starts.map fun owner =>
      match duty.limits.reserveChannel with
      | (none, limits) => { duty with limits }
      | (some place, limits) => ⟨limits, duty.owners.put event.owner (owner place)⟩

end Duty

/-! ## What the owners hold -/

/-- What a JOIN side or an admission holds: its reserves, the child of a side that was
not released, and its channel. -/
def Admission.share (admission : Admission) : Share where
  queued := closedJoinStreamQueue * (admission.accepting.toNat + admission.serving.toNat)
  children := (admission.joined && !admission.duty.released).toNat
  channels := (!admission.duty.released).toNat

def Owner.share : Owner → Share
  | .admission lease => lease.share
  | .forwarding channel => channel.share
  | .outer handshake => handshake.share

/-- A subtraction of the owner's own counters wrapped. -/
def Owner.wraps : Owner → Bool
  | .admission lease => lease.duty.wraps
  | .forwarding channel => channel.wraps || channel.duty.wraps
  | .outer handshake => handshake.duty.wraps

/-- The owner was released, cancelled or closed, and the call that did it has returned. -/
def Owner.ended : Owner → Prop
  | .admission lease =>
    lease.duty.released = true ∧ lease.accepting = false ∧ lease.serving = false
  | .forwarding channel => channel.duty.released = true ∧ channel.hold = .idle
  | .outer handshake => handshake.closed = true

/-- The counters of a forwarding channel are what its children hold. -/
structure ClosedForwardingChannel.Exact (channel : ClosedForwardingChannel) : Prop where
  queued : channel.queued =
    channel.children.total fun child => child.queued + child.reverseQueued
  control : channel.duty.controlQueued =
    channel.controlBytes + channel.children.total fun child => child.reverseControlQueued
  bounded : channel.duty.controlQueued ≤ closedChannelControlBytes

/-- The accounting law of a duty. -/
structure Duty.Conserved (duty : Duty) : Prop where
  queued : duty.limits.queued = duty.owners.total fun owner => owner.share.queued
  children : duty.limits.children = duty.owners.total fun owner => owner.share.children
  channels : duty.limits.channels = duty.owners.total fun owner => owner.share.channels
  bounded : duty.limits.queued + closedChannelControlBytes * duty.limits.channels ≤
    closedDutyQueueBytes
  forwarding : ∀ id channel, duty.owners.find id = some (.forwarding channel) → channel.Exact
  unwrapped : duty.limits.wraps = false
  ownersUnwrapped : ∀ id owner, duty.owners.find id = some owner → owner.wraps = false
  ended : (∀ id owner, duty.owners.find id = some owner → owner.ended) →
    duty.limits.queued = 0 ∧ duty.limits.children = 0 ∧ duty.limits.channels = 0 ∧
      ∀ id channel, duty.owners.find id = some (.forwarding channel) →
        channel.queued = 0 ∧ channel.controlBytes = 0 ∧ channel.duty.controlQueued = 0

/-! ## One owner's event -/

structure Admission.Valid (admission : Admission) : Prop where
  children : admission.duty.children = admission.share.children
  control : admission.duty.controlQueued = 0
  sides : admission.serving = true → admission.joined = true
  unwrapped : admission.duty.wraps = false

def Owner.Valid : Owner → Prop
  | .admission lease => lease.Valid
  | .forwarding channel => channel.Valid
  | .outer handshake => handshake.Valid

structure Owner.Kept (others : Share) (limits : ClosedDutyLimits) (owner : Owner) : Prop where
  accounts : Accounts limits owner.share others
  valid : owner.Valid

variable {channel : ClosedForwardingChannel} {event : DutyEvent}

section OwnerStep

variable {limits limits' : ClosedDutyLimits} {others : Share} {owner owner' : Owner}

theorem ForwardOperation.apply_kept
    (kept : channel.Kept others limits) (idle : channel.hold = .idle) (operation : ForwardOperation) :
    (operation.apply limits channel).2.Kept others (operation.apply limits channel).1 := by
  cases operation with
  | accept frame around => exact ClosedForwardingChannel.accept_kept kept idle
  | credit lane bytes around => exact ClosedForwardingChannel.credit_kept kept lane bytes
  | next pick around => exact ClosedForwardingChannel.next_kept kept pick
  | queueReverse frame around => exact ClosedForwardingChannel.queueReverse_kept kept idle
  | releaseReverse frame => exact ClosedForwardingChannel.releaseReverse_kept kept
  | accountOutput frame around => exact ClosedForwardingChannel.accountOutput_kept kept
  | cancel => exact ClosedForwardingChannel.cancel_kept kept idle

open ClosedOuterHandshake in
theorem OuterOperation.apply_kept {handshake : ClosedOuterHandshake}
    (kept : handshake.Kept others limits) (idle : handshake.hold = .idle)
    (operation : OuterOperation) :
    (operation.apply limits handshake).2.Kept others (operation.apply limits handshake).1 := by
  cases operation with
  | accept frame clock => exact accept_kept kept idle
  | verifyInnerHello lane hello clock =>
    exact (verifyInnerHello_changes lane hello).keeps kept (fun _ => rfl) fun _ => rfl
  | beginInnerHello lane clock => exact (beginInnerHello_changes lane).keeps kept (fun _ => rfl) fun _ => rfl
  | bindAdmission lane lease clock =>
    exact (bindAdmission_changes lane lease).keeps kept (fun _ => rfl) fun _ => rfl
  | consumeInnerBytes lane bytes clock => exact consumeInnerBytes_kept kept bytes
  | close => exact shut_kept kept idle

variable {lease : Admission}

/-- The reserve of a stream is taken or refused. -/
theorem queueStream_kept {lease' : Admission} (accounts : Accounts limits lease.share others)
    {taken : Bool} (queue : limits.queue closedJoinStreamQueue = (taken, limits'))
    (holds : lease'.share = { lease.share with
      queued := lease.share.queued + closedJoinStreamQueue * taken.toNat }) :
    Accounts limits' lease'.share others := by
  rw [holds]
  rcases accounts.queue closedJoinStreamQueue with refused | ⟨_, granted, accounts'⟩
  · cases refused.symm.trans queue
    exact accounts
  · cases granted.symm.trans queue
    exact accounts'

/-- The reserve of a stream is given back. -/
theorem dequeueStream_kept {lease' : Admission} (accounts : Accounts limits lease.share others)
    (holds : lease.share = { lease'.share with queued := lease'.share.queued + closedJoinStreamQueue }) :
    Accounts (limits.dequeue closedJoinStreamQueue) lease'.share others := by
  rw [holds] at accounts
  have released := accounts.dequeue (Nat.le_add_left closedJoinStreamQueue lease'.share.queued)
  rwa [Nat.add_sub_cancel] at released

theorem Admission.free_iff (lease : Admission) : lease.free = true ↔
      lease.duty.released = false ∧ lease.joined = false ∧ lease.accepting = false := by
  simp [Admission.free, and_assoc]

/-- The place of a free admission is fresh, and all it holds. -/
theorem Admission.Valid.fresh (valid : lease.Valid) (free : lease.free = true) :
    lease.duty = ⟨0, 0, false, false⟩ ∧ lease.share = ⟨0, 0, 1⟩ := by
  obtain ⟨live, apart, quiet⟩ := lease.free_iff.1 free
  have idle : lease.serving = false := by
    cases serving : lease.serving with
    | false => rfl
    | true => cases apart.symm.trans (valid.sides serving)
  have held : lease.share = ⟨0, 0, 1⟩ := by simp [Admission.share, live, apart, quiet, idle]
  have none : lease.duty.children = 0 := by rw [valid.children, held]
  refine ⟨?_, held⟩
  rw [show lease.duty = ⟨lease.duty.children, lease.duty.controlQueued, lease.duty.released,
    lease.duty.wraps⟩ from rfl, none, valid.control, live, valid.unwrapped]

theorem Owner.step_kept (kept : owner.Kept others limits)
    (stepped : owner.step limits event = some (limits', owner')) : owner'.Kept others limits' := by
  obtain ⟨accounts, valid⟩ := kept
  unfold Owner.step at stepped
  split at stepped
  · -- `newClosedForwardingChannel`
    next lease _ deadline replenish =>
      split at stepped
      · next free =>
        cases stepped
        obtain ⟨place, held⟩ := Admission.Valid.fresh valid free
        rw [place]
        rw [Owner.share, held] at accounts
        exact ⟨accounts, ClosedForwardingChannel.new_valid deadline replenish⟩
      · cases stepped
  · -- `NewClosedBootstrapForwardingChannel`
    next lease _ deadline =>
      split at stepped
      · next free =>
        cases stepped
        obtain ⟨place, held⟩ := Admission.Valid.fresh valid free
        rw [place]
        rw [Owner.share, held] at accounts
        exact ⟨accounts, { ClosedForwardingChannel.new_valid deadline false with
          budget := Nat.zero_le _ }⟩
      · cases stepped
  · -- `AcceptStream` reserves
    next lease _ =>
      split at stepped
      · next free =>
        split at stepped
        next taken limits'' queue =>
        cases stepped
        obtain ⟨live, apart, quiet⟩ := lease.free_iff.1 free
        refine ⟨queueStream_kept accounts queue ?_, { valid with }⟩
        simp [Admission.share, quiet, Nat.mul_add, Nat.add_comm]
      · cases stepped
  · -- `AcceptStream` gives its reserve back
    next lease _ =>
      split at stepped
      · next held =>
        cases stepped
        refine ⟨dequeueStream_kept accounts ?_, { valid with }⟩
        simp [Admission.share, held, Nat.mul_add, Nat.add_comm]
      · cases stepped
  · -- `Reserve` takes a child
    next lease _ =>
      split at stepped
      · cases stepped
      next apart =>
      simp only [Bool.or_eq_true, not_or, Bool.not_eq_true] at apart
      split at stepped
      next taken limits'' place reserve =>
      cases stepped
      rcases Accounts.reserveChild accounts lease.duty with refused | ⟨live, granted, accounts'⟩
      · cases refused.symm.trans reserve
        have same : ({ lease with joined := false } : Admission) = lease := by
          rw [← apart.2]
        rw [same]
        exact ⟨accounts, valid⟩
      · cases granted.symm.trans reserve
        have before := Admission.Valid.children valid
        simp only [Admission.share, apart.2, Bool.false_and, Bool.toNat_false] at before
        refine ⟨{ accounts' with children := ?_ }, { valid with children := ?_, sides := ?_ }⟩
        · rw [accounts'.children]
          simp [Owner.share, Admission.share, apart.2, live]
        · simp [Admission.share, before, live]
        · exact fun _ => rfl
  · -- `Serve` reserves
    next lease _ =>
      split at stepped
      · cases stepped
      next allowed =>
      simp only [Bool.or_eq_true, Bool.not_eq_eq_eq_not, Bool.not_true, not_or, Bool.not_eq_true,
        Bool.not_eq_false] at allowed
      obtain ⟨⟨live, joined⟩, quiet⟩ := allowed
      split at stepped
      next taken limits'' queue =>
      cases stepped
      refine ⟨queueStream_kept accounts queue ?_, { valid with sides := fun _ => joined }⟩
      simp [Admission.share, quiet, Nat.mul_add]
  · -- `Serve` gives its reserve back
    next lease _ =>
      split at stepped
      · next held =>
        cases stepped
        refine ⟨dequeueStream_kept accounts ?_, { valid with sides := nofun }⟩
        simp [Admission.share, held, Nat.mul_add]
      · cases stepped
  · -- the place is released
    next lease _ =>
      by_cases released : lease.duty.released = true
      · rw [ClosedDutyChannel.release, if_pos released] at stepped
        cases stepped
        exact ⟨accounts, valid⟩
      have live : lease.duty.released = false := by simpa using released
      have counted : lease.duty.children = lease.share.children := Admission.Valid.children valid
      have one : lease.share.channels = 1 := by simp [Admission.share, live]
      obtain ⟨given, accounts'⟩ := Accounts.release accounts live counted one
      rw [given] at stepped
      cases stepped
      refine ⟨{ accounts' with children := ?_, channels := ?_ }, { valid with children := ?_ }⟩
      · rw [accounts'.children]
        simp [Owner.share, Admission.share]
      · rw [accounts'.channels]
        simp [Owner.share, Admission.share]
      · simp [Admission.share]
  · -- an operation of a forwarding channel
    next channel _ operation =>
      split at stepped
      · next idle =>
        cases stepped
        obtain ⟨accounts', valid'⟩ := operation.apply_kept ⟨accounts, valid⟩ idle
        exact ⟨accounts', valid'⟩
      · cases stepped
  · next channel _ pick =>
    obtain ⟨result, resumed, same⟩ := Option.map_eq_some_iff.1 stepped
    cases same
    obtain ⟨accounts', valid'⟩ := ClosedForwardingChannel.resume_kept ⟨accounts, valid⟩ resumed
    exact ⟨accounts', valid'⟩
  · -- an operation of an outer handshake
    next handshake _ operation =>
      split at stepped
      · next idle =>
        cases stepped
        obtain ⟨accounts', valid'⟩ := operation.apply_kept ⟨accounts, valid⟩ idle
        exact ⟨accounts', valid'⟩
      · cases stepped
  · next handshake _ pick =>
    obtain ⟨result, resumed, same⟩ := Option.map_eq_some_iff.1 stepped
    cases same
    obtain ⟨accounts', valid'⟩ := ClosedOuterHandshake.resume_kept ⟨accounts, valid⟩ resumed
    exact ⟨accounts', valid'⟩
  · cases stepped

end OwnerStep

/-! ## Every history -/

namespace Duty

/-- The limits are what all owners hold, and every owner's counters are valid. -/
structure Sound (duty : Duty) : Prop where
  accounts : Accounts duty.limits
    ⟨duty.owners.total fun owner => owner.share.queued,
      duty.owners.total fun owner => owner.share.children,
      duty.owners.total fun owner => owner.share.channels⟩ ⟨0, 0, 0⟩
  valid : ∀ id owner, duty.owners.find id = some owner → owner.Valid

/-- What all owners but one hold. -/
def others (duty : Duty) (id : Nat) : Share where
  queued := (duty.owners.erase id).total fun owner => owner.share.queued
  children := (duty.owners.erase id).total fun owner => owner.share.children
  channels := (duty.owners.erase id).total fun owner => owner.share.channels

theorem initial_sound : initial.Sound where
  accounts := ⟨rfl, rfl, rfl, by decide, by decide, by decide, rfl⟩
  valid := by intro id owner found; cases found

variable {duty : Duty} {owner : Owner} {limits : ClosedDutyLimits} {id : Nat}

/-- One owner's part against all others. -/
theorem Sound.kept (sound : duty.Sound) (found : duty.owners.find id = some owner) :
    owner.Kept (duty.others id) duty.limits := by
  obtain ⟨accounts, valid⟩ := sound
  have queued := total_erase (fun owner => owner.share.queued) found
  have children := total_erase (fun owner => owner.share.children) found
  have channels := total_erase (fun owner => owner.share.channels) found
  refine ⟨{ accounts with queued := ?_, children := ?_, channels := ?_ }, valid id owner found⟩
  · rw [accounts.queued, ← queued]
    simp only [others]
    omega
  · rw [accounts.children, ← children]
    simp only [others]
    omega
  · rw [accounts.channels, ← channels]
    simp only [others]
    omega

/-- Putting one owner's part back together with all others. -/
theorem Sound.put (sound : duty.Sound) {owner' : Owner} (found : duty.owners.find id = some owner)
    (kept : owner'.Kept (duty.others id) limits) : Sound ⟨limits, duty.owners.put id owner'⟩ := by
  have moved (f : Owner → Nat) :
      f owner' + (duty.owners.erase id).total f = (duty.owners.put id owner').total f := by
    have taken := total_erase f found
    have given := total_put f owner' found
    omega
  obtain ⟨accounts, valid⟩ := kept
  refine ⟨{ accounts with queued := ?_, children := ?_, channels := ?_ }, ?_⟩
  · exact accounts.queued.trans (moved fun owner => owner.share.queued)
  · exact accounts.children.trans (moved fun owner => owner.share.children)
  · exact accounts.channels.trans (moved fun owner => owner.share.channels)
  · exact fun _ _ => forall_put sound.valid valid

/-- A new owner holds the place that was reserved for it, and nothing else. -/
theorem Sound.start (sound : duty.Sound) (absent : duty.owners.find id = none)
    (accounts : Accounts limits ⟨duty.owners.total fun owner => owner.share.queued,
      duty.owners.total fun owner => owner.share.children,
      (duty.owners.total fun owner => owner.share.channels) + 1⟩ ⟨0, 0, 0⟩)
    (held : owner.share = ⟨0, 0, 1⟩) (valid : owner.Valid) : Sound ⟨limits, duty.owners.put id owner⟩ := by
  have queued := total_put_fresh (fun owner => owner.share.queued) owner absent
  have children := total_put_fresh (fun owner => owner.share.children) owner absent
  have channels := total_put_fresh (fun owner => owner.share.channels) owner absent
  rw [held] at queued children channels
  refine ⟨{ accounts with queued := ?_, children := ?_, channels := ?_ }, ?_⟩
  · exact accounts.queued.trans (congrArg (· + 0) queued.symm)
  · exact accounts.children.trans (congrArg (· + 0) children.symm)
  · exact accounts.channels.trans (congrArg (· + 0) channels.symm)
  · exact fun _ _ => forall_put sound.valid valid

theorem step_sound {next : Duty} (sound : duty.Sound)
    (stepped : duty.step event = some next) : next.Sound := by
  unfold step at stepped
  split at stepped
  · next owner found =>
    obtain ⟨result, moved, same⟩ := Option.map_eq_some_iff.1 stepped
    cases same
    exact sound.put found (Owner.step_kept (sound.kept found) moved)
  next absent =>
  obtain ⟨start, starts, same⟩ := Option.map_eq_some_iff.1 stepped
  rcases sound.accounts.reserveChannel with refused | ⟨granted, accounts⟩
  · rw [refused] at same
    cases same
    exact sound
  rw [granted] at same
  cases same
  cases event with
  | reserveChannel id =>
    cases starts
    exact sound.start absent accounts rfl ⟨rfl, rfl, nofun, rfl⟩
  | newHandshake id receiver =>
    cases starts
    exact sound.start absent accounts rfl (ClosedOuterHandshake.new_valid receiver)
  | _ => cases starts

/-- What has ended holds nothing. -/
theorem share_of_ended (valid : owner.Valid) (ended : owner.ended) : owner.share = ⟨0, 0, 0⟩ := by
  cases owner with
  | admission lease =>
    obtain ⟨released, accepting, serving⟩ := ended
    simp [Owner.share, Admission.share, released, accepting, serving]
  | forwarding channel =>
    obtain ⟨released, idle⟩ := ended
    obtain ⟨empty, _, _⟩ := ClosedForwardingChannel.Valid.retired valid released
    simp [Owner.share, ClosedForwardingChannel.share, released, idle, empty,
      total_of_size _ empty, Hold.bytes, Hold.places]
  | outer handshake =>
    obtain ⟨released, empty, idle⟩ := ClosedOuterHandshake.Valid.shut_ valid ended
    simp [Owner.share, ClosedOuterHandshake.share, released, idle, empty,
      total_of_size _ empty, Hold.places]

/-- A cancelled channel has nothing left in its own counters either. -/
theorem counters_of_ended (valid : channel.Valid) (ended : (Owner.forwarding channel).ended) :
    channel.queued = 0 ∧ channel.controlBytes = 0 ∧ channel.duty.controlQueued = 0 := by
  obtain ⟨empty, controls, _⟩ := valid.retired ended.1
  have data := valid.data
  have waiting := valid.waiting
  have control := valid.control
  rw [total_of_size _ empty] at data control
  rw [controls] at waiting
  rw [waiting] at control
  exact ⟨data, waiting, control⟩

theorem Sound.conserved (sound : duty.Sound) : duty.Conserved where
  queued := sound.accounts.queued
  children := sound.accounts.children
  channels := sound.accounts.channels
  bounded := sound.accounts.bounded
  forwarding := by
    intro id channel found
    have valid : channel.Valid := sound.valid id _ found
    exact ⟨valid.data, valid.control, valid.controlBound⟩
  unwrapped := sound.accounts.unwrapped
  ownersUnwrapped := by
    intro id owner found
    have valid := sound.valid id owner found
    cases owner with
    | admission lease => exact Admission.Valid.unwrapped valid
    | forwarding channel =>
      simp [Owner.wraps, ClosedForwardingChannel.Valid.unwrapped valid,
        ClosedForwardingChannel.Valid.dutyUnwrapped valid]
    | outer handshake => exact ClosedOuterHandshake.Valid.unwrapped valid
  ended := by
    intro ended
    have none (id : Nat) (owner : Owner) (found : duty.owners.find id = some owner) :
        owner.share = ⟨0, 0, 0⟩ := share_of_ended (sound.valid id owner found) (ended id owner found)
    have zero (part : Share → Nat) (empty : part ⟨0, 0, 0⟩ = 0) :
        duty.owners.total (fun owner => part owner.share) = 0 := by
      apply total_eq_zero
      intro id owner found
      rw [none id owner found, empty]
    refine ⟨?_, ?_, ?_, ?_⟩
    · exact sound.accounts.queued.trans (zero Share.queued rfl)
    · exact sound.accounts.children.trans (zero Share.children rfl)
    · exact sound.accounts.channels.trans (zero Share.channels rfl)
    · intro id channel found
      exact counters_of_ended (sound.valid id _ found) (ended id _ found)

/-- Along every history of its owners, the counters of a duty are exactly what its
owners hold. -/
theorem accounting_conserved (events : List DutyEvent) : Throughout step Conserved initial events :=
  (throughout_of_invariant (fun _ _ _ sound stepped => step_sound sound stepped) initial_sound
    events).imp fun _ sound => sound.conserved

end Duty

end Ardents.Route
