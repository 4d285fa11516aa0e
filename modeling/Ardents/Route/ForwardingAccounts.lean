/-
# Route.ForwardingAccounts — the counters of a forwarding channel

A forwarding channel counts the same bytes several times over: per child, per
channel, in the control queue of its place in the duty, and in the limits of the
duty.  `Valid` says how the channel's own counters hang together; `Kept` adds that
the limits hold exactly what the channel's children have queued, beside what every
other owner holds.  Each operation keeps `Kept`, also where it refuses, and in every
part of it that another owner's operation can fall behind.
-/
import Ardents.Route.Forwarding

namespace Ardents.Route

open Lib Table

set_option autoImplicit false

/-- The bytes of data a child has queued, in both directions. -/
def ClosedForwardChild.data (child : ClosedForwardChild) : Nat := child.queued + child.reverseQueued

namespace ClosedForwardingChannel

/-- What the channel holds of the limits. -/
def share (channel : ClosedForwardingChannel) : Share where
  queued := channel.children.total ClosedForwardChild.data + channel.hold.bytes
  children := channel.children.size + channel.hold.places
  channels := (!channel.duty.released).toNat

/-- The counters of a channel agree with its children and its waiting controls. -/
structure Valid (channel : ClosedForwardingChannel) : Prop where
  places : channel.duty.children = channel.children.size + channel.hold.places
  data : channel.queued = channel.children.total ClosedForwardChild.data
  control : channel.duty.controlQueued =
    channel.controlBytes + channel.children.total ClosedForwardChild.reverseControlQueued
  waiting : channel.controlBytes = (channel.controls.map closedForwardControlSize).sum
  controlBound : channel.duty.controlQueued ≤ closedChannelControlBytes
  dataBound : channel.queued ≤ closedPrefixQueueBytes
  budget : channel.usedBytes ≤ channel.byteLimit
  credits : ∀ lane child, channel.children.find lane = some child →
    child.credit ≤ closedLaneCredit ∧ child.reverseCredit ≤ closedLaneCredit
  lanes : ∀ lane child, channel.children.find lane = some child → lane ≤ channel.lastOdd
  retired : channel.duty.released = true →
    channel.children.size = 0 ∧ channel.controls = [] ∧ channel.duty.children = 0
  unwrapped : channel.wraps = false
  dutyUnwrapped : channel.duty.wraps = false

/-- A channel with valid counters whose part of the limits is accounted for. -/
structure Kept (others : Share) (limits : ClosedDutyLimits) (channel : ClosedForwardingChannel) :
    Prop where
  accounts : Accounts limits channel.share others
  valid : channel.Valid

variable {limits : ClosedDutyLimits} {channel : ClosedForwardingChannel} {others : Share}
  {lane : UInt32} {child child' : ClosedForwardChild} {frame : ClosedLaneFrame}
  {around : Surroundings}

@[simp] theorem noting_false (channel : ClosedForwardingChannel) : channel.noting false = channel := by
  simp [noting]

theorem new_valid (deadline : Time) (replenish : Bool) :
    (new ⟨0, 0, false, false⟩ deadline replenish).Valid where
  places := rfl
  data := rfl
  control := rfl
  waiting := rfl
  controlBound := Nat.zero_le _
  dataBound := Nat.zero_le _
  budget := show closedAdmissionFrameBytes ≤ closedClassBytes 2 by decide
  credits := by intro lane child found; cases found
  lanes := by intro lane child found; cases found
  retired := by intro released; cases released
  unwrapped := rfl
  dutyUnwrapped := rfl

/-! ## Changing one child -/

variable {ready : List UInt32} {terminated : Bool} {limits' : ClosedDutyLimits} {hold : Hold}
  {controlQueued : Nat} {children : Table UInt32 ClosedForwardChild} {pick : UInt32}

/-- A child may change when the channel's counters move along with it. -/
theorem Valid.setChild (valid : channel.Valid) (found : channel.children.find lane = some child)
    (credit : child'.credit ≤ closedLaneCredit) (reverse : child'.reverseCredit ≤ closedLaneCredit)
    {queued : Nat} (data : queued + child.data = channel.queued + child'.data)
    (control : controlQueued + child.reverseControlQueued = channel.duty.controlQueued + child'.reverseControlQueued)
    (dataBound : queued ≤ closedPrefixQueueBytes) (controlBound : controlQueued ≤ closedChannelControlBytes) :
    Valid (ClosedForwardingChannel.setChild { channel with
      ready, queued, terminated
      duty := { channel.duty with controlQueued } } lane child') := by
  have size := size_put child' found
  have moved := total_put ClosedForwardChild.data child' found
  have charged := total_put ClosedForwardChild.reverseControlQueued child' found
  unfold ClosedForwardingChannel.setChild
  exact { valid with
    places := by grind [valid.places]
    data := by grind [valid.data]
    control := by grind [valid.control]
    controlBound
    dataBound
    credits := by grind [find_put, → valid.credits]
    lanes := by grind [find_put, → valid.lanes]
    -- a child that is there has not been released
    retired := by grind [valid.retired] }

/-- A child changes, and the limits along with it. -/
theorem Kept.setChild {bytes : Nat} (valid : channel.Valid)
    (accounts : Accounts limits' { channel.share with queued := bytes } others)
    (found : channel.children.find lane = some child) (credit : child'.credit ≤ closedLaneCredit)
    (reverse : child'.reverseCredit ≤ closedLaneCredit) {queued : Nat}
    (held : bytes + channel.queued = channel.share.queued + queued)
    (data : queued + child.data = channel.queued + child'.data)
    (control : controlQueued + child.reverseControlQueued = channel.duty.controlQueued + child'.reverseControlQueued)
    (dataBound : queued ≤ closedPrefixQueueBytes) (controlBound : controlQueued ≤ closedChannelControlBytes) :
    Kept others limits' (ClosedForwardingChannel.setChild { channel with
      ready, queued, terminated
      duty := { channel.duty with controlQueued } } lane child') := by
  refine ⟨?_, valid.setChild found credit reverse data control dataBound controlBound⟩
  have moved := total_put ClosedForwardChild.data child' found
  have total : bytes =
      (channel.children.put lane child').total ClosedForwardChild.data + channel.hold.bytes := by
    simp only [share] at held
    omega
  have same := size_put child' found
  refine { accounts with queued := ?_, children := ?_ }
  · exact accounts.queued.trans (congrArg (· + others.queued) total)
  · show limits'.children = (channel.children.put lane child').size + channel.hold.places + _
    rw [same]
    exact accounts.children

/-- A change of a child that no counter depends on. -/
theorem Kept.touch (kept : Kept others limits channel) (found : channel.children.find lane = some child)
    (credit : child'.credit = child.credit)
    (reverse : child'.reverseCredit = child.reverseCredit) (data : child'.data = child.data)
    (control : child'.reverseControlQueued = child.reverseControlQueued) :
    Kept others limits ({ channel with ready, terminated }.setChild lane child') := by
  have ⟨accounts, valid⟩ := kept
  obtain ⟨within, reverseWithin⟩ := valid.credits _ _ found
  exact Kept.setChild valid accounts found (credit ▸ within) (reverse ▸ reverseWithin) rfl
    (congrArg _ data.symm) (congrArg _ control.symm) valid.dataBound valid.controlBound

/-- A child leaves, and its place is still to be given back. -/
theorem Valid.remove (valid : channel.Valid) (found : channel.children.find lane = some child)
    (places : hold.places = channel.hold.places + 1) : Valid { channel with
      children := channel.children.erase lane
      queued := channel.queued - child.data
      duty := { channel.duty with
        controlQueued := channel.duty.controlQueued - child.reverseControlQueued }
      hold } := by
  have fewer := size_erase found
  have moved := total_erase ClosedForwardChild.data found
  have released := total_erase ClosedForwardChild.reverseControlQueued found
  exact { valid with
    places := by grind [valid.places]
    data := by grind [valid.data]
    control := by grind [valid.control]
    controlBound := (Nat.sub_le _ _).trans valid.controlBound
    dataBound := (Nat.sub_le _ _).trans valid.dataBound
    credits := by grind [find_erase, → valid.credits]
    lanes := by grind [find_erase, → valid.lanes]
    retired := by grind [valid.retired] }

/-! ## Reservations -/

/-- `reserveControlQueue` either refuses and changes nothing, or the bytes fit. -/
theorem reserveControlQueue_cases (within : channel.duty.controlQueued ≤ closedChannelControlBytes)
    (size : Nat) : (∃ refusal, channel.reserveControlQueue size around = (some refusal, channel)) ∨
      channel.reserveControlQueue size around = (none, { channel with
          duty := { channel.duty with controlQueued := channel.duty.controlQueued + size } }) ∧
        channel.duty.released = false ∧
        channel.duty.controlQueued + size ≤ closedChannelControlBytes := by
  rcases ClosedDutyChannel.queueControl_cases within size with refused | ⟨taken, live, fits⟩
  · exact .inl ⟨.limits, by rw [reserveControlQueue, refused]⟩
  rw [reserveControlQueue, taken]
  by_cases denied : (channel.bootstrap && !around.queues) = true
  · refine .inl ⟨.bootstrap, ?_⟩
    simp only [denied, if_true]
    rw [ClosedDutyChannel.dequeueControl_of_le (Nat.le_add_left _ _)]
    simp
  · exact .inr ⟨if_neg denied, live, fits⟩

/-- `queueControl` either refuses and changes nothing, or the event waits within the
reserve of the channel. -/
theorem queueControl_cases (valid : channel.Valid) (event : ClosedForwardingEvent) :
    channel.queueControl event around = (false, channel) ∨
      ∃ after, channel.queueControl event around = (true, after) ∧ after.Valid ∧
        after = { channel with
          controls := channel.controls ++ [event]
          controlBytes := channel.controlBytes + closedForwardControlSize event
          duty := { channel.duty with
            controlQueued := channel.duty.controlQueued + closedForwardControlSize event } } := by
  have split := valid.control
  have within := valid.controlBound
  by_cases large : closedChannelControlBytes < closedForwardControlSize event ∨
      closedChannelControlBytes < (channel.controlBytes + closedForwardControlSize event) % 2 ^ 32
  · exact .inl (if_pos large)
  obtain ⟨small, room⟩ := not_or.1 large
  simp only [closedChannelControlBytes] at within small
  have unwrapped : (channel.controlBytes + closedForwardControlSize event) % 2 ^ 32 =
      channel.controlBytes + closedForwardControlSize event := Nat.mod_eq_of_lt (by omega)
  rw [queueControl, if_neg large]
  rcases reserveControlQueue_cases valid.controlBound (closedForwardControlSize event) with
    ⟨refusal, refused⟩ | ⟨taken, live, fits⟩
  · exact .inl (by rw [refused])
  refine .inr ⟨_, by rw [taken], ?_, by rw [unwrapped]⟩
  simp only [unwrapped]
  exact { valid with
    control := by
      show channel.duty.controlQueued + closedForwardControlSize event =
        channel.controlBytes + closedForwardControlSize event + channel.children.total _
      omega
    waiting := by simp [valid.waiting]
    controlBound := fits
    retired := by
      intro released
      cases live.symm.trans released }

/-- `reserveQueue` refuses and changes nothing, or the channel holds the bytes: for its
children, or only to give them back. -/
theorem reserveQueue_cases (kept : Kept others limits channel) (idle : channel.hold = .idle) (size : Nat) :
    (∃ refusal after channel', channel.reserveQueue limits size around = (some refusal, after, channel') ∧
        Kept others after channel') ∨
      ∃ after, channel.reserveQueue limits size around = (none, after, channel) ∧
        Accounts after { channel.share with queued := channel.share.queued + size } others := by
  have ⟨accounts, valid⟩ := kept
  rcases accounts.queue size with refused | ⟨positive, taken, accounts'⟩
  · exact .inl ⟨.limits, limits, channel, by rw [reserveQueue, refused], kept⟩
  rw [reserveQueue, taken]
  by_cases denied : (channel.bootstrap && !around.queues) = true
  · refine .inl ⟨.bootstrap, _, _, if_pos denied, ?_, { valid with places := ?_ }⟩
    · simpa [share, idle, Hold.bytes, Hold.places] using accounts'
    · simpa [idle, Hold.places] using valid.places
  · exact .inr ⟨_, if_neg denied, accounts'⟩

theorem releaseQueue_eq (limits : ClosedDutyLimits) (size : Nat) :
    releaseQueue limits size = limits.dequeue size := by
  by_cases zero : size = 0
  · simp [releaseQueue, ClosedDutyLimits.dequeue, zero]
  · simp [releaseQueue, zero]

/-- The charge of a frame keeps the budget and touches nothing else. -/
theorem charge_kept (kept : Kept others limits channel) (size : Nat) (granted : Bool)
    (exhausted : ForwardError) : Kept others limits (channel.charge size granted exhausted).2 ∧
      (channel.charge size granted exhausted).2.hold = channel.hold := by
  have left := minus_of_le 64 kept.valid.budget
  unfold charge
  split
  · exact ⟨kept, rfl⟩
  simp only [left, noting_false]
  split
  · exact ⟨kept, rfl⟩
  next fits =>
  refine ⟨⟨kept.accounts, { kept.valid with budget := ?_ }⟩, rfl⟩
  have budget := kept.valid.budget
  show channel.usedBytes + size ≤ channel.byteLimit
  omega

/-! ## Frames from the peer -/

/-- A new child takes the place that was reserved for it. -/
theorem Valid.inserted (valid : channel.Valid) (reserved : channel.hold = .retire)
    (absent : channel.children.find lane = none) (within : lane ≤ channel.lastOdd)
    (deadline : Time) : (channel.inserted lane (.new deadline)).Valid := by
  have one := size_put_fresh (ClosedForwardChild.new deadline) absent
  have data := total_put_fresh ClosedForwardChild.data (.new deadline) absent
  have control := total_put_fresh ClosedForwardChild.reverseControlQueued (.new deadline) absent
  have empty : (ClosedForwardChild.new deadline).data = 0 := rfl
  have before := valid.places
  simp only [reserved, Hold.places] at before
  unfold ClosedForwardingChannel.inserted
  exact { valid with
    places := by grind [Hold.places]
    data := by grind [valid.data]
    control := by grind [valid.control, ClosedForwardChild.new]
    credits := by grind [find_put, → valid.credits, ClosedForwardChild.new]
    lanes := by grind [find_put, → valid.lanes]
    retired := by grind [valid.retired] }

theorem share_inserted (reserved : channel.hold = .retire)
    (absent : channel.children.find lane = none) (deadline : Time) :
    (channel.inserted lane (.new deadline)).share = channel.share := by
  have one := size_put_fresh (ClosedForwardChild.new deadline) absent
  have more := total_put_fresh ClosedForwardChild.data (ClosedForwardChild.new deadline) absent
  have none : (ClosedForwardChild.new deadline).data = 0 := rfl
  simp [share, inserted, reserved, Hold.bytes, Hold.places, one, more, none]

section Accept

variable (kept : Kept others limits channel)

include kept

theorem openChild_kept (idle : channel.hold = .idle) :
    Kept others (channel.openChild limits frame around).2.1
      (channel.openChild limits frame around).2.2 := by
  have ⟨accounts, valid⟩ := kept
  unfold openChild
  split
  · exact kept
  next laneValid =>
  split
  · exact kept
  next opens _ =>
  split
  · exact kept
  split
  · exact kept
  rcases accounts.reserveChild channel.duty with refused | ⟨live, taken, accounts'⟩
  · rw [refused]
    exact kept
  rw [taken]
  dsimp only
  -- until the child is in the table, its place counts as one to be given back
  have higher : channel.lastOdd < frame.lane := UInt32.not_le.1 (not_or.1 (not_or.1 laneValid).2).1
  generalize duty_eq : ClosedDutyChannel.mk (channel.duty.children + 1) _ _ _ = duty
  have reserved : Kept others { limits with children := limits.children + 1 }
      (channel.placed duty frame.lane) := by
    subst duty_eq
    refine ⟨?_, { valid with places := ?_, lanes := ?_, retired := ?_ }⟩
    · simpa [share, placed, idle, Hold.bytes, Hold.places] using accounts'
    · have before := valid.places
      rw [idle] at before
      simpa [Hold.places, placed] using before
    · intro lane child found
      exact UInt32.le_of_lt (UInt32.lt_of_le_of_lt (valid.lanes lane child found) higher)
    · intro released
      cases live.symm.trans released
  rcases queueControl_cases reserved.valid _ with refused | ⟨after, queued, valid', after_eq⟩
  · rw [refused]
    exact reserved
  rw [queued]
  have absent : after.children.find frame.lane = none := by
    subst after_eq
    cases found : channel.children.find frame.lane with
    | none => exact found
    | some child => exact absurd (valid.lanes _ _ found) (UInt32.not_le.2 higher)
  have holds : after.hold = .retire := by rw [after_eq]; rfl
  refine ⟨?_, valid'.inserted holds absent (by rw [after_eq]; exact UInt32.le_refl _) _⟩
  rw [share_inserted holds absent]
  subst after_eq
  exact reserved.accounts

theorem bytes_kept (idle : channel.hold = .idle) :
    Kept others (channel.bytes limits frame around).2.1 (channel.bytes limits frame around).2.2 := by
  have ⟨accounts, valid⟩ := kept
  unfold bytes
  split
  · exact kept
  next child found =>
  dsimp only
  split
  · exact kept
  next admitted =>
  simp only [Bool.or_eq_true, decide_eq_true_eq, not_or, Nat.not_lt] at admitted
  obtain ⟨⟨_, covered⟩, room⟩ := admitted
  obtain ⟨credit, reverse⟩ := valid.credits _ _ found
  rcases reserveQueue_cases kept idle frame.body.length with
    ⟨refusal, after, channel', refused, kept'⟩ | ⟨after, taken, accounts'⟩
  · rw [refused]
    exact kept'
  rw [taken]
  refine Kept.setChild valid accounts' found ?_ ?_ ?_ ?_ ?_ room valid.controlBound
  · exact (Nat.sub_le _ _).trans credit
  · exact reverse
  · omega
  · simp only [ClosedForwardChild.data]
    omega
  · rfl

theorem peerCredit_kept : Kept others (channel.peerCredit limits frame around).2.1
      (channel.peerCredit limits frame around).2.2 := by
  have ⟨accounts, valid⟩ := kept
  unfold peerCredit
  split
  · exact kept
  next child found =>
  obtain ⟨credit, reverse⟩ := valid.credits _ _ found
  split
  · exact kept
  simp only [minus_of_le 64 reverse, noting_false]
  split
  · exact kept
  next allowed =>
  rcases queueControl_cases valid _ with refused | ⟨after, queued, valid', after_eq⟩
  · rw [refused]
    exact kept
  rw [queued]
  subst after_eq
  refine Kept.setChild valid' accounts found ?_ ?_ ?_ ?_ ?_ valid.dataBound valid'.controlBound
  · exact credit
  · show child.reverseCredit + ofBigEndian frame.body ≤ closedLaneCredit
    omega
  all_goals rfl

theorem eof_kept : Kept others (channel.eof limits frame).2.1 (channel.eof limits frame).2.2 := by
  unfold eof
  split
  · exact kept
  next child found =>
  split
  · exact kept
  · exact kept.touch found rfl rfl rfl rfl

/-- The queues of a child that leaves are released exactly; its place is not yet. -/
theorem releaseQueues_kept (found : channel.children.find lane = some child)
    (bytes : hold.bytes = channel.hold.bytes) (places : hold.places = channel.hold.places + 1) :
    Kept others (channel.releaseQueues limits lane child).1
      { (channel.releaseQueues limits lane child).2 with hold } := by
  have ⟨accounts, valid⟩ := kept
  have data := total_erase ClosedForwardChild.data found
  have fewer := size_erase found
  have control := le_total ClosedForwardChild.reverseControlQueued found
  have all := valid.data
  have reserve := valid.control
  have released := accounts.dequeue (show child.data ≤ channel.share.queued by
    simp only [share]
    omega)
  simp only [releaseQueues, releaseQueue_eq, releaseControlQueue, unqueue]
  rw [ClosedDutyChannel.dequeueControl_of_le (by omega),
    minus_of_le 64 (show child.queued + child.reverseQueued ≤ channel.queued by
      simp only [ClosedForwardChild.data] at data; omega)]
  simp only [noting, Bool.or_false]
  refine ⟨?_, valid.remove found places⟩
  refine { released with queued := ?_, children := ?_ }
  · rw [show child.queued + child.reverseQueued = child.data from rfl, released.queued]
    simp only [share, bytes]
    omega
  · have before := released.children
    simp only [ClosedForwardChild.data, share] at before ⊢
    omega

theorem close_kept (idle : channel.hold = .idle) :
    Kept others (channel.close limits frame around).2.1 (channel.close limits frame around).2.2 := by
  have ⟨accounts, valid⟩ := kept
  unfold close
  split
  · exact kept
  next child found =>
  rcases queueControl_cases valid _ with refused | ⟨after, queued, valid', after_eq⟩
  · rw [refused]
    exact kept
  rw [queued]
  have kept' : Kept others limits after := ⟨by subst after_eq; exact accounts, valid'⟩
  have holds : after.hold = .idle := by rw [after_eq]; exact idle
  exact releaseQueues_kept kept' (by rw [after_eq]; exact found) (by rw [holds]; rfl)
    (by rw [holds]; rfl)

theorem replenishBudget_kept : Kept others (channel.replenishBudget limits frame around).2.1
      (channel.replenishBudget limits frame around).2.2 := by
  unfold replenishBudget
  split
  · exact kept
  split
  · exact kept
  split
  · exact kept
  · exact ⟨kept.accounts, { kept.valid with budget := Nat.le_add_right _ _ }⟩

theorem accept_kept (idle : channel.hold = .idle) :
    Kept others (channel.accept limits frame around).2.1 (channel.accept limits frame around).2.2 := by
  unfold accept
  split
  · exact kept
  have charged := charge_kept kept (closedLaneHeaderSize + frame.body.length) around.receives
    .inputExhausted
  split
  · next refusal after charge_eq =>
    rw [charge_eq] at charged
    exact charged.1
  next after charge_eq =>
  rw [charge_eq] at charged
  obtain ⟨kept', hold_eq⟩ := charged
  have idle' : after.hold = .idle := hold_eq.trans idle
  split
  · exact openChild_kept kept' idle'
  · exact bytes_kept kept' idle'
  · exact peerCredit_kept kept'
  · exact eof_kept kept'
  · exact close_kept kept' idle'
  · exact replenishBudget_kept kept'
  · exact kept'

end Accept

/-! ## The consumer and the reverse direction -/

theorem credit_kept (kept : Kept others limits channel) (lane : UInt32) (bytes : Nat) :
    Kept others (channel.credit limits lane bytes around).2.1
      (channel.credit limits lane bytes around).2.2 := by
  have ⟨accounts, valid⟩ := kept
  unfold credit
  split
  · exact kept
  split
  · exact kept
  next child found =>
  obtain ⟨credit, reverse⟩ := valid.credits _ _ found
  simp only [minus_of_le 64 credit, noting_false]
  split
  · exact kept
  next allowed =>
  have data := le_total ClosedForwardChild.data found
  have all := valid.data
  simp only [ClosedForwardChild.data] at data
  have held : bytes ≤ channel.queued := by omega
  have released := accounts.dequeue (show bytes ≤ channel.share.queued by
    simp only [share]
    omega)
  simp only [releaseQueue_eq, unqueue, minus_of_le 64 held, noting, Bool.or_false]
  refine Kept.setChild valid released found ?_ ?_ ?_ ?_ ?_ ?_ valid.controlBound
  · show child.credit + bytes ≤ closedLaneCredit
    omega
  · exact reverse
  · simp only [share]
    omega
  · simp only [ClosedForwardChild.data]
    omega
  · rfl
  · exact (Nat.sub_le _ _).trans valid.dataBound

/-- `Next` looks for a frame of a child that is there. -/
theorem nextReady_found {rest : List UInt32} {body : List UInt8} {frames : List (List UInt8)}
    (next : nextReady children ready = some (lane, child, body, frames, rest)) :
    children.find lane = some child := by
  induction ready with
  | nil => cases next
  | cons first others ih =>
    rw [nextReady] at next
    split at next
    · exact ih next
    next value found =>
    split at next
    · exact ih next
    · cases next
      exact found

theorem nextEOF_found
    (next : nextEOF children pick = some (lane, child)) : children.find lane = some child := by
  unfold nextEOF at next
  split at next
  · next value found =>
    cases next
    exact (Option.filter_eq_some_iff.1 found).1
  · exact children.find_of_mem (List.mem_of_find?_eq_some next)

section Next

variable (kept : Kept others limits channel)

include kept

theorem deliver_kept (found : channel.children.find lane = some child) (body : List UInt8)
    (frames : List (List UInt8)) :
    Kept others limits (channel.deliver lane child body frames around).2 := by
  unfold deliver
  dsimp only
  split
  · exact kept.touch found rfl rfl rfl rfl
  split
  · rcases queueControl_cases kept.valid _ with refused | ⟨after, queued, valid', after_eq⟩
    · rw [refused]
      exact kept.touch found rfl rfl rfl rfl
    rw [queued]
    have kept' : Kept others limits after := ⟨by subst after_eq; exact kept.accounts, valid'⟩
    have found' : after.children.find lane = some child := by rw [after_eq]; exact found
    exact kept'.touch found' rfl rfl rfl rfl
  · exact kept.touch found rfl rfl rfl rfl

theorem next_kept (pick : UInt32) : Kept others limits (channel.next pick around).2 := by
  unfold next
  split
  · exact kept
  split
  · next event controls waits =>
    have ⟨accounts, valid⟩ := kept
    have sum := valid.waiting
    have reserve := valid.control
    rw [waits, List.map_cons, List.sum_cons] at sum
    have within : closedForwardControlSize event ≤ channel.controlBytes := by omega
    simp only [minus_of_le 32 within, noting, Bool.or_false, releaseControlQueue]
    rw [ClosedDutyChannel.dequeueControl_of_le (by omega)]
    refine ⟨accounts, { valid with
      control := ?_, waiting := ?_, controlBound := ?_, retired := ?_ }⟩
    · show channel.duty.controlQueued - closedForwardControlSize event =
        channel.controlBytes - closedForwardControlSize event + channel.children.total _
      omega
    · show channel.controlBytes - closedForwardControlSize event =
        (controls.map closedForwardControlSize).sum
      omega
    · exact (Nat.sub_le _ _).trans valid.controlBound
    · intro released
      obtain ⟨_, none, _⟩ := valid.retired released
      cases waits.symm.trans none
  · split
    · next lane child body frames rest ready =>
      have kept' : Kept others limits { channel with ready := rest } :=
        ⟨kept.accounts, { kept.valid with }⟩
      exact deliver_kept kept' (nextReady_found ready) body frames
    dsimp only
    split
    · next lane child owed =>
      exact kept.touch (nextEOF_found owed) rfl rfl rfl rfl
    · exact ⟨kept.accounts, { kept.valid with }⟩

theorem queueReverse_kept (idle : channel.hold = .idle) :
    Kept others (channel.queueReverse limits frame around).2.1
      (channel.queueReverse limits frame around).2.2 := by
  have ⟨accounts, valid⟩ := kept
  unfold queueReverse
  dsimp only
  split
  · exact kept
  next child found =>
  obtain ⟨credit, reverse⟩ := valid.credits _ _ found
  split
  · exact kept
  split
  · rcases reserveControlQueue_cases valid.controlBound
        (closedLaneHeaderSize + frame.body.length) with ⟨refusal, refused⟩ | ⟨taken, live, fits⟩
    · rw [refused]
      exact kept
    rw [taken]
    refine Kept.setChild valid accounts found ?_ ?_ ?_ ?_ ?_ valid.dataBound fits
    · exact credit
    · exact reverse
    · rfl
    · rfl
    · dsimp only
      omega
  split
  · simp only [minus_of_le 64 valid.dataBound, noting_false]
    split
    · exact kept
    next allowed =>
    have bound := valid.dataBound
    rcases reserveQueue_cases kept idle (closedLaneHeaderSize + frame.body.length) with
      ⟨refusal, after, channel', refused, kept'⟩ | ⟨after, taken, accounts'⟩
    · rw [refused]
      exact kept'
    rw [taken]
    refine Kept.setChild valid accounts' found ?_ ?_ ?_ ?_ ?_ ?_ valid.controlBound
    · exact credit
    · exact (Nat.sub_le _ _).trans reverse
    · omega
    · simp only [ClosedForwardChild.data]
      omega
    · rfl
    · omega
  · exact kept

theorem releaseReverse_kept :
    Kept others (channel.releaseReverse limits frame).1 (channel.releaseReverse limits frame).2 := by
  have ⟨accounts, valid⟩ := kept
  unfold releaseReverse
  dsimp only
  split
  · exact kept
  next child found =>
  obtain ⟨credit, reverse⟩ := valid.credits _ _ found
  split
  · split
    · exact kept
    next held =>
    have reserve := valid.control
    have part := le_total ClosedForwardChild.reverseControlQueued found
    simp only [releaseControlQueue]
    rw [ClosedDutyChannel.dequeueControl_of_le (by omega)]
    refine Kept.setChild valid accounts found ?_ ?_ ?_ ?_ ?_ valid.dataBound ?_
    · exact credit
    · exact reverse
    · rfl
    · rfl
    · dsimp only
      omega
    · exact (Nat.sub_le _ _).trans valid.controlBound
  split
  · split
    · exact kept
    next held =>
    have data := le_total ClosedForwardChild.data found
    have all := valid.data
    simp only [ClosedForwardChild.data] at data
    have released := accounts.dequeue
      (show closedLaneHeaderSize + frame.body.length ≤ channel.share.queued by
        simp only [share]
        omega)
    simp only [releaseQueue_eq, unqueue, noting]
    rw [minus_of_le 64 (show closedLaneHeaderSize + frame.body.length ≤ channel.queued by omega)]
    simp only [Bool.or_false]
    refine Kept.setChild valid released found ?_ ?_ ?_ ?_ ?_ ?_ valid.controlBound
    · exact credit
    · exact reverse
    · simp only [share]
      omega
    · simp only [ClosedForwardChild.data]
      omega
    · rfl
    · exact (Nat.sub_le _ _).trans valid.dataBound
  · exact kept

theorem accountOutput_kept : Kept others limits (channel.accountOutput frame around).2 := by
  unfold accountOutput
  split
  · exact kept
  split
  · exact kept
  · exact (charge_kept kept _ _ _).1

end Next

/-! ## The end of a channel -/

theorem cancel_kept (kept : Kept others limits channel) (idle : channel.hold = .idle) :
    Kept others limits channel.cancel := by
  have ⟨accounts, valid⟩ := kept
  refine ⟨?_, { valid with places := ?_ }⟩
  · simpa [cancel, share, idle, Hold.bytes, Hold.places] using accounts
  · simpa [cancel, idle, Hold.places] using valid.places

/-- Dropping events from the control queue is exact as long as it holds them. -/
theorem dequeueControl_events (events : List ClosedForwardingEvent) (duty : ClosedDutyChannel)
    (held : (events.map closedForwardControlSize).sum ≤ duty.controlQueued) :
    events.foldl (fun duty event => duty.dequeueControl (closedForwardControlSize event)) duty =
      { duty with
        controlQueued := duty.controlQueued - (events.map closedForwardControlSize).sum } := by
  induction events generalizing duty with
  | nil => rfl
  | cons event events ih =>
    rw [List.map_cons, List.sum_cons] at held
    rw [List.foldl_cons, ClosedDutyChannel.dequeueControl_of_le (by omega), ih _ (by dsimp only; omega)]
    simp only [List.map_cons, List.sum_cons, Nat.sub_sub]

theorem dropControls_eq (valid : channel.Valid) : channel.dropControls = { channel with
      controls := [], ready := [], controlBytes := 0
      duty := { channel.duty with
        controlQueued := channel.duty.controlQueued - channel.controlBytes } } := by
  have reserve := valid.control
  have sum := valid.waiting
  rw [dropControls, dequeueControl_events _ _ (by omega), ← sum]

theorem finish_kept (kept : Kept others limits channel) {gone : Nat}
    (hold : channel.hold = .cancel gone) (empty : channel.children.size = 0) :
    Kept others (channel.finish limits).1 (channel.finish limits).2 := by
  have ⟨accounts, valid⟩ := kept
  have places := valid.places
  have control := valid.control
  rw [total_of_size _ empty] at control
  rw [hold, empty] at places
  simp only [Hold.places, Nat.zero_add] at places
  -- nothing waits and no child is there, whatever becomes of the duty
  have ended : ∀ (duty : ClosedDutyChannel), duty.children = 0 → duty.controlQueued = 0 → duty.wraps = false →
      Valid { channel with controls := [], ready := [], controlBytes := 0, duty, hold := .idle } := by
    intro duty children queued wraps
    exact { valid with
      places := by simp [Hold.places, children, empty]
      control := by simp [queued, total_of_size _ empty]
      waiting := rfl
      controlBound := by simp [queued]
      retired := fun _ => ⟨empty, rfl, children⟩
      dutyUnwrapped := wraps }
  have unqueued : channel.duty.controlQueued - channel.controlBytes = 0 := by omega
  unfold finish
  rw [dropControls_eq valid, unqueued]
  by_cases released : channel.duty.released = true
  · obtain ⟨none, controls, children⟩ := valid.retired released
    simp only [ClosedDutyChannel.release, released, if_true]
    refine ⟨?_, ended _ children rfl valid.dutyUnwrapped⟩
    have gone_eq : gone = 0 := by omega
    simpa [share, hold, gone_eq, released, Hold.bytes, Hold.places] using accounts
  · have live : channel.duty.released = false := by simpa using released
    have counted : channel.duty.children = channel.share.children := valid.places
    have one : channel.share.channels = 1 := by simp [share, live]
    have live' : ({ channel.duty with controlQueued := 0 } : ClosedDutyChannel).released = false := live
    obtain ⟨given, accounts'⟩ := accounts.release live' counted one
    rw [given]
    refine ⟨?_, ended _ rfl rfl valid.dutyUnwrapped⟩
    simpa [share, hold, empty, Hold.bytes, Hold.places] using accounts'

theorem resume_kept {channel' : ClosedForwardingChannel} (kept : Kept others limits channel)
    (resumed : channel.resume limits pick = some (limits', channel')) :
    Kept others limits' channel' := by
  have ⟨accounts, valid⟩ := kept
  have places := valid.places
  unfold resume at resumed
  split at resumed
  · cases resumed
  · next size hold =>
    cases resumed
    refine ⟨?_, { valid with places := ?_ }⟩
    · have released := accounts.dequeue (show size ≤ channel.share.queued by
        simp only [share, hold, Hold.bytes]
        omega)
      simpa [share, hold, Hold.bytes, Hold.places] using released
    · simpa [hold, Hold.places] using places
  · next hold =>
    have counted : channel.duty.children = channel.share.children := places
    have positive : 0 < channel.share.children := by
      simp only [share, hold, Hold.places]
      omega
    obtain ⟨exact_, accounts'⟩ := accounts.releaseChild counted positive
    rw [exact_] at resumed
    cases resumed
    refine ⟨?_, { valid with places := ?_, retired := ?_ }⟩
    · simpa [share, hold, Hold.bytes, Hold.places] using accounts'
    · rw [hold] at places
      simp only [Hold.places] at places ⊢
      omega
    · intro released
      obtain ⟨none, controls, children⟩ := valid.retired released
      exact ⟨none, controls, by dsimp only; omega⟩
  · next gone hold =>
    split at resumed
    · next child found =>
      cases resumed
      exact releaseQueues_kept kept found (by rw [hold]; rfl) (by rw [hold]; rfl)
    split at resumed
    · next empty =>
      cases resumed
      exact finish_kept kept hold empty
    · cases resumed

end ClosedForwardingChannel

end Ardents.Route
