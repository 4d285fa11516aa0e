/-
# Route.DutyLimits — the aggregate reservations of one receiving duty

`closed_duty_limits.go` and `closed_duty_control_queue.go`.  All channels of a duty
share one `ClosedDutyLimits`: how many channels and children are live, and how many
bytes of data they have queued.  Every live channel also keeps 16 KiB of control
queue within the same 64 MiB, used or not.

The source subtracts unsigned numbers, and clamps or skips where a counter would go
below zero.  `wraps` is not in the source: it records that a subtraction wrapped or
that such a branch was taken.  Left out: the clock and the verification counters of
`BeginVerification`, which no reservation reads.

`Accounts` states what the counters mean: each of them is what one owner of a
reservation holds and what the others hold.  The lemmas say how each operation moves
the owner's part.
-/
import Ardents.Lib.Bytes

namespace Ardents.Route

open Lib

set_option autoImplicit false

def closedDutyChannels : Nat := 1024
def closedDutyChildren : Nat := 1024
def closedDutyQueueBytes : Nat := 67108864
def closedChannelControlBytes : Nat := 16384
def closedForwardChildren : Nat := 256

structure ClosedDutyLimits where
  channels : Nat
  children : Nat
  queued : Nat
  wraps : Bool
  deriving DecidableEq, Repr

structure ClosedDutyChannel where
  children : Nat
  controlQueued : Nat
  released : Bool
  wraps : Bool
  deriving DecidableEq, Repr

/-! ## Operations -/

/-- `NewClosedDutyLimits`. -/
def ClosedDutyLimits.new : ClosedDutyLimits := ⟨0, 0, 0, false⟩

namespace ClosedDutyLimits

/-- The limits after a subtraction that wrapped or not. -/
def noting (limits : ClosedDutyLimits) (wrapped : Bool) : ClosedDutyLimits :=
  { limits with wraps := limits.wraps || wrapped }

def reserveChannel (limits : ClosedDutyLimits) : Option ClosedDutyChannel × ClosedDutyLimits :=
  if closedDutyChannels ≤ limits.channels then (none, limits)
  else
    let data := minus 64 closedDutyQueueBytes ((limits.channels + 1) * closedChannelControlBytes)
    let limits := limits.noting data.2
    if data.1 < limits.queued then (none, limits)
    else (some ⟨0, 0, false, false⟩, { limits with channels := limits.channels + 1 })

def queue (limits : ClosedDutyLimits) (bytes : Nat) : Bool × ClosedDutyLimits :=
  if bytes = 0 then (false, limits)
  else
    let data := minus 64 closedDutyQueueBytes (limits.channels * closedChannelControlBytes)
    let available := minus 64 data.1 limits.queued
    let limits := limits.noting (data.2 || available.2)
    if available.1 < bytes then (false, limits)
    else (true, { limits with queued := limits.queued + bytes })

def dequeue (limits : ClosedDutyLimits) (bytes : Nat) : ClosedDutyLimits :=
  if bytes = 0 then limits
  else if limits.queued < bytes then { limits.noting true with queued := 0 }
  else { limits with queued := limits.queued - bytes }

end ClosedDutyLimits

namespace ClosedDutyChannel

def noting (channel : ClosedDutyChannel) (wrapped : Bool) : ClosedDutyChannel :=
  { channel with wraps := channel.wraps || wrapped }

def reserveChild (limits : ClosedDutyLimits) (channel : ClosedDutyChannel) :
    Bool × ClosedDutyLimits × ClosedDutyChannel :=
  if channel.released ∨ closedForwardChildren ≤ channel.children ∨
      closedDutyChildren ≤ limits.children then (false, limits, channel)
  else
    (true, { limits with children := limits.children + 1 },
      { channel with children := channel.children + 1 })

def releaseChild (limits : ClosedDutyLimits) (channel : ClosedDutyChannel) :
    ClosedDutyLimits × ClosedDutyChannel :=
  if channel.children = 0 then (limits, channel.noting true)
  else
    let children := minus 16 limits.children 1
    ({ limits.noting children.2 with children := children.1 },
      { channel with children := channel.children - 1 })

def release (limits : ClosedDutyLimits) (channel : ClosedDutyChannel) :
    ClosedDutyLimits × ClosedDutyChannel :=
  if channel.released then (limits, channel)
  else
    let children := minus 16 limits.children channel.children
    let channels := minus 16 limits.channels 1
    ({ limits.noting (children.2 || channels.2) with
        children := children.1, channels := channels.1 },
      { channel with children := 0, released := true })

def queueControl (channel : ClosedDutyChannel) (size : Nat) : Bool × ClosedDutyChannel :=
  if size = 0 ∨ channel.released then (false, channel)
  else
    let available := minus 64 closedChannelControlBytes channel.controlQueued
    let channel := channel.noting available.2
    if available.1 < size then (false, channel)
    else (true, { channel with controlQueued := channel.controlQueued + size })

def dequeueControl (channel : ClosedDutyChannel) (size : Nat) : ClosedDutyChannel :=
  if size ≤ channel.controlQueued then { channel with controlQueued := channel.controlQueued - size }
  else channel.noting true

end ClosedDutyChannel

/-! ## What the counters mean -/

/-- What an owner holds of the limits. -/
structure Share where
  queued : Nat
  children : Nat
  channels : Nat

/-- The counters are what one owner holds and what the others hold, they respect
the bounds of the duty, and no subtraction has wrapped so far. -/
structure Accounts (limits : ClosedDutyLimits) (share others : Share) : Prop where
  queued : limits.queued = share.queued + others.queued
  children : limits.children = share.children + others.children
  channels : limits.channels = share.channels + others.channels
  bounded : limits.queued + closedChannelControlBytes * limits.channels ≤ closedDutyQueueBytes
  fewChannels : limits.channels ≤ closedDutyChannels
  fewChildren : limits.children ≤ closedDutyChildren
  unwrapped : limits.wraps = false

namespace Accounts

variable {limits : ClosedDutyLimits} {share others : Share}

@[simp] theorem noting_false (limits : ClosedDutyLimits) : limits.noting false = limits := by
  simp [ClosedDutyLimits.noting]

section Calls

variable (accounts : Accounts limits share others)

include accounts

/-- `queue` either refuses and changes nothing, or hands `bytes` to the owner. -/
theorem queue (bytes : Nat) : limits.queue bytes = (false, limits) ∨
      0 < bytes ∧ limits.queue bytes = (true, { limits with queued := limits.queued + bytes }) ∧
        Accounts { limits with queued := limits.queued + bytes }
          { share with queued := share.queued + bytes } others := by
  have bounded := accounts.bounded
  have summed := accounts.queued
  rw [Nat.mul_comm] at bounded
  by_cases zero : bytes = 0
  · exact .inl (if_pos zero)
  have data := minus_of_le 64 (show limits.channels * closedChannelControlBytes ≤
    closedDutyQueueBytes by omega)
  have available := minus_of_le 64 (show limits.queued ≤
    closedDutyQueueBytes - limits.channels * closedChannelControlBytes by omega)
  simp only [ClosedDutyLimits.queue, if_neg zero, data, available, Bool.or_self, noting_false]
  by_cases full : closedDutyQueueBytes - limits.channels * closedChannelControlBytes -
      limits.queued < bytes
  · exact .inl (by simp [full])
  refine .inr ⟨by omega, by simp [full], { accounts with queued := ?_, bounded := ?_ }⟩
  · show limits.queued + bytes = share.queued + bytes + others.queued
    omega
  · show limits.queued + bytes + closedChannelControlBytes * limits.channels ≤ _
    rw [Nat.mul_comm closedChannelControlBytes]
    omega

/-- `dequeue` of bytes the owner holds never clamps. -/
theorem dequeue {bytes : Nat} (held : bytes ≤ share.queued) :
    Accounts (limits.dequeue bytes) { share with queued := share.queued - bytes } others := by
  have bounded := accounts.bounded
  have summed := accounts.queued
  by_cases zero : bytes = 0
  · subst zero
    exact accounts
  rw [ClosedDutyLimits.dequeue, if_neg zero, if_neg (show ¬limits.queued < bytes by omega)]
  refine { accounts with queued := ?_, bounded := ?_ }
  · show limits.queued - bytes = share.queued - bytes + others.queued
    omega
  · show limits.queued - bytes + closedChannelControlBytes * limits.channels ≤ _
    omega

/-- `reserveChannel` either refuses and changes nothing, or a new owner holds the
channel. -/
theorem reserveChannel : limits.reserveChannel = (none, limits) ∨
      limits.reserveChannel =
          (some ⟨0, 0, false, false⟩, { limits with channels := limits.channels + 1 }) ∧
        Accounts { limits with channels := limits.channels + 1 }
          { share with channels := share.channels + 1 } others := by
  have bounded := accounts.bounded
  have summed := accounts.channels
  by_cases many : closedDutyChannels ≤ limits.channels
  · exact .inl (if_pos many)
  have few : limits.channels < 1024 := by simpa [closedDutyChannels] using many
  have data := minus_of_le 64 (show (limits.channels + 1) * closedChannelControlBytes ≤
    closedDutyQueueBytes by simp only [closedChannelControlBytes, closedDutyQueueBytes]; omega)
  simp only [ClosedDutyLimits.reserveChannel, if_neg many, data, noting_false]
  by_cases full : closedDutyQueueBytes - (limits.channels + 1) * closedChannelControlBytes <
      limits.queued
  · exact .inl (by simp [full])
  refine .inr ⟨by simp [full], { accounts with channels := ?_, bounded := ?_, fewChannels := ?_ }⟩
  · show limits.channels + 1 = share.channels + 1 + others.channels
    omega
  · simp only [closedChannelControlBytes, closedDutyQueueBytes] at full ⊢
    omega
  · show limits.channels + 1 ≤ closedDutyChannels
    omega

/-- `reserveChild` either refuses and changes nothing, or the owner holds one more
child. -/
theorem reserveChild (channel : ClosedDutyChannel) :
    channel.reserveChild limits = (false, limits, channel) ∨
      channel.released = false ∧
        channel.reserveChild limits = (true, { limits with children := limits.children + 1 },
          { channel with children := channel.children + 1 }) ∧
        Accounts { limits with children := limits.children + 1 }
          { share with children := share.children + 1 } others := by
  have summed := accounts.children
  by_cases refused : channel.released ∨ closedForwardChildren ≤ channel.children ∨
      closedDutyChildren ≤ limits.children
  · exact .inl (if_pos refused)
  refine .inr ⟨by simp_all, if_neg refused, { accounts with children := ?_, fewChildren := ?_ }⟩
  · show limits.children + 1 = share.children + 1 + others.children
    omega
  · show limits.children + 1 ≤ closedDutyChildren
    omega

variable {channel : ClosedDutyChannel}

/-- `releaseChild` by an owner that holds a child is exact. -/
theorem releaseChild (counted : channel.children = share.children) (some_ : 0 < share.children) :
    channel.releaseChild limits = ({ limits with children := limits.children - 1 },
        { channel with children := channel.children - 1 }) ∧
      Accounts { limits with children := limits.children - 1 }
        { share with children := share.children - 1 } others := by
  have summed := accounts.children
  have few := accounts.fewChildren
  have children := minus_of_le 16 (show 1 ≤ limits.children by omega)
  refine ⟨?_, { accounts with children := ?_, fewChildren := ?_ }⟩
  · rw [ClosedDutyChannel.releaseChild, if_neg (by omega), children]
    simp [ClosedDutyLimits.noting]
  · show limits.children - 1 = share.children - 1 + others.children
    omega
  · show limits.children - 1 ≤ closedDutyChildren
    omega

/-- `release` by the owner of a live channel gives back the channel and its children,
and is exact. -/
theorem release (live : channel.released = false)
    (counted : channel.children = share.children) (held : share.channels = 1) :
    channel.release limits = ({ limits with
          children := limits.children - channel.children, channels := limits.channels - 1 },
        { channel with children := 0, released := true }) ∧
      Accounts { limits with
          children := limits.children - channel.children, channels := limits.channels - 1 }
        { share with children := 0, channels := 0 } others := by
  have bounded := accounts.bounded
  have summed := accounts.children
  have counts := accounts.channels
  have fewChildren := accounts.fewChildren
  have fewChannels := accounts.fewChannels
  have children := minus_of_le 16 (show channel.children ≤ limits.children by omega)
  have channels := minus_of_le 16 (show 1 ≤ limits.channels by omega)
  refine ⟨?_, { accounts with
    children := ?_, channels := ?_, bounded := ?_, fewChannels := ?_, fewChildren := ?_ }⟩
  · rw [ClosedDutyChannel.release, if_neg (by simp [live]), children, channels]
    simp [ClosedDutyLimits.noting]
  · show limits.children - channel.children = 0 + others.children
    omega
  · show limits.channels - 1 = 0 + others.channels
    omega
  · simp only [closedChannelControlBytes] at bounded ⊢
    omega
  · show limits.channels - 1 ≤ closedDutyChannels
    omega
  · show limits.children - channel.children ≤ closedDutyChildren
    omega

end Calls

end Accounts

/-! ## The control queue of one channel -/

namespace ClosedDutyChannel

variable {channel : ClosedDutyChannel}

@[simp] theorem noting_false (channel : ClosedDutyChannel) : channel.noting false = channel := by
  simp [noting]

/-- `queueControl` either refuses and changes nothing, or the bytes fit the reserve. -/
theorem queueControl_cases (within : channel.controlQueued ≤ closedChannelControlBytes) (size : Nat) :
    channel.queueControl size = (false, channel) ∨
      channel.queueControl size =
          (true, { channel with controlQueued := channel.controlQueued + size }) ∧
        channel.released = false ∧ channel.controlQueued + size ≤ closedChannelControlBytes := by
  have available := minus_of_le 64 within
  by_cases refused : size = 0 ∨ channel.released
  · exact .inl (if_pos refused)
  rw [queueControl, if_neg refused, available]
  by_cases full : closedChannelControlBytes - channel.controlQueued < size
  · exact .inl (by simp [full])
  · exact .inr ⟨by simp [full], by simp_all, by omega⟩

/-- `dequeueControl` of queued bytes is exact. -/
theorem dequeueControl_of_le {size : Nat} (held : size ≤ channel.controlQueued) :
    channel.dequeueControl size = { channel with controlQueued := channel.controlQueued - size } :=
  if_pos held

end ClosedDutyChannel

end Ardents.Route
