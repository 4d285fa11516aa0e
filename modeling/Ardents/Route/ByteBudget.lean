/-
# Route.ByteBudget — the byte budget of a forwarding channel

Frames in both directions and replenishments share `usedBytes` and `byteLimit`.
`BudgetRun` runs one channel among limits that anything may change between two of its
operations, and counts beside it what was charged and how often it was replenished, both
read off the answers of the operations.  Every operation but a charge and a replenishment
leaves the budget alone (`ForwardOperation.apply_budget`), whatever it answers.
-/
import Ardents.Route.Accounting

namespace Ardents.Route

open Lib

set_option autoImplicit false

namespace ClosedForwardingChannel

variable {limits : ClosedDutyLimits} {channel : ClosedForwardingChannel} {frame : ClosedLaneFrame}
  {around : Surroundings}

/-- The fields of the budget, with how it is charged. -/
def budget (channel : ClosedForwardingChannel) : Nat × Nat × Bool :=
  (channel.byteLimit, channel.usedBytes, channel.bootstrap)

theorem reserveQueue_budget (size : Nat) :
    (channel.reserveQueue limits size around).2.2.budget = channel.budget := by
  unfold reserveQueue
  (repeat' split) <;> rfl

theorem reserveControlQueue_budget (size : Nat) :
    (channel.reserveControlQueue size around).2.budget = channel.budget := by
  unfold reserveControlQueue
  (repeat' split) <;> rfl

theorem queueControl_budget (event : ClosedForwardingEvent) :
    (channel.queueControl event around).2.budget = channel.budget := by
  have reserved := @reserveControlQueue_budget channel around (closedForwardControlSize event)
  unfold queueControl
  dsimp only
  split
  · rfl
  split
  · next kept => rwa [kept] at reserved
  · next kept => rwa [kept] at reserved

/-- What the answer to a frame says of the budget: it is as it was, and the answer is none of
those that `accept` gives before a charge. -/
def Handled (channel : ClosedForwardingChannel) (answer : Answer Unit) : Prop :=
  answer.2.2.budget = channel.budget ∧ answer.1 ≠ .error .channelUnavailable ∧
    answer.1 ≠ .error .inputExhausted

theorem openChild_handled : channel.Handled (channel.openChild limits frame around) := by
  unfold openChild
  (repeat' split) <;> grind [Handled, queueControl_budget, budget, placed, inserted]

theorem bytes_handled : channel.Handled (channel.bytes limits frame around) := by
  unfold bytes
  (repeat' split) <;> grind [Handled, reserveQueue_budget, budget, setChild]

theorem peerCredit_handled : channel.Handled (channel.peerCredit limits frame around) := by
  unfold peerCredit
  (repeat' split) <;> grind [Handled, queueControl_budget, budget, setChild, noting]

theorem eof_handled : channel.Handled (channel.eof limits frame) := by
  unfold eof
  (repeat' split) <;> grind [Handled, budget, setChild]

theorem close_handled : channel.Handled (channel.close limits frame around) := by
  unfold close
  (repeat' split) <;> grind [Handled, queueControl_budget, budget, releaseQueues, releaseControlQueue,
    unqueue, noting]

theorem credit_budget (lane : UInt32) (bytes : Nat) :
    (channel.credit limits lane bytes around).2.2.budget = channel.budget := by
  unfold credit
  dsimp only
  (repeat' split) <;> rfl

theorem deliver_budget (lane : UInt32) (child : ClosedForwardChild) (body : List UInt8)
    (frames : List (List UInt8)) :
    (channel.deliver lane child body frames around).2.budget = channel.budget := by
  unfold deliver
  (repeat' split) <;> grind [queueControl_budget, budget, setChild]

theorem next_budget (pick : UInt32) : (channel.next pick around).2.budget = channel.budget := by
  unfold next
  (repeat' split) <;> grind [deliver_budget, budget, setChild, releaseControlQueue, noting]

theorem queueReverse_budget :
    (channel.queueReverse limits frame around).2.2.budget = channel.budget := by
  unfold queueReverse
  (repeat' split) <;> grind [reserveQueue_budget, reserveControlQueue_budget, budget, setChild,
    noting]

theorem releaseReverse_budget :
    (channel.releaseReverse limits frame).2.budget = channel.budget := by
  unfold releaseReverse
  dsimp only
  (repeat' split) <;> rfl

theorem resume_budget {pick : UInt32} {result : ClosedDutyLimits × ClosedForwardingChannel}
    (resumed : channel.resume limits pick = some result) : result.2.budget = channel.budget := by
  unfold resume at resumed
  (repeat' split at resumed) <;> cases resumed <;>
    grind [budget, releaseQueues, releaseControlQueue, unqueue, noting, finish, dropControls]

/-! ## Charges -/

/-- What a frame that was charged leaves: the limit is written by a replenishment only. -/
def Taken (channel : ClosedForwardingChannel) (size : Nat) (frame : ClosedLaneFrame)
    (answer : Answer Unit) : Prop :=
  answer.1 ≠ .error .channelUnavailable ∧ answer.1 ≠ .error .inputExhausted ∧
    (answer.2.2.budget = (channel.byteLimit, channel.usedBytes + size, false) ∨
      frame.kind = .closedFrameAdmit ∧ answer.1 = .ok () ∧
        answer.2.2.budget = (channel.usedBytes + size + 33554432, channel.usedBytes + size, false))

theorem replenishBudget_taken (own : channel.bootstrap = false)
    (admits : frame.kind = .closedFrameAdmit) (size : Nat) :
    channel.Taken size frame (replenishBudget limits
      { channel with usedBytes := channel.usedBytes + size } frame around) := by
  unfold replenishBudget
  (repeat' split) <;> simp [Taken, budget, own, admits]

section Charges

variable (within : channel.usedBytes ≤ channel.byteLimit) (own : channel.bootstrap = false)

include within own

/-- A charge takes the frame out of what is left of the budget, or refuses it. -/
theorem charge_cases (size : Nat) (granted : Bool) (exhausted : ForwardError) :
    channel.byteLimit - channel.usedBytes < size ∧
        channel.charge size granted exhausted = (some exhausted, channel) ∨
      channel.usedBytes + size ≤ channel.byteLimit ∧ channel.charge size granted exhausted =
        (none, { channel with usedBytes := channel.usedBytes + size }) := by
  simp only [charge, own, minus_of_le 64 within, noting_false, Bool.false_eq_true, if_false]
  by_cases fits : channel.byteLimit - channel.usedBytes < size
  · exact .inl ⟨fits, if_pos fits⟩
  · exact .inr ⟨by omega, if_neg fits⟩

/-- A frame from the peer is refused before a charge, or its size is taken out of the budget. -/
theorem accept_cases : let answer := channel.accept limits frame around
    let size := closedLaneHeaderSize + frame.body.length
    answer.2 = (limits, channel) ∧
        (answer.1 = .error .channelUnavailable ∨ answer.1 = .error .inputExhausted) ∨
      channel.usedBytes + size ≤ channel.byteLimit ∧ channel.Taken size frame answer := by
  intro answer size
  unfold answer accept
  split
  · exact .inl ⟨rfl, .inl rfl⟩
  obtain ⟨-, refused⟩ | ⟨fits, charged⟩ :=
    charge_cases within own size around.receives .inputExhausted
  · rw [refused]
    exact .inl ⟨rfl, .inr rfl⟩
  refine .inr ⟨fits, ?_⟩
  rw [charged]
  -- every handler but the last leaves the budget that the charge left
  have kept : ∀ answer : Answer Unit,
      Handled { channel with usedBytes := channel.usedBytes + size } answer →
        channel.Taken size frame answer := by
    intro answer handled
    exact ⟨handled.2.1, handled.2.2, .inl (by rw [handled.1, budget, own])⟩
  dsimp only
  split
  · exact kept _ openChild_handled
  · exact kept _ bytes_handled
  · exact kept _ peerCredit_handled
  · exact kept _ eof_handled
  · exact kept _ close_handled
  · next admits => exact replenishBudget_taken own admits size
  · exact kept _ ⟨rfl, nofun, nofun⟩

/-- A frame to the peer is refused, or its size is taken out of the budget. -/
theorem accountOutput_cases : let size := closedLaneHeaderSize + frame.body.length
    (channel.accountOutput frame around).1 ≠ none ∧
        (channel.accountOutput frame around).2 = channel ∨
      channel.usedBytes + size ≤ channel.byteLimit ∧ channel.accountOutput frame around =
        (none, { channel with usedBytes := channel.usedBytes + size }) := by
  intro size
  unfold accountOutput
  split
  · exact .inl ⟨(by rintro ⟨⟩), rfl⟩
  split
  · exact .inl ⟨(by rintro ⟨⟩), rfl⟩
  obtain ⟨-, refused⟩ | charged := charge_cases within own size around.sends .outputExhausted
  · rw [refused]
    exact .inl ⟨(by rintro ⟨⟩), rfl⟩
  · exact .inr charged

end Charges

end ClosedForwardingChannel

open ClosedForwardingChannel

namespace ForwardOperation

/-- The bytes an operation was charged with, by its answer: a frame from the peer that was
accepted, or refused for what it says, and a frame to the peer that was let through. -/
def charged (limits : ClosedDutyLimits) (channel : ClosedForwardingChannel) : ForwardOperation → Nat
  | .accept frame around =>
    match (channel.accept limits frame around).1 with
    | .error .channelUnavailable | .error .inputExhausted => 0
    | _ => closedLaneHeaderSize + frame.body.length
  | .accountOutput frame around =>
    if (channel.accountOutput frame around).1 = none then closedLaneHeaderSize + frame.body.length
    else 0
  | _ => 0

/-- Whether an operation is a replenishment that was accepted. -/
def replenishes (limits : ClosedDutyLimits) (channel : ClosedForwardingChannel) :
    ForwardOperation → Bool
  | .accept frame around =>
    frame.kind == .closedFrameAdmit && (channel.accept limits frame around).1.isOk
  | _ => false

variable {limits : ClosedDutyLimits} {channel : ClosedForwardingChannel}

/-- What an operation does to the budget: what it is charged with fits and is taken, and the
limit is as it was, or one admission ahead after a replenishment. -/
theorem apply_budget (within : channel.usedBytes ≤ channel.byteLimit)
    (own : channel.bootstrap = false) (operation : ForwardOperation) :
    let used := channel.usedBytes + operation.charged limits channel
    used ≤ channel.byteLimit ∧
      ((operation.apply limits channel).2.budget = (channel.byteLimit, used, false) ∨
        operation.replenishes limits channel = true ∧
          (operation.apply limits channel).2.budget = (used + 33554432, used, false)) := by
  have quiet : channel.budget = (channel.byteLimit, channel.usedBytes, false) := by
    rw [budget, own]
  cases operation with
  | accept frame around =>
    have cases := @accept_cases limits channel frame around within own
    simp only [charged, replenishes, apply]
    obtain ⟨same, answered⟩ | ⟨fits, unavailable, exhausted, budget⟩ := cases
    · obtain answered | answered := answered <;>
        exact answered ▸ ⟨within, .inl (by rw [same]; exact quiet)⟩
    split
    · next answered => exact absurd answered unavailable
    · next answered => exact absurd answered exhausted
    refine ⟨fits, budget.imp_right fun ⟨admits, accepted, raised⟩ => ⟨?_, raised⟩⟩
    rw [admits, accepted]
    rfl
  | credit lane bytes around =>
    exact ⟨within, .inl ((credit_budget lane bytes).trans quiet)⟩
  | next pick around => exact ⟨within, .inl ((next_budget pick).trans quiet)⟩
  | queueReverse frame around =>
    exact ⟨within, .inl (queueReverse_budget.trans quiet)⟩
  | releaseReverse frame =>
    exact ⟨within, .inl (releaseReverse_budget.trans quiet)⟩
  | accountOutput frame around =>
    simp only [charged, apply]
    obtain ⟨refused, same⟩ | ⟨fits, taken⟩ :=
      @accountOutput_cases channel frame around within own
    · rw [if_neg refused, same]
      exact ⟨within, .inl quiet⟩
    · rw [taken]
      exact ⟨fits, .inl (by rw [if_pos rfl, budget, own])⟩
  | cancel => exact ⟨within, .inl quiet⟩

end ForwardOperation

/-- A forwarding channel with the bytes charged and the replenishments so far. -/
structure BudgetRun where
  channel : ClosedForwardingChannel
  charged : Nat
  replenished : Nat

inductive BudgetEvent where
  | operation (limits : ClosedDutyLimits) (operation : ForwardOperation)
  | resume (limits : ClosedDutyLimits) (pick : UInt32)

namespace BudgetRun

/-- A replenishable channel, charged with its admission. -/
def start (duty : ClosedDutyChannel) (deadline : Time) : BudgetRun :=
  ⟨.new duty deadline true, 596, 0⟩

def step (budget : BudgetRun) : BudgetEvent → Option BudgetRun
  | .operation limits operation =>
    if budget.channel.hold = .idle then
      some ⟨(operation.apply limits budget.channel).2,
        budget.charged + operation.charged limits budget.channel,
        budget.replenished + (operation.replenishes limits budget.channel).toNat⟩
    else none
  | .resume limits pick =>
    (budget.channel.resume limits pick).map fun result => { budget with channel := result.2 }

/-- The budget law: no byte is charged beyond the admission and the replenishments, what is
left is at most one admission, and a frame beyond what is left changes nothing. -/
structure Bounded (budget : BudgetRun) : Prop where
  total : budget.charged ≤ (budget.replenished + 1) * 33554432
  within : budget.channel.usedBytes ≤ budget.channel.byteLimit
  left : budget.channel.byteLimit - budget.channel.usedBytes ≤ 33554432
  rises : ∀ event next, budget.step event = some next →
    budget.channel.byteLimit ≤ next.channel.byteLimit
  refused : ∀ limits frame around, budget.channel.byteLimit - budget.channel.usedBytes <
    closedLaneHeaderSize + frame.body.length →
      (budget.channel.accept limits frame around).2 = (limits, budget.channel) ∧
        (budget.channel.accountOutput frame around).2 = budget.channel

/-- What every operation keeps. -/
structure Sound (budget : BudgetRun) : Prop where
  own : budget.channel.bootstrap = false
  counted : budget.charged = budget.channel.usedBytes
  within : budget.channel.usedBytes ≤ budget.channel.byteLimit
  left : budget.channel.byteLimit ≤ budget.channel.usedBytes + 33554432
  limit : budget.channel.byteLimit ≤ (budget.replenished + 1) * 33554432

variable {budget next : BudgetRun}

theorem Sound.start (duty : ClosedDutyChannel) (deadline : Time) :
    (BudgetRun.start duty deadline).Sound where
  own := rfl
  counted := rfl
  within := by simp only [BudgetRun.start, new]; decide
  left := by simp only [BudgetRun.start, new]; decide
  limit := by simp only [BudgetRun.start, new]; decide

/-- One step keeps the budget sound and does not lower the limit. -/
theorem Sound.step (sound : budget.Sound) (event : BudgetEvent)
    (stepped : budget.step event = some next) :
    next.Sound ∧ budget.channel.byteLimit ≤ next.channel.byteLimit := by
  obtain ⟨own, counted, within, left, limit⟩ := sound
  cases event with
  | operation limits operation =>
    simp only [BudgetRun.step] at stepped
    split at stepped
    case isFalse => cases stepped
    cases stepped
    have applied := @ForwardOperation.apply_budget limits budget.channel within own operation
    simp only [ClosedForwardingChannel.budget, Prod.mk.injEq] at applied
    obtain ⟨fits, ⟨byteLimit, usedBytes, bootstrap⟩ |
      ⟨replenished, byteLimit, usedBytes, bootstrap⟩⟩ := applied
    · refine ⟨⟨bootstrap, ?_, ?_, ?_, ?_⟩, ?_⟩ <;> dsimp only <;> grind
    · refine ⟨⟨bootstrap, ?_, ?_, ?_, ?_⟩, ?_⟩ <;> dsimp only <;> grind
  | resume limits pick =>
    simp only [BudgetRun.step, Option.map_eq_some_iff] at stepped
    obtain ⟨result, resumed, rfl⟩ := stepped
    have same := resume_budget resumed
    simp only [ClosedForwardingChannel.budget, Prod.mk.injEq] at same
    obtain ⟨byteLimit, usedBytes, bootstrap⟩ := same
    exact ⟨⟨bootstrap.trans own, by grind, by grind, by grind, by grind⟩, byteLimit.ge⟩

theorem Sound.bounded (sound : budget.Sound) : budget.Bounded where
  total := by grind [Sound]
  within := sound.within
  left := by grind [Sound]
  rises event next stepped := (sound.step event stepped).2
  refused limits frame around beyond := by
    have accepts := @accept_cases limits budget.channel frame around
      sound.within sound.own
    have accounts := @accountOutput_cases budget.channel frame around
      sound.within sound.own
    grind

end BudgetRun

/-- In every run of a replenishable channel the bytes charged are at most what the admission
and the replenishments gave. -/
theorem replenishable_run_bounded (duty : ClosedDutyChannel) (deadline : Time)
    (events : List BudgetEvent) :
    Throughout BudgetRun.step BudgetRun.Bounded (BudgetRun.start duty deadline) events := by
  have sound : Throughout BudgetRun.step BudgetRun.Sound (BudgetRun.start duty deadline) events :=
    throughout_of_invariant (fun _ event _ sound stepped => (sound.step event stepped).1)
      (BudgetRun.Sound.start duty deadline) events
  exact sound.imp fun _ => BudgetRun.Sound.bounded

end Ardents.Route
