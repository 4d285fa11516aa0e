/-
# Lib.Segments — lists placed at an offset of one logical sequence

A labelling `source : Nat → Option α` names the element at every logical offset
that has one.  `Agrees source offset data` says that `data`, placed at `offset`,
is what the labelling has there.  Two segments that agree with one labelling
cannot conflict where they overlap (`Agrees.eq_of_length`), and a segment laid
over another by `overlay` agrees wherever either of them does.

A sequence of intervals is `Gapless` above `base` when each starts at or below
what `base` and the ones before it `reach`.
-/
import Mathlib.Tactic

namespace Ardents.Lib

set_option autoImplicit false

universe u

variable {α : Type u}

/-- `data`, placed at `offset`, is what `source` has there. -/
def Agrees (source : Nat → Option α) (offset : Nat) (data : List α) : Prop :=
  ∀ i, i < data.length → data[i]? = source (offset + i)

/-- `source` has an element exactly below the length of the list, in its order. -/
def labelled (sequence : List α) : Nat → Option α := fun i => sequence[i]?

/-- Copy `data` over `base` from position `start` on. -/
def overlay (base : List α) (start : Nat) (data : List α) : List α :=
  base.take start ++ data ++ base.drop (start + data.length)

namespace Agrees

variable {source : Nat → Option α}

theorem nil (offset : Nat) : Agrees source offset [] := by
  intro i lt
  simp at lt

variable {offset : Nat} {data : List α}

theorem append_iff {front back : List α} : Agrees source offset (front ++ back) ↔
      Agrees source offset front ∧ Agrees source (offset + front.length) back := by
  constructor
  · intro agrees
    refine ⟨fun i lt => ?_, fun i lt => ?_⟩
    · have := agrees i (by simp; omega)
      rwa [List.getElem?_append_left lt] at this
    · have := agrees (front.length + i) (by simp; omega)
      rw [List.getElem?_append_right (by omega), Nat.add_sub_cancel_left] at this
      rw [this, Nat.add_assoc]
  · rintro ⟨first, second⟩ i lt
    by_cases inside : i < front.length
    · rw [List.getElem?_append_left inside]
      exact first i inside
    · rw [List.getElem?_append_right (by omega), second (i - front.length) (by simp at lt; omega)]
      congr 1
      omega

theorem take (agrees : Agrees source offset data) (count : Nat) : Agrees source offset (data.take count) := by
  have split := data.take_append_drop count
  rw [← split, append_iff] at agrees
  exact agrees.1

theorem drop (agrees : Agrees source offset data) (count : Nat) (fits : count ≤ data.length) :
    Agrees source (offset + count) (data.drop count) := by
  have split := data.take_append_drop count
  rw [← split, append_iff, List.length_take, Nat.min_eq_left fits] at agrees
  exact agrees.2

/-- Two segments of one labelling at one place are equal. -/
theorem eq_of_length {first second : List α} (left : Agrees source offset first)
    (right : Agrees source offset second) (same : first.length = second.length) : first = second := by
  apply List.ext_getElem?
  intro i
  by_cases inside : i < first.length
  · rw [left i inside, right i (same ▸ inside)]
  · rw [List.getElem?_eq_none (by omega), List.getElem?_eq_none (by omega)]

/-- Agreement survives a labelling that keeps every element it had. -/
theorem mono {other : Nat → Option α} (agrees : Agrees source offset data)
    (keeps : ∀ i a, source i = some a → other i = some a) : Agrees other offset data := by
  intro i lt
  have found := agrees i lt
  rw [List.getElem?_eq_getElem lt] at found ⊢
  exact (keeps _ _ found.symm).symm

/-- A piece of the sequence itself agrees with its labelling. -/
theorem labelled_slice (sequence : List α) (offset count : Nat) :
    Agrees (labelled sequence) offset ((sequence.drop offset).take count) := by
  intro i lt
  rw [List.length_take] at lt
  rw [List.getElem?_take_of_lt (by omega), List.getElem?_drop]
  rfl

variable {sequence : List α}

theorem labelled_append (agrees : Agrees (labelled sequence) offset data)
    (more : List α) : Agrees (labelled (sequence ++ more)) offset data := by
  refine agrees.mono fun i a found => ?_
  have lt : i < sequence.length := (List.getElem?_eq_some_iff.mp found).1
  rw [labelled, List.getElem?_append_left lt]
  exact found

/-- A nonempty segment of a finite sequence ends within it. -/
theorem labelled_le (agrees : Agrees (labelled sequence) offset data)
    (nonempty : data ≠ []) : offset + data.length ≤ sequence.length := by
  have positive : 0 < data.length := List.length_pos_iff.mpr nonempty
  have last := agrees (data.length - 1) (by omega)
  rw [List.getElem?_eq_getElem (by omega)] at last
  have := (List.getElem?_eq_some_iff.mp last.symm).1
  omega

/-- A segment from the start of the sequence is its prefix. -/
theorem labelled_zero (agrees : Agrees (labelled sequence) 0 data) :
    data = sequence.take data.length := by
  by_cases nonempty : data = []
  · simp [nonempty]
  have fits := agrees.labelled_le nonempty
  refine agrees.eq_of_length (labelled_slice sequence 0 data.length) ?_
  simp at fits ⊢
  omega

end Agrees

variable {base data : List α} {start : Nat}

theorem overlay_length
    (fits : start + data.length ≤ base.length) : (overlay base start data).length = base.length := by
  simp [overlay]
  omega

theorem getElem?_overlay (fits : start + data.length ≤ base.length) (i : Nat) :
    (overlay base start data)[i]? =
      if start ≤ i ∧ i < start + data.length then data[i - start]? else base[i]? := by
  have front : (base.take start).length = start := by simp; omega
  unfold overlay
  by_cases before : i < start
  · rw [List.append_assoc, List.getElem?_append_left (by omega), List.getElem?_take_of_lt before,
      if_neg (by omega)]
  rw [List.append_assoc, List.getElem?_append_right (by omega), front]
  by_cases inside : i < start + data.length
  · rw [List.getElem?_append_left (by omega), if_pos ⟨by omega, inside⟩]
  · rw [List.getElem?_append_right (by omega), List.getElem?_drop, if_neg (by omega)]
    congr 1
    omega

/-- **Laying two touching segments over a blank covers their union**: `lower` at
`first`, then `upper` at `second`, from the lower start to the higher end. -/
theorem agrees_overlay_overlay {source : Nat → Option α} {blank lower upper : List α}
    {first second stop : Nat} (below : Agrees source first lower)
    (above : Agrees source second upper) (least : start = min first second)
    (greatest : stop = max (first + lower.length) (second + upper.length))
    (touch : first ≤ second + upper.length) (touch' : second ≤ first + lower.length)
    (size : blank.length = stop - start) :
    Agrees source start (overlay (overlay blank (first - start) lower) (second - start) upper) ∧
      (overlay (overlay blank (first - start) lower) (second - start) upper).length = stop - start := by
  have fitsUnder : first - start + lower.length ≤ blank.length := by omega
  have inner := overlay_length fitsUnder
  have fitsOver : second - start + upper.length ≤ (overlay blank (first - start) lower).length := by
    omega
  have total := overlay_length fitsOver
  refine ⟨fun i lt => ?_, by omega⟩
  rw [getElem?_overlay fitsOver, getElem?_overlay fitsUnder]
  split
  · rename_i inside
    rw [above _ (by omega)]
    congr 1
    omega
  rename_i outside
  -- the two segments touch, so whatever the upper one leaves blank the lower one fills
  rw [if_pos (by omega), below _ (by omega)]
  congr 1
  omega

/-! ## Intervals laid one after another -/

/-- How far the intervals reach above `base`; an interval is its start and its end. -/
def reach : Nat → List (Nat × Nat) → Nat
  | base, [] => base
  | base, interval :: rest => reach (max base interval.2) rest

/-- No interval starts beyond what is reached before it. -/
def Gapless : Nat → List (Nat × Nat) → Prop
  | _, [] => True
  | base, interval :: rest => interval.1 ≤ base ∧ Gapless (max base interval.2) rest

theorem reach_append (base : Nat) (first second : List (Nat × Nat)) :
    reach base (first ++ second) = reach (reach base first) second := by
  induction first generalizing base with
  | nil => rfl
  | cons interval rest ih => exact ih _

theorem gapless_append {base : Nat} {first second : List (Nat × Nat)} :
    Gapless base (first ++ second) ↔ Gapless base first ∧ Gapless (reach base first) second := by
  induction first generalizing base with
  | nil => simp [Gapless, reach]
  | cons interval rest ih => simp [Gapless, reach, ih, and_assoc]

theorem reach_mono {base further : Nat} (le : base ≤ further) (intervals : List (Nat × Nat)) :
    reach base intervals ≤ reach further intervals := by
  induction intervals generalizing base further with
  | nil => exact le
  | cons interval rest ih => exact ih (by omega)

theorem le_reach (base : Nat) (intervals : List (Nat × Nat)) : base ≤ reach base intervals := by
  induction intervals generalizing base with
  | nil => exact Nat.le_refl base
  | cons interval rest ih => exact (Nat.le_max_left _ _).trans (ih _)

theorem Gapless.mono {base further : Nat} {intervals : List (Nat × Nat)}
    (gapless : Gapless base intervals) (le : base ≤ further) : Gapless further intervals := by
  induction intervals generalizing base further with
  | nil => trivial
  | cons interval rest ih => exact ⟨gapless.1.trans le, ih gapless.2 (by omega)⟩

end Ardents.Lib
