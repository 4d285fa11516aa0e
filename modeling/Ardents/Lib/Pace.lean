/-
# Lib.Pace — events at a bounded rate

A list of times, newest first, is paced when it never runs back and any event lies a whole
gap after the one `burst` events before it.  Then a gap holds at most `burst` events
(`Paced.count_le`), and `k` gaps back from an event lie at most `burst * k` of them
(`Paced.index_lt`).
-/
import Mathlib.Tactic

namespace Ardents.Lib

set_option autoImplicit false

/-- Newest first, each event a gap after the one `burst` places before it. -/
def Paced (burst : Nat) (gap : Int) : List Int → Prop
  | [] => True
  | time :: rest =>
    (∀ earlier ∈ rest, earlier ≤ time) ∧ (∀ earlier, (time :: rest)[burst]? = some earlier → earlier + gap ≤ time) ∧
      Paced burst gap rest

/-- A time in the half-open window of one gap. -/
def inWindow (start gap time : Int) : Bool :=
  decide (start ≤ time) && decide (time < start + gap)

namespace Paced

variable {burst : Nat} {gap : Int} {times : List Int}

theorem drop (paced : Paced burst gap times) : ∀ (count : Nat), Paced burst gap (times.drop count) := by
  intro count
  induction count generalizing times with
  | zero => exact paced
  | succ count ih =>
    cases times with
    | nil => exact paced
    | cons time rest => exact ih paced.2.2

/-- `count` bursts back lie `count` gaps. -/
theorem gaps (paced : Paced burst gap times) : ∀ {count index : Nat} {later earlier : Int},
    times[index]? = some later → times[index + burst * count]? = some earlier → earlier + gap * count ≤ later := by
  intro count
  induction count with
  | zero =>
    intro index later earlier found found'
    rw [Nat.mul_zero, Nat.add_zero, found] at found'
    cases found'
    simp
  | succ count ih =>
    intro index later earlier found found'
    have last : index + burst * (count + 1) < times.length := (List.getElem?_eq_some_iff.1 found').1
    have inside : index + burst * count < times.length := by
      rw [Nat.mul_succ] at last
      omega
    have before := ih found (List.getElem?_eq_getElem inside)
    have tail := paced.drop (index + burst * count)
    rw [List.drop_eq_getElem_cons inside] at tail
    have step := tail.2.1 earlier (by
      rw [← List.drop_eq_getElem_cons inside, List.getElem?_drop, ← found']
      congr 1
      rw [Nat.mul_succ]
      omega)
    rw [Nat.cast_succ, Int.mul_add, Int.mul_one]
    omega

/-- An event less than `count` gaps before the newest is one of the last `burst * count`. -/
theorem index_lt (paced : Paced burst gap times) {count index : Nat} {newest time : Int}
    (last : times[0]? = some newest)
    (found : times[index]? = some time) (near : newest < time + gap * count) : index < burst * count := by
  by_contra far
  obtain ⟨more, rfl⟩ := Nat.exists_eq_add_of_le (Nat.not_lt.1 far)
  have inside := (List.getElem?_eq_some_iff.1 found).1
  have middle : burst * count < times.length := by omega
  have apart := paced.gaps last (by
    rw [Nat.zero_add]
    exact List.getElem?_eq_getElem middle)
  have tail := paced.drop (burst * count)
  rw [List.drop_eq_getElem_cons middle] at tail
  have order : time ≤ times[burst * count] := by
    cases more with
    | zero =>
      rw [Nat.add_zero, List.getElem?_eq_getElem middle, Option.some.injEq] at found
      exact found ▸ Int.le_refl _
    | succ more =>
      apply tail.1
      rw [List.mem_iff_getElem?]
      refine ⟨more, ?_⟩
      rw [List.getElem?_drop, ← found]
      congr 1
      omega
  omega

/-- From the next burst on, everything is before a window that holds the newest event. -/
theorem outside {start time : Int} {rest : List Int} (paced : Paced (burst + 1) gap (time :: rest))
    (within : time < start + gap) : ∀ earlier ∈ rest.drop burst, inWindow start gap earlier = false := by
  intro earlier member
  cases later : rest.drop burst with
  | nil =>
    rw [later] at member
    cases member
  | cons first others =>
    have found : rest[burst]? = some first := by
      have head := congrArg List.head? later
      rwa [List.head?_drop] at head
    have apart := paced.2.1 first (by rwa [List.getElem?_cons_succ])
    have tail := paced.2.2.drop burst
    rw [later] at tail member
    have order : earlier ≤ first := by
      rcases List.mem_cons.1 member with rfl | among
      · exact Int.le_refl _
      · exact tail.1 earlier among
    simp only [inWindow, Bool.and_eq_false_iff, decide_eq_false_iff_not]
    omega

/-- A gap holds at most `burst + 1` events. -/
theorem count_le (paced : Paced (burst + 1) gap times) (start : Int) :
    times.countP (inWindow start gap) ≤ burst + 1 := by
  induction times with
  | nil => simp
  | cons time rest ih =>
    cases within : inWindow start gap time with
    | false =>
      rw [List.countP_cons_of_neg (by simp [within])]
      exact ih paced.2.2
    | true =>
      -- the window holds the newest event, so only the burst after it can lie there too
      simp only [inWindow, Bool.and_eq_true, decide_eq_true_eq] at within
      have none : (rest.drop burst).countP (inWindow start gap) = 0 := by
        rw [List.countP_eq_zero]
        intro earlier member
        rw [paced.outside within.2 earlier member]
        exact Bool.false_ne_true
      have few : (rest.take burst).countP (inWindow start gap) ≤ burst :=
        Nat.le_trans List.countP_le_length (by rw [List.length_take]; omega)
      have parts : rest.countP (inWindow start gap) = (rest.take burst).countP (inWindow start gap) := by
        conv_lhs => rw [← List.take_append_drop burst rest, List.countP_append, none, Nat.add_zero]
      rw [List.countP_cons, parts]
      split <;> omega

end Paced

end Ardents.Lib
