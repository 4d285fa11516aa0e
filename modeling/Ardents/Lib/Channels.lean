/-
# Lib.Channels — the channels of one log

A party that writes on several channels keeps one log of what it wrote, in order.
`wire` is what one channel carries, `waiting` what is left of it after some
messages were taken from its head.  What relates the entries of the log in their
order relates a message to those behind it on the same channel
(`pairwise_behind`), and any two entries one way or the other (`pairwise_cases`).
-/
import Mathlib.Tactic

namespace Ardents.Lib

set_option autoImplicit false

universe u v

section Channels

variable {Channel : Type u} {Message : Type v} [DecidableEq Channel]

/-- The messages of a log that went out on one channel, in order. -/
def wire (log : List (Channel × Message)) (channel : Channel) : List Message :=
  (log.filter fun entry => entry.1 = channel).map fun entry => entry.2

/-- What waits on a channel when `taken` messages of it were read. -/
def waiting (log : List (Channel × Message)) (taken : Channel → Nat) (channel : Channel) :
    List Message :=
  (wire log channel).drop (taken channel)

variable {message : Message}

theorem mem_wire {log : List (Channel × Message)} {channel : Channel} :
    message ∈ wire log channel ↔ (channel, message) ∈ log := by
  simp [wire]

theorem wire_append (log more : List (Channel × Message)) (channel : Channel) :
    wire (log ++ more) channel = wire log channel ++ wire more channel := by
  simp [wire]

variable {log : List (Channel × Message)} {taken : Channel → Nat} {channel other : Channel}

theorem mem_log_of_waiting (waits : message ∈ waiting log taken channel) : (channel, message) ∈ log :=
  mem_wire.mp (List.mem_of_mem_drop waits)

/-- A message written on a channel waits behind the others. -/
theorem waiting_append (fits : taken channel ≤ (wire log channel).length) (message : Message) :
    waiting (log ++ [(channel, message)]) taken channel =
      waiting log taken channel ++ [message] := by
  rw [waiting, wire_append, List.drop_append_of_le_length fits]
  simp [wire, waiting]

theorem waiting_append_of_ne (ne : other ≠ channel) (message : Message) :
    waiting (log ++ [(channel, message)]) taken other = waiting log taken other := by
  simp [wire, waiting, ne.symm]

variable {rest : List Message}

/-- Taking the message at the head leaves those behind it. -/
theorem waiting_update (head : waiting log taken channel = message :: rest) :
    waiting log (Function.update taken channel (taken channel + 1)) channel = rest := by
  have dropped : (waiting log taken channel).drop 1 = rest := by rw [head]; rfl
  rw [← dropped, waiting, waiting, List.drop_drop, Function.update_self]

theorem waiting_update_of_ne (ne : other ≠ channel) (count : Nat) :
    waiting log (Function.update taken channel count) other = waiting log taken other := by
  rw [waiting, waiting, Function.update_of_ne ne]

/-- A message that waits has not been taken yet. -/
theorem taken_lt_of_waiting (head : waiting log taken channel = message :: rest) :
    taken channel < (wire log channel).length := by
  have length := congrArg List.length head
  rw [waiting, List.length_drop, List.length_cons] at length
  omega

/-- What relates the entries of a log in their order relates the message at the
head of a channel to those behind it. -/
theorem pairwise_behind {relation : Channel × Message → Channel × Message → Prop}
    (related : log.Pairwise relation) {later : Message}
    (head : waiting log taken channel = message :: rest) (behind : later ∈ rest) :
    relation (channel, message) (channel, later) := by
  rw [waiting, wire, ← List.map_drop, List.map_eq_cons_iff] at head
  obtain ⟨entry, entries, dropped, rfl, rfl⟩ := head
  obtain ⟨next, follows, rfl⟩ := List.mem_map.mp behind
  have mine (entry : Channel × Message)
      (member : entry ∈ (log.filter fun entry => entry.1 = channel).drop (taken channel)) :
      entry.1 = channel := by
    simpa using (List.mem_filter.mp (List.mem_of_mem_drop member)).2
  have ordered := (related.filter fun entry => entry.1 = channel).drop (i := taken channel)
  rw [dropped] at ordered mine
  have here := (List.pairwise_cons.mp ordered).1 next follows
  obtain ⟨second, later⟩ := next
  obtain rfl := mine _ List.mem_cons_self
  obtain rfl := mine _ (List.mem_cons_of_mem _ follows)
  exact here

end Channels

/-- Two entries of an ordered list stand in its order one way or the other. -/
theorem pairwise_cases {Entry : Type u} {relation : Entry → Entry → Prop} {entries : List Entry}
    (related : entries.Pairwise relation) {first second : Entry} (member : first ∈ entries)
    (other : second ∈ entries) : first = second ∨ relation first second ∨ relation second first := by
  induction related with
  | nil => cases member
  | cons head _ ih =>
    rcases List.mem_cons.mp member with rfl | inner <;>
      rcases List.mem_cons.mp other with rfl | inner'
    · exact .inl rfl
    · exact .inr (.inl (head _ inner'))
    · exact .inr (.inr (head _ inner))
    · exact ih inner inner'

end Ardents.Lib
