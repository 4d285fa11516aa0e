/-
# Lib.Table — finite tables and what their entries add up to

A table maps finitely many keys to values, each key at most once; the entries keep
the order in which their keys first came in.  `total f` adds up `f` over the
values.  The lemmas say how a total moves when one entry is written or removed, in
the form `omega` can use: the old contribution stands on one side of an equation
and the new one on the other, so nothing is subtracted.
-/
import Mathlib.Tactic

namespace Ardents.Lib

set_option autoImplicit false

/-- A finite map with its entries in order of arrival. -/
structure Table (κ α : Type) where
  entries : List (κ × α)
  distinct : (entries.map Prod.fst).Nodup

namespace Table

variable {κ α : Type}

def empty : Table κ α := ⟨[], List.nodup_nil⟩

def keys (table : Table κ α) : List κ := table.entries.map Prod.fst

/-- The sum of `f` over the values. -/
def total (f : α → Nat) (table : Table κ α) : Nat := (table.entries.map fun entry => f entry.2).sum

/-- The number of keys. -/
def size (table : Table κ α) : Nat := table.entries.length

theorem size_eq_total (table : Table κ α) : table.size = table.total fun _ => 1 := by
  simp [size, total]

theorem total_of_size (f : α → Nat) {table : Table κ α} (none : table.size = 0) :
    table.total f = 0 := by
  rw [total, List.length_eq_zero_iff.1 none]
  rfl

/-- The table with every value changed. -/
def map {β : Type} (f : α → β) (table : Table κ α) : Table κ β :=
  ⟨table.entries.map fun entry => (entry.1, f entry.2), by
    rw [List.map_map]
    exact table.distinct⟩

/-! ## Reading and writing entries -/

section Entries

variable [DecidableEq κ]

/-- The value `key` has in a list of entries. -/
def look (key : κ) : List (κ × α) → Option α
  | [] => none
  | (other, value) :: rest => if other = key then some value else look key rest

variable {key : κ} {entries : List (κ × α)} {value : α} {table : Table κ α}

theorem look_eq_none (absent : key ∉ entries.map Prod.fst) : look key entries = none := by
  induction entries with
  | nil => rfl
  | cons entry rest ih =>
    simp only [List.map_cons, List.mem_cons, not_or] at absent
    rw [look, if_neg (Ne.symm absent.1), ih absent.2]

/-- `value` in the place of what `key` had, or at the end. -/
def write (key : κ) (value : α) : List (κ × α) → List (κ × α)
  | [] => [(key, value)]
  | (other, old) :: rest =>
    if other = key then (key, value) :: rest else (other, old) :: write key value rest

variable {β : Type} {old : α} {key' : κ}

theorem mem_keys_write (member : key' ∈ (write key value entries).map Prod.fst) :
    key' = key ∨ key' ∈ entries.map Prod.fst := by
  induction entries with
  | nil => simpa [write] using member
  | cons entry rest ih =>
    rw [write] at member
    split at member
    · rcases List.mem_cons.1 member with first | later
      · exact .inl first
      · exact .inr (List.mem_cons_of_mem _ later)
    · rcases List.mem_cons.1 member with first | later
      · exact .inr (first ▸ List.mem_cons_self)
      · exact (ih later).imp id (List.mem_cons_of_mem _)

/-- The entries without that of `key`. -/
def strike (key : κ) : List (κ × α) → List (κ × α)
  | [] => []
  | (other, old) :: rest => if other = key then rest else (other, old) :: strike key rest

theorem strike_sublist (key : κ) (entries : List (κ × α)) : (strike key entries).Sublist entries := by
  induction entries with
  | nil => exact List.Sublist.slnil
  | cons entry rest ih =>
    rw [strike]
    split
    · exact List.sublist_cons_self _ _
    · exact ih.cons_cons _

theorem nodup_write (key : κ) (value : α) (distinct : (entries.map Prod.fst).Nodup) :
    ((write key value entries).map Prod.fst).Nodup := by
  induction entries with
  | nil => simp [write]
  | cons entry rest ih =>
    obtain ⟨other, old⟩ := entry
    obtain ⟨fresh, later⟩ := List.nodup_cons.1 distinct
    rw [write]
    split
    · next same => exact List.nodup_cons.2 ⟨same ▸ fresh, later⟩
    next differs =>
    refine List.nodup_cons.2 ⟨fun member => ?_, ih later⟩
    rcases mem_keys_write member with same | old
    · exact differs same
    · exact fresh old

def find (table : Table κ α) (key : κ) : Option α := look key table.entries

def put (table : Table κ α) (key : κ) (value : α) : Table κ α :=
  ⟨write key value table.entries, nodup_write key value table.distinct⟩

def erase (table : Table κ α) (key : κ) : Table κ α :=
  ⟨strike key table.entries, table.distinct.sublist ((strike_sublist key _).map _)⟩

omit [DecidableEq κ] in
theorem nodup_filter (keep : κ → α → Bool) (distinct : (entries.map Prod.fst).Nodup) :
    ((entries.filter fun entry => keep entry.1 entry.2).map Prod.fst).Nodup :=
  distinct.sublist (List.filter_sublist.map _)

omit [DecidableEq κ] in
/-- The entries that are kept. -/
def filter (table : Table κ α) (keep : κ → α → Bool) : Table κ α :=
  ⟨table.entries.filter fun entry => keep entry.1 entry.2, nodup_filter keep table.distinct⟩

theorem look_write (key key' : κ) (value : α) (entries : List (κ × α)) :
    look key' (write key value entries) = if key = key' then some value else look key' entries := by
  induction entries with
  | nil => simp [write, look]
  | cons entry rest ih =>
    obtain ⟨other, old⟩ := entry
    by_cases same : other = key
    · subst same
      by_cases asked : other = key' <;> simp [write, look, asked]
    by_cases asked : other = key'
    · subst asked
      simp [write, look, same, Ne.symm same]
    · simp [write, look, same, asked, ih]

theorem find_put (table : Table κ α) (key key' : κ) (value : α) :
    (table.put key value).find key' = if key = key' then some value else table.find key' :=
  look_write key key' value table.entries

theorem look_map (f : α → β) (key : κ) (entries : List (κ × α)) :
    look key (entries.map fun entry => (entry.1, f entry.2)) = (look key entries).map f := by
  induction entries with
  | nil => rfl
  | cons entry rest ih =>
    rw [List.map_cons, look, look]
    split
    · rfl
    · exact ih

theorem find_map (f : α → β) (table : Table κ α) (key : κ) :
    (table.map f).find key = (table.find key).map f := look_map f key table.entries

theorem map_put (f : α → β) (table : Table κ α) (key : κ) (value : α) :
    (table.put key value).map f = (table.map f).put key (f value) := by
  obtain ⟨entries, distinct⟩ := table
  simp only [map, put, mk.injEq]
  clear distinct
  induction entries with
  | nil => rfl
  | cons entry rest ih =>
    simp only [write, List.map_cons]
    split
    · simp
    · simp [ih]

theorem look_of_mem (distinct : (entries.map Prod.fst).Nodup) (member : (key, value) ∈ entries) :
    look key entries = some value := by
  induction entries with
  | nil => cases member
  | cons entry rest ih =>
    obtain ⟨other, old⟩ := entry
    obtain ⟨fresh, later⟩ := List.nodup_cons.1 distinct
    rcases List.mem_cons.1 member with first | rest'
    · cases first
      simp [look]
    · have differs : other ≠ key := fun same =>
        fresh (same ▸ List.mem_map.2 ⟨(key, value), rest', rfl⟩)
      rw [look, if_neg differs, ih later rest']

theorem find_of_mem (table : Table κ α) (member : (key, value) ∈ table.entries) :
    table.find key = some value :=
  look_of_mem table.distinct member

theorem mem_of_look (found : look key entries = some value) : (key, value) ∈ entries := by
  induction entries with
  | nil => cases found
  | cons entry rest ih =>
    obtain ⟨other, old⟩ := entry
    rw [look] at found
    split at found
    · next same =>
      cases found
      rw [same]
      exact List.mem_cons_self
    · exact List.mem_cons_of_mem _ (ih found)

theorem mem_of_find (found : table.find key = some value) : (key, value) ∈ table.entries :=
  mem_of_look found

theorem find_filter {keep : κ → α → Bool} :
    (table.filter keep).find key = some value ↔ table.find key = some value ∧ keep key value = true := by
  constructor
  · intro found
    have member := List.mem_filter.1 (mem_of_find found)
    exact ⟨find_of_mem table member.1, member.2⟩
  · rintro ⟨found, kept⟩
    exact find_of_mem _ (List.mem_filter.2 ⟨mem_of_find found, kept⟩)

theorem look_strike (key key' : κ) (distinct : (entries.map Prod.fst).Nodup) :
    look key' (strike key entries) = if key = key' then none else look key' entries := by
  induction entries with
  | nil => simp [strike, look]
  | cons entry rest ih =>
    obtain ⟨other, old⟩ := entry
    obtain ⟨fresh, later⟩ := List.nodup_cons.1 distinct
    by_cases same : other = key
    · subst same
      by_cases asked : other = key'
      · subst asked
        simp [strike, look_eq_none fresh]
      · simp [strike, look, asked]
    · by_cases asked : other = key'
      · subst asked
        simp [strike, look, same, Ne.symm same]
      · simp [strike, look, same, asked, ih later]

theorem find_erase (table : Table κ α) (key key' : κ) :
    (table.erase key).find key' = if key = key' then none else table.find key' :=
  look_strike key key' table.distinct

/-- What holds of all entries and of a value that is put holds of all entries afterwards. -/
theorem forall_put {P : κ → α → Prop} (each : ∀ key value, table.find key = some value → P key value)
    (holds : P key value) {value' : α}
    (found : (table.put key value).find key' = some value') : P key' value' := by
  rw [find_put] at found
  split at found
  · next same =>
    cases found
    exact same ▸ holds
  · exact each key' value' found

theorem find_of_erase (found : (table.erase key).find key' = some value) :
    table.find key' = some value := by
  rw [find_erase] at found
  split at found
  · cases found
  · exact found

/-- Writing what is there changes nothing. -/
theorem put_same (found : table.find key = some value) : table.put key value = table := by
  obtain ⟨entries, distinct⟩ := table
  simp only [find, put, mk.injEq] at found ⊢
  clear distinct
  induction entries with
  | nil => cases found
  | cons entry rest ih =>
    obtain ⟨other, old⟩ := entry
    rw [look] at found
    rw [write]
    split at found
    · next same =>
      cases found
      rw [if_pos same, same]
    · next differs => rw [if_neg differs, ih found]

/-! ## Totals -/

variable (f : α → Nat)

/-- A value that is put counts for what it replaces. -/
theorem total_put_find (table : Table κ α) (key : κ) (new : α) :
    (table.put key new).total f + ((table.find key).map f).getD 0 = table.total f + f new := by
  obtain ⟨entries, _⟩ := table
  simp only [find, put, total]
  induction entries with
  | nil => simp [write, look]
  | cons entry rest ih =>
    obtain ⟨other, value⟩ := entry
    rw [look, write]
    by_cases same : other = key
    · simp only [same, if_true, Option.map_some, Option.getD_some, List.map_cons, List.sum_cons]
      omega
    · have rest' := ih (by simp_all)
      simp only [same, if_false, List.map_cons, List.sum_cons]
      omega

theorem total_put (new : α) (found : table.find key = some old) :
    (table.put key new).total f + f old = table.total f + f new := by
  simpa [found] using total_put_find f table key new

theorem total_put_fresh (new : α) (absent : table.find key = none) :
    (table.put key new).total f = table.total f + f new := by
  simpa [absent] using total_put_find f table key new

theorem total_erase (found : table.find key = some old) :
    (table.erase key).total f + f old = table.total f := by
  obtain ⟨entries, _⟩ := table
  simp only [find, erase, total] at found ⊢
  induction entries with
  | nil => cases found
  | cons entry rest ih =>
    rw [look] at found
    rw [strike]
    split at found
    · next same =>
      cases found
      simp only [same, if_true, List.map_cons, List.sum_cons]
      omega
    next differs =>
    have rest' := ih (by simp_all) found
    simp only [differs, if_false, List.map_cons, List.sum_cons]
    omega

/-- An entry counts for no more than the whole. -/
theorem le_total (found : table.find key = some value) : f value ≤ table.total f := by
  have removed := total_erase f found
  omega

theorem total_eq_zero (zero : ∀ key value, table.find key = some value → f value = 0) :
    table.total f = 0 := by
  obtain ⟨entries, distinct⟩ := table
  simp only [find, total] at zero ⊢
  induction entries with
  | nil => rfl
  | cons entry rest ih =>
    obtain ⟨key, value⟩ := entry
    obtain ⟨fresh, later⟩ := List.nodup_cons.1 distinct
    have first := zero key value (by simp [look])
    have others := ih later fun key' value' found => zero key' value' (by
      have differs : key ≠ key' := fun same =>
        nomatch (look_eq_none (same ▸ fresh)).symm.trans found
      rw [look, if_neg differs, found])
    simp only [List.map_cons, List.sum_cons]
    omega

theorem size_put (new : α) (found : table.find key = some old) :
    (table.put key new).size = table.size := by
  rw [size_eq_total, size_eq_total]
  exact Nat.add_right_cancel (total_put _ new found)

theorem size_put_fresh (new : α) (absent : table.find key = none) :
    (table.put key new).size = table.size + 1 := by
  rw [size_eq_total, size_eq_total]
  exact total_put_fresh _ new absent

theorem size_erase (found : table.find key = some old) :
    (table.erase key).size + 1 = table.size := by
  rw [size_eq_total, size_eq_total]
  exact total_erase _ found

theorem size_erase_le (table : Table κ α) (key : κ) : (table.erase key).size ≤ table.size :=
  (strike_sublist key table.entries).length_le

theorem mem_keys_of_find (found : table.find key = some value) : key ∈ table.keys := by
  by_contra absent
  rw [find, look_eq_none absent] at found
  cases found

theorem find_of_mem_keys (member : key ∈ table.keys) : ∃ value, table.find key = some value := by
  obtain ⟨⟨_, value⟩, among, rfl⟩ := List.mem_map.1 member
  exact ⟨value, find_of_mem table among⟩

omit [DecidableEq κ] in
/-- A table whose keys are among a list has no more of them than the list. -/
theorem size_le_of_keys {names : List κ} (within : ∀ key ∈ table.keys, key ∈ names) :
    table.size ≤ names.length := by
  have nodup : table.keys.Nodup := table.distinct
  have count := (List.subperm_of_subset nodup within).length_le
  simpa [keys, size] using count

/-- A table with one key at most. -/
theorem size_le_one (single : ∀ other, other ≠ key → table.find other = none) : table.size ≤ 1 := by
  have within : ∀ other ∈ table.keys, other ∈ [key] := by
    intro other member
    obtain ⟨value, found⟩ := find_of_mem_keys member
    by_contra differs
    rw [single other (by simpa using differs)] at found
    cases found
  exact size_le_of_keys within

end Entries

end Table

end Ardents.Lib
