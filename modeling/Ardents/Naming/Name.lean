/-
# Naming.Name — canonical Service Names

`internal/naming/name.go`.  A Service Name is a text of dot-separated labels with the
parent on the right.  A text is the list of its bytes; only the fact that a text does not
parse is modelled, not the text of the error.

`parse_eq_some`: a text that parses is its own canonical form.  `isDescendant_length`: a
Name is longer than every Name above it, which is why a chain of parents ends.
-/
import Mathlib.Tactic

namespace Ardents.Naming

set_option autoImplicit false

/-- The bytes of a text. -/
abbrev Text := List UInt8

def dot : UInt8 := 46
def hyphen : UInt8 := 45

def maxLabelLength : Nat := 63
def maxNameLength : Nat := 253
def maxNameDepth : Nat := 127

/-- The length of `ardents://`. -/
def serviceLinkScheme : Nat := 10

/-- A lower-case ASCII letter, a digit or a hyphen. -/
def canonicalCharacter (byte : UInt8) : Bool :=
  (decide (97 ≤ byte) && decide (byte ≤ 122)) || (decide (48 ≤ byte) && decide (byte ≤ 57)) || byte == hyphen

def canonicalLabel (label : Text) : Bool :=
  !label.isEmpty && decide (label.length ≤ maxLabelLength) && label.head? != some hyphen &&
    label.getLast? != some hyphen && !decide ([hyphen, hyphen] <:+: label) && label.all canonicalCharacter

def isAllDigit (label : Text) : Bool :=
  !label.isEmpty && label.all fun byte => decide (48 ≤ byte) && decide (byte ≤ 57)

/-- A dot at an end, or two in a row, leave an empty label. -/
def parseLabels (text : Text) : Option (List Text) :=
  let labels := text.splitOn dot
  if labels.all canonicalLabel && decide (labels.length ≤ maxNameDepth) && !(labels.getLast?.any isAllDigit) then
    some labels
  else none

def joinDots (labels : List Text) : Text := [dot].intercalate labels

/-- The bytes of `://`. -/
def schemeMark : Text := [58, 47, 47]

/-- `Parse`: the canonical form of a text. -/
def parse (text : Text) : Option Text :=
  if text.isEmpty || decide (serviceLinkScheme + maxNameLength < text.length) ||
      decide (schemeMark <:+: text) || decide (maxNameLength < text.length) then none
  else (parseLabels text).map joinDots

/-- `IsDescendant`: the child is strictly below the parent. -/
def isDescendant (child parent : Text) : Bool :=
  match parse child, parse parent with
  | some child, some parent => child != parent && decide (dot :: parent <:+ child)
  | _, _ => false

/-- `strings.Contains(name, ".")`. -/
def hasParent (name : Text) : Bool := name.contains dot

/-- A Name without its first label: the Name right above it. -/
def immediateParent (name : Text) : Text := (name.dropWhile (· != dot)).drop 1

/-! ## Facts about Names -/

theorem parse_eq_some {text name : Text} (parsed : parse text = some name) : name = text := by
  rw [parse] at parsed
  split at parsed
  · cases parsed
  obtain ⟨labels, split, rfl⟩ := Option.map_eq_some_iff.1 parsed
  rw [parseLabels] at split
  split at split
  · cases split
    exact List.intercalate_splitOn dot
  · cases split

/-- A Name is at most 253 bytes. -/
theorem parse_length {text : Text} (parsed : (parse text).isSome) : text.length ≤ maxNameLength := by
  rw [parse] at parsed
  split at parsed
  · cases parsed
  next within =>
  simp only [Bool.or_eq_true, decide_eq_true_eq, not_or] at within
  omega

/-- The parent of a Name is a proper suffix of it. -/
theorem isDescendant_suffix {child parent : Text} (below : isDescendant child parent = true) :
    dot :: parent <:+ child := by
  rw [isDescendant] at below
  split at below
  · next first second parsedChild parsedParent =>
    rw [Bool.and_eq_true, decide_eq_true_eq] at below
    rw [← parse_eq_some parsedChild, ← parse_eq_some parsedParent]
    exact below.2
  · cases below

theorem parse_dot (name : Text) : parse (dot :: name) = none := by
  rw [parse]
  split
  · rfl
  have labels : (dot :: name).splitOn dot = [] :: name.splitOn dot := by
    simp [List.splitOn, List.splitOnP_cons_eq_if_modifyHead]
  rw [parseLabels, labels]
  simp [canonicalLabel]

/-- The first label of a Name below another one is not empty. -/
theorem isDescendant_length {child parent : Text} (below : isDescendant child parent = true) :
    parent.length + 2 ≤ child.length := by
  obtain ⟨label, same⟩ := isDescendant_suffix below
  have nonempty : label ≠ [] := by
    rintro rfl
    rw [← same, List.nil_append, isDescendant, parse_dot] at below
    cases below
  have positive := List.length_pos_of_ne_nil nonempty
  rw [← same, List.length_append, List.length_cons]
  omega

/-- A Name below another one has a dot. -/
theorem isDescendant_hasParent {child parent : Text} (below : isDescendant child parent = true) :
    hasParent child = true := by
  rw [hasParent, List.contains_iff_mem]
  exact (isDescendant_suffix below).subset List.mem_cons_self

end Ardents.Naming
