/-
# State.Candidates — the view of the candidates of an Epoch

`evaluateInputs` and `markCollisions`: every input is judged on its own, and of the records
that are left, those that share a node identity, a key or an endpoint are all rejected.
`shared` counts over the records that the first pass left, as the maps of `markCollisions`
do; `generationKey` is the pair that its text is made of.
-/
import Ardents.State.Epochs

namespace Ardents.State

open Lib

set_option autoImplicit false

structure NodeRecord where
  raw : List UInt8
  networkID : Digest
  nodeID : Digest
  generation : UInt64
  notBefore : Int64
  notAfter : Int64
  family : List UInt8
  capability : UInt8
  endpoint : List UInt8
  carrier : List UInt8
  capacity : UInt16
  publicKey : List UInt8
  keyID : Digest
  signature : List UInt8
  deriving DecidableEq

/-- Two records have a node identity, a key or an endpoint in common. -/
def NodeRecord.Collides (first second : NodeRecord) : Prop :=
  first.nodeID = second.nodeID ∨ first.keyID = second.keyID ∨ first.endpoint = second.endpoint

theorem NodeRecord.Collides.symm {first second : NodeRecord} (collides : first.Collides second) :
    second.Collides first := collides.imp Eq.symm (Or.imp Eq.symm Eq.symm)

inductive RejectCode where
  | malformed
  | network
  | signature
  | time
  | profile
  | capacity
  | sourceCollision
  | nodeCollision
  | generation
  | keyCollision
  | endpoint
  | carrier
  deriving DecidableEq, Repr

/-- What `evaluateInputs` reads of the policy and of the Epoch. -/
structure CandidateRules where
  parseRecord : List UInt8 → Option NodeRecord
  signatureValid : NodeRecord → Bool
  networkID : Digest
  authorityOwnsKey : Digest → Bool
  validFrom : Int64
  requiredCapability : UInt8
  validCarrier : List UInt8 → Bool

structure Rejection where
  index : Nat
  code : RejectCode
  raw : List UInt8

abbrev Evaluated := Except RejectCode NodeRecord

namespace CandidateRules

variable (rules : CandidateRules)

/-- The first pass. -/
def judge (raw : List UInt8) : Evaluated :=
  match rules.parseRecord raw with
  | none => .error .malformed
  | some record =>
    if record.networkID ≠ rules.networkID then .error .network
    else if !rules.signatureValid record then .error .signature
    else if rules.validFrom < record.notBefore ∨ ¬ rules.validFrom < record.notAfter then .error .time
    else if record.capability ≠ rules.requiredCapability then .error .profile
    else if record.capacity = 0 ∨ 1024 < record.capacity then .error .capacity
    else if !rules.validCarrier record.carrier then .error .carrier
    else if rules.authorityOwnsKey record.keyID then .error .sourceCollision
    else .ok record

/-- How many records without a code have this key. -/
def shared {κ : Type} [DecidableEq κ] (key : NodeRecord → κ) (items : List Evaluated) (record : NodeRecord) : Nat :=
  items.countP fun item => item.toOption.any fun other => decide (key other = key record)

/-- The second pass over one record. -/
def collision (items : List Evaluated) (record : NodeRecord) : Evaluated :=
  if 1 < shared NodeRecord.nodeID items record then .error .nodeCollision
  else if 1 < shared (fun record => (record.nodeID, record.generation)) items record then .error .generation
  else if 1 < shared NodeRecord.keyID items record then .error .keyCollision
  else if 1 < shared NodeRecord.endpoint items record then .error .endpoint
  else .ok record

def markCollisions (items : List Evaluated) : List Evaluated := items.map fun item => item.bind (collision items)

def evaluated (inputs : List (List UInt8)) : List Evaluated := markCollisions (inputs.map rules.judge)

/-- `evaluateInputs`: what is accepted, by node identity, and what is rejected. -/
def evaluateInputs (inputs : List (List UInt8)) : List NodeRecord × List Rejection :=
  (((rules.evaluated inputs).filterMap Except.toOption).mergeSort fun left right =>
      decide (left.nodeID.bytes ≤ right.nodeID.bytes),
    ((rules.evaluated inputs).zip inputs).zipIdx.filterMap fun ((item, raw), index) =>
      match item with
      | .error code => some ⟨index, code, raw⟩
      | .ok _ => none)

/-! ## What is accepted -/

/-- A record without a code that has something in common with another one. -/
def Crowded (items : List Evaluated) (record : NodeRecord) : Prop :=
  1 < shared NodeRecord.nodeID items record ∨ 1 < shared NodeRecord.keyID items record ∨
    1 < shared NodeRecord.endpoint items record

variable {rules} {items : List Evaluated} {record found : NodeRecord} {inputs : List (List UInt8)}

theorem collision_eq_ok : collision items record = .ok found ↔ record = found ∧ ¬ Crowded items record := by
  -- one generation of a node has one node identity
  have generations : shared (fun record => (record.nodeID, record.generation)) items record ≤
      shared NodeRecord.nodeID items record := by
    refine List.countP_mono_left fun item _ same => ?_
    cases item with
    | error code => cases same
    | ok other => exact decide_eq_true (congrArg Prod.fst (of_decide_eq_true same))
  unfold collision Crowded
  constructor
  · intro passed
    repeat' split at passed
    all_goals cases passed
    next node _ key endpoint => exact ⟨rfl, not_or.2 ⟨node, not_or.2 ⟨key, endpoint⟩⟩⟩
  · rintro ⟨rfl, apart⟩
    obtain ⟨node, apart⟩ := not_or.1 apart
    obtain ⟨key, endpoint⟩ := not_or.1 apart
    rw [if_neg node, if_neg fun many => node (many.trans_le generations), if_neg key, if_neg endpoint]

theorem marked_eq {item : Evaluated} :
    (item.bind (collision items)).toOption = some record ↔ item = .ok record ∧ ¬ Crowded items record := by
  cases item with
  | error code => exact ⟨nofun, nofun⟩
  | ok other =>
    have passes : (collision items other).toOption = some record ↔ collision items other = .ok record := by
      cases collision items other <;> simp [Except.toOption]
    rw [Except.bind, passes, collision_eq_ok, Except.ok.injEq]
    exact and_congr_right fun same => same ▸ Iff.rfl

theorem mem_accepted : record ∈ (rules.evaluateInputs inputs).1 ↔
    .ok record ∈ inputs.map rules.judge ∧ ¬ Crowded (inputs.map rules.judge) record := by
  rw [evaluateInputs, List.mem_mergeSort, evaluated, markCollisions, List.mem_filterMap]
  constructor
  · rintro ⟨_, marked, passed⟩
    obtain ⟨item, among, rfl⟩ := List.mem_map.1 marked
    obtain ⟨rfl, apart⟩ := marked_eq.1 passed
    exact ⟨among, apart⟩
  · rintro ⟨among, apart⟩
    exact ⟨_, List.mem_map.2 ⟨_, among, rfl⟩, marked_eq.2 ⟨rfl, apart⟩⟩

theorem crowded_perm {items' : List Evaluated} (same : items.Perm items') :
    Crowded items record ↔ Crowded items' record := by
  simp only [Crowded, shared, same.countP_eq]

/-- Two places that hold a key make it shared. -/
theorem one_lt_shared {κ : Type} [DecidableEq κ] {key : NodeRecord → κ} {other : NodeRecord}
    (within : [.ok record, .ok other].Sublist items) (same : key record = key other) :
    1 < shared key items record ∧ 1 < shared key items other := by
  constructor
  · refine lt_of_lt_of_le ?_ within.countP_le
    simp [same, Except.toOption]
  · refine lt_of_lt_of_le ?_ within.countP_le
    simp [same, Except.toOption]

/-- Of two records that collide each one is crowded. -/
theorem collisions_crowded (items : List Evaluated) : items.Pairwise fun first second =>
    ∀ record other, first = .ok record → second = .ok other → record.Collides other →
      Crowded items record ∧ Crowded items other := by
  rw [List.pairwise_iff_forall_sublist]
  rintro _ _ within record other rfl rfl (same | same | same)
  · exact (one_lt_shared within same).imp .inl .inl
  · exact (one_lt_shared within same).imp (.inr ∘ .inl) (.inr ∘ .inl)
  · exact (one_lt_shared within same).imp (.inr ∘ .inr) (.inr ∘ .inr)

/-- Nothing that is accepted collides. -/
theorem accepted_apart : (rules.evaluateInputs inputs).1.Pairwise fun first second => ¬ first.Collides second := by
  unfold evaluateInputs
  rw [(List.mergeSort_perm _ _).pairwise_iff fun apart collides => apart collides.symm, List.pairwise_filterMap,
    evaluated, markCollisions, List.pairwise_map]
  refine (collisions_crowded _).imp fun together first passed second passed' collides => ?_
  obtain ⟨here, apart⟩ := marked_eq.1 passed
  obtain ⟨there, -⟩ := marked_eq.1 passed'
  exact apart (together first second here there collides).1

/-- A record that is valid on its own and crowded is rejected in its place. -/
theorem rejected_of_crowded {i : Nat} (here : inputs[i]?.map rules.judge = some (.ok record))
    (crowded : Crowded (inputs.map rules.judge) record) :
    record ∉ (rules.evaluateInputs inputs).1 ∧ ∃ rejection ∈ (rules.evaluateInputs inputs).2, rejection.index = i := by
  refine ⟨fun accepted => (mem_accepted.1 accepted).2 crowded, ?_⟩
  obtain ⟨raw, found, judged⟩ := Option.map_eq_some_iff.1 here
  cases marked : collision (inputs.map rules.judge) record with
  | ok found => exact absurd crowded (collision_eq_ok.1 marked).2
  | error code =>
    have place : (rules.evaluated inputs)[i]? = some (.error code) := by
      rw [evaluated, markCollisions, List.getElem?_map, List.getElem?_map, found, Option.map_some, judged,
        Option.map_some]
      exact congrArg some marked
    refine ⟨⟨i, code, raw⟩, List.mem_filterMap.2 ⟨((.error code, raw), i), ?_, rfl⟩, rfl⟩
    exact List.mem_zipIdx_iff_getElem?.2 (List.getElem?_zip_eq_some.2 ⟨place, found⟩)

end CandidateRules

open CandidateRules

/-- **Collisions favour no one.**  What is accepted does not depend on the order of the
inputs and has no collision, and of the records that are valid on their own each one that
collides with another is rejected. -/
theorem candidate_view_fair (rules : CandidateRules) (inputs : List (List UInt8)) :
    (∀ inputs', inputs.Perm inputs' → ∀ record,
      record ∈ (rules.evaluateInputs inputs).1 ↔ record ∈ (rules.evaluateInputs inputs').1) ∧
    (rules.evaluateInputs inputs).1.Pairwise (fun first second => ¬ first.Collides second) ∧
    ∀ i j first second, i ≠ j → inputs[i]?.map rules.judge = some (.ok first) →
      inputs[j]?.map rules.judge = some (.ok second) → first.Collides second →
      first ∉ (rules.evaluateInputs inputs).1 ∧ ∃ rejection ∈ (rules.evaluateInputs inputs).2, rejection.index = i := by
  refine ⟨fun inputs' same record => ?_, accepted_apart, fun i j first second apart here there collides => ?_⟩
  · have judged := same.map rules.judge
    rw [mem_accepted, mem_accepted, judged.mem_iff, crowded_perm judged]
  · refine rejected_of_crowded here ?_
    rw [← List.getElem?_map, List.getElem?_eq_some_iff] at here there
    obtain ⟨within, here⟩ := here
    obtain ⟨within', there⟩ := there
    have together := List.pairwise_iff_getElem.1 (collisions_crowded (inputs.map rules.judge))
    rcases Nat.lt_or_gt_of_ne apart with before | after
    · exact (together i j within within' before first second here there collides).1
    · exact (together j i within' within after second first there here collides.symm).2

end Ardents.State
