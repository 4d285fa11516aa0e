/-
# State.Epochs — Epochs, their chain and their verification

`epoch_envelope.go`, `epoch_chain.go`, `epoch.go`, `storage.go` and `recovery.go`: a
decision is an Epoch with the inputs that it commits to; it is verified against the
decision before it, and a stored decision is verified again along its whole chain when
it is loaded.

The framing of an Epoch, its signatures, the commitment to the inputs and the
materializations are a parameter: `parse` is `parseEpoch`, `genuine` is what is left of
`verifyEpochCandidate`, none of which depends on the time or on the decision before,
and `proves` is `verifyMaterializations`.
-/
import Ardents.Lib.Reader
import Ardents.Lib.Table
import Ardents.Lib.Time

namespace Ardents.State

open Lib

set_option autoImplicit false

def maximumEpochBytes : Nat := 2 ^ 20
def maximumEpochChain : UInt64 := 64
def maximumRecordBytes : Nat := 32768

structure EpochEnvelope where
  digest : Digest
  number : UInt64
  previous : Digest
  validFrom : Int64
  validUntil : Int64
  cutoff : Nat
  deriving DecidableEq

/-- One opaque generation: the bytes of an Epoch and its inputs. -/
structure StoredGeneration where
  epoch : List UInt8
  inputs : List (List UInt8)
  deriving DecidableEq

/-- `candidateDecision`. -/
structure Decision where
  epoch : EpochEnvelope
  epochBytes : List UInt8
  inputs : List (List UInt8)
  deriving DecidableEq

def Decision.stored (decision : Decision) : StoredGeneration := ⟨decision.epochBytes, decision.inputs⟩

structure EpochPolicy where
  parse : List UInt8 → Option EpochEnvelope
  genuine : List UInt8 → List (List UInt8) → Bool
  proves : List UInt8 → List (List UInt8) → List (List UInt8) → Bool
  /-- The name of a control generation. -/
  distributionDigest : List UInt8 → Digest
  number_ne : ∀ {raw epoch}, parse raw = some epoch → epoch.number ≠ 0
  window : ∀ {raw epoch}, parse raw = some epoch → epoch.validFrom < epoch.validUntil
  digest_ne : ∀ {raw epoch}, parse raw = some epoch → epoch.digest ≠ Digest.zero
  framed : ∀ {raw epoch}, parse raw = some epoch → raw ≠ [] ∧ raw.length ≤ maximumEpochBytes
  bounded : ∀ {raw inputs}, genuine raw inputs = true →
    inputs.length ≤ 64 ∧ ∀ input ∈ inputs, input ≠ [] ∧ input.length ≤ maximumRecordBytes

inductive StateError where
  -- verification
  | epochFraming
  | chainBound
  | genesis
  | transition
  | notCurrent
  | candidate
  | materialization
  -- storage
  | generationBounds
  | inputBounds
  | generationDisagrees
  | directoryBound
  | generationDirectory
  | currentPointer
  | controlGeneration
  | controlWithoutPointer
  | controlForeign
  | controlMissing
  | controlExhausted
  | controlDisagrees
  | controlLacksPointer
  -- recovery
  | currentMissing
  | chainIdentity
  | inputCount
  | generationIdentity
  | distributionInvalid
  | distributionIdentity
  | distributionOlder
  | pendingWithoutActive
  | pendingMissing
  | pendingTime
  -- the owner
  | refreshOwns
  | persistentConflict
  | pendingConflict
  | refreshActive
  | planMissing
  | sourceConflict
  | clockUncertain
  | refreshUnavailable
  | sourceCollision
  | attemptOutside
  | digestUnavailable
  | digestNotStarted
  | exposureRefused
  | stateChanged
  | conflictingEpochs
  deriving DecidableEq, Repr

/-! ## Verification -/

def verifyEpochChain (current : Option EpochEnvelope) (epoch : EpochEnvelope) : Except StateError Unit :=
  if epoch.number > maximumEpochChain then .error .chainBound
  else
    match current with
    | none => if epoch.number ≠ 1 ∨ epoch.previous ≠ Digest.zero then .error .genesis else .ok ()
    | some current =>
      if epoch.number ≠ current.number + 1 ∨ epoch.previous ≠ current.digest then .error .transition
      else .ok ()

namespace EpochPolicy

variable (policy : EpochPolicy)

/-- `verifyDecision`; `materials` is absent where they are not required. -/
def verifyDecision (now : Time) (current : Option EpochEnvelope) (raw : List UInt8)
    (inputs : List (List UInt8)) (materials : Option (List (List UInt8))) : Except StateError Decision :=
  match policy.parse raw with
  | none => .error .epochFraming
  | some epoch => do
    verifyEpochChain current epoch
    if now.before (Time.ofSeconds epoch.validFrom) || !now.before (Time.ofSeconds epoch.validUntil) then
      .error .notCurrent
    else if inputs.length ≠ epoch.cutoff || !policy.genuine raw inputs then .error .candidate
    else if materials.any fun given => !policy.proves raw inputs given then .error .materialization
    else .ok ⟨epoch, raw, inputs⟩

/-! ## Loading -/

def loadGeneration (stored : StoredGeneration) (previous : Option EpochEnvelope) :
    Except StateError Decision :=
  match policy.parse stored.epoch with
  | none => .error .epochFraming
  | some epoch =>
    if stored.inputs.length ≠ epoch.cutoff then .error .inputCount
    else policy.verifyDecision (Time.ofSeconds epoch.validFrom) previous stored.epoch stored.inputs none

/-- The chain of the generation `name`; a name that comes twice runs out of `remaining`. -/
def loadGenerationChain (generations : Table Digest StoredGeneration) :
    Nat → Digest → Except StateError Decision
  | 0, _ => .error .chainIdentity
  | remaining + 1, name =>
    match generations.find name with
    | none => .error .chainIdentity
    | some stored =>
      match policy.parse stored.epoch with
      | none => .error .epochFraming
      | some parsed => do
        let previous ← if parsed.number > 1 then
            (loadGenerationChain generations remaining parsed.previous).map fun prior =>
              some prior.epoch
          else .ok none
        let decision ← policy.loadGeneration stored previous
        if decision.epoch.digest ≠ name then .error .generationIdentity else .ok decision

end EpochPolicy

/-! ## Chains -/

/-- `epoch` follows `current`. -/
def Extends (current : Option EpochEnvelope) (epoch : EpochEnvelope) : Prop :=
  epoch.number ≤ maximumEpochChain ∧
    match current with
    | none => epoch.number = 1 ∧ epoch.previous = Digest.zero
    | some current => epoch.number = current.number + 1 ∧ epoch.previous = current.digest

theorem verifyEpochChain_eq_ok {current : Option EpochEnvelope} {epoch : EpochEnvelope} {done : Unit} :
    verifyEpochChain current epoch = .ok done ↔ Extends current epoch := by
  unfold verifyEpochChain Extends
  by_cases bound : epoch.number > maximumEpochChain
  · simp [bound, UInt64.not_le.2 bound]
  · have within := UInt64.not_lt.1 bound
    cases current <;> simp [bound, within]

namespace EpochPolicy

variable (policy : EpochPolicy)

/-- What verification finds out about a decision whatever the time is. -/
structure Verified (decision : Decision) : Prop where
  parsed : policy.parse decision.epochBytes = some decision.epoch
  count : decision.inputs.length = decision.epoch.cutoff
  genuine : policy.genuine decision.epochBytes decision.inputs = true

/-- A chain of decisions, the newest first, from the first Epoch on. -/
def Linked : List Decision → Prop
  | [] => True
  | decision :: rest =>
    policy.Verified decision ∧ Extends (rest.head?.map Decision.epoch) decision.epoch ∧ Linked rest

variable {policy} {now : Time} {current previous : Option EpochEnvelope} {raw : List UInt8}
  {inputs : List (List UInt8)} {materials : Option (List (List UInt8))} {decision : Decision}

theorem verifyDecision_eq_ok :
    policy.verifyDecision now current raw inputs materials = .ok decision ↔
      policy.Verified decision ∧ decision.epochBytes = raw ∧ decision.inputs = inputs ∧
        Extends current decision.epoch ∧
        now.before (Time.ofSeconds decision.epoch.validFrom) = false ∧
        now.before (Time.ofSeconds decision.epoch.validUntil) = true ∧
        (materials.any fun given => !policy.proves raw inputs given) = false := by
  unfold verifyDecision
  cases parsed : policy.parse raw with
  | none =>
    simp only [reduceCtorEq, false_iff]
    rintro ⟨verified, rfl, -⟩
    rw [verified.parsed] at parsed
    cases parsed
  | some epoch =>
    constructor
    · intro accepted
      obtain ⟨_, chained, accepted⟩ := except_bind_eq_ok.1 accepted
      split at accepted
      · cases accepted
      next within =>
      split at accepted
      · cases accepted
      next candidate =>
      split at accepted
      · cases accepted
      next proven =>
      cases accepted
      simp only [Bool.or_eq_true, Bool.not_eq_true', not_or, Bool.not_eq_true,
        Bool.not_eq_false, decide_eq_true_eq, ne_eq, not_not] at within candidate proven
      exact ⟨⟨parsed, candidate.1, candidate.2⟩, rfl, rfl, verifyEpochChain_eq_ok.1 chained, within.1,
        within.2, proven⟩
    · rintro ⟨⟨parsed', count, genuine⟩, rfl, rfl, chained, started, open_, proven⟩
      rw [parsed] at parsed'
      cases parsed'
      refine except_bind_eq_ok.2 ⟨(), verifyEpochChain_eq_ok.2 chained, ?_⟩
      simp [started, open_, count, genuine, proven]

/-- A stored decision is verified again as of the start of its validity. -/
theorem loadGeneration_eq_ok {stored : StoredGeneration} :
    policy.loadGeneration stored previous = .ok decision ↔
      policy.Verified decision ∧ decision.stored = stored ∧ Extends previous decision.epoch := by
  unfold loadGeneration
  cases parsed : policy.parse stored.epoch with
  | none =>
    simp only [reduceCtorEq, false_iff]
    rintro ⟨verified, rfl, -⟩
    rw [Decision.stored, verified.parsed] at parsed
    cases parsed
  | some epoch =>
    have lasts : (Time.ofSeconds epoch.validFrom).before (Time.ofSeconds epoch.validUntil) = true := by
      rw [Time.before_ofSeconds]
      exact decide_eq_true (policy.window parsed)
    have starts : (Time.ofSeconds epoch.validFrom).before (Time.ofSeconds epoch.validFrom) = false := by
      rw [Time.before_ofSeconds]
      exact decide_eq_false Int64.lt_irrefl
    dsimp only
    constructor
    · intro loaded
      split at loaded
      · cases loaded
      obtain ⟨verified, bytes, given, chained, -⟩ := verifyDecision_eq_ok.1 loaded
      exact ⟨verified, by rw [Decision.stored, bytes, given], chained⟩
    · rintro ⟨verified, rfl, chained⟩
      rw [Decision.stored, verified.parsed] at parsed
      cases parsed
      rw [if_neg (fun wrong => wrong verified.count)]
      exact verifyDecision_eq_ok.2 ⟨verified, rfl, rfl, chained, starts, lasts, rfl⟩

variable {rest : List Decision} {remaining : Nat} {generations : Table Digest StoredGeneration}

/-- What a chain loads to was verified, and has the name that was asked for. -/
theorem loadGenerationChain_verified
    {name : Digest} (loaded : policy.loadGenerationChain generations remaining name = .ok decision) :
    policy.Verified decision ∧ decision.epoch.digest = name := by
  cases remaining with
  | zero => cases loaded
  | succ remaining =>
    rw [loadGenerationChain] at loaded
    split at loaded
    · cases loaded
    split at loaded
    · cases loaded
    next stored _ _ _ _ =>
    have last (previous : Option EpochEnvelope) (loaded : (do
        let decision ← policy.loadGeneration stored previous
        if decision.epoch.digest ≠ name then .error .generationIdentity else .ok decision) =
          Except.ok decision) : policy.Verified decision ∧ decision.epoch.digest = name := by
      obtain ⟨found, generation, loaded⟩ := except_bind_eq_ok.1 loaded
      split at loaded
      · cases loaded
      next same =>
      cases loaded
      exact ⟨(loadGeneration_eq_ok.1 generation).1, not_not.1 same⟩
    split at loaded
    · obtain ⟨previous, -, loaded⟩ := except_bind_eq_ok.1 loaded
      exact last previous loaded
    · exact last none loaded

theorem Linked.number (linked : policy.Linked (decision :: rest)) :
    decision.epoch.number.toNat = rest.length + 1 ∧ rest.length + 1 ≤ 64 := by
  induction rest generalizing decision with
  | nil =>
    obtain ⟨-, ⟨-, first, -⟩, -⟩ := linked
    rw [first]
    exact ⟨rfl, by decide⟩
  | cons prior rest ih =>
    obtain ⟨-, ⟨bound, next, -⟩, earlier⟩ := linked
    obtain ⟨counted, small⟩ := ih earlier
    have sum : decision.epoch.number.toNat = rest.length + 1 + 1 := by
      have one : (1 : UInt64).toNat = 1 := rfl
      rw [next, UInt64.toNat_add, counted, one]
      exact Nat.mod_eq_of_lt (by omega)
    have bounded := UInt64.le_iff_toNat_le.1 bound
    rw [sum] at bounded
    exact ⟨sum, bounded⟩

/-- **A stored chain loads.** -/
theorem Linked.load (linked : policy.Linked (decision :: rest)) (kept : ∀ stored ∈ decision :: rest,
      generations.find stored.epoch.digest = some stored.stored) (long : rest.length < remaining) :
    policy.loadGenerationChain generations remaining decision.epoch.digest = .ok decision := by
  induction rest generalizing decision remaining with
  | nil =>
    obtain ⟨verified, chained, -⟩ := linked
    obtain ⟨remaining, rfl⟩ : ∃ fuel, remaining = fuel + 1 := ⟨remaining - 1, by omega⟩
    have single : ¬ decision.epoch.number > 1 := by
      rw [chained.2.1]
      exact UInt64.lt_irrefl _
    rw [loadGenerationChain, kept decision List.mem_cons_self]
    simp only [Decision.stored, verified.parsed, single, if_false]
    refine except_bind_eq_ok.2 ⟨none, rfl, except_bind_eq_ok.2 ⟨decision, ?_, if_neg (not_not.2 rfl)⟩⟩
    exact loadGeneration_eq_ok.2 ⟨verified, rfl, chained⟩
  | cons prior rest ih =>
    obtain ⟨verified, chained, earlier⟩ := linked
    obtain ⟨remaining, rfl⟩ : ∃ fuel, remaining = fuel + 1 := ⟨remaining - 1, by omega⟩
    have later : decision.epoch.number > 1 := by
      rw [gt_iff_lt, UInt64.lt_iff_toNat_lt, (Linked.number ⟨verified, chained, earlier⟩).1]
      simp
    have loaded : policy.loadGenerationChain generations remaining prior.epoch.digest = .ok prior :=
      ih earlier (fun stored among => kept stored (List.mem_cons_of_mem _ among)) (by simpa using long)
    rw [loadGenerationChain, kept decision List.mem_cons_self]
    simp only [Decision.stored, verified.parsed, later, if_true]
    rw [chained.2.2, loaded]
    refine except_bind_eq_ok.2 ⟨some prior.epoch, rfl,
      except_bind_eq_ok.2 ⟨decision, ?_, if_neg (not_not.2 rfl)⟩⟩
    exact loadGeneration_eq_ok.2 ⟨verified, rfl, chained⟩

end EpochPolicy

end Ardents.State
