/-
# State.Distribution — the durable state of source distribution

`control_state.go`, `control_encoding.go` and `control_decoding.go`: what State remembers
between waves of source requests, how it is written and what is accepted when it is read.
The encoder writes whatever it is given; the decoder has rules of its own, which are the
fields of `Valid`.  `decodeDistributionState_eq_ok` says that it accepts exactly the
encodings of the values that keep its rules.
-/
import Ardents.Lib.Reader

namespace Ardents.State

open Lib

set_option autoImplicit false

instance neZeroTwo : NeZero 2 := inferInstance
instance neZeroFour : NeZero 4 := inferInstance

@[ext]
structure DistributionState where
  sequence : UInt64
  epochFloor : UInt64
  epochDigest : Digest
  trustedTimeFloor : Int64
  conflicting : Bool
  consecutiveFailures : UInt64
  backoffLevel : UInt8
  nextAutomatic : Int64
  history : List Digest
  cycleID : UInt64
  cycleActive : Bool
  cyclePurpose : UInt8
  cycleStarted : Int64
  cycleDeadline : Int64
  /-- The two LATEST requests, then the two BY_DIGEST requests. -/
  attempts : Fin 4 → UInt8
  outcomes : Fin 4 → UInt8
  requestedDigests : Fin 2 → Digest
  observedEpochs : Fin 4 → UInt64
  observedDigests : Fin 4 → Digest
  pendingDigest : Digest
  pendingValidFrom : Int64
  cycleSeed : Digest
  sourceOrder : Fin 2 → UInt8
  deriving DecidableEq

namespace DistributionState

/-- `distributionState{}`. -/
def zero : DistributionState where
  sequence := 0
  epochFloor := 0
  epochDigest := Digest.zero
  trustedTimeFloor := 0
  conflicting := false
  consecutiveFailures := 0
  backoffLevel := 0
  nextAutomatic := 0
  history := []
  cycleID := 0
  cycleActive := false
  cyclePurpose := 0
  cycleStarted := 0
  cycleDeadline := 0
  attempts := fun _ => 0
  outcomes := fun _ => 0
  requestedDigests := fun _ => Digest.zero
  observedEpochs := fun _ => 0
  observedDigests := fun _ => Digest.zero
  pendingDigest := Digest.zero
  pendingValidFrom := 0
  cycleSeed := Digest.zero
  sourceOrder := fun _ => 0

end DistributionState

/-- The slot of the BY_DIGEST request to a source. -/
def digestSlot (source : Fin 2) : Fin 4 := ⟨2 + source, by omega⟩

/-- `sourceOutcomeInternal`, the last of the outcomes. -/
def sourceOutcomeInternal : UInt8 := 13

/-! ## Encoding -/

/-- `ARDS1D4` and a zero byte. -/
def distributionMagic : List UInt8 := [65, 82, 68, 83, 49, 68, 52, 0]

def uint64Bytes (value : UInt64) : List UInt8 := bigEndian 8 value.toNat

def int64Bytes (value : Int64) : List UInt8 := uint64Bytes value.toUInt64

def flagByte (flag : Bool) : UInt8 := if flag then 1 else 0

namespace DistributionState

variable (state : DistributionState)

def headerParts : List (List UInt8) :=
  [uint64Bytes state.sequence, uint64Bytes state.epochFloor, state.epochDigest.bytes,
    int64Bytes state.trustedTimeFloor, [flagByte state.conflicting],
    uint64Bytes state.consecutiveFailures, [state.backoffLevel], int64Bytes state.nextAutomatic,
    [UInt8.ofNat state.history.length], state.history.flatMap Block.bytes]

def cycleParts : List (List UInt8) :=
  [uint64Bytes state.cycleID, [flagByte state.cycleActive], [state.cyclePurpose],
    int64Bytes state.cycleStarted, int64Bytes state.cycleDeadline, List.ofFn state.attempts,
    List.ofFn state.outcomes, (state.requestedDigests 0).bytes, (state.requestedDigests 1).bytes]

def evidenceParts : List (List UInt8) :=
  [uint64Bytes (state.observedEpochs 0), (state.observedDigests 0).bytes,
    uint64Bytes (state.observedEpochs 1), (state.observedDigests 1).bytes,
    uint64Bytes (state.observedEpochs 2), (state.observedDigests 2).bytes,
    uint64Bytes (state.observedEpochs 3), (state.observedDigests 3).bytes,
    state.pendingDigest.bytes, int64Bytes state.pendingValidFrom, state.cycleSeed.bytes,
    List.ofFn state.sourceOrder]

end DistributionState

def encodeDistributionState (state : DistributionState) : List UInt8 :=
  distributionMagic ++
    (state.headerParts.flatten ++ (state.cycleParts.flatten ++ state.evidenceParts.flatten))

/-! ## Decoding -/

inductive DistributionError where
  | truncated
  | magic
  | conflictFlag
  | backoffLevel
  | historyCount
  | cycleFlag
  | cyclePurpose
  | cycleMetadata
  | attemptStatus
  | sourceOutcome
  | selector
  | observedIdentity
  | pendingIdentity
  | sourceOrder
  | trailing
  deriving DecidableEq, Repr

abbrev DistributionReader := Reader DistributionError

def readDigest : DistributionReader Digest := Reader.bytes 32 .truncated

def readUint64 : DistributionReader UInt64 := Reader.uint64 .truncated

def readInt64 : DistributionReader Int64 := do
  let value ← readUint64
  pure value.toInt64

/-- `copy` of an array of bytes. -/
def slots (size : Nat) (block : Block size) : Fin size → UInt8 :=
  fun index => block.bytes.get ⟨index, by rw [block.length]; exact index.isLt⟩

/-- A byte that is zero or one. -/
def readFlag (refusal : DistributionError) : DistributionReader Bool := do
  let flag ← Reader.byte refusal
  Reader.demand (decide (flag ≤ 1)) refusal
  pure (decide (flag = 1))

def decodeDistributionHeader (state : DistributionState) : DistributionReader DistributionState := do
  let sequence ← readUint64
  let epochFloor ← readUint64
  let epochDigest ← readDigest
  let trustedTimeFloor ← readInt64
  let conflicting ← readFlag .conflictFlag
  let consecutiveFailures ← readUint64
  let backoffLevel ← Reader.byte .backoffLevel
  Reader.demand (decide (backoffLevel ≤ 5)) .backoffLevel
  let nextAutomatic ← readInt64
  let count ← Reader.byte .historyCount
  Reader.demand (decide (count ≤ 2)) .historyCount
  let history ← Reader.each readDigest count.toNat
  pure { state with
    sequence, epochFloor, epochDigest, trustedTimeFloor, conflicting, consecutiveFailures,
    backoffLevel, nextAutomatic, history }

/-- The digest that a BY_DIGEST request asked for is there exactly when the request was made. -/
def readRequested (attempts : Fin 4 → UInt8) (source : Fin 2) : DistributionReader Digest := do
  let digest ← readDigest
  Reader.demand (decide (digest = Digest.zero) == decide (attempts (digestSlot source) = 0)) .selector
  pure digest

def decodeDistributionCycle (state : DistributionState) : DistributionReader DistributionState := do
  let cycleID ← readUint64
  let cycleActive ← readFlag .cycleFlag
  let cyclePurpose ← Reader.byte .cyclePurpose
  Reader.demand (decide (cyclePurpose ≤ 1)) .cyclePurpose
  let cycleStarted ← readInt64
  let cycleDeadline ← readInt64
  Reader.demand (!(cycleActive && (decide (cyclePurpose ≠ 1) || decide (cycleStarted ≤ 0) ||
    decide (cycleDeadline ≤ cycleStarted)))) .cycleMetadata
  let statuses ← Reader.bytes 4 .truncated
  Reader.demand (decide (∀ slot, slots 4 statuses slot ≤ 3)) .attemptStatus
  let outcomes ← Reader.bytes 4 .truncated
  Reader.demand (decide (∀ slot, slots 4 outcomes slot ≤ sourceOutcomeInternal)) .sourceOutcome
  let first ← readRequested (slots 4 statuses) 0
  let second ← readRequested (slots 4 statuses) 1
  pure { state with
    cycleID, cycleActive, cyclePurpose, cycleStarted, cycleDeadline
    attempts := slots 4 statuses
    outcomes := slots 4 outcomes
    requestedDigests := ![first, second] }

def readObserved : DistributionReader (UInt64 × Digest) := do
  let epoch ← readUint64
  let digest ← readDigest
  Reader.demand (decide (epoch = 0) == decide (digest = Digest.zero)) .observedIdentity
  pure (epoch, digest)

def decodeDistributionEvidence (state : DistributionState) : DistributionReader DistributionState := do
  let first ← readObserved
  let second ← readObserved
  let third ← readObserved
  let fourth ← readObserved
  let pendingDigest ← readDigest
  let pendingValidFrom ← readInt64
  Reader.demand (decide (pendingDigest = Digest.zero) == decide (pendingValidFrom = 0))
    .pendingIdentity
  let cycleSeed ← readDigest
  let order ← Reader.bytes 2 .truncated
  Reader.demand (!(decide (0 < state.cycleID) && (decide (1 < slots 2 order 0) ||
    decide (1 < slots 2 order 1) || decide (slots 2 order 0 = slots 2 order 1)))) .sourceOrder
  pure { state with
    observedEpochs := ![first.1, second.1, third.1, fourth.1]
    observedDigests := ![first.2, second.2, third.2, fourth.2]
    pendingDigest, pendingValidFrom, cycleSeed
    sourceOrder := slots 2 order }

def decodeDistributionState : List UInt8 → Except DistributionError DistributionState :=
  Reader.whole (do
    let magic ← Reader.bytes 8 .magic
    Reader.demand (decide (magic.bytes = distributionMagic)) .magic
    let state ← decodeDistributionHeader .zero
    let state ← decodeDistributionCycle state
    decodeDistributionEvidence state) .trailing

/-! ## What the decoder accepts -/

namespace DistributionState

structure HeaderValid (state : DistributionState) : Prop where
  backoff : state.backoffLevel ≤ 5
  history : state.history.length ≤ 2

structure CycleValid (state : DistributionState) : Prop where
  purpose : state.cyclePurpose ≤ 1
  active : state.cycleActive = true →
    state.cyclePurpose = 1 ∧ 0 < state.cycleStarted ∧ state.cycleStarted < state.cycleDeadline
  attempts : ∀ slot, state.attempts slot ≤ 3
  outcomes : ∀ slot, state.outcomes slot ≤ sourceOutcomeInternal
  requested : ∀ source, state.requestedDigests source = Digest.zero ↔ state.attempts (digestSlot source) = 0

structure EvidenceValid (state : DistributionState) : Prop where
  observed : ∀ slot, state.observedEpochs slot = 0 ↔ state.observedDigests slot = Digest.zero
  pending : state.pendingDigest = Digest.zero ↔ state.pendingValidFrom = 0
  order : 0 < state.cycleID →
    state.sourceOrder 0 ≤ 1 ∧ state.sourceOrder 1 ≤ 1 ∧ state.sourceOrder 0 ≠ state.sourceOrder 1

/-- The rules of the decoder. -/
structure Valid (state : DistributionState) : Prop where
  header : state.HeaderValid
  cycle : state.CycleValid
  evidence : state.EvidenceValid

end DistributionState

variable {raw : List UInt8} {size : Nat}

section Readers

variable {raw rest : List UInt8} {digest : Digest}

theorem readDigest_eq_ok :
    readDigest raw = .ok (digest, rest) ↔ raw = digest.bytes ++ rest := Reader.bytes_eq_ok

theorem readUint64_eq_ok {value : UInt64} :
    readUint64 raw = .ok (value, rest) ↔ raw = uint64Bytes value ++ rest := Reader.uint64_eq_ok

theorem readInt64_eq_ok {value : Int64} :
    readInt64 raw = .ok (value, rest) ↔ raw = int64Bytes value ++ rest := by
  simp only [readInt64, Reader.bind_eq_ok, readUint64_eq_ok, Reader.pure_eq_ok]
  constructor
  · rintro ⟨word, middle, rfl, rfl, rfl⟩
    rw [int64Bytes, UInt64.toUInt64_toInt64]
  · rintro rfl
    exact ⟨value.toUInt64, rest, rfl, Int64.toInt64_toUInt64 value, rfl⟩

theorem readFlag_eq_ok {flag : Bool} {refusal : DistributionError} :
    readFlag refusal raw = .ok (flag, rest) ↔ raw = flagByte flag :: rest := by
  simp only [readFlag, Reader.bind_eq_ok, Reader.byte_eq_ok, Reader.demand_eq_ok, Reader.pure_eq_ok,
    decide_eq_true_eq]
  constructor
  · rintro ⟨byte, middle, rfl, -, tail, ⟨small, rfl⟩, rfl, rfl⟩
    have either : byte = 0 ∨ byte = 1 := by
      have := UInt8.le_iff_toNat_le.1 small
      rw [← UInt8.toNat_inj, ← UInt8.toNat_inj]
      simp at this ⊢
      omega
    obtain rfl | rfl := either <;> rfl
  · rintro rfl
    cases flag
    · exact ⟨0, rest, rfl, (), rest, ⟨by decide, rfl⟩, rfl, rfl⟩
    · exact ⟨1, rest, rfl, (), rest, ⟨by decide, rfl⟩, rfl, rfl⟩

theorem ofFn_slots (block : Block size) : List.ofFn (slots size block) = block.bytes := by
  obtain ⟨bytes, rfl⟩ := block
  exact List.ofFn_get bytes

/-- The bytes of an array are read back. -/
theorem slots_ofFn (values : Fin size → UInt8) :
    slots size ⟨List.ofFn values, List.length_ofFn⟩ = values := by
  funext index
  simp [slots]

variable {state state' : DistributionState}

theorem readHeader_eq_ok : decodeDistributionHeader state raw = .ok (state', rest) ↔
      raw = state'.headerParts.flatten ++ rest ∧ state'.HeaderValid ∧
        state' = { state with
          sequence := state'.sequence, epochFloor := state'.epochFloor
          epochDigest := state'.epochDigest, trustedTimeFloor := state'.trustedTimeFloor
          conflicting := state'.conflicting, consecutiveFailures := state'.consecutiveFailures
          backoffLevel := state'.backoffLevel, nextAutomatic := state'.nextAutomatic
          history := state'.history } := by
  simp only [decodeDistributionHeader, Reader.bind_eq_ok, readUint64_eq_ok, readDigest_eq_ok,
    readInt64_eq_ok, readFlag_eq_ok, Reader.byte_eq_ok, Reader.demand_eq_ok, Reader.pure_eq_ok,
    Reader.each_eq_ok readDigest_eq_ok, decide_eq_true_eq]
  constructor
  · rintro ⟨sequence, _, rfl, floor, _, rfl, digest, _, rfl, time, _, rfl, flag, _, rfl, failures, _,
      rfl, level, _, rfl, -, _, ⟨small, rfl⟩, next, _, rfl, count, _, rfl, -, _, ⟨few, rfl⟩, history,
      _, ⟨rfl, size⟩, rfl, rfl⟩
    have counted : UInt8.ofNat history.length = count := by rw [size, UInt8.ofNat_toNat]
    refine ⟨?_, ⟨small, ?_⟩, rfl⟩
    · simp [DistributionState.headerParts, counted]
    · rw [size]
      exact UInt8.le_iff_toNat_le.1 few
  · rintro ⟨rfl, valid, same⟩
    have few := valid.history
    have counted : (UInt8.ofNat state'.history.length).toNat = state'.history.length :=
      UInt8.toNat_ofNat_of_lt' (few.trans_lt (by decide))
    simp only [DistributionState.headerParts, List.flatten_cons, List.flatten_nil, List.append_assoc,
      List.cons_append, List.nil_append]
    refine ⟨_, _, rfl, _, _, rfl, _, _, rfl, _, _, rfl, _, _, rfl, _, _, rfl, _, _, rfl, (), _,
      ⟨valid.backoff, rfl⟩, _, _, rfl, _, _, rfl, (), _, ⟨?_, rfl⟩, _, _, ⟨rfl, counted.symm⟩,
      same.symm, rfl⟩
    rw [UInt8.le_iff_toNat_le, counted]
    exact few

theorem readRequested_eq_ok {attempts : Fin 4 → UInt8} {source : Fin 2} :
    readRequested attempts source raw = .ok (digest, rest) ↔
      raw = digest.bytes ++ rest ∧ (digest = Digest.zero ↔ attempts (digestSlot source) = 0) := by
  simp only [readRequested, Reader.bind_eq_ok, readDigest_eq_ok, Reader.demand_eq_ok,
    Reader.pure_eq_ok, beq_iff_eq, decide_eq_decide]
  constructor
  · rintro ⟨_, _, rfl, -, _, ⟨selected, rfl⟩, rfl, rfl⟩
    exact ⟨rfl, selected⟩
  · rintro ⟨rfl, selected⟩
    exact ⟨digest, rest, rfl, (), rest, ⟨selected, rfl⟩, rfl, rfl⟩

theorem readObserved_eq_ok {observed : UInt64 × Digest} : readObserved raw = .ok (observed, rest) ↔
      raw = uint64Bytes observed.1 ++ (observed.2.bytes ++ rest) ∧
        (observed.1 = 0 ↔ observed.2 = Digest.zero) := by
  simp only [readObserved, Reader.bind_eq_ok, readUint64_eq_ok, readDigest_eq_ok, Reader.demand_eq_ok,
    Reader.pure_eq_ok, beq_iff_eq, decide_eq_decide]
  constructor
  · rintro ⟨_, _, rfl, _, _, rfl, -, _, ⟨complete, rfl⟩, rfl, rfl⟩
    exact ⟨rfl, complete⟩
  · rintro ⟨rfl, complete⟩
    exact ⟨_, _, rfl, _, _, rfl, (), rest, ⟨complete, rfl⟩, rfl, rfl⟩

theorem activeMetadata_iff {active : Bool} {purpose : UInt8} {started deadline : Int64} :
    (!(active && (decide (purpose ≠ 1) || decide (started ≤ 0) || decide (deadline ≤ started)))) = true ↔
      (active = true → purpose = 1 ∧ 0 < started ∧ started < deadline) := by
  cases active <;> simp [and_assoc]

theorem readCycle_eq_ok : decodeDistributionCycle state raw = .ok (state', rest) ↔
      raw = state'.cycleParts.flatten ++ rest ∧ state'.CycleValid ∧
        state' = { state with
          cycleID := state'.cycleID, cycleActive := state'.cycleActive
          cyclePurpose := state'.cyclePurpose, cycleStarted := state'.cycleStarted
          cycleDeadline := state'.cycleDeadline, attempts := state'.attempts
          outcomes := state'.outcomes, requestedDigests := state'.requestedDigests } := by
  simp only [decodeDistributionCycle, Reader.bind_eq_ok, readUint64_eq_ok, readInt64_eq_ok,
    readFlag_eq_ok, readRequested_eq_ok, Reader.byte_eq_ok, Reader.bytes_eq_ok, Reader.demand_eq_ok,
    Reader.pure_eq_ok, activeMetadata_iff, decide_eq_true_eq]
  constructor
  · rintro ⟨id, _, rfl, active, _, rfl, purpose, _, rfl, -, _, ⟨small, rfl⟩, started, _, rfl, deadline,
      _, rfl, -, _, ⟨complete, rfl⟩, statuses, _, rfl, -, _, ⟨known, rfl⟩, outcomes, _, rfl, -, _,
      ⟨classed, rfl⟩, first, _, ⟨rfl, one⟩, second, _, ⟨rfl, two⟩, rfl, rfl⟩
    refine ⟨?_, ⟨small, complete, known, classed, ?_⟩, rfl⟩
    · simp only [DistributionState.cycleParts, ofFn_slots, List.flatten_cons, List.flatten_nil,
        List.append_assoc, List.cons_append, List.nil_append]
      rfl
    intro source
    fin_cases source
    · exact one
    · exact two
  · rintro ⟨rfl, valid, same⟩
    have pair : ![state'.requestedDigests 0, state'.requestedDigests 1] = state'.requestedDigests := by
      funext source
      fin_cases source <;> rfl
    simp only [DistributionState.cycleParts, List.flatten_cons, List.flatten_nil, List.append_assoc,
      List.cons_append, List.nil_append]
    refine ⟨_, _, rfl, _, _, rfl, _, _, rfl, (), _, ⟨valid.purpose, rfl⟩, _, _, rfl, _, _, rfl, (), _,
      ⟨valid.active, rfl⟩, ⟨_, List.length_ofFn⟩, _, rfl, (), _, ⟨?_, rfl⟩, ⟨_, List.length_ofFn⟩, _,
      rfl, (), _, ⟨?_, rfl⟩, _, _, ⟨rfl, ?_⟩, _, _, ⟨rfl, ?_⟩, ?_, rfl⟩
    · rw [slots_ofFn]
      exact valid.attempts
    · rw [slots_ofFn]
      exact valid.outcomes
    · exact valid.requested 0
    · exact valid.requested 1
    · rw [slots_ofFn, slots_ofFn, pair]
      exact same.symm

theorem sourceOrder_iff {id : UInt64} {first second : UInt8} :
    (!(decide (0 < id) && (decide (1 < first) || decide (1 < second) || decide (first = second)))) =
        true ↔
      (0 < id → first ≤ 1 ∧ second ≤ 1 ∧ first ≠ second) := by
  by_cases positive : 0 < id <;> simp [positive, and_assoc]

theorem readEvidence_eq_ok : decodeDistributionEvidence state raw = .ok (state', rest) ↔
      raw = state'.evidenceParts.flatten ++ rest ∧ state'.EvidenceValid ∧
        state' = { state with
          observedEpochs := state'.observedEpochs, observedDigests := state'.observedDigests
          pendingDigest := state'.pendingDigest, pendingValidFrom := state'.pendingValidFrom
          cycleSeed := state'.cycleSeed, sourceOrder := state'.sourceOrder } := by
  simp only [decodeDistributionEvidence, Reader.bind_eq_ok, readObserved_eq_ok, readDigest_eq_ok,
    readInt64_eq_ok, Reader.bytes_eq_ok, Reader.demand_eq_ok, Reader.pure_eq_ok, sourceOrder_iff,
    beq_iff_eq, decide_eq_decide]
  constructor
  · rintro ⟨first, _, ⟨rfl, one⟩, second, _, ⟨rfl, two⟩, third, _, ⟨rfl, three⟩, fourth, _,
      ⟨rfl, four⟩, pending, _, rfl, validFrom, _, rfl, -, _, ⟨complete, rfl⟩, seed, _, rfl, order, _,
      rfl, -, _, ⟨ordered, rfl⟩, rfl, rfl⟩
    refine ⟨?_, ⟨?_, complete, ordered⟩, rfl⟩
    · simp only [DistributionState.evidenceParts, ofFn_slots, List.flatten_cons, List.flatten_nil,
        List.append_assoc, List.nil_append]
      rfl
    intro slot
    fin_cases slot
    · exact one
    · exact two
    · exact three
    · exact four
  · rintro ⟨rfl, valid, same⟩
    have epochs : ![state'.observedEpochs 0, state'.observedEpochs 1, state'.observedEpochs 2,
        state'.observedEpochs 3] = state'.observedEpochs := by
      funext slot
      fin_cases slot <;> rfl
    have digests : ![state'.observedDigests 0, state'.observedDigests 1, state'.observedDigests 2,
        state'.observedDigests 3] = state'.observedDigests := by
      funext slot
      fin_cases slot <;> rfl
    have sameID : state'.cycleID = state.cycleID := by rw [same]
    simp only [DistributionState.evidenceParts, List.flatten_cons, List.flatten_nil,
      List.append_assoc, List.nil_append]
    refine ⟨(state'.observedEpochs 0, state'.observedDigests 0), _, ⟨rfl, valid.observed 0⟩,
      (state'.observedEpochs 1, state'.observedDigests 1), _, ⟨rfl, valid.observed 1⟩,
      (state'.observedEpochs 2, state'.observedDigests 2), _, ⟨rfl, valid.observed 2⟩,
      (state'.observedEpochs 3, state'.observedDigests 3), _, ⟨rfl, valid.observed 3⟩, _, _, rfl, _, _,
      rfl, (), _, ⟨valid.pending, rfl⟩, _, _, rfl, ⟨_, List.length_ofFn⟩, _, rfl, (), _, ⟨?_, rfl⟩, ?_,
      rfl⟩
    · rw [slots_ofFn, ← sameID]
      exact valid.order
    · rw [slots_ofFn, epochs, digests]
      exact same.symm

end Readers

variable {state : DistributionState}

/-- **The decoder accepts exactly the encodings of valid states.** -/
theorem decodeDistributionState_eq_ok :
    decodeDistributionState raw = .ok state ↔ raw = encodeDistributionState state ∧ state.Valid := by
  simp only [decodeDistributionState, Reader.whole_eq_ok, Reader.bind_eq_ok, Reader.bytes_eq_ok,
    Reader.demand_eq_ok, readHeader_eq_ok, readCycle_eq_ok, readEvidence_eq_ok, decide_eq_true_eq]
  constructor
  · rintro ⟨magic, _, rfl, -, _, ⟨known, rfl⟩, first, _, ⟨rfl, header, _⟩, second, _,
      ⟨rfl, cycle, later⟩, rfl, evidence, last⟩
    have headers : first.headerParts = state.headerParts := by rw [last, later]; rfl
    have cycles : second.cycleParts = state.cycleParts := by rw [last]; rfl
    refine ⟨?_, ?_, ?_, evidence⟩
    · rw [encodeDistributionState, known, headers, cycles, List.append_nil]
    · rw [last, later]
      exact ⟨header.backoff, header.history⟩
    · rw [last]
      exact ⟨cycle.purpose, cycle.active, cycle.attempts, cycle.outcomes, cycle.requested⟩
  · rintro ⟨rfl, valid⟩
    -- the states between the parts: what was read so far over the zero state
    refine ⟨⟨distributionMagic, rfl⟩, _, rfl, (), _, ⟨rfl, rfl⟩,
      { state with
        cycleID := 0, cycleActive := false, cyclePurpose := 0, cycleStarted := 0, cycleDeadline := 0
        attempts := fun _ => 0, outcomes := fun _ => 0, requestedDigests := fun _ => Digest.zero
        observedEpochs := fun _ => 0, observedDigests := fun _ => Digest.zero
        pendingDigest := Digest.zero, pendingValidFrom := 0, cycleSeed := Digest.zero
        sourceOrder := fun _ => 0 }, _, ⟨rfl, ⟨valid.header.backoff, valid.header.history⟩, rfl⟩,
      { state with
        observedEpochs := fun _ => 0, observedDigests := fun _ => Digest.zero
        pendingDigest := Digest.zero, pendingValidFrom := 0, cycleSeed := Digest.zero
        sourceOrder := fun _ => 0 }, _, ⟨rfl, ?_, rfl⟩, ?_, valid.evidence, rfl⟩
    · have cycle := valid.cycle
      exact ⟨cycle.purpose, cycle.active, cycle.attempts, cycle.outcomes, cycle.requested⟩
    · exact (List.append_nil _).symm

/-- Every accepted byte string is the encoding of what it was decoded to. -/
theorem encode_of_decode (decoded : decodeDistributionState raw = .ok state) :
    encodeDistributionState state = raw :=
  (decodeDistributionState_eq_ok.1 decoded).1.symm

/-! ## One encoding, one state -/

theorem uint64Bytes_inj {left right : UInt64} (same : uint64Bytes left = uint64Bytes right) :
    left = right := by
  have read : readUint64 (uint64Bytes left ++ []) = .ok (right, []) := readUint64_eq_ok.2 (by rw [same])
  have again : readUint64 (uint64Bytes left ++ []) = .ok (left, []) := readUint64_eq_ok.2 rfl
  rw [again] at read
  cases read
  rfl

theorem int64Bytes_inj {left right : Int64} (same : int64Bytes left = int64Bytes right) :
    left = right := by
  rw [← Int64.toInt64_toUInt64 left, uint64Bytes_inj same, Int64.toInt64_toUInt64]

theorem flagByte_inj {left right : Bool} (same : flagByte left = flagByte right) : left = right := by
  revert same
  cases left <;> cases right <;> decide

theorem block_ext {left right : Block size} (same : left.bytes = right.bytes) : left = right := by
  cases left
  cases right
  cases same
  rfl

theorem flatMap_bytes_inj {left right : List Digest} (size : left.length = right.length)
    (same : left.flatMap Block.bytes = right.flatMap Block.bytes) : left = right := by
  have lengths (list : List Digest) : (list.map Block.bytes).map List.length =
      List.replicate list.length 32 := by
    rw [List.map_map, ← List.map_const']
    exact List.map_congr_left fun block _ => block.length
  have parts : left.map Block.bytes = right.map Block.bytes := by
    apply flatten_inj
    · rw [lengths, lengths, size]
    · rwa [← List.flatMap_def, ← List.flatMap_def]
  exact List.map_injective_iff.2 (fun _ _ => block_ext) parts

theorem length_flatMap_bytes (list : List Digest) :
    (list.flatMap Block.bytes).length = 32 * list.length := by
  induction list with
  | nil => rfl
  | cons block list ih => simp [ih, block.length, Nat.mul_add, Nat.add_comm]

theorem encode_parts (state : DistributionState) : encodeDistributionState state =
    (distributionMagic :: (state.headerParts ++ (state.cycleParts ++ state.evidenceParts))).flatten := by
  simp only [encodeDistributionState, List.flatten_cons, List.flatten_append]

/-- The sizes of the parts depend on how many exposures are remembered only. -/
theorem length_parts (state : DistributionState) :
    (distributionMagic :: (state.headerParts ++ (state.cycleParts ++ state.evidenceParts))).map
        List.length =
      [8, 8, 8, 32, 8, 1, 8, 1, 8, 1, 32 * state.history.length, 8, 1, 1, 8, 8, 4, 4, 32, 32,
        8, 32, 8, 32, 8, 32, 8, 32, 32, 8, 32, 2] := by
  simp only [DistributionState.headerParts, DistributionState.cycleParts,
    DistributionState.evidenceParts, List.cons_append, List.nil_append, List.map_cons, List.map_nil,
    int64Bytes, uint64Bytes, bigEndian_length, length_flatMap_bytes, List.length_ofFn, Block.length,
    List.length_singleton]
  rfl

theorem length_encode (state : DistributionState) :
    (encodeDistributionState state).length = 415 + 32 * state.history.length := by
  rw [encode_parts, List.length_flatten, length_parts]
  simp only [List.sum_cons, List.sum_nil]
  omega

theorem encode_inj {left right : DistributionState}
    (same : encodeDistributionState left = encodeDistributionState right) : left = right := by
  have count : left.history.length = right.history.length := by
    have lengths := congrArg List.length same
    rw [length_encode, length_encode] at lengths
    omega
  rw [encode_parts, encode_parts] at same
  have parts := flatten_inj (by rw [length_parts, length_parts, count]) same
  simp only [DistributionState.headerParts, DistributionState.cycleParts,
    DistributionState.evidenceParts, List.cons_append, List.nil_append, List.cons.injEq,
    and_true, true_and] at parts
  obtain ⟨sequence, floor, digest, time, conflicting, failures, level, next, -, history, id, active,
    purpose, started, deadline, attempts, outcomes, requested0, requested1, epoch0, digest0, epoch1,
    digest1, epoch2, digest2, epoch3, digest3, pending, validFrom, seed, order⟩ := parts
  have requested : left.requestedDigests = right.requestedDigests := by
    funext source
    fin_cases source
    · exact block_ext requested0
    · exact block_ext requested1
  have epochs : left.observedEpochs = right.observedEpochs := by
    funext slot
    fin_cases slot
    · exact uint64Bytes_inj epoch0
    · exact uint64Bytes_inj epoch1
    · exact uint64Bytes_inj epoch2
    · exact uint64Bytes_inj epoch3
  have digests : left.observedDigests = right.observedDigests := by
    funext slot
    fin_cases slot
    · exact block_ext digest0
    · exact block_ext digest1
    · exact block_ext digest2
    · exact block_ext digest3
  ext1
  · exact uint64Bytes_inj sequence
  · exact uint64Bytes_inj floor
  · exact block_ext digest
  · exact int64Bytes_inj time
  · exact flagByte_inj conflicting
  · exact uint64Bytes_inj failures
  · exact level
  · exact int64Bytes_inj next
  · exact flatMap_bytes_inj count history
  · exact uint64Bytes_inj id
  · exact flagByte_inj active
  · exact purpose
  · exact int64Bytes_inj started
  · exact int64Bytes_inj deadline
  · exact List.ofFn_injective attempts
  · exact List.ofFn_injective outcomes
  · exact requested
  · exact epochs
  · exact digests
  · exact block_ext pending
  · exact int64Bytes_inj validFrom
  · exact block_ext seed
  · exact List.ofFn_injective order

/-- What is read back is what was written. -/
theorem decode_encode {state' : DistributionState}
    (decoded : decodeDistributionState (encodeDistributionState state) = .ok state') : state' = state :=
  encode_inj (encode_of_decode decoded)

end Ardents.State
