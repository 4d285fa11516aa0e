/-
# State.Decodable — distribution states that can be read back

Every distribution state that the owner commits has to keep the rules of the decoder, or
the root does not open any more.  `Good` is those rules and that an active cycle did not
start after the trusted time floor; `Sound` is what the owner's memory needs so that each
operation commits a good state: an observation of a BY_DIGEST request belongs to a request
that was made, and the decisions that were observed have a number and a digest.

Two rules are not kept by every operation.  A new exposure is remembered without looking
at how many there are, and a cycle that starts at time zero is active without a start.
`careful` is the condition on an operation that excludes both.
-/
import Ardents.State.Owner

namespace Ardents.State

open Lib Program Function EpochPolicy NetworkState

set_option autoImplicit false

/-! ## Good states -/

namespace DistributionState

variable {state state' : DistributionState}

/-- The rules about a cycle read these fields. -/
def cycleFields (state : DistributionState) :=
  (state.cyclePurpose, state.cycleActive, state.cycleStarted, state.cycleDeadline, state.attempts,
    state.outcomes, state.requestedDigests)

/-- The rules about the evidence read these fields. -/
def evidenceFields (state : DistributionState) :=
  (state.observedEpochs, state.observedDigests, state.pendingDigest, state.pendingValidFrom,
    state.cycleID, state.sourceOrder)

theorem CycleValid.congr (valid : state.CycleValid) (same : state'.cycleFields = state.cycleFields) :
    state'.CycleValid := by
  simp only [cycleFields, Prod.mk.injEq] at same
  obtain ⟨purpose, active, started, deadline, attempts, outcomes, requested⟩ := same
  constructor
  · rw [purpose]
    exact valid.purpose
  · rw [active, purpose, started, deadline]
    exact valid.active
  · rw [attempts]
    exact valid.attempts
  · rw [outcomes]
    exact valid.outcomes
  · rw [requested, attempts]
    exact valid.requested

theorem EvidenceValid.congr (valid : state.EvidenceValid)
    (same : state'.evidenceFields = state.evidenceFields) : state'.EvidenceValid := by
  simp only [evidenceFields, Prod.mk.injEq] at same
  obtain ⟨epochs, digests, pending, validFrom, id, order⟩ := same
  constructor
  · rw [epochs, digests]
    exact valid.observed
  · rw [pending, validFrom]
    exact valid.pending
  · rw [id, order]
    exact valid.order

end DistributionState

structure Good (state : DistributionState) : Prop where
  backoff : state.backoffLevel ≤ 5
  history : state.history.length ≤ 2
  cycle : state.CycleValid
  evidence : state.EvidenceValid
  floor : state.cycleActive = true → state.cycleStarted ≤ state.trustedTimeFloor

variable {raw : List UInt8} {owner : NetworkState} {now : Time} {outcome : UInt8}

section States

variable {state state' : DistributionState}

theorem Good.valid (good : Good state) : state.Valid := ⟨⟨good.backoff, good.history⟩, good.cycle, good.evidence⟩

theorem good_zero : Good DistributionState.zero :=
  ⟨by decide, by decide, ⟨by decide, nofun, by decide, by decide, by decide⟩,
    ⟨by decide, by decide, nofun⟩, nofun⟩

/-- An active cycle has a positive floor. -/
theorem Good.positive (good : Good state) (active : state.cycleActive = true) :
    0 < state.trustedTimeFloor :=
  Int64.lt_of_lt_of_le (good.cycle.active active).2.1 (good.floor active)

/-- The rules read nothing but these fields. -/
theorem Good.congr (good : Good state) (level : state'.backoffLevel = state.backoffLevel)
    (history : state'.history = state.history) (cycle : state'.cycleFields = state.cycleFields)
    (evidence : state'.evidenceFields = state.evidenceFields)
    (floor : state.trustedTimeFloor ≤ state'.trustedTimeFloor) : Good state' where
  backoff := level ▸ good.backoff
  history := history ▸ good.history
  cycle := good.cycle.congr cycle
  evidence := good.evidence.congr evidence
  floor := by
    simp only [DistributionState.cycleFields, Prod.mk.injEq] at cycle
    rw [cycle.2.1, cycle.2.2.1]
    exact fun active => Int64.le_trans (good.floor active) floor

theorem le_max_int64 (left right : Int64) : left ≤ max left right := by
  rw [Int64.le_iff_toInt_le]
  change left.toInt ≤ (if left ≤ right then right else left).toInt
  split
  · next le => exact Int64.le_iff_toInt_le.1 le
  · exact le_rfl

theorem le_max_right_int64 (left right : Int64) : right ≤ max left right := by
  rw [Int64.le_iff_toInt_le]
  change right.toInt ≤ (if left ≤ right then right else left).toInt
  split
  · exact le_rfl
  next gt =>
  rw [Int64.le_iff_toInt_le] at gt
  omega

theorem backoff_le (state : DistributionState) (now : Time) (seed : Digest) :
    (applyFailureBackoff state now seed).backoffLevel ≤ 5 := by
  have bounded (failures : UInt64) : (if failures - 1 > 5 then 5 else failures - 1).toUInt8 ≤ 5 := by
    split
    · decide
    next small =>
    have small := UInt64.le_iff_toNat_le.1 (UInt64.not_lt.1 small)
    exact (Nat.mod_le _ _).trans small
  exact bounded _

theorem Good.backedOff (good : Good state) (now : Time) (seed : Digest) :
    Good (applyFailureBackoff state now seed) :=
  ⟨backoff_le state now seed, good.history, good.cycle.congr rfl, good.evidence.congr rfl, good.floor⟩

/-- The cycle is over. -/
theorem Good.stopped (good : Good state) (sequence : UInt64) :
    Good { state with cycleActive := false, sequence } :=
  { good with cycle := { good.cycle with active := nofun }, evidence := good.evidence.congr rfl, floor := nofun }

/-- An interrupted attempt was made. -/
theorem Good.interrupted (good : Good state) (slots : Fin 4 → Bool) :
    Good (interruptedAttempts state slots) := by
  refine ⟨good.backoff, good.history, ⟨good.cycle.purpose, good.cycle.active, fun slot => ?_,
    fun slot => ?_, fun source => ?_⟩, good.evidence.congr rfl, good.floor⟩
  · change (if _ then 3 else state.attempts slot) ≤ 3
    split
    · exact UInt8.le_refl _
    · exact good.cycle.attempts slot
  · change (if _ then sourceOutcomeInterrupted else state.outcomes slot) ≤ sourceOutcomeInternal
    split
    · decide
    · exact good.cycle.outcomes slot
  change state.requestedDigests source = Digest.zero ↔
    (if _ then 3 else state.attempts (digestSlot source)) = 0
  split
  · next begun =>
    simp only [Bool.and_eq_true, decide_eq_true_eq] at begun
    rw [good.cycle.requested source, begun.2]
    decide
  · exact good.cycle.requested source

theorem Good.newCycle (good : Good state) (seed : Digest) (positive : 0 < now.unixSeconds)
    (later : now.unixSeconds < (now.addSeconds 15).unixSeconds) :
    Good (NetworkState.newCycle state now seed) := by
  refine ⟨good.backoff, good.history, ⟨UInt8.le_refl _, fun _ => ⟨rfl, positive, later⟩, fun _ => ?_,
    fun _ => ?_, fun _ => ?_⟩, ⟨fun _ => ?_, good.evidence.pending, fun _ => ?_⟩, fun _ => ?_⟩
  · exact UInt8.zero_le
  · exact UInt8.zero_le
  · exact ⟨fun _ => rfl, fun _ => rfl⟩
  · exact ⟨fun _ => rfl, fun _ => rfl⟩
  · unfold NetworkState.newCycle
    dsimp only
    split <;> decide
  · exact le_max_right_int64 _ _

theorem finishedAttempt_le {status : UInt8} (bounded : status ≤ 3) :
    finishedAttempt status outcome ≤ 3 := by
  unfold finishedAttempt
  split
  · decide
  split
  · decide
  split
  · decide
  · exact bounded

theorem finishedAttempt_eq_zero {status : UInt8} :
    finishedAttempt status outcome = 0 ↔ outcome = 0 ∧ status = 0 := by
  unfold finishedAttempt
  split
  · next valid =>
    subst valid
    simp [sourceOutcomeValid]
  split
  · next some_ => simp [some_]
  next none_ =>
  rw [not_not] at none_
  split
  · next begun =>
    subst begun
    simp
  · simp [none_]

/-- The end of a wave whose outcomes belong to attempts that were made. -/
theorem Good.finished (good : Good state) (now : Time) {outcomes : Fin 4 → UInt8}
    (classed : ∀ slot, outcomes slot ≤ sourceOutcomeInternal)
    (made : ∀ source, outcomes (digestSlot source) ≠ 0 → state.attempts (digestSlot source) ≠ 0) :
    Good (finishWaveState state now outcomes) := by
  have ended : Good { state with
      sequence := state.sequence + 1, cycleActive := false, outcomes
      attempts := fun slot => finishedAttempt (state.attempts slot) (outcomes slot) } := by
    refine ⟨good.backoff, good.history, ⟨good.cycle.purpose, nofun, fun slot => ?_, classed,
      fun source => ?_⟩, good.evidence.congr rfl, nofun⟩
    · exact finishedAttempt_le (good.cycle.attempts slot)
    rw [good.cycle.requested source, finishedAttempt_eq_zero]
    refine ⟨fun never => ⟨?_, never⟩, And.right⟩
    by_contra some_
    exact made source some_ never
  unfold finishWaveState
  split
  · exact ended.backedOff now _
  · exact ⟨UInt8.zero_le, ended.history, ended.cycle.congr rfl, ended.evidence.congr rfl, nofun⟩

/-- A decision becomes active. -/
theorem Good.activated (good : Good state) (decision : Decision) :
    Good (activated state decision) := by
  refine { good with cycle := good.cycle.congr rfl, evidence := { good.evidence with pending := ?_ } }
  change (if _ then Digest.zero else state.pendingDigest) = Digest.zero ↔
    (if _ then 0 else state.pendingValidFrom) = 0
  split
  · exact ⟨fun _ => rfl, fun _ => rfl⟩
  · exact good.evidence.pending

end States

/-! ## What the owner remembers -/

/-- A decision with a number and a digest. -/
structure Proper (decision : Decision) : Prop where
  number : decision.epoch.number ≠ 0
  digest : decision.epoch.digest ≠ Digest.zero

theorem EpochPolicy.Verified.proper {policy : EpochPolicy} {decision : Decision}
    (verified : policy.Verified decision) : Proper decision :=
  ⟨policy.number_ne verified.parsed, policy.digest_ne verified.parsed⟩

/-- What is observed of a BY_DIGEST request belongs to a request that was made. -/
structure Observed (state : DistributionState) (observations : Fin 4 → UInt8) : Prop where
  classed : ∀ slot, observations slot ≤ sourceOutcomeInternal
  made : ∀ source, observations (digestSlot source) ≠ 0 → state.attempts (digestSlot source) ≠ 0

structure ResultSound (state : DistributionState) (result : SourceResult) : Prop where
  observed : Observed state result.observations
  proper : ∀ decision, result.answer = .ok decision → Proper decision

structure WaveSound (state : DistributionState) (wave : Wave) : Prop where
  active : state.cycleActive = true
  base : ∀ decision, wave.base = some decision → Proper decision
  results : ∀ result ∈ wave.results, ResultSound state result
  fetches : ∀ source requested observations,
    wave.fetches source = .byDigest requested observations →
      Observed state observations ∧ state.attempts (digestSlot (1 - source)) ≠ 0

structure Sound (owner : NetworkState) : Prop where
  good : Good owner.distribution
  current : ∀ decision, owner.current = some decision → Proper decision
  pending : ∀ decision, owner.pending = some decision → Proper decision
  wave : ∀ wave, owner.wave = some wave → WaveSound owner.distribution wave

section Waves

variable {state state' : DistributionState} {wave : Wave}

/-- The attempts of a wave are not taken back. -/
def Onward (state state' : DistributionState) : Prop :=
  ∀ source, state.attempts (digestSlot source) ≠ 0 → state'.attempts (digestSlot source) ≠ 0

theorem Observed.onward {observations : Fin 4 → UInt8} (observed : Observed state observations)
    (onward : Onward state state') : Observed state' observations :=
  ⟨observed.classed, fun source some_ => onward source (observed.made source some_)⟩

theorem WaveSound.onward (sound : WaveSound state wave) (onward : Onward state state')
    (active : state'.cycleActive = true) : WaveSound state' wave where
  active := active
  base := sound.base
  results := fun result among =>
    ⟨(sound.results result among).observed.onward onward, (sound.results result among).proper⟩
  fetches := fun source requested observations fetching =>
    ⟨(sound.fetches source requested observations fetching).1.onward onward,
      onward _ (sound.fetches source requested observations fetching).2⟩

theorem observed_none : Observed state fun _ => 0 := ⟨fun _ => UInt8.zero_le, fun _ some_ => absurd rfl some_⟩

theorem waveOutcomes_mem (results : List SourceResult) (slot : Fin 4) :
    waveOutcomes results slot = 0 ∨
      ∃ result ∈ results, result.observations slot = waveOutcomes results slot := by
  induction results using List.reverseRecOn with
  | nil => exact .inl rfl
  | append_singleton results result ih =>
    have last : waveOutcomes (results ++ [result]) slot =
        if result.observations slot ≠ 0 then result.observations slot
        else waveOutcomes results slot := by
      simp only [waveOutcomes, List.foldl_append, List.foldl_cons, List.foldl_nil]
    rw [last]
    split
    · exact .inr ⟨result, by simp, rfl⟩
    · obtain none_ | ⟨earlier, among, same⟩ := ih
      · exact .inl none_
      · exact .inr ⟨earlier, List.mem_append_left _ among, same⟩

theorem WaveSound.outcomes (sound : WaveSound state wave) :
    Observed state (waveOutcomes wave.results) where
  classed := by
    intro slot
    obtain none_ | ⟨result, among, same⟩ := waveOutcomes_mem wave.results slot
    · rw [none_]
      exact UInt8.zero_le
    · rw [← same]
      exact (sound.results result among).observed.classed slot
  made := by
    intro source some_
    obtain none_ | ⟨result, among, same⟩ := waveOutcomes_mem wave.results (digestSlot source)
    · exact absurd none_ some_
    · rw [← same] at some_
      exact (sound.results result among).observed.made source some_

/-- An observed number comes with its digest. -/
theorem observed_complete {results : List SourceResult}
    (proper : ∀ result ∈ results, ∀ decision, result.answer = .ok decision → Proper decision)
    (slot : Fin 4) : observedEpochs results slot = 0 ↔
      observedDigests results slot = Digest.zero := by
  induction results using List.reverseRecOn with
  | nil => exact ⟨fun _ => rfl, fun _ => rfl⟩
  | append_singleton results result ih =>
    have earlier := ih fun result among => proper result (List.mem_append_left _ among)
    simp only [observedEpochs, observedDigests, List.foldl_append,
      List.foldl_cons, List.foldl_nil]
    cases given : result.answer with
    | error collision => exact earlier
    | ok decision =>
      have complete := proper result (by simp) decision given
      by_cases here : slot = result.slot
      · subst here
        simp [complete.number, complete.digest]
      · simp only [update_of_ne here]
        exact earlier

end Waves

/-! ## Operations -/

/-- The exposure of a source is remembered already, or there is room for it. -/
def NetworkState.remembers (owner : NetworkState) (source : Fin 2) : Bool :=
  decide (owner.plan.exposures source ∈ owner.distribution.history) ||
    decide (owner.distribution.history.length < 2)

/-- The latest start of a cycle with a deadline. -/
def latestStart : Int64 := 9223372036854775792

/-- The condition on an operation that is not refused: an attempt begins with an exposure that is remembered or
for which there is room, and a cycle begins after time zero. -/
def NetworkState.careful (owner : NetworkState) : Call → Bool
  | .refresh reading _ _ => owner.distribution.cycleActive ||
      ((decide (0 < reading.now.unixSeconds) || decide (0 < owner.distribution.trustedTimeFloor)) &&
        decide (reading.now.unixSeconds < latestStart) &&
        decide (owner.distribution.trustedTimeFloor < latestStart))
  | .beginLatest =>
    match owner.wave with
    | some wave => wave.remaining.head?.all fun source =>
      decide (owner.distribution.attempts (NetworkState.latestSlot source) ≠ 0) || owner.remembers source
    | none => true
  | .latest source (.refused object) _ _ => decide (object = Digest.zero) ||
      decide (owner.distribution.attempts (digestSlot (1 - source)) ≠ 0) || owner.remembers (1 - source)
  | _ => true

/-- What an operation commits is good, and the owner stays sound. -/
structure Transition.Kept (transition : Transition) : Prop where
  handed : ∀ state, transition.request.handed = some state → Good state
  after : Sound transition.after
  failed : Sound transition.failed

section Operations

variable {owner : NetworkState} {policy : EpochPolicy} {state state' : DistributionState}

variable {after : NetworkState} {transition : Transition} {decision : Decision} {clock now : Time}
  {retained : Bool} {wave : Wave} {source : Fin 2} {observations : Fin 4 → UInt8} {failure : SourceFailure}
  {history : List Digest} {status : UInt8} {bundle : SourceBundle}

theorem Transition.Kept.orElse (kept : transition.Kept) {failed : NetworkState} (sound : Sound failed) :
    (transition.orElse failed).Kept :=
  ⟨kept.handed, kept.after, sound⟩

theorem stillPending_some {pending : Option Decision} {waiting : Decision}
    (still : stillPending pending decision = some waiting) : pending = some waiting := by
  unfold stillPending at still
  split at still
  · split at still
    · cases still
    · exact still
  · cases still

/-- A deadline is after its start. -/
theorem addSeconds_later (early : now.unixSeconds < latestStart) :
    now.unixSeconds < (now.addSeconds 15).unixSeconds := by
  rw [Int64.lt_iff_toInt_lt] at early ⊢
  have low := now.seconds_ge
  have high := now.seconds_lt
  have start : now.unixSeconds.toInt = now.seconds := Int64.toInt_ofInt_of_le low high
  have deadline : (now.addSeconds 15).unixSeconds.toInt = (now.addSeconds 15).seconds :=
    Int64.toInt_ofInt_of_le (now.addSeconds 15).seconds_ge (now.addSeconds 15).seconds_lt
  have bound : latestStart.toInt = 9223372036854775792 := by decide
  rw [start, deadline]
  change now.seconds < max (-2 ^ 63) (min (2 ^ 63 - 1) (now.seconds + 15))
  omega

/-- The trusted time is what the clocks say, or the floor, and not before the floor. -/
theorem trustedNow_some {reading : Reading} (trusted : trustedNow reading state = some now) :
    state.trustedTimeFloor ≤ now.unixSeconds ∧
      (now.unixSeconds = reading.now.unixSeconds ∨
        now.unixSeconds = state.trustedTimeFloor ∧ reading.now.unixSeconds < state.trustedTimeFloor) := by
  unfold trustedNow at trusted
  split at trusted
  · cases trusted
  split at trusted
  · cases trusted
  split at trusted
  · next behind =>
    cases trusted
    rw [Time.unixSeconds_ofSeconds]
    exact ⟨Int64.le_refl _, .inr ⟨rfl, behind⟩⟩
  next reached =>
  cases trusted
  exact ⟨Int64.not_lt.1 reached, .inl rfl⟩

theorem launch_distribution (now : Time) (retained : Bool) :
    { owner.launch now state retained with distribution := state } = owner.launch now state retained := by
  unfold launch
  split <;> rfl

/-! ## Attempts -/

theorem failure_le (failure : SourceFailure) : failure.outcome ≤ sourceOutcomeInternal := by
  cases failure <;> decide

theorem latestSlot_ne (source other : Fin 2) : digestSlot other ≠ latestSlot source := by
  revert source other
  decide

theorem update_le {size : Nat} {values : Fin size → UInt8} {bound value : UInt8}
    (bounded : ∀ slot, values slot ≤ bound) (small : value ≤ bound) {place : Fin size} (slot : Fin size) :
    update values place value slot ≤ bound := by
  by_cases same : slot = place
  · rwa [same, update_self]
  · rw [update_of_ne same]
    exact bounded slot

/-- An observation of a LATEST request. -/
theorem Observed.latest (observed : Observed state observations)
    (classed : outcome ≤ sourceOutcomeInternal) (source : Fin 2) :
    Observed state (update observations (latestSlot source) outcome) where
  classed := update_le observed.classed classed
  made := by
    intro other some_
    rw [update_of_ne (latestSlot_ne source other)] at some_
    exact observed.made other some_

/-- An observation of a BY_DIGEST request that was made. -/
theorem Observed.byDigest (observed : Observed state observations)
    (classed : outcome ≤ sourceOutcomeInternal) (made : state.attempts (digestSlot source) ≠ 0) :
    Observed state (update observations (digestSlot source) outcome) where
  classed := update_le observed.classed classed
  made := by
    intro other some_
    by_cases same : digestSlot other = digestSlot source
    · rwa [same]
    · rw [update_of_ne same] at some_
      exact observed.made other some_

variable {object : Digest} {slot : Fin 4} {base : Option Decision}

theorem failed_sound (observed : Observed state (update observations slot failure.outcome)) :
    ResultSound state (failedSourceResult slot observations failure) :=
  ⟨observed, nofun⟩

theorem remembered_length {exposure : Digest} (few : history.length ≤ 2)
    (room : exposure ∈ history ∨ history.length < 2) :
    (remembered history exposure).length ≤ 2 := by
  unfold remembered
  split
  · exact few
  next new =>
  rw [List.length_append, List.length_singleton]
  exact room.elim (absurd · new) id

/-- The status of a LATEST attempt changes. -/
theorem Good.latestAttempt (good : Good state) (source : Fin 2) (known : status ≤ 3)
    {outcomes : Fin 4 → UInt8} (classed : ∀ slot, outcomes slot ≤ sourceOutcomeInternal)
    (few : history.length ≤ 2) (sequence : UInt64) : Good { state with
      sequence, outcomes, history
      attempts := update state.attempts (latestSlot source) status } := by
  refine ⟨good.backoff, few, ⟨good.cycle.purpose, good.cycle.active, fun slot => ?_, classed,
    fun other => ?_⟩, good.evidence.congr rfl, good.floor⟩
  · exact update_le good.cycle.attempts known slot
  · change _ ↔ update state.attempts (latestSlot source) status (digestSlot other) = 0
    rw [update_of_ne (latestSlot_ne source other)]
    exact good.cycle.requested other

/-- The status of a BY_DIGEST attempt changes. -/
theorem Good.digestAttempt (good : Good state) (source : Fin 2) (known : status ≤ 3) (made : status ≠ 0)
    (asked : object ≠ Digest.zero) (few : history.length ≤ 2) (sequence : UInt64) :
    Good { state with
      sequence, history
      attempts := update state.attempts (digestSlot source) status
      requestedDigests := update state.requestedDigests source object } := by
  refine ⟨good.backoff, few, ⟨good.cycle.purpose, good.cycle.active, fun slot => ?_, good.cycle.outcomes,
    fun other => ?_⟩, good.evidence.congr rfl, good.floor⟩
  · exact update_le good.cycle.attempts known slot
  change update state.requestedDigests source object other = Digest.zero ↔
    update state.attempts (digestSlot source) status (digestSlot other) = 0
  by_cases same : other = source
  · rw [same, update_self, update_self]
    exact ⟨fun zero => absurd zero asked, fun zero => absurd zero made⟩
  have apart : digestSlot other ≠ digestSlot source := by
    revert same
    revert other source
    decide
  rw [update_of_ne same, update_of_ne apart]
  exact good.cycle.requested other

theorem Good.digestFinished (good : Good state) (known : status ≤ 3) (made : status ≠ 0)
    (begun : state.attempts (digestSlot source) ≠ 0) :
    Good (NetworkState.digestFinished state source status) := by
  have asked : state.requestedDigests source ≠ Digest.zero := fun zero =>
    begun ((good.cycle.requested source).1 zero)
  have changed := good.digestAttempt source known made asked good.history (state.sequence + 1)
  rwa [update_eq_self] at changed

theorem onward_update (made : status ≠ 0)
    (updated : state'.attempts = update state.attempts slot status) : Onward state state' := by
  intro source some_
  rw [updated]
  by_cases same : digestSlot source = slot
  · rwa [same, update_self]
  · rwa [update_of_ne same]

theorem WaveSound.begun (waves : WaveSound state wave) (remaining : List (Fin 2)) :
    WaveSound state { wave with remaining } :=
  ⟨waves.active, waves.base, waves.results, waves.fetches⟩

theorem repeated_eq_some {known : Decision}
    (again : repeated policy bundle known = some decision) : known = decision := by
  unfold repeated at again
  split at again
  · exact Option.some.inj again
  · cases again

theorem toOption_eq_some {ε α : Type} {result : Except ε α} {value : α}
    (given : result.toOption = some value) : result = .ok value := by
  cases result with
  | error refusal => cases given
  | ok other =>
    cases given
    rfl

/-- A verified bundle is a decision that is known already, or a new one. -/
theorem verifySourceBundle_cases
    (given : owner.verifySourceBundle policy base bundle clock = some decision) :
    base = some decision ∨ owner.pending = some decision ∨
      (∃ now, policy.verifyDecision now (base.map Decision.epoch) bundle.epoch bundle.inputs
        (some bundle.materials) = .ok decision) ∧
        ∀ waiting, owner.pending = some waiting → isAbout decision.epoch waiting = false := by
  unfold verifySourceBundle at given
  split at given
  · cases given
  split at given
  · cases given
  next parsed found =>
  dsimp only at given
  split at given
  · next known =>
    rw [repeated_eq_some given] at known
    exact .inl (Option.filter_eq_some_iff.1 known).1
  · next waiting =>
    split at given
    · rw [repeated_eq_some given] at waiting
      exact .inr (.inl (Option.filter_eq_some_iff.1 waiting).1)
    · cases given
  next _ unknown =>
  have verified := toOption_eq_some given
  obtain ⟨sound, bytes, -⟩ := verifyDecision_eq_ok.1 verified
  have same : parsed = decision.epoch := by
    rw [← bytes, sound.parsed] at found
    exact (Option.some.inj found).symm
  refine .inr (.inr ⟨⟨_, verified⟩, fun waiting waits => ?_⟩)
  rw [waits, same, Option.filter_some] at unknown
  split at unknown
  · cases unknown
  · next other => exact Bool.not_eq_true _ ▸ other

/-! ## The end of a wave -/

theorem newestSourceDecision_mem {valid : List Decision} {selected : Decision}
    (newest : newestSourceDecision valid = some selected) : selected ∈ valid := by
  cases valid with
  | nil => cases newest
  | cons first rest =>
    cases newest
    induction rest using List.reverseRecOn with
    | nil => exact List.mem_singleton.2 rfl
    | append_singleton rest candidate ih =>
      rw [List.foldl_append]
      simp only [List.foldl_cons, List.foldl_nil]
      split
      · simp
      · exact List.mem_append_left _ ih

/-- The decision that a wave selects has a number and a digest. -/
theorem WaveSound.selected {selected : Decision} (waves : WaveSound state wave)
    (newest : newestSourceDecision (waveValid wave.results) = some selected) : Proper selected := by
  obtain ⟨result, among, given⟩ := List.mem_filterMap.1 (newestSourceDecision_mem newest)
  exact (waves.results result among).proper selected (toOption_eq_some given)

/-- A decision that is not valid yet has a time at which it will be. -/
theorem validFrom_ne_zero (positive : 0 < now.unixSeconds)
    (early : now.before (Time.ofSeconds decision.epoch.validFrom) = true) : decision.epoch.validFrom ≠ 0 := by
  intro zero
  rw [zero, Time.before_ofSeconds_iff] at early
  exact Int64.lt_irrefl (Int64.lt_trans positive early)

/-! ## What a sound owner does -/

section Keeping

variable (sound : Sound owner)

include sound

/-- The state at the end of a wave is good. -/
theorem Sound.finished (waves : owner.wave = some wave) (now : Time) :
    Good (owner.finished wave now) := by
  have ends := sound.wave wave waves
  have observed : Good { owner.distribution with
      observedEpochs := NetworkState.observedEpochs wave.results
      observedDigests := NetworkState.observedDigests wave.results } := by
    refine { sound.good with
      cycle := sound.good.cycle.congr rfl
      evidence := { sound.good.evidence with observed := fun slot => ?_ } }
    exact observed_complete (fun result among => (ends.results result among).proper) slot
  exact observed.finished now ends.outcomes.classed ends.outcomes.made

/-- The owner between two waves. -/
theorem Sound.between (good : Good state) :
    Sound { owner with distribution := state, wave := none } :=
  ⟨good, sound.current, sound.pending, fun _ waves => by cases waves⟩

/-- The owner when a wave is over. -/
theorem Sound.ended : Sound { owner with wave := none } :=
  sound.between sound.good

theorem Sound.observed (clock : Time) : Good (owner.observed clock) :=
  sound.good.congr rfl rfl rfl rfl (le_max_int64 _ _)

variable {drawn : Digest} {answer : Option StateError}

theorem kept_control (good : Good state) (goes : Sound { after with distribution := state }) :
    (owner.commitDistribution state after answer).Kept where
  handed := by
    rintro _ ⟨⟩
    exact good
  after := goes
  failed := sound

theorem Sound.paused (quiet : owner.wave = none) (good : Good state) :
    Sound { owner with distribution := state } := by
  refine ⟨good, sound.current, sound.pending, fun wave waves => ?_⟩
  rw [show owner.wave = some wave from waves] at quiet
  cases quiet

/-- A commit between two waves. -/
theorem kept_paused (quiet : owner.wave = none) (good : Good state) :
    (owner.commitDistribution state owner answer).Kept :=
  kept_control sound good (sound.paused quiet good)

theorem kept_keep (goes : Sound after) : (owner.keep after answer).Kept :=
  ⟨nofun, goes, sound⟩

theorem kept_active (good : Good state) (proper : Proper decision) (ended : after.wave = none) :
    (owner.commitActiveDecision decision state after).Kept where
  handed := by
    rintro _ ⟨⟩
    exact good.activated decision
  after := by
    refine ⟨good.activated decision, ?_, fun waiting still => ?_, fun wave waves => ?_⟩
    · rintro _ ⟨⟩
      exact proper
    · exact sound.pending waiting (stillPending_some still)
    · change after.wave = some wave at waves
      rw [ended] at waves
      cases waves
  failed := sound

theorem accept_kept {inputs materials : List (List UInt8)}
    (accepted : owner.accept policy raw inputs materials clock = .ok transition) :
    transition.Kept := by
  unfold accept at accepted
  split at accepted
  · cases accepted
  next quiet =>
  split at accepted
  · cases accepted
  obtain ⟨decision, verified, accepted⟩ := except_bind_eq_ok.1 accepted
  have proper := (verifyDecision_eq_ok.1 verified).1.proper
  have noWave : owner.wave = none := Option.not_isSome_iff_eq_none.1 quiet
  have good := sound.observed clock
  split at accepted
  · cases accepted
    exact kept_paused sound noWave (good.congr rfl rfl rfl rfl (Int64.le_refl _))
  · cases accepted
  · cases accepted
    exact kept_active sound good proper noWave

theorem launch_sound (quiet : owner.wave = none) (good : Good state)
    (active : state.cycleActive = true) : Sound (owner.launch now state retained) := by
  unfold launch
  split
  · refine ⟨good, sound.current, sound.pending, ?_⟩
    rintro _ ⟨⟩
    exact ⟨active, sound.current, (by rintro _ ⟨⟩), fun _ _ _ fetching => by cases fetching⟩
  · exact sound.paused quiet good

theorem startSourceWave_kept (quiet : owner.wave = none)
    (starts : owner.distribution.cycleActive = false → 0 < now.unixSeconds ∧ now.unixSeconds < latestStart) :
    (owner.startSourceWave now retained drawn).Kept := by
  unfold startSourceWave
  dsimp only
  split
  · next active =>
    split
    · have ended := ((sound.good.interrupted fun _ => true).stopped
        (owner.distribution.sequence + 1)).backedOff now owner.distribution.cycleSeed
      exact kept_paused sound quiet ended
    split
    · have good : Good { interruptedAttempts owner.distribution
          (fun slot => decide (2 ≤ slot)) with sequence := owner.distribution.sequence + 1 } :=
        (sound.good.interrupted _).congr rfl rfl rfl rfl (Int64.le_refl _)
      refine kept_control sound good ?_
      rw [launch_distribution]
      exact launch_sound sound quiet good active
    · exact kept_keep sound (launch_sound sound quiet sound.good active)
  · next inactive =>
    obtain ⟨positive, early⟩ := starts (Bool.not_eq_true _ ▸ inactive)
    have good := sound.good.newCycle (if owner.plan.orderSeed = Digest.zero then drawn
      else owner.plan.orderSeed) positive (addSeconds_later early)
    refine kept_control sound good ?_
    rw [launch_distribution]
    exact launch_sound sound quiet good rfl

theorem refresh_kept {reading : Reading}
    (careful : owner.careful (.refresh reading retained drawn) = true)
    (started : owner.refresh reading retained drawn = .ok transition) : transition.Kept := by
  unfold refresh at started
  split at started
  · cases started
  next quiet =>
  split at started
  · cases started
  split at started
  · cases started
  cases trusted : trustedNow reading owner.distribution with
  | none =>
    simp only [trusted] at started
    cases started
  | some now =>
    simp only [trusted] at started
    split at started
    · cases started
    split at started
    · cases started
    cases started
    refine startSourceWave_kept sound (Option.not_isSome_iff_eq_none.1 quiet) fun inactive => ?_
    simp only [NetworkState.careful, inactive, Bool.false_or, Bool.and_eq_true, Bool.or_eq_true,
      decide_eq_true_eq] at careful
    obtain ⟨⟨positive, early⟩, low⟩ := careful
    obtain ⟨floor, same | ⟨same, behind⟩⟩ := trustedNow_some trusted
    · rw [same] at floor ⊢
      exact ⟨positive.elim id fun above => Int64.lt_of_lt_of_le above floor, early⟩
    · rw [same]
      exact ⟨positive.elim (fun above => Int64.lt_trans above behind) id, low⟩

/-- A source answered: the wave has one more result. -/
theorem answered_sound {result : SourceResult} (waves : WaveSound owner.distribution wave)
    (given : ResultSound owner.distribution result) :
    Sound (owner.answered wave source result) := by
  refine ⟨sound.good, sound.current, sound.pending, ?_⟩
  rintro _ ⟨⟩
  refine ⟨waves.active, waves.base, fun other among => ?_, fun other requested observations fetching => ?_⟩
  · rcases List.mem_append.1 among with earlier | last
    · exact waves.results other earlier
    · rw [List.mem_singleton.1 last]
      exact given
  change update wave.fetches source .answered other = _ at fetching
  by_cases same : other = source
  · rw [same, update_self] at fetching
    cases fetching
  · rw [update_of_ne same] at fetching
    exact waves.fetches other requested observations fetching

/-- A request is under way. -/
theorem fetching_sound {fetch : Fetch} (waves : WaveSound owner.distribution wave)
    (asked : ∀ requested observations, fetch = .byDigest requested observations →
      Observed owner.distribution observations ∧
        owner.distribution.attempts (digestSlot (1 - source)) ≠ 0) :
    Sound (owner.fetching wave source fetch) := by
  refine ⟨sound.good, sound.current, sound.pending, ?_⟩
  rintro _ ⟨⟩
  refine ⟨waves.active, waves.base, waves.results, fun other requested observations fetching => ?_⟩
  change update wave.fetches source fetch other = _ at fetching
  by_cases same : other = source
  · rw [same, update_self] at fetching
    rw [same]
    exact asked requested observations fetching
  · rw [update_of_ne same] at fetching
    exact waves.fetches other requested observations fetching

theorem beginLatest_kept (careful : owner.careful .beginLatest = true)
    (begun : owner.beginLatestAttempt = some transition) : transition.Kept := by
  unfold beginLatestAttempt at begun
  cases waving : owner.wave with
  | none =>
    simp only [waving] at begun
    cases begun
  | some wave =>
  have waves := sound.wave wave waving
  have active := waves.active
  cases first : wave.remaining with
  | nil =>
    simp only [waving, first] at begun
    cases begun
  | cons source rest =>
  simp only [waving, first] at begun
  rw [if_neg (by simp [active])] at begun
  have failed : Sound (owner.answered { wave with remaining := rest } source
      (failedSourceResult (latestSlot source) (fun _ => 0) .invalidState)) :=
    answered_sound sound (waves.begun rest)
      (failed_sound (observed_none.latest (failure_le .invalidState) source))
  split at begun
  · -- the attempt was interrupted
    cases begun
    have good : Good (latestInterrupted owner.distribution source) :=
      sound.good.latestAttempt source (by decide) (update_le sound.good.cycle.outcomes (by decide))
        sound.good.history _
    refine (kept_control sound good ?_).orElse failed
    exact answered_sound (sound.between good)
      ((waves.begun rest).onward (onward_update (by decide) rfl) active)
      ⟨observed_none.latest (by decide) source, nofun⟩
  split at begun
  · -- the attempt is over
    cases begun
    exact kept_keep sound (answered_sound sound (waves.begun rest)
      ⟨observed_none.latest (sound.good.cycle.outcomes _) source, nofun⟩)
  next fresh =>
  cases begun
  have room : owner.plan.exposures source ∈ owner.distribution.history ∨
      owner.distribution.history.length < 2 := by
    simpa [NetworkState.careful, waving, first, fresh, remembers] using careful
  have good : Good (latestStarted owner.distribution source
      (owner.plan.exposures source)) :=
    sound.good.latestAttempt source (by decide) sound.good.cycle.outcomes
      (remembered_length sound.good.history room) _
  refine (kept_control sound good ?_).orElse failed
  exact fetching_sound (sound.between good)
    ((waves.begun rest).onward (onward_update (by decide) rfl) active) nofun

theorem verifySourceBundle_proper (bases : ∀ known, base = some known → Proper known)
    (given : owner.verifySourceBundle policy base bundle clock = some decision) :
    Proper decision := by
  obtain known | waits | ⟨⟨now, verified⟩, -⟩ := verifySourceBundle_cases given
  · exact bases decision known
  · exact sound.pending decision waits
  · exact (verifyDecision_eq_ok.1 verified).1.proper

/-- The result of a response, when an outcome of its slot is an observation. -/
theorem verifyResponse_sound {bundle : Option SourceBundle} (waves : WaveSound state wave)
    (observed : ∀ outcome ≤ sourceOutcomeInternal, Observed state (update observations slot outcome)) :
    ResultSound state
      (owner.verifyResponse policy wave slot observations object bundle failure clock) := by
  unfold verifyResponse
  split
  · exact failed_sound (observed _ (failure_le failure))
  next decision given =>
  obtain ⟨source, _, verified⟩ := Option.bind_eq_some_iff.1 given
  split
  · exact ⟨observed _ (failure_le .invalidState), nofun⟩
  split
  · exact failed_sound (observed _ (failure_le .framing))
  · refine ⟨observed _ (by decide), ?_⟩
    rintro _ ⟨⟩
    exact verifySourceBundle_proper sound waves.base verified

theorem latestAnswered_kept {answer : Answer}
    (careful : owner.careful (.latest source answer failure clock) = true)
    (given : owner.latestAnswered policy source answer failure clock = some transition) :
    transition.Kept := by
  unfold latestAnswered at given
  split at given
  · cases given
  next wave waving =>
  have waves := sound.wave wave waving
  have latest (outcome : UInt8) (classed : outcome ≤ sourceOutcomeInternal) :=
    (observed_none : Observed owner.distribution _).latest classed source
  split at given
  · cases given
  cases answer with
  | given object bundle =>
    cases given
    exact kept_keep sound (answered_sound sound waves (verifyResponse_sound sound waves latest))
  | refused object =>
    dsimp only at given
    split at given
    · cases given
      exact kept_keep sound (answered_sound sound waves (failed_sound (latest _ (failure_le failure))))
    next asked =>
    have observed := latest _ (failure_le failure)
    have failed : Sound (owner.answered wave source (failedSourceResult
        (latestSlot source) (update (fun _ => 0) (latestSlot source)
          failure.outcome) .framing)) :=
      answered_sound sound waves (failed_sound (observed.latest (failure_le .framing) source))
    split at given
    · cases given
      exact kept_keep sound failed
    next fresh =>
    cases given
    simp only [waves.active, Bool.not_true, Bool.false_or, decide_eq_true_eq, not_not] at fresh
    have room : owner.plan.exposures (1 - source) ∈ owner.distribution.history ∨
        owner.distribution.history.length < 2 := by
      simpa [NetworkState.careful, asked, fresh, remembers] using careful
    have good : Good (digestStarted owner.distribution (1 - source) object
        (owner.plan.exposures (1 - source))) :=
      sound.good.digestAttempt (1 - source) (by decide) (by decide) asked
        (remembered_length sound.good.history room) _
    have onward : Onward owner.distribution (digestStarted owner.distribution (1 - source)
        object (owner.plan.exposures (1 - source))) := onward_update (by decide) rfl
    refine (kept_control sound good ?_).orElse failed
    refine fetching_sound (sound.between good) (waves.onward onward waves.active) ?_
    rintro _ _ ⟨⟩
    refine ⟨observed.onward onward, ?_⟩
    change update owner.distribution.attempts (digestSlot (1 - source)) 1 (digestSlot (1 - source)) ≠ 0
    rw [update_self]
    decide

theorem digestAnswered_kept {answer : Answer}
    (given : owner.digestAnswered policy source answer failure clock = some transition) :
    transition.Kept := by
  unfold digestAnswered at given
  split at given
  · cases given
  next wave waving =>
  have waves := sound.wave wave waving
  split at given
  swap
  · cases given
  next requested observations fetching =>
  obtain ⟨observed, made⟩ := waves.fetches source requested observations fetching
  have failed : Sound (owner.answered wave source (failedSourceResult
      (digestSlot (1 - source)) observations .framing)) :=
    answered_sound sound waves (failed_sound (observed.byDigest (failure_le .framing) made))
  dsimp only at given
  split at given
  · cases given
    exact kept_keep sound failed
  -- the attempt ends with a status of its own
  have ends (status : UInt8) (known : status ≤ 3) (some_ : status ≠ 0) (result : SourceResult)
      (answers : ResultSound owner.distribution result) :
      ((owner.commitDistribution (digestFinished owner.distribution (1 - source) status)
        (owner.answered wave source result) none).orElse (owner.answered wave source
          (failedSourceResult (digestSlot (1 - source)) observations .framing))).Kept := by
    have good := sound.good.digestFinished known some_ made
    have onward : Onward owner.distribution
        (digestFinished owner.distribution (1 - source) status) := onward_update some_ rfl
    refine (kept_control sound good ?_).orElse failed
    exact answered_sound (sound.between good) (waves.onward onward waves.active)
      ⟨answers.observed.onward onward, answers.proper⟩
  cases answer with
  | refused object =>
    cases given
    exact ends 3 (by decide) (by decide) _
      (failed_sound (observed.byDigest (failure_le failure) made))
  | given object bundle =>
    cases given
    refine ends 2 (by decide) (by decide) _ ?_
    split
    · exact failed_sound (observed.byDigest (failure_le .framing) made)
    · exact verifyResponse_sound sound waves fun outcome classed => observed.byDigest classed made

theorem recordSourceConflict_kept (waving : owner.wave = some wave) (refusal : StateError) :
    (owner.recordSourceConflict wave refusal).Kept := by
  have good : Good { owner.finished wave wave.started with conflicting := true } :=
    (sound.finished waving wave.started).congr rfl rfl rfl rfl (Int64.le_refl _)
  exact (kept_control sound good (sound.between good)).orElse sound.ended

theorem commitSourceFailure_kept (waving : owner.wave = some wave) (now : Time) :
    (owner.commitSourceFailure wave now).Kept := by
  have good := sound.finished waving now
  exact (kept_control sound good (sound.between good)).orElse sound.ended

theorem commitPendingSourceWave_kept {selected : Decision} (waving : owner.wave = some wave)
    (proper : Proper selected) (waits : selected.epoch.validFrom ≠ 0) (retained : Bool) :
    (owner.commitPendingSourceWave wave now selected retained).Kept := by
  have finished := sound.finished waving now
  have good : Good { owner.finished wave now with
      pendingDigest := selected.epoch.digest, pendingValidFrom := selected.epoch.validFrom } :=
    { finished with
      cycle := finished.cycle.congr rfl
      evidence := { finished.evidence with
        pending := ⟨fun zero => absurd zero proper.digest, fun zero => absurd zero waits⟩ } }
  unfold commitPendingSourceWave
  split
  · exact kept_keep sound sound.ended
  split
  · refine ⟨?_, ⟨good, sound.current, ?_, fun _ waves => by cases waves⟩, sound.ended⟩
    · rintro _ ⟨⟩
      exact good
    · rintro _ ⟨⟩
      exact proper
  · exact (kept_control sound good (sound.between good)).orElse sound.ended

theorem commitActiveSourceWave_kept {selected : Decision} (waving : owner.wave = some wave)
    (proper : Proper selected) (retained : Bool) :
    (owner.commitActiveSourceWave wave now selected retained).Kept := by
  have raised : Good { owner.finished wave now with
      trustedTimeFloor := max (owner.finished wave now).trustedTimeFloor now.unixSeconds } :=
    (sound.finished waving now).congr rfl rfl rfl rfl (le_max_int64 _ _)
  have good := raised.activated selected
  unfold commitActiveSourceWave
  split
  · exact kept_keep sound sound.ended
  split
  · exact (kept_active sound good proper rfl).orElse sound.ended
  · refine (kept_control sound good ?_).orElse sound.ended
    exact ⟨good, sound.current, fun waiting still => sound.pending waiting (stillPending_some still),
      fun _ waves => by cases waves⟩

theorem complete_kept {reading : Reading}
    (completed : owner.completeSourceWave reading retained = some transition) :
    transition.Kept := by
  unfold completeSourceWave at completed
  split at completed
  · cases completed
  next wave waving =>
  have waves := sound.wave wave waving
  split at completed
  · cases completed
  dsimp only at completed
  split at completed
  · cases completed
    exact kept_keep sound sound.ended
  split at completed
  · cases completed
    exact recordSourceConflict_kept sound waving _
  split at completed
  · cases completed
    exact recordSourceConflict_kept sound waving _
  split at completed
  · split at completed
    · cases completed
      exact kept_keep sound sound.ended
    · cases completed
      exact commitSourceFailure_kept sound waving _
  next selected newest =>
  have proper := waves.selected newest
  split at completed
  · cases completed
    exact recordSourceConflict_kept sound waving _
  split at completed
  · cases completed
    exact kept_keep sound sound.ended
  next now trusted =>
  have positive := Int64.lt_of_lt_of_le (sound.good.positive waves.active) (trustedNow_some trusted).1
  split at completed
  · next early =>
    cases completed
    exact commitPendingSourceWave_kept sound waving proper (validFrom_ne_zero positive early) _
  split at completed
  · cases completed
    exact commitSourceFailure_kept sound waving _
  · cases completed
    exact commitActiveSourceWave_kept sound waving proper _

/-- Every careful operation commits a good state. -/
theorem transition_kept {call : Call} (careful : owner.careful call = true)
    (goes : owner.transition policy call = some transition) : transition.Kept := by
  cases call with
  | accept raw inputs materials clock => exact accept_kept sound (toOption_eq_some goes)
  | refresh reading retained drawn => exact refresh_kept sound careful (toOption_eq_some goes)
  | beginLatest => exact beginLatest_kept sound careful goes
  | latest source answer failure clock => exact latestAnswered_kept sound careful goes
  | byDigest source answer failure clock => exact digestAnswered_kept sound goes
  | complete reading retained => exact complete_kept sound goes

end Keeping

end Operations

/-! ## The journal -/

/-- Every generation of the journal is a good state. -/
def Readable (tree : ControlTree) : Prop :=
  ∀ name raw, tree.generations.find name = some raw → ∃ state, Good state ∧ raw = encodeDistributionState state

section Journal

variable {tree : ControlTree} {disk : Disk} {policy : EpochPolicy} {state : DistributionState}

theorem Readable.remove (readable : Readable tree) (name : Digest) : Readable (removeControl name tree) := by
  intro other raw found
  exact readable other raw (Table.find_of_erase found)

theorem Readable.put (readable : Readable tree) (name : Digest) (good : Good state)
    {staging : List (Option (List UInt8))} {temporaries : List (Option Digest)} {current : Option Digest} :
    Readable ⟨tree.generations.put name (encodeDistributionState state), staging, temporaries, current⟩ := by
  intro other raw found
  exact Table.forall_put readable ⟨state, good, rfl⟩ found

/-- A program that leaves every generation of the journal readable. -/
abbrev KeepsReadable {α : Type} (program : Program ControlTree StateError α) (tree : ControlTree) : Prop :=
  Program.Meets program tree Readable (fun _ => Readable) fun _ => Readable

theorem removeAll_readable (names : List Digest) (readable : Readable tree) :
    KeepsReadable (Program.effects (names.map removeControl)) tree := by
  induction names generalizing tree with
  | nil => exact meets_pure readable
  | cons name names ih =>
    exact meets_effect_bind (readable.remove name) (ih (readable.remove name))

theorem prune_readable (readable : Readable tree) : KeepsReadable pruneSupersededControl tree := by
  refine meets_look_bind ?_
  split
  · split
    · exact meets_refuse readable
    · exact meets_pure readable
  split
  · exact meets_refuse readable
  split
  · exact meets_refuse readable
  refine meets_bind (removeAll_readable _ readable) fun _ after kept => ?_
  split
  · exact meets_refuse kept
  · exact meets_pure kept

theorem point_readable (readable : Readable tree) (name : Digest) :
    KeepsReadable (Generations.point name) tree := by
  refine (Generations.point_meets name).imp ?_ ?_ (fun _ _ => False.elim)
  · rintro point (⟨staging, temporaries, -, -, rfl⟩ | rfl) <;> exact readable
  · rintro _ _ rfl
    exact readable

theorem writeControl_readable (readable : Readable tree) (good : Good state) (name : Digest) :
    KeepsReadable (writeControl name (encodeDistributionState state)) tree := by
  refine meets_bind (prune_readable readable) fun _ pruned kept => ?_
  refine meets_look_bind ?_
  split
  · exact meets_refuse kept
  split
  · split
    · exact meets_refuse kept
    · exact point_readable kept name
  refine meets_bind ((Generations.stage_meets _ _).imp ?_ (fun _ _ => id) (fun _ _ => False.elim)) ?_
  · rintro point ⟨part, rfl⟩
    exact kept
  rintro _ _ rfl
  exact meets_effect_bind (kept.put name good) (point_readable (kept.put name good) name)

/-- The same of a program on the whole disk. -/
abbrev LeavesReadable {α : Type} (program : Program Disk StateError α) (disk : Disk) : Prop :=
  Program.Meets program disk (fun point => Readable point.control)
    (fun _ after => Readable after.control) fun _ after => Readable after.control

/-- A program that leaves the journal readable and answers with a value of which `P` holds. -/
abbrev FindsReadable {α : Type} (program : Program Disk StateError α) (disk : Disk) (P : α → Prop) : Prop :=
  Program.Meets program disk (fun point => Readable point.control)
    (fun value after => P value ∧ Readable after.control) fun _ after => Readable after.control

variable {current : Option Decision}

theorem loadCurrent_proper {tree : StateTree} (loaded : policy.loadCurrent tree = .ok current) :
    ∀ decision, current = some decision → Proper decision := by
  rintro decision rfl
  obtain ⟨pointer, -, loaded⟩ := except_bind_eq_ok.1 loaded
  split at loaded
  · split at loaded <;> cases loaded
  obtain ⟨found, chain, loaded⟩ := except_bind_eq_ok.1 loaded
  split at loaded
  · cases loaded
  cases loaded
  exact (loadGenerationChain_verified chain).1.proper

theorem loadControl_found {tree : ControlTree} {name : Digest}
    (loaded : loadControl tree = .ok (some (name, raw))) : tree.generations.find name = some raw := by
  unfold loadControl at loaded
  split at loaded
  · split at loaded <;> cases loaded
  split at loaded
  · cases loaded
  next found =>
  split at loaded
  · cases loaded
  · cases loaded
    exact found

theorem recoverPendingState_kept {tree : StateTree} {transition : Transition}
    (sound : Sound owner) (quiet : owner.wave = none)
    (recovered : policy.recoverPendingState tree owner = .ok transition) : transition.Kept := by
  unfold EpochPolicy.recoverPendingState at recovered
  dsimp only at recovered
  split at recovered
  · cases recovered
    exact kept_keep sound sound
  split at recovered
  · cases recovered
  split at recovered
  · cases recovered
    have good : Good { owner.distribution with
        pendingDigest := Digest.zero, pendingValidFrom := 0, sequence := owner.distribution.sequence + 1 } :=
      { sound.good with
        cycle := sound.good.cycle.congr rfl
        evidence := { sound.good.evidence with pending := ⟨fun _ => rfl, fun _ => rfl⟩ } }
    exact kept_paused sound quiet good
  obtain ⟨_, -, recovered⟩ := except_bind_eq_ok.1 recovered
  split at recovered
  · cases recovered
  obtain ⟨decision, loaded, recovered⟩ := except_bind_eq_ok.1 recovered
  split at recovered
  · cases recovered
  cases recovered
  refine kept_keep sound ⟨sound.good, sound.current, ?_, sound.wave⟩
  rintro _ ⟨⟩
  exact (loadGeneration_eq_ok.1 loaded).1.proper

section Reading

variable (readable : Readable disk.control)

include readable

theorem commitDistribution_readable (good : Good state) :
    LeavesReadable (policy.commitDistribution state) disk := by
  unfold EpochPolicy.commitDistribution commitControl
  split
  · exact meets_refuse readable
  · exact (writeControl_readable readable good _).inside

/-- A decision is not written to the journal. -/
theorem persistDecision_readable (decision : Decision) (activate : Bool) :
    LeavesReadable (persistDecision decision activate) disk := by
  unfold persistDecision commitState
  split
  · exact meets_refuse readable
  split
  · exact meets_refuse readable
  · exact Meets.inside ⟨fun _ _ => readable, fun _ _ => readable, fun _ _ => readable⟩

theorem write_readable {request : Request}
    (good : ∀ state, request.handed = some state → Good state) :
    LeavesReadable (policy.write request) disk := by
  cases request with
  | nothing => exact meets_pure readable
  | control state => exact commitDistribution_readable readable (good state rfl)
  | active decision state =>
    refine meets_bind (persistDecision_readable readable decision false) fun _ staged kept => ?_
    refine meets_bind (commitDistribution_readable kept (good _ rfl)) fun _ committed kept => ?_
    exact persistDecision_readable kept decision true
  | staged decision state =>
    refine meets_bind (persistDecision_readable readable decision false) fun _ staged kept => ?_
    exact commitDistribution_readable kept (good state rfl)

/-! ## Opening -/

theorem prepareControl_readable : LeavesReadable (onControl prepareControl) disk := by
  exact Meets.inside (Generations.sweep_meets (fun _ _ _ _ => readable) (fun _ => readable)
    (fun _ => readable) readable)

theorem openDurableRoot_readable : LeavesReadable openDurableRoot disk := by
  have cleans : LeavesReadable (onState cleanupOwnedStaging) disk :=
    Meets.inside ⟨fun _ _ => readable, fun _ _ => readable, fun _ _ => readable⟩
  refine meets_bind cleans fun _ _ readable => ?_
  refine meets_effect_bind readable ?_
  refine meets_effect_bind readable ?_
  exact prepareControl_readable readable

theorem recoverDistributionActive_proper :
    FindsReadable (policy.recoverDistributionActive state) disk Proper := by
  refine meets_look_bind ?_
  refine meets_lift_bind (fun _ _ => ?_) fun _ _ => readable
  refine meets_lift_bind (fun decision loaded => ?_) fun _ _ => readable
  have proper := (loadGenerationChain_verified loaded).1.proper
  split
  · exact meets_refuse readable
  refine meets_bind (persistDecision_readable readable decision true) fun _ _ kept => ?_
  exact meets_pure ⟨proper, kept⟩

theorem followJournal_proper (proper : ∀ decision, current = some decision → Proper decision) :
    FindsReadable (policy.followJournal current state) disk fun found =>
      ∀ decision, found = some decision → Proper decision := by
  unfold EpochPolicy.followJournal
  split
  · refine meets_bind (recoverDistributionActive_proper readable) ?_
    rintro decision after ⟨recovered, kept⟩
    refine meets_pure ⟨?_, kept⟩
    rintro _ ⟨⟩
    exact recovered
  · exact meets_pure ⟨proper, readable⟩

theorem loadDistributionState_good (proper : ∀ decision, current = some decision → Proper decision) :
    FindsReadable (policy.loadDistributionState current) disk fun found =>
      (∀ decision, found.1 = some decision → Proper decision) ∧ Good found.2 := by
  refine meets_look_bind ?_
  refine meets_lift_bind (fun control loaded => ?_) fun _ _ => readable
  cases control with
  | none =>
    refine meets_pure ⟨⟨proper, ?_⟩, readable⟩
    cases current with
    | none => exact good_zero
    | some active => exact good_zero.congr rfl rfl rfl rfl (Int64.le_refl _)
  | some found =>
    obtain ⟨name, raw⟩ := found
    obtain ⟨written, good, rfl⟩ := readable name raw (loadControl_found loaded)
    dsimp only
    split
    · exact meets_refuse readable
    next state decoded =>
    obtain rfl := decode_encode decoded
    split
    · exact meets_refuse readable
    refine meets_bind (followJournal_proper readable proper) ?_
    rintro recovered after ⟨proper, readable⟩
    split
    · exact meets_refuse readable
    · exact meets_pure ⟨⟨proper, good⟩, readable⟩

variable {plan : SourcePlan}

/-- Opening finds a sound owner. -/
theorem loadOwner_sound :
    FindsReadable (policy.loadOwner plan now) disk fun owner => Sound owner ∧ owner.wave = none := by
  refine meets_bind (openDurableRoot_readable readable) fun _ opened readable => ?_
  refine meets_look_bind ?_
  refine meets_lift_bind (fun current loaded => ?_) fun _ _ => readable
  refine meets_bind (loadDistributionState_good readable (loadCurrent_proper loaded)) ?_
  rintro ⟨current, distribution⟩ after ⟨⟨proper, good⟩, readable⟩
  exact meets_pure ⟨⟨⟨good, proper, nofun, fun _ waves => by cases waves⟩, rfl⟩, readable⟩

theorem openState_sound : FindsReadable (policy.openState plan now) disk Sound := by
  refine meets_bind (loadOwner_sound readable) ?_
  rintro owner loaded ⟨⟨sound, quiet⟩, readable⟩
  refine meets_look_bind ?_
  refine meets_lift_bind (fun transition recovered => ?_) fun _ _ => readable
  have kept := recoverPendingState_kept sound quiet recovered
  refine meets_bind (write_readable readable kept.handed) fun _ _ readable => ?_
  exact meets_pure ⟨kept.after, readable⟩

theorem openHands_good : ∀ state, policy.openHands plan now disk = some state → Good state := by
  intro state hands
  unfold EpochPolicy.openHands at hands
  dsimp only at hands
  split at hands
  · cases hands
  next owner loaded =>
  obtain ⟨⟨sound, quiet⟩, -⟩ := (loadOwner_sound readable).ok owner loaded
  split at hands
  · cases hands
  next transition recovered => exact (recoverPendingState_kept sound quiet recovered).handed state hands

end Reading

end Journal

/-! ## Histories -/

/-- The condition on an event. -/
def Root.careful (policy : EpochPolicy) (root : Root) : RootEvent → Bool
  | .call call _ => root.process.all fun owner => (owner.transition policy call).isNone || owner.careful call
  | _ => true

/-- What every careful history keeps. -/
structure Root.Decodable (root : Root) : Prop where
  journal : Readable root.disk.control
  process : ∀ owner, root.process = some owner → Sound owner
  handed : ∀ state ∈ root.handed, Good state

namespace Root.Decodable

variable {root root' : Root} {policy : EpochPolicy}

theorem new : Root.Decodable Root.new :=
  ⟨fun _ _ found => (by cases found), fun _ runs => (by cases runs), fun _ among => by cases among⟩

variable {handed : Option DistributionState}

theorem hand (decodable : root.Decodable) (good : ∀ state, handed = some state → Good state) :
    ∀ state ∈ handed.toList ++ root.handed, Good state := by
  intro state among
  rcases List.mem_append.1 among with last | earlier
  · exact good state (Option.mem_toList.1 last)
  · exact decodable.handed state earlier

variable {disk : Disk}

theorem stopped (decodable : root.Decodable) (readable : Readable disk.control)
    (good : ∀ state, handed = some state → Good state) : (root.stopped disk handed).Decodable :=
  ⟨readable, fun _ runs => (by cases runs), decodable.hand good⟩

theorem running (decodable : root.Decodable)
    (readable : Readable disk.control) (sound : Sound owner)
    (good : ∀ state, handed = some state → Good state) : (root.running disk owner handed).Decodable := by
  refine ⟨readable, ?_, decodable.hand good⟩
  rintro _ ⟨⟩
  exact sound

theorem step (decodable : root.Decodable) {event : RootEvent} (careful : root.careful policy event = true)
    (stepped : root.step policy event = some root') : root'.Decodable := by
  cases event with
  | stop =>
    obtain ⟨-, rfl⟩ := Root.step_stop stepped
    exact ⟨decodable.journal, fun _ runs => (by cases runs), decodable.handed⟩
  | opened plan now effects =>
    have opens : Meets (policy.openState plan now) root.disk _ _ _ :=
      openState_sound decodable.journal
    have hands : ∀ state, policy.openHands plan now root.disk = some state → Good state :=
      openHands_good decodable.journal
    obtain ⟨-, ⟨disk, among, rfl⟩ | ⟨owner, opened, rfl⟩ | ⟨refusal, refused, rfl⟩⟩ :=
      Root.step_opened stepped
    · exact decodable.stopped (opens.stops decodable.journal disk among) hands
    · exact decodable.running (opens.ok owner opened).2 (opens.ok owner opened).1 hands
    · exact decodable.stopped (opens.error refusal refused) hands
  | call call effects =>
    obtain ⟨owner, runs, ⟨-, rfl⟩ | ⟨transition, goes, happens⟩⟩ := Root.step_call stepped
    · exact decodable
    rw [Root.careful, runs, Option.all_some, goes, Option.isNone_some, Bool.false_or] at careful
    have kept := transition_kept (decodable.process owner runs) careful goes
    have writes : Meets (policy.write transition.request) root.disk _ _ _ :=
      write_readable decodable.journal kept.handed
    obtain ⟨-, disk, among, rfl⟩ | ⟨-, written, rfl⟩ | ⟨-, refusal, refused, rfl⟩ := happens
    · exact decodable.stopped (writes.stops decodable.journal disk among) kept.handed
    · exact decodable.running (writes.ok () written) kept.after kept.handed
    · exact decodable.running (writes.error refusal refused) kept.failed kept.handed

end Root.Decodable

/-- **What the owner commits can be read back**, in every history of careful operations,
and what is read back is written with the same bytes. -/
theorem distribution_decodable (policy : EpochPolicy) (events : List RootEvent)
    (careful : Along (Root.step policy) (fun root event => root.careful policy event = true) Root.new events) :
    Throughout (Root.step policy) (fun root => ∀ state ∈ root.handed,
        decodeDistributionState (encodeDistributionState state) = .ok state) Root.new events ∧
      ∀ raw state, decodeDistributionState raw = .ok state → encodeDistributionState state = raw := by
  refine ⟨Throughout.imp (fun root decodable state among => ?_)
    (Along.throughout (fun _ _ _ decodable careful stepped => decodable.step careful stepped)
      Root.Decodable.new careful), fun raw state => encode_of_decode⟩
  exact decodeDistributionState_eq_ok.2 ⟨rfl, (decodable.handed state among).valid⟩

/-! ## Sources that change -/

/-- Epochs of one number and one variant; each follows variant zero of the number before. -/
def plainEpoch (number variant : UInt8) : EpochEnvelope where
  digest := Block.copy 32 [number, variant]
  number := number.toUInt64
  previous := if number = 1 then Digest.zero else Block.copy 32 [number - 1, 0]
  validFrom := 100 * number.toUInt64.toInt64
  validUntil := 100 * number.toUInt64.toInt64 + 1000
  cutoff := 0

def plainParse : List UInt8 → Option EpochEnvelope
  | [number, variant] => if number = 0 then none else some (plainEpoch number variant)
  | _ => none

theorem plainParse_eq_some {epoch : EpochEnvelope} (parsed : plainParse raw = some epoch) :
    ∃ number variant, raw = [number, variant] ∧ number ≠ 0 ∧ epoch = plainEpoch number variant := by
  unfold plainParse at parsed
  split at parsed
  · next number variant =>
    split at parsed
    · cases parsed
    next positive =>
    cases parsed
    exact ⟨number, variant, rfl, positive, rfl⟩
  · cases parsed

theorem plainWindow (number : UInt8) :
    100 * number.toUInt64.toInt64 < 100 * number.toUInt64.toInt64 + 1000 := by
  have every : ∀ value : Fin 256, 100 * (UInt8.ofFin value).toUInt64.toInt64 <
      100 * (UInt8.ofFin value).toUInt64.toInt64 + 1000 := by decide +kernel
  exact every number.toFin

def plainPolicy : EpochPolicy where
  parse := plainParse
  genuine _ inputs := inputs.isEmpty
  proves _ _ _ := true
  distributionDigest raw := Block.copy 32 (raw.drop distributionMagic.length)
  number_ne parsed := by
    obtain ⟨number, variant, -, positive, rfl⟩ := plainParse_eq_some parsed
    intro zero
    exact positive (UInt8.toUInt64_inj.1 (zero.trans rfl))
  window parsed := by
    obtain ⟨number, variant, -, -, rfl⟩ := plainParse_eq_some parsed
    exact plainWindow number
  digest_ne parsed := by
    obtain ⟨number, variant, -, positive, rfl⟩ := plainParse_eq_some parsed
    intro zero
    exact positive (List.head_eq_of_cons_eq (congrArg Block.bytes zero))
  framed parsed := by
    obtain ⟨number, variant, rfl, -, -⟩ := plainParse_eq_some parsed
    exact ⟨nofun, by simp [maximumEpochBytes]⟩
  bounded genuine := by
    rw [List.isEmpty_iff.1 genuine]
    exact ⟨by decide, nofun⟩

/-- A plan with two sources. -/
def plainPlan (first second : UInt8) : SourcePlan where
  configured := true
  exposures := ![Block.copy 32 [first], Block.copy 32 [second]]
  orderSeed := Block.copy 32 [2]
  collides _ := false
  requested _ := true

def instant (seconds : Int64) : Time := Time.ofSeconds seconds

def reading (seconds : Int64) : Reading := ⟨instant seconds, instant seconds, instant seconds⟩

/-- A wave whose two sources do not answer. -/
def failedWave (seconds : Int64) : List RootEvent :=
  [.call (.refresh (reading seconds) true Digest.zero) none,
    .call .beginLatest none, .call .beginLatest none,
    .call (.latest 0 (.refused Digest.zero) .unavailable (instant seconds)) none,
    .call (.latest 1 (.refused Digest.zero) .timeout (instant seconds)) none,
    .call (.complete (reading seconds) true) none]

/-- The same two sources in two processes. -/
def sameSources : List RootEvent :=
  [.opened (plainPlan 1 2) (instant 100) none] ++ failedWave 100 ++ [.stop] ++
    [.opened (plainPlan 1 2) (instant 5000) none] ++ failedWave 5000

/-- The second process has another first source. -/
def otherSource : List RootEvent :=
  [.opened (plainPlan 1 2) (instant 100) none] ++ failedWave 100 ++ [.stop] ++
    [.opened (plainPlan 3 2) (instant 5000) none] ++ (failedWave 5000).take 2

theorem sameSources_decodable :
    ((run (Root.step plainPolicy) Root.new sameSources).map fun root =>
        root.handed.map fun state => state.history.length) = some [2, 2, 2, 2, 2, 2, 1, 0] ∧
      Throughout (Root.step plainPolicy) (fun root => ∀ state ∈ root.handed,
        decodeDistributionState (encodeDistributionState state) = .ok state) Root.new sameSources :=
  ⟨by decide +kernel, (distribution_decodable plainPolicy sameSources (by decide +kernel)).1⟩

/-- A cycle that starts at time zero. -/
def zeroClock : List RootEvent :=
  [.opened (plainPlan 1 2) (instant 0) none, .call (.refresh (reading 0) true Digest.zero) none]

/-- How the newest state that a history commits is not decoded. -/
def newestRefusal (events : List RootEvent) : Option DistributionError :=
  (run (Root.step plainPolicy) Root.new events).bind fun root => root.handed.head?.bind fun state =>
    match decodeDistributionState (encodeDistributionState state) with
    | .error refusal => some refusal
    | .ok _ => none

/-- A source that was not there before makes three exposures: the state is committed, is
not decoded, and the root does not open any more.  A cycle that starts at time zero is
active without a start. -/
theorem otherSource_exceeds_history :
    newestRefusal otherSource = some .historyCount ∧
      ((run (Root.step plainPolicy) Root.new otherSource).map fun root =>
        match (plainPolicy.openState (plainPlan 1 2) (instant 5000)).result root.disk with
        | .error refusal => some refusal
        | .ok _ => none) = some (some .distributionInvalid) ∧
      newestRefusal zeroClock = some .cycleMetadata :=
  ⟨by decide +kernel, by decide +kernel, by decide +kernel⟩

end Ardents.State
