/-
# State.Owner — acceptance, waves of source requests and recovery

`offline_accept.go`, `refresh.go`, `attempts.go`, `selection.go`, `selection_commit.go`,
`outcomes.go`, `control_state.go`, `pending.go` and `open.go`.  An operation of the owner
computes what it commits and what the owner remembers afterwards (`Transition`); at most
one decision and one distribution state are committed by one operation, and `perform`
writes them.  A wave is the part of `Refresh` between its two locked sections: the
requests to the two sources run on their own, and a `Fetch` says how far one is.

The answers of the sources, the readings of the clocks, the random seed and whether the
local role store takes the exposures come with the events.  What goes wrong with an
answer is classified by its message in the source; here its class comes with the answer.
A process stops after any effect, or between two operations.

`handed` and `active` are not in the source: they record the distribution states that
were given to `commitControl` and the Epochs that were active.
-/
import Ardents.Lib.Runs
import Ardents.State.Distribution
import Ardents.State.Storage

namespace Ardents.State

open Lib

set_option autoImplicit false

/-! ## Clocks -/

structure Reading where
  clock : Time
  /-- The wall time at opening plus what the monotonic clock says has passed. -/
  monotonic : Time
  observation : Time
  deriving DecidableEq

def Reading.now (reading : Reading) : Time :=
  if reading.monotonic.after reading.clock then reading.monotonic else reading.clock

def trustedNow (reading : Reading) (state : DistributionState) : Option Time :=
  if reading.observation.isZero ||
      decide (2 * Time.second < ((reading.now.sub reading.observation).natAbs : Int)) then none
  else if reading.now.unixSeconds + 2 < state.trustedTimeFloor then none
  else if reading.now.unixSeconds < state.trustedTimeFloor then
    some (Time.ofSeconds state.trustedTimeFloor)
  else some reading.now

/-! ## Outcomes -/

def sourceOutcomeValid : UInt8 := 1
def sourceOutcomeInterrupted : UInt8 := 9

inductive SourceFailure where
  | unavailable
  | authentication
  | timeout
  | framing
  | resource
  | canceled
  | invalidState
  | notFound
  | busy
  | badRequest
  | internal
  deriving DecidableEq, Repr

def SourceFailure.outcome : SourceFailure → UInt8
  | .unavailable => 2
  | .authentication => 3
  | .timeout => 4
  | .framing => 5
  | .resource => 6
  | .canceled => 7
  | .invalidState => 8
  | .notFound => 10
  | .busy => 11
  | .badRequest => 12
  | .internal => 13

def backoffBase (level : UInt64) : Int64 :=
  if level = 0 then 60 else if level = 1 then 120 else if level = 2 then 240
  else if level = 3 then 480 else if level = 4 then 960 else 1800

def applyFailureBackoff (state : DistributionState) (now : Time) (seed : Digest) : DistributionState :=
  let failures := if state.consecutiveFailures < 9223372036854775807 then state.consecutiveFailures + 1
    else state.consecutiveFailures
  let level := if failures - 1 > 5 then 5 else failures - 1
  let base := backoffBase level
  { state with
    consecutiveFailures := failures
    backoffLevel := level.toUInt8
    nextAutomatic := now.unixSeconds + base / 2 +
      (seed.bytes.getD 1 0).toUInt64.toInt64 * (base / 2 + 1) / 256 }

/-- What becomes of an attempt when its wave ends with `outcome`. -/
def finishedAttempt (status outcome : UInt8) : UInt8 :=
  if outcome = sourceOutcomeValid then 2
  else if outcome ≠ 0 then 3
  else if status = 1 then 3
  else status

def finishWaveState (state : DistributionState) (now : Time) (outcomes : Fin 4 → UInt8) :
    DistributionState :=
  let finished := { state with
    sequence := state.sequence + 1
    cycleActive := false
    outcomes
    attempts := fun slot => finishedAttempt (state.attempts slot) (outcomes slot) }
  if ∃ slot, outcomes slot ≠ 0 ∧ outcomes slot ≠ sourceOutcomeValid then
    applyFailureBackoff finished now state.cycleSeed
  else { finished with consecutiveFailures := 0, backoffLevel := 0, nextAutomatic := 0 }

/-! ## The owner -/

/-- What the source plan of a process says. -/
structure SourcePlan where
  configured : Bool
  exposures : Fin 2 → Digest
  orderSeed : Digest
  /-- `sourceCollides`. -/
  collides : Decision → Bool
  /-- One materialization, of the requested index. -/
  requested : List (List UInt8) → Bool

structure SourceResult where
  slot : Fin 4
  observations : Fin 4 → UInt8
  /-- The decision, or whether the source collides with it. -/
  answer : Except Bool Decision

inductive Fetch where
  | waiting
  | latest
  | byDigest (requested : Digest) (observations : Fin 4 → UInt8)
  | answered
  deriving DecidableEq

structure Wave where
  started : Time
  base : Option Decision
  /-- The sources that were not begun yet. -/
  remaining : List (Fin 2)
  fetches : Fin 2 → Fetch
  results : List SourceResult

structure NetworkState where
  plan : SourcePlan
  /-- `config.now`, the clock at opening. -/
  now : Time
  current : Option Decision
  pending : Option Decision
  distribution : DistributionState
  wave : Option Wave

/-- What an operation commits. -/
inductive Request where
  | nothing
  /-- `commitDistribution`. -/
  | control (state : DistributionState)
  /-- `commitActiveDecision`. -/
  | active (decision : Decision) (state : DistributionState)
  /-- `stageGeneration` and `commitDistribution`. -/
  | staged (decision : Decision) (state : DistributionState)

structure Transition where
  request : Request
  after : NetworkState
  /-- The owner when the commit is refused. -/
  failed : NetworkState
  /-- What the operation answers with when the commit is done. -/
  answer : Option StateError

/-- The owner goes on as `failed` when the commit is refused. -/
def Transition.orElse (transition : Transition) (failed : NetworkState) : Transition :=
  { transition with failed }

/-- The distribution state that goes with a decision that becomes active. -/
def activated (state : DistributionState) (decision : Decision) : DistributionState :=
  { state with
    epochFloor := decision.epoch.number
    epochDigest := decision.epoch.digest
    pendingDigest := if state.pendingDigest = decision.epoch.digest then Digest.zero
      else state.pendingDigest
    pendingValidFrom := if state.pendingDigest = decision.epoch.digest then 0
      else state.pendingValidFrom }

/-- The pending decision, unless it is the one that becomes active. -/
def stillPending (pending : Option Decision) (decision : Decision) : Option Decision :=
  match pending with
  | some waiting => if waiting.epoch.digest = decision.epoch.digest then none else some waiting
  | none => none

namespace NetworkState

variable (owner : NetworkState)

/-- Nothing is committed. -/
def keep (after : NetworkState) (answer : Option StateError) : Transition :=
  ⟨.nothing, after, owner, answer⟩

/-- `commitDistribution`, after which the owner goes on as `after`. -/
def commitDistribution (state : DistributionState) (after : NetworkState) (answer : Option StateError) :
    Transition :=
  ⟨.control state, { after with distribution := state }, owner, answer⟩

def commitActiveDecision (decision : Decision) (state : DistributionState) (after : NetworkState) :
    Transition :=
  ⟨.active decision state, { after with
    distribution := activated state decision
    current := some decision
    pending := stillPending owner.pending decision }, owner, none⟩

def allowCandidateTransition (candidate : Decision) : Except StateError Unit :=
  if owner.distribution.conflicting then .error .persistentConflict
  else
    match owner.pending with
    | some waiting =>
      if candidate.epoch.number = waiting.epoch.number ∧ candidate.epoch.digest ≠ waiting.epoch.digest
      then .error .pendingConflict else .ok ()
    | none => .ok ()

/-- The state with which an acceptance goes on. -/
def observed (clock : Time) : DistributionState :=
  { owner.distribution with
    sequence := owner.distribution.sequence + 1
    trustedTimeFloor := max owner.distribution.trustedTimeFloor clock.unixSeconds }

/-- `Accept`. -/
def accept (policy : EpochPolicy) (raw : List UInt8) (inputs materials : List (List UInt8)) (clock : Time) :
    Except StateError Transition := do
  if owner.wave.isSome then .error .refreshOwns
  else if owner.distribution.conflicting then .error .persistentConflict
  else
    let decision ← policy.verifyDecision owner.now (owner.current.map Decision.epoch) raw inputs
      (some materials)
    match owner.allowCandidateTransition decision with
    | .error .pendingConflict =>
      .ok (owner.commitDistribution { owner.observed clock with conflicting := true } owner
        (some .pendingConflict))
    | .error refusal => .error refusal
    | .ok () => .ok (owner.commitActiveDecision decision (owner.observed clock) owner)

/-! ## The start of a wave -/

/-- Which source a byte of the order stands for. -/
def sourceIndex (place : UInt8) : Fin 2 := if place = 0 then 0 else 1

/-- The wave begins when the exposures are retained. -/
def launch (now : Time) (state : DistributionState) (retained : Bool) : NetworkState :=
  if retained then
    { owner with
      distribution := state
      wave := some {
        started := now
        base := owner.current
        remaining := [sourceIndex (state.sourceOrder 0), sourceIndex (state.sourceOrder 1)]
        fetches := fun _ => .waiting
        results := [] } }
  else { owner with distribution := state }

/-- An attempt that was under way when its wave was interrupted. -/
def interruptedAttempts (state : DistributionState) (slots : Fin 4 → Bool) : DistributionState :=
  { state with
    attempts := fun slot => if slots slot && decide (state.attempts slot = 1) then 3 else state.attempts slot
    outcomes := fun slot => if slots slot && decide (state.attempts slot = 1) then sourceOutcomeInterrupted
      else state.outcomes slot }

/-- A new cycle. -/
def newCycle (state : DistributionState) (now : Time) (seed : Digest) : DistributionState :=
  { state with
    sequence := state.sequence + 1
    trustedTimeFloor := max state.trustedTimeFloor now.unixSeconds
    cycleID := state.cycleID + 1
    cycleActive := true
    cyclePurpose := 1
    cycleStarted := now.unixSeconds
    cycleDeadline := (now.addSeconds 15).unixSeconds
    attempts := fun _ => 0
    outcomes := fun _ => 0
    requestedDigests := fun _ => Digest.zero
    observedEpochs := fun _ => 0
    observedDigests := fun _ => Digest.zero
    cycleSeed := seed
    sourceOrder := if (seed.bytes.getD 0 0) &&& 1 = 1 then ![1, 0] else ![0, 1] }

def startSourceWave (now : Time) (retained : Bool) (drawn : Digest) : Transition :=
  let state := owner.distribution
  if state.cycleActive then
    if now.unixSeconds ≥ state.cycleDeadline then
      let ended := { interruptedAttempts state (fun _ => true) with
        cycleActive := false
        sequence := state.sequence + 1 }
      owner.commitDistribution (applyFailureBackoff ended now state.cycleSeed) owner
        (some .refreshUnavailable)
    else if state.attempts 2 = 1 ∨ state.attempts 3 = 1 then
      let resumed := { interruptedAttempts state (fun slot => decide (2 ≤ slot)) with
        sequence := state.sequence + 1 }
      owner.commitDistribution resumed (owner.launch now resumed retained)
        (if retained then none else some .exposureRefused)
    else
      owner.keep (owner.launch now state retained) (if retained then none else some .exposureRefused)
  else
    let seed := if owner.plan.orderSeed = Digest.zero then drawn else owner.plan.orderSeed
    let started := newCycle state now seed
    owner.commitDistribution started (owner.launch now started retained)
      (if retained then none else some .exposureRefused)

/-- The first locked section of `Refresh`. -/
def refresh (reading : Reading) (retained : Bool) (drawn : Digest) : Except StateError Transition :=
  if owner.wave.isSome then .error .refreshActive
  else if !owner.plan.configured then .error .planMissing
  else if owner.distribution.conflicting then .error .sourceConflict
  else
    match trustedNow reading owner.distribution with
    | none => .error .clockUncertain
    | some now =>
      if owner.distribution.nextAutomatic > now.unixSeconds then .error .refreshUnavailable
      else if owner.current.any owner.plan.collides || owner.pending.any owner.plan.collides then
        .error .sourceCollision
      else .ok (owner.startSourceWave now retained drawn)

/-! ## The requests of a wave -/

/-- A source gave its result. -/
def answered (wave : Wave) (source : Fin 2) (result : SourceResult) : NetworkState :=
  { owner with wave := some { wave with
      fetches := Function.update wave.fetches source .answered
      results := wave.results ++ [result] } }

/-- A request to a source is under way. -/
def fetching (wave : Wave) (source : Fin 2) (fetch : Fetch) : NetworkState :=
  { owner with wave := some { wave with fetches := Function.update wave.fetches source fetch } }

def failedSourceResult (slot : Fin 4) (observations : Fin 4 → UInt8) (failure : SourceFailure) :
    SourceResult :=
  ⟨slot, Function.update observations slot failure.outcome, .error false⟩

/-- The slot of the LATEST request to a source. -/
def latestSlot (source : Fin 2) : Fin 4 := ⟨source, by omega⟩

def remembered (history : List Digest) (exposure : Digest) : List Digest :=
  if exposure ∈ history then history else history ++ [exposure]

/-- The result of a LATEST request that is not repeated. -/
def notRepeated (slot : Fin 4) (outcome : UInt8) : SourceResult :=
  ⟨0, Function.update (fun _ => 0) slot outcome, .error false⟩

/-- A LATEST attempt that was under way is not repeated. -/
def latestInterrupted (state : DistributionState) (source : Fin 2) : DistributionState :=
  { state with
    sequence := state.sequence + 1
    attempts := Function.update state.attempts (latestSlot source) 3
    outcomes := Function.update state.outcomes (latestSlot source) sourceOutcomeInterrupted }

/-- A LATEST attempt begins. -/
def latestStarted (state : DistributionState) (source : Fin 2) (exposure : Digest) : DistributionState :=
  { state with
    sequence := state.sequence + 1
    attempts := Function.update state.attempts (latestSlot source) 1
    history := remembered state.history exposure }

/-- A BY_DIGEST attempt begins. -/
def digestStarted (state : DistributionState) (source : Fin 2) (object exposure : Digest) :
    DistributionState :=
  { state with
    sequence := state.sequence + 1
    attempts := Function.update state.attempts (digestSlot source) 1
    requestedDigests := Function.update state.requestedDigests source object
    history := remembered state.history exposure }

/-- A BY_DIGEST attempt ends. -/
def digestFinished (state : DistributionState) (source : Fin 2) (status : UInt8) : DistributionState :=
  { state with
    sequence := state.sequence + 1
    attempts := Function.update state.attempts (digestSlot source) status }

/-- `beginLatestAttempt` for the next source of the wave. -/
def beginLatestAttempt : Option Transition :=
  match owner.wave with
  | none => none
  | some wave =>
    match wave.remaining with
    | [] => none
    | source :: rest =>
      let state := owner.distribution
      let begun := { wave with remaining := rest }
      let failed := owner.answered begun source
        (failedSourceResult (latestSlot source) (fun _ => 0) .invalidState)
      if !state.cycleActive then some (owner.keep failed (some .attemptOutside))
      else if state.attempts (latestSlot source) = 1 then
        some ((owner.commitDistribution (latestInterrupted state source) (owner.answered begun source
          (notRepeated (latestSlot source) sourceOutcomeInterrupted)) none).orElse failed)
      else if state.attempts (latestSlot source) ≠ 0 then
        some (owner.keep (owner.answered begun source
          (notRepeated (latestSlot source) (state.outcomes (latestSlot source)))) none)
      else
        some ((owner.commitDistribution (latestStarted state source (owner.plan.exposures source))
          (owner.fetching begun source .latest) none).orElse failed)

structure SourceBundle where
  epoch : List UInt8
  inputs : List (List UInt8)
  materials : List (List UInt8)
  deriving DecidableEq

inductive Answer where
  /-- An error, with the object digest of the response. -/
  | refused (object : Digest)
  /-- A response; `none` is a payload that is no bundle. -/
  | given (object : Digest) (bundle : Option SourceBundle)
  deriving DecidableEq

/-- A known decision, for the same bytes and materializations that are proven for them. -/
def repeated (policy : EpochPolicy) (bundle : SourceBundle) (known : Decision) : Option Decision :=
  if bundle.epoch = known.epochBytes ∧ bundle.inputs = known.inputs ∧
      policy.proves known.epochBytes known.inputs bundle.materials then some known
  else none

/-- Whether a known decision is about the Epoch. -/
def isAbout (parsed : EpochEnvelope) (known : Decision) : Bool :=
  decide (parsed.number = known.epoch.number) && decide (parsed.digest = known.epoch.digest)

/-- The time at which a bundle is verified: not before its Epoch is valid. -/
def bundleTime (parsed : EpochEnvelope) (clock : Time) : Time :=
  if clock.before (Time.ofSeconds parsed.validFrom) then Time.ofSeconds parsed.validFrom else clock

/-- `verifySourceBundle`. -/
def verifySourceBundle (policy : EpochPolicy) (base : Option Decision) (bundle : SourceBundle)
    (clock : Time) : Option Decision :=
  if !owner.plan.requested bundle.materials then none
  else
    match policy.parse bundle.epoch with
    | none => none
    | some parsed =>
      let now := bundleTime parsed clock
      match base.filter (isAbout parsed), owner.pending.filter (isAbout parsed) with
      | some known, _ => repeated policy bundle known
      | none, some waiting =>
        if now.before (Time.ofSeconds waiting.epoch.validUntil) then repeated policy bundle waiting
        else none
      | none, none => (policy.verifyDecision now (base.map Decision.epoch) bundle.epoch bundle.inputs
          (some bundle.materials)).toOption

/-- What `fetchAndVerify` makes of a response. -/
def verifyResponse (policy : EpochPolicy) (wave : Wave) (slot : Fin 4) (observations : Fin 4 → UInt8)
    (object : Digest) (bundle : Option SourceBundle) (failure : SourceFailure) (clock : Time) :
    SourceResult :=
  match bundle.bind fun given => owner.verifySourceBundle policy wave.base given clock with
  | none => failedSourceResult slot observations failure
  | some decision =>
    if owner.plan.collides decision then
      { failedSourceResult slot observations .invalidState with answer := .error true }
    else if object ≠ decision.epoch.digest then failedSourceResult slot observations .framing
    else ⟨slot, Function.update observations slot sourceOutcomeValid, .ok decision⟩

/-- The LATEST request of a source is answered; after an error with an object digest the
other source is asked for that object (`beginDigestAttempt`). -/
def latestAnswered (policy : EpochPolicy) (source : Fin 2) (answer : Answer) (failure : SourceFailure)
    (clock : Time) : Option Transition :=
  match owner.wave with
  | none => none
  | some wave =>
    if wave.fetches source ≠ .latest then none
    else
      match answer with
      | .given object bundle =>
        some (owner.keep (owner.answered wave source
          (owner.verifyResponse policy wave (latestSlot source) (fun _ => 0) object bundle failure
            clock)) none)
      | .refused object =>
        let observations := Function.update (fun _ => (0 : UInt8)) (latestSlot source) failure.outcome
        if object = Digest.zero then
          some (owner.keep (owner.answered wave source
            (failedSourceResult (latestSlot source) (fun _ => 0) failure)) none)
        else
          let fallback := 1 - source
          let state := owner.distribution
          let failed := owner.answered wave source
            (failedSourceResult (latestSlot source) observations .framing)
          if !state.cycleActive || decide (state.attempts (digestSlot fallback) ≠ 0) then
            some (owner.keep failed (some .digestUnavailable))
          else
            some ((owner.commitDistribution
              (digestStarted state fallback object (owner.plan.exposures fallback))
              (owner.fetching wave source (.byDigest object observations)) none).orElse failed)

/-- The BY_DIGEST request of a source is answered (`finishDigestAttempt`). -/
def digestAnswered (policy : EpochPolicy) (source : Fin 2) (answer : Answer) (failure : SourceFailure)
    (clock : Time) : Option Transition :=
  match owner.wave with
  | none => none
  | some wave =>
    match wave.fetches source with
    | .byDigest requested observations =>
      let fallback := 1 - source
      let slot := digestSlot fallback
      let state := owner.distribution
      let failed := owner.answered wave source (failedSourceResult slot observations .framing)
      if !state.cycleActive || decide (state.attempts slot ≠ 1) then
        some (owner.keep failed (some .digestNotStarted))
      else
        match answer with
        | .refused _ =>
          some ((owner.commitDistribution (digestFinished state fallback 3) (owner.answered wave source
            (failedSourceResult slot observations failure)) none).orElse failed)
        | .given object bundle =>
          let result := if object ≠ requested then failedSourceResult slot observations .framing
            else owner.verifyResponse policy wave slot observations object bundle failure clock
          some ((owner.commitDistribution (digestFinished state fallback 2)
            (owner.answered wave source result) none).orElse failed)
    | _ => none

/-! ## The end of a wave -/

/-- `summarizeSourceWave`: the outcomes, in the order of the results. -/
def waveOutcomes (results : List SourceResult) : Fin 4 → UInt8 :=
  results.foldl (fun outcomes result slot =>
    if result.observations slot ≠ 0 then result.observations slot else outcomes slot) fun _ => 0

def waveCollides (results : List SourceResult) : Bool :=
  results.any fun result => match result.answer with
    | .error collision => collision
    | .ok _ => false

def waveValid (results : List SourceResult) : List Decision :=
  results.filterMap fun result => result.answer.toOption

def observedEpochs (results : List SourceResult) : Fin 4 → UInt64 :=
  results.foldl (fun epochs result => match result.answer with
    | .ok decision => Function.update epochs result.slot decision.epoch.number
    | .error _ => epochs) fun _ => 0

def observedDigests (results : List SourceResult) : Fin 4 → Digest :=
  results.foldl (fun digests result => match result.answer with
    | .ok decision => Function.update digests result.slot decision.epoch.digest
    | .error _ => digests) fun _ => Digest.zero

/-- Two of the decisions have one number and two digests. -/
def sourceConflict (valid : List Decision) : Bool :=
  valid.any fun first => valid.any fun second =>
    decide (first.epoch.number = second.epoch.number) && decide (first.epoch.digest ≠ second.epoch.digest)

/-- The newest decision, the first one of them. -/
def newestSourceDecision : List Decision → Option Decision
  | [] => none
  | first :: rest => some (rest.foldl (fun selected candidate =>
    if candidate.epoch.number > selected.epoch.number then candidate else selected) first)

/-- The distribution state at the end of a wave. -/
def finished (wave : Wave) (now : Time) : DistributionState :=
  finishWaveState { owner.distribution with
    observedEpochs := observedEpochs wave.results
    observedDigests := observedDigests wave.results } now (waveOutcomes wave.results)

def recordSourceConflict (wave : Wave) (refusal : StateError) : Transition :=
  (owner.commitDistribution { owner.finished wave wave.started with conflicting := true }
    { owner with wave := none } (some refusal)).orElse { owner with wave := none }

def commitSourceFailure (wave : Wave) (now : Time) : Transition :=
  (owner.commitDistribution (owner.finished wave now) { owner with wave := none }
    (some .refreshUnavailable)).orElse { owner with wave := none }

def commitPendingSourceWave (wave : Wave) (now : Time) (selected : Decision) (retained : Bool) :
    Transition :=
  let state := { owner.finished wave now with
    pendingDigest := selected.epoch.digest
    pendingValidFrom := selected.epoch.validFrom }
  let ended := { owner with wave := none }
  if !retained then owner.keep ended (some .exposureRefused)
  else if owner.pending.isNone then
    ⟨.staged selected state, { ended with distribution := state, pending := some selected }, ended, none⟩
  else (owner.commitDistribution state ended none).orElse ended

def commitActiveSourceWave (wave : Wave) (now : Time) (selected : Decision) (retained : Bool) :
    Transition :=
  let ended := { owner with wave := none }
  let base := owner.finished wave now
  let state := activated { base with
    trustedTimeFloor := max base.trustedTimeFloor now.unixSeconds } selected
  if !retained then owner.keep ended (some .exposureRefused)
  else if owner.current.all fun current => decide (selected.epoch.digest ≠ current.epoch.digest) then
    (owner.commitActiveDecision selected state ended).orElse ended
  else
    (owner.commitDistribution state { ended with pending := stillPending owner.pending selected }
      none).orElse ended

/-- `completeSourceWave`, when both sources have answered. -/
def completeSourceWave (reading : Reading) (retained : Bool) : Option Transition :=
  match owner.wave with
  | none => none
  | some wave =>
    if wave.remaining ≠ [] ∨ ∃ source, wave.fetches source ≠ .answered then none
    else
      let ended := { owner with wave := none }
      let valid := waveValid wave.results
      if owner.current.map (·.epoch.digest) ≠ wave.base.map (·.epoch.digest) then
        some (owner.keep ended (some .stateChanged))
      else if waveCollides wave.results then some (owner.recordSourceConflict wave .sourceCollision)
      else if sourceConflict valid then some (owner.recordSourceConflict wave .conflictingEpochs)
      else
        match newestSourceDecision valid with
        | none =>
          match trustedNow reading owner.distribution with
          | none => some (owner.keep ended (some .clockUncertain))
          | some now => some (owner.commitSourceFailure wave now)
        | some selected =>
          match owner.allowCandidateTransition selected with
          | .error refusal => some (owner.recordSourceConflict wave refusal)
          | .ok () =>
            match trustedNow reading owner.distribution with
            | none => some (owner.keep ended (some .clockUncertain))
            | some now =>
              if now.before (Time.ofSeconds selected.epoch.validFrom) then
                some (owner.commitPendingSourceWave wave now selected retained)
              else if !now.before (Time.ofSeconds selected.epoch.validUntil) then
                some (owner.commitSourceFailure wave now)
              else some (owner.commitActiveSourceWave wave now selected retained)

end NetworkState

/-! ## Commits -/

def persistDecision (decision : Decision) (activate : Bool) : Program Disk StateError Unit :=
  commitState decision.epoch.digest decision.stored activate

namespace EpochPolicy

variable (policy : EpochPolicy)

def commitDistribution (state : DistributionState) : Program Disk StateError Unit :=
  commitControl (policy.distributionDigest (encodeDistributionState state)) (encodeDistributionState state)

/-- The files of a commit. -/
def write : Request → Program Disk StateError Unit
  | .nothing => pure ()
  | .control state => policy.commitDistribution state
  | .active decision state => do
    persistDecision decision false
    policy.commitDistribution (activated state decision)
    persistDecision decision true
  | .staged decision state => do
    persistDecision decision false
    policy.commitDistribution state

end EpochPolicy

/-- The distribution state that a commit gives to `commitControl`. -/
def Request.handed : Request → Option DistributionState
  | .nothing => none
  | .control state => some state
  | .active decision state => some (activated state decision)
  | .staged _ state => some state

/-! ## Opening -/

namespace EpochPolicy

variable (policy : EpochPolicy)

def loadCurrent (tree : StateTree) : Except StateError (Option Decision) := do
  match ← loadState tree with
  | none => if tree.generations.size ≠ 0 then .error .currentMissing else .ok none
  | some name =>
    let decision ← policy.loadGenerationChain tree.generations 64 name
    if decision.epoch.digest ≠ name then .error .generationIdentity else .ok (some decision)

/-- `recoverDistributionActive`. -/
def recoverDistributionActive (state : DistributionState) : Program Disk StateError Decision := do
  let disk ← Program.look
  let _ ← Program.lift (loadState disk.state)
  let decision ← Program.lift (policy.loadGenerationChain disk.state.generations 64 state.epochDigest)
  if decision.epoch.number ≠ state.epochFloor ∨ decision.epoch.digest ≠ state.epochDigest then
    Program.refuse .distributionIdentity
  else do
    persistDecision decision true
    pure decision

/-- Whether the journal names an Epoch that the generations do not have as current. -/
def behind (current : Option Decision) (state : DistributionState) : Bool :=
  decide (state.epochFloor ≠ 0) &&
    match current with
    | none => true
    | some active => decide (state.epochFloor > active.epoch.number) ||
        (decide (state.epochFloor = active.epoch.number) &&
          decide (state.epochDigest ≠ active.epoch.digest))

/-- The active decision, after what the journal says is recovered. -/
def followJournal (current : Option Decision) (state : DistributionState) :
    Program Disk StateError (Option Decision) :=
  if behind current state then do
    let decision ← policy.recoverDistributionActive state
    pure (some decision)
  else pure current

/-- `loadDistributionState` up to the pending Epoch. -/
def loadDistributionState (current : Option Decision) :
    Program Disk StateError (Option Decision × DistributionState) := do
  let disk ← Program.look
  match ← Program.lift (loadControl disk.control) with
  | none =>
    pure (current, match current with
      | none => DistributionState.zero
      | some active => { DistributionState.zero with
          epochFloor := active.epoch.number
          epochDigest := active.epoch.digest })
  | some (name, raw) =>
    match decodeDistributionState raw with
    | .error _ => Program.refuse .distributionInvalid
    | .ok state =>
      if policy.distributionDigest raw ≠ name then Program.refuse .distributionInvalid
      else do
        let current ← policy.followJournal current state
        if current.any fun active => decide (state.epochFloor < active.epoch.number) then
          Program.refuse .distributionOlder
        else pure (current, state)

/-- `recoverPendingState`. -/
def recoverPendingState (tree : StateTree) (owner : NetworkState) : Except StateError Transition :=
  let state := owner.distribution
  if state.pendingDigest = Digest.zero then .ok (owner.keep owner none)
  else
    match owner.current with
    | none => .error .pendingWithoutActive
    | some active =>
      if state.pendingDigest = active.epoch.digest then
        .ok (owner.commitDistribution { state with
          pendingDigest := Digest.zero
          pendingValidFrom := 0
          sequence := state.sequence + 1 } owner none)
      else do
        let _ ← loadState tree
        match tree.generations.find state.pendingDigest with
        | none => .error .pendingMissing
        | some stored =>
          let decision ← policy.loadGeneration stored (some active.epoch)
          if decision.epoch.validFrom ≠ state.pendingValidFrom then .error .pendingTime
          else .ok (owner.keep { owner with pending := some decision } none)

/-- What opening finds before it looks for a pending Epoch. -/
def loadOwner (plan : SourcePlan) (now : Time) : Program Disk StateError NetworkState := do
  openDurableRoot
  let disk ← Program.look
  let current ← Program.lift (policy.loadCurrent disk.state)
  let (current, distribution) ← policy.loadDistributionState current
  pure { plan, now, current, pending := none, distribution, wave := none }

/-- `Open`. -/
def openState (plan : SourcePlan) (now : Time) : Program Disk StateError NetworkState := do
  let owner ← policy.loadOwner plan now
  let disk ← Program.look
  let transition ← Program.lift (policy.recoverPendingState disk.state owner)
  policy.write transition.request
  pure transition.after

/-- The distribution state that opening gives to `commitControl`. -/
def openHands (plan : SourcePlan) (now : Time) (disk : Disk) : Option DistributionState :=
  let loaded := policy.loadOwner plan now disk
  match loaded.answer with
  | .error _ => none
  | .ok owner =>
    match policy.recoverPendingState loaded.disk.state owner with
    | .error _ => none
    | .ok transition => transition.request.handed

end EpochPolicy

/-! ## Histories -/

inductive Call where
  | accept (raw : List UInt8) (inputs materials : List (List UInt8)) (clock : Time)
  | refresh (reading : Reading) (retained : Bool) (drawn : Digest)
  | beginLatest
  | latest (source : Fin 2) (answer : NetworkState.Answer) (failure : SourceFailure) (clock : Time)
  | byDigest (source : Fin 2) (answer : NetworkState.Answer) (failure : SourceFailure) (clock : Time)
  | complete (reading : Reading) (retained : Bool)

/-- What an operation does; `none` says that it is refused or not possible. -/
def NetworkState.transition (owner : NetworkState) (policy : EpochPolicy) : Call → Option Transition
  | .accept raw inputs materials clock => (owner.accept policy raw inputs materials clock).toOption
  | .refresh reading retained drawn => (owner.refresh reading retained drawn).toOption
  | .beginLatest => owner.beginLatestAttempt
  | .latest source answer failure clock => owner.latestAnswered policy source answer failure clock
  | .byDigest source answer failure clock => owner.digestAnswered policy source answer failure clock
  | .complete reading retained => owner.completeSourceWave reading retained

inductive RootEvent where
  /-- `stopped` is the number of effects after which the process stops. -/
  | opened (plan : SourcePlan) (now : Time) (stopped : Option Nat)
  | call (call : Call) (stopped : Option Nat)
  | stop

structure Root where
  disk : Disk
  process : Option NetworkState
  handed : List DistributionState
  /-- The Epochs that were active, the newest first. -/
  active : List EpochEnvelope

namespace Root

def new : Root := ⟨Disk.empty, none, [], []⟩

/-- The active Epoch, if it is another one than before. -/
def activate (active : List EpochEnvelope) (owner : NetworkState) : List EpochEnvelope :=
  match owner.current with
  | none => active
  | some decision => if active.head? = some decision.epoch then active else decision.epoch :: active

/-- The root with a running process. -/
def running (root : Root) (disk : Disk) (owner : NetworkState) (handed : Option DistributionState) :
    Root :=
  { disk, process := some owner, handed := handed.toList ++ root.handed
    active := activate root.active owner }

/-- The root after a stop. -/
def stopped (root : Root) (disk : Disk) (handed : Option DistributionState) : Root :=
  { root with disk, process := none, handed := handed.toList ++ root.handed }

def step (policy : EpochPolicy) (root : Root) : RootEvent → Option Root
  | .stop => if root.process.isSome then some { root with process := none } else none
  | .opened plan now stop =>
    let handed := policy.openHands plan now root.disk
    if root.process.isSome then none
    else
      match stop with
      | some effects =>
        ((policy.openState plan now).stops root.disk)[effects]?.map fun disk =>
          root.stopped disk handed
      | none =>
        match (policy.openState plan now).result root.disk with
        | .ok owner => some (root.running ((policy.openState plan now).final root.disk) owner handed)
        | .error _ => some (root.stopped ((policy.openState plan now).final root.disk) handed)
  | .call call stop =>
    match root.process with
    | none => none
    | some owner =>
      match owner.transition policy call with
      | none => some root
      | some transition =>
        let handed := transition.request.handed
        match stop with
        | some effects =>
          ((policy.write transition.request).stops root.disk)[effects]?.map fun disk =>
            root.stopped disk handed
        | none =>
          let disk := (policy.write transition.request).final root.disk
          match (policy.write transition.request).result root.disk with
          | .ok () => some (root.running disk transition.after handed)
          | .error _ => some (root.running disk transition.failed handed)

/-! ## What a step does -/

variable {policy : EpochPolicy} {root root' : Root}

theorem step_stop (stepped : root.step policy .stop = some root') :
    root.process.isSome ∧ root' = { root with process := none } := by
  unfold step at stepped
  dsimp only at stepped
  split at stepped
  · next runs => exact ⟨runs, (Option.some.inj stepped).symm⟩
  · cases stepped

variable {stop : Option Nat}

theorem step_opened {plan : SourcePlan} {now : Time}
    (stepped : root.step policy (.opened plan now stop) = some root') : root.process = none ∧
      ((∃ disk ∈ (policy.openState plan now).stops root.disk,
          root' = root.stopped disk (policy.openHands plan now root.disk)) ∨
        (∃ owner, (policy.openState plan now).result root.disk = .ok owner ∧
          root' = root.running ((policy.openState plan now).final root.disk) owner
            (policy.openHands plan now root.disk)) ∨
        ∃ refusal, (policy.openState plan now).result root.disk = .error refusal ∧
          root' = root.stopped ((policy.openState plan now).final root.disk)
            (policy.openHands plan now root.disk)) := by
  unfold step at stepped
  dsimp only at stepped
  split at stepped
  · cases stepped
  next quiet =>
  refine ⟨Option.not_isSome_iff_eq_none.1 quiet, ?_⟩
  split at stepped
  · obtain ⟨disk, found, rfl⟩ := Option.map_eq_some_iff.1 stepped
    exact .inl ⟨disk, List.mem_of_getElem? found, rfl⟩
  split at stepped
  · next owner opened => exact .inr (.inl ⟨owner, opened, (Option.some.inj stepped).symm⟩)
  · next refusal refused => exact .inr (.inr ⟨refusal, refused, (Option.some.inj stepped).symm⟩)

theorem step_call {call : Call} (stepped : root.step policy (.call call stop) = some root') :
    ∃ owner, root.process = some owner ∧
      (owner.transition policy call = none ∧ root' = root ∨
        ∃ transition, owner.transition policy call = some transition ∧
          ((stop ≠ none ∧ ∃ disk ∈ (policy.write transition.request).stops root.disk,
              root' = root.stopped disk transition.request.handed) ∨
            (stop = none ∧ (policy.write transition.request).result root.disk = .ok () ∧
              root' = root.running ((policy.write transition.request).final root.disk) transition.after
                transition.request.handed) ∨
            stop = none ∧ ∃ refusal, (policy.write transition.request).result root.disk = .error refusal ∧
              root' = root.running ((policy.write transition.request).final root.disk) transition.failed
                transition.request.handed)) := by
  unfold step at stepped
  dsimp only at stepped
  split at stepped
  · cases stepped
  next owner runs =>
  refine ⟨owner, runs, ?_⟩
  split at stepped
  · next refused => exact .inl ⟨refused, (Option.some.inj stepped).symm⟩
  next transition goes =>
  refine .inr ⟨transition, goes, ?_⟩
  split at stepped
  · obtain ⟨disk, found, rfl⟩ := Option.map_eq_some_iff.1 stepped
    exact .inl ⟨nofun, disk, List.mem_of_getElem? found, rfl⟩
  split at stepped
  · next written => exact .inr (.inl ⟨rfl, written, (Option.some.inj stepped).symm⟩)
  · next refusal refused => exact .inr (.inr ⟨rfl, refusal, refused, (Option.some.inj stepped).symm⟩)

end Root

end Ardents.State
