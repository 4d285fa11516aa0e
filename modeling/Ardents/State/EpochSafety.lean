/-
# State.EpochSafety — one chain of Epochs, floors and conflicts

An owner `Shows` a view when its memory agrees with it and the answers of a running wave
are candidates: the active decision, the one that waits, or a new one that follows the
active Epoch.  Every operation takes an owner that shows a view to one that shows the next
view, and the next view is a valid one.

Two inputs are excluded (`regular`): an offline acceptance with a clock that is before the
start of the accepted Epoch, after which a wave may stage the active Epoch as its own
successor, and an answer with an Epoch that has the digest of the active one and is
another one.
-/
import Ardents.State.Decodable
import Ardents.State.View

namespace Ardents.State

open Lib NetworkState

set_option autoImplicit false

/-! ## States that say the same about Epochs -/

/-- The time floor may be raised; the rest of what is said about Epochs is the same. -/
structure Secures (old new : DistributionState) : Prop where
  epochFloor : new.epochFloor = old.epochFloor
  epochDigest : new.epochDigest = old.epochDigest
  pendingDigest : new.pendingDigest = old.pendingDigest
  pendingValidFrom : new.pendingValidFrom = old.pendingValidFrom
  conflicting : new.conflicting = old.conflicting
  time : old.trustedTimeFloor ≤ new.trustedTimeFloor

theorem secures_finished (owner : NetworkState) (wave : Wave) (now : Time) :
    Secures owner.distribution (owner.finished wave now) := by
  unfold finished finishWaveState
  split <;> exact ⟨rfl, rfl, rfl, rfl, rfl, Int64.le_refl _⟩

/-! ## What a view allows -/

section Allowed

variable {policy : EpochPolicy} {view : View} {state : DistributionState} {decision : Decision}

/-- A successor has a higher number. -/
theorem floor_le (linked : policy.Linked (decision :: view.chain)) :
    (view.head.map EpochEnvelope.number).getD 0 ≤ decision.epoch.number := by
  cases chain : view.chain with
  | nil =>
    rw [View.head, chain]
    exact UInt64.zero_le
  | cons prior rest =>
    rw [View.head, chain]
    rw [chain] at linked
    exact UInt64.le_of_lt (number_lt linked)

/-- Two successors of one Epoch have one number. -/
theorem Extends.number_eq {head : Option EpochEnvelope} {first second : EpochEnvelope}
    (one : Extends head first) (other : Extends head second) : first.number = second.number := by
  cases head with
  | none => exact one.2.1.trans other.2.1.symm
  | some current => exact one.2.1.trans other.2.1.symm

theorem activated_pending (state : DistributionState) (decision : Decision) :
    (activated state decision).pendingDigest =
      if state.pendingDigest = decision.epoch.digest then Digest.zero else state.pendingDigest := rfl

/-- What is allowed depends on the next view only. -/
theorem View.Allows.congr {request request' : Request} (allows : view.Allows policy request)
    (same : view.next request' = view.next request) : view.Allows policy request' := by
  refine ⟨?_, ?_, ?_, ?_, ?_⟩ <;> rw [same]
  · exact allows.valid
  · exact allows.epochFloor
  · exact allows.timeFloor
  · exact allows.conflicting
  · exact allows.calm

section Valid

variable (valid : view.Valid policy)

include valid

theorem View.Valid.secured (secures : Secures view.journal state) :
    View.Valid policy { view with journal := state } where
  linked := valid.linked
  floor := secures.epochFloor.trans valid.floor
  digest := secures.epochDigest.trans valid.digest
  time := fun epoch head => Int64.le_trans (valid.time epoch head) secures.time
  follows := valid.follows
  pendingDigest := secures.pendingDigest.trans valid.pendingDigest
  pendingValidFrom := fun waiting waits => secures.pendingValidFrom.trans (valid.pendingValidFrom waiting waits)

theorem allows_nothing : view.Allows policy .nothing :=
  ⟨valid, UInt64.le_refl _, Int64.le_refl _, id, .inl⟩

theorem allows_secured (secures : Secures view.journal state) :
    view.Allows policy (.control state) where
  valid := valid.secured secures
  epochFloor := by
    change _ ≤ state.epochFloor
    rw [secures.epochFloor]
    exact UInt64.le_refl _
  timeFloor := secures.time
  conflicting := fun set => secures.conflicting.trans set
  calm := fun _ => .inr rfl

theorem allows_conflict (secures : Secures view.journal state) :
    view.Allows policy (.control { state with conflicting := true }) where
  valid := by
    have same := valid.secured secures
    exact ⟨same.linked, same.floor, same.digest, same.time, same.follows, same.pendingDigest,
      same.pendingValidFrom⟩
  epochFloor := by
    rw [secures.epochFloor]
    exact UInt64.le_refl _
  timeFloor := secures.time
  conflicting := fun _ => rfl
  calm := fun _ => .inr rfl

/-- A decision becomes active: no other one waits. -/
theorem allows_active (secures : Secures view.journal state) (verified : policy.Verified decision)
    (extends_ : Extends view.head decision.epoch)
    (time : decision.epoch.validFrom ≤ state.trustedTimeFloor)
    (only : ∀ waiting, view.pending = some waiting → waiting.epoch.digest = decision.epoch.digest) :
    view.Allows policy (.active decision state) where
  valid := by
    have linked : policy.Linked (decision :: view.chain) := ⟨verified, extends_, valid.linked⟩
    refine ⟨linked, rfl, rfl, ?_, fun _ waits => (by cases waits), ?_, fun _ waits => (by cases waits)⟩
    · rintro _ ⟨⟩
      exact time
    change (activated state decision).pendingDigest = Digest.zero
    rw [activated_pending, secures.pendingDigest, valid.pendingDigest]
    split
    · rfl
    next other =>
    cases waits : view.pending with
    | none => rfl
    | some waiting =>
      rw [waits] at other
      exact absurd (only waiting waits) other
  epochFloor := by
    rw [valid.floor]
    exact floor_le ⟨verified, extends_, valid.linked⟩
  timeFloor := secures.time
  conflicting := fun set => secures.conflicting.trans set
  calm := fun set => .inl (secures.conflicting.symm.trans set)

/-- A decision is staged for later. -/
theorem allows_staged (secures : Secures view.journal state)
    (follows : policy.Follows view.head decision) :
    view.Allows policy (.staged decision { state with
      pendingDigest := decision.epoch.digest, pendingValidFrom := decision.epoch.validFrom }) where
  valid := by
    have same := valid.secured secures
    refine ⟨same.linked, same.floor, same.digest, same.time, ?_, rfl, ?_⟩
    · rintro _ ⟨⟩
      exact follows
    · rintro _ ⟨⟩
      rfl
  epochFloor := by
    rw [secures.epochFloor]
    exact UInt64.le_refl _
  timeFloor := secures.time
  conflicting := fun set => secures.conflicting.trans set
  calm := fun _ => .inr rfl

end Valid

end Allowed

/-! ## Owners that show a view -/

/-- A decision with which a source may answer. -/
def View.Candidate (view : View) (policy : EpochPolicy) (decision : Decision) : Prop :=
  view.chain.head? = some decision ∨ view.pending = some decision ∨
    policy.Follows view.head decision ∧
      ∀ waiting, view.pending = some waiting → NetworkState.isAbout decision.epoch waiting = false

structure Shows (policy : EpochPolicy) (owner : NetworkState) (view : View) : Prop where
  current : owner.current = view.chain.head?
  pending : owner.pending = view.pending
  distribution : owner.distribution = view.journal
  base : ∀ wave, owner.wave = some wave → wave.base = view.chain.head?
  results : ∀ wave, owner.wave = some wave → ∀ result ∈ wave.results, ∀ decision,
    result.answer = .ok decision → view.Candidate policy decision
  quiet : view.journal.conflicting = true → owner.wave = none

/-- An operation of an owner that shows a view. -/
structure Transition.Agrees (transition : Transition) (policy : EpochPolicy) (view : View) : Prop where
  allowed : view.Allows policy transition.request
  after : Shows policy transition.after (view.next transition.request)
  failed : Shows policy transition.failed view

variable {call : Call} {raw : List UInt8}

section Owners

variable {policy : EpochPolicy} {view : View} {owner : NetworkState} {state : DistributionState}
  {decision : Decision}

/-- Without a wave, the memory alone has to agree. -/
theorem Shows.quietly (current : owner.current = view.chain.head?) (pending : owner.pending = view.pending)
    (distribution : owner.distribution = view.journal) (quiet : owner.wave = none) :
    Shows policy owner view := by
  refine ⟨current, pending, distribution, fun wave waves => ?_, fun wave waves => ?_, fun _ => quiet⟩
  all_goals
    rw [quiet] at waves
    cases waves

theorem shows_owner (view : View) (plan : SourcePlan) (now : Time) : Shows policy (view.owner plan now) view :=
  .quietly rfl rfl rfl rfl

theorem stillPending_none (only : ∀ waiting, view.pending = some waiting →
    waiting.epoch.digest = decision.epoch.digest) : stillPending view.pending decision = none := by
  cases waits : view.pending with
  | none => rfl
  | some waiting => exact if_pos (only waiting waits)

/-- An Epoch that is taken for the active one only if it is the active one. -/
def NetworkState.unforged (owner : NetworkState) (policy : EpochPolicy) (answer : NetworkState.Answer) : Bool :=
  match answer with
  | .given _ (some bundle) => (policy.parse bundle.epoch).all fun epoch => owner.current.all fun active =>
    decide (epoch.digest = active.epoch.digest → epoch = active.epoch)
  | _ => true

/-- The condition on the inputs of an operation. -/
def NetworkState.regular (owner : NetworkState) (policy : EpochPolicy) : Call → Bool
  | .accept raw _ _ clock => (policy.parse raw).all fun epoch => decide (epoch.validFrom ≤ clock.unixSeconds)
  | .latest _ answer _ _ => owner.unforged policy answer
  | .byDigest _ answer _ _ => owner.unforged policy answer
  | _ => true

theorem secures_observed (owner : NetworkState) (clock : Time) :
    Secures owner.distribution (owner.observed clock) :=
  ⟨rfl, rfl, rfl, rfl, rfl, le_max_int64 _ _⟩

theorem succ_ne {number : UInt64} (same : number + 1 = number) : False := by
  have counts := congrArg UInt64.toNat same
  rw [UInt64.toNat_add, show (1 : UInt64).toNat = 1 from rfl] at counts
  omega

/-- The head of a view is verified. -/
theorem View.Valid.active (valid : view.Valid policy) (newest : view.chain.head? = some decision) :
    policy.Verified decision := by
  obtain ⟨rest, chain⟩ := List.head?_eq_some_iff.1 newest
  have linked := valid.linked
  rw [chain] at linked
  exact linked.1

/-- A candidate that is not the active decision follows it. -/
theorem View.Candidate.follows (valid : view.Valid policy) (candidate : view.Candidate policy decision)
    (other : view.chain.head? ≠ some decision) : policy.Follows view.head decision := by
  rcases candidate with active | waits | new
  · exact absurd active other
  · exact valid.follows decision waits
  · exact new.1

theorem activated_twice (state : DistributionState) (decision : Decision) :
    activated (activated state decision) decision = activated state decision := by
  unfold activated
  by_cases same : state.pendingDigest = decision.epoch.digest <;> simp [same]

/-- What the end of a wave says about the active decision again. -/
theorem secures_again (valid : view.Valid policy) (secures : Secures view.journal state)
    (active : view.chain.head? = some decision) : Secures view.journal (activated state decision) := by
  have head : view.head = some decision.epoch := by rw [View.head, active]; rfl
  have floor := valid.floor
  have digest := valid.digest
  rw [head] at floor digest
  have other : state.pendingDigest ≠ decision.epoch.digest := by
    rw [secures.pendingDigest, valid.pendingDigest]
    cases waits : view.pending with
    | none => exact (policy.digest_ne (valid.active active).parsed).symm
    | some waiting => exact (valid.follows waiting waits).apart decision.epoch head
  refine ⟨floor.symm, digest.symm, ?_, ?_, secures.conflicting, secures.time⟩
  · rw [activated_pending, if_neg other, secures.pendingDigest]
  · change (if _ then 0 else state.pendingValidFrom) = _
    rw [if_neg other, secures.pendingValidFrom]

theorem stillPending_other (valid : view.Valid policy) (active : view.chain.head? = some decision) :
    stillPending view.pending decision = view.pending := by
  have head : view.head = some decision.epoch := by rw [View.head, active]; rfl
  cases waits : view.pending with
  | none => rfl
  | some waiting => exact if_neg ((valid.follows waiting waits).apart decision.epoch head)

variable {after : NetworkState} {answer : Option StateError} {transition : Transition} {clock : Time}
  {retained : Bool} {wave : Wave} {source : Fin 2} {failure : SourceFailure}

theorem Transition.Agrees.orElse (agrees : transition.Agrees policy view) {failed : NetworkState}
    (shows_ : Shows policy failed view) : (transition.orElse failed).Agrees policy view :=
  ⟨agrees.allowed, agrees.after, shows_⟩

variable {now : Time} {done : Unit}

section Shown

variable (shows_ : Shows policy owner view)

include shows_

theorem Shows.head : owner.current.map Decision.epoch = view.head := by
  rw [shows_.current, View.head]

/-- The wave is over. -/
theorem Shows.ended : Shows policy { owner with wave := none } view :=
  .quietly shows_.current shows_.pending shows_.distribution rfl

/-- The owner goes on with another distribution state. -/
theorem Shows.journal (quiet : state.conflicting = true → owner.wave = none) :
    Shows policy { owner with distribution := state } { view with journal := state } :=
  ⟨shows_.current, shows_.pending, rfl, shows_.base, shows_.results, quiet⟩

theorem agrees_control (allowed : view.Allows policy (.control state))
    (goes : Shows policy { after with distribution := state } { view with journal := state }) :
    (owner.commitDistribution state after answer).Agrees policy view :=
  ⟨allowed, goes, shows_⟩

/-- What `allowCandidateTransition` lets pass is the decision that waits, if one of that
number does. -/
theorem allowCandidate_only (valid : view.Valid policy)
    (extends_ : Extends view.head decision.epoch)
    (allowed : owner.allowCandidateTransition decision = .ok done) :
    ∀ waiting, view.pending = some waiting → waiting.epoch.digest = decision.epoch.digest := by
  intro waiting waits
  unfold allowCandidateTransition at allowed
  split at allowed
  · cases allowed
  rw [shows_.pending, waits] at allowed
  dsimp only at allowed
  split at allowed
  · cases allowed
  next one =>
  by_contra differs
  exact one ⟨extends_.number_eq (valid.follows waiting waits).extends_, fun same => differs same.symm⟩

theorem agrees_active (allowed : view.Allows policy (.active decision state))
    (only : ∀ waiting, view.pending = some waiting → waiting.epoch.digest = decision.epoch.digest)
    (ended : after.wave = none) :
    (owner.commitActiveDecision decision state after).Agrees policy view where
  allowed := allowed
  after := by
    refine .quietly rfl ?_ rfl ended
    change stillPending owner.pending decision = none
    rw [shows_.pending]
    exact stillPending_none only
  failed := shows_

theorem launch_shows (quiet : owner.wave = none) (calm : state.conflicting = false) :
    Shows policy (owner.launch now state retained) { view with journal := state } := by
  unfold launch
  split
  · refine ⟨shows_.current, shows_.pending, rfl, ?_, ?_, fun set => ?_⟩
    · rintro _ ⟨⟩
      exact shows_.current
    · rintro _ ⟨⟩ result among
      cases among
    · rw [calm] at set
      cases set
  · exact shows_.journal fun _ => quiet

/-- An owner with a running wave has seen no conflict. -/
theorem Shows.calm (waving : owner.wave = some wave) : view.journal.conflicting = false := by
  by_contra set
  have none_ := shows_.quiet (Bool.not_eq_false _ ▸ set)
  rw [waving] at none_
  cases none_

/-- A decision that a source gave is a candidate. -/
theorem Shows.candidate (waving : owner.wave = some wave) (among : decision ∈ waveValid wave.results) :
    view.Candidate policy decision := by
  obtain ⟨result, there, given⟩ := List.mem_filterMap.1 among
  exact shows_.results wave waving result there decision (toOption_eq_some given)

/-- A source gave its result. -/
theorem Shows.answered {result : SourceResult} (waving : owner.wave = some wave)
    (remaining : List (Fin 2))
    (given : ∀ decision, result.answer = .ok decision → view.Candidate policy decision) :
    Shows policy (owner.answered { wave with remaining } source result) view := by
  refine ⟨shows_.current, shows_.pending, shows_.distribution, ?_, ?_, fun set => ?_⟩
  · rintro _ ⟨⟩
    exact shows_.base wave waving
  · rintro _ ⟨⟩ other among
    rcases List.mem_append.1 among with earlier | last
    · exact shows_.results wave waving other earlier
    · rw [List.mem_singleton.1 last]
      exact given
  · rw [shows_.calm waving] at set
    cases set

variable {object : Digest} {slot : Fin 4} {observations : Fin 4 → UInt8}

/-- A source failed. -/
theorem Shows.failing (waving : owner.wave = some wave) (remaining : List (Fin 2)) :
    Shows policy (owner.answered { wave with remaining } source (failedSourceResult slot observations failure)) view :=
  shows_.answered waving remaining fun _ given => (by cases given)

/-- A request is under way. -/
theorem Shows.fetching {fetch : Fetch} (waving : owner.wave = some wave) (remaining : List (Fin 2)) :
    Shows policy (owner.fetching { wave with remaining } source fetch) view := by
  refine ⟨shows_.current, shows_.pending, shows_.distribution, ?_, ?_, fun set => ?_⟩
  · rintro _ ⟨⟩
    exact shows_.base wave waving
  · rintro _ ⟨⟩
    exact shows_.results wave waving
  · rw [shows_.calm waving] at set
    cases set

/-- A verified bundle is a candidate. -/
theorem verifySourceBundle_candidate {bundle : SourceBundle}
    (unforged : owner.unforged policy (.given object (some bundle)) = true)
    (given : owner.verifySourceBundle policy view.chain.head? bundle clock = some decision) :
    view.Candidate policy decision := by
  obtain known | waits | ⟨⟨now, verified⟩, unknown⟩ := verifySourceBundle_cases given
  · exact .inl known
  · exact .inr (.inl (shows_.pending ▸ waits))
  obtain ⟨sound, bytes, -, extends_, -⟩ := EpochPolicy.verifyDecision_eq_ok.1 verified
  refine .inr (.inr ⟨⟨sound, extends_, fun epoch head same => ?_⟩,
    fun waiting waits => unknown waiting (shows_.pending.trans waits)⟩)
  -- it would be the active Epoch, which does not follow itself
  obtain ⟨active, newest, rfl⟩ := Option.map_eq_some_iff.1 head
  simp only [NetworkState.unforged, ← bytes, sound.parsed, shows_.current, newest, Option.all_some,
    decide_eq_true_eq] at unforged
  rw [newest] at extends_
  have next : decision.epoch.number = active.epoch.number + 1 := extends_.2.1
  rw [unforged same] at next
  exact succ_ne next.symm

theorem verifyResponse_candidate {bundle : Option SourceBundle} (waving : owner.wave = some wave)
    (unforged : owner.unforged policy (.given object bundle) = true) :
    ∀ decision, (owner.verifyResponse policy wave slot observations object bundle failure clock).answer =
      .ok decision → view.Candidate policy decision := by
  intro decision given
  unfold verifyResponse at given
  split at given
  · cases given
  next selected verified =>
  split at given
  · cases given
  split at given
  · cases given
  cases given
  obtain ⟨source, rfl, verified⟩ := Option.bind_eq_some_iff.1 verified
  rw [shows_.base wave waving] at verified
  exact verifySourceBundle_candidate shows_ unforged verified

/-- The state at the end of a wave. -/
theorem Shows.secures (wave : Wave) (now : Time) : Secures view.journal (owner.finished wave now) := by
  rw [← shows_.distribution]
  exact secures_finished owner wave now

/-- The state at the end of a wave, with the time that was trusted. -/
theorem secures_raised (wave : Wave) (now : Time) :
    Secures view.journal { owner.finished wave now with
      trustedTimeFloor := max (owner.finished wave now).trustedTimeFloor now.unixSeconds } := by
  have secures := shows_.secures wave now
  exact ⟨secures.epochFloor, secures.epochDigest, secures.pendingDigest, secures.pendingValidFrom,
    secures.conflicting, Int64.le_trans secures.time (le_max_int64 _ _)⟩

/-- After a conflict there is no operation. -/
theorem transition_conflict (conflict : view.journal.conflicting = true) :
    owner.transition policy call = none := by
  have quiet := shows_.quiet conflict
  rw [← shows_.distribution] at conflict
  cases call with
  | accept raw inputs materials clock =>
    simp [transition, NetworkState.accept, quiet, conflict, Except.toOption]
  | refresh reading retained drawn =>
    simp only [transition, NetworkState.refresh, quiet, conflict]
    cases owner.plan.configured <;> rfl
  | beginLatest => simp [transition, beginLatestAttempt, quiet]
  | latest source answer failure clock => simp [transition, latestAnswered, quiet]
  | byDigest source answer failure clock => simp [transition, digestAnswered, quiet]
  | complete reading retained => simp [transition, completeSourceWave, quiet]

end Shown

section Agreeing

variable (valid : view.Valid policy) (shows_ : Shows policy owner view)

include valid shows_

theorem agrees_keep (goes : Shows policy after view) :
    (owner.keep after answer).Agrees policy view :=
  ⟨allows_nothing valid, goes, shows_⟩

/-! ## Operations -/

theorem accept_agrees {inputs materials : List (List UInt8)}
    (regular : owner.regular policy (.accept raw inputs materials clock) = true)
    (accepted : owner.accept policy raw inputs materials clock = .ok transition) :
    transition.Agrees policy view := by
  unfold accept at accepted
  split at accepted
  · cases accepted
  next quiet =>
  split at accepted
  · cases accepted
  obtain ⟨decision, verified, accepted⟩ := except_bind_eq_ok.1 accepted
  obtain ⟨sound, bytes, -, extends_, -⟩ := EpochPolicy.verifyDecision_eq_ok.1 verified
  rw [shows_.head] at extends_
  have noWave : owner.wave = none := Option.not_isSome_iff_eq_none.1 quiet
  have secures := secures_observed owner clock
  rw [shows_.distribution] at secures
  split at accepted
  · -- another decision of its number waits
    cases accepted
    exact agrees_control shows_ (allows_conflict valid secures) (shows_.journal fun _ => noWave)
  · cases accepted
  next done allowed =>
  cases accepted
  have only := allowCandidate_only shows_ valid extends_ allowed
  have time : decision.epoch.validFrom ≤ (owner.observed clock).trustedTimeFloor := by
    rw [NetworkState.regular, ← bytes, sound.parsed] at regular
    exact Int64.le_trans (of_decide_eq_true regular) (le_max_right_int64 _ _)
  exact agrees_active shows_ (allows_active valid secures sound extends_ time only) only noWave

variable {drawn : Digest} {reading : Reading}

theorem startSourceWave_agrees (quiet : owner.wave = none)
    (calm : owner.distribution.conflicting = false) :
    (owner.startSourceWave now retained drawn).Agrees policy view := by
  have same := shows_.distribution
  -- every state of a start says the same about Epochs
  have control {new : DistributionState} (secures : Secures owner.distribution new) :=
    allows_secured valid (same ▸ secures)
  unfold startSourceWave
  dsimp only
  split
  · split
    · refine agrees_control shows_ (control ⟨rfl, rfl, rfl, rfl, rfl, Int64.le_refl _⟩) ?_
      exact shows_.journal fun _ => quiet
    split
    · refine agrees_control shows_ (control ⟨rfl, rfl, rfl, rfl, rfl, Int64.le_refl _⟩) ?_
      rw [launch_distribution]
      exact launch_shows shows_ quiet calm
    refine agrees_keep valid shows_ ?_
    have launched : Shows policy (owner.launch now owner.distribution retained)
        { view with journal := owner.distribution } := launch_shows shows_ quiet calm
    rw [same] at launched ⊢
    exact launched
  · refine agrees_control shows_ (control ⟨rfl, rfl, rfl, rfl, rfl, le_max_int64 _ _⟩) ?_
    rw [launch_distribution]
    exact launch_shows shows_ quiet calm

theorem refresh_agrees (started : owner.refresh reading retained drawn = .ok transition) :
    transition.Agrees policy view := by
  unfold refresh at started
  split at started
  · cases started
  next quiet =>
  split at started
  · cases started
  split at started
  · cases started
  next calm =>
  split at started
  · cases started
  split at started
  · cases started
  split at started
  · cases started
  cases started
  exact startSourceWave_agrees valid shows_ (Option.not_isSome_iff_eq_none.1 quiet)
    (Bool.not_eq_true _ ▸ calm)

/-! ## Waves -/

/-- A commit in a wave that says the same about Epochs. -/
theorem agrees_attempt (waving : owner.wave = some wave)
    (secures : Secures owner.distribution state) (goes : Shows policy after view) :
    (owner.commitDistribution state after answer).Agrees policy view := by
  rw [shows_.distribution] at secures
  refine agrees_control shows_ (allows_secured valid secures) (goes.journal fun set => ?_)
  rw [secures.conflicting, shows_.calm waving] at set
  cases set

theorem beginLatest_agrees (begun : owner.beginLatestAttempt = some transition) :
    transition.Agrees policy view := by
  unfold beginLatestAttempt at begun
  split at begun
  · cases begun
  next wave waving =>
  split at begun
  · cases begun
  next source rest _ =>
  dsimp only at begun
  split at begun
  · cases begun
    exact agrees_keep valid shows_ (shows_.failing waving rest)
  split at begun
  · cases begun
    refine (agrees_attempt valid shows_ waving ?_ ?_).orElse (shows_.failing waving rest)
    · exact ⟨rfl, rfl, rfl, rfl, rfl, Int64.le_refl _⟩
    · exact shows_.answered waving rest fun _ given => (by cases given)
  split at begun
  · cases begun
    exact agrees_keep valid shows_ (shows_.answered waving rest fun _ given => (by cases given))
  · cases begun
    refine (agrees_attempt valid shows_ waving ?_ (shows_.fetching waving rest)).orElse (shows_.failing waving rest)
    exact ⟨rfl, rfl, rfl, rfl, rfl, Int64.le_refl _⟩

theorem latestAnswered_agrees {answer : Answer} (unforged : owner.unforged policy answer = true)
    (given : owner.latestAnswered policy source answer failure clock = some transition) :
    transition.Agrees policy view := by
  unfold latestAnswered at given
  split at given
  · cases given
  next wave waving =>
  split at given
  · cases given
  cases answer with
  | given object bundle =>
    cases given
    exact agrees_keep valid shows_ (shows_.answered waving wave.remaining
      (verifyResponse_candidate shows_ waving unforged))
  | refused object =>
    dsimp only at given
    split at given
    · cases given
      exact agrees_keep valid shows_ (shows_.failing waving wave.remaining)
    split at given
    · cases given
      exact agrees_keep valid shows_ (shows_.failing waving wave.remaining)
    cases given
    refine (agrees_attempt valid shows_ waving ?_ (shows_.fetching waving wave.remaining)).orElse
      (shows_.failing waving wave.remaining)
    exact ⟨rfl, rfl, rfl, rfl, rfl, Int64.le_refl _⟩

theorem digestAnswered_agrees {answer : Answer} (unforged : owner.unforged policy answer = true)
    (given : owner.digestAnswered policy source answer failure clock = some transition) :
    transition.Agrees policy view := by
  unfold digestAnswered at given
  split at given
  · cases given
  next wave waving =>
  split at given
  swap
  · cases given
  next requested observations _ =>
  dsimp only at given
  split at given
  · cases given
    exact agrees_keep valid shows_ (shows_.failing waving wave.remaining)
  cases answer with
  | refused object =>
    cases given
    refine (agrees_attempt valid shows_ waving ?_ (shows_.failing waving wave.remaining)).orElse
      (shows_.failing waving wave.remaining)
    exact ⟨rfl, rfl, rfl, rfl, rfl, Int64.le_refl _⟩
  | given object bundle =>
    cases given
    refine (agrees_attempt valid shows_ waving ?_ ?_).orElse (shows_.failing waving wave.remaining)
    · exact ⟨rfl, rfl, rfl, rfl, rfl, Int64.le_refl _⟩
    split
    · exact shows_.failing waving wave.remaining
    · exact shows_.answered waving wave.remaining (verifyResponse_candidate shows_ waving unforged)

/-! ## The end of a wave -/

theorem recordSourceConflict_agrees (refusal : StateError) :
    (owner.recordSourceConflict wave refusal).Agrees policy view := by
  have secures := shows_.secures wave wave.started
  exact (agrees_control shows_ (allows_conflict valid secures) (shows_.ended.journal fun _ => rfl)).orElse
    shows_.ended

theorem commitSourceFailure_agrees (now : Time) :
    (owner.commitSourceFailure wave now).Agrees policy view := by
  have secures := shows_.secures wave now
  exact (agrees_control shows_ (allows_secured valid secures) (shows_.ended.journal fun _ => rfl)).orElse
    shows_.ended

/-- A candidate that may not become active yet is staged, or waits already. -/
theorem commitPendingSourceWave_agrees (candidate : view.Candidate policy decision)
    (allowed : owner.allowCandidateTransition decision = .ok done)
    (later : view.journal.trustedTimeFloor ≤ now.unixSeconds)
    (early : now.before (Time.ofSeconds decision.epoch.validFrom) = true) (retained : Bool) :
    (owner.commitPendingSourceWave wave now decision retained).Agrees policy view := by
  have secures := shows_.secures wave now
  rw [Time.before_ofSeconds_iff] at early
  have other : view.chain.head? ≠ some decision := by
    intro active
    have started := valid.time decision.epoch (by rw [View.head, active]; rfl)
    exact Int64.lt_irrefl (Int64.lt_of_lt_of_le early (Int64.le_trans started later))
  have follows := candidate.follows valid other
  unfold commitPendingSourceWave
  split
  · exact agrees_keep valid shows_ shows_.ended
  split
  · refine ⟨allows_staged valid secures follows, ?_, shows_.ended⟩
    exact .quietly shows_.current rfl rfl rfl
  next waited =>
  -- a decision of that number waits, and it is this one
  obtain ⟨waiting, waits⟩ := Option.ne_none_iff_exists'.1 (Option.isNone_iff_eq_none.not.1 waited)
  rw [shows_.pending] at waits
  have only := allowCandidate_only shows_ valid follows.extends_ allowed waiting waits
  have same : waiting = decision := by
    rcases candidate with active | known | ⟨-, unknown⟩
    · exact absurd active other
    · exact Option.some.inj (waits.symm.trans known)
    · have about := unknown waiting waits
      rw [isAbout, only, follows.extends_.number_eq (valid.follows waiting waits).extends_] at about
      simp at about
  subst same
  have again : Secures view.journal { owner.finished wave now with
      pendingDigest := waiting.epoch.digest, pendingValidFrom := waiting.epoch.validFrom } := by
    refine ⟨secures.epochFloor, secures.epochDigest, ?_, ?_, secures.conflicting, secures.time⟩
    · rw [valid.pendingDigest, waits]
      rfl
    · exact (valid.pendingValidFrom waiting waits).symm
  exact (agrees_control shows_ (allows_secured valid again) (shows_.ended.journal fun _ => rfl)).orElse
    shows_.ended

theorem commitActiveSourceWave_agrees (candidate : view.Candidate policy decision)
    (allowed : owner.allowCandidateTransition decision = .ok done)
    (started : now.before (Time.ofSeconds decision.epoch.validFrom) = false) (retained : Bool) :
    (owner.commitActiveSourceWave wave now decision retained).Agrees policy view := by
  have raised := secures_raised shows_ wave now
  have time : decision.epoch.validFrom ≤
      max (owner.finished wave now).trustedTimeFloor now.unixSeconds := by
    have reached : ¬ now.unixSeconds < decision.epoch.validFrom := by
      rw [← Time.before_ofSeconds_iff, started]
      exact Bool.false_ne_true
    exact Int64.le_trans (Int64.not_lt.1 reached) (le_max_right_int64 _ _)
  unfold commitActiveSourceWave
  split
  · exact agrees_keep valid shows_ shows_.ended
  split
  · next new =>
    -- a new decision
    have other : view.chain.head? ≠ some decision := by
      intro active
      rw [shows_.current, active] at new
      simp at new
    have follows := candidate.follows valid other
    have only := allowCandidate_only shows_ valid follows.extends_ allowed
    have allows := allows_active valid raised follows.verified follows.extends_ time only
    refine (agrees_active shows_ (allows.congr ?_) only rfl).orElse shows_.ended
    simp only [View.next, activated_twice]
  · next known =>
    -- the active decision again
    have active : view.chain.head? = some decision := by
      by_contra other
      have follows := candidate.follows valid other
      obtain ⟨active, newest, same⟩ : ∃ active, view.chain.head? = some active ∧
          decision.epoch.digest = active.epoch.digest := by
        simpa only [shows_.current, Option.all_eq_true, decide_eq_true_eq, ne_eq, not_forall, exists_prop,
          not_not] using known
      exact follows.apart active.epoch (by rw [View.head, newest]; rfl) same
    have again := secures_again valid raised active
    refine (agrees_control shows_ (allows_secured valid again) ?_).orElse shows_.ended
    refine .quietly shows_.current ?_ rfl rfl
    rw [shows_.pending]
    exact stillPending_other valid active

theorem complete_agrees (completed : owner.completeSourceWave reading retained = some transition) :
    transition.Agrees policy view := by
  unfold completeSourceWave at completed
  split at completed
  · cases completed
  next wave waving =>
  split at completed
  · cases completed
  dsimp only at completed
  split at completed
  · cases completed
    exact agrees_keep valid shows_ shows_.ended
  split at completed
  · cases completed
    exact recordSourceConflict_agrees valid shows_ _
  split at completed
  · cases completed
    exact recordSourceConflict_agrees valid shows_ _
  split at completed
  · split at completed
    · cases completed
      exact agrees_keep valid shows_ shows_.ended
    · cases completed
      exact commitSourceFailure_agrees valid shows_ _
  next selected newest =>
  have candidate := shows_.candidate waving (newestSourceDecision_mem newest)
  split at completed
  · cases completed
    exact recordSourceConflict_agrees valid shows_ _
  next done allowed =>
  split at completed
  · cases completed
    exact agrees_keep valid shows_ shows_.ended
  next now trusted =>
  have later := (trustedNow_some trusted).1
  rw [shows_.distribution] at later
  split at completed
  · next early =>
    cases completed
    exact commitPendingSourceWave_agrees valid shows_ candidate allowed later early _
  next started =>
  split at completed
  · cases completed
    exact commitSourceFailure_agrees valid shows_ _
  · cases completed
    exact commitActiveSourceWave_agrees valid shows_ candidate allowed (Bool.not_eq_true _ ▸ started) _

/-- **Every operation takes a view to the next one.** -/
theorem transition_agrees (regular : owner.regular policy call = true)
    (goes : owner.transition policy call = some transition) : transition.Agrees policy view := by
  cases call with
  | accept raw inputs materials clock => exact accept_agrees valid shows_ regular (toOption_eq_some goes)
  | refresh reading retained drawn => exact refresh_agrees valid shows_ (toOption_eq_some goes)
  | beginLatest => exact beginLatest_agrees valid shows_ goes
  | latest source answer failure clock => exact latestAnswered_agrees valid shows_ regular goes
  | byDigest source answer failure clock => exact digestAnswered_agrees valid shows_ regular goes
  | complete reading retained => exact complete_agrees valid shows_ goes

end Agreeing

end Owners

/-! ## Histories -/

/-- The condition on an event. -/
def Root.regular (policy : EpochPolicy) (root : Root) : RootEvent → Bool
  | .call call _ => root.process.all fun owner => owner.regular policy call
  | _ => true

instance (disk : Disk) : Decidable (Firm disk) :=
  decidable_of_iff ((disk.state.current = none → disk.state.generations.size = 0) ∧
    (disk.control.current = none → disk.control.generations.size = 0))
    ⟨fun ⟨pointed, unborn⟩ => ⟨pointed, unborn⟩, fun firm => ⟨firm.pointed, firm.unborn⟩⟩

/-- No operation ends, and none is stopped, when a first generation has its name and there is
no pointer to it yet. -/
def Root.founded (policy : EpochPolicy) (root : Root) : RootEvent → Bool
  | .call call stop => (root.step policy (.call call stop)).all fun next => decide (Firm next.disk)
  | _ => true

/-- The durable distribution state; it is zero before the first commit. -/
def Durable (disk : Disk) (state : DistributionState) : Prop :=
  disk.control.current = none ∧ state = DistributionState.zero ∨
    ∃ name, disk.control.current = some name ∧
      disk.control.generations.find name = some (encodeDistributionState state)

/-- The files of the root stand for the view, and a running process shows it.  A view
whose newest decision was not active yet has no conflict. -/
structure Root.Chained (policy : EpochPolicy) (root : Root) (view : View) : Prop where
  kept : Kept policy root.disk view
  synced : root.process.isSome → Synced policy root.disk view ∧ root.active = view.chain.map Decision.epoch
  shows_ : ∀ owner, root.process = some owner → Shows policy owner view
  active : root.active = view.chain.map Decision.epoch ∨
    root.active = view.chain.tail.map Decision.epoch ∧ view.journal.conflicting = false

/-- What a history never takes back. -/
structure View.Onward (view view' : View) : Prop where
  epochFloor : view.journal.epochFloor ≤ view'.journal.epochFloor
  timeFloor : view.journal.trustedTimeFloor ≤ view'.journal.trustedTimeFloor
  conflicting : view.journal.conflicting = true → view'.journal.conflicting = true ∧ view'.chain = view.chain

section Histories

variable {policy : EpochPolicy} {root root' : Root} {view view' : View} {disk : Disk}

theorem View.Onward.refl (view : View) : view.Onward view := ⟨UInt64.le_refl _, Int64.le_refl _, fun set => ⟨set, rfl⟩⟩

theorem View.Onward.trans {view'' : View} (first : view.Onward view') (second : view'.Onward view'') :
    view.Onward view'' where
  epochFloor := UInt64.le_trans first.epochFloor second.epochFloor
  timeFloor := Int64.le_trans first.timeFloor second.timeFloor
  conflicting := by
    intro set
    obtain ⟨set', same⟩ := first.conflicting set
    obtain ⟨set'', same'⟩ := second.conflicting set'
    exact ⟨set'', same'.trans same⟩

theorem Kept.durable (kept : Kept policy disk view) : Durable disk view.journal := by
  rcases kept.written with ⟨unpointed, rfl⟩ | settled
  · exact .inl ⟨unpointed.current, rfl⟩
  · exact .inr ⟨_, settled.current, settled.found⟩

theorem Durable.unique {state state' : DistributionState} (one : Durable disk state) (other : Durable disk state') :
    state' = state := by
  rcases one with ⟨none_, rfl⟩ | ⟨name, current, found⟩
  · rcases other with ⟨-, rfl⟩ | ⟨name', current', -⟩
    · rfl
    · rw [none_] at current'
      cases current'
  rcases other with ⟨none_, -⟩ | ⟨name', current', found'⟩
  · rw [none_] at current
    cases current
  rw [current] at current'
  cases current'
  rw [found] at found'
  exact (encode_inj (Option.some.inj found')).symm

theorem chained_new : Root.new.Chained policy View.fresh :=
  ⟨synced_empty.kept, nofun, fun _ runs => (by cases runs), .inl rfl⟩

variable {handed : Option DistributionState}

/-- A process stopped: the files stand for `view'`. -/
theorem Root.Chained.stopped (kept : Kept policy disk view')
    (active : root.active = view'.chain.map Decision.epoch ∨
      root.active = view'.chain.tail.map Decision.epoch ∧ view'.journal.conflicting = false) :
    (root.stopped disk handed).Chained policy view' :=
  ⟨kept, nofun, fun _ runs => (by cases runs), active⟩

/-- A process runs on. -/
theorem Root.Chained.running {owner : NetworkState}
    (synced : Synced policy disk view') (shows_ : Shows policy owner view')
    (active : root.active = view'.chain.map Decision.epoch ∨
      root.active = view'.chain.tail.map Decision.epoch) :
    (root.running disk owner handed).Chained policy view' := by
  have linked := synced.kept.valid.linked
  have exposed : Root.activate root.active owner = view'.chain.map Decision.epoch := by
    unfold Root.activate
    rw [shows_.current]
    cases chain : view'.chain with
    | nil =>
      rw [chain] at active
      exact active.elim id id
    | cons decision rest =>
      rw [chain] at active linked
      dsimp only [List.head?_cons]
      rcases active with same | behind
      · rw [same]
        exact if_pos rfl
      rw [behind, List.tail_cons, if_neg]
      · rfl
      cases rest with
      | nil => exact nofun
      | cons prior rest =>
        intro same
        have later := number_lt linked
        rw [Option.some.inj same] at later
        exact UInt64.lt_irrefl _ later
  refine ⟨synced.kept, fun _ => ⟨synced, exposed⟩, ?_, .inl exposed⟩
  rintro _ ⟨⟩
  exact shows_

variable {request : Request}

/-- The next view of an operation that the view allows. -/
theorem View.Allows.onward (allows : view.Allows policy request) (calm : view.journal.conflicting = false) :
    view.Onward (view.next request) :=
  ⟨allows.epochFloor, allows.timeFloor, fun set => by
    rw [calm] at set
    cases set⟩

/-- The active Epochs before an operation, as seen from the next view. -/
theorem View.Allows.active (allows : view.Allows policy request) (calm : view.journal.conflicting = false)
    (exposed : root.active = view.chain.map Decision.epoch) :
    root.active = (view.next request).chain.map Decision.epoch ∨
      root.active = (view.next request).chain.tail.map Decision.epoch ∧
        (view.next request).journal.conflicting = false := by
  cases request with
  | nothing => exact .inl exposed
  | control state => exact .inl exposed
  | staged decision state => exact .inl exposed
  | active decision state =>
    refine .inr ⟨exposed, ?_⟩
    by_contra set
    rcases allows.calm (Bool.not_eq_false _ ▸ set) with before | same
    · rw [calm] at before
      cases before
    · exact List.cons_ne_self _ _ same

/-- **One step** takes a root that stands for a view to one that stands for a later view. -/
theorem Root.Chained.step {event : RootEvent} (chained : root.Chained policy view)
    (regular : root.regular policy event = true) (stepped : root.step policy event = some root') :
    ∃ view', root'.Chained policy view' ∧ view.Onward view' := by
  cases event with
  | stop =>
    obtain ⟨-, rfl⟩ := Root.step_stop stepped
    exact ⟨view, ⟨chained.kept, nofun, fun _ runs => (by cases runs), chained.active⟩, .refl view⟩
  | opened plan now effects =>
    refine ⟨view, ?_, .refl view⟩
    have opens := openState_meets chained.kept plan now
    obtain ⟨-, ⟨disk, among, rfl⟩ | ⟨owner, opened, rfl⟩ | ⟨refusal, refused, rfl⟩⟩ :=
      Root.step_opened stepped
    · exact .stopped (opens.stops ⟨chained.kept, id⟩ disk among).1 chained.active
    · obtain ⟨rfl, synced, -⟩ := opens.ok owner opened
      exact .running synced (shows_owner view plan now) (chained.active.imp id And.left)
    · exact .stopped (opens.error refusal refused).1.1 chained.active
  | call call effects =>
    obtain ⟨owner, runs, ⟨-, rfl⟩ | ⟨transition, goes, happens⟩⟩ := Root.step_call stepped
    · exact ⟨view, chained, .refl view⟩
    rw [Root.regular, runs] at regular
    obtain ⟨synced, exposed⟩ := chained.synced (by rw [runs]; rfl)
    have shows_ := chained.shows_ owner runs
    have calm : view.journal.conflicting = false := by
      by_contra set
      rw [transition_conflict shows_ (Bool.not_eq_false _ ▸ set)] at goes
      cases goes
    have agrees := transition_agrees chained.kept.valid shows_ regular goes
    have writes := write_meets synced agrees.allowed
    have onward := agrees.allowed.onward calm
    have active := agrees.allowed.active calm exposed
    obtain ⟨-, disk, among, rfl⟩ | ⟨-, written, rfl⟩ | ⟨-, refusal, refused, rfl⟩ := happens
    · rcases writes.stops (.inl chained.kept) disk among with before | after
      · exact ⟨view, .stopped before chained.active, .refl view⟩
      · exact ⟨_, .stopped after active, onward⟩
    · exact ⟨_, .running (writes.ok () written) agrees.after (active.imp id And.left), onward⟩
    · exact ⟨view, .running (writes.error refusal refused).1 agrees.failed (.inl exposed), .refl view⟩

/-- A founded root keeps a pointer to its generations: an opening leaves them as they are. -/
theorem Root.Chained.firm {event : RootEvent} (chained : root.Chained policy view)
    (founded : root.founded policy event = true) (stepped : root.step policy event = some root')
    (firm : Firm root.disk) : Firm root'.disk := by
  cases event with
  | stop =>
    obtain ⟨-, rfl⟩ := Root.step_stop stepped
    exact firm
  | opened plan now effects =>
    have opens := openState_meets chained.kept plan now
    obtain ⟨-, ⟨disk, among, rfl⟩ | ⟨owner, opened, rfl⟩ | ⟨refusal, refused, rfl⟩⟩ :=
      Root.step_opened stepped
    · exact (opens.stops ⟨chained.kept, id⟩ disk among).2 firm
    · exact (opens.ok owner opened).2.2.1 firm
    · exact (opens.error refusal refused).1.2 firm
  | call call effects =>
    rw [Root.founded, stepped] at founded
    exact of_decide_eq_true founded

/-- A whole history. -/
theorem Root.Chained.run {events : List RootEvent} (chained : root.Chained policy view)
    (regular : Along (Root.step policy) (fun root event => root.regular policy event = true) root events)
    (ran : run (Root.step policy) root events = some root') :
    ∃ view', root'.Chained policy view' ∧ view.Onward view' := by
  induction events generalizing root view with
  | nil =>
    cases ran
    exact ⟨view, chained, .refl view⟩
  | cons event events ih =>
    obtain ⟨next, stepped, rest⟩ := (run_cons_eq_some _).1 ran
    obtain ⟨middle, chained', onward⟩ := chained.step regular.1 stepped
    obtain ⟨last, chained'', onward'⟩ := ih chained' (regular.2 next stepped) rest
    exact ⟨last, chained'', onward.trans onward'⟩

end Histories

/-! ## Equivocation -/

/-- One chain: each Epoch has the next number and names the digest of the one before. -/
def HashLinked : List EpochEnvelope → Prop
  | [] => True
  | epoch :: rest => Extends rest.head? epoch ∧ HashLinked rest

variable {policy : EpochPolicy} {chain : List Decision}

theorem EpochPolicy.Linked.hashLinked (linked : policy.Linked chain) :
    HashLinked (chain.map Decision.epoch) := by
  induction chain with
  | nil => trivial
  | cons decision rest ih =>
    refine ⟨?_, ih linked.2.2⟩
    rw [List.head?_map]
    exact linked.2.1

/-- Every earlier decision has a lower number. -/
theorem EpochPolicy.Linked.number_lt_of_mem {decision : Decision}
    (linked : policy.Linked (decision :: chain)) :
    ∀ prior ∈ chain, prior.epoch.number < decision.epoch.number := by
  induction chain generalizing decision with
  | nil => exact nofun
  | cons first rest ih =>
    intro prior among
    have newest := number_lt linked
    rcases List.mem_cons.1 among with rfl | earlier
    · exact newest
    · exact UInt64.lt_trans (ih linked.2.2 prior earlier) newest

/-- No two decisions of a chain have one number. -/
theorem EpochPolicy.Linked.numbers (linked : policy.Linked chain) :
    (chain.map Decision.epoch).Pairwise fun newer older => older.number < newer.number := by
  induction chain with
  | nil => exact .nil
  | cons decision rest ih =>
    refine List.pairwise_cons.2 ⟨fun epoch among => ?_, ih linked.2.2⟩
    obtain ⟨prior, there, rfl⟩ := List.mem_map.1 among
    exact linked.number_lt_of_mem prior there

/-- The operation finds `decision` to be valid, and it has the number and not the digest of
the decision that waits, or of the answer of the other source. -/
inductive Equivocates (policy : EpochPolicy) (owner : NetworkState) (decision : Decision) : Call → Prop
  | accept {raw : List UInt8} {inputs materials : List (List UInt8)} {clock : Time} {waiting : Decision}
      (quiet : owner.wave = none)
      (verified : policy.verifyDecision owner.now (owner.current.map Decision.epoch) raw inputs
        (some materials) = .ok decision) (waits : owner.pending = some waiting)
      (number : decision.epoch.number = waiting.epoch.number)
      (digest : decision.epoch.digest ≠ waiting.epoch.digest) :
      Equivocates policy owner decision (.accept raw inputs materials clock)
  | waited {wave : Wave} {reading : Reading} {retained : Bool} {waiting : Decision}
      (waving : owner.wave = some wave) (begun : wave.remaining = [])
      (answered : ∀ source, wave.fetches source = .answered)
      (valid : decision ∈ NetworkState.waveValid wave.results) (waits : owner.pending = some waiting)
      (number : decision.epoch.number = waiting.epoch.number)
      (digest : decision.epoch.digest ≠ waiting.epoch.digest) :
      Equivocates policy owner decision (.complete reading retained)
  | sources {wave : Wave} {reading : Reading} {retained : Bool} {other : Decision}
      (waving : owner.wave = some wave) (begun : wave.remaining = [])
      (answered : ∀ source, wave.fetches source = .answered)
      (valid : decision ∈ NetworkState.waveValid wave.results)
      (against : other ∈ NetworkState.waveValid wave.results)
      (number : decision.epoch.number = other.epoch.number)
      (digest : decision.epoch.digest ≠ other.epoch.digest) :
      Equivocates policy owner decision (.complete reading retained)

/-- The operation commits a conflict. -/
def Transition.Conflicts (transition : Transition) : Prop :=
  ∃ state, transition.request = .control state ∧ state.conflicting = true

/-- An answer with the bytes of an Epoch. -/
def NetworkState.Answer.carries (raw : List UInt8) (answer : NetworkState.Answer) : Prop :=
  ∃ object bundle, answer = .given object (some bundle) ∧ bundle.epoch = raw

/-- An operation is given the bytes of an Epoch. -/
def Call.presents (raw : List UInt8) : Call → Prop
  | .accept given _ _ _ => given = raw
  | .latest _ answer _ _ | .byDigest _ answer _ _ => answer.carries raw
  | _ => False

/-- The valid answers of the wave that runs. -/
def NetworkState.validAnswers (owner : NetworkState) : List Decision :=
  (owner.wave.map fun wave => NetworkState.waveValid wave.results).getD []

/-- The operation commits no conflict and has no new valid answer. -/
structure Transition.Discards (transition : Transition) (owner : NetworkState) : Prop where
  calm : ¬ transition.Conflicts
  after : transition.after.validAnswers = owner.validAnswers
  failed : transition.failed.validAnswers = owner.validAnswers

/-- The bytes of an Epoch are refused: they do not extend the chain, neither in an acceptance nor
as the answer of a source, and an operation that is given them discards them. -/
structure NetworkState.Refuses (owner : NetworkState) (policy : EpochPolicy) (raw : List UInt8) : Prop where
  accept : ∀ inputs materials clock, owner.wave = none → owner.distribution.conflicting = false →
    owner.accept policy raw inputs materials clock = .error .transition
  source : ∀ wave, owner.wave = some wave → ∀ now inputs materials,
    policy.verifyDecision now (wave.base.map Decision.epoch) raw inputs materials = .error .transition
  discards : ∀ call transition, call.presents raw → owner.transition policy call = some transition →
    transition.Discards owner

section Equivocation

variable {policy : EpochPolicy} {view : View} {owner : NetworkState} {decision waiting : Decision}

theorem newestSourceDecision_ge {valid : List Decision} {selected : Decision}
    (newest : newestSourceDecision valid = some selected) (among : decision ∈ valid) :
    decision.epoch.number ≤ selected.epoch.number := by
  cases valid with
  | nil => cases newest
  | cons first rest =>
    cases newest
    induction rest using List.reverseRecOn generalizing decision with
    | nil =>
      rw [List.mem_singleton.1 among]
      exact UInt64.le_refl _
    | append_singleton rest candidate ih =>
      rw [List.foldl_append]
      simp only [List.foldl_cons, List.foldl_nil]
      rw [← List.cons_append] at among
      rcases List.mem_append.1 among with earlier | last
      · split
        · next higher => exact UInt64.le_trans (ih earlier) (UInt64.le_of_lt higher)
        · exact ih earlier
      rw [List.mem_singleton.1 last]
      split
      · exact UInt64.le_refl _
      · next lower => exact UInt64.not_lt.1 lower

/-- Another digest for the number that waits is refused. -/
theorem allowCandidate_waited (waits : owner.pending = some waiting) (calm : owner.distribution.conflicting = false)
    (number : decision.epoch.number = waiting.epoch.number) (digest : decision.epoch.digest ≠ waiting.epoch.digest) :
    owner.allowCandidateTransition decision = .error .pendingConflict := by
  simp only [allowCandidateTransition, calm, waits, Bool.false_eq_true, if_false]
  rw [if_pos ⟨number, digest⟩]

section Ends

variable {wave : Wave} {reading : Reading} {retained : Bool} (shows_ : Shows policy owner view)
  (waving : owner.wave = some wave) (begun : wave.remaining = [])
  (answered : ∀ source, wave.fetches source = .answered)

include shows_ waving begun answered

/-- A wave with two digests for one number commits a conflict. -/
theorem completeSourceWave_sources (conflict : sourceConflict (waveValid wave.results) = true) :
    ∃ transition, owner.completeSourceWave reading retained = some transition ∧ transition.Conflicts := by
  have same : owner.current = wave.base := shows_.current.trans (shows_.base wave waving).symm
  unfold completeSourceWave
  simp only [waving, begun, answered, same, ne_eq, not_true_eq_false, exists_const, or_self, if_false]
  split
  · exact ⟨_, rfl, _, rfl, rfl⟩
  · exact ⟨_, rfl, _, rfl, rfl⟩

/-- A wave with another digest for the number that waits commits a conflict. -/
theorem completeSourceWave_waited (valid : view.Valid policy) (among : decision ∈ waveValid wave.results)
    (waits : owner.pending = some waiting) (number : decision.epoch.number = waiting.epoch.number)
    (digest : decision.epoch.digest ≠ waiting.epoch.digest) :
    ∃ transition, owner.completeSourceWave reading retained = some transition ∧ transition.Conflicts := by
  by_cases conflict : sourceConflict (waveValid wave.results) = true
  · exact completeSourceWave_sources shows_ waving begun answered conflict
  have same : owner.current = wave.base := shows_.current.trans (shows_.base wave waving).symm
  obtain ⟨selected, newest⟩ : ∃ selected,
      newestSourceDecision (waveValid wave.results) = some selected := by
    cases results : waveValid wave.results with
    | nil =>
      rw [results] at among
      cases among
    | cons first rest => exact ⟨_, rfl⟩
  have refused : owner.allowCandidateTransition selected = .error .pendingConflict := by
    have follows := valid.follows waiting (shows_.pending ▸ waits)
    have chosen := newestSourceDecision_mem newest
    have candidate := shows_.candidate waving chosen
    have least := newestSourceDecision_ge newest among
    -- the newest answer is not the active decision, whose number is lower
    have other : view.chain.head? ≠ some selected := by
      intro active
      have lower := EpochPolicy.Linked.number_lt_of_mem ⟨follows.verified, follows.extends_, valid.linked⟩
        selected (List.mem_of_head? active)
      rw [number] at least
      exact UInt64.lt_irrefl _ (UInt64.lt_of_lt_of_le lower least)
    have equal : selected.epoch.number = waiting.epoch.number :=
      (candidate.follows valid other).extends_.number_eq follows.extends_
    have agrees : selected.epoch.digest = decision.epoch.digest := by
      by_contra differs
      refine conflict (List.any_eq_true.2 ⟨selected, chosen, List.any_eq_true.2 ⟨decision, among, ?_⟩⟩)
      simp [equal, number, differs]
    exact allowCandidate_waited waits (shows_.distribution ▸ shows_.calm waving) equal (agrees ▸ digest)
  unfold completeSourceWave
  simp only [waving, begun, answered, same, newest, refused, ne_eq, not_true_eq_false, exists_const, or_self,
    if_false]
  split
  · exact ⟨_, rfl, _, rfl, rfl⟩
  · exact ⟨_, rfl, _, rfl, rfl⟩

end Ends

/-- An acceptance of another digest for the number that waits commits a conflict. -/
theorem accept_waited {inputs materials : List (List UInt8)} {clock : Time}
    (waits : owner.pending = some waiting) (calm : owner.distribution.conflicting = false)
    (number : decision.epoch.number = waiting.epoch.number) (digest : decision.epoch.digest ≠ waiting.epoch.digest)
    (quiet : owner.wave = none)
    (verified : policy.verifyDecision owner.now (owner.current.map Decision.epoch) raw inputs (some materials) =
      .ok decision) :
    ∃ transition, owner.accept policy raw inputs materials clock = .ok transition ∧ transition.Conflicts := by
  have refused := allowCandidate_waited waits calm number digest
  refine ⟨owner.commitDistribution { owner.observed clock with conflicting := true } owner
    (some .pendingConflict), ?_, _, rfl, rfl⟩
  unfold accept
  simp only [quiet, calm, Option.isSome_none, Bool.false_eq_true, if_false]
  refine except_bind_eq_ok.2 ⟨decision, verified, ?_⟩
  rw [refused]

/-- Two digests for one number are a conflict. -/
theorem Equivocates.conflicts (equivocates : Equivocates policy owner decision call)
    (valid : view.Valid policy) (shows_ : Shows policy owner view) (calm : view.journal.conflicting = false) :
    ∃ transition, owner.transition policy call = some transition ∧ transition.Conflicts := by
  cases equivocates with
  | accept quiet verified waits number digest =>
    obtain ⟨transition, accepted, conflicts⟩ :=
      accept_waited waits (shows_.distribution ▸ calm) number digest quiet verified
    refine ⟨transition, ?_, conflicts⟩
    rw [NetworkState.transition, accepted]
    rfl
  | waited waving begun answered among waits number digest =>
    exact completeSourceWave_waited shows_ waving begun answered valid among waits number digest
  | @sources wave _ _ other waving begun answered among against number digest =>
    refine completeSourceWave_sources shows_ waving begun answered ?_
    refine List.any_eq_true.2 ⟨decision, among, List.any_eq_true.2 ⟨other, against, ?_⟩⟩
    simp [number, digest]

/-- Nothing of the number was active. -/
theorem Equivocates.above (equivocates : Equivocates policy owner decision call)
    (valid : view.Valid policy) (shows_ : Shows policy owner view) :
    ∀ prior ∈ view.chain, prior.epoch.number < decision.epoch.number := by
  have above {answer : Decision} (follows : policy.Follows view.head answer) :
      ∀ prior ∈ view.chain, prior.epoch.number < answer.epoch.number :=
    EpochPolicy.Linked.number_lt_of_mem ⟨follows.verified, follows.extends_, valid.linked⟩
  cases equivocates with
  | accept quiet verified waits number digest =>
    rw [number]
    exact above (valid.follows _ (shows_.pending ▸ waits))
  | waited waving begun answered among waits number digest =>
    rw [number]
    exact above (valid.follows _ (shows_.pending ▸ waits))
  | @sources wave _ _ other waving begun answered among against number digest =>
    by_cases active : view.chain.head? = some decision
    · -- then the other one is new, and has a higher number
      have new : view.chain.head? ≠ some other := by
        intro same
        rw [active] at same
        exact digest (congrArg (·.epoch.digest) (Option.some.inj same))
      have lower := above ((shows_.candidate waving against).follows valid new) decision (List.mem_of_head? active)
      rw [number] at lower
      exact absurd lower (UInt64.lt_irrefl _)
    · exact above ((shows_.candidate waving among).follows valid active)

/-! ## Another digest for the active number -/

section SameNumber

/-- What a source failed with is no valid answer. -/
theorem validAnswers_answered {wave : Wave} (waving : owner.wave = some wave) (source : Fin 2) (slot : Fin 4)
    (observations : Fin 4 → UInt8) (failure : SourceFailure) :
    (owner.answered wave source (failedSourceResult slot observations failure)).validAnswers = owner.validAnswers := by
  simp [validAnswers, answered, waving, waveValid, failedSourceResult, Except.toOption]

variable {epoch : EpochEnvelope} {active : Decision} (valid : view.Valid policy) (shows_ : Shows policy owner view)
  (parsed : policy.parse raw = some epoch) (newest : owner.current = some active)
  (number : epoch.number = active.epoch.number)

include valid shows_ parsed newest number

theorem verifyDecision_sameNumber (now : Time) (inputs : List (List UInt8)) (materials : Option (List (List UInt8))) :
    policy.verifyDecision now (owner.current.map Decision.epoch) raw inputs materials = .error .transition := by
  obtain ⟨rest, chain⟩ := List.head?_eq_some_iff.1 (shows_.current.symm.trans newest)
  have linked := valid.linked
  rw [chain] at linked
  have within : ¬ epoch.number > maximumEpochChain := UInt64.not_lt.2 (number ▸ linked.2.1.1)
  have differs : epoch.number ≠ active.epoch.number + 1 := fun next => succ_ne (next.symm.trans number)
  have refused : verifyEpochChain (some active.epoch) epoch = .error .transition := by
    rw [verifyEpochChain, if_neg within]
    exact if_pos (.inl differs)
  rw [newest, Option.map_some, EpochPolicy.verifyDecision, parsed]
  dsimp only
  rw [refused]
  rfl

variable {wave : Wave} (digest : epoch.digest ≠ active.epoch.digest) (waving : owner.wave = some wave)

include digest waving

theorem verifySourceBundle_sameNumber {bundle : SourceBundle} (same : bundle.epoch = raw) (clock : Time) :
    owner.verifySourceBundle policy wave.base bundle clock = none := by
  have base : wave.base = owner.current := (shows_.base wave waving).trans shows_.current.symm
  have known : owner.current.filter (isAbout epoch) = none := by simp [newest, isAbout, digest]
  -- what waits has the next number
  have waits : owner.pending.filter (isAbout epoch) = none := by
    rw [Option.filter_eq_none_iff]
    intro waiting held about
    have extends_ := (valid.follows waiting (shows_.pending ▸ held)).extends_
    rw [← shows_.head, newest] at extends_
    have next : waiting.epoch.number = active.epoch.number + 1 := extends_.2.1
    rw [isAbout, Bool.and_eq_true, decide_eq_true_eq] at about
    exact succ_ne (next.symm.trans (about.1.symm.trans number))
  have refused := verifyDecision_sameNumber valid shows_ parsed newest number
  unfold verifySourceBundle
  rw [same, parsed, base]
  simp only [known, waits, refused]
  split <;> rfl

theorem verifyResponse_sameNumber {bundle : SourceBundle} (same : bundle.epoch = raw) {slot : Fin 4}
    {observations : Fin 4 → UInt8} {object : Digest} {failure : SourceFailure} {clock : Time} :
    owner.verifyResponse policy wave slot observations object (some bundle) failure clock =
      failedSourceResult slot observations failure := by
  rw [verifyResponse, Option.bind_some,
    verifySourceBundle_sameNumber valid shows_ parsed newest number digest waving same clock]

theorem latestAnswered_sameNumber {source : Fin 2} {answer : Answer} {failure : SourceFailure} {clock : Time}
    {transition : Transition} (carries : answer.carries raw)
    (given : owner.latestAnswered policy source answer failure clock = some transition) :
    transition.Discards owner := by
  obtain ⟨object, bundle, rfl, same⟩ := carries
  unfold latestAnswered at given
  rw [waving] at given
  dsimp only at given
  split at given
  · cases given
  rw [verifyResponse_sameNumber valid shows_ parsed newest number digest waving same] at given
  cases given
  exact ⟨by rintro ⟨state, ⟨⟩, -⟩, validAnswers_answered waving _ _ _ _, rfl⟩

theorem digestAnswered_sameNumber {source : Fin 2} {answer : Answer} {failure : SourceFailure} {clock : Time}
    {transition : Transition} (carries : answer.carries raw)
    (given : owner.digestAnswered policy source answer failure clock = some transition) :
    transition.Discards owner := by
  have calm : owner.distribution.conflicting = false := shows_.distribution ▸ shows_.calm waving
  obtain ⟨object, bundle, rfl, same⟩ := carries
  unfold digestAnswered at given
  rw [waving] at given
  dsimp only at given
  split at given
  swap
  · cases given
  split at given
  · cases given
    exact ⟨by rintro ⟨state, ⟨⟩, -⟩, validAnswers_answered waving _ _ _ _, rfl⟩
  rw [verifyResponse_sameNumber valid shows_ parsed newest number digest waving same] at given
  cases given
  refine ⟨?_, ?_, validAnswers_answered waving _ _ _ _⟩
  · rintro ⟨state, ⟨⟩, set⟩
    exact Bool.false_ne_true (calm.symm.trans set)
  · split <;> exact validAnswers_answered waving _ _ _ _

omit waving

/-- Another digest for the number of the active Epoch is refused. -/
theorem refuses_sameNumber : owner.Refuses policy raw where
  accept inputs materials clock quiet calm := by
    unfold accept
    simp only [quiet, calm, Option.isSome_none, Bool.false_eq_true, if_false]
    rw [verifyDecision_sameNumber valid shows_ parsed newest number]
    rfl
  source wave waving now inputs materials := by
    have base : wave.base = owner.current := (shows_.base wave waving).trans shows_.current.symm
    rw [base]
    exact verifyDecision_sameNumber valid shows_ parsed newest number now inputs materials
  discards call transition presents goes := by
    cases call with
    | accept given inputs materials clock =>
      cases presents
      have accepted := toOption_eq_some goes
      unfold accept at accepted
      rw [verifyDecision_sameNumber valid shows_ parsed newest number] at accepted
      split at accepted
      · cases accepted
      split at accepted <;> cases accepted
    | latest source answer failure clock =>
      cases waving : owner.wave with
      | none => simp [NetworkState.transition, latestAnswered, waving] at goes
      | some wave => exact latestAnswered_sameNumber valid shows_ parsed newest number digest waving presents goes
    | byDigest source answer failure clock =>
      cases waving : owner.wave with
      | none => simp [NetworkState.transition, digestAnswered, waving] at goes
      | some wave => exact digestAnswered_sameNumber valid shows_ parsed newest number digest waving presents goes
    | refresh | beginLatest | complete => exact presents.elim

end SameNumber

variable {root : Root}

/-- After a conflict only the Epochs of the chain were active. -/
theorem Root.Chained.exposed (chained : root.Chained policy view)
    (set : view.journal.conflicting = true) : root.active = view.chain.map Decision.epoch := by
  rcases chained.active with same | ⟨-, calm⟩
  · exact same
  · rw [set] at calm
    cases calm

/-- The Epochs that were active are those of a chain. -/
theorem Root.Chained.linked (chained : root.Chained policy view) :
    ∃ chain, policy.Linked chain ∧ root.active = chain.map Decision.epoch := by
  have whole := chained.kept.valid.linked
  rcases chained.active with same | ⟨behind, -⟩
  · exact ⟨view.chain, whole, same⟩
  refine ⟨view.chain.tail, ?_, behind⟩
  cases chain : view.chain with
  | nil => trivial
  | cons decision rest =>
    rw [chain] at whole
    exact whole.2.2

/-- After an operation that observes two digests for one number, whose commit is done. -/
theorem Equivocates.after {last : Root} {rest : List RootEvent}
    (equivocates : Equivocates policy owner decision call) (chained : root.Chained policy view)
    (runs : root.process = some owner)
    (regular : Along (Root.step policy) (fun root event => root.regular policy event = true) root
      (.call call none :: rest))
    (ran : run (Root.step policy) root (.call call none :: rest) = some last)
    (commits : ∀ transition, owner.transition policy call = some transition →
      (policy.write transition.request).result root.disk = .ok ()) :
    ∃ view', last.Chained policy view' ∧ view'.journal.conflicting = true ∧ view'.chain = view.chain := by
  have shows_ := chained.shows_ owner runs
  by_cases set : view.journal.conflicting = true
  · obtain ⟨view', chained', onward⟩ := chained.run regular ran
    exact ⟨view', chained', onward.conflicting set⟩
  obtain ⟨transition, goes, state, request, conflict⟩ :=
    equivocates.conflicts chained.kept.valid shows_ (Bool.not_eq_true _ ▸ set)
  obtain ⟨next, stepped, ran⟩ := (run_cons_eq_some _).1 ran
  obtain ⟨synced, exposed⟩ := chained.synced (by rw [runs]; rfl)
  have allowed : root.regular policy (.call call none) = true := regular.1
  rw [Root.regular, runs] at allowed
  have agrees := transition_agrees chained.kept.valid shows_ allowed goes
  have written := (write_meets synced agrees.allowed).ok () (commits transition goes)
  have after := agrees.after
  rw [request] at written after
  have chained' : next.Chained policy (view.next (.control state)) := by
    obtain ⟨owner', runs', ⟨refused, -⟩ | ⟨transition', goes', happens⟩⟩ := Root.step_call stepped
    · rw [runs] at runs'
      cases runs'
      rw [goes] at refused
      cases refused
    rw [runs] at runs'
    cases runs'
    rw [goes] at goes'
    cases goes'
    obtain ⟨stops, -⟩ | ⟨-, -, rfl⟩ | ⟨-, refusal, refused, -⟩ := happens
    · exact absurd rfl stops
    · rw [request]
      exact .running written after (.inl exposed)
    · rw [commits transition goes] at refused
      cases refused
  obtain ⟨view', chained'', onward⟩ := chained'.run (regular.2 next stepped) ran
  exact ⟨view', chained'', onward.conflicting conflict⟩

end Equivocation

/-- **One chain of Epochs.**  In every regular history the Epochs that were active are one
hash-linked chain; from every root of it on, the durable floors do not decrease, a durable
conflict stays and nothing becomes active after it, another digest for the active number is
refused without a conflict, and a second digest that an operation observes for a number is a
durable conflict when its commit is done, and no Epoch of that number becomes active. -/
theorem epoch_chain_safe (policy : EpochPolicy) (events : List RootEvent)
    (regular : Along (Root.step policy) (fun root event => root.regular policy event = true) Root.new events) :
    Throughout (Root.step policy) (fun root => HashLinked root.active ∧
        root.active.Pairwise fun newer older => older.number < newer.number) Root.new events ∧
      ∀ first second root last, events = first ++ second → run (Root.step policy) Root.new first = some root →
        run (Root.step policy) root second = some last →
          (∀ state, Durable root.disk state → ∃ state', Durable last.disk state' ∧
            state.epochFloor ≤ state'.epochFloor ∧ state.trustedTimeFloor ≤ state'.trustedTimeFloor ∧
            (state.conflicting = true → state'.conflicting = true ∧ last.active = root.active)) ∧
          (∀ owner raw epoch active, root.process = some owner → policy.parse raw = some epoch →
            owner.current = some active → epoch.number = active.epoch.number →
            epoch.digest ≠ active.epoch.digest → owner.Refuses policy raw) ∧
          ∀ owner call rest decision, second = .call call none :: rest → root.process = some owner →
            Equivocates policy owner decision call →
            (∀ transition, owner.transition policy call = some transition →
              (policy.write transition.request).result root.disk = .ok ()) →
            (∃ state', Durable last.disk state' ∧ state'.conflicting = true) ∧
              ∀ epoch ∈ last.active, epoch.number ≠ decision.epoch.number := by
  constructor
  · have keeps := Along.throughout (I := fun root => ∃ view, root.Chained policy view)
      (fun root event next held regular stepped => ?_) ⟨View.fresh, chained_new⟩ regular
    · refine keeps.imp fun root held => ?_
      obtain ⟨view, chained⟩ := held
      obtain ⟨chain, linked, active⟩ := chained.linked
      rw [active]
      exact ⟨linked.hashLinked, linked.numbers⟩
    · obtain ⟨view, chained⟩ := held
      obtain ⟨view', chained', -⟩ := chained.step regular stepped
      exact ⟨view', chained'⟩
  rintro first second root last rfl reached ran
  obtain ⟨before, after⟩ := regular.append
  obtain ⟨view, chained, -⟩ := chained_new.run before reached
  obtain ⟨view', chained', onward⟩ := chained.run (after root reached) ran
  refine ⟨fun state durable => ?_, fun owner raw epoch active runs parsed newest number digest => ?_,
    fun owner call rest decision begins runs equivocates commits => ?_⟩
  · obtain rfl := chained.kept.durable.unique durable
    refine ⟨view'.journal, chained'.kept.durable, onward.epochFloor, onward.timeFloor, fun set => ?_⟩
    obtain ⟨set', same⟩ := onward.conflicting set
    exact ⟨set', by rw [chained.exposed set, chained'.exposed set', same]⟩
  · exact refuses_sameNumber chained.kept.valid (chained.shows_ owner runs) parsed newest number digest
  subst begins
  obtain ⟨view'', chained'', set, same⟩ := equivocates.after chained runs (after root reached) ran commits
  refine ⟨⟨view''.journal, chained''.kept.durable, set⟩, fun epoch among equal => ?_⟩
  rw [chained''.exposed set, same] at among
  obtain ⟨prior, there, rfl⟩ := List.mem_map.1 among
  have lower := equivocates.above chained.kept.valid (chained.shows_ owner runs) prior there
  rw [equal] at lower
  exact UInt64.lt_irrefl _ lower

/-! ## Histories of one policy -/

/-- A wave in which both sources answer with one Epoch. -/
def answeredWave (seconds : Int64) (raw : List UInt8) : List RootEvent :=
  let answer := NetworkState.Answer.given (Block.copy 32 raw) (some ⟨raw, [], []⟩)
  [.call (.refresh (reading seconds) true Digest.zero) none,
    .call .beginLatest none, .call .beginLatest none,
    .call (.latest 0 answer .unavailable (instant seconds)) none,
    .call (.latest 1 answer .unavailable (instant seconds)) none,
    .call (.complete (reading seconds) true) none]

/-- The second Epoch waits when another second Epoch is accepted. -/
def secondDigest : List RootEvent :=
  [.opened (plainPlan 1 2) (instant 150) none, .call (.accept [1, 0] [] [] (instant 150)) none] ++
    answeredWave 160 [2, 0] ++
    [.stop, .opened (plainPlan 1 2) (instant 250) none, .call (.accept [2, 1] [] [] (instant 250)) none,
      .call (.accept [2, 0] [] [] (instant 260)) none]

theorem secondDigest_recorded :
    ((run (Root.step plainPolicy) Root.new secondDigest).map fun root =>
        (root.active.map EpochEnvelope.number, root.handed.map DistributionState.conflicting)) =
      some ([1], [true, false, false, false, false, false]) ∧
    Throughout (Root.step plainPolicy) (fun root => HashLinked root.active ∧
      root.active.Pairwise fun newer older => older.number < newer.number) Root.new secondDigest :=
  ⟨by decide +kernel, (epoch_chain_safe plainPolicy secondDigest (by decide +kernel)).1⟩

/-- Another first Epoch is presented when the first one is active. -/
def activeNumber : List RootEvent :=
  [.opened (plainPlan 1 2) (instant 300) none, .call (.accept [1, 0] [] [] (instant 300)) none,
    .call (.accept [1, 1] [] [] (instant 300)) none, .call (.accept [2, 0] [] [] (instant 300)) none]

/-- The clock is set back before the first Epoch, and the next process begins there: a
wave takes the active Epoch for one that is to come. -/
def clockBack : List RootEvent :=
  [.opened (plainPlan 1 2) (instant 250) none, .call (.accept [1, 0] [] [] (instant 50)) none, .stop,
    .opened (plainPlan 1 2) (instant 60) none] ++
    answeredWave 60 [1, 0] ++ answeredWave 260 [2, 0] ++ answeredWave 270 [1, 0]

/-- A valid Epoch with the number of the active one is refused and leaves no conflict, and
the next Epoch becomes active.  With a clock that was set back, an Epoch becomes active
again after its successor. -/
theorem activeNumber_unflagged :
    ((plainPolicy.verifyDecision (instant 300) none [1, 1] [] (some [])).toOption.map
        fun decision => (decision.epoch.number, decision.epoch.digest)) = some (1, Block.copy 32 [1, 1]) ∧
      ((run (Root.step plainPolicy) Root.new activeNumber).map fun root =>
        (root.active.map EpochEnvelope.number, root.handed.any DistributionState.conflicting)) =
          some ([2, 1], false) ∧
      ((run (Root.step plainPolicy) Root.new clockBack).map fun root =>
        root.active.map EpochEnvelope.number) = some [1, 2, 1] :=
  ⟨by decide +kernel, by decide +kernel, by decide +kernel⟩

end Ardents.State
