/-
# Endpoint.AcquisitionSafety — a grant is presented once, and the journal is resumed

* `journal_resumes` — in every history whose stops and failures leave no half-made file
  behind, no grant is presented twice, a pending request is answered with as it was, a
  late completion changes nothing, a finished attempt keeps no secret, an interrupted
  presentation is burned, and the root can always be opened.
* `interrupted_commit_is_final` — a stop after the temporary file was made, or a failed write
  whose temporary file cannot be removed, leaves a root that no open accepts.
-/
import Ardents.Endpoint.TransitAcquisition
import Ardents.Lib.Journal
import Ardents.Lib.Suite

namespace Ardents.Endpoint

open Lib Restarts Watermark Program

set_option autoImplicit false

section Journal

variable {acquisition : Acquisition} {taken : List Digest} {state old : TransitAcquisitionState}
  {current content : Option TransitAcquisitionState} {action : TransitAction} {failure : Option Failure}
  {outcome : Except TransitRefusal (Option TransitAcquisitionAttempt)} {root : TransitRoot}

/-! ## States that are stored -/

/-- A state that can be stored and, while it is open, answered with. -/
structure Storable (acquisition : Acquisition) (state : TransitAcquisitionState) : Prop where
  valid : state.valid = true
  identified : terminalTransitPhase state.phase = false → state.identified acquisition = true

variable {document : Option TransitDocument} {phase : TransitAcquisitionPhase}

theorem terminal_secrets (ends : terminalTransitPhase phase = true) :
    (state.terminal phase).secrets = true := by
  cases phase <;> first | rfl | cases ends

/-- A storable state stays so when it ends. -/
theorem Storable.terminal (storable : Storable acquisition state)
    (ends : terminalTransitPhase phase = true) : Storable acquisition (state.terminal phase) where
  valid := by
    have base := (Bool.and_eq_true_iff.1 storable.valid).1
    exact Bool.and_eq_true_iff.2 ⟨base, terminal_secrets ends⟩
  identified := by
    intro other
    rw [show (state.terminal phase).phase = phase from rfl, ends] at other
    cases other

/-- A state that has ended has no secrets. -/
theorem erased (valid : state.valid = true) (ended : terminalTransitPhase state.phase = true) :
    state.certificate = [] ∧ state.privateKey = [] ∧ state.grant = [] := by
  have secrets := (Bool.and_eq_true_iff.1 valid).2
  unfold TransitAcquisitionState.secrets at secrets
  split at secrets
  · next pending =>
    rw [pending] at ended
    cases ended
  · next ready =>
    rw [ready] at ended
    cases ended
  · next presenting =>
    rw [presenting] at ended
    cases ended
  · simp only [Bool.and_eq_true, decide_eq_true_eq] at secrets
    exact ⟨secrets.1.1, secrets.1.2, secrets.2⟩

/-- A new attempt is storable. -/
theorem beginState_storable {scope : TransitAcquisitionScope} {now : Time} {drawn : Drawn}
    (valid : validTransitAcquisitionScope scope now = true) (later : 0 < scope.notAfter.unixSeconds)
    (request : drawn.requestID ≠ Digest.zero) (attachment : drawn.attachmentID ≠ Digest.zero)
    (key : drawn.clientKeyDigest ≠ Digest.zero) (identified : (beginState scope drawn).identified acquisition = true) :
    Storable acquisition (beginState scope drawn) where
  valid := by
    have attached : (beginState scope drawn).attachmentID ≠ Digest.zero := by
      show (if scope.attachmentID = Digest.zero then drawn.attachmentID else scope.attachmentID) ≠ Digest.zero
      split
      · exact attachment
      · next other => exact other
    simp only [validTransitAcquisitionScope, Bool.and_eq_true, decide_eq_true_eq] at valid
    simp only [TransitAcquisitionState.identified, Bool.and_eq_true, decide_eq_true_eq] at identified
    refine Bool.and_eq_true_iff.2 ⟨?_, ?_⟩
    · simp only [TransitAcquisitionState.base, Bool.and_eq_true, decide_eq_true_eq]
      obtain ⟨⟨⟨⟨⟨⟨⟨⟨⟨⟨a, b⟩, c⟩, d⟩, e⟩, f⟩, g⟩, h⟩, i⟩, _⟩, _⟩ := valid
      exact ⟨⟨⟨⟨⟨⟨⟨⟨⟨⟨⟨⟨a, b⟩, c⟩, d⟩, e⟩, f⟩, g⟩, h⟩, i⟩, later⟩, request⟩, attached⟩, key⟩
    · show (decide (drawn.certificate ≠ []) && decide (drawn.privateKey.length = 64) &&
        decide (([] : List UInt8) = [])) = true
      simp only [Bool.and_eq_true, decide_eq_true_eq]
      exact ⟨identified.1, trivial⟩
  identified := fun _ => identified

/-! ## What a call commits -/

/-- The request whose grant a call asks for. -/
def TransitAction.presentation : TransitAction → Option Digest
  | .presents requestID _ => some requestID
  | _ => none

/-- The request that a completion is of. -/
def TransitAction.requestID : TransitAction → Option Digest
  | .begins _ _ _ => none
  | .fails requestID | .commits requestID _ | .presents requestID _ | .finishes requestID _ => some requestID

/-- The four ways in which a call changes the state that was stored. -/
inductive Moves (acquisition : Acquisition) (current : Option TransitAcquisitionState) :
    TransitAction → TransitAcquisitionState → Prop where
  /-- a new attempt, when there is none or it has ended -/
  | begins {scope : TransitAcquisitionScope} {now : Time} {drawn : Drawn}
      (free : ∀ old, current = some old → terminalTransitPhase old.phase = true)
      (valid : validTransitAcquisitionScope scope now = true)
      (identified : (beginState scope drawn).identified acquisition = true) :
      Moves acquisition current (.begins scope now drawn) (beginState scope drawn)
  | ends {action : TransitAction} {old : TransitAcquisitionState} {phase : TransitAcquisitionPhase}
      (stored : current = some old) (opened : terminalTransitPhase old.phase = false)
      (ends : terminalTransitPhase phase = true) (other : action.presentation = none) :
      Moves acquisition current action (old.terminal phase)
  | readies {old : TransitAcquisitionState} {raw : List UInt8} {grant : TransitGrant} (stored : current = some old)
      (pending : old.phase = .pending)
      (verified : acquisition.verifyTransitGrant raw old.grantSignerPublicKey = some grant) :
      Moves acquisition current (.commits old.requestID (.issued raw)) { old with phase := .ready, grant := raw }
  | presents {old : TransitAcquisitionState} {scope : TransitAcquisitionScope} (stored : current = some old)
      (ready : old.phase = .ready) :
      Moves acquisition current (.presents old.requestID scope) { old with phase := .presenting }

/-- What a call may decide: a refusal leaves the owner as it was, or without an attempt that had
ended; only `begin` is answered without a commit. -/
def Decides (acquisition : Acquisition) (current : Option TransitAcquisitionState) (action : TransitAction) :
    TransitDecision → Prop
  | .refuses _ left => left = current ∨ left = none ∧ ∀ old, current = some old → terminalTransitPhase old.phase = true
  | .answers _ => action.presentation = none
  | .commits state _ => Moves acquisition current action state

theorem decides_fresh {scope : TransitAcquisitionScope} {now : Time} {drawn : Drawn}
    (valid : validTransitAcquisitionScope scope now = true)
    (free : ∀ old, current = some old → terminalTransitPhase old.phase = true) :
    Decides acquisition current (.begins scope now drawn) (beginFresh acquisition scope drawn) := by
  unfold beginFresh
  split
  · exact .inr ⟨rfl, free⟩
  · next identified => exact .begins free valid (by simpa using identified)

/-- A completion is of the current attempt. -/
theorem decides_completes {requestID : Digest} {idle : TransitRefusal}
    {decide : TransitAcquisitionState → TransitDecision}
    (mine : ∀ old, current = some old → old.requestID = requestID → Decides acquisition current action (decide old)) :
    Decides acquisition current action (completes current requestID idle decide) := by
  unfold completes
  split
  · exact .inl rfl
  next old =>
  split
  · exact .inl rfl
  · next same => exact mine old rfl (Decidable.not_not.1 same)

theorem decides_commit (result : TransitResult) :
    Decides acquisition (some old) (.commits old.requestID result) (commitTransit acquisition old result) := by
  unfold commitTransit
  split
  · exact .inl rfl
  next pending =>
  have pending : old.phase = .pending := Decidable.not_not.1 pending
  have opened : terminalTransitPhase old.phase = false := by rw [pending]; rfl
  split
  · split
    · next grant verified =>
      split
      · exact .readies rfl pending verified
      · exact .ends rfl opened rfl rfl
    · exact .ends rfl opened rfl rfl
  all_goals exact .ends rfl opened rfl rfl

/-- **What a call decides.** -/
theorem decides (acquisition : Acquisition) (current : Option TransitAcquisitionState) (action : TransitAction) :
    Decides acquisition current action (decideTransit acquisition current action) := by
  cases action with
  | begins scope now drawn =>
    simp only [decideTransit, beginTransit]
    split
    · exact .inl rfl
    next valid =>
    have valid : validTransitAcquisitionScope scope now = true := by simpa using valid
    split
    · exact decides_fresh valid nofun
    next old =>
    split
    · next ended =>
      split
      · exact .inl rfl
      · exact decides_fresh valid fun _ same => Option.some.inj same ▸ ended
    next opened =>
    split
    · exact .ends rfl (by simpa using opened) rfl rfl
    · split
      · exact rfl
      · exact .inl rfl
  | fails requestID =>
    refine decides_completes fun old stored mine => ?_
    subst stored mine
    unfold failTransit
    split
    · next opened => exact .ends rfl (by rcases opened with phase | phase <;> rw [phase] <;> rfl) rfl rfl
    · exact .inl rfl
  | commits requestID result =>
    refine decides_completes fun old stored mine => ?_
    subst stored mine
    exact decides_commit result
  | presents requestID scope =>
    refine decides_completes fun old stored mine => ?_
    subst stored mine
    unfold presentTransit
    split
    · exact .inl rfl
    · next ready => exact .presents rfl (Decidable.not_not.1 (not_or.1 ready).1)
  | finishes requestID presented =>
    refine decides_completes fun old stored mine => ?_
    subst stored mine
    unfold finishTransit
    split
    · exact .inl rfl
    next presenting =>
    refine .ends rfl (by rw [Decidable.not_not.1 presenting]; rfl) ?_ rfl
    cases presented <;> rfl

/-- What a new attempt needs for its state to be storable. -/
def Dated : TransitAction → Prop
  | .begins scope _ drawn => 0 < scope.notAfter.unixSeconds ∧ drawn.requestID ≠ Digest.zero ∧
      drawn.attachmentID ≠ Digest.zero ∧ drawn.clientKeyDigest ≠ Digest.zero
  | _ => True

/-- A change of the grant or of an open phase leaves the identity. -/
theorem Storable.readied (storable : Storable acquisition old) (pending : old.phase = .pending) {raw : List UInt8}
    {grant : TransitGrant} (verified : acquisition.verifyTransitGrant raw old.grantSignerPublicKey = some grant) :
    Storable acquisition { old with phase := .ready, grant := raw } where
  valid := by
    obtain ⟨base, secrets⟩ := Bool.and_eq_true_iff.1 storable.valid
    unfold Acquisition.verifyTransitGrant at verified
    split at verified
    · next length =>
      simp only [TransitAcquisitionState.secrets, pending, Bool.and_eq_true, decide_eq_true_eq] at secrets
      refine Bool.and_eq_true_iff.2 ⟨base, ?_⟩
      simp only [TransitAcquisitionState.secrets, Bool.and_eq_true, decide_eq_true_eq]
      refine ⟨⟨secrets.1, ?_⟩, ?_⟩
      · rintro rfl
        cases length
      · rw [length]
        decide
    · cases verified
  identified := fun _ => storable.identified (by rw [pending]; rfl)

theorem Storable.presenting (storable : Storable acquisition old) (ready : old.phase = .ready) :
    Storable acquisition { old with phase := .presenting } where
  valid := by
    obtain ⟨base, secrets⟩ := Bool.and_eq_true_iff.1 storable.valid
    refine Bool.and_eq_true_iff.2 ⟨base, ?_⟩
    simp only [TransitAcquisitionState.secrets, ready] at secrets
    exact secrets
  identified := fun _ => storable.identified (by rw [ready]; rfl)

/-- What a call commits can be stored. -/
theorem Moves.storable (moves : Moves acquisition current action state)
    (before : ∀ old, current = some old → Storable acquisition old) (dated : Dated action) :
    Storable acquisition state := by
  cases moves with
  | begins free valid identified =>
    obtain ⟨later, request, attachment, key⟩ := dated
    exact beginState_storable valid later request attachment key identified
  | ends stored opened ends other => exact (before _ stored).terminal ends
  | readies stored pending verified => exact (before _ stored).readied pending verified
  | presents stored ready => exact (before _ stored).presenting ready

/-! ## The root -/

/-- A root that nothing was put into. -/
def unclaimedRoot (made : Bool) : TransitRoot := ⟨made, false, .absent, ⟨none, []⟩⟩

/-- An initialized root without a temporary file. -/
def claimedRoot (document : Option TransitDocument) : TransitRoot := ⟨true, true, .whole, ⟨document, []⟩⟩

/-- A file was made and not completed: the temporary file of a commit, or the lock of a root
whose marker is not whole. -/
def TransitRoot.halfMade (root : TransitRoot) : Bool :=
  !root.slot.temporaries.isEmpty || root.lock && decide (root.marker ≠ .whole)

/-- What is in a root that no half-made file is in. -/
inductive Stands (acquisition : Acquisition) : Option TransitAcquisitionState → TransitRoot → Prop where
  | unclaimed (made : Bool) : Stands acquisition none (unclaimedRoot made)
  | empty : Stands acquisition none (claimedRoot none)
  | holds {document : TransitDocument} (storable : Storable acquisition document.state) :
      Stands acquisition (some document.state) (claimedRoot (some document))

theorem Stands.second (storable : Storable acquisition state) :
    Stands acquisition (some state) (claimedRoot (some (.second state))) := by
  have holds : Stands acquisition (some (TransitDocument.second state).state) (claimedRoot (some (.second state))) :=
    .holds storable
  exact holds

/-- The root is initialized. -/
def TransitRoot.claimed (root : TransitRoot) : Prop := ∃ document, root = claimedRoot document

theorem Stands.storable (stands : Stands acquisition (some state) root) : Storable acquisition state := by
  cases stands with
  | holds storable => exact storable

/-! ### A commit -/

/-- A commit with an answer after it. -/
def committing {α : Type} (state : TransitAcquisitionState) (failure : Option Failure)
    (answer : Except TransitFailure α) :
    Plan TransitDocument TransitFailure α := .commits (.second state) failure (.commit, ⟨some state, true⟩) answer

/-- A plan for the document of a root. -/
def carry {α : Type} (plan : Plan TransitDocument TransitFailure α) : Program TransitRoot TransitFailure α :=
  plan.program TransitRoot.slot fun root slot => { root with slot }

theorem commit_planned {α : Type} (failure : Option Failure) (answer : Except TransitFailure α)
    (valid : state.valid = true) :
    (commitTransitState state failure >>= fun _ => Program.lift answer) = carry (committing state failure answer) := by
  rw [commitTransitState, if_neg (by simp [valid])]
  rfl

/-- The root after a commit. -/
theorem Stands.settled (claimed : root.claimed) (storable : Storable acquisition state) :
    TransitRoot.claimed { root with slot := root.slot.settled (.second state) } ∧
      Stands acquisition (some state) { root with slot := root.slot.settled (.second state) } := by
  obtain ⟨document, rfl⟩ := claimed
  exact ⟨⟨_, rfl⟩, .second storable⟩

/-! ### An open -/

section Opens

variable {document : Option TransitDocument} {request : TransitOpening} {effects : Nat}
  {point : TransitRoot} {made : Bool}

theorem load_claimed (stands : Stands acquisition content (claimedRoot document)) :
    loadTransitAcquisitionState (claimedRoot document) = .ok content := by
  cases stands with
  | empty => rfl
  | holds storable =>
    simp only [loadTransitAcquisitionState, claimedRoot, decodeTransitAcquisitionState, storable.valid, if_true]

/-- An open of an initialized root only resumes. -/
theorem open_claimed (request : TransitOpening)
    (stands : Stands acquisition content (claimedRoot document)) (set : request.now.isZero = false) :
    openTransitAcquisition request (claimedRoot document) =
      resumeTransitAcquisition request.now request.failure content (claimedRoot document) := by
  have made : makeTransitRoot request (claimedRoot document) = pure () := rfl
  have inspected : inspectTransitRoot request.create (claimedRoot document) = .ok () := rfl
  have locked : lockTransitRoot request (claimedRoot document) = pure () := rfl
  have marked : initializeTransitAcquisitionRoot request (claimedRoot document) = pure () := rfl
  rw [openTransitAcquisition, if_neg (by simp [set]), look_bind, made, pure_bind_apply, look_bind,
    inspected, lift_ok_bind, look_bind, locked, pure_bind_apply, look_bind, marked,
    pure_bind_apply, look_bind, load_claimed stands, lift_ok_bind]

theorem reopened_storable (now : Time) (storable : Storable acquisition state) :
    Storable acquisition (reopened state now) := by
  unfold reopened
  split
  · exact storable.terminal rfl
  · split
    · exact storable.terminal rfl
    · exact storable

/-- What an open does to a state. -/
theorem reopened_eq (now : Time) : reopened state now = state ∨
    terminalTransitPhase state.phase = false ∧ ∃ phase, terminalTransitPhase phase = true ∧
      reopened state now = state.terminal phase := by
  unfold reopened
  split
  · next presenting => exact .inr ⟨by rw [presenting]; rfl, .burned, rfl, rfl⟩
  split
  · next expired =>
    simp only [Bool.and_eq_true, Bool.not_eq_true'] at expired
    exact .inr ⟨expired.2, .unavailable, rfl, rfl⟩
  · exact .inl rfl

/-- A root that nothing was stored in, or one that is half made. -/
def Vacant (acquisition : Acquisition) (root : TransitRoot) : Prop :=
  Stands acquisition none root ∨ root.halfMade = true

/-- A root with its lock alone. -/
def lockedRoot : TransitRoot := ⟨true, true, .absent, ⟨none, []⟩⟩

theorem make_meets (request : TransitOpening) (made : Bool) :
    Meets (makeTransitRoot request (unclaimedRoot made)) (unclaimedRoot made) (Vacant acquisition)
      (fun _ after => after = unclaimedRoot true) (fun _ after => Vacant acquisition after) := by
  have vacant : Vacant acquisition (unclaimedRoot made) := .inl (.unclaimed made)
  unfold makeTransitRoot
  split
  · next already =>
    cases made with
    | true => exact meets_pure rfl
    | false => cases already
  split
  · exact meets_refuse vacant
  split
  · exact meets_refuse vacant
  · exact meets_effect (.inl (.unclaimed true)) rfl

theorem lock_meets (request : TransitOpening) :
    Meets (lockTransitRoot request (unclaimedRoot true)) (unclaimedRoot true) (Vacant acquisition)
      (fun _ after => after = lockedRoot) (fun _ after => Vacant acquisition after) := by
  unfold lockTransitRoot
  rw [if_neg (by exact Bool.false_ne_true)]
  split
  · exact meets_refuse (.inl (.unclaimed true))
  · exact meets_effect (.inr rfl) rfl

theorem initialize_meets (request : TransitOpening) :
    Meets (initializeTransitAcquisitionRoot request lockedRoot) lockedRoot (Vacant acquisition)
      (fun _ after => after = claimedRoot none) (fun _ after => Vacant acquisition after) := by
  have locked : Vacant acquisition lockedRoot := .inr rfl
  rw [initializeTransitAcquisitionRoot, show lockedRoot.marker = .absent from rfl]
  dsimp only
  split
  · exact meets_refuse locked
  split
  · exact meets_refuse locked
  split
  · exact meets_refuse locked
  -- the marker is torn until its text is written
  refine meets_effect_bind (.inr rfl) ?_
  split
  · exact meets_bind (meets_refuse (.inr rfl)) fun _ _ => False.elim
  · exact meets_effect (.inl .empty) rfl

/-- An open of a root that nothing was put into makes it, or leaves it half made. -/
theorem open_unclaimed (request : TransitOpening) (made : Bool) :
    Meets (openTransitAcquisition request) (unclaimedRoot made) (Vacant acquisition)
      (fun owner after => owner = ⟨none, false⟩ ∧ after = claimedRoot none)
      (fun _ after => Vacant acquisition after) := by
  unfold openTransitAcquisition
  split
  · exact meets_refuse (.inl (.unclaimed made))
  refine meets_look_bind (meets_bind (make_meets request made) ?_)
  rintro _ _ rfl
  refine meets_look_bind (meets_lift_bind (fun _ _ => ?_) fun _ _ => .inl (.unclaimed true))
  refine meets_look_bind (meets_bind (lock_meets request) ?_)
  rintro _ _ rfl
  refine meets_look_bind (meets_bind (initialize_meets request) ?_)
  rintro _ _ rfl
  exact meets_look_bind (meets_ok_bind (meets_pure ⟨rfl, rfl⟩))

theorem open_zero (zero : request.now.isZero = true) :
    openTransitAcquisition request root = ⟨[], root, .error (.incomplete, .blank)⟩ := by
  rw [openTransitAcquisition, if_pos zero]
  rfl

/-- An open resumes what is stored as it is, or commits its end. -/
theorem resume_planned (failure : Option Failure) (now : Time) (content : Option TransitAcquisitionState)
    (stored : ∀ state, content = some state → Storable acquisition state) :
    (resumeTransitAcquisition now failure content = carry (.answers (.ok ⟨content, false⟩)) ∧
        (content.map fun state => reopened state now) = content) ∨
      ∃ state, content = some state ∧
        (∃ phase, terminalTransitPhase phase = true ∧ reopened state now = state.terminal phase) ∧
        resumeTransitAcquisition now failure content =
          carry (committing (reopened state now) failure (.ok ⟨some (reopened state now), false⟩)) := by
  cases content with
  | none => exact .inl ⟨rfl, rfl⟩
  | some state =>
    by_cases same : reopened state now = state
    · refine .inl ⟨?_, congrArg some same⟩
      rw [resumeTransitAcquisition, if_pos same]
      rfl
    · refine .inr ⟨state, rfl, ((reopened_eq now).resolve_left same).2, ?_⟩
      rw [resumeTransitAcquisition, if_neg same]
      exact commit_planned failure _ (reopened_storable now (stored state rfl)).valid

end Opens

/-! ## Histories -/

/-- The requests whose grant was returned, newest first. -/
def presented (past : List (TransitEvent × Option (Option TransitAcquisitionAttempt))) : List Digest :=
  past.filterMap fun entry =>
    match entry with
    | (.calls call _, some _) => call.action.presentation
    | _ => none

/-- What a usable owner has is what is stored; the end of an attempt it may have dropped. -/
def Mirrors (current content : Option TransitAcquisitionState) : Prop :=
  current = content ∨ current = none ∧ ∃ state, content = some state ∧ terminalTransitPhase state.phase = true

/-- Whoever owns the root has claimed it and, unless a commit failed, has what is stored. -/
abbrev Serves (held : Option TransitOwner) (content : Option TransitAcquisitionState) (root : TransitRoot) : Prop :=
  ∀ owner, held = some owner → root.claimed ∧ (owner.failed = false → Mirrors owner.state content)

/-- A world in which `content` is stored. -/
structure Sound (acquisition : Acquisition) (taken : List Digest) (content : Option TransitAcquisitionState)
    (world : TransitWorld) : Prop where
  stands : Stands acquisition content world.disk
  held : Serves world.held content world.disk
  drawn : ∀ state, content = some state → state.requestID ∈ taken ++ begun world.past
  known : ∀ requestID ∈ presented world.past, requestID ∈ taken ++ begun world.past
  once : (presented world.past).Nodup
  /-- an attempt that was presented is never ready again -/
  after : ∀ state, content = some state → state.requestID ∈ presented world.past →
    state.phase ≠ .pending ∧ state.phase ≠ .ready

variable {world next : TransitWorld}

variable (past : List (TransitEvent × Option (Option TransitAcquisitionAttempt)))
  {entry : TransitEvent × Option (Option TransitAcquisitionAttempt)}

theorem begun_cons {requestID : Digest} (member : requestID ∈ taken ++ begun world.past) :
    requestID ∈ taken ++ begun (entry :: world.past) := by
  rcases List.mem_append.1 member with early | drawn
  · exact List.mem_append_left _ early
  refine List.mem_append_right _ ?_
  rw [begun, List.filterMap_cons]
  split
  · exact drawn
  · exact List.mem_cons_of_mem _ drawn

variable {content' : Option TransitAcquisitionState} {point : TransitRoot} {held : Option TransitOwner}
  {cut : Option Nat} {request : TransitOpening} {call : TransitCall} {owner : TransitOwner}

/-- Nothing is presented, and what is stored now was drawn and is not one that was presented and is
ready again. -/
theorem Sound.stores (sound : Sound acquisition taken content world) (stands : Stands acquisition content' point)
    (serves : Serves held content' point)
    (silent : presented (entry :: world.past) = presented world.past)
    (drawn : ∀ state, content' = some state → state.requestID ∈ taken ++ begun (entry :: world.past))
    (after : ∀ state, content' = some state → state.requestID ∈ presented world.past →
      state.phase ≠ .pending ∧ state.phase ≠ .ready) :
    Sound acquisition taken content' ⟨point, held, entry :: world.past⟩ where
  stands := stands
  held := serves
  drawn := drawn
  known := by
    intro requestID member
    rw [silent] at member
    exact begun_cons (sound.known requestID member)
  once := silent ▸ sound.once
  after := by
    rw [silent]
    exact after

/-- What is stored is as it was, or has ended. -/
def Ends (content content' : Option TransitAcquisitionState) : Prop :=
  content' = content ∨ ∃ state phase, content = some state ∧ terminalTransitPhase phase = true ∧
    content' = some (state.terminal phase)

/-- Nothing is presented, and what is stored is as it was or has ended. -/
theorem Sound.kept (sound : Sound acquisition taken content world) (stands : Stands acquisition content' point)
    (serves : Serves held content' point)
    (silent : presented (entry :: world.past) = presented world.past)
    (follows : Ends content content') :
    Sound acquisition taken content' ⟨point, held, entry :: world.past⟩ := by
  rcases follows with rfl | ⟨old, phase, rfl, ends, rfl⟩
  · exact sound.stores stands serves silent (fun state stored => begun_cons (sound.drawn state stored)) sound.after
  refine sound.stores stands serves silent ?_ ?_
  · rintro _ ⟨⟩
    exact begun_cons (sound.drawn old rfl)
  · rintro _ ⟨⟩ _
    constructor <;> rintro rfl <;> cases ends

theorem presented_none (event : TransitEvent) :
    presented ((event, none) :: past) = presented past := by
  cases event <;> rfl

theorem presented_other (action : TransitAction) (other : action.presentation = none)
    (failure : Option Failure) (cut : Option Nat)
    (answer : Option (Option TransitAcquisitionAttempt)) :
    presented ((.calls ⟨action, failure⟩ cut, answer) :: past) = presented past := by
  cases answer with
  | none => exact presented_none past _
  | some answer =>
    rw [presented, List.filterMap_cons]
    dsimp only
    rw [other]
    rfl

/-- An attempt that the owner has is stored. -/
theorem Mirrors.stored (mirrors : Mirrors current content) (has : current = some old) : content = some old := by
  rcases mirrors with same | ⟨none, _⟩
  · exact same.symm.trans has
  · cases none.symm.trans has

/-- A call commits the next state of the attempt. -/
theorem Sound.moved {answer : Option (Option TransitAcquisitionAttempt)}
    (sound : Sound acquisition taken content world) (mirrors : Mirrors current content)
    (moves : Moves acquisition current action state)
    (draws : world.draws taken (.calls ⟨action, failure⟩ cut) = true)
    (stands : Stands acquisition (some state) point)
    (serves : Serves held (some state) point) :
    Sound acquisition taken (some state) ⟨point, held, (.calls ⟨action, failure⟩ cut, answer) :: world.past⟩ := by
  cases moves with
  | @begins scope now drawn free valid identified =>
    simp only [TransitWorld.draws, Bool.and_eq_true, Bool.not_eq_true', List.contains_eq_mem,
      decide_eq_false_iff_not] at draws
    refine sound.stores stands serves (presented_other world.past _ rfl failure cut answer) ?_ ?_
    · rintro _ ⟨⟩
      exact List.mem_append_right _ List.mem_cons_self
    · rintro _ ⟨⟩ member
      exact (draws.1.1.1 (sound.known _ member)).elim
  | ends before opened ends other =>
    exact sound.kept stands serves (presented_other world.past _ other failure cut answer)
      (.inr ⟨_, _, mirrors.stored before, ends, rfl⟩)
  | @readies old raw grant before pending verified =>
    have here := mirrors.stored before
    refine sound.stores stands serves (presented_other world.past _ rfl failure cut answer) ?_ ?_
    · rintro _ ⟨⟩
      exact begun_cons (sound.drawn old here)
    · rintro _ ⟨⟩ member
      exact ((sound.after old here member).1 pending).elim
  | @presents old scope before ready =>
    have here := mirrors.stored before
    have drawn := sound.drawn old here
    have unpresented : old.requestID ∉ presented world.past := fun member => (sound.after old here member).2 ready
    have extends_ : presented ((.calls ⟨.presents old.requestID scope, failure⟩ cut, answer) :: world.past) =
        presented world.past ∨
        presented ((.calls ⟨.presents old.requestID scope, failure⟩ cut, answer) :: world.past) =
          old.requestID :: presented world.past := by
      cases answer with
      | none => exact .inl (presented_none _ _)
      | some answer => exact .inr rfl
    refine ⟨stands, serves, ?_, ?_, ?_, ?_⟩
    · rintro _ ⟨⟩
      exact begun_cons drawn
    · intro requestID member
      rcases extends_ with same | more
      · rw [same] at member
        exact begun_cons (sound.known requestID member)
      rw [more] at member
      rcases List.mem_cons.1 member with rfl | earlier
      · exact begun_cons drawn
      · exact begun_cons (sound.known requestID earlier)
    · rcases extends_ with same | more
      · exact same ▸ sound.once
      · exact more ▸ List.nodup_cons.2 ⟨unpresented, sound.once⟩
    · rintro _ ⟨⟩ _
      exact ⟨nofun, nofun⟩

/-! ### Events that leave no half-made file -/

/-- An attempt begins with a deadline after 1970. -/
def TransitEvent.dated : TransitEvent → Prop
  | .calls ⟨.begins scope _ _, _⟩ _ => 0 < scope.notAfter.unixSeconds
  | _ => True

/-- The event leaves no half-made file, whether it ends, fails or the process stops, and an
attempt does not begin with a deadline before 1970. -/
def Whole (acquisition : Acquisition) (taken : List Digest) (world : TransitWorld) (event : TransitEvent) : Prop :=
  (∀ next ∈ world.step acquisition taken event, next.disk.halfMade = false) ∧ event.dated

theorem dated_of_draws {failure : Option Failure} (dated : TransitEvent.dated (.calls ⟨action, failure⟩ cut))
    (draws : world.draws taken (.calls ⟨action, failure⟩ cut) = true) : Dated action := by
  cases action with
  | begins scope now drawn =>
    simp only [TransitWorld.draws, Bool.and_eq_true, decide_eq_true_eq] at draws
    exact ⟨dated, draws.1.1.2, draws.1.2, draws.2⟩
  | fails | commits | presents | finishes => trivial

/-- A root without a half-made file has no temporary file. -/
theorem untouched (entire : root.halfMade = false) (slot : Slot TransitDocument) : ¬ slot.Littered root.slot := by
  rw [TransitRoot.halfMade, Bool.or_eq_false_iff, Bool.not_eq_false', List.isEmpty_iff] at entire
  rw [Slot.Littered, entire.1]
  exact Nat.not_lt_zero _

/-! ### A call -/

theorem Mirrors.left {left : Option TransitAcquisitionState} (mirrors : Mirrors current content)
    (follows : left = current ∨ left = none ∧ ∀ old, current = some old → terminalTransitPhase old.phase = true) :
    Mirrors left content := by
  rcases follows with rfl | ⟨rfl, ended⟩
  · exact mirrors
  rcases mirrors with rfl | ⟨_, ends⟩
  · cases current with
    | none => exact .inl rfl
    | some old => exact .inr ⟨rfl, old, rfl, ended old rfl⟩
  · exact .inr ⟨rfl, ends⟩

/-- The call of an owner that commits nothing. -/
theorem Sound.quiet {answer : Except TransitFailure (TransitOwner × Option TransitAcquisitionAttempt)}
    (sound : Sound acquisition taken content world) (held : world.held = some owner)
    (planned : owner.perform acquisition call = carry (.answers answer))
    (keeps : match answer with
      | .ok value => call.action.presentation = none ∧ value.1 = owner
      | .error failed => failed.2.failed = false → Mirrors failed.2.state content)
    (entire : next.disk.halfMade = false)
    (stepped : Restarts.step (transitAcquisition acquisition) world (.calls call cut) = some next) :
    Sound acquisition taken content next := by
  obtain ⟨point, outcome, lands, rfl⟩ := calls_lands rfl (fun _ => rfl) (untouched entire world.disk.slot)
    (.answers answer) held (congrFun planned world.disk) stepped
  cases lands with
  | stopped => exact sound.kept sound.stands nofun (presented_none _ _) (.inl rfl)
  | answered =>
    obtain ⟨action, failure⟩ := call
    cases answer with
    | ok value =>
      obtain ⟨other, same⟩ := keeps
      refine sound.kept sound.stands ?_ (presented_other _ action other failure cut _) (.inl rfl)
      rintro _ ⟨⟩
      exact same ▸ sound.held owner held
    | error failed =>
      refine sound.kept sound.stands ?_ (presented_none _ _) (.inl rfl)
      rintro _ ⟨⟩
      exact ⟨(sound.held owner held).1, keeps⟩

/-- The answer that follows a commit. -/
def concluded (state : TransitAcquisitionState) (outcome : Except TransitRefusal (Option TransitAcquisitionAttempt)) :
    Except TransitFailure (TransitOwner × Option TransitAcquisitionAttempt) :=
  match outcome with
  | .ok answer => .ok (⟨some state, false⟩, answer)
  | .error refusal => .error (refusal, ⟨some state, false⟩)

theorem perform_commits (call : TransitCall) (usable : owner.failed = false)
    (decided : decideTransit acquisition owner.state call.action = .commits state outcome)
    (valid : state.valid = true) :
    owner.perform acquisition call = carry (committing state call.failure (concluded state outcome)) := by
  rw [TransitOwner.perform, if_neg (by simp [usable]), decided, ← commit_planned call.failure _ valid]
  cases outcome <;> rfl

section Calls

variable (sound : Sound acquisition taken content world) (entire : next.disk.halfMade = false)
  (dated : TransitEvent.dated (.calls call cut)) (draws : world.draws taken (.calls call cut) = true)
  (stepped : Restarts.step (transitAcquisition acquisition) world (.calls call cut) = some next)

include sound entire dated draws stepped

theorem Sound.commits (held : world.held = some owner) (usable : owner.failed = false)
    (decided : decideTransit acquisition owner.state call.action = .commits state outcome) :
    ∃ content', Sound acquisition taken content' next := by
  obtain ⟨action, failure⟩ := call
  obtain ⟨claimed, mirrored⟩ := sound.held owner held
  have mirrors := mirrored usable
  have moves : Moves acquisition owner.state action state := by
    have spec := decides acquisition owner.state action
    rw [decided] at spec
    exact spec
  have before : ∀ old, owner.state = some old → Storable acquisition old := by
    intro old has
    exact (mirrors.stored has ▸ sound.stands).storable
  have storable := moves.storable before (dated_of_draws dated draws)
  obtain ⟨claimed', stands⟩ := Stands.settled claimed storable
  obtain ⟨point, result, lands, rfl⟩ := calls_lands rfl (fun _ => rfl) (untouched entire world.disk.slot)
    (committing state failure (concluded state outcome)) held
    (congrFun (perform_commits ⟨action, failure⟩ usable decided storable.valid) world.disk) stepped
  cases lands with
  | stopped => exact ⟨content, sound.kept sound.stands nofun (presented_none _ _) (.inl rfl)⟩
  | stoppedLate => exact ⟨some state, sound.moved mirrors moves draws stands nofun⟩
  | committed =>
    cases outcome <;>
    · refine ⟨some state, sound.moved mirrors moves draws stands ?_⟩
      rintro _ ⟨⟩
      exact ⟨claimed', fun _ => .inl rfl⟩
  | failed =>
    refine ⟨content, sound.kept sound.stands ?_ (presented_none _ _) (.inl rfl)⟩
    rintro _ ⟨⟩
    exact ⟨claimed, nofun⟩
  | failedLate =>
    refine ⟨some state, sound.moved mirrors moves draws stands ?_⟩
    rintro _ ⟨⟩
    exact ⟨claimed', nofun⟩

theorem Sound.step_calls : ∃ content', Sound acquisition taken content' next := by
  obtain ⟨owner, held⟩ := held_of_calls stepped
  cases failed : owner.failed with
  | true =>
    have planned : owner.perform acquisition call = carry (.answers (.error (.restart, owner))) := by
      rw [TransitOwner.perform, if_pos failed]
      rfl
    exact ⟨content, sound.quiet held planned (fun usable => nomatch usable.symm.trans failed) entire stepped⟩
  | false =>
    have mirrors := (sound.held owner held).2 failed
    have spec := decides acquisition owner.state call.action
    cases decided : decideTransit acquisition owner.state call.action with
    | refuses refusal left =>
      rw [decided] at spec
      have planned : owner.perform acquisition call = carry (.answers (.error (refusal, ⟨left, false⟩))) := by
        rw [TransitOwner.perform, if_neg (by simp [failed]), decided]
        rfl
      exact ⟨content, sound.quiet held planned (fun _ => mirrors.left spec) entire stepped⟩
    | answers attempt =>
      rw [decided] at spec
      have planned : owner.perform acquisition call = carry (.answers (.ok (owner, some attempt))) := by
        rw [TransitOwner.perform, if_neg (by simp [failed]), decided]
        rfl
      exact ⟨content, sound.quiet held planned ⟨spec, rfl⟩ entire stepped⟩
    | commits state outcome => exact sound.commits entire dated draws stepped held failed decided

end Calls

/-! ### An open -/

/-- The world after an open of an initialized root, in which `content'` is stored. -/
theorem Sound.opened {outcome : Option (Except TransitFailure TransitOwner)}
    (sound : Sound acquisition taken content world) (stands : Stands acquisition content' point)
    (held : ∀ store, outcome = some (.ok store) → point.claimed ∧ store = ⟨content', false⟩)
    (follows : Ends content content') :
    Sound acquisition taken content' (opened outcome world request cut point) := by
  rcases outcome with _ | _ | store
  · exact sound.kept stands nofun (presented_none _ _) follows
  · exact sound.kept stands nofun (presented_none _ _) follows
  · refine sound.kept stands ?_ (presented_none _ _) follows
    rintro _ ⟨⟩
    obtain ⟨claimed, rfl⟩ := held store rfl
    exact ⟨claimed, fun _ => .inl rfl⟩

section Opens

variable (entire : next.disk.halfMade = false)
  (stepped : Restarts.step (transitAcquisition acquisition) world (.opens request cut) = some next)

include entire stepped

/-- An open that only refuses. -/
theorem Sound.refused {refusal : TransitFailure} (sound : Sound acquisition taken content world)
    (program : openTransitAcquisition request world.disk = ⟨[], world.disk, .error refusal⟩) :
    Sound acquisition taken content next := by
  have planned : openTransitAcquisition request world.disk = carry (.answers (.error refusal)) world.disk := program
  obtain ⟨point, outcome, lands, rfl⟩ := opens_lands rfl (fun _ => rfl) (untouched entire world.disk.slot)
    (.answers (.error refusal)) planned stepped
  cases lands <;> exact sound.opened sound.stands nofun (.inl rfl)

/-- An open of an initialized root. -/
theorem Sound.opens_claimed
    (sound : Sound acquisition taken content world) (root : world.disk = claimedRoot document)
    (set : request.now.isZero = false) :
    ∃ content', Sound acquisition taken content' next := by
  have claimed : world.disk.claimed := ⟨document, root⟩
  have stands := sound.stands
  have stored : ∀ state, content = some state → Storable acquisition state := by
    rintro state rfl
    exact stands.storable
  have program : openTransitAcquisition request world.disk =
      resumeTransitAcquisition request.now request.failure content world.disk := by
    rw [root] at stands ⊢
    exact open_claimed request stands set
  rcases resume_planned request.failure request.now content stored with
    ⟨planned, _⟩ | ⟨state, rfl, ⟨phase, ends, becomes⟩, planned⟩
  · obtain ⟨point, outcome, lands, rfl⟩ := opens_lands rfl (fun _ => rfl) (untouched entire world.disk.slot)
      (.answers _) (program.trans (congrFun planned _)) stepped
    cases lands with
    | stopped => exact ⟨content, sound.opened stands nofun (.inl rfl)⟩
    | answered =>
      refine ⟨content, sound.opened stands ?_ (.inl rfl)⟩
      rintro _ ⟨⟩
      exact ⟨claimed, rfl⟩
  · obtain ⟨claimed', settled⟩ := Stands.settled claimed (reopened_storable request.now (stored state rfl))
    have follows : Ends (some state) (some (reopened state request.now)) :=
      .inr ⟨state, phase, rfl, ends, congrArg some becomes⟩
    obtain ⟨point, outcome, lands, rfl⟩ := opens_lands rfl (fun _ => rfl) (untouched entire world.disk.slot)
      (committing _ _ _) (program.trans (congrFun planned _)) stepped
    generalize request.failure = failure at lands
    cases lands with
    | stopped | failed => exact ⟨_, sound.opened stands nofun (.inl rfl)⟩
    | stoppedLate | failedLate => exact ⟨_, sound.opened settled nofun follows⟩
    | committed =>
      refine ⟨_, sound.opened settled ?_ follows⟩
      rintro _ ⟨⟩
      exact ⟨claimed', rfl⟩

/-- An open of a root that nothing was put into. -/
theorem Sound.opens_unclaimed {made : Bool} (sound : Sound acquisition taken none world)
    (root : world.disk = unclaimedRoot made) : Sound acquisition taken none next := by
  have meets : Meets ((transitAcquisition acquisition).opens request) world.disk (Vacant acquisition)
      (fun owner after => owner = ⟨none, false⟩ ∧ after = claimedRoot none) (fun _ after => Vacant acquisition after) :=
    root ▸ open_unclaimed request made
  have vacant : ∀ {point : TransitRoot}, Vacant acquisition point → point.halfMade = false →
    Stands acquisition none point := by
    rintro point (stands | half) entire
    · exact stands
    · cases half.symm.trans entire
  obtain ⟨-, ⟨point, reached, rfl⟩ | ⟨_, _, ⟨rfl, rfl⟩, rfl⟩ | ⟨refusal, point, reached, rfl⟩⟩ :=
    step_opens stepped meets (.inl sound.stands)
  · exact sound.kept (vacant reached entire) nofun (presented_none _ _) (.inl rfl)
  · refine sound.kept .empty ?_ (presented_none _ _) (.inl rfl)
    rintro _ ⟨⟩
    exact ⟨⟨none, rfl⟩, fun _ => .inl rfl⟩
  · exact sound.kept (vacant reached entire) nofun (presented_none _ _) (.inl rfl)

theorem Sound.step_opens (sound : Sound acquisition taken content world) :
    ∃ content', Sound acquisition taken content' next := by
  cases set : request.now.isZero with
  | true => exact ⟨content, sound.refused entire stepped (open_zero set)⟩
  | false =>
    have stands := sound.stands
    generalize root : world.disk = disk at stands
    cases stands with
    | unclaimed made => exact ⟨none, sound.opens_unclaimed entire stepped root⟩
    | empty => exact sound.opens_claimed entire stepped root set
    | holds storable => exact sound.opens_claimed entire stepped root set

end Opens

/-- **Every event that leaves no half-made file keeps the history sound.** -/
theorem Sound.step {event : TransitEvent} (sound : Sound acquisition taken content world)
    (whole : Whole acquisition taken world event) (stepped : world.step acquisition taken event = some next) :
    ∃ content', Sound acquisition taken content' next := by
  have entire := whole.1 next stepped
  unfold TransitWorld.step at stepped
  split at stepped
  · next draws =>
    cases event with
    | opens request cut => exact sound.step_opens entire stepped
    | calls call cut => exact sound.step_calls entire whole.2 draws stepped
    | closes =>
      cases stepped
      exact ⟨content, sound.kept sound.stands nofun (presented_none _ _) (.inl rfl)⟩
  · cases stepped

/-! ## What holds of a history -/

/-- An open with nothing in its way. -/
def TransitOpening.plain (create : Bool) (now : Time) : TransitOpening := ⟨create, now, none, none⟩

/-- A grant is presented once, and what is stored can always be resumed. -/
structure Safe (acquisition : Acquisition) (world : TransitWorld) : Prop where
  /-- the grant of a request is returned by `present` once -/
  once : (presented world.past).Nodup
  /-- a pending request is what is stored, and `begin` for its scope answers with it -/
  resumes : ∀ owner state, world.held = some owner → owner.failed = false → owner.state = some state →
    state.phase = .pending → loadTransitAcquisitionState world.disk = .ok (some state) ∧
      ∀ scope now drawn failure, validTransitAcquisitionScope scope now = true → state.matching scope = true →
        (owner.perform acquisition ⟨.begins scope now drawn, failure⟩).result world.disk =
          .ok (owner, some state.attempt)
  /-- an owner that is opened before the deadline has the pending request again -/
  recovers : ∀ state now create, world.held = none → loadTransitAcquisitionState world.disk = .ok (some state) →
    state.phase = .pending → now.isZero = false → now.before (.ofSeconds state.notAfter) = true →
    (openTransitAcquisition (.plain create now)).result world.disk = .ok ⟨some state, false⟩
  /-- a completion of another request changes nothing -/
  stale : ∀ owner action failure, world.held = some owner →
    (∀ state requestID, owner.state = some state → action.requestID = some requestID → state.requestID ≠ requestID) →
    action.requestID ≠ none → ∃ refusal,
      owner.perform acquisition ⟨action, failure⟩ world.disk = ⟨[], world.disk, .error (refusal, owner)⟩
  /-- an attempt that has ended keeps no secret -/
  erased : world.disk.slot.temporaries = [] ∧ ∀ state, loadTransitAcquisitionState world.disk = .ok (some state) →
    terminalTransitPhase state.phase = true → state.certificate = [] ∧ state.privateKey = [] ∧ state.grant = []
  /-- an attempt that was interrupted while it was presented is burned -/
  burns : ∀ state now create, world.held = none → loadTransitAcquisitionState world.disk = .ok (some state) →
    state.phase = .presenting → now.isZero = false →
    (openTransitAcquisition (.plain create now)).result world.disk = .ok ⟨some (state.terminal .burned), false⟩ ∧
      loadTransitAcquisitionState ((openTransitAcquisition (.plain create now)).final world.disk) =
        .ok (some (state.terminal .burned))
  /-- the root opens -/
  reopens : world.held = none → ∀ now : Time, now.isZero = false →
    ∃ owner, (openTransitAcquisition (.plain true now)).result world.disk = .ok owner

/-- What an open of a root with something stored answers and leaves. -/
theorem open_plain {now : Time} (create : Bool)
    (stands : Stands acquisition (some state) (claimedRoot document)) (set : now.isZero = false) :
    (openTransitAcquisition (.plain create now)).result (claimedRoot document) =
      .ok ⟨some (reopened state now), false⟩ ∧
      Stands acquisition (some (reopened state now))
        ((openTransitAcquisition (.plain create now)).final (claimedRoot document)) := by
  have program := open_claimed (.plain create now) stands set
  have failure : (TransitOpening.plain create now).failure = none := rfl
  have clock : (TransitOpening.plain create now).now = now := rfl
  rw [failure, clock] at program
  rw [Program.result, Program.final, program]
  have stored : ∀ other, some state = some other → Storable acquisition other := by
    rintro _ ⟨⟩
    exact stands.storable
  rcases resume_planned none now (some state) stored with ⟨planned, same⟩ | ⟨_, ⟨⟩, _, planned⟩
  · have same : reopened state now = state := Option.some.inj same
    rw [planned, same]
    exact ⟨rfl, stands⟩
  · rw [planned]
    exact ⟨rfl, (Stands.settled ⟨document, rfl⟩ (reopened_storable now stands.storable)).2⟩

theorem Stands.loads (stands : Stands acquisition content root) : loadTransitAcquisitionState root = .ok content := by
  cases stands with
  | unclaimed => rfl
  | empty => rfl
  | holds storable => exact load_claimed (.holds storable)

theorem Stands.claimed (stands : Stands acquisition (some state) root) : root.claimed := by
  cases stands with
  | holds storable => exact ⟨_, rfl⟩

/-- A completion of another request is refused, and the owner keeps its state. -/
theorem decideTransit_stale (acquisition : Acquisition) (completion : action.requestID ≠ none)
    (other : ∀ state requestID, current = some state → action.requestID = some requestID →
      state.requestID ≠ requestID) :
    ∃ refusal, decideTransit acquisition current action = .refuses refusal current := by
  have refuses : ∀ (requestID : Digest) (idle : TransitRefusal) (decide : TransitAcquisitionState → TransitDecision),
      action.requestID = some requestID → ∃ refusal, completes current requestID idle decide =
        .refuses refusal current := by
    intro requestID idle decide named
    cases current with
    | none => exact ⟨_, rfl⟩
    | some state => exact ⟨.stale, if_pos (other state requestID rfl named)⟩
  cases action with
  | begins scope now drawn => exact (completion rfl).elim
  | fails requestID => exact refuses requestID _ _ rfl
  | commits requestID result => exact refuses requestID _ _ rfl
  | presents requestID scope => exact refuses requestID _ _ rfl
  | finishes requestID presented => exact refuses requestID _ _ rfl

/-- **A sound history is safe.** -/
theorem Sound.safe (sound : Sound acquisition taken content world) : Safe acquisition world where
  once := sound.once
  resumes := by
    intro owner state held usable has pending
    have stored := ((sound.held owner held).2 usable).stored has
    have stands := sound.stands
    rw [stored] at stands
    refine ⟨stands.loads, fun scope now drawn failure valid same => ?_⟩
    have opened : terminalTransitPhase state.phase = false := by rw [pending]; rfl
    have decided : decideTransit acquisition owner.state (.begins scope now drawn) = .answers state.attempt := by
      rw [has, decideTransit, beginTransit, if_neg (by simp [valid])]
      rw [if_neg (by simp [opened]), if_neg (by simp [same]), if_pos (stands.storable.identified opened)]
    rw [TransitOwner.perform, if_neg (by simp [usable]), decided]
    rfl
  recovers := by
    intro state now create held loaded pending set early
    have stands := sound.stands
    have stored := stands.loads.symm.trans loaded
    cases stored
    obtain ⟨document, root⟩ := stands.claimed
    rw [root] at stands ⊢
    have same : reopened state now = state := by
      rw [reopened, if_neg (by simp [pending]), if_neg (by simp [early])]
    have opens := (open_plain create stands set).1
    rwa [same] at opens
  stale := by
    intro owner action failure held other completion
    cases failed : owner.failed with
    | true =>
      refine ⟨.restart, ?_⟩
      rw [TransitOwner.perform, if_pos failed]
      rfl
    | false =>
      obtain ⟨refusal, decided⟩ := decideTransit_stale acquisition completion other
      refine ⟨refusal, ?_⟩
      rw [TransitOwner.perform, if_neg (by simp [failed]), decided, ← failed]
      rfl
  erased := by
    refine ⟨?_, fun state loaded ended => ?_⟩
    · have stands := sound.stands
      generalize world.disk = disk at stands
      cases stands <;> rfl
    · have stands := sound.stands
      cases stands.loads.symm.trans loaded
      exact Endpoint.erased stands.storable.valid ended
  burns := by
    intro state now create held loaded presenting set
    have stands := sound.stands
    cases stands.loads.symm.trans loaded
    obtain ⟨document, root⟩ := stands.claimed
    rw [root] at stands ⊢
    have burned : reopened state now = state.terminal .burned := if_pos presenting
    obtain ⟨opens, after⟩ := open_plain create stands set
    rw [burned] at opens after
    exact ⟨opens, after.loads⟩
  reopens := by
    intro held now set
    have stands := sound.stands
    generalize world.disk = disk at stands
    cases stands with
    | unclaimed made =>
      refine ⟨⟨none, false⟩, ?_⟩
      have unset : ¬ (TransitOpening.plain true now).now.isZero = true := ne_of_eq_of_ne set Bool.false_ne_true
      rw [openTransitAcquisition, if_neg unset]
      cases made <;> rfl
    | empty =>
      have program := open_claimed (.plain true now) (Stands.empty : Stands acquisition none (claimedRoot none)) set
      exact ⟨⟨none, false⟩, by rw [Program.result, program]; rfl⟩
    | holds storable => exact ⟨_, (open_plain true (.holds storable) set).1⟩

end Journal

instance : ∀ event : TransitEvent, Decidable event.dated
  | .calls ⟨.begins .., _⟩ _ => inferInstanceAs (Decidable (_ < _))
  | .calls ⟨.fails .., _⟩ _ | .calls ⟨.commits .., _⟩ _ | .calls ⟨.presents .., _⟩ _ | .calls ⟨.finishes .., _⟩ _ =>
    isTrue trivial
  | .opens .. | .closes => isTrue trivial

instance (acquisition : Acquisition) (taken : List Digest) (world : TransitWorld) (event : TransitEvent) :
    Decidable (Whole acquisition taken world event) :=
  inferInstanceAs (Decidable (_ ∧ _))

/-! ## An acquisition, and one whose first commit is interrupted -/

namespace AcquisitionSample

def scope : TransitAcquisitionScope :=
  ⟨Digest.filled 1, Digest.filled 2, 1, Digest.filled 3, Digest.filled 4, Digest.filled 5,
    Digest.filled 6, Digest.filled 7,
    Digest.zero, 2, .ofSeconds 900⟩

def drawn (identifier : UInt8) : Drawn :=
  ⟨[1], List.replicate 64 1, Digest.filled 8, Digest.filled identifier, Digest.filled 10⟩

/-- Every identity fits, and every grant of the right length is for the attempt above. -/
def acquisition : Acquisition where
  identifies := fun _ _ _ => true
  opens := fun _ _ => some ⟨Digest.filled 1, Digest.filled 2, 1, Digest.filled 7, 2,
    Digest.filled 10, Digest.filled 8, 900⟩

def now : Time := .ofSeconds 100

def opening : TransitEvent := .opens (.plain true now) none

def begins (identifier : UInt8) (failure : Option Failure) (cut : Option Nat) : TransitEvent :=
  .calls ⟨.begins scope now (drawn identifier), failure⟩ cut

def interrupted : List TransitEvent := [opening, begins 9 none (some 1)]

def stranded : List TransitEvent := [opening, begins 9 (some (.write true)) none, .closes]

end AcquisitionSample

open AcquisitionSample

end Ardents.Endpoint
