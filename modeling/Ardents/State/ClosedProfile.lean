/-
# State.ClosedProfile — the one profile of an Epoch

`closed_profile_accept.go` and `closed_profile_store.go`: State accepts the first signed
profile that it is shown for its current Epoch and remembers a second one as a conflict.
The profile and what State decided about it are two files of the state root; both carry
the generation of the Epoch in their name, so one generation has its own two files.

`parseClosedProfile` and the join with the accepted records are a parameter: a profile
that they refuse does not concern the files.  `others` counts the entries of the root
that belong to other owners; opening a root reads its entries and refuses more than
128 of them.  `returned` is not in the source; it records the digests of the valid
profiles for which an `AcceptClosedProfile` returned.  A restart that finds the root
open is a restart after a stop without any effect.
-/
import Ardents.Lib.Bytes
import Ardents.Lib.Crash
import Ardents.Lib.Runs
import Ardents.Lib.Time

namespace Ardents.State

open Lib

set_option autoImplicit false

def maximumClosedProfileSize : Nat := 65536
def closedProfileStateSize : Nat := 112

/-! ## The state of a profile -/

structure ClosedProfileState where
  generation : Digest
  accepted : Digest
  conflict : Digest
  epoch : Nat
  deriving DecidableEq

def ClosedProfileState.valid (state : ClosedProfileState) : Bool :=
  decide (state.generation ≠ Digest.zero) && decide (state.epoch ≠ 0) &&
    decide (state.accepted ≠ Digest.zero) &&
    (decide (state.conflict = Digest.zero) || decide (state.conflict ≠ state.accepted))

/-- `ARDCPST1`. -/
def closedProfileStateMagic : List UInt8 := [65, 82, 68, 67, 80, 83, 84, 49]

def encodeClosedProfileState (state : ClosedProfileState) : List UInt8 :=
  closedProfileStateMagic ++ (state.generation.bytes ++ (bigEndian 8 state.epoch ++
    (state.accepted.bytes ++ state.conflict.bytes)))

inductive ProfileError where
  | unavailable
  | mismatch
  | framing
  | stateInvalid
  | lacksState
  | generationWrong
  | bytesDisagree
  | durableInput
  | immutable
  | conflict
  deriving DecidableEq, Repr

def decodeClosedProfileState (raw : List UInt8) : Except ProfileError ClosedProfileState :=
  if raw.length ≠ closedProfileStateSize ∨ raw.take 8 ≠ closedProfileStateMagic then .error .framing
  else
    let state : ClosedProfileState :=
      { generation := Block.copy 32 (slice raw 8 32)
        epoch := ofBigEndian (slice raw 40 8)
        accepted := Block.copy 32 (slice raw 48 32)
        conflict := Block.copy 32 (slice raw 80 32) }
    if state.valid then .ok state else .error .stateInvalid

/-! ## The files -/

structure ProfileFiles where
  profile : Option (List UInt8)
  state : Option (List UInt8)
  /-- The files `.closed-profile-*`. -/
  temporaries : List (List UInt8)
  others : Nat
  deriving DecidableEq

/-- How many entries the root has. -/
def ProfileFiles.entries (files : ProfileFiles) : Nat :=
  files.profile.toList.length + files.state.toList.length + files.temporaries.length + files.others

/-- Opening the root scans its entries; it removes none of these files. -/
def ProfileFiles.opens (files : ProfileFiles) : Bool := decide (files.entries ≤ 128)

/-- What State knows when it is shown a profile: its current Epoch, and what is left of
`parseClosedProfile` and of the join with the accepted records. -/
structure ProfileAuthority where
  generation : Digest
  epoch : Nat
  validFrom : Time
  validUntil : Time
  /-- The validity of a profile that is signed for this Epoch and joins its records. -/
  parse : List UInt8 → Option (Time × Time)
  sha256 : List UInt8 → Digest
  generation_ne : generation ≠ Digest.zero
  epoch_ne : epoch ≠ 0
  epoch_lt : epoch < 2 ^ 64
  bounded : ∀ raw, (parse raw).isSome → raw ≠ [] ∧ raw.length ≤ maximumClosedProfileSize
  digest_ne : ∀ raw, (parse raw).isSome → sha256 raw ≠ Digest.zero

namespace ProfileAuthority

/-- A profile that State accepts as valid at `now`. -/
def valid (authority : ProfileAuthority) (raw : List UInt8) (now : Time) : Bool :=
  match authority.parse raw with
  | none => false
  | some (notBefore, notAfter) =>
    !now.before notBefore && now.before notAfter && !notBefore.before authority.validFrom &&
      !notAfter.after authority.validUntil

def loadClosedProfile (authority : ProfileAuthority) (files : ProfileFiles) :
    Except ProfileError (Option (ClosedProfileState × List UInt8)) :=
  match files.state with
  | none => if files.profile.isSome then .error .lacksState else .ok none
  | some raw =>
    match decodeClosedProfileState raw with
    | .error refusal => .error refusal
    | .ok state =>
      if state.generation ≠ authority.generation then .error .generationWrong
      else
        match files.profile with
        | none => .error .bytesDisagree
        | some profile =>
          if profile.length ≤ maximumClosedProfileSize ∧
              authority.sha256 profile = state.accepted then .ok (some (state, profile))
          else .error .bytesDisagree

/-- `writeSynced` of the profile: the file is created, and then written. -/
def writeProfile (profile : List UInt8) : Program ProfileFiles ProfileError Unit := do
  Program.effect fun files => { files with profile := some [] }
  Program.effect fun files => { files with profile := some profile }

/-- A temporary file is created, written and renamed. -/
def replaceClosedProfileState (raw : List UInt8) : Program ProfileFiles ProfileError Unit := do
  Program.effect fun files => { files with temporaries := [] :: files.temporaries }
  Program.effect fun files => { files with temporaries := raw :: files.temporaries.drop 1 }
  Program.effect fun files =>
    { files with temporaries := files.temporaries.drop 1, state := some raw }

def commitClosedProfile (authority : ProfileAuthority) (state : ClosedProfileState)
    (profile : List UInt8) : Program ProfileFiles ProfileError Unit := do
  if !state.valid || profile.isEmpty || decide (maximumClosedProfileSize < profile.length) ||
      decide (authority.sha256 profile ≠ state.accepted) then Program.refuse .durableInput
  else
    let files ← Program.look
    match files.profile with
    | some existing =>
      if existing ≠ profile then Program.refuse .immutable
      else replaceClosedProfileState (encodeClosedProfileState state)
    | none => do
      writeProfile profile
      replaceClosedProfileState (encodeClosedProfileState state)

/-- `AcceptClosedProfile`, which answers with the digest of the profile. -/
def acceptClosedProfile (authority : ProfileAuthority) (raw : List UInt8) (now : Time) :
    Program ProfileFiles ProfileError Digest := do
  if !authority.valid raw now then Program.refuse .mismatch
  else
    let files ← Program.look
    match authority.loadClosedProfile files with
    | .error refusal => Program.refuse refusal
    | .ok none => do
      authority.commitClosedProfile
        ⟨authority.generation, authority.sha256 raw, Digest.zero, authority.epoch⟩ raw
      pure (authority.sha256 raw)
    | .ok (some (stored, profile)) =>
      if stored.epoch = authority.epoch ∧ stored.accepted = authority.sha256 raw ∧
          stored.conflict = Digest.zero then pure (authority.sha256 raw)
      else if stored.conflict = Digest.zero ∧ stored.epoch = authority.epoch then do
        authority.commitClosedProfile { stored with conflict := authority.sha256 raw } profile
        Program.refuse .conflict
      else Program.refuse .conflict

/-- `CurrentClosedProfile`, as long as State itself is current: the digest that is
available at `now`. -/
def currentClosedProfile (authority : ProfileAuthority) (files : ProfileFiles) (now : Time) :
    Option Digest :=
  match authority.loadClosedProfile files with
  | .ok (some (stored, profile)) =>
    if stored.conflict = Digest.zero ∧ stored.epoch = authority.epoch ∧
        authority.valid profile now ∧ authority.sha256 profile = stored.accepted then
      some stored.accepted
    else none
  | _ => none

end ProfileAuthority

/-! ## Histories -/

structure ProfileStore where
  files : ProfileFiles
  running : Bool
  returned : List Digest
  deriving DecidableEq

inductive ProfileEvent where
  /-- `cut` is the number of file effects after which the process stops. -/
  | accept (raw : List UInt8) (now : Time) (cut : Option Nat)
  | reopen

namespace ProfileStore

/-- An empty root with the entries of other owners. -/
def new (others : Nat) : ProfileStore := ⟨⟨none, none, [], others⟩, true, []⟩

def step (authority : ProfileAuthority) (store : ProfileStore) : ProfileEvent → Option ProfileStore
  | .accept raw now none =>
    if store.running then
      some { store with
        files := (authority.acceptClosedProfile raw now).final store.files
        returned :=
          if authority.valid raw now then authority.sha256 raw :: store.returned
          else store.returned }
    else none
  | .accept raw now (some effects) =>
    if store.running then
      ((authority.acceptClosedProfile raw now).stops store.files)[effects]?.map fun files =>
        { store with files, running := false }
    else none
  | .reopen => if store.files.opens then some { store with running := true } else none

end ProfileStore

/-! ## What a call does -/

theorem decodeClosedProfileState_encode {state : ClosedProfileState} (valid : state.valid = true)
    (small : state.epoch < 2 ^ 64) :
    decodeClosedProfileState (encodeClosedProfileState state) = .ok state := by
  have size : (encodeClosedProfileState state).length = closedProfileStateSize := by
    simp only [encodeClosedProfileState, List.length_append, state.generation.length, state.accepted.length,
      state.conflict.length, bigEndian_length]
    rfl
  have magic : (encodeClosedProfileState state).take 8 = closedProfileStateMagic := List.take_left' rfl
  have first : slice (encodeClosedProfileState state) 8 32 = state.generation.bytes :=
    slice_append closedProfileStateMagic _ _ rfl state.generation.length
  have second : slice (encodeClosedProfileState state) 40 8 = bigEndian 8 state.epoch := by
    rw [encodeClosedProfileState, ← List.append_assoc]
    refine slice_append _ _ _ ?_ (bigEndian_length 8 state.epoch)
    rw [List.length_append, state.generation.length]
    rfl
  have third : slice (encodeClosedProfileState state) 48 32 = state.accepted.bytes := by
    rw [encodeClosedProfileState, ← List.append_assoc, ← List.append_assoc]
    refine slice_append _ _ _ ?_ state.accepted.length
    rw [List.length_append, List.length_append, state.generation.length, bigEndian_length]
    rfl
  have fourth : slice (encodeClosedProfileState state) 80 32 = state.conflict.bytes := by
    rw [encodeClosedProfileState, ← List.append_assoc, ← List.append_assoc, ← List.append_assoc]
    refine slice_end _ _ ?_ state.conflict.length
    rw [List.length_append, List.length_append, List.length_append, state.generation.length,
      bigEndian_length, state.accepted.length]
    rfl
  have exact_ : ofBigEndian (bigEndian 8 state.epoch) = state.epoch := by
    rw [ofBigEndian_bigEndian]
    exact Nat.mod_eq_of_lt small
  unfold decodeClosedProfileState
  rw [if_neg (by rw [size, magic]; simp)]
  simp only [first, second, third, fourth, exact_, Block.copy_bytes, valid, if_true]

namespace ProfileAuthority

variable (authority : ProfileAuthority)

/-- The files hold `profile` and what State decided about it. -/
structure Holds (files : ProfileFiles) (profile : List UInt8) (conflict : Digest) : Prop where
  bytes : files.profile = some profile
  decision : files.state = some (encodeClosedProfileState
    ⟨authority.generation, authority.sha256 profile, conflict, authority.epoch⟩)
  signed : (authority.parse profile).isSome
  differs : conflict = Digest.zero ∨ conflict ≠ authority.sha256 profile

/-- Nothing was decided yet. -/
structure Blank (files : ProfileFiles) : Prop where
  profile : files.profile = none
  state : files.state = none

variable {authority} {files : ProfileFiles} {profile raw : List UInt8} {conflict : Digest} {now : Time}

theorem valid_of_signed (signed : (authority.parse profile).isSome)
    (differs : conflict = Digest.zero ∨ conflict ≠ authority.sha256 profile) :
    ClosedProfileState.valid
      ⟨authority.generation, authority.sha256 profile, conflict, authority.epoch⟩ = true := by
  have digest := authority.digest_ne profile signed
  simp only [ClosedProfileState.valid, Bool.and_eq_true, Bool.or_eq_true, decide_eq_true_eq]
  exact ⟨⟨⟨authority.generation_ne, authority.epoch_ne⟩, digest⟩, differs⟩

theorem Holds.valid (holds : authority.Holds files profile conflict) : ClosedProfileState.valid
      ⟨authority.generation, authority.sha256 profile, conflict, authority.epoch⟩ = true :=
  valid_of_signed holds.signed holds.differs

theorem Holds.load (holds : authority.Holds files profile conflict) :
    authority.loadClosedProfile files = .ok (some
      (⟨authority.generation, authority.sha256 profile, conflict, authority.epoch⟩, profile)) := by
  have bounded := (authority.bounded profile holds.signed).2
  unfold loadClosedProfile
  simp only [holds.decision, decodeClosedProfileState_encode holds.valid authority.epoch_lt,
    holds.bytes, bounded, true_and, ne_eq, not_true_eq_false, if_false, if_true]

theorem Blank.load (blank : Blank files) : authority.loadClosedProfile files = .ok none := by
  simp [loadClosedProfile, blank.state, blank.profile]

theorem signed_of_valid (valid : authority.valid raw now = true) : (authority.parse raw).isSome := by
  unfold ProfileAuthority.valid at valid
  split at valid
  · cases valid
  · next found => rw [found]; rfl

variable {state : ClosedProfileState} {point : ProfileFiles}

/-- A profile that is refused leaves the files as they are. -/
theorem accept_invalid (invalid : authority.valid raw now = false) (files : ProfileFiles) :
    authority.acceptClosedProfile raw now files = ⟨[], files, .error .mismatch⟩ := by
  simp only [acceptClosedProfile, invalid, Bool.not_false, if_true]
  rfl

/-- The files while the first profile is committed. -/
def creating (files : ProfileFiles) (profile state : List UInt8) : List ProfileFiles :=
  [{ files with profile := some [] }, { files with profile := some profile },
    { files with profile := some profile, temporaries := [] :: files.temporaries },
    { files with profile := some profile, temporaries := state :: files.temporaries },
    { files with profile := some profile, state := some state }]

/-- The files while the state is replaced. -/
def replacing (files : ProfileFiles) (state : List UInt8) : List ProfileFiles :=
  [{ files with temporaries := [] :: files.temporaries },
    { files with temporaries := state :: files.temporaries }, { files with state := some state }]

section Committed

variable (valid : state.valid = true) (signed : (authority.parse profile).isSome)
  (digest : state.accepted = authority.sha256 profile)

include valid signed digest

theorem commit_checks :
    (!state.valid || profile.isEmpty || decide (maximumClosedProfileSize < profile.length) ||
      decide (authority.sha256 profile ≠ state.accepted)) = false := by
  obtain ⟨some_, bounded⟩ := authority.bounded profile signed
  have long : ¬ maximumClosedProfileSize < profile.length := by omega
  simp [valid, digest, long, some_]

theorem commit_apply (found : files.profile = some profile) :
    authority.commitClosedProfile state profile files =
      ⟨replacing files (encodeClosedProfileState state),
        { files with state := some (encodeClosedProfileState state) }, .ok ()⟩ := by
  unfold commitClosedProfile
  rw [commit_checks valid signed digest, if_neg Bool.false_ne_true, Program.look_bind]
  obtain ⟨_, old, temporaries, others⟩ := files
  cases found
  simp only [ne_eq, not_true_eq_false, if_false]
  rfl

theorem commit_create (absent : files.profile = none) :
    authority.commitClosedProfile state profile files =
      ⟨creating files profile (encodeClosedProfileState state),
        { files with
          profile := some profile, state := some (encodeClosedProfileState state) }, .ok ()⟩ := by
  unfold commitClosedProfile
  rw [commit_checks valid signed digest, if_neg Bool.false_ne_true, Program.look_bind]
  simp only [absent]
  rfl

end Committed

theorem accept_blank (valid : authority.valid raw now = true) (blank : Blank files) :
    authority.acceptClosedProfile raw now files =
      ⟨creating files raw (encodeClosedProfileState
          ⟨authority.generation, authority.sha256 raw, Digest.zero, authority.epoch⟩),
        { files with
          profile := some raw
          state := some (encodeClosedProfileState
            ⟨authority.generation, authority.sha256 raw, Digest.zero, authority.epoch⟩) },
        .ok (authority.sha256 raw)⟩ := by
  have signed := signed_of_valid valid
  have created := commit_create (valid_of_signed signed (.inl rfl)) signed rfl blank.profile
  unfold acceptClosedProfile
  rw [valid, if_neg (by simp), Program.look_bind]
  simp only [blank.load]
  rw [Program.bind_of_ok created, Program.pure_apply, List.append_nil]

/-- The profile that State holds is accepted again without an effect. -/
theorem accept_same (valid : authority.valid raw now = true)
    (holds : authority.Holds files profile Digest.zero)
    (same : authority.sha256 profile = authority.sha256 raw) :
    authority.acceptClosedProfile raw now files = ⟨[], files, .ok (authority.sha256 raw)⟩ := by
  unfold acceptClosedProfile
  rw [valid, if_neg (by simp), Program.look_bind]
  simp only [holds.load, same, and_self, if_true]
  rfl

/-- A second digest is recorded as a conflict, and refused. -/
theorem accept_other (valid : authority.valid raw now = true)
    (holds : authority.Holds files profile Digest.zero)
    (other : authority.sha256 profile ≠ authority.sha256 raw) :
    authority.acceptClosedProfile raw now files =
      ⟨replacing files (encodeClosedProfileState
          ⟨authority.generation, authority.sha256 profile, authority.sha256 raw, authority.epoch⟩),
        { files with state := some (encodeClosedProfileState
          ⟨authority.generation, authority.sha256 profile, authority.sha256 raw, authority.epoch⟩) },
        .error .conflict⟩ := by
  have replaced := commit_apply (valid_of_signed holds.signed (.inr other.symm)) holds.signed rfl
    holds.bytes
  unfold acceptClosedProfile
  rw [valid, if_neg (by simp), Program.look_bind]
  simp only [holds.load, other, false_and, and_false, if_false, and_self, if_true]
  rw [Program.bind_of_ok replaced, Program.refuse_apply, List.append_nil]

theorem current_of_blank (blank : Blank files) : authority.currentClosedProfile files now = none := by
  unfold currentClosedProfile
  rw [blank.load]

/-! ## Every point of a call -/

/-- What a call, finished or stopped, makes of the files. -/
structure Leads (authority : ProfileAuthority) (files point : ProfileFiles) : Prop where
  first : Blank files → Blank point ∨ ∃ profile, authority.Holds point profile Digest.zero
  stays : ∀ {profile conflict}, authority.Holds files profile conflict →
    ∃ later, authority.Holds point profile later ∧ (conflict ≠ Digest.zero → later = conflict)
  entries : point.entries ≤ files.entries + 2

/-- State decided nothing, or has both files. -/
def Decided (authority : ProfileAuthority) (files : ProfileFiles) : Prop :=
  Blank files ∨ ∃ profile conflict, authority.Holds files profile conflict

theorem Blank.not_holds (blank : Blank files) : ¬ authority.Holds files profile conflict := by
  intro holds
  have bytes := holds.bytes
  rw [blank.profile] at bytes
  cases bytes

theorem Leads.same (files : ProfileFiles) : authority.Leads files files where
  first blank := .inl blank
  stays holds := ⟨_, holds, fun _ => rfl⟩
  entries := by omega

variable {digest second : Digest} {effects : Nat}

section Holding

variable (holds : authority.Holds files profile conflict)

include holds

/-- A conflict stays. -/
theorem accept_conflicting (valid : authority.valid raw now = true)
    (conflicting : conflict ≠ Digest.zero) :
    authority.acceptClosedProfile raw now files = ⟨[], files, .error .conflict⟩ := by
  unfold acceptClosedProfile
  rw [valid, if_neg (by simp), Program.look_bind]
  simp only [holds.load, conflicting, and_false, false_and, if_false]
  rfl

theorem current_of_holds (available : authority.currentClosedProfile files now = some digest) :
    digest = authority.sha256 profile ∧ conflict = Digest.zero := by
  unfold currentClosedProfile at available
  rw [holds.load] at available
  dsimp only at available
  split at available
  · next open_ => exact ⟨(Option.some.inj available).symm, open_.1⟩
  · cases available

theorem Holds.unique {other : List UInt8} {otherConflict : Digest}
    (again : authority.Holds files other otherConflict) : profile = other :=
  Option.some.inj (holds.bytes.symm.trans again.bytes)

/-- Only temporary files were added. -/
theorem Holds.left {temporaries : List (List UInt8)} :
    authority.Holds { files with temporaries } profile conflict :=
  ⟨holds.bytes, holds.decision, holds.signed, holds.differs⟩

theorem leads_left {state : List UInt8} :
    authority.Leads files { files with temporaries := state :: files.temporaries } where
  first blank := absurd holds blank.not_holds
  stays held := ⟨_, held.left, fun _ => rfl⟩
  entries := by
    simp only [ProfileFiles.entries, List.length_cons]
    omega

end Holding

theorem leads_conflict (holds : authority.Holds files profile Digest.zero)
    (other : second ≠ authority.sha256 profile) :
    authority.Leads files { files with state := some (encodeClosedProfileState
      ⟨authority.generation, authority.sha256 profile, second, authority.epoch⟩) } where
  first blank := absurd holds blank.not_holds
  stays := by
    intro held conflict again
    obtain rfl := holds.unique again
    refine ⟨second, ⟨holds.bytes, rfl, holds.signed, .inr other⟩, fun conflicting => ?_⟩
    -- both readings of the one state file carry the same conflict
    have same := holds.load.symm.trans again.load
    simp only [Except.ok.injEq, Option.some.injEq, Prod.mk.injEq, ClosedProfileState.mk.injEq,
      true_and, and_true] at same
    exact absurd same.symm conflicting
  entries := by
    simp only [ProfileFiles.entries, Option.toList_some, List.length_singleton]
    omega

theorem leads_first (blank : Blank files) (signed : (authority.parse raw).isSome) :
    authority.Leads files { files with
      profile := some raw
      state := some (encodeClosedProfileState
        ⟨authority.generation, authority.sha256 raw, Digest.zero, authority.epoch⟩) } where
  first _ := .inr ⟨raw, rfl, rfl, signed, .inl rfl⟩
  stays holds := absurd holds blank.not_holds
  entries := by
    simp only [ProfileFiles.entries, Option.toList_some, List.length_singleton]
    omega

/-- Whether State holds something that contradicts a profile. -/
def contradicts (authority : ProfileAuthority) (files : ProfileFiles) (raw : List UInt8) : Bool :=
  match authority.loadClosedProfile files with
  | .ok (some (stored, _)) =>
    decide (stored.conflict ≠ Digest.zero) || decide (stored.accepted ≠ authority.sha256 raw)
  | _ => false

/-- A call does not stop between the creation of the profile and the state that names it. -/
def spares (files : ProfileFiles) (effects : Nat) : Bool :=
  files.profile.isSome || decide (effects = 0) || decide (5 ≤ effects)

/-- The points at which a first call stops when it is spared. -/
theorem creating_spared {state : List UInt8} (blank : Blank files)
    (spared : spares files effects = true)
    (stopped : (files :: creating files raw state)[effects]? = some point) :
    point = files ∨ point = { files with profile := some raw, state := some state } := by
  simp only [spares, blank.profile, Option.isSome_none, Bool.false_or, Bool.or_eq_true,
    decide_eq_true_eq] at spared
  obtain rfl | late := spared
  · exact .inl (Option.some.inj stopped).symm
  obtain rfl | beyond : effects = 5 ∨ 6 ≤ effects := by omega
  · exact .inr (Option.some.inj stopped).symm
  · rw [List.getElem?_eq_none beyond] at stopped
    cases stopped

/-- State holds the profile itself, or nothing. -/
def Agrees (authority : ProfileAuthority) (files : ProfileFiles) (raw : List UInt8) : Prop :=
  Blank files ∨ ∃ profile, authority.Holds files profile Digest.zero ∧
    authority.sha256 profile = authority.sha256 raw

theorem Decided.agrees (decided : authority.Decided files)
    (quiet : authority.contradicts files raw = false) : authority.Agrees files raw := by
  obtain blank | ⟨profile, conflict, holds⟩ := decided
  · exact .inl blank
  simp only [contradicts, holds.load, Bool.or_eq_false_iff, decide_eq_false_iff_not,
    not_not] at quiet
  obtain ⟨rfl, same⟩ := quiet
  exact .inr ⟨profile, holds, same⟩

theorem Agrees.accept (agrees : authority.Agrees files raw) (valid : authority.valid raw now = true) :
    (authority.acceptClosedProfile raw now).result files = .ok (authority.sha256 raw) := by
  obtain blank | ⟨profile, holds, same⟩ := agrees
  · rw [Program.result, accept_blank valid blank]
  · rw [Program.result, accept_same valid holds same]

/-- A call without an effect. -/
theorem stops_of_idle {answer : Except ProfileError Digest}
    (idle : authority.acceptClosedProfile raw now files = ⟨[], files, answer⟩)
    (stopped : ((authority.acceptClosedProfile raw now).stops files)[effects]? = some point) :
    point = files := by
  rw [Program.stops, idle] at stopped
  cases effects with
  | zero => exact (Option.some.inj stopped).symm
  | succ later => cases stopped

/-- **Every point of a call.**  A spared call leaves files that State reads, and unless
State held something else before, it agrees with the profile of the call. -/
theorem accept_stops (decided : authority.Decided files) (spared : spares files effects = true)
    (stopped : ((authority.acceptClosedProfile raw now).stops files)[effects]? = some point) :
    authority.Leads files point ∧
      (authority.contradicts files raw = false → authority.Agrees point raw) := by
  have idle {answer} (idle : authority.acceptClosedProfile raw now files = ⟨[], files, answer⟩) :
      authority.Leads files point ∧
        (authority.contradicts files raw = false → authority.Agrees point raw) := by
    obtain rfl := stops_of_idle idle stopped
    exact ⟨.same _, decided.agrees⟩
  by_cases valid : authority.valid raw now = true
  case neg => exact idle (accept_invalid (Bool.not_eq_true _ ▸ valid) files)
  obtain blank | ⟨profile, conflict, holds⟩ := decided
  · rw [Program.stops, accept_blank valid blank] at stopped
    obtain rfl | rfl := creating_spared blank spared stopped
    · exact ⟨.same _, fun _ => .inl blank⟩
    · have signed := signed_of_valid valid
      exact ⟨leads_first blank signed, fun _ => .inr ⟨raw, ⟨rfl, rfl, signed, .inl rfl⟩, rfl⟩⟩
  by_cases conflicting : conflict = Digest.zero
  case neg => exact idle (accept_conflicting holds valid conflicting)
  subst conflicting
  by_cases same : authority.sha256 profile = authority.sha256 raw
  · exact idle (accept_same valid holds same)
  -- a second digest: the state that records it is replaced
  have loud : authority.contradicts files raw = true := by simp [contradicts, holds.load, same]
  rw [loud]
  refine ⟨?_, fun quiet => by cases quiet⟩
  have among := List.mem_of_getElem? stopped
  rw [Program.stops, accept_other valid holds same] at among
  simp only [replacing, List.mem_cons, List.not_mem_nil, or_false] at among
  obtain rfl | rfl | rfl | rfl := among
  · exact .same _
  · exact leads_left holds
  · exact leads_left holds
  · exact leads_conflict holds (Ne.symm same)

/-- The files remember that `digest` was presented: it is the accepted one, or a conflict
is recorded. -/
def Knows (authority : ProfileAuthority) (files : ProfileFiles) (digest : Digest) : Prop :=
  ∃ profile conflict, authority.Holds files profile conflict ∧
    (digest = authority.sha256 profile ∨ conflict ≠ Digest.zero)

/-- A call that returned left the last one of its points. -/
theorem accept_final (decided : authority.Decided files) :
    authority.Leads files ((authority.acceptClosedProfile raw now).final files) ∧
      (authority.valid raw now = true → authority.Knows
        ((authority.acceptClosedProfile raw now).final files) (authority.sha256 raw)) := by
  unfold Program.final
  by_cases valid : authority.valid raw now = true
  case neg =>
    rw [accept_invalid (Bool.not_eq_true _ ▸ valid)]
    exact ⟨.same _, fun valid' => absurd valid' valid⟩
  obtain blank | ⟨profile, conflict, holds⟩ := decided
  · rw [accept_blank valid blank]
    have signed := signed_of_valid valid
    exact ⟨leads_first blank signed, fun _ => ⟨raw, _, ⟨rfl, rfl, signed, .inl rfl⟩, .inl rfl⟩⟩
  by_cases conflicting : conflict = Digest.zero
  case neg =>
    rw [accept_conflicting holds valid conflicting]
    exact ⟨.same _, fun _ => ⟨profile, conflict, holds, .inr conflicting⟩⟩
  subst conflicting
  by_cases same : authority.sha256 profile = authority.sha256 raw
  · rw [accept_same valid holds same]
    exact ⟨.same _, fun _ => ⟨profile, _, holds, .inl same.symm⟩⟩
  rw [accept_other valid holds same]
  refine ⟨leads_conflict holds (Ne.symm same), fun _ => ⟨profile, authority.sha256 raw, ?_, .inr ?_⟩⟩
  · exact ⟨holds.bytes, rfl, holds.signed, .inr (Ne.symm same)⟩
  · exact authority.digest_ne raw (signed_of_valid valid)

theorem Leads.decided (leads : authority.Leads files point) (decided : authority.Decided files) :
    authority.Decided point := by
  obtain blank | ⟨profile, conflict, holds⟩ := decided
  · obtain still | ⟨profile, holds⟩ := leads.first blank
    · exact .inl still
    · exact .inr ⟨profile, _, holds⟩
  · obtain ⟨later, held, -⟩ := leads.stays holds
    exact .inr ⟨profile, later, held⟩

theorem Leads.knows (leads : authority.Leads files point)
    (known : authority.Knows files digest) : authority.Knows point digest := by
  obtain ⟨profile, conflict, holds, same | conflicting⟩ := known
  · obtain ⟨later, held, -⟩ := leads.stays holds
    exact ⟨profile, later, held, .inl same⟩
  · obtain ⟨later, held, stays⟩ := leads.stays holds
    exact ⟨profile, later, held, .inr (stays conflicting ▸ conflicting)⟩

/-- Two digests that the files remember are a conflict. -/
theorem Knows.unavailable {first : Digest} (known : authority.Knows files first)
    (again : authority.Knows files second) (distinct : first ≠ second) :
    authority.currentClosedProfile files now = none := by
  obtain ⟨profile, conflict, holds, either⟩ := known
  obtain ⟨other, otherConflict, held, orElse⟩ := again
  obtain rfl := holds.unique held
  rw [Option.eq_none_iff_forall_ne_some]
  intro digest available
  have unset := (current_of_holds holds available).2
  have alsoUnset := (current_of_holds held available).2
  exact distinct ((either.resolve_right (absurd unset)).trans (orElse.resolve_right (absurd alsoUnset)).symm)

end ProfileAuthority

/-! ## Histories -/

namespace ProfileStore

open ProfileAuthority

variable {authority : ProfileAuthority} {store next : ProfileStore} {event : ProfileEvent}

/-- The condition on a step: a call does not stop inside the first commit, and it finds
room for the files that it may leave. -/
def spares (store : ProfileStore) : ProfileEvent → Bool
  | .accept _ _ none => decide (store.files.entries ≤ 126)
  | .accept _ _ (some effects) =>
    decide (store.files.entries ≤ 126) && ProfileAuthority.spares store.files effects
  | .reopen => true

/-- What the files say about the calls that returned. -/
structure Sound (authority : ProfileAuthority) (store : ProfileStore) : Prop where
  decided : authority.Decided store.files
  returned : ∀ digest ∈ store.returned, authority.Knows store.files digest
  room : store.files.entries ≤ 128

/-- What a step does: a call that returned, a call that stopped, or a restart. -/
theorem step_cases (stepped : store.step authority event = some next) :
    (∃ raw now, event = .accept raw now none ∧
      next.files = (authority.acceptClosedProfile raw now).final store.files ∧
      next.returned = if authority.valid raw now then authority.sha256 raw :: store.returned
        else store.returned) ∨
    (∃ raw now effects, event = .accept raw now (some effects) ∧
      ((authority.acceptClosedProfile raw now).stops store.files)[effects]? = some next.files ∧
      next.returned = store.returned) ∨
    event = .reopen ∧ next.files = store.files ∧ next.returned = store.returned := by
  match event with
  | .accept raw now none =>
    simp only [ProfileStore.step, Option.ite_none_right_eq_some, Option.some.injEq] at stepped
    obtain ⟨-, rfl⟩ := stepped
    exact .inl ⟨raw, now, rfl, rfl, rfl⟩
  | .accept raw now (some effects) =>
    simp only [ProfileStore.step, Option.ite_none_right_eq_some, Option.map_eq_some_iff] at stepped
    obtain ⟨-, files, stopped, rfl⟩ := stepped
    exact .inr (.inl ⟨raw, now, effects, rfl, stopped, rfl⟩)
  | .reopen =>
    simp only [ProfileStore.step, Option.ite_none_right_eq_some, Option.some.injEq] at stepped
    obtain ⟨-, rfl⟩ := stepped
    exact .inr (.inr ⟨rfl, rfl, rfl⟩)

/-- A step that meets the condition. -/
theorem step_leads (sound : store.Sound authority) (spared : store.spares event = true)
    (stepped : store.step authority event = some next) :
    authority.Leads store.files next.files ∧ next.files.entries ≤ 128 := by
  obtain ⟨raw, now, rfl, files, -⟩ | ⟨raw, now, effects, rfl, stopped, -⟩ | ⟨rfl, files, -⟩ :=
    step_cases stepped
  · have leads : authority.Leads store.files ((authority.acceptClosedProfile raw now).final store.files) :=
      (accept_final sound.decided).1
    have room := of_decide_eq_true spared
    rw [← files] at leads
    exact ⟨leads, leads.entries.trans (by omega)⟩
  · simp only [spares, Bool.and_eq_true, decide_eq_true_eq] at spared
    have leads := (accept_stops sound.decided spared.2 stopped).1
    exact ⟨leads, leads.entries.trans (by omega)⟩
  · rw [files]
    exact ⟨.same _, sound.room⟩

theorem Sound.step (sound : store.Sound authority) (spared : store.spares event = true)
    (stepped : store.step authority event = some next) : next.Sound authority := by
  obtain ⟨leads, room⟩ := step_leads sound spared stepped
  refine ⟨leads.decided sound.decided, ?_, room⟩
  have kept : ∀ digest ∈ store.returned, authority.Knows next.files digest :=
    fun digest among => leads.knows (sound.returned digest among)
  obtain ⟨raw, now, -, files, returned⟩ | ⟨_, _, _, -, -, returned⟩ | ⟨-, -, returned⟩ :=
    step_cases stepped
  · rw [returned]
    split
    · next valid =>
      rintro digest (_ | ⟨_, among⟩)
      · rw [files]
        exact (accept_final sound.decided).2 valid
      · exact kept digest among
    · exact kept
  · rwa [returned]
  · rwa [returned]

/-- What holds of a store whatever happened to it. -/
structure Secure (authority : ProfileAuthority) (store : ProfileStore) : Prop where
  /-- After the calls for two digests returned, nothing is available, at any time. -/
  absorbing : ∀ first ∈ store.returned, ∀ second ∈ store.returned, first ≠ second →
    ∀ now, authority.currentClosedProfile store.files now = none
  /-- The available profile is accepted again, and nothing changes. -/
  idempotent : ∀ now digest raw later, authority.currentClosedProfile store.files now = some digest →
    authority.sha256 raw = digest → authority.valid raw later = true →
      authority.acceptClosedProfile raw later store.files = ⟨[], store.files, .ok digest⟩
  /-- Wherever a call stops, the root opens, and unless State held something else already
  the profile of the call is then accepted. -/
  recovers : ∀ raw now effects next, store.spares (.accept raw now (some effects)) = true →
    store.step authority (.accept raw now (some effects)) = some next →
      next.files.opens = true ∧ (authority.contradicts store.files raw = false →
        ∀ later, authority.valid raw later = true →
          (authority.acceptClosedProfile raw later).result next.files = .ok (authority.sha256 raw))
  opens : store.files.opens = true

theorem Sound.secure (sound : store.Sound authority) : store.Secure authority where
  absorbing first among second also distinct _ :=
    (sound.returned first among).unavailable (sound.returned second also) distinct
  idempotent now digest raw later available same valid := by
    obtain blank | ⟨profile, conflict, holds⟩ := sound.decided
    · rw [current_of_blank blank] at available
      cases available
    · obtain ⟨rfl, rfl⟩ := current_of_holds holds available
      rw [accept_same valid holds same.symm, same]
  recovers raw now effects next spared stepped := by
    have safe := sound.step spared stepped
    refine ⟨decide_eq_true safe.room, fun quiet later valid => ?_⟩
    obtain ⟨_, _, crashed, _⟩ | ⟨_, _, _, crashed, stopped, -⟩ | ⟨crashed, _⟩ := step_cases stepped
    · cases crashed
    · cases crashed
      simp only [spares, Bool.and_eq_true] at spared
      exact ((accept_stops sound.decided spared.2 stopped).2 quiet).accept valid
    · cases crashed
  opens := decide_eq_true sound.room

theorem sound_new {others : Nat} (fits : others ≤ 128) : (new others).Sound authority where
  decided := .inl ⟨rfl, rfl⟩
  returned := nofun
  room := by simpa [ProfileFiles.entries, new] using fits

variable {events : List ProfileEvent}

/-- A profile that is held stays the only one. -/
theorem Sound.holds {profile : List UInt8} {conflict : Digest}
    (sound : store.Sound authority) (holds : authority.Holds store.files profile conflict)
    (spared : Along (ProfileStore.step authority) (fun store event => store.spares event = true)
      store events) : Throughout (ProfileStore.step authority) (fun store => ∀ now digest,
      authority.currentClosedProfile store.files now = some digest →
        digest = authority.sha256 profile) store events := by
  have throughout := spared.throughout
    (I := fun store => store.Sound authority ∧ ∃ conflict, authority.Holds store.files profile conflict)
    (fun store event next ⟨sound, _, holds⟩ spared stepped => by
      obtain ⟨later, held, -⟩ := (step_leads sound spared stepped).1.stays holds
      exact ⟨sound.step spared stepped, later, held⟩)
    ⟨sound, conflict, holds⟩
  exact throughout.imp fun _ ⟨_, _, holds⟩ _ _ available => (current_of_holds holds available).1

/-- From a sound store, one digest at most is ever available. -/
theorem Sound.available (sound : store.Sound authority)
    (spared : Along (ProfileStore.step authority) (fun store event => store.spares event = true)
      store events) : ∃ chosen, Throughout (ProfileStore.step authority) (fun store => ∀ now digest,
      authority.currentClosedProfile store.files now = some digest → digest = chosen) store events := by
  -- nothing is available until a profile is held, and from then on it is that one
  induction events generalizing store with
  | nil =>
    obtain blank | ⟨profile, conflict, holds⟩ := sound.decided
    · refine ⟨Digest.zero, fun now digest available => ?_⟩
      rw [current_of_blank blank] at available
      cases available
    · exact ⟨_, sound.holds holds spared⟩
  | cons event events ih =>
    obtain blank | ⟨profile, conflict, holds⟩ := sound.decided
    · have none_ : ∀ now digest chosen, authority.currentClosedProfile store.files now = some digest →
          digest = chosen := by
        intro now digest chosen available
        rw [current_of_blank blank] at available
        cases available
      cases stepped : store.step authority event with
      | none => exact ⟨Digest.zero, fun now digest => none_ now digest _, fun next found => by
        rw [stepped] at found
        cases found⟩
      | some next =>
        obtain ⟨chosen, later⟩ := ih (sound.step spared.1 stepped) (spared.2 next stepped)
        refine ⟨chosen, fun now digest => none_ now digest _, fun next' found => ?_⟩
        rw [stepped] at found
        cases found
        exact later
    · exact ⟨_, sound.holds holds spared⟩

/-- **One profile for an Epoch.**  In every history of calls, stops and restarts whose
steps meet `spares`, one digest at most is ever available, and every store on the way is
secure. -/
theorem profile_first_wins (authority : ProfileAuthority) {others : Nat} (fits : others ≤ 128)
    {events : List ProfileEvent}
    (spared : Along (ProfileStore.step authority) (fun store event => store.spares event = true)
      (new others) events) :
    (∃ chosen, Throughout (ProfileStore.step authority) (fun store => ∀ now digest,
      authority.currentClosedProfile store.files now = some digest → digest = chosen)
      (new others) events) ∧
    Throughout (ProfileStore.step authority) (fun store => store.Secure authority) (new others) events :=
  ⟨(sound_new fits).available spared,
    (spared.throughout (fun _ _ _ sound spared stepped => sound.step spared stepped)
      (sound_new fits)).imp fun _ sound => sound.secure⟩

/-! ## A second and a lost profile -/

def noon : Time := .ofSeconds 50

/-- An Epoch with two signed profiles. -/
def twoProfiles : ProfileAuthority where
  generation := Block.copy 32 [7]
  epoch := 1
  validFrom := .ofSeconds 0
  validUntil := .ofSeconds 100
  parse raw :=
    if raw = [1] ∨ raw = [2] then
      some (.ofSeconds 0, .ofSeconds 100)
    else none
  sha256 := Block.copy 32
  generation_ne := by decide
  epoch_ne := by decide
  epoch_lt := by decide
  bounded raw signed := by
    obtain rfl | rfl : raw = [1] ∨ raw = [2] := by
      by_contra neither
      simp [neither] at signed
    · decide
    · decide
  digest_ne raw signed := by
    obtain rfl | rfl : raw = [1] ∨ raw = [2] := by
      by_contra neither
      simp [neither] at signed
    · decide
    · decide

/-- The first call stops before its first effect, the call for a second profile in the
middle of its commit. -/
def twoPresented : List ProfileEvent :=
  [.accept [1] noon (some 0), .reopen, .accept [1] noon none, .accept [2] noon (some 2), .reopen,
    .accept [1] noon none, .accept [2] noon none, .reopen]

theorem twoPresented_secure :
    ((run (step twoProfiles) (new 3) (twoPresented.take 3)).bind fun store =>
        twoProfiles.currentClosedProfile store.files noon) = some (Block.copy 32 [1]) ∧
      ((run (step twoProfiles) (new 3) twoPresented).map fun store =>
        (store.returned.length, twoProfiles.currentClosedProfile store.files noon)) = some (3, none) ∧
      Throughout (step twoProfiles) (fun store => store.Secure twoProfiles) (new 3) twoPresented :=
  ⟨by decide +kernel, by decide +kernel,
    (profile_first_wins twoProfiles (by decide) (by decide +kernel)).2⟩

/-- The first commit stops after the profile is written: the root opens, and the same valid
profile is refused from then on. -/
theorem firstCommit_lacks_state :
    twoProfiles.valid [1] noon = true ∧
      (run (step twoProfiles) (new 3) [.accept [1] noon (some 2), .reopen]).map (fun store =>
        (twoProfiles.acceptClosedProfile [1] noon).result store.files) =
          some (.error .lacksState) :=
  ⟨by decide +kernel, rfl⟩

end ProfileStore

end Ardents.State
