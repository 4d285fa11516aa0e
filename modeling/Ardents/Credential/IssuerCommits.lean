/-
# Credential.IssuerCommits — what the issuer root keeps through stops

The document of the root only grows (`Grows`): the budget and the key material stay, a
binding stays once it is made, a withdrawal stays, and reservations are only added.  Every
stop of an open or of a call leaves a root that opens to the document from before or to
the one the call commits; so what a call answered before a stop is answered after it.

Two stops are apart.  The root is refused when it has more than nine entries, and a
document of a call that stopped before its watermark stays in it until the next commit
that ends; so no commit starts with more than three documents.  And a marker that was
created but not written is refused for good; so no open stops there (`spare`).
The module ends with a history for each: one crowds the root, the other leaves such a
marker.
-/
import Ardents.Credential.IssuerRoot

namespace Ardents.Credential

open Lib Json Restarts Watermark Program

set_option autoImplicit false

/-! ## A valid document is never too long -/

theorem IssuerRootReservation.jsonLength_le (reservation : IssuerRootReservation) :
    reservation.jsonLength ≤ 435 := by
  have request := blockLength_le reservation.requestID
  have digest := blockLength_le reservation.requestDigest
  have grant := blockLength_le reservation.grantID
  rw [jsonLength]
  omega

variable {hashes : IssuerHashes} {issuer : IssuerRootRecord} {reservation : IssuerRootReservation}
  {state : IssuerRootState} {now : Time}

section Valid

variable {sha256 : List UInt8 → Digest} {issuer : IssuerRootRecord}

theorem budget_le (valid : validIssuerRootRecord sha256 issuer = true) :
    issuer.reservations.length ≤ issuer.budget.toNat ∧ issuer.budget.toNat ≤ 64 := by
  simp only [validIssuerRootRecord, validBudget, Bool.and_eq_true, decide_eq_true_eq] at valid
  exact ⟨valid.1.2, valid.1.1.1.2.2⟩

theorem characters_le (valid : validIssuerRootRecord sha256 issuer = true) :
    issuer.binding.stateGeneration.characters ≤ 64 := by
  simp only [validIssuerRootRecord, Bool.and_eq_true, Bool.or_eq_true] at valid
  obtain bound | unbound := valid.1.1.1.1.2
  · simp only [IssuerBinding.bound, Bool.and_eq_true] at bound
    have named := bound.1.1.1.1.1.1
    cases generation : issuer.binding.stateGeneration with
    | named digest => exact le_rfl
    | absent => exact Nat.zero_le _
    | other text =>
      rw [generation] at named
      cases named
  · simp only [IssuerBinding.unbound, decide_eq_true_eq] at unbound
    rw [unbound]
    exact Nat.zero_le _

theorem IssuerRootRecord.jsonLength_le (valid : validIssuerRootRecord sha256 issuer = true) :
    issuer.jsonLength ≤ 40000 := by
  obtain ⟨few, budget⟩ := budget_le valid
  have name := characters_le valid
  simp only [validIssuerRootRecord, validProfile, validMaterial, Bool.and_eq_true, decide_eq_true_eq] at valid
  have profile := base64Length_le valid.1.1.1.1.1.1.2
  have material := base64Length_le valid.1.1.2.2
  have reservations : arrayLength (issuer.reservations.map IssuerRootReservation.jsonLength) ≤
      2 + issuer.reservations.length * 436 :=
    arrayLength_map_le fun reservation _ => reservation.jsonLength_le
  have profileDigest := blockLength_le issuer.profileDigest
  have network := blockLength_le issuer.binding.networkID
  have digest := blockLength_le issuer.binding.digest
  have node := blockLength_le issuer.binding.issuerNodeID
  have signer := blockLength_le issuer.binding.grantSignerID
  have epoch := decimals_uint64 issuer.binding.epoch
  have ending := signedDecimals_le issuer.binding.notAfter
  have count : decimals issuer.budget.toNat ≤ 5 :=
    decimals_le (issuer.budget.toNat_lt.trans (by decide)) (by decide)
  have shown : (if issuer.profile = [] then 0 else 11 + base64Length issuer.profile) ≤
      11 + base64Length issuer.profile := by
    split <;> omega
  have flag : (if issuer.withdrawn then 4 else 5) ≤ 5 := by
    split <;> omega
  simp only [maximumIssuerProfile, maximumIssuerMaterial] at profile material
  rw [jsonLength, textLength]
  omega

theorem jsonLength_le (valid : validIssuerRootState sha256 state = true) :
    state.jsonLength ≤ maximumIssuerState := by
  simp only [validIssuerRootState, Bool.and_eq_true] at valid
  have version : decimals state.version.toNat ≤ 3 :=
    decimals_le (state.version.toNat_lt.trans (by decide)) (by decide)
  have generation := decimals_uint64 state.generation
  have previous : (if state.previous.isSome then 12 + textLength 64 else 0) ≤ 78 := by
    split <;> simp [textLength]
  rw [IssuerRootState.jsonLength, maximumIssuerState]
  cases held : state.transitGrantIssuer with
  | none =>
    dsimp only
    omega
  | some issuer =>
    rw [held] at valid
    have record := IssuerRootRecord.jsonLength_le valid.2
    dsimp only
    omega

end Valid

/-! ## The root -/

/-- The document that the first open commits. -/
def firstIssuerState : IssuerRootState := IssuerRootStore.next ⟨unwritten, none, false⟩ none

/-- The document a root with this content is opened with. -/
def openedIssuer (content : Option IssuerRootState) : IssuerRootState := content.getD firstIssuerState

section Root

variable (hashes : IssuerHashes)

/-- A claimed root with a content. -/
abbrev Holds (content : Option IssuerRootState) (root : IssuerDirectory) : Prop :=
  Root.Holds hashes.scheme firstIssuerState content root

/-- A root that a store holds open. -/
abbrev Ready (content : Option IssuerRootState) (root : IssuerDirectory) : Prop :=
  Root.Ready hashes.scheme firstIssuerState content root

variable {hashes} {content : Option IssuerRootState} {root : IssuerDirectory} {store : IssuerRootStore}
  {issuer : Option IssuerRootRecord}

/-- A commit, which is refused when the document would not be valid or when another one has
its name. -/
theorem commit_meets (ready : Ready hashes content root) (current : store.current = content.map hashes.digest)
    (generation : store.state.generation.toNat = (content.map fun state => state.generation.toNat).getD 0)
    (few : root.directory.files.size ≤ 3) (beginning : content = none → store.next issuer = firstIssuerState) :
    Meets (commit hashes store issuer) root
      (fun point => Holds hashes content point ∨ Holds hashes (some (store.next issuer)) point)
      (fun value after => value = ⟨store.next issuer, some (hashes.digest (store.next issuer)), false⟩ ∧
        Ready hashes (some (store.next issuer)) after)
      (fun _ after => after = root ∧ content ≠ none) := by
  unfold commit
  dsimp only
  split
  · next invalid =>
    refine meets_refuse ⟨rfl, fun none => ?_⟩
    rw [beginning none] at invalid
    simp [validIssuerRootState, firstIssuerState, IssuerRootStore.next, unwritten] at invalid
  next valid =>
  have accepted : validIssuerRootState hashes.sha256 (store.next issuer) = true := by simpa using valid
  have short := jsonLength_le accepted
  have positive : store.state.generation + 1 ≠ 0 := by
    simp only [validIssuerRootState, IssuerRootStore.next, Bool.and_eq_true] at accepted
    exact of_decide_eq_true accepted.1.2
  have follows : (store.state.generation + 1).toNat =
      (content.map fun state => state.generation.toNat).getD 0 + 1 := by
    rw [← generation, UInt64.toNat_add]
    apply Nat.mod_eq_of_lt
    have bound := store.state.generation.toNat_lt
    by_contra wraps
    apply positive
    apply UInt64.toNat_inj.1
    rw [UInt64.toNat_add]
    have last : store.state.generation.toNat = 2 ^ 64 - 1 := by
      simp only [UInt64.toNat_one] at wraps
      omega
    rw [last]
    rfl
  rw [if_neg (Nat.not_lt.2 short), current]
  refine meets_bind (Root.commit_meets ready accepted follows few beginning) ?_
  intro _ after done
  exact meets_pure ⟨rfl, done⟩

variable (hashes) (content) in
/-- **Opening** a claimed root finds its content; a root without one is given the first
document when the caller may create it. -/
abbrev Opens (create : Bool) (opening : Program IssuerDirectory IssuerRefusal IssuerRootStore)
    (root : IssuerDirectory) : Prop :=
  Meets opening root
    (fun point => Holds hashes content point ∨
      content = none ∧ create = true ∧ Holds hashes (some firstIssuerState) point)
    (fun value after => value = ⟨openedIssuer content, some (hashes.digest (openedIssuer content)), false⟩ ∧
      (content = none → create = true) ∧ Ready hashes (some (openedIssuer content)) after)
    (fun _ after => content = none ∧ create = false ∧ Holds hashes content after)

theorem loadIssuerRoot_meets (holds : Holds hashes content root) (clean : root.directory.temporaries = 0)
    (create : Bool) : Opens hashes content create (loadIssuerRoot hashes create) root := by
  refine meets_bind ((Root.load_meets holds clean).imp (fun _ => .inl) (fun _ _ => id)
    fun _ _ => False.elim) ?_
  rintro _ after ⟨rfl, ready⟩
  cases content with
  | some state => exact meets_pure ⟨rfl, nofun, ready⟩
  | none =>
    cases create with
    | false => exact meets_refuse ⟨rfl, rfl, ready.holds⟩
    | true =>
      have few := ready.holds.files_le
      refine (commit_meets ready rfl rfl (by omega) fun _ => rfl).imp ?_ ?_ ?_
      · rintro point (early | late)
        · exact .inl early
        · exact .inr ⟨rfl, rfl, late⟩
      · rintro _ last ⟨rfl, done⟩
        exact ⟨rfl, fun _ => rfl, done⟩
      · rintro _ _ ⟨-, absurd⟩
        exact (absurd rfl).elim

theorem open_meets (holds : Holds hashes content root) (create : Bool) (set : now.isZero = false) :
    Opens hashes content create (openIssuerRootStore hashes create now) root := by
  have same := holds.locked
  have few : root.entries ≤ maximumIssuerEntries := holds.entries_le
  have preflight : preflightIssuerRoot root = .ok () := by
    simp [preflightIssuerRoot, Nat.not_lt.2 few]
  have checked : checkIssuerRoot create root = .ok () := by
    simp [checkIssuerRoot, holds.marker, Nat.not_lt.2 few]
  rw [openIssuerRootStore, set]
  apply meets_look_bind
  rw [preflight]
  apply meets_ok_bind
  apply meets_effect_bind
  · rw [same]
    exact .inl holds
  rw [same]
  apply meets_look_bind
  rw [preflight]
  apply meets_ok_bind
  have prepared : Meets (prepareIssuerRoot create) root (fun point => Holds hashes content point)
      (fun _ after => Holds hashes content after ∧ after.directory.temporaries = 0) (fun _ _ => False) := by
    apply meets_look_bind
    rw [checked]
    apply meets_ok_bind
    rw [if_neg (by simp [holds.marker])]
    exact Root.sweep_meets holds
  refine meets_bind (prepared.imp (fun _ => .inl) (fun _ _ => id) fun _ _ => False.elim) ?_
  rintro _ swept ⟨holds, clean⟩
  exact loadIssuerRoot_meets holds clean create

theorem open_zero {create : Bool} (zero : now.isZero = true) :
    Meets (openIssuerRootStore hashes create now) root (fun _ => False) (fun _ _ => False)
      (fun _ after => after = root) := by
  rw [openIssuerRootStore, zero]
  exact meets_bind (meets_refuse rfl) fun _ _ => False.elim

/-! ## A root that is not claimed yet -/

/-- A fresh directory, with a lock or without. -/
def unclaimed (lock : Bool) : IssuerDirectory := ⟨lock, .absent, .empty⟩

/-- A claimed root that nothing was written to. -/
def claimed : IssuerDirectory := ⟨true, .whole, .empty⟩

theorem holds_claimed : Holds hashes none claimed := by
  refine ⟨rfl, rfl, ⟨rfl, rfl⟩, Nat.zero_le _, Nat.zero_le _, ?_⟩
  intro _ name document found
  cases found

theorem open_unclaimed_refused (lock : Bool) (set : now.isZero = false) :
    openIssuerRootStore hashes false now (unclaimed lock) =
      ⟨[unclaimed true], unclaimed true, .error .unclaimed⟩ := by
  rw [openIssuerRootStore, set]
  cases lock <;> rfl

/-- The rest of an open once the marker is written. -/
def afterMarker (hashes : IssuerHashes) : Program IssuerDirectory IssuerRefusal IssuerRootStore := do
  Root.inside IssuerRefusal.files Directory.sweep
  loadIssuerRoot hashes true

theorem open_unclaimed (lock : Bool) (set : now.isZero = false) :
    openIssuerRootStore hashes true now (unclaimed lock) =
      ⟨unclaimed true :: ⟨true, .torn, .empty⟩ :: claimed :: (afterMarker hashes claimed).points,
        (afterMarker hashes claimed).disk, (afterMarker hashes claimed).answer⟩ := by
  rw [openIssuerRootStore, set]
  cases lock <;> rfl

variable (hashes) in
theorem afterMarker_meets : Meets (afterMarker hashes) claimed
      (fun point => Holds hashes none point ∨ Holds hashes (some firstIssuerState) point)
      (fun value after => value = ⟨firstIssuerState, some (hashes.digest firstIssuerState), false⟩ ∧
        Ready hashes (some firstIssuerState) after) (fun _ _ => False) := by
  refine meets_bind ((Root.sweep_meets holds_claimed).imp (fun _ => .inl) (fun _ _ => id)
    fun _ _ => id) ?_
  rintro _ swept ⟨holds, clean⟩
  refine (loadIssuerRoot_meets holds clean true).imp ?_ ?_ ?_
  · rintro point (early | ⟨-, -, late⟩)
    · exact .inl early
    · exact .inr late
  · rintro value after ⟨rfl, -, ready⟩
    exact ⟨rfl, ready⟩
  · rintro _ _ ⟨-, absurd, -⟩
    cases absurd

end Root

/-! ## What a call commits -/

/-- An issuer is only added to. -/
structure Grows (before after : IssuerRootRecord) : Prop where
  profile : after.profile = before.profile ∧ after.profileDigest = before.profileDigest
  material : after.privateMaterial = before.privateMaterial
  budget : after.budget = before.budget
  reservations : before.reservations <+: after.reservations
  withdrawn : before.withdrawn = true → after.withdrawn = true
  binding : before.binding.epoch ≠ 0 → after.binding = before.binding

theorem Grows.refl (issuer : IssuerRootRecord) : Grows issuer issuer :=
  ⟨⟨rfl, rfl⟩, rfl, rfl, List.prefix_rfl, id, fun _ => rfl⟩

theorem Grows.trans {first second third : IssuerRootRecord} (early : Grows first second)
    (late : Grows second third) : Grows first third where
  profile := ⟨late.profile.1.trans early.profile.1, late.profile.2.trans early.profile.2⟩
  material := late.material.trans early.material
  budget := late.budget.trans early.budget
  reservations := early.reservations.trans late.reservations
  withdrawn := fun was => late.withdrawn (early.withdrawn was)
  binding := by
    intro bound
    have same := early.binding bound
    rw [late.binding (same ▸ bound), same]

/-- The grant that a call asks for and the answer gives. -/
def IssuerCall.Grants (call : IssuerCall) (answer : IssuerAnswer) (reservation : IssuerRootReservation) : Prop :=
  match call, answer with
  | .reserve _ requestID requestDigest _ _, .grant grantID _ => reservation = ⟨requestID, requestDigest, grantID⟩
  | _, _ => False

section Decisions

variable {sha256 : List UInt8 → Digest} {store : IssuerRootStore} {call : IssuerCall} {answer : IssuerAnswer}

/-- What a call reads back is there. -/
theorem IssuerRootStore.decided_answers (decided : store.decided sha256 call = .ok (.answers answer))
    (grants : call.Grants answer reservation) :
    ∃ issuer, store.state.transitGrantIssuer = some issuer ∧ reservation ∈ issuer.reservations := by
  cases call with
  | reserve scope requestID requestDigest grantID now =>
    simp only [IssuerRootStore.decided, IssuerRootStore.reserve] at decided
    repeat' split at decided
    all_goals cases decided
    next issuer held _ _ _ found same =>
      obtain rfl := grants
      refine ⟨issuer, held, ?_⟩
      have member := List.mem_of_find?_eq_some found
      have named := List.find?_some found
      simp only [decide_eq_true_eq] at named
      simp only [ne_eq, Decidable.not_not] at same
      rw [← named, ← same]
      exact member
  | initializeIssuer _ _ _ _ => cases answer <;> exact grants.elim
  | bind _ => cases answer <;> exact grants.elim
  | withdraw _ => cases answer <;> exact grants.elim

/-- What a call commits is added to what was there, with the grant that it answers. -/
theorem IssuerRootStore.decided_commits
    (decided : store.decided sha256 call = .ok (.commits issuer answer)) :
    (∀ old, store.state.transitGrantIssuer = some old → Grows old issuer) ∧
      ∀ reservation, call.Grants answer reservation → reservation ∈ issuer.reservations := by
  cases call with
  | initializeIssuer profileDigest budget privateMaterial profile =>
    simp only [IssuerRootStore.decided, IssuerRootStore.initializeIssuer] at decided
    repeat' split at decided
    all_goals cases decided
    next absent =>
      refine ⟨fun old held => ?_, fun _ grants => grants.elim⟩
      rw [absent] at held
      cases held
  | bind scope =>
    simp only [IssuerRootStore.decided, IssuerRootStore.bind] at decided
    repeat' split at decided
    all_goals cases decided
    next issuer held unbound =>
      refine ⟨fun old same => ?_, fun _ grants => grants.elim⟩
      obtain rfl := Option.some.inj (held.symm.trans same)
      exact ⟨⟨rfl, rfl⟩, rfl, rfl, List.prefix_rfl, id, fun bound => (unbound bound).elim⟩
  | reserve scope requestID requestDigest grantID now =>
    simp only [IssuerRootStore.decided, IssuerRootStore.reserve] at decided
    repeat' split at decided
    all_goals cases decided
    next issuer held _ _ _ _ _ =>
      refine ⟨fun old same => ?_, fun reservation grants => ?_⟩
      · obtain rfl := Option.some.inj (held.symm.trans same)
        exact ⟨⟨rfl, rfl⟩, rfl, rfl, List.prefix_append _ _, id, fun _ => rfl⟩
      · obtain rfl := grants
        exact List.mem_append_right _ (List.mem_singleton_self _)
  | withdraw scope =>
    simp only [IssuerRootStore.decided, IssuerRootStore.withdraw] at decided
    repeat' split at decided
    all_goals cases decided
    next issuer held _ _ =>
      refine ⟨fun old same => ?_, fun _ grants => grants.elim⟩
      obtain rfl := Option.some.inj (held.symm.trans same)
      exact ⟨⟨rfl, rfl⟩, rfl, rfl, List.prefix_rfl, fun _ => rfl, fun _ => rfl⟩

end Decisions

/-! ## Histories -/

/-- The content later on has the issuer, added to. -/
def Extends (before after : Option IssuerRootState) : Prop :=
  ∀ state issuer, before = some state → state.transitGrantIssuer = some issuer →
    ∃ state' issuer', after = some state' ∧ state'.transitGrantIssuer = some issuer' ∧ Grows issuer issuer'

theorem Extends.refl (content : Option IssuerRootState) : Extends content content :=
  fun state issuer same held => ⟨state, issuer, same, held, .refl issuer⟩

theorem Extends.trans {first second third : Option IssuerRootState} (early : Extends first second)
    (late : Extends second third) : Extends first third := by
  intro state issuer same held
  obtain ⟨state', issuer', same', held', grows⟩ := early state issuer same held
  obtain ⟨state'', issuer'', same'', held'', more⟩ := late state' issuer' same' held'
  exact ⟨state'', issuer'', same'', held'', grows.trans more⟩

section Histories

variable {hashes : IssuerHashes} {content : Option IssuerRootState} {world : IssuerWorld}

/-- No commit starts with more than three documents in the root, and no open stops after it
created the marker and before it wrote it. -/
def spare (hashes : IssuerHashes) (world : IssuerWorld) : IssuerEvent → Bool
  | .opens _ cut => decide (world.disk.marker ≠ .absent) || decide (cut ≠ some 2)
  | .calls call _ =>
    world.held.all fun store =>
      match store.decided hashes.sha256 call with
      | .ok (.commits _ _) => decide (world.disk.directory.files.size ≤ 3)
      | _ => true
  | .closes => true

variable {call : IssuerCall} {cut : Option Nat} {store : IssuerRootStore} {root : IssuerDirectory}
  {event : IssuerEvent} {next : IssuerWorld} {request : IssuerOpening}

theorem spare_calls (spared : spare hashes world (.calls call cut) = true) (held : world.held = some store) :
    ∀ issuer answer, store.decided hashes.sha256 call = .ok (.commits issuer answer) →
      world.disk.directory.files.size ≤ 3 := by
  intro issuer answer decided
  simpa [spare, held, decided] using spared

/-- The content that a call proposes. -/
def Proposes (sha256 : List UInt8 → Digest) (store : IssuerRootStore) (call : IssuerCall) (answer : IssuerAnswer)
    (after : IssuerRootState) : Prop :=
  store.decided sha256 call = .ok (.answers answer) ∧ after = store.state ∨
    ∃ issuer, store.decided sha256 call = .ok (.commits issuer answer) ∧ after = store.next (some issuer)

/-- A call that ran to its end or stopped. -/
theorem perform_meets (ready : Ready hashes (some store.state) root)
    (current : store.current = some (hashes.digest store.state))
    (few : ∀ issuer answer, store.decided hashes.sha256 call = .ok (.commits issuer answer) →
      root.directory.files.size ≤ 3) :
    Meets (store.perform hashes call) root
      (fun point => Holds hashes (some store.state) point ∨
        ∃ answer after, Proposes hashes.sha256 store call answer after ∧ Holds hashes (some after) point)
      (fun value root' => Proposes hashes.sha256 store call value.2 value.1.state ∧
        value.1.current = some (hashes.digest value.1.state) ∧ Ready hashes (some value.1.state) root')
      (fun _ after => after = root) := by
  apply meets_lift_bind
  · intro decision decided
    cases decision with
    | answers answer => exact meets_pure ⟨.inl ⟨decided, rfl⟩, current, ready⟩
    | commits issuer answer =>
      have room := few issuer answer decided
      refine meets_bind ((commit_meets ready current rfl room nofun).imp ?_ (fun _ _ => id) ?_) ?_
      · rintro point (early | late)
        · exact .inl early
        · exact .inr ⟨answer, _, .inr ⟨issuer, decided, rfl⟩, late⟩
      · exact fun _ _ refused => refused.1
      · rintro value after ⟨rfl, done⟩
        exact meets_pure ⟨.inr ⟨issuer, decided, rfl⟩, rfl, done⟩
  · exact fun _ _ => rfl

/-- **What opening a root gives.**  A root without a content is given the first document, if
the caller may create it. -/
def Recovers (hashes : IssuerHashes) (root : IssuerDirectory) (content : Option IssuerRootState) : Prop :=
  ∀ create now, now.isZero = false →
    if content = none ∧ create = false then
      ∃ refusal, (openIssuerRootStore hashes create now).result root = .error refusal
    else (openIssuerRootStore hashes create now).result root =
      .ok ⟨openedIssuer content, some (hashes.digest (openedIssuer content)), false⟩

/-- The root is claimed and has the content, or it is a fresh directory. -/
def Stands (hashes : IssuerHashes) (content : Option IssuerRootState) (root : IssuerDirectory) : Prop :=
  Holds hashes content root ∨ content = none ∧ ∃ lock, root = unclaimed lock

theorem Stands.recovers (stands : Stands hashes content root) : Recovers hashes root content := by
  intro create now set
  obtain holds | ⟨rfl, lock, rfl⟩ := stands
  · have meets := open_meets holds create set
    cases answer : (openIssuerRootStore hashes create now root).answer with
    | error refusal =>
      obtain ⟨rfl, rfl, -⟩ := meets.error refusal answer
      exact ⟨refusal, answer⟩
    | ok store =>
      obtain ⟨rfl, created, -⟩ := meets.ok store answer
      rw [if_neg]
      · exact answer
      · rintro ⟨none, refused⟩
        rw [created none] at refused
        cases refused
  · cases create with
    | false =>
      refine ⟨.unclaimed, ?_⟩
      rw [Program.result, open_unclaimed_refused lock set]
    | true =>
      have meets := afterMarker_meets hashes
      rw [if_neg (by simp), Program.result, open_unclaimed lock set]
      cases answer : (afterMarker hashes claimed).answer with
      | error refusal => exact (meets.error refusal answer).elim
      | ok store =>
        obtain ⟨rfl, -⟩ := meets.ok store answer
        rfl

/-- A call returned a grant for a request. -/
def Granted (world : IssuerWorld) (reservation : IssuerRootReservation) : Prop :=
  ∃ call cut answer, (.calls call cut, some answer) ∈ world.past ∧ call.Grants answer reservation

/-- The invariant of every history: what the root and the store stand for, and that every
grant that was answered is in the document. -/
structure Sound (hashes : IssuerHashes) (content : Option IssuerRootState) (world : IssuerWorld) : Prop where
  stands : Stands hashes content world.disk
  held : ∀ store, world.held = some store → content = some store.state ∧
    store.current = some (hashes.digest store.state) ∧ Ready hashes content world.disk
  granted : ∀ reservation, Granted world reservation → ∃ state issuer, content = some state ∧
    state.transitGrantIssuer = some issuer ∧ reservation ∈ issuer.reservations

variable {answer : IssuerAnswer} {after : IssuerRootState} {content' : Option IssuerRootState}
  {held : Option IssuerRootStore}

theorem Granted.of_cons {answer : Option IssuerAnswer}
    (granted : Granted ⟨root, held, (event, answer) :: world.past⟩ reservation) :
    Granted world reservation ∨ ∃ call cut reply, event = .calls call cut ∧ answer = some reply ∧
      call.Grants reply reservation := by
  obtain ⟨call, cut, reply, member, grants⟩ := granted
  obtain same | early := List.mem_cons.1 member
  · cases same
    exact .inr ⟨call, cut, reply, rfl, rfl, grants⟩
  · exact .inl ⟨call, cut, reply, early, grants⟩

/-- The content is extended and no grant is answered. -/
theorem Sound.extended (sound : Sound hashes content world) (stands : Stands hashes content' root)
    (extends' : Extends content content')
    (opened : ∀ store, held = some store → content' = some store.state ∧
      store.current = some (hashes.digest store.state) ∧ Ready hashes content' root) :
    Sound hashes content' ⟨root, held, (event, none) :: world.past⟩ where
  stands := stands
  held := opened
  granted := by
    intro reservation granted
    obtain early | ⟨_, _, _, _, answered, _⟩ := granted.of_cons
    · obtain ⟨state, issuer, same, issued, member⟩ := sound.granted reservation early
      obtain ⟨state', issuer', same', issued', grows⟩ := extends' state issuer same issued
      exact ⟨state', issuer', same', issued', grows.reservations.subset member⟩
    · cases answered

theorem Proposes.extends (proposes : Proposes hashes.sha256 store call answer after) :
    Extends (some store.state) (some after) := by
  obtain ⟨-, rfl⟩ | ⟨issuer, decided, rfl⟩ := proposes
  · exact .refl _
  · rintro _ old ⟨⟩ held
    exact ⟨_, issuer, rfl, rfl, (IssuerRootStore.decided_commits decided).1 old held⟩

theorem Proposes.grants (proposes : Proposes hashes.sha256 store call answer after)
    (grants : call.Grants answer reservation) :
    ∃ issuer, after.transitGrantIssuer = some issuer ∧ reservation ∈ issuer.reservations := by
  obtain ⟨decided, rfl⟩ | ⟨issuer, decided, rfl⟩ := proposes
  · exact IssuerRootStore.decided_answers decided grants
  · exact ⟨issuer, rfl, (IssuerRootStore.decided_commits decided).2 reservation grants⟩

/-- How the content of the root may change with an event. -/
def Moves (hashes : IssuerHashes) (world : IssuerWorld) (event : IssuerEvent)
    (content content' : Option IssuerRootState) : Prop :=
  match event with
  | .closes => content' = content
  | .opens request _ =>
    content' = content ∨ content = none ∧ request.create = true ∧ content' = some firstIssuerState
  | .calls call cut => ∀ store, world.held = some store →
      (content' = content ∨ ∃ answer after, Proposes hashes.sha256 store call answer after ∧ content' = some after) ∧
      ∀ later answer, cut = none → (store.perform hashes call).result world.disk = .ok (later, answer) →
        Proposes hashes.sha256 store call answer later.state ∧ content' = some later.state

theorem Moves.extends (sound : Sound hashes content world)
    (moves : Moves hashes world event content content')
    (stepped : step (issuerRoot hashes) world event = some next) : Extends content content' := by
  cases event with
  | closes =>
    obtain rfl := moves
    exact .refl _
  | opens request cut =>
    obtain rfl | ⟨rfl, -, rfl⟩ := moves
    · exact .refl _
    · rintro _ _ ⟨⟩
  | calls call cut =>
    obtain ⟨store, held⟩ := held_of_calls stepped
    obtain ⟨rfl, -, -⟩ := sound.held store held
    obtain rfl | ⟨answer, after, proposes, rfl⟩ := (moves store held).1
    · exact .refl _
    · exact proposes.extends

/-- An event leads to a world that is sound with a content it may have. -/
def Leads (hashes : IssuerHashes) (content : Option IssuerRootState) (world : IssuerWorld) (event : IssuerEvent)
    (next : IssuerWorld) : Prop :=
  ∃ content', Sound hashes content' next ∧ Moves hashes world event content content'

theorem Sound.step_calls (sound : Sound hashes content world)
    (spared : spare hashes world (.calls call cut) = true)
    (stepped : step (issuerRoot hashes) world (.calls call cut) = some next) :
    Leads hashes content world (.calls call cut) next := by
  obtain ⟨store, held⟩ := held_of_calls stepped
  obtain ⟨rfl, current, ready⟩ := sound.held store held
  simp only [Leads, Moves, held, Option.some.injEq, forall_eq']
  have meets := perform_meets ready current (spare_calls spared held)
  obtain ⟨point, early | ⟨answer, after, proposes, late⟩, rfl, stopped⟩ |
      ⟨later, answer, point, ⟨proposes, named, done⟩, rfl, result, rfl⟩ | ⟨refusal, _, rfl, rfl, result, rfl⟩ :=
    Restarts.step_calls held stepped meets (.inl ready.holds)
  · exact ⟨_, sound.extended (.inl early) (.refl _) nofun, .inl rfl, fun _ _ ended => (stopped ended).elim⟩
  · refine ⟨some after, sound.extended (.inl late) proposes.extends nofun, .inr ⟨answer, after, proposes, rfl⟩, ?_⟩
    exact fun _ _ ended => (stopped ended).elim
  · refine ⟨some later.state, ⟨.inl done.holds, ?_, ?_⟩, .inr ⟨answer, later.state, proposes, rfl⟩, ?_⟩
    · rintro _ ⟨⟩
      exact ⟨rfl, named, done⟩
    · intro reservation granted
      obtain before | ⟨_, _, _, same, answered, grants⟩ := granted.of_cons
      · obtain ⟨state, issuer, same, issued, member⟩ := sound.granted reservation before
        obtain ⟨state', issuer', same', issued', grows⟩ := proposes.extends state issuer same issued
        exact ⟨state', issuer', same', issued', grows.reservations.subset member⟩
      cases same
      cases answered
      obtain ⟨issuer, issued, member⟩ := proposes.grants grants
      exact ⟨later.state, issuer, rfl, issued, member⟩
    · intro again reply _ ok
      cases result.symm.trans ok
      exact ⟨proposes, rfl⟩
  · refine ⟨_, sound.extended (.inl ready.holds) (.refl _) ?_, .inl rfl, fun later _ _ ok => ?_⟩
    · rintro _ ⟨⟩
      exact ⟨rfl, current, ready⟩
    cases result.symm.trans ok

theorem Sound.stays (sound : Sound hashes content world) (stands : Stands hashes content root) :
    Leads hashes content world (.opens request cut) ⟨root, none, (.opens request cut, none) :: world.past⟩ :=
  ⟨content, sound.extended stands (.refl _) (by rintro _ ⟨⟩), .inl rfl⟩

/-- A root without a content is given the first document. -/
theorem Sound.begins (sound : Sound hashes none world) (holds : Holds hashes (some firstIssuerState) root)
    (created : request.create = true) (opened : ∀ store, held = some store →
      store = ⟨firstIssuerState, some (hashes.digest firstIssuerState), false⟩ ∧
        Ready hashes (some firstIssuerState) root) :
    Leads hashes none world (.opens request cut) ⟨root, held, (.opens request cut, none) :: world.past⟩ := by
  refine ⟨some firstIssuerState, sound.extended (.inl holds) (by rintro _ _ ⟨⟩) ?_, .inr ⟨rfl, created, rfl⟩⟩
  intro store held
  obtain ⟨rfl, ready⟩ := opened store held
  exact ⟨rfl, rfl, ready⟩

theorem Sound.opens_claimed (sound : Sound hashes content world) (holds : Holds hashes content world.disk)
    (set : request.now.isZero = false)
    (stepped : step (issuerRoot hashes) world (.opens request cut) = some next) :
    Leads hashes content world (.opens request cut) next := by
  obtain ⟨-, ⟨point, early | ⟨rfl, created, late⟩, rfl⟩ | ⟨store, point, ⟨rfl, created, ready⟩, rfl⟩ |
      ⟨refusal, point, ⟨-, -, early⟩, rfl⟩⟩ :=
    Restarts.step_opens stepped (open_meets holds request.create set) (.inl holds)
  · exact sound.stays (.inl early)
  · exact sound.begins late created (by rintro _ ⟨⟩)
  · cases content with
    | none =>
      refine sound.begins ready.holds (created rfl) ?_
      rintro _ ⟨⟩
      exact ⟨rfl, ready⟩
    | some state =>
      refine ⟨some state, sound.extended (.inl ready.holds) (.refl _) ?_, .inl rfl⟩
      rintro _ ⟨⟩
      exact ⟨rfl, rfl, ready⟩
  · exact sound.stays (.inl early)

/-- A fresh directory is claimed, unless the process stops before its marker is written. -/
theorem Sound.opens_unclaimed {lock : Bool} (sound : Sound hashes none world)
    (fresh : world.disk = unclaimed lock) (uncut : cut ≠ some 2) (create : request.create = true)
    (set : request.now.isZero = false)
    (stepped : step (issuerRoot hashes) world (.opens request cut) = some next) :
    Leads hashes none world (.opens request cut) next := by
  have begun : (issuerRoot hashes).opens request world.disk =
      ⟨unclaimed true :: ⟨true, .torn, .empty⟩ :: claimed :: (afterMarker hashes claimed).points,
        (afterMarker hashes claimed).disk, (afterMarker hashes claimed).answer⟩ := by
    have opens : (issuerRoot hashes).opens request = openIssuerRootStore hashes true request.now := by
      rw [← create]
      rfl
    rw [opens, fresh]
    exact open_unclaimed lock set
  have meets := afterMarker_meets hashes
  obtain ⟨-, ⟨effects, point, rfl, found, rfl⟩ | ⟨store, -, answer, rfl⟩ | ⟨refusal, -, answer, -⟩⟩ :=
    opens_cases stepped
  · rw [Program.stops, begun, fresh] at found
    -- the third point is the marker without its text
    rcases effects with _ | _ | _ | more
    · cases found
      exact sound.stays (.inr ⟨rfl, lock, rfl⟩)
    · cases found
      exact sound.stays (.inr ⟨rfl, true, rfl⟩)
    · exact (uncut rfl).elim
    · have among := List.mem_of_getElem? (l := claimed :: (afterMarker hashes claimed).points) found
      obtain blank | first := meets.stops (.inl holds_claimed) point among
      · exact sound.stays (.inl blank)
      · exact sound.begins first create (by rintro _ ⟨⟩)
  · rw [Program.result, begun] at answer
    obtain ⟨rfl, ready⟩ := meets.ok store answer
    rw [Program.final, begun]
    refine sound.begins ready.holds create ?_
    rintro _ ⟨⟩
    exact ⟨rfl, ready⟩
  · rw [Program.result, begun] at answer
    exact (meets.error refusal answer).elim

theorem Sound.step_opens (sound : Sound hashes content world)
    (spared : spare hashes world (.opens request cut) = true)
    (stepped : step (issuerRoot hashes) world (.opens request cut) = some next) :
    Leads hashes content world (.opens request cut) next := by
  have idle : ∀ refused : IssuerRefusal → IssuerDirectory → Prop,
      (∀ refusal point, refused refusal point → Stands hashes content point) →
      Meets ((issuerRoot hashes).opens request) world.disk (Stands hashes content) (fun _ _ => False) refused →
      Leads hashes content world (.opens request cut) next := by
    intro refused leaves meets
    obtain ⟨-, ⟨point, stands, rfl⟩ | ⟨_, _, absurd, _⟩ | ⟨refusal, point, kept, rfl⟩⟩ :=
      Restarts.step_opens stepped meets sound.stands
    · exact sound.stays stands
    · exact absurd.elim
    · exact sound.stays (leaves refusal point kept)
  cases zero : request.now.isZero with
  | true =>
    refine idle (fun _ after => after = world.disk) ?_
      ((open_zero zero).imp (fun _ => False.elim) (fun _ _ => id) fun _ _ => id)
    rintro _ _ rfl
    exact sound.stands
  | false =>
    obtain holds | ⟨rfl, lock, fresh⟩ := sound.stands
    · exact sound.opens_claimed holds zero stepped
    cases create : request.create with
    | false =>
      have left : Stands hashes none (unclaimed true) := .inr ⟨rfl, true, rfl⟩
      refine idle (fun _ after => after = unclaimed true) (fun _ _ same => same ▸ left) ?_
      have outcome : (issuerRoot hashes).opens request world.disk =
          ⟨[unclaimed true], unclaimed true, .error .unclaimed⟩ := by
        have opens : (issuerRoot hashes).opens request = openIssuerRootStore hashes false request.now := by
          rw [← create]
          rfl
        rw [opens, fresh]
        exact open_unclaimed_refused lock zero
      constructor <;> rw [outcome]
      · intro point member
        rw [List.mem_singleton.1 member]
        exact left
      · exact nofun
      · exact fun _ _ => rfl
    | true =>
      have uncut : cut ≠ some 2 := by
        simpa [spare, fresh, unclaimed] using spared
      exact sound.opens_unclaimed fresh uncut create zero stepped

theorem Sound.step (sound : Sound hashes content world) (spared : spare hashes world event = true)
    (stepped : step (issuerRoot hashes) world event = some next) :
    Leads hashes content world event next := by
  cases event with
  | opens request cut => exact sound.step_opens spared stepped
  | calls call cut => exact sound.step_calls spared stepped
  | closes =>
    cases stepped
    exact ⟨content, sound.extended sound.stands (.refl _) nofun, rfl⟩

theorem sound_start (hashes : IssuerHashes) : Sound hashes none (World.start (unclaimed false)) := by
  refine ⟨.inr ⟨rfl, false, rfl⟩, ?_, ?_⟩
  · intro store held
    cases held
  · rintro reservation ⟨_, _, _, member, _⟩
    cases member

theorem validReservations_nodup {seen : List Digest} {reservations : List IssuerRootReservation}
    (valid : validReservations seen reservations = true) :
    (reservations.map IssuerRootReservation.requestID).Nodup ∧
      ∀ reservation ∈ reservations, reservation.requestID ∉ seen := by
  induction reservations generalizing seen with
  | nil => simp
  | cons first rest ih =>
    simp only [validReservations, Bool.and_eq_true, Bool.not_eq_true'] at valid
    obtain ⟨⟨-, fresh⟩, later⟩ := valid
    obtain ⟨distinct, apart⟩ := ih later
    have new : first.requestID ∉ seen := by simpa using fresh
    constructor
    · rw [List.map_cons, List.nodup_cons]
      refine ⟨fun member => ?_, distinct⟩
      obtain ⟨other, among, same⟩ := List.mem_map.1 member
      exact apart other among (same ▸ List.mem_cons_self)
    intro reservation member
    obtain rfl | among := List.mem_cons.1 member
    · exact new
    · exact fun old => apart reservation among (List.mem_cons_of_mem _ old)

/-- The reservations of a content are within the budget, one for each request. -/
structure Budgeted (issuer : IssuerRootRecord) : Prop where
  within : issuer.reservations.length ≤ issuer.budget.toNat
  distinct : (issuer.reservations.map IssuerRootReservation.requestID).Nodup

theorem Sound.budgeted (sound : Sound hashes content world)
    (same : content = some state) (issued : state.transitGrantIssuer = some issuer) : Budgeted issuer := by
  obtain rfl := same
  obtain holds | ⟨absurd, -⟩ := sound.stands
  · have stands : Directory.Stands hashes.scheme world.disk.directory state := holds.reads
    have valid : validIssuerRootState hashes.sha256 state = true := stands.valid
    simp only [validIssuerRootState, issued, Option.all_some, Bool.and_eq_true] at valid
    have record := valid.2
    refine ⟨(budget_le record).1, ?_⟩
    simp only [validIssuerRootRecord, Bool.and_eq_true] at record
    exact (validReservations_nodup record.2).1
  · cases absurd

/-- What holds in every state of a history: the root opens to a content that the open store
has, its reservations are within the budget, every grant that was answered is one of them,
and no request was answered with two grants or for two digests. -/
def Secure (hashes : IssuerHashes) (world : IssuerWorld) : Prop :=
  ∃ content, Recovers hashes world.disk content ∧
    (∀ store, world.held = some store → content = some store.state) ∧
    (∀ state issuer, content = some state → state.transitGrantIssuer = some issuer → Budgeted issuer) ∧
    (∀ reservation, Granted world reservation → ∃ state issuer, content = some state ∧
      state.transitGrantIssuer = some issuer ∧ reservation ∈ issuer.reservations) ∧
    ∀ first second, Granted world first → Granted world second → first.requestID = second.requestID →
      first = second

/-- What holds of every step: the content it leaves is the one from before or the one the
call commits, and the latter if the call returned without an error. -/
def Atomic (hashes : IssuerHashes) (world : IssuerWorld) (event : IssuerEvent) : Prop :=
  ∀ next, step (issuerRoot hashes) world event = some next → ∃ content content',
    Recovers hashes world.disk content ∧ Recovers hashes next.disk content' ∧
    Moves hashes world event content content'

theorem Sound.secure (sound : Sound hashes content world) : Secure hashes world := by
  refine ⟨content, sound.stands.recovers, fun store held => (sound.held store held).1,
    fun state issuer same issued => sound.budgeted same issued, sound.granted, ?_⟩
  intro first second early late request
  obtain ⟨state, issuer, rfl, issued, among⟩ := sound.granted first early
  obtain ⟨state', issuer', same, issued', among'⟩ := sound.granted second late
  cases same
  obtain rfl := Option.some.inj (issued.symm.trans issued')
  have distinct := (sound.budgeted rfl issued).distinct
  exact List.inj_on_of_nodup_map distinct among among' request

/-- What a history adds. -/
theorem Sound.through {events : List IssuerEvent} {last : IssuerWorld} (sound : Sound hashes content world)
    (spared : Along (Restarts.step (issuerRoot hashes)) (fun world event => spare hashes world event = true)
      world events) (ran : run (Restarts.step (issuerRoot hashes)) world events = some last) :
    ∃ content', Sound hashes content' last ∧ Extends content content' := by
  induction events generalizing world content with
  | nil =>
    cases ran
    exact ⟨content, sound, .refl _⟩
  | cons event events ih =>
    obtain ⟨next, stepped, rest⟩ := (run_cons_eq_some _).1 ran
    obtain ⟨middle, later, moves⟩ := sound.step spared.1 stepped
    obtain ⟨content', ended, more⟩ := ih later (spared.2 next stepped) rest
    exact ⟨content', ended, (moves.extends sound stepped).trans more⟩

end Histories

/-- **The issuer root.**  In every history from a fresh directory whose commits start with
at most three documents in the root, and in which no open stops between the creation and
the writing of the marker, the root opens in every state, every step changes its content as
a whole or not at all, and what the root holds at one point it holds, only added to, at
every later one. -/
theorem issuer_root_durable (hashes : IssuerHashes) (events : List IssuerEvent)
    (spared : Along (step (issuerRoot hashes)) (fun world event => spare hashes world event = true)
      (World.start (unclaimed false)) events) :
    Throughout (step (issuerRoot hashes)) (Secure hashes) (World.start (unclaimed false)) events ∧
      Along (step (issuerRoot hashes)) (Atomic hashes) (World.start (unclaimed false)) events ∧
      ∀ first second middle last, events = first ++ second →
        run (step (issuerRoot hashes)) (World.start (unclaimed false)) first = some middle →
        run (step (issuerRoot hashes)) middle second = some last →
        ∃ content content', Recovers hashes middle.disk content ∧ Recovers hashes last.disk content' ∧
          Extends content content' := by
  have sound : Throughout (step (issuerRoot hashes)) (fun world => ∃ content, Sound hashes content world)
      (World.start (unclaimed false)) events := by
    apply Along.throughout _ ⟨none, sound_start hashes⟩ spared
    rintro world event next ⟨content, sound⟩ spared stepped
    obtain ⟨content', later, -⟩ := sound.step spared stepped
    exact ⟨content', later⟩
  refine ⟨sound.imp fun world ⟨content, sound⟩ => sound.secure, ?_, ?_⟩
  · refine sound.along ?_ spared
    rintro world event ⟨content, sound⟩ spared next stepped
    obtain ⟨content', later, moves⟩ := sound.step spared stepped
    exact ⟨content, content', sound.stands.recovers, later.stands.recovers, moves⟩
  rintro first second middle last rfl early late
  obtain ⟨begun, rest⟩ := spared.append
  obtain ⟨content, there, -⟩ := (sound_start hashes).through begun early
  obtain ⟨content', ended, more⟩ := there.through (rest middle early) late
  exact ⟨content, content', there.stands.recovers, ended.stands.recovers, more⟩

/-! ## Histories after which a root is refused -/

/-- Names by the last grant, which tell the documents below apart. -/
def lastGrant (state : IssuerRootState) : Digest :=
  match state.transitGrantIssuer with
  | none => Digest.zero
  | some issuer =>
    match issuer.reservations.getLast? with
    | some reservation => reservation.grantID
    | none => if issuer.binding.epoch = 0 then .filled 1
        else .filled 2

def block (byte : UInt8) : Digest := .filled byte

def sampleHashes : IssuerHashes := ⟨lastGrant, fun _ => block 7⟩

def noon : Time := .ofSeconds 10

def sampleScope : IssuerScope :=
  ⟨.named (block 3), block 3, block 3, block 3, block 3, 1, .ofSeconds 100⟩

def reserves (byte : UInt8) : IssuerCall := .reserve sampleScope (block byte) (block byte) (block byte) noon

/-- The root is made, bound, and used, with an interruption. -/
def preparing : List IssuerEvent :=
  [.opens ⟨true, noon⟩ none, .calls (.initializeIssuer (block 7) 8 [1] [1]) none, .calls (.bind sampleScope) none]

theorem preparing_durable :
    Throughout (step (issuerRoot sampleHashes)) (Secure sampleHashes) (World.start (unclaimed false))
      (preparing ++ [.calls (reserves 11) (some 2), .opens ⟨false, noon⟩ none, .calls (reserves 12) none]) :=
  (issuer_root_durable sampleHashes _ (by decide +kernel)).1

theorem open_refused {root : IssuerDirectory} {refusal : IssuerRefusal} (create : Bool)
    (set : now.isZero = false) (refused : preflightIssuerRoot root = .error refusal) :
    (openIssuerRootStore hashes create now).result root = .error refusal := by
  have meets : Meets (openIssuerRootStore hashes create now) root (fun _ => True) (fun _ _ => False)
      (fun other _ => other = refusal) := by
    rw [openIssuerRootStore, set]
    apply meets_look_bind
    rw [refused]
    refine meets_lift_bind nofun ?_
    rintro _ ⟨⟩
    rfl
  exact meets.result_error

theorem open_torn (create : Bool) (set : now.isZero = false) :
    (openIssuerRootStore hashes create now).result ⟨true, .torn, .empty⟩ = .error .marker := by
  rw [openIssuerRootStore, set]
  cases create <;> rfl

/-- Three interrupted reservations make a root that is never opened again; so does an open
that stops right after it created the marker. -/
theorem issuer_root_refused :
    (∃ last, run (step (issuerRoot sampleHashes)) (World.start (unclaimed false))
        (preparing ++ [.calls (reserves 11) (some 2), .opens ⟨false, noon⟩ none,
          .calls (reserves 12) (some 2), .opens ⟨false, noon⟩ none, .calls (reserves 13) (some 3)]) = some last ∧
      ∀ create now, now.isZero = false →
        (openIssuerRootStore sampleHashes create now).result last.disk = .error .entryBound) ∧
    ∃ last, run (step (issuerRoot sampleHashes)) (World.start (unclaimed false))
        [.opens ⟨true, noon⟩ (some 2)] = some last ∧
      ∀ create now, now.isZero = false →
        (openIssuerRootStore sampleHashes create now).result last.disk = .error .marker := by
  constructor
  · have ran : (run (step (issuerRoot sampleHashes)) (World.start (unclaimed false))
        (preparing ++ [.calls (reserves 11) (some 2), .opens ⟨false, noon⟩ none,
          .calls (reserves 12) (some 2), .opens ⟨false, noon⟩ none, .calls (reserves 13) (some 3)])).any
        (fun last => decide (preflightIssuerRoot last.disk = .error .entryBound)) = true := by
      decide +kernel
    obtain ⟨last, found, refused⟩ := (Option.any_eq_true _ _).1 ran
    exact ⟨last, found, fun create now set => open_refused create set (of_decide_eq_true refused)⟩
  · exact ⟨_, rfl, fun create now set => open_torn create set⟩

end Ardents.Credential
