/-
# Duty.Commits — what the local role store keeps through stops

A root is opened again after any stop of an open or a call, and the document it is opened
with is the one from before the call or the one the call commits (`Holds`, `open_meets`,
`commit_meets`).  What is in the document is bounded and free of conflicts because every
committed document was checked, and a grant that was spent stays in it until its end.

The root is refused when it has more than nine entries, and a document of a call that
stopped before its watermark stays in it until the next commit that ends.  So the results
are about histories in which no commit starts with more than three documents in the root
(`roomy`); `crowded_root_refused` is a history in which one does.
-/
import Ardents.Duty.Store

namespace Ardents.Duty

open Lib Json Restarts Watermark Program

set_option autoImplicit false

/-! ## Documents -/

theorem conflictFree_iff (records : List DutyRecord) :
    conflictFree records = true ↔ records.Pairwise fun first second => clash first second = false := by
  induction records with
  | nil => simp [conflictFree]
  | cons first rest ih => simp [conflictFree, List.pairwise_cons, ih]

/-- What is retained, in the bounds of the store. -/
structure DurableState.Bounded (state : DurableState) : Prop where
  duties : state.duties.length ≤ 64
  producers : (producers state.duties).length ≤ 16
  spends : state.transitGrantSpends.length ≤ 64
  conflictFree : state.duties.Pairwise fun first second => clash first second = false

variable {call : Call} {grantID : Digest} {state : DurableState} {records : List DutyRecord}
  {now notAfter : Time}

theorem validRecords_iff : validRecords records = true ↔
    records.length ≤ 64 ∧ validateEach [] records = .ok () ∧ (producers records).length ≤ 16 ∧
      conflictFree records = true := by
  rw [validRecords, decide_eq_true_eq, validateRecords]
  split
  · next many => simp [Nat.not_le.2 many]
  next few =>
  have short : records.length ≤ 64 := Nat.not_lt.1 few
  cases each : validateEach [] records with
  | error refusal => simp
  | ok _ =>
    dsimp only
    split
    · next many => simp [Nat.not_le.2 many]
    · next some =>
      cases free : conflictFree records <;> simp [short, Nat.not_lt.1 some]

theorem bounded_of_valid (valid : validDurableState state = true) : state.Bounded := by
  simp only [validDurableState, validTransitGrantSpends, Bool.and_eq_true, decide_eq_true_eq,
    validRecords_iff, conflictFree_iff] at valid
  obtain ⟨⟨-, duties, -, producers, free⟩, spends, -⟩ := valid
  exact ⟨duties, producers, spends, free⟩

/-! ## A valid document is never too long -/

theorem textLength_class {kind : Class} (valid : validClass kind = true) :
    textLength kind.text.length ≤ 24 := by
  cases kind <;> first | decide | cases valid

theorem textLength_state {state : Phase} (valid : validState state = true) :
    textLength state.text.length ≤ 13 := by
  cases state <;> first | decide | cases valid

theorem DutyRecord.jsonLength_le {record : DutyRecord} (valid : validRecord record = true) :
    record.jsonLength ≤ 513 := by
  simp only [validRecord, Bool.and_eq_true] at valid
  have kind := textLength_class valid.1.1.2
  have state := textLength_state valid.1.2
  have producer := blockLength_le record.producer
  have identity := blockLength_le record.identity
  have family := blockLength_le record.family
  have ending := signedDecimals_le record.notAfter
  rw [jsonLength]
  omega

theorem TransitGrantSpend.jsonLength_le (spend : TransitGrantSpend) : spend.jsonLength ≤ 317 := by
  have node := blockLength_le spend.nodeID
  have grant := blockLength_le spend.grantID
  have ending := signedDecimals_le spend.notAfter
  rw [jsonLength]
  omega

theorem validateEach_valid {seen : List (Digest × Digest × Digest)}
    (valid : validateEach seen records = .ok ()) : ∀ record ∈ records, validRecord record = true := by
  induction records generalizing seen with
  | nil => simp
  | cons first rest ih =>
    rw [validateEach] at valid
    split at valid
    · cases valid
    next good =>
    split at valid
    · cases valid
    intro record member
    obtain rfl | later := List.mem_cons.1 member
    · simpa using good
    · exact ih valid record later

theorem jsonLength_le (valid : validDurableState state = true) :
    state.jsonLength ≤ maximumStateBytes := by
  have bounded := bounded_of_valid valid
  simp only [validDurableState, Bool.and_eq_true, validRecords_iff] at valid
  have duties : arrayLength (state.duties.map DutyRecord.jsonLength) ≤ 2 + state.duties.length * 514 :=
    arrayLength_map_le fun record among =>
      DutyRecord.jsonLength_le (validateEach_valid valid.1.2.2.1 record among)
  have spends : arrayLength (state.transitGrantSpends.map TransitGrantSpend.jsonLength) ≤
      2 + state.transitGrantSpends.length * 318 :=
    arrayLength_map_le fun spend _ => spend.jsonLength_le
  have version : decimals state.version.toNat ≤ 3 :=
    decimals_le (state.version.toNat_lt.trans (by decide)) (by decide)
  have generation := decimals_uint64 state.generation
  have previous : (if state.previous.isSome then 12 + textLength 64 else 0) ≤ 78 := by
    split <;> simp [textLength]
  have spent := bounded.spends
  rw [DurableState.jsonLength, maximumStateBytes]
  omega

/-! ## The root -/

/-- The document that the first open commits. -/
def firstState : DurableState := Store.next ⟨unwritten, none, false⟩ [] []

/-- The document a root with this content is opened with. -/
def opened (content : Option DurableState) : DurableState := content.getD firstState

section Root

variable (digest : DurableState → Digest)

/-- A claimed root with a content. -/
abbrev Holds (content : Option DurableState) (root : DutyRoot) : Prop :=
  Root.Holds (scheme digest) firstState content root

/-- A root that a store holds open. -/
abbrev Ready (content : Option DurableState) (root : DutyRoot) : Prop :=
  Root.Ready (scheme digest) firstState content root

variable {digest} {content : Option DurableState} {root : DutyRoot} {store : Store} {next : DurableState}

theorem verified (holds : Holds digest content root) (create : Bool) (entries : Nat) :
    verifyRoot create entries root = .ok () := by
  have few : root.entries ≤ maximumEntries := holds.entries_le
  simp [verifyRoot, holds.marker, Nat.not_lt.2 few]

/-- A commit, which is refused only when another document has the name. -/
theorem commit_meets (ready : Ready digest content root) (current : store.current = content.map digest)
    (valid : validDurableState next = true)
    (follows : next.generation.toNat = (content.map fun state => state.generation.toNat).getD 0 + 1)
    (few : root.directory.files.size ≤ 3) (beginning : content = none → next = firstState) :
    Meets (commit digest store next) root
      (fun point => Holds digest content point ∨ Holds digest (some next) point)
      (fun value after => value = ⟨next, some (digest next), false⟩ ∧ Ready digest (some next) after)
      (fun _ after => after = root ∧ content ≠ none) := by
  have short := jsonLength_le valid
  rw [commit, if_neg (Nat.not_lt.2 short), current]
  refine meets_bind (Root.commit_meets ready valid follows few beginning) ?_
  intro _ after done
  exact meets_pure ⟨rfl, done⟩

theorem valid_firstState : validDurableState firstState = true := by decide

theorem prepareRoot_meets (holds : Holds digest content root) :
    Meets prepareRoot root (fun point => Holds digest content point)
      (fun _ after => Holds digest content after ∧ after.directory.temporaries = 0)
      (fun _ _ => False) := by
  have few : root.entries ≤ maximumEntries := holds.entries_le
  apply meets_look_bind
  rw [if_neg (by simp [holds.marker])]
  apply meets_look_bind
  rw [if_neg (Nat.not_lt.2 few)]
  exact Root.sweep_meets holds

/-- **Opening** a claimed root finds its content; a root without one is given the first
document when the caller may create it. -/
theorem open_meets (holds : Holds digest content root) (create : Bool) (set : now.isZero = false) :
    Meets (openStore digest create now) root
      (fun point => Holds digest content point ∨
        content = none ∧ create = true ∧ Holds digest (some firstState) point)
      (fun value after => value = ⟨opened content, some (digest (opened content)), false⟩ ∧
        (content = none → create = true) ∧ Ready digest (some (opened content)) after)
      (fun refusal after => refusal = .uninitialized ∧ content = none ∧ create = false ∧
        Holds digest content after) := by
  have same := holds.locked
  rw [openStore, set]
  apply meets_look_bind
  rw [verified holds]
  apply meets_ok_bind
  apply meets_effect_bind
  · rw [same]
    exact .inl holds
  rw [same]
  apply meets_look_bind
  rw [verified holds]
  apply meets_ok_bind
  refine meets_bind ((prepareRoot_meets holds).imp (fun _ => .inl) (fun _ _ => id) fun _ _ => False.elim) ?_
  rintro _ swept ⟨holds, clean⟩
  refine meets_bind ((Root.load_meets holds clean).imp (fun _ => .inl) (fun _ _ => id)
    fun _ _ => False.elim) ?_
  rintro _ after ⟨rfl, ready⟩
  cases content with
  | some state => exact meets_pure ⟨rfl, nofun, ready⟩
  | none =>
    cases create with
    | false => exact meets_refuse ⟨rfl, rfl, rfl, ready.holds⟩
    | true =>
      have few := ready.holds.files_le
      refine (commit_meets ready rfl valid_firstState rfl (by omega) fun _ => rfl).imp ?_ ?_ ?_
      · rintro point (early | late)
        · exact .inl early
        · exact .inr ⟨rfl, rfl, late⟩
      · rintro _ last ⟨rfl, done⟩
        exact ⟨rfl, fun _ => rfl, done⟩
      · rintro _ _ ⟨-, absurd⟩
        exact (absurd rfl).elim

theorem openStore_zero {create : Bool} (zero : now.isZero = true) :
    Meets (openStore digest create now) root (fun _ => False) (fun _ _ => False)
      (fun _ after => after = root) := by
  rw [openStore, zero]
  exact meets_bind (meets_refuse rfl) fun _ _ => False.elim

end Root

/-! ## What a call commits -/

section Decisions

variable {store : Store} {now : Time} {next : DurableState}

theorem Store.replace_eq_ok {producer : Digest} {duties : List Duty}
    (decided : store.replace producer duties now = .ok next) :
    ∃ records, next = store.next records (liveTransitGrantSpends store.state.transitGrantSpends now) ∧
      validRecords records = true ∧
      validTransitGrantSpends (liveTransitGrantSpends store.state.transitGrantSpends now) = true := by
  simp only [Store.replace] at decided
  repeat' split at decided
  all_goals cases decided
  next checked spends =>
    refine ⟨_, rfl, ?_, by simpa using spends⟩
    rw [validRecords, decide_eq_true_eq]
    exact checked

theorem Store.spendTransitGrant_eq_ok {nodeID : Digest}
    (decided : store.spendTransitGrant nodeID grantID notAfter now = .ok next) :
    notAfter.isTruncated Time.second = true ∧ now.before notAfter = true ∧
      (∀ spend ∈ liveTransitGrantSpends store.state.transitGrantSpends now, spend.grantID ≠ grantID) ∧
      ∃ records, next = store.next records (liveTransitGrantSpends store.state.transitGrantSpends now ++
          [⟨nodeID, grantID, notAfter.unixSeconds⟩]) ∧ validRecords records = true ∧
        validTransitGrantSpends (liveTransitGrantSpends store.state.transitGrantSpends now ++
          [⟨nodeID, grantID, notAfter.unixSeconds⟩]) = true := by
  simp only [Store.spendTransitGrant] at decided
  repeat' split at decided
  all_goals cases decided
  next proper live fresh room valid =>
    simp only [not_or, Bool.not_eq_true', Bool.not_eq_false] at proper
    simp only [Bool.or_eq_true, Bool.not_eq_true', not_or, Bool.not_eq_false] at valid
    refine ⟨proper.2.2.2.2, by simpa using live, ?_, _, rfl, valid.1, valid.2⟩
    intro spend member same
    exact fresh (List.any_eq_true.2 ⟨spend, member, by simpa using same⟩)

/-- The call spends a grant that ends then. -/
def Call.Spends (call : Call) (grantID : Digest) (notAfter : Time) : Prop :=
  match call with
  | .replace _ _ _ => False
  | .spendTransitGrant _ grant ending _ => grant = grantID ∧ ending = notAfter

/-- What a call wants to commit follows the document of the store, is valid, and retains
every spend that is not over. -/
structure Proposes (store : Store) (call : Call) (next : DurableState) : Prop where
  follows : ∃ records spends, next = store.next records spends ∧ validRecords records = true ∧
    validTransitGrantSpends spends = true
  retains : ∀ spend ∈ store.state.transitGrantSpends, call.now.unixSeconds < spend.notAfter →
    spend ∈ next.transitGrantSpends
  spends : ∀ grantID notAfter, call.Spends grantID notAfter → notAfter.isTruncated Time.second = true ∧
    (∃ spend ∈ next.transitGrantSpends, spend.grantID = grantID ∧ spend.notAfter = notAfter.unixSeconds) ∧
    ∀ spend ∈ store.state.transitGrantSpends, call.now.unixSeconds < spend.notAfter → spend.grantID ≠ grantID

theorem mem_liveTransitGrantSpends {spends : List TransitGrantSpend} {spend : TransitGrantSpend} :
    spend ∈ liveTransitGrantSpends spends now ↔ spend ∈ spends ∧ now.unixSeconds < spend.notAfter := by
  simp [liveTransitGrantSpends]

theorem Store.decided_eq_ok (decided : store.decided call = .ok next) :
    Proposes store call next := by
  cases call with
  | replace producer duties now =>
    obtain ⟨records, rfl, valid, spends⟩ := Store.replace_eq_ok decided
    refine ⟨⟨_, _, rfl, valid, spends⟩, ?_, ?_⟩
    · intro spend member live
      exact mem_liveTransitGrantSpends.2 ⟨member, live⟩
    · intro grant ending spends
      cases spends
  | spendTransitGrant nodeID grantID notAfter now =>
    obtain ⟨whole, -, fresh, records, rfl, valid, spends⟩ := Store.spendTransitGrant_eq_ok decided
    refine ⟨⟨_, _, rfl, valid, spends⟩, ?_, ?_⟩
    · intro spend member live
      exact List.mem_append_left _ (mem_liveTransitGrantSpends.2 ⟨member, live⟩)
    rintro _ _ ⟨rfl, rfl⟩
    refine ⟨whole, ⟨_, List.mem_append_right _ (List.mem_singleton_self _), rfl, rfl⟩, ?_⟩
    intro spend among live
    exact fresh spend (mem_liveTransitGrantSpends.2 ⟨among, live⟩)

/-- The document that follows is accepted when it is read back, unless its number wraps. -/
theorem Proposes.valid (proposes : Proposes store call next)
    (numbered : store.state.generation.toNat + 1 < 2 ^ 64) :
    validDurableState next = true ∧ next.generation.toNat = store.state.generation.toNat + 1 := by
  obtain ⟨records, spends, rfl, validRecords, validSpends⟩ := proposes.follows
  have number : (store.state.generation + 1).toNat = store.state.generation.toNat + 1 := by
    exact Nat.mod_eq_of_lt numbered
  have positive : 0 < store.state.generation + 1 := by
    rw [UInt64.lt_iff_toNat_lt, number]
    exact Nat.succ_pos _
  refine ⟨?_, number⟩
  simp [validDurableState, Store.next, positive, validRecords, validSpends]

end Decisions

/-! ## Histories -/

section Histories

variable {digest : DurableState → Digest} {content : Option DurableState} {world : DutyWorld}

/-- No commit starts with more than three documents in the root, or with the last number. -/
def roomy (world : DutyWorld) : DutyEvent → Bool
  | .calls call _ =>
    world.held.all fun store =>
      match store.decided call with
      | .error _ => true
      | .ok _ => decide (world.disk.directory.files.size ≤ 3) &&
          decide (store.state.generation.toNat + 1 < 2 ^ 64)
  | _ => true

/-- The reading of the clock that an event takes. -/
def reading : DutyEvent → Option Time
  | .opens request _ => some request.now
  | .calls call _ => some call.now
  | .closes => none

/-- The clock has not run back to `now`. -/
def Later (world : DutyWorld) (now : Time) : Prop :=
  ∀ earlier ∈ world.past, ∀ before, reading earlier.1 = some before → now.before before = false

/-- The clock does not run back. -/
def onward (world : DutyWorld) (event : DutyEvent) : Bool :=
  (reading event).all fun now => world.past.all fun earlier =>
    (reading earlier.1).all fun before => !now.before before

variable {event : DutyEvent} {cut : Option Nat} {root : DutyRoot} {held : Option Store}

theorem later_of_onward (forward : onward world event = true)
    (reads : reading event = some now) : Later world now := by
  intro earlier member before taken
  simp only [onward, reads, Option.all_some, List.all_eq_true] at forward
  simpa [taken] using forward earlier member

variable {next : DutyWorld} {answer : Option Unit} {store : Store}

theorem roomy_calls (spare : roomy world (.calls call cut) = true)
    (held : world.held = some store) : ∀ next, store.decided call = .ok next →
      world.disk.directory.files.size ≤ 3 ∧ store.state.generation.toNat + 1 < 2 ^ 64 := by
  intro next decided
  simpa [roomy, held, decided] using spare

/-- A call that ran to its end or stopped. -/
theorem perform_meets (ready : Ready digest (some store.state) root)
    (current : store.current = some (digest store.state))
    (spare : ∀ next, store.decided call = .ok next → root.directory.files.size ≤ 3 ∧
      store.state.generation.toNat + 1 < 2 ^ 64) :
    Meets (store.perform digest call) root
      (fun point => Holds digest (some store.state) point ∨
        ∃ next, store.decided call = .ok next ∧ Holds digest (some next) point)
      (fun value after => ∃ next, store.decided call = .ok next ∧
        value.1 = ⟨next, some (digest next), false⟩ ∧ Ready digest (some next) after)
      (fun _ after => after = root) := by
  apply meets_lift_bind
  · intro next decided
    obtain ⟨few, numbered⟩ := spare next decided
    obtain ⟨valid, number⟩ := (Store.decided_eq_ok decided).valid numbered
    refine meets_bind ((commit_meets ready current valid number few nofun).imp ?_ (fun _ _ => id) ?_) ?_
    · rintro point (early | late)
      · exact .inl early
      · exact .inr ⟨next, decided, late⟩
    · exact fun _ _ refused => refused.1
    · rintro value after ⟨rfl, done⟩
      exact meets_pure ⟨next, decided, rfl, done⟩
  · exact fun _ _ => rfl

/-- **What opening a root gives.**  A root that nothing was committed to is given the first
document, if the caller may create it. -/
def Recovers (digest : DurableState → Digest) (root : DutyRoot) (content : Option DurableState) : Prop :=
  ∀ create now, now.isZero = false → (openStore digest create now).result root =
    if content = none ∧ create = false then .error .uninitialized
    else .ok ⟨opened content, some (digest (opened content)), false⟩

theorem recovers_of_holds (holds : Holds digest content root) : Recovers digest root content := by
  intro create now set
  have meets := open_meets holds create set
  cases answer : (openStore digest create now root).answer with
  | error refusal =>
    obtain ⟨rfl, rfl, rfl, -⟩ := meets.error refusal answer
    simp [Program.result, answer]
  | ok store =>
    obtain ⟨rfl, created, -⟩ := meets.ok store answer
    rw [Program.result, answer, if_neg]
    rintro ⟨none, refused⟩
    rw [created none] at refused
    cases refused

/-- A grant was spent: the call returned without an error. -/
def Spent (world : DutyWorld) (grantID : Digest) (notAfter : Time) : Prop :=
  ∃ call cut, (.calls call cut, some ()) ∈ world.past ∧ call.Spends grantID notAfter

/-- The invariant of every history: what the root and the store stand for, and that a
grant that was spent is in the document until its end. -/
structure Sound (digest : DurableState → Digest) (content : Option DurableState) (world : DutyWorld) : Prop where
  holds : Holds digest content world.disk
  held : ∀ store, world.held = some store → content = some store.state ∧
    store.current = some (digest store.state) ∧ Ready digest content world.disk
  spent : ∀ grantID notAfter, Spent world grantID notAfter → ∀ now, Later world now →
    now.before notAfter = true → ∃ state, content = some state ∧
      ∃ spend ∈ state.transitGrantSpends, spend.grantID = grantID ∧ now.unixSeconds < spend.notAfter

/-- How the content of the root may change with an event. -/
def Moves (digest : DurableState → Digest) (world : DutyWorld) (event : DutyEvent)
    (content content' : Option DurableState) : Prop :=
  match event with
  | .closes => content' = content
  | .opens request _ => content' = content ∨ content = none ∧ request.create = true ∧ content' = some firstState
  | .calls call cut => ∀ store, world.held = some store →
      (content' = content ∨ ∃ after, store.decided call = .ok after ∧ content' = some after) ∧
      ∀ later, cut = none → (store.perform digest call).result world.disk = .ok (later, ()) →
        ∃ after, store.decided call = .ok after ∧ later = ⟨after, some (digest after), false⟩ ∧
          content' = some after

theorem Later.of_cons {entry : DutyEvent × Option Unit}
    (later : Later ⟨root, held, entry :: world.past⟩ now) : Later world now :=
  fun earlier member => later earlier (List.mem_cons_of_mem _ member)

theorem Spent.of_cons (spent : Spent ⟨root, held, (event, answer) :: world.past⟩ grantID notAfter) :
    Spent world grantID notAfter ∨ ∃ call cut, event = .calls call cut ∧ answer = some () ∧
      call.Spends grantID notAfter := by
  obtain ⟨call, cut, member, spends⟩ := spent
  obtain same | early := List.mem_cons.1 member
  · cases same
    exact .inr ⟨call, cut, rfl, rfl, spends⟩
  · exact .inl ⟨call, cut, early, spends⟩

/-- The content is as it was, or was given to a root that had none. -/
theorem Sound.kept {content' : Option DurableState} (sound : Sound digest content world)
    (holds : Holds digest content' root) (kept : content' = content ∨ content = none)
    (opened : ∀ store, held = some store → content' = some store.state ∧
      store.current = some (digest store.state) ∧ Ready digest content' root) :
    Sound digest content' ⟨root, held, (event, none) :: world.past⟩ where
  holds := holds
  held := opened
  spent := by
    intro grantID notAfter spent now later live
    obtain early | ⟨_, _, _, answered, _⟩ := spent.of_cons
    · obtain ⟨state, same, spend, among⟩ := sound.spent grantID notAfter early now later.of_cons live
      obtain rfl | none := kept
      · exact ⟨state, same, spend, among⟩
      · rw [none] at same
        cases same
    · cases answered

/-- The content is the one that a call proposed. -/
theorem Sound.proposed {after : DurableState}
    (sound : Sound digest content world) (was : world.held = some store)
    (decided : store.decided call = .ok after) (holds : Holds digest (some after) root)
    (opened : ∀ store, held = some store → some after = some store.state ∧
      store.current = some (digest store.state) ∧ Ready digest (some after) root) :
    Sound digest (some after) ⟨root, held, (.calls call cut, answer) :: world.past⟩ := by
  have proposes := Store.decided_eq_ok decided
  refine ⟨holds, opened, ?_⟩
  intro grantID notAfter spent now later live
  obtain early | ⟨_, _, same, -, spends⟩ := spent.of_cons
  · obtain ⟨state, same, spend, among, grant, unexpired⟩ :=
      sound.spent grantID notAfter early now later.of_cons live
    obtain rfl : store.state = state := Option.some.inj ((sound.held store was).1.symm.trans same)
    -- the call read the clock no later, so that it kept the spend
    have order : now.before call.now = false := later _ List.mem_cons_self _ rfl
    have seconds := Time.unixSeconds_le order
    exact ⟨after, rfl, spend, proposes.retains spend among (Int64.lt_of_le_of_lt seconds unexpired), grant, unexpired⟩
  · cases same
    obtain ⟨whole, ⟨spend, among, grant, ending⟩, -⟩ := proposes.spends grantID notAfter spends
    refine ⟨after, rfl, spend, among, grant, ?_⟩
    rw [ending]
    rw [Time.ofSeconds_unixSeconds whole] at live
    exact (Time.before_ofSeconds_iff now _).1 live

theorem Sound.step_opens {request : Opening} (sound : Sound digest content world)
    (stepped : step (localRoles digest) world (.opens request cut) = some next) :
    ∃ content', Sound digest content' next ∧ Moves digest world (.opens request cut) content content' := by
  have stays : ∀ root, Holds digest content root →
      ∃ content', Sound digest content' ⟨root, none, (.opens request cut, none) :: world.past⟩ ∧
        Moves digest world (.opens request cut) content content' :=
    fun root holds => ⟨content, sound.kept holds (.inl rfl) nofun, .inl rfl⟩
  cases zero : request.now.isZero with
  | true =>
    have meets : Meets ((localRoles digest).opens request) world.disk (Holds digest content)
        (fun _ _ => False) fun _ after => after = world.disk :=
      (openStore_zero zero).imp (fun _ => False.elim) (fun _ _ => id) fun _ _ => id
    obtain ⟨-, ⟨point, holds, rfl⟩ | ⟨_, _, absurd, _⟩ | ⟨_, _, rfl, rfl⟩⟩ :=
      Restarts.step_opens stepped meets sound.holds
    · exact stays point holds
    · exact absurd.elim
    · exact stays _ sound.holds
  | false =>
    obtain ⟨-, ⟨point, early | ⟨rfl, created, late⟩, rfl⟩ | ⟨store, point, ⟨rfl, created, ready⟩, rfl⟩ |
        ⟨refusal, point, ⟨-, -, -, holds⟩, rfl⟩⟩ :=
      Restarts.step_opens stepped (open_meets sound.holds request.create zero) (.inl sound.holds)
    · exact stays point early
    · exact ⟨some firstState, sound.kept late (.inr rfl) nofun, .inr ⟨rfl, created, rfl⟩⟩
    · cases content with
      | none =>
        refine ⟨some firstState, sound.kept ready.holds (.inr rfl) ?_, .inr ⟨rfl, created rfl, rfl⟩⟩
        rintro _ ⟨⟩
        exact ⟨rfl, rfl, ready⟩
      | some state =>
        refine ⟨some state, sound.kept ready.holds (.inl rfl) ?_, .inl rfl⟩
        rintro _ ⟨⟩
        exact ⟨rfl, rfl, ready⟩
    · exact stays point holds

theorem Sound.step_calls (sound : Sound digest content world)
    (spare : roomy world (.calls call cut) = true)
    (stepped : step (localRoles digest) world (.calls call cut) = some next) :
    ∃ content', Sound digest content' next ∧ Moves digest world (.calls call cut) content content' := by
  obtain ⟨store, held⟩ := held_of_calls stepped
  obtain ⟨rfl, current, ready⟩ := sound.held store held
  simp only [Moves, held, Option.some.injEq, forall_eq']
  have meets := perform_meets ready current (roomy_calls spare held)
  obtain ⟨point, early | ⟨after, decided, late⟩, rfl, stopped⟩ |
      ⟨later, _, point, ⟨after, decided, rfl, done⟩, rfl, result, rfl⟩ | ⟨refusal, _, rfl, rfl, result, rfl⟩ :=
    Restarts.step_calls held stepped meets (.inl sound.holds)
  · exact ⟨_, sound.kept early (.inl rfl) nofun, .inl rfl, fun _ ended => (stopped ended).elim⟩
  · refine ⟨_, sound.proposed held decided late nofun, .inr ⟨after, decided, rfl⟩, ?_⟩
    exact fun _ ended => (stopped ended).elim
  · refine ⟨_, sound.proposed held decided done.holds ?_, .inr ⟨after, decided, rfl⟩, fun later _ ok => ?_⟩
    · rintro _ ⟨⟩
      exact ⟨rfl, rfl, done⟩
    cases result.symm.trans ok
    exact ⟨after, decided, rfl, rfl⟩
  · refine ⟨_, sound.kept sound.holds (.inl rfl) ?_, .inl rfl, fun later _ ok => ?_⟩
    · rintro _ ⟨⟩
      exact ⟨rfl, current, ready⟩
    cases result.symm.trans ok

theorem Sound.step (sound : Sound digest content world)
    (spare : roomy world event = true) (stepped : step (localRoles digest) world event = some next) :
    ∃ content', Sound digest content' next ∧ Moves digest world event content content' := by
  cases event with
  | opens request cut => exact sound.step_opens stepped
  | calls call cut => exact sound.step_calls spare stepped
  | closes =>
    cases stepped
    exact ⟨content, sound.kept sound.holds (.inl rfl) nofun, rfl⟩

theorem sound_start (digest : DurableState → Digest) : Sound digest none (World.start claimed) := by
  refine ⟨⟨rfl, rfl, ⟨rfl, rfl⟩, Nat.zero_le _, Nat.zero_le _, ?_⟩, ?_, ?_⟩
  · intro _ name document found
    cases found
  · intro store held
    cases held
  · rintro grantID notAfter ⟨_, _, member, _⟩
    cases member

/-- What holds in every state of a history: the root opens to a content that the open store
has, that is within its bounds, and that is not behind the watermark. -/
def Secure (digest : DurableState → Digest) (world : DutyWorld) : Prop :=
  ∃ content, Recovers digest world.disk content ∧
    (∀ store, world.held = some store → content = some store.state) ∧
    ∀ state, content = some state → state.Bounded ∧
      ∀ number name, world.disk.directory.watermark = some (number, name) → number ≤ state.generation.toNat

/-- What holds of every step: the content it leaves is the one from before or the one the
call commits, and the latter if the call returned without an error; then the number rose,
and a grant that was spent was not spent before, or is over. -/
def Atomic (digest : DurableState → Digest) (world : DutyWorld) (event : DutyEvent) : Prop :=
  ∀ next, step (localRoles digest) world event = some next → ∃ content content',
    Recovers digest world.disk content ∧ Recovers digest next.disk content' ∧
    Moves digest world event content content' ∧
    ∀ call store later, event = .calls call none → world.held = some store →
      (store.perform digest call).result world.disk = .ok (later, ()) →
      next.held = some later ∧ content' = some later.state ∧ store.state.generation < later.state.generation ∧
      ∀ grantID notAfter, call.Spends grantID notAfter → ∀ earlier, Spent world grantID earlier →
        call.now.before earlier = false

theorem Sound.secure (sound : Sound digest content world) : Secure digest world := by
  refine ⟨content, recovers_of_holds sound.holds, fun store held => (sound.held store held).1, ?_⟩
  rintro state rfl
  have stands : Directory.Stands (scheme digest) world.disk.directory state := sound.holds.reads
  refine ⟨bounded_of_valid stands.valid, ?_⟩
  intro number name marked
  rw [stands.watermark] at marked
  obtain ⟨rfl, -⟩ := Prod.mk.inj (Option.some.inj marked)
  exact le_rfl

theorem Sound.atomic (sound : Sound digest content world) (forward : onward world event = true)
    (spare : roomy world event = true) : Atomic digest world event := by
  intro next stepped
  obtain ⟨content', after, moves⟩ := sound.step spare stepped
  refine ⟨content, content', recovers_of_holds sound.holds, recovers_of_holds after.holds, moves, ?_⟩
  rintro call store later rfl held ok
  obtain ⟨committed, decided, rfl, rfl⟩ := (moves store held).2 later rfl ok
  have proposes := Store.decided_eq_ok decided
  have number := (proposes.valid (roomy_calls spare held committed decided).2).2
  refine ⟨?_, rfl, ?_, ?_⟩
  · simp only [Restarts.step, stepCalls, held, localRoles, ok] at stepped
    cases stepped
    rfl
  · rw [UInt64.lt_iff_toNat_lt, number]
    exact Nat.lt_succ_self _
  intro grantID notAfter spends earlier spent
  by_contra live
  obtain ⟨state, same, spend, among, grant, unexpired⟩ :=
    sound.spent grantID earlier spent call.now (later_of_onward forward rfl) (by simpa using live)
  obtain rfl : store.state = state := Option.some.inj ((sound.held store held).1.symm.trans same)
  exact (proposes.spends grantID notAfter spends).2.2 spend among unexpired grant

end Histories

/-- **Durability of the local role store.**  In every history in which the clock does not
run back and whose commits start with at most three documents in the root, the root opens
to a content that is within its bounds in every state, and every step changes that content
as a whole or not at all. -/
theorem duty_store_durable (digest : DurableState → Digest) (events : List DutyEvent)
    (forward : Along (step (localRoles digest)) (fun world event => onward world event = true)
      (World.start claimed) events)
    (spare : Along (step (localRoles digest)) (fun world event => roomy world event = true)
      (World.start claimed) events) :
    Throughout (step (localRoles digest)) (Secure digest) (World.start claimed) events ∧
      Along (step (localRoles digest)) (Atomic digest) (World.start claimed) events := by
  have sound : Throughout (step (localRoles digest)) (fun world => ∃ content, Sound digest content world)
      (World.start claimed) events := by
    apply Along.throughout _ ⟨none, sound_start digest⟩ spare
    rintro world event next ⟨content, sound⟩ spare stepped
    obtain ⟨content', later, -⟩ := sound.step spare stepped
    exact ⟨content', later⟩
  constructor
  · exact sound.imp fun world ⟨content, sound⟩ => sound.secure
  · exact sound.along (fun world event ⟨content, sound⟩ both => sound.atomic both.1 both.2) (forward.and spare)

/-! ## A history that crowds the root -/

/-- Names by the first duty, which tell the documents below apart. -/
def firstIdentity (state : DurableState) : Digest :=
  (state.duties.head?.map DutyRecord.identity).getD Digest.zero

def block (byte : UInt8) : Digest := .filled byte

def noon : Time := .ofSeconds 10

/-- A producer takes on a duty. -/
def takesOn (byte : UInt8) : Call :=
  .replace (block 1)
    [⟨block byte, block byte, .routeInterior, .live, .ofSeconds 100⟩] noon

def spendsOne : Call :=
  .spendTransitGrant (block 5) (block 6) (.ofSeconds 20) noon

/-- Names by the number of the document. -/
def byGeneration (state : DurableState) : Digest := .filled state.generation.toUInt8

/-- A duty is taken on and a grant is spent; a call stops after its document is in the root,
the root is opened again, and the grant is not spent twice. -/
def quietEvents : List DutyEvent :=
  [.opens ⟨true, noon⟩ none, .calls (takesOn 2) none, .calls spendsOne none, .calls (takesOn 3) (some 2),
    .opens ⟨false, noon⟩ none, .calls spendsOne none]

theorem quietEvents_durable :
    (run (step (localRoles byGeneration)) (World.start claimed) quietEvents).map (fun last =>
        (last.past.map Prod.snd, last.held.map fun store => (store.state.generation, store.failed))) =
      some ([none, none, none, some (), some (), none], some (3, false)) ∧
    Throughout (step (localRoles byGeneration)) (Secure byGeneration) (World.start claimed) quietEvents ∧
      Along (step (localRoles byGeneration)) (Atomic byGeneration) (World.start claimed) quietEvents :=
  ⟨by decide +kernel, duty_store_durable byGeneration quietEvents (by decide +kernel) (by decide +kernel)⟩

/-- A call stops after its document is in the root, and the root is opened again; the third
call stops with the temporary file of the watermark. -/
def crowdingEvents : List DutyEvent :=
  [.opens ⟨true, noon⟩ none, .calls (takesOn 2) none, .calls (takesOn 3) (some 2), .opens ⟨false, noon⟩ none,
    .calls (takesOn 4) (some 2), .opens ⟨false, noon⟩ none, .calls (takesOn 5) (some 3)]

theorem crowded {digest : DurableState → Digest} {root : DutyRoot} (whole : root.marker = .whole)
    (many : maximumEntries < root.entries) (create : Bool) (set : now.isZero = false) :
    (openStore digest create now).result root = .error .entryBound := by
  have refused : verifyRoot create 0 root = .error .entryBound := by
    simp [verifyRoot, whole, many]
  have meets : Meets (openStore digest create now) root (fun _ => True) (fun _ _ => False)
      (fun refusal _ => refusal = .entryBound) := by
    rw [openStore, set]
    apply meets_look_bind
    rw [refused]
    refine meets_lift_bind nofun ?_
    rintro _ ⟨⟩
    rfl
  exact meets.result_error

/-- Three interrupted calls make a root that is never opened again. -/
theorem crowded_root_refused :
    ∃ last, run (step (localRoles firstIdentity)) (World.start claimed) crowdingEvents = some last ∧
      ∀ create now, now.isZero = false →
        (openStore firstIdentity create now).result last.disk = .error .entryBound := by
  have ran : (run (step (localRoles firstIdentity)) (World.start claimed) crowdingEvents).any (fun last =>
      decide (last.disk.marker = .whole) && decide (maximumEntries < last.disk.entries)) = true := by
    decide +kernel
  obtain ⟨last, found, facts⟩ := (Option.any_eq_true _ _).1 ran
  simp only [Bool.and_eq_true, decide_eq_true_eq] at facts
  exact ⟨last, found, fun create now set => crowded facts.1 facts.2 create set⟩

end Ardents.Duty
