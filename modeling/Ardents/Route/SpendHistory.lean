/-
# Route.SpendHistory — a token is spent once, across failures and restarts

The life of one journal file: its owner opens it, spends tokens, closes it or dies,
and opens it again, and every filesystem call on the way may fail.  `Safe` says what
the file and the owner remember of the tokens that were accepted.  It survives
everything but an append behind a tail that an earlier append left: such a record
may be cut on the next open, or doubled.
-/
import Ardents.Route.SpendLedger
import Ardents.Lib.Runs

namespace Ardents.Route

open Lib

set_option autoImplicit false

/-- The file, the owner in the running process if there is one, the tokens for
which `Spend` returned nil, and the latest clock reading handed to `Spend`. -/
structure SpendState where
  file : Option (List UInt8)
  owner : Option ClosedSpendLedger
  accepted : List (List UInt8)
  clock : Option Time
  deriving DecidableEq

/-- A process that dies inside a call leaves what a fault of that call leaves, and is
then gone: the call with the fault, and `crash`. -/
inductive SpendEvent where
  | opens (faults : OpenFaults)
  | close
  | crash
  | spend (token : List UInt8) (window now : Time) (replacing : Option ReplaceFault)
      (appending : Option AppendFault)
  deriving DecidableEq

namespace SpendState

def initial : SpendState := ⟨none, none, [], none⟩

/-- The lease is held by an owner that was not closed. -/
def leased (state : SpendState) : Bool :=
  match state.owner with
  | some ledger => !ledger.closed
  | none => false

def step (sha256 : List UInt8 → Block 32) (binding : ClosedSpendBinding) (state : SpendState) :
    SpendEvent → Option SpendState
  | .opens faults =>
    if state.leased then some state
    else
      let opened := openClosedSpendLedger binding state.file faults
      some { state with file := opened.2, owner := opened.1.toOption }
  | .close =>
    some { state with owner := state.owner.map fun ledger => { ledger with closed := true } }
  | .crash => some { state with owner := none }
  | .spend token window now replacing appending =>
    match state.owner, state.file with
    | some ledger, some file =>
      let spent := Route.spend sha256 ledger file token window now replacing appending
      some {
        file := some spent.2.2
        owner := some spent.2.1
        accepted := if spent.1 = none then state.accepted ++ [token] else state.accepted
        clock := some now }
    | _, _ => some state

/-- Each token is presented under its one window, its hash is not the zero digest, and
the clock never runs back. -/
def presents (sha256 : List UInt8 → Block 32) (windowOf : List UInt8 → Time) (state : SpendState) :
    SpendEvent → Bool
  | .spend token window now _ _ =>
    decide (window = windowOf token) && decide (sha256 token ≠ Block.zero 32) &&
      match state.clock with
      | some reading => decide (reading.instant ≤ now.instant)
      | none => true
  | _ => true

/-- The call comes to append its record to the journal as it stands: it passes every
check and has nothing to prune. -/
def appendsInPlace (sha256 : List UInt8 → Block 32) (ledger : ClosedSpendLedger)
    (token : List UInt8) (window now : Time) : Bool :=
  decide (token.length = 354) && validClosedSpendWindow window && !now.isZero &&
    decide (window.instant ≤ now.instant) && decide (now.instant < window.instant + Time.hour) &&
    !ledger.closed && decide ((retained ledger.spent now).length = ledger.spent.length) &&
    decide (sha256 token ∉ ledger.spent.map Prod.fst) &&
    decide (ledger.spent.length < maximumClosedSpends)

/-- The journal is the encoding of `spent`, in some order: the owner has a map. -/
def holdsExactly (binding : ClosedSpendBinding) (file : List UInt8) (spent : Spends) : Bool :=
  spent.permutations'.any fun records => decide (file = encodeClosedSpends binding records)

theorem holdsExactly_iff {binding : ClosedSpendBinding} {file : List UInt8} {spent : Spends} :
    holdsExactly binding file spent = true ↔
      ∃ records, file = encodeClosedSpends binding records ∧ records.Perm spent := by
  simp [holdsExactly, and_comm]

/-- An append in place finds the journal to hold exactly what the owner remembers,
and the header of a new journal is written whole or not at all. -/
def appendsToWhole (sha256 : List UInt8 → Block 32) (binding : ClosedSpendBinding)
    (state : SpendState) : SpendEvent → Bool
  | .spend token window now _ _ =>
    match state.owner, state.file with
    | some ledger, some file =>
      !appendsInPlace sha256 ledger token window now || holdsExactly binding file ledger.spent
    | _, _ => true
  | .opens faults =>
    match state.file, faults.creating with
    | none, some (.short _) => false
    | _, _ => true
  | _ => true

/-- An open that meets no fault of its own, and no other owner, succeeds. -/
def reopens (binding : ClosedSpendBinding) (state : SpendState) : SpendEvent → Bool
  | .opens faults =>
    state.leased || decide (faults ≠ {}) ||
      (openClosedSpendLedger binding state.file faults).1.isOk
  | _ => true

end SpendState

/-! ## What is remembered -/

variable {sha256 : List UInt8 → Block 32} {windowOf : List UInt8 → Time} {token : List UInt8}
  {binding : ClosedSpendBinding}

section Remembered

variable {accepted : List (List UInt8)} {clock : Option Time} {now window : Time} {spends further : Spends}

/-- The window is over at the latest clock reading. -/
def Over (clock : Option Time) (window : Time) : Prop :=
  ∃ reading, clock = some reading ∧ window.instant + Time.hour ≤ reading.instant

/-- Every accepted token is among `spends`, or its window is over. -/
def Remembers (sha256 : List UInt8 → Block 32) (windowOf : List UInt8 → Time)
    (accepted : List (List UInt8)) (clock : Option Time) (spends : Spends) : Prop :=
  ∀ token ∈ accepted, (sha256 token, windowOf token) ∈ spends ∨ Over clock (windowOf token)

/-- The clock has not run back. -/
def Follows (clock : Option Time) (now : Time) : Prop :=
  ∀ reading, clock = some reading → reading.instant ≤ now.instant

theorem Over.later (ended : Over clock window) (follows : Follows clock now) :
    Over (some now) window := by
  obtain ⟨reading, rfl, le⟩ := ended
  exact ⟨now, rfl, le.trans (follows reading rfl)⟩

section Kept

variable (remembers : Remembers sha256 windowOf accepted clock spends)

include remembers

theorem Remembers.mono (keeps : ∀ spend ∈ spends, spend ∈ further) :
    Remembers sha256 windowOf accepted clock further := by
  intro token member
  exact (remembers token member).imp (keeps _) id

theorem Remembers.later (follows : Follows clock now) :
    Remembers sha256 windowOf accepted (some now) spends := by
  intro token member
  exact (remembers token member).imp id fun ended => ended.later follows

/-- What is pruned is over. -/
theorem Remembers.retained (follows : Follows clock now) :
    Remembers sha256 windowOf accepted (some now) (retained spends now) := by
  intro token member
  rcases remembers token member with kept | ended
  · by_cases fresh : now.instant < (windowOf token).instant + (Time.hour + Time.minute)
    · exact .inl (List.mem_filter.mpr ⟨kept, by simpa using fresh⟩)
    · have positive : 0 ≤ Time.minute := by decide
      exact .inr ⟨now, rfl, by omega⟩
  · exact .inr (ended.later follows)

theorem Remembers.accept (token : List UInt8) :
    Remembers sha256 windowOf (accepted ++ [token]) clock
      (spends ++ [(sha256 token, windowOf token)]) := by
  intro other member
  rw [List.mem_append, List.mem_singleton] at member
  rcases member with member | rfl
  · exact (remembers other member).imp (List.mem_append_left _) id
  · exact .inl (by simp)

end Kept

/-- A token that is redeemable and not among `spends` was never accepted. -/
theorem Remembers.fresh (remembers : Remembers sha256 windowOf accepted (some now) spends)
    (redeemable : now.instant < (windowOf token).instant + Time.hour)
    (absent : sha256 token ∉ spends.map Prod.fst) : token ∉ accepted := by
  intro member
  rcases remembers token member with kept | ⟨reading, same, le⟩
  · exact absent (List.mem_map_of_mem kept)
  · cases same
    omega

theorem WellFormed.retained (wellFormed : WellFormed spends) (now : Time) :
    WellFormed (Route.retained spends now) where
  distinct := wellFormed.distinct.sublist (List.filter_sublist.map _)
  windows := fun spend member => wellFormed.windows spend (List.mem_of_mem_filter member)
  digests := fun spend member => wellFormed.digests spend (List.mem_of_mem_filter member)
  bounded := (List.length_filter_le _ _).trans wellFormed.bounded

theorem WellFormed.perm (wellFormed : WellFormed spends) (same : further.Perm spends) :
    WellFormed further where
  distinct := (same.map Prod.fst).nodup_iff.mpr wellFormed.distinct
  windows := fun spend member => wellFormed.windows spend (same.mem_iff.mp member)
  digests := fun spend member => wellFormed.digests spend (same.mem_iff.mp member)
  bounded := same.length_eq ▸ wellFormed.bounded

theorem WellFormed.append (wellFormed : WellFormed spends) {digest : Block 32}
    (fresh : digest ∉ spends.map Prod.fst) (valid : validClosedSpendWindow window = true)
    (nonzero : digest ≠ Block.zero 32) (room : spends.length < maximumClosedSpends) :
    WellFormed (spends ++ [(digest, window)]) := by
  constructor
  · rw [List.map_append, List.nodup_append]
    refine ⟨wellFormed.distinct, by simp, ?_⟩
    rintro left member right found rfl
    simp only [List.map_cons, List.map_nil, List.mem_singleton] at found
    exact fresh (found ▸ member)
  · intro spend member
    rw [List.mem_append, List.mem_singleton] at member
    rcases member with member | rfl
    · exact wellFormed.windows spend member
    · exact valid
  · intro spend member
    rw [List.mem_append, List.mem_singleton] at member
    rcases member with member | rfl
    · exact wellFormed.digests spend member
    · exact nonzero
  · rw [List.length_append, List.length_singleton]
    exact room

/-! ## The journal on disk -/

variable {file : List UInt8} {ledger : ClosedSpendLedger}

/-- The file is a journal of well-formed spends that remember `accepted`, with at
most one unfinished record behind them, for which there is room. -/
def Journal (binding : ClosedSpendBinding) (remembers : Spends → Prop) (file : List UInt8) : Prop :=
  ∃ spends tail, file = encodeClosedSpends binding spends ++ tail ∧ WellFormed spends ∧
    Unfinished tail ∧ (tail ≠ [] → spends.length < maximumClosedSpends) ∧ remembers spends

variable {remembers : Spends → Prop} {err : Option SpendError}

/-- A journal without a tail. -/
theorem WellFormed.journal (wellFormed : WellFormed spends) (kept : remembers spends) :
    Journal binding remembers (encodeClosedSpends binding spends) :=
  ⟨spends, [], (List.append_nil _).symm, wellFormed, unfinished_nil, fun never => absurd rfl never,
    kept⟩

theorem sortedSpends_perm (spends : Spends) : (sortedSpends spends).Perm spends :=
  List.perm_insertionSort _ spends

/-- Opening a journal gives back its spends and leaves them alone on disk, or fails
because a truncation failed and leaves a journal. -/
theorem Journal.decode (journal : Journal binding remembers file)
    (uncommitted incomplete : Option TruncateFault) :
    (∃ spends, decodeClosedSpendLedger binding file uncommitted incomplete =
        (.ok ⟨false, binding, spends⟩, encodeClosedSpends binding spends) ∧
        WellFormed spends ∧ remembers spends) ∨
      (∃ err left, decodeClosedSpendLedger binding file uncommitted incomplete =
        (.error err, left) ∧ Journal binding remembers left ∧
        (uncommitted ≠ none ∨ incomplete ≠ none)) := by
  have unchanged := journal
  obtain ⟨spends, tail, rfl, wellFormed, unfinished, _, kept⟩ := journal
  have cut : Journal binding remembers (encodeClosedSpends binding spends) := wellFormed.journal kept
  rw [decodeClosedSpendLedger_unfinished wellFormed unfinished]
  by_cases empty : tail = []
  · rw [if_pos empty]
    exact .inl ⟨spends, rfl, wellFormed, kept⟩
  rw [if_neg empty]
  generalize chosen : (if tail.length = closedSpendRecordSize then uncommitted else incomplete) =
    fault
  have faulty : fault ≠ none → uncommitted ≠ none ∨ incomplete ≠ none := by
    intro some_
    subst chosen
    split at some_
    · exact .inl some_
    · exact .inr some_
  cases fault with
  | none =>
    rw [truncateClosedSpendLedger, resize_append]
    exact .inl ⟨spends, rfl, wellFormed, kept⟩
  | some fault =>
    right
    cases fault with
    | unchanged => exact ⟨_, _, rfl, unchanged, faulty nofun⟩
    | unsynced =>
      rw [truncateClosedSpendLedger, resize_append]
      exact ⟨_, _, rfl, cut, faulty nofun⟩

theorem replaceClosedSpendLedger_cases (file : List UInt8) (binding : ClosedSpendBinding)
    (spends : Spends) (fault : Option ReplaceFault) :
    (∃ err, replaceClosedSpendLedger file binding spends fault = (some err, file)) ∨
      (∃ err, replaceClosedSpendLedger file binding spends fault =
        (some err, encodeClosedSpends binding (sortedSpends spends))) ∨
      replaceClosedSpendLedger file binding spends fault =
        (none, encodeClosedSpends binding (sortedSpends spends)) := by
  unfold replaceClosedSpendLedger
  (repeat' split) <;> simp

/-- `prune` has nothing to do, fails with the journal as it was or already replaced,
or succeeds. -/
theorem prune_cases (ledger : ClosedSpendLedger) (file : List UInt8) (now : Time)
    (fault : Option ReplaceFault) : prune ledger file now fault = (none, ledger, file) ∧
        (retained ledger.spent now).length = ledger.spent.length ∨
      (∃ err, prune ledger file now fault = (some err, ledger, file)) ∨
      (∃ err, prune ledger file now fault = (some err, ledger,
        encodeClosedSpends ledger.binding (sortedSpends (retained ledger.spent now)))) ∨
      prune ledger file now fault = (none, { ledger with spent := retained ledger.spent now },
        encodeClosedSpends ledger.binding (sortedSpends (retained ledger.spent now))) := by
  unfold prune
  by_cases same : (retained ledger.spent now).length = ledger.spent.length
  · exact .inl ⟨if_pos same, same⟩
  right
  simp only [if_neg same]
  rcases replaceClosedSpendLedger_cases file ledger.binding (retained ledger.spent now) fault with
    ⟨err, replaced⟩ | ⟨err, replaced⟩ | replaced <;> simp [replaced]

/-- What the retained spends remember, sorted or not, is a journal. -/
theorem WellFormed.pruned (wellFormed : WellFormed spends)
    (remembers : Remembers sha256 windowOf accepted clock spends) (follows : Follows clock now) :
    Journal binding (Remembers sha256 windowOf accepted (some now))
      (encodeClosedSpends binding (sortedSpends (Route.retained spends now))) := by
  have same := sortedSpends_perm (Route.retained spends now)
  apply ((wellFormed.retained now).perm same).journal
  exact (remembers.retained follows).mono fun spend member => same.mem_iff.mpr member

theorem encodeClosedSpends_append (binding : ClosedSpendBinding) (spends : Spends)
    (digest : Block 32) (window : Time) :
    encodeClosedSpends binding (spends ++ [(digest, window)]) =
      encodeClosedSpends binding spends ++ encodeClosedSpendRecord digest window 1 := by
  simp [encodeClosedSpends, records]

variable {next : ClosedSpendLedger} {left : List UInt8}

/-- **An append behind a whole journal leaves a journal**, however far it gets; if it
succeeds the token is in it. -/
theorem WellFormed.appended (wellFormed : WellFormed spends)
    (remembers : Remembers sha256 windowOf accepted clock spends)
    (fresh : sha256 token ∉ spends.map Prod.fst) (valid : validClosedSpendWindow (windowOf token) = true)
    (nonzero : sha256 token ≠ Block.zero 32) (room : spends.length < maximumClosedSpends)
    (fault : Option AppendFault)
    (appended : appendClosedSpendRecord (encodeClosedSpends binding spends) (sha256 token)
      (windowOf token) fault = (err, left)) :
    Journal binding (Remembers sha256 windowOf
      (if err = none then accepted ++ [token] else accepted) clock) left := by
  have longer := wellFormed.append fresh valid nonzero room
  have unfinished (count : Nat) : Journal binding (Remembers sha256 windowOf accepted clock)
      (encodeClosedSpends binding spends ++
        (encodeClosedSpendRecord (sha256 token) (windowOf token) 0).take count) :=
    ⟨spends, _, rfl, wellFormed, ⟨_, _, count, rfl⟩, fun _ => room, remembers⟩
  have whole := unfinished closedSpendRecordSize
  rw [List.take_of_length_le (by rw [encodeClosedSpendRecord_length])] at whole
  cases fault with
  | none =>
    cases appended
    rw [← encodeClosedSpends_append, if_pos rfl]
    exact longer.journal (remembers.accept token)
  | some fault =>
    cases fault with
    | unopened =>
      cases appended
      exact wellFormed.journal remembers
    | short count =>
      cases appended
      exact unfinished count
    | unsynced =>
      cases appended
      exact whole
    | unmarked =>
      cases appended
      exact whole
    | marked =>
      cases appended
      rw [← encodeClosedSpends_append, if_neg nofun]
      exact longer.journal (remembers.mono fun _ member => List.mem_append_left _ member)

/-- What the owner has in memory. -/
structure Owned (binding : ClosedSpendBinding) (remembers : Spends → Prop)
    (ledger : ClosedSpendLedger) : Prop where
  binding : ledger.binding = binding
  wellFormed : WellFormed ledger.spent
  remembers : remembers ledger.spent

/-- The end of `Spend`, once `prune` has returned nil: if it comes to append, the
journal must hold exactly the owner's spends. -/
theorem Owned.append {fault : Option AppendFault}
    (owned : Owned binding (Remembers sha256 windowOf accepted (some now)) ledger)
    (journal : Journal binding (Remembers sha256 windowOf accepted (some now)) file)
    (nonzero : sha256 token ≠ Block.zero 32) (valid : validClosedSpendWindow (windowOf token) = true)
    (redeemable : now.instant < (windowOf token).instant + Time.hour)
    (whole : sha256 token ∉ ledger.spent.map Prod.fst → ledger.spent.length < maximumClosedSpends →
      ∃ spends, file = encodeClosedSpends binding spends ∧ spends.Perm ledger.spent)
    (spent : (if sha256 token ∈ ledger.spent.map Prod.fst then (some .alreadySpent, ledger, file)
        else if maximumClosedSpends ≤ ledger.spent.length then
          (some .journalExhausted, ledger, file)
        else
          match appendClosedSpendRecord file (sha256 token) (windowOf token) fault with
          | (some err, file) => (some err, ledger, file)
          | (none, file) =>
            (none, { ledger with spent := ledger.spent ++ [(sha256 token, windowOf token)] }, file)) =
      (err, next, left)) :
    Journal binding (Remembers sha256 windowOf
        (if err = none then accepted ++ [token] else accepted) (some now)) left ∧
      Owned binding (Remembers sha256 windowOf
        (if err = none then accepted ++ [token] else accepted) (some now)) next ∧
      (err = none → token ∉ accepted) := by
  split at spent
  · cases spent
    exact ⟨journal, owned, nofun⟩
  split at spent
  · cases spent
    exact ⟨journal, owned, nofun⟩
  rename_i fresh full
  rw [not_le] at full
  obtain ⟨spends, rfl, same⟩ := whole fresh full
  have room : spends.length < maximumClosedSpends := by rwa [same.length_eq]
  have absent : sha256 token ∉ spends.map Prod.fst := by rwa [(same.map Prod.fst).mem_iff]
  have remembers : Remembers sha256 windowOf accepted (some now) spends :=
    owned.remembers.mono fun _ member => same.mem_iff.mpr member
  have wellFormed := owned.wellFormed.perm same
  split at spent
  · rename_i appended
    cases spent
    exact ⟨wellFormed.appended remembers absent valid nonzero room fault appended, owned, nofun⟩
  rename_i appended
  cases spent
  refine ⟨wellFormed.appended remembers absent valid nonzero room fault appended, ?_,
    fun _ => owned.remembers.fresh redeemable fresh⟩
  exact ⟨owned.binding, owned.wellFormed.append fresh valid nonzero full,
    owned.remembers.accept token⟩

/-- **`Spend` keeps the journal and the owner**, and a token it accepts is new. -/
theorem Owned.spend {replacing : Option ReplaceFault} {appending : Option AppendFault}
    (nonzero : sha256 token ≠ Block.zero 32)
    (owned : Owned binding (Remembers sha256 windowOf accepted clock) ledger)
    (journal : Journal binding (Remembers sha256 windowOf accepted clock) file)
    (follows : Follows clock now)
    (whole : SpendState.appendsInPlace sha256 ledger token (windowOf token) now = true →
      SpendState.holdsExactly binding file ledger.spent = true)
    (spent : Route.spend sha256 ledger file token (windowOf token) now replacing appending =
      (err, next, left)) :
    Journal binding (Remembers sha256 windowOf
        (if err = none then accepted ++ [token] else accepted) (some now)) left ∧
      Owned binding (Remembers sha256 windowOf
        (if err = none then accepted ++ [token] else accepted) (some now)) next ∧
      (err = none → token ∉ accepted) := by
  have later : Journal binding (Remembers sha256 windowOf accepted (some now)) file := by
    obtain ⟨spends, tail, rfl, wellFormed, unfinished, room, kept⟩ := journal
    exact ⟨spends, tail, rfl, wellFormed, unfinished, room, kept.later follows⟩
  have kept : Owned binding (Remembers sha256 windowOf accepted (some now)) ledger :=
    ⟨owned.binding, owned.wellFormed, owned.remembers.later follows⟩
  have replaced : Journal binding (Remembers sha256 windowOf accepted (some now))
      (encodeClosedSpends ledger.binding (sortedSpends (retained ledger.spent now))) := by
    rw [owned.binding]
    exact owned.wellFormed.pruned owned.remembers follows
  unfold Route.spend at spent
  split at spent
  · cases spent
    exact ⟨later, kept, nofun⟩
  split at spent
  · cases spent
    exact ⟨later, kept, nofun⟩
  split at spent
  · cases spent
    exact ⟨later, kept, nofun⟩
  rename_i checks redeemable released
  simp only [not_or, ne_eq, not_not, not_lt, not_le, Bool.not_eq_false, Bool.not_eq_true]
    at checks redeemable released
  obtain ⟨length, valid, nonzeroTime⟩ := checks
  rcases prune_cases ledger file now replacing with ⟨same, nothing⟩ | ⟨reason, failed⟩ |
    ⟨reason, failed⟩ | done
  · simp only [same] at spent
    refine kept.append later nonzero valid redeemable.2 (fun fresh room => ?_) spent
    apply SpendState.holdsExactly_iff.mp
    apply whole
    simp [SpendState.appendsInPlace, length, valid, nonzeroTime, redeemable, released, nothing, room]
    simpa using fresh
  · simp only [failed] at spent
    cases spent
    exact ⟨later, kept, nofun⟩
  · simp only [failed] at spent
    cases spent
    exact ⟨replaced, kept, nofun⟩
  · simp only [done] at spent
    have pruned : Owned binding (Remembers sha256 windowOf accepted (some now))
        { ledger with spent := retained ledger.spent now } :=
      ⟨owned.binding, owned.wellFormed.retained now, owned.remembers.retained follows⟩
    refine pruned.append replaced nonzero valid redeemable.2 (fun _ _ => ?_) spent
    exact ⟨_, by rw [owned.binding], sortedSpends_perm _⟩

/-- A journal is never too long to be read. -/
theorem Journal.length_le (journal : Journal binding remembers file) :
    file.length ≤ closedSpendLedgerHeaderSize + maximumClosedSpends * closedSpendRecordSize := by
  obtain ⟨spends, tail, rfl, wellFormed, unfinished, room, _⟩ := journal
  have bound := wellFormed.bounded
  have short := unfinished.length_le
  simp only [encodeClosedSpends, List.length_append, encodeClosedSpendHeader_length, records_length,
    closedSpendRecordSize, maximumClosedSpends] at *
  by_cases empty : tail = []
  · rw [empty, List.length_nil]
    omega
  · have := room empty
    omega

/-- Opening a journal. -/
theorem Journal.opens (valid : validClosedSpendBinding binding = true)
    (journal : Journal binding remembers file) (faults : OpenFaults) :
    ∃ left, (openClosedSpendLedger binding (some file) faults).2 = some left ∧
      Journal binding remembers left ∧
      (∀ ledger, (openClosedSpendLedger binding (some file) faults).1 = .ok ledger →
        Owned binding remembers ledger) ∧
      (faults = {} → (openClosedSpendLedger binding (some file) faults).1.isOk = true) := by
  have readable := journal.length_le
  simp only [openClosedSpendLedger, valid, Bool.true_eq_false, if_false,
    if_neg (Nat.not_lt.mpr readable)]
  by_cases unread : faults.unread = true
  · simp only [unread, if_true]
    refine ⟨file, rfl, journal, nofun, ?_⟩
    rintro rfl
    cases unread
  simp only [if_neg unread]
  rcases journal.decode faults.uncommitted faults.incomplete with
    ⟨spends, decoded, wellFormed, kept⟩ | ⟨err, left, decoded, still, faulty⟩
  · rw [decoded]
    refine ⟨_, rfl, wellFormed.journal kept, ?_, fun _ => rfl⟩
    rintro ledger same
    cases same
    exact ⟨rfl, wellFormed, kept⟩
  · rw [decoded]
    refine ⟨left, rfl, still, nofun, ?_⟩
    rintro rfl
    rcases faulty with never | never <;> exact absurd rfl never

end Remembered

/-! ## Histories -/

namespace SpendState

variable {state next : SpendState} {event : SpendEvent}

/-- **What a history keeps**: no token was accepted twice, and the journal and the
owner each remember every accepted token whose window is not over. -/
structure Safe (sha256 : List UInt8 → Block 32) (windowOf : List UInt8 → Time)
    (binding : ClosedSpendBinding) (state : SpendState) : Prop where
  absent : state.file = none → state.owner = none ∧ state.accepted = []
  journal : ∀ file, state.file = some file →
    Journal binding (Remembers sha256 windowOf state.accepted state.clock) file
  owner : ∀ ledger, state.owner = some ledger →
    Owned binding (Remembers sha256 windowOf state.accepted state.clock) ledger
  accepted : state.accepted.Nodup

theorem initial_safe : Safe sha256 windowOf binding initial where
  absent := fun _ => ⟨rfl, rfl⟩
  journal := nofun
  owner := nofun
  accepted := List.nodup_nil

theorem wellFormed_nil : WellFormed [] := by
  constructor <;> simp

/-- A new journal remembers everything, since nothing was accepted yet. -/
theorem remembers_nil {clock : Option Time} {spends : Spends} :
    Remembers sha256 windowOf [] clock spends := nofun

section Safe

variable (valid : validClosedSpendBinding binding = true) (safe : Safe sha256 windowOf binding state)

include valid safe

theorem safe_opens {faults : OpenFaults}
    (whole : state.appendsToWhole sha256 binding (.opens faults) = true) :
    Safe sha256 windowOf binding { state with
      file := (openClosedSpendLedger binding state.file faults).2
      owner := (openClosedSpendLedger binding state.file faults).1.toOption } := by
  cases file : state.file with
  | some raw =>
    obtain ⟨left, kept, journal, owned, _⟩ := (safe.journal raw file).opens valid faults
    refine ⟨?_, ?_, ?_, safe.accepted⟩
    · rw [kept]
      rintro ⟨⟩
    · rw [kept]
      rintro _ ⟨⟩
      exact journal
    intro ledger same
    apply owned
    cases opened : (openClosedSpendLedger binding (some raw) faults).1 with
    | error err =>
      rw [opened] at same
      cases same
    | ok found =>
      rw [opened] at same
      cases same
      rfl
  | none =>
    obtain ⟨_, nothing⟩ := safe.absent file
    have header : encodeClosedSpendHeader binding = encodeClosedSpends binding [] := by
      simp [encodeClosedSpends, records]
    have created : Journal binding (Remembers sha256 windowOf state.accepted state.clock)
        (encodeClosedSpendHeader binding) := by
      rw [header, nothing]
      exact wellFormed_nil.journal remembers_nil
    simp only [openClosedSpendLedger, valid, Bool.true_eq_false, if_false]
    cases creating : faults.creating with
    | none =>
      refine ⟨(by rintro ⟨⟩), ?_, ?_, safe.accepted⟩
      · rintro _ ⟨⟩
        exact created
      rintro _ ⟨⟩
      refine ⟨rfl, wellFormed_nil, ?_⟩
      rw [nothing]
      exact remembers_nil
    | some fault =>
      cases fault with
      | unopened => exact ⟨fun _ => ⟨rfl, nothing⟩, (by rintro _ ⟨⟩), (by rintro _ ⟨⟩), safe.accepted⟩
      | short count => simp [appendsToWhole, file, creating] at whole
      | unsynced =>
        refine ⟨(by rintro ⟨⟩), ?_, (by rintro _ ⟨⟩), safe.accepted⟩
        rintro _ ⟨⟩
        exact created

/-- **One step**, of a caller that presents each token under its window and reads a
clock that never runs back. -/
theorem step_safe (presented : state.presents sha256 windowOf event = true)
    (whole : state.appendsToWhole sha256 binding event = true)
    (stepped : step sha256 binding state event = some next) :
    Safe sha256 windowOf binding next := by
  cases event with
  | crash =>
    cases stepped
    exact ⟨fun file => ⟨rfl, (safe.absent file).2⟩, safe.journal, nofun, safe.accepted⟩
  | close =>
    cases stepped
    refine ⟨fun file => ?_, safe.journal, ?_, safe.accepted⟩
    · obtain ⟨gone, nothing⟩ := safe.absent file
      exact ⟨by simp [gone], nothing⟩
    intro ledger same
    obtain ⟨owner, found, rfl⟩ := Option.map_eq_some_iff.mp same
    obtain ⟨named, wellFormed, kept⟩ := safe.owner owner found
    exact ⟨named, wellFormed, kept⟩
  | opens faults =>
    simp only [step] at stepped
    split at stepped
    · cases stepped
      exact safe
    · cases stepped
      exact safe_opens valid safe whole
  | spend token window now replacing appending =>
    simp only [presents, Bool.and_eq_true, decide_eq_true_eq] at presented
    obtain ⟨⟨rfl, nonzero⟩, steady⟩ := presented
    have follows : Follows state.clock now := by
      intro reading same
      simpa [same] using steady
    simp only [step] at stepped
    split at stepped
    · rename_i ledger file found present
      cases stepped
      generalize spent : Route.spend sha256 ledger file token (windowOf token) now replacing
        appending = result
      obtain ⟨journal, owned, fresh⟩ := (safe.owner ledger found).spend nonzero
        (safe.journal file present) follows (fun appends => by
          simpa [appendsToWhole, found, present, appends] using whole) spent
      refine ⟨nofun, ?_, ?_, ?_⟩
      · rintro _ ⟨⟩
        exact journal
      · rintro _ ⟨⟩
        exact owned
      split
      · rename_i accepted
        exact List.nodup_append.mpr ⟨safe.accepted, by simp, by
          rintro old member new found rfl
          rw [List.mem_singleton] at found
          exact fresh accepted (found ▸ member)⟩
      · exact safe.accepted
    · cases stepped
      exact safe

theorem Safe.reopens (event : SpendEvent) : state.reopens binding event = true := by
  cases event with
  | opens faults =>
    unfold SpendState.reopens
    by_cases faulty : faults = {}
    · subst faulty
      cases file : state.file with
      | none => simp [openClosedSpendLedger, valid, writeClosedSpendExclusive, Except.isOk,
          Except.toBool]
      | some raw =>
        obtain ⟨_, _, _, _, succeeds⟩ := (safe.journal raw file).opens valid {}
        simp [succeeds rfl]
    · simp [faulty]
  | _ => rfl

end Safe

/-- **Closed token spends are exactly once.**  In every history in which no append
starts behind the leftovers of another, and no header is left half written, no token
is accepted twice and every open without a fault of its own succeeds. -/
theorem spends_once (sha256 : List UInt8 → Block 32) (windowOf : List UInt8 → Time)
    (binding : ClosedSpendBinding) (valid : validClosedSpendBinding binding = true)
    (events : List SpendEvent)
    (presented : Along (step sha256 binding)
      (fun state event => state.presents sha256 windowOf event) initial events)
    (whole : Along (step sha256 binding) (fun state event => state.appendsToWhole sha256 binding event)
      initial events) :
    Throughout (step sha256 binding) (fun state => state.accepted.Nodup) initial events ∧
      Along (step sha256 binding) (fun state event => state.reopens binding event) initial events := by
  have safe : Throughout (step sha256 binding) (Safe sha256 windowOf binding) initial events :=
    (presented.and whole).throughout (fun _ _ _ safe here stepped =>
      step_safe valid safe here.1 here.2 stepped) initial_safe
  constructor
  · exact safe.imp fun _ safe => safe.accepted
  · exact safe.along (fun _ event safe _ => safe.reopens valid event) whole

/-! ## Runs of one journal -/

/-- A token of 354 bytes. -/
def tokenOf (first : UInt8) : List UInt8 := first :: List.replicate 353 0

/-- The SHA-256 digests of `tokenOf 1` and of `tokenOf 2`. -/
def digestOf (token : List UInt8) : Block 32 :=
  if token = tokenOf 2 then
    ⟨[64, 57, 255, 235, 176, 142, 84, 179, 148, 158, 109, 129, 36, 236, 178, 242, 117, 237, 165, 55,
      4, 97, 113, 187, 235, 27, 17, 191, 236, 141, 14, 237], rfl⟩
  else
    ⟨[192, 46, 5, 175, 170, 2, 53, 184, 116, 240, 169, 235, 196, 47, 17, 50, 222, 13, 168, 255, 147,
      149, 64, 120, 192, 178, 99, 160, 236, 59, 114, 23], rfl⟩

/-- Digest bytes that only differ in the first. -/
def blockOf (first : UInt8) : Block 32 := ⟨first :: List.replicate 31 0, rfl⟩

def someBinding : ClosedSpendBinding := ⟨blockOf 1, blockOf 2, blockOf 3, 4⟩

/-- The window that starts at Unix time 1800000000, and the minute after it. -/
def someWindow : Time := .ofSeconds 1800000000
def someMinute : Time := .ofSeconds 1800000060

/-- `Spend` of a token in its window. -/
def spends (first : UInt8) (fault : Option AppendFault) : SpendEvent :=
  .spend (tokenOf first) someWindow someMinute none fault

/-- The first append is cut short, the process restarts, and both tokens are spent. -/
def restartAfterFault : List SpendEvent :=
  [.opens {}, spends 1 (some (.short 20)), .crash, .opens {}, spends 1 none, spends 2 none, .crash,
    .opens {}, spends 2 none]

theorem restartAfterFault_once :
    ((run (step digestOf someBinding) initial restartAfterFault).map (·.accepted) =
        some [tokenOf 1, tokenOf 2]) ∧
      Throughout (step digestOf someBinding) (fun state => state.accepted.Nodup) initial
        restartAfterFault :=
  ⟨by decide +kernel, (spends_once digestOf (fun _ => someWindow) someBinding (by decide)
    restartAfterFault (by decide +kernel) (by decide +kernel)).1⟩

/-- The first `Sync` of an append fails and the process goes on; the record that is
committed behind the leftover is cut on the next open. -/
def spendBehindTail : List SpendEvent :=
  [.opens {}, spends 1 (some .unsynced), spends 2 none, .crash, .opens {}, spends 2 none]

/-- The last `Sync` of an append fails after the marker was set, and the token is
spent again in the same process. -/
def spendAfterMarked : List SpendEvent :=
  [.opens {}, spends 1 (some .marked), spends 1 none, .crash]

/-- A token is accepted twice; and a journal of the owner's own making cannot be
opened again. -/
theorem spendBehindTail_twice :
    ((run (step digestOf someBinding) initial spendBehindTail).map (·.accepted) =
        some [tokenOf 2, tokenOf 2]) ∧
      ((run (step digestOf someBinding) initial spendAfterMarked).bind fun state =>
        state.file.map fun file => (openClosedSpendLedger someBinding (some file) {}).1.isOk) =
        some false :=
  ⟨by decide +kernel, by decide +kernel⟩

end SpendState

end Ardents.Route
