/-
# Route.SpendLedger — the closed token spend journal

`closed_spend_ledger.go`: a receiving duty burns a token by appending its digest
to a journal file before it grants work.  The file is a header that names the
binding, then records of 41 bytes: digest, window, and a marker byte that is set to
1 only after the record was written.  The journal is read back when the owner
opens it again, and replaced as a whole when spends expire.

Every call into the filesystem may fail.  A fault says at which call, and with how
much of its effect; what a process that dies there leaves behind is what the fault
leaves behind.  `sha256` is a parameter.  Left out: the path of the root, the
introduction slots that share the owner's lock, and what a `time.Time` holds besides
its instant (its location and its monotonic reading).
-/
import Ardents.Lib.Bytes
import Ardents.Lib.Time

namespace Ardents.Route

open Lib

set_option autoImplicit false

/-- `"ARDSPN01"`. -/
def closedSpendLedgerMagic : List UInt8 := [65, 82, 68, 83, 80, 78, 48, 49]

def closedSpendLedgerHeaderSize : Nat := 8 + 32 + 32 + 32 + 8
def closedSpendRecordSize : Nat := 32 + 8 + 1
def maximumClosedSpends : Nat := 2 * 65536

structure ClosedSpendBinding where
  networkID : Block 32
  profileDigest : Block 32
  receiverNodeID : Block 32
  receiverDutyGeneration : UInt64
  deriving DecidableEq

/-- `ledger.spent`: the entries of the map, in some order. -/
abbrev Spends : Type := List (Block 32 × Time)

structure ClosedSpendLedger where
  closed : Bool
  binding : ClosedSpendBinding
  spent : Spends
  deriving DecidableEq

inductive SpendError where
  | bindingInvalid
  | leaseUnavailable
  | filesystem
  | spendInvalid
  | windowUnavailable
  | ownerReleased
  | alreadySpent
  | journalExhausted
  | cannotBeRebound
  | recordInvalid
  | exceedsBound
  deriving DecidableEq, Repr

def validClosedSpendBinding (binding : ClosedSpendBinding) : Bool :=
  decide (binding.networkID ≠ Block.zero 32) && decide (binding.profileDigest ≠ Block.zero 32) &&
    decide (binding.receiverNodeID ≠ Block.zero 32) && decide (binding.receiverDutyGeneration ≠ 0)

def validClosedSpendWindow (window : Time) : Bool :=
  !window.isZero && window.isTruncated Time.hour

/-! ## Encoding -/

def encodeClosedSpendHeader (binding : ClosedSpendBinding) : List UInt8 :=
  closedSpendLedgerMagic ++ binding.networkID.bytes ++ binding.profileDigest.bytes ++
    binding.receiverNodeID.bytes ++ bigEndian 8 binding.receiverDutyGeneration.toNat

/-- A record with its marker byte. -/
def encodeClosedSpendRecord (digest : Block 32) (window : Time) (marker : UInt8) : List UInt8 :=
  digest.bytes ++ bigEndian 8 window.unix ++ [marker]

/-- Digest, window, and whether the record was committed. -/
def decodeClosedSpendRecord (raw : List UInt8) : Block 32 × Time × Bool :=
  if length : raw.length = closedSpendRecordSize then
    (⟨slice raw 0 32, by simp [slice, length, closedSpendRecordSize]⟩,
      Time.ofUnix (ofBigEndian (slice raw 32 8)), decide (slice raw 40 1 = [1]))
  else (Block.zero 32, Time.zero, false)

/-- The loop of `decodeClosedSpendLedger` over the remaining complete records: the
spends, and the offset of the first record that was not committed. -/
def decodeRecords (raw : List UInt8) : Nat → Nat → Spends → Except SpendError (Spends × Option Nat)
  | 0, _, spent => .ok (spent, none)
  | count + 1, offset, spent =>
    let (digest, window, committed) :=
      decodeClosedSpendRecord (slice raw offset closedSpendRecordSize)
    if !committed then .ok (spent, some offset)
    else if !validClosedSpendWindow window || decide (digest = Block.zero 32) ||
        decide (digest ∈ spent.map Prod.fst) || decide (maximumClosedSpends ≤ spent.length) then
      .error .recordInvalid
    else decodeRecords raw count (offset + closedSpendRecordSize) (spent ++ [(digest, window)])

/-! ## Effects on the file -/

/-- Where `Truncate` stops: before it, or in the `Sync` or `Close` after it. -/
inductive TruncateFault where
  | unchanged
  | unsynced
  deriving DecidableEq, Repr

def truncateClosedSpendLedger (file : List UInt8) (size : Nat) :
    Option TruncateFault → Option SpendError × List UInt8
  | none => (none, resize file size)
  | some .unsynced => (some .filesystem, resize file size)
  | some .unchanged => (some .filesystem, file)

/-- The tail that `decodeClosedSpendLedger` cuts: first at a record that was not
committed, then at the last complete record. -/
def decodeClosedSpendLedger (binding : ClosedSpendBinding) (raw : List UInt8)
    (uncommitted incomplete : Option TruncateFault) :
    Except SpendError ClosedSpendLedger × List UInt8 :=
  if raw.length < closedSpendLedgerHeaderSize ∨ raw.take 8 ≠ closedSpendLedgerMagic ∨
      raw.take closedSpendLedgerHeaderSize ≠ encodeClosedSpendHeader binding then
    (.error .cannotBeRebound, raw)
  else
    let records := raw.length - closedSpendLedgerHeaderSize
    let complete := raw.length - records % closedSpendRecordSize
    match decodeRecords raw (records / closedSpendRecordSize) closedSpendLedgerHeaderSize [] with
    | .error err => (.error err, raw)
    | .ok (spent, cut) =>
      let first := match cut with
        | some offset => truncateClosedSpendLedger raw offset uncommitted
        | none => (none, raw)
      match first with
      | (some err, file) => (.error err, file)
      | (none, file) =>
        let second := if complete ≠ raw.length then
            truncateClosedSpendLedger file complete incomplete
          else (none, file)
        match second with
        | (some err, file) => (.error err, file)
        | (none, file) => (.ok ⟨false, binding, spent⟩, file)

/-- Where the append of a record stops: before the write, after `count` of its
bytes, in the first `Sync`, in setting the marker, or after that. -/
inductive AppendFault where
  | unopened
  | short (count : Nat)
  | unsynced
  | unmarked
  | marked
  deriving DecidableEq, Repr

def appendClosedSpendRecord (file : List UInt8) (digest : Block 32) (window : Time) :
    Option AppendFault → Option SpendError × List UInt8
  | none => (none, file ++ encodeClosedSpendRecord digest window 1)
  | some .unopened => (some .filesystem, file)
  | some (.short count) =>
    (some .filesystem, file ++ (encodeClosedSpendRecord digest window 0).take count)
  | some .unsynced | some .unmarked =>
    (some .filesystem, file ++ encodeClosedSpendRecord digest window 0)
  | some .marked => (some .filesystem, file ++ encodeClosedSpendRecord digest window 1)

/-- Where the replacement of the journal stops: before the rename, or in the `Sync`
of the directory after it. -/
inductive ReplaceFault where
  | unreplaced
  | replaced
  deriving DecidableEq, Repr

def sortedSpends (spends : Spends) : Spends :=
  spends.insertionSort fun left right => bytesLe left.1.bytes right.1.bytes = true

/-- The records of `spends`, all of them committed. -/
def records (spends : Spends) : List UInt8 :=
  spends.flatMap fun spend => encodeClosedSpendRecord spend.1 spend.2 1

/-- The journal of `spends`. -/
def encodeClosedSpends (binding : ClosedSpendBinding) (spends : Spends) : List UInt8 :=
  encodeClosedSpendHeader binding ++ records spends

def replaceClosedSpendLedger (file : List UInt8) (binding : ClosedSpendBinding) (spends : Spends)
    (fault : Option ReplaceFault) : Option SpendError × List UInt8 :=
  if maximumClosedSpends < spends.length then (some .exceedsBound, file)
  else if spends.any fun spend => !validClosedSpendWindow spend.2 then (some .recordInvalid, file)
  else
    let raw := encodeClosedSpends binding (sortedSpends spends)
    match fault with
    | none => (none, raw)
    | some .replaced => (some .filesystem, raw)
    | some .unreplaced => (some .filesystem, file)

/-! ## The owner -/

/-- What `prune` keeps at `now`. -/
def retained (spent : Spends) (now : Time) : Spends :=
  spent.filter fun spend => decide (now.instant < spend.2.instant + (Time.hour + Time.minute))

def prune (ledger : ClosedSpendLedger) (file : List UInt8) (now : Time)
    (fault : Option ReplaceFault) : Option SpendError × ClosedSpendLedger × List UInt8 :=
  let kept := retained ledger.spent now
  if kept.length = ledger.spent.length then (none, ledger, file)
  else
    match replaceClosedSpendLedger file ledger.binding kept fault with
    | (some err, file) => (some err, ledger, file)
    | (none, file) => (none, { ledger with spent := kept }, file)

/-- `Spend`. -/
def spend (sha256 : List UInt8 → Block 32) (ledger : ClosedSpendLedger) (file : List UInt8)
    (token : List UInt8) (window now : Time) (replacing : Option ReplaceFault)
    (appending : Option AppendFault) : Option SpendError × ClosedSpendLedger × List UInt8 :=
  if token.length ≠ 354 ∨ validClosedSpendWindow window = false ∨ now.isZero = true then
    (some .spendInvalid, ledger, file)
  else if now.instant < window.instant ∨ window.instant + Time.hour ≤ now.instant then
    (some .windowUnavailable, ledger, file)
  else if ledger.closed then (some .ownerReleased, ledger, file)
  else
    let digest := sha256 token
    match prune ledger file now replacing with
    | (some err, ledger, file) => (some err, ledger, file)
    | (none, ledger, file) =>
      if digest ∈ ledger.spent.map Prod.fst then (some .alreadySpent, ledger, file)
      else if maximumClosedSpends ≤ ledger.spent.length then (some .journalExhausted, ledger, file)
      else
        match appendClosedSpendRecord file digest window appending with
        | (some err, file) => (some err, ledger, file)
        | (none, file) =>
          (none, { ledger with spent := ledger.spent ++ [(digest, window)] }, file)

/-- Where the creation of the journal stops: before the file exists, after `count`
bytes of the header, or in the `Sync` or `Close` after it. -/
inductive CreateFault where
  | unopened
  | short (count : Nat)
  | unsynced
  deriving DecidableEq, Repr

/-- `writeClosedSpendExclusive` of the header. -/
def writeClosedSpendExclusive (raw : List UInt8) :
    Option CreateFault → Option SpendError × Option (List UInt8)
  | none => (none, some raw)
  | some .unopened => (some .filesystem, none)
  | some (.short count) => (some .filesystem, some (raw.take count))
  | some .unsynced => (some .filesystem, some raw)

/-- The faults of one `OpenClosedSpendLedger`; `unread` is a failed read. -/
structure OpenFaults where
  unread : Bool := false
  creating : Option CreateFault := none
  uncommitted : Option TruncateFault := none
  incomplete : Option TruncateFault := none
  deriving DecidableEq, Repr

/-- `OpenClosedSpendLedger` once it holds the lease; `none` is a missing file. -/
def openClosedSpendLedger (binding : ClosedSpendBinding) (file : Option (List UInt8))
    (faults : OpenFaults) : Except SpendError ClosedSpendLedger × Option (List UInt8) :=
  if validClosedSpendBinding binding = false then (.error .bindingInvalid, file)
  else
    match file with
    | none =>
      match writeClosedSpendExclusive (encodeClosedSpendHeader binding) faults.creating with
      | (some err, file) => (.error err, file)
      | (none, file) => (.ok ⟨false, binding, []⟩, file)
    | some raw =>
      if faults.unread then (.error .filesystem, file)
      else if closedSpendLedgerHeaderSize + maximumClosedSpends * closedSpendRecordSize <
          raw.length then
        (.error .exceedsBound, file)
      else
        let decoded := decodeClosedSpendLedger binding raw faults.uncommitted faults.incomplete
        (decoded.1, some decoded.2)

/-! ## What is written is read back -/

@[simp] theorem encodeClosedSpendHeader_length (binding : ClosedSpendBinding) :
    (encodeClosedSpendHeader binding).length = closedSpendLedgerHeaderSize := by
  simp [encodeClosedSpendHeader, closedSpendLedgerMagic, closedSpendLedgerHeaderSize, Block.length]

@[simp] theorem encodeClosedSpendRecord_length (digest : Block 32) (window : Time) (marker : UInt8) :
    (encodeClosedSpendRecord digest window marker).length = closedSpendRecordSize := by
  simp [encodeClosedSpendRecord, closedSpendRecordSize, Block.length]

variable {spends : Spends} {window : Time}

/-- A window that passes the check is a whole number of seconds. -/
theorem ofUnix_of_valid (valid : validClosedSpendWindow window = true) :
    Time.ofUnix (window.unix % 256 ^ 8) = window := by
  rw [validClosedSpendWindow, Bool.and_eq_true] at valid
  rw [Nat.mod_eq_of_lt window.unix_lt]
  exact Time.ofUnix_unix (Time.nanoseconds_of_isTruncated valid.2)

theorem decodeClosedSpendRecord_encode {digest : Block 32} {marker : UInt8} :
    decodeClosedSpendRecord (encodeClosedSpendRecord digest window marker) =
      (digest, Time.ofUnix (window.unix % 256 ^ 8), decide (marker = 1)) := by
  have first : slice (encodeClosedSpendRecord digest window marker) 0 32 = digest.bytes := by
    simpa [encodeClosedSpendRecord] using
      slice_append [] digest.bytes (bigEndian 8 window.unix ++ [marker]) rfl digest.length
  have second : slice (encodeClosedSpendRecord digest window marker) 32 8 =
      bigEndian 8 window.unix := by
    simpa [encodeClosedSpendRecord] using
      slice_append digest.bytes (bigEndian 8 window.unix) [marker] digest.length
        (bigEndian_length 8 window.unix)
  have third : slice (encodeClosedSpendRecord digest window marker) 40 1 = [marker] := by
    simpa [encodeClosedSpendRecord] using
      slice_append (digest.bytes ++ bigEndian 8 window.unix) [marker] []
        (by simp [digest.length]) rfl
  unfold decodeClosedSpendRecord
  simp only [first, second, third, ofBigEndian_bigEndian]
  simp

/-- What the journal may hold: distinct digests, none of them zero, windows that
pass the check, and no more than the bound. -/
structure WellFormed (spends : Spends) : Prop where
  distinct : (spends.map Prod.fst).Nodup
  windows : ∀ spend ∈ spends, validClosedSpendWindow spend.2 = true
  digests : ∀ spend ∈ spends, spend.1 ≠ Block.zero 32
  bounded : spends.length ≤ maximumClosedSpends

variable {tail : List UInt8}

/-- A tail that ends in the middle of a record adds nothing; a whole record that was
not committed is found and cut. -/
theorem decodeRecords_records {extra : Nat} (cut : Nat → Option Nat)
    (ends : ∀ (front : List UInt8) (spent : Spends),
      decodeRecords (front ++ tail) extra front.length spent = .ok (spent, cut front.length))
    (rest : Spends) : ∀ (front : List UInt8) (spent : Spends), WellFormed (spent ++ rest) →
      decodeRecords (front ++ (records rest ++ tail)) (rest.length + extra) front.length spent =
        .ok (spent ++ rest, cut (front ++ records rest).length) := by
  induction rest with
  | nil =>
    intro front spent _
    simpa [records] using ends front spent
  | cons head rest ih =>
    intro front spent wellFormed
    obtain ⟨digest, window⟩ := head
    have here : (digest, window) ∈ spent ++ (digest, window) :: rest := by simp
    have bound := wellFormed.bounded
    have distinct := wellFormed.distinct
    simp only [List.map_append, List.map_cons, List.nodup_append, List.length_append,
      List.length_cons] at distinct bound
    have fresh : digest ∉ spent.map Prod.fst := fun member =>
      distinct.2.2 digest member digest List.mem_cons_self rfl
    have record : decodeClosedSpendRecord (slice (front ++ (records ((digest, window) :: rest) ++
        tail)) front.length closedSpendRecordSize) = (digest, window, true) := by
      have start := slice_append front (encodeClosedSpendRecord digest window 1)
        (records rest ++ tail) rfl (encodeClosedSpendRecord_length digest window 1)
      rw [records, List.flatMap_cons, List.append_assoc, ← records, start,
        decodeClosedSpendRecord_encode, ofUnix_of_valid (wellFormed.windows _ here)]
      rfl
    have next := ih (front ++ encodeClosedSpendRecord digest window 1) (spent ++ [(digest, window)])
      (by simpa using wellFormed)
    rw [show ((digest, window) :: rest).length + extra = rest.length + extra + 1 by simp; omega,
      decodeRecords, record]
    simp only [wellFormed.windows _ here, wellFormed.digests _ here, fresh,
      show ¬ maximumClosedSpends ≤ spent.length by omega]
    simpa [records] using next

/-- What an append that stopped before the marker leaves behind the committed
records: a part of its record, or all of it. -/
def Unfinished (tail : List UInt8) : Prop :=
  ∃ digest window count, tail = (encodeClosedSpendRecord digest window 0).take count

theorem unfinished_nil : Unfinished [] := ⟨Block.zero 32, Time.zero, 0, rfl⟩

theorem Unfinished.length_le (unfinished : Unfinished tail) : tail.length ≤ closedSpendRecordSize := by
  obtain ⟨digest, window, count, rfl⟩ := unfinished
  rw [List.length_take, encodeClosedSpendRecord_length]
  exact Nat.min_le_right _ _

@[simp] theorem records_length (spends : Spends) :
    (records spends).length = closedSpendRecordSize * spends.length := by
  induction spends with
  | nil => rfl
  | cons head rest ih =>
    rw [records, List.flatMap_cons, List.length_append, ← records, ih,
      encodeClosedSpendRecord_length, List.length_cons]
    ring

theorem decodeRecords_uncommitted (front : List UInt8) (spent : Spends) (digest : Block 32)
    (window : Time) :
    decodeRecords (front ++ encodeClosedSpendRecord digest window 0) 1 front.length spent =
      .ok (spent, some front.length) := by
  have start := slice_append front (encodeClosedSpendRecord digest window 0) [] rfl
    (encodeClosedSpendRecord_length digest window 0)
  rw [List.append_nil] at start
  simp [decodeRecords, start, decodeClosedSpendRecord_encode]

/-- The loop over a journal with an unfinished tail: the committed records are read,
and a whole uncommitted one is found behind them. -/
theorem decodeRecords_unfinished (front : List UInt8) (wellFormed : WellFormed spends)
    (unfinished : Unfinished tail) : decodeRecords (front ++ (records spends ++ tail))
        (spends.length + tail.length / closedSpendRecordSize) front.length [] =
      .ok (spends, if tail.length = closedSpendRecordSize then
        some (front ++ records spends).length else none) := by
  have bound := unfinished.length_le
  by_cases whole : tail.length = closedSpendRecordSize
  · obtain ⟨digest, window, count, rfl⟩ := unfinished
    rw [List.length_take, encodeClosedSpendRecord_length] at whole
    rw [List.take_of_length_le (by rw [encodeClosedSpendRecord_length]; omega),
      encodeClosedSpendRecord_length, if_pos rfl]
    exact decodeRecords_records some (fun front spent =>
      decodeRecords_uncommitted front spent digest window) spends front [] wellFormed
  · rw [Nat.div_eq_of_lt (by omega), if_neg whole]
    exact decodeRecords_records (fun _ => none) (fun _ _ => rfl) spends front [] wellFormed

/-- The result of `decodeClosedSpendLedger` once its last truncation is done. -/
def truncated (binding : ClosedSpendBinding) (spends : Spends) :
    Option SpendError × List UInt8 → Except SpendError ClosedSpendLedger × List UInt8
  | (none, file) => (.ok ⟨false, binding, spends⟩, file)
  | (some err, file) => (.error err, file)

/-- **Reading a journal back.**  Of a journal with an unfinished tail
`decodeClosedSpendLedger` returns exactly the committed spends, and it cuts the tail
with one truncation. -/
theorem decodeClosedSpendLedger_unfinished {binding : ClosedSpendBinding}
    (wellFormed : WellFormed spends) (unfinished : Unfinished tail)
    (uncommitted incomplete : Option TruncateFault) :
    decodeClosedSpendLedger binding (encodeClosedSpends binding spends ++ tail) uncommitted
        incomplete =
      truncated binding spends (if tail = [] then (none, encodeClosedSpends binding spends)
        else truncateClosedSpendLedger (encodeClosedSpends binding spends ++ tail)
          (encodeClosedSpends binding spends).length
          (if tail.length = closedSpendRecordSize then uncommitted else incomplete)) := by
  have bound := unfinished.length_le
  have header := encodeClosedSpendHeader_length binding
  have positive : 0 < closedSpendRecordSize := by decide
  have split : encodeClosedSpends binding spends ++ tail =
      encodeClosedSpendHeader binding ++ (records spends ++ tail) := by
    rw [encodeClosedSpends, List.append_assoc]
  have size : (encodeClosedSpends binding spends).length =
      closedSpendLedgerHeaderSize + closedSpendRecordSize * spends.length := by
    simp [encodeClosedSpends]
  have behind : (encodeClosedSpends binding spends ++ tail).length - closedSpendLedgerHeaderSize =
      closedSpendRecordSize * spends.length + tail.length := by
    rw [List.length_append, size]
    omega
  have loop := decodeRecords_unfinished (encodeClosedSpendHeader binding) wellFormed unfinished
  rw [← split, header, ← encodeClosedSpends] at loop
  unfold decodeClosedSpendLedger
  rw [if_neg]
  · simp only [behind, Nat.mul_add_mod, Nat.mul_add_div positive, loop]
    by_cases whole : tail.length = closedSpendRecordSize
    · -- one whole record that was not committed
      have some_ : tail ≠ [] := by
        rintro rfl
        exact absurd whole (by decide)
      simp only [whole, if_true, Nat.mod_self, Nat.sub_zero, ne_eq, not_true_eq_false, if_false,
        some_]
      split <;> simp_all [truncated]
    · rw [Nat.mod_eq_of_lt (by omega)]
      by_cases empty : tail = []
      · simp [empty, truncated, closedSpendRecordSize]
      -- a part of a record
      have positive : 0 < tail.length := List.length_pos_of_ne_nil empty
      have complete : (encodeClosedSpends binding spends ++ tail).length - tail.length =
          (encodeClosedSpends binding spends).length := by
        rw [List.length_append, Nat.add_sub_cancel]
      have shorter : (encodeClosedSpends binding spends).length ≠
          (encodeClosedSpends binding spends ++ tail).length := by
        omega
      simp only [whole, if_false, complete, ne_eq, shorter, not_false_eq_true, if_true, empty]
      split <;> simp_all [truncated]
  · rw [split, not_or, not_or, not_lt, not_ne_iff, not_ne_iff]
    refine ⟨by simp, ?_, ?_⟩
    · simp [encodeClosedSpendHeader, closedSpendLedgerMagic]
    · exact List.take_left' header

end Ardents.Route
