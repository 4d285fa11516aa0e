/-
# Lib.Time — instants

A reading of a clock in UTC, as Unix seconds that fit an `int64` and nanoseconds.
Durations are integers of nanoseconds, and two instants are compared by their
distance from the Unix epoch.
-/
import Mathlib.Tactic

namespace Ardents.Lib

set_option autoImplicit false

@[ext]
structure Time where
  seconds : Int
  nanoseconds : Nat
  seconds_ge : -2 ^ 63 ≤ seconds := by decide
  seconds_lt : seconds < 2 ^ 63 := by decide
  nanoseconds_lt : nanoseconds < 10 ^ 9 := by decide
  deriving DecidableEq, Repr

namespace Time

def second : Int := 10 ^ 9
def minute : Int := 60 * second
def hour : Int := 3600 * second

/-- Nanoseconds since the Unix epoch. -/
def instant (time : Time) : Int := time.seconds * second + time.nanoseconds

/-- `time.Time{}`: midnight of the first of January of year 1. -/
def zero : Time := ⟨-62135596800, 0, by decide, by decide, by decide⟩

/-- `time.Unix(seconds, 0)`. -/
def ofSeconds (seconds : Int64) : Time :=
  ⟨seconds.toInt, 0, Int64.le_toInt seconds, Int64.toInt_lt seconds, by decide⟩

/-- `time.Unix()`. -/
def unixSeconds (time : Time) : Int64 := Int64.ofInt time.seconds

/-- `time.UnixMilli()`. -/
def unixMilli (time : Time) : Int64 := Int64.ofInt (time.seconds * 1000 + time.nanoseconds / 1000000)

/-- `time.UnixMilli(milliseconds)`. -/
def ofMilli (milliseconds : Int64) : Time :=
  ⟨milliseconds.toInt / 1000, (milliseconds.toInt % 1000).toNat * 1000000, by
    have above := Int64.le_toInt milliseconds
    omega, by
    have below := Int64.toInt_lt milliseconds
    omega, by omega⟩

def isZero (time : Time) : Bool := decide (time = zero)

/-- The instant is a multiple of `unit`, counted from the zero time; that of hours,
minutes and seconds is the same count from the epoch. -/
def isTruncated (time : Time) (unit : Int) : Bool := decide (time.instant % unit = 0)

def before (time other : Time) : Bool := decide (time.instant < other.instant)

def after (time other : Time) : Bool := other.before time

/-- `time.Add(count * time.Second)`, which stays in range. -/
def addSeconds (time : Time) (count : Int) : Time :=
  ⟨max (-2 ^ 63) (min (2 ^ 63 - 1) (time.seconds + count)), time.nanoseconds, by omega, by omega,
    time.nanoseconds_lt⟩

/-- `time.Sub(other)`, a duration that is cut off at `2 ^ 63` nanoseconds. -/
def sub (time other : Time) : Int := max (-2 ^ 63) (min (2 ^ 63 - 1) (time.instant - other.instant))

/-- `time.Add(duration)`, which stays in range. -/
def add (time : Time) (duration : Int) : Time :=
  ⟨max (-2 ^ 63) (min (2 ^ 63 - 1) (time.seconds + (time.nanoseconds + duration) / 10 ^ 9)),
    ((time.nanoseconds + duration) % 10 ^ 9).toNat, by omega, by omega, by omega⟩

/-- The earlier of two instants. -/
def earlier (time other : Time) : Time := if other.before time then other else time

theorem before_ofSeconds (first second : Int64) :
    (ofSeconds first).before (ofSeconds second) = decide (first < second) := by
  rw [before, decide_eq_decide, Int64.lt_iff_toInt_lt]
  simp only [instant, ofSeconds, Time.second]
  omega

/-- A clock is before a whole second when its seconds are. -/
theorem before_ofSeconds_iff (time : Time) (second : Int64) :
    time.before (ofSeconds second) = true ↔ time.unixSeconds < second := by
  have small := time.nanoseconds_lt
  rw [before, decide_eq_true_eq, Int64.lt_iff_toInt_lt, unixSeconds,
    Int64.toInt_ofInt_of_le time.seconds_ge time.seconds_lt]
  simp only [instant, ofSeconds, Time.second]
  omega

theorem unixSeconds_ofSeconds (seconds : Int64) : (ofSeconds seconds).unixSeconds = seconds :=
  Int64.ofInt_toInt seconds

variable {time : Time}

/-- A clock that has not run back is not behind in its seconds. -/
theorem unixSeconds_le {other : Time} (order : time.before other = false) :
    other.unixSeconds ≤ time.unixSeconds := by
  have small := time.nanoseconds_lt
  rw [before, decide_eq_false_iff_not] at order
  simp only [instant, Time.second] at order
  rw [Int64.le_iff_toInt_le, unixSeconds, unixSeconds, Int64.toInt_ofInt_of_le time.seconds_ge time.seconds_lt,
    Int64.toInt_ofInt_of_le other.seconds_ge other.seconds_lt]
  omega

/-- A whole second is given by its Unix seconds. -/
theorem ofSeconds_unixSeconds (whole : time.isTruncated second = true) :
    time = ofSeconds time.unixSeconds := by
  have small := time.nanoseconds_lt
  norm_num [isTruncated, instant, second] at whole
  apply Time.ext
  · simp only [ofSeconds, unixSeconds]
    rw [Int64.toInt_ofInt_of_le time.seconds_ge time.seconds_lt]
  · simp only [ofSeconds]
    omega

/-- `uint64(time.Unix())`, modulo `2 ^ 64`. -/
def unix (time : Time) : Nat := (time.seconds % 18446744073709551616).toNat

/-- `int64(value)` of the low 64 bits of `value`. -/
@[irreducible] def toInt64 (value : Nat) : Int := (value : Int).bmod 18446744073709551616

theorem toInt64_ge (value : Nat) : -2 ^ 63 ≤ toInt64 value := by
  have bound := Int.le_bmod (x := (value : Int)) (m := 18446744073709551616) (by decide)
  unfold toInt64
  omega

theorem toInt64_lt (value : Nat) : toInt64 value < 2 ^ 63 := by
  have bound := Int.bmod_lt (x := (value : Int)) (m := 18446744073709551616) (by decide)
  unfold toInt64
  omega

/-- `time.Unix(int64(value), 0)`. -/
def ofUnix (value : Nat) : Time := ⟨toInt64 value, 0, toInt64_ge value, toInt64_lt value, by decide⟩

theorem unix_lt (time : Time) : time.unix < 256 ^ 8 := by
  unfold unix
  omega

/-- An `int64` survives its conversion to `uint64` and back. -/
theorem toInt64_toNat {seconds : Int} (ge : -9223372036854775808 ≤ seconds)
    (lt : seconds < 9223372036854775808) :
    toInt64 (seconds % 18446744073709551616).toNat = seconds := by
  unfold toInt64
  rw [Int.toNat_of_nonneg (by omega), Int.bmod_def]
  omega

/-- A whole second survives its encoding. -/
theorem ofUnix_unix (whole : time.nanoseconds = 0) : ofUnix time.unix = time :=
  Time.ext (toInt64_toNat time.seconds_ge time.seconds_lt) whole.symm

theorem nanoseconds_of_isTruncated (whole : time.isTruncated hour = true) : time.nanoseconds = 0 := by
  have small := time.nanoseconds_lt
  norm_num [isTruncated, instant, hour, second] at whole
  omega

/-! ## Milliseconds -/

/-- The milliseconds of the instant fit an `int64`. -/
def milliFits (time : Time) : Prop :=
  -2 ^ 63 ≤ time.seconds * 1000 + time.nanoseconds / 1000000 ∧
    time.seconds * 1000 + time.nanoseconds / 1000000 < 2 ^ 63

instance (time : Time) : Decidable time.milliFits := inferInstanceAs (Decidable (_ ∧ _))

theorem toInt_unixMilli (fits : time.milliFits) :
    time.unixMilli.toInt = time.seconds * 1000 + time.nanoseconds / 1000000 :=
  Int64.toInt_ofInt_of_le fits.1 fits.2

theorem unixMilli_ofMilli (milliseconds : Int64) : (ofMilli milliseconds).unixMilli = milliseconds := by
  have whole : milliseconds.toInt / 1000 * 1000 + ((milliseconds.toInt % 1000).toNat * 1000000 : Nat) / 1000000 =
      milliseconds.toInt := by omega
  simp only [unixMilli, ofMilli, whole, Int64.ofInt_toInt]

/-- Cutting an instant to milliseconds keeps its second. -/
theorem unixSeconds_ofMilli (fits : time.milliFits) :
    (ofMilli time.unixMilli).unixSeconds = time.unixSeconds := by
  have small := time.nanoseconds_lt
  have whole : (time.seconds * 1000 + time.nanoseconds / 1000000) / 1000 = time.seconds := by omega
  simp only [unixSeconds, ofMilli, toInt_unixMilli fits, whole]

theorem unixMilli_add {duration : Int}
    (within : -2 ^ 63 ≤ time.seconds + (time.nanoseconds + duration) / 10 ^ 9 ∧
      time.seconds + (time.nanoseconds + duration) / 10 ^ 9 < 2 ^ 63) :
    (time.add duration).unixMilli = Int64.ofInt (time.seconds * 1000 + (time.nanoseconds + duration) / 1000000) := by
  rw [unixMilli, add]
  dsimp only
  congr 1
  omega

theorem ofInt_eq_ofInt {first second : Int} (same : Int64.ofInt first = Int64.ofInt second)
    (near : first - second < 2 ^ 63) (near' : second - first < 2 ^ 63) : first = second := by
  have words := congrArg Int64.toInt same
  rw [Int64.toInt_ofInt, Int64.toInt_ofInt, Int.bmod_def, Int.bmod_def] at words
  simp only [Int64.size] at words
  split at words <;> split at words <;> omega

/-- When the end of a duration from an instant is that from its second, cutting the instant to
milliseconds does not move it. -/
theorem unixMilli_add_ofMilli (fits : time.milliFits) {duration : Int64}
    (exact : (time.add duration.toInt).unixMilli = Int64.ofInt (time.seconds * 1000 + duration.toInt / 1000000)) :
    ((ofMilli time.unixMilli).add duration.toInt).unixMilli = (time.add duration.toInt).unixMilli := by
  have low := Int64.le_toInt duration
  have high := Int64.toInt_lt duration
  have small := time.nanoseconds_lt
  obtain ⟨above, below⟩ := fits
  have whole : (ofMilli time.unixMilli).seconds = time.seconds := by
    simp only [ofMilli, toInt_unixMilli ⟨above, below⟩]
    omega
  have cut : ((ofMilli time.unixMilli).nanoseconds : Int) = time.nanoseconds / 1000000 * 1000000 := by
    simp only [ofMilli, toInt_unixMilli ⟨above, below⟩]
    omega
  have moved : (time.add duration.toInt).unixMilli = _ := unixMilli_add (by omega)
  have moved' : ((ofMilli time.unixMilli).add duration.toInt).unixMilli = _ :=
    unixMilli_add (by rw [whole, cut]; omega)
  rw [moved] at exact
  rw [moved, moved', whole, cut]
  have same := ofInt_eq_ofInt exact (by omega) (by omega)
  congr 1
  omega

end Time

end Ardents.Lib
