/-
This file models the clock readings of the runner. A reading is an instant,
counted in nanoseconds from the zero value of `time.Time`, midnight of 1 January
of year 1 in UTC; every comparison and every stored text of the runner depends
on the instant only. A difference of two instants saturates at the range of a
64-bit nanosecond count, and an instant has a JSON text only in the years 0
through 9999.
-/

import Mathlib.Data.Int.Init
import Mathlib.Order.Lattice
import Mathlib.Algebra.Order.Ring.Int

namespace GuardedAgentRunner

/-- An instant: nanoseconds since the zero value of `time.Time`. -/
abbrev Time := Int

/-- A `time.Duration`: nanoseconds. -/
abbrev Duration := Int

namespace Duration

def second : Duration := 1000000000

def minute : Duration := 60 * second

/-- The largest `time.Duration`. -/
def largest : Duration := 2 ^ 63 - 1

/-- The smallest `time.Duration`. -/
def smallest : Duration := -2 ^ 63

end Duration

namespace Time

/-- `IsZero`: the zero value of `time.Time`. -/
def IsZero (time : Time) : Prop := time = 0
deriving Decidable

/-- `Before`. -/
def Before (first second : Time) : Prop := first < second
deriving Decidable

/-- `After`. -/
def After (first second : Time) : Prop := second < first
deriving Decidable

/-- `Add`. -/
def add (time : Time) (duration : Duration) : Time := time + duration

/-- `Sub`: the difference, saturated at the range of a duration. -/
def sub (first second : Time) : Duration :=
  max Duration.smallest (min Duration.largest (Int.sub first second))

theorem sub_le_iff (first second : Time) (bound : Duration) (low : Duration.smallest ≤ bound)
    (high : bound < Duration.largest) : first.sub second ≤ bound ↔ first - second ≤ bound := by
  unfold sub
  rw [max_le_iff, min_le_iff]
  constructor
  · rintro ⟨-, largest | difference⟩
    · exact absurd high (not_lt.mpr largest)
    · exact difference
  · intro difference
    exact ⟨low, Or.inr difference⟩

/-- `UnixNano`: the nanoseconds since 1 January 1970, wrapped to 64 bits. -/
def unixNano (time : Time) : Int := (time - 719162 * 86400 * Duration.second).bmod (2 ^ 64)

/-! ### Texts -/

/-- Nanoseconds of one day. -/
def day : Int := 86400 * Duration.second

/-- `MarshalJSON` accepts the instants of the years 0 through 9999. -/
def Encodable (time : Time) : Prop := -366 * day ≤ time ∧ time < 3652059 * day
deriving Decidable

/-- The year, month and day of a count of days since 1 January of year 1. The count is
shifted to the start of a 400-year era that begins on a first of March. -/
def civil (days : Int) : Int × Int × Int :=
  let shifted := days + 306
  let era := shifted.fdiv 146097
  let dayOfEra := shifted - era * 146097
  let yearOfEra := (dayOfEra - dayOfEra / 1460 + dayOfEra / 36524 - dayOfEra / 146096) / 365
  let dayOfYear := dayOfEra - (365 * yearOfEra + yearOfEra / 4 - yearOfEra / 100)
  let shiftedMonth := (5 * dayOfYear + 2) / 153
  let month := if shiftedMonth < 10 then shiftedMonth + 3 else shiftedMonth - 9
  let year := yearOfEra + era * 400 + if month ≤ 2 then 1 else 0
  (year, month, dayOfYear - (153 * shiftedMonth + 2) / 5 + 1)

/-- A number in decimal, padded with zeros to a width. -/
def padded (width : Nat) (number : Int) : String :=
  let digits := toString number.toNat
  String.ofList (List.replicate (width - digits.length) '0') ++ digits

/-- The fraction of a second, without trailing zeros and absent when it is zero. -/
def fraction (nanoseconds : Int) : String :=
  if nanoseconds = 0 then ""
  else "." ++ String.ofList (((padded 9 nanoseconds).toList.reverse.dropWhile (· = '0')).reverse)

/-- `UTC().Format(time.RFC3339Nano)`. -/
def formatRFC3339Nano (time : Time) : String :=
  let days := Int.fdiv time day
  let inDay := time - days * day
  let seconds := inDay / Duration.second
  let (year, month, dayOfMonth) := civil days
  padded 4 year ++ "-" ++ padded 2 month ++ "-" ++ padded 2 dayOfMonth ++ "T" ++
    padded 2 (seconds / 3600) ++ ":" ++ padded 2 (seconds / 60 % 60) ++ ":" ++
    padded 2 (seconds % 60) ++ fraction (inDay % Duration.second) ++ "Z"

example : formatRFC3339Nano 0 = "0001-01-01T00:00:00Z" := by decide

example : formatRFC3339Nano (63924467696 * Duration.second + 120000000) =
    "2026-09-08T12:34:56.12Z" := by decide

end Time

end GuardedAgentRunner
