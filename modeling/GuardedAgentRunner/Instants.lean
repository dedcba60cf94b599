/-
This file proves that the text of an instant determines it. It models the decoder
of `time.Time` on the texts of UTC instants: the date, the time of day and the
optional fraction of a second are read digit by digit, their ranges are checked,
and the date is counted back into days. The decoder inverts `formatRFC3339Nano` on
the instants of the years 0 through 9999.
-/

import Mathlib.Tactic.IntervalCases
import GuardedAgentRunner.Library.Decimal
import GuardedAgentRunner.Time

namespace GuardedAgentRunner

namespace Time

open Decimal

/-! ### Dates -/

def Leap (year : Int) : Prop := year % 4 = 0 ∧ (year % 100 ≠ 0 ∨ year % 400 = 0)
deriving Decidable

/-- The number of days of a month. -/
def daysIn (year month : Int) : Int :=
  if month = 2 then if Leap year then 29 else 28
  else if month = 4 ∨ month = 6 ∨ month = 9 ∨ month = 11 then 30 else 31

/-- The days from 1 January of year 1 to a date, by the 400-year eras of `civil`. -/
def daysFromCivil (year month dayOfMonth : Int) : Int :=
  let shiftedYear := if month ≤ 2 then year - 1 else year
  let era := shiftedYear.fdiv 400
  let yearOfEra := shiftedYear - era * 400
  let shiftedMonth := if month ≤ 2 then month + 9 else month - 3
  let dayOfYear := (153 * shiftedMonth + 2) / 5 + dayOfMonth - 1
  let dayOfEra := yearOfEra * 365 + yearOfEra / 4 - yearOfEra / 100 + dayOfYear
  era * 146097 + dayOfEra - 306

/-- The year of an era that a day of the era falls in. -/
def yearOfEra (dayOfEra : Int) : Int :=
  (dayOfEra - dayOfEra / 1460 + dayOfEra / 36524 - dayOfEra / 146096) / 365

/-- The day of its year, counted from a first of March. -/
def dayOfYear (dayOfEra : Int) : Int :=
  dayOfEra - (365 * yearOfEra dayOfEra + yearOfEra dayOfEra / 4 - yearOfEra dayOfEra / 100)

/-- A date with a month and a day that exist. -/
def ValidDate (year month dayOfMonth : Int) : Prop :=
  1 ≤ month ∧ month ≤ 12 ∧ 1 ≤ dayOfMonth ∧ dayOfMonth ≤ daysIn year month
deriving Decidable

section Era

variable {dayOfEra : Int} (low : 0 ≤ dayOfEra) (high : dayOfEra < 146097)

include low high

theorem yearOfEra_bounds : 0 ≤ yearOfEra dayOfEra ∧ yearOfEra dayOfEra < 400 := by
  unfold yearOfEra
  omega

theorem yearOfEra_century :
    dayOfEra / 36524 - dayOfEra / 146096 = yearOfEra dayOfEra / 100 := by
  have centuries : dayOfEra / 36524 = 0 ∨ dayOfEra / 36524 = 1 ∨ dayOfEra / 36524 = 2 ∨
      dayOfEra / 36524 = 3 ∨ dayOfEra / 36524 = 4 := by omega
  unfold yearOfEra
  rcases centuries with century | century | century | century | century <;> rw [century] <;> omega

theorem yearOfEra_equation : ∃ century, yearOfEra dayOfEra / 100 = century ∧
    0 ≤ century ∧ century < 4 ∧
    365 * yearOfEra dayOfEra ≤ dayOfEra - dayOfEra / 1460 + century ∧
    dayOfEra - dayOfEra / 1460 + century < 365 * yearOfEra dayOfEra + 365 := by
  have bounds := yearOfEra_bounds low high
  refine ⟨_, rfl, by omega, by omega, ?_⟩
  rw [← yearOfEra_century low high]
  unfold yearOfEra
  omega

theorem dayOfYear_bounds : 0 ≤ dayOfYear dayOfEra ∧ dayOfYear dayOfEra < 366 := by
  obtain ⟨century, hundreds, least, most, after, before⟩ := yearOfEra_equation low high
  unfold dayOfYear
  rw [hundreds]
  generalize yearOfEra dayOfEra = year at *
  interval_cases century <;> omega

/-- The 366th day of a year that starts in March is the leap day of the next calendar year. -/
theorem leap_of_dayOfYear (full : dayOfYear dayOfEra = 365) : Leap (yearOfEra dayOfEra + 1) := by
  have centuries := yearOfEra_century low high
  obtain ⟨century, hundreds, least, most, after, before⟩ := yearOfEra_equation low high
  unfold dayOfYear at full
  rw [hundreds] at full centuries
  generalize yearOfEra dayOfEra = year at *
  have block : 1460 * (year / 4 + 1) ≤ dayOfEra := by omega
  have blocks : year / 4 < 100 := by omega
  have late : ¬ year ≤ 4 * (year / 4) + 2 := by omega
  have fourth : (year + 1) % 4 = 0 := by omega
  refine ⟨fourth, ?_⟩
  by_contra turn
  rw [not_or, not_not] at turn
  have last : year = 100 * century + 99 := by omega
  interval_cases century <;> omega

end Era

/-- The date of a day by its era, its year of the era and its day of the year, where the months
are counted from March. -/
theorem civil_shape (days : Int) : ∃ era year dayOfYear month : Int,
    (0 ≤ year ∧ year < 400) ∧ (0 ≤ dayOfYear ∧ dayOfYear < 366) ∧
      (dayOfYear = 365 → Leap (year + 1)) ∧ month = (5 * dayOfYear + 2) / 153 ∧
      days = era * 146097 + (year * 365 + year / 4 - year / 100 + dayOfYear) - 306 ∧
      civil days = if month < 10
        then (year + era * 400, month + 3, dayOfYear - (153 * month + 2) / 5 + 1)
        else (year + era * 400 + 1, month - 9, dayOfYear - (153 * month + 2) / 5 + 1) := by
  have shifted : (days + 306).fdiv 146097 = (days + 306) / 146097 :=
    Int.fdiv_eq_ediv_of_nonneg _ (by decide)
  have low : 0 ≤ days + 306 - (days + 306) / 146097 * 146097 := by omega
  have high : days + 306 - (days + 306) / 146097 * 146097 < 146097 := by omega
  refine ⟨(days + 306) / 146097, yearOfEra _, dayOfYear _, _, yearOfEra_bounds low high,
    dayOfYear_bounds low high, leap_of_dayOfYear low high, rfl, ?_, ?_⟩
  · unfold dayOfYear
    omega
  · have bounds := dayOfYear_bounds low high
    unfold civil
    simp only [shifted]
    show (yearOfEra _ + (days + 306) / 146097 * 400 +
        (if (if (5 * dayOfYear _ + 2) / 153 < 10 then (5 * dayOfYear _ + 2) / 153 + 3
          else (5 * dayOfYear _ + 2) / 153 - 9) ≤ 2 then 1 else 0),
      (if (5 * dayOfYear _ + 2) / 153 < 10 then (5 * dayOfYear _ + 2) / 153 + 3
        else (5 * dayOfYear _ + 2) / 153 - 9),
      dayOfYear _ - (153 * ((5 * dayOfYear _ + 2) / 153) + 2) / 5 + 1) = _
    split_ifs <;> first | omega | simp

theorem civil_valid (days : Int) : ValidDate (civil days).1 (civil days).2.1 (civil days).2.2 := by
  obtain ⟨era, year, dayOfYear, month, yearBounds, dayBounds, leap, monthEq, -, date⟩ :=
    civil_shape days
  unfold ValidDate daysIn
  by_cases spring : month < 10
  · rw [if_pos spring] at date
    simp only [date]
    rw [if_neg (by omega)]
    refine ⟨by omega, by omega, by omega, ?_⟩
    split_ifs <;> omega
  · rw [if_neg spring] at date
    simp only [date]
    refine ⟨by omega, by omega, by omega, ?_⟩
    by_cases february : month - 9 = 2
    · have turned : Leap (year + era * 400 + 1) ↔ Leap (year + 1) := by
        unfold Leap
        omega
      rw [if_pos february]
      by_cases leapYear : Leap (year + 1)
      · rw [if_pos (turned.mpr leapYear)]
        omega
      · have short : dayOfYear ≠ 365 := fun full => leapYear (leap full)
        rw [if_neg (leapYear ∘ turned.mp)]
        omega
    · rw [if_neg february, if_neg (by omega)]
      omega

theorem daysFromCivil_civil (days : Int) :
    daysFromCivil (civil days).1 (civil days).2.1 (civil days).2.2 = days := by
  obtain ⟨era, year, dayOfYear, month, yearBounds, dayBounds, -, monthEq, daysEq, date⟩ :=
    civil_shape days
  have eraOf : (year + era * 400).fdiv 400 = era := by
    rw [Int.fdiv_eq_ediv_of_nonneg _ (by decide)]
    omega
  have yearOf : year + era * 400 - era * 400 = year := Int.add_sub_cancel _ _
  unfold daysFromCivil
  by_cases spring : month < 10
  · rw [if_pos spring] at date
    have late : ¬ month + 3 ≤ 2 := by omega
    simp only [date, if_neg late, eraOf, yearOf]
    omega
  · rw [if_neg spring] at date
    have early : month - 9 ≤ 2 := by omega
    simp only [date, if_pos early, Int.add_sub_cancel, eraOf]
    omega

theorem civil_year {days : Int} (low : -366 ≤ days) (high : days < 3652059) :
    0 ≤ (civil days).1 ∧ (civil days).1 < 10000 := by
  obtain ⟨era, year, dayOfYear, month, yearBounds, dayBounds, -, monthEq, daysEq, date⟩ :=
    civil_shape days
  have before : year * 365 + year / 4 - year / 100 ≤ 145731 := by omega
  have eraBounds : -1 ≤ era ∧ era < 25 := by omega
  rw [date]
  by_cases spring : month < 10
  · have early : dayOfYear < 306 := by omega
    have started : 0 ≤ era := by omega
    rw [if_pos spring]
    simp only
    omega
  · rw [if_neg spring]
    simp only
    omega

/-- The year of an instant in UTC. -/
def year (time : Time) : Int := (civil (Int.fdiv time day)).1

example : year (365 * day - 1) = 1 ∧ year (365 * day) = 2 := by decide

variable {time : Time} {width : Nat} {number nanoseconds : Int} {read : Nat × List Char}
  {text : List Char} {last : String}

theorem pos_of_year (late : 2 ≤ time.year) : 0 < time := by
  obtain ⟨era, year, dayOfYear, month, yearBounds, dayBounds, -, monthEq, daysEq, date⟩ :=
    civil_shape (Int.fdiv time day)
  unfold Time.year at late
  rw [date] at late
  have days : 0 < Int.fdiv time day := by
    by_cases spring : month < 10
    · rw [if_pos spring] at late
      simp only at late
      omega
    · rw [if_neg spring] at late
      simp only at late
      omega
  have dayEq : day = 86400000000000 := rfl
  rw [Int.fdiv_eq_ediv_of_nonneg _ (by decide), dayEq] at days
  show (0 : Int) < time
  omega

/-! ### Reading a text -/

/-- Read an optional fraction of a second. Digits after the ninth are dropped. -/
def readFraction : List Char → Option (Nat × List Char)
  | '.' :: rest =>
    let digits := rest.takeWhile Char.isDigit
    if digits = [] then none
    else some (Nat.ofDigitChars 10 ((digits ++ List.replicate 9 '0').take 9) 0,
      rest.dropWhile Char.isDigit)
  | rest => some (0, rest)

/-- `UnmarshalJSON` of `time.Time` on the text of an instant in UTC. -/
def parseRFC3339 (text : String) : Option Time := do
  let (year, rest) ← readFixed 4 text.toList
  let rest ← expect '-' rest
  let (month, rest) ← readFixed 2 rest
  let rest ← expect '-' rest
  let (dayOfMonth, rest) ← readFixed 2 rest
  let rest ← expect 'T' rest
  let (hours, rest) ← readFixed 2 rest
  let rest ← expect ':' rest
  let (minutes, rest) ← readFixed 2 rest
  let rest ← expect ':' rest
  let (seconds, rest) ← readFixed 2 rest
  let (nanoseconds, rest) ← readFraction rest
  if rest = ['Z'] ∧ ValidDate year month dayOfMonth ∧ hours < 24 ∧ minutes < 60 ∧ seconds < 60 then
    some (daysFromCivil year month dayOfMonth * day +
      (hours * 3600 + minutes * 60 + seconds : Int) * Duration.second + nanoseconds)
  else none

example : parseRFC3339 "2026-09-08T12:34:56.120Z" =
    some (63924467696 * Duration.second + 120000000) := by decide +kernel

example : parseRFC3339 "2026-02-29T00:00:00Z" = none := by decide +kernel

/-! ### Reading any text of an instant -/

/-- Read one digit or two. -/
def readHour : List Char → Option (Nat × List Char)
  | first :: second :: rest =>
    if first.isDigit ∧ second.isDigit then some (Nat.ofDigitChars 10 [first, second] 0, rest)
    else if first.isDigit then some (Nat.ofDigitChars 10 [first] 0, second :: rest)
    else none
  | [first] => if first.isDigit then some (Nat.ofDigitChars 10 [first] 0, []) else none
  | [] => none

/-- Read an optional fraction of a second, after a point or a comma. -/
def readAnyFraction : List Char → Nat × List Char
  | mark :: rest =>
    let digits := rest.takeWhile Char.isDigit
    if (mark = '.' ∨ mark = ',') ∧ digits ≠ [] then
      (Nat.ofDigitChars 10 ((digits ++ List.replicate 9 '0').take 9) 0,
        rest.dropWhile Char.isDigit)
    else (0, mark :: rest)
  | [] => (0, [])

/-- Read a zone at the end of a text: the seconds it is ahead of UTC. -/
def readZone : List Char → Option Int
  | ['Z'] => some 0
  | sign :: rest => do
    let (hours, rest) ← readFixed 2 rest
    let rest ← expect ':' rest
    let (minutes, rest) ← readFixed 2 rest
    if rest = [] ∧ hours ≤ 24 ∧ minutes ≤ 60 then
      if sign = '+' then some (hours * 3600 + minutes * 60)
      else if sign = '-' then some (-(hours * 3600 + minutes * 60))
      else none
    else none
  | [] => none

/-- `time.Parse` with the layouts `RFC3339` and `RFC3339Nano`, and so `UnmarshalJSON` of
`time.Time`: the hour may have one digit, a comma may announce the fraction, and an offset may be
as large as 24 hours and 60 minutes. -/
def parse (text : String) : Option Time := do
  let (year, rest) ← readFixed 4 text.toList
  let rest ← expect '-' rest
  let (month, rest) ← readFixed 2 rest
  let rest ← expect '-' rest
  let (dayOfMonth, rest) ← readFixed 2 rest
  let rest ← expect 'T' rest
  let (hours, rest) ← readHour rest
  let rest ← expect ':' rest
  let (minutes, rest) ← readFixed 2 rest
  let rest ← expect ':' rest
  let (seconds, rest) ← readFixed 2 rest
  let (nanoseconds, rest) := readAnyFraction rest
  let offset ← readZone rest
  if ValidDate year month dayOfMonth ∧ hours < 24 ∧ minutes < 60 ∧ seconds < 60 then
    some (daysFromCivil year month dayOfMonth * day +
      (hours * 3600 + minutes * 60 + seconds - offset : Int) * Duration.second + nanoseconds)
  else none

example : parse "2026-09-08T2:34:56,5+02:00" =
    some (63924424496 * Duration.second + 500000000) := by decide +kernel

theorem readHour_of_readFixed (two : readFixed 2 text = some read) : readHour text = some read := by
  unfold readFixed at two
  dsimp only at two
  split at two
  · rename_i digits
    match text, digits with
    | first :: second :: rest, digits =>
      have both : first.isDigit ∧ second.isDigit := by simpa using digits.2
      rw [readHour, if_pos both]
      exact two
  · exact absurd two (Option.some_ne_none _).symm

theorem readAnyFraction_of_readFraction (fraction : readFraction text = some read)
    (ends : read.2 = ['Z']) :
    readAnyFraction text = read := by
  unfold readFraction at fraction
  split at fraction
  · dsimp only at fraction
    split at fraction
    · exact absurd fraction (Option.some_ne_none _).symm
    · rename_i digits
      rw [readAnyFraction, if_pos ⟨Or.inl rfl, digits⟩]
      exact Option.some.inj fraction
  · have same := Option.some.inj fraction
    rw [← same] at ends ⊢
    rw [show text = ['Z'] from ends]
    rfl

theorem parse_of_parseRFC3339 {text : String} (read : parseRFC3339 text = some time) :
    parse text = some time := by
  unfold parseRFC3339 at read
  dsimp only [Option.bind_eq_bind] at read
  obtain ⟨year, isYear, read⟩ := Option.bind_eq_some_iff.mp read
  obtain ⟨afterYear, dash, read⟩ := Option.bind_eq_some_iff.mp read
  obtain ⟨month, isMonth, read⟩ := Option.bind_eq_some_iff.mp read
  obtain ⟨afterMonth, second, read⟩ := Option.bind_eq_some_iff.mp read
  obtain ⟨dayOfMonth, isDay, read⟩ := Option.bind_eq_some_iff.mp read
  obtain ⟨afterDay, mark, read⟩ := Option.bind_eq_some_iff.mp read
  obtain ⟨hours, isHours, read⟩ := Option.bind_eq_some_iff.mp read
  obtain ⟨afterHours, colon, read⟩ := Option.bind_eq_some_iff.mp read
  obtain ⟨minutes, isMinutes, read⟩ := Option.bind_eq_some_iff.mp read
  obtain ⟨afterMinutes, colons, read⟩ := Option.bind_eq_some_iff.mp read
  obtain ⟨seconds, isSeconds, read⟩ := Option.bind_eq_some_iff.mp read
  obtain ⟨nanoseconds, isFraction, read⟩ := Option.bind_eq_some_iff.mp read
  split at read
  · rename_i valid
    have fraction := readAnyFraction_of_readFraction isFraction valid.1
    have zone : readZone nanoseconds.2 = some 0 := by
      rw [valid.1]
      rfl
    unfold parse
    dsimp only [Option.bind_eq_bind]
    rw [isYear, Option.bind_some, dash, Option.bind_some, isMonth, Option.bind_some, second,
      Option.bind_some, isDay, Option.bind_some, mark, Option.bind_some,
      readHour_of_readFixed isHours, Option.bind_some, colon, Option.bind_some, isMinutes,
      Option.bind_some, colons, Option.bind_some, isSeconds, Option.bind_some, fraction, zone,
      Option.bind_some, if_pos valid.2, Int.sub_zero]
    exact read
  · exact absurd read (Option.some_ne_none _).symm

/-! ### The reader inverts the writer -/

theorem toList_padded (low : 0 ≤ number) (fits : number < 10 ^ (width + 1)) :
    (padded (width + 1) number).toList = fixedDigits (width + 1) number.toNat := by
  have natural : number.toNat < 10 ^ (width + 1) := by
    rw [Int.toNat_lt low]
    exact_mod_cast fits
  unfold padded
  rw [String.toList_append, Nat.toString_eq_ofList_toDigits, String.toList_ofList,
    String.toList_ofList, String.length_ofList]
  exact replicate_append_toDigits natural

theorem readFixed_padded (low : 0 ≤ number) (fits : number < 10 ^ (width + 1)) (rest : List Char) :
    readFixed (width + 1) ((padded (width + 1) number).toList ++ rest) =
      some (number.toNat, rest) := by
  rw [toList_padded low fits]
  refine readFixed_fixedDigits ?_ rest
  rw [Int.toNat_lt low]
  exact_mod_cast fits

theorem toList_fraction (low : 0 ≤ nanoseconds) (high : nanoseconds < 10 ^ 9)
    (nonzero : nanoseconds ≠ 0) :
    (fraction nanoseconds).toList = '.' :: trimZeros (fixedDigits 9 nanoseconds.toNat) := by
  have digits := toList_padded low high
  unfold fraction
  rw [if_neg nonzero, digits, String.toList_append, String.toList_ofList, String.toList_ofList,
    List.singleton_append, trimZeros_eq_reverse]

theorem readFraction_digits {digits : List Char} (written : digits ≠ [])
    (allDigits : ∀ digit ∈ digits, digit.isDigit = true) :
    readFraction ('.' :: digits ++ ['Z']) =
      some (Nat.ofDigitChars 10 ((digits ++ List.replicate 9 '0').take 9) 0, ['Z']) := by
  have taken : (digits ++ ['Z']).takeWhile Char.isDigit = digits := by
    rw [List.takeWhile_append_of_pos allDigits]
    exact List.append_nil digits
  have dropped : (digits ++ ['Z']).dropWhile Char.isDigit = ['Z'] :=
    List.dropWhile_append_of_pos allDigits
  simp only [List.cons_append, readFraction, taken, dropped, if_neg written]

theorem readFraction_fraction (low : 0 ≤ nanoseconds) (high : nanoseconds < 10 ^ 9) :
    readFraction ((fraction nanoseconds).toList ++ ['Z']) = some (nanoseconds.toNat, ['Z']) := by
  by_cases zero : nanoseconds = 0
  · rw [zero]
    rfl
  · have fits : nanoseconds.toNat < 10 ^ 9 := by omega
    have restored := take_trimZeros_append (fixedDigits 9 nanoseconds.toNat)
    have written := trimZeros_fixedDigits_ne_nil fits (by omega)
    have allDigits : ∀ digit ∈ trimZeros (fixedDigits 9 nanoseconds.toNat),
        digit.isDigit = true :=
      fun _ member => isDigit_of_mem_fixedDigits (mem_of_mem_trimZeros member)
    rw [length_fixedDigits] at restored
    rw [toList_fraction low high zero, readFraction_digits written allDigits, restored,
      ofDigitChars_fixedDigits fits]

theorem readFraction_padded (short : width + 1 ≤ 9) (low : 0 ≤ number)
    (fits : number < 10 ^ (width + 1)) :
    readFraction (("." ++ padded (width + 1) number).toList ++ ['Z']) =
      some (number.toNat * 10 ^ (9 - (width + 1)), ['Z']) := by
  have natural : number.toNat < 10 ^ (width + 1) := by
    rw [Int.toNat_lt low]
    exact_mod_cast fits
  have length := length_fixedDigits (width + 1) number.toNat
  have written : fixedDigits (width + 1) number.toNat ≠ [] := by
    intro empty
    rw [empty] at length
    exact absurd length (by simp)
  have filled : (fixedDigits (width + 1) number.toNat ++ List.replicate 9 '0').take 9 =
      fixedDigits (width + 1) number.toNat ++ List.replicate (9 - (width + 1)) '0' := by
    rw [List.take_append, List.take_of_length_le (by omega), length, List.take_replicate,
      Nat.min_eq_left (by omega)]
  rw [String.toList_append, toList_padded low fits]
  refine (readFraction_digits written fun _ => isDigit_of_mem_fixedDigits).trans ?_
  rw [filled, Nat.ofDigitChars_append, ofDigitChars_fixedDigits natural, ofDigitChars_zeros]

/-- The decoder on the text of a date and a time of day that exist, with a text that is read as
the fraction of a second. -/
theorem parseRFC3339_fields {year month dayOfMonth hours minutes seconds : Int}
    (yearBounds : 0 ≤ year ∧ year < 10000) (valid : ValidDate year month dayOfMonth)
    (hoursBounds : 0 ≤ hours ∧ hours < 24) (minutesBounds : 0 ≤ minutes ∧ minutes < 60)
    (secondsBounds : 0 ≤ seconds ∧ seconds < 60) (nonnegative : 0 ≤ nanoseconds)
    (isFraction : readFraction (last.toList ++ ['Z']) = some (nanoseconds.toNat, ['Z'])) :
    parseRFC3339 (padded 4 year ++ "-" ++ padded 2 month ++ "-" ++ padded 2 dayOfMonth ++ "T" ++
        padded 2 hours ++ ":" ++ padded 2 minutes ++ ":" ++ padded 2 seconds ++ last ++ "Z") =
      some (daysFromCivil year month dayOfMonth * day +
        (hours * 3600 + minutes * 60 + seconds) * Duration.second + nanoseconds) := by
  obtain ⟨monthLow, monthHigh, dayLow, dayHigh⟩ := id valid
  have dayMost : dayOfMonth < 100 := by
    unfold daysIn at dayHigh
    split_ifs at dayHigh <;> omega
  have date : ValidDate (year.toNat : Int) (month.toNat : Int) (dayOfMonth.toNat : Int) := by
    rw [Int.toNat_of_nonneg yearBounds.1, Int.toNat_of_nonneg (by omega),
      Int.toNat_of_nonneg (by omega)]
    exact valid
  have dash : "-".toList = ['-'] := rfl
  have colon : ":".toList = [':'] := rfl
  have separator : "T".toList = ['T'] := rfl
  have zone : "Z".toList = ['Z'] := rfl
  have text : (padded 4 year ++ "-" ++ padded 2 month ++ "-" ++ padded 2 dayOfMonth ++ "T" ++
      padded 2 hours ++ ":" ++ padded 2 minutes ++ ":" ++ padded 2 seconds ++ last ++ "Z").toList =
      (padded 4 year).toList ++ '-' :: ((padded 2 month).toList ++ '-' ::
        ((padded 2 dayOfMonth).toList ++ 'T' :: ((padded 2 hours).toList ++ ':' ::
          ((padded 2 minutes).toList ++ ':' :: ((padded 2 seconds).toList ++
            (last.toList ++ ['Z'])))))) := by
    simp only [String.toList_append, List.append_assoc, dash, colon, separator, zone,
      List.cons_append, List.nil_append]
  unfold parseRFC3339
  rw [text]
  dsimp only [Option.bind_eq_bind]
  rw [readFixed_padded yearBounds.1 yearBounds.2, Option.bind_some, expect_cons, Option.bind_some,
    readFixed_padded (by omega) (by omega), Option.bind_some, expect_cons, Option.bind_some,
    readFixed_padded (by omega) (by omega), Option.bind_some, expect_cons, Option.bind_some,
    readFixed_padded (by omega) (by omega), Option.bind_some, expect_cons, Option.bind_some,
    readFixed_padded (by omega) (by omega), Option.bind_some, expect_cons, Option.bind_some,
    readFixed_padded (by omega) (by omega), Option.bind_some,
    isFraction, Option.bind_some, if_pos ⟨rfl, date, by omega, by omega, by omega⟩]
  rw [Int.toNat_of_nonneg yearBounds.1, Int.toNat_of_nonneg (by omega),
    Int.toNat_of_nonneg (by omega), Int.toNat_of_nonneg hoursBounds.1,
    Int.toNat_of_nonneg minutesBounds.1, Int.toNat_of_nonneg secondsBounds.1,
    Int.toNat_of_nonneg nonnegative]

/-- The text of an instant up to its seconds. -/
def clockText (time : Time) : String :=
  let days := Int.fdiv time day
  let seconds := (time - days * day) / Duration.second
  let (year, month, dayOfMonth) := civil days
  padded 4 year ++ "-" ++ padded 2 month ++ "-" ++ padded 2 dayOfMonth ++ "T" ++
    padded 2 (seconds / 3600) ++ ":" ++ padded 2 (seconds / 60 % 60) ++ ":" ++
    padded 2 (seconds % 60)

/-- The nanoseconds of an instant after its second. -/
def nanosecond (time : Time) : Int := (time - Int.fdiv time day * day) % Duration.second

theorem formatRFC3339Nano_eq (time : Time) :
    time.formatRFC3339Nano = time.clockText ++ fraction time.nanosecond ++ "Z" := rfl

/-- The date and the time of day that the text of an instant is built from. -/
structure Fields (time : Time) (year month dayOfMonth hours minutes seconds nanoseconds : Int) :
    Prop where
  clock : time.clockText = padded 4 year ++ "-" ++ padded 2 month ++ "-" ++
    padded 2 dayOfMonth ++ "T" ++ padded 2 hours ++ ":" ++ padded 2 minutes ++ ":" ++
    padded 2 seconds
  nanosecond : time.nanosecond = nanoseconds
  yearBounds : 0 ≤ year ∧ year < 10000
  valid : ValidDate year month dayOfMonth
  hoursBounds : 0 ≤ hours ∧ hours < 24
  minutesBounds : 0 ≤ minutes ∧ minutes < 60
  secondsBounds : 0 ≤ seconds ∧ seconds < 60
  fractionBounds : 0 ≤ nanoseconds ∧ nanoseconds < 10 ^ 9
  sum : daysFromCivil year month dayOfMonth * day +
    (hours * 3600 + minutes * 60 + seconds) * Duration.second + nanoseconds = time

theorem exists_fields (encodable : time.Encodable) :
    ∃ year month dayOfMonth hours minutes seconds nanoseconds,
      Fields time year month dayOfMonth hours minutes seconds nanoseconds := by
  obtain ⟨low, high⟩ := encodable
  have positive : 0 < day := by decide
  have yearBounds := civil_year (Int.le_ediv_of_mul_le positive low)
    (Int.ediv_lt_of_lt_mul positive high)
  have dayBounds : 0 ≤ time % day ∧ time % day < day :=
    ⟨Int.emod_nonneg _ positive.ne', Int.emod_lt_of_pos _ positive⟩
  have remainder : time - time / day * day = time % day := by
    rw [Int.emod_def, mul_comm]
  have clock : time.clockText =
      padded 4 (civil (time / day)).1 ++ "-" ++ padded 2 (civil (time / day)).2.1 ++ "-" ++
        padded 2 (civil (time / day)).2.2 ++ "T" ++
        padded 2 (time % day / Duration.second / 3600) ++ ":" ++
        padded 2 (time % day / Duration.second / 60 % 60) ++ ":" ++
        padded 2 (time % day / Duration.second % 60) := by
    rw [← remainder, ← Int.fdiv_eq_ediv_of_nonneg time positive.le]
    rfl
  have nanosecond : time.nanosecond = time % day % Duration.second := by
    rw [← remainder, ← Int.fdiv_eq_ediv_of_nonneg time positive.le]
    rfl
  have parts : time = time / day * day + time % day := (Int.ediv_mul_add_emod time day).symm
  refine ⟨_, _, _, _, _, _, _, clock, nanosecond, yearBounds, civil_valid _, ?_, ?_, ?_, ?_, ?_⟩
  rotate_right
  · rw [daysFromCivil_civil]
    unfold day Duration.second at *
    omega
  all_goals
    unfold day Duration.second at *
    omega

theorem parseRFC3339_clockText (encodable : time.Encodable)
    (isFraction : readFraction (last.toList ++ ['Z']) = some (time.nanosecond.toNat, ['Z'])) :
    parseRFC3339 (time.clockText ++ last ++ "Z") = some time := by
  obtain ⟨year, month, dayOfMonth, hours, minutes, seconds, nanoseconds, fields⟩ :=
    exists_fields encodable
  rw [fields.nanosecond] at isFraction
  rw [fields.clock, parseRFC3339_fields fields.yearBounds fields.valid fields.hoursBounds
    fields.minutesBounds fields.secondsBounds fields.fractionBounds.1 isFraction, fields.sum]

theorem nanosecond_bounds (time : Time) : 0 ≤ time.nanosecond ∧ time.nanosecond < 10 ^ 9 :=
  ⟨Int.emod_nonneg _ (by decide), Int.emod_lt_of_pos _ (by decide)⟩

/-- The decoder gives back every instant of the years 0 through 9999. -/
theorem parseRFC3339_formatRFC3339Nano (encodable : time.Encodable) :
    parseRFC3339 time.formatRFC3339Nano = some time := by
  obtain ⟨low, high⟩ := time.nanosecond_bounds
  rw [formatRFC3339Nano_eq]
  exact parseRFC3339_clockText encodable (readFraction_fraction low high)

theorem length_padded (low : 0 ≤ number) (fits : number < 10 ^ (width + 1)) :
    (padded (width + 1) number).toList.length = width + 1 := by
  rw [toList_padded low fits, length_fixedDigits]

theorem length_fraction_le (low : 0 ≤ nanoseconds) (high : nanoseconds < 10 ^ 9) :
    (fraction nanoseconds).toList.length ≤ 10 := by
  by_cases zero : nanoseconds = 0
  · rw [zero]
    exact Nat.zero_le _
  · have trimmed := (List.rdropWhile_prefix (· = '0') (fixedDigits 9 nanoseconds.toNat)).length_le
    rw [length_fixedDigits] at trimmed
    rw [toList_fraction low high zero, List.length_cons]
    exact Nat.succ_le_succ trimmed

theorem length_formatRFC3339Nano_le (encodable : time.Encodable) :
    time.formatRFC3339Nano.toList.length ≤ 30 := by
  obtain ⟨year, month, dayOfMonth, hours, minutes, seconds, nanoseconds, fields⟩ :=
    exists_fields encodable
  have text := formatRFC3339Nano_eq time
  rw [fields.clock, fields.nanosecond] at text
  obtain ⟨-, -, yearBounds, ⟨monthLow, monthHigh, dayLow, dayHigh⟩, hoursBounds, minutesBounds,
    secondsBounds, fractionBounds, -⟩ := fields
  have dayMost : dayOfMonth < 100 := by
    unfold daysIn at dayHigh
    split_ifs at dayHigh <;> omega
  have last := length_fraction_le fractionBounds.1 fractionBounds.2
  rw [text]
  simp only [String.toList_append, List.length_append]
  rw [length_padded yearBounds.1 yearBounds.2, length_padded (by omega) (by omega),
    length_padded (by omega) (by omega), length_padded hoursBounds.1 (by omega),
    length_padded minutesBounds.1 (by omega), length_padded secondsBounds.1 (by omega)]
  have dash : "-".toList.length = 1 := rfl
  have colon : ":".toList.length = 1 := rfl
  have separator : "T".toList.length = 1 := rfl
  have zone : "Z".toList.length = 1 := rfl
  omega

theorem parse_formatRFC3339Nano (encodable : time.Encodable) :
    parse time.formatRFC3339Nano = some time :=
  parse_of_parseRFC3339 (parseRFC3339_formatRFC3339Nano encodable)

/-- A text of digits and the marks of the format of an instant. -/
def Timely (text : String) : Prop :=
  ∀ character ∈ text.toList, character.isDigit = true ∨ character ∈ ['-', 'T', ':', '.', 'Z']

theorem Timely.append {first second : String} (firstTimely : Timely first)
    (secondTimely : Timely second) : Timely (first ++ second) := by
  intro character listed
  rw [String.toList_append] at listed
  rcases List.mem_append.mp listed with listed | listed
  · exact firstTimely character listed
  · exact secondTimely character listed

theorem timely_padded (width : Nat) (number : Int) : Timely (padded width number) := by
  intro character listed
  unfold padded at listed
  rw [String.toList_append, String.toList_ofList, Nat.toString_eq_ofList_toDigits,
    String.toList_ofList] at listed
  rcases List.mem_append.mp listed with zero | digit
  · rw [List.eq_of_mem_replicate zero]
    exact Or.inl rfl
  · exact Or.inl (Nat.isDigit_of_mem_toDigits (by decide) (by decide) digit)

theorem timely_fraction (nanoseconds : Int) : Timely (fraction nanoseconds) := by
  intro character listed
  unfold fraction at listed
  split at listed
  · exact absurd listed List.not_mem_nil
  · have text : ∀ digits : List Char, ("." ++ String.ofList ((digits.reverse.dropWhile
        (· = '0')).reverse)).toList = '.' :: trimZeros digits := by
      intro digits
      rw [String.toList_append, String.toList_ofList, String.toList_ofList, trimZeros_eq_reverse]
      rfl
    rw [text] at listed
    rcases List.mem_cons.mp listed with point | digit
    · exact Or.inr (by rw [point]; decide)
    · exact timely_padded 9 nanoseconds character (mem_of_mem_trimZeros digit)

theorem timely_mark {text : String} {mark : Char} (single : text.toList = [mark])
    (isMark : mark ∈ ['-', 'T', ':', '.', 'Z']) : Timely text := by
  intro character listed
  rw [single] at listed
  rw [List.mem_singleton.mp listed]
  exact Or.inr isMark

theorem timely_clockText (time : Time) : Timely time.clockText := by
  have dash : Timely "-" := timely_mark rfl (show '-' ∈ _ by decide)
  have separator : Timely "T" := timely_mark rfl (show 'T' ∈ _ by decide)
  have colon : Timely ":" := timely_mark rfl (show ':' ∈ _ by decide)
  have parts : ∀ year month dayOfMonth hours minutes seconds,
      Timely (padded 4 year ++ "-" ++ padded 2 month ++ "-" ++ padded 2 dayOfMonth ++ "T" ++
        padded 2 hours ++ ":" ++ padded 2 minutes ++ ":" ++ padded 2 seconds) := by
    intro year month dayOfMonth hours minutes seconds
    refine Timely.append (Timely.append (Timely.append (Timely.append (Timely.append (Timely.append
      (Timely.append (Timely.append (Timely.append (Timely.append ?_ dash) ?_) dash) ?_)
      separator) ?_) colon) ?_) colon) ?_
    all_goals exact timely_padded _ _
  exact parts _ _ _ _ _ _

theorem timely_zone : Timely "Z" := timely_mark rfl (show 'Z' ∈ _ by decide)

theorem timely_formatRFC3339Nano (time : Time) : Timely time.formatRFC3339Nano :=
  (time.timely_clockText.append (timely_fraction _)).append timely_zone

theorem formatRFC3339Nano_inj {first second : Time} (firstEncodable : first.Encodable)
    (secondEncodable : second.Encodable)
    (same : first.formatRFC3339Nano = second.formatRFC3339Nano) : first = second := by
  have read := parseRFC3339_formatRFC3339Nano firstEncodable
  rw [same, parseRFC3339_formatRFC3339Nano secondEncodable] at read
  exact (Option.some.inj read).symm

end Time

end GuardedAgentRunner
