/-
CountingHouse.Clock — the time as the ledger's header gives it.

    14:05 March 02 2025

The hour comes first, then the minute, the month by its name, the day
and the year; all numbers but the year have two digits.
-/
import CountingHouse.Text.Numeral

namespace CountingHouse

/-- A minute of some day. -/
structure Moment where
  year : Nat
  /-- January is zero. -/
  month : Fin 12
  day : Nat
  hour : Fin 24
  minute : Fin 60
  deriving DecidableEq, Repr

namespace Moment

/-- The name of a month. -/
def monthName : Fin 12 → String
  | 0 => "January"
  | 1 => "February"
  | 2 => "March"
  | 3 => "April"
  | 4 => "May"
  | 5 => "June"
  | 6 => "July"
  | 7 => "August"
  | 8 => "September"
  | 9 => "October"
  | 10 => "November"
  | 11 => "December"

/-- A number with at least as many digits as asked for. -/
def padded (width n : Nat) : List Char :=
  let digits := Text.natural n
  List.replicate (width - digits.length) '0' ++ digits

/-- The time as it is written. -/
def stamp (m : Moment) : String :=
  String.ofList
    (padded 2 m.hour ++ ':' :: padded 2 m.minute ++ ' ' :: (monthName m.month).toList ++
      ' ' :: padded 2 m.day ++ ' ' :: padded 4 m.year)

/-- The date of a day, counted from the first of January 1970. Years are
taken to begin in March, so that a leap day is the last of its year;
every four hundred years the calendar repeats. -/
def dateOfDay (day : Nat) : Nat × Fin 12 × Nat :=
  let day := day + 719468
  let era := day / 146097
  let dayOfEra := day % 146097
  let yearOfEra :=
    (dayOfEra + dayOfEra / 36524 - dayOfEra / 1460 - dayOfEra / 146096) / 365
  let dayOfYear := dayOfEra + yearOfEra / 100 - 365 * yearOfEra - yearOfEra / 4
  let month := (5 * dayOfYear + 2) / 153
  let dayOfMonth := dayOfYear + 1 - (153 * month + 2) / 5
  let year := yearOfEra + era * 400
  (if month < 10 then year else year + 1, Fin.ofNat 12 (month + 2), dayOfMonth)

/-- The minute that lies some seconds after the beginning of 1970. -/
def ofSeconds (seconds : Nat) : Moment :=
  let (year, month, day) := dateOfDay (seconds / 86400)
  ⟨year, month, day, Fin.ofNat 24 (seconds / 3600), Fin.ofNat 60 (seconds / 60)⟩

example : (ofSeconds 0).stamp = "00:00 January 01 1970" := by decide
example : (ofSeconds 1740924300).stamp = "14:05 March 02 2025" := by decide
example : (ofSeconds 1709208000).stamp = "12:00 February 29 2024" := by decide
example : (ofSeconds 4107542399).stamp = "23:59 February 28 2100" := by decide

end Moment

end CountingHouse
