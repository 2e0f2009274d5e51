/-
Dates.

Moments are whole seconds since the start of 1970 in UTC, and are written as
dates of the Gregorian calendar, which runs on before its adoption and has a
year 0.  A year of the calendar is counted from March here, so that a leap day
is the last day of its year.
-/

namespace Roster

/-- A day of the Gregorian calendar. -/
structure Date where
  year : Int
  month : Nat
  day : Nat
deriving DecidableEq, Repr

namespace Date

/-- Days in four hundred years. -/
def daysPerEra : Nat := 146097

/-- The date that lies `n` days after 1970-01-01.  Days are counted within the
period of four hundred years that starts on 1 March of a year divisible by 400. -/
def ofDays (n : Int) : Date :=
  let shifted := n + 719468
  let era := shifted.fdiv daysPerEra
  let dayOfEra := (shifted.fmod daysPerEra).toNat
  let yearOfEra := (dayOfEra - dayOfEra / 1460 + dayOfEra / 36524 - dayOfEra / 146096) / 365
  let dayOfYear := dayOfEra - (365 * yearOfEra + yearOfEra / 4 - yearOfEra / 100)
  let marchMonth := (5 * dayOfYear + 2) / 153
  let day := dayOfYear - (153 * marchMonth + 2) / 5 + 1
  let month := if marchMonth < 10 then marchMonth + 3 else marchMonth - 9
  let year := era * 400 + yearOfEra
  { year := if month ≤ 2 then year + 1 else year, month := month, day := day }

/-- The number of days from 1970-01-01 to a date. -/
def toDays (d : Date) : Int :=
  let year := if d.month ≤ 2 then d.year - 1 else d.year
  let era := year.fdiv 400
  let yearOfEra := (year.fmod 400).toNat
  let marchMonth := if d.month ≤ 2 then d.month + 9 else d.month - 3
  let dayOfYear := (153 * marchMonth + 2) / 5 + d.day - 1
  let dayOfEra := 365 * yearOfEra + yearOfEra / 4 - yearOfEra / 100 + dayOfYear
  era * daysPerEra + dayOfEra - 719468

end Date

namespace Calendar

/-- Seconds in a day. -/
def secondsPerDay : Nat := 86400

/-- The first moment that has a date. -/
def first : Int := Date.toDays ⟨-262143, 1, 1⟩ * secondsPerDay

/-- The last moment that has a date. -/
def last : Int := (Date.toDays ⟨262142, 12, 31⟩ + 1) * secondsPerDay - 1

/-- A number in decimal digits, with noughts in front up to a width. -/
def padded (width n : Nat) : String :=
  let digits := toString n
  String.ofList (List.replicate (width - digits.length) '0') ++ digits

/-- Years 0 to 9999 have four digits; others have a sign and at least four. -/
def yearText (year : Int) : String :=
  let digits := padded 4 year.natAbs
  if 0 ≤ year ∧ year ≤ 9999 then digits
  else if year < 0 then "-" ++ digits
  else "+" ++ digits

/-- A moment as date and time of day in UTC, as in `1970-01-01T00:00:00Z`.  A moment
outside the range of dates is written as the start of 1970. -/
def isoText (moment : Int) : String :=
  let t := if first ≤ moment ∧ moment ≤ last then moment else 0
  let date := Date.ofDays (t.fdiv secondsPerDay)
  let s := (t.fmod secondsPerDay).toNat
  s!"{yearText date.year}-{padded 2 date.month}-{padded 2 date.day}" ++
    s!"T{padded 2 (s / 3600)}:{padded 2 (s / 60 % 60)}:{padded 2 (s % 60)}Z"

end Calendar

end Roster
