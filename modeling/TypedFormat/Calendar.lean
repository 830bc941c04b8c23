import TypedFormat.Number.Numeral

/-!
# Calendar

Moments as dates of the Gregorian calendar. Days are counted from the first of January 1970. To
find the date of a day, years are taken to begin in March, so that a leap day is the last day of
its year, and are grouped into eras of 400, which all have the same number of days.
-/

namespace TypedFormat

/-- A moment: the seconds since the beginning of 1970, and thousandths of a second. -/
structure Moment where
  seconds : Nat
  millis : Nat
deriving DecidableEq, Inhabited

structure Date where
  year : Nat
  month : Nat
  day : Nat
deriving DecidableEq

namespace Date

/-- The days from the first of March of the year 0 to the first of January 1970. -/
def epochOffset : Nat := 719468

/-- The number of days in an era of 400 years. -/
def daysPerEra : Nat := 146097

/-- The date of a day counted from the first of January 1970. -/
def ofDays (days : Nat) : Date :=
  let shifted := days + epochOffset
  let era := shifted / daysPerEra
  let dayOfEra := shifted % daysPerEra
  let yearOfEra :=
    (dayOfEra - dayOfEra / 1460 + dayOfEra / 36524 - dayOfEra / 146096) / 365
  let dayOfYear := dayOfEra - (365 * yearOfEra + yearOfEra / 4 - yearOfEra / 100)
  let monthFromMarch := (5 * dayOfYear + 2) / 153
  let day := dayOfYear - (153 * monthFromMarch + 2) / 5 + 1
  let month := if monthFromMarch < 10 then monthFromMarch + 3 else monthFromMarch - 9
  ⟨yearOfEra + era * 400 + (if month ≤ 2 then 1 else 0), month, day⟩

end Date

namespace Moment

/-- A moment with its date and time of day, such as `2000-02-29T00:00:00.005Z`. -/
def text (m : Moment) : String :=
  let date := Date.ofDays (m.seconds / 86400)
  let time := m.seconds % 86400
  String.ofList <|
    paddedDigits 4 date.year ++ '-' :: paddedDigits 2 date.month ++ '-' :: paddedDigits 2 date.day
      ++ 'T' :: paddedDigits 2 (time / 3600) ++ ':' :: paddedDigits 2 (time % 3600 / 60)
      ++ ':' :: paddedDigits 2 (time % 60) ++ '.' :: paddedDigits 3 m.millis ++ ['Z']

end Moment

end TypedFormat
