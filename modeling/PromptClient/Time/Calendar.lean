import PromptClient.Text.Decimal

/-! # Calendar times

Epoch seconds as dates of the proleptic Gregorian calendar, in UTC, for the years
that the calendar covers.
-/

namespace PromptClient.Calendar

structure Date where
  year : Int
  month : Nat
  day : Nat
deriving DecidableEq, Repr

/-- The date that many days after the first of January 1970. Years are counted
from March, so that the leap day comes last, in cycles of 400 years. -/
def dateOfDays (days : Int) : Date :=
  let shifted := days + 719468
  let cycle := Int.fdiv shifted 146097
  let dayOfCycle := (shifted - cycle * 146097).toNat
  let yearOfCycle :=
    (dayOfCycle - dayOfCycle / 1460 + dayOfCycle / 36524 - dayOfCycle / 146096) / 365
  let dayOfYear := dayOfCycle - (365 * yearOfCycle + yearOfCycle / 4 - yearOfCycle / 100)
  let monthFromMarch := (5 * dayOfYear + 2) / 153
  let day := dayOfYear - (153 * monthFromMarch + 2) / 5 + 1
  let month := if monthFromMarch < 10 then monthFromMarch + 3 else monthFromMarch - 9
  let year := cycle * 400 + yearOfCycle + (if month ≤ 2 then 1 else 0)
  ⟨year, month, day⟩

example : dateOfDays 0 = ⟨1970, 1, 1⟩ := by decide

/-- The first and the last year of the calendar. -/
def firstYear : Int := -262143
def lastYear : Int := 262142

/-- A year in four digits, with a sign if four digits do not hold it. -/
private def yearChars (year : Int) : List Char :=
  if 0 ≤ year && year ≤ 9999 then Text.Decimal.padded 4 year.toNat
  else (if year < 0 then '-' else '+') :: Text.Decimal.padded 4 year.natAbs

/-- Date and time of day of epoch seconds, if the calendar covers them. -/
def utcText? (seconds : Int) : Option String :=
  let days := Int.fdiv seconds 86400
  let second := (seconds - days * 86400).toNat
  let date := dateOfDays days
  if firstYear ≤ date.year && date.year ≤ lastYear then
    let two := Text.Decimal.padded 2
    some (String.ofList
      (yearChars date.year ++ '-' :: two date.month ++ '-' :: two date.day ++ ' ' ::
        two (second / 3600) ++ ':' :: two (second / 60 % 60) ++ ':' :: two (second % 60) ++
        " UTC".toList))
  else none

end PromptClient.Calendar
