import PromptClient.Text.Decimal
import PromptClient.Toml.Basic

/-! # TOML times

A day of the calendar, a time of the day, or both with an optional distance from
universal time. Only whether a text is one matters, so readers return what follows.
-/

namespace PromptClient.Toml

open Text.Decimal

/-- A number of exactly `count` digits. -/
def fixedDigits? (count : Nat) (input : List Char) : Option (Nat × List Char) :=
  let digits := input.take count
  if digits.length = count && digits.all isDigit then
    (natural? digits).map fun value => (value, input.drop count)
  else none

def twoDigits? (low high : Nat) (input : List Char) : Option (Nat × List Char) := do
  let (value, after) ← fixedDigits? 2 input
  if low ≤ value && value ≤ high then some (value, after) else none

def after? (char : Char) : List Char → Option (List Char)
  | first :: rest => if first = char then some rest else none
  | [] => none

def daysIn (year month : Nat) : Nat :=
  if month = 2 then
    if year % 4 = 0 && (year % 100 ≠ 0 || year % 400 = 0) then 29 else 28
  else if month = 4 || month = 6 || month = 9 || month = 11 then 30
  else 31

def afterDay? (input : List Char) : Option (List Char) := do
  let (year, rest) ← fixedDigits? 4 input
  let rest ← after? '-' rest
  let (month, rest) ← twoDigits? 1 12 rest
  let rest ← after? '-' rest
  let (_, rest) ← twoDigits? 1 (daysIn year month) rest
  some rest

/-- What follows a time of the day; its seconds may have a fraction. -/
def afterTime? (input : List Char) : Option (List Char) := do
  let (_, rest) ← twoDigits? 0 23 input
  let rest ← after? ':' rest
  let (_, rest) ← twoDigits? 0 59 rest
  let rest ← after? ':' rest
  let (_, rest) ← twoDigits? 0 60 rest
  match rest with
  | '.' :: digit :: more =>
      if isDigit digit then some (more.dropWhile isDigit) else some rest
  | _ => some rest

def afterDistance? (input : List Char) : Option (List Char) := do
  let (_, rest) ← twoDigits? 0 23 input
  let rest ← after? ':' rest
  let (_, rest) ← twoDigits? 0 59 rest
  some rest

/-- What follows the distance from universal time, if there is one. -/
def afterZone (input : List Char) : List Char :=
  match input with
  | 'Z' :: rest => rest
  | 'z' :: rest => rest
  | '+' :: rest => (afterDistance? rest).getD input
  | '-' :: rest => (afterDistance? rest).getD input
  | _ => input

def isTimeMark (char : Char) : Bool :=
  char = 'T' || char = 't' || char = ' '

/-- What follows a day, a time or both. -/
def afterMoment? (input : List Char) : Option (List Char) :=
  match afterDay? input with
  | some (mark :: rest) =>
      if isTimeMark mark then
        match afterTime? rest with
        | some after => some (afterZone after)
        | none => some (mark :: rest)
      else some (mark :: rest)
  | some [] => some []
  | none => afterTime? input

example : afterMoment? "1979-02-29".toList = none := by decide
example : afterMoment? "2000-02-29 07:32:00.5Z#".toList = some ['#'] := by decide

end PromptClient.Toml
