import FormatHost.Text.Digit
/-!
# Days

Days of the Gregorian calendar from the year 1 to the year 9999, numbered from one on.
-/
namespace FormatHost

/-- A day by its year, month and day of the month. -/
structure Day where
  year : Nat
  month : Nat
  day : Nat
  deriving DecidableEq, Repr

namespace Day

/-- Every fourth year has a leap day, save those of a hundred that are none of four hundred. -/
def isLeap (year : Nat) : Bool := year % 4 == 0 && (year % 100 != 0 || year % 400 == 0)

/-- The number of days of a month. -/
def monthLength (year month : Nat) : Nat :=
  if month = 2 then if isLeap year then 29 else 28
  else if month = 4 ∨ month = 6 ∨ month = 9 ∨ month = 11 then 30
  else 31

/-- The greatest year. -/
def maxYear : Nat := 9999

/-- The day is in the calendar. -/
def IsValid (d : Day) : Prop :=
  1 ≤ d.year ∧ d.year ≤ maxYear ∧ 1 ≤ d.month ∧ d.month ≤ 12 ∧ 1 ≤ d.day ∧
    d.day ≤ monthLength d.year d.month

instance (d : Day) : Decidable d.IsValid := by unfold IsValid; infer_instance

/-- The days before a year. -/
def daysBeforeYear (year : Nat) : Nat :=
  let y := year - 1
  365 * y + y / 4 - y / 100 + y / 400

/-- The days of a year before a month. -/
def daysBeforeMonth (year month : Nat) : Nat :=
  (List.range (month - 1)).foldl (fun n m => n + monthLength year (m + 1)) 0

/-- The number of the day; the first day of the year 1 is day one. -/
def ordinal (d : Day) : Nat := daysBeforeYear d.year + daysBeforeMonth d.year d.month + d.day

/-- A number with two digits at least. -/
def twoDigits (n : Nat) : String := if n < 10 then "0" ++ toString n else toString n

/-- The written form: the year as it is, month and day with two digits. -/
def text (d : Day) : String :=
  toString d.year ++ "-" ++ twoDigits d.month ++ "-" ++ twoDigits d.day

/-- The value of an ASCII digit. -/
def asciiDigit? (c : Char) : Option Nat :=
  if '0' ≤ c ∧ c ≤ '9' then some (c.toNat - 48) else none

/-- Reads a month of two ASCII digits. -/
def month? (a b : Char) : Option Nat := do
  let m := 10 * (← asciiDigit? a) + (← asciiDigit? b)
  if 1 ≤ m ∧ m ≤ 12 then some m else none

/-- Reads a day of a month. The second digit of a day from the tenth to the twenty-ninth may be of any
script. -/
def day? (a b : Char) : Option Nat := do
  let tens ← asciiDigit? a
  let ones ← if tens = 1 ∨ tens = 2 then Text.digitValue? b else asciiDigit? b
  let d := 10 * tens + ones
  if 1 ≤ d ∧ d ≤ 31 then some d else none

/-- Reads a year of four digits of any script, a month and a day, with hyphens between them. -/
def parse? : List Char → Option Day
  | [a, b, c, d, '-', m, n, '-', p, q] => do
    let year := 1000 * (← Text.digitValue? a) + 100 * (← Text.digitValue? b) +
      10 * (← Text.digitValue? c) + (← Text.digitValue? d)
    let day : Day := ⟨year, ← month? m n, ← day? p q⟩
    if day.IsValid then some day else none
  | _ => none

end Day

end FormatHost
