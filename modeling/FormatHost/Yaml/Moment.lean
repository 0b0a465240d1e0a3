import FormatHost.Config.Datum
import FormatHost.Yaml.Fault
/-!
# Written moments

A day is written as year, month and day with hyphens. A time follows behind a `T` or blanks, with
colons, then a fraction of a second and the distance from Greenwich if they are given.
-/
namespace FormatHost.Yaml

/-- The numbers of a written moment. -/
structure WrittenTime where
  hour : Nat
  minute : Nat
  second : Nat
  microseconds : Nat
  /-- Minutes east of Greenwich. -/
  offset : Option Int
  deriving Repr

/-- A written moment: the day, which may be none of the calendar, and the time. -/
structure WrittenMoment where
  day : Day
  time : Option WrittenTime
  deriving Repr

/-- An ASCII digit. -/
def isAsciiDigit (c : Char) : Bool := '0' ≤ c && c ≤ '9'

/-- The value of ASCII digits. -/
def asciiValue (ds : List Char) : Nat := ds.foldl (fun n d => 10 * n + (d.toNat - 48)) 0

/-- A number of at least and at most so many digits at the front. -/
def fieldOf? (least most : Nat) (cs : List Char) : Option (Nat × List Char) :=
  let ds := (cs.take most).takeWhile isAsciiDigit
  if least ≤ ds.length then some (asciiValue ds, cs.drop ds.length) else none

/-- The text behind a character at the front. -/
def behind? (c : Char) : List Char → Option (List Char)
  | x :: rest => if x = c then some rest else none
  | [] => none

/-- The millionths that the digits of a fraction count; further digits are cut off. -/
def millionths (ds : List Char) : Nat := asciiValue ((ds ++ List.replicate 6 '0').take 6)

/-- A fraction of a second, if there is one. -/
def fractionOf (cs : List Char) : Nat × List Char :=
  match cs with
  | '.' :: rest => (millionths (rest.takeWhile isAsciiDigit), rest.dropWhile isAsciiDigit)
  | cs => (0, cs)

/-- The distance from Greenwich at the end of a text: hours of one or two digits, and minutes. -/
def distanceOf? (cs : List Char) : Option Int := do
  let (hours, cs) ← fieldOf? 1 2 cs
  if cs.isEmpty then return hours * 60
  let (minutes, cs) ← fieldOf? 2 2 (← behind? ':' cs)
  if cs.isEmpty then some (hours * 60 + minutes : Int) else none

/-- The zone at the end of a text, if one is given. -/
def zoneOf? (cs : List Char) : Option (Option Int) :=
  if cs.isEmpty then some none
  else match cs.dropWhile fun c => c == ' ' || c == '\t' with
    | ['Z'] => some (some 0)
    | '+' :: rest => (distanceOf? rest).map some
    | '-' :: rest => (distanceOf? rest).map fun m => some (-m)
    | _ => none

/-- What stands between a day and a time is left out. -/
def timeStart? (cs : List Char) : Option (List Char) :=
  match cs with
  | c :: rest =>
    if c == 'T' || c == 't' then some rest
    else if c == ' ' || c == '\t' then some (rest.dropWhile fun c => c == ' ' || c == '\t')
    else none
  | [] => none

/-- Reads a time. -/
def writtenTime? (cs : List Char) : Option WrittenTime := do
  let (hour, cs) ← fieldOf? 1 2 cs
  let (minute, cs) ← fieldOf? 2 2 (← behind? ':' cs)
  let (second, cs) ← fieldOf? 2 2 (← behind? ':' cs)
  let (microseconds, cs) := fractionOf cs
  return ⟨hour, minute, second, microseconds, ← zoneOf? cs⟩

/-- Reads a moment. -/
def writtenMoment? (cs : List Char) : Option WrittenMoment := do
  let (year, cs) ← fieldOf? 4 4 cs
  let (month, cs) ← fieldOf? 1 2 (← behind? '-' cs)
  let (day, cs) ← fieldOf? 1 2 (← behind? '-' cs)
  if cs.isEmpty then return ⟨⟨year, month, day⟩, none⟩
  return ⟨⟨year, month, day⟩, some (← writtenTime? (← timeStart? cs))⟩

/-- The text is that of a moment. A day by itself has two digits for month and day. -/
def isWrittenMoment (cs : List Char) : Bool :=
  match writtenMoment? cs with
  | some m => m.time.isSome || cs.length == 10
  | none => false

/-- The time is on the clock, less than a day from Greenwich. -/
def WrittenTime.isValid (t : WrittenTime) : Bool :=
  t.hour < 24 && t.minute < 60 && t.second < 60 && t.offset.all fun m => m.natAbs < 1440

/-- The time in microseconds. -/
def WrittenTime.total (t : WrittenTime) : Nat :=
  ((t.hour * 60 + t.minute) * 60 + t.second) * 1000000 + t.microseconds

/-- The moment that a text spells. -/
def readMoment (cs : List Char) : Except Fault Moment :=
  match writtenMoment? cs with
  | none => .error .badMoment
  | some ⟨day, time⟩ =>
    if day.IsValid then
      match time with
      | none => .ok (.date day)
      | some t => if t.isValid then .ok (.time day t.total t.offset) else .error .noSuchMoment
    else .error .noSuchMoment

end FormatHost.Yaml
