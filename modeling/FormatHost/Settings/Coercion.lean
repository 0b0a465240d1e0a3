import FormatHost.Complaint
import FormatHost.Config.Datum
import FormatHost.Number.Numeral
import FormatHost.Text.Lines
import FormatHost.Text.Utf8
/-!
# Values of settings

A setting may be given as a value of another kind that means the same: a number as a numeral, an
integer as a number without fraction, a truth value as one or zero. Numerals are ASCII here.
-/
namespace FormatHost.Setting

/-- The text without underscores, if each joins two other characters; a text without any is none. -/
def joined? (cs : List Char) : Option (List Char) :=
  if cs.contains '_' && (Text.splitAt (· == '_') cs).all (!·.isEmpty) then some (cs.filter (· != '_'))
  else none

/-- The text up to its point, if only zeros stand behind it. -/
def dropZeroFraction (cs : List Char) : List Char :=
  match cs.dropWhile (· != '.') with
  | '.' :: zeros => if zeros.all (· == '0') then cs.takeWhile (· != '.') else cs
  | _ => cs

/-- An ASCII digit. -/
def isDigit (c : Char) : Bool := '0' ≤ c && c ≤ '9'

/-- The value of digits. -/
def natural? (cs : List Char) : Option Nat :=
  if cs.isEmpty || !cs.all isDigit || Numeral.digitLimit < cs.length then none
  else some (cs.foldl (fun n d => 10 * n + (d.toNat - 48)) 0)

/-- The integer of a numeral: blanks around it, a sign, digits with single underscores between them,
and a fraction of zeros. Behind a minus sign an underscore may stand, but no zero in front of other
digits. -/
def integer? (cs : List Char) : Option Int :=
  match dropZeroFraction (Numeral.trim cs) with
  | '-' :: rest =>
    match (joined? ('-' :: rest)).getD ('-' :: rest) with
    | '-' :: '0' :: _ :: _ => none
    | '-' :: ds => (natural? ds).map fun n => -(n : Int)
    | _ => none
  | '+' :: rest => (natural? ((joined? rest).getD rest)).map Int.ofNat
  | rest => (natural? ((joined? rest).getD rest)).map Int.ofNat

/-- The number of a numeral in ASCII without underscores. -/
def plainNumber? (cs : List Char) : Option Double :=
  if cs.all fun c => c.toNat < 128 && c != '_' then Numeral.double? cs else none

/-- The number of a numeral. One with underscores has no blanks around it. -/
def number? (cs : List Char) : Option Double :=
  match plainNumber? (Numeral.trim cs) with
  | some x => some x
  | none =>
    match joined? cs with
    | some ds => if Numeral.trim ds = ds then plainNumber? ds else none
    | none => none

/-- The characters of a text that a number is read from. -/
def charsOf (t : Text) : Except Problem (List Char) :=
  match t.chars? with
  | some cs => .ok cs
  | none => .error .notUnicode

/-- The result of reading, or a problem. -/
def orProblem {α : Type} (p : Problem) : Option α → Except Problem α
  | some a => .ok a
  | none => .error p

/-- The characters of bytes that a number is read from. -/
def charsOfBytes (p : Problem) (data : Bytes) : Except Problem (List Char) :=
  match Utf8.decode data with
  | .ok s => .ok s.toList
  | .error _ => .error p

/-- Reads an integer. -/
def integer : Datum → Except Problem Int
  | .bool b => .ok (if b then 1 else 0)
  | .int n => .ok n
  | .float x =>
    match x.truncate? with
    | none => .error .notFinite
    | some n => if x.isInteger then .ok n else .error .fractionalInteger
  | .text t => do orProblem .unreadableInteger (integer? (← charsOf t))
  | .binary data => do
    orProblem .unreadableInteger (integer? (← charsOfBytes .unreadableInteger data))
  | _ => .error .notInteger

/-- Reads a number. -/
def number : Datum → Except Problem Double
  | .bool b => .ok (.ofInt (if b then 1 else 0))
  | .int n =>
    let x := Double.ofInt n
    if x.isFinite then .ok x else .error .notNumber
  | .float x => .ok x
  | .text t => do orProblem .unreadableNumber (number? (← charsOf t))
  | .binary data => do
    orProblem .unreadableNumber (number? (← charsOfBytes .unreadableNumber data))
  | _ => .error .notNumber

/-- Reads a text. -/
def text : Datum → Except Problem Text
  | .text t => .ok t
  | .binary data =>
    match Utf8.decode data with
    | .ok s => .ok (Text.ofString s)
    | .error _ => .error .notUnicode
  | _ => .error .notText

end FormatHost.Setting
