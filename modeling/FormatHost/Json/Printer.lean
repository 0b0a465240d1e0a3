import FormatHost.Config.Map
import FormatHost.Fault
/-!
# Configuration texts

The written form of a configuration: JSON without blanks, in printable ASCII. Any other character is
written as an escape, one above `0xFFFF` as a pair of them.
-/
namespace FormatHost.Json

/-- Four hexadecimal digits. -/
def hex4 (n : Nat) : List Char :=
  [Bytes.hexDigit (n / 0x1000 % 16), Bytes.hexDigit (n / 0x100 % 16),
    Bytes.hexDigit (n / 0x10 % 16), Bytes.hexDigit (n % 16)]

/-- The escape of a unit of sixteen bits. -/
def unitEscape (n : Nat) : List Char := '\\' :: 'u' :: hex4 n

/-- The written form of one symbol inside quotes. -/
def escape : Symbol → List Char
  | .surrogate offset => unitEscape (0xD800 + offset.val)
  | .char c =>
    if c == '"' then ['\\', '"']
    else if c == '\\' then ['\\', '\\']
    else if c == '\n' then ['\\', 'n']
    else if c == '\r' then ['\\', 'r']
    else if c == '\t' then ['\\', 't']
    else if c == '\x08' then ['\\', 'b']
    else if c == '\x0c' then ['\\', 'f']
    else if c.toNat < 0x20 then unitEscape c.toNat
    else if c.toNat < 0x7F then [c]
    else if c.toNat < 0x10000 then unitEscape c.toNat
    else
      let n := c.toNat - 0x10000
      unitEscape (0xD800 + n / 0x400) ++ unitEscape (0xDC00 + n % 0x400)

/-- A text in quotes. -/
def quoted (t : Text) : List Char := '"' :: t.flatMap escape ++ ['"']

/-- A number, or the name of one that is not finite. -/
def floatText (x : Double) : String :=
  if x.isNaN then "NaN"
  else if !x.isFinite then if x.isNegative then "-Infinity" else "Infinity"
  else x.text

/-- The digits of an integer; there is a longest integer that is written. -/
def intText (n : Int) : Except Fault (List Char) :=
  let digits := (toString n).toList
  if 4300 < (toString n.natAbs).length then .error .integerTooLong else .ok digits

/-- A key is written as a text, whatever it is. -/
def keyText : Datum → Except Fault (List Char)
  | .text t => .ok (quoted t)
  | .null => .ok (quoted (Text.ofString "null"))
  | .bool b => .ok (quoted (Text.ofString (if b then "true" else "false")))
  | .int n => (intText n).map fun cs => quoted (Text.ofChars cs)
  | .float x => .ok (quoted (Text.ofString (floatText x)))
  | other => .error (.keyNotSerializable other.kind)

mutual

/-- The written form of a value. -/
def printValue : Datum → Except Fault (List Char)
  | .null => .ok "null".toList
  | .bool b => .ok (if b then "true".toList else "false".toList)
  | .int n => intText n
  | .float x => .ok (floatText x).toList
  | .text t => .ok (quoted t)
  | .list items => do
    let body ← printItems items
    return '[' :: body ++ [']']
  | .map entries => do
    let body ← printEntries entries
    return '{' :: body ++ ['}']
  | .pair key value => do
    let first ← printValue key
    let second ← printValue value
    return '[' :: first ++ ',' :: second ++ [']']
  | .binary _ => .error (.notSerializable "bytes")
  | .moment m => .error (.notSerializable (Datum.moment m).kind)
  | .set _ => .error (.notSerializable "set")

/-- Items with commas between them. -/
def printItems : List Datum → Except Fault (List Char)
  | [] => .ok []
  | [d] => printValue d
  | d :: rest => do
    let first ← printValue d
    let others ← printItems rest
    return first ++ ',' :: others

/-- Entries with commas between them. -/
def printEntries : List (Datum × Datum) → Except Fault (List Char)
  | [] => .ok []
  | [(key, value)] => do
    let k ← keyText key
    let v ← printValue value
    return k ++ ':' :: v
  | (key, value) :: rest => do
    let k ← keyText key
    let v ← printValue value
    let others ← printEntries rest
    return k ++ ':' :: v ++ ',' :: others

end

/-- The configuration text of a value; a blank one stands for the empty map. -/
def configText (d : Datum) : Except Fault (List Char) :=
  printValue (d.orElse (.map []))

end FormatHost.Json
