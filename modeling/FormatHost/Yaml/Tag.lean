import FormatHost.Text.Lines
import FormatHost.Yaml.Moment
/-!
# Tags

What kind of value a node stands for. A plain text has the tag that its spelling shows.
-/
namespace FormatHost.Yaml

/-- The kinds of values. -/
inductive Tag where
  | null
  | bool
  | int
  | float
  | bytes
  | moment
  | orderedMap
  | pairs
  | set
  | text
  | list
  | map
  /-- The key under which mappings are merged. -/
  | merge
  /-- The key of the value that stands for a whole mapping. -/
  | standIn
  | other (name : String)
  deriving DecidableEq, Repr

namespace Tag

/-- The start of the names of the tags that have a meaning. -/
def known : String := "tag:yaml.org,2002:"

/-- The tags that have a meaning. -/
def byName : List (String × Tag) := [
  ("null", null), ("bool", bool), ("int", int), ("float", float), ("binary", bytes),
  ("timestamp", moment), ("omap", orderedMap), ("pairs", pairs), ("set", set), ("str", text),
  ("seq", list), ("map", map), ("merge", merge), ("value", standIn)]

/-- The tag of a name. -/
def ofName (name : String) : Tag :=
  match byName.find? fun e => known ++ e.1 == name with
  | some (_, tag) => tag
  | none => other name

/-- Values with this tag are containers. -/
def isContainer : Tag → Bool
  | orderedMap | pairs | set | list | map => true
  | _ => false

/-! ### Spellings -/

/-- The text behind a sign. -/
def dropSign : List Char → List Char
  | '+' :: rest => rest
  | '-' :: rest => rest
  | cs => cs

/-- A digit or an underscore. -/
def isFiller (c : Char) : Bool := isAsciiDigit c || c == '_'

/-- A number below sixty of one or two digits. -/
def isSixtieth : List Char → Bool
  | [a] => isAsciiDigit a
  | [a, b] => '0' ≤ a && a ≤ '5' && isAsciiDigit b
  | _ => false

/-- Digits and underscores that start with a digit. -/
def isDigits : List Char → Bool
  | c :: rest => isAsciiDigit c && rest.all isFiller
  | [] => false

/-- The spelling of an integer: binary, octal, hexadecimal, decimal or in sixtieths. -/
def spellsInt (cs : List Char) : Bool :=
  match dropSign cs with
  | '0' :: 'b' :: ds => !ds.isEmpty && ds.all fun c => c == '0' || c == '1' || c == '_'
  | '0' :: 'x' :: ds => !ds.isEmpty && ds.all fun c => (Bytes.hexValue? c).isSome || c == '_'
  | '0' :: ds => ds.all fun c => ('0' ≤ c && c ≤ '7') || c == '_'
  | cs =>
    match Text.splitAt (· == ':') cs with
    | whole :: parts => isDigits whole && parts.all isSixtieth
    | [] => false

/-- The spelling of an exponent: a sign is needed. -/
def spellsExponent : List Char → Bool
  | [] => true
  | e :: sign :: ds =>
    (e == 'e' || e == 'E') && (sign == '+' || sign == '-') && !ds.isEmpty && ds.all isAsciiDigit
  | _ => false

/-- The spelling of the end of a number from its point on. -/
def spellsFraction : List Char → Bool
  | '.' :: rest => spellsExponent (rest.dropWhile isFiller)
  | _ => false

/-- The spelling of a number in sixtieths with a point. -/
def spellsSixtieths (cs : List Char) : Bool :=
  match Text.splitAt (· == ':') (cs.takeWhile (· != '.')) with
  | whole :: part :: parts =>
    isDigits whole && (part :: parts).all isSixtieth &&
      (match cs.dropWhile (· != '.') with
        | '.' :: rest => rest.all isFiller
        | _ => false)
  | _ => false

/-- The spelling of a number that is no integer. It has a point. -/
def spellsFloat (cs : List Char) : Bool :=
  let body := dropSign cs
  [".inf", ".Inf", ".INF"].any (·.toList == body) || [".nan", ".NaN", ".NAN"].any (·.toList == cs) ||
    (body.head?.any isAsciiDigit && spellsFraction (body.dropWhile isFiller)) ||
    spellsSixtieths body ||
    (match cs with
      | '.' :: d :: _ => isAsciiDigit d && spellsFraction cs
      | _ => false)

/-- The spellings of nothing. -/
def nullWords : List String := ["", "~", "null", "Null", "NULL"]

/-- The spellings of true and false. -/
def boolWords : List String := [
  "yes", "Yes", "YES", "no", "No", "NO", "true", "True", "TRUE", "false", "False", "FALSE",
  "on", "On", "ON", "off", "Off", "OFF"]

/-- Marks that have no meaning as texts. -/
def markWords : List String := ["!", "&", "*"]

/-- The tag of a text that is spelled like a plain one. -/
def ofPlain (cs : List Char) : Tag :=
  let word := String.ofList cs
  if boolWords.contains word then bool
  else if spellsFloat cs then float
  else if spellsInt cs then int
  else if word = "<<" then merge
  else if nullWords.contains word then null
  else if isWrittenMoment cs then moment
  else if word = "=" then standIn
  else if markWords.contains word then other (known ++ "yaml")
  else text

/-- The tag that the spelling of a text shows. A line feed at the end does not count, unless it is
all. -/
def ofSpelling (t : Text) : Tag :=
  match t.chars? with
  | none => text
  | some ['\n'] => text
  | some cs => ofPlain (if cs.getLast? = some '\n' then cs.dropLast else cs)

end Tag

end FormatHost.Yaml
