import FormatHost.Number.Double
import FormatHost.Text.Digit
/-!
# Numerals

Numbers written by people: blanks around them, a sign, digits of any script, and single underscores
between digits.
-/
namespace FormatHost.Numeral

/-- Blanks that may stand around a numeral: all but the separators of information. -/
def isMargin (c : Char) : Bool := Text.isBlank c && !(0x1C ≤ c.toNat && c.toNat ≤ 0x1F)

/-- The numeral without the blanks around it. -/
def trim (cs : List Char) : List Char :=
  ((cs.dropWhile isMargin).reverse.dropWhile isMargin).reverse

/-- Splits off a sign; `true` says negative. -/
def signed : List Char → Bool × List Char
  | '-' :: rest => (true, rest)
  | '+' :: rest => (false, rest)
  | cs => (false, cs)

/-- The digits at the front, each underscore between two digits left out, and what follows. -/
def digits : List Char → List Nat × List Char
  | [] => ([], [])
  | '_' :: c :: rest =>
    -- reached only behind a digit; an underscore must join two digits
    match Text.digitValue? c with
    | some d => let (ds, after) := digits rest; (d :: ds, after)
    | none => ([], '_' :: c :: rest)
  | c :: rest =>
    match Text.digitValue? c with
    | some d => let (ds, after) := digits rest; (d :: ds, after)
    | none => ([], c :: rest)

/-- The digits at the front, which do not open with an underscore. -/
def run : List Char → List Nat × List Char
  | '_' :: rest => ([], '_' :: rest)
  | cs => digits cs

/-- The value of decimal digits. -/
def value (ds : List Nat) : Nat := ds.foldl (fun n d => 10 * n + d) 0

/-- The longest numeral of an integer that is read. -/
def digitLimit : Nat := 4300

/-- Reads an integer. -/
def int? (s : List Char) : Option Int :=
  let (negative, cs) := signed (trim s)
  match run cs with
  | ([], _) => none
  | (ds, []) =>
    if digitLimit < ds.length then none
    else some (if negative then -(value ds : Int) else value ds)
  | (_, _ :: _) => none

/-- The value of a digit or of a letter that goes on counting from ten. -/
def letterValue? (c : Char) : Option Nat :=
  if 'a' ≤ c ∧ c ≤ 'z' then some (c.toNat - 87)
  else if 'A' ≤ c ∧ c ≤ 'Z' then some (c.toNat - 55)
  else Text.digitValue? c

/-- The letter that may name a base behind a zero. -/
def baseLetter? : Nat → Option Char
  | 2 => some 'b'
  | 8 => some 'o'
  | 16 => some 'x'
  | _ => none

/-- The digits behind a zero and the letter of the base, if these are there. -/
def dropBase (base : Nat) (cs : List Char) : List Char :=
  match cs with
  | '0' :: c :: rest => if baseLetter? base = some c.toLower then rest else cs
  | cs => cs

/-- Reads an integer in another base. -/
def inBase? (base : Nat) (s : List Char) : Option Int := do
  let (negative, cs) := signed (trim s)
  let ds ← (dropBase base cs).mapM letterValue?
  if ds.isEmpty || ds.any (base ≤ ·) then none
  else
    let n : Nat := ds.foldl (fun n d => base * n + d) 0
    return if negative then -n else n

/-- The letters of an ASCII word in lower case. -/
def asciiLower (cs : List Char) : List Char :=
  cs.map fun c => if 'A' ≤ c ∧ c ≤ 'Z' then Char.ofNat (c.toNat + 32) else c

/-- The exponent at the end of a number, if one is written. -/
def exponent? : List Char → Option Int
  | [] => some 0
  | c :: rest =>
    if c == 'e' || c == 'E' then
      let (negative, cs) := signed rest
      match run cs with
      | ([], _) => none
      | (ds, []) => some (if negative then -(value ds : Int) else value ds)
      | (_, _ :: _) => none
    else none

/-- Reads a number with or without fraction and exponent, or the name of one that is not finite. -/
def double? (s : List Char) : Option Double :=
  let (negative, cs) := signed (trim s)
  let word := asciiLower cs
  if word = "inf".toList ∨ word = "infinity".toList then some (Double.infinity negative)
  else if word = "nan".toList then some Double.nan
  else
    let (whole, rest) := run cs
    let (part, rest) := match rest with
      | '.' :: after => run after
      | _ => ([], rest)
    if whole.isEmpty && part.isEmpty then none
    else match exponent? rest with
      | none => none
      | some e => some (Double.ofDecimal negative (value (whole ++ part)) (e - part.length))

end FormatHost.Numeral
