import FormatHost.Config.Display
import FormatHost.Number.Rounded
/-!
# Message templates

A message may have places for values, each opened by a percent sign: an optional name, flags, a
width, a precision, and a letter that says how the value is shown. A message whose values do not
fit its places is no message.
-/
namespace FormatHost.Template

/-- The values for a template: in order, or by name. -/
inductive Values where
  | ordered (values : List Datum)
  | named (entries : List (Datum × Datum))

/-- How a value is laid out. -/
structure Layout where
  left : Bool
  zeros : Bool
  plus : Bool
  blank : Bool
  alternate : Bool
  width : Nat
  precision : Option Nat

/-- Nothing special. -/
def Layout.plain : Layout := ⟨false, false, false, false, false, 0, none⟩

/-- Sets a flag. -/
def Layout.flag? (l : Layout) (c : Char) : Option Layout :=
  match c with
  | '-' => some { l with left := true }
  | '0' => some { l with zeros := true }
  | '+' => some { l with plus := true }
  | ' ' => some { l with blank := true }
  | '#' => some { l with alternate := true }
  | _ => none

/-- The flags at the front. -/
def flags (l : Layout) : List Char → Layout × List Char
  | [] => (l, [])
  | c :: rest =>
    match l.flag? c with
    | some l => flags l rest
    | none => (l, c :: rest)

/-- The number at the front; no digit counts as zero. -/
def number : Nat → List Char → Nat × List Char
  | n, [] => (n, [])
  | n, c :: rest =>
    if '0' ≤ c ∧ c ≤ '9' then number (10 * n + (c.toNat - 48)) rest else (n, c :: rest)

/-- Fills a text up to the width with blanks. -/
def Layout.pad (l : Layout) (cs : List Char) : List Char :=
  let blanks := List.replicate (l.width - cs.length) ' '
  if l.left then cs ++ blanks else blanks ++ cs

/-- Lays out a text. -/
def Layout.text (l : Layout) (cs : List Char) : List Char :=
  l.pad (match l.precision with | some n => cs.take n | none => cs)

/-- Lays out the digits of a number; zeros go behind the sign and the mark. -/
def Layout.signed (l : Layout) (negative : Bool) (mark digits : List Char) : List Char :=
  let sign := if negative then ['-'] else if l.plus then ['+'] else if l.blank then [' '] else []
  let head := sign ++ mark
  if l.zeros && !l.left then
    head ++ List.replicate (l.width - head.length - digits.length) '0' ++ digits
  else l.pad (head ++ digits)

/-- Lays out an integer in a base. -/
def Layout.integer (l : Layout) (base : Nat) (mark : List Char) (n : Int) : List Char :=
  let digits := Nat.toDigits base n.natAbs
  let least := l.precision.getD 0
  l.signed (n < 0) (if l.alternate then mark else [])
    (List.replicate (least - digits.length) '0' ++ digits)

/-- An integer, or the integer part of a number. -/
def wholeOf? : Datum → Option Int
  | .int n => some n
  | .bool b => some (if b then 1 else 0)
  | .float x => x.truncate?
  | _ => none

/-- An integer. -/
def integerOf? : Datum → Option Int
  | .int n => some n
  | .bool b => some (if b then 1 else 0)
  | _ => none

/-- A number. -/
def doubleOf? : Datum → Option Double
  | .int n => let x := Double.ofInt n; if x.isFinite then some x else none
  | .bool b => some (.ofInt (if b then 1 else 0))
  | .float x => some x
  | _ => none

/-- Letters in upper case. -/
def upper (cs : List Char) : List Char := cs.map Char.toUpper

/-- The magnitude of a number, written as one of the letters `e`, `f` and `g` says. -/
def Layout.magnitude (l : Layout) (letter : Char) (x : Double) : List Char :=
  let digits := l.precision.getD 6
  let x : Double := ⟨x.bits % 0x8000000000000000⟩
  if !x.isFinite then x.text.toList
  else match letter with
    | 'e' => x.scientific digits l.alternate
    | 'g' => x.general digits l.alternate
    | _ => (x.fixed digits).toList ++ if l.alternate && digits = 0 then ['.'] else []

/-- Lays out a number. -/
def Layout.double (l : Layout) (letter : Char) (x : Double) : List Char :=
  l.signed (x.isNegative && !x.isNaN) [] (l.magnitude letter x)

/-- Shows a value as its letter says, if it can. -/
def conversion? (l : Layout) (letter : Char) (d : Datum) : Option (List Char) :=
  match letter with
  | 's' => some (l.text d.display.toList)
  | 'r' => some (l.text d.displayInner.toList)
  | 'a' => some (l.text (d.displayInner.toList.flatMap Text.asciiChar))
  | 'd' | 'i' | 'u' => (wholeOf? d).map (l.integer 10 [])
  | 'o' => (integerOf? d).map (l.integer 8 ['0', 'o'])
  | 'x' => (integerOf? d).map (l.integer 16 ['0', 'x'])
  | 'X' => (integerOf? d).map fun n => upper (l.integer 16 ['0', 'x'] n)
  | 'e' | 'f' | 'g' => (doubleOf? d).map (l.double letter)
  | 'E' | 'F' | 'G' => (doubleOf? d).map fun x => upper (l.double letter.toLower x)
  | 'c' =>
    match d with
    | .text [.char c] => some (l.pad [c])
    | .int n => if 0 ≤ n ∧ n < 0x110000 then some (l.pad [Char.ofNat n.toNat]) else none
    | .bool b => some (l.pad [if b then '\x01' else '\x00'])
    | _ => none
  | _ => none

/-- A width or a precision: written down, or the next value. -/
inductive Amount where
  | written (n : Nat)
  | next

/-- A place of a template: its name, its flags, its width, its precision and its letter. -/
structure Place where
  name : Option (List Char)
  flags : Layout
  width : Amount
  precision : Option Amount
  letter : Char

/-- The name in front of a place, if there is one. -/
def placeName : List Char → Option (Option (List Char) × List Char)
  | '(' :: rest =>
    match rest.dropWhile (· != ')') with
    | ')' :: after => some (some (rest.takeWhile (· != ')')), after)
    | _ => none
  | cs => some (none, cs)

/-- The width or precision at the front. -/
def amount : List Char → Amount × List Char
  | '*' :: rest => (.next, rest)
  | cs => let (n, rest) := number 0 cs; (.written n, rest)

/-- Reads a place behind its percent sign. -/
def place? (cs : List Char) : Option (Place × List Char) := do
  let (name, cs) ← placeName cs
  let (flags, cs) := flags .plain cs
  let (width, cs) := amount cs
  let (precision, cs) := match cs with
    | '.' :: rest => let (n, rest) := amount rest; (some n, rest)
    | cs => (none, cs)
  let cs := match cs with
    | 'h' :: rest | 'l' :: rest | 'L' :: rest => rest
    | cs => cs
  match cs with
  | [] => none
  | letter :: rest => some (⟨name, flags, width, precision, letter⟩, rest)

/-- The value for a place, and the values that are left. -/
def takeValue (name : Option (List Char)) : Values → Option (Datum × Values)
  | .ordered [] => none
  | .ordered (d :: rest) => if name.isSome then none else some (d, .ordered rest)
  | .named entries =>
    match name with
    | none => some (.map entries, .named entries)
    | some key =>
      (Datum.find? entries (.text (Text.ofChars key))).map (·, .named entries)

/-- The greatest width or precision. -/
def maxAmount : Nat := 0x7FFFFFFF

/-- The number that an amount stands for, and the values that are left. -/
def Amount.settle (values : Values) (a : Amount) : Option (Int × Values) := do
  let (n, values) ← match a with
    | written n => some ((n : Int), values)
    | next => do
      let (d, values) ← takeValue none values
      return (← integerOf? d, values)
  if n.natAbs ≤ maxAmount then some (n, values) else none

/-- The layout of a place, and the values that are left. A negative width puts the blanks behind. -/
def Place.settle (p : Place) (values : Values) : Option (Layout × Values) := do
  let (width, values) ← p.width.settle values
  let l := { p.flags with width := width.natAbs, left := p.flags.left || width < 0 }
  match p.precision with
  | none => return (l, values)
  | some amount => do
    let (n, values) ← amount.settle values
    return ({ l with precision := some n.toNat }, values)

/-- Fills the places of a template. The number of characters bounds the steps. -/
def fillFrom : Nat → List Char → Values → Option (List Char)
  | _, [], .ordered [] => some []
  | _, [], .ordered (_ :: _) => none
  | _, [], .named _ => some []
  | 0, _ :: _, _ => none
  | steps + 1, '%' :: '%' :: rest, values => do
    let others ← fillFrom steps rest values
    return '%' :: others
  | steps + 1, '%' :: rest, values => do
    let (p, rest) ← place? rest
    let (layout, values) ← p.settle values
    let (d, values) ← takeValue p.name values
    let shown ← conversion? layout p.letter d
    let others ← fillFrom steps rest values
    return shown ++ others
  | steps + 1, c :: rest, values => do
    let others ← fillFrom steps rest values
    return c :: others

/-- The message of a template and its values. Without values a template is its own message; a single
map gives its entries by name. -/
def fill (template : String) (values : List Datum) : Option String :=
  match values with
  | [] => some template
  | [.map (e :: es)] =>
    (fillFrom template.length template.toList (.named (e :: es))).map String.ofList
  | values => (fillFrom template.length template.toList (.ordered values)).map String.ofList

end FormatHost.Template
