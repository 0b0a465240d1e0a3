import FormatHost.Config.Datum
import FormatHost.Number.Numeral
/-!
# JSON texts

Reading JSON, with numbers that are not finite admitted by name. A number without fraction and
exponent is an integer. Of members with one key the last value counts, at the place of the first.
The dialects differ in whether a surrogate may stand alone and in how deep values may nest.
-/
namespace FormatHost.Json

/-- Values that hold others. -/
inductive Container where
  | array
  | object
  deriving DecidableEq, Repr

/-- What a reader tolerates. -/
structure Dialect where
  /-- An escaped surrogate may stand alone. -/
  lone : Bool
  /-- How many containers may stand inside each other. A reader that lets surrogates stand alone counts
  them all and breaks off at the next one; the other counts those with content and refuses the text. -/
  depth : Option Nat

/-- Surrogates pass and nesting is free. -/
def Dialect.lenient : Dialect := ⟨true, none⟩

/-- Surrogates pass, and there is room for so many containers inside the outermost one. -/
def Dialect.roomy (room : Nat) : Dialect := ⟨true, some (room + 1)⟩

/-- No lone surrogate, and at most two hundred levels. -/
def Dialect.strict : Dialect := ⟨false, some 200⟩

/-- Why a text is refused. -/
inductive Failure where
  | malformed
  | integerTooLong
  /-- There is no room for a container. -/
  | tooDeep (container : Container)
  deriving DecidableEq, Repr

/-- The result of reading a part: the value and the text behind it. -/
abbrev Read (α : Type) := Except Failure (α × Text)

/-- Blanks between the parts of a JSON text. -/
def isSpace : Symbol → Bool
  | .char c => c == ' ' || c == '\t' || c == '\n' || c == '\r'
  | .surrogate _ => false

/-- The text behind the blanks at its front. -/
def skip (s : Text) : Text := s.dropWhile isSpace

/-! ### Strings -/

/-- A part of a string: a symbol that stands for itself, or the unit of an escape. -/
inductive Piece where
  | raw (s : Symbol)
  | unit (n : Nat)
  deriving DecidableEq, Repr

/-- The value of a hexadecimal digit. -/
def hexValue? : Symbol → Option Nat
  | .char c => Bytes.hexValue? c
  | .surrogate _ => none

/-- The value of four hexadecimal digits. -/
def hex4? (a b c d : Symbol) : Option Nat := do
  let a ← hexValue? a
  let b ← hexValue? b
  let c ← hexValue? c
  let d ← hexValue? d
  return 0x1000 * a + 0x100 * b + 0x10 * c + d

/-- The character of an escape of one letter. -/
def shortEscape? : Symbol → Option Char
  | .char '"' => some '"'
  | .char '\\' => some '\\'
  | .char '/' => some '/'
  | .char 'b' => some '\x08'
  | .char 'f' => some '\x0c'
  | .char 'n' => some '\n'
  | .char 'r' => some '\r'
  | .char 't' => some '\t'
  | _ => none

/-- A symbol that may stand for itself inside quotes. -/
def isPlain : Symbol → Bool
  | .char c => 0x20 ≤ c.toNat
  | .surrogate _ => true

/-- Reads the pieces of a string up to the closing quote. -/
def pieces : Text → Read (List Piece)
  | [] => .error .malformed
  | .char '"' :: rest => .ok ([], rest)
  | .char '\\' :: rest =>
    match rest with
    | .char 'u' :: a :: b :: c :: d :: rest =>
      match hex4? a b c d with
      | none => .error .malformed
      | some n =>
        match pieces rest with
        | .error e => .error e
        | .ok (ps, rest) => .ok (.unit n :: ps, rest)
    | s :: rest =>
      match shortEscape? s with
      | none => .error .malformed
      | some c =>
        match pieces rest with
        | .error e => .error e
        | .ok (ps, rest) => .ok (.raw (.char c) :: ps, rest)
    | [] => .error .malformed
  | s :: rest =>
    if isPlain s then
      match pieces rest with
      | .error e => .error e
      | .ok (ps, rest) => .ok (.raw s :: ps, rest)
    else .error .malformed

/-- A unit that opens a pair. -/
def isHighUnit (n : Nat) : Bool := 0xD800 ≤ n && n < 0xDC00

/-- A unit that closes a pair. -/
def isLowUnit (n : Nat) : Bool := 0xDC00 ≤ n && n < 0xE000

/-- The symbol of a single unit; a surrogate needs leave to stand alone. -/
def single (lone : Bool) (n : Nat) : Except Failure Symbol :=
  match Symbol.ofCodePoint? n with
  | some (.char c) => .ok (.char c)
  | some s => if lone then .ok s else .error .malformed
  | none => .error .malformed

/-- Joins the pieces of a string. Two neighbouring units that form a pair are one character. -/
def joined (lone : Bool) : List Piece → Except Failure Text
  | [] => .ok []
  | .raw s :: rest => (joined lone rest).map (s :: ·)
  | [.unit n] => (single lone n).map ([·])
  | .unit n :: .raw s :: rest => do
    let first ← single lone n
    let others ← joined lone rest
    return first :: s :: others
  | .unit high :: .unit low :: rest =>
    if isHighUnit high && isLowUnit low then do
      let first ← single lone (0x10000 + (high - 0xD800) * 0x400 + (low - 0xDC00))
      let others ← joined lone rest
      return first :: others
    else do
      let first ← single lone high
      let others ← joined lone (.unit low :: rest)
      return first :: others

/-- Reads a string behind its opening quote. -/
def string (lone : Bool) (s : Text) : Read Text :=
  match pieces s with
  | .error e => .error e
  | .ok (ps, rest) => (joined lone ps).map (·, rest)

/-! ### Numbers -/

/-- The value of an ASCII digit. -/
def digit? : Symbol → Option Nat
  | .char c => if '0' ≤ c ∧ c ≤ '9' then some (c.toNat - 48) else none
  | .surrogate _ => none

/-- The digits at the front of a text. -/
def digits : Text → List Nat × Text
  | [] => ([], [])
  | s :: rest =>
    match digit? s with
    | some d => let (ds, after) := digits rest; (d :: ds, after)
    | none => ([], s :: rest)

/-- The fraction at the front of a text, if it is one. -/
def fraction? : Text → Option (List Nat × Text)
  | .char '.' :: rest =>
    match digits rest with
    | ([], _) => none
    | (ds, after) => some (ds, after)
  | _ => none

/-- The exponent at the front of a text, if it is one. -/
def exponent? : Text → Option (Int × Text)
  | .char c :: rest =>
    if c == 'e' || c == 'E' then
      let (negative, rest) := match rest with
        | .char '-' :: rest => (true, rest)
        | .char '+' :: rest => (false, rest)
        | rest => (false, rest)
      match digits rest with
      | ([], _) => none
      | (ds, after) =>
        let n : Int := Numeral.value ds
        some (if negative then -n else n, after)
    else none
  | _ => none

/-- Reads the number whose integer part has these digits. -/
def numberFrom (negative : Bool) (whole : List Nat) (rest : Text) : Read Datum :=
  match fraction? rest, exponent? rest with
  | none, none =>
    if Numeral.digitLimit < whole.length then .error .integerTooLong
    else
      let n : Int := Numeral.value whole
      .ok (.int (if negative then -n else n), rest)
  | some (part, rest), _ =>
    let (e, rest) := (exponent? rest).getD (0, rest)
    .ok (.float (Double.ofDecimal negative (Numeral.value (whole ++ part)) (e - part.length)), rest)
  | none, some (e, rest) =>
    .ok (.float (Double.ofDecimal negative (Numeral.value whole) e), rest)

/-- Reads a number behind its sign. No digit follows a leading zero. -/
def number (negative : Bool) (s : Text) : Read Datum :=
  match digits s with
  | ([], _) => .error .malformed
  | ([d], rest) => numberFrom negative [d] rest
  | (0 :: _, _) => .error .malformed
  | (whole, rest) => numberFrom negative whole rest

/-- The text behind a word at its front. -/
def word? : List Char → Text → Option Text
  | [], s => some s
  | c :: cs, .char d :: rest => if c == d then word? cs rest else none
  | _ :: _, _ => none

/-- The words that are values. -/
def words : List (String × Datum) := [
  ("null", .null), ("true", .bool true), ("false", .bool false), ("NaN", .float .nan),
  ("Infinity", .float (.infinity false)), ("-Infinity", .float (.infinity true))]

/-- Reads a word or a number. -/
def atom (s : Text) : Read Datum :=
  match words.findSome? fun (w, d) => (word? w.toList s).map (d, ·) with
  | some found => .ok found
  | none =>
    match s with
    | .char '-' :: rest => number true rest
    | _ => number false s

/-! ### Values -/

mutual

/-- Reads a value. `fuel` bounds the calls, `depth` the nesting. -/
def value (lone : Bool) : Nat → Nat → Text → Read Datum
  | 0, _, _ => .error .malformed
  | fuel + 1, depth, s =>
    match s with
    | .char '"' :: rest => (string lone rest).map fun (t, rest) => (.text t, rest)
    | .char '[' :: rest =>
      match depth with
      | 0 =>
        if lone then .error (.tooDeep .array)
        else match skip rest with
          | .char ']' :: rest => .ok (.list [], rest)
          | _ => .error .malformed
      | depth + 1 =>
        match skip rest with
        | .char ']' :: rest => .ok (.list [], rest)
        | rest => (items lone fuel depth rest).map fun (ds, rest) => (.list ds, rest)
    | .char '{' :: rest =>
      match depth with
      | 0 =>
        if lone then .error (.tooDeep .object)
        else match skip rest with
          | .char '}' :: rest => .ok (.map [], rest)
          | _ => .error .malformed
      | depth + 1 =>
        match skip rest with
        | .char '}' :: rest => .ok (.map [], rest)
        | rest => (members lone fuel depth rest).map fun (entries, rest) =>
            (.map (entries.foldl (fun m (k, d) => Datum.insert m (.text k) d) []), rest)
    | s => atom s

/-- Reads the items of a list up to its closing bracket. -/
def items (lone : Bool) : Nat → Nat → Text → Except Failure (List Datum × Text)
  | 0, _, _ => .error .malformed
  | fuel + 1, depth, s => do
    let (d, rest) ← value lone fuel depth s
    match skip rest with
    | .char ']' :: rest => return ([d], rest)
    | .char ',' :: rest => do
      let (ds, rest) ← items lone fuel depth (skip rest)
      return (d :: ds, rest)
    | _ => .error .malformed

/-- Reads the members of a map up to its closing brace. -/
def members (lone : Bool) : Nat → Nat → Text → Except Failure (List (Text × Datum) × Text)
  | 0, _, _ => .error .malformed
  | fuel + 1, depth, s =>
    match s with
    | .char '"' :: rest => do
      let (key, rest) ← string lone rest
      match skip rest with
      | .char ':' :: rest => do
        let (d, rest) ← value lone fuel depth (skip rest)
        match skip rest with
        | .char '}' :: rest => return ([(key, d)], rest)
        | .char ',' :: rest => do
          let (entries, rest) ← members lone fuel depth (skip rest)
          return ((key, d) :: entries, rest)
        | _ => .error .malformed
      | _ => .error .malformed
    | _ => .error .malformed

end

/-- Reads a whole text. -/
def parse (dialect : Dialect) (s : Text) : Except Failure Datum := do
  let (d, rest) ← value dialect.lone (2 * s.length + 2) (dialect.depth.getD s.length) (skip s)
  match skip rest with
  | [] => return d
  | _ :: _ => .error .malformed

end FormatHost.Json
