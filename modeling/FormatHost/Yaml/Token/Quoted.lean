import FormatHost.Text.Bytes
import FormatHost.Yaml.Fault
import FormatHost.Yaml.Token.Plain
/-!
# Quoted texts

A text in single quotes has one escape, the doubled quote. A text in double quotes has escapes of one
letter and escapes by number. Line ends are folded in both.
-/
namespace FormatHost.Yaml

/-- The character of an escape of one letter. -/
def shortEscape? (c : Char) : Option Char :=
  match c with
  | '0' => some '\x00'
  | 'a' => some '\x07'
  | 'b' => some '\x08'
  | 't' => some '\t'
  | '\t' => some '\t'
  | 'n' => some '\n'
  | 'v' => some '\x0b'
  | 'f' => some '\x0c'
  | 'r' => some '\r'
  | 'e' => some '\x1b'
  | ' ' => some ' '
  | '"' => some '"'
  | '\\' => some '\\'
  | '/' => some '/'
  | 'N' => some '\x85'
  | '_' => some '\xa0'
  | 'L' => some '\u2028'
  | 'P' => some '\u2029'
  | _ => none

/-- How many hexadecimal digits follow the letter of an escape by number. -/
def escapeDigits? (c : Char) : Option Nat :=
  match c with
  | 'x' => some 2
  | 'u' => some 4
  | 'U' => some 8
  | _ => none

/-- The line ends and blanks at the front of a line inside quotes. -/
def quotedBreaks : Nat → Cursor → List Char → Except Fault (List Char × Cursor)
  | 0, c, breaks => .ok (breaks, c)
  | steps + 1, c, breaks =>
    if c.atDocumentMark then .error .markInQuote
    else
      let c := c.dropWhile fun x => x == ' ' || x == '\t'
      match c.lineBreak? with
      | none => .ok (breaks, c)
      | some (b, c) => quotedBreaks steps c (breaks ++ [b])

/-- The line ends and blanks at the front. -/
def skipBreaks (c : Cursor) : Except Fault (List Char × Cursor) :=
  quotedBreaks (c.rest.length + 1) c []

/-- An escape by a number of so many digits. -/
def numberEscape (digits : Nat) (c : Cursor) : Except Fault (Symbol × Cursor) :=
  match (c.rest.take digits).mapM Bytes.hexValue? with
  | some ds =>
    if ds.length < digits then .error .badEscape
    else
      let n := ds.foldl (fun n d => 16 * n + d) 0
      match Symbol.ofCodePoint? n with
      | some s => .ok (s, c.advance digits)
      | none => .error (.noCodePoint n)
  | none => .error .badEscape

/-- An escape behind its backslash. An escaped line end leaves only the empty lines behind it. -/
def readEscape (c : Cursor) : Except Fault (Text × Cursor) :=
  match c.peek with
  | none => .error .badEscape
  | some x =>
    match shortEscape? x, escapeDigits? x with
    | some y, _ => .ok ([.char y], c.next)
    | none, some digits => do
      let (s, c) ← numberEscape digits c.next
      return ([s], c)
    | none, none =>
      match c.lineBreak? with
      | none => .error .badEscape
      | some (_, c) => do
        let (breaks, c) ← skipBreaks c
        return (Text.ofChars breaks, c)

/-- What blanks and line ends inside quotes count as. -/
def quotedGap (c : Cursor) : Except Fault (List Char × Cursor) := do
  let (spaces, c) := c.takeWhile fun x => x == ' ' || x == '\t'
  match c.lineBreak? with
  | none => return (spaces, c)
  | some (b, c) =>
    let (others, c) ← skipBreaks c
    return (foldBreak b others, c)

/-- Reads up to the closing quote. -/
def quotedFrom (double : Bool) : Nat → Cursor → Text → Except Fault (Text × Cursor)
  | 0, _, _ => .error .unclosed
  | steps + 1, c, sofar =>
    match c.rest with
    | [] => .error .unclosed
    | x :: rest =>
      if !double && x == '\'' then
        if rest.head? == some '\'' then quotedFrom double steps (c.advance 2) (sofar ++ [.char x])
        else .ok (sofar, c.next)
      else if double && x == '"' then .ok (sofar, c.next)
      else if double && x == '\\' then
        match readEscape c.next with
        | .error f => .error f
        | .ok (part, c) => quotedFrom double steps c (sofar ++ part)
      else if endsWord (some x) then
        match quotedGap c with
        | .error f => .error f
        | .ok (part, c) => quotedFrom double steps c (sofar ++ Text.ofChars part)
      else quotedFrom double steps c.next (sofar ++ [.char x])

/-- Reads a quoted text from its opening quote. -/
def readQuoted (double : Bool) (c : Cursor) : Except Fault (Text × Cursor) :=
  quotedFrom double (c.rest.length + 1) c.next []

end FormatHost.Yaml
