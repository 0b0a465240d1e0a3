import FormatHost.Text.Symbol
import FormatHost.Yaml.Cursor
/-!
# Plain texts

A plain text has no quotes. It ends before a colon or a comment, at the closing signs of the flow
collection that it is in, or where a line is indented too little. Line ends inside it are folded.
-/
namespace FormatHost.Yaml

/-- The signs of flow collections. -/
def isFlowSign (c : Char) : Bool := c == ',' || c == '[' || c == ']' || c == '{' || c == '}'

/-- The number of characters at the front that belong to a plain text. -/
def plainLength (flow : Bool) : List Char → Nat
  | [] => 0
  | c :: rest =>
    if endsWord (some c) then 0
    else if c == ':' && (endsWord rest.head? || flow && rest.head?.any isFlowSign) then 0
    else if flow && (isFlowSign c || c == '?') then 0
    else plainLength flow rest + 1

/-- What stands between two parts of a text: the characters that it counts as, whether a line ended,
and the cursor behind it. -/
structure Gap where
  text : List Char
  crossed : Bool
  cursor : Cursor

/-- A line end as the first of several: a single line feed counts as a space, and one of several is
not counted. -/
def foldBreak (first : Char) (others : List Char) : List Char :=
  if first != '\n' then first :: others else if others.isEmpty then [' '] else others

/-- The line ends and spaces at the front. A document mark ends them and leaves nothing. The number
of characters bounds the steps. -/
def plainBreaks : Nat → Cursor → List Char → Option (List Char) × Cursor
  | 0, c, breaks => (some breaks, c)
  | steps + 1, c, breaks =>
    if c.peek == some ' ' then plainBreaks steps c.next breaks
    else match c.lineBreak? with
      | none => (some breaks, c)
      | some (b, c) =>
        if c.atDocumentMark then (none, c) else plainBreaks steps c (breaks ++ [b])

/-- What stands behind a part of a plain text. -/
def plainGap (c : Cursor) : Gap :=
  let (spaces, c) := c.takeWhile (· == ' ')
  match c.lineBreak? with
  | none => ⟨spaces, false, c⟩
  | some (b, c) =>
    if c.atDocumentMark then ⟨[], true, c⟩
    else match plainBreaks c.rest.length c [] with
      | (none, c) => ⟨[], true, c⟩
      | (some breaks, c) => ⟨foldBreak b breaks, true, c⟩

/-- A text, whether a line ended behind it, and the cursor behind it. -/
structure PlainText where
  text : List Char
  crossed : Bool
  cursor : Cursor

/-- Reads on in a plain text behind a gap. -/
def plainFrom (flow : Bool) (indent : Nat) : Nat → PlainText → List Char → PlainText
  | 0, sofar, _ => sofar
  | steps + 1, sofar, gap =>
    let n := plainLength flow sofar.cursor.rest
    if n = 0 then sofar
    else
      let text := sofar.text ++ gap ++ sofar.cursor.rest.take n
      let g := plainGap (sofar.cursor.advance n)
      let sofar : PlainText := ⟨text, g.crossed, g.cursor⟩
      if g.text.isEmpty || g.cursor.peek == some '#' || !flow && g.cursor.column < indent then sofar
      else plainFrom flow indent steps sofar g.text

/-- Reads a plain text whose lines are indented at least so far. -/
def readPlain (flow : Bool) (indent : Nat) (c : Cursor) : PlainText :=
  plainFrom flow indent (c.rest.length + 1) ⟨[], false, c⟩ []

end FormatHost.Yaml
