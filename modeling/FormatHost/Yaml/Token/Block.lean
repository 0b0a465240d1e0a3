import FormatHost.Yaml.Cursor
import FormatHost.Yaml.Fault
/-!
# Block texts

A block text is the indented lines behind a header line. The header says how the end is chomped and
may give the indentation. A literal block keeps its line ends; a folded one joins lines.
-/
namespace FormatHost.Yaml

/-- What becomes of the line ends at the end of a block text. -/
inductive Chomping where
  | strip
  | clip
  | keep
  deriving DecidableEq, Repr

/-- The sign of a chomping. -/
def chomping? : Option Char → Option Chomping
  | some '+' => some .keep
  | some '-' => some .strip
  | _ => none

/-- The indentation that a digit gives. -/
def increment? : Option Char → Option Nat
  | some c => if '0' ≤ c ∧ c ≤ '9' then some (c.toNat - 48) else none
  | none => none

/-- Reads the header behind its sign: the chomping, the indentation and the cursor. -/
def blockHeader (c : Cursor) : Chomping × Option Nat × Cursor :=
  match chomping? c.peek with
  | some chomp =>
    let c := c.next
    match increment? c.peek with
    | some n => (chomp, some n, c.next)
    | none => (chomp, none, c)
  | none =>
    match increment? c.peek with
    | some n =>
      let c := c.next
      match chomping? c.peek with
      | some chomp => (chomp, some n, c.next)
      | none => (.clip, some n, c)
    | none => (.clip, none, c)

/-- Behind a line that holds nothing more than spaces and a comment. -/
def endLine (c : Cursor) (f : Fault) : Except Fault Cursor :=
  let c := c.skipSpaces.skipComment
  if endsLine c.peek then .ok c.skipBreak else .error f

/-- The empty lines at the front, the widest indentation among them and the first text line, and the
cursor behind them. -/
def leadingLines : Nat → Cursor → List Char → Nat → List Char × Nat × Cursor
  | 0, c, breaks, widest => (breaks, widest, c)
  | steps + 1, c, breaks, widest =>
    if c.peek == some ' ' then
      let c := c.next
      leadingLines steps c breaks (max widest c.column)
    else match c.lineBreak? with
      | some (b, c) => leadingLines steps c (breaks ++ [b]) widest
      | none => (breaks, widest, c)

/-- Behind the spaces up to a column. -/
def indentTo (column : Nat) : Nat → Cursor → Cursor
  | 0, c => c
  | steps + 1, c =>
    if c.column < column && c.peek == some ' ' then indentTo column steps c.next else c

/-- The empty lines at the front of a block with a known indentation. -/
def emptyLines (column : Nat) : Nat → Cursor → List Char → List Char × Cursor
  | 0, c, breaks => (breaks, c)
  | steps + 1, c, breaks =>
    let c := indentTo column column c
    match c.lineBreak? with
    | some (b, c) => emptyLines column steps c (breaks ++ [b])
    | none => (breaks, c)

/-- A line opens with a blank. -/
def opensBlank (c : Cursor) : Bool := c.peek == some ' ' || c.peek == some '\t'

/-- What the lines of a block add up to: the text, the line end behind it, the empty lines behind that
and the cursor. -/
structure BlockLines where
  text : List Char
  lineEnd : List Char
  breaks : List Char
  cursor : Cursor

/-- The line end between two lines of a block. -/
def joinLines (folded blank : Bool) (lineEnd breaks : List Char) : List Char :=
  if folded && lineEnd == ['\n'] && !blank then if breaks.isEmpty then [' '] else [] else lineEnd

/-- Reads the lines of a block. -/
def blockLines (folded : Bool) (column : Nat) : Nat → BlockLines → BlockLines
  | 0, b => b
  | steps + 1, b =>
    if b.cursor.column = column ∧ b.cursor.peek ≠ none then
      let blank := opensBlank b.cursor
      let (line, c) := b.cursor.takeWhile fun x => !isBreak x
      let (lineEnd, c) := match c.lineBreak? with
        | some (x, c) => ([x], c)
        | none => ([], c)
      let (breaks, c) := emptyLines column (c.rest.length + 1) c []
      let text := b.text ++ b.breaks ++ line
      if c.column = column ∧ c.peek ≠ none then
        let between := joinLines folded (blank || opensBlank c) lineEnd breaks
        blockLines folded column steps ⟨text ++ between, lineEnd, breaks, c⟩
      else ⟨text, lineEnd, breaks, c⟩
    else b

/-- Reads a block text from its sign; `indent` is the least indentation. -/
def readBlock (folded : Bool) (indent : Nat) (c : Cursor) : Except Fault (List Char × Cursor) := do
  let (chomp, increment, c) := blockHeader c.next
  if increment = some 0 ∨ endsField c.peek = false then throw .badHeader
  let c ← endLine c .badHeader
  let least := max indent 1
  let steps := c.rest.length + 1
  let (column, breaks, c) := match increment with
    | none =>
      let (breaks, widest, c) := leadingLines steps c [] 0
      (max least widest, breaks, c)
    | some n =>
      let column := least + n - 1
      let (breaks, c) := emptyLines column steps c []
      (column, breaks, c)
  let b := blockLines folded column steps ⟨[], [], breaks, c⟩
  let tail := match chomp with
    | .strip => []
    | .clip => b.lineEnd
    | .keep => b.lineEnd ++ b.breaks
  return (b.text ++ tail, b.cursor)

end FormatHost.Yaml
