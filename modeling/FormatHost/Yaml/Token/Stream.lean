import FormatHost.Yaml.Token.Plain
import FormatHost.Yaml.Token.Property
import FormatHost.Yaml.Token.Quoted
/-!
# Reading tokens

The tokens of a text in order. A key of one line is known to be one only when its colon is met; so the
place of what may be a key is kept, and the token that announces the key is put there later. At most
one such place is kept for each flow collection that is open.
-/
namespace FormatHost.Yaml

/-- What may turn out to be a key. -/
structure Candidate where
  /-- How many tokens stand before it. -/
  place : Nat
  /-- It stands where a block mapping must have a key. -/
  required : Bool
  index : Nat
  line : Nat
  column : Nat
  deriving Repr

/-- The state of reading. -/
structure Scanner where
  cursor : Cursor
  /-- The tokens so far. -/
  tokens : Array Token
  /-- The columns of the open block collections, the innermost first. -/
  indents : List Nat
  /-- What may be a key in the innermost flow collection or in the block around all of them. -/
  candidate : Option Candidate
  /-- The same for the flow collections further out and the block; empty outside flow collections. -/
  outer : List (Option Candidate)
  /-- A key may start here. -/
  keyAllowed : Bool
  finished : Bool

namespace Scanner

/-- The start of a text. -/
def start (cs : List Char) : Scanner where
  cursor := .start cs
  tokens := #[]
  indents := []
  candidate := none
  outer := []
  keyAllowed := true
  finished := false

/-- A flow collection is open. -/
def inFlow (s : Scanner) : Bool := !s.outer.isEmpty

/-- Adds a token. -/
def push (s : Scanner) (t : Token) : Scanner := { s with tokens := s.tokens.push t }

/-- Puts a token at an earlier place. -/
def insert (s : Scanner) (place : Nat) (t : Token) : Scanner :=
  { s with tokens := (s.tokens.extract 0 place).push t ++ s.tokens.extract place s.tokens.size }

/-- The column is further in than the innermost block collection. -/
def isDeeper (s : Scanner) (column : Nat) : Bool :=
  match s.indents with
  | [] => true
  | i :: _ => i < column

/-- The least column of what belongs to the innermost block collection. -/
def innerColumn (s : Scanner) : Nat :=
  match s.indents with
  | [] => 0
  | i :: _ => i + 1

/-- Ends the block collections that are further in than a column; without a column all end. -/
def unwind (column : Option Nat) (s : Scanner) : Scanner :=
  if s.inFlow then s
  else
    let isInner (i : Nat) : Bool := match column with
      | some c => c < i
      | none => true
    let ended := s.indents.takeWhile isInner
    { s with
      indents := s.indents.dropWhile isInner
      tokens := s.tokens ++ Array.replicate ended.length Token.blockEnd }

/-- Starts a block collection at a column if it is further in. -/
def openBlock (s : Scanner) (column place : Nat) (t : Token) : Scanner :=
  if s.isDeeper column then { s.insert place t with indents := column :: s.indents } else s

/-- The furthest that a key may reach. -/
def keyLength : Nat := 1024

/-- The candidate is too far back to be a key. -/
def isStale (s : Scanner) (k : Candidate) : Bool :=
  k.line != s.cursor.line || keyLength < s.cursor.index - k.index

/-- A candidate unless it is stale; a stale one must not be required. -/
def refresh? (s : Scanner) : Option Candidate → Except Fault (Option Candidate)
  | none => .ok none
  | some k => if !s.isStale k then .ok (some k) else if k.required then .error .lostKey else .ok none

/-- Forgets what is too far back to be a key. -/
def refresh (s : Scanner) : Except Fault Scanner := do
  let candidate ← s.refresh? s.candidate
  let outer ← s.outer.mapM s.refresh?
  return { s with candidate, outer }

/-- Forgets the innermost candidate, which must not be required. -/
def forget (s : Scanner) : Except Fault Scanner :=
  match s.candidate with
  | some k => if k.required then .error .lostKey else .ok { s with candidate := none }
  | none => .ok s

/-- Keeps the place of what starts here, if a key may start here. -/
def remember (s : Scanner) : Except Fault Scanner :=
  if s.keyAllowed then do
    let s ← s.forget
    let required := !s.inFlow && s.indents.head? == some s.cursor.column
    let k : Candidate :=
      ⟨s.tokens.size, required, s.cursor.index, s.cursor.line, s.cursor.column⟩
    return { s with candidate := some k }
  else .ok s

/-- Goes to the next token. A new line outside flow collections may start with a key. -/
def skipBlank : Nat → Scanner → Scanner
  | 0, s => s
  | steps + 1, s =>
    let c := s.cursor.skipSpaces.skipComment
    match c.lineBreak? with
    | some (_, c) => skipBlank steps { s with cursor := c, keyAllowed := s.keyAllowed || !s.inFlow }
    | none => { s with cursor := c }

/-- Goes to the next token; a byte order mark at the start is left out. -/
def skip (s : Scanner) : Scanner :=
  let c := s.cursor
  let s := if c.index = 0 ∧ c.peek = some '\ufeff' then { s with cursor := c.next } else s
  skipBlank (s.cursor.rest.length + 1) s

/-- The end of the text. -/
def takeEnd (s : Scanner) : Except Fault Scanner := do
  let s ← (s.unwind none).forget
  return { s.push .streamEnd with keyAllowed := false, candidate := none, finished := true }

/-- A directive. -/
def takeDirective (s : Scanner) : Except Fault Scanner := do
  let s ← (s.unwind none).forget
  let (d, c) ← readDirective s.cursor
  return { s.push (.directive d) with cursor := c, keyAllowed := false }

/-- A mark between documents. -/
def takeMark (s : Scanner) (t : Token) : Except Fault Scanner := do
  let s ← (s.unwind none).forget
  return { s.push t with cursor := s.cursor.advance 3, keyAllowed := false }

/-- The start of a flow collection. -/
def takeOpening (s : Scanner) (t : Token) : Except Fault Scanner := do
  let s ← s.remember
  return { s.push t with
    cursor := s.cursor.next, candidate := none, outer := s.candidate :: s.outer, keyAllowed := true }

/-- The end of a flow collection. -/
def takeClosing (s : Scanner) (t : Token) : Except Fault Scanner := do
  let s ← s.forget
  match s.outer with
  | [] => throw .unexpected
  | candidate :: outer =>
    return { s.push t with cursor := s.cursor.next, candidate, outer, keyAllowed := false }

/-- The comma between entries of a flow collection. -/
def takeComma (s : Scanner) : Except Fault Scanner := do
  let s ← s.forget
  return { s.push .flowEntry with cursor := s.cursor.next, keyAllowed := true }

/-- The hyphen in front of an entry of a block sequence. -/
def takeHyphen (s : Scanner) : Except Fault Scanner := do
  if !s.inFlow && !s.keyAllowed then throw .misplaced
  let s := if s.inFlow then s
    else s.openBlock s.cursor.column s.tokens.size .blockSequenceStart
  let s ← s.forget
  return { s.push .blockEntry with cursor := s.cursor.next, keyAllowed := true }

/-- The question mark in front of a key. -/
def takeQuestion (s : Scanner) : Except Fault Scanner := do
  if !s.inFlow && !s.keyAllowed then throw .misplaced
  let s := if s.inFlow then s
    else s.openBlock s.cursor.column s.tokens.size .blockMappingStart
  let s ← s.forget
  return { s.push .key with cursor := s.cursor.next, keyAllowed := !s.inFlow }

/-- The colon in front of a value. What may be a key before it is one. -/
def takeColon (s : Scanner) : Except Fault Scanner := do
  let s ← match s.candidate with
    | some k => do
      let s := { s.insert k.place .key with candidate := none, keyAllowed := false }
      pure (if s.inFlow then s else s.openBlock k.column k.place .blockMappingStart)
    | none => do
      if !s.inFlow && !s.keyAllowed then throw .misplaced
      let s := if s.inFlow then s
        else s.openBlock s.cursor.column s.tokens.size .blockMappingStart
      let s ← s.forget
      pure { s with keyAllowed := !s.inFlow }
  return { s.push .value with cursor := s.cursor.next }

/-- An alias, an anchor or a tag: a word that may open a key. -/
def takeWord (s : Scanner) (read : Cursor → Except Fault (Token × Cursor)) :
    Except Fault Scanner := do
  let s ← s.remember
  let (t, c) ← read s.cursor
  return { s.push t with cursor := c, keyAllowed := false }

/-- A block text. -/
def takeBlock (s : Scanner) (folded : Bool) : Except Fault Scanner := do
  let s ← s.forget
  let (cs, c) ← readBlock folded s.innerColumn s.cursor
  return { s.push (.scalar false (Text.ofChars cs)) with cursor := c, keyAllowed := true }

/-- A quoted text. -/
def takeQuoted (s : Scanner) (double : Bool) : Except Fault Scanner :=
  s.takeWord fun c => do
    let (t, c) ← readQuoted double c
    return (.scalar false t, c)

/-- A plain text. Behind a line end a key may follow. -/
def takePlain (s : Scanner) : Except Fault Scanner := do
  let s ← s.remember
  let p := readPlain s.inFlow s.innerColumn s.cursor
  return { s.push (.scalar true (Text.ofChars p.text)) with cursor := p.cursor, keyAllowed := p.crossed }

/-- A plain text starts here. -/
def startsPlain (s : Scanner) (c : Char) : Bool :=
  !(endsWord (some c) || isFlowSign c || "-?:#&*!|>'\"%@\x60".toList.contains c) ||
    !endsWord (s.cursor.peekAt 1) && (c == '-' || !s.inFlow && (c == '?' || c == ':'))

/-- A sign that must stand alone outside flow collections. -/
def isSign (s : Scanner) : Bool := s.inFlow || endsWord (s.cursor.peekAt 1)

/-- Reads the token that starts with a character. -/
def takeToken (s : Scanner) (c : Char) : Except Fault Scanner :=
  let first := s.cursor.column == 0
  if c == '%' && first then s.takeDirective
  else if first && s.cursor.atWord '-' '-' '-' then s.takeMark .documentStart
  else if first && s.cursor.atWord '.' '.' '.' then s.takeMark .documentEnd
  else if c == '[' then s.takeOpening .flowSequenceStart
  else if c == '{' then s.takeOpening .flowMappingStart
  else if c == ']' then s.takeClosing .flowSequenceEnd
  else if c == '}' then s.takeClosing .flowMappingEnd
  else if c == ',' then s.takeComma
  else if c == '-' && endsWord (s.cursor.peekAt 1) then s.takeHyphen
  else if c == '?' && s.isSign then s.takeQuestion
  else if c == ':' && s.isSign then s.takeColon
  else if c == '*' then s.takeWord fun c => do
    let (name, c) ← readName c
    return (.alias name, c)
  else if c == '&' then s.takeWord fun c => do
    let (name, c) ← readName c
    return (.anchor name, c)
  else if c == '!' then s.takeWord fun c => do
    let (word, c) ← readTag c
    return (.tag word, c)
  else if c == '|' && !s.inFlow then s.takeBlock false
  else if c == '>' && !s.inFlow then s.takeBlock true
  else if c == '\'' then s.takeQuoted false
  else if c == '"' then s.takeQuoted true
  else if s.startsPlain c then s.takePlain
  else .error (.noToken c)

/-- Reads the next token. -/
def step (s : Scanner) : Except Fault Scanner := do
  let s ← s.skip.refresh
  let s := s.unwind (some s.cursor.column)
  match s.cursor.peek with
  | none => s.takeEnd
  | some c => s.takeToken c

/-- Reads tokens up to the end or to what cannot be read. Each step reads a character at least, so
their number bounds the steps. -/
def run : Nat → Scanner → List Token
  | 0, s => s.tokens.toList
  | steps + 1, s =>
    if s.finished then s.tokens.toList
    else match s.step with
      | .ok s => run steps s
      | .error f => (s.tokens.push (.broken f)).toList

end Scanner

/-- The tokens of a text. -/
def tokens (cs : List Char) : List Token := Scanner.run (cs.length + 2) (.start cs)

end FormatHost.Yaml
