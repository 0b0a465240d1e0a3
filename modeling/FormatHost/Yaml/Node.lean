import FormatHost.Yaml.Tag
import FormatHost.Yaml.Token
/-!
# Nodes

The tree of a document: texts, sequences and mappings with their tags. An alias stands for the node
of its anchor.
-/
namespace FormatHost.Yaml

/-- A node. -/
inductive Node where
  | scalar (tag : Tag) (text : Text)
  | sequence (tag : Tag) (items : List Node)
  | mapping (tag : Tag) (entries : List (Node × Node))
  /-- An alias inside the sequence or mapping that it stands for. -/
  | loop (isMapping : Bool)
  deriving Inhabited, Repr

namespace Node

/-- The node that an empty place stands for. -/
def empty : Node := .scalar .null []

/-- The state of reading nodes. -/
structure Reading where
  tokens : List Token
  /-- The nodes of the anchors so far. -/
  anchors : List (String × Node)
  /-- What the tag handles stand for. -/
  handles : List (String × String)

/-- Reading nodes. -/
abbrev ReadM := StateT Reading (Except Fault)

/-- The next token. -/
def peek : ReadM (Option Token) := return (← get).tokens.head?

/-- Goes on behind the next token. -/
def drop : ReadM Unit := modify fun s => { s with tokens := s.tokens.tail }

/-- The next token does not belong here. -/
def unexpected {α : Type} : ReadM α := do
  match ← peek with
  | some (.broken f) => throw f
  | _ => throw .unexpected

/-- Takes a token if it is the next one. -/
def take? (t : Token) : ReadM Bool := do
  if (← peek) = some t then
    drop
    return true
  else return false

/-- Takes a token that must be the next one. -/
def expect (t : Token) : ReadM Unit := do
  if ← take? t then return () else unexpected

/-- The next token is one of these. -/
def next (ts : List Token) : ReadM Bool := return (← peek).any ts.contains

/-- The anchor and the tag in front of a node, in either order. -/
structure Properties where
  anchor : Option String
  tag : Option TagWord

/-- Takes an anchor. -/
def takeAnchor? : ReadM (Option String) := do
  match ← peek with
  | some (.anchor name) => drop; return some name
  | _ => return none

/-- Takes a tag. -/
def takeTag? : ReadM (Option TagWord) := do
  match ← peek with
  | some (.tag word) => drop; return some word
  | _ => return none

/-- Takes the properties of a node. -/
def takeProperties : ReadM Properties := do
  match ← takeAnchor? with
  | some name => return ⟨some name, ← takeTag?⟩
  | none =>
    match ← takeTag? with
    | some word => return ⟨← takeAnchor?, some word⟩
    | none => return ⟨none, none⟩

/-- The name of a written tag; the bare exclamation mark leaves the tag open. -/
def tagName (word : TagWord) : ReadM (Option String) := do
  let name ← match word.handle with
    | none => pure word.suffix
    | some handle =>
      match (← get).handles.lookup handle with
      | some start => pure (start ++ word.suffix)
      | none => throw .unknownHandle
  return if name = "!" then none else some name

/-- Gives the node of an anchor, which must not have one yet. The node of a container is a loop as long
as its inside is read. -/
def announce (anchor : Option String) (n : Node) : ReadM Unit := do
  match anchor with
  | none => return ()
  | some name =>
    if ((← get).anchors.lookup name).isSome then throw .repeatedAnchor
    modify fun s => { s with anchors := (name, n) :: s.anchors }

/-- Gives the node of an anchor that is inside itself no more. -/
def complete (anchor : Option String) (n : Node) : ReadM Unit :=
  match anchor with
  | none => return ()
  | some name => modify fun s => { s with anchors := (name, n) :: s.anchors }

/-- The node of an alias. -/
def resolve (name : String) : ReadM Node := do
  match (← get).anchors.lookup name with
  | some n => return n
  | none => throw .unknownAlias

/-- The tag of a text. A text with an open tag has the tag that its spelling shows, even in quotes. -/
def scalarTag (plain written : Bool) (name : Option String) (t : Text) : Tag :=
  match name with
  | some name => .ofName name
  | none => if plain || written then .ofSpelling t else .text

/-- A text with its properties. -/
def scalarOf (p : Properties) (name : Option String) (plain : Bool) (t : Text) : ReadM Node := do
  let n := Node.scalar (scalarTag plain p.tag.isSome name t) t
  announce p.anchor n
  return n

mutual

/-- Reads a node. Block collections are read only where they may stand; so are the entries of a
sequence that is not further in than the key before it. -/
def read (block indentless : Bool) : Nat → ReadM Node
  | 0 => unexpected
  | steps + 1 => do
    match ← peek with
    | some (.alias name) =>
      drop
      resolve name
    | _ =>
      let p ← takeProperties
      let name ← match p.tag with
        | some word => tagName word
        | none => pure none
      let sequenceTag := (name.map Tag.ofName).getD .list
      let mappingTag := (name.map Tag.ofName).getD .map
      let sequence (items : ReadM (List Node)) : ReadM Node := do
        announce p.anchor (.loop false)
        let n := Node.sequence sequenceTag (← items)
        complete p.anchor n
        return n
      let mapping (entries : ReadM (List (Node × Node))) : ReadM Node := do
        announce p.anchor (.loop true)
        let n := Node.mapping mappingTag (← entries)
        complete p.anchor n
        return n
      let bare : ReadM Node :=
        if p.anchor.isSome || p.tag.isSome then scalarOf p name true [] else unexpected
      match ← peek with
      | some .blockEntry => if indentless then sequence (indentlessItems steps) else bare
      | some (.scalar plain t) =>
        drop
        scalarOf p name (plain && p.tag.isNone) t
      | some .flowSequenceStart =>
        drop
        sequence (flowItems true steps)
      | some .flowMappingStart =>
        drop
        mapping (flowEntries true steps)
      | some .blockSequenceStart =>
        if block then
          drop
          sequence (blockItems steps)
        else bare
      | some .blockMappingStart =>
        if block then
          drop
          mapping (blockEntries steps)
        else bare
      | _ => bare

/-- Reads a node unless one of these tokens is next; then the place is empty. -/
def readUnless (ends : List Token) (block indentless : Bool) : Nat → ReadM Node
  | 0 => unexpected
  | steps + 1 => do
    if ← next ends then return .empty else read block indentless steps

/-- The entries of a block sequence and its end. -/
def blockItems : Nat → ReadM (List Node)
  | 0 => unexpected
  | steps + 1 => do
    if ← take? .blockEntry then
      let n ← readUnless [.blockEntry, .blockEnd] true false steps
      return n :: (← blockItems steps)
    else
      expect .blockEnd
      return []

/-- The entries of a sequence that is not further in than the key before it. -/
def indentlessItems : Nat → ReadM (List Node)
  | 0 => unexpected
  | steps + 1 => do
    if ← take? .blockEntry then
      let n ← readUnless [.blockEntry, .key, .value, .blockEnd] true false steps
      return n :: (← indentlessItems steps)
    else return []

/-- The entries of a block mapping and its end. -/
def blockEntries : Nat → ReadM (List (Node × Node))
  | 0 => unexpected
  | steps + 1 => do
    if ← take? .key then
      let k ← readUnless [.key, .value, .blockEnd] true true steps
      let v ← blockValue steps
      return (k, v) :: (← blockEntries steps)
    else
      expect .blockEnd
      return []

/-- The value of a key of a block mapping. -/
def blockValue : Nat → ReadM Node
  | 0 => unexpected
  | steps + 1 => do
    if ← take? .value then readUnless [.key, .value, .blockEnd] true true steps else return .empty

/-- The entries of a flow sequence and its end. A key and its value are a mapping of one entry. -/
def flowItems (first : Bool) : Nat → ReadM (List Node)
  | 0 => unexpected
  | steps + 1 => do
    if ← take? .flowSequenceEnd then return []
    if !first then
      expect .flowEntry
    if ← take? .key then
      let k ← readUnless [.value, .flowEntry, .flowSequenceEnd] false false steps
      let v ← flowValue .flowSequenceEnd steps
      return .mapping .map [(k, v)] :: (← flowItems false steps)
    else if ← take? .flowSequenceEnd then return []
    else
      let n ← read false false steps
      return n :: (← flowItems false steps)

/-- The entries of a flow mapping and its end. -/
def flowEntries (first : Bool) : Nat → ReadM (List (Node × Node))
  | 0 => unexpected
  | steps + 1 => do
    if ← take? .flowMappingEnd then return []
    if !first then
      expect .flowEntry
    if ← take? .key then
      let k ← readUnless [.value, .flowEntry, .flowMappingEnd] false false steps
      let v ← flowValue .flowMappingEnd steps
      return (k, v) :: (← flowEntries false steps)
    else if ← take? .flowMappingEnd then return []
    else
      let k ← read false false steps
      return (k, .empty) :: (← flowEntries false steps)

/-- The value of a key in a flow collection that ends with this token. -/
def flowValue (closing : Token) : Nat → ReadM Node
  | 0 => unexpected
  | steps + 1 => do
    if ← take? .value then readUnless [.flowEntry, closing] false false steps else return .empty

end

/-! ### Documents -/

/-- The handles that need no directive. -/
def usualHandles : List (String × String) := [("!", "!"), ("!!", Tag.known)]

/-- Takes the directives: whether the version was given, and the handles. -/
def takeDirectives : Nat → Bool → List (String × String) → ReadM (List (String × String))
  | 0, _, handles => return handles
  | steps + 1, versioned, handles => do
    match ← peek with
    | some (.directive d) =>
      drop
      match d with
      | .version major =>
        if versioned then throw .repeatedVersion
        if major ≠ 1 then throw .foreignVersion
        takeDirectives steps true handles
      | .handle handle start =>
        if (handles.lookup handle).isSome then throw .repeatedHandle
        takeDirectives steps versioned (handles ++ [(handle, start)])
      | .other => takeDirectives steps versioned handles
    | _ => return handles

/-- Takes marks of the end of a document. -/
def takeEnds : Nat → ReadM Unit
  | 0 => return ()
  | steps + 1 => do if ← take? .documentEnd then takeEnds steps else return ()

/-- The next token is a directive. -/
def atDirective : ReadM Bool := do
  match ← peek with
  | some (.directive _) => return true
  | _ => return false

/-- Reads the first document, if there is one. Without a mark in front of it, it has no directives and
cannot be empty. -/
def readDocument (steps : Nat) : ReadM (Option Node) := do
  if ← next [.streamEnd] then return none
  else if (← atDirective) || (← next [.documentStart]) then
    let handles ← takeDirectives steps false []
    expect .documentStart
    modify fun s => { s with handles := handles ++ s.handles }
    if (← atDirective) || (← next [.documentStart, .documentEnd, .streamEnd]) then
      return some .empty
    else return some (← read true false steps)
  else return some (← read true false steps)

/-- Reads the only document of a text. -/
def readOnly (steps : Nat) : ReadM (Option Node) := do
  let n ← readDocument steps
  takeEnds steps
  if ← take? .streamEnd then return n
  else if (← atDirective) || (← next [.documentStart]) then throw .severalDocuments
  else unexpected

/-- The tree of a text. Each step of reading takes a token or goes one level down, of which there are
two for a token at most; so three times the number of tokens bounds the steps. -/
def ofTokens (ts : List Token) : Except Fault (Option Node) :=
  (readOnly (3 * ts.length + 3)).run' ⟨ts, [], usualHandles⟩

end Node

end FormatHost.Yaml
