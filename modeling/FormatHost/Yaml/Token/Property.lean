import FormatHost.Text.Utf8
import FormatHost.Yaml.Token
import FormatHost.Yaml.Token.Block
/-!
# Anchors, tags and directives

The words that say something about a node or about the document.
-/
namespace FormatHost.Yaml

/-- The characters of addresses. -/
def isAddressChar (c : Char) : Bool :=
  isNameChar c || "-;/?:@&=+$,_.!~*'()[]".toList.contains c

/-- What may stand behind the name of an anchor. -/
def endsName (c : Option Char) : Bool :=
  endsWord c || c.any fun x => "?:,]\x7d%@\x60".toList.contains x

/-- Reads the name behind the sign of an anchor or an alias. -/
def readName (c : Cursor) : Except Fault (String × Cursor) :=
  let (name, c) := c.next.takeWhile isNameChar
  if name.isEmpty || !endsName c.peek then .error .badName else .ok (String.ofList name, c)

/-- The bytes of the escapes at the front, each a percent sign and two hexadecimal digits. -/
def escapedBytes : Nat → Cursor → Bytes → Except Fault (Bytes × Cursor)
  | 0, c, data => .ok (data, c)
  | steps + 1, c, data =>
    match c.rest with
    | '%' :: a :: b :: _ =>
      match Bytes.hexValue? a, Bytes.hexValue? b with
      | some x, some y => escapedBytes steps (c.advance 3) (data ++ [UInt8.ofNat (16 * x + y)])
      | _, _ => .error .badTag
    | '%' :: _ => .error .badTag
    | _ => .ok (data, c)

/-- Reads on in an address. -/
def addressFrom : Nat → Cursor → List Char → Except Fault (List Char × Cursor)
  | 0, c, sofar => .ok (sofar, c)
  | steps + 1, c, sofar =>
    if c.peek == some '%' then do
      let (data, c) ← escapedBytes steps c []
      match Utf8.decode data with
      | .ok s => addressFrom steps c (sofar ++ s.toList)
      | .error _ => throw .badTag
    else
      let (cs, c) := c.takeWhile isAddressChar
      if cs.isEmpty then .ok (sofar, c) else addressFrom steps c (sofar ++ cs)

/-- Reads an address. -/
def readAddress (c : Cursor) : Except Fault (String × Cursor) := do
  let (cs, after) ← addressFrom (c.rest.length + 1) c []
  if after.index = c.index then throw .badTag
  return (String.ofList cs, after)

/-- Reads a handle: an exclamation mark, or a name between two of them. -/
def readHandle (c : Cursor) : Except Fault (String × Cursor) :=
  match c.rest with
  | '!' :: ' ' :: _ => .ok ("!", c.next)
  | '!' :: rest =>
    let name := rest.takeWhile isNameChar
    match rest.dropWhile isNameChar with
    | '!' :: _ => .ok (String.ofList ('!' :: name ++ ['!']), c.advance (name.length + 2))
    | _ => .error .badTag
  | _ => .error .badTag

/-- The word that starts here has a second exclamation mark behind the first one. -/
def hasHandle (cs : List Char) : Bool :=
  (cs.takeWhile fun x => !endsField (some x)).contains '!'

/-- Reads a tag from its exclamation mark. -/
def readTag (c : Cursor) : Except Fault (TagWord × Cursor) := do
  let (word, c) ← match c.rest with
    | _ :: '<' :: _ => do
      let (suffix, c) ← readAddress (c.advance 2)
      if c.peek ≠ some '>' then throw .badTag
      pure ((⟨none, suffix⟩ : TagWord), c.next)
    | _ :: rest =>
      if endsWord rest.head? then pure (⟨none, "!"⟩, c.next)
      else if hasHandle rest then do
        let (handle, c) ← readHandle c
        let (suffix, c) ← readAddress c
        pure (⟨some handle, suffix⟩, c)
      else do
        let (suffix, c) ← readAddress c.next
        pure (⟨some "!", suffix⟩, c)
    | [] => throw .badTag
  if endsField c.peek then return (word, c) else throw .badTag

/-- Reads a number of the version of the language. -/
def readVersionNumber (c : Cursor) : Except Fault (Nat × Cursor) :=
  let (ds, c) := c.takeWhile fun x => '0' ≤ x && x ≤ '9'
  if ds.isEmpty then .error .badDirective
  else .ok (ds.foldl (fun n d => 10 * n + (d.toNat - 48)) 0, c)

/-- Reads the version that a directive gives. -/
def readVersion (c : Cursor) : Except Fault (Directive × Cursor) := do
  let (major, c) ← readVersionNumber c.skipSpaces
  if c.peek ≠ some '.' then throw .badDirective
  let (_, c) ← readVersionNumber c.next
  if endsField c.peek then return (.version major, c) else throw .badDirective

/-- Reads the handle that a directive gives, and what it stands for. -/
def readHandleDirective (c : Cursor) : Except Fault (Directive × Cursor) := do
  let (handle, c) ← readHandle c.skipSpaces
  if c.peek ≠ some ' ' then throw .badDirective
  let (start, c) ← readAddress c.skipSpaces
  if endsField c.peek then return (.handle handle start, c) else throw .badDirective

/-- Reads a directive from its percent sign to the end of its line. -/
def readDirective (c : Cursor) : Except Fault (Directive × Cursor) := do
  let (name, c) := c.next.takeWhile isNameChar
  if name.isEmpty || !endsField c.peek then throw .badDirective
  let (directive, c) ←
    if name = "YAML".toList then readVersion c
    else if name = "TAG".toList then readHandleDirective c
    else pure (.other, c.dropWhile fun x => !isBreak x)
  let c ← endLine c .badDirective
  return (directive, c)

end FormatHost.Yaml
