import FormatHost.Text.Digit
/-!
# Environment files

A file of variables, one binding a line: a name, an equal sign and a value. A value in quotes may
hold line ends and escapes; any other value ends at its line or at a comment. A line that is no
binding is left out. Values may refer to other variables by `${name}` or `${name:-default}`.
-/
namespace FormatHost.EnvFile

/-- A name, and its value if the line has an equal sign. -/
structure Binding where
  name : String
  value : Option (List Char)
  deriving Repr

/-- Blanks inside a line. -/
def isInner (c : Char) : Bool := Text.isBlank c && c != '\n' && c != '\r'

/-- Behind the word that may stand in front of a name. -/
def skipExport (cs : List Char) : List Char :=
  match cs with
  | 'e' :: 'x' :: 'p' :: 'o' :: 'r' :: 't' :: rest =>
    if rest.head?.any isInner then rest.dropWhile isInner else cs
  | cs => cs

/-- Reads a name. Before a comment there is none. -/
def name? (cs : List Char) : Option (Option String × List Char) :=
  match cs with
  | '#' :: _ => some (none, cs)
  | '\'' :: rest =>
    let name := rest.takeWhile (· != '\'')
    match rest.dropWhile (· != '\'') with
    | _ :: after => if name.isEmpty then none else some (some (String.ofList name), after)
    | [] => none
  | cs =>
    let isName (c : Char) : Bool := c != '=' && c != '#' && !Text.isBlank c
    let name := cs.takeWhile isName
    if name.isEmpty then none else some (some (String.ofList name), cs.dropWhile isName)

/-- The text before the first quote that no backslash stands in front of, and the text behind it. -/
def splitQuote (quote : Char) (escaped : Bool) : List Char → Option (List Char × List Char)
  | [] => none
  | c :: rest =>
    if c == quote && !escaped then some ([], rest)
    else (splitQuote quote (c == '\\') rest).map fun (inside, after) => (c :: inside, after)

/-- The text before the last quote, and the text behind it. -/
def splitLast (quote : Char) (cs : List Char) : Option (List Char × List Char) :=
  let after := (cs.reverse.takeWhile (· != quote)).reverse
  if after.length < cs.length then some (cs.take (cs.length - after.length - 1), after) else none

/-- The text in quotes. If every quote has a backslash in front of it, the last one closes. -/
def quoted? (quote : Char) (cs : List Char) : Option (List Char × List Char) :=
  (splitQuote quote false cs).or (splitLast quote cs)

/-- The escapes in double quotes. -/
def doubleEscape? : Char → Option Char
  | '\\' => some '\\'
  | '\'' => some '\''
  | '"' => some '"'
  | 'a' => some '\x07'
  | 'b' => some '\x08'
  | 'f' => some '\x0c'
  | 'n' => some '\n'
  | 'r' => some '\r'
  | 't' => some '\t'
  | 'v' => some '\x0b'
  | _ => none

/-- The escapes in single quotes. -/
def singleEscape? : Char → Option Char
  | '\\' => some '\\'
  | '\'' => some '\''
  | _ => none

/-- The text with its escapes replaced; a backslash before anything else stands for itself. -/
def unescape (escape? : Char → Option Char) : List Char → List Char
  | '\\' :: c :: rest =>
    match escape? c with
    | some d => d :: unescape escape? rest
    | none => '\\' :: c :: unescape escape? rest
  | c :: rest => c :: unescape escape? rest
  | [] => []

/-- The text up to a comment, which starts behind a blank. -/
def beforeComment (afterBlank : Bool) : List Char → List Char
  | [] => []
  | c :: rest =>
    if afterBlank && c == '#' then [] else c :: beforeComment (Text.isBlank c) rest

/-- The text without the blanks at its end. -/
def stripEnd (cs : List Char) : List Char := (cs.reverse.dropWhile Text.isBlank).reverse

/-- Reads a value. -/
def value? (cs : List Char) : Option (List Char × List Char) :=
  match cs with
  | '\'' :: rest => (quoted? '\'' rest).map fun (v, after) => (unescape singleEscape? v, after)
  | '"' :: rest => (quoted? '"' rest).map fun (v, after) => (unescape doubleEscape? v, after)
  | cs => some (stripEnd (beforeComment false (cs.takeWhile (· != '\n'))), cs.dropWhile (· != '\n'))

/-- Behind the end of a line, with a comment before it if there is one. -/
def endLine? (cs : List Char) : Option (List Char) :=
  let cs := cs.dropWhile isInner
  let cs := if cs.head? = some '#' then cs.dropWhile (· != '\n') else cs
  match cs with
  | [] => some []
  | '\n' :: rest => some rest
  | _ => none

/-- Behind the rest of a line. -/
def skipLine (cs : List Char) : List Char := (cs.dropWhile (· != '\n')).drop 1

/-- The end of a binding, or the place to go on at if the line is none. -/
def finish (b : Option Binding) (cs : List Char) : Option Binding × List Char :=
  match endLine? cs with
  | some rest => (b, rest)
  | none => (none, skipLine cs)

/-- Reads a binding from its first character. -/
def binding (cs : List Char) : Option Binding × List Char :=
  let cs := skipExport cs
  match name? cs with
  | none => (none, skipLine cs)
  | some (name, cs) =>
    match cs.dropWhile isInner with
    | '=' :: rest =>
      let rest := rest.dropWhile isInner
      match value? rest with
      | none => (none, skipLine rest)
      | some (v, rest) => finish (name.map fun n => ⟨n, some v⟩) rest
    | rest => finish (name.map fun n => ⟨n, none⟩) rest

/-- Reads bindings. Each takes a character at least, so their number bounds the steps. -/
def bindingsFrom : Nat → List Char → List Binding
  | 0, _ => []
  | steps + 1, cs =>
    match cs.dropWhile Text.isBlank with
    | [] => []
    | cs =>
      let (b, rest) := binding cs
      b.toList ++ bindingsFrom steps rest

/-- The bindings of a file. -/
def bindings (cs : List Char) : List Binding := bindingsFrom cs.length cs

/-- Variables by name, in the order in which they were first met; one may be without a value. -/
abbrev Variables := List (String × Option String)

/-- Sets a variable: in place if it is there, else at the end. -/
def set (name : String) (v : Option String) : Variables → Variables
  | [] => [(name, v)]
  | (n, w) :: rest => if n = name then (name, v) :: rest else (n, w) :: set name v rest

/-- A reference to a variable behind its dollar sign: the name, the default, and the text behind it. -/
def reference? : List Char → Option (List Char × List Char × List Char)
  | '{' :: rest =>
    let isName (c : Char) : Bool := c != '}' && c != ':'
    let name := rest.takeWhile isName
    match rest.dropWhile isName with
    | '}' :: after => some (name, [], after)
    | ':' :: '-' :: rest =>
      match rest.dropWhile (· != '}') with
      | _ :: after => some (name, rest.takeWhile (· != '}'), after)
      | [] => none
    | _ => none
  | _ => none

/-- The value of a variable that is referred to. A variable without a value counts as empty. -/
def valueOf (known : Variables) (name default : List Char) : List Char :=
  match known.lookup (String.ofList name) with
  | some (some v) => v.toList
  | some none => []
  | none => default

/-- Replaces the references in a value. The number of characters bounds the steps. -/
def expandFrom (known : Variables) : Nat → List Char → List Char
  | 0, cs => cs
  | _, [] => []
  | steps + 1, c :: rest =>
    match (if c == '$' then reference? rest else none) with
    | some (name, default, after) => valueOf known name default ++ expandFrom known steps after
    | none => c :: expandFrom known steps rest

/-- Replaces the references in a value. -/
def expand (known : Variables) (cs : List Char) : List Char := expandFrom known cs.length cs

/-- The variables of a file. A value may refer to variables before it, and to those of the
environment. -/
def bound (environment : List (String × String)) (cs : List Char) : Variables :=
  let outer : Variables := environment.map fun (n, v) => (n, some v)
  (bindings cs).foldl (fun vs b =>
    set b.name (b.value.map fun v => String.ofList (expand (vs ++ outer) v)) vs) []

end FormatHost.EnvFile
