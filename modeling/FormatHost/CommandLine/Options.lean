import FormatHost.Text.Digit
/-!
# Options of the command line

A long option may be cut short as long as it stays the only one with that start, and its value may
follow behind an equal sign. Files are the words of one group: all words that are no options between
two options. Behind two hyphens nothing is an option.
-/
namespace FormatHost

/-- What a run is asked to do. -/
structure Options where
  files : List String
  config : Option String
  pluginDirectory : Option String
  check : Bool
  list : Bool
  logLevel : Option String
  deriving DecidableEq, Repr

namespace Options

/-- No files and no options. -/
def none : Options := ⟨[], .none, .none, false, false, .none⟩

/-- An option. -/
inductive Flag where
  | help
  | config
  | pluginDirectory
  | check
  | list
  | logLevel
  deriving DecidableEq, Repr

/-- The names of the options. -/
def names : List (String × Flag) := [
  ("-h", .help), ("--help", .help), ("--config", .config), ("--plugins-dir", .pluginDirectory),
  ("--check", .check), ("--list", .list), ("--log-level", .logLevel)]

/-- The option with this name. -/
def named? (cs : List Char) : Option Flag :=
  (names.find? fun n => n.1.toList = cs).map Prod.snd

/-- An argument by its kind. -/
inductive Word where
  | plain (s : String)
  /-- The mark behind which there are no options. -/
  | separator
  /-- An option, and what stands behind its equal sign. -/
  | flag (f : Flag) (value : Option String)
  /-- An option that does not exist. -/
  | unknown
  /-- A short option with something behind it that belongs to no option. -/
  | malformed
  deriving DecidableEq, Repr

/-- An integer or a number with a point, and a minus sign. -/
def isNegativeNumber (cs : List Char) : Bool :=
  let isDigit (c : Char) : Bool := (Text.digitValue? c).isSome
  match cs with
  | '-' :: rest =>
    match rest.dropWhile isDigit with
    | [] => !rest.isEmpty
    | '.' :: part => !part.isEmpty && part.all isDigit
    | _ => false
  | _ => false

/-- What a text is split into at its first equal sign. -/
def splitValue (cs : List Char) : List Char × Option String :=
  match cs.dropWhile (· != '=') with
  | _ :: value => (cs.takeWhile (· != '='), some (String.ofList value))
  | [] => (cs, .none)

/-- The short option for help with something behind it; only the option itself may be repeated. -/
def shortHelp (tail : List Char) : Word :=
  if !tail.isEmpty && tail.all (· == 'h') then .flag .help .none else .malformed

/-- The word of an argument that starts with a hyphen, or nothing if more than one option starts like
it. -/
def hyphened? (s : String) : Option Word :=
  let cs := s.toList
  let (start, value) := splitValue cs
  match named? cs, named? start, value with
  | some f, _, _ => some (.flag f .none)
  | _, some f, some v => some (if start = ['-', 'h'] then shortHelp v.toList else .flag f v)
  | _, _, _ =>
    match cs with
    | [_] => some (.plain s)
    | '-' :: 'h' :: tail => some (shortHelp tail)
    | _ =>
      let isLong := cs.take 2 = ['-', '-']
      match (if isLong then names.filter fun n => start.isPrefixOf n.1.toList else []) with
      | [n] => some (.flag n.2 value)
      | _ :: _ => .none
      | [] => some (if isNegativeNumber cs || cs.contains ' ' then .plain s else .unknown)

/-- The words of arguments, or nothing if one of them is ambiguous. -/
def words? : List String → Option (List Word)
  | [] => some []
  | "--" :: rest => some (.separator :: rest.map .plain)
  | s :: rest => do
    let w ← if s.toList.head? = some '-' then hyphened? s else some (.plain s)
    let others ← words? rest
    return w :: others

/-- Where the group of files is. -/
inductive Group where
  | ahead
  | here
  | passed
  deriving DecidableEq, Repr

/-- The options so far, where the group of files is, and whether there was a word for which there is no
place. -/
structure Reading where
  options : Options
  group : Group
  excess : Bool

/-- Nothing read. -/
def Reading.start : Reading := ⟨.none, .ahead, false⟩

/-- Takes a word that is no option. -/
def Reading.plain (r : Reading) (s : String) : Reading :=
  match r.group with
  | .passed => { r with excess := true }
  | _ => { r with options.files := r.options.files ++ [s], group := .here }

/-- Takes the mark behind which there are no options. -/
def Reading.separate (r : Reading) : Reading :=
  match r.group with
  | .passed => { r with excess := true }
  | _ => { r with group := .here }

/-- Meets an option; it ends the group of files. -/
def Reading.meet (r : Reading) : Reading :=
  match r.group with
  | .here => { r with group := .passed }
  | _ => r

/-- Sets an option that has a value. -/
def setValue (o : Options) (v : String) : Flag → Options
  | .config => { o with config := some v }
  | .pluginDirectory => { o with pluginDirectory := some v }
  | .logLevel => { o with logLevel := some v }
  | _ => o

/-- What the arguments come to. -/
inductive Outcome where
  | run (o : Options)
  /-- The help is asked for. -/
  | help
  /-- The arguments mean nothing. -/
  | misuse
  deriving DecidableEq, Repr

/-- Reads words in order. -/
def read (r : Reading) : List Word → Outcome
  | [] => if r.excess then .misuse else .run r.options
  | .plain s :: rest => read (r.plain s) rest
  | .separator :: rest => read r.separate rest
  | .unknown :: rest => read { r.meet with excess := true } rest
  | .malformed :: _ => .misuse
  | .flag .help .none :: _ => .help
  | .flag .check .none :: rest => read { r.meet with options.check := true } rest
  | .flag .list .none :: rest => read { r.meet with options.list := true } rest
  | .flag .help (some _) :: _ => .misuse
  | .flag .check (some _) :: _ => .misuse
  | .flag .list (some _) :: _ => .misuse
  | .flag f (some v) :: rest => read { r.meet with options := setValue r.options v f } rest
  | .flag f .none :: .plain v :: rest => read { r.meet with options := setValue r.options v f } rest
  | .flag _ .none :: _ => .misuse

/-- Reads arguments. -/
def parse (arguments : List String) : Outcome :=
  match words? arguments with
  | some ws => read .start ws
  | .none => .misuse

/-- How the program is called. -/
def usage : String :=
  "usage: fmtbridge [-h] [--config CONFIG] [--plugins-dir PLUGINS_DIR] [--check]\n" ++
  "                 [--list] [--log-level LOG_LEVEL]\n" ++
  "                 [files ...]\n"

/-- The help. -/
def help : String :=
  usage ++
  "\n" ++
  "Format files with sandboxed wasm plugins\n" ++
  "\n" ++
  "positional arguments:\n" ++
  "  files                 files to format\n" ++
  "\n" ++
  "options:\n" ++
  "  -h, --help            show this help message and exit\n" ++
  "  --config CONFIG       host configuration YAML file\n" ++
  "  --plugins-dir PLUGINS_DIR\n" ++
  "                        directory with compiled *.compiled plugins\n" ++
  "  --check               report files that need formatting without writing\n" ++
  "  --list                print loaded plugins as JSON\n" ++
  "  --log-level LOG_LEVEL\n"

end Options

end FormatHost
