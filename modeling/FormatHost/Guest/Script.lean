import FormatHost.Guest.Loading
import FormatHost.Guest.Staging
import FormatHost.Text.Lines
/-!
# Scripted plugins

A plugin described by data instead of compiled code. Its exports follow the staging contract; what
its formatter does is one step of a list, the next one at each call. Single exports can be made to
trap, to return something else, or to be missing.
-/
namespace FormatHost

/-- A call in the `host` step. -/
inductive ScriptCall where
  | poke (pointer : Int) (data : Bytes)
  | peek (pointer length : Int)
  | host (call : HostCall)
  deriving Repr

/-- What a formatter does. -/
inductive FormatStep where
  /-- Nothing to change. -/
  | none
  /-- A fixed text. -/
  | text (s : String)
  /-- The text with something behind it. -/
  | append (s : String)
  /-- No spaces at the ends of lines. -/
  | trim
  /-- Path, text and override. -/
  | echo
  /-- A fixed error. -/
  | error (s : String)
  /-- A fixed status. -/
  | status (n : Int)
  /-- A trap. -/
  | trap (s : String)
  /-- Waits until the caller has given up, and goes on. -/
  | block (next : FormatStep)
  /-- Asks for another format call on the same instance. -/
  | reenter
  /-- Passes the text on to whoever handles a path. -/
  | delegate (path override : Option String)
  /-- Passes on what follows the colon of each line. -/
  | blocks (override : Option String)
  /-- Calls host functions one by one. -/
  | host (calls : List ScriptCall)
  deriving Repr, Inhabited

/-- A plugin described by data. -/
structure Script where
  memorySize : Nat
  bufferPointer : Int
  bufferSize : Int
  /-- What a getter yields in place of the usual. -/
  data : List (String × Bytes)
  /-- What an export returns in place of the usual. -/
  returns : List (String × Int)
  /-- Exports that trap at once. -/
  traps : List (String × String)
  /-- Exports that are missing. -/
  missing : List String
  /-- The formatter's steps; the last one repeats. -/
  format : List FormatStep
  /-- The faults of the first loads; the last one repeats. -/
  loadFaults : List (Option Fault)

/-- The state of an instance of a script. -/
structure ScriptState where
  shared : Bytes
  path : Option String
  override : Option String
  globalConfig : Option String
  pluginConfig : Option String
  formatted : Bytes
  error : Bytes
  /-- The exports called so far, with their arguments. -/
  calls : List (String × List Int)

/-- Nothing has been staged. -/
def ScriptState.initial : ScriptState := ⟨[], none, none, none, none, [], [], []⟩

/-- How often each script was loaded and asked to format, over all instances. -/
structure ScriptCounts where
  loads : List (Bytes × Nat)
  formats : List (Bytes × Nat)

namespace ScriptCounts

/-- Nothing has happened. -/
def zero : ScriptCounts := ⟨[], []⟩

/-- The count of a key. -/
def count (counts : List (Bytes × Nat)) (key : Bytes) : Nat :=
  ((counts.find? fun c => c.1 == key).map Prod.snd).getD 0

/-- One more for a key. -/
def bump (counts : List (Bytes × Nat)) (key : Bytes) : List (Bytes × Nat) :=
  (key, count counts key + 1) :: counts.filter fun c => c.1 != key

end ScriptCounts

/-- The behaviours of scripts. -/
abbrev ScriptAct := Act ScriptState ScriptCounts

namespace Script

/-- The `n`-th entry of a list whose last entry repeats. -/
def nth? {α : Type} (xs : List α) (n : Nat) : Option α := xs[min n (xs.length - 1)]?

/-- The value of a name. -/
def lookup? {α : Type} (xs : List (String × α)) (name : String) : Option α :=
  (xs.find? fun x => x.1 == name).map Prod.snd

/-- Changes the instance's own state. -/
def change (f : ScriptState → ScriptState) (next : ScriptAct) : ScriptAct :=
  .look fun s e => .keep (f s) e next

/-- Ends with a number of bytes. -/
def count (data : Bytes) : ScriptAct := .done data.length

/-- Takes the shared bytes as a text. -/
def takeText (next : String → ScriptAct) : ScriptAct :=
  .look fun s e =>
    match Utf8.decode s.shared with
    | .ok text => .keep { s with shared := [] } e (next text)
    | .error refusal => .keep { s with shared := [] } e (.trap refusal.message)

/-- Where scripts put what they hand to the host. -/
def stagePointer : Nat := 1024

/-- Has the host format a text. -/
def askHost (script : Script) (path text : String) (override : Option String)
    (next : Outcome → ScriptAct) : ScriptAct :=
  Act.askHost stagePointer script.bufferSize path text override next

/-- Ends with a formatted text. -/
def changed (text : String) : ScriptAct :=
  change (fun s => { s with formatted := Utf8.encode text }) (.done 1)

/-- Ends with an error. -/
def failed (text : String) : ScriptAct :=
  change (fun s => { s with error := Utf8.encode text }) (.done 2)

/-- Ends with a text unless it is the old one. -/
def changedFrom (old new : String) : ScriptAct := if new = old then .done 0 else changed new

/-- A line without the spaces at its end. -/
def trimLine (line : List Char) : List Char := (line.reverse.dropWhile (· == ' ')).reverse

/-- A text without the spaces at the ends of its lines. -/
def trimLines (text : String) : String :=
  String.ofList (Text.unlines ((Text.lines text.toList).map trimLine))

/-- Passes on what follows the colon of each line, and puts the lines together again. -/
def formatBlocks (script : Script) (override : Option String) (old : String) :
    List (List Char) → List (List Char) → ScriptAct
  | [], done => changedFrom old (String.ofList (Text.unlines done.reverse))
  | line :: rest, done =>
    match line.dropWhile (· != ':') with
    | [] => formatBlocks script override old rest (line :: done)
    | _ :: body =>
      let head := line.takeWhile (· != ':')
      script.askHost ("block." ++ String.ofList head) (String.ofList body) override fun
        | .failed message => failed ("embedded block failed: " ++ message)
        | .changed t => formatBlocks script override old rest ((head ++ ':' :: t.toList) :: done)
        | .unchanged => formatBlocks script override old rest (line :: done)

/-- Makes calls one by one and collects their outputs. -/
def hostCalls : List ScriptCall → List String → ScriptAct
  | [], outputs => changed (",".intercalate outputs.reverse)
  | .poke pointer data :: rest, outputs => .poke pointer data (hostCalls rest outputs)
  | .peek pointer length :: rest, outputs =>
    .peek pointer length fun data => hostCalls rest (data.hex :: outputs)
  | .host call :: rest, outputs =>
    .host call fun result =>
      hostCalls rest ((match result with | some n => toString n | none => "-") :: outputs)

/-- A step of the formatter. -/
def formatStep (script : Script) (path text : String) (override : Option String) :
    FormatStep → ScriptAct
  | .none => .done 0
  | .text s => changed s
  | .append s => changed (text ++ s)
  | .trim => changedFrom text (trimLines text)
  | .echo =>
    let shown := match override with
      | some o => if o.isEmpty then "-" else o
      | none => "-"
    changed (path ++ "|" ++ text ++ "|" ++ shown)
  | .error s => failed s
  | .status n => .done n
  | .trap s => .trap s
  | .block next => .pause (formatStep script path text override next)
  | .reenter => .reenter "again" "again" fun
    | .error fault => .trap fault.message
    | .ok none => .done 0
    | .ok (some t) => changed t
  | .delegate other override =>
    script.askHost (match other with | some p => if p.isEmpty then path else p | none => path) text
      override fun
        | .unchanged => .done 0
        | .changed t => changed t
        | .failed message => failed message
  | .blocks override => formatBlocks script override text (Text.lines text.toList) []
  | .host calls => hostCalls calls []

/-- The formatter: counts the call and runs the next step. -/
def formatter (script : Script) (key : Bytes) : ScriptAct :=
  takeText fun text => .look fun s e =>
    let n := ScriptCounts.count e.formats key
    .keep { s with override := none } { e with formats := ScriptCounts.bump e.formats key }
      (formatStep script (s.path.getD "") text s.override ((nth? script.format n).getD .none))

/-- A part of the shared bytes as far as it exists; a negative length counts from the end. -/
def sharedPart (shared : Bytes) (offset length : Int) : Bytes :=
  let stop := offset + length
  let stop := if stop < 0 then stop + shared.length else stop
  (shared.take stop.toNat).drop offset.toNat

/-- What the getters yield when nothing else is given. -/
def defaultData : List (String × Bytes) := [
  ("get_plugin_info", []),
  ("get_license_text", Utf8.encode "MIT"),
  ("get_resolved_config", Utf8.encode "{}"),
  ("get_config_diagnostics", Utf8.encode "[]")]

/-- The effect of an export, and the result it returns by itself. -/
def effect (script : Script) (key : Bytes) (name : String) (arguments : List Int) :
    Option ScriptAct :=
  match name, arguments with
  | "get_plugin_schema_version", _ => some (.done 3)
  | "get_wasm_memory_buffer", _ => some (.done script.bufferPointer)
  | "get_wasm_memory_buffer_size", _ => some (.done script.bufferSize)
  | "clear_shared_bytes", _ => some (change (fun s => { s with shared := [] }) (.done 0))
  | "add_to_shared_bytes_from_buffer", [n] =>
    some (.peek script.bufferPointer n fun data =>
      change (fun s => { s with shared := s.shared ++ data }) (.done 0))
  | "set_buffer_with_shared_bytes", [offset, n] =>
    some (.look fun s _ => .poke script.bufferPointer (sharedPart s.shared offset n) (.done 0))
  | "reset_config", _ =>
    some (change (fun s => { s with globalConfig := none, pluginConfig := none }) (.done 0))
  | "set_global_config", _ =>
    some (takeText fun t => change (fun s => { s with globalConfig := some t }) (.done 0))
  | "set_plugin_config", _ =>
    some (takeText fun t => change (fun s => { s with pluginConfig := some t }) (.done 0))
  | "set_file_path", _ =>
    some (takeText fun t => change (fun s => { s with path := some t }) (.done 0))
  | "set_override_config", _ =>
    some (takeText fun t => change (fun s => { s with override := some t }) (.done 0))
  | "get_formatted_text", _ =>
    some (.look fun s e => match lookup? script.data name with
      | some data => .keep { s with shared := data } e (count data)
      | none => .keep { s with shared := s.formatted, formatted := [] } e (count s.formatted))
  | "get_error_text", _ =>
    some (.look fun s e => match lookup? script.data name with
      | some data => .keep { s with shared := data } e (count data)
      | none => .keep { s with shared := s.error, error := [] } e (count s.error))
  | "format", _ => some (formatter script key)
  | _, _ =>
    match lookup? defaultData name with
    | none => none
    | some usual =>
      let data := (lookup? script.data name).getD usual
      some (change (fun s => { s with shared := data }) (count data))

/-- A behaviour with another result. -/
def returning (result : Int) : ScriptAct → ScriptAct
  | .done _ => .done result
  | .trap message => .trap message
  | .look next => .look fun s e => returning result (next s e)
  | .keep s e next => .keep s e (returning result next)
  | .peek p n next => .peek p n fun data => returning result (next data)
  | .poke p data next => .poke p data (returning result next)
  | .grow n next => .grow n fun before => returning result (next before)
  | .host c next => .host c fun value => returning result (next value)
  | .pause next => .pause (returning result next)
  | .reenter p t next => .reenter p t fun answer => returning result (next answer)

/-- The exports of a script. A call is logged before it has any effect. -/
def exports (script : Script) (key : Bytes) : Exports ScriptState ScriptCounts := fun name =>
  if script.missing.contains name then none
  else if (effect script key name [0, 0]).isNone && (effect script key name [0]).isNone then none
  else some fun arguments =>
    change (fun s => { s with calls := s.calls ++ [(name, arguments)] }) <|
      match lookup? script.traps name with
      | some message => .trap message
      | none =>
        let act := (effect script key name arguments).getD (.trap "wrong number of arguments")
        match lookup? script.returns name with
        | some result => returning result act
        | none => act

/-- The module of a script. -/
def toModule (script : Script) (key : Bytes) : Module ScriptState ScriptCounts where
  initial := .initial
  memorySize := script.memorySize
  memoryExport := .memory
  unlinkable := none
  start := none
  exports := script.exports key

/-- The fault of the `n`-th load, if it has one. -/
def loadFault? (script : Script) (n : Nat) : Option Fault := (nth? script.loadFaults n).join

/-- A stack of a thousand frames leaves that much room for the nesting of a configuration, whatever
scripts are running. -/
def stackRoom : Nat := 960

/-- An engine whose modules are the scripts that some bytes stand for. -/
def engineOf (find : Bytes → Option Script) : Engine ScriptState ScriptCounts where
  decode key counts :=
    match find key with
    | none => (.error (.undecodable "unknown module"), counts)
    | some script =>
      let n := ScriptCounts.count counts.loads key
      let counts := { counts with loads := ScriptCounts.bump counts.loads key }
      match script.loadFault? n with
      | some fault => (.error fault, counts)
      | none => (.ok (script.toModule key), counts)
  room _ := stackRoom

/-- An engine whose modules are scripts under keys. -/
def engine (scripts : List (Bytes × Script)) : Engine ScriptState ScriptCounts :=
  engineOf fun key => (scripts.find? fun s => s.1 == key).map Prod.snd

end Script

end FormatHost
