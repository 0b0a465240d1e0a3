import FormatHost.CommandLine.Options
import FormatHost.Json.Indented
import FormatHost.Log.Logger
import FormatHost.Pool.Discovery
import FormatHost.Pool.Listing
import FormatHost.Pool.Register
import FormatHost.Settings.Load
/-!
# Runs of the program

A run reads the settings, opens the log, loads the plugins, and lists them or formats files with
them. A file that cannot be read or formatted does not keep the others from being formatted. A run
is a function of the file tree, the environment and the time.
-/
namespace FormatHost

/-- Why a run breaks off. -/
inductive RunFault where
  | settings (f : SettingsFault)
  /-- The directory of the log cannot be made. -/
  | log (e : FileError)
  /-- A fault of the pool that is no failed format request. -/
  | pool (f : Fault)
  | write (e : FileError)
  deriving Repr

/-- The fault in words. -/
def RunFault.message : RunFault → String
  | settings (.unreadable p f) => "cannot read " ++ p.toString ++ ": " ++ f.message p
  | settings (.notYaml f) => "the configuration is no YAML document: " ++ f.message
  | settings .hostNotMap => "the host section of the configuration is no map"
  | settings (.invalid complaints) => "bad settings: " ++ Complaint.messages complaints
  | log e => "cannot open the log: " ++ e.text
  | pool f => f.message
  | write e => "cannot write: " ++ e.text

/-- The time of a run, in the forms in which it is written. -/
structure Clock where
  today : Day
  stamp : String
  /-- The moment that listings show. -/
  moment : Datum

/-- The clock at a time of a day. -/
def Clock.of (today : Day) (hour minute second : Nat) (moment : Datum) : Clock where
  today := today
  stamp := today.text ++ " " ++ ":".intercalate ([hour, minute, second].map Day.twoDigits)
  moment := moment

/-- The state of a run. -/
structure Session (σ ε : Type) where
  logger : Logger
  tree : FileTree
  /-- What was printed, in order. -/
  output : String
  /-- What the log wrote to the console, in order. -/
  console : List String
  pool : Pool σ ε
  engine : ε

/-- What a run leaves behind. -/
structure RunResult where
  /-- The exit status, or why the run broke off. -/
  status : Except RunFault Nat
  output : String
  console : List String
  tree : FileTree

namespace Session

variable {σ ε : Type}

/-- A part of a run. -/
abbrev M (σ ε : Type) := StateM (Session σ ε)

/-- The logger of this part. -/
def loggerName : String := "fmtbridge"

/-- Writes a log record. -/
def log (clock : Clock) (r : LogRecord) (s : Session σ ε) : Session σ ε :=
  let (w, logger, tree) := s.logger.emit clock.today clock.stamp r s.tree
  { s with logger, tree, console := s.console ++ w.console.toList }

/-- Writes log records. -/
def logAll (clock : Clock) (rs : List LogRecord) (s : Session σ ε) : Session σ ε :=
  rs.foldl (fun s r => s.log clock r) s

/-- Prints. -/
def print (text : String) (s : Session σ ε) : Session σ ε := { s with output := s.output ++ text }

/-- Uses the pool, and writes what was noted meanwhile to the log. -/
def usePool {α : Type} (clock : Clock) (use : PoolM σ ε α) : M σ ε (Except Fault α) := do
  let s ← get
  let (result, engine, pool) := use.run.run (s.engine, s.pool)
  let s := { s with engine, pool := { pool with journal := [] } }
  set (s.logAll clock pool.journal.reverse)
  return result

/-- Registers the plugin of a file. -/
def loadPlugin (engine : Engine σ ε) (clock : Clock) (p : Path) : M σ ε (Except Fault Unit) := do
  match (← get).tree.read p with
  | .error e =>
    modify (log clock
      (.error Discovery.logger ("Failed to read plugin " ++ p.toString ++ ": " ++ e.message p)))
    return .ok ()
  | .ok data => return (← usePool clock (PoolM.register engine p.stem data)).map fun _ => ()

/-- Registers plugins up to the first that cannot be registered. -/
def loadPlugins (engine : Engine σ ε) (clock : Clock) : List Path → M σ ε (Except Fault Unit)
  | [] => return .ok ()
  | p :: rest => do
    match ← loadPlugin engine clock p with
    | .error f => return .error f
    | .ok _ => loadPlugins engine clock rest

/-- A plugin of the pool is loaded. -/
def hasPlugins (s : Session σ ε) : Bool := s.pool.sorted.any fun r => r.2.status = .loaded

/-- Loads the plugins of a directory. -/
def loadDirectory (engine : Engine σ ε) (clock : Clock) (directory : Path) :
    M σ ε (Except Fault Unit) := do
  let (found, records) := Discovery.discover (← get).tree directory
  modify (logAll clock records)
  match ← loadPlugins engine clock found with
  | .error f => return .error f
  | .ok _ =>
    if !(← get).hasPlugins then
      modify (log clock (.error loggerName ("No usable plugins found in " ++ directory.toString)))
    return .ok ()

/-- Prints what the pool tells about its plugins. -/
def printListing (clock : Clock) (s : Session σ ε) : Session σ ε :=
  match Json.indented (s.pool.listing clock.moment) with
  | .ok cs => s.print (String.ofList cs ++ "\n")
  | .error _ => s

/-- What became of a file: an exit status, or why the run breaks off. -/
abbrev FileOutcome := Except RunFault Nat

/-- Keeps the result of formatting a file, or only tells of it. -/
def keepResult (clock : Clock) (check : Bool) (p : Path) (text : List Char)
    (result : Option String) : M σ ε FileOutcome := do
  match result.filter fun r => r.toList != text with
  | none =>
    modify (log clock (.debug loggerName ("Already formatted: " ++ p.toString)))
    return .ok 0
  | some formatted =>
    if check then
      modify (print ("needs formatting: " ++ p.toString ++ "\n"))
      return .ok 1
    else
      match (← get).tree.write p (Utf8.encode formatted) with
      | .error e => return .error (.write e)
      | .ok tree =>
        modify fun s => { s with tree }
        modify (log clock (.info loggerName ("Formatted " ++ p.toString)))
        return .ok 0

/-- Formats a file. -/
def formatFile (engine : Engine σ ε) (clock : Clock) (check : Bool) (name : String) :
    M σ ε FileOutcome := do
  let p := Path.ofString name
  match (← get).tree.readText p with
  | .error f =>
    modify (log clock
      (.error loggerName ("Cannot read " ++ p.toString ++ ": " ++ f.message p)))
    return .ok 1
  | .ok text =>
    match ← usePool clock (PoolM.formatText engine p.toString (String.ofList text) .null) with
    | .ok result => keepResult clock check p text result
    | .error f =>
      if f.kind.isFormat then
        modify (log clock
          (.error loggerName ("Error formatting " ++ p.toString ++ ": " ++ f.message)))
        return .ok 1
      else return .error (.pool f)

/-- Formats files; the greatest status counts. -/
def formatFiles (engine : Engine σ ε) (clock : Clock) (check : Bool) :
    Nat → List String → M σ ε FileOutcome
  | status, [] => return .ok status
  | status, name :: rest => do
    match ← formatFile engine clock check name with
    | .error f => return .error f
    | .ok n => formatFiles engine clock check (max status n) rest

/-- Loads the plugins and does what is asked for. The pool is shut down after files were formatted,
whatever came of it. -/
def work (engine : Engine σ ε) (clock : Clock) (o : Options) (directory : Path) :
    M σ ε FileOutcome := do
  match ← loadDirectory engine clock directory with
  | .error f => return .error (.pool f)
  | .ok _ =>
    if o.list then modify (printListing clock)
    if o.list && o.files.isEmpty then return .ok 0
    let outcome ← formatFiles engine clock o.check 0 o.files
    let _ ← usePool clock PoolM.shutdown
    return outcome

end Session

namespace Run

variable {σ ε : Type}

/-- A text unless it is empty, and then another one. -/
def orText (s : Option String) (fallback : String) : String := (s.filter (· != "")).getD fallback

/-- The line that is printed when there is nothing to do. -/
def nothingToDo : String := "no files given"

/-- A run that broke off before anything was written. -/
def broken (tree : FileTree) (f : RunFault) : RunResult := ⟨.error f, "", [], tree⟩

/-- Runs with settings. -/
def withSettings (engine : Engine σ ε) (start : ε) (clock : Clock) (o : Options)
    (entries : Settings.Entries) (s : Settings) (tree : FileTree) : RunResult :=
  let directory := s.logDirectory.scalars
  match Logger.setup Session.loggerName true
      (.string (orText o.logLevel s.logLevel.scalars))
      (if directory.isEmpty then none else some (.ofString directory)) s.logRetention tree with
  | .error e => broken tree (.log e)
  | .ok (logger, tree) =>
    if o.files.isEmpty && !o.list then ⟨.ok 2, "", [nothingToDo], tree⟩
    else match PoolConfig.ofEntries (Settings.poolEntries s entries) with
      | .error f => broken tree (.pool f)
      | .ok config =>
        let plugins := Path.ofString (orText o.pluginDirectory s.pluginDirectory.scalars)
        let (status, session) := (Session.work engine clock o plugins).run
          (⟨logger, tree, "", [], .empty config, start⟩ : Session σ ε)
        ⟨status, session.output, session.console, session.tree⟩

/-- Runs with options. -/
def withOptions (engine : Engine σ ε) (start : ε) (clock : Clock)
    (environment : List (String × String)) (o : Options) (tree : FileTree) : RunResult :=
  match Settings.readEntries tree o.config with
  | .error f => broken tree (.settings f)
  | .ok entries =>
    match Settings.ofEntries entries tree environment with
    | .error f => broken tree (.settings f)
    | .ok s => withSettings engine start clock o entries s tree

end Run

end FormatHost
