import FormatHost.Log.Daily
import FormatHost.Log.Level
import FormatHost.Log.Record
/-!
# Loggers

A logger has a name, a level and up to two places to write to: the console and a daily file. It
serves its own name and those below it. A level of zero leaves the decision to the level that holds
for everything.
-/
namespace FormatHost

/-- Where records go, and from which level on. -/
structure Logger where
  name : String
  level : Int
  console : Bool
  file : Option DailyLog
  deriving Repr

namespace Logger

/-- The level that holds for everything. -/
def rootLevel : Int := 30

/-- The level from which on records are written. -/
def effectiveLevel (l : Logger) : Int := if l.level = 0 then rootLevel else l.level

/-- The name is the logger's own or one below it. In a run of points only every second one, counted
from the end, parts names. -/
def serves (l : Logger) (name : String) : Bool :=
  match DailyLog.without? l.name.toList name.toList with
  | some [] => true
  | some ('.' :: below) => (below.takeWhile (· == '.')).length % 2 == 0
  | _ => false

/-- The record is written. Levels up to zero are never written. -/
def admits (l : Logger) (r : LogRecord) : Bool :=
  l.serves r.logger && 0 < r.level && l.effectiveLevel ≤ r.level

/-- The names of the places to write to. -/
def handlers (l : Logger) : List String :=
  (if l.console then ["StreamHandler"] else []) ++
    (if l.file.isSome then ["DailyFileHandler"] else [])

/-- A record as it is written, behind the time. Everything runs on one thread. -/
def line (stamp : String) (r : LogRecord) : String :=
  stamp ++ " | " ++ LogLevel.name r.level ++ " | MainThread | " ++ r.logger ++ " | " ++ r.message

/-- What one record adds: its text on the console, and its text in the file, if the file is there and
can be written. -/
structure Written where
  console : Option String
  file : Option String

/-- Writes a record. -/
def emit (l : Logger) (today : Day) (stamp : String) (r : LogRecord) (t : FileTree) :
    Written × Logger × FileTree :=
  if !l.admits r then (⟨none, none⟩, l, t)
  else
    let text := line stamp r
    let shown := if l.console then some text else none
    match l.file with
    | none => (⟨shown, none⟩, l, t)
    | some f =>
      let (f, t) := f.emit today text t
      (⟨shown, if f.opened.isSome then some text else none⟩, { l with file := some f }, t)

/-- Sets up a logger. Its files are in a directory, which is made unless it is there. -/
def setup (name : String) (console : Bool) (level : Datum) (directory : Option Path)
    (retention : Int) (t : FileTree) : Except FileError (Logger × FileTree) :=
  let level := LogLevel.resolve level
  match directory with
  | none => .ok (⟨name, level, console, none⟩, t)
  | some d => do
    let (f, t) ← DailyLog.create t d name retention
    return (⟨name, level, console, some f⟩, t)

end Logger

end FormatHost
