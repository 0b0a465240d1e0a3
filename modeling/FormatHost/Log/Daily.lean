import FormatHost.Files.Tree
import FormatHost.Calendar
/-!
# Daily log files

Each day's records are written at the end of one file, whose name holds the day. When a new day's
file is opened, files of the same stem that are too old are removed.
-/
namespace FormatHost

/-- Where the files of a log are, what their names start with, how many days they are kept, and which
one is open. Zero days keep everything. -/
structure DailyLog where
  directory : Path
  stem : String
  retention : Nat
  /-- The day of the file that is open. -/
  opened : Option Day
  deriving DecidableEq, Repr

/-- Why a log cannot be written. -/
inductive LogFault where
  /-- The oldest day to keep is out of the calendar. -/
  | noSuchDay
  /-- The file cannot be opened. -/
  | unwritable (e : FileError)
  deriving DecidableEq, Repr

namespace DailyLog

/-- A log whose directory is made unless it is there. Fewer than zero days count as zero. -/
def create (t : FileTree) (directory : Path) (stem : String) (retention : Int) :
    Except FileError (DailyLog × FileTree) := do
  let t ← t.makeDirectories directory
  return (⟨directory, stem, retention.toNat, none⟩, t)

/-- The file of a day. -/
def pathFor (l : DailyLog) (day : Day) : Path :=
  l.directory.join (.ofString (l.stem ++ "-" ++ day.text ++ ".log"))

/-- A list without a beginning. -/
def without? : List Char → List Char → Option (List Char)
  | [], cs => some cs
  | x :: xs, c :: cs => if x = c then without? xs cs else none
  | _ :: _, [] => none

/-- The end of the names of log files; a line feed behind it does not count. -/
def isTail (cs : List Char) : Bool := cs == ".log".toList || cs == ".log\n".toList

/-- The day in the name of a log file, if the name is that of one. -/
def dayOf? (stem name : String) : Option Day := do
  let rest ← without? stem.toList name.toList
  match rest with
  | '-' :: rest => if isTail (rest.drop 10) then Day.parse? (rest.take 10) else none
  | _ => none

/-- The longest distance between two moments in days. -/
def maxDistance : Nat := 999999999

/-- The number of the first day to keep. -/
def cutoff (l : DailyLog) (today : Day) : Except LogFault Nat :=
  if maxDistance < l.retention ∨ today.ordinal ≤ l.retention then .error .noSuchDay
  else .ok (today.ordinal - l.retention)

/-- An entry of the directory is a file of this log from before a day. -/
def isExpired (l : DailyLog) (first : Nat) (entry : String × FileNode) : Bool :=
  match entry.2, dayOf? l.stem entry.1 with
  | .file _, some day => day.ordinal < first
  | _, _ => false

/-- Removes the files that are too old, and counts them. -/
def prune (l : DailyLog) (today : Day) (t : FileTree) : Except LogFault (Nat × FileTree) :=
  if l.retention = 0 then .ok (0, t)
  else do
    let first ← l.cutoff today
    let expired := (t.children l.directory).filter (l.isExpired first)
    let t := expired.foldl (fun t entry =>
      match t.place (l.directory.join ⟨"", [entry.1]⟩) with
      | .ok place => t.remove place
      | .error _ => t) t
    return (expired.length, t)

/-- Opens the file of a day unless it is open. The old file is closed first, so after a failure none
is open. -/
def openFor (l : DailyLog) (today : Day) (t : FileTree) : Option LogFault × DailyLog × FileTree :=
  if l.opened = some today then (none, l, t)
  else
    let closed := { l with opened := none }
    match l.prune today t with
    | .error e => (some e, closed, t)
    | .ok (_, t) =>
      match t.append (l.pathFor today) [] with
      | .error e => (some (.unwritable e), closed, t)
      | .ok t => (none, { l with opened := some today }, t)

/-- Writes a line into the file of a day. A line that cannot be written is dropped. -/
def emit (l : DailyLog) (today : Day) (line : String) (t : FileTree) : DailyLog × FileTree :=
  match l.openFor today t with
  | (some _, l, t) => (l, t)
  | (none, l, t) =>
    match t.append (l.pathFor today) (Utf8.encode (line ++ "\n")) with
    | .ok t => (l, t)
    | .error _ => (l, t)

/-- Closes the file that is open. -/
def close (l : DailyLog) : DailyLog := { l with opened := none }

end DailyLog

end FormatHost
