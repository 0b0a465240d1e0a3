import FormatHost.CommandLine.Run
import FormatHost.Guest.Script.Reader
import Std.Time.Zoned
/-!
# The program

Gathers what a run depends on, which is the files that it may come to, the environment and the time;
runs; and puts what the run printed and changed where it belongs.
-/
namespace FormatHost.Program

/-- The written form of a place. -/
def written (place : List String) : String := "/" ++ "/".intercalate place

/-- The places that a path comes through. -/
def placesOf (home : List String) (p : Path) : List (List String) :=
  let start := if p.root.isEmpty then home else []
  let next (places : List (List String)) (part : String) : List (List String) :=
    let place := places.headD start
    (if part = ".." then place.dropLast else place ++ [part]) :: places
  (p.parts.foldl next []).reverse

/-- Puts the node at a place into a tree. What is not there or cannot be read is left out. -/
def readNode (t : FileTree) (place : List String) : IO FileTree := do
  try
    let path ← IO.FS.realPath (written place)
    match (← path.metadata).type with
    | .dir => return t.set place .directory
    | .file => return t.set place (.file (← IO.FS.readBinFile path).toList)
    | _ => return t
  catch _ => return t

/-- The names of what is in a directory. -/
def namesIn (place : List String) : IO (List String) := do
  try return (← (← IO.FS.realPath (written place)).readDir).toList.map IO.FS.DirEntry.fileName
  catch _ => return []

/-- The directories that a run looks into, those of its plugins and of its log. -/
def directoriesOf (environment : List (String × String)) (o : Options) (t : FileTree) : List Path :=
  match Settings.readEntries t o.config with
  | .error _ => []
  | .ok entries =>
    match Settings.ofEntries entries t environment with
    | .error _ => []
    | .ok s =>
      let plugins := Run.orText o.pluginDirectory s.pluginDirectory.scalars
      let log := s.logDirectory.scalars
      (plugins :: if log.isEmpty then [] else [log]).map .ofString

/-- The files that a run may come to, with what lies on the way to them. -/
def readTree (environment : List (String × String)) (o : Options) : IO FileTree := do
  let home := (Path.ofString (toString (← IO.currentDir))).parts
  let above := (List.range home.length).map fun n => home.take (n + 1)
  let paths := Settings.envFileName :: (o.config.toList ++ o.files).map .ofString
  let t ← (above ++ paths.flatMap (placesOf home)).foldlM readNode ⟨home, []⟩
  (directoriesOf environment o t).foldlM
    (fun t directory => do
      let places := placesOf home directory
      let place := places.getLastD home
      (places ++ (← namesIn place).map fun name => place ++ [name]).foldlM readNode t)
    t

/-- Makes the files those of a tree. -/
def writeTree (before after : FileTree) : IO Unit := do
  for (place, node) in after.nodes do
    if before.node? place != some node then
      match node with
      | .directory => IO.FS.createDirAll (written place)
      | .file data => IO.FS.writeBinFile (written place) ⟨data.toArray⟩
  for (place, _) in before.nodes do
    if (after.node? place).isNone then IO.FS.removeFile (written place)

/-- The variables of the environment. -/
def readEnvironment : IO (List (String × String)) := do
  let data ← try IO.FS.readBinFile "/proc/self/environ" catch _ => pure .empty
  let cs := ((Utf8.decode data.toList).toOption.getD "").toList
  return (Text.splitAt (· == '\x00') cs).filterMap fun v =>
    match v.dropWhile (· != '=') with
    | _ :: value => some (String.ofList (v.takeWhile (· != '=')), String.ofList value)
    | [] => none

/-- The time. -/
def readClock : IO Clock := do
  let now ← Std.Time.PlainDateTime.now
  let moment ← Std.Time.Timestamp.now
  let today : Day := ⟨now.date.year.toInt.toNat, now.date.month.toNat, now.date.day.toNat⟩
  return .of today now.time.hour.toNat now.time.minute.toNat now.time.second.val.toNat
    (.float (.ofInt moment.toSecondsSinceUnixEpoch.val))

/-- Runs with options, and returns the exit status. -/
def run (o : Options) : IO UInt32 := do
  let environment ← readEnvironment
  let before ← readTree environment o
  let result := Run.withOptions (Script.engineOf Script.ofBytes?) .zero (← readClock) environment o before
  result.console.forM IO.eprintln
  IO.print result.output
  writeTree before result.tree
  match result.status with
  | .ok status => return UInt32.ofNat status
  | .error f =>
    IO.eprintln f.message
    return 1

end FormatHost.Program

open FormatHost in
/-- The program. -/
def main (arguments : List String) : IO UInt32 :=
  match Options.parse arguments with
  | .help => do
    IO.print Options.help
    return 0
  | .misuse => do
    IO.eprint Options.usage
    return 2
  | .run o => Program.run o
