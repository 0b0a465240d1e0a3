import FormatHost.Files.TextFile
import FormatHost.Settings.Basic
import FormatHost.Settings.EnvFile
import FormatHost.Text.UpperCase
import FormatHost.Yaml.Value
/-!
# Where settings come from

A setting is taken from the configuration file, else from the environment, else from the environment
file, else it has its usual value. Case does not count in any of their names.
-/
namespace FormatHost

/-- Why there are no settings. -/
inductive SettingsFault where
  | unreadable (path : Path) (f : ReadFault)
  | notYaml (f : Yaml.Fault)
  /-- The section of the host is no map. -/
  | hostNotMap
  | invalid (complaints : List Complaint)
  deriving Repr

namespace Settings

/-- The entries of a configuration file. -/
abbrev Entries := List (Datum × Datum)

/-- The entries of a configuration text. A text that is no map has none. -/
def entriesOf (cs : List Char) : Except Yaml.Fault Entries := do
  match ← Yaml.load cs with
  | .map entries => return entries
  | _ => return []

/-- The configuration that holds when no file is named. -/
def packaged : String :=
  "host:\n" ++
  "  log_level: INFO\n" ++
  "  log_retention_days: 7\n" ++
  "  plugins_dir: plugins\n" ++
  "  max_instances_per_plugin: 4\n" ++
  "  max_nesting_depth: 8\n" ++
  "  borrow_timeout_sec: 10\n" ++
  "  format_timeout_sec: 30\n" ++
  "  max_crashes: 3\n" ++
  "\n" ++
  "# Global configuration passed to every plugin.\n" ++
  "formatting:\n" ++
  "  lineWidth: 120\n" ++
  "  indentWidth: 2\n" ++
  "  useTabs: false\n" ++
  "\n" ++
  "# Per-plugin configuration, keyed by the plugin's config key.\n" ++
  "plugins:\n" ++
  "  typescript:\n" ++
  "    semiColons: prefer\n" ++
  "  json:\n" ++
  "    trailingCommas: never\n"

/-- The entries of the file that is named, or of the packaged configuration. A file that is not there
has none. -/
def readEntries (t : FileTree) (file : Option String) : Except SettingsFault Entries :=
  match file.filter (· != "") with
  | none => (entriesOf packaged.toList).mapError .notYaml
  | some name => do
    let p := Path.ofString name
    match t.find p with
    | .error .nameTooLong => throw (.unreadable p (.file .nameTooLong))
    | .error _ => return []
    | .ok _ =>
      let cs ← (t.readText p).mapError (.unreadable p)
      (entriesOf cs).mapError .notYaml

/-- What the names of variables start with. -/
def variableStart : String := "fmtbridge_"

/-- A name in lower case as far as it is ASCII. -/
def lowerName (s : String) : List Char := Numeral.asciiLower s.toList

/-- The last variable with the name of a setting in any case. -/
def variableOf {α : Type} (vs : List (String × α)) (name : String) : Option α :=
  let key := lowerName (variableStart ++ name)
  (vs.reverse.find? fun v => lowerName v.1 = key).map Prod.snd

/-- The last entry with the name of a setting in any case. -/
def entryOf (entries : Entries) (name : String) : Option Datum :=
  let isNamed : Datum → Bool
    | .text t => t.chars?.map Text.upperName == some name.toList
    | _ => false
  (entries.reverse.find? fun e => isNamed e.1).map Prod.snd

/-- The section of the host. A blank one counts as empty. -/
def hostSection (entries : Entries) : Except SettingsFault Entries :=
  match ((Datum.field? entries "host").getD .null).orElse (.map []) with
  | .map host => .ok host
  | _ => .error .hostNotMap

/-- The value that is given for a setting. A variable of the file without a value gives none. -/
def given (host : Entries) (environment : List (String × String)) (file : EnvFile.Variables)
    (name : String) : Option Datum :=
  (entryOf host name).or
    (((variableOf environment name).or (variableOf file name).join).map Datum.string)

/-- The name of the environment file. -/
def envFileName : Path := .ofString ".env"

/-- The variables of the environment file, if there is one. -/
def envFile (t : FileTree) (environment : List (String × String)) :
    Except SettingsFault EnvFile.Variables :=
  match t.find envFileName with
  | .ok (.file _) => do
    let cs ← (t.readText envFileName).mapError (.unreadable envFileName)
    return EnvFile.bound environment cs
  | _ => .ok []

/-- The settings that the entries of a configuration file, the environment and the environment file
give. -/
def ofEntries (entries : Entries) (t : FileTree) (environment : List (String × String)) :
    Except SettingsFault Settings := do
  let host ← hostSection entries
  let file ← envFile t environment
  (check (given host environment file)).mapError .invalid

/-- A section of a configuration file. A blank one counts as an empty map. -/
def sectionOf (entries : Entries) (name : String) : Datum :=
  ((Datum.field? entries name).getD .null).orElse (.map [])

/-- The setup of the pool: the settings that bound it, and the sections for the plugins. -/
def poolEntries (s : Settings) (entries : Entries) : List (Datum × Datum) := [
  (.string "max_instances_per_plugin", .int s.maxInstances),
  (.string "max_nesting_depth", .int s.maxDepth),
  (.string "borrow_timeout_sec", .float s.borrowTimeout),
  (.string "format_timeout_sec", .float s.formatTimeout),
  (.string "max_crashes", .int s.maxCrashes),
  (.string "global_config", sectionOf entries "formatting"),
  (.string "plugin_configs", sectionOf entries "plugins")]

end Settings

end FormatHost
