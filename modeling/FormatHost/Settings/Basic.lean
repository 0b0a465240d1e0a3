import FormatHost.Settings.Coercion
/-!
# Settings

The settings of the host with their usual values, and the check of values that are given for them.
-/
namespace FormatHost

/-- The settings of the host. -/
structure Settings where
  appName : Text
  logLevel : Text
  logDirectory : Text
  logRetention : Int
  pluginDirectory : Text
  maxInstances : Int
  maxDepth : Int
  borrowTimeout : Double
  formatTimeout : Double
  maxCrashes : Int
  deriving DecidableEq, Repr

namespace Settings

open Checked

/-- The settings when nothing is given. -/
def usual : Settings where
  appName := Text.ofString "fmtbridge"
  logLevel := Text.ofString "INFO"
  logDirectory := Text.ofString "logs"
  logRetention := 7
  pluginDirectory := Text.ofString "plugins"
  maxInstances := 4
  maxDepth := 8
  borrowTimeout := .ofInt 10
  formatTimeout := .ofInt 30
  maxCrashes := 3

/-- A setting: the value that is given for its name, or the usual one. -/
def one {α : Type} (given : String → Option Datum) (name : String)
    (read : Datum → Except Problem α) (usual : α) : Checked α :=
  match given name with
  | none => .ok usual
  | some d => (read d).mapError fun p => [⟨[.field name], p⟩]

/-- The settings with the given values. All complaints are collected in the order of the settings. -/
def check (given : String → Option Datum) : Checked Settings :=
  let s := (one given "APP_NAME" Setting.text usual.appName).map Settings.mk
  let s := both s (one given "LOG_LEVEL" Setting.text usual.logLevel)
  let s := both s (one given "LOG_DIR" Setting.text usual.logDirectory)
  let s := both s (one given "LOG_RETENTION_DAYS" Setting.integer usual.logRetention)
  let s := both s (one given "PLUGINS_DIR" Setting.text usual.pluginDirectory)
  let s := both s (one given "MAX_INSTANCES_PER_PLUGIN" Setting.integer usual.maxInstances)
  let s := both s (one given "MAX_NESTING_DEPTH" Setting.integer usual.maxDepth)
  let s := both s (one given "BORROW_TIMEOUT_SEC" Setting.number usual.borrowTimeout)
  let s := both s (one given "FORMAT_TIMEOUT_SEC" Setting.number usual.formatTimeout)
  both s (one given "MAX_CRASHES" Setting.integer usual.maxCrashes)

end Settings

end FormatHost
