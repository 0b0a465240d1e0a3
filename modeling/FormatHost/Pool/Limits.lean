import FormatHost.Config.Coercion
/-!
# Limits of a pool

The numbers and configurations that a pool is set up with. Numbers below their least sensible value
are raised to it.
-/
namespace FormatHost

/-- What bounds a pool. There is room for one instance, one crash and one active plugin at least. -/
structure Limits where
  maxInstances : Nat
  borrowTimeout : Double
  formatTimeout : Double
  maxCrashes : Nat
  maxDepth : Nat
  one_le_maxInstances : 1 ≤ maxInstances
  one_le_maxCrashes : 1 ≤ maxCrashes
  one_le_maxDepth : 1 ≤ maxDepth
  deriving DecidableEq, Repr

/-- What a pool is set up with: its limits, the configuration of every plugin, and those of single
plugins under their configuration keys. -/
structure PoolConfig where
  limits : Limits
  globalConfig : List (Datum × Datum)
  pluginConfigs : List (Datum × Datum)

namespace PoolConfig

/-- A value can be a key. -/
def isKey : Datum → Bool
  | .list _ | .map _ | .set _ => false
  | _ => true

/-- The two parts of a value that has two. -/
def halves : Datum → Except Fault (Datum × Datum)
  | .list [k, v] => .ok (k, v)
  | .list _ => .error (.unfit .value)
  | .pair k v => .ok (k, v)
  | .map [(k, _), (l, _)] => .ok (k, l)
  | .map _ => .error (.unfit .value)
  | .set [k, l] => .ok (k, l)
  | .set _ => .error (.unfit .value)
  | .text [a, b] => .ok (.text [a], .text [b])
  | .text _ => .error (.unfit .value)
  | .binary [a, b] => .ok (.int a.toNat, .int b.toNat)
  | .binary _ => .error (.unfit .value)
  | _ => .error (.unfit .type)

/-- Adds an entry from two halves. -/
def addPair (entries : List (Datum × Datum)) (d : Datum) : Except Fault (List (Datum × Datum)) := do
  let (k, v) ← halves d
  if isKey k then return Datum.insert entries k v else .error (.unfit .type)

/-- A configuration as a map; a list of pairs is read as one. -/
def mapOf (d : Datum) : Except Fault (List (Datum × Datum)) :=
  match d.orElse (.map []) with
  | .map entries => .ok entries
  | .list ds => ds.foldlM addPair []
  | .set ds => ds.foldlM addPair []
  | .pair k v => [k, v].foldlM addPair []
  | .text t => (t.map fun s => Datum.text [s]).foldlM addPair []
  | _ => .error (.unfit .type)

/-- A value of a configuration, or its default. -/
def valueOr (entries : List (Datum × Datum)) (name : String) (default : Datum) : Datum :=
  (Datum.field? entries name).getD default

/-- Reads the setup of a pool. -/
def ofEntries (es : List (Datum × Datum)) : Except Fault PoolConfig := do
  let instances ← (valueOr es "max_instances_per_plugin" (.int 4)).toInt
  let borrow ← (valueOr es "borrow_timeout_sec" (.int 10)).toDouble
  let format ← (valueOr es "format_timeout_sec" (.int 30)).toDouble
  let crashes ← (valueOr es "max_crashes" (.int 3)).toInt
  let globalConfig ← mapOf (valueOr es "global_config" .null)
  let pluginConfigs ← mapOf (valueOr es "plugin_configs" .null)
  let depth ← (valueOr es "max_nesting_depth" (.int 8)).toInt
  return {
    limits := {
      maxInstances := (max 1 instances).toNat
      borrowTimeout := .atLeast (.zero false) borrow
      formatTimeout := .atLeast (.ofRatio false 1 10) format
      maxCrashes := (max 1 crashes).toNat
      maxDepth := (max 1 depth).toNat
      one_le_maxInstances := by omega
      one_le_maxCrashes := by omega
      one_le_maxDepth := by omega }
    globalConfig
    pluginConfigs }

/-- Reads the setup of a pool from a value; a blank one stands for the defaults. -/
def ofDatum (d : Datum) : Except Fault PoolConfig :=
  match d.orElse (.map []) with
  | .map es => ofEntries es
  | _ => .error (.unfit .member)

end PoolConfig

end FormatHost
