import FormatHost.Guest.Loading
/-!
# Described modules

A small module given by its imports, its memory and its start function. Each import is exported again,
so that a host can call its own functions through the module.
-/
namespace FormatHost

/-- An imported function by its names and the numbers of its parameters and results. -/
structure ImportedFunction where
  moduleName : String
  name : String
  parameters : Nat
  results : Nat
  deriving DecidableEq, Repr

namespace ImportedFunction

/-- The import is one of the host functions with its own signature. -/
def isHostFunction (f : ImportedFunction) : Bool :=
  f.moduleName == HostCall.moduleName &&
    HostCall.signatures.any fun s =>
      s.name == f.name && s.parameters == f.parameters && (if s.hasResult then 1 else 0) == f.results

end ImportedFunction

/-- What runs when an instance of a described module is made. -/
inductive StartFunction where
  | unreachable
  | call (index : Nat) (arguments : List Int)
  deriving DecidableEq, Repr

/-- A described module. -/
structure ModuleDescription where
  imports : List ImportedFunction
  /-- The pages of the memory, if there is one. -/
  pages : Option Nat
  /-- What is exported as the memory, where there is something to export. -/
  memoryExport : MemoryExport
  start : Option StartFunction
  /-- The schema version to report, if one is reported. -/
  schema : Option Int

namespace ModuleDescription

variable {σ ε : Type}

/-- Calls an import. -/
def callImport (d : ModuleDescription) (index : Nat) (arguments : List Int)
    (next : Option Nat → Act σ ε) : Act σ ε :=
  match (d.imports[index]?).bind fun f => HostCall.ofName? f.name arguments with
  | some call => .host call next
  | none => .trap "no such import"

/-- A result as a number; nothing counts as zero. -/
def asResult (value : Option Nat) : Act σ ε := .done (value.getD 0)

/-- The exports: the imports under numbered names, growing the memory, and the schema version. -/
def exports (d : ModuleDescription) : Exports σ ε := fun name =>
  if name = "get_plugin_schema_version" then d.schema.map fun version _ => .done version
  else if name = "grow" then
    d.pages.map fun _ arguments => .grow (HostCall.word (arguments.headD 0)) .done
  else
    ((List.range d.imports.length).find? fun i => "call_" ++ toString i == name).map
      fun i arguments => d.callImport i arguments asResult

/-- The start function. -/
def startAct (d : ModuleDescription) : StartFunction → Act σ ε
  | .unreachable => .trap "unreachable"
  | .call index arguments => d.callImport index arguments asResult

/-- The module that is described. -/
def toModule (d : ModuleDescription) (initial : σ) : Module σ ε where
  initial := initial
  memorySize := d.pages.getD 0 * Act.pageSize
  memoryExport :=
    if d.memoryExport = .memory ∧ d.pages.isNone then .absent else d.memoryExport
  unlinkable :=
    (d.imports.find? fun f => !f.isHostFunction).map fun f =>
      "unknown import: " ++ f.moduleName ++ "::" ++ f.name
  start := d.start.map d.startAct
  exports := d.exports

end ModuleDescription

end FormatHost
