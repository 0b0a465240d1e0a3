import FormatHost.Guest.Info
import FormatHost.Text.Bytes
/-!
# Records of plugins

What a pool keeps for a plugin, and the steps of its accounts: an instance is popped from the idle
list or a place for a new one is reserved; it comes back healthy or not; crashes are counted until
the plugin is switched off.
-/
namespace FormatHost

/-- The number of an instance, in the order of their making. -/
abbrev InstanceId := Nat

/-- The number of a record, in the order of registration. -/
abbrev RecordId := Nat

/-- Whether a plugin can be used. -/
inductive PluginStatus where
  | loaded
  | degraded
  | disabled
  deriving DecidableEq, Repr

/-- The written form of a status. -/
def PluginStatus.text : PluginStatus → String
  | loaded => "loaded"
  | degraded => "degraded"
  | disabled => "disabled"

/-- The account of a plugin. -/
structure PluginRecord where
  name : String
  moduleBytes : Bytes
  info : Option PluginInfo
  status : PluginStatus
  message : String
  error : String
  /-- Instances that wait; the last one is lent next. -/
  idle : List InstanceId
  /-- Instances that are lent or being made. -/
  inUse : Int
  created : Nat
  /-- Crashes since the last success. -/
  crashes : Nat
  deriving Repr

/-- How a wish for an instance is met. -/
inductive Lease where
  /-- An idle instance is lent. -/
  | popped (id : InstanceId) (account : PluginRecord)
  /-- A place for a new instance is taken. -/
  | reserved (account : PluginRecord)
  /-- The plugin is switched off. -/
  | refused
  /-- All places are taken. -/
  | exhausted

namespace PluginRecord

/-- A record before its plugin is loaded. -/
def fresh (name : String) (moduleBytes : Bytes) : PluginRecord :=
  ⟨name, moduleBytes, none, .loaded, "", "", [], 0, 0, 0⟩

/-- Idle and lent instances together. -/
def total (r : PluginRecord) : Int := r.idle.length + r.inUse

/-- Takes an instance, or a place for one below the limit. -/
def lease (limit : Nat) (r : PluginRecord) : Lease :=
  if r.status = .disabled then .refused
  else match r.idle.getLast? with
    | some id => .popped id { r with idle := r.idle.dropLast, inUse := r.inUse + 1 }
    | none => if r.total < limit then .reserved { r with inUse := r.inUse + 1 } else .exhausted

/-- A new instance exists. -/
def countCreated (r : PluginRecord) : PluginRecord := { r with created := r.created + 1 }

/-- Gives a reserved place back. -/
def abandon (r : PluginRecord) : PluginRecord := { r with inUse := r.inUse - 1 }

/-- Takes a lent instance back; a poisoned one is dropped. -/
def release (id : InstanceId) (poisoned : Bool) (r : PluginRecord) : PluginRecord :=
  { r with
    inUse := r.inUse - 1
    idle := if poisoned then r.idle else r.idle ++ [id] }

/-- Notes a crash; at the limit the plugin is switched off. -/
def crash (limit : Nat) (reason : String) (r : PluginRecord) : PluginRecord :=
  let crashes := r.crashes + 1
  if limit ≤ crashes then
    { r with
      crashes, error := reason, status := .disabled, message := "disabled after repeated crashes" }
  else { r with crashes, error := reason, message := "instance crashed" }

/-- Notes a success. -/
def succeed (r : PluginRecord) : PluginRecord := { r with crashes := 0 }

/-- The plugin is ready, and its first instance waits. -/
def ready (id : InstanceId) (r : PluginRecord) : PluginRecord :=
  { r with idle := r.idle ++ [id], status := .loaded, message := "loaded" }

/-- The plugin could not be loaded. -/
def degrade (reason : String) (r : PluginRecord) : PluginRecord :=
  { r with status := .degraded, error := reason, message := "load failed" }

/-- The plugin handles files of this name and extension. -/
def handles (r : PluginRecord) (fileName extension : String) : Bool :=
  match r.info with
  | none => false
  | some info => r.status != .degraded && info.handles fileName extension

end PluginRecord

/-- Letters, digits and, behind the first character, underscores, points and hyphens. -/
def isNameChar (c : Char) : Bool := c.isAlphanum || c == '_' || c == '.' || c == '-'

/-- A plugin's name has two to sixty-four characters and starts with a letter or digit. -/
def isPluginName (name : String) : Bool :=
  match name.toList with
  | [] => false
  | c :: rest => c.isAlphanum && !rest.isEmpty && rest.length ≤ 63 && rest.all isNameChar

end FormatHost
