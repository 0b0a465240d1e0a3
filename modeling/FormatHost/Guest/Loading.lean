import FormatHost.Guest.Exchange
/-!
# Loading

From module bytes to an instance. The memory of an instance is known only when the instance exists,
so the host functions learn of it as the last step. A start function runs before that, and with it
every host function fails; a module that cannot be loaded leaves the host functions as they were.
-/
namespace FormatHost

variable {σ ε ω : Type}

namespace Module

/-- An instance whose start function has not run yet. -/
def begin (m : Module σ ε) (plugin : String) (table : HostTable) : Instance σ ε where
  plugin := plugin
  exports := m.exports
  state := m.initial
  memory := .zeroed m.memorySize
  table := table
  windowStart := none
  windowSize := none
  poisoned := false
  busy := false

/-- A trap of the start function is the engine's word; a host function's failure keeps its own. What is
none of the protocol's faults stays what it is. -/
def startFault : Fault → Fault
  | .trap message => .uninstantiable message
  | fault => if fault.kind.isDeclared then .startFailed fault else fault

/-- Links the module, runs its start function, and tells the host functions of its memory. -/
def instantiate (out : Outside ε ω) (m : Module σ ε) : GuestM σ ε ω Unit := do
  match m.unlinkable with
  | some detail => throw (.uninstantiable detail)
  | none => pure ()
  match m.start with
  | none => pure ()
  | some behaviour => do
    let (result, s) := behaviour.run out GuestM.refused (← get)
    set s
    match result with
    | .ok _ => pure ()
    | .error fault => throw (startFault fault)
  match m.memoryExport with
  | .absent => throw .memoryMissing
  | .otherKind => throw .memoryOfOtherKind
  | .memory => GuestM.update fun g => { g with table := g.table.bind }

end Module

namespace Instance

/-- Loads module bytes against host functions. The host functions are handed back as they are left,
also when there is no instance. -/
def load (engine : Engine σ ε) (out : Outside ε ω) (plugin : String) (table : HostTable)
    (bytes : Bytes) : StateM (ε × ω) (Except Fault (Instance σ ε) × HostTable) := fun (e, w) =>
  match engine bytes e with
  | (.error fault, e) => ((.error fault, table), e, w)
  | (.ok m, e) =>
    let (result, s) := (m.instantiate out).run.run ⟨m.begin plugin table, e, w⟩
    ((result.map fun _ => s.guest, s.guest.table), s.engine, s.world)

/-- Loads module bytes and checks the schema version that the instance reports. -/
def create (engine : Engine σ ε) (out : Outside ε ω) (plugin : String) (table : HostTable)
    (bytes : Bytes) : StateM (ε × ω) (Except Fault (Instance σ ε)) := do
  match (← load engine out plugin table bytes).1 with
  | .error fault => return .error fault
  | .ok g => fun (e, w) =>
    let (result, s) := (GuestM.checkSchema out).run.run ⟨g, e, w⟩
    (result.map fun _ => s.guest, s.engine, s.world)

end Instance

end FormatHost
