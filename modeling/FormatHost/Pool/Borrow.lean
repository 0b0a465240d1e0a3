import FormatHost.Pool.Basic
/-!
# Making and lending instances

An instance is made in steps: its module is loaded, it reports its schema version, it is configured,
and it must find no fault with its configuration. Whoever borrows an instance gives it back, however
the use of it ends.
-/
namespace FormatHost.PoolM

variable {σ ε : Type}

/-- Loads an instance for a record and enters it, whatever becomes of it. -/
def loadInstance (engine : Engine σ ε) (out : Outside ε (Pool σ ε)) (id : RecordId) :
    PoolM σ ε InstanceId := do
  let r ← record id
  let g ← ExceptT.mk do
    return (← Instance.load engine out r.name (some (.fresh r.name)) r.moduleBytes).1
  let number := (← pool).instances.length
  update fun p => { p with instances := p.instances ++ [(id, g)] }
  return number

/-- Makes an instance that speaks the right schema version. -/
def createInstance (engine : Engine σ ε) (out : Outside ε (Pool σ ε)) (id : RecordId) :
    PoolM σ ε InstanceId := do
  let number ← loadInstance engine out id
  withInstance number (GuestM.checkSchema out)
  updateRecord id PluginRecord.countCreated
  return number

/-- The configuration of a plugin under its configuration key. -/
def configOf (configs : List (Datum × Datum)) (info : Option PluginInfo) : Datum :=
  match info with
  | none => .map []
  | some info => ((Datum.field? configs info.configKey).getD .null).orElse (.map [])

/-- Configures a new instance and asks what is wrong with its configuration. -/
def configure (out : Outside ε (Pool σ ε)) (id : RecordId) (number : InstanceId) :
    PoolM σ ε Unit := do
  let r ← record id
  let config := (← pool).config
  withInstance number
    (GuestM.setConfig out (.map config.globalConfig) (configOf config.pluginConfigs r.info))
  let diagnostics ← withInstance number (GuestM.configDiagnostics out)
  if !diagnostics.isEmpty then
    throw (.configurationRejected r.name ("; ".intercalate (diagnostics.map Diagnostic.line)))

/-- Makes an instance for a place that is reserved; a failure gives the place back. -/
def fillPlace (engine : Engine σ ε) (out : Outside ε (Pool σ ε)) (id : RecordId) :
    PoolM σ ε InstanceId := do
  let made ← attempt do
    let number ← createInstance engine out id
    configure out id number
    return number
  match made with
  | .ok number => return number
  | .error fault => do
    updateRecord id PluginRecord.abandon
    let r ← record id
    throw (if fault.kind.isDeclared then .creationFailed r.name fault else fault)

/-- Takes an instance of a record, a new one if there is room. A borrower that finds none waits as
long as it may. -/
def acquire (engine : Engine σ ε) (out : Outside ε (Pool σ ε)) (id : RecordId) :
    PoolM σ ε InstanceId := do
  let r ← record id
  let limits := (← pool).limits
  match r.lease limits.maxInstances with
  | .refused => throw (.disabled r.name r.error)
  | .popped number r => do
    updateRecord id fun _ => r
    return number
  | .reserved r => do
    updateRecord id fun _ => r
    fillPlace engine out id
  | .exhausted => do
    mark (.exhausted id)
    update fun p => { p with waited := p.waited.add limits.borrowTimeout }
    throw (.exhausted r.name limits.borrowTimeout r.inUse.toNat limits.maxInstances)

/-- Gives an instance back. -/
def release (id : RecordId) (number : InstanceId) : PoolM σ ε Unit := do
  let r ← record id
  let poisoned := match (← pool).instances[number]? with
    | some (_, g) => g.poisoned
    | none => true
  if poisoned then note (.warning logger ("Discarding poisoned instance of plugin " ++ r.name))
  updateRecord id (PluginRecord.release number poisoned)

/-- Uses a lent instance and gives it back. -/
def returning {α : Type} (id : RecordId) (number : InstanceId) (use : PoolM σ ε α) :
    PoolM σ ε α := do
  let result ← attempt use
  release id number
  ofExcept result

/-- Borrows an instance for a while. -/
def borrowing {α : Type} (engine : Engine σ ε) (out : Outside ε (Pool σ ε)) (id : RecordId)
    (use : InstanceId → PoolM σ ε α) : PoolM σ ε α := do
  let number ← acquire engine out id
  returning id number (use number)

/-- Notes that an instance of a record crashed. -/
def markCrashed (id : RecordId) (number : InstanceId) (reason : String) : PoolM σ ε Unit := do
  let limits := (← pool).limits
  mark (.crashed id number)
  updateRecord id (PluginRecord.crash limits.maxCrashes reason)
  let r ← record id
  let n := toString r.crashes
  note (.error logger ("Plugin crashed: " ++ r.name ++ " (" ++ reason ++ "), consecutive=" ++ n))
  if limits.maxCrashes ≤ r.crashes then
    note (.error logger ("Plugin disabled after " ++ n ++ " crashes: " ++ r.name))

end FormatHost.PoolM
