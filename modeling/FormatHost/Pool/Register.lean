import FormatHost.Pool.Format
/-!
# Registration

A plugin is registered under a name. If it cannot be loaded its record says why, and no other plugin
is touched. Registering a name again replaces the record; instances lent before go back to the old
one.
-/
namespace FormatHost.PoolM

variable {σ ε : Type}

/-- Makes the first instance of a record and asks it what it is. -/
def loadPlugin (engine : Engine σ ε) (out : Outside ε (Pool σ ε)) (id : RecordId) :
    PoolM σ ε PluginInfo := do
  let number ← createInstance engine out id
  let info ← withInstance number (GuestM.pluginInfo out)
  updateRecord id fun r => { r with info := some info }
  configure out id number
  updateRecord id (PluginRecord.ready number)
  return info

/-- Registers a plugin and hands out the number of its record. -/
def register (engine : Engine σ ε) (name : String) (moduleBytes : Bytes) : PoolM σ ε RecordId := do
  if !isPluginName name then throw (.invalidName name)
  let p ← pool
  let id := p.records.length
  update fun p => { p with records := p.records ++ [.fresh name moduleBytes] }
  match ← attempt (loadPlugin engine (around engine p.limits) id) with
  | .ok info =>
    note (.info logger
      ("Plugin loaded: " ++ name ++ " (" ++ info.name ++ " " ++ info.version ++ ")"))
  | .error fault => do
    updateRecord id (PluginRecord.degrade fault.message)
    note (.error logger ("Plugin " ++ name ++ " failed to load"))
  let replaced := ((← pool).lookup? name).isSome
  update (Pool.enter name id)
  if replaced then note (.info logger ("Replaced previously registered plugin " ++ name))
  return id

/-- Forgets all plugins. -/
def shutdown : PoolM σ ε Unit := do
  update Pool.clear
  note (.info logger "Plugin pool shut down")

end FormatHost.PoolM
