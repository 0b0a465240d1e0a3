import FormatHost.Pool.Borrow
/-!
# Formatting through a pool

A text goes to the plugin that handles its path. That plugin may pass parts of it on; such a request
goes to another plugin, inside the chain of those that are active. The chain's limit bounds how deep
requests can go, so formatting always ends.
-/
namespace FormatHost.PoolM

variable {σ ε : Type}

/-- Makes a plugin active for a while. -/
def entering {α : Type} (plugin : String) (use : PoolM σ ε α) : PoolM σ ε α := do
  let chain ← (← pool).chain.enter plugin
  update fun p => { p with chain := chain }
  let result ← attempt use
  update fun p => { p with chain := p.chain.exit }
  ofExcept result

/-- Formats with a lent instance. A breach of the protocol is a crash. -/
def formatLent (out : Outside ε (Pool σ ε)) (id : RecordId) (path text : String) (override : Datum)
    (number : InstanceId) : PoolM σ ε (Option String) := do
  mark (.formatting id number (← pool).chain.active)
  match ← attempt (withInstance number (GuestM.formatText out path text override)) with
  | .ok result => return result
  | .error fault => do
    if fault.kind = .guest then do
      markCrashed id number fault.message
      throw (.crashed fault)
    throw fault

/-- Formats with the plugin of a record. -/
def formatWith (engine : Engine σ ε) (out : Outside ε (Pool σ ε)) (id : RecordId)
    (path text : String) (override : Datum) : PoolM σ ε (Option String) := do
  let r ← record id
  let result ← entering r.name
    (borrowing engine out id (formatLent out id path text override))
  updateRecord id PluginRecord.succeed
  mark (.succeeded id)
  return result

/-- The record that a plugin's request goes to. A path that nobody handles, or only the plugin itself,
is left unchanged. -/
def resolveFor (caller path : String) : PoolM σ ε (Option RecordId) := do
  let p ← pool
  match p.resolve path with
  | none => do
    note (.debug logger ("No plugin handles " ++ path ++ " (requested by " ++ caller ++ ")"))
    return none
  | some (id, r) =>
    if r.name = caller then do
      note (.debug logger
        ("Plugin " ++ caller ++ " asked to format " ++ path ++
          " with itself; leaving it unchanged"))
      return none
    else do
      let active := ", ".intercalate (p.chain.active.map fun name => "'" ++ name ++ "'")
      note (.debug logger
        ("Plugin " ++ caller ++ " delegates " ++ path ++ " to " ++ r.name ++ " (chain: [" ++ active ++
          "])"))
      return some id

/-- A plugin's request. `depth` bounds how many plugins may still become active inside each other;
where it is used up the chain is full, and entering it is refused. -/
def formatFor (engine : Engine σ ε) :
    Nat → String → String → String → Datum → PoolM σ ε (Option String)
  | 0, caller, path, _, _ => do
    match ← resolveFor caller path with
    | none => return none
    | some id => do
      let r ← record id
      let p ← pool
      throw (.depthExceeded p.chain.limit (p.chain.active ++ [r.name]))
  | depth + 1, caller, path, text, override => do
    match ← resolveFor caller path with
    | none => return none
    | some id =>
      formatWith engine (outside (engine.room depth) (formatFor engine depth)) id path text override

/-- What instances find outside where so many plugins may still become active: requests go to the pool
itself. -/
def below (engine : Engine σ ε) (depth : Nat) : Outside ε (Pool σ ε) :=
  outside (engine.room depth) (formatFor engine depth)

/-- What the pool's instances find outside. -/
def around (engine : Engine σ ε) (limits : Limits) : Outside ε (Pool σ ε) :=
  below engine limits.maxDepth

/-- A plugin's request from outside any format call. -/
def formatRequest (engine : Engine σ ε) (caller path text : String) (override : Datum) :
    PoolM σ ε (Option String) := do
  formatFor engine (← pool).limits.maxDepth caller path text override

/-- Formats a text with whichever plugin handles its path. `none` says that it is formatted already. -/
def formatText (engine : Engine σ ε) (path text : String) (override : Datum) :
    PoolM σ ε (Option String) := do
  let p ← pool
  match p.resolve path with
  | none => throw (.noPlugin path)
  | some (id, _) => formatWith engine (around engine p.limits) id path text override

/-- Formats a text within a time limit. The work goes on to its end after the limit has passed, but
its result is lost. -/
def formatTimed (engine : Engine σ ε) (path text : String) (override : Datum)
    (timeout : Option Double) : PoolM σ ε (Option String) := do
  let usual := (← pool).limits.formatTimeout
  let limit := match timeout with
    | none => usual
    | some t => .atLeast (.ofRatio false 1 10) t
  update fun p => { p with waited := .zero false, overran := false }
  let result ← attempt (formatText engine path text override)
  let p ← pool
  update fun p => { p with waited := .zero false, overran := false }
  if p.overran || !p.waited.below limit then throw (.timedOut path limit)
  ofExcept result

end FormatHost.PoolM
