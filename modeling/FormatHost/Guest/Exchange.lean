import FormatHost.Config.Text
import FormatHost.Guest.Act
import FormatHost.Guest.Info
/-!
# Exchanges with an instance

How the host drives one instance. Values travel through the window of the guest's memory in pieces
that fit it. An instance that breaks the protocol is marked as poisoned; a fault that is none of the
protocol's passes through the guest and leaves no mark. A configuration or format call holds the
instance; a format call that finds it held is refused.
-/
namespace FormatHost

/-- The schema version of the protocol. -/
def schemaVersion : Int := 3

/-- Pieces of `pred + 1` bytes; the last may be shorter. -/
def pieces (pred : Nat) : Bytes → List Bytes
  | [] => []
  | b :: rest => (b :: rest.take pred) :: pieces pred (rest.drop pred)
  termination_by data => data.length
  decreasing_by simp only [List.length_drop, List.length_cons]; omega

theorem flatten_pieces (pred : Nat) (data : Bytes) : (pieces pred data).flatten = data := by
  fun_induction pieces pred data with
  | case1 => rfl
  | case2 b rest ih => simp [ih]

namespace GuestM

variable {σ ε ω : Type}

/-- The instance. -/
def guest : GuestM σ ε ω (Instance σ ε) := do return (← get).guest

/-- Changes the instance. -/
def update (f : Instance σ ε → Instance σ ε) : GuestM σ ε ω Unit :=
  modify fun s => { s with guest := f s.guest }

/-- A computation whose failure is handed out as a value. -/
def attempt {α : Type} (c : GuestM σ ε ω α) : GuestM σ ε ω (Except Fault α) :=
  ExceptT.mk (do return .ok (← c.run))

/-- Marks the instance as unusable and fails. -/
def breach {α : Type} (fault : Fault) : GuestM σ ε ω α := do
  update fun g => { g with poisoned := true }
  throw fault

/-- Calls an export. An export that is missing or fails is a breach, unless the host failed under it in
a way that is not declared. -/
def callExport (out : Outside ε ω) (again : Again σ ε ω) (name : String) (arguments : List Int) :
    GuestM σ ε ω Int := do
  let g ← guest
  match g.exports name with
  | none => breach (.exportMissing g.plugin name)
  | some behaviour => do
    let s ← get
    let (result, s) := (behaviour arguments).run out again s
    set s
    match result with
    | .ok value => return value
    | .error cause =>
      if cause.kind.isDeclared then breach (.exportFailed g.plugin name cause) else throw cause

/-- Asks for the window unless it is known. An empty window is a breach; it is known from then on
all the same. -/
def window (out : Outside ε ω) (again : Again σ ε ω) : GuestM σ ε ω (Int × Option Int) := do
  let g ← guest
  match g.windowStart with
  | some start => return (start, g.windowSize)
  | none => do
    let start ← callExport out again "get_wasm_memory_buffer" []
    update fun g => { g with windowStart := some start }
    let size ← callExport out again "get_wasm_memory_buffer_size" []
    update fun g => { g with windowSize := some size }
    if size ≤ 0 then breach (.windowEmpty g.plugin)
    return (start, some size)

/-- Writes a piece into the window. -/
def putPiece (start : Int) (data : Bytes) : GuestM σ ε ω Unit := do
  let g ← guest
  match g.memory.write start data with
  | .error e => throw (.outOfBounds e)
  | .ok m => update fun g => { g with memory := m }

/-- Reads a piece from the window. -/
def getPiece (start length : Int) : GuestM σ ε ω Bytes := do
  let g ← guest
  match g.memory.read start length with
  | .error e => throw (.outOfBounds e)
  | .ok data => return data

/-- Hands over pieces one by one. -/
def sendPieces (out : Outside ε ω) (again : Again σ ε ω) (start : Int) :
    List Bytes → GuestM σ ε ω Unit
  | [] => return ()
  | piece :: rest => do
    putPiece start piece
    let _ ← callExport out again "add_to_shared_bytes_from_buffer" [piece.length]
    sendPieces out again start rest

/-- Hands bytes over to the guest. -/
def sendBytes (out : Outside ε ω) (again : Again σ ε ω) (data : Bytes) : GuestM σ ε ω Unit := do
  let (start, size) ← window out again
  let _ ← callExport out again "clear_shared_bytes" [data.length]
  match size with
  | none => throw .windowUnknown
  | some (.ofNat 0) => throw .windowStalled
  | some (.ofNat (pred + 1)) => sendPieces out again start (pieces pred data)
  | some (.negSucc _) => return ()

/-- Has a piece put into the window and reads it. -/
def fetchPiece (out : Outside ε ω) (again : Again σ ε ω) (start offset length : Int) :
    GuestM σ ε ω Bytes := do
  let _ ← callExport out again "set_buffer_with_shared_bytes" [offset, length]
  getPiece start length

/-- Fetches the bytes from an offset on, in pieces of `pred + 1` bytes. -/
def receiveFrom (out : Outside ε ω) (again : Again σ ε ω) (start : Int) (pred offset : Nat)
    (remaining : Nat) : GuestM σ ε ω Bytes :=
  if remaining = 0 then return []
  else do
    let length := min (pred + 1) remaining
    let data ← fetchPiece out again start offset length
    let rest ← receiveFrom out again start pred (offset + length) (remaining - length)
    return data ++ rest
  termination_by remaining
  decreasing_by omega

/-- Fetches bytes from the guest. A window without a byte would never get to the end, so the transfer
is given up after its first piece. -/
def receiveBytes (out : Outside ε ω) (again : Again σ ε ω) (length : Int) : GuestM σ ε ω Bytes := do
  let (start, size) ← window out again
  if length ≤ 0 then return []
  match size with
  | none => throw .windowUnknown
  | some (.ofNat 0) => do
    let _ ← fetchPiece out again start 0 0
    throw .windowStalled
  | some (.ofNat (pred + 1)) => receiveFrom out again start pred 0 length.toNat
  | some (.negSucc n) => fetchPiece out again start 0 (.negSucc n)

/-- Fetches the text whose length an export tells. Bytes that are no UTF-8 are a breach. -/
def receiveText (out : Outside ε ω) (again : Again σ ε ω) (name : String) :
    GuestM σ ε ω String := do
  let length ← callExport out again name []
  let data ← receiveBytes out again length
  match Utf8.decode data with
  | .ok text => return text
  | .error _ => do
    let g ← guest
    breach (.answerNotText g.plugin name)

/-- Hands over a configuration and has it taken by an export. -/
def sendConfig (out : Outside ε ω) (again : Again σ ε ω) (config : Datum) (taker : String) :
    GuestM σ ε ω Unit := do
  let data ← ConfigMap.serialize config
  sendBytes out again data
  let _ ← callExport out again taker []

/-- Holds the instance during a call, and lets go of it however the call ends. -/
def holding {α : Type} (call : GuestM σ ε ω α) : GuestM σ ε ω α := do
  update fun g => { g with busy := true }
  let result ← attempt call
  update fun g => { g with busy := false }
  ofExcept result

/-- Hands over what a format call is about: path, override unless it is blank, and text. -/
def handOver (out : Outside ε ω) (again : Again σ ε ω) (path text : String) (override : Datum) :
    GuestM σ ε ω Unit := do
  sendBytes out again (Utf8.encode path)
  let _ ← callExport out again "set_file_path" []
  if !override.isBlank then sendConfig out again override "set_override_config"
  sendBytes out again (Utf8.encode text)

/-- Has the guest format what it was handed, and fetches the answer. -/
def fetchAnswer (out : Outside ε ω) (again : Again σ ε ω) : GuestM σ ε ω (Option String) := do
  let status ← callExport out again "format" []
  match status with
  | 0 => return none
  | 1 => do
    let formatted ← receiveText out again "get_formatted_text"
    return some formatted
  | 2 => do
    let message ← receiveText out again "get_error_text"
    throw (.reported message)
  | status => do
    let g ← guest
    breach (.statusUnknown g.plugin status)

/-- The exchange of a format call. -/
def formatExchange (out : Outside ε ω) (again : Again σ ε ω) (path text : String)
    (override : Datum) : GuestM σ ε ω (Option String) := do
  handOver out again path text override
  fetchAnswer out again

/-- A format call, with an answer for format calls that the guest makes on the same instance. -/
def formatWith (out : Outside ε ω) (again : Again σ ε ω) (path text : String) (override : Datum) :
    GuestM σ ε ω (Option String) := do
  let g ← guest
  if g.busy then throw (.busy g.plugin)
  holding (formatExchange out again path text override)

/-- No call on this instance. -/
def refused : Again σ ε ω := fun _ _ => do throw (.busy (← guest).plugin)

/-- A format call made by the guest while it is held. -/
def nestedFormat (out : Outside ε ω) : Again σ ε ω := fun path text =>
  formatWith out refused path text .null

/-- A format call. `none` says that the text is formatted already. -/
def formatText (out : Outside ε ω) (path text : String) (override : Datum) :
    GuestM σ ε ω (Option String) :=
  formatWith out (nestedFormat out) path text override

/-- A format call made by the guest while it is not held. -/
def freeFormat (out : Outside ε ω) : Again σ ε ω := fun path text => formatText out path text .null

/-- The schema version that the guest reports. -/
def reportedSchema (out : Outside ε ω) : GuestM σ ε ω Int :=
  callExport out (freeFormat out) "get_plugin_schema_version" []

/-- The guest's description of itself. -/
def pluginInfo (out : Outside ε ω) : GuestM σ ε ω PluginInfo := do
  let text ← receiveText out (freeFormat out) "get_plugin_info"
  match PluginInfo.parse text with
  | .ok info => return info
  | .error complaints => do
    let g ← guest
    breach (.infoMalformed g.plugin complaints)

/-- The licence of the plugin. -/
def licenseText (out : Outside ε ω) : GuestM σ ε ω String :=
  receiveText out (freeFormat out) "get_license_text"

/-- Configures the guest: first what holds for every plugin, then what holds for this one. -/
def setConfig (out : Outside ε ω) (global plugin : Datum) : GuestM σ ε ω Unit :=
  holding do
    let again := nestedFormat out
    let _ ← callExport out again "reset_config" []
    sendConfig out again global "set_global_config"
    sendConfig out again plugin "set_plugin_config"

/-- The configuration that the guest works with. -/
def resolvedConfig (out : Outside ε ω) : GuestM σ ε ω Datum := do
  let text ← receiveText out (freeFormat out) "get_resolved_config"
  if text.isEmpty then return .map []
  match Json.parse (.roomy out.room) (Text.ofString text) with
  | .ok d => return d
  | .error .malformed => throw .notJson
  | .error .integerTooLong => throw .integerTooLong
  | .error (.tooDeep container) => throw (.tooDeep container)

/-- The errors that the guest found in its configuration. A malformed answer is reported, but the
instance stays in use. -/
def configDiagnostics (out : Outside ε ω) : GuestM σ ε ω (List Diagnostic) := do
  let text ← receiveText out (freeFormat out) "get_config_diagnostics"
  if text.isEmpty then return []
  match Diagnostic.parseAll text with
  | .ok ds => return ds
  | .error complaints => do
    let g ← guest
    throw (.diagnosticsMalformed g.plugin complaints)

/-- A new instance must speak the schema version of the protocol. -/
def checkSchema (out : Outside ε ω) : GuestM σ ε ω Unit := do
  let plugin := (← guest).plugin
  match ← attempt (reportedSchema out) with
  | .error cause =>
    throw (if cause.kind = .guest then .schemaUnreported plugin cause else cause)
  | .ok version =>
    if version ≠ schemaVersion then throw (.schemaMismatch plugin version schemaVersion)

end GuestM

end FormatHost
