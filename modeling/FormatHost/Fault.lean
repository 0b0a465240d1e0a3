import FormatHost.Complaint
import FormatHost.Json.Parser
import FormatHost.Number.Double
import FormatHost.Text.Utf8
import FormatHost.Transfer.Range
/-!
# Faults

Everything that can go wrong between the host, a guest and the pool, by cause. The kind of a fault
decides who handles it; the message is what people and guests read.
-/
namespace FormatHost

/-- The classes of faults. -/
inductive FaultKind where
  | outOfBounds
  | invalidEncoding
  | missingPrecondition
  | unboundMemory
  | load
  | deserialization
  | instantiation
  | guest
  | host
  | format
  | unavailable
  | value
  | type
  | member
  | overflow
  | runtime
  | jsonText
  | recursion
  deriving DecidableEq, Repr

namespace FaultKind

/-- Faults of the host's own protocol. The others come from values that no caller should pass, and from
configurations that are nested too deep. -/
def isDeclared : FaultKind → Bool
  | outOfBounds | invalidEncoding | missingPrecondition | unboundMemory | load | deserialization
  | instantiation | guest | host | format | unavailable => true
  | value | type | member | overflow | runtime | jsonText | recursion => false

/-- Faults that report a failed format request; an unavailable plugin is one of them. -/
def isFormat : FaultKind → Bool
  | format | unavailable => true
  | _ => false

end FaultKind

/-- The causes. -/
inductive Fault where
  /-- A transfer left the memory or the buffer. -/
  | outOfBounds (range : OutOfBounds)
  /-- Staged bytes are no text. -/
  | invalidEncoding (what : String) (refusal : Utf8.Refusal)
  /-- A format request came without a path. -/
  | pathMissing (plugin : String)
  /-- A host function ran before the memory was bound. -/
  | unbound (plugin : String)
  /-- The module bytes are no module. -/
  | undecodable (detail : String)
  /-- An import does not fit or the start function trapped. -/
  | uninstantiable (detail : String)
  /-- A host function failed under the start function. -/
  | startFailed (cause : Fault)
  /-- The module has no memory. -/
  | memoryMissing
  /-- What the module exports as its memory is none. -/
  | memoryOfOtherKind
  /-- The guest failed when asked for its schema version. -/
  | schemaUnreported (plugin : String) (cause : Fault)
  /-- The guest speaks another schema version. -/
  | schemaMismatch (plugin : String) (version expected : Int)
  /-- The guest lacks an export. -/
  | exportMissing (plugin name : String)
  /-- An export failed. -/
  | exportFailed (plugin name : String) (cause : Fault)
  /-- The guest's window for transfers is empty. -/
  | windowEmpty (plugin : String)
  /-- The window is used although the guest never told its size. -/
  | windowUnknown
  /-- The window is used although it is empty. -/
  | windowStalled
  /-- The guest's answer is no text. -/
  | answerNotText (plugin name : String)
  /-- The guest's description of itself is malformed. -/
  | infoMalformed (plugin : String) (complaints : List Complaint)
  /-- The guest's list of diagnostics is malformed. -/
  | diagnosticsMalformed (plugin : String) (complaints : List Complaint)
  /-- The instance is in the middle of a format call. -/
  | busy (plugin : String)
  /-- The guest answered a format call with an unknown status. -/
  | statusUnknown (plugin : String) (status : Int)
  /-- Guest code stopped itself. -/
  | trap (message : String)
  /-- The guest reported that it cannot format the text. -/
  | reported (message : String)
  /-- The guest found errors in its configuration. -/
  | configurationRejected (plugin details : String)
  /-- An instance broke the protocol during a format call. -/
  | crashed (cause : Fault)
  /-- Too many plugins are active inside each other. -/
  | depthExceeded (limit : Nat) (chain : List String)
  /-- No plugin handles the path. -/
  | noPlugin (path : String)
  /-- The format call took too long. -/
  | timedOut (path : String) (limit : Double)
  /-- The plugin is switched off. -/
  | disabled (plugin reason : String)
  /-- All instances of the plugin stayed busy. -/
  | exhausted (plugin : String) (timeout : Double) (lent limit : Nat)
  /-- A new instance could not be made. -/
  | creationFailed (plugin : String) (cause : Fault)
  /-- The name cannot be the name of a plugin. -/
  | invalidName (name : String)
  /-- A value of this kind has no form in a configuration text. -/
  | notSerializable (kind : String)
  /-- A key of this kind has no form in a configuration text. -/
  | keyNotSerializable (kind : String)
  /-- An integer has too many digits. -/
  | integerTooLong
  /-- The text is not JSON. -/
  | notJson
  /-- The stack has no room for a container of a JSON text. -/
  | tooDeep (container : Json.Container)
  /-- A value of a kind that does not fit its place. -/
  | unfit (kind : FaultKind)
  /-- A fault that code outside the library raised. -/
  | raised (kind : FaultKind) (message : String)
  deriving Repr, Inhabited

namespace Fault

/-- The class of a fault. -/
def kind : Fault → FaultKind
  | outOfBounds _ => .outOfBounds
  | invalidEncoding .. => .invalidEncoding
  | pathMissing _ => .missingPrecondition
  | unbound _ => .unboundMemory
  | undecodable _ => .deserialization
  | uninstantiable _ | startFailed _ | memoryMissing | memoryOfOtherKind => .instantiation
  | schemaUnreported .. | schemaMismatch .. => .load
  | exportMissing .. | exportFailed .. | windowEmpty _ | answerNotText .. | infoMalformed ..
  | diagnosticsMalformed .. | busy _ | statusUnknown .. => .guest
  | windowUnknown => .type
  | windowStalled => .value
  | trap _ => .host
  | reported _ | configurationRejected .. | crashed _ | depthExceeded .. | noPlugin _
  | timedOut .. => .format
  | disabled .. | exhausted .. | creationFailed .. => .unavailable
  | invalidName _ | integerTooLong => .value
  | notSerializable _ | keyNotSerializable _ => .type
  | notJson => .jsonText
  | tooDeep _ => .recursion
  | unfit kind => kind
  | raised kind _ => kind

/-- A plugin's name as messages quote it. -/
def named (plugin : String) : String := "Plugin '" ++ plugin ++ "'"

/-- The message of a fault. -/
def message : Fault → String
  | outOfBounds range => range.message
  | invalidEncoding what refusal => what ++ " is not valid UTF-8: " ++ refusal.message
  | pathMissing plugin => named plugin ++ " called host_format without setting a file path first"
  | unbound plugin =>
    "host function called for plugin '" ++ plugin ++ "' before its memory was bound"
  | undecodable detail => "Error deserializing compiled wasm module: " ++ detail
  | uninstantiable detail => "Error instantiating module: " ++ detail
  | startFailed cause => "Error instantiating module: " ++ cause.message
  | memoryMissing => "Module does not export 'memory'"
  | memoryOfOtherKind => "Module export 'memory' is not a memory"
  | schemaUnreported plugin cause =>
    named plugin ++ " did not report a schema version: " ++ cause.message
  | schemaMismatch plugin version expected =>
    named plugin ++ " uses schema version " ++ toString version ++ ", expected " ++
      toString expected
  | exportMissing plugin name => named plugin ++ " does not export '" ++ name ++ "'"
  | exportFailed plugin name cause => named plugin ++ " failed in " ++ name ++ ": " ++ cause.message
  | windowEmpty plugin => named plugin ++ " reported an empty memory buffer"
  | windowUnknown => "the size of the memory buffer is not known"
  | windowStalled => "the memory buffer is empty"
  | answerNotText plugin name => named plugin ++ " returned invalid UTF-8 from " ++ name
  | infoMalformed plugin complaints =>
    named plugin ++ " returned invalid plugin info: " ++ Complaint.messages complaints
  | diagnosticsMalformed plugin complaints =>
    named plugin ++ " returned invalid config diagnostics: " ++ Complaint.messages complaints
  | busy plugin => named plugin ++ " instance is already handling a format call"
  | statusUnknown plugin status =>
    named plugin ++ " returned unknown format status " ++ toString status
  | trap message => message
  | reported message => message
  | configurationRejected plugin details =>
    named plugin ++ " has configuration errors: " ++ details
  | crashed cause => cause.message
  | depthExceeded limit chain =>
    "Maximum plugin nesting depth (" ++ toString limit ++ ") exceeded: " ++
      " -> ".intercalate chain
  | noPlugin path => "No plugin found to format " ++ path
  | timedOut path limit => "Formatting " ++ path ++ " timed out after " ++ limit.fixed 1 ++ "s"
  | disabled plugin reason => named plugin ++ " is disabled: " ++ reason
  | exhausted plugin timeout lent limit =>
    "No instance of plugin '" ++ plugin ++ "' became available within " ++ timeout.fixed 1 ++
      "s (busy=" ++ toString lent ++ " max=" ++ toString limit ++ ")"
  | creationFailed plugin cause =>
    "Could not create instance of plugin '" ++ plugin ++ "': " ++ cause.message
  | invalidName name => "Invalid plugin name: " ++ name
  | notSerializable kind => "Object of type " ++ kind ++ " is not JSON serializable"
  | keyNotSerializable kind =>
    "keys must be str, int, float, bool or None, not " ++ kind
  | integerTooLong =>
    "Exceeds the limit (4300 digits) for integer string conversion"
  | notJson => "the text is not JSON"
  | tooDeep .array =>
    "maximum recursion depth exceeded while decoding a JSON array from a unicode string"
  | tooDeep .object =>
    "maximum recursion depth exceeded while decoding a JSON object from a unicode string"
  | unfit _ => "the value does not fit its place"
  | raised _ message => message

end Fault

end FormatHost
