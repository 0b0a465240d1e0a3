import FormatHost.Host.Boundary
import FormatHost.Log.Record
/-!
# Dispatch

A guest's request goes to the pool that the host was set up with. Whatever goes wrong there reaches
the guest as a failed outcome; nothing of it stops the guest.
-/
namespace FormatHost

/-- What may format the texts of others. -/
abbrev Formatter (m : Type → Type) := Request → m (Except Fault (Option String))

variable {m : Type → Type} [Monad m]

/-- The logger of this part. -/
def dispatchLogger : String := "fmtbridge.dispatch"

/-- Hands a request to the pool, if there is one, and notes how it went. -/
def dispatch (note : LogRecord → m Unit) (pool : Option (Formatter m)) (request : Request) :
    m Outcome :=
  match pool with
  | none =>
    pure (.failed (Fault.named request.caller ++ " has no plugin pool to format with"))
  | some format => do
    note (.debug dispatchLogger
      ("Plugin " ++ request.caller ++ " requested formatting of " ++ request.path))
    match ← format request with
    | .error fault => do
      note (.warning dispatchLogger
        ("Nested formatting of " ++ request.path ++ " for plugin " ++ request.caller ++
          " failed: " ++ fault.message))
      pure (.failed fault.message)
    | .ok none => pure .unchanged
    | .ok (some text) => pure (.changed text)

end FormatHost
