import FormatHost.Guest.Exchange
/-!
# Staging with the host

How a guest has its host format a text. What the host must know is put piece by piece into a place of
the guest's memory, from where the host reads it, and the answer comes back the same way.
-/
namespace FormatHost.Act

variable {σ ε : Type}

/-- Pieces of a size; there are none if it is not positive. -/
def piecesOf (size : Int) (data : Bytes) : List Bytes :=
  match size with
  | .ofNat (pred + 1) => pieces pred data
  | _ => []

/-- Has the host read pieces one by one. -/
def stagePieces (place : Nat) : List Bytes → Act σ ε → Act σ ε
  | [], next => next
  | piece :: rest, next =>
    .poke place piece
      (.host (.readBuffer place piece.length) fun _ => stagePieces place rest next)

/-- Stages bytes with the host. -/
def stage (place : Nat) (size : Int) (data : Bytes) (next : Act σ ε) : Act σ ε :=
  .host (.clearBytes data.length) fun _ => stagePieces place (piecesOf size data) next

/-- Fetches parts of what the host staged, from an offset on. -/
def fetchParts (place : Nat) : List Bytes → Nat → Bytes → (Bytes → Act σ ε) → Act σ ε
  | [], _, got, next => next got
  | part :: rest, offset, got, next =>
    .host (.writeBuffer place offset part.length) fun _ =>
      .peek place part.length fun data =>
        fetchParts place rest (offset + part.length) (got ++ data) next

/-- Fetches the text that a getter of the host announces. -/
def fetch (place : Nat) (size : Int) (getter : HostCall) (next : String → Act σ ε) : Act σ ε :=
  .host getter fun n =>
    let parts := piecesOf size (List.replicate (n.getD 0) 0)
    fetchParts place parts 0 [] fun data =>
      match Utf8.decode data with
      | .ok text => next text
      | .error refusal => .trap refusal.message

/-- Has the host format a text, and goes on with what becomes of it. -/
def askHost (place : Nat) (size : Int) (path text : String) (override : Option String)
    (next : Outcome → Act σ ε) : Act σ ε :=
  let request :=
    stage place size (Utf8.encode path) <| .host .takeFilePath fun _ =>
      stage place size (Utf8.encode text) <| .host .format fun status =>
        match status with
        | some 1 => fetch place size .getFormattedText fun t => next (.changed t)
        | some 2 => fetch place size .getErrorText fun t => next (.failed t)
        | _ => next .unchanged
  match override with
  | none => request
  | some o => stage place size (Utf8.encode o) <| .host .takeOverrideConfig fun _ => request

end FormatHost.Act
