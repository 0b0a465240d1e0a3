import FormatHost.Config.Text
import FormatHost.Fault
import FormatHost.Host.Call
import FormatHost.Transfer.Buffer
import FormatHost.Transfer.Slot
/-!
# The host's side of the boundary

What the host keeps for one guest while values cross between them, and what each host function does
to it. A function either finishes at once or asks for a text to be formatted; the answer is then put
back in place. A failed call may leave its first effects behind: a take function empties the buffer
before it looks at the bytes, and a format request takes the override and the path before it looks
for them. An override is read with the room that the host's stack has left.
-/
namespace FormatHost

/-- A guest's wish to have a text formatted. -/
structure Request where
  caller : String
  path : String
  text : String
  override : ConfigMap
  deriving DecidableEq, Repr

/-- What becomes of a request. -/
inductive Outcome where
  | unchanged
  | changed (text : String)
  | failed (message : String)
  deriving DecidableEq, Repr

/-- The status by which guests learn of an outcome. -/
def Outcome.status : Outcome → Nat
  | unchanged => 0
  | changed _ => 1
  | failed _ => 2

/-- The host's state behind one guest's host functions. -/
structure Boundary where
  plugin : String
  bound : Bool
  override : Slot ConfigMap
  path : Slot String
  formatted : Slot String
  error : Slot String
  buffer : Buffer
  deriving DecidableEq, Repr

/-- How a call goes on. -/
inductive Effect where
  | finished (result : Except Fault (Option Nat))
  | asks (request : Request)

namespace Boundary

/-- Before anything has happened; the memory is not known yet. -/
def fresh (plugin : String) : Boundary :=
  ⟨plugin, false, .empty, .empty, .empty, .empty, .empty⟩

/-- The memory is known from now on. -/
def bind (b : Boundary) : Boundary := { b with bound := true }

/-- A call without result that succeeded. -/
def done : Effect := .finished (.ok none)

/-- A failed call. -/
def fails (fault : Fault) : Effect := .finished (.error fault)

/-- Stages a range of the memory behind the bytes that are staged. -/
def readBuffer (b : Boundary) (m : Memory) (pointer length : Nat) : Effect × Boundary :=
  match m.read pointer length with
  | .error e => (fails (.outOfBounds e), b)
  | .ok data => (done, { b with buffer := b.buffer.extend data })

/-- Copies a range of the staged bytes into the memory. -/
def writeBuffer (b : Boundary) (m : Memory) (pointer offset length : Nat) : Effect × Memory :=
  match b.buffer.read offset length with
  | .error e => (fails (.outOfBounds e), m)
  | .ok data =>
    match m.write pointer data with
    | .error e => (fails (.outOfBounds e), m)
    | .ok m => (done, m)

/-- Takes the staged bytes as the override of the next request. -/
def takeOverride (room : Nat) (b : Boundary) : Effect × Boundary :=
  let taken := { b with buffer := Buffer.empty }
  match ConfigMap.parse room b.buffer.data with
  | .error fault => (fails fault, taken)
  | .ok config => (done, { taken with override := ⟨some config⟩ })

/-- Takes the staged bytes as the path of the next request. -/
def takePath (b : Boundary) : Effect × Boundary :=
  let taken := { b with buffer := Buffer.empty }
  match Utf8.decode b.buffer.data with
  | .error refusal => (fails (.invalidEncoding "file path" refusal), taken)
  | .ok path => (done, { taken with path := ⟨some path⟩ })

/-- Takes override, path and text of a request. Text that is no UTF-8 is answered like a failed
request. -/
def takeRequest (b : Boundary) : Effect × Boundary :=
  let override := b.override.value.getD []
  let b := { b with override := .empty }
  match b.path.value with
  | none => (fails (.pathMissing b.plugin), b)
  | some path =>
    let data := b.buffer.data
    let b :=
      { b with path := .empty, buffer := .empty, formatted := .empty, error := .empty }
    match Utf8.decode data with
    | .error refusal =>
      let fault := Fault.invalidEncoding ("text for " ++ path) refusal
      (.finished (.ok (some 2)), { b with error := ⟨some fault.message⟩ })
    | .ok text => (.asks ⟨b.plugin, path, text, override⟩, b)

/-- Stages the text of a slot and empties the slot. -/
def deliver (b : Boundary) (text : Option String) : Effect × Boundary :=
  let data := Utf8.encode (text.getD "")
  (.finished (.ok (some data.length)), { b with buffer := .replace data })

/-- One host function. Without a known memory it fails and changes nothing. -/
def call (room : Nat) (c : HostCall) (b : Boundary) (m : Memory) : Effect × Boundary × Memory :=
  if !b.bound then (fails (.unbound b.plugin), b, m)
  else match c with
  | .clearBytes length => (done, { b with buffer := .clear length }, m)
  | .readBuffer pointer length =>
    let (e, b) := readBuffer b m pointer length
    (e, b, m)
  | .writeBuffer pointer offset length =>
    let (e, m) := writeBuffer b m pointer offset length
    (e, b, m)
  | .takeOverrideConfig =>
    let (e, b) := takeOverride room b
    (e, b, m)
  | .takeFilePath =>
    let (e, b) := takePath b
    (e, b, m)
  | .format =>
    let (e, b) := takeRequest b
    (e, b, m)
  | .getFormattedText =>
    let (e, b) := deliver { b with formatted := .empty } b.formatted.value
    (e, b, m)
  | .getErrorText =>
    let (e, b) := deliver { b with error := .empty } b.error.value
    (e, b, m)

/-- Puts the outcome of a request in place. -/
def conclude (outcome : Outcome) (b : Boundary) : Boundary :=
  match outcome with
  | .unchanged => b
  | .changed text => { b with formatted := ⟨some text⟩ }
  | .failed message => { b with error := ⟨some message⟩ }

theorem call_of_unbound {b : Boundary} {m : Memory} {room : Nat} (unbound : b.bound = false)
    (c : HostCall) : b.call room c m = (fails (.unbound b.plugin), b, m) := by
  unfold Boundary.call
  rw [if_pos (by simp [unbound])]

variable {b : Boundary} {m : Memory} (room : Nat)

theorem call_clearBytes (bound : b.bound = true) (length : Nat) :
    b.call room (.clearBytes length) m = (done, { b with buffer := .clear length }, m) := by
  rw [call, if_neg (by simp [bound])]

theorem call_readBuffer (bound : b.bound = true) {pointer length : Nat} {data : Bytes}
    (read : m.read pointer length = .ok data) :
    b.call room (.readBuffer pointer length) m = (done, { b with buffer := b.buffer.extend data }, m) := by
  rw [call, if_neg (by simp [bound])]
  simp only [readBuffer, read]

theorem call_writeBuffer (bound : b.bound = true) {pointer offset length : Nat} {data : Bytes}
    {m' : Memory} (read : b.buffer.read offset length = .ok data)
    (written : m.write pointer data = .ok m') :
    b.call room (.writeBuffer pointer offset length) m = (done, b, m') := by
  rw [call, if_neg (by simp [bound])]
  simp only [writeBuffer, read, written]

end Boundary

/-- The host functions of one guest: those of a boundary, or functions that do nothing, for guests
that never format through others. -/
abbrev HostTable := Option Boundary

namespace HostTable

/-- What a function that does nothing answers. -/
def idleResult : HostCall → Option Nat
  | .format | .getFormattedText | .getErrorText => some 0
  | _ => none

/-- The table knows the memory from now on. -/
def bind (t : HostTable) : HostTable := t.map Boundary.bind

variable {m : Type → Type} [Monad m]

/-- One host function with its request answered by `ask`. -/
def call (room : Nat) (ask : Request → m Outcome) (c : HostCall) (t : HostTable) (memory : Memory) :
    m (Except Fault (Option Nat) × HostTable × Memory) :=
  match t with
  | none => pure (.ok (idleResult c), none, memory)
  | some b =>
    match b.call room c memory with
    | (.finished result, b, memory) => pure (result, some b, memory)
    | (.asks request, b, memory) => do
      let outcome ← ask request
      pure (.ok (some outcome.status), some (b.conclude outcome), memory)

end HostTable

end FormatHost
