import FormatHost.Host.Boundary
/-!
# Guest behaviour

What an export of a guest does when it is called: it computes with its own state and with the state
that all guests of an engine share, reads and writes its memory, calls host functions, and ends with
a result or a trap. A guest may do this in any way whatever; nothing about its program is assumed.
-/
namespace FormatHost

/-- A behaviour over a guest's own state `σ` and the shared state `ε`, each step with what follows
it. -/
inductive Act (σ ε : Type) where
  /-- Ends with a result. -/
  | done (result : Int)
  /-- Ends with a trap. -/
  | trap (message : String)
  /-- Looks at both states. -/
  | look (next : σ → ε → Act σ ε)
  /-- Sets both states. -/
  | keep (state : σ) (engine : ε) (next : Act σ ε)
  /-- Reads a range of its memory. -/
  | peek (pointer length : Int) (next : Bytes → Act σ ε)
  /-- Writes a range of its memory. -/
  | poke (pointer : Int) (data : Bytes) (next : Act σ ε)
  /-- Asks for more memory and learns the number of pages before, or `-1`. -/
  | grow (pages : Int) (next : Int → Act σ ε)
  /-- Calls a host function. -/
  | host (call : HostCall) (next : Option Nat → Act σ ε)
  /-- Lets time pass until whoever waits for the call has given up. -/
  | pause (next : Act σ ε)
  /-- Asks the host to format another text with this very instance. -/
  | reenter (path text : String) (next : Except Fault (Option String) → Act σ ε)

/-- The exports of a module: what each does with its arguments. -/
abbrev Exports (σ ε : Type) := String → Option (List Int → Act σ ε)

/-- What a module exports under the name of the memory. -/
inductive MemoryExport where
  | memory
  | absent
  | otherKind
  deriving DecidableEq, Repr

/-- A decoded module. -/
structure Module (σ ε : Type) where
  /-- The state of a new instance. -/
  initial : σ
  /-- The size of the memory in bytes. -/
  memorySize : Nat
  /-- What is exported as the memory. -/
  memoryExport : MemoryExport
  /-- Why the imports cannot be satisfied, if they cannot. -/
  unlinkable : Option String
  /-- What runs when an instance is made. -/
  start : Option (Act σ ε)
  /-- The other exports. -/
  exports : Exports σ ε

/-- What guests run on. -/
structure Engine (σ ε : Type) where
  /-- Decodes module bytes, or refuses them. The shared state may take note. -/
  decode : Bytes → ε → Except Fault (Module σ ε) × ε
  /-- For how many containers of a configuration, inside the outermost one, the stack has room where so
  many plugins may still become active. -/
  room : Nat → Nat

instance {σ ε : Type} : CoeFun (Engine σ ε) fun _ => Bytes → ε → Except Fault (Module σ ε) × ε :=
  ⟨Engine.decode⟩

/-- A loaded plugin instance as its host sees it. -/
structure Instance (σ ε : Type) where
  plugin : String
  exports : Exports σ ε
  state : σ
  memory : Memory
  table : HostTable
  /-- Where the window for transfers starts, once the guest has told it. -/
  windowStart : Option Int
  /-- How many bytes the window has, once the guest has told it. -/
  windowSize : Option Int
  /-- The guest broke the protocol; the instance must not be used again. -/
  poisoned : Bool
  /-- A configuration or format call is going on. -/
  busy : Bool

/-- One instance with everything around it: the state that guests share, and the world that answers
requests. -/
structure Scene (σ ε ω : Type) where
  guest : Instance σ ε
  engine : ε
  world : ω

/-- What the world does for guests. It sees the shared state, because a request may run other
guests. -/
structure Outside (ε ω : Type) where
  ask : Request → StateM (ε × ω) Outcome
  pause : StateM (ε × ω) Unit
  /-- For how many containers of a configuration, inside the outermost one, the host's stack has room
  while the guest runs. -/
  room : Nat
  /-- Guests have a way to the very instance that hosts them. Those of a pool have none: all they
  know of their host are its functions. -/
  selfCalls : Bool := true

/-- A computation on a scene that may fail; what it did before it failed stays done. -/
abbrev GuestM (σ ε ω : Type) := ExceptT Fault (StateM (Scene σ ε ω))

/-- How a format call on the same instance is answered. -/
abbrev Again (σ ε ω : Type) := String → String → GuestM σ ε ω (Option String)

namespace Act

variable {σ ε ω : Type}

/-- The number of bytes of a page. -/
def pageSize : Nat := 65536

/-- The greatest number of pages of a memory. -/
def maxPages : Nat := 4

/-- Grows a memory by pages, and tells the number of pages before, unless it would get too large. -/
def growMemory (pages : Int) (m : Memory) : Int × Memory :=
  let before := m.size / pageSize
  if 0 ≤ pages ∧ before + pages ≤ maxPages then (before, m.grow (pages.toNat * pageSize))
  else (-1, m)

/-- Runs a behaviour to its end. The first failure of a host function or of an access to the memory
ends it. -/
def run (out : Outside ε ω) (again : Again σ ε ω) :
    Act σ ε → Scene σ ε ω → Except Fault Int × Scene σ ε ω
  | done result, s => (.ok result, s)
  | trap message, s => (.error (.trap message), s)
  | look next, s => run out again (next s.guest.state s.engine) s
  | keep state engine next, s =>
    run out again next { s with guest := { s.guest with state := state }, engine := engine }
  | peek pointer length next, s =>
    match s.guest.memory.read pointer length with
    | .error e => (.error (.outOfBounds e), s)
    | .ok data => run out again (next data) s
  | poke pointer data next, s =>
    match s.guest.memory.write pointer data with
    | .error e => (.error (.outOfBounds e), s)
    | .ok m => run out again next { s with guest := { s.guest with memory := m } }
  | grow pages next, s =>
    let (before, m) := growMemory pages s.guest.memory
    run out again (next before) { s with guest := { s.guest with memory := m } }
  | host call next, s =>
    let ((result, table, memory), engine, world) :=
      (HostTable.call out.room out.ask call s.guest.table s.guest.memory).run (s.engine, s.world)
    let s : Scene σ ε ω :=
      { guest := { s.guest with table := table, memory := memory }, engine := engine, world := world }
    match result with
    | .error e => (.error e, s)
    | .ok value => run out again (next value) s
  | pause next, s =>
    let (_, engine, world) := out.pause.run (s.engine, s.world)
    run out again next { s with engine := engine, world := world }
  | reenter path text next, s =>
    if out.selfCalls then
      let (result, s) := (again path text).run.run s
      run out again (next result) s
    else (.error (.trap "the instance is out of reach"), s)

end Act

end FormatHost
