import FormatHost.Files.Path
import FormatHost.Guest.Loading
import FormatHost.Host.Dispatch
import FormatHost.Pool.Chain
import FormatHost.Pool.Limits
import FormatHost.Pool.Record
/-!
# Pools

The state of a pool of plugins: all records and instances there ever were, which record each name
stands for, the chain of active plugins, and what was noted on the way. A record that was replaced
stays where it is, because its instances may still be lent.
-/
namespace FormatHost

/-- What happened to instances and records, for those who check the accounts. -/
inductive PoolEvent where
  /-- An instance starts to format inside this chain. -/
  | formatting (account : RecordId) (id : InstanceId) (chain : List String)
  /-- An instance crashed while it formatted. -/
  | crashed (account : RecordId) (id : InstanceId)
  /-- A format call of the record succeeded. -/
  | succeeded (account : RecordId)
  /-- No instance of the record was to be had. -/
  | exhausted (account : RecordId)
  deriving DecidableEq, Repr

/-- A pool of plugins. -/
structure Pool (σ ε : Type) where
  config : PoolConfig
  records : List PluginRecord
  /-- The names in the order of their first registration, with their records. -/
  registry : List (String × RecordId)
  /-- Every instance with the record that made it. -/
  instances : List (RecordId × Instance σ ε)
  chain : CallChain
  /-- Log records, newest first. -/
  journal : List LogRecord
  /-- Events, newest first. -/
  events : List PoolEvent
  /-- How long borrowers have waited in vain. -/
  waited : Double
  /-- A guest has let the time of the call run out. -/
  overran : Bool

/-- A computation on a pool that may fail; what it did before it failed stays done. -/
abbrev PoolM (σ ε : Type) := ExceptT Fault (StateM (ε × Pool σ ε))

namespace Pool

variable {σ ε : Type}

/-- A pool without plugins. -/
def empty (config : PoolConfig) : Pool σ ε where
  config
  records := []
  registry := []
  instances := []
  chain := .empty config.limits.maxDepth
  journal := []
  events := []
  waited := .zero false
  overran := false

/-- The limits. -/
def limits (p : Pool σ ε) : Limits := p.config.limits

/-- The record of a name. -/
def lookup? (p : Pool σ ε) (name : String) : Option RecordId :=
  (p.registry.find? fun e => e.1 == name).map Prod.snd

/-- Lets a name stand for a record. -/
def enroll (name : String) (id : RecordId) : List (String × RecordId) → List (String × RecordId)
  | [] => [(name, id)]
  | e :: rest => if e.1 == name then (name, id) :: rest else e :: enroll name id rest

/-- Puts an entry in front of the first one that it may precede. -/
def insertBy {α : Type} (le : α → α → Bool) (x : α) : List α → List α
  | [] => [x]
  | y :: rest => if le x y then x :: y :: rest else y :: insertBy le x rest

/-- The registered records in the order of their names. -/
def sorted (p : Pool σ ε) : List (RecordId × PluginRecord) :=
  (p.registry.filterMap fun e => p.records[e.2]?.map (e.2, ·)).foldr
    (insertBy fun a b => decide (a.2.name ≤ b.2.name)) []

/-- The first record by name that handles a path. -/
def resolve (p : Pool σ ε) (path : String) : Option (RecordId × PluginRecord) :=
  let q := Path.ofString path
  p.sorted.find? fun r => r.2.handles q.name q.suffix

/-- Changes a record. -/
def updateRecord (id : RecordId) (f : PluginRecord → PluginRecord) (p : Pool σ ε) : Pool σ ε :=
  { p with records := p.records.modify id f }

/-- Lets a name stand for a record from now on. -/
def enter (name : String) (id : RecordId) (p : Pool σ ε) : Pool σ ε :=
  { p with registry := enroll name id p.registry }

/-- Drops the idle instances of all registered records, and forgets the records. -/
def clear (p : Pool σ ε) : Pool σ ε :=
  { p with
    records := p.registry.foldl (fun rs e => rs.modify e.2 fun r => { r with idle := [] }) p.records
    registry := [] }

end Pool

namespace PoolM

variable {σ ε : Type}

/-- The logger of this part. -/
def logger : String := "fmtbridge.pool"

/-- The pool. -/
def pool : PoolM σ ε (Pool σ ε) := do return (← get).2

/-- Changes the pool. -/
def update (f : Pool σ ε → Pool σ ε) : PoolM σ ε Unit := modify fun (e, p) => (e, f p)

/-- Changes a record. -/
def updateRecord (id : RecordId) (f : PluginRecord → PluginRecord) : PoolM σ ε Unit :=
  update (Pool.updateRecord id f)

/-- Notes a log record. -/
def note (r : LogRecord) : PoolM σ ε Unit := update fun p => { p with journal := r :: p.journal }

/-- Notes an event. -/
def mark (event : PoolEvent) : PoolM σ ε Unit :=
  update fun p => { p with events := event :: p.events }

/-- A record by its number. -/
def record (id : RecordId) : PoolM σ ε PluginRecord := do
  match (← pool).records[id]? with
  | some r => return r
  | none => throw (.unfit .member)

/-- A computation whose failure is handed out as a value. -/
def attempt {α : Type} (c : PoolM σ ε α) : PoolM σ ε (Except Fault α) :=
  ExceptT.mk (do return .ok (← c.run))

/-- Drives an instance. It is away from the pool meanwhile; the pool may be used by others. -/
def withInstance {α : Type} (id : InstanceId) (call : GuestM σ ε (Pool σ ε) α) : PoolM σ ε α :=
  ExceptT.mk fun (e, p) =>
    match p.instances[id]? with
    | none => (.error (.unfit .member), e, p)
    | some (owner, g) =>
      let (result, s) := call.run.run ⟨g, e, p⟩
      (result, s.engine, { s.world with instances := s.world.instances.set id (owner, s.guest) })

/-- Notes a log record in the pool while its instances run. -/
def noteOutside (r : LogRecord) : StateM (ε × Pool σ ε) Unit :=
  modify fun (e, p) => (e, { p with journal := r :: p.journal })

/-- What instances of the pool find outside: requests go to a formatter, a pause uses up the time of
the call, and no guest reaches its own instance. -/
def outside (room : Nat) (format : String → String → String → Datum → PoolM σ ε (Option String)) :
    Outside ε (Pool σ ε) where
  ask := dispatch noteOutside
    (some fun r => (format r.caller r.path r.text r.override.toDatum).run)
  pause := modify fun (e, p) => (e, { p with overran := true })
  room
  selfCalls := false

end PoolM

end FormatHost
