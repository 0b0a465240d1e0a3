import FormatHost.Guest.Script
import FormatHost.Proofs.Pool.Runs
/-!
# What plugins can make of a format call

Whatever the exports of a plugin do, a format call answers or fails with a fault that says so, and a
breach of the protocol costs the plugin its instance and one crash. There are three leaks. A piece of a
transfer that leaves the guest's memory is refused by the memory itself: its fault reaches the caller as
it is, and the instance is lent again. So does the fault of a configuration that the host's stack has no
room for when a guest hands it over, and that of an integer that is too long to be written.
-/
namespace FormatHost

open Ledger

variable {σ ε : Type}

/-- What a format call comes to for its caller, with the pool that it leaves. -/
inductive CallOutcome (m : ConfigMap) (p : Pool σ ε) : Except Fault (Option String) → Prop
  | answered (v : Option String) : CallOutcome m p (.ok v)
  /-- Formatting failed, and the fault says so. -/
  | failed {f : Fault} (kind : f.kind.isFormat = true) : CallOutcome m p (.error f)
  /-- A transfer left the memory of an instance that waits for its next borrower. -/
  | leaked {f : Fault} {id : RecordId} {n : InstanceId} {g : Instance σ ε} {r : PluginRecord}
      (there : p.instances[n]? = some (id, g)) (strayed : g.Strayed f)
      (healthy : g.poisoned = false) (record : p.records[id]? = some r) (waits : n ∈ r.idle) :
      CallOutcome m p (.error f)
  /-- The stack had no room for a configuration, handed over by an instance that waits for its next
  borrower. -/
  | interrupted {f : Fault} {id : RecordId} {n : InstanceId} {g : Instance σ ε} {r : PluginRecord}
      (there : p.instances[n]? = some (id, g)) (out : g.exports.RunsOut f)
      (healthy : g.poisoned = false) (record : p.records[id]? = some r) (waits : n ∈ r.idle) :
      CallOutcome m p (.error f)
  /-- It had none for one that an instance in the making handed over, so none was lent. -/
  | unmade {f : Fault} {id : RecordId} (out : p.RunsOut id f) : CallOutcome m p (.error f)
  /-- An integer of the override is too long. -/
  | unwritten (long : ¬m.Writable) : CallOutcome m p (.error .integerTooLong)

theorem Settlement.outcome {m : ConfigMap} {id : RecordId} {n : InstanceId} {q p : Pool σ ε}
    {answer r : Except Fault (Option String)} (settled : Settlement m id n q p answer r) :
    CallOutcome m p r := by
  cases settled with
  | answered => exact .answered _
  | crashed => exact .failed rfl
  | refused reason there healthy before record crashes waits =>
    cases reason with
    | strayed strayed => exact .leaked there strayed healthy record waits
    | reported message same => exact .failed (same ▸ rfl)
    | unwritten same long => exact same ▸ .unwritten long
    | interrupted out => exact .interrupted there out healthy record waits

/-- In every ledger that the threads of a pool can get to, a format call comes to one of six outcomes;
and whenever a thread has borrowed an instance, at whatever depth, a breach of the protocol by the
instance is a crash of its record and the instance is dropped. -/
theorem outcome_of_reachable {engine : Engine σ ε} {config : PoolConfig} {s : Ledger σ ε}
    (reachable : Reachable (habit engine) config s) (declared : Declared engine)
    (path text : String) (m : ConfigMap) :
    (∀ e, CallOutcome m (ending (PoolM.formatText engine path text m.toDatum) (e, s.pool)).2.2
      (ending (PoolM.formatText engine path text m.toDatum) (e, s.pool)).1) ∧
    ∀ depth id n x, Past (habit engine) s s.loans {.lent id n} x.2 → s.Usable id →
      Holds Loose id n x.2 →
      let out := PoolM.below engine depth
      let used := ending (PoolM.returning id n (PoolM.formatLent out id path text m.toDatum n)) x
      Settlement m id n (lentCall out m id n path text x).2.2 used.2.2
        (lentCall out m id n path text x).1 used.1 := by
  have o : Orderly engine s := .of_reachable reachable
  constructor
  · intro e
    rcases ends_formatCall o path text m (e, s.pool) (.refl s) with
      ⟨failed, -⟩ | ⟨id, -, ⟨f, failed, isFormat⟩ | ⟨n, x, -, -, settled⟩⟩
    · rw [failed]
      exact .failed rfl
    · rw [failed]
      exact (isFormat declared).elim .failed .unmade
    · exact settled.outcome
  · intro depth id n x past usable holds
    exact (settlement_of_lent o (discreet_below engine depth) usable path text m past holds).2

namespace Script

/-- A plugin that claims a window of a hundred bytes and has sixty. -/
def overhanging : Script where
  memorySize := 60
  bufferPointer := 0
  bufferSize := 100
  data := [("get_plugin_info", Utf8.encode
    "\x7b\"name\":\"a\",\"configKey\":\"a\",\"fileExtensions\":[\"a\"]\x7d")]
  returns := []
  traps := []
  missing := []
  format := [.echo]
  loadFaults := []

/-- An engine that knows one script. -/
def single (script : Script) : Engine ScriptState ScriptCounts := engine [([1], script)]

/-- An engine that knows two scripts. -/
def double (script script' : Script) : Engine ScriptState ScriptCounts :=
  engine [([1], script), ([2], script')]

/-- Scripts whose loads never fail make an engine that fails for unknown modules only. -/
theorem declared_engine {scripts : List (Bytes × Script)}
    (faultless : ∀ entry ∈ scripts, entry.2.loadFaults = []) : Declared (engine scripts) := by
  intro key counts f failed
  unfold engine engineOf at failed
  dsimp only at failed
  split at failed
  · obtain rfl := Except.error.inj failed
    rfl
  · next found =>
    obtain ⟨entry, there, rfl⟩ := Option.map_eq_some_iff.1 found
    simp [loadFault?, nth?, faultless entry (List.mem_of_find?_eq_some there)] at failed

theorem declared_single {script : Script} (faultless : script.loadFaults = []) :
    Declared (single script) :=
  declared_engine (List.forall_mem_singleton.2 faultless)

theorem declared_double {script script' : Script} (faultless : script.loadFaults = [])
    (faultless' : script'.loadFaults = []) : Declared (double script script') :=
  declared_engine (List.forall_mem_cons.2 ⟨faultless, List.forall_mem_singleton.2 faultless'⟩)

/-- The setup of a small pool. -/
def small : PoolConfig :=
  ⟨⟨1, .zero false, .zero false, 3, 2, by decide, by decide, by decide⟩, [], []⟩

/-- A pool with a plugin of one script. -/
def pooled (script : Script) : ScriptCounts × Pool ScriptState ScriptCounts :=
  (ending (PoolM.register (single script) "aa" [1]) (.zero, .empty small)).2

theorem ran_pooled (script : Script) : Ran (single script) small (pooled script) := by
  have opened : Ran (single script) small (ScriptCounts.zero, Pool.empty small) := .opened _
  exact opened.registered "aa" [1]

/-- Has an empty text formatted, and answers whatever becomes of it. -/
def asking (path : Bytes) : FormatStep :=
  .host [.poke 0 path, .host (.clearBytes 3), .host (.readBuffer 0 3), .host .takeFilePath,
    .host .format]

/-- A plugin for one kind of file that asks for another file. -/
def asker (kind : String) (path : Bytes) : Script := { overhanging with
  data := [("get_plugin_info", Utf8.encode ("\x7b\"name\":\"" ++ kind ++ "\",\"configKey\":\"" ++ kind ++
    "\",\"fileExtensions\":[\"" ++ kind ++ "\"]\x7d"))]
  format := [asking path] }

/-- A pool with plugins of two scripts. -/
def coupled (config : PoolConfig) (script script' : Script) :
    ScriptCounts × Pool ScriptState ScriptCounts :=
  (ending (PoolM.register (double script script') "bb" [2])
    (ending (PoolM.register (double script script') "aa" [1]) (.zero, .empty config)).2).2

theorem ran_coupled (config : PoolConfig) (script script' : Script) :
    Ran (double script script') config (coupled config script script') := by
  have opened : Ran (double script script') config (ScriptCounts.zero, Pool.empty config) := .opened _
  rw [coupled]
  exact (opened.registered "aa" [1]).registered "bb" [2]

/-- A plugin that answers its first format call, and traps in all others. -/
def wavering : Script := { overhanging with format := [.echo, .trap "boom"] }

/-- A pool with that plugin after its first call. -/
def wavered : ScriptCounts × Pool ScriptState ScriptCounts :=
  (ending (PoolM.formatText (single wavering) "f.a" "x" (ConfigMap.toDatum [])) (pooled wavering)).2

/-- Its instance is lent for the second call. -/
def waveringLent : Except Fault InstanceId × ScriptCounts × Pool ScriptState ScriptCounts :=
  ending (PoolM.acquire (single wavering) (PoolM.below (single wavering) 2) 0) wavered

/-- The second call, and what the pool makes of it. -/
def waveringUsed : Except Fault (Option String) × ScriptCounts × Pool ScriptState ScriptCounts :=
  ending (PoolM.returning 0 0 (PoolM.formatLent (PoolM.below (single wavering) 2) 0 "f.a" "x"
    (ConfigMap.toDatum []) 0)) waveringLent.2

end Script

open Script

/-- The general statement for a plugin that answers and then crashes: the second call costs it the instance
and one crash. -/
theorem outcome_of_wavering :
    Declared (single wavering) ∧
      (∃ retired, Reachable (habit (single wavering)) small ⟨(pooled wavering).2, 0, retired⟩ ∧
        CallOutcome [] wavered.2 (ending (PoolM.formatText (single wavering) "f.a" "x"
          (ConfigMap.toDatum [])) (pooled wavering)).1) ∧
      ∃ retired, Reachable (habit (single wavering)) small ⟨wavered.2, 0, retired⟩ ∧
        CallOutcome [] (ending (PoolM.formatText (single wavering) "f.a" "x" (ConfigMap.toDatum []))
          wavered).2.2
          (ending (PoolM.formatText (single wavering) "f.a" "x" (ConfigMap.toDatum [])) wavered).1 ∧
        Past (habit (single wavering)) ⟨wavered.2, 0, retired⟩ 0 {.lent 0 0} waveringLent.2.2 ∧
        Settlement [] 0 0
          (lentCall (PoolM.below (single wavering) 2) [] 0 0 "f.a" "x" waveringLent.2).2.2
          waveringUsed.2.2
          (lentCall (PoolM.below (single wavering) 2) [] 0 0 "f.a" "x" waveringLent.2).1
          waveringUsed.1 ∧
        waveringUsed.2.2.records.map (fun r => (r.idle, r.crashes)) = [([], 1)] := by
  have declared : Declared (single wavering) := declared_single rfl
  obtain ⟨retired₀, reachable₀⟩ := (ran_pooled wavering).reachable
  have answered := (outcome_of_reachable reachable₀ declared "f.a" "x" []).1 (pooled wavering).1
  refine ⟨declared, ⟨retired₀, reachable₀, answered⟩, ?_⟩
  have ran : Ran (single wavering) small wavered := (ran_pooled wavering).formatted "f.a" "x" []
  have served : (wavered.2.resolve "f.a").map Prod.fst = some 0 := by decide +kernel
  have lent : waveringLent.1.toOption = some 0 := by decide +kernel
  have counted : waveringUsed.2.2.records.map (fun r => (r.idle, r.crashes)) = [([], 1)] := by
    decide +kernel
  -- The pool stands for itself, so that nothing evaluates it again.
  unfold waveringUsed at counted ⊢
  unfold waveringLent at lent counted ⊢
  generalize wavered = x at ran served lent counted ⊢
  obtain ⟨retired, reachable⟩ := ran.reachable
  have o : Orderly (single wavering) ⟨x.2, 0, retired⟩ := .of_reachable reachable
  obtain ⟨⟨id, r⟩, resolved, rfl⟩ := Option.map_eq_some_iff.1 served
  have usable := o.balanced.usable_of_resolve resolved
  have borrowed : Borrowed (single wavering) ⟨x.2, 0, retired⟩ 0 0 _ _ :=
    ends_acquire o (discreet_below (single wavering) 2) usable x (.refl _)
  obtain ⟨outcome, settles⟩ := outcome_of_reachable reachable declared "f.a" "x" []
  refine ⟨retired, reachable, outcome x.1, ?_⟩
  revert lent counted borrowed
  rcases ending (PoolM.acquire _ _ 0) x with ⟨f | n, y⟩
  · exact fun lent => absurd lent (by simp [Except.toOption])
  · intro lent counted borrowed
    obtain rfl : n = 0 := Option.some.inj lent
    obtain ⟨past, holds⟩ := borrowed
    exact ⟨past, settles 2 0 0 y past usable holds.loose, counted⟩

/-- A text that is longer than the memory escapes as a fault of the transfer. No crash is counted, and
the instance waits for the next borrower. -/
theorem overhanging_leaks :
    ∃ f, (ending (PoolM.formatText (single overhanging) "f.a"
        (String.ofList (List.replicate 61 'x')) (.map [])) (pooled overhanging)).1 = .error f ∧
      f.kind = .outOfBounds ∧ f.kind.isFormat = false ∧
      (ending (PoolM.formatText (single overhanging) "f.a"
        (String.ofList (List.replicate 61 'x')) (.map [])) (pooled overhanging)).2.2.records.map
          (fun r => (r.idle, r.crashes)) = [([0], 0)] := by
  have evaluated : (match ending (PoolM.formatText (single overhanging) "f.a"
      (String.ofList (List.replicate 61 'x')) (.map [])) (pooled overhanging) with
    | (.error f, x) => f.kind == .outOfBounds &&
        x.2.records.map (fun r => (r.idle, r.crashes)) == [([0], 0)]
    | (.ok _, _) => false) = true := by decide +kernel
  revert evaluated
  rcases ending (PoolM.formatText (single overhanging) "f.a"
    (String.ofList (List.replicate 61 'x')) (.map [])) (pooled overhanging) with ⟨f | v, x⟩
  · intro evaluated
    obtain ⟨kind, accounts⟩ := (Bool.and_eq_true _ _).mp evaluated
    have kind : f.kind = .outOfBounds := by simpa using kind
    exact ⟨f, rfl, kind, by rw [kind]; rfl, by simpa using accounts⟩
  · exact Bool.noConfusion

end FormatHost
