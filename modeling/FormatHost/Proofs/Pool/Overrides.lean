import FormatHost.Proofs.Guest.Sequence
import FormatHost.Proofs.Pool.Containment
/-!
# Overrides in a pool

The instances of a pool serve one call after the other, and those that broke no rule wait for the next
one. A formatter sees the override of its own call, unless that is blank and an earlier call on the same
instance has left one behind. Such a call could not hand over everything: a piece of it would have left
the guest's memory, or there was no room for a configuration that the guest handed over in turn. Neither is
a breach, so the instance waits for its next borrower with the override of another one.
-/
namespace FormatHost

open Ledger Relation Script

section

variable {σ ε : Type} {view : OverrideView σ} {engine : Engine σ ε}

/-- A module whose instances start with no override and consume those that they are handed. -/
structure Module.Consuming (view : OverrideView σ) (m : Module σ ε) : Prop where
  exports : ∃ start, Consumes view start m.exports
  blank : view.override m.initial = none
  start : ∀ {ω : Type} {out : Outside ε ω} {act : Act σ ε} {s : Scene σ ε ω}, m.start = some act →
    view.override (act.run out GuestM.refused s).2.guest.state = view.override s.guest.state

/-- All modules of an engine consume their overrides. -/
def ConsumingModules (view : OverrideView σ) (engine : Engine σ ε) : Prop :=
  ∀ moduleBytes e m, (engine moduleBytes e).1 = .ok m → m.Consuming view

/-- Linking and starting a module is no matter of overrides. -/
theorem quiet_instantiate {ω : Type} {out : Outside ε ω} {start : Int} {size : Option Int}
    {g₀ : Instance σ ε} {m : Module σ ε} (consuming : m.Consuming view)
    (far : out.selfCalls = false) : Quiet view start size g₀ false (m.instantiate out) := by
  refine fun o => ends_instantiate_of_start (fun behaviour started s tame => ?_) (fun _ _ _ tame => tame)
    fun s tame => { tame with }
  have undisturbed : Undisturbed out (GuestM.refused : Again σ ε ω) false := .inl far
  obtain ⟨-, kept⟩ := Act.run_keeps out.keeps_true undisturbed behaviour s trivial tame.busy
  exact { world := trivial
          plugin := kept.plugin.trans tame.plugin
          exports := kept.exports.trans tame.exports
          busy := kept.busy.trans tame.busy
          told := by rw [kept.windowStart, kept.windowSize]; exact tame.told
          override := (consuming.start started).trans tame.override }

theorem Tame.consuming {ω : Type} {start : Int} {g₀ : Instance σ ε} {o : Option Bytes}
    {s : Scene σ ε ω} (tame : Tame view start none g₀ false o s)
    (consumes : Consumes view start g₀.exports) : Consuming view s.guest where
  consumes := ⟨start, tame.exports ▸ consumes, tame.told⟩
  idle := tame.busy

theorem Loaded.consuming (consuming : ConsumingModules view engine) {g : Instance σ ε}
    (loaded : Loaded engine g) : Consuming view g ∧ view.override g.state = none := by
  obtain @⟨out, name, moduleBytes, ⟨e, p⟩, g, far, ran⟩ := loaded
  obtain ⟨m, e', s, read, made, rfl⟩ := exists_of_load ran
  have consuming : m.Consuming view := consuming moduleBytes e m (congrArg Prod.fst read)
  obtain ⟨start, consumes⟩ := consuming.exports
  have quiet : Quiet view start none (m.begin name (some (.fresh name))) false
      (m.instantiate out) := quiet_instantiate consuming far
  have tame := quiet none ⟨m.begin name (some (.fresh name)), e', p⟩
    ⟨⟨trivial, rfl, rfl, rfl⟩, ⟨.inl ⟨rfl, rfl⟩, by simp⟩, consuming.blank⟩
  rw [made] at tame
  exact ⟨tame.consuming consumes, tame.override⟩

/-- A call on a healthy instance failed on a transfer that left the memory, or for want of room for a
configuration that the guest handed over, and left this override behind. The instance was worked with
since. -/
def Leftover (g : Instance σ ε) (o : Option Bytes) : Prop :=
  ∃ (g₁ : Instance σ ε) (d : FormatCall ε (Pool σ ε)) (f : Fault) (t : Scene σ ε (Pool σ ε)),
    d.out.selfCalls = false ∧ g₁.poisoned = false ∧ d.ended g₁ = (.error f, t) ∧
      (Strayed f t ∨ g₁.exports.RunsOut f) ∧ d.Leaves g₁ o ∧ ReflTransGen Driven t.guest g

/-- An instance of a pool whose override, if it has one, was left behind. -/
structure Accounted (view : OverrideView σ) (g : Instance σ ε) : Prop where
  consuming : Consuming view g
  settled : Settled g
  left : g.poisoned = false →
    view.override g.state = none ∨ Leftover g (view.override g.state)

/-- A window that a healthy instance has is not of negative size. -/
theorem Loose.not_windowless {g : Instance σ ε} (loose : Loose g.windowStart g.windowSize) :
    ¬g.Windowless := by
  rintro ⟨n, known, negative⟩
  rcases loose with unsized | ⟨a, n', -, size, positive⟩
  · exact absurd (known.symm.trans unsized) (by simp)
  · obtain rfl : n = n' := Option.some.inj (known.symm.trans size)
    omega

/-- What was left behind and not used stays. -/
theorem Leftover.driven {g g' : Instance σ ε} {o : Option Bytes} (driven : Driven g g')
    (left : Leftover g o) : Leftover g' o := by
  obtain ⟨g₁, d, f, t, far, healthy, ended, cause, leaves, since⟩ := left
  exact ⟨g₁, d, f, t, far, healthy, ended, cause, leaves, since.tail driven⟩

/-- Work that no override plays a part in. -/
theorem Accounted.of_quiet {α : Type} {g : Instance σ ε} (accounted : Accounted view g)
    {call : GuestM σ ε (Pool σ ε) α} {e : ε} {p : Pool σ ε}
    (driven : Driven g (ending call ⟨g, e, p⟩).2.guest) (healthy : g.poisoned = false)
    (quiet : ∀ start, Consumes view start g.exports → Quiet view start none g false call) :
    Accounted view (ending call ⟨g, e, p⟩).2.guest := by
  obtain ⟨start, consumes, told⟩ := accounted.consuming.consumes
  have after := quiet start consumes _ ⟨g, e, p⟩
    ⟨⟨trivial, rfl, rfl, accounted.settled.1⟩, told, rfl⟩
  refine ⟨after.consuming consumes, driven.settled accounted.settled, fun _ => ?_⟩
  rw [after.override]
  exact (accounted.left healthy).imp_right (.driven driven)

/-- A format call uses up the override, or it is accounted for what it leaves. -/
theorem Accounted.of_call {g : Instance σ ε} (accounted : Accounted view g)
    (c : FormatCall ε (Pool σ ε)) (far : c.out.selfCalls = false) (healthy : g.poisoned = false)
    (driven : Driven g (c.after g)) : Accounted view (c.after g) := by
  have settled := driven.settled accounted.settled
  obtain ⟨consuming, -, left⟩ := FormatCall.after_spec (c := c) accounted.consuming
  refine ⟨consuming, settled, fun still => ?_⟩
  have kept (same : view.override (c.after g).state = view.override g.state) :
      view.override (c.after g).state = none ∨ Leftover (c.after g) (view.override (c.after g).state) := by
    rw [same]
    exact (accounted.left healthy).imp_right (.driven driven)
  rcases left with windowless | ⟨-, used⟩ | ⟨unused, same | ⟨given, own⟩⟩
  · exact absurd windowless (settled.2 still).not_windowless
  · exact .inl used
  · exact kept same
  · rcases (accounted.settled.2 healthy).unsized_or_ready with ⟨a, start, size⟩ | ready
    · -- Nothing can be handed over into a window of unknown size.
      exact kept (FormatCall.after_of_unsized accounted.consuming start size)
    · obtain ⟨f, t, ended, reason⟩ :=
        FormatCall.refused_of_unused accounted.settled.1 ready healthy unused still
      have stays (cause : Strayed f t ∨ g.exports.RunsOut f) :
          Leftover (c.after g) (view.override (c.after g).state) := by
        refine ⟨g, c, f, t, far, healthy, ended, cause, ⟨given, unused, own⟩, ?_⟩
        rw [FormatCall.after, ended]
      rcases reason with room | strayed | ⟨-, unwritten⟩
      · exact .inr (stays (.inr room))
      · exact .inr (stays (.inl strayed))
      · refine .inl (own.trans ?_)
        simp [ownOverride, given, unwritten, Except.toOption]

theorem Accounted.driven {g g' : Instance σ ε} (driven : Driven g g')
    (accounted : Accounted view g) : Accounted view g' := by
  have driven' := driven
  obtain @⟨α, out, call, service, far, healthy, e, p⟩ := driven
  cases service with
  | schema => exact accounted.of_quiet driven' healthy fun _ consumes =>
      quiet_checkSchema consumes far
  | info => exact accounted.of_quiet driven' healthy fun _ consumes =>
      quiet_pluginInfo consumes far
  | configure => exact accounted.of_quiet driven' healthy fun _ consumes =>
      quiet_setConfig consumes _ _
  | diagnose => exact accounted.of_quiet driven' healthy fun _ consumes =>
      quiet_configDiagnostics consumes far
  | format path text override =>
    exact accounted.of_call ⟨out, path, text, override, e, p⟩ far healthy driven'

/-- All instances that a pool ever had are accounted for. -/
theorem accounted_of_reachable (consuming : ConsumingModules view engine) {config : PoolConfig}
    {s : Ledger σ ε} (reachable : Reachable (habit engine) config s) :
    s.Throughout (Accounted view) := by
  refine Steps.throughout (fun g loaded => ?_) (fun _ _ => Accounted.driven) reachable ?_
  · obtain ⟨consuming, blank⟩ := loaded.consuming consuming
    exact ⟨consuming, loaded.settled, fun _ => .inl blank⟩
  · intro n id g found
    simp [Ledger.empty, Pool.empty] at found

/-- What a formatter sees on an instance that is accounted for. -/
theorem Accounted.sees {g : Instance σ ε} (accounted : Accounted view g)
    (healthy : g.poisoned = false) (known : Windowed g.windowStart g.windowSize)
    {c : FormatCall ε (Pool σ ε)} {t : Scene σ ε (Pool σ ε)} (runs : c.Runs g t) :
    c.Sees view t (Leftover g) := by
  refine (FormatCall.sees_of_runs accounted.consuming (accounted.left healthy) runs).resolve_left ?_
  have sound : Sound (fun _ => True) g true Ready
      (⟨{ g with busy := true }, c.engine, c.world⟩ : Scene σ ε (Pool σ ε)) :=
    ⟨⟨trivial, rfl, rfl, rfl⟩, healthy, known.ready⟩
  have ended := ends_handOver c.out.keeps_true (undisturbed_nestedFormat c.out) c.path c.text
    c.override _ sound
  change Ended _ _ _ _ _ (c.handed g).1 (c.handed g).2 at ended
  rw [runs.1] at ended
  exact (Sound.window ended).loose.not_windowless

/-- The call that a pool makes on an instance that is lent. -/
def FormatCall.lent (out : Outside ε (Pool σ ε)) (m : ConfigMap) (id : RecordId) (n : InstanceId)
    (path text : String) (x : ε × Pool σ ε) : FormatCall ε (Pool σ ε) where
  out
  path
  text
  override := m.toDatum
  engine := x.1
  world := { x.2 with events := .formatting id n x.2.chain.active :: x.2.events }

theorem lentCall_eq {out : Outside ε (Pool σ ε)} {m : ConfigMap} {id : RecordId} {n : InstanceId}
    {path text : String} {x : ε × Pool σ ε} {g : Instance σ ε}
    (found : x.2.instances[n]? = some (id, g)) :
    lentCall out m id n path text x =
      let ended := (FormatCall.lent out m id n path text x).ended g
      (ended.1, ended.2.engine, withState ended.2.world n id ended.2.guest) :=
  PoolM.ending_withInstance (x := (x.1, (FormatCall.lent out m id n path text x).world)) found _

end

/-- The state of a guest that keeps what it is handed. -/
structure Keeper where
  staged : Bytes
  override : Option Bytes

namespace Keeper

/-- What is staged and the override, as they are kept. -/
def view : OverrideView Keeper := ⟨staged, override⟩

/-- Changes the state and ends. -/
def change (f : Keeper → Keeper) : Act Keeper Unit := .look fun s e => .keep (f s) e (.done 0)

/-- Takes configurations, paths, overrides and texts, and finds every text formatted already. -/
def exports : Exports Keeper Unit
  | "get_wasm_memory_buffer" => some fun _ => .done 0
  | "get_wasm_memory_buffer_size" => some fun _ => .done 16
  | "clear_shared_bytes" => some fun _ => change fun s => { s with staged := [] }
  | "add_to_shared_bytes_from_buffer" => some fun lengths =>
    .peek 0 (lengths.headD 0) fun data => change fun s => { s with staged := s.staged ++ data }
  | "reset_config" | "set_global_config" | "set_plugin_config" | "set_file_path" =>
    some fun _ => .done 0
  | "set_override_config" => some fun _ => change fun s => { s with override := some s.staged }
  | "format" => some fun _ => change fun s => { s with override := none }
  | _ => none

/-- Its module. -/
def guest : Module Keeper Unit := ⟨⟨[], none⟩, 16, .memory, none, none, exports⟩

/-- An engine for which all bytes are this module. -/
def engine : Engine Keeper Unit := ⟨fun _ e => (.ok guest, e), fun _ => 100⟩

/-- Its instance right after loading. -/
def instance₀ : Instance Keeper Unit :=
  { guest.begin "ab" (some (.fresh "ab")) with table := HostTable.bind (some (.fresh "ab")) }

/-- The instance when it is configured. -/
def configured : Instance Keeper Unit :=
  (ending (GuestM.setConfig (PoolM.below engine 0) (.map []) (.map []))
    ⟨instance₀, (), .empty Script.small⟩).2.guest

/-- The record of its plugin. -/
def record : PluginRecord := .ready 0 (.fresh "ab" [])

/-- A pool where the plugin is being registered. -/
def made : Pool Keeper Unit :=
  { (.empty Script.small : Pool Keeper Unit) with
    records := [.fresh "ab" []]
    instances := [(0, instance₀)] }

/-- A pool with the plugin. -/
def waiting : Pool Keeper Unit :=
  { (.empty Script.small : Pool Keeper Unit) with
    records := [record]
    registry := [("ab", 0)]
    instances := [(0, configured)] }

/-- The pool when the instance is lent. -/
def lent : Pool Keeper Unit := waiting.updateRecord 0 fun _ => { record with idle := [], inUse := 1 }

/-- The borrower's call. -/
def call : FormatCall Unit (Pool Keeper Unit) :=
  .lent (PoolM.below engine 0) [(Text.ofString "k", .int 1)] 0 0 "f" "t" ((), lent)

theorem consumes : Consumes view 0 exports where
  window := by
    rintro ω s t v ⟨act, out, again, there, -, ran⟩
    obtain rfl := Option.some.inj there
    obtain ⟨same, -⟩ := Prod.mk.inj ran
    exact (Except.ok.inj same).symm
  clear := by
    rintro ω s t n v ⟨act, out, again, there, -, ran⟩
    obtain rfl := Option.some.inj there
    obtain ⟨-, rfl⟩ := Prod.mk.inj ran
    rfl
  append := by
    rintro ω s t n v ⟨act, out, again, there, -, ran⟩
    obtain rfl := Option.some.inj there
    rw [Act.run] at ran
    split at ran
    · exact absurd (Prod.mk.inj ran).1 (by simp)
    next data read =>
      obtain ⟨-, rfl⟩ := Prod.mk.inj ran
      exact ⟨data, read, rfl⟩
  take := by
    rintro ω s t v ⟨act, out, again, there, -, ran⟩
    obtain rfl := Option.some.inj there
    obtain ⟨-, rfl⟩ := Prod.mk.inj ran
    rfl
  untaken := by
    rintro ω s t f ⟨act, out, again, there, -, ran⟩
    obtain rfl := Option.some.inj there
    obtain ⟨⟨⟩, -⟩ := Prod.mk.inj ran
  consume := by
    rintro ω s t r ⟨act, out, again, there, -, ran⟩
    obtain rfl := Option.some.inj there
    obtain ⟨-, rfl⟩ := Prod.mk.inj ran
    rfl
  keep := by
    rintro ω s t r name arguments taker formatter ⟨act, out, again, there, -, ran⟩
    unfold exports at there
    split at there
    all_goals first | contradiction | obtain rfl := Option.some.inj there
    case h_4 =>
      rw [Act.run] at ran
      split at ran
      all_goals
        obtain ⟨-, rfl⟩ := Prod.mk.inj ran
        rfl
    all_goals
      obtain ⟨-, rfl⟩ := Prod.mk.inj ran
      rfl

theorem consumingModules : ConsumingModules view engine := by
  intro moduleBytes e m read
  obtain rfl := Except.ok.inj read
  exact ⟨⟨0, consumes⟩, rfl, fun started => by simp [guest] at started⟩

end Keeper

/-- A formatter sees the override of its own call, or that is blank and another call has left one
behind. On a single instance that call handed its override over, and its formatter did not run. On an
instance of a pool, whatever its threads do, that call failed on a transfer that left the memory, or
because there was no room for a configuration that the guest handed over. -/
theorem sees_of_reachable {σ ε : Type} {view : OverrideView σ} {engine : Engine σ ε}
    {config : PoolConfig} {s : Ledger σ ε} (consuming : ConsumingModules view engine)
    (reachable : Reachable (habit engine) config s) :
    (∀ (ω : Type) (g₀ g : Instance σ ε), Consuming view g₀ → view.override g₀.state = none →
      ReflTransGen (Follows ω) g₀ g → ∀ (c : FormatCall ε ω) (t : Scene σ ε ω), c.Runs g t →
        t.guest.Windowless ∨ c.Sees view t fun o => ∃ (g₁ : Instance σ ε) (d : FormatCall ε ω),
          ReflTransGen (Follows ω) g₀ g₁ ∧ d.Leaves g₁ o ∧
            ReflTransGen (Passes ω) (d.after g₁) g) ∧
    ∀ (depth : Nat) (id : RecordId) (n : InstanceId) (x : ε × Pool σ ε) (path text : String)
      (m : ConfigMap), Past (habit engine) s s.loans {.lent id n} x.2 → Holds Loose id n x.2 →
      let out := PoolM.below engine depth
      let c := FormatCall.lent out m id n path text x
      ∃ g, x.2.instances[n]? = some (id, g) ∧
        lentCall out m id n path text x =
          ((c.ended g).1, (c.ended g).2.engine,
            withState (c.ended g).2.world n id (c.ended g).2.guest) ∧
        ∀ t, c.Runs g t → c.Sees view t (Leftover g) := by
  constructor
  · intro ω g₀ g fresh clean calls c t runs
    obtain ⟨consuming, windowless | left⟩ := left_of_calls fresh clean calls
    · have stays := FormatCall.windowless_handed (c := c) consuming windowless
      rw [runs.1] at stays
      exact .inl stays
    · exact FormatCall.sees_of_runs consuming left runs
  · intro depth id n x path text m past holds
    obtain ⟨g, found, healthy, -, known⟩ :=
      past.windowed (.of_reachable reachable) (Multiset.mem_singleton_self _) holds
    obtain ⟨retired, steps⟩ := past.steps
    have accounted := accounted_of_reachable consuming (reachable.trans steps) n id g found
    exact ⟨g, found, lentCall_eq found, fun t runs => accounted.sees healthy known runs⟩

/-- The general statement for the guest that keeps what it is handed. Its plugin is loaded, a thread
borrows the instance, and the formatter sees the override of the call. -/
theorem sees_of_keeper :
    Reachable (habit Keeper.engine) Script.small ⟨Keeper.waiting, 0, 0⟩ ∧
      Past (habit Keeper.engine) ⟨Keeper.waiting, 0, 0⟩ 0 {.lent 0 0} Keeper.lent ∧
      Holds Loose 0 0 Keeper.lent ∧
      ∃ t, Keeper.call.Runs Keeper.configured t ∧
        Keeper.call.Sees Keeper.view t (Leftover Keeper.configured) ∧
        t.guest.state.override = some (Utf8.encode "\x7b\"k\":1\x7d") := by
  have loaded : (habit Keeper.engine).loaded Keeper.instance₀ :=
    @Loaded.intro _ _ Keeper.engine (PoolM.below Keeper.engine 0) "ab" []
      ((), .empty Script.small) Keeper.instance₀ rfl rfl
  have driven : Driven Keeper.instance₀ Keeper.configured :=
    .intro (.configure (.map []) (.map [])) rfl rfl () (.empty Script.small)
  have healthy : Keeper.configured.poisoned = false := by decide +kernel
  have free : Keeper.configured.busy = false := by decide +kernel
  have serves : (Keeper.configured.exports "format").isSome = true := by decide +kernel
  have known : Windowed Keeper.configured.windowStart Keeper.configured.windowSize :=
    ⟨0, 16, by decide +kernel, by decide +kernel, by decide⟩
  have writable : (habit Keeper.engine).ready Script.small none := ⟨⟨_, rfl⟩, ⟨_, rfl⟩⟩
  have opened : Steps (habit Keeper.engine) (.empty Script.small) _ := .single (.create "ab" [])
  have made : Steps (habit Keeper.engine) (.empty Script.small)
      ⟨Keeper.made, .registering 0 (some 0) none ::ₘ 0, 0⟩ := opened.tail (.loadFirst loaded)
  have configured : Ledger.Step (habit Keeper.engine)
      ⟨Keeper.made, .registering 0 (some 0) none ::ₘ 0, 0⟩
      ⟨withState Keeper.made 0 0 Keeper.configured, .registering 0 (some 0) none ::ₘ 0, 0⟩ :=
    .drive (l := .registering 0 (some 0) none) (by simp) rfl rfl driven
  have entered := ((made.tail configured).tail (.accept rfl healthy known writable)).tail (.enter rfl)
  have reachable : Reachable (habit Keeper.engine) Script.small ⟨Keeper.waiting, 0, 0⟩ := entered
  have popped : Ledger.Step (habit Keeper.engine) ⟨Keeper.waiting, 0, 0⟩
      ⟨Keeper.lent, .lent 0 0 ::ₘ 0, 0⟩ :=
    .pop (r := Keeper.record) (fun _ none => absurd none (Multiset.notMem_zero _)) rfl rfl
  have borrowed : Past (habit Keeper.engine) ⟨Keeper.waiting, 0, 0⟩ 0 {.lent 0 0} Keeper.lent :=
    ⟨⟨0, .single (by simpa using popped)⟩, fun _ none => absurd none (Multiset.notMem_zero _)⟩
  have holds : Holds Loose 0 0 Keeper.lent := ⟨Keeper.configured, rfl, healthy, free, known.loose⟩
  have evaluated : (match Keeper.call.handed Keeper.configured with
    | (.ok _, t) => t.guest.state.override == some (Utf8.encode "\x7b\"k\":1\x7d")
    | (.error _, _) => false) = true := by decide +kernel
  obtain ⟨t, handed, seen⟩ : ∃ t, Keeper.call.handed Keeper.configured = (.ok (), t) ∧
      t.guest.state.override = some (Utf8.encode "\x7b\"k\":1\x7d") := by
    revert evaluated
    rcases Keeper.call.handed Keeper.configured with ⟨f | _, t⟩
    · exact Bool.noConfusion
    · exact fun same => ⟨t, rfl, by simpa using same⟩
  have runs : Keeper.call.Runs Keeper.configured t := ⟨handed, Option.isSome_iff_ne_none.1 serves⟩
  obtain ⟨g, found, -, sees⟩ := (sees_of_reachable Keeper.consumingModules reachable).2 0 0 0
    ((), Keeper.lent) "f" "t" [(Text.ofString "k", .int 1)] borrowed holds
  obtain ⟨-, rfl⟩ := Prod.mk.inj (Option.some.inj found)
  exact ⟨reachable, borrowed, holds, t, runs, sees t runs, seen⟩

/-- A call without an override comes to see the one that another call has left behind. -/
theorem overhanging_sees_leftover :
    (ending (PoolM.formatText (single overhanging) "f.a" "t" (.map []))
      (ending (PoolM.formatText (single overhanging) "f.a"
          (String.ofList (List.replicate 61 'x')) (.map [(.text (Text.ofString "k"), .int 1)]))
        (pooled overhanging)).2).1.toOption = some (some "f.a|t|\x7b\"k\":1\x7d") := by
  decide +kernel

end FormatHost
