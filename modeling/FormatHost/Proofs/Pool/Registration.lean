import FormatHost.Proofs.Pool.Agreement
import FormatHost.Proofs.Pool.Delegation
import FormatHost.Proofs.Pool.Loads
/-!
# The order of registration

Plugins that are loaded by themselves may be registered in any order. A pool's records are then what each
plugin's own load has made of them; and what a pool tells of its records, and which of them handles a path,
depends on their names only. Where a plugin asks for something while it is loaded, the order does matter.
-/
namespace FormatHost

variable {σ ε : Type}

/-- The registered records are all records, in the order of their making. -/
def Pool.Lined (p : Pool σ ε) : Prop := p.registry = (p.records.map PluginRecord.name).zipIdx

/-- The outlines of such a pool are those of its records. -/
theorem Pool.Lined.outlines {p : Pool σ ε} (lined : p.Lined) :
    p.outlines = inOrder (fun o => o.1.name) (p.records.map PluginRecord.outline) := by
  have registered : (p.registry.filterMap fun e => p.records[e.2]?.map (e.2, ·)).map
      (fun x => x.2.outline) = p.records.map PluginRecord.outline := by
    rw [lined, List.zipIdx_map, List.filterMap_map, List.map_filterMap]
    have each : ∀ x ∈ p.records.zipIdx,
        Option.map (fun x : RecordId × PluginRecord => x.2.outline)
          (((fun e : String × RecordId => p.records[e.2]?.map (e.2, ·)) ∘
            Prod.map PluginRecord.name id) x) = some x.1.outline := by
      intro x here
      have found := List.mem_zipIdx_iff_getElem?.1 here
      simp [found]
    calc
      _ = p.records.zipIdx.filterMap fun x => some x.1.outline := List.filterMap_congr each
      _ = (p.records.zipIdx.map Prod.fst).map PluginRecord.outline := by
        rw [List.filterMap_eq_map', List.map_map]
        rfl
      _ = p.records.map PluginRecord.outline := by rw [List.zipIdx_map_fst]
  have ordered := map_foldr_insertBy (f := fun x : RecordId × PluginRecord => x.2.outline)
    (fun a b => decide (a.2.name ≤ b.2.name)) (fun a b => decide (a.1.name ≤ b.1.name))
    (fun _ _ => rfl) (p.registry.filterMap fun e => p.records[e.2]?.map (e.2, ·))
  rw [registered, foldr_insertBy fun o : PluginRecord × Nat => o.1.name] at ordered
  exact ordered

theorem enroll_new {name : String} {registry : List (String × RecordId)}
    (new : name ∉ registry.map Prod.fst) (id : RecordId) :
    Pool.enroll name id registry = registry ++ [(name, id)] := by
  induction registry with
  | nil => rfl
  | cons x rest ih =>
    obtain ⟨other, new⟩ : x.1 ≠ name ∧ name ∉ rest.map Prod.fst := by
      simpa [eq_comm, not_or] using new
    rw [Pool.enroll, if_neg (by simpa using other), ih new, List.cons_append]

/-- Registering a plugin that is loaded by itself adds its record and touches no other. -/
theorem LoadsAlone.register {engine : Engine σ ε} {config : PoolConfig} {name : String}
    {moduleBytes : Bytes} (alone : LoadsAlone engine config name moduleBytes)
    (valid : isPluginName name = true) {e : ε} {p : Pool σ ε} (same : p.config = config)
    (lined : p.Lined) (new : name ∉ p.records.map PluginRecord.name) :
    ∃ r y, ending (PoolM.register engine name moduleBytes) (e, p) = (.ok p.records.length, y) ∧
      y.2.records = p.records ++ [r] ∧ r.name = name ∧
      r.outline = recordMade engine name moduleBytes (e, p) ∧ y.2.config = config ∧ y.2.Lined := by
  let made : Pool σ ε := { p with records := p.records ++ [.fresh name moduleBytes] }
  let loaded := ending (PoolM.loadPlugin engine (PoolM.around engine p.limits) p.records.length)
    (e, made)
  have first : made.records[p.records.length]? = some (.fresh name moduleBytes) := by simp [made]
  have confined : made.Confined (· = p.records.length) loaded.2.2 := by
    have aloof := alone.aloof e made p.records.length same first
    rw [show loaded.2.2 = _ from aloof.symm]
    have lasting : Lasting engine (PoolM.around engine p.limits).deaf (· = p.records.length)
        (made.Confined (· = p.records.length)) :=
      lasting_confined rfl (keeps_deaf_around engine p.limits)
    exact lasting.preserves_loadPlugin rfl (e, made) (.refl _ _)
  have settled : made.Confined (· = p.records.length)
      (settleLoad p.records.length loaded.1 loaded.2.2) := by
    cases loaded.1 with
    | ok info => exact confined
    | error fault => exact confined.updateRecord rfl fun _ _ => rfl
  obtain ⟨journal, done⟩ := exists_ending_register engine valid moduleBytes e p
  revert done settled
  change made.Confined _ (settleLoad p.records.length loaded.1 loaded.2.2) → ending _ _ =
    (_, loaded.2.1, { (settleLoad p.records.length loaded.1 loaded.2.2).enter name
      p.records.length with journal }) → _
  generalize settleLoad p.records.length loaded.1 loaded.2.2 = q
  intro settled done
  have size : q.records.length = p.records.length + 1 := by
    simpa [made] using congrArg List.length settled.names
  have there : q.records[p.records.length]? = some q.records[p.records.length] :=
    List.getElem?_eq_getElem (by omega)
  have records : q.records = p.records ++ [q.records[p.records.length]] := by
    refine List.ext_getElem? fun i => ?_
    rcases Nat.lt_trichotomy i p.records.length with before | rfl | after
    · rw [settled.others i before.ne, List.getElem?_append_left before,
        List.getElem?_append_left before]
    · rw [there]
      simp
    · rw [List.getElem?_eq_none (by omega), List.getElem?_eq_none (by simp; omega)]
  have named : q.records[p.records.length].name = name := by
    have names := congrArg (·[p.records.length]?) settled.names
    simpa [made, there, PluginRecord.fresh] using names
  refine ⟨q.records[p.records.length], _, done, records, named, ?_, settled.config.trans same, ?_⟩
  · rw [recordMade, done]
    simp only [Pool.enter, there, Option.getD_some]
  · have absent : name ∉ q.registry.map Prod.fst := by
      rw [settled.registry, show made.registry = _ from lined]
      simpa using new
    have registry : q.registry = (p.records.map PluginRecord.name).zipIdx :=
      settled.registry.trans lined
    have names : q.records.map PluginRecord.name = p.records.map PluginRecord.name ++ [name] := by
      simpa [made, PluginRecord.fresh] using settled.names
    have entered : Pool.enroll name p.records.length q.registry =
        (q.records.map PluginRecord.name).zipIdx := by
      rw [enroll_new absent, registry, names, List.zipIdx_append]
      simp
    exact entered

/-! ### Many registrations -/

/-- Registers plugins one after the other. -/
def PoolM.registerAll (engine : Engine σ ε) : List (String × Bytes) → PoolM σ ε Unit
  | [] => pure ()
  | plugin :: rest => do
    let _ ← register engine plugin.1 plugin.2
    registerAll engine rest

section

variable {engine : Engine σ ε} {config : PoolConfig} {plugins plugins' : List (String × Bytes)}

/-- What each plugin's own load makes of it. -/
def recordsMade (engine : Engine σ ε) (config : PoolConfig) (e : ε) (plugins : List (String × Bytes)) :
    List (PluginRecord × Nat) :=
  plugins.map fun plugin => recordMade engine plugin.1 plugin.2 (e, .empty config)

/-- Plugins that may be registered in any order. -/
structure Orderless (engine : Engine σ ε) (config : PoolConfig) (plugins : List (String × Bytes)) :
    Prop where
  valid : ∀ plugin ∈ plugins, isPluginName plugin.1 = true
  distinct : (plugins.map Prod.fst).Nodup
  alone : ∀ plugin ∈ plugins, LoadsAlone engine config plugin.1 plugin.2

theorem Orderless.perm (orderless : Orderless engine config plugins) (perm : plugins'.Perm plugins) :
    Orderless engine config plugins' where
  valid plugin here := orderless.valid plugin (perm.mem_iff.1 here)
  distinct := (perm.map _).nodup_iff.2 orderless.distinct
  alone plugin here := orderless.alone plugin (perm.mem_iff.1 here)

theorem Orderless.sublist (orderless : Orderless engine config plugins)
    (sublist : plugins'.Sublist plugins) : Orderless engine config plugins' where
  valid plugin here := orderless.valid plugin (sublist.mem here)
  distinct := orderless.distinct.sublist (sublist.map _)
  alone plugin here := orderless.alone plugin (sublist.mem here)

/-- Registering many plugins adds the records that their own loads make, behind those that are there. -/
theorem Orderless.registerAll (orderless : Orderless engine config plugins) (e₀ e : ε) {p : Pool σ ε}
    (same : p.config = config) (lined : p.Lined)
    (new : ∀ plugin ∈ plugins, plugin.1 ∉ p.records.map PluginRecord.name) :
    ∃ y, ending (PoolM.registerAll engine plugins) (e, p) = (.ok (), y) ∧ y.2.Lined ∧
      y.2.records.map PluginRecord.name = p.records.map PluginRecord.name ++ plugins.map Prod.fst ∧
      y.2.records.map PluginRecord.outline =
        p.records.map PluginRecord.outline ++ recordsMade engine config e₀ plugins := by
  induction plugins generalizing e p with
  | nil => exact ⟨(e, p), rfl, lined, by simp, by simp [recordsMade]⟩
  | cons plugin rest ih =>
    obtain ⟨name, moduleBytes⟩ := plugin
    obtain ⟨fresh, distinct⟩ := List.nodup_cons.1 orderless.distinct
    have alone := orderless.alone (name, moduleBytes) List.mem_cons_self
    obtain ⟨r, y, done, records, named, outline, config', lined'⟩ := alone.register
      (orderless.valid _ List.mem_cons_self) (e := e) same lined (new _ List.mem_cons_self)
    have later : ∀ plugin ∈ rest, plugin.1 ∉ y.2.records.map PluginRecord.name := by
      intro plugin here
      have old := new plugin (List.mem_cons_of_mem _ here)
      have other : plugin.1 ≠ name := fun same => fresh (List.mem_map.2 ⟨plugin, here, same⟩)
      simp only [records, List.map_append, List.map_cons, List.map_nil, named, List.mem_append,
        List.mem_singleton]
      exact not_or.2 ⟨old, other⟩
    obtain ⟨z, done', lined'', names, outlines⟩ :=
      ih (orderless.sublist (List.sublist_cons_self ..)) y.1 config' lined' later
    refine ⟨z, ?_, lined'', ?_, ?_⟩
    · rw [PoolM.registerAll, ending_bind_of_ok done]
      exact done'
    · simp [names, records, named]
    · have made : r.outline = recordMade engine name moduleBytes (e₀, .empty config) :=
        outline.trans (alone.outcome e₀ e (.empty config) p rfl same)
      simp [outlines, records, recordsMade, made]

/-- From an empty pool the records are what the plugins' own loads make of them, in the order of the
names. -/
theorem Orderless.outlines (orderless : Orderless engine config plugins) (e₀ e : ε) :
    ∃ y, ending (PoolM.registerAll engine plugins) (e, .empty config) = (.ok (), y) ∧
      y.2.outlines = inOrder (fun o => o.1.name) (recordsMade engine config e₀ plugins) ∧
      (recordsMade engine config e₀ plugins).map (fun o => o.1.name) = plugins.map Prod.fst := by
  obtain ⟨y, done, lined, names, outlines⟩ := orderless.registerAll e₀ e
    (p := (Pool.empty config : Pool σ ε)) rfl rfl fun _ _ => by simp [Pool.empty]
  simp only [Pool.empty, List.map_nil, List.nil_append] at names outlines
  refine ⟨y, done, outlines ▸ lined.outlines, ?_⟩
  rw [← outlines, ← names, List.map_map]
  rfl

/-- A record that was degraded handles nothing. -/
theorem PluginRecord.handles_of_degraded {r : PluginRecord} (degraded : r.status = .degraded)
    (fileName extension : String) : r.handles fileName extension = false := by
  unfold handles
  cases r.info with
  | none => rfl
  | some info => simp [degraded]

/-- The order in which plugins are registered does not matter. -/
theorem registration_order (orderless : Orderless engine config plugins)
    (perm : plugins'.Perm plugins) (e e' : ε) :
    let one := ending (PoolM.registerAll engine plugins) (e, .empty config)
    let other := ending (PoolM.registerAll engine plugins') (e', .empty config)
    (one.1 = .ok () ∧ other.1 = .ok ()) ∧
      (one.2.2.sorted.map fun x => x.2.name).Perm (plugins.map Prod.fst) ∧
      (∀ updated, other.2.2.listing updated = one.2.2.listing updated) ∧
      (∀ path, other.2.2.server? path = one.2.2.server? path ∧
        (one.2.2.resolve path = none ↔ ∀ y ∈ one.2.2.sorted, ¬y.2.Serves path) ∧
        ∀ x, one.2.2.resolve path = some x ↔ x ∈ one.2.2.sorted ∧ x.2.Serves path ∧
          ∀ y ∈ one.2.2.sorted, y.2.Serves path → x.2.name ≤ y.2.name) ∧
      ∀ name, (∃ x ∈ one.2.2.sorted, x.2.name = name ∧ x.2.status = .degraded) →
        let rest := ending (PoolM.registerAll engine (plugins.filter fun plugin => plugin.1 ≠ name))
          (e', .empty config)
        rest.1 = .ok () ∧
          rest.2.2.outlines = one.2.2.outlines.filter (fun o => o.1.name ≠ name) ∧
          ∀ path, rest.2.2.server? path = one.2.2.server? path := by
  intro one other
  obtain ⟨y, done, outlines, names⟩ := orderless.outlines e e
  obtain ⟨y', done', outlines', -⟩ := (orderless.perm perm).outlines e e'
  simp only [one, other, done, done']
  have distinct : ((recordsMade engine config e plugins).map fun o => o.1.name).Nodup :=
    names ▸ orderless.distinct
  have keeps : ∀ plugin ∈ plugins,
      (recordMade engine plugin.1 plugin.2 (e, Pool.empty config)).1.name = plugin.1 := by
    rw [recordsMade, List.map_map] at names
    exact List.map_inj_left.1 names
  have shown : y.2.outlines.map (fun o => o.1.name) = y.2.sorted.map fun x => x.2.name := by
    rw [Pool.outlines, List.map_map]
    rfl
  have ordered : (y.2.outlines.map fun o => o.1.name).Nodup := outlines ▸ nodup_inOrder distinct
  have same : y'.2.outlines = y.2.outlines := by
    rw [outlines, outlines']
    exact inOrder_of_perm distinct (perm.map _)
  refine ⟨⟨trivial, trivial⟩, ?_, Pool.listing_of_outlines same, fun path => ⟨?_, ?_, fun x => ?_⟩, ?_⟩
  · rw [← shown, outlines, ← names]
    exact (perm_inOrder _ _).map _
  · rw [Pool.server?_eq, Pool.server?_eq, same]
  · exact Pool.resolve_eq_none_iff
  · exact Pool.resolve_eq_some_iff (shown ▸ ordered)
  · rintro name ⟨x, here, named, degraded⟩
    obtain ⟨z, done'', outlines'', -⟩ := (orderless.sublist
      (List.filter_sublist (p := fun plugin => plugin.1 ≠ name))).outlines e e'
    simp only [done'']
    have fewer : recordsMade engine config e (plugins.filter fun plugin => plugin.1 ≠ name) =
        (recordsMade engine config e plugins).filter fun o => o.1.name ≠ name := by
      rw [recordsMade, recordsMade, List.filter_map]
      congr 1
      refine List.filter_congr fun plugin there => ?_
      simp only [Function.comp_apply, keeps plugin there]
    have left : z.2.outlines = y.2.outlines.filter fun o => o.1.name ≠ name := by
      rw [outlines'', fewer, inOrder_filter distinct, outlines]
    refine ⟨trivial, left, fun path => ?_⟩
    rw [Pool.server?_eq, Pool.server?_eq, left]
    refine find?_filter_of_imp fun o there handles => ?_
    refine decide_eq_true fun equal => ?_
    have known : x.2.outline ∈ y.2.outlines := List.mem_map_of_mem here
    obtain rfl : o = x.2.outline :=
      List.inj_on_of_nodup_map ordered there known (equal.trans named.symm)
    have idle := PluginRecord.handles_of_degraded (r := x.2.outline.1) degraded
      (Path.ofString path).name (Path.ofString path).suffix
    exact absurd (handles.symm.trans idle) (by simp)

end

namespace Script

/-- A plugin that says what it is and cannot be configured. -/
def unsettled : Script := { overhanging with traps := [("reset_config", "boom")] }

/-- Two plugins for the same files, and one that cannot be configured. -/
def assorted : List (String × Bytes) := [("cc", [1]), ("aa", [2]), ("bb", [1])]

/-- A pool with these plugins, registered in an order. -/
def assembled (plugins : List (String × Bytes)) :
    Except Fault Unit × ScriptCounts × Pool ScriptState ScriptCounts :=
  ending (PoolM.registerAll (double overhanging unsettled) plugins) (.zero, .empty small)

theorem orderless_assorted : Orderless (double overhanging unsettled) small assorted where
  valid := by decide
  distinct := by decide
  alone plugin here := by
    have known : ∀ key script, (key, script) ∈ [([1], overhanging), ([2], unsettled)] →
        ∀ name, isPluginName name = true →
          LoadsAlone (double overhanging unsettled) small name key := by
      intro key script there name valid
      have read (counts : ScriptCounts) :
          (double overhanging unsettled key counts).1 = .ok (script.toModule key) := by
        simp only [List.mem_cons, List.not_mem_nil, or_false] at there
        rcases there with there | there <;> obtain ⟨rfl, rfl⟩ := Prod.mk.inj there
        · exact result_engine rfl rfl counts
        · exact result_engine rfl rfl counts
      have own : script.format = [.echo] := by
        simp only [List.mem_cons, List.not_mem_nil, or_false] at there
        rcases there with there | there <;> obtain ⟨rfl, rfl⟩ := Prod.mk.inj there <;> rfl
      refine loadsAlone_of_solitary valid (fun e e' => (read e').trans (read e).symm) fun e m loaded => ?_
      obtain rfl := Except.ok.inj ((read e).symm.trans loaded)
      exact solitary_toModule own trivial key
    simp only [assorted, List.mem_cons, List.not_mem_nil, or_false] at here
    rcases here with rfl | rfl | rfl
    · exact known [1] overhanging (by simp) "cc" (by decide)
    · exact known [2] unsettled (by simp) "aa" (by decide)
    · exact known [1] overhanging (by simp) "bb" (by decide)

end Script

open Script

/-- The general statement for three plugins, the first of which cannot be configured. -/
theorem registration_order_assorted :
    Orderless (double overhanging unsettled) small assorted ∧
      assorted.reverse.Perm assorted ∧
      (∃ x ∈ (assembled assorted).2.2.sorted, x.2.name = "aa" ∧ x.2.status = .degraded) ∧
      ((assembled assorted).2.2.server? "f.a").map (fun o => o.1.name) = some "bb" ∧
      (∀ updated, (assembled assorted.reverse).2.2.listing updated =
        (assembled assorted).2.2.listing updated) ∧
      (assembled assorted.reverse).2.2.server? "f.a" = (assembled assorted).2.2.server? "f.a" ∧
      (assembled (assorted.filter fun plugin => plugin.1 ≠ "aa")).2.2.server? "f.a" =
        (assembled assorted).2.2.server? "f.a" := by
  have perm : assorted.reverse.Perm assorted := List.reverse_perm _
  have failed : (assembled assorted).2.2.sorted.any
      (fun x => x.2.name == "aa" && x.2.status == .degraded) = true := by decide +kernel
  have served : ((assembled assorted).2.2.server? "f.a").map (fun o => o.1.name) = some "bb" := by
    decide +kernel
  have broken : ∃ x ∈ (assembled assorted).2.2.sorted, x.2.name = "aa" ∧ x.2.status = .degraded := by
    simpa using failed
  obtain ⟨-, -, listed, resolved, leaving⟩ := registration_order orderless_assorted perm .zero .zero
  exact ⟨orderless_assorted, perm, broken, served, listed, (resolved "f.a").1,
    (leaving "aa" broken).2.2 "f.a"⟩

namespace Script

variable {ω : Type}

/-- Has an empty text formatted as the file of somebody else, and traps whatever becomes of it. -/
def inquiry : ScriptAct :=
  .poke 0 [102, 46, 97] <| .host (.readBuffer 0 3) fun _ => .host .takeFilePath fun _ =>
    .host .format fun _ => .trap "boom"

/-- A plugin that has the host format something when it is asked what it is. -/
def inquirer : Module ScriptState ScriptCounts :=
  { overhanging.toModule [2] with
    exports := fun name =>
      if name = "get_plugin_info" then some fun _ => inquiry else overhanging.exports [2] name }

/-- An engine that knows this plugin and one that traps in format calls. -/
def inquiring : Engine ScriptState ScriptCounts :=
  { single trapping with
    decode := fun key counts => if key = [2] then (.ok inquirer, counts) else single trapping key counts }

/-- An inquiry ends in a trap, whatever its answer is. -/
theorem run_inquiry (out : Outside ScriptCounts ω) (again : Again ScriptState ScriptCounts ω)
    {s : Scene ScriptState ScriptCounts ω} {name : String}
    (memory : s.guest.memory = .zeroed 60) (table : s.guest.table = some (Boundary.fresh name).bind) :
    (inquiry.run out again s).1 = .error (.trap "boom") := by
  have written : (Memory.zeroed 60).write 0 [102, 46, 97] =
      .ok ⟨Memory.splice (List.replicate 60 0) 0 [102, 46, 97]⟩ := rfl
  simp only [inquiry, Act.run, memory, written, table, HostTable.call]
  rfl

/-- So it never says what it is. -/
theorem pluginInfo_inquirer (out : Outside ScriptCounts ω) {s : Scene ScriptState ScriptCounts ω}
    {name : String} (exports : s.guest.exports = inquirer.exports) (plugin : s.guest.plugin = name)
    (memory : s.guest.memory = .zeroed 60) (table : s.guest.table = some (Boundary.fresh name).bind) :
    (ending (GuestM.pluginInfo out) s).1 =
      .error (.exportFailed name "get_plugin_info" (.trap "boom")) := by
  have offered : s.guest.exports "get_plugin_info" = some fun _ => inquiry := by
    rw [exports]
    rfl
  obtain ⟨t, answered⟩ : ∃ t, ending (GuestM.callExport out (GuestM.freeFormat out)
      "get_plugin_info" []) s = (.error (.exportFailed name "get_plugin_info" (.trap "boom")), t) := by
    have ran := run_inquiry out (GuestM.freeFormat out) memory table
    rw [GuestM.ending_callExport, offered, plugin]
    simp only
    revert ran
    rcases inquiry.run out (GuestM.freeFormat out) s with ⟨f | v, t⟩
    · rintro ⟨⟩
      exact ⟨_, rfl⟩
    · exact fun ran => absurd ran (by simp)
  unfold GuestM.pluginInfo GuestM.receiveText
  rw [ending_bind_of_error (ending_bind_of_error answered)]

/-- The inquirer is never loaded. What it asks for does not reach its own record. -/
theorem exists_ending_load_inquirer (e : ScriptCounts) {p : Pool ScriptState ScriptCounts}
    {id : RecordId} {name : String} (found : p.records[id]? = some (.fresh name [2])) :
    ∃ y, ending (PoolM.loadPlugin inquiring (PoolM.around inquiring p.limits) id) (e, p) =
        (.error (.exportFailed name "get_plugin_info" (.trap "boom")), y) ∧
      y.2.records[id]? = some (PluginRecord.fresh name [2]).countCreated := by
  let out := PoolM.around inquiring p.limits
  let n := p.instances.length
  let g : Instance ScriptState ScriptCounts :=
    { inquirer.begin name none with table := some (Boundary.fresh name).bind }
  let asked : Instance ScriptState ScriptCounts :=
    { g with state := { g.state with calls := [("get_plugin_schema_version", [])] } }
  let q : Pool ScriptState ScriptCounts :=
    (Ledger.withState (Ledger.withNew p id g) n id asked).updateRecord id PluginRecord.countCreated
  have loaded : ending (PoolM.loadInstance inquiring out id) (e, p) =
      (.ok n, e, Ledger.withNew p id g) := by
    rw [PoolM.ending_loadInstance inquiring out found]
    rfl
  have checked : ending (GuestM.checkSchema out) ⟨g, e, Ledger.withNew p id g⟩ =
      (.ok (), ⟨asked, e, Ledger.withNew p id g⟩) := rfl
  have created : ending (PoolM.createInstance inquiring out id) (e, p) = (.ok n, e, q) := by
    have there : (Ledger.withNew p id g).instances[n]? = some (id, g) := by simp [Ledger.withNew, n]
    unfold PoolM.createInstance
    rw [ending_bind_of_ok loaded, ending_bind, PoolM.ending_withInstance there, checked]
    rfl
  have there : q.instances[n]? = some (id, asked) := by
    simp [q, Pool.updateRecord, Ledger.withState, Ledger.withNew, n]
  have recorded : q.records[id]? = some (PluginRecord.fresh name [2]).countCreated :=
    Pool.getElem?_updateRecord_self (p := Ledger.withState (Ledger.withNew p id g) n id asked) found _
  have silent : ∀ i r, ¬i ≠ id → q.records[i]? = some r → r.info = none := by
    rintro i r same here
    obtain rfl := not_not.1 same
    obtain rfl := Option.some.inj (recorded.symm.trans here)
    rfl
  have lasting : Lasting inquiring out (· ≠ id) (q.Confined (· ≠ id)) :=
    lasting_confined rfl (keeps_confined_around inquiring silent p.limits)
  have confined := lasting.called n .info (e, q) (.refl _ q)
  refine ⟨_, ?_, (confined.others id (by simp)).trans recorded⟩
  unfold PoolM.loadPlugin
  rw [ending_bind_of_ok created]
  refine ending_bind_of_error ?_
  rw [PoolM.ending_withInstance there]
  exact Prod.ext (pluginInfo_inquirer out rfl rfl rfl rfl) rfl

/-- A pool with these plugins, registered in an order. -/
def inquired (plugins : List (String × Bytes)) :
    Except Fault Unit × ScriptCounts × Pool ScriptState ScriptCounts :=
  ending (PoolM.registerAll inquiring plugins) (.zero, .empty strict)

/-- What becomes of either plugin is its own affair. -/
theorem recordMade_inquiring {name : String} {moduleBytes : Bytes} (valid : isPluginName name = true)
    (known : moduleBytes = [1] ∨ moduleBytes = [2]) (e e' : ScriptCounts)
    {p p' : Pool ScriptState ScriptCounts} (same : p.config = strict) (same' : p'.config = strict) :
    recordMade inquiring name moduleBytes (e', p') = recordMade inquiring name moduleBytes (e, p) := by
  rcases known with rfl | rfl
  · have read (counts : ScriptCounts) : (inquiring [1] counts).1 = .ok (trapping.toModule [1]) := by
      have other : ¬([1] : Bytes) = [2] := by decide
      simp only [inquiring, if_neg other]
      exact result_engine rfl rfl counts
    have alone : LoadsAlone inquiring strict name [1] :=
      loadsAlone_of_solitary valid (fun e e' => (read e').trans (read e).symm) fun e m loaded => by
        obtain rfl := Except.ok.inj ((read e).symm.trans loaded)
        exact solitary_toModule (rfl : trapping.format = [.trap "boom"]) trivial [1]
    exact alone.outcome e e' p p' same same'
  · have made (e : ScriptCounts) (p : Pool ScriptState ScriptCounts) :
        recordMade inquiring name [2] (e, p) = ((PluginRecord.fresh name [2]).countCreated.degrade
          (Fault.exportFailed name "get_plugin_info" (.trap "boom")).message).outline := by
      let q : Pool ScriptState ScriptCounts := { p with records := p.records ++ [.fresh name [2]] }
      have first : q.records[p.records.length]? = some (.fresh name [2]) := by simp [q]
      obtain ⟨y, done, recorded⟩ := exists_ending_load_inquirer e first
      obtain ⟨journal, registered⟩ := exists_ending_register inquiring valid [2] e p
      change ending (PoolM.loadPlugin inquiring (PoolM.around inquiring p.limits) p.records.length)
        (e, q) = _ at done
      rw [recordMade, registered, done]
      exact congrArg (fun r : Option PluginRecord => (r.getD _).outline)
        (Pool.getElem?_updateRecord_self recorded _)
    rw [made, made]

end Script

open Script

/-- If a plugin may ask for something while it is loaded, the order of registration matters, though the
load of each plugin depends on nothing but its own module: a plugin that is there already crashes under
the request, and one that comes later does not. -/
theorem registration_order_matters :
    let plugins : List (String × Bytes) := [("bb", [1]), ("aa", [2])]
    (∀ plugin ∈ plugins, isPluginName plugin.1 = true) ∧ (plugins.map Prod.fst).Nodup ∧
      (∀ plugin ∈ plugins, ∀ (e e' : ScriptCounts) (p p' : Pool ScriptState ScriptCounts),
        p.config = strict → p'.config = strict →
          recordMade inquiring plugin.1 plugin.2 (e', p') =
            recordMade inquiring plugin.1 plugin.2 (e, p)) ∧
      (inquired plugins).2.2.sorted.map (fun x => (x.2.name, x.2.status)) =
        [("aa", .degraded), ("bb", .disabled)] ∧
      (inquired plugins.reverse).2.2.sorted.map (fun x => (x.2.name, x.2.status)) =
        [("aa", .degraded), ("bb", .loaded)] ∧
      (∀ updated, (inquired plugins.reverse).2.2.listing updated ≠
        (inquired plugins).2.2.listing updated) ∧
      (inquired (plugins.filter fun plugin => plugin.1 ≠ "aa")).2.2.sorted.map
        (fun x => (x.2.name, x.2.status)) = [("bb", .loaded)] := by
  intro plugins
  have first : (inquired plugins).2.2.sorted.map (fun x => (x.2.name, x.2.status)) =
      [("aa", .degraded), ("bb", .disabled)] := by decide +kernel
  have second : (inquired plugins.reverse).2.2.sorted.map (fun x => (x.2.name, x.2.status)) =
      [("aa", .degraded), ("bb", .loaded)] := by decide +kernel
  have left : (inquired (plugins.filter fun plugin => plugin.1 ≠ "aa")).2.2.sorted.map
      (fun x => (x.2.name, x.2.status)) = [("bb", .loaded)] := by decide +kernel
  refine ⟨by decide, by decide, ?_, first, second, fun updated same => ?_, left⟩
  · simp only [plugins, List.mem_cons, List.not_mem_nil, or_false]
    rintro plugin (rfl | rfl) e e' p p' same same'
    · exact recordMade_inquiring (by decide) (.inl rfl) e e' same same'
    · exact recordMade_inquiring (by decide) (.inr rfl) e e' same same'
  · have statuses := Pool.statuses_of_listing same
    have first := congrArg (List.map Prod.snd) first
    have second := congrArg (List.map Prod.snd) second
    rw [List.map_map] at first second
    exact absurd (second.symm.trans (statuses.trans first)) (by decide)

end FormatHost
