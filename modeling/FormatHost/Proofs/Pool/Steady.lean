import FormatHost.Proofs.Guest.Computing
import FormatHost.Proofs.Pool.Aside
import FormatHost.Proofs.Pool.Nesting
/-!
# Pools of plugins that compute

Where all plugins compute their answers, a format call succeeds with what the plugin of the path computes,
and the pool is ready for the next call: the instance that was lent waits again.
-/
namespace FormatHost

variable {σ ε : Type}

/-- A computing instance that can be lent. -/
structure Instance.Ready (c : Calculus σ) (g : Instance σ ε) : Prop where
  computes : g.Computes c
  free : g.busy = false
  healthy : g.poisoned = false

/-- Every plugin that was loaded has instances that wait, all of which compute what is known of its module
bytes; and nothing is active. -/
structure Pool.Steady (c : Bytes → Calculus σ) (p : Pool σ ε) : Prop where
  idle : p.chain.active = []
  room : 0 < p.chain.limit
  enabled : ∀ (id : RecordId) (r : PluginRecord), p.records[id]? = some r → r.status ≠ .degraded →
    r.status ≠ .disabled ∧ r.idle ≠ []
  ready : ∀ (id : RecordId) (r : PluginRecord), p.records[id]? = some r → ∀ n ∈ r.idle,
    ∃ g, p.instances[n]? = some (id, g) ∧ g.Ready (c r.moduleBytes)

/-- What a record has to offer: its idle instances, what it handles, and its module. -/
def PluginRecord.offer (r : PluginRecord) :
    List InstanceId × (String × Option PluginInfo × PluginStatus) × Bytes :=
  (r.idle, r.face, r.moduleBytes)

/-- An instance of a record has answered, and waits as it did before. -/
structure Pool.Served (c : Calculus σ) (id : RecordId) (n : InstanceId) (p q : Pool σ ε) : Prop where
  registry : q.registry = p.registry
  chain : q.chain = p.chain
  offers : ∀ i : RecordId,
    q.records[i]?.map PluginRecord.offer = p.records[i]?.map PluginRecord.offer
  owner : ∃ g, p.instances[n]? = some (id, g)
  instances : ∃ g, q.instances = p.instances.set n (id, g) ∧ g.Ready c

/-! ### One call -/

section

variable {c : Calculus σ} {p : Pool σ ε} {id : RecordId} {n : InstanceId} {r : PluginRecord}
  {g : Instance σ ε} {rest : List InstanceId} (engine : Engine σ ε) (out : Outside ε (Pool σ ε)) (e : ε)

/-- The account of a record that has lent its last idle instance. -/
def PluginRecord.lent (r : PluginRecord) (rest : List InstanceId) : PluginRecord :=
  { r with idle := rest, inUse := r.inUse + 1 }

theorem ending_acquire_of_idle (found : p.records[id]? = some r) (enabled : r.status ≠ .disabled)
    (waits : r.idle = rest ++ [n]) :
    ending (PoolM.acquire engine out id) (e, p) = (.ok n, e, p.updateRecord id fun _ => r.lent rest) := by
  have lease : r.lease p.limits.maxInstances = .popped n (r.lent rest) :=
    PluginRecord.lease_of_idle enabled waits
  rw [PoolM.ending_acquire engine out found, lease]

/-- A lent instance answers, and is ready to be given back. -/
theorem exists_ending_formatLent_of_ready (there : p.instances[n]? = some (id, g)) (ready : g.Ready c)
    (path text : String) :
    ∃ e' q g', ending (PoolM.formatLent out id path text .null n) (e, p) =
        (.ok (c.answer path text), e', q) ∧ q.registry = p.registry ∧ q.chain = p.chain ∧
      q.records = p.records ∧ q.instances = p.instances.set n (id, g') ∧ g'.Ready c := by
  let p₁ : Pool σ ε := { p with events := .formatting id n p.chain.active :: p.events }
  obtain ⟨t, answered, computes, free, healthy, world⟩ :=
    ending_formatText_of_computes out (s := ⟨g, e, p₁⟩) ready.computes ready.free path text
  have called : ending (PoolM.withInstance n (GuestM.formatText out path text .null)) (e, p₁) =
      (.ok (c.answer path text), t.engine, Ledger.withState p₁ n id t.guest) := by
    rw [PoolM.ending_withInstance (x := (e, p₁)) there, answered, world]
  refine ⟨t.engine, Ledger.withState p₁ n id t.guest, t.guest, ?_, rfl, rfl, rfl, rfl, computes, free,
    healthy.trans ready.healthy⟩
  rw [PoolM.ending_formatLent]
  simp only [p₁] at called
  rw [called]

/-- Who borrows an instance that waits gets an answer, and the instance waits again. -/
theorem exists_ending_borrowing_of_ready (found : p.records[id]? = some r)
    (enabled : r.status ≠ .disabled) (waits : r.idle = rest ++ [n])
    (there : p.instances[n]? = some (id, g)) (ready : g.Ready c) (path text : String) :
    ∃ e' q, ending (PoolM.borrowing engine out id (PoolM.formatLent out id path text .null)) (e, p) =
      (.ok (c.answer path text), e', q) ∧ p.Served c id n q := by
  let p₁ : Pool σ ε := p.updateRecord id fun _ => r.lent rest
  have found₁ : p₁.records[id]? = some (r.lent rest) := Pool.getElem?_updateRecord_self found _
  obtain ⟨e', q, g', lent, registry, chain, records, instances, ready'⟩ :=
    exists_ending_formatLent_of_ready out e (p := p₁) there ready path text
  have known : n < p.instances.length := (List.getElem?_eq_some_iff.1 there).1
  have there' : q.instances[n]? = some (id, g') := by
    rw [instances]
    exact List.getElem?_set_self known
  have found₂ : q.records[id]? = some (r.lent rest) := by
    rw [records]
    exact found₁
  have released := PoolM.ending_release_of_healthy (e := e') found₂ there' ready'.healthy
  refine ⟨e', q.updateRecord id (PluginRecord.release n false), ?_, registry, chain, fun i => ?_,
    ⟨g, there⟩, g', instances, ready'⟩
  · unfold PoolM.borrowing
    rw [ending_bind_of_ok (ending_acquire_of_idle engine out e found enabled waits),
      PoolM.ending_returning, lent, ending_bind_of_ok released, ending_ofExcept]
  · by_cases same : i = id
    · subst same
      rw [Pool.getElem?_updateRecord_self found₂, found]
      exact congrArg (fun idle => some (idle, r.face, r.moduleBytes)) waits.symm
    · rw [Pool.getElem?_updateRecord_ne q same, records, Pool.getElem?_updateRecord_ne p same]

/-- A format call at a record with an instance that waits is answered. -/
theorem exists_ending_formatWith_of_ready (found : p.records[id]? = some r)
    (enabled : r.status ≠ .disabled) (waits : r.idle = rest ++ [n])
    (there : p.instances[n]? = some (id, g)) (ready : g.Ready c)
    (room : p.chain.depth < p.chain.limit) (path text : String) :
    ∃ e' q, ending (PoolM.formatWith engine out id path text .null) (e, p) =
      (.ok (c.answer path text), e', q) ∧ p.Served c id n q := by
  have entered : p.chain.enter r.name = .ok { p.chain with active := p.chain.active ++ [r.name] } :=
    CallChain.enter_of_lt room r.name
  let p₁ : Pool σ ε := { p with chain := { p.chain with active := p.chain.active ++ [r.name] } }
  obtain ⟨e', q, borrowed, served⟩ :=
    exists_ending_borrowing_of_ready engine out e (p := p₁) found enabled waits there ready path text
  have used : ending (PoolM.entering r.name
      (PoolM.borrowing engine out id (PoolM.formatLent out id path text .null))) (e, p) =
        (.ok (c.answer path text), e', { q with chain := q.chain.exit }) := by
    rw [PoolM.ending_entering_of_ok entered, borrowed]
  refine ⟨e', { ({ q with chain := q.chain.exit } : Pool σ ε).updateRecord id PluginRecord.succeed with
    events := .succeeded id :: q.events }, ?_, served.registry, ?_, fun i => ?_, served.owner,
    served.instances⟩
  · exact PoolM.ending_formatWith_of_ok found used
  · exact (congrArg CallChain.exit served.chain).trans (CallChain.exit_of_enter entered)
  · refine Eq.trans ?_ (served.offers i)
    simp only [Pool.updateRecord, List.getElem?_modify]
    split
    · rw [Option.map_eq_map, Option.map_map]
      rfl
    · rw [Option.map_eq_map, Option.map_map]
      rfl

end

/-! ### Call after call -/

section

variable {c : Bytes → Calculus σ} {p q : Pool σ ε} {id : RecordId} {n : InstanceId} {r : PluginRecord}
  {d : Calculus σ}

/-- Every record offers what it offered before. -/
theorem Pool.Served.exists_offer (served : p.Served d id n q) {i : RecordId} {x : PluginRecord}
    (there : q.records[i]? = some x) :
    ∃ y, p.records[i]? = some y ∧ x.idle = y.idle ∧ x.face = y.face ∧ x.moduleBytes = y.moduleBytes := by
  have same := served.offers i
  rw [there, Option.map_some] at same
  obtain ⟨y, former, offer⟩ := Option.map_eq_some_iff.1 same.symm
  obtain ⟨idle, face, moduleBytes⟩ := And.imp_right Prod.mk.inj (Prod.mk.inj offer.symm)
  exact ⟨y, former, idle, face, moduleBytes⟩

/-- A pool that has served a call is steady again. -/
theorem Pool.Steady.served (steady : p.Steady c) (found : p.records[id]? = some r)
    (served : p.Served (c r.moduleBytes) id n q) : q.Steady c := by
  obtain ⟨g, instances, ready⟩ := served.instances
  refine ⟨served.chain ▸ steady.idle, served.chain ▸ steady.room, fun i x there loaded => ?_,
    fun i x there m waits => ?_⟩
  · obtain ⟨y, former, idle, face, -⟩ := served.exists_offer there
    have status : x.status = y.status := (Prod.mk.inj (Prod.mk.inj face).2).2
    rw [status, idle]
    exact steady.enabled i y former (status ▸ loaded)
  · obtain ⟨y, former, idle, -, moduleBytes⟩ := served.exists_offer there
    obtain ⟨g', there', ready'⟩ := steady.ready i y former m (idle ▸ waits)
    rw [moduleBytes, instances]
    by_cases same : n = m
    · subst same
      obtain ⟨g'', owned⟩ := served.owner
      obtain ⟨rfl, -⟩ := Prod.mk.inj (Option.some.inj (there'.symm.trans owned))
      obtain rfl : r = y := Option.some.inj (found.symm.trans former)
      exact ⟨g, List.getElem?_set_self (List.getElem?_eq_some_iff.1 owned).1, ready⟩
    · exact ⟨g', (List.getElem?_set_ne same).trans there', ready'⟩

/-- Notes change nothing. -/
theorem Pool.Steady.notes (steady : p.Steady c) (chain : q.chain = p.chain)
    (records : q.records = p.records) (instances : q.instances = p.instances) : q.Steady c where
  idle := chain ▸ steady.idle
  room := chain ▸ steady.room
  enabled := records ▸ steady.enabled
  ready := records ▸ instances ▸ steady.ready

/-- What the plugin of a path computes. -/
def Pool.answerer? (c : Bytes → Calculus σ) (p : Pool σ ε) (path : String) :
    Option (String → Option String) :=
  (p.resolve path).map fun found => (c found.2.moduleBytes).answer path

/-- Where paths go does not change when a call is served. -/
theorem Pool.Served.answerer (served : p.Served d id n q) (path : String) :
    q.answerer? c path = p.answerer? c path := by
  have faces (i : RecordId) :
      q.records[i]?.map PluginRecord.face = p.records[i]?.map PluginRecord.face := by
    simpa [Option.map_map, Function.comp_def, PluginRecord.offer] using
      congrArg (Option.map fun offer => offer.2.1) (served.offers i)
  unfold answerer?
  cases resolved : p.resolve path with
  | some found =>
    obtain ⟨r', resolved', -⟩ := Pool.exists_resolve served.registry faces resolved
    obtain ⟨y, former, -, -, moduleBytes⟩ :=
      served.exists_offer (Pool.mem_registry_of_resolve resolved').1
    obtain rfl : found.2 = y :=
      Option.some.inj ((Pool.mem_registry_of_resolve resolved).1.symm.trans former)
    rw [resolved', Option.map_some, Option.map_some, moduleBytes]
  | none =>
    cases resolved' : q.resolve path with
    | none => rfl
    | some found =>
      obtain ⟨r', back, -⟩ :=
        Pool.exists_resolve served.registry.symm (fun i => (faces i).symm) resolved'
      exact absurd (resolved.symm.trans back) (by simp)

/-- In a steady pool a format call succeeds with what the plugin of the path computes. After that the pool
is steady again, and its plugins compute what they did. -/
theorem Pool.Steady.exists_ending_formatText (steady : p.Steady c) (engine : Engine σ ε) (e : ε)
    {path : String} {f : String → Option String} (handled : p.answerer? c path = some f)
    (text : String) :
    ∃ e' q, ending (PoolM.formatText engine path text .null) (e, p) = (.ok (f text), e', q) ∧
      q.Steady c ∧ ∀ path, q.answerer? c path = p.answerer? c path := by
  obtain ⟨⟨id, r⟩, resolved, rfl⟩ := Option.map_eq_some_iff.1 handled
  have found := (Pool.mem_registry_of_resolve resolved).1
  have loaded : r.status ≠ .degraded := by
    have handles := List.find?_some resolved
    unfold PluginRecord.handles at handles
    split at handles
    · simp at handles
    · simp only [Bool.and_eq_true, bne_iff_ne] at handles
      exact handles.1
  obtain ⟨enabled, waits⟩ := steady.enabled id r found loaded
  have last := List.dropLast_concat_getLast waits
  obtain ⟨g, there, ready⟩ := steady.ready id r found _ (List.getLast_mem waits)
  obtain ⟨e', q, formatted, served⟩ := exists_ending_formatWith_of_ready engine
    (PoolM.around engine p.limits) e found enabled last.symm there ready
    (by rw [CallChain.depth, steady.idle]; exact steady.room) path text
  refine ⟨e', q, ?_, steady.served found served, served.answerer⟩
  rw [PoolM.ending_formatText_of_resolve resolved]
  exact formatted

end

/-! ### How such pools come about -/

section

variable {engine : Engine σ ε} {c : Bytes → Calculus σ}

/-- Instances compute what is known of the module bytes that they were loaded from. -/
def Computing (c : Bytes → Calculus σ) : Traits σ ε := fun _ loaded g => g.Computes (c loaded)

theorem breeds_computing
    (computes : ∀ moduleBytes e m, (engine moduleBytes e).1 = .ok m → m.Computes (c moduleBytes)) :
    Breeds engine (Computing c) where
  loaded {out name loaded x g} far made := by
    have read := made
    rw [run_load] at read
    rcases done : engine loaded x.1 with ⟨fault | m, e'⟩
    · rw [done] at read
      exact absurd read (by simp)
    · exact computes_of_load (computes loaded x.1 m (congrArg Prod.fst done)) done made
  driven {γ out call name loaded g} e p far service has := by
    have level : InStep (ComputesTwin (c loaded)) out out := inStep_computes far
    cases service with
    | schema => exact level.checkSchema.computes ⟨g, e, p⟩ has
    | info => exact level.pluginInfo.computes ⟨g, e, p⟩ has
    | configure global plugin => exact (level.setConfig global plugin).computes ⟨g, e, p⟩ has
    | diagnose => exact level.configDiagnostics.computes ⟨g, e, p⟩ has
    | format path text override =>
      exact (level.formatText (fun again again' => level_callExport_computes far again again' _ [])
        path text rfl rfl).computes ⟨g, e, p⟩ has

/-- A pool whose plugins compute is steady, as long as every plugin that was loaded has an instance that
waits. -/
theorem Ran.steady {config : PoolConfig} {x : ε × Pool σ ε} (ran : Ran engine config x)
    (computes : ∀ moduleBytes e m, (engine moduleBytes e).1 = .ok m → m.Computes (c moduleBytes))
    (waits : ∀ r ∈ x.2.records, r.status ≠ .degraded → r.status ≠ .disabled ∧ r.idle ≠ []) :
    x.2.Steady c where
  idle := by rw [ran.idle]; rfl
  room := by
    rw [ran.idle, CallChain.empty_maxDepth]
    exact x.2.limits.one_le_maxDepth
  enabled id r found := waits r (List.mem_of_getElem? found)
  ready id r found n mem := by
    obtain ⟨retired, reachable⟩ := ran.reachable
    have o := Orderly.of_reachable reachable
    obtain ⟨g, there, healthy⟩ := o.balanced.idle id r n found mem
    exact ⟨g, there, (ran.bred (breeds_computing computes)).traits found there,
      (o.settled n id g there).1, healthy⟩

end

end FormatHost
