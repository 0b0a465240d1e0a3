import FormatHost.Proofs.Pool.Resolution
import FormatHost.Proofs.Guest.Solitary
/-!
# Loading by itself

Some plugins are loaded by themselves: the outcome depends on nothing but their own module and the
configuration of the pool, and what they ask for meanwhile makes no difference. Loading by itself touches
one record only. Requests touch no record that is silent about its plugin, but a request may well make
another plugin crash, and then the load is not the plugin's own affair. Plugins whose instances depend on
nothing but themselves are loaded by themselves.
-/
namespace FormatHost

variable {σ ε ω α : Type}

/-! ### Plugins that are loaded by themselves -/

/-- The same surroundings, with requests that go nowhere: every text is left as it is. -/
def Outside.deaf (out : Outside ε ω) : Outside ε ω := { out with ask := fun _ => pure .unchanged }

/-- What a registration makes of a plugin. -/
def recordMade (engine : Engine σ ε) (name : String) (moduleBytes : Bytes) (x : ε × Pool σ ε) :
    PluginRecord × Nat :=
  (((ending (PoolM.register engine name moduleBytes) x).2.2.records[x.2.records.length]?).getD
    (.fresh name moduleBytes)).outline

/-- The load of a plugin comes out the same whatever guests share and whatever a pool of this
configuration holds; and it makes no difference to the pool what becomes of a request. -/
structure LoadsAlone (engine : Engine σ ε) (config : PoolConfig) (name : String)
    (moduleBytes : Bytes) : Prop where
  outcome : ∀ (e e' : ε) (p p' : Pool σ ε), p.config = config → p'.config = config →
    recordMade engine name moduleBytes (e', p') = recordMade engine name moduleBytes (e, p)
  aloof : ∀ (e : ε) (p : Pool σ ε) (id : RecordId), p.config = config →
    p.records[id]? = some (.fresh name moduleBytes) →
      (ending (PoolM.loadPlugin engine (PoolM.around engine p.limits).deaf id) (e, p)).2.2 =
        (ending (PoolM.loadPlugin engine (PoolM.around engine p.limits) id) (e, p)).2.2

/-! ### What loading touches -/

/-- The second pool differs from the first in some records only, which have kept their names, in instances
and in notes. -/
structure Pool.Confined (touched : RecordId → Prop) (p q : Pool σ ε) : Prop where
  config : q.config = p.config
  registry : q.registry = p.registry
  names : q.records.map PluginRecord.name = p.records.map PluginRecord.name
  others : ∀ i, ¬touched i → q.records[i]? = p.records[i]?

namespace Pool.Confined

variable {touched : RecordId → Prop} {id : RecordId} {o p q : Pool σ ε}

theorem refl (touched : RecordId → Prop) (p : Pool σ ε) : p.Confined touched p :=
  ⟨rfl, rfl, rfl, fun _ _ => rfl⟩

/-- Instances and notes are no matter. -/
theorem notes (confined : o.Confined touched p) (config : q.config = p.config)
    (registry : q.registry = p.registry) (records : q.records = p.records) : o.Confined touched q :=
  ⟨config.trans confined.config, registry.trans confined.registry, records ▸ confined.names,
    records ▸ confined.others⟩

theorem updateRecord (confined : o.Confined touched p) (mine : touched id)
    {f : PluginRecord → PluginRecord} (keeps : ∀ r, p.records[id]? = some r → (f r).name = r.name) :
    o.Confined touched (p.updateRecord id f) where
  config := confined.config
  registry := confined.registry
  names := by
    rw [← confined.names]
    refine List.ext_getElem? fun i => ?_
    rw [List.getElem?_map, List.getElem?_map, Pool.updateRecord, List.getElem?_modify]
    cases found : p.records[i]? with
    | none => rfl
    | some r =>
      by_cases same : id = i
      · subst same
        simp [keeps r found]
      · simp [same]
  others i other := by
    have elsewhere : i ≠ id := by
      rintro rfl
      exact other mine
    exact (Pool.getElem?_updateRecord_ne p elsewhere f).trans (confined.others i other)

end Pool.Confined

section

variable {engine : Engine σ ε} {out : Outside ε (Pool σ ε)} {touched : RecordId → Prop} {o : Pool σ ε}

/-- Whatever is done with the records that may be touched, the pool differs in these only. -/
theorem lasting_confined (far : out.selfCalls = false) (keeps : out.Keeps (o.Confined touched)) :
    Lasting engine out touched (o.Confined touched) where
  notes confined same := confined.notes same.config same.registry same.records
  updateRecord confined mine keeps :=
    confined.updateRecord mine fun r found => (Prod.mk.inj (keeps r found)).1
  loaded id := by
    refine (Preserves.record id).bind fun r => .bind (fun x confined => ?_) fun g => ?_
    · rw [PoolM.ending_load]
      exact (hears_load engine (keeps.hears far r.name) r.moduleBytes x.1 x.2 confined).1
    · exact Preserves.pool.bind fun p => .bind (.update fun _ confined => confined.notes rfl rfl rfl)
        fun _ => .pure _
  called n service := by
    rintro ⟨e, p⟩ confined
    cases there : p.instances[n]? with
    | none =>
      rw [PoolM.ending_withInstance_of_none there]
      exact confined
    | some owned =>
      obtain ⟨owner, g⟩ := owned
      rw [PoolM.ending_withInstance there]
      obtain ⟨name, speaks⟩ := g.exists_speaks
      exact (service.heard (keeps.hears far name) ⟨g, e, p⟩ ⟨confined, speaks⟩).world.notes rfl rfl rfl

theorem keeps_deaf_around (engine : Engine σ ε) (limits : Limits) :
    (PoolM.around engine limits).deaf.Keeps (o.Confined touched) :=
  ⟨fun _ _ _ confined => confined, fun _ _ confined => confined.notes rfl rfl rfl⟩

/-! ### What requests touch -/

/-- Paths go to records that are touched if all others are silent about their plugins. -/
theorem Pool.Confined.touched_of_resolve {p : Pool σ ε} {id : RecordId} {r : PluginRecord} {path : String}
    (confined : o.Confined touched p)
    (silent : ∀ i r, ¬touched i → o.records[i]? = some r → r.info = none)
    (resolved : p.resolve path = some (id, r)) : touched id := by
  by_contra untouched
  have found := (Pool.mem_registry_of_resolve resolved).1
  have told := silent id r untouched ((confined.others id untouched).symm.trans found)
  obtain ⟨info, spoken⟩ := (Pool.told_of_resolve resolved).1
  cases told.symm.trans spoken

/-- Requests touch no record that is silent about its plugin. -/
theorem keeps_confined_around (engine : Engine σ ε)
    (silent : ∀ i r, ¬touched i → o.records[i]? = some r → r.info = none) (limits : Limits) :
    (PoolM.around engine limits).Keeps (o.Confined touched) := by
  refine keeps_around (I := fun _ : Unit => o.Confined touched)
    (fun _ _ _ _ confined => confined.notes rfl rfl rfl) ?_ limits ()
  intro out far keeps _ e p id r path text override resolved confined
  exact (lasting_confined far (keeps ())).preserves_formatWith
    (confined.touched_of_resolve silent resolved) path text override (e, p) confined

end

/-! ### Plugins that go by themselves -/

section

variable {engine : Engine σ ε} {moduleBytes : Bytes} {config : PoolConfig} {name : String}

/-- One record of a pool has been changed, and an instance of it has been added. -/
def Pool.made (p : Pool σ ε) (id : RecordId) (f : PluginRecord → PluginRecord) (g : Instance σ ε) :
    Pool σ ε :=
  Ledger.withNew (p.updateRecord id f) id g

theorem Pool.updateRecord_made (p : Pool σ ε) (id : RecordId) (f h : PluginRecord → PluginRecord)
    (g : Instance σ ε) : (p.made id f g).updateRecord id h = p.made id (h ∘ f) g := by
  simp [Pool.made, Pool.updateRecord, Ledger.withNew, List.modify_modify_eq]

/-- What is done with a new instance and its record comes to the same in every pool, up to the number of
the instance. -/
def Foregone (config : PoolConfig) (first : PluginRecord) (f : PluginRecord → PluginRecord)
    (g : Instance σ ε) (c : Outside ε (Pool σ ε) → RecordId → InstanceId → PoolM σ ε α) : Prop :=
  ∃ (result : Except Fault α) (f' : InstanceId → PluginRecord → PluginRecord) (g' : Instance σ ε),
    (∀ n n' r, (f' n' r).outline = (f' n r).outline) ∧
      ∀ (out : Outside ε (Pool σ ε)) (e : ε) (p : Pool σ ε) (id : RecordId), p.config = config →
        p.records[id]? = some first → ∃ e', ending (c out id p.instances.length)
          (e, p.made id f g) = (result, e', p.made id (f' p.instances.length) g')

namespace Foregone

variable {β : Type} {first : PluginRecord} {f : PluginRecord → PluginRecord} {g : Instance σ ε}

theorem throw (fault : Fault) :
    Foregone config first f g fun _ _ _ => (MonadExcept.throw fault : PoolM σ ε α) :=
  ⟨.error fault, fun _ => f, g, fun _ _ _ => rfl, fun _ e _ _ _ _ => ⟨e, rfl⟩⟩

theorem change (h : PluginRecord → PluginRecord)
    {k : Outside ε (Pool σ ε) → RecordId → InstanceId → PoolM σ ε α}
    (next : Foregone config first (h ∘ f) g k) :
    Foregone config first f g fun out id n => PoolM.updateRecord id h >>= fun _ => k out id n := by
  obtain ⟨result, f', g', outline, ends⟩ := next
  refine ⟨result, f', g', outline, fun out e p id same found => ?_⟩
  obtain ⟨e', done⟩ := ends out e p id same found
  refine ⟨e', ?_⟩
  rw [ending_bind, PoolM.ending_updateRecord]
  simp only [Pool.updateRecord_made]
  exact done

/-- The last change may put the number of the instance into the record. -/
theorem last {h : InstanceId → PluginRecord → PluginRecord}
    (outline : ∀ n n' r, (h n' r).outline = (h n r).outline) (a : α) :
    Foregone config first f g fun _ id n =>
      (PoolM.updateRecord id (h n) >>= fun _ => Pure.pure a : PoolM σ ε α) := by
  refine ⟨.ok a, fun n => h n ∘ f, g, fun n n' r => outline n n' (f r), fun _ e p id _ _ => ⟨e, ?_⟩⟩
  rw [ending_bind, PoolM.ending_updateRecord]
  simp only [Pool.updateRecord_made, ending_pure]

theorem record {k : PluginRecord → Outside ε (Pool σ ε) → RecordId → InstanceId → PoolM σ ε α}
    (next : Foregone config first f g (k (f first))) :
    Foregone config first f g fun out id n => PoolM.record id >>= fun r => k r out id n := by
  obtain ⟨result, f', g', outline, ends⟩ := next
  refine ⟨result, f', g', outline, fun out e p id same found => ?_⟩
  obtain ⟨e', done⟩ := ends out e p id same found
  have there : (p.made id f g).records[id]? = some (f first) :=
    Pool.getElem?_updateRecord_self found f
  exact ⟨e', (ending_bind_of_ok (PoolM.ending_record there)).trans done⟩

theorem pool {k : Pool σ ε → Outside ε (Pool σ ε) → RecordId → InstanceId → PoolM σ ε α}
    {k' : Outside ε (Pool σ ε) → RecordId → InstanceId → PoolM σ ε α}
    (reads : ∀ p, p.config = config → k p = k') (next : Foregone config first f g k') :
    Foregone config first f g fun out id n => PoolM.pool >>= fun p => k p out id n := by
  obtain ⟨result, f', g', outline, ends⟩ := next
  refine ⟨result, f', g', outline, fun out e p id same found => ?_⟩
  obtain ⟨e', done⟩ := ends out e p id same found
  refine ⟨e', ?_⟩
  rw [ending_bind, PoolM.ending_pool]
  simp only [reads (p.made id f g) same]
  exact done

/-- A call on an instance that depends on nothing but itself. -/
theorem call {call : Outside ε (Pool σ ε) → GuestM σ ε (Pool σ ε) α}
    (level : ∀ (X : Exports σ ε) (out out' : Outside ε (Pool σ ε)) (w w' : Pool σ ε),
      SolitaryExports X → Level (Beside X w w') (call out) (call out'))
    (e₀ : ε) (solitary : SolitaryExports g.exports)
    {k : α → Outside ε (Pool σ ε) → RecordId → InstanceId → PoolM σ ε β}
    (next : ∀ a g', SolitaryExports g'.exports → Foregone config first f g' (k a)) :
    Foregone config first f g fun out id n =>
      PoolM.withInstance n (call out) >>= fun a => k a out id n := by
  let quiet : Outside ε (Pool σ ε) := ⟨fun _ => pure .unchanged, pure (), 0, false⟩
  let once := ending (call quiet) ⟨g, e₀, .empty config⟩
  have beside (out : Outside ε (Pool σ ε)) (e : ε) (q : Pool σ ε) :=
    level g.exports quiet out (.empty config) q solitary ⟨g, e₀, .empty config⟩ ⟨g, e, q⟩
      ⟨rfl, rfl, rfl, rfl⟩
  have called (out : Outside ε (Pool σ ε)) (e : ε) (p : Pool σ ε) (id : RecordId) : ∃ e',
      ending (PoolM.withInstance p.instances.length (call out)) (e, p.made id f g) =
        (once.1, e', p.made id f once.2.guest) := by
    have there : (p.made id f g).instances[p.instances.length]? = some (id, g) := by
      simp [Pool.made, Ledger.withNew]
    obtain ⟨same, after⟩ := beside out e (p.made id f g)
    refine ⟨(ending (call out) ⟨g, e, p.made id f g⟩).2.engine, ?_⟩
    rw [PoolM.ending_withInstance there, same, after.right, after.same]
    simp [Pool.made, Ledger.withNew, Ledger.withState, once]
  have still : SolitaryExports once.2.guest.exports :=
    (beside quiet e₀ (.empty config)).2.exports ▸ solitary
  rcases answer : once.1 with fault | a
  · refine ⟨.error fault, fun _ => f, once.2.guest, fun _ _ _ => rfl, fun out e p id _ _ => ?_⟩
    obtain ⟨e', done⟩ := called out e p id
    exact ⟨e', ending_bind_of_error (answer ▸ done)⟩
  · obtain ⟨result, f', g', outline, ends⟩ := next a once.2.guest still
    refine ⟨result, f', g', outline, fun out e p id same found => ?_⟩
    obtain ⟨e', done⟩ := called out e p id
    obtain ⟨e'', done'⟩ := ends out e' p id same found
    exact ⟨e'', (ending_bind_of_ok (answer ▸ done)).trans done'⟩

end Foregone

/-- What follows when an instance has been loaded. -/
theorem foregone_loaded (config : PoolConfig) (e₀ : ε) (first : PluginRecord) {g : Instance σ ε}
    (solitary : SolitaryExports g.exports) :
    Foregone config first (fun r => r) g fun out id n => do
      PoolM.withInstance n (GuestM.checkSchema out)
      PoolM.updateRecord id PluginRecord.countCreated
      let info ← PoolM.withInstance n (GuestM.pluginInfo out)
      PoolM.updateRecord id fun r => { r with info := some info }
      PoolM.configure out id n
      PoolM.updateRecord id (PluginRecord.ready n)
      return info := by
  refine .call (fun X out out' w w' solitary => (inStep_beside solitary).checkSchema) e₀ solitary
    fun _ g solitary => ?_
  refine .change _ (.call (fun X out out' w w' solitary => (inStep_beside solitary).pluginInfo) e₀
    solitary fun info g solitary => ?_)
  refine .change _ ?_
  simp only [PoolM.configure, bind_assoc]
  refine .record ?_
  refine .pool (fun p same => by simp only [same]; rfl) ?_
  refine .call (fun X out out' w w' solitary => (inStep_beside solitary).setConfig _ _) e₀ solitary
    fun _ g solitary => ?_
  refine .call (fun X out out' w w' solitary => (inStep_beside solitary).configDiagnostics) e₀
    solitary fun diagnostics g _ => ?_
  cases diagnostics.isEmpty with
  | true =>
    exact .last (h := PluginRecord.ready)
      (fun n n' r => by simp [PluginRecord.outline, PluginRecord.ready]) info
  | false => exact .throw _

/-- Loading a plugin whose instances depend on nothing but themselves comes to the same in every pool. -/
theorem exists_ending_loadPlugin
    (alike : ∀ e e', (engine moduleBytes e').1 = (engine moduleBytes e).1)
    (solitary : ∀ e m, (engine moduleBytes e).1 = .ok m → m.Solitary) (e₀ : ε) (config : PoolConfig)
    (name : String) :
    ∃ (result : Except Fault PluginInfo) (after : RecordId → Pool σ ε → Pool σ ε)
      (f : InstanceId → PluginRecord → PluginRecord),
      (∀ n n' r, (f n' r).outline = (f n r).outline) ∧
        (∀ id p, (after id p).records = (p.updateRecord id (f p.instances.length)).records) ∧
        ∀ (out : Outside ε (Pool σ ε)) (e : ε) (p : Pool σ ε) (id : RecordId), p.config = config →
          p.records[id]? = some (.fresh name moduleBytes) → ∃ e',
            ending (PoolM.loadPlugin engine out id) (e, p) = (result, e', after id p) := by
  let quiet : Outside ε (Pool σ ε) := ⟨fun _ => pure .unchanged, pure (), 0, false⟩
  let once := (Instance.load engine quiet name (some (.fresh name)) moduleBytes).run
    (e₀, (Pool.empty config : Pool σ ε))
  have solitary' (g : Instance σ ε) (made : once.1.1 = .ok g) : SolitaryExports g.exports :=
    (load_beside (alike e₀ e₀) (solitary e₀) quiet quiet (.empty config) (.empty config) name
      (some (.fresh name))).2.2.2 g made
  have loads (out : Outside ε (Pool σ ε)) (e : ε) (p : Pool σ ε) : ∃ e', ending (ExceptT.mk do
      return (← Instance.load engine out name (some (.fresh name)) moduleBytes).1 :
        PoolM σ ε (Instance σ ε)) (e, p) = (once.1.1, e', p) := by
    obtain ⟨again, -, world, -⟩ := load_beside (alike e₀ e) (solitary e₀) quiet out (.empty config) p
      name (some (.fresh name))
    exact ⟨_, (PoolM.ending_load ..).trans (Prod.ext again (Prod.ext rfl world))⟩
  have same (id : RecordId) (p : Pool σ ε) : p.updateRecord id (fun r => r) = p :=
    congrArg (fun records => { p with records }) (List.modify_id id p.records)
  rcases made : once.1.1 with fault | g
  · refine ⟨.error fault, fun _ p => p, fun _ r => r, fun _ _ _ => rfl, fun id p => ?_, ?_⟩
    · rw [same]
    · intro out e p id _ found
      obtain ⟨e', load⟩ := loads out e p
      refine ⟨e', ?_⟩
      simp only [PoolM.loadPlugin, PoolM.createInstance, PoolM.loadInstance, bind_assoc]
      rw [ending_bind_of_ok (PoolM.ending_record found)]
      exact ending_bind_of_error (made ▸ load)
  · obtain ⟨result, f, g', outline, ends⟩ := foregone_loaded config e₀
      (.fresh name moduleBytes) (solitary' g made)
    refine ⟨result, fun id p => p.made id (f p.instances.length) g', f, outline, fun _ _ => rfl, ?_⟩
    intro out e p id config' found
    obtain ⟨e', load⟩ := loads out e p
    obtain ⟨e'', done⟩ := ends out e' p id config' found
    refine ⟨e'', Eq.trans ?_ done⟩
    simp only [PoolM.loadPlugin, PoolM.createInstance, PoolM.loadInstance, bind_assoc, pure_bind]
    rw [ending_bind_of_ok (PoolM.ending_record found)]
    refine (ending_bind_of_ok (made ▸ load)).trans ?_
    rw [ending_bind, PoolM.ending_pool]
    simp only
    rw [ending_bind, PoolM.ending_update, Pool.made, same]
    rfl

/-- A plugin whose instances depend on nothing but themselves, and whose module is always read alike, is
loaded by itself. -/
theorem loadsAlone_of_solitary (valid : isPluginName name = true)
    (alike : ∀ e e', (engine moduleBytes e').1 = (engine moduleBytes e).1)
    (solitary : ∀ e m, (engine moduleBytes e).1 = .ok m → m.Solitary) :
    LoadsAlone engine config name moduleBytes where
  outcome e e' p p' same same' := by
    obtain ⟨result, after, f, outline, records, ends⟩ :=
      exists_ending_loadPlugin alike solitary e config name
    let settled (r : PluginRecord) : PluginRecord :=
      match result with
      | .ok _ => r
      | .error fault => r.degrade fault.message
    have made (e : ε) (p : Pool σ ε) (same : p.config = config) :
        recordMade engine name moduleBytes (e, p) =
          (settled (f p.instances.length (.fresh name moduleBytes))).outline := by
      let q : Pool σ ε := { p with records := p.records ++ [.fresh name moduleBytes] }
      have first : q.records[p.records.length]? = some (.fresh name moduleBytes) := by simp [q]
      have loaded : (after p.records.length q).records[p.records.length]? =
          some (f p.instances.length (.fresh name moduleBytes)) := by
        rw [records]
        exact Pool.getElem?_updateRecord_self first _
      obtain ⟨e', done⟩ := ends (PoolM.around engine p.limits) e q p.records.length same first
      obtain ⟨journal, registered⟩ := exists_ending_register engine valid moduleBytes e p
      have there : (settleLoad p.records.length result (after p.records.length q)).records[
          p.records.length]? = some (settled (f p.instances.length (.fresh name moduleBytes))) := by
        cases result with
        | ok info => exact loaded
        | error fault => exact Pool.getElem?_updateRecord_self loaded _
      rw [recordMade, registered, done]
      exact congrArg (fun r : Option PluginRecord => (r.getD _).outline) there
    have alike (r r' : PluginRecord) (same : r'.outline = r.outline) :
        (settled r').outline = (settled r).outline := by
      cases result with
      | ok info => exact same
      | error fault =>
        obtain ⟨record, count⟩ := Prod.mk.inj same
        exact Prod.ext (congrArg (PluginRecord.degrade fault.message) record) count
    rw [made e p same, made e' p' same']
    exact alike _ _ (outline ..)
  aloof e p id same found := by
    obtain ⟨result, after, f, -, -, ends⟩ := exists_ending_loadPlugin alike solitary e config name
    obtain ⟨e', done⟩ := ends (PoolM.around engine p.limits) e p id same found
    obtain ⟨e'', done'⟩ := ends (PoolM.around engine p.limits).deaf e p id same found
    rw [done, done']

end

end FormatHost
