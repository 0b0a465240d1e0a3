import FormatHost.Proofs.Guest.Delegate
import FormatHost.Proofs.Pool.Provenance
/-!
# Borrowing beside the others

Who borrows an instance of a delegating plugin leaves the other plugins alone, even if the instance has to
be made first: their records and instances are as they were, and every path goes to the same plugin as
before.
-/
namespace FormatHost

variable {σ ε : Type}

/-! ### Which plugin handles a path -/

/-- What decides which paths a plugin handles, and where it stands among the others. -/
def PluginRecord.face (r : PluginRecord) : String × Option PluginInfo × PluginStatus :=
  (r.name, r.info, r.status)

/-- Entries that are mapped are put in order as they are. -/
theorem Pool.map_foldr_insertBy {α β : Type} {f : α → β} (le : α → α → Bool) (le' : β → β → Bool)
    (same : ∀ a b, le' (f a) (f b) = le a b) (xs : List α) :
    (xs.foldr (insertBy le) []).map f = (xs.map f).foldr (insertBy le') [] := by
  have one (x : α) (ys : List α) : (insertBy le x ys).map f = insertBy le' (f x) (ys.map f) := by
    induction ys with
    | nil => rfl
    | cons y rest ih =>
      rw [insertBy, List.map_cons, insertBy, same]
      split
      next => rfl
      next => rw [List.map_cons, ih]
  induction xs with
  | nil => rfl
  | cons x rest ih => rw [List.foldr_cons, one, ih, List.map_cons, List.foldr_cons]

/-- Paths go to the same records where names stand for the same records and these show the same face. -/
theorem Pool.exists_resolve {p q : Pool σ ε} (registry : q.registry = p.registry)
    (faces : ∀ id : RecordId,
      q.records[id]?.map PluginRecord.face = p.records[id]?.map PluginRecord.face)
    {path : String} {id : RecordId} {r : PluginRecord} (resolved : p.resolve path = some (id, r)) :
    ∃ r', q.resolve path = some (id, r') ∧ r'.face = r.face := by
  let shown (x : RecordId × PluginRecord) : RecordId × String × Option PluginInfo × PluginStatus :=
    (x.1, x.2.face)
  let handles (x : RecordId × String × Option PluginInfo × PluginStatus) : Bool :=
    PluginRecord.handles ⟨x.2.1, [], x.2.2.1, x.2.2.2, "", "", [], 0, 0, 0⟩
      (Path.ofString path).name (Path.ofString path).suffix
  have seen (p : Pool σ ε) : (p.resolve path).map shown =
      (((p.registry.filterMap fun e => p.records[e.2]?.map (e.2, ·)).map shown).foldr
        (insertBy fun a b => decide (a.2.1 ≤ b.2.1)) []).find? handles := by
    rw [← map_foldr_insertBy (fun a b => decide (a.2.name ≤ b.2.name)) _ fun _ _ => rfl,
      List.find?_map]
    rfl
  have same : (q.registry.filterMap fun e => q.records[e.2]?.map (e.2, ·)).map shown =
      (p.registry.filterMap fun e => p.records[e.2]?.map (e.2, ·)).map shown := by
    rw [registry, List.map_filterMap, List.map_filterMap]
    congr 1
    funext e
    simpa [shown, Option.map_map, Function.comp_def] using
      congrArg (Option.map fun face => (e.2, face)) (faces e.2)
  have both := seen q
  rw [same, ← seen p, resolved] at both
  obtain ⟨⟨i, r'⟩, there, shows⟩ := Option.map_eq_some_iff.1 both
  obtain ⟨rfl, face⟩ := Prod.mk.inj shows
  exact ⟨r', there, face⟩

/-- One record may have changed, though not its face, and instances may have been added. -/
structure Pool.Aside (id : RecordId) (p q : Pool σ ε) : Prop where
  config : q.config = p.config
  registry : q.registry = p.registry
  chain : q.chain = p.chain
  faces : ∀ i : RecordId,
    q.records[i]?.map PluginRecord.face = p.records[i]?.map PluginRecord.face
  records : ∀ i : RecordId, i ≠ id → q.records[i]? = p.records[i]?
  instances : p.instances <+: q.instances

namespace Pool.Aside

variable {id : RecordId} {o p q : Pool σ ε}

theorem refl (id : RecordId) (p : Pool σ ε) : p.Aside id p :=
  ⟨rfl, rfl, rfl, fun _ => rfl, fun _ _ => rfl, List.prefix_rfl⟩

theorem updateRecord (aside : o.Aside id p) {f : PluginRecord → PluginRecord}
    (keeps : ∀ r, p.records[id]? = some r → (f r).face = r.face) :
    o.Aside id (p.updateRecord id f) := by
  refine { aside with faces := fun i => (Eq.trans ?_ (aside.faces i)), records := fun i other => ?_ }
  · by_cases same : i = id
    · subst same
      cases found : p.records[i]? with
      | none => simp [Pool.updateRecord, found]
      | some r => simp [Pool.updateRecord, found, keeps r found]
    · rw [Pool.getElem?_updateRecord_ne p same]
  · exact (Pool.getElem?_updateRecord_ne p other f).trans (aside.records i other)

theorem withNew (aside : o.Aside id p) (g : Instance σ ε) :
    o.Aside id (Ledger.withNew p id g) :=
  { aside with instances := aside.instances.trans (List.prefix_append _ _) }

/-- An instance that was added goes on. -/
theorem withState (aside : o.Aside id p) {n : InstanceId} (new : o.instances.length ≤ n)
    (g : Instance σ ε) : o.Aside id (Ledger.withState p n id g) := by
  refine { aside with instances := ?_ }
  obtain ⟨later, all⟩ := aside.instances
  refine ⟨later.set (n - o.instances.length) (id, g), ?_⟩
  rw [Ledger.withState, ← all, List.set_append_right _ _ new]

end Pool.Aside

/-! ### Plugins that delegate -/

section

variable {engine : Engine σ ε} {view : TransferView σ} {d : Delegation} {moduleBytes : Bytes}
  {out : Outside ε (Pool σ ε)}

/-- Instances from certain module bytes delegate. -/
def Forwarding (view : TransferView σ) (d : Delegation) (moduleBytes : Bytes) : Traits σ ε :=
  fun name loaded g => loaded = moduleBytes → Delegates view d g.exports ∧ Poised d name g.exports g

/-- Calls other than format calls leave the pool as it is. -/
inductive Preparation (out : Outside ε (Pool σ ε)) : {α : Type} → GuestM σ ε (Pool σ ε) α → Prop
  | schema : Preparation out (GuestM.checkSchema out)
  | configure (global plugin : Datum) : Preparation out (GuestM.setConfig out global plugin)
  | diagnose : Preparation out (GuestM.configDiagnostics out)

theorem Preparation.service {α : Type} {call : GuestM σ ε (Pool σ ε) α}
    (preparation : Preparation out call) : Service out call := by
  cases preparation with
  | schema => exact .schema
  | configure global plugin => exact .configure global plugin
  | diagnose => exact .diagnose

theorem Preparation.poised {α : Type} {call : GuestM σ ε (Pool σ ε) α}
    (preparation : Preparation out call) {name : String} {X : Exports σ ε}
    (delegates : Delegates view d X) (far : out.selfCalls = false) (W : Pool σ ε → Prop) :
    Ends (fun s => Poised d name X s.guest ∧ W s.world) call
      fun _ s => Poised d name X s.guest ∧ W s.world := by
  have level : InStep (PoisedTwin d name X W) out out := inStep_poised delegates far
  cases preparation with
  | schema => exact level.checkSchema.poised
  | configure global plugin => exact (level.setConfig global plugin).poised
  | diagnose => exact level.configDiagnostics.poised

theorem breeds_forwarding
    (delegates : ∀ e m, (engine moduleBytes e).1 = .ok m → m.Delegates view d) :
    Breeds engine (Forwarding view d moduleBytes) where
  loaded {out name loaded x g} far made := by
    rintro rfl
    have read := made
    rw [run_load] at read
    rcases done : engine loaded x.1 with ⟨fault | m, e'⟩
    · rw [done] at read
      exact absurd read (by simp)
    · have poised := poised_of_load (delegates x.1 m (congrArg Prod.fst done)) done made
      rw [poised.exports]
      exact ⟨(delegates x.1 m (congrArg Prod.fst done)).exports, poised⟩
  driven {γ out call name loaded g} e p far service has := by
    intro same
    obtain ⟨delegates, poised⟩ := has same
    have after : Poised d name g.exports (ending call ⟨g, e, p⟩).2.guest := by
      have level : InStep (PoisedTwin d name g.exports fun _ : Pool σ ε => True) out out :=
        inStep_poised delegates far
      cases service with
      | schema => exact (level.checkSchema.poised ⟨g, e, p⟩ ⟨poised, trivial⟩).1
      | info => exact (level.pluginInfo.poised ⟨g, e, p⟩ ⟨poised, trivial⟩).1
      | configure global plugin =>
        exact ((level.setConfig global plugin).poised ⟨g, e, p⟩ ⟨poised, trivial⟩).1
      | diagnose => exact (level.configDiagnostics.poised ⟨g, e, p⟩ ⟨poised, trivial⟩).1
      | format path text override =>
        exact poised_formatText delegates far path text override ⟨g, e, p⟩ poised
    rw [after.exports]
    exact ⟨delegates, after⟩

/-- An instance is made for a record, and nothing else has happened. -/
structure Pool.Making (P : Traits σ ε) (id : RecordId) (n : InstanceId) (o p : Pool σ ε) : Prop where
  aside : o.Aside id p
  descends : o.Descends P p
  new : o.instances.length ≤ n
  mine : ∃ g, p.instances[n]? = some (id, g)

variable (delegates : ∀ e m, (engine moduleBytes e).1 = .ok m → m.Delegates view d)
  (fosters : out.Fosters (Forwarding view d moduleBytes)) {id : RecordId} {r : PluginRecord}
  {o : Pool σ ε} (known : o.records[id]? = some r) (origin : r.moduleBytes = moduleBytes)
include delegates fosters known origin

theorem making_withInstance {α : Type} {n : InstanceId} {call : GuestM σ ε (Pool σ ε) α}
    (preparation : Preparation out call) :
    Ends (fun x => o.Making (Forwarding view d moduleBytes) id n x.2) (PoolM.withInstance n call)
      fun _ x => o.Making (Forwarding view d moduleBytes) id n x.2 := by
  rintro ⟨e, p⟩ making
  have descends := fosters_withInstance (breeds_forwarding delegates) fosters n preparation.service o
    (e, p) making.descends
  obtain ⟨g, there⟩ := making.mine
  rw [PoolM.ending_withInstance there] at descends ⊢
  obtain ⟨exports, poised⟩ := making.descends.traits known there origin
  obtain ⟨-, same⟩ := preparation.poised exports fosters.far (fun q => q = p) ⟨g, e, p⟩ ⟨poised, rfl⟩
  refine ⟨?_, descends, making.new, (ending call ⟨g, e, p⟩).2.guest, ?_⟩
  · simp only [same]
    exact making.aside.withState making.new _
  · have known := (List.getElem?_eq_some_iff.1 there).1
    simp [Ledger.withState, same, known]

theorem making_loadInstance :
    Ends (fun x => o.Aside id x.2 ∧ o.Descends (Forwarding view d moduleBytes) x.2)
      (PoolM.loadInstance engine out id)
      fun a x => ∀ n, a = .ok n → o.Making (Forwarding view d moduleBytes) id n x.2 := by
  rintro ⟨e, p⟩ ⟨aside, descends⟩
  have after := fosters_loadInstance (breeds_forwarding delegates) fosters id o (e, p) descends
  obtain ⟨r', found, origin'⟩ := descends.origins id r known
  have bytes : r'.moduleBytes = moduleBytes := (Prod.mk.inj origin').2.trans origin
  have still := world_load_of_delegates out r'.name (fun m read => delegates e m (bytes ▸ read))
    (some (.fresh r'.name)) p
  rw [PoolM.ending_loadInstance engine out found] at after ⊢
  revert after still
  rcases (Instance.load engine out r'.name (some (.fresh r'.name)) r'.moduleBytes).run (e, p) with
    ⟨⟨fault | g, table⟩, e', q⟩ <;> intro after still
  · exact fun n made => absurd made (by simp)
  · obtain rfl : q = p := still
    intro n made
    obtain rfl : q.instances.length = n := Except.ok.inj made
    have there : (q.instances ++ [(id, g)])[q.instances.length]? = some (id, g) := by simp
    exact ⟨aside.withNew g, after, aside.instances.length_le, g, there⟩

theorem making_createInstance :
    Ends (fun x => o.Aside id x.2 ∧ o.Descends (Forwarding view d moduleBytes) x.2)
      (PoolM.createInstance engine out id)
      fun a x => ∀ n, a = .ok n → o.Making (Forwarding view d moduleBytes) id n x.2 := by
  refine (making_loadInstance delegates fosters known origin).bind (fun n => ?_) ?_
  · refine (making_withInstance delegates fosters known origin (n := n) .schema).weaken
      (fun x made => made n rfl) (fun _ _ making => making) |>.bind (fun _ => ?_) ?_
    · rintro x making m made
      obtain rfl := Except.ok.inj made
      exact ⟨making.aside.updateRecord fun _ _ => rfl,
        making.descends.updateRecord id fun _ _ => rfl, making.new, making.mine⟩
    · exact fun f x _ m made => absurd made (by simp)
  · exact fun f x _ m made => absurd made (by simp)

theorem making_configure {n : InstanceId} :
    Ends (fun x => o.Making (Forwarding view d moduleBytes) id n x.2) (PoolM.configure out id n)
      fun _ x => o.Making (Forwarding view d moduleBytes) id n x.2 := by
  rintro ⟨e, p⟩ making
  obtain ⟨r', found, -⟩ := making.descends.origins id r known
  rw [PoolM.ending_configure out n found]
  refine ((making_withInstance delegates fosters known origin (.configure _ _)).bind (fun _ => ?_)
    fun _ _ making => making : Ends _ _ fun _ x => o.Making _ id n x.2) (e, p) making
  refine (making_withInstance delegates fosters known origin .diagnose).bind (fun diagnostics => ?_)
    fun _ _ making => making
  cases diagnostics.isEmpty with
  | true => exact fun _ making => making
  | false => exact fun _ making => making

/-- An instance of a delegating plugin is borrowed, and nothing else has happened. -/
theorem aside_acquire (descends : o.Descends (Forwarding view d moduleBytes) o) {e : ε}
    {n : InstanceId} {y : ε × Pool σ ε}
    (lent : ending (PoolM.acquire engine out id) (e, o) = (.ok n, y)) : o.Aside id y.2 := by
  have made : Ends (fun x => o.Aside id x.2 ∧ o.Descends (Forwarding view d moduleBytes) x.2)
      (PoolM.newInstance engine out id) fun a x => ∀ n, a = .ok n → o.Aside id x.2 := by
    refine (making_createInstance delegates fosters known origin).bind (fun n => ?_)
      fun f x _ n made => absurd made (by simp)
    refine Ends.bind ((making_configure delegates fosters known origin).weaken
      (fun x made => made n rfl) fun _ _ making => making) (fun _ => ?_)
      fun f x _ n made => absurd made (by simp)
    exact fun x making _ _ => making.aside
  have kept {r' : PluginRecord} (lease : r.lease o.limits.maxInstances = .reserved r' ∨
      ∃ n, r.lease o.limits.maxInstances = .popped n r') :
      o.Aside id (o.updateRecord id fun _ => r') ∧
        o.Descends (Forwarding view d moduleBytes) (o.updateRecord id fun _ => r') := by
    obtain ⟨idle, rfl⟩ := PluginRecord.exists_of_lease lease
    refine ⟨(Pool.Aside.refl id o).updateRecord fun x there => ?_,
      descends.updateRecord id fun x there => ?_⟩ <;>
    · rw [Option.some.inj (there.symm.trans known)]
      rfl
  rw [PoolM.ending_acquire engine out known] at lent
  cases lease : r.lease o.limits.maxInstances with
  | refused =>
    simp only [lease] at lent
    exact absurd (congrArg Prod.fst lent) (by simp)
  | exhausted =>
    simp only [lease] at lent
    have failed : (.error _ : Except Fault InstanceId) = .ok n := congrArg Prod.fst lent
    exact absurd failed (by simp)
  | popped m r' =>
    simp only [lease] at lent
    obtain rfl : (e, o.updateRecord id fun _ => r') = y := congrArg Prod.snd lent
    exact (kept (.inr ⟨m, lease⟩)).1
  | reserved r' =>
    simp only [lease] at lent
    have filled := made (e, o.updateRecord id fun _ => r') (kept (.inl lease))
    rw [PoolM.ending_fillPlace] at lent
    revert filled lent
    rcases ending (PoolM.newInstance engine out id) (e, o.updateRecord id fun _ => r') with
      ⟨f | m, z⟩ <;> intro lent filled
    · obtain ⟨_, z₁, -, lent⟩ := exists_of_ending_bind (congrArg Prod.fst lent)
      exact absurd lent (by simp)
    · obtain rfl : z = y := congrArg Prod.snd lent
      exact filled m rfl

end

end FormatHost
