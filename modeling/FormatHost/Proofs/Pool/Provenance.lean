import FormatHost.Proofs.Pool.Preservation
import FormatHost.Proofs.Pool.Tracking
/-!
# Where instances come from

Every instance of a pool was loaded from the module bytes of the record that it belongs to, under the name
of that record, and has been worked with since. What holds of an instance right after loading, and stays
so whatever the pool does with it, holds of all instances of all records, at any time.
-/
namespace FormatHost

variable {σ ε α β : Type}

/-- What is known of instances by the name and the module bytes that they were loaded with. -/
abbrev Traits (σ ε : Type) := String → Bytes → Instance σ ε → Prop

/-- Loading gives instances these traits, and no work takes them away. -/
structure Breeds (engine : Engine σ ε) (P : Traits σ ε) : Prop where
  loaded : ∀ {out : Outside ε (Pool σ ε)} {name : String} {moduleBytes : Bytes}
    {x : ε × Pool σ ε} {g : Instance σ ε}, out.selfCalls = false →
      ((Instance.load engine out name (some (.fresh name)) moduleBytes).run x).1.1 = .ok g →
        P name moduleBytes g
  driven : ∀ {γ : Type} {out : Outside ε (Pool σ ε)} {call : GuestM σ ε (Pool σ ε) γ}
    {name : String} {moduleBytes : Bytes} {g : Instance σ ε} (e : ε) (p : Pool σ ε),
      out.selfCalls = false → Service out call → P name moduleBytes g →
        P name moduleBytes (ending call ⟨g, e, p⟩).2.guest

/-- The second pool has come from the first: records have kept their origins. All its instances have the
traits that their records say. -/
structure Pool.Descends (P : Traits σ ε) (p q : Pool σ ε) : Prop where
  origins : ∀ (id : RecordId) (r : PluginRecord), p.records[id]? = some r →
    ∃ r', q.records[id]? = some r' ∧ r'.origin = r.origin
  bred : ∀ (n : InstanceId) (id : RecordId) (g : Instance σ ε), q.instances[n]? = some (id, g) →
    ∃ r, q.records[id]? = some r ∧ P r.name r.moduleBytes g

namespace Pool.Descends

variable {P : Traits σ ε} {o p q : Pool σ ε}

/-- An instance has the traits of every record with the origin of its own. -/
theorem traits (descends : p.Descends P q) {id : RecordId} {r : PluginRecord} {n : InstanceId}
    {g : Instance σ ε} (found : p.records[id]? = some r) (there : q.instances[n]? = some (id, g)) :
    P r.name r.moduleBytes g := by
  obtain ⟨r', found', origin⟩ := descends.origins id r found
  obtain ⟨x, record, has⟩ := descends.bred n id g there
  obtain rfl : r' = x := Option.some.inj (found'.symm.trans record)
  obtain ⟨name, moduleBytes⟩ := Prod.mk.inj origin
  rwa [name, moduleBytes] at has

theorem trans (first : o.Descends P p) (second : p.Descends P q) : o.Descends P q where
  origins id r found := by
    obtain ⟨r', found', origin⟩ := first.origins id r found
    obtain ⟨r'', found'', origin'⟩ := second.origins id r' found'
    exact ⟨r'', found'', origin'.trans origin⟩
  bred := second.bred

theorem self (descends : p.Descends P q) : q.Descends P q where
  origins _ r found := ⟨r, found, rfl⟩
  bred := descends.bred

/-- The instances stay, and records keep their origins. -/
theorem keep (descends : o.Descends P p) (instances : q.instances = p.instances)
    (origins : ∀ (id : RecordId) (r : PluginRecord), p.records[id]? = some r →
      ∃ r', q.records[id]? = some r' ∧ r'.origin = r.origin) : o.Descends P q := by
  refine descends.trans ⟨origins, fun n id g there => ?_⟩
  obtain ⟨r, found, has⟩ := descends.bred n id g (instances ▸ there)
  obtain ⟨r', found', origin⟩ := origins id r found
  obtain ⟨name, moduleBytes⟩ := Prod.mk.inj origin
  exact ⟨r', found', by rwa [name, moduleBytes]⟩

/-- Records and instances stay as they are. -/
theorem notes (descends : o.Descends P p) (records : q.records = p.records)
    (instances : q.instances = p.instances) : o.Descends P q :=
  descends.keep instances fun _ r found => ⟨r, records ▸ found, rfl⟩

theorem updateRecord (descends : o.Descends P p) (id : RecordId) {f : PluginRecord → PluginRecord}
    (keeps : ∀ r, p.records[id]? = some r → (f r).origin = r.origin) :
    o.Descends P (p.updateRecord id f) := by
  refine descends.keep rfl fun i r found => ?_
  by_cases same : i = id
  · subst same
    exact ⟨f r, Pool.getElem?_updateRecord_self found f, keeps r found⟩
  · exact ⟨r, (Pool.getElem?_updateRecord_ne p same f).trans found, rfl⟩

theorem withState (descends : o.Descends P p) {n : InstanceId} {id : RecordId} {g : Instance σ ε}
    {r : PluginRecord} (found : p.records[id]? = some r) (has : P r.name r.moduleBytes g) :
    o.Descends P (Ledger.withState p n id g) where
  origins := descends.origins
  bred m i x there := by
    by_cases same : n = m
    · subst same
      have known : n < p.instances.length := by
        simpa [Ledger.withState] using (List.getElem?_eq_some_iff.1 there).1
      obtain ⟨rfl, rfl⟩ : id = i ∧ g = x := by simpa [Ledger.withState, known] using there
      exact ⟨r, found, has⟩
    · exact descends.bred m i x (by simpa [Ledger.withState, same] using there)

theorem withNew (descends : o.Descends P p) {id : RecordId} {g : Instance σ ε} {r : PluginRecord}
    (found : p.records[id]? = some r) (has : P r.name r.moduleBytes g) :
    o.Descends P (Ledger.withNew p id g) where
  origins := descends.origins
  bred m i x there := by
    rcases List.mem_append.1 (List.mem_of_getElem? there) with old | new
    · obtain ⟨k, there⟩ := List.getElem?_of_mem old
      exact descends.bred k i x there
    · obtain ⟨rfl, rfl⟩ := Prod.mk.inj (List.mem_singleton.1 new)
      exact ⟨r, found, has⟩

/-- A pool that is shut down has the same records and instances, none of them idle. -/
theorem clear (descends : o.Descends P p) : o.Descends P p.clear := by
  refine descends.keep rfl fun id r found => ?_
  obtain ⟨idle, there⟩ := Pool.exists_getElem?_clear found
  exact ⟨_, there, rfl⟩

end Pool.Descends

/-! ### Computations -/

/-- A computation on a pool leaves it with the traits of its instances. -/
def Fosters (P : Traits σ ε) (c : PoolM σ ε α) : Prop :=
  ∀ p₀ : Pool σ ε, Ends (fun x => p₀.Descends P x.2) c fun _ x => p₀.Descends P x.2

/-- So does whatever instances find outside, and none of them reaches itself. -/
structure Outside.Fosters (P : Traits σ ε) (out : Outside ε (Pool σ ε)) : Prop where
  far : out.selfCalls = false
  keeps : ∀ p₀ : Pool σ ε, out.Keeps fun p => p₀.Descends P p

section

variable {engine : Engine σ ε} {P : Traits σ ε} {out : Outside ε (Pool σ ε)}

theorem fosters_withInstance (breeds : Breeds engine P) (fosters : out.Fosters P) (n : InstanceId)
    {call : GuestM σ ε (Pool σ ε) α} (service : Service out call) :
    Fosters P (PoolM.withInstance n call) := by
  rintro p₀ ⟨e, p⟩ descends
  cases there : p.instances[n]? with
  | none =>
    rw [PoolM.ending_withInstance_of_none there]
    exact descends
  | some owned =>
    obtain ⟨id, g⟩ := owned
    rw [PoolM.ending_withInstance there]
    obtain ⟨name, speaks⟩ := g.exists_speaks
    -- Whatever happens outside meanwhile, the record of the instance keeps its origin.
    have hears := (fosters.keeps p).hears fosters.far name
    have after := (service.heard hears ⟨g, e, p⟩ ⟨descends.self, speaks⟩).world
    obtain ⟨r, found, has⟩ := descends.bred n id g there
    obtain ⟨r', found', origin⟩ := after.origins id r found
    obtain ⟨sameName, sameBytes⟩ := Prod.mk.inj origin
    refine (descends.trans after).withState found' ?_
    exact sameName ▸ sameBytes ▸ breeds.driven e p fosters.far service has

theorem fosters_loadInstance (breeds : Breeds engine P) (fosters : out.Fosters P) (id : RecordId) :
    Fosters P (PoolM.loadInstance engine out id) := by
  rintro p₀ ⟨e, p⟩ descends
  cases found : p.records[id]? with
  | none =>
    rw [PoolM.ending_loadInstance_of_none engine out found]
    exact descends
  | some r =>
    rw [PoolM.ending_loadInstance engine out found]
    have hears := (fosters.keeps p).hears fosters.far r.name
    have after := (hears_load engine hears r.moduleBytes e p descends.self).1
    have has (g : Instance σ ε) : ((Instance.load engine out r.name (some (.fresh r.name))
        r.moduleBytes).run (e, p)).1.1 = .ok g → P r.name r.moduleBytes g := breeds.loaded fosters.far
    revert after has
    rcases (Instance.load engine out r.name (some (.fresh r.name)) r.moduleBytes).run (e, p) with
      ⟨⟨fault | g, table⟩, e', q⟩ <;> intro after has
    · exact descends.trans after
    · obtain ⟨r', found', origin⟩ := after.origins id r found
      obtain ⟨sameName, sameBytes⟩ := Prod.mk.inj origin
      refine (descends.trans after).withNew (g := g) found' ?_
      rw [sameName, sameBytes]
      exact has g rfl

/-- A pool that has come from another one has come from it ever after. -/
theorem lasting_descends (breeds : Breeds engine P) (fosters : out.Fosters P) (p₀ : Pool σ ε) :
    Lasting engine out (fun _ => True) fun p => p₀.Descends P p where
  notes descends same := descends.notes same.records same.instances
  updateRecord descends _ keeps := descends.updateRecord _ keeps
  loaded id := fosters_loadInstance breeds fosters id p₀
  called n service := fosters_withInstance breeds fosters n service p₀

theorem fosters_acquire (breeds : Breeds engine P) (fosters : out.Fosters P) (id : RecordId) :
    Fosters P (PoolM.acquire engine out id) :=
  fun p₀ => (lasting_descends breeds fosters p₀).preserves_acquire trivial

theorem fosters_around (breeds : Breeds engine P) (limits : Limits) :
    (PoolM.around engine limits).Fosters P where
  far := rfl
  keeps := by
    refine keeps_around (fun _ _ _ _ descends => descends.notes rfl rfl) ?_ limits
    intro out far keeps p₀ e p id r path text override _
    exact (lasting_descends breeds ⟨far, keeps⟩ p₀).preserves_formatWith trivial path text override (e, p)

theorem fosters_formatText (breeds : Breeds engine P) (path text : String) (override : Datum) :
    Fosters P (PoolM.formatText engine path text override) := by
  refine fun p₀ => Preserves.pool.bind fun p => ?_
  cases p.resolve path with
  | none => exact .throw _
  | some found =>
    exact (lasting_descends breeds (fosters_around breeds p.limits) p₀).preserves_formatWith trivial path
      text override

theorem fosters_register (breeds : Breeds engine P) (name : String) (moduleBytes : Bytes) :
    Fosters P (PoolM.register engine name moduleBytes) := by
  rintro p₀ ⟨e, p⟩ descends
  cases valid : isPluginName name with
  | false =>
    rw [PoolM.ending_register_of_invalid engine valid]
    exact descends
  | true =>
    obtain ⟨journal, ran⟩ := exists_ending_register engine valid moduleBytes e p
    rw [ran]
    have created : p₀.Descends P { p with records := p.records ++ [.fresh name moduleBytes] } :=
      descends.keep rfl fun id r found =>
        ⟨r, (List.getElem?_append_left (List.getElem?_eq_some_iff.1 found).1).trans found, rfl⟩
    have lasting := lasting_descends breeds (fosters_around breeds p.limits) p₀
    have loads : Preserves (fun p => p₀.Descends P p)
        (PoolM.loadPlugin engine (PoolM.around engine p.limits) p.records.length) :=
      lasting.preserves_loadPlugin trivial
    exact (lasting.settleLoad trivial (loads (e, _) created) _).notes rfl rfl

theorem fosters_shutdown : Fosters P (PoolM.shutdown : PoolM σ ε Unit) :=
  fun _ => (Preserves.update fun _ descends => descends.clear).bind fun _ =>
    .update fun _ descends => descends.notes rfl rfl

end

/-- The instances of a pool have the traits that their records say, whatever was done with the pool. -/
theorem Ran.bred {engine : Engine σ ε} {P : Traits σ ε} (breeds : Breeds engine P)
    {config : PoolConfig} {x : ε × Pool σ ε} (ran : Ran engine config x) : x.2.Descends P x.2 := by
  induction ran with
  | opened e =>
    exact ⟨fun _ r found => ⟨r, found, rfl⟩, fun n id g there => by simp [Pool.empty] at there⟩
  | registered ran name moduleBytes ih => exact (fosters_register breeds name moduleBytes _ _ ih).self
  | formatted ran path text m ih => exact (fosters_formatText breeds path text _ _ _ ih).self
  | cleared ran ih => exact (fosters_shutdown _ _ ih).self

end FormatHost
