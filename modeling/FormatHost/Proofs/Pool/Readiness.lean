import FormatHost.Proofs.Guest.Dealings
import FormatHost.Proofs.Guest.Journal
import FormatHost.Proofs.Pool.Nesting
import FormatHost.Proofs.Pool.Provenance
/-!
# Instructed before it formats

A pool lets an instance format only after it has passed every step of its making: it spoke the right schema
version, it was reset and took both configurations, and it found no fault with them. It does not matter
whether the instance was made for a registration or because a borrower found none waiting; and an instance
that failed in a step is never seen again.
-/
namespace FormatHost

variable {σ ε α β : Type}

/-- An instance has been through all steps of its making, in this order, before anything else is asked of
it: it reported the schema version of the protocol, it was reset, it took the configuration for all plugins
and then the one for this plugin, as a whole and in their written forms, and it told that nothing is wrong
with them. The newest affairs come first. -/
inductive Prepared (config : PoolConfig) (info : PluginInfo) : List Affair → Prop
  | intro {later asked : List Affair} {schema reset forAll forOne diagnosis : Affair}
      {written written' : Bytes} {text : String}
      (reported : schema.name = "get_plugin_schema_version" ∧ schema.result = .ok schemaVersion)
      (asked_other : ∀ a ∈ asked, a.name ≠ "format")
      (was_reset : reset.name = "reset_config" ∧ ∃ v, reset.result = .ok v)
      (global : ConfigMap.serialize (.map config.globalConfig) = .ok written)
      (took : forAll.Took "set_global_config" written)
      (own : ConfigMap.serialize (PoolM.configOf config.pluginConfigs (some info)) = .ok written')
      (took' : forOne.Took "set_plugin_config" written')
      (told : diagnosis.Told "get_config_diagnostics" text)
      (faultless : text = "" ∨ Diagnostic.parseAll text = .ok []) :
      Prepared config info (later ++ diagnosis :: forOne :: forAll :: reset :: (asked ++ [schema]))

/-- Affairs without a format call. -/
def Untried (affairs : List Affair) : Prop := ∀ a ∈ affairs, a.name ≠ "format"

/-- What comes later makes no difference. -/
theorem Prepared.later {config : PoolConfig} {info : PluginInfo} {affairs : List Affair}
    (prepared : Prepared config info affairs) (more : List Affair) :
    Prepared config info (more ++ affairs) := by
  cases prepared with
  | intro reported asked reset global took own took' told faultless =>
    rw [← List.append_assoc]
    exact .intro reported asked reset global took own took' told faultless

/-- The pool has let an instance format, or keeps it for the next borrower. -/
def Pool.Trusts (p : Pool σ ε) (n : InstanceId) : Prop :=
  (∃ id chain, .formatting id n chain ∈ p.events) ∨
    ∃ (id : RecordId) (r : PluginRecord), p.records[id]? = some r ∧ n ∈ r.idle

/-- An instance of a record is prepared. -/
def Worthy (engine : Engine σ ε) (config : PoolConfig) (r : PluginRecord) (g : Instance σ ε) : Prop :=
  ∃ d info, Stands engine r.origin d g ∧ r.info = some info ∧ Prepared config info d.affairs

/-- It stays so as long as the record says the same about its plugin. -/
theorem Worthy.keep {engine : Engine σ ε} {config config' : PoolConfig} {r r' : PluginRecord}
    {g : Instance σ ε} (worthy : Worthy engine config r g) (origin : r'.origin = r.origin)
    (info : r'.info = r.info) (same : config' = config) : Worthy engine config' r' g := by
  obtain ⟨d, told, stands, known, prepared⟩ := worthy
  exact ⟨d, told, origin ▸ stands, info.trans known, same ▸ prepared⟩

/-- The second pool has come from the first. What its instances have been through is known: those that it
trusts are prepared, and it trusts no instance that was there before without being trusted. -/
structure Pool.Upholds (engine : Engine σ ε) (p q : Pool σ ε) : Prop where
  config : q.config = p.config
  events : p.events ⊆ q.events
  records : ∀ (id : RecordId) (r : PluginRecord), p.records[id]? = some r →
    ∃ r', q.records[id]? = some r' ∧ r'.origin = r.origin ∧ r'.info = r.info
  owners : ∀ (n : InstanceId) (id : RecordId) (g : Instance σ ε), p.instances[n]? = some (id, g) →
    ∃ g', q.instances[n]? = some (id, g')
  known : ∀ n, q.Trusts n → n < q.instances.length
  apart : ∀ n, n < p.instances.length → q.Trusts n → p.Trusts n
  careers : ∀ (n : InstanceId) (id : RecordId) (g : Instance σ ε), q.instances[n]? = some (id, g) →
    ∃ r, q.records[id]? = some r ∧ (Worthy engine q.config r g ∨
      ¬q.Trusts n ∧ ∃ d, Stands engine r.origin d g ∧ Untried d.affairs)

/-- An instance may be trusted: it is prepared, and if it was there before, it was trusted before. -/
def Pool.Vouches (engine : Engine σ ε) (p q : Pool σ ε) (n : InstanceId) : Prop :=
  (∃ (id : RecordId) (g : Instance σ ε) (r : PluginRecord), q.instances[n]? = some (id, g) ∧
    q.records[id]? = some r ∧ Worthy engine q.config r g) ∧
  (n < p.instances.length → p.Trusts n)

/-- A new instance of a record that says this about itself is being made, and its affairs are so far. -/
structure Pool.Makes (engine : Engine σ ε) (p q : Pool σ ε) (id : RecordId) (info : Option PluginInfo)
    (n : InstanceId) (P : List Affair → Prop) : Prop where
  new : p.instances.length ≤ n
  shy : ¬q.Trusts n
  there : ∃ (g : Instance σ ε) (r : PluginRecord) (d : Digest), q.instances[n]? = some (id, g) ∧
    q.records[id]? = some r ∧ r.info = info ∧ Stands engine r.origin d g ∧ Furnished d g ∧ P d.affairs

namespace Pool

variable {engine : Engine σ ε} {o p q : Pool σ ε} {id : RecordId} {n : InstanceId}

/-- A change of a record that leaves its idle instances alone makes no instance trusted. -/
theorem Trusts.of_idle {f : PluginRecord → PluginRecord} (trusts : (p.updateRecord id f).Trusts n)
    (idle : ∀ r, (f r).idle = r.idle) : p.Trusts n := by
  rcases trusts with formatted | ⟨i, x, record, waits⟩
  · exact .inl formatted
  · rcases of_getElem?_updateRecord record with ⟨rfl, r, before, rfl⟩ | ⟨-, before⟩
    · exact .inr ⟨i, r, before, idle r ▸ waits⟩
    · exact .inr ⟨i, x, before, waits⟩

/-- Where one record changes, and tells the same about its plugin, all records do. -/
theorem told_updateRecord {f : PluginRecord → PluginRecord}
    (same : ∀ r, p.records[id]? = some r → (f r).origin = r.origin ∧ (f r).info = r.info)
    (i : RecordId) (r : PluginRecord) (found : p.records[i]? = some r) :
    ∃ r', (p.updateRecord id f).records[i]? = some r' ∧ r'.origin = r.origin ∧ r'.info = r.info := by
  by_cases here : i = id
  · subst here
    exact ⟨f r, getElem?_updateRecord_self found f, same r found⟩
  · exact ⟨r, (getElem?_updateRecord_ne p here f).trans found, rfl, rfl⟩

theorem Vouches.updateRecord (vouches : o.Vouches engine p n) {f : PluginRecord → PluginRecord}
    (same : ∀ r, p.records[id]? = some r → (f r).origin = r.origin ∧ (f r).info = r.info) :
    o.Vouches engine (p.updateRecord id f) n := by
  obtain ⟨⟨i, g, r, there, found, worthy⟩, old⟩ := vouches
  obtain ⟨r', found', origin, info⟩ := told_updateRecord same i r found
  exact ⟨⟨i, g, r', there, found', worthy.keep origin info rfl⟩, old⟩

namespace Upholds

theorem trans (first : o.Upholds engine p) (second : p.Upholds engine q) : o.Upholds engine q where
  config := second.config.trans first.config
  events := List.Subset.trans first.events second.events
  records id r found := by
    obtain ⟨r', found', origin, info⟩ := first.records id r found
    obtain ⟨r'', found'', origin', info'⟩ := second.records id r' found'
    exact ⟨r'', found'', origin'.trans origin, info'.trans info⟩
  owners n id g there := by
    obtain ⟨g', there'⟩ := first.owners n id g there
    exact second.owners n id g' there'
  known := second.known
  apart n old trusts := by
    refine first.apart n old (second.apart n ?_ trusts)
    obtain ⟨g', there'⟩ := first.owners n _ _ (List.getElem?_eq_getElem old)
    exact (List.getElem?_eq_some_iff.1 there').1
  careers := second.careers

theorem self (upholds : o.Upholds engine p) : p.Upholds engine p where
  config := rfl
  events := List.Subset.refl _
  records _ r found := ⟨r, found, rfl, rfl⟩
  owners _ _ g there := ⟨g, there⟩
  known := upholds.known
  apart _ _ trusts := trusts
  careers := upholds.careers

/-- Whom the pool trusts, for that it vouches. -/
theorem vouches (upholds : o.Upholds engine p) (trusts : p.Trusts n) : o.Vouches engine p n := by
  have there := List.getElem?_eq_getElem (upholds.known n trusts)
  obtain ⟨r, found, worthy | ⟨shy, -⟩⟩ := upholds.careers n _ _ there
  · exact ⟨⟨_, _, r, there, found, worthy⟩, fun old => upholds.apart n old trusts⟩
  · exact absurd trusts shy

/-- Records keep what they say about their plugins, instances stay, and the pool comes to trust only those
for which it vouches. -/
theorem keep (upholds : o.Upholds engine p) (config : q.config = p.config)
    (events : p.events ⊆ q.events) (instances : q.instances = p.instances)
    (records : ∀ (id : RecordId) (r : PluginRecord), p.records[id]? = some r →
      ∃ r', q.records[id]? = some r' ∧ r'.origin = r.origin ∧ r'.info = r.info)
    (trusts : ∀ n, q.Trusts n → p.Trusts n ∨ o.Vouches engine p n) : o.Upholds engine q := by
  have vouched (n : InstanceId) (trusted : q.Trusts n) : o.Vouches engine p n :=
    (trusts n trusted).elim upholds.vouches id
  refine ⟨config.trans upholds.config, List.Subset.trans upholds.events events, fun id r found => ?_,
    fun n id g there => ?_, fun n trusted => ?_, fun n old trusted => (vouched n trusted).2 old,
    fun n id g there => ?_⟩
  · obtain ⟨r', found', origin, info⟩ := upholds.records id r found
    obtain ⟨r'', found'', origin', info'⟩ := records id r' found'
    exact ⟨r'', found'', origin'.trans origin, info'.trans info⟩
  · exact instances ▸ upholds.owners n id g there
  · obtain ⟨⟨_, _, _, there, -⟩, -⟩ := vouched n trusted
    exact instances ▸ (List.getElem?_eq_some_iff.1 there).1
  · rw [instances] at there
    obtain ⟨r, found, state⟩ := upholds.careers n id g there
    obtain ⟨r', found', origin, info⟩ := records id r found
    refine ⟨r', found', ?_⟩
    have still (worthy : Worthy engine p.config r g) : Worthy engine q.config r' g :=
      worthy.keep origin info config
    rcases state with worthy | ⟨shy, d, stands, untried⟩
    · exact .inl (still worthy)
    · by_cases trusted : q.Trusts n
      · obtain ⟨⟨i, g', x, there', record, worthy⟩, -⟩ :=
          (trusts n trusted).resolve_left shy
        obtain ⟨rfl, rfl⟩ := Prod.mk.inj (Option.some.inj (there.symm.trans there'))
        obtain rfl : r = x := Option.some.inj (found.symm.trans record)
        exact .inl (still worthy)
      · exact .inr ⟨trusted, d, origin ▸ stands, untried⟩

/-- Chain and notes are no matter. -/
theorem notes (upholds : o.Upholds engine p) (config : q.config = p.config)
    (records : q.records = p.records) (instances : q.instances = p.instances)
    (events : q.events = p.events) : o.Upholds engine q := by
  refine upholds.keep config (events ▸ List.Subset.refl _) instances
    (fun id r found => ⟨r, records ▸ found, rfl, rfl⟩) ?_
  rintro n (⟨id, chain, formatted⟩ | ⟨id, r, found, waits⟩)
  · exact .inl (.inl ⟨id, chain, events ▸ formatted⟩)
  · exact .inl (.inr ⟨id, r, records ▸ found, waits⟩)

/-- Events other than format calls are no matter. -/
theorem mark (upholds : o.Upholds engine p) {event : PoolEvent}
    (other : ∀ id n chain, .formatting id n chain ≠ event) :
    o.Upholds engine { p with events := event :: p.events } := by
  refine upholds.keep rfl (List.subset_cons_self _ _) rfl (fun id r found => ⟨r, found, rfl, rfl⟩) ?_
  rintro n (⟨id, chain, formatted⟩ | waits)
  · exact .inl (.inl ⟨id, chain, (List.mem_cons.1 formatted).resolve_left (other id n chain)⟩)
  · exact .inl (.inr waits)

/-- An instance for which the pool vouches may start to format. -/
theorem format (upholds : o.Upholds engine p) (vouches : o.Vouches engine p n) (id : RecordId)
    (chain : List String) :
    o.Upholds engine { p with events := .formatting id n chain :: p.events } := by
  refine upholds.keep rfl (List.subset_cons_self _ _) rfl (fun id r found => ⟨r, found, rfl, rfl⟩) ?_
  rintro m (⟨i, links, formatted⟩ | waits)
  · rcases List.mem_cons.1 formatted with new | before
    · obtain ⟨-, rfl, -⟩ := PoolEvent.formatting.inj new
      exact .inr vouches
    · exact .inl (.inl ⟨i, links, before⟩)
  · exact .inl (.inr waits)

/-- A record changes, and instances wait from now on only if the pool vouches for them. -/
theorem updateRecord (upholds : o.Upholds engine p) (id : RecordId)
    {f : PluginRecord → PluginRecord}
    (same : ∀ r, p.records[id]? = some r → (f r).origin = r.origin ∧ (f r).info = r.info)
    (idle : ∀ r, p.records[id]? = some r → ∀ n ∈ (f r).idle, n ∈ r.idle ∨ o.Vouches engine p n) :
    o.Upholds engine (p.updateRecord id f) := by
  refine upholds.keep rfl (List.Subset.refl _) rfl (told_updateRecord same) ?_
  rintro n (formatted | ⟨i, x, found, waits⟩)
  · exact .inl (.inl formatted)
  · rcases Pool.of_getElem?_updateRecord found with ⟨rfl, r, record, rfl⟩ | ⟨-, record⟩
    · exact (idle r record n waits).imp_left fun before => .inr ⟨i, r, record, before⟩
    · exact .inl (.inr ⟨i, x, record, waits⟩)

/-- Idle instances may be dropped. -/
theorem clear (upholds : o.Upholds engine p) : o.Upholds engine p.clear := by
  refine upholds.keep rfl (List.Subset.refl _) rfl (fun id r found => ?_) ?_
  · obtain ⟨idle, there⟩ := Pool.exists_getElem?_clear found
    exact ⟨_, there, rfl, rfl⟩
  · rintro n (formatted | ⟨i, x, found, waits⟩)
    · exact .inl (.inl formatted)
    · obtain ⟨r, former, rfl | rfl⟩ := Pool.of_getElem?_clear found
      · exact .inl (.inr ⟨i, _, former, waits⟩)
      · simp at waits

/-- A record is added. -/
theorem create (upholds : o.Upholds engine p) {r : PluginRecord} (idle : r.idle = []) :
    o.Upholds engine { p with records := p.records ++ [r] } := by
  refine upholds.keep rfl (List.Subset.refl _) rfl (fun id x found => ⟨x, ?_, rfl, rfl⟩) ?_
  · exact (List.getElem?_append_left (List.getElem?_eq_some_iff.1 found).1).trans found
  · rintro n (formatted | ⟨i, x, found, waits⟩)
    · exact .inl (.inl formatted)
    · rcases List.mem_append.1 (List.mem_of_getElem? found) with old | new
      · obtain ⟨k, there⟩ := List.getElem?_of_mem old
        exact .inl (.inr ⟨k, x, there, waits⟩)
      · obtain rfl := List.mem_singleton.1 new
        simp [idle] at waits

/-- A record that was not there before tells for the first time what its plugin is. None of its instances
has been trusted so far. -/
theorem describe (upholds : o.Upholds engine p) {id : RecordId} {r : PluginRecord}
    (new : o.records.length ≤ id) (found : p.records[id]? = some r) (untold : r.info = none)
    (info : PluginInfo) :
    o.Upholds engine (p.updateRecord id fun r => { r with info := some info }) where
  config := upholds.config
  events := upholds.events
  records i x before := by
    have other : i ≠ id := fun same =>
      Nat.lt_irrefl _ (Nat.lt_of_lt_of_le (same ▸ (List.getElem?_eq_some_iff.1 before).1) new)
    obtain ⟨x', found', same⟩ := upholds.records i x before
    exact ⟨x', (getElem?_updateRecord_ne p other _).trans found', same⟩
  owners := upholds.owners
  known n trusts := upholds.known n (trusts.of_idle fun _ => rfl)
  apart n old trusts := upholds.apart n old (trusts.of_idle fun _ => rfl)
  careers n i g there := by
    obtain ⟨x, before, state⟩ := upholds.careers n i g there
    by_cases here : i = id
    · subst here
      obtain rfl : r = x := Option.some.inj (found.symm.trans before)
      refine ⟨_, getElem?_updateRecord_self before _, .inr ?_⟩
      obtain ⟨shy, untried⟩ := state.resolve_left fun ⟨_, _, _, told, _⟩ => by simp [untold] at told
      exact ⟨fun trusts => shy (trusts.of_idle fun _ => rfl), untried⟩
    · refine ⟨x, (getElem?_updateRecord_ne p here _).trans before, state.imp_right ?_⟩
      exact fun ⟨shy, untried⟩ => ⟨fun trusts => shy (trusts.of_idle fun _ => rfl), untried⟩

/-- An instance is added that has no affairs yet. -/
theorem withNew (upholds : o.Upholds engine p) {id : RecordId} {g : Instance σ ε} {r : PluginRecord}
    (found : p.records[id]? = some r) (fresh : Stands engine r.origin .fresh g) :
    o.Upholds engine (Ledger.withNew p id g) where
  config := upholds.config
  events := upholds.events
  records := upholds.records
  owners n i x there := by
    obtain ⟨g', there'⟩ := upholds.owners n i x there
    exact ⟨g', (List.getElem?_append_left (List.getElem?_eq_some_iff.1 there').1).trans there'⟩
  known n trusts :=
    Nat.lt_of_lt_of_le (upholds.known n trusts) (by simp [Ledger.withNew])
  apart := upholds.apart
  careers n i x there := by
    by_cases old : n < p.instances.length
    · exact upholds.careers n i x ((List.getElem?_append_left old).symm.trans there)
    · have last := (List.getElem?_eq_some_iff.1 there).1
      simp only [Ledger.withNew, List.length_append, List.length_singleton] at last
      obtain rfl : n = p.instances.length :=
        Nat.le_antisymm (Nat.le_of_lt_succ last) (Nat.le_of_not_lt old)
      obtain ⟨rfl, rfl⟩ : id = i ∧ g = x := by simpa [Ledger.withNew] using there
      refine ⟨r, found,
        .inr ⟨fun trusts => ?_, .fresh, fresh, fun a none => absurd none (by simp [Digest.fresh])⟩⟩
      exact absurd (upholds.known _ trusts) (Nat.lt_irrefl _)

/-- An instance goes on. -/
theorem withState (upholds : o.Upholds engine p) {id : RecordId} {g g' : Instance σ ε}
    {r : PluginRecord} (there : p.instances[n]? = some (id, g)) (found : p.records[id]? = some r)
    (state : Worthy engine p.config r g' ∨
      ¬p.Trusts n ∧ ∃ d, Stands engine r.origin d g' ∧ Untried d.affairs) :
    o.Upholds engine (Ledger.withState p n id g') where
  config := upholds.config
  events := upholds.events
  records := upholds.records
  owners m i x old := by
    obtain ⟨x', there'⟩ := upholds.owners m i x old
    by_cases same : n = m
    · subst same
      obtain ⟨rfl, rfl⟩ := Prod.mk.inj (Option.some.inj (there.symm.trans there'))
      exact ⟨g', by simp [Ledger.withState, (List.getElem?_eq_some_iff.1 there).1]⟩
    · exact ⟨x', by simpa [Ledger.withState, same] using there'⟩
  known m trusts := by simpa [Ledger.withState] using upholds.known m trusts
  apart := upholds.apart
  careers m i x now := by
    by_cases same : n = m
    · subst same
      obtain ⟨rfl, rfl⟩ : id = i ∧ g' = x := by
        simpa [Ledger.withState, (List.getElem?_eq_some_iff.1 there).1] using now
      exact ⟨r, found, state⟩
    · exact upholds.careers m i x (by simpa [Ledger.withState, same] using now)

end Upholds

/-- A finished instance is vouched for. -/
theorem Makes.vouches {info : PluginInfo} (upholds : o.Upholds engine p)
    (makes : o.Makes engine p id (some info) n (Prepared o.config info)) : o.Vouches engine p n := by
  obtain ⟨g, r, d, there, found, told, stands, -, prepared⟩ := makes.there
  exact ⟨⟨id, g, r, there, found, d, info, stands, told, upholds.config ▸ prepared⟩,
    fun old => absurd old (Nat.not_lt.2 makes.new)⟩

theorem Makes.mono {info : Option PluginInfo} {P Q : List Affair → Prop}
    (makes : o.Makes engine p id info n P) (weaker : ∀ affairs, P affairs → Q affairs) :
    o.Makes engine p id info n Q := by
  obtain ⟨g, r, d, there, found, told, stands, furnished, holds⟩ := makes.there
  exact ⟨makes.new, makes.shy, g, r, d, there, found, told, stands, furnished, weaker _ holds⟩

/-- What a record counts is no matter to the instance that is being made for it. -/
theorem Makes.updateRecord {info : Option PluginInfo} {P : List Affair → Prop}
    (makes : o.Makes engine p id info n P) {f : PluginRecord → PluginRecord}
    (same : ∀ r, (f r).origin = r.origin ∧ (f r).idle = r.idle) {info' : Option PluginInfo}
    (told : ∀ r, r.info = info → (f r).info = info') :
    o.Makes engine (p.updateRecord id f) id info' n P := by
  obtain ⟨g, r, d, there, found, known, stands, furnished, holds⟩ := makes.there
  exact ⟨makes.new, fun trusts => makes.shy (trusts.of_idle fun r => (same r).2), g, f r, d, there,
    getElem?_updateRecord_self found f, told r known, (same r).1 ▸ stands, furnished, holds⟩

end Pool

/-! ### Computations -/

/-- What a computation leaves is upheld, and if it has succeeded it is of a kind. -/
def Leaves (engine : Engine σ ε) (o : Pool σ ε) (after : α → Pool σ ε → Prop) :
    Except Fault α → ε × Pool σ ε → Prop
  | .ok a, x => o.Upholds engine x.2 ∧ after a x.2
  | .error _, x => o.Upholds engine x.2

/-- Started with a pool of a kind, a computation upholds it and leaves it so. -/
def Upholding (engine : Engine σ ε) (o : Pool σ ε) (before : Pool σ ε → Prop) (c : PoolM σ ε α)
    (after : α → Pool σ ε → Prop) : Prop :=
  Ends (fun x => o.Upholds engine x.2 ∧ before x.2) c (Leaves engine o after)

section

variable {engine : Engine σ ε} {o : Pool σ ε} {c : PoolM σ ε α} {before : Pool σ ε → Prop}
  {after : α → Pool σ ε → Prop}

namespace Upholding

theorem bind {k : α → PoolM σ ε β} {last : β → Pool σ ε → Prop}
    (first : Upholding engine o before c after)
    (next : ∀ a, Upholding engine o (after a) (k a) last) : Upholding engine o before (c >>= k) last :=
  Ends.bind first next fun _ _ upholds => upholds

theorem pure {a : α} (holds : ∀ p, before p → after a p) :
    Upholding engine o before (Pure.pure a : PoolM σ ε α) after :=
  Ends.pure fun x started => ⟨started.1, holds x.2 started.2⟩

theorem throw (f : Fault) :
    Upholding engine o before (MonadExcept.throw f : PoolM σ ε α) after :=
  Ends.throw fun _ started => started.1

end Upholding
end

/-! ### Making instances -/

/-- Whatever instances find outside upholds the pool, and none of them reaches itself. -/
structure Outside.Upholds (engine : Engine σ ε) (out : Outside ε (Pool σ ε)) : Prop where
  far : out.selfCalls = false
  keeps : ∀ p₀ : Pool σ ε, out.Keeps fun p => p₀.Upholds engine p

/-- A new instance has reported the schema version of the protocol, and done little else. -/
def Reported (affairs : List Affair) : Prop :=
  ∃ asked schema, affairs = asked ++ [schema] ∧ schema.name = "get_plugin_schema_version" ∧
    schema.result = .ok schemaVersion ∧ Untried asked

theorem Reported.untried {affairs : List Affair} (reported : Reported affairs) : Untried affairs := by
  obtain ⟨asked, schema, rfl, name, -, untried⟩ := reported
  refine List.forall_mem_append.2 ⟨untried, List.forall_mem_singleton.2 ?_⟩
  rw [name]
  decide

section

variable {engine : Engine σ ε} {out : Outside ε (Pool σ ε)} {o : Pool σ ε} {id : RecordId}
  {n : InstanceId} {info : Option PluginInfo}

/-- Work on an instance upholds the pool meanwhile. -/
theorem Service.upholds (upheld : out.Upholds engine) {call : GuestM σ ε (Pool σ ε) α}
    (service : Service out call) (g : Instance σ ε) (e : ε) {p : Pool σ ε}
    (upholds : o.Upholds engine p) : p.Upholds engine (ending call ⟨g, e, p⟩).2.world := by
  obtain ⟨name, speaks⟩ := g.exists_speaks
  exact (service.heard ((upheld.keeps p).hears upheld.far name) ⟨g, e, p⟩ ⟨upholds.self, speaks⟩).world

/-- An instance that is being made goes on. No format call comes in between, since the pool does not trust
it yet. -/
theorem makes_withInstance (upheld : out.Upholds engine) {call : GuestM σ ε (Pool σ ε) α}
    (service : Service out call)
    (quiet : ∀ origin before, Level (Advanced engine origin (· ≠ "format") before) call call)
    {P : List Affair → Prop} {Q : α → List Affair → Prop} (untried : ∀ as, P as → Untried as)
    (achieves : ∀ origin as, P as →
      Achieves engine origin (fun d => d.affairs = as) call fun a d => Q a d.affairs) :
    Upholding engine o (fun p => o.Makes engine p id info n P) (PoolM.withInstance n call)
      fun a p => o.Makes engine p id info n (Q a) := by
  rintro ⟨e, p⟩ ⟨upholds, new, shy, g, r, d, there, found, told, stands, furnished, holds⟩
  rw [PoolM.ending_withInstance there]
  have after := service.upholds upheld g e upholds
  obtain ⟨r', found', origin, told'⟩ := after.records id r found
  obtain ⟨g', there'⟩ := after.owners n id g there
  have shy' : ¬(ending call ⟨g, e, p⟩).2.world.Trusts n := fun trusts =>
    shy (after.apart n (List.getElem?_eq_some_iff.1 there).1 trusts)
  obtain ⟨-, -, d₁, more, stands₁, affairs₁, others⟩ := quiet r.origin d.affairs ⟨g, e, p⟩ ⟨g, e, p⟩
    ⟨rfl, d, [], stands, rfl, fun a none => absurd none List.not_mem_nil⟩
  have untried₁ : Untried d₁.affairs :=
    affairs₁ ▸ List.forall_mem_append.2 ⟨others, untried _ holds⟩
  have upheld' := (upholds.trans after).withState there' found'
    (.inr ⟨shy', d₁, origin ▸ stands₁, untried₁⟩)
  have made (a : α) (ok : (ending call ⟨g, e, p⟩).1 = .ok a) :=
    achieves r.origin d.affairs holds ⟨g, e, p⟩ d stands furnished rfl a _ (Prod.ext ok rfl)
  have known := (List.getElem?_eq_some_iff.1 there').1
  revert upheld' made shy' found' known
  rcases ending call ⟨g, e, p⟩ with ⟨f | a, s⟩ <;> intro found' shy' upheld' made known
  · exact upheld'
  · obtain ⟨d₂, stands₂, furnished₂, holds₂⟩ := made a rfl
    exact ⟨upheld', new, shy', s.guest, r', d₂, by simp [Ledger.withState, known], found',
      told'.trans told, origin ▸ stands₂, furnished₂, holds₂⟩

/-- A record says this about its plugin. -/
def Describes (p : Pool σ ε) (id : RecordId) (info : Option PluginInfo) : Prop :=
  ∃ r, p.records[id]? = some r ∧ r.info = info

theorem makes_loadInstance (upheld : out.Upholds engine) :
    Upholding engine o (Describes · id info) (PoolM.loadInstance engine out id)
      fun n p => o.Makes engine p id info n fun affairs => affairs = [] := by
  rintro ⟨e, p⟩ ⟨upholds, r, found, told⟩
  rw [PoolM.ending_loadInstance engine out found]
  have hears := (upheld.keeps p).hears upheld.far r.name
  have after := (hears_load engine hears r.moduleBytes e p upholds.self).1
  have fresh (g : Instance σ ε) : ((Instance.load engine out r.name (some (.fresh r.name))
      r.moduleBytes).run (e, p)).1.1 = .ok g → Stands engine r.origin .fresh g ∧ Furnished .fresh g :=
    fun loaded => ⟨.loaded upheld.far loaded, .fresh upheld.far (HostTable.unbound_fresh r.name) loaded⟩
  revert after fresh
  rcases (Instance.load engine out r.name (some (.fresh r.name)) r.moduleBytes).run (e, p) with
    ⟨⟨fault | g, table⟩, e', q⟩ <;> intro after fresh
  · exact upholds.trans after
  · obtain ⟨r', found', origin, told'⟩ := after.records id r found
    obtain ⟨stands, furnished⟩ := fresh g rfl
    have before := upholds.trans after
    change o.Upholds engine (Ledger.withNew q id g) ∧
      o.Makes engine (Ledger.withNew q id g) id info q.instances.length fun affairs => affairs = []
    refine ⟨before.withNew found' (origin ▸ stands), ?_,
      fun trusts => absurd (before.known _ trusts) (Nat.lt_irrefl _), g, r', .fresh, ?_, found',
      told'.trans told, origin ▸ stands, furnished, rfl⟩
    · refine Nat.le_of_not_lt fun old => ?_
      obtain ⟨g', there⟩ := before.owners _ _ _ (List.getElem?_eq_getElem old)
      exact absurd (List.getElem?_eq_some_iff.1 there).1 (Nat.lt_irrefl _)
    · simp [Ledger.withNew]

theorem makes_createInstance (upheld : out.Upholds engine) :
    Upholding engine o (Describes · id info) (PoolM.createInstance engine out id)
      fun n p => o.Makes engine p id info n Reported := by
  refine (makes_loadInstance upheld).bind fun n => ?_
  refine (makes_withInstance upheld (Q := fun _ => Reported) .schema
    (fun _ _ => (inStep_advanced upheld.far fun _ other => other).checkSchema) ?_ ?_).bind fun _ => ?_
  · rintro _ rfl a none
    exact absurd none List.not_mem_nil
  · rintro origin _ rfl
    refine (achieves_checkSchema upheld.far).weaken (fun _ same => same) ?_
    rintro _ d ⟨a, same, name, result⟩
    exact ⟨[], a, same, name, result, fun a none => absurd none List.not_mem_nil⟩
  · rintro ⟨e, p⟩ ⟨upholds, making⟩
    refine ⟨upholds.updateRecord id (fun r _ => ⟨rfl, rfl⟩) fun r _ n waits => .inl waits, ?_⟩
    exact making.updateRecord (f := PluginRecord.countCreated) (fun r => ⟨rfl, rfl⟩) fun r told => told

/-- After its reports a new instance was reset, and took both configurations. -/
def Instructed (config : PoolConfig) (info : PluginInfo) (affairs : List Affair) : Prop :=
  ∃ before reset forAll forOne written written',
    affairs = forOne :: forAll :: reset :: before ∧ Reported before ∧
      (reset.name = "reset_config" ∧ ∃ v, reset.result = .ok v) ∧
      ConfigMap.serialize (.map config.globalConfig) = .ok written ∧
      forAll.Took "set_global_config" written ∧
      ConfigMap.serialize (PoolM.configOf config.pluginConfigs (some info)) = .ok written' ∧
      forOne.Took "set_plugin_config" written'

theorem Instructed.untried {config : PoolConfig} {info : PluginInfo} {affairs : List Affair}
    (instructed : Instructed config info affairs) : Untried affairs := by
  obtain ⟨before, reset, forAll, forOne, _, _, rfl, reported, ⟨name, -⟩, -, took, -, took'⟩ :=
    instructed
  refine List.forall_mem_cons.2 ⟨?_, List.forall_mem_cons.2 ⟨?_, List.forall_mem_cons.2 ⟨?_,
    reported.untried⟩⟩⟩
  · rw [took'.name]
    decide
  · rw [took.name]
    decide
  · rw [name]
    decide

/-- A new instance is configured with what its record tells, and found no fault. -/
theorem makes_configure (upheld : out.Upholds engine) {info : PluginInfo} :
    Upholding engine o (fun p => o.Makes engine p id (some info) n Reported)
      (PoolM.configure out id n)
      fun _ p => o.Makes engine p id (some info) n (Prepared o.config info) := by
  rintro ⟨e, p⟩ ⟨upholds, making⟩
  obtain ⟨g, r, d, there, found, told, -⟩ := making.there
  rw [PoolM.ending_configure out n found, told, upholds.config]
  have configured : Upholding engine o (fun p => o.Makes engine p id (some info) n Reported)
      (PoolM.withInstance n (GuestM.setConfig out (.map o.config.globalConfig)
        (PoolM.configOf o.config.pluginConfigs (some info))))
      fun _ p => o.Makes engine p id (some info) n (Instructed o.config info) := by
    refine makes_withInstance upheld (.configure _ _)
      (fun _ _ => (inStep_advanced upheld.far fun _ other => other).setConfig _ _)
      (fun _ reported => reported.untried) fun origin before reported => ?_
    refine (achieves_setConfig upheld.far _ _).weaken (fun _ same => same) ?_
    rintro _ d ⟨reset, forAll, forOne, written, written', same, global, own, name, result, took, took'⟩
    exact ⟨before, reset, forAll, forOne, written, written', same, reported, ⟨name, result⟩, global,
      took, own, took'⟩
  have diagnosed : Upholding engine o
      (fun p => o.Makes engine p id (some info) n (Instructed o.config info))
      (PoolM.withInstance n (GuestM.configDiagnostics out)) fun ds p =>
        o.Makes engine p id (some info) n fun affairs =>
          ds.isEmpty = true → Prepared o.config info affairs := by
    refine makes_withInstance upheld .diagnose
      (fun _ _ => (inStep_advanced upheld.far fun _ other => other).configDiagnostics)
      (fun _ instructed => instructed.untried) ?_
    rintro origin _ ⟨before, reset, forAll, forOne, written, written', rfl,
      ⟨asked, schema, rfl, name, result, untried⟩, wasReset, global, took, own, took'⟩
    refine (achieves_configDiagnostics upheld.far).weaken (fun _ same => same) ?_
    rintro ds d ⟨a, text, same, told, spelled⟩ none
    obtain rfl : ds = [] := List.isEmpty_iff.1 none
    rw [same]
    have prepared : Prepared o.config info
        ([] ++ a :: forOne :: forAll :: _ :: (asked ++ [schema])) :=
      .intro ⟨name, result⟩ untried wasReset global took own took' told (spelled.imp_left And.left)
    exact prepared
  refine (configured.bind fun _ => diagnosed.bind fun ds => ?_) (e, p) ⟨upholds, making⟩
  cases ds.isEmpty with
  | true => exact .pure fun p making => making.mono fun _ prepared => prepared rfl
  | false => exact .throw _

/-! ### Lending -/

theorem vouches_fillPlace (upheld : out.Upholds engine) {info : PluginInfo} :
    Upholding engine o (Describes · id (some info)) (PoolM.fillPlace engine out id)
      fun n p => o.Vouches engine p n := by
  have made : Upholding engine o (Describes · id (some info)) (PoolM.newInstance engine out id)
      fun n p => o.Makes engine p id (some info) n (Prepared o.config info) :=
    (makes_createInstance upheld).bind fun n =>
      (makes_configure upheld).bind fun _ => .pure fun _ making => making
  intro x holds
  have left := made x holds
  rw [PoolM.ending_fillPlace]
  revert left
  rcases ending (PoolM.newInstance engine out id) x with ⟨f | n, e, p⟩
  · intro upholds
    have dropped : o.Upholds engine (p.updateRecord id PluginRecord.abandon) :=
      upholds.updateRecord id (fun r _ => ⟨rfl, rfl⟩) fun r _ n waits => .inl waits
    exact Ends.bind (Preserves.record (I := o.Upholds engine) id)
      (fun _ => Ends.throw fun _ upholds => upholds) (fun _ _ upholds => upholds) (e, _) dropped
  · exact fun left => ⟨left.1, left.2.vouches left.1⟩

/-- Who borrows an instance gets one that is prepared. -/
theorem vouches_acquire (upheld : out.Upholds engine) {info : PluginInfo} :
    Upholding engine o (Describes · id (some info)) (PoolM.acquire engine out id)
      fun n p => o.Vouches engine p n := by
  rintro ⟨e, p⟩ ⟨upholds, r, found, told⟩
  rw [PoolM.ending_acquire engine out found]
  have same {idle : List InstanceId} (x : PluginRecord) (there : p.records[id]? = some x) :
      ({ r with idle, inUse := r.inUse + 1 } : PluginRecord).origin = x.origin ∧ r.info = x.info := by
    obtain rfl : r = x := Option.some.inj (found.symm.trans there)
    exact ⟨rfl, rfl⟩
  have leased {idle : List InstanceId} (fewer : idle ⊆ r.idle) :
      o.Upholds engine (p.updateRecord id fun _ => { r with idle, inUse := r.inUse + 1 }) :=
    upholds.updateRecord id same fun x there n waits => by
      rw [← Option.some.inj (found.symm.trans there)]
      exact .inl (fewer waits)
  cases lease : r.lease p.limits.maxInstances with
  | refused => exact upholds
  | exhausted =>
    exact (upholds.mark fun _ _ _ => PoolEvent.noConfusion).notes rfl rfl rfl rfl
  | popped n r' =>
    obtain ⟨-, rest, last, rfl⟩ := PluginRecord.lease_eq_popped_iff.1 lease
    have waits : p.Trusts n := .inr ⟨id, r, found, by simp [last]⟩
    exact ⟨leased (by simp [last]), (upholds.vouches waits).updateRecord same⟩
  | reserved r' =>
    obtain ⟨-, -, -, rfl⟩ := PluginRecord.lease_eq_reserved_iff.1 lease
    have place : Describes (p.updateRecord id fun _ => { r with inUse := r.inUse + 1 }) id (some info) :=
      ⟨_, Pool.getElem?_updateRecord_self found _, told⟩
    exact vouches_fillPlace upheld (e, _) ⟨leased (List.Subset.refl _), place⟩

/-! ### Formatting -/

/-- A trusted instance formats: it stays prepared. -/
theorem preserves_format (upheld : out.Upholds engine) (path text : String) (override : Datum)
    {x : ε × Pool σ ε} (upholds : o.Upholds engine x.2) (trusts : x.2.Trusts n) :
    o.Upholds engine (ending (PoolM.withInstance n (GuestM.formatText out path text override)) x).2.2 := by
  obtain ⟨e, p⟩ := x
  obtain ⟨⟨i, g, r, there, found, d, info, stands, told, prepared⟩, -⟩ := upholds.vouches trusts
  rw [PoolM.ending_withInstance there]
  have after := Service.upholds upheld (.format path text override) g e upholds
  obtain ⟨r', found', origin, told'⟩ := after.records i r found
  obtain ⟨g', there'⟩ := after.owners n i g there
  have level : InStep (Advanced (σ := σ) (ω := Pool σ ε) engine r.origin (fun _ => True) d.affairs)
    out out := inStep_advanced upheld.far fun _ _ => trivial
  obtain ⟨-, -, d₁, more, stands₁, affairs₁, -⟩ := level.formatText
    (fun again again' => level_callExport_advanced upheld.far again again' (fun _ => trivial) [])
    path text rfl rfl ⟨g, e, p⟩ ⟨g, e, p⟩ ⟨rfl, d, [], stands, rfl, fun _ _ => trivial⟩
  refine (upholds.trans after).withState there' found' (.inl ⟨d₁, info, origin ▸ stands₁,
    told'.trans told, ?_⟩)
  rw [affairs₁, after.config]
  exact prepared.later more

/-- Notes about the state of things are no matter. -/
theorem preserves_note (r : LogRecord) :
    Preserves (o.Upholds engine) (PoolM.note r : PoolM σ ε Unit) :=
  .update fun _ upholds => upholds.notes rfl rfl rfl rfl

theorem preserves_markCrashed (id : RecordId) (n : InstanceId) (reason : String) :
    Preserves (o.Upholds engine) (PoolM.markCrashed id n reason : PoolM σ ε Unit) := by
  refine Preserves.pool.bind fun p => .bind (.update fun _ upholds => ?_) fun _ => ?_
  · exact upholds.mark fun _ _ _ => PoolEvent.noConfusion
  refine .bind (.update fun _ upholds => upholds.updateRecord id (fun r _ => ?_) fun r _ n waits => ?_)
    fun _ => (Preserves.record id).bind fun r => (preserves_note _).bind fun _ => ?_
  · rw [PluginRecord.crash]
    split <;> exact ⟨rfl, rfl⟩
  · rw [PluginRecord.crash] at waits
    split at waits <;> exact .inl waits
  · exact .ite (preserves_note _) (.pure ())

/-- An instance that was lent has begun to format, and is trusted from then on. -/
theorem trusts_formatLent (upheld : out.Upholds engine) (path text : String) (override : Datum) :
    Ends (fun x => o.Upholds engine x.2 ∧ o.Vouches engine x.2 n)
      (PoolM.formatLent out id path text override n)
      fun _ x => o.Upholds engine x.2 ∧ x.2.Trusts n := by
  rintro ⟨e, p⟩ ⟨upholds, vouches⟩
  rw [PoolM.ending_formatLent]
  obtain ⟨begun, isBegun⟩ : ∃ begun : Pool σ ε,
    begun = { p with events := .formatting id n p.chain.active :: p.events } := ⟨_, rfl⟩
  have upheld₁ : o.Upholds engine begun := isBegun ▸ upholds.format vouches id p.chain.active
  have formatted : .formatting id n p.chain.active ∈ begun.events := by simp [isBegun]
  have trusts : begun.Trusts n := .inl ⟨id, _, formatted⟩
  have whole {q : Pool σ ε} (after : begun.Upholds engine q) : o.Upholds engine q ∧ q.Trusts n :=
    ⟨upheld₁.trans after, .inl ⟨id, _, after.events formatted⟩⟩
  have formats := preserves_format (x := (e, begun)) upheld path text override upheld₁.self trusts
  rw [← isBegun]
  revert formats
  rcases ending (PoolM.withInstance n (GuestM.formatText out path text override)) (e, begun) with
    ⟨f | v, y⟩ <;> intro formats
  · simp only
    split
    · exact whole (((preserves_markCrashed id n _).bind fun _ => .throw _) y formats)
    · exact whole formats
  · exact whole formats

/-- An instance that has begun to format may wait for the next borrower. -/
theorem upholds_release (id : RecordId) :
    Ends (fun x => o.Upholds engine x.2 ∧ x.2.Trusts n) (PoolM.release id n : PoolM σ ε Unit)
      fun _ x => o.Upholds engine x.2 := by
  have back (poisoned : Bool) : Ends (fun x => o.Upholds engine x.2 ∧ x.2.Trusts n)
      (PoolM.updateRecord id (PluginRecord.release n poisoned) : PoolM σ ε Unit)
      fun _ x => o.Upholds engine x.2 := by
    rintro x ⟨upholds, trusts⟩
    refine upholds.updateRecord id (fun r _ => ⟨rfl, rfl⟩) fun r _ m waits => ?_
    cases poisoned with
    | true => exact .inl waits
    | false =>
      refine (List.mem_append.1 waits).imp_right fun new => ?_
      obtain rfl := List.mem_singleton.1 new
      exact upholds.vouches trusts
  let I (p : Pool σ ε) : Prop := o.Upholds engine p ∧ p.Trusts n
  refine Ends.bind (Preserves.record (I := I) id) (fun r => ?_) fun _ _ holds => holds.1
  refine Ends.bind (Preserves.pool (I := I)) (fun p => ?_) fun _ _ holds => holds.1
  refine .ite (fun _ => ?_) fun _ => back _
  refine Ends.bind (Preserves.update (I := I) fun p holds => ?_) (fun _ => back _) fun _ _ holds => holds.1
  exact ⟨holds.1.notes rfl rfl rfl rfl, holds.2⟩

theorem preserves_borrowing (upheld : out.Upholds engine) {info : PluginInfo} (path text : String)
    (override : Datum) :
    Ends (fun x => o.Upholds engine x.2 ∧ Describes x.2 id (some info))
      (PoolM.borrowing engine out id (PoolM.formatLent out id path text override))
      fun _ x => o.Upholds engine x.2 := by
  refine Ends.bind (vouches_acquire upheld) (fun n => ?_) fun _ _ upholds => upholds
  have formats : Ends (fun x => o.Upholds engine x.2 ∧ o.Vouches engine x.2 n)
      (PoolM.attempt (PoolM.formatLent out id path text override n))
      fun _ x => o.Upholds engine x.2 ∧ x.2.Trusts n :=
    fun x holds => trusts_formatLent upheld path text override x holds
  refine formats.bind (fun r => ?_) fun _ _ holds => holds.1
  refine Ends.bind (upholds_release id) (fun _ => ?_) fun _ _ upholds => upholds
  exact Preserves.ofExcept r

theorem preserves_formatWith (upheld : out.Upholds engine) {info : PluginInfo} (path text : String)
    (override : Datum) :
    Ends (fun x => o.Upholds engine x.2 ∧ Describes x.2 id (some info))
      (PoolM.formatWith engine out id path text override) fun _ x => o.Upholds engine x.2 := by
  let I (p : Pool σ ε) : Prop := o.Upholds engine p ∧ Describes p id (some info)
  have entered (name : String) : Ends (fun x => I x.2) (PoolM.entering name
      (PoolM.borrowing engine out id (PoolM.formatLent out id path text override)))
      fun _ x => o.Upholds engine x.2 := by
    refine Ends.bind (Preserves.pool (I := I)) (fun p => ?_) fun _ _ holds => holds.1
    refine Ends.bind (Preserves.except (I := I) _) (fun chain => ?_) fun _ _ holds => holds.1
    refine Ends.bind (Preserves.update (I := I) fun p holds => ?_) (fun _ => ?_) fun _ _ holds => holds.1
    · exact ⟨holds.1.notes rfl rfl rfl rfl, holds.2⟩
    have borrowed : Ends (fun x => I x.2) (PoolM.attempt
        (PoolM.borrowing engine out id (PoolM.formatLent out id path text override)))
        fun _ x => o.Upholds engine x.2 :=
      fun x holds => preserves_borrowing upheld path text override x holds
    refine borrowed.bind (fun r => ?_) fun _ _ upholds => upholds
    refine (Preserves.update fun p upholds => ?_).bind fun _ => .ofExcept r
    exact upholds.notes rfl rfl rfl rfl
  refine Ends.bind (Preserves.record (I := I) id) (fun r => ?_) fun _ _ holds => holds.1
  refine Ends.bind (entered r.name) (fun result => ?_) fun _ _ upholds => upholds
  refine (Preserves.update fun p upholds => ?_).bind fun _ => (Preserves.update fun p upholds => ?_).bind
    fun _ => .pure result
  · exact upholds.updateRecord id (fun r _ => ⟨rfl, rfl⟩) fun r _ n waits => .inl waits
  · exact upholds.mark fun _ _ _ => PoolEvent.noConfusion

/-! ### Requests -/

/-- A record that handles a path has told what its plugin is. -/
theorem describes_of_resolve {p : Pool σ ε} {path : String} {r : PluginRecord}
    (resolved : p.resolve path = some (id, r)) : ∃ info, Describes p id (some info) := by
  obtain ⟨info, told⟩ := (Pool.told_of_resolve resolved).1
  exact ⟨info, r, (Pool.mem_registry_of_resolve resolved).1, told⟩

theorem upheld_around (engine : Engine σ ε) (limits : Limits) :
    (PoolM.around engine limits).Upholds engine where
  far := rfl
  keeps := by
    refine keeps_around (fun _ _ _ _ upholds => upholds.notes rfl rfl rfl rfl) ?_ limits
    intro out far keeps o e p id r path text override resolved upholds
    obtain ⟨info, told⟩ := describes_of_resolve resolved
    exact preserves_formatWith ⟨far, keeps⟩ path text override (e, p) ⟨upholds, told⟩

theorem preserves_formatText (path text : String) (override : Datum) :
    Preserves (o.Upholds engine) (PoolM.formatText engine path text override) := by
  rintro ⟨e, p⟩ upholds
  rcases resolved : p.resolve path with _ | ⟨id, r⟩
  · rw [PoolM.ending_formatText_of_none resolved]
    exact upholds
  · rw [PoolM.ending_formatText_of_resolve resolved]
    obtain ⟨info, told⟩ := describes_of_resolve resolved
    exact preserves_formatWith (upheld_around engine p.limits) path text override (e, p)
      ⟨upholds, told⟩

/-! ### Registration -/

theorem preserves_loadPlugin (upheld : out.Upholds engine) (new : o.records.length ≤ id) :
    Ends (fun x => o.Upholds engine x.2 ∧ Describes x.2 id none) (PoolM.loadPlugin engine out id)
      fun _ x => o.Upholds engine x.2 := by
  refine Ends.bind (makes_createInstance upheld) (fun n => ?_) fun _ _ upholds => upholds
  have described : Upholding engine o (fun p => o.Makes engine p id none n Reported)
      (PoolM.withInstance n (GuestM.pluginInfo out)) fun _ p => o.Makes engine p id none n Reported := by
    refine makes_withInstance upheld .info
      (fun _ _ => (inStep_advanced upheld.far fun _ other => other).pluginInfo)
      (fun _ reported => reported.untried) ?_
    rintro origin _ ⟨asked, schema, rfl, name, result, untried⟩
    refine (achieves_pluginInfo upheld.far).weaken (fun _ same => same) ?_
    rintro info d ⟨a, text, same, told, -⟩
    refine ⟨a :: asked, schema, same, name, result, List.forall_mem_cons.2 ⟨?_, untried⟩⟩
    rw [told.name]
    decide
  refine Ends.bind described (fun info => ?_) fun _ _ upholds => upholds
  have entered : Upholding engine o (fun p => o.Makes engine p id none n Reported)
      (PoolM.updateRecord id fun r => { r with info := some info })
      fun _ p => o.Makes engine p id (some info) n Reported := by
    rintro ⟨e, p⟩ ⟨upholds, making⟩
    obtain ⟨g, r, d, there, found, told, -⟩ := making.there
    exact ⟨upholds.describe new found told info,
      making.updateRecord (f := fun r => { r with info := some info }) (fun r => ⟨rfl, rfl⟩)
        fun r _ => rfl⟩
  refine Ends.bind entered (fun _ => ?_) fun _ _ upholds => upholds
  refine Ends.bind (makes_configure upheld) (fun _ => ?_) fun _ _ upholds => upholds
  rintro ⟨e, p⟩ ⟨upholds, making⟩
  refine upholds.updateRecord id (f := PluginRecord.ready n) (fun r _ => ⟨rfl, rfl⟩) fun r _ m waits => ?_
  refine (List.mem_append.1 waits).imp_right fun new => ?_
  obtain rfl := List.mem_singleton.1 new
  exact making.vouches upholds

/-- Records are never forgotten. -/
theorem Pool.Upholds.length_records_le {o p : Pool σ ε} (upholds : o.Upholds engine p) :
    o.records.length ≤ p.records.length := by
  refine Nat.le_of_not_lt fun fewer => ?_
  obtain ⟨r, found, -⟩ := upholds.records _ _ (List.getElem?_eq_getElem fewer)
  exact Nat.lt_irrefl _ (List.getElem?_eq_some_iff.1 found).1

theorem Pool.Upholds.settleLoad {o p : Pool σ ε} (upholds : o.Upholds engine p) (id : RecordId)
    (r : Except Fault PluginInfo) : o.Upholds engine (settleLoad id r p) := by
  cases r with
  | ok info => exact upholds
  | error fault => exact upholds.updateRecord id (fun r _ => ⟨rfl, rfl⟩) fun r _ n waits => .inl waits

theorem preserves_register (name : String) (moduleBytes : Bytes) :
    Preserves (o.Upholds engine) (PoolM.register engine name moduleBytes) := by
  rintro ⟨e, p⟩ upholds
  cases valid : isPluginName name with
  | false =>
    rw [PoolM.ending_register_of_invalid engine valid]
    exact upholds
  | true =>
    obtain ⟨journal, ran⟩ := exists_ending_register engine valid moduleBytes e p
    rw [ran]
    have made := upholds.create (r := .fresh name moduleBytes) rfl
    have loaded := preserves_loadPlugin (upheld_around engine p.limits) upholds.length_records_le (e, _)
      ⟨made, _, List.getElem?_concat_length, rfl⟩
    exact (loaded.settleLoad _ _).notes rfl rfl rfl rfl

theorem preserves_shutdown : Preserves (o.Upholds engine) (PoolM.shutdown : PoolM σ ε Unit) :=
  .bind (.update fun _ upholds => upholds.clear) fun _ => preserves_note _

/-- What all instances of a pool have been through is known, whatever was done with the pool. -/
theorem Ran.upheld {config : PoolConfig} {x : ε × Pool σ ε} (ran : Ran engine config x) :
    (Pool.empty config).Upholds engine x.2 := by
  induction ran with
  | opened e =>
    have none (n : InstanceId) : ¬(Pool.empty config : Pool σ ε).Trusts n := by
      rintro (⟨id, chain, formatted⟩ | ⟨id, r, found, -⟩)
      · simp [Pool.empty] at formatted
      · simp [Pool.empty] at found
    exact ⟨rfl, List.Subset.refl _, fun _ r found => ⟨r, found, rfl, rfl⟩, fun _ _ g there => ⟨g, there⟩,
      fun n trusts => absurd trusts (none n), fun _ _ trusts => trusts,
      fun n id g there => by simp [Pool.empty] at there⟩
  | registered ran name moduleBytes ih => exact preserves_register name moduleBytes _ ih
  | formatted ran path text m ih => exact preserves_formatText path text _ _ ih
  | cleared ran ih => exact preserves_shutdown _ ih

/-- No instance formats before it is configured. Each instance of a pool, however the pool was used, has a
career that began with its loading, and where guests keep a journal, its calls are those in the journal.
Either the instance was prepared before anything else, with configurations that depend on its record alone,
or no format call has reached it, none has been started with it, and it does not wait for one. Between calls
no place of a record is in use, so what waits is all that counts; and a borrower who gets no instance leaves
every record's places as they were. -/
theorem prepared_of_trusted {config : PoolConfig} {x : ε × Pool σ ε} (ran : Ran engine config x) :
    (∀ (n : InstanceId) (id : RecordId) (g : Instance σ ε), x.2.instances[n]? = some (id, g) →
      ∃ (r : PluginRecord) (deals : List Dealing), x.2.records[id]? = some r ∧
        Career engine r.origin deals g ∧
        (∀ journal, Journal engine journal → Dealing.calls deals = journal g.state) ∧
        ((∃ info, r.info = some info ∧ Prepared config info (Digest.ofDealings deals).affairs) ∨
          ¬x.2.Trusts n ∧ Untried (Digest.ofDealings deals).affairs)) ∧
    (∀ (id : RecordId) (r : PluginRecord), x.2.records[id]? = some r →
      r.inUse = 0 ∧ ∀ n ∈ r.idle, ∃ g, x.2.instances[n]? = some (id, g)) ∧
    ∀ (s : Ledger σ ε) (depth : Nat) (id : RecordId) (e : ε) (f : Fault),
      Ledger.Reachable (habit engine) config s → s.Usable id →
      (ending (PoolM.acquire engine (PoolM.below engine depth) id) (e, s.pool)).1 = .error f →
      ∀ (i : RecordId) (r : PluginRecord), s.pool.records[i]? = some r →
        ∃ r', (ending (PoolM.acquire engine (PoolM.below engine depth) id)
          (e, s.pool)).2.2.records[i]? = some r' ∧ r'.inUse = r.inUse := by
  refine ⟨fun n id g there => ?_, fun id r found => ?_, fun s depth id e f reachable usable failed i r
    found => ?_⟩
  · have same : x.2.config = config := ran.upheld.config
    obtain ⟨r, found, state⟩ := ran.upheld.careers n id g there
    rw [same] at state
    rcases state with ⟨d, info, ⟨deals, rfl, career⟩, told, prepared⟩ |
      ⟨shy, d, ⟨deals, rfl, career⟩, untried⟩
    · exact ⟨r, deals, found, career, fun _ keeps => career.calls_eq keeps, .inl ⟨info, told, prepared⟩⟩
    · exact ⟨r, deals, found, career, fun _ keeps => career.calls_eq keeps, .inr ⟨shy, untried⟩⟩
  · obtain ⟨retired, reachable⟩ := ran.reachable
    have balanced := (Orderly.of_reachable reachable).balanced
    refine ⟨by simpa using balanced.inUse id r found, fun n waits => ?_⟩
    obtain ⟨g, there, -⟩ := balanced.idle id r n found waits
    exact ⟨g, there⟩
  · have o := Orderly.of_reachable reachable
    have borrowed := ends_acquire o (discreet_below engine depth) usable (e, s.pool) (.refl s)
    rw [failed] at borrowed
    exact borrowed.1.inUse o.balanced found

end

namespace Script

/-- A plugin whose formatter traps, and that cannot be loaded a second time. -/
def fading : Script :=
  { overhanging with format := [.trap "boom"], loadFaults := [none, some (.undecodable "gone")] }

/-- An engine that knows this plugin and keeps journals. -/
abbrev fadingEngine : Engine (ScriptState × List (String × List Int)) ScriptCounts :=
  (single fading).journaled

/-- A pool with that plugin after a format call. -/
def faded : ScriptCounts × Pool (ScriptState × List (String × List Int)) ScriptCounts :=
  (ending (PoolM.formatText fadingEngine "f.a" "x" (ConfigMap.toDatum []))
    (ending (PoolM.register fadingEngine "aa" [1]) (.zero, .empty small)).2).2

theorem ran_faded : Ran fadingEngine small faded :=
  ((Ran.opened ScriptCounts.zero).registered "aa" [1]).formatted "f.a" "x" []

end Script

open Script

/-- The general statement for a plugin whose first instance was lost when it formatted. That one was
prepared, and its journal tells the calls; the next borrower finds that there is no second one, and no
place stays in use. -/
theorem fading_prepared :
    Ran fadingEngine small faded ∧ Journal fadingEngine Prod.snd ∧
    (∃ (g : Instance (ScriptState × List (String × List Int)) ScriptCounts) (r : PluginRecord)
      (deals : List Dealing) (info : PluginInfo), faded.2.instances[0]? = some (0, g) ∧
        Career fadingEngine r.origin deals g ∧ Dealing.calls deals = g.state.2 ∧
        (g.state.2.map Prod.fst).count "format" = 1 ∧ r.info = some info ∧
        Prepared small info (Digest.ofDealings deals).affairs) ∧
    ∃ (r r' : PluginRecord) (f : Fault), faded.2.records[0]? = some r ∧ r.inUse = 0 ∧
      (ending (PoolM.acquire fadingEngine (PoolM.below fadingEngine 0) 0) faded).1 = .error f ∧
      (ending (PoolM.acquire fadingEngine (PoolM.below fadingEngine 0) 0) faded).2.2.records[0]? =
        some r' ∧ r'.inUse = r.inUse := by
  have keeps : Journal fadingEngine Prod.snd := journal_journaled _
  obtain ⟨careers, places, failing⟩ := prepared_of_trusted ran_faded
  obtain ⟨retired, reachable⟩ := ran_faded.reachable
  refine ⟨ran_faded, keeps, ?_, ?_⟩
  · have there : faded.2.instances[0]?.map (fun entry => (entry.1,
        (entry.2.state.2.map Prod.fst).count "format")) = some (0, 1) := by decide +kernel
    obtain ⟨⟨id, g⟩, found, same⟩ := Option.map_eq_some_iff.1 there
    obtain ⟨rfl, once⟩ := Prod.mk.inj same
    have formatted : PoolEvent.formatting 0 0 ["aa"] ∈ faded.2.events := by decide +kernel
    obtain ⟨r, deals, -, career, calls, ⟨info, told, prepared⟩ | ⟨shy, -⟩⟩ := careers 0 0 g found
    · exact ⟨g, r, deals, info, found, career, calls _ keeps, once, told, prepared⟩
    · exact absurd (.inl ⟨0, _, formatted⟩) shy
  · have known : faded.2.records[0]?.map (fun r => r.status == .degraded) = some false := by
      decide +kernel
    obtain ⟨r, found, status⟩ := Option.map_eq_some_iff.1 known
    have fails : (match (ending (PoolM.acquire fadingEngine (PoolM.below fadingEngine 0) 0) faded).1 with
      | .error _ => true | .ok _ => false) = true := by decide +kernel
    obtain ⟨f, failed⟩ : ∃ f,
        (ending (PoolM.acquire fadingEngine (PoolM.below fadingEngine 0) 0) faded).1 = .error f := by
      revert fails
      rcases (ending (PoolM.acquire fadingEngine (PoolM.below fadingEngine 0) 0) faded).1 with f | n
      · exact fun _ => ⟨f, rfl⟩
      · exact Bool.noConfusion
    have usable : Ledger.Usable ⟨faded.2, 0, retired⟩ 0 :=
      ⟨fun l none => absurd none (Multiset.notMem_zero l), r, found, by simpa using status⟩
    obtain ⟨r', left, same⟩ := failing ⟨faded.2, 0, retired⟩ 0 0 faded.1 f reachable usable failed 0 r found
    exact ⟨r, r', f, found, (places 0 r found).1, failed, left, same⟩

end FormatHost
