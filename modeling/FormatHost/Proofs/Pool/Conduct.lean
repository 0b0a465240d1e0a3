import FormatHost.Proofs.Pool.Equations
import FormatHost.Proofs.Pool.Past
/-!
# What the functions of a pool do

Every function of a pool is a run of sections of one thread. It gives back what it borrowed, and leaves
what others have in hand alone. A format call inside another one does the same, so the depth of the
calls does not matter.
-/
namespace FormatHost

variable {σ ε α β : Type}

/-! ### What computations preserve -/

/-- A property of the pool is still there when a computation has ended, however it ended. -/
def Preserves (I : Pool σ ε → Prop) (c : PoolM σ ε α) : Prop :=
  Ends (fun x => I x.2) c fun _ x => I x.2

namespace Preserves

variable {I : Pool σ ε → Prop} {c : PoolM σ ε α} {k : α → PoolM σ ε β}

theorem pure (a : α) : Preserves I (Pure.pure a : PoolM σ ε α) := Ends.pure fun _ holds => holds

theorem throw (f : Fault) : Preserves I (MonadExcept.throw f : PoolM σ ε α) :=
  Ends.throw fun _ holds => holds

theorem bind (first : Preserves I c) (next : ∀ a, Preserves I (k a)) : Preserves I (c >>= k) :=
  Ends.bind first next fun _ _ holds => holds

theorem attempt (preserves : Preserves I c) : Preserves I (PoolM.attempt c) :=
  fun x holds => preserves x holds

theorem ofExcept (r : Except Fault α) : Preserves I (ofExcept r : PoolM σ ε α) := by
  intro x holds
  rwa [ending_ofExcept]

theorem except (r : Except Fault α) : Preserves I (liftM r : PoolM σ ε α) := fun _ holds => holds

theorem ite {p : Prop} [Decidable p] {d : PoolM σ ε α} (yes : Preserves I c)
    (no : Preserves I d) : Preserves I (if p then c else d) :=
  Ends.ite (fun _ => yes) fun _ => no

theorem pool : Preserves I (PoolM.pool : PoolM σ ε (Pool σ ε)) := fun _ holds => holds

theorem update {f : Pool σ ε → Pool σ ε} (keeps : ∀ p, I p → I (f p)) :
    Preserves I (PoolM.update f) := fun x holds => keeps x.2 holds

theorem record (id : RecordId) : Preserves I (PoolM.record id : PoolM σ ε PluginRecord) := by
  refine pool.bind fun p => ?_
  cases p.records[id]? with
  | none => exact .throw _
  | some r => exact .pure r

end Preserves

open Ledger

/-- A healthy and free instance of a record, with what the host knows of its window. -/
def Holds (window : Option Int → Option Int → Prop) (id : RecordId) (n : InstanceId) (p : Pool σ ε) :
    Prop :=
  ∃ g, p.instances[n]? = some (id, g) ∧ g.poisoned = false ∧ g.busy = false ∧
    window g.windowStart g.windowSize

theorem Sound.holds {ω : Type} {W : ω → Prop} {g₀ : Instance σ ε} {s : Scene σ ε ω}
    {window : Option Int → Option Int → Prop} {id : RecordId} {n : InstanceId} {p : Pool σ ε}
    (sound : Sound W g₀ false window s) (there : p.instances[n]? = some (id, s.guest)) :
    Holds window id n p :=
  ⟨s.guest, there, sound.healthy, sound.busy, sound.window⟩

theorem Holds.mono {window window' : Option Int → Option Int → Prop} {id : RecordId} {n : InstanceId}
    {p : Pool σ ε} (holds : Holds window id n p)
    (weaker : ∀ start size, window start size → window' start size) : Holds window' id n p := by
  obtain ⟨g, there, healthy, free, known⟩ := holds
  exact ⟨g, there, healthy, free, weaker _ _ known⟩

theorem Holds.loose {id : RecordId} {n : InstanceId} {p : Pool σ ε} (holds : Holds Windowed id n p) :
    Holds Loose id n p := holds.mono fun _ _ => Windowed.loose

/-- The outside of a pool's instances: no guest reaches its own instance, and whatever is asked for
leaves the instances alone that others have in hand. -/
structure Discreet (engine : Engine σ ε) (out : Outside ε (Pool σ ε)) : Prop where
  far : out.selfCalls = false
  keeps : ∀ s₀ others, Orderly engine s₀ → out.Keeps (Past (habit engine) s₀ others 0)

section

variable {engine : Engine σ ε} {s₀ : Ledger σ ε} {others own : Multiset Loan}
  {out : Outside ε (Pool σ ε)}

/-- What is asked for leaves the instances alone that the asking thread has in hand. -/
theorem Discreet.nested (discreet : Discreet engine out) (o : Orderly engine s₀)
    {p : Pool σ ε} (past : Past (habit engine) s₀ others own p) :
    ∃ s₁ : Ledger σ ε, s₁.pool = p ∧ s₁.loans = own + others ∧
      out.Keeps (Past (habit engine) s₁ s₁.loans 0) ∧
      ∀ q, Past (habit engine) s₁ s₁.loans 0 q → Past (habit engine) s₀ others own q := by
  obtain ⟨retired, steps⟩ := past.steps
  exact ⟨_, rfl, rfl, discreet.keeps _ _ (o.steps steps), fun q inner => by
    simpa using past.nested steps inner⟩

theorem Discreet.keeps_own (discreet : Discreet engine out) (o : Orderly engine s₀) :
    out.Keeps (Past (habit engine) s₀ others own) := by
  constructor
  · intro request x w past
    obtain ⟨s₁, rfl, -, keeps, outer⟩ := discreet.nested o past
    exact outer _ (keeps.ask request x _ (.refl s₁))
  · intro x w past
    obtain ⟨s₁, rfl, -, keeps, outer⟩ := discreet.nested o past
    exact outer _ (keeps.pause x _ (.refl s₁))

theorem Discreet.keeps_held (discreet : Discreet engine out) (o : Orderly engine s₀)
    {l : Loan} {n : InstanceId} (mine : l ∈ own) (number : l.number? = some n)
    (there : Option (RecordId × Instance σ ε)) :
    out.Keeps fun p => Past (habit engine) s₀ others own p ∧ p.instances[n]? = there := by
  constructor
  · rintro request x w ⟨past, rfl⟩
    obtain ⟨s₁, rfl, loans, keeps, outer⟩ := discreet.nested o past
    have inner := keeps.ask request x _ (.refl s₁)
    exact ⟨outer _ inner, inner.apart l (by simp [loans, mine]) n number⟩
  · rintro x w ⟨past, rfl⟩
    obtain ⟨s₁, rfl, loans, keeps, outer⟩ := discreet.nested o past
    have inner := keeps.pause x _ (.refl s₁)
    exact ⟨outer _ inner, inner.apart l (by simp [loans, mine]) n number⟩

/-- Work on an instance in hand: how it ends is how the call on the instance ends. -/
theorem ends_withInstance (o : Orderly engine s₀) (discreet : Discreet engine out)
    (others : Multiset Loan) {l : Loan} {id : RecordId} {n : InstanceId} (mine : l ∈ own)
    (account : l.account = id) (number : l.number? = some n) {call : GuestM σ ε (Pool σ ε) α}
    (service : Service out call) {window : Option Int → Option Int → Prop}
    {Q : (Pool σ ε → Prop) → Instance σ ε → Except Fault α → Scene σ ε (Pool σ ε) → Prop}
    (spec : ∀ W g₀, out.Keeps W → Ends (Sound W g₀ false window) call (Q W g₀))
    (world : ∀ W g₀ r s, Q W g₀ r s → W s.world) :
    Ends (fun x => Past (habit engine) s₀ others own x.2 ∧ Holds window id n x.2)
      (PoolM.withInstance n call) fun r x =>
        Past (habit engine) s₀ others own x.2 ∧
          ∃ W g₀ s, Q W g₀ r s ∧ x.2.instances[n]? = some (id, s.guest) := by
  subst account
  rintro ⟨e, p⟩ ⟨past, g, found, healthy, free, known⟩
  rw [PoolM.ending_withInstance found]
  have ended := spec _ g (discreet.keeps_held o mine number (p.instances[n]?)) ⟨g, e, p⟩
    ⟨⟨⟨past, rfl⟩, rfl, rfl, free⟩, healthy, known⟩
  obtain ⟨past', same⟩ := world _ _ _ _ ended
  have there := same.trans found
  refine ⟨past'.drive o.balanced mine number there ⟨service, discreet.far, healthy, e, p⟩, _, _, _, ended, ?_⟩
  simp [withState, (List.getElem?_eq_some_iff.1 there).1]

/-! ### Making instances -/

/-- A lent instance has told its window. -/
theorem Past.windowed {p : Pool σ ε} {id : RecordId} {n : InstanceId}
    (past : Past (habit engine) s₀ others own p) (o : Orderly engine s₀) (lent : .lent id n ∈ own)
    (holds : Holds Loose id n p) : Holds Windowed id n p := by
  obtain ⟨retired, steps⟩ := past.steps
  obtain ⟨g, found, healthy, free, -⟩ := holds
  have now := o.steps steps
  have used := now.balanced.not_unused_of_lent (Multiset.mem_add.2 (.inl lent))
  exact ⟨g, found, healthy, free, (now.fitted n id g found).resolve_right used⟩

/-- An engine fails with the faults of the protocol only. -/
def Declared (engine : Engine σ ε) : Prop :=
  ∀ moduleBytes e f, (engine moduleBytes e).1 = .error f → f.kind.isDeclared = true

/-- An export of an instance of a record runs out of room. -/
def Pool.RunsOut (p : Pool σ ε) (id : RecordId) (f : Fault) : Prop :=
  ∃ (n : InstanceId) (g : Instance σ ε), p.instances[n]? = some (id, g) ∧ g.exports.RunsOut f

/-- Why no instance of a record could be made: for a declared reason, or it ran out of room. -/
def Pool.Unmade (p : Pool σ ε) (id : RecordId) (f : Fault) : Prop :=
  f.kind.isDeclared = true ∨ p.RunsOut id f

/-- How the making of an instance goes on for a thread with this kind of loan. -/
def MadeFor (engine : Engine σ ε) (s₀ : Ledger σ ε) (others : Multiset Loan)
    (window : Option Int → Option Int → Prop) (loan : Option InstanceId → Loan) (id : RecordId) :
    Except Fault InstanceId → ε × Pool σ ε → Prop
  | .ok n, x => Past (habit engine) s₀ others {loan (some n)} x.2 ∧ Holds window id n x.2
  | .error f, x =>
    (∃ m, Past (habit engine) s₀ others {loan m} x.2) ∧
      (Declared engine → s₀.Usable id → x.2.Unmade id f)

theorem ends_loadInstance (o : Orderly engine s₀) (discreet : Discreet engine out)
    {loan : Option InstanceId → Loan} {id : RecordId}
    (kind : loan = .making id ∨ ∃ told, loan = (.registering id · told)) :
    Ends (fun x => Past (habit engine) s₀ others {loan none} x.2) (PoolM.loadInstance engine out id)
      (MadeFor engine s₀ others Ready loan id) := by
  rintro ⟨e, p⟩ past
  have account : (loan none).account = id := by rcases kind with rfl | ⟨told, rfl⟩ <;> rfl
  obtain ⟨retired, now⟩ := past.balanced o.balanced
  have known : id < p.records.length := account ▸ now.known _ (by simp)
  obtain ⟨r, found⟩ : ∃ r, p.records[id]? = some r := ⟨_, List.getElem?_eq_getElem known⟩
  have outcome := load_spec engine (discreet.keeps_own o) discreet.far r.name
    (HostTable.unbound_fresh r.name) r.moduleBytes e p past
  have asLoaded (g : Instance σ ε) (loaded : ((Instance.load engine out r.name
      (some (.fresh r.name)) r.moduleBytes).run (e, p)).1.1 = .ok g) : Loaded engine g :=
    .intro discreet.far loaded
  rw [PoolM.ending_loadInstance engine out found]
  revert outcome asLoaded
  rcases (Instance.load engine out r.name (some (.fresh r.name)) r.moduleBytes).run (e, p) with
    ⟨⟨fault | g, table⟩, e', q⟩
  · rintro ⟨past, reason⟩ -
    refine ⟨⟨none, past⟩, fun declared _ => ?_⟩
    rcases reason with failed | kind
    · exact .inl (declared _ _ _ failed)
    · exact .inl (kind ▸ rfl)
  · rintro ⟨past, -, healthy, free, untold⟩ asLoaded
    have isLoaded := asLoaded g rfl
    change MadeFor engine s₀ others Ready loan id (.ok q.instances.length) (e', withNew q id g)
    refine ⟨past.next (fun retired => ⟨retired, ?_⟩) ?_, g, by simp [withNew], healthy, free, untold.ready⟩
    · rcases kind with rfl | ⟨told, rfl⟩
      · exact .load isLoaded
      · exact .loadFirst isLoaded
    · intro l mine m number
      obtain ⟨retired, now⟩ := past.balanced o.balanced
      obtain ⟨g, there⟩ := now.owner l (Multiset.mem_add.2 (.inr mine)) m number
      exact List.getElem?_append_left (List.getElem?_eq_some_iff.1 there).1

theorem ends_createInstance (o : Orderly engine s₀)
    (discreet : Discreet engine out) {loan : Option InstanceId → Loan} {id : RecordId}
    (kind : loan = .making id ∨ ∃ told, loan = (.registering id · told)) :
    Ends (fun x => Past (habit engine) s₀ others {loan none} x.2) (PoolM.createInstance engine out id)
      (MadeFor engine s₀ others Ready loan id) := by
  refine (ends_loadInstance o discreet kind).bind (fun n => ?_) fun _ _ ended => ended
  have account : (loan (some n)).account = id := by rcases kind with rfl | ⟨told, rfl⟩ <;> rfl
  have number : (loan (some n)).number? = some n := by rcases kind with rfl | ⟨told, rfl⟩ <;> rfl
  have checked := ends_withInstance o discreet others (Multiset.mem_singleton_self _) account number
    .schema (fun W g₀ keeps => ends_checkSchema keeps discreet.far) fun W g₀ r s tried => by
      cases r with
      | ok => exact (Sound.toWatched tried).world
      | error f => exact tried.1.world
  refine checked.bind (fun _ => ?_) ?_
  · rintro ⟨e, p⟩ ⟨past, W, g₀, s, sound, there⟩
    exact ⟨past.next (fun retired => ⟨retired, .count id⟩) fun _ _ _ _ => rfl,
      Sound.holds sound there⟩
  · rintro f ⟨e, p⟩ ⟨past, W, g₀, s, ⟨watched, -, reason⟩, there⟩
    refine ⟨⟨_, past⟩, fun _ _ => ?_⟩
    rcases reason with kind | out
    · exact .inl (kind ▸ rfl)
    · exact .inr ⟨n, s.guest, there, watched.exports ▸ out⟩

/-- The configurations for a usable record can be written. -/
theorem Past.writable {p : Pool σ ε} {id : RecordId} {r : PluginRecord}
    (past : Past (habit engine) s₀ others own p) (o : Orderly engine s₀)
    (usable : s₀.Usable id) (found : p.records[id]? = some r) : p.config.Writable r.info := by
  obtain ⟨retired, steps⟩ := past.steps
  obtain ⟨entered, r', found', status⟩ := Steps.usable steps usable
  obtain rfl : r = r' := Option.some.inj (found.symm.trans found')
  exact (o.balanced.steps steps).ready id r found status (Balanced.not_registering entered)

/-- How the configuration of a new instance goes on. -/
def Configured (engine : Engine σ ε) (s₀ : Ledger σ ε) (others : Multiset Loan) (loan : Loan)
    (id : RecordId) (n : InstanceId) : Except Fault Unit → ε × Pool σ ε → Prop
  | .ok _, x =>
    Past (habit engine) s₀ others {loan} x.2 ∧ Holds Windowed id n x.2 ∧
      ∀ m told, loan = .registering id m told → x.2.config.Writable told
  | .error f, x => Past (habit engine) s₀ others {loan} x.2 ∧ (s₀.Usable id → x.2.Unmade id f)

theorem Strayed.isDeclared {ω : Type} {f : Fault} {s : Scene σ ε ω} (strayed : Strayed f s) :
    f.kind.isDeclared = true := by
  obtain ⟨e, rfl, -⟩ := strayed
  rfl

/-- The guest was in the way of the making of an instance. -/
theorem Broken.unmade {ω : Type} {W : ω → Prop} {g₀ : Instance σ ε} {held : Bool} {f : Fault}
    {s : Scene σ ε ω} (broken : Broken W g₀ held f s) {id : RecordId} {n : InstanceId} {p : Pool σ ε}
    (there : p.instances[n]? = some (id, s.guest)) : p.Unmade id f := by
  rcases broken with ⟨-, -, kind⟩ | ⟨sound, out⟩
  · exact .inl (kind ▸ rfl)
  · exact .inr ⟨n, s.guest, there, sound.exports ▸ out⟩

theorem ends_configure (o : Orderly engine s₀) (discreet : Discreet engine out)
    {loan : Loan} {id : RecordId} {n : InstanceId} (account : loan.account = id)
    (number : loan.number? = some n) :
    Ends (fun x => Past (habit engine) s₀ others {loan} x.2 ∧ Holds Ready id n x.2)
      (PoolM.configure out id n) (Configured engine s₀ others loan id n) := by
  rintro ⟨e, p⟩ ⟨past, holds⟩
  obtain ⟨retired, now⟩ := past.balanced o.balanced
  have known : id < p.records.length := account ▸ now.known _ (by simp)
  obtain ⟨r, found⟩ : ∃ r, p.records[id]? = some r := ⟨_, List.getElem?_eq_getElem known⟩
  rw [PoolM.ending_configure out n found]
  let global : Datum := .map p.config.globalConfig
  let plugin := PoolM.configOf p.config.pluginConfigs r.info
  have configured := ends_withInstance o discreet others (Multiset.mem_singleton_self loan) account
    number (.configure global plugin)
    (fun W g₀ keeps => ends_setConfig keeps global plugin) fun _ _ _ _ ended =>
      ended.1.world fun _ _ => Windowed.loose
  have diagnosed := ends_withInstance o discreet others (Multiset.mem_singleton_self loan) account
    number .diagnose (fun W g₀ keeps => ends_ready (ends_configDiagnostics keeps discreet.far))
    fun _ _ _ _ ended => ended.world fun _ _ => Windowed.loose
  refine configured.bind (fun _ => ?_) ?_ (e, p) ⟨past, holds⟩
  · rintro x ⟨_, W, g₀, s, ⟨sound, written⟩, there⟩
    refine diagnosed.bind (fun diagnostics => ?_) ?_ x (And.intro ‹_› (Sound.holds sound there))
    · rintro y ⟨past', W, g₀, s, sound, there⟩
      cases diagnostics.isEmpty
      · exact ⟨past', fun _ => .inl rfl⟩
      · refine ⟨past', Sound.holds sound there, ?_⟩
        rintro m told rfl
        obtain ⟨-, rfl⟩ := now.blank id m told r (by simp) found
        exact (past'.config.trans past.config.symm) ▸ written rfl
    · rintro f y ⟨past, W, g₀, s, broken | ⟨-, strayed | ⟨complaints, rfl⟩⟩, there⟩
      · exact ⟨past, fun _ => broken.unmade there⟩
      · exact ⟨past, fun _ => .inl strayed.isDeclared⟩
      · exact ⟨past, fun _ => .inl rfl⟩
  · rintro f x ⟨past', W, g₀, s, ⟨broken | ⟨-, strayed | unwritten⟩, -⟩, there⟩
    · exact ⟨past', fun _ => broken.unmade there⟩
    · exact ⟨past', fun _ => .inl strayed.isDeclared⟩
    · refine ⟨past', fun usable => ?_⟩
      obtain ⟨⟨data, global'⟩, data', plugin'⟩ := past.writable o usable found
      rcases unwritten with unwritten | unwritten
      · simp [global, global'] at unwritten
      · simp [plugin, plugin'] at unwritten

/-! ### Borrowing -/

/-- How an attempt to borrow ends: an instance is lent, or nothing is. Then the plugin is unavailable, or
an instance in the making ran out of room. -/
def Borrowed (engine : Engine σ ε) (s₀ : Ledger σ ε) (others : Multiset Loan) (id : RecordId) :
    Except Fault InstanceId → ε × Pool σ ε → Prop
  | .ok n, x => Past (habit engine) s₀ others {.lent id n} x.2 ∧ Holds Windowed id n x.2
  | .error f, x =>
    Past (habit engine) s₀ others 0 x.2 ∧
      (Declared engine → s₀.Usable id → f.kind = .unavailable ∨ x.2.RunsOut id f)

theorem ends_fillPlace (o : Orderly engine s₀) (discreet : Discreet engine out)
    (id : RecordId) :
    Ends (fun x => Past (habit engine) s₀ others {.making id none} x.2) (PoolM.fillPlace engine out id)
      (Borrowed engine s₀ others id) := by
  have made : Ends (fun x => Past (habit engine) s₀ others {.making id none} x.2)
      (PoolM.newInstance engine out id) (MadeFor engine s₀ others Windowed (.making id) id) := by
    refine (ends_createInstance o discreet (.inl rfl)).bind (fun n => ?_) fun _ _ ended => ended
    refine (ends_configure o discreet rfl rfl).bind (fun _ => ?_) ?_
    · exact fun x ⟨past, holds, _⟩ => ⟨past, holds⟩
    · exact fun f x ⟨past, declared⟩ => ⟨⟨_, past⟩, fun _ => declared⟩
  intro x past
  have ended := made x past
  rw [PoolM.ending_fillPlace]
  revert ended
  rcases ending (PoolM.newInstance engine out id) x with ⟨f | n, e, p⟩
  · rintro ⟨⟨m, past⟩, declared⟩
    obtain ⟨retired, now⟩ := past.balanced o.balanced
    have known : id < p.records.length := now.known (.making id m) (by simp)
    have found := Pool.getElem?_updateRecord_self (List.getElem?_eq_getElem known)
      PluginRecord.abandon
    simp only
    rw [ending_bind_of_ok (PoolM.ending_record found)]
    refine ⟨past.next (fun retired => ⟨m.toList + retired, ?_⟩) fun _ _ _ _ => rfl, ?_⟩
    · have dropped : Ledger.Step (habit engine) ⟨p, .making id m ::ₘ others, retired⟩
          ⟨p.updateRecord id .abandon, others, m.toList + retired⟩ := .abandon
      simpa using dropped
    · intro engine usable
      rcases declared engine usable with declared | ⟨n, g, there, out⟩
      · exact .inl (by rw [if_pos declared]; rfl)
      · rw [if_neg (by simp [out.room.kind, FaultKind.isDeclared])]
        exact .inr ⟨n, g, there, out⟩
  · rintro ⟨past, g, there, healthy, free, known⟩
    exact ⟨past.next (fun retired => ⟨retired, .lend there healthy known⟩) fun _ _ _ _ => rfl,
      g, there, healthy, free, known⟩

theorem ends_acquire (o : Orderly engine s₀) (discreet : Discreet engine out) {id : RecordId}
    (usable : s₀.Usable id) :
    Ends (fun x => Past (habit engine) s₀ others 0 x.2) (PoolM.acquire engine out id)
      (Borrowed engine s₀ others id) := by
  rintro ⟨e, p⟩ past
  obtain ⟨retired, steps⟩ := past.steps
  obtain ⟨entered, r, found, status⟩ := Steps.usable steps usable
  rw [zero_add] at steps entered
  rw [PoolM.ending_acquire engine out found]
  cases lease : r.lease p.limits.maxInstances with
  | refused => exact ⟨past, fun _ _ => .inl rfl⟩
  | exhausted => exact ⟨past.notes ⟨rfl, rfl, rfl, rfl⟩, fun _ _ => .inl rfl⟩
  | popped n r' =>
    change Borrowed engine s₀ others id (.ok n) (e, p.updateRecord id fun _ => r')
    refine ⟨past.next (fun retired => ⟨retired, ?_⟩) fun _ _ _ _ => rfl, ?_⟩
    · have popped : Ledger.Step (habit engine) ⟨p, others, retired⟩
          ⟨p.updateRecord id fun _ => r', .lent id n ::ₘ others, retired⟩ :=
        .pop entered found lease
      simpa using popped
    · obtain ⟨-, rest, last, -⟩ := PluginRecord.lease_eq_popped_iff.1 lease
      have now := o.steps steps
      have waits : n ∈ r.idle := by simp [last]
      obtain ⟨g, there, healthy⟩ := now.balanced.idle id r n found waits
      have used := now.balanced.not_unused_of_idle found waits
      exact ⟨g, there, healthy, (now.settled n id g there).1,
        (now.fitted n id g there).resolve_right used⟩
  | reserved r' =>
    refine ends_fillPlace o discreet id (e, p.updateRecord id fun _ => r') ?_
    refine past.next (fun retired => ⟨retired, ?_⟩) fun _ _ _ _ => rfl
    have reserved : Ledger.Step (habit engine) ⟨p, others, retired⟩
        ⟨p.updateRecord id fun _ => r', .making id none ::ₘ others, retired⟩ :=
      .reserve entered found lease
    simpa using reserved

end

end FormatHost
