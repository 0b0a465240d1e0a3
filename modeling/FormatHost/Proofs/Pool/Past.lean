import FormatHost.Proofs.Guest.Operations
import FormatHost.Proofs.Pool.Fitness
/-!
# Where a thread has got to

A computation on a pool is a run of sections, between which the thread works on the instance in its
hand. What it has in hand changes; what other threads have in hand is left alone, though the guests
that the thread works with may ask for format calls in between.
-/
namespace FormatHost

variable {σ ε : Type}

namespace Ledger

/-- A record that may be borrowed from and whose plugin was loaded. -/
def Usable (s : Ledger σ ε) (id : RecordId) : Prop :=
  s.Entered id ∧ ∃ r, s.pool.records[id]? = some r ∧ r.status ≠ .degraded

theorem status_updateRecord {p : Pool σ ε} {i id : RecordId} {f : PluginRecord → PluginRecord}
    {r : PluginRecord} (found : p.records[id]? = some r) (status : r.status ≠ .degraded)
    (keeps : i = id → (f r).status ≠ .degraded) :
    ∃ r, (p.updateRecord i f).records[id]? = some r ∧ r.status ≠ .degraded := by
  by_cases same : id = i
  · subst same
    exact ⟨f r, Pool.getElem?_updateRecord_self found f, keeps rfl⟩
  · exact ⟨r, (Pool.getElem?_updateRecord_ne p same f).trans found, status⟩

/-- A usable record stays usable. -/
theorem Step.usable {h : Habit σ ε} {s s' : Ledger σ ε} {id : RecordId} (st : Step h s s')
    (usable : s.Usable id) : s'.Usable id := by
  obtain ⟨entered, r, found, status⟩ := usable
  refine ⟨st.entered (List.getElem?_eq_some_iff.1 found).1 entered, ?_⟩
  cases st with
  | pop entered' found' lease =>
    obtain ⟨-, rest, last, rfl⟩ := PluginRecord.lease_eq_popped_iff.1 lease
    refine status_updateRecord found status ?_
    rintro rfl
    exact Option.some.inj (found.symm.trans found') ▸ status
  | reserve entered' found' lease =>
    obtain ⟨-, empty, room, rfl⟩ := PluginRecord.lease_eq_reserved_iff.1 lease
    refine status_updateRecord found status ?_
    rintro rfl
    exact Option.some.inj (found.symm.trans found') ▸ status
  | crash mine found' usable =>
    refine status_updateRecord found status fun _ => ?_
    rw [PluginRecord.crash]
    split
    · exact PluginStatus.noConfusion
    · exact status
  | reject =>
    refine status_updateRecord found status ?_
    rintro rfl
    have still := entered _ (Multiset.mem_cons_self _ _)
    simp at still
  | accept => exact status_updateRecord found status fun _ => PluginStatus.noConfusion
  | count | abandon | release | succeed | describe =>
    exact status_updateRecord found status fun _ => status
  | create =>
    exact ⟨r, (List.getElem?_append_left (List.getElem?_eq_some_iff.1 found).1).trans found, status⟩
  | clear =>
    obtain ⟨idle, there⟩ := Pool.exists_getElem?_clear found
    exact ⟨_, there, status⟩
  | note same => exact ⟨r, same.records ▸ found, status⟩
  | load | drive | lend | loadFirst | enter => exact ⟨r, found, status⟩

theorem Steps.usable {h : Habit σ ε} {s s' : Ledger σ ε} {id : RecordId} (st : Steps h s s')
    (usable : s.Usable id) : s'.Usable id := by
  induction st with
  | refl => exact usable
  | tail _ st ih => exact st.usable ih

end Ledger

/-! ### The habits of an engine -/

/-- What a pool does with an instance in hand. -/
inductive Service (out : Outside ε (Pool σ ε)) :
    {α : Type} → GuestM σ ε (Pool σ ε) α → Prop
  | schema : Service out (GuestM.checkSchema out)
  | info : Service out (GuestM.pluginInfo out)
  | configure (global plugin : Datum) : Service out (GuestM.setConfig out global plugin)
  | diagnose : Service out (GuestM.configDiagnostics out)
  | format (path text : String) (override : Datum) :
    Service out (GuestM.formatText out path text override)

/-- An instance that broke no rule is worked with, out of its guest's reach. -/
inductive Driven (g : Instance σ ε) : Instance σ ε → Prop
  | intro {α : Type} {out : Outside ε (Pool σ ε)} {call : GuestM σ ε (Pool σ ε) α}
      (service : Service out call) (far : out.selfCalls = false) (healthy : g.poisoned = false)
      (e : ε) (p : Pool σ ε) : Driven g (ending call ⟨g, e, p⟩).2.guest

/-- An engine loads an instance. -/
inductive Loaded (engine : Engine σ ε) : Instance σ ε → Prop
  | intro {out : Outside ε (Pool σ ε)} {name : String} {moduleBytes : Bytes} {x : ε × Pool σ ε}
      {g : Instance σ ε} (far : out.selfCalls = false)
      (loaded : ((Instance.load engine out name (some (.fresh name)) moduleBytes).run x).1.1 = .ok g) :
      Loaded engine g

/-- The configurations for a plugin can be written. -/
def PoolConfig.Writable (config : PoolConfig) (info : Option PluginInfo) : Prop :=
  (∃ data, ConfigMap.serialize (.map config.globalConfig) = .ok data) ∧
    ∃ data, ConfigMap.serialize (PoolM.configOf config.pluginConfigs info) = .ok data

/-- How instances of an engine come and go in a pool. One that is lent has told the host its window. -/
def habit (engine : Engine σ ε) : Habit σ ε where
  loaded := Loaded engine
  driven := Driven
  fit g := Windowed g.windowStart g.windowSize
  ready := PoolConfig.Writable

/-! ### Threads -/

namespace Ledger

theorem Step.config {h : Habit σ ε} {s s' : Ledger σ ε} (st : Step h s s') :
    s'.pool.config = s.pool.config := by
  cases st with
  | note same => exact same.config
  | _ => rfl

theorem Steps.config {h : Habit σ ε} {s s' : Ledger σ ε} (st : Steps h s s') :
    s'.pool.config = s.pool.config := by
  induction st with
  | refl => rfl
  | tail _ st ih => exact st.config.trans ih

end Ledger

open Ledger

/-- A thread that some time after a ledger has some loans in hand, and has left the instances in the
hands of others alone since. -/
structure Past (h : Habit σ ε) (s₀ : Ledger σ ε) (others own : Multiset Loan) (p : Pool σ ε) :
    Prop where
  steps : ∃ retired, Steps h s₀ ⟨p, own + others, retired⟩
  apart : ∀ l ∈ others, ∀ n, l.number? = some n → p.instances[n]? = s₀.pool.instances[n]?

namespace Past

variable {h : Habit σ ε} {s₀ : Ledger σ ε} {others own own' : Multiset Loan} {p q : Pool σ ε}

theorem refl (s₀ : Ledger σ ε) : Past h s₀ s₀.loans 0 s₀.pool where
  steps := ⟨s₀.retired, by rw [zero_add]⟩
  apart _ _ _ _ := rfl

theorem balanced (past : Past h s₀ others own p) (b : Balanced h s₀) :
    ∃ retired, Balanced h ⟨p, own + others, retired⟩ :=
  past.steps.imp fun _ => b.steps

/-- One more section. -/
theorem next (past : Past h s₀ others own p)
    (st : ∀ retired, ∃ retired',
      Ledger.Step h ⟨p, own + others, retired⟩ ⟨q, own' + others, retired'⟩)
    (same : ∀ l ∈ others, ∀ n, l.number? = some n → q.instances[n]? = p.instances[n]?) :
    Past h s₀ others own' q where
  steps := by
    obtain ⟨retired, before⟩ := past.steps
    obtain ⟨retired', st⟩ := st retired
    exact ⟨retired', before.tail st⟩
  apart l other n number := (same l other n number).trans (past.apart l other n number)

theorem notes (past : Past h s₀ others own p) (same : SameAccounts p q) : Past h s₀ others own q :=
  past.next (fun retired => ⟨retired, .note same⟩) fun _ _ _ _ => by rw [same.instances]

/-- A thread of another thread's guest. -/
theorem nested {retired : Multiset InstanceId} (past : Past h s₀ others own p)
    (steps : Steps h s₀ ⟨p, own + others, retired⟩)
    (inner : Past h ⟨p, own + others, retired⟩ (own + others) own' q) :
    Past h s₀ others (own' + own) q where
  steps := by
    obtain ⟨retired', further⟩ := inner.steps
    exact ⟨retired', by simpa [add_assoc] using steps.trans further⟩
  apart l other n number :=
    (inner.apart l (Multiset.mem_add.2 (.inr other)) n number).trans (past.apart l other n number)

theorem usable (past : Past h s₀ others own p) {id : RecordId} (usable : s₀.Usable id) :
    ∃ retired, Usable ⟨p, own + others, retired⟩ id :=
  past.steps.imp fun _ steps => Steps.usable steps usable

theorem config (past : Past h s₀ others own p) : p.config = s₀.pool.config := by
  obtain ⟨retired, steps⟩ := past.steps
  exact Steps.config steps

/-- An instance in hand is in no other hand. -/
theorem alone (past : Past h s₀ others own p) (b : Balanced h s₀) {l l' : Loan} {n : InstanceId}
    (mine : l ∈ own) (number : l.number? = some n) (other : l' ∈ others) :
    l'.number? ≠ some n := by
  intro number'
  obtain ⟨retired, b⟩ := past.balanced b
  have once := (b.held_of_mem (Multiset.mem_add.2 (.inl mine)) number).1.1
  have first : 0 < own.countP (·.number? = some n) := Multiset.countP_pos_of_mem mine number
  have second : 0 < others.countP (·.number? = some n) := Multiset.countP_pos_of_mem other number'
  simp only [Multiset.countP_add] at once
  omega

/-- Work on an instance in hand. -/
theorem drive (past : Past h s₀ others own p) (b : Balanced h s₀) {l : Loan} {n : InstanceId}
    {g g' : Instance σ ε} (mine : l ∈ own) (number : l.number? = some n)
    (found : p.instances[n]? = some (l.account, g)) (driven : h.driven g g') :
    Past h s₀ others own (withState p n l.account g') := by
  refine past.next (fun retired => ⟨retired, ?_⟩) fun l' other m number' => ?_
  · exact .drive (Multiset.mem_add.2 (.inl mine)) number found driven
  · have different : n ≠ m := by
      rintro rfl
      exact past.alone b mine number other number'
    simp [withState, different]

end Past

/-! ### All instances -/

/-- A property of all instances there ever were. -/
def Ledger.Throughout (s : Ledger σ ε) (P : Instance σ ε → Prop) : Prop :=
  ∀ (n : InstanceId) (id : RecordId) (g : Instance σ ε), s.pool.instances[n]? = some (id, g) → P g

theorem Ledger.Step.throughout {h : Habit σ ε} {s s' : Ledger σ ε} {P : Instance σ ε → Prop}
    (loaded : ∀ g, h.loaded g → P g) (driven : ∀ g g', h.driven g g' → P g → P g')
    (st : Ledger.Step h s s') (all : s.Throughout P) : s'.Throughout P := by
  intro n id g found
  cases st with
  | load new | loadFirst new =>
    rcases List.mem_append.1 (List.mem_of_getElem? found) with old | fresh
    · obtain ⟨m, there⟩ := List.getElem?_of_mem old
      exact all m id g there
    · obtain ⟨-, rfl⟩ := Prod.mk.inj (List.mem_singleton.1 fresh)
      exact loaded g new
  | @drive _ l m g₀ g' mine number there new =>
    by_cases same : m = n
    · subst same
      have known : m < s.pool.instances.length := (List.getElem?_eq_some_iff.1 there).1
      obtain ⟨-, rfl⟩ : l.account = id ∧ g' = g := by simpa [withState, known] using found
      exact driven g₀ g' new (all m _ g₀ there)
    · exact all n id g (by simpa [withState, same] using found)
  | note same => exact all n id g (same.instances ▸ found)
  | pop | reserve | count | lend | abandon | release | crash | succeed | create | describe | accept
  | reject | enter | clear => exact all n id g found

theorem Ledger.Steps.throughout {h : Habit σ ε} {s s' : Ledger σ ε} {P : Instance σ ε → Prop}
    (loaded : ∀ g, h.loaded g → P g) (driven : ∀ g g', h.driven g g' → P g → P g')
    (st : Steps h s s') (all : s.Throughout P) : s'.Throughout P := by
  induction st with
  | refl => exact all
  | tail _ st ih => exact st.throughout loaded driven ih

theorem Loaded.settled {engine : Engine σ ε} {g : Instance σ ε} (loaded : Loaded engine g) :
    Settled g := by
  obtain @⟨out, name, moduleBytes, ⟨e, p⟩, g, far, ran⟩ := loaded
  have ended := load_spec engine out.keeps_true far name (HostTable.unbound_fresh name) moduleBytes e p
    trivial
  rw [ran] at ended
  obtain ⟨-, -, -, free, untold⟩ := ended
  exact ⟨free, fun _ => untold.ready.loose⟩

theorem Service.advancing {out : Outside ε (Pool σ ε)} {α : Type} {call : GuestM σ ε (Pool σ ε) α}
    (service : Service out call) : Advancing call := by
  cases service with
  | schema => exact advancing_checkSchema out
  | info => exact (accountable_pluginInfo out).1
  | configure global plugin => exact (accountable_setConfig out global plugin).1
  | diagnose => exact advancing_configDiagnostics out
  | format path text override =>
    exact advancing_formatWith out (advancing_nestedFormat out) path text override

theorem Driven.advance {g g' : Instance σ ε} (driven : Driven g g') : g.Advance g' := by
  obtain ⟨service, -, -, e, p⟩ := driven
  exact service.advancing ⟨g, e, p⟩

theorem Driven.settled {g g' : Instance σ ε} (driven : Driven g g') (settled : Settled g) :
    Settled g' :=
  have advance := driven.advance
  ⟨advance.free settled.1, fun after => advance.loose (settled.2 (advance.healthy after)) after⟩

/-- A ledger with balanced accounts and settled instances, where none is lent before it has told its
window. -/
structure Orderly (engine : Engine σ ε) (s : Ledger σ ε) : Prop where
  balanced : Balanced (habit engine) s
  settled : s.Throughout Settled
  fitted : Fitted (habit engine) s

theorem Orderly.steps {engine : Engine σ ε} {s s' : Ledger σ ε} (o : Orderly engine s)
    (st : Steps (habit engine) s s') : Orderly engine s' where
  balanced := o.balanced.steps st
  settled := st.throughout (fun _ => Loaded.settled) (fun _ _ => Driven.settled) o.settled
  fitted := st.fitted (fun _ _ driven => driven.advance.windowed) o.fitted

theorem Orderly.of_reachable {engine : Engine σ ε} {config : PoolConfig} {s : Ledger σ ε}
    (reachable : Reachable (habit engine) config s) : Orderly engine s :=
  Orderly.steps ⟨.empty config, fun n id g found => by simp [Ledger.empty, Pool.empty] at found,
    fitted_empty config⟩ reachable

end FormatHost
