import FormatHost.Proofs.Pool.Records
import Mathlib.Logic.Relation
/-!
# The ledger of a pool

Several threads may use one pool. Each of them changes the accounts in sections that no other thread
sees half done: it pops an instance or reserves a place, ends the making of an instance, gives an
instance back, notes a crash or a success, enters a record under its name, or shuts the pool down.
Between its sections a thread works on the instance that it has in hand.

A ledger is a pool together with what all threads have in hand, and with the instances that are out of
use for good. `Ledger.Step` is one section of one thread, with the pool's own functions as effects.
-/
namespace FormatHost

/-- What a thread has in hand. -/
inductive Loan where
  /-- The plugin of a new record is being loaded, as soon as there is one with an instance, and with
  what the plugin has said about itself. -/
  | registering (account : RecordId) (number : Option InstanceId) (told : Option PluginInfo)
  /-- The record is complete, and about to be entered under its name. -/
  | entering (account : RecordId)
  /-- A place is reserved, and an instance for it is being made. -/
  | making (account : RecordId) (number : Option InstanceId)
  /-- An instance is lent. -/
  | lent (account : RecordId) (number : InstanceId)
  deriving DecidableEq

namespace Loan

/-- The record that it concerns. -/
def account : Loan → RecordId
  | registering id _ _ | entering id | making id _ | lent id _ => id

/-- The instance in hand. -/
def number? : Loan → Option InstanceId
  | registering _ n _ | making _ n => n
  | entering _ => none
  | lent _ n => some n

/-- It takes a place of the record: an instance is lent or being made. -/
def charges (id : RecordId) : Loan → Bool
  | making id' _ | lent id' _ => id' == id
  | _ => false

/-- It keeps the record away from borrowers. -/
def opens (id : RecordId) : Loan → Bool
  | registering id' _ _ | entering id' => id' == id
  | _ => false

variable (id id' : RecordId) (m : Option InstanceId) (n : InstanceId) (told : Option PluginInfo)

@[simp] theorem number?_registering : (registering id' m told).number? = m := rfl
@[simp] theorem number?_entering : (entering id').number? = none := rfl
@[simp] theorem number?_making : (making id' m).number? = m := rfl
@[simp] theorem number?_lent : (lent id' n).number? = some n := rfl

@[simp] theorem charges_registering : (registering id' m told).charges id = false := rfl
@[simp] theorem charges_entering : (entering id').charges id = false := rfl
@[simp] theorem charges_making : (making id' m).charges id = (id' == id) := rfl
@[simp] theorem charges_lent : (lent id' n).charges id = (id' == id) := rfl

@[simp] theorem opens_registering : (registering id' m told).opens id = (id' == id) := rfl
@[simp] theorem opens_entering : (entering id').opens id = (id' == id) := rfl
@[simp] theorem opens_making : (making id' m).opens id = false := rfl
@[simp] theorem opens_lent : (lent id' n).opens id = false := rfl

end Loan

/-- A pool, what threads have in hand, and which instances are out of use for good. -/
structure Ledger (σ ε : Type) where
  pool : Pool σ ε
  loans : Multiset Loan
  retired : Multiset InstanceId

/-- What is known of instances and records: what loading gives, what work makes of an instance, which
instances may be lent, and when a plugin counts as loaded. -/
structure Habit (σ ε : Type) where
  loaded : Instance σ ε → Prop
  driven : Instance σ ε → Instance σ ε → Prop
  fit : Instance σ ε → Prop
  ready : PoolConfig → Option PluginInfo → Prop

namespace Ledger

variable {σ ε : Type}

/-- The instances of a record that are lent. -/
def lentOf (s : Ledger σ ε) (id : RecordId) : Multiset InstanceId :=
  s.loans.filterMap fun
    | .lent id' n => if id' = id then some n else none
    | _ => none

/-- The makings of instances for a record that are going on. -/
def makingsOf (s : Ledger σ ε) (id : RecordId) : Multiset (Option InstanceId) :=
  s.loans.filterMap fun
    | .making id' m => if id' = id then some m else none
    | _ => none

/-- Nothing has happened. -/
def empty (config : PoolConfig) : Ledger σ ε := ⟨.empty config, 0, 0⟩

/-- A record that may be borrowed from. -/
def Entered (s : Ledger σ ε) (id : RecordId) : Prop := ∀ l ∈ s.loans, l.opens id = false

/-- Pools that differ in their notes at most. -/
structure SameAccounts (p q : Pool σ ε) : Prop where
  config : q.config = p.config
  records : q.records = p.records
  registry : q.registry = p.registry
  instances : q.instances = p.instances

/-- The pool with one more instance. -/
def withNew (p : Pool σ ε) (id : RecordId) (g : Instance σ ε) : Pool σ ε :=
  { p with instances := p.instances ++ [(id, g)] }

/-- The pool with another state of an instance. -/
def withState (p : Pool σ ε) (n : InstanceId) (id : RecordId) (g : Instance σ ε) : Pool σ ε :=
  { p with instances := p.instances.set n (id, g) }

/-- An instance of such a pool is the new one, or was there before. -/
theorem of_getElem?_withNew {p : Pool σ ε} {id i : RecordId} {g x : Instance σ ε} {n : InstanceId}
    (found : (withNew p id g).instances[n]? = some (i, x)) :
    n = p.instances.length ∧ i = id ∧ x = g ∨ p.instances[n]? = some (i, x) := by
  rcases Nat.lt_trichotomy n p.instances.length with before | rfl | behind
  · exact .inr (by rwa [withNew, List.getElem?_append_left before] at found)
  · rw [withNew, List.getElem?_concat_length] at found
    obtain ⟨rfl, rfl⟩ := Prod.mk.inj (Option.some.inj found)
    exact .inl ⟨rfl, rfl, rfl⟩
  · rw [withNew, List.getElem?_eq_none (by simp; omega)] at found
    cases found

/-- An instance of such a pool is the one that has changed, or another one. -/
theorem of_getElem?_withState {p : Pool σ ε} {id i : RecordId} {g x : Instance σ ε}
    {n m : InstanceId} (found : (withState p n id g).instances[m]? = some (i, x)) :
    m = n ∧ i = id ∧ x = g ∨ m ≠ n ∧ p.instances[m]? = some (i, x) := by
  by_cases same : m = n
  · subst same
    have known : m < p.instances.length := by
      simpa [withState] using (List.getElem?_eq_some_iff.1 found).1
    obtain ⟨rfl, rfl⟩ : id = i ∧ g = x := by simpa [withState, known] using found
    exact .inl ⟨rfl, rfl, rfl⟩
  · exact .inr ⟨same, by simpa [withState, Ne.symm same] using found⟩

/-- One section of one thread. -/
inductive Step (h : Habit σ ε) : Ledger σ ε → Ledger σ ε → Prop
  /-- An idle instance is popped. -/
  | pop {s : Ledger σ ε} {id : RecordId} {r r' : PluginRecord} {n : InstanceId}
      (entered : s.Entered id) (found : s.pool.records[id]? = some r)
      (lease : r.lease s.pool.limits.maxInstances = .popped n r') :
      Step h s ⟨s.pool.updateRecord id fun _ => r', .lent id n ::ₘ s.loans, s.retired⟩
  /-- A place for a new instance is reserved. -/
  | reserve {s : Ledger σ ε} {id : RecordId} {r r' : PluginRecord}
      (entered : s.Entered id) (found : s.pool.records[id]? = some r)
      (lease : r.lease s.pool.limits.maxInstances = .reserved r') :
      Step h s ⟨s.pool.updateRecord id fun _ => r', .making id none ::ₘ s.loans, s.retired⟩
  /-- An instance is loaded for a reserved place. -/
  | load {p : Pool σ ε} {ls : Multiset Loan} {retired : Multiset InstanceId} {id : RecordId}
      {g : Instance σ ε} (loaded : h.loaded g) :
      Step h ⟨p, .making id none ::ₘ ls, retired⟩
        ⟨withNew p id g, .making id (some p.instances.length) ::ₘ ls, retired⟩
  /-- A thread works on the instance in its hand. -/
  | drive {s : Ledger σ ε} {l : Loan} {n : InstanceId} {g g' : Instance σ ε}
      (mine : l ∈ s.loans) (number : l.number? = some n)
      (found : s.pool.instances[n]? = some (l.account, g)) (driven : h.driven g g') :
      Step h s ⟨withState s.pool n l.account g', s.loans, s.retired⟩
  /-- A new instance is counted. -/
  | count {s : Ledger σ ε} (id : RecordId) :
      Step h s ⟨s.pool.updateRecord id PluginRecord.countCreated, s.loans, s.retired⟩
  /-- The new instance is ready, and goes to the thread that it was made for. -/
  | lend {p : Pool σ ε} {ls : Multiset Loan} {retired : Multiset InstanceId} {id : RecordId}
      {n : InstanceId} {g : Instance σ ε} (found : p.instances[n]? = some (id, g))
      (healthy : g.poisoned = false) (fit : h.fit g) :
      Step h ⟨p, .making id (some n) ::ₘ ls, retired⟩ ⟨p, .lent id n ::ₘ ls, retired⟩
  /-- No instance could be made; what there is of it is dropped. -/
  | abandon {p : Pool σ ε} {ls : Multiset Loan} {retired : Multiset InstanceId} {id : RecordId}
      {made : Option InstanceId} :
      Step h ⟨p, .making id made ::ₘ ls, retired⟩
        ⟨p.updateRecord id PluginRecord.abandon, ls, made.toList + retired⟩
  /-- A lent instance is given back; a poisoned one is dropped. -/
  | release {p : Pool σ ε} {ls : Multiset Loan} {retired : Multiset InstanceId} {id : RecordId}
      {n : InstanceId} {g : Instance σ ε} (found : p.instances[n]? = some (id, g)) :
      Step h ⟨p, .lent id n ::ₘ ls, retired⟩
        ⟨p.updateRecord id (PluginRecord.release n g.poisoned), ls,
          (if g.poisoned then {n} else 0) + retired⟩
  /-- A lent instance crashed. -/
  | crash {s : Ledger σ ε} {id : RecordId} {r : PluginRecord} {n : InstanceId} {reason : String}
      (mine : .lent id n ∈ s.loans) (found : s.pool.records[id]? = some r)
      (usable : r.status ≠ .degraded) :
      Step h s
        ⟨s.pool.updateRecord id (PluginRecord.crash s.pool.limits.maxCrashes reason), s.loans,
          s.retired⟩
  /-- A format call of a record succeeded. -/
  | succeed {s : Ledger σ ε} (id : RecordId) :
      Step h s ⟨s.pool.updateRecord id PluginRecord.succeed, s.loans, s.retired⟩
  /-- A record is made for a plugin. -/
  | create {s : Ledger σ ε} (name : String) (moduleBytes : Bytes) :
      Step h s
        ⟨{ s.pool with records := s.pool.records ++ [.fresh name moduleBytes] },
          .registering s.pool.records.length none none ::ₘ s.loans, s.retired⟩
  /-- The first instance of a record is loaded. -/
  | loadFirst {p : Pool σ ε} {ls : Multiset Loan} {retired : Multiset InstanceId} {id : RecordId}
      {told : Option PluginInfo} {g : Instance σ ε} (loaded : h.loaded g) :
      Step h ⟨p, .registering id none told ::ₘ ls, retired⟩
        ⟨withNew p id g, .registering id (some p.instances.length) told ::ₘ ls, retired⟩
  /-- The plugin of a new record has said what it is. -/
  | describe {p : Pool σ ε} {ls : Multiset Loan} {retired : Multiset InstanceId} {id : RecordId}
      {m : Option InstanceId} {told : Option PluginInfo} (info : PluginInfo) :
      Step h ⟨p, .registering id m told ::ₘ ls, retired⟩
        ⟨p.updateRecord id fun r => { r with info := some info },
          .registering id m (some info) ::ₘ ls, retired⟩
  /-- The plugin of a new record is loaded. -/
  | accept {p : Pool σ ε} {ls : Multiset Loan} {retired : Multiset InstanceId} {id : RecordId}
      {n : InstanceId} {told : Option PluginInfo} {g : Instance σ ε}
      (found : p.instances[n]? = some (id, g)) (healthy : g.poisoned = false) (fit : h.fit g)
      (ready : h.ready p.config told) :
      Step h ⟨p, .registering id (some n) told ::ₘ ls, retired⟩
        ⟨p.updateRecord id (PluginRecord.ready n), .entering id ::ₘ ls, retired⟩
  /-- The plugin of a new record could not be loaded. -/
  | reject {p : Pool σ ε} {ls : Multiset Loan} {retired : Multiset InstanceId} {id : RecordId}
      {made : Option InstanceId} {told : Option PluginInfo} {reason : String} :
      Step h ⟨p, .registering id made told ::ₘ ls, retired⟩
        ⟨p.updateRecord id (PluginRecord.degrade reason), .entering id ::ₘ ls,
          made.toList + retired⟩
  /-- A record is entered under its name. -/
  | enter {p : Pool σ ε} {ls : Multiset Loan} {retired : Multiset InstanceId} {id : RecordId}
      {r : PluginRecord} (record : p.records[id]? = some r) :
      Step h ⟨p, .entering id ::ₘ ls, retired⟩ ⟨p.enter r.name id, ls, retired⟩
  /-- The pool is shut down. -/
  | clear {s : Ledger σ ε} :
      Step h s ⟨s.pool.clear, s.loans, (s.pool.idles - s.pool.clear.idles) + s.retired⟩
  /-- Something is noted that no account shows. -/
  | note {s : Ledger σ ε} {p : Pool σ ε} (same : SameAccounts s.pool p) :
      Step h s ⟨p, s.loans, s.retired⟩

/-- Any number of sections of any threads, in any order. -/
abbrev Steps (h : Habit σ ε) : Ledger σ ε → Ledger σ ε → Prop := Relation.ReflTransGen (Step h)

/-- The ledgers that a pool can get to. -/
def Reachable (h : Habit σ ε) (config : PoolConfig) (s : Ledger σ ε) : Prop :=
  Steps h (.empty config) s

end Ledger

end FormatHost
