import FormatHost.Proofs.Pool.Ledger
/-!
# The accounts balance

The invariant of ledgers, and its preservation by every section. Each instance has exactly one stay:
it is idle in one record, in the hand of one thread, or out of use. The count of places that a record
keeps is the number of its instances that are lent or being made.
-/
namespace FormatHost.Ledger
open Pool

variable {σ ε : Type} {h : Habit σ ε}

/-- How often an instance is idle, in hand, or out of use. -/
def stays (s : Ledger σ ε) (n : InstanceId) : Nat :=
  s.pool.idles.count n + s.loans.countP (·.number? = some n) + s.retired.count n

/-- The invariant of ledgers. -/
structure Balanced (h : Habit σ ε) (s : Ledger σ ε) : Prop where
  /-- Every instance has one stay. -/
  stay : ∀ n, s.stays n = if n < s.pool.instances.length then 1 else 0
  /-- The places in use are those of the threads. -/
  inUse : ∀ (id : RecordId) (r : PluginRecord), s.pool.records[id]? = some r →
    r.inUse = ((s.loans.countP (·.charges id) : Nat) : Int)
  /-- No record has more places than the limit. -/
  capacity : ∀ (id : RecordId) (r : PluginRecord), s.pool.records[id]? = some r →
    r.idle.length + r.inUse ≤ s.pool.limits.maxInstances
  /-- Idle instances are healthy and wait at the record that made them. -/
  idle : ∀ (id : RecordId) (r : PluginRecord) (n : InstanceId),
    s.pool.records[id]? = some r → n ∈ r.idle →
    ∃ g, s.pool.instances[n]? = some (id, g) ∧ g.poisoned = false
  /-- Instances in hand were made by the record of the thread's business. -/
  owner : ∀ l ∈ s.loans, ∀ n, l.number? = some n →
    ∃ g, s.pool.instances[n]? = some (l.account, g)
  /-- Threads deal with records that exist. -/
  known : ∀ l ∈ s.loans, l.account < s.pool.records.length
  /-- One thread at most opens a record. -/
  opener : ∀ id, s.loans.countP (·.opens id) ≤ 1
  /-- Nobody borrows from a record that is being opened. -/
  shut : ∀ id, s.loans.countP (·.opens id) = 0 ∨ s.loans.countP (·.charges id) = 0
  /-- While its plugin is being loaded, a record has no idle instance, and says what the plugin has
  told. -/
  blank : ∀ id m told r, .registering id m told ∈ s.loans → s.pool.records[id]? = some r →
    r.idle = [] ∧ r.info = told
  /-- Registered records bear their names and are open to borrowers. -/
  registered : ∀ e ∈ s.pool.registry,
    s.Entered e.2 ∧ ∃ r, s.pool.records[e.2]? = some r ∧ r.name = e.1
  /-- A name stands for one record. -/
  names : (s.pool.registry.map Prod.fst).Nodup
  /-- A record that is neither being loaded nor degraded has passed the tests of loading. -/
  ready : ∀ id r, s.pool.records[id]? = some r → r.status ≠ .degraded →
    (∀ m told, .registering id m told ∉ s.loans) → h.ready s.pool.config r.info

/-- One record changes, and with it some of the loans that concern it. -/
structure Exchange (h : Habit σ ε) (p : Pool σ ε) (id : RecordId) (r : PluginRecord)
    (f : PluginRecord → PluginRecord) (old new rest : Multiset Loan)
    (out : Multiset InstanceId) : Prop where
  found : p.records[id]? = some r
  mine : ∀ l ∈ old, l.account = id
  made : ∀ l ∈ new, l.account = id ∧
    ∀ n, l.number? = some n → ∃ g, p.instances[n]? = some (id, g)
  stay : ∀ n, (f r).idle.count n + new.countP (·.number? = some n) + out.count n =
    r.idle.count n + old.countP (·.number? = some n)
  inUse : (f r).inUse + (old.countP (·.charges id) : Nat) =
    r.inUse + (new.countP (·.charges id) : Nat)
  capacity : r.idle.length + r.inUse ≤ p.limits.maxInstances →
    (f r).idle.length + (f r).inUse ≤ p.limits.maxInstances
  idle : ∀ n ∈ (f r).idle,
    n ∈ r.idle ∨ ∃ g, p.instances[n]? = some (id, g) ∧ g.poisoned = false
  opener : new.countP (·.opens id) ≤ old.countP (·.opens id)
  shut : new.countP (·.charges id) = 0 ∨ (old + rest).countP (·.opens id) = 0 ∨
    0 < old.countP (·.charges id)
  blank : ∀ m told, .registering id m told ∈ new + rest →
    (∀ m told, .registering id m told ∈ old + rest → r.idle = [] ∧ r.info = told) →
    (f r).idle = [] ∧ (f r).info = told
  name : (f r).name = r.name
  ready : (f r).status ≠ .degraded → (∀ m told, .registering id m told ∉ new + rest) →
    (r.status ≠ .degraded → (∀ m told, .registering id m told ∉ old + rest) →
      h.ready p.config r.info) →
    h.ready p.config (f r).info

namespace Loan

theorem account_of_charges {l : Loan} {id : RecordId} (charges : l.charges id = true) :
    l.account = id := by
  cases l <;> simp_all [Loan.account]

theorem account_of_opens {l : Loan} {id : RecordId} (opens : l.opens id = true) :
    l.account = id := by
  cases l <;> simp_all [Loan.account]

variable {ls : Multiset Loan} {id : RecordId}

theorem countP_charges_eq_zero (elsewhere : ∀ l ∈ ls, l.account ≠ id) :
    ls.countP (·.charges id) = 0 := by
  rw [Multiset.countP_eq_zero]
  exact fun l mine charges => elsewhere l mine (account_of_charges charges)

theorem countP_opens_eq_zero (elsewhere : ∀ l ∈ ls, l.account ≠ id) :
    ls.countP (·.opens id) = 0 := by
  rw [Multiset.countP_eq_zero]
  exact fun l mine opens => elsewhere l mine (account_of_opens opens)

end Loan

namespace Exchange

variable {p : Pool σ ε} {id i : RecordId} {r x : PluginRecord} {f : PluginRecord → PluginRecord}
  {old new rest : Multiset Loan} {out : Multiset InstanceId}

/-- The record that changes, or one of the others. -/
theorem of_getElem? (e : Exchange h p id r f old new rest out)
    (found : (p.updateRecord id f).records[i]? = some x) :
    (i = id ∧ x = f r) ∨ (i ≠ id ∧ p.records[i]? = some x) := by
  obtain ⟨same, y, record, changed⟩ | other := of_getElem?_updateRecord found
  · obtain rfl : r = y := Option.some.inj (e.found.symm.trans record)
    exact .inl ⟨same, changed⟩
  · exact .inr other

theorem opens_le (e : Exchange h p id r f old new rest out) (i : RecordId) :
    (new + rest).countP (·.opens i) ≤ (old + rest).countP (·.opens i) := by
  simp only [Multiset.countP_add]
  by_cases same : i = id
  · exact same ▸ Nat.add_le_add_right e.opener _
  · have none : new.countP (·.opens i) = 0 :=
      Loan.countP_opens_eq_zero fun l mine account => same (account.symm.trans (e.made l mine).1)
    omega

theorem charges_eq (e : Exchange h p id r f old new rest out) (other : i ≠ id) :
    (new + rest).countP (·.charges i) = (old + rest).countP (·.charges i) := by
  have left : old.countP (·.charges i) = 0 :=
    Loan.countP_charges_eq_zero fun l mine account => other (account.symm.trans (e.mine l mine))
  have taken : new.countP (·.charges i) = 0 :=
    Loan.countP_charges_eq_zero fun l mine account => other (account.symm.trans (e.made l mine).1)
  simp only [Multiset.countP_add, left, taken]

end Exchange

theorem countP_singleton {α : Type} (q : α → Prop) [DecidablePred q] (a : α) :
    Multiset.countP q {a} = if q a then 1 else 0 := by
  rw [← Multiset.cons_zero, Multiset.countP_cons, Multiset.countP_zero, zero_add]

namespace Balanced

variable {s : Ledger σ ε} {p : Pool σ ε} {ls : Multiset Loan} {retired : Multiset InstanceId}
  {id : RecordId} {n : InstanceId} {r r' : PluginRecord} {g g' : Instance σ ε}

theorem opens_eq_zero (entered : s.Entered id) : s.loans.countP (·.opens id) = 0 := by
  rw [Multiset.countP_eq_zero]
  intro l mine
  simp [entered l mine]

/-- An exchange keeps the accounts balanced. -/
theorem exchange {f : PluginRecord → PluginRecord} {old new rest : Multiset Loan}
    {out : Multiset InstanceId} (e : Exchange h p id r f old new rest out)
    (b : Balanced h ⟨p, old + rest, retired⟩) :
    Balanced h ⟨p.updateRecord id f, new + rest, out + retired⟩ := by
  constructor
  case stay =>
    intro n
    refine Eq.trans ?_ (b.stay n)
    have moved := count_idles_updateRecord e.found f n
    have stay := e.stay n
    simp only [stays, Multiset.countP_add, Multiset.count_add]
    omega
  case inUse =>
    intro i x found
    obtain ⟨rfl, rfl⟩ | ⟨other, found⟩ := e.of_getElem? found
    · have before := b.inUse i r e.found
      have change := e.inUse
      simp only [Multiset.countP_add] at before ⊢
      omega
    · rw [b.inUse i x found, e.charges_eq other]
  case capacity =>
    intro i x found
    obtain ⟨rfl, rfl⟩ | ⟨other, found⟩ := e.of_getElem? found
    · exact e.capacity (b.capacity i r e.found)
    · exact b.capacity i x found
  case idle =>
    intro i x n found waits
    obtain ⟨rfl, rfl⟩ | ⟨other, found⟩ := e.of_getElem? found
    · rcases e.idle n waits with before | new
      · exact b.idle i r n e.found before
      · exact new
    · exact b.idle i x n found waits
  case owner =>
    intro l mine n number
    rcases Multiset.mem_add.1 mine with new | old
    · obtain ⟨rfl, made⟩ := e.made l new
      exact made n number
    · exact b.owner l (Multiset.mem_add.2 (.inr old)) n number
  case known =>
    intro l mine
    rw [length_updateRecord]
    rcases Multiset.mem_add.1 mine with new | old
    · exact (e.made l new).1 ▸ (List.getElem?_eq_some_iff.1 e.found).1
    · exact b.known l (Multiset.mem_add.2 (.inr old))
  case opener => exact fun i => (e.opens_le i).trans (b.opener i)
  case shut =>
    intro i
    have before := b.shut i
    have less := e.opens_le i
    by_cases same : i = id
    · subst same
      have shut := e.shut
      simp only [Multiset.countP_add] at before less shut ⊢
      omega
    · have charges := e.charges_eq same
      simp only at before ⊢
      omega
  case blank =>
    intro i m told x mine found
    obtain ⟨rfl, rfl⟩ | ⟨other, found⟩ := e.of_getElem? found
    · exact e.blank m told mine fun m' told' there => b.blank i m' told' r there e.found
    · rcases Multiset.mem_add.1 mine with new | old
      · exact absurd (e.made _ new).1 other
      · exact b.blank i m told x (Multiset.mem_add.2 (.inr old)) found
  case registered =>
    intro entry registered
    obtain ⟨entered, x, found, name⟩ := b.registered entry registered
    constructor
    · intro l mine
      have none := opens_eq_zero entered
      have less := e.opens_le entry.2
      have still : (new + rest).countP (·.opens entry.2) = 0 := by
        simp only at none
        omega
      simpa using Multiset.countP_eq_zero.1 still l mine
    · by_cases same : entry.2 = id
      · rw [same] at found ⊢
        obtain rfl : r = x := Option.some.inj (e.found.symm.trans found)
        exact ⟨f r, getElem?_updateRecord_self found f, e.name.trans name⟩
      · exact ⟨x, (getElem?_updateRecord_ne p same f).trans found, name⟩
  case names => exact b.names
  case ready =>
    intro i x found usable done
    obtain ⟨rfl, rfl⟩ | ⟨other, found⟩ := e.of_getElem? found
    · exact e.ready usable done (b.ready i r e.found)
    · refine b.ready i x found usable fun m told mine => ?_
      rcases Multiset.mem_add.1 mine with old | rest
      · exact other (e.mine _ old)
      · exact done m told (Multiset.mem_add.2 (.inr rest))

/-- An exchange for nothing is one as well. -/
theorem exchange_zero {f : PluginRecord → PluginRecord} {new : Multiset Loan}
    {out : Multiset InstanceId} (e : Exchange h s.pool id r f 0 new s.loans out) (b : Balanced h s) :
    Balanced h ⟨s.pool.updateRecord id f, new + s.loans, out + s.retired⟩ := by
  have before : Balanced h ⟨s.pool, 0 + s.loans, s.retired⟩ := by rwa [zero_add]
  exact exchange e before

end Balanced

end FormatHost.Ledger
