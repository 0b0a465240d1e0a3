import FormatHost.Proofs.Pool.Accounts
/-!
# What is known of a plugin

A plugin counts as loaded while it is being loaded. From then on its status changes at crashes only, and
a plugin that is disabled stays so for good, whichever threads go on with the pool.
-/
namespace FormatHost

open Ledger

variable {σ ε : Type}

namespace Ledger

variable {h : Habit σ ε} {s s' : Ledger σ ε} {id : RecordId} {r : PluginRecord}

/-- What a section makes of a record's status and count of crashes: they stay, or a lent instance crashed,
or a success was noted, or the loading of the plugin has come to its end. -/
inductive Recounted (s s' : Ledger σ ε) (id : RecordId) (r : PluginRecord) : PluginRecord → Prop
  | same {r' : PluginRecord} (status : r'.status = r.status) (crashes : r'.crashes = r.crashes) :
      Recounted s s' id r r'
  | crashed {r' : PluginRecord} {n : InstanceId} (mine : .lent id n ∈ s.loans)
      (status : r'.status =
        if s.pool.limits.maxCrashes ≤ r.crashes + 1 then .disabled else r.status)
      (crashes : r'.crashes = r.crashes + 1) : Recounted s s' id r r'
  | succeeded {r' : PluginRecord}
      (noted : s' = ⟨s.pool.updateRecord id PluginRecord.succeed, s.loans, s.retired⟩)
      (status : r'.status = r.status) (crashes : r'.crashes = 0) : Recounted s s' id r r'
  | opened {r' : PluginRecord} {m : Option InstanceId} {told : Option PluginInfo}
      (loading : .registering id m told ∈ s.loans) (done : .entering id ∈ s'.loans)
      (status : r'.status ≠ .disabled) (crashes : r'.crashes = r.crashes) : Recounted s s' id r r'

theorem Recounted.updateRecord {i : RecordId} {f : PluginRecord → PluginRecord}
    (found : s.pool.records[id]? = some r) (changed : i = id → Recounted s s' id r (f r)) :
    ∃ r', (s.pool.updateRecord i f).records[id]? = some r' ∧ Recounted s s' id r r' := by
  by_cases same : id = i
  · subst same
    exact ⟨f r, Pool.getElem?_updateRecord_self found f, changed rfl⟩
  · exact ⟨r, (Pool.getElem?_updateRecord_ne _ same f).trans found, .same rfl rfl⟩

theorem Step.recounted (st : Step h s s') (found : s.pool.records[id]? = some r) :
    ∃ r', s'.pool.records[id]? = some r' ∧ Recounted s s' id r r' := by
  cases st with
  | pop entered found' lease =>
    obtain ⟨-, rest, last, rfl⟩ := PluginRecord.lease_eq_popped_iff.1 lease
    refine Recounted.updateRecord found ?_
    rintro rfl
    obtain rfl := Option.some.inj (found'.symm.trans found)
    exact .same rfl rfl
  | reserve entered found' lease =>
    obtain ⟨-, empty, room, rfl⟩ := PluginRecord.lease_eq_reserved_iff.1 lease
    refine Recounted.updateRecord found ?_
    rintro rfl
    obtain rfl := Option.some.inj (found'.symm.trans found)
    exact .same rfl rfl
  | @crash _ _ _ _ reason mine =>
    refine Recounted.updateRecord found ?_
    rintro rfl
    exact .crashed mine (PluginRecord.status_crash _ reason r) (PluginRecord.crashes_crash _ reason r)
  | succeed =>
    refine Recounted.updateRecord found ?_
    rintro rfl
    exact .succeeded rfl rfl rfl
  | accept | reject =>
    refine Recounted.updateRecord found ?_
    rintro rfl
    exact .opened (Multiset.mem_cons_self _ _) (Multiset.mem_cons_self _ _) PluginStatus.noConfusion
      rfl
  | count | abandon | release | describe =>
    exact Recounted.updateRecord found fun _ => .same rfl rfl
  | create =>
    exact ⟨r, (List.getElem?_append_left (List.getElem?_eq_some_iff.1 found).1).trans found,
      .same rfl rfl⟩
  | clear =>
    obtain ⟨idle, there⟩ := Pool.exists_getElem?_clear found
    exact ⟨_, there, .same rfl rfl⟩
  | note same => exact ⟨r, same.records ▸ found, .same rfl rfl⟩
  | load | drive | lend | loadFirst | enter => exact ⟨r, found, .same rfl rfl⟩

/-- A record that was not there is a new one. -/
theorem Step.fresh_of_none (st : Step h s s') {r' : PluginRecord} (none : s.pool.records[id]? = none)
    (found : s'.pool.records[id]? = some r') : ∃ name moduleBytes, r' = .fresh name moduleBytes := by
  have beyond := List.getElem?_eq_none_iff.1 none
  have known := (List.getElem?_eq_some_iff.1 found).1
  cases st with
  | create name moduleBytes =>
    rw [List.length_append, List.length_singleton] at known
    obtain rfl : id = s.pool.records.length := Nat.le_antisymm (Nat.le_of_lt_succ known) beyond
    exact ⟨name, moduleBytes, by simpa using found.symm⟩
  | pop | reserve | count | abandon | release | crash | succeed | describe | accept | reject =>
    rw [Pool.length_updateRecord] at known
    exact absurd known (Nat.not_lt.2 beyond)
  | clear =>
    rw [Pool.length_clear] at known
    exact absurd known (Nat.not_lt.2 beyond)
  | note same =>
    rw [same.records] at known
    exact absurd known (Nat.not_lt.2 beyond)
  | load | drive | lend | loadFirst | enter => exact absurd known (Nat.not_lt.2 beyond)

/-- What a section makes of a record: its status stays, or a lent instance crashed and the plugin is
disabled, or the loading of the plugin has come to its end. -/
inductive Restated (s s' : Ledger σ ε) (id : RecordId) (r : PluginRecord) : PluginRecord → Prop
  | same {r' : PluginRecord} (status : r'.status = r.status) : Restated s s' id r r'
  | disabled {r' : PluginRecord} {n : InstanceId} (mine : .lent id n ∈ s.loans)
      (status : r'.status = .disabled) : Restated s s' id r r'
  | opened {r' : PluginRecord} {m : Option InstanceId} {told : Option PluginInfo}
      (loading : .registering id m told ∈ s.loans) (done : .entering id ∈ s'.loans)
      (status : r'.status ≠ .disabled) : Restated s s' id r r'

theorem Step.restated (st : Step h s s') (found : s.pool.records[id]? = some r) :
    ∃ r', s'.pool.records[id]? = some r' ∧ Restated s s' id r r' := by
  obtain ⟨r', found', recounted⟩ := st.recounted found
  refine ⟨r', found', ?_⟩
  cases recounted with
  | same status => exact .same status
  | crashed mine status =>
    split at status
    · exact .disabled mine status
    · exact .same status
  | succeeded _ status => exact .same status
  | opened loading done status => exact .opened loading done status

/-- A record that is being loaded has just been made, or it was being loaded before. -/
theorem Step.registering {m : Option InstanceId} {told : Option PluginInfo} (st : Step h s s')
    (loading : .registering id m told ∈ s'.loans) :
    (∃ m told, .registering id m told ∈ s.loans) ∨
      ∃ name moduleBytes, s'.pool.records[id]? = some (.fresh name moduleBytes) := by
  cases st with
  | create name moduleBytes =>
    rcases Multiset.mem_cons.1 loading with new | old
    · cases new
      exact .inr ⟨name, moduleBytes, by simp⟩
    · exact .inl ⟨m, told, old⟩
  | loadFirst | describe =>
    rcases Multiset.mem_cons.1 loading with same | other
    · cases same
      exact .inl ⟨_, _, Multiset.mem_cons_self _ _⟩
    · exact .inl ⟨m, told, Multiset.mem_cons_of_mem other⟩
  | pop | reserve => exact .inl ⟨m, told, by simpa using loading⟩
  | load | lend | abandon | release | accept | reject | enter =>
    exact .inl ⟨m, told, Multiset.mem_cons_of_mem (by simpa using loading)⟩
  | drive | count | crash | succeed | clear | note => exact .inl ⟨m, told, loading⟩

/-- Plugins that are being loaded count as loaded. -/
def Pristine (s : Ledger σ ε) : Prop :=
  ∀ id m told r, .registering id m told ∈ s.loans → s.pool.records[id]? = some r → r.status = .loaded

theorem Step.pristine (st : Step h s s') (b : Balanced h s) (pristine : s.Pristine) :
    s'.Pristine := by
  intro id m told r' loading found'
  obtain ⟨m₀, told₀, before⟩ | ⟨name, moduleBytes, fresh⟩ := st.registering loading
  · have opens : 0 < s.loans.countP (·.opens id) := Multiset.countP_pos_of_mem before (by simp)
    have known : id < s.pool.records.length := b.known _ before
    have found := List.getElem?_eq_getElem known
    obtain ⟨x, there, restated⟩ := st.restated found
    obtain rfl : r' = x := Option.some.inj (found'.symm.trans there)
    cases restated with
    | same status => exact status.trans (pristine id m₀ told₀ _ before found)
    | disabled mine =>
      -- Nobody has an instance of a record that is being opened.
      have charges : 0 < s.loans.countP (·.charges id) := Multiset.countP_pos_of_mem mine (by simp)
      rcases b.shut id with none | none <;> omega
    | opened _ done =>
      -- No record is opened twice.
      have two : 2 ≤ s'.loans.countP (·.opens id) := by
        obtain ⟨rest, loans⟩ := Multiset.exists_cons_of_mem loading
        have still : Loan.entering id ∈ rest := by
          rw [loans] at done
          simpa using done
        have one : 0 < rest.countP (·.opens id) := Multiset.countP_pos_of_mem still (by simp)
        rw [loans, Multiset.countP_cons_of_pos _ (by simp)]
        omega
      have once := (b.steps (.single st)).opener id
      omega
  · rw [Option.some.inj (found'.symm.trans fresh)]
    rfl

theorem Steps.pristine (st : Steps h s s') (b : Balanced h s) (pristine : s.Pristine) :
    s'.Pristine := by
  induction st with
  | refl => exact pristine
  | tail before st ih => exact st.pristine (b.steps before) ih

theorem pristine_empty (config : PoolConfig) : (empty config : Ledger σ ε).Pristine := by
  intro id m told r loading
  simp [empty] at loading

/-- A disabled plugin stays disabled. -/
theorem Steps.disabled (st : Steps h s s') (b : Balanced h s) (pristine : s.Pristine)
    (found : s.pool.records[id]? = some r) (status : r.status = .disabled) :
    ∃ r', s'.pool.records[id]? = some r' ∧ r'.status = .disabled := by
  induction st with
  | refl => exact ⟨r, found, status⟩
  | tail before st ih =>
    obtain ⟨x, there, disabled⟩ := ih
    obtain ⟨r', found', restated⟩ := st.restated there
    refine ⟨r', found', ?_⟩
    cases restated with
    | same same => exact same.trans disabled
    | disabled _ now => exact now
    | opened loading =>
      have loaded := Steps.pristine before b pristine _ _ _ _ loading there
      exact absurd (loaded.symm.trans disabled) PluginStatus.noConfusion

end Ledger

end FormatHost
