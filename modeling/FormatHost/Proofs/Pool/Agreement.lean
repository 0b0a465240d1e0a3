import FormatHost.Proofs.Pool.Crashes
/-!
# Status and count of crashes

A plugin that counts as loaded has crashed less often than the limit allows, and the crash that reaches
the limit disables it. The converse has a gap. A success starts the count again whatever the status is,
also the success of a call that began before the plugin was disabled. Then a disabled plugin is left with
a count below the limit.
-/
namespace FormatHost

open Ledger

variable {σ ε : Type}

namespace Ledger

variable {h : Habit σ ε} {config : PoolConfig} {s s' : Ledger σ ε} {id : RecordId} {r : PluginRecord}

/-- A success of the record has been noted while its plugin was disabled. -/
def Absolved (h : Habit σ ε) (config : PoolConfig) (s : Ledger σ ε) (id : RecordId) : Prop :=
  ∃ (a : Ledger σ ε) (r : PluginRecord), Reachable h config a ∧ a.pool.records[id]? = some r ∧
    r.status = .disabled ∧
    Steps h ⟨a.pool.updateRecord id PluginRecord.succeed, a.loans, a.retired⟩ s

theorem Absolved.step (absolved : Absolved h config s id) (st : Step h s s') :
    Absolved h config s' id := by
  obtain ⟨a, r, reachable, found, disabled, steps⟩ := absolved
  exact ⟨a, r, reachable, found, disabled, steps.tail st⟩

/-- The status of a record and its count of crashes, as far as they agree. -/
structure Agrees (h : Habit σ ε) (config : PoolConfig) (s : Ledger σ ε) (id : RecordId)
    (r : PluginRecord) : Prop where
  loaded : r.status = .loaded → r.crashes < config.limits.maxCrashes
  disabled : r.status = .disabled →
    config.limits.maxCrashes ≤ r.crashes ∨ Absolved h config s id

theorem Agrees.fresh (name : String) (moduleBytes : Bytes) :
    Agrees h config s id (.fresh name moduleBytes) :=
  ⟨fun _ => config.limits.one_le_maxCrashes, fun disabled => nomatch disabled⟩

/-- One section keeps status and count in agreement. -/
theorem Agrees.step (agrees : Agrees h config s id r) (reachable : Reachable h config s)
    (st : Step h s s') (found : s.pool.records[id]? = some r) {r' : PluginRecord}
    (recounted : Recounted s s' id r r') : Agrees h config s' id r' := by
  have limits : s.pool.limits = config.limits :=
    congrArg PoolConfig.limits (Steps.config reachable)
  cases recounted with
  | same status crashes =>
    refine ⟨fun loaded => ?_, fun disabled => ?_⟩
    · rw [crashes]
      exact agrees.loaded (status.symm.trans loaded)
    · rw [crashes]
      exact (agrees.disabled (status.symm.trans disabled)).imp_right (·.step st)
  | crashed mine status crashes =>
    rw [limits] at status
    split at status
    next reached =>
      refine ⟨fun loaded => absurd (status.symm.trans loaded) PluginStatus.noConfusion, fun _ => ?_⟩
      exact .inl (by omega)
    next below =>
      refine ⟨fun _ => by omega, fun disabled => ?_⟩
      rcases agrees.disabled (status.symm.trans disabled) with reached | absolved
      · omega
      · exact .inr (absolved.step st)
  | succeeded noted status crashes =>
    refine ⟨fun _ => crashes ▸ config.limits.one_le_maxCrashes, fun disabled => .inr ?_⟩
    exact ⟨s, r, reachable, found, status.symm.trans disabled, noted ▸ .refl⟩
  | opened loading done status crashes =>
    have balanced : Balanced h (.empty config) := .empty config
    have loaded := Steps.pristine reachable balanced (pristine_empty config) _ _ _ _ loading found
    exact ⟨fun _ => crashes ▸ agrees.loaded loaded, fun disabled => absurd disabled status⟩

end Ledger

/-- In every ledger that the threads of a pool can get to, a plugin that counts as loaded has crashed less
often than the limit, and a plugin is disabled with a lower count only where a success has been noted
after it was disabled. -/
theorem status_agrees_of_reachable {h : Habit σ ε} {config : PoolConfig} {s : Ledger σ ε}
    (reachable : Reachable h config s) {id : RecordId} {r : PluginRecord}
    (found : s.pool.records[id]? = some r) : Agrees h config s id r := by
  induction reachable generalizing id r with
  | refl => simp [Ledger.empty, Pool.empty] at found
  | @tail s s' before st ih =>
    cases former : s.pool.records[id]? with
    | none =>
      obtain ⟨name, moduleBytes, rfl⟩ := st.fresh_of_none former found
      exact .fresh name moduleBytes
    | some x =>
      obtain ⟨r', there, recounted⟩ := st.recounted former
      obtain rfl : r = r' := Option.some.inj (found.symm.trans there)
      exact (ih former).step before st former recounted

namespace Script

/-- A plugin that asks the second one at first, and traps when it is called again. -/
def relapsing : Script := { overhanging with format := [asking [102, 46, 98], .trap "boom"] }

/-- A plugin that asks the first one. -/
def recalling : Script := asker "b" [102, 46, 97]

/-- The setup of a pool that disables a plugin at its first crash. -/
def strict : PoolConfig :=
  ⟨⟨2, .zero false, .zero false, 1, 3, Nat.two_pos, Nat.one_pos, Nat.succ_pos 2⟩, [], []⟩

/-- A pool with both plugins. -/
def acquainted : ScriptCounts × Pool ScriptState ScriptCounts := coupled strict relapsing recalling

/-- What a format call of the first plugin leaves, during which the other one asked it again. -/
def relapsed : ScriptCounts × Pool ScriptState ScriptCounts :=
  (ending (PoolM.formatText (double relapsing recalling) "f.a" "x" (ConfigMap.toDatum []))
    acquainted).2

theorem ran_relapsed : Ran (double relapsing recalling) strict relapsed := by
  rw [relapsed]
  exact (ran_coupled strict relapsing recalling).formatted "f.a" "x" []

theorem record_relapsed :
    ∃ r : PluginRecord, relapsed.2.records[0]? = some r ∧ r.status = .disabled ∧ r.crashes = 0 := by
  have evaluated : relapsed.2.records[0]?.map (fun r : PluginRecord => (r.status, r.crashes)) =
      some (.disabled, 0) := by decide +kernel
  obtain ⟨r, found, both⟩ := Option.map_eq_some_iff.1 evaluated
  exact ⟨r, found, (Prod.mk.inj both).1, (Prod.mk.inj both).2⟩

end Script

open Script

/-- The general statement for the relapsed plugin: a success was noted after it was disabled. -/
theorem status_agrees_of_relapsed :
    ∃ retired, Reachable (habit (double relapsing recalling)) strict ⟨relapsed.2, 0, retired⟩ ∧
      Absolved (habit (double relapsing recalling)) strict ⟨relapsed.2, 0, retired⟩ 0 := by
  -- The pool stands for itself, so that nothing evaluates it again.
  have general (x : ScriptCounts × Pool ScriptState ScriptCounts)
      (ran : Ran (double relapsing recalling) strict x) (r : PluginRecord)
      (found : x.2.records[0]? = some r) (disabled : r.status = .disabled) (none : r.crashes = 0) :
      ∃ retired, Reachable (habit (double relapsing recalling)) strict ⟨x.2, 0, retired⟩ ∧
        Absolved (habit (double relapsing recalling)) strict ⟨x.2, 0, retired⟩ 0 := by
    obtain ⟨retired, reachable⟩ := ran.reachable
    refine ⟨retired, reachable, ?_⟩
    rcases (status_agrees_of_reachable reachable found).disabled disabled with reached | absolved
    · rw [none] at reached
      exact absurd reached (by decide)
    · exact absolved
  obtain ⟨r, found, disabled, none⟩ := record_relapsed
  exact general relapsed ran_relapsed r found disabled none

/-- A plugin that crashes during its own call is disabled with no crash to its count, once the call has
succeeded. -/
theorem relapsed_disabled_without_crashes :
    Ran (double relapsing recalling) strict relapsed ∧
      ∃ r : PluginRecord, relapsed.2.records[0]? = some r ∧ r.status = .disabled ∧
        r.crashes = 0 ∧ r.crashes < strict.limits.maxCrashes := by
  obtain ⟨r, found, disabled, none⟩ := record_relapsed
  exact ⟨ran_relapsed, r, found, disabled, none, by rw [none]; decide⟩

end FormatHost
