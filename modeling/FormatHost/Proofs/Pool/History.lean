import FormatHost.Proofs.Pool.Standing
import FormatHost.Proofs.Pool.Tracking
/-!
# The history of a pool

Registering a plugin and shutting the pool down are courses of moves as well, so everything that was
done with a pool, call after call, is one course from the empty pool.
-/
namespace FormatHost

open Ledger

variable {σ ε : Type}

section

variable {engine : Engine σ ε} {s s₀ : Ledger σ ε} {start : Station σ ε} {frames : List Frame}
  {out : Outside ε (Pool σ ε)} {id : RecordId} {r₀ : PluginRecord}

/-- The loading of a plugin is done. -/
theorem Tracked.settle {p : Pool σ ε} {own : Multiset Loan} {m : Option InstanceId}
    {told : Option PluginInfo} {loan : Option Loan}
    (tracked : Tracked (habit engine) s start (frames ++ [⟨none, loan⟩]) p)
    {others : Multiset Loan} (past : Past (habit engine) s₀ others own p) (o : Orderly engine s₀)
    (pristine : s₀.Pristine) (mine : .registering id m told ∈ own)
    (known : s₀.pool.records[id]? = some r₀) {f : PluginRecord → PluginRecord}
    (name : ∀ r, (f r).name = r.name) (crashes : ∀ r, (f r).crashes = r.crashes)
    (usable : ∀ r, (f r).status ≠ .disabled) :
    Tracked (habit engine) s start frames (p.updateRecord id f) := by
  obtain ⟨r, found, -⟩ := past.named known
  obtain ⟨retired, steps⟩ := past.steps
  have loaded := Steps.pristine steps o.balanced pristine id m told r
    (Multiset.mem_add.2 (.inl mine)) found
  exact ⟨tracked.course.tail (.settle found loaded (name r) (crashes r) (usable r)),
    tracked.voiced.keep rfl fun _ _ there => Pool.name_updateRecord (fun x _ => name x) there⟩

/-- The loading of a plugin is done, or there is something in hand for it. -/
def TrackedIntroduced (engine : Engine σ ε) (s : Ledger σ ε) (start : Station σ ε)
    (frames : List Frame) : Except Fault PluginInfo → ε × Pool σ ε → Prop
  | .ok _, x => Tracked (habit engine) s start frames x.2
  | .error _, x => ∃ loan, Tracked (habit engine) s start (frames ++ [⟨none, loan⟩]) x.2

theorem tracked_loadPlugin (heeds : Heeds engine s start out) (o : Orderly engine s₀)
    (pristine : s₀.Pristine) (base : Steps (habit engine) s s₀)
    (known : s₀.pool.records[id]? = some r₀) :
    Ends (fun x =>
      Past (habit engine) s₀ (Frame.loans frames + s.loans) {.registering id none none} x.2 ∧
        Tracked (habit engine) s start
          (frames ++ [⟨none, some (.registering id none none)⟩]) x.2)
      (PoolM.loadPlugin engine out id) (TrackedIntroduced engine s start frames) := by
  have voice : ∀ x, (none : Option String) = some x → x = r₀.name := by rintro x ⟨⟩
  unfold PoolM.loadPlugin
  refine (tracked_createInstance heeds o base known (.registering none)).bind (fun n => ?_)
    fun f x ended => ?_
  swap
  · obtain ⟨m, on⟩ := ended.2
    exact ⟨_, on⟩
  refine (tracked_service heeds o base known voice
    (rfl : (Loan.registering id (some n) none).account = id) rfl .info).bind (fun info => ?_)
    fun f x ended => ⟨_, ended.2⟩
  rintro ⟨e, p⟩ ⟨⟨past, holds⟩, on⟩
  have told : Past (habit engine) s₀ (Frame.loans frames + s.loans)
      {.registering id (some n) (some info)}
      (p.updateRecord id fun r => { r with info := some info }) :=
    past.next (fun retired => ⟨retired, .describe info⟩) fun _ _ _ _ => rfl
  have described := (on.updateRecord id (f := fun r => { r with info := some info })
    fun _ _ => rfl).take (some (.registering id (some n) (some info)))
    (by rintro l ⟨⟩; exact fun _ => rfl)
  have account : (Loan.registering id (some n) (some info)).account = id := rfl
  have configured : Ends (fun x : ε × Pool σ ε =>
      (Past (habit engine) s₀ (Frame.loans frames + s.loans)
        {.registering id (some n) (some info)} x.2 ∧ Holds Ready id n x.2) ∧
        Tracked (habit engine) s start
          (frames ++ [⟨none, some (.registering id (some n) (some info))⟩]) x.2)
      (PoolM.configure out id n) fun r x =>
        Configured engine s₀ (Frame.loans frames + s.loans)
          (.registering id (some n) (some info)) id n r x ∧
          OnCourse engine s start
            (frames ++ [⟨none, some (.registering id (some n) (some info))⟩]) r x :=
    fun x holds => ⟨ends_configure o heeds.discreet account rfl x holds.1,
      tracked_configure heeds o base known voice account rfl x holds⟩
  rw [ending_bind, PoolM.ending_updateRecord]
  refine configured.bind (fun _ => ?_) (fun f x ended => ⟨_, ended.2⟩) (e, _)
    ⟨⟨told, holds _ rfl⟩, described⟩
  rintro ⟨e, q⟩ ⟨⟨past, -⟩, on⟩
  exact on.settle past o pristine (Multiset.mem_singleton_self _) known (fun _ => rfl)
    (fun _ => rfl) fun _ => PluginStatus.noConfusion

/-- A plugin is loaded, or its record says why it could not be, and nothing is in hand for it. -/
theorem tracked_settleLoad (heeds : Heeds engine s start out) (o : Orderly engine s₀)
    (pristine : s₀.Pristine) (base : Steps (habit engine) s s₀)
    (known : s₀.pool.records[id]? = some r₀) :
    Ends (fun x =>
      Past (habit engine) s₀ (Frame.loans frames + s.loans) {.registering id none none} x.2 ∧
        Tracked (habit engine) s start
          (frames ++ [⟨none, some (.registering id none none)⟩]) x.2)
      (PoolM.loadPlugin engine out id) fun r x =>
        Tracked (habit engine) s start frames (settleLoad id r x.2) := by
  intro x holds
  have introduced := ends_loadPlugin o heeds.discreet id x holds.1
  have loaded := tracked_loadPlugin heeds o pristine base known x holds
  revert introduced loaded
  rcases ending (PoolM.loadPlugin engine out id) x with ⟨f | info, y⟩
  · rintro ⟨m, told, past⟩ ⟨loan, on⟩
    exact on.settle past o pristine (Multiset.mem_singleton_self _) known (fun _ => rfl)
      (fun _ => rfl) fun _ => PluginStatus.noConfusion
  · exact fun _ on => on

end

section

variable {engine : Engine σ ε} {s s₁ : Ledger σ ε} {start : Station σ ε}

/-- Registering a plugin, whatever comes of it. -/
theorem tracked_register (o : Orderly engine s₁) (pristine : s₁.Pristine)
    (base : Steps (habit engine) s s₁) (loans : s₁.loans = s.loans) (name : String)
    (moduleBytes : Bytes) (e : ε) (tracked : Tracked (habit engine) s start [] s₁.pool) :
    Tracked (habit engine) s start []
      (ending (PoolM.register engine name moduleBytes) (e, s₁.pool)).2.2 := by
  cases valid : isPluginName name with
  | false =>
    rw [PoolM.ending_register_of_invalid engine valid]
    exact tracked
  | true =>
    obtain ⟨journal, ran⟩ := exists_ending_register engine valid moduleBytes e s₁.pool
    rw [ran]
    -- From here on the record exists, and it is being loaded.
    obtain ⟨made, isMade⟩ : ∃ made : Pool σ ε,
      made = { s₁.pool with records := s₁.pool.records ++ [.fresh name moduleBytes] } := ⟨_, rfl⟩
    obtain ⟨id, isId⟩ : ∃ id, id = s₁.pool.records.length := ⟨_, rfl⟩
    rw [← isMade, ← isId]
    have creation : Ledger.Step (habit engine) s₁
        ⟨made, {.registering id none none} + (Frame.loans [] + s.loans), s₁.retired⟩ := by
      have same : (Frame.loans [] + s.loans : Multiset Loan) = s₁.loans :=
        (zero_add _).trans loans.symm
      rw [same, isMade, isId]
      exact .create name moduleBytes
    have known : made.records[id]? = some (.fresh name moduleBytes) := by simp [isMade, isId]
    have begun : Tracked (habit engine) s start [⟨none, some (.registering id none none)⟩] made := by
      have created : Tracked (habit engine) s start ([] ++ [⟨none, none⟩]) made := by
        rw [isMade]
        exact ⟨tracked.course.tail (.create name moduleBytes), tracked.voiced.keep rfl
          fun _ _ found => ⟨_, (List.getElem?_append_left
            (List.getElem?_eq_some_iff.1 found).1).trans found, rfl⟩⟩
      refine created.take (some (.registering id none none)) ?_
      rintro l ⟨⟩
      exact fun _ => rfl
    have settled := tracked_settleLoad (heeds_around engine s₁.pool.limits) (o.steps (.single creation))
      (creation.pristine o.balanced pristine) (base.tail creation) known (e, made) ⟨.start made, begun⟩
    exact Tracked.notes (p := Pool.enter name id _)
      (settled.account ⟨rfl, rfl, rfl, fun _ => rfl⟩ rfl) journal

end

/-- Everything that was done with a pool is one course from the empty pool. -/
theorem Ran.tracked {engine : Engine σ ε} {config : PoolConfig} {x : ε × Pool σ ε}
    (ran : Ran engine config x) :
    Tracked (habit engine) (.empty config) ⟨[], .empty config⟩ [] x.2 := by
  have balanced : Balanced (habit engine) (.empty config) := .empty config
  induction ran with
  | opened => exact ⟨.refl, fun n id g found => by simp [Pool.empty] at found⟩
  | registered ran name moduleBytes ih =>
    obtain ⟨retired, reachable⟩ := ran.reachable
    exact tracked_register (.of_reachable reachable)
      (Steps.pristine reachable balanced (pristine_empty config)) reachable rfl name moduleBytes _ ih
  | formatted ran path text m ih =>
    obtain ⟨retired, reachable⟩ := ran.reachable
    exact tracked_formatText (.of_reachable reachable) reachable rfl path text m _ ih
  | cleared ran ih =>
    have cleared : Tracked (habit engine) (.empty config) ⟨[], .empty config⟩ [] _ :=
      ih.account (.clear _) rfl
    exact cleared.notes _

end FormatHost
