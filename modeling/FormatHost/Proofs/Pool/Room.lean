import FormatHost.Proofs.Pool.Nesting
/-!
# Room for one more instance

The thread of a call has one instance in hand for each active plugin at most, and no plugin stands right
behind itself in the chain, so at most half of the chain is one plugin. Where the chain may be no longer
than twice the number of instances that a plugin may have, a borrower never finds all of them lent.
-/
namespace FormatHost

open Ledger

variable {σ ε : Type}

/-- Where nothing stands right behind itself, no more than every other place is taken by one thing. -/
theorem two_mul_count_le {α : Type} [DecidableEq α] {l : List α} (apart : l.IsChain (· ≠ ·)) (a : α) :
    2 * l.count a ≤ l.length + 1 ∧ (l.head? ≠ some a → 2 * l.count a ≤ l.length) := by
  induction l with
  | nil => simp
  | cons b rest ih =>
    obtain ⟨any, later⟩ := ih apart.tail
    by_cases same : b = a
    · subst same
      have other : rest.head? ≠ some b := fun first =>
        (List.isChain_cons.1 apart).1 b first rfl
      have fewer := later other
      simp only [List.count_cons_self, List.length_cons, List.head?_cons, ne_eq, not_true_eq_false,
        false_implies, and_true]
      omega
    · have fewer := any
      simp only [List.count_cons_of_ne same, List.length_cons]
      omega

/-- A record has no more places taken by the work of a thread than its name is in the chain. -/
theorem Frame.countP_charges_le {p : Pool σ ε} {id : RecordId} {r : PluginRecord}
    (found : p.records[id]? = some r) {frames : List Frame}
    (fits : ∀ f ∈ frames, ∀ l, f.loan = some l → Fits p f.name l) :
    (loans frames).countP (·.charges id) ≤ (names frames).count r.name := by
  induction frames with
  | nil => simp [loans]
  | cons f rest ih =>
    have later := ih fun g here => fits g (List.mem_cons_of_mem f here)
    have first := fits f List.mem_cons_self
    simp only [loans, Multiset.coe_countP] at later ⊢
    cases loan : f.loan with
    | none =>
      cases name : f.name with
      | none => simpa [names, loan, name] using later
      | some x =>
        simp only [names, List.filterMap_cons, loan, name, List.count_cons] at later ⊢
        omega
    | some l =>
      have fit := first l loan
      cases name : f.name with
      | none =>
        rw [name] at fit
        simpa [names, loan, name, fit id] using later
      | some x =>
        rw [name] at fit
        obtain ⟨r', found', same⟩ := fit
        simp only [names, List.filterMap_cons, loan, name, List.count_cons, List.countP_cons]
          at later ⊢
        by_cases charges : l.charges id = true
        · obtain rfl := Loan.account_of_charges charges
          obtain rfl := Option.some.inj (found.symm.trans found')
          rw [if_pos (by simpa using charges), if_pos (by simp [same])]
          omega
        · rw [if_neg (by simpa using charges)]
          exact later.trans (Nat.le_add_right _ _)

/-- Where a thread is alone, there is room for one more instance of the innermost plugin. -/
theorem Upright.room {engine : Engine σ ε} {s : Ledger σ ε} {limit : Nat} {frames : List Frame}
    {p : Pool σ ε} {id : RecordId} {r : PluginRecord}
    (upright : Upright limit ⟨frames ++ [⟨some r.name, none⟩], p⟩) (o : Orderly engine s)
    (alone : s.loans = 0) (room : limit ≤ 2 * s.pool.limits.maxInstances)
    (known : Known (habit engine) s (frames ++ [⟨some r.name, none⟩]) p)
    (found : p.records[id]? = some r) : r.lease p.limits.maxInstances ≠ .exhausted := by
  intro lease
  obtain ⟨retired, steps⟩ := known
  obtain ⟨-, -, full⟩ := PluginRecord.lease_eq_exhausted_iff.1 lease
  have inUse := (o.steps steps).balanced.inUse id r found
  have limits : p.limits = s.pool.limits := congrArg PoolConfig.limits (Steps.config steps)
  have places := Frame.countP_charges_le found fun f here =>
    upright.fits f (List.mem_append_left [⟨some r.name, none⟩] here)
  have half := (two_mul_count_le upright.apart r.name).1
  have depth := upright.depth
  have outer : (Frame.names (frames ++ [⟨some r.name, none⟩])).count r.name =
      (Frame.names frames).count r.name + 1 := by
    simp [Frame.names_concat]
  have mine : Frame.loans (frames ++ [⟨some r.name, none⟩]) = Frame.loans frames := by
    simp [Frame.loans_concat]
  simp only [mine, outer, alone, add_zero] at half depth inUse
  rw [limits] at full
  omega

/-! ### Borrowers that find no instance -/

/-- A computation fails because all instances of a plugin are lent. -/
def Starved {α : Type} (r : Except Fault α) : Prop :=
  ∃ plugin timeout lent limit, r = .error (.exhausted plugin timeout lent limit)

theorem Starved.error {α β : Type} {f : Fault} (starved : Starved (.error f : Except Fault α)) :
    Starved (.error f : Except Fault β) := by
  obtain ⟨plugin, timeout, lent, limit, failed⟩ := starved
  exact ⟨plugin, timeout, lent, limit, congrArg Except.error (Except.error.inj failed)⟩

theorem not_starved_ok {α : Type} (a : α) : ¬Starved (.ok a : Except Fault α) := by
  rintro ⟨plugin, timeout, lent, limit, failed⟩
  exact absurd failed (by simp)

/-- Other faults are none of want. -/
theorem not_starved_of_kind {α : Type} {f : Fault} (kind : f.kind ≠ .unavailable) :
    ¬Starved (.error f : Except Fault α) := by
  rintro ⟨plugin, timeout, lent, limit, failed⟩
  rw [Except.error.inj failed] at kind
  exact kind rfl

section

variable {engine : Engine σ ε} {out : Outside ε (Pool σ ε)} {id : RecordId}

/-- A failure to make an instance is reported as such, whatever its reason. -/
theorem not_starved_fillPlace (engine : Engine σ ε) (out : Outside ε (Pool σ ε)) (id : RecordId)
    (x : ε × Pool σ ε) :
    ¬Starved (ending (PoolM.fillPlace engine out id) x).1 := by
  rw [PoolM.ending_fillPlace]
  rcases ending (PoolM.newInstance engine out id) x with ⟨f | n, e, p⟩
  · simp only
    cases found : (p.updateRecord id PluginRecord.abandon).records[id]? with
    | none =>
      rw [ending_bind_of_error (PoolM.ending_record_of_none found)]
      exact not_starved_of_kind (by decide)
    | some r =>
      rw [ending_bind_of_ok (PoolM.ending_record found), ending_throw]
      split
      · rintro ⟨plugin, timeout, lent, limit, failed⟩
        exact absurd (Except.error.inj failed) Fault.noConfusion
      next undeclared =>
        rintro ⟨plugin, timeout, lent, limit, failed⟩
        rw [Except.error.inj failed] at undeclared
        exact undeclared rfl
  · exact not_starved_ok n

/-- A borrower fails for want of an instance exactly if all that there may be are lent, and then the
event is noted. -/
theorem starved_acquire_iff (engine : Engine σ ε) (out : Outside ε (Pool σ ε)) (e : ε) {p : Pool σ ε}
    {r : PluginRecord} (found : p.records[id]? = some r) :
    (Starved (ending (PoolM.acquire engine out id) (e, p)).1 ↔
      r.lease p.limits.maxInstances = .exhausted) ∧
    (Starved (ending (PoolM.acquire engine out id) (e, p)).1 →
      (ending (PoolM.acquire engine out id) (e, p)).2.2.events = .exhausted id :: p.events) := by
  rw [PoolM.ending_acquire engine out found]
  cases r.lease p.limits.maxInstances with
  | refused =>
    have other : ¬Starved (.error (.disabled r.name r.error) : Except Fault InstanceId) := by
      rintro ⟨plugin, timeout, lent, limit, failed⟩
      exact absurd (Except.error.inj failed) Fault.noConfusion
    exact ⟨⟨fun starved => absurd starved other, Lease.noConfusion⟩,
      fun starved => absurd starved other⟩
  | popped n r' =>
    have other := not_starved_ok n
    exact ⟨⟨fun starved => absurd starved other, Lease.noConfusion⟩,
      fun starved => absurd starved other⟩
  | reserved r' =>
    have other := not_starved_fillPlace engine out id (e, p.updateRecord id fun _ => r')
    exact ⟨⟨fun starved => absurd starved other, Lease.noConfusion⟩,
      fun starved => absurd starved other⟩
  | exhausted => exact ⟨⟨fun _ => rfl, fun _ => ⟨_, _, _, _, rfl⟩⟩, fun _ => rfl⟩

/-- A call on a lent instance fails for other reasons only. -/
theorem Settlement.not_starved {m : ConfigMap} {n : InstanceId} {q p : Pool σ ε}
    {answer r : Except Fault (Option String)} (settled : Settlement m id n q p answer r) :
    ¬Starved r := by
  cases settled with
  | answered => exact not_starved_ok _
  | crashed => exact not_starved_of_kind FaultKind.noConfusion
  | refused reason =>
    exact not_starved_of_kind fun same => absurd reason.kind (same ▸ by decide)

/-- What a computation that fails for want of an instance leaves behind. -/
def Admits {α : Type} (r : Except Fault α) (x : ε × Pool σ ε) : Prop :=
  Starved r → ∃ id, .exhausted id ∈ x.2.events

theorem admits_borrowing {s₀ : Ledger σ ε} {others : Multiset Loan} (o : Orderly engine s₀)
    (discreet : Discreet engine out) (usable : s₀.Usable id) (path text : String) (m : ConfigMap) :
    Ends (fun x => Past (habit engine) s₀ others 0 x.2)
      (PoolM.borrowing engine out id (PoolM.formatLent out id path text m.toDatum)) Admits := by
  have acquired : Ends (fun x => Past (habit engine) s₀ others 0 x.2)
      (PoolM.acquire engine out id) fun r x => Borrowed engine s₀ others id r x ∧ Admits r x := by
    refine fun x past => ⟨ends_acquire o discreet usable x past, fun starved => ⟨id, ?_⟩⟩
    obtain ⟨retired, -, r, found, -⟩ := past.usable usable
    rw [(starved_acquire_iff engine out x.1 found).2 starved]
    exact List.mem_cons_self
  refine acquired.bind (fun n => ?_) fun f x ended starved => ended.2 starved.error
  rintro x ⟨⟨past, holds⟩, -⟩ starved
  exact absurd starved (settlement_of_lent o discreet usable path text m past holds.loose).2.not_starved

theorem admits_entering {s₀ : Ledger σ ε} {others : Multiset Loan} {use : PoolM σ ε (Option String)}
    (plugin : String) (admits : Ends (fun x => Past (habit engine) s₀ others 0 x.2) use Admits) :
    Ends (fun x => Past (habit engine) s₀ others 0 x.2) (PoolM.entering plugin use) Admits := by
  rintro ⟨e, p⟩ past
  rcases entered : p.chain.enter plugin with f | chain
  · rw [PoolM.ending_entering_of_error entered, CallChain.eq_of_enter_eq_error entered]
    exact fun starved => absurd starved (not_starved_of_kind FaultKind.noConfusion)
  · rw [PoolM.ending_entering_of_ok entered]
    exact admits (e, { p with chain }) (past.notes ⟨rfl, rfl, rfl, rfl⟩)

theorem admits_formatWith {s₀ : Ledger σ ε} {others : Multiset Loan} (o : Orderly engine s₀)
    (discreet : Discreet engine out) (usable : s₀.Usable id) (path text : String) (m : ConfigMap) :
    Ends (fun x => Past (habit engine) s₀ others 0 x.2)
      (PoolM.formatWith engine out id path text m.toDatum) Admits := by
  rintro ⟨e, p⟩ past
  obtain ⟨retired, -, r, found, -⟩ := past.usable usable
  have admits := admits_entering r.name (admits_borrowing o discreet usable path text m) (e, p) past
  rw [PoolM.ending_formatWith engine found, ending_bind]
  revert admits
  rcases ending (PoolM.entering r.name _) (e, p) with ⟨f | v, y⟩
  · exact fun admits => admits
  · exact fun _ starved => absurd starved (not_starved_ok v)

theorem admits_formatText {s₀ : Ledger σ ε} (o : Orderly engine s₀) (path text : String)
    (m : ConfigMap) (e : ε) :
    Admits (ending (PoolM.formatText engine path text m.toDatum) (e, s₀.pool)).1
      (ending (PoolM.formatText engine path text m.toDatum) (e, s₀.pool)).2 := by
  rcases resolved : s₀.pool.resolve path with _ | ⟨id, r⟩
  · rw [PoolM.ending_formatText_of_none resolved]
    exact fun starved => absurd starved (not_starved_of_kind FaultKind.noConfusion)
  · rw [PoolM.ending_formatText_of_resolve resolved]
    exact admits_formatWith o (discreet_around engine s₀.pool.limits)
      (o.balanced.usable_of_resolve resolved) path text m (e, s₀.pool) (.refl s₀)

end

/-- Where the chain may be no longer than twice the number of instances of a plugin, nobody ever finds
all instances of a record lent, in any sequence of calls: no such event is noted, and no format call
fails for want of an instance. A borrower that fails so has found all instances lent, and would have
noted the event. -/
theorem never_exhausted {engine : Engine σ ε} {config : PoolConfig} {x : ε × Pool σ ε}
    (ran : Ran engine config x) (room : config.limits.maxDepth ≤ 2 * config.limits.maxInstances) :
    (∀ id, .exhausted id ∉ x.2.events) ∧
    (∀ (path text : String) (m : ConfigMap),
      ¬Starved (ending (PoolM.formatText engine path text m.toDatum) x).1) ∧
    ∀ (out : Outside ε (Pool σ ε)) (id : RecordId) (e : ε) (p : Pool σ ε) (r : PluginRecord),
      p.records[id]? = some r →
      (Starved (ending (PoolM.acquire engine out id) (e, p)).1 ↔
        r.lease p.limits.maxInstances = .exhausted) ∧
      (Starved (ending (PoolM.acquire engine out id) (e, p)).1 →
        (ending (PoolM.acquire engine out id) (e, p)).2.2.events = .exhausted id :: p.events) := by
  have roomy {x : ε × Pool σ ε} (ran : Ran engine config x) (id : RecordId) :
      .exhausted id ∉ x.2.events := by
    intro here
    obtain ⟨newer, older, events⟩ := List.append_of_mem here
    have start : Upright config.limits.maxDepth (⟨[], .empty config⟩ : Station σ ε) :=
      upright_of_idle (CallChain.empty_maxDepth config.limits)
    obtain ⟨st, course, -, cause⟩ := Course.cause ran.tracked.course
      ⟨newer, events.symm⟩ List.nil_suffix
    have upright := Course.upright course start
    cases cause with
    | exhausted known found lease =>
      exact upright.room (.of_reachable .refl) rfl room known found lease
  refine ⟨roomy ran, fun path text m starved => ?_, fun out id e p r found =>
    starved_acquire_iff engine out e found⟩
  obtain ⟨retired, reachable⟩ := ran.reachable
  obtain ⟨id, here⟩ := admits_formatText (.of_reachable reachable) path text m x.1 starved
  exact roomy (ran.formatted path text m) id here

open Script

/-- The general statement for two plugins that ask each other until the chain is full, with two instances
each: the call before has come to the second instance of the second plugin. -/
theorem never_exhausted_twinned :
    Ran askers twoDeep toAndFro.2 ∧ twoDeep.limits.maxDepth ≤ 2 * twoDeep.limits.maxInstances ∧
      (∃ newer older,
        toAndFro.2.2.events = newer ++ .formatting 1 3 ["aa", "bb", "aa", "bb"] :: older) ∧
      (∀ id, .exhausted id ∉ toAndFro.2.2.events) ∧
      ¬Starved (ending (PoolM.formatText askers "f.b" "x" (ConfigMap.toDatum [])) toAndFro.2).1 ∧
      ∀ (out : Outside ScriptCounts (Pool ScriptState ScriptCounts)) (e : ScriptCounts)
        (r : PluginRecord), toAndFro.2.2.records[1]? = some r →
          (Starved (ending (PoolM.acquire askers out 1) (e, toAndFro.2.2)).1 ↔
            r.lease toAndFro.2.2.limits.maxInstances = .exhausted) := by
  have ran : Ran askers twoDeep toAndFro.2 := ran_twinned.formatted "f.a" "x" []
  have room : twoDeep.limits.maxDepth ≤ 2 * twoDeep.limits.maxInstances := by decide
  obtain ⟨roomy, fed, starved⟩ := never_exhausted ran room
  exact ⟨ran, room, exists_events_toAndFro, roomy, fed "f.b" "x" [],
    fun out e r found => (starved out 1 e toAndFro.2.2 r found).1⟩

end FormatHost
