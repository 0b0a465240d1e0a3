import FormatHost.Proofs.Pool.Course
/-!
# Functions of a pool as courses

Every function of a pool is a course of moves of its thread. What the guests ask for on the way is part
of the course, because their requests are heard in the names of the plugins that are active.
-/
namespace FormatHost

open Ledger

variable {σ ε α : Type}

/-- A service is heard in the name of the plugin only. -/
theorem Service.heard {out : Outside ε (Pool σ ε)} {call : GuestM σ ε (Pool σ ε) α}
    (service : Service out call) {name : String} {W : Pool σ ε → Prop} (hears : out.Hears name W) :
    Ends (Heard name W) call fun _ => Heard name W := by
  have level := inStep_twin (σ := σ) hears
  cases service with
  | schema => exact level.checkSchema.heard
  | info => exact level.pluginInfo.heard
  | configure global plugin => exact (level.setConfig global plugin).heard
  | diagnose => exact level.configDiagnostics.heard
  | format path text override => exact hears_formatText hears path text override

/-- The innermost work waits for an instance in hand, and its plugin is the one that asks. -/
def Answerable (frames : List Frame) (caller : String) : Prop :=
  ∀ f, frames.getLast? = some f → f.loan.isSome ∧ ∀ name, f.name = some name → name = caller

/-- Whatever guests ask for in the names of their plugins keeps a thread on its course. -/
structure Heeds (engine : Engine σ ε) (s : Ledger σ ε) (start : Station σ ε)
    (out : Outside ε (Pool σ ε)) : Prop where
  discreet : Discreet engine out
  ask : ∀ (s₁ : Ledger σ ε) (frames : List Frame) (request : Request) (e : ε),
    Orderly engine s₁ → Steps (habit engine) s s₁ → s₁.loans = Frame.loans frames + s.loans →
    Answerable frames request.caller → Tracked (habit engine) s start frames s₁.pool →
    Tracked (habit engine) s start frames ((out.ask request).run (e, s₁.pool)).2.2
  pause : ∀ (frames : List Frame) (e : ε) (p : Pool σ ε),
    Tracked (habit engine) s start frames p →
    Tracked (habit engine) s start frames (out.pause.run (e, p)).2.2

/-- What is made for a place of a record of an active plugin, or for a new record. -/
inductive MadeUnder (id : RecordId) (name : String) :
    (Option InstanceId → Loan) → Option String → Prop
  | making : MadeUnder id name (.making id) (some name)
  | registering (told : Option PluginInfo) : MadeUnder id name (.registering id · told) none

theorem MadeUnder.kind {id : RecordId} {name : String} {loan : Option InstanceId → Loan}
    {active : Option String} (under : MadeUnder id name loan active) :
    loan = .making id ∨ ∃ told, loan = (.registering id · told) := by
  cases under with
  | making => exact .inl rfl
  | registering told => exact .inr ⟨told, rfl⟩

theorem MadeUnder.account {id : RecordId} {name : String} {loan : Option InstanceId → Loan}
    {active : Option String} (under : MadeUnder id name loan active) (m : Option InstanceId) :
    (loan m).account = id ∧ (loan m).number? = m := by
  cases under <;> exact ⟨rfl, rfl⟩

theorem MadeUnder.fits {id : RecordId} {name : String} {loan : Option InstanceId → Loan}
    {active : Option String} (under : MadeUnder id name loan active) {p : Pool σ ε}
    {r : PluginRecord} (found : p.records[id]? = some r) (same : r.name = name)
    (m : Option InstanceId) : Frame.Fits p active (loan m) := by
  cases under with
  | making => exact ⟨r, found, same⟩
  | registering told => exact fun _ => rfl

section

variable {engine : Engine σ ε} {s s₀ : Ledger σ ε} {start : Station σ ε} {frames : List Frame}
  {out : Outside ε (Pool σ ε)} {own : Multiset Loan} {id : RecordId} {r₀ : PluginRecord}
  {active : Option String}

/-- A record that was there when the thread came is still there, with its name. -/
theorem Past.named {h : Habit σ ε} {others : Multiset Loan} {p : Pool σ ε}
    (past : Past h s₀ others own p) (known : s₀.pool.records[id]? = some r₀) :
    ∃ r, p.records[id]? = some r ∧ r.name = r₀.name := by
  obtain ⟨retired, steps⟩ := past.steps
  exact Steps.name steps known

/-- Requests in the name of the active plugin keep the thread on its course. -/
theorem Heeds.hears (heeds : Heeds engine s start out) (o : Orderly engine s₀)
    (base : Steps (habit engine) s s₀) {l : Loan} {name : String}
    (voice : ∀ x, active = some x → x = name) {K : Pool σ ε → Prop} (keeps : out.Keeps K)
    (past : ∀ q, K q → Past (habit engine) s₀ (Frame.loans frames + s.loans) {l} q) :
    out.Hears name fun q =>
      K q ∧ Tracked (habit engine) s start (frames ++ [⟨active, some l⟩]) q where
  far := heeds.discreet.far
  ask := by
    rintro request e q rfl ⟨holds, tracked⟩
    refine ⟨keeps.ask request e q holds, ?_⟩
    obtain ⟨retired, steps⟩ := (past q holds).steps
    refine heeds.ask ⟨q, {l} + (Frame.loans frames + s.loans), retired⟩ _ request e (o.steps steps)
      (base.trans steps) ?_ ?_ tracked
    · rw [Frame.loans_concat]
      change {l} + (Frame.loans frames + s.loans) = Frame.loans frames + {l} + s.loans
      ac_rfl
    · intro f last
      obtain rfl : _ = f := by simpa using last
      exact ⟨rfl, voice⟩
  pause := by
    rintro e q ⟨holds, tracked⟩
    exact ⟨keeps.pause e q holds, heeds.pause _ e q tracked⟩

/-- Work on the instance in hand. -/
theorem tracked_withInstance (heeds : Heeds engine s start out) (o : Orderly engine s₀)
    (base : Steps (habit engine) s s₀) (known : s₀.pool.records[id]? = some r₀)
    (voice : ∀ x, active = some x → x = r₀.name) {l : Loan} {n : InstanceId}
    (number : l.number? = some n) {call : GuestM σ ε (Pool σ ε) α} (service : Service out call) :
    Ends (fun x => (Past (habit engine) s₀ (Frame.loans frames + s.loans) {l} x.2 ∧
        Holds Ready id n x.2) ∧ Tracked (habit engine) s start (frames ++ [⟨active, some l⟩]) x.2)
      (PoolM.withInstance n call)
      fun _ x => Tracked (habit engine) s start (frames ++ [⟨active, some l⟩]) x.2 := by
  rintro ⟨e, p⟩ ⟨⟨past, g, found, -⟩, tracked⟩
  rw [PoolM.ending_withInstance found]
  let K (q : Pool σ ε) : Prop := Past (habit engine) s₀ (Frame.loans frames + s.loans) {l} q ∧
    q.instances[n]? = p.instances[n]?
  have keeps : out.Keeps K :=
    heeds.discreet.keeps_held o (Multiset.mem_singleton_self l) number (p.instances[n]?)
  have hears := heeds.hears o base voice keeps fun q holds => holds.1
  obtain ⟨r, record, speaks⟩ := tracked.voiced n id g found
  obtain ⟨r', record', same⟩ := past.named known
  obtain rfl : r = r' := Option.some.inj (record.symm.trans record')
  obtain ⟨⟨⟨past', there⟩, tracked'⟩, speaks'⟩ :=
    service.heard hears ⟨g, e, p⟩ ⟨⟨⟨past, rfl⟩, tracked⟩, same ▸ speaks⟩
  obtain ⟨r', record', same'⟩ := past'.named known
  exact ⟨tracked'.course.tail (.account ⟨rfl, rfl, rfl, fun _ => rfl⟩),
    tracked'.voiced.withState record' (same' ▸ speaks')⟩

/-- What succeeds only on sound instances leaves the instance fit for use. -/
theorem holds_withInstance (o : Orderly engine s₀) (discreet : Discreet engine out)
    (others : Multiset Loan) {l : Loan} {n : InstanceId} (account : l.account = id)
    (number : l.number? = some n) {call : GuestM σ ε (Pool σ ε) α} (service : Service out call)
    {Q : (Pool σ ε → Prop) → Instance σ ε → Except Fault α → Scene σ ε (Pool σ ε) → Prop}
    (spec : ∀ W g₀, out.Keeps W → Ends (Sound W g₀ false Ready) call (Q W g₀))
    (world : ∀ W g₀ r s, Q W g₀ r s → W s.world)
    (sound : ∀ W g₀ v s, Q W g₀ (.ok v) s → Sound W g₀ false Ready s) :
    Ends (fun x => Past (habit engine) s₀ others {l} x.2 ∧ Holds Ready id n x.2)
      (PoolM.withInstance n call) fun r x =>
        Past (habit engine) s₀ others {l} x.2 ∧ ∀ v, r = .ok v → Holds Ready id n x.2 := by
  refine (ends_withInstance o discreet others (Multiset.mem_singleton_self l) account number service
    spec world).weaken (fun _ holds => holds) ?_
  rintro r x ⟨past, W, g₀, t, ended, there⟩
  refine ⟨past, ?_⟩
  rintro v rfl
  exact (sound W g₀ v t ended).holds there

/-- A service that succeeds leaves the instance fit for use. -/
theorem ends_service (o : Orderly engine s₀) (discreet : Discreet engine out)
    (others : Multiset Loan) {l : Loan} {n : InstanceId} (account : l.account = id)
    (number : l.number? = some n) {call : GuestM σ ε (Pool σ ε) α} (service : Service out call) :
    Ends (fun x => Past (habit engine) s₀ others {l} x.2 ∧ Holds Ready id n x.2)
      (PoolM.withInstance n call) fun r x =>
        Past (habit engine) s₀ others {l} x.2 ∧ ∀ v, r = .ok v → Holds Ready id n x.2 := by
  have far := discreet.far
  have loose (start size : Option Int) (known : Windowed start size) : Loose start size := known.loose
  have ready {W : Pool σ ε → Prop} {g₀ : Instance σ ε} {t : Scene σ ε (Pool σ ε)}
      (sound : Sound W g₀ false Windowed t) : Sound W g₀ false Ready t :=
    sound.mono fun _ _ => Windowed.ready
  cases service with
  | schema =>
    refine holds_withInstance o discreet others account number .schema
      (fun W g₀ keeps => ends_checkSchema keeps far) ?_ fun _ _ _ _ tried => tried
    intro W g₀ r s tried
    cases r with
    | ok => exact (Sound.toWatched tried).world
    | error f => exact tried.1.world
  | info =>
    exact holds_withInstance o discreet others account number .info
      (fun W g₀ keeps => ends_pluginInfo keeps far) (fun _ _ _ _ ended => ended.world loose)
      fun _ _ _ _ ended => ready ended
  | configure global plugin =>
    exact holds_withInstance o discreet others account number (.configure global plugin)
      (fun W g₀ keeps => ends_setConfig keeps global plugin) (fun _ _ _ _ ended => ended.1.world loose)
      fun _ _ _ _ ended => ready ended.1
  | diagnose =>
    exact holds_withInstance o discreet others account number .diagnose
      (fun W g₀ keeps => ends_configDiagnostics keeps far) (fun _ _ _ _ ended => ended.world loose)
      fun _ _ _ _ ended => ready ended
  | format path text override =>
    exact holds_withInstance o discreet others account number (.format path text override)
      (fun W g₀ keeps => ends_formatText keeps path text override)
      (fun _ _ _ _ ended => ended.world loose) fun _ _ _ _ ended => ready ended

/-- A service keeps the thread on its course, and leaves the instance fit for use if it succeeds. -/
theorem tracked_service (heeds : Heeds engine s start out) (o : Orderly engine s₀)
    (base : Steps (habit engine) s s₀) (known : s₀.pool.records[id]? = some r₀)
    (voice : ∀ x, active = some x → x = r₀.name) {l : Loan} {n : InstanceId}
    (account : l.account = id) (number : l.number? = some n) {call : GuestM σ ε (Pool σ ε) α}
    (service : Service out call) :
    Ends (fun x => (Past (habit engine) s₀ (Frame.loans frames + s.loans) {l} x.2 ∧
        Holds Ready id n x.2) ∧ Tracked (habit engine) s start (frames ++ [⟨active, some l⟩]) x.2)
      (PoolM.withInstance n call) fun r x =>
        (Past (habit engine) s₀ (Frame.loans frames + s.loans) {l} x.2 ∧
          ∀ v, r = .ok v → Holds Ready id n x.2) ∧
            Tracked (habit engine) s start (frames ++ [⟨active, some l⟩]) x.2 :=
  fun x holds => ⟨ends_service o heeds.discreet _ account number service x holds.1,
    tracked_withInstance heeds o base known voice number service x holds⟩

/-! ### Making instances -/

/-- However a computation ends, the thread is on its course. -/
def OnCourse (engine : Engine σ ε) (s : Ledger σ ε) (start : Station σ ε) (frames : List Frame)
    (_ : Except Fault α) (x : ε × Pool σ ε) : Prop := Tracked (habit engine) s start frames x.2

/-- A thread on its course has something in hand, and then possibly another instance of the same. -/
def TrackedMade (engine : Engine σ ε) (s : Ledger σ ε) (start : Station σ ε) (frames : List Frame)
    (active : Option String) (loan : Option InstanceId → Loan) :
    Except Fault InstanceId → ε × Pool σ ε → Prop
  | .ok n, x => Tracked (habit engine) s start (frames ++ [⟨active, some (loan (some n))⟩]) x.2
  | .error _, x => ∃ m, Tracked (habit engine) s start (frames ++ [⟨active, some (loan m)⟩]) x.2

theorem tracked_loadInstance (heeds : Heeds engine s start out) (o : Orderly engine s₀)
    (base : Steps (habit engine) s s₀) (known : s₀.pool.records[id]? = some r₀)
    {loan : Option InstanceId → Loan} (under : MadeUnder id r₀.name loan active) :
    Ends (fun x => Past (habit engine) s₀ (Frame.loans frames + s.loans) {loan none} x.2 ∧
        Tracked (habit engine) s start (frames ++ [⟨active, some (loan none)⟩]) x.2)
      (PoolM.loadInstance engine out id) (TrackedMade engine s start frames active loan) := by
  rintro ⟨e, p⟩ ⟨past, tracked⟩
  obtain ⟨r, found, name⟩ := past.named known
  have voice : ∀ x, active = some x → x = r.name := by
    cases under with
    | making => rintro x ⟨⟩; exact name.symm
    | registering => rintro x ⟨⟩
  have keeps : out.Keeps (Past (habit engine) s₀ (Frame.loans frames + s.loans) {loan none}) :=
    heeds.discreet.keeps_own o
  have hears := heeds.hears o base voice keeps fun q past => past
  have outcome := hears_load engine hears r.moduleBytes e p ⟨past, tracked⟩
  rw [PoolM.ending_loadInstance engine out found]
  revert outcome
  rcases (Instance.load engine out r.name (some (.fresh r.name)) r.moduleBytes).run (e, p) with
    ⟨⟨fault | g, table⟩, e', q⟩
  · rintro ⟨⟨-, tracked⟩, -⟩
    exact ⟨none, tracked⟩
  · rintro ⟨⟨past, tracked⟩, speaks⟩
    obtain ⟨r', found', name'⟩ := past.named known
    have speaks : g.Speaks r'.name := (name.trans name'.symm) ▸ speaks g rfl
    have entered : Tracked (habit engine) s start (frames ++ [⟨active, some (loan none)⟩])
        (withNew q id g) :=
      ⟨tracked.course.tail (.account ⟨rfl, rfl, rfl, fun _ => rfl⟩),
        tracked.voiced.withNew found' speaks⟩
    refine entered.take (some (loan (some q.instances.length))) ?_
    rintro l ⟨⟩
    exact under.fits found' name' _

theorem tracked_createInstance (heeds : Heeds engine s start out) (o : Orderly engine s₀)
    (base : Steps (habit engine) s s₀) (known : s₀.pool.records[id]? = some r₀)
    {loan : Option InstanceId → Loan} (under : MadeUnder id r₀.name loan active) :
    Ends (fun x => Past (habit engine) s₀ (Frame.loans frames + s.loans) {loan none} x.2 ∧
        Tracked (habit engine) s start (frames ++ [⟨active, some (loan none)⟩]) x.2)
      (PoolM.createInstance engine out id) fun r x =>
        MadeFor engine s₀ (Frame.loans frames + s.loans) Ready loan id r x ∧
          TrackedMade engine s start frames active loan r x := by
  have voice : ∀ x, active = some x → x = r₀.name := by
    cases under with
    | making => rintro x ⟨⟩; rfl
    | registering => rintro x ⟨⟩
  have first : Ends (fun x => Past (habit engine) s₀ (Frame.loans frames + s.loans) {loan none} x.2 ∧
      Tracked (habit engine) s start (frames ++ [⟨active, some (loan none)⟩]) x.2)
      (PoolM.loadInstance engine out id) fun r x =>
        MadeFor engine s₀ (Frame.loans frames + s.loans) Ready loan id r x ∧
          TrackedMade engine s start frames active loan r x :=
    fun x holds => ⟨ends_loadInstance o heeds.discreet under.kind x holds.1,
      tracked_loadInstance heeds o base known under x holds⟩
  refine fun x holds => ⟨ends_createInstance o heeds.discreet under.kind x holds.1, ?_⟩
  refine first.bind (fun n => ?_) (fun f x ended => ended.2) x holds
  refine (tracked_service heeds o base known voice (under.account (some n)).1
    (under.account (some n)).2 .schema).bind (fun _ => ?_) fun f x ended => ⟨_, ended.2⟩
  rintro ⟨e, p⟩ ⟨-, tracked⟩
  exact tracked.updateRecord id fun _ _ => rfl

theorem tracked_configure (heeds : Heeds engine s start out) (o : Orderly engine s₀)
    (base : Steps (habit engine) s s₀) (known : s₀.pool.records[id]? = some r₀)
    (voice : ∀ x, active = some x → x = r₀.name) {l : Loan} {n : InstanceId}
    (account : l.account = id) (number : l.number? = some n) :
    Ends (fun x => (Past (habit engine) s₀ (Frame.loans frames + s.loans) {l} x.2 ∧
        Holds Ready id n x.2) ∧ Tracked (habit engine) s start (frames ++ [⟨active, some l⟩]) x.2)
      (PoolM.configure out id n) (OnCourse engine s start (frames ++ [⟨active, some l⟩])) := by
  rintro ⟨e, p⟩ ⟨holds, tracked⟩
  obtain ⟨r, found, -⟩ := holds.1.named known
  rw [PoolM.ending_configure out n found]
  refine (tracked_service heeds o base known voice account number
    (.configure (.map p.config.globalConfig)
      (PoolM.configOf p.config.pluginConfigs r.info))).bind (fun _ => ?_)
    (fun f x ended => ended.2) (e, p) ⟨holds, tracked⟩
  rintro x ⟨⟨past, holds⟩, tracked⟩
  refine (tracked_service heeds o base known voice account number
    .diagnose).bind (fun diagnostics => ?_) (fun f x ended => ended.2) x
    ⟨⟨past, holds _ rfl⟩, tracked⟩
  rintro y ⟨-, tracked⟩
  cases diagnostics.isEmpty <;> exact tracked

/-! ### Borrowing -/

/-- A thread on its course has an instance in hand for the innermost plugin, or nothing. -/
def TrackedLent (engine : Engine σ ε) (s : Ledger σ ε) (start : Station σ ε) (frames : List Frame)
    (name : String) (id : RecordId) : Except Fault InstanceId → ε × Pool σ ε → Prop
  | .ok n, x => Tracked (habit engine) s start (frames ++ [⟨some name, some (.lent id n)⟩]) x.2
  | .error _, x => Tracked (habit engine) s start (frames ++ [⟨some name, none⟩]) x.2

/-- An instance that was made or popped is in hand. -/
theorem Tracked.lend {h : Habit σ ε} {p : Pool σ ε} {loan : Option Loan} {r : PluginRecord}
    {name : String} (tracked : Tracked h s start (frames ++ [⟨some name, loan⟩]) p)
    (found : p.records[id]? = some r) (same : r.name = name) (n : InstanceId) :
    Tracked h s start (frames ++ [⟨some name, some (.lent id n)⟩]) p := by
  refine tracked.take _ ?_
  rintro l ⟨⟩
  exact ⟨r, found, same⟩

/-- Nothing is in hand any more. -/
theorem Tracked.drop {h : Habit σ ε} {p : Pool σ ε} {loan : Option Loan}
    (tracked : Tracked h s start (frames ++ [⟨active, loan⟩]) p) :
    Tracked h s start (frames ++ [⟨active, none⟩]) p :=
  tracked.take none (by rintro l ⟨⟩)

theorem tracked_fillPlace (heeds : Heeds engine s start out) (o : Orderly engine s₀)
    (base : Steps (habit engine) s s₀) (known : s₀.pool.records[id]? = some r₀) :
    Ends (fun x => Past (habit engine) s₀ (Frame.loans frames + s.loans) {.making id none} x.2 ∧
        Tracked (habit engine) s start (frames ++ [⟨some r₀.name, some (.making id none)⟩]) x.2)
      (PoolM.fillPlace engine out id) (TrackedLent engine s start frames r₀.name id) := by
  have voice : ∀ x, some r₀.name = some x → x = r₀.name := by rintro x ⟨⟩; rfl
  have made : Ends (fun x =>
      Past (habit engine) s₀ (Frame.loans frames + s.loans) {.making id none} x.2 ∧
        Tracked (habit engine) s start (frames ++ [⟨some r₀.name, some (.making id none)⟩]) x.2)
      (PoolM.newInstance engine out id) fun r x =>
        (∃ own, Past (habit engine) s₀ (Frame.loans frames + s.loans) own x.2) ∧
          TrackedMade engine s start frames (some r₀.name) (.making id) r x := by
    refine (tracked_createInstance heeds o base known .making).bind (fun n => ?_)
      fun f x ended => ⟨ended.1.1.elim fun m past => ⟨_, past⟩, ended.2⟩
    rintro x ⟨⟨past, holds⟩, tracked⟩
    have account : (Loan.making id (some n)).account = id := rfl
    have configured := tracked_configure heeds o base known voice account rfl x
      ⟨⟨past, holds⟩, tracked⟩
    have ended := ends_configure o heeds.discreet account rfl x ⟨past, holds⟩
    rw [ending_bind]
    revert configured ended
    rcases ending (PoolM.configure out id n) x with ⟨f | _, y⟩ <;> intro configured ended
    · exact ⟨⟨_, ended.1⟩, some n, configured⟩
    · exact ⟨⟨_, ended.1⟩, configured⟩
  intro x holds
  have ended := made x holds
  rw [PoolM.ending_fillPlace]
  revert ended
  rcases ending (PoolM.newInstance engine out id) x with ⟨f | n, e, p⟩
  · rintro ⟨⟨own, past⟩, m, tracked⟩
    obtain ⟨r, found, -⟩ := past.named known
    simp only
    rw [ending_bind_of_ok
      (PoolM.ending_record (Pool.getElem?_updateRecord_self found PluginRecord.abandon))]
    have given := tracked.updateRecord id (f := PluginRecord.abandon) fun _ _ => rfl
    exact given.drop
  · rintro ⟨⟨own, past⟩, tracked⟩
    obtain ⟨r, found, same⟩ := past.named known
    exact Tracked.lend tracked found same n

/-- What a thread has in hand is known. -/
theorem Past.known {p : Pool σ ε} (past : Past (habit engine) s₀ (Frame.loans frames + s.loans) own p)
    (base : Steps (habit engine) s s₀) {f : Frame} (mine : (f.loan.toList : List Loan) = own) :
    Known (habit engine) s (frames ++ [f]) p := by
  obtain ⟨retired, steps⟩ := past.steps
  have same : own + (Frame.loans frames + s.loans) = Frame.loans (frames ++ [f]) + s.loans := by
    rw [Frame.loans_concat, mine]
    ac_rfl
  rw [same] at steps
  exact ⟨retired, base.trans steps⟩

theorem tracked_acquire (heeds : Heeds engine s start out) (o : Orderly engine s₀)
    (base : Steps (habit engine) s s₀) (known : s₀.pool.records[id]? = some r₀)
    (usable : s₀.Usable id) :
    Ends (fun x => Past (habit engine) s₀ (Frame.loans frames + s.loans) 0 x.2 ∧
        Tracked (habit engine) s start (frames ++ [⟨some r₀.name, none⟩]) x.2)
      (PoolM.acquire engine out id) (TrackedLent engine s start frames r₀.name id) := by
  rintro ⟨e, p⟩ ⟨past, tracked⟩
  obtain ⟨r, found, name⟩ := past.named known
  rw [PoolM.ending_acquire engine out found]
  cases lease : r.lease p.limits.maxInstances with
  | refused => exact tracked
  | exhausted =>
    rw [← name] at tracked ⊢
    have busy : Known (habit engine) s (frames ++ [⟨some r.name, none⟩]) p := past.known base rfl
    have marked : Tracked (habit engine) s start (frames ++ [⟨some r.name, none⟩])
        { p with events := .exhausted id :: p.events } :=
      ⟨tracked.course.tail (.exhaust busy found lease), tracked.voiced⟩
    exact marked.account ⟨rfl, rfl, rfl, fun _ => rfl⟩ rfl
  | popped n r' =>
    obtain ⟨-, rest, last, rfl⟩ := PluginRecord.lease_eq_popped_iff.1 lease
    have popped := tracked.updateRecord id
      (f := fun _ => { r with idle := rest, inUse := r.inUse + 1 }) fun x there => by
        rw [Option.some.inj (found.symm.trans there)]
        rfl
    exact popped.lend (Pool.getElem?_updateRecord_self found _) name n
  | reserved r' =>
    obtain ⟨-, empty, room, rfl⟩ := PluginRecord.lease_eq_reserved_iff.1 lease
    obtain ⟨retired, steps⟩ := past.steps
    obtain ⟨entered, -⟩ := Steps.usable steps usable
    rw [zero_add] at entered
    have taken := tracked.updateRecord id
      (f := fun _ => { r with inUse := r.inUse + 1 }) fun x there => by
        rw [Option.some.inj (found.symm.trans there)]
        rfl
    refine tracked_fillPlace heeds o base known (e, p.updateRecord id _) ⟨?_, taken.take _ ?_⟩
    · refine past.next (fun retired => ⟨retired, ?_⟩) fun _ _ _ _ => rfl
      have reserved : Ledger.Step (habit engine) ⟨p, Frame.loans frames + s.loans, retired⟩
          ⟨p.updateRecord id fun _ => { r with inUse := r.inUse + 1 },
            .making id none ::ₘ (Frame.loans frames + s.loans), retired⟩ :=
        .reserve entered found lease
      simpa using reserved
    · rintro l ⟨⟩
      exact ⟨_, Pool.getElem?_updateRecord_self found _, name⟩

/-! ### Formatting -/

/-- The call on a lent instance. -/
theorem tracked_lentCall (heeds : Heeds engine s start out) (o : Orderly engine s₀)
    (base : Steps (habit engine) s s₀) (known : s₀.pool.records[id]? = some r₀) {n : InstanceId}
    (path text : String) (m : ConfigMap) {x : ε × Pool σ ε}
    (past : Past (habit engine) s₀ (Frame.loans frames + s.loans) {.lent id n} x.2)
    (holds : Holds Loose id n x.2)
    (tracked : Tracked (habit engine) s start
      (frames ++ [⟨some r₀.name, some (.lent id n)⟩]) x.2) :
    Tracked (habit engine) s start (frames ++ [⟨some r₀.name, some (.lent id n)⟩])
      (lentCall out m id n path text x).2.2 := by
  have voice : ∀ x, some r₀.name = some x → x = r₀.name := by rintro x ⟨⟩; rfl
  have account : (Loan.lent id n).account = id := rfl
  have starts : Tracked (habit engine) s start (frames ++ [⟨some r₀.name, some (.lent id n)⟩])
      { x.2 with events := .formatting id n x.2.chain.active :: x.2.events } :=
    ⟨tracked.course.tail (.format (past.known base rfl)), tracked.voiced⟩
  have fit := past.windowed o (Multiset.mem_singleton_self _) holds
  exact (tracked_service heeds o base known voice account rfl
    (.format path text m.toDatum)
    (x.1, { x.2 with events := .formatting id n x.2.chain.active :: x.2.events })
    ⟨⟨past.notes ⟨rfl, rfl, rfl, rfl⟩, fit.mono fun _ _ => Windowed.ready⟩, starts⟩).2

/-- What the pool makes of the end of a call on a lent instance. -/
def concluded (id : RecordId) (n : InstanceId) (poisoned : Bool)
    (answer : Except Fault (Option String)) (q : Pool σ ε) : Pool σ ε :=
  match answer with
  | .ok _ => q.updateRecord id (PluginRecord.release n poisoned)
  | .error f =>
    if f.kind = .guest then
      { (q.updateRecord id (PluginRecord.crash q.limits.maxCrashes f.message)).updateRecord id
          (PluginRecord.release n poisoned) with
        events := .crashed id n :: q.events }
    else q.updateRecord id (PluginRecord.release n poisoned)

/-- A lent instance is used and given back: apart from the journal, the pool is what it makes of the
call. -/
theorem exists_ending_returning {n : InstanceId} {path text : String} {m : ConfigMap}
    {x : ε × Pool σ ε} {r : PluginRecord} {g : Instance σ ε}
    (found : (lentCall out m id n path text x).2.2.records[id]? = some r)
    (there : (lentCall out m id n path text x).2.2.instances[n]? = some (id, g)) :
    ∃ journal, (ending (PoolM.returning id n (PoolM.formatLent out id path text m.toDatum n)) x).2.2 =
      { concluded id n g.poisoned (lentCall out m id n path text x).1
          (lentCall out m id n path text x).2.2 with journal } := by
  rw [PoolM.ending_returning, ending_formatLent]
  revert found there
  rcases lentCall out m id n path text x with ⟨f | v, e, q⟩ <;> intro found there
  · by_cases kind : f.kind = .guest
    · obtain ⟨journal, crashed⟩ := PoolM.exists_ending_markCrashed n f.message e found
      have after := Pool.getElem?_updateRecord_self found
        (PluginRecord.crash q.limits.maxCrashes f.message)
      obtain ⟨journal', given⟩ := PoolM.exists_ending_release (n := n) (e := e)
        (p := { q.updateRecord id (PluginRecord.crash q.limits.maxCrashes f.message) with
          events := .crashed id n :: q.events
          journal }) after there
      simp only [if_pos kind]
      rw [ending_bind (PoolM.markCrashed id n f.message), crashed]
      simp only [ending_throw]
      rw [ending_bind, given]
      simp only [concluded, if_pos kind, ending_ofExcept]
      exact ⟨journal', rfl⟩
    · obtain ⟨journal, given⟩ := PoolM.exists_ending_release (e := e) found there
      simp only [if_neg kind]
      rw [ending_bind, given]
      simp only [concluded, if_neg kind, ending_ofExcept]
      exact ⟨journal, rfl⟩
  · obtain ⟨journal, given⟩ := PoolM.exists_ending_release (e := e) found there
    simp only
    rw [ending_bind, given]
    exact ⟨journal, rfl⟩

/-- The use of a lent instance. -/
theorem tracked_returning (heeds : Heeds engine s start out) (o : Orderly engine s₀)
    (base : Steps (habit engine) s s₀) (known : s₀.pool.records[id]? = some r₀)
    {n : InstanceId} (path text : String) (m : ConfigMap) {x : ε × Pool σ ε}
    (past : Past (habit engine) s₀ (Frame.loans frames + s.loans) {.lent id n} x.2)
    (holds : Holds Loose id n x.2)
    (tracked : Tracked (habit engine) s start
      (frames ++ [⟨some r₀.name, some (.lent id n)⟩]) x.2) :
    Tracked (habit engine) s start (frames ++ [⟨some r₀.name, none⟩])
      (ending (PoolM.returning id n (PoolM.formatLent out id path text m.toDatum n)) x).2.2 := by
  obtain ⟨past', W, g₀, t, ended, there⟩ := lentCall_ends o heeds.discreet path text m past holds
  have called := tracked_lentCall heeds o base known path text m past holds tracked
  obtain ⟨r, found, -⟩ := past'.named known
  obtain ⟨journal, back⟩ := exists_ending_returning found there
  rw [back]
  have given {q : Pool σ ε} (on : Tracked (habit engine) s start
      (frames ++ [⟨some r₀.name, some (.lent id n)⟩]) q) := on.updateRecord id
    (f := PluginRecord.release n t.guest.poisoned) fun _ _ => rfl
  have after : Tracked (habit engine) s start (frames ++ [⟨some r₀.name, some (.lent id n)⟩])
      (concluded id n t.guest.poisoned (lentCall out m id n path text x).1
        (lentCall out m id n path text x).2.2) := by
    have mine : Known (habit engine) s (frames ++ [⟨some r₀.name, some (.lent id n)⟩])
        (lentCall out m id n path text x).2.2 := past'.known base rfl
    revert called found there ended mine
    rcases lentCall out m id n path text x with ⟨f | v, e, q⟩ <;>
      intro ended there called found mine
    · simp only [concluded]
      split
      next kind =>
        rcases ended.poisoned_or_excused with ⟨poisoned, -⟩ | ⟨-, excused⟩
        · exact given (called.crash mine found there poisoned f.message)
        · exact absurd kind excused.kind_ne_guest
      next => exact given called
    · exact given called
  exact (after.notes journal).drop

/-- An instance is borrowed, used and given back. -/
theorem tracked_borrowing (heeds : Heeds engine s start out) (o : Orderly engine s₀)
    (base : Steps (habit engine) s s₀) (known : s₀.pool.records[id]? = some r₀)
    (usable : s₀.Usable id) (path text : String) (m : ConfigMap) :
    Ends (fun x => Past (habit engine) s₀ (Frame.loans frames + s.loans) 0 x.2 ∧
        Tracked (habit engine) s start (frames ++ [⟨some r₀.name, none⟩]) x.2)
      (PoolM.borrowing engine out id (PoolM.formatLent out id path text m.toDatum))
      (OnCourse engine s start (frames ++ [⟨some r₀.name, none⟩])) := by
  have acquired : Ends (fun x => Past (habit engine) s₀ (Frame.loans frames + s.loans) 0 x.2 ∧
      Tracked (habit engine) s start (frames ++ [⟨some r₀.name, none⟩]) x.2)
      (PoolM.acquire engine out id) fun r x =>
        Borrowed engine s₀ (Frame.loans frames + s.loans) id r x ∧
          TrackedLent engine s start frames r₀.name id r x :=
    fun x holds => ⟨ends_acquire o heeds.discreet usable x holds.1,
      tracked_acquire heeds o base known usable x holds⟩
  refine acquired.bind (fun n => ?_) fun f x ended => ended.2
  rintro x ⟨⟨past, holds⟩, tracked⟩
  exact tracked_returning heeds o base known path text m past holds.loose tracked

/-- A plugin is active for a while. -/
theorem tracked_entering {use : PoolM σ ε (Option String)} {others : Multiset Loan}
    (waits : ∀ f, frames.getLast? = some f → f.loan.isSome ∧ f.name ≠ some r₀.name)
    (known : s₀.pool.records[id]? = some r₀)
    (tracks : Ends (fun x => Past (habit engine) s₀ others 0 x.2 ∧
        Tracked (habit engine) s start (frames ++ [⟨some r₀.name, none⟩]) x.2) use
      (OnCourse engine s start (frames ++ [⟨some r₀.name, none⟩]))) :
    Ends (fun x => Past (habit engine) s₀ others 0 x.2 ∧ Tracked (habit engine) s start frames x.2)
      (PoolM.entering r₀.name use) (OnCourse engine s start frames) := by
  rintro ⟨e, p⟩ ⟨past, tracked⟩
  obtain ⟨r, found, name⟩ := past.named known
  rcases entered : p.chain.enter r₀.name with f | chain
  · rw [PoolM.ending_entering_of_error entered]
    exact tracked
  · rw [PoolM.ending_entering_of_ok entered]
    have inside : Tracked (habit engine) s start (frames ++ [⟨some r₀.name, none⟩])
        { p with chain } := by
      rw [← name] at entered waits ⊢
      exact ⟨tracked.course.tail (.enter found entered waits), tracked.voiced⟩
    have done := tracks (e, { p with chain }) ⟨past.notes ⟨rfl, rfl, rfl, rfl⟩, inside⟩
    exact ⟨done.course.tail .leave, done.voiced⟩

/-- A format call of a record inside the work that waits for it. -/
theorem tracked_formatWith (heeds : Heeds engine s start out) (o : Orderly engine s₀)
    (base : Steps (habit engine) s s₀) (known : s₀.pool.records[id]? = some r₀)
    (usable : s₀.Usable id)
    (waits : ∀ f, frames.getLast? = some f → f.loan.isSome ∧ f.name ≠ some r₀.name)
    (path text : String) (m : ConfigMap) :
    Ends (fun x => Past (habit engine) s₀ (Frame.loans frames + s.loans) 0 x.2 ∧
        Tracked (habit engine) s start frames x.2)
      (PoolM.formatWith engine out id path text m.toDatum) (OnCourse engine s start frames) := by
  rintro ⟨e, p⟩ ⟨past, tracked⟩
  obtain ⟨r, found, name⟩ := past.named known
  rw [PoolM.ending_formatWith engine found, name]
  have ended : Ends (fun x : ε × Pool σ ε =>
      Past (habit engine) s₀ (Frame.loans frames + s.loans) 0 x.2) _ _ :=
    ends_entering r₀.name (ends_borrowing o heeds.discreet usable path text m)
  refine (ended.and (tracked_entering waits known
    (tracked_borrowing heeds o base known usable path text m))).bind (fun v => ?_)
    (fun f x ended => ended.2) (e, p) ⟨past, past, tracked⟩
  rintro ⟨e, q⟩ ⟨⟨past, -⟩, on⟩
  obtain ⟨r', found', -⟩ := past.named known
  exact Tracked.succeed on found'

end

section

variable {engine : Engine σ ε} {s : Ledger σ ε} {start : Station σ ε}

/-- What instances find outside a pool whose requests keep a thread on its course. -/
theorem heeds_outside {room : Nat}
    {format : String → String → String → Datum → PoolM σ ε (Option String)}
    (discreet : Discreet engine (PoolM.outside room format))
    (tracks : ∀ (s₁ : Ledger σ ε) (frames : List Frame) (caller path text : String) (m : ConfigMap)
      (e : ε), Orderly engine s₁ → Steps (habit engine) s s₁ →
      s₁.loans = Frame.loans frames + s.loans → Answerable frames caller →
      Tracked (habit engine) s start frames s₁.pool →
      Tracked (habit engine) s start frames
        (ending (format caller path text m.toDatum) (e, s₁.pool)).2.2) :
    Heeds engine s start (PoolM.outside room format) where
  discreet := discreet
  ask s₁ frames request e o base loans answerable tracked := by
    have noted : Ledger.Step (habit engine) s₁ ⟨{ s₁.pool with
        journal := .debug dispatchLogger ("Plugin " ++ request.caller ++
          " requested formatting of " ++ request.path) :: s₁.pool.journal }, s₁.loans, s₁.retired⟩ :=
      .note ⟨rfl, rfl, rfl, rfl⟩
    have answered := tracks _ frames request.caller request.path request.text request.override e
      (o.steps (.single noted)) (base.tail noted) loans answerable (tracked.notes _)
    rw [run_ask_outside]
    revert answered
    rcases ending (format request.caller request.path request.text request.override.toDatum) _ with
      ⟨f | _ | text, e, q⟩ <;> intro answered
    · exact answered.notes _
    · exact answered
    · exact answered
  pause frames e p tracked := tracked.account ⟨rfl, rfl, rfl, fun _ => rfl⟩ rfl

/-- A request in the name of the innermost plugin, however deep it goes. -/
theorem tracked_formatFor (depth : Nat) (s₁ : Ledger σ ε) (frames : List Frame)
    (caller path text : String) (m : ConfigMap) (e : ε) (o : Orderly engine s₁)
    (base : Steps (habit engine) s s₁) (loans : s₁.loans = Frame.loans frames + s.loans)
    (answerable : Answerable frames caller) (tracked : Tracked (habit engine) s start frames s₁.pool) :
    Tracked (habit engine) s start frames
      (ending (PoolM.formatFor engine depth caller path text m.toDatum) (e, s₁.pool)).2.2 := by
  induction depth generalizing s₁ frames caller path text m e with
  | zero =>
    obtain ⟨journal, ⟨ran, -⟩ | ⟨id, r, -, -, ran⟩⟩ :=
      PoolM.exists_ending_formatFor engine 0 caller path text m.toDatum e s₁.pool <;> rw [ran]
    · exact tracked.notes journal
    · exact tracked.notes journal
  | succ depth ih =>
    obtain ⟨journal, ⟨ran, -⟩ | ⟨id, r, resolved, other, ran⟩⟩ :=
      PoolM.exists_ending_formatFor engine (depth + 1) caller path text m.toDatum e s₁.pool <;> rw [ran]
    · exact tracked.notes journal
    · have noted : Ledger.Step (habit engine) s₁
          ⟨{ s₁.pool with journal }, s₁.loans, s₁.retired⟩ := .note ⟨rfl, rfl, rfl, rfl⟩
      have usable := noted.usable (o.balanced.usable_of_resolve resolved)
      have heeds : Heeds engine s start (PoolM.below engine depth) :=
        heeds_outside (discreet_below engine depth) ih
      -- The plugin that asks waits with an instance in hand, and it is another one.
      have waits : ∀ f, frames.getLast? = some f → f.loan.isSome ∧ f.name ≠ some r.name :=
        fun f last => ⟨(answerable f last).1, fun same => other ((answerable f last).2 _ same)⟩
      refine tracked_formatWith heeds (o.steps (.single noted)) (base.tail noted)
        (Pool.mem_registry_of_resolve resolved).1 usable waits path text m
        (e, { s₁.pool with journal }) ⟨?_, tracked.notes journal⟩
      rw [← loans]
      exact .refl _

/-- What the instances of a pool find outside keeps a thread on its course. -/
theorem heeds_below (engine : Engine σ ε) (depth : Nat) :
    Heeds engine s start (PoolM.below engine depth) :=
  heeds_outside (discreet_below engine depth) (tracked_formatFor depth)

theorem heeds_around (engine : Engine σ ε) (limits : Limits) :
    Heeds engine s start (PoolM.around engine limits) := heeds_below engine limits.maxDepth

/-- A format call from outside. -/
theorem tracked_formatText {s₁ : Ledger σ ε} (o : Orderly engine s₁)
    (base : Steps (habit engine) s s₁) (loans : s₁.loans = s.loans) (path text : String)
    (m : ConfigMap) (e : ε) (tracked : Tracked (habit engine) s start [] s₁.pool) :
    Tracked (habit engine) s start []
      (ending (PoolM.formatText engine path text m.toDatum) (e, s₁.pool)).2.2 := by
  rcases resolved : s₁.pool.resolve path with _ | ⟨id, r⟩
  · rw [PoolM.ending_formatText_of_none resolved]
    exact tracked
  · rw [PoolM.ending_formatText_of_resolve resolved]
    have same : s₁.loans = Frame.loans [] + s.loans := loans.trans (zero_add _).symm
    refine tracked_formatWith (heeds_around engine _) o base
      (Pool.mem_registry_of_resolve resolved).1 (o.balanced.usable_of_resolve resolved)
      (by simp) path text m (e, s₁.pool) ⟨?_, tracked⟩
    rw [← same]
    exact .refl _

end

end FormatHost
