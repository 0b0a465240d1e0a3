import FormatHost.Proofs.Pool.Nesting
/-!
# Crashes

A breach of the protocol during a format call is a crash of the plugin's record. It costs the plugin the
instance and one count, whatever happened inside the call; a success starts the count again. When the
count reaches its limit the plugin is disabled, and it stays so: whoever wants to borrow from it is
refused. The events of a pool tell the accounts of all its records.
-/
namespace FormatHost

open Ledger

variable {σ ε : Type}

/-! ### What the events tell -/

/-- The crashes of a record since its last success, and whether its plugin is disabled. -/
def PluginRecord.toll (r : PluginRecord) : Nat × Bool := (r.crashes, r.status = .disabled)

/-- The toll of a number; that of no record is that of a new one. -/
def Pool.toll (p : Pool σ ε) (id : RecordId) : Nat × Bool :=
  (p.records[id]?.map PluginRecord.toll).getD (0, false)

/-- What events, newest first, make of a toll: each crash of the record counts once, and disables the
plugin if it is one too many; a success starts the count again. -/
def tally (limit : Nat) (id : RecordId) (start : Nat × Bool) : List PoolEvent → Nat × Bool
  | [] => start
  | .crashed i _ :: older =>
    let before := tally limit id start older
    if i = id then (before.1 + 1, before.2 || limit ≤ before.1 + 1) else before
  | .succeeded i :: older =>
    let before := tally limit id start older
    if i = id then (0, before.2) else before
  | .formatting .. :: older | .exhausted _ :: older => tally limit id start older

theorem Pool.toll_of_record {p : Pool σ ε} {id : RecordId} {r : PluginRecord}
    (found : p.records[id]? = some r) : p.toll id = r.toll := by
  simp [Pool.toll, found]

theorem Pool.toll_congr {p q : Pool σ ε} {id : RecordId} (same : q.records[id]? = p.records[id]?) :
    q.toll id = p.toll id := by
  rw [Pool.toll, same, Pool.toll]

/-- A change of one record changes its toll only. -/
theorem Pool.toll_updateRecord {p : Pool σ ε} {i : RecordId} {r : PluginRecord}
    (found : p.records[i]? = some r) (f : PluginRecord → PluginRecord) (id : RecordId) :
    (p.updateRecord i f).toll id = if i = id then (f r).toll else p.toll id := by
  split
  next same =>
    subst same
    exact Pool.toll_of_record (Pool.getElem?_updateRecord_self found f)
  next other => exact Pool.toll_congr (Pool.getElem?_updateRecord_ne p (Ne.symm other) f)

/-- A new record has the toll that it was taken to have. -/
theorem Pool.toll_create (p : Pool σ ε) (name : String) (moduleBytes : Bytes) (id : RecordId) :
    ({ p with records := p.records ++ [.fresh name moduleBytes] } : Pool σ ε).toll id = p.toll id := by
  rcases Nat.lt_trichotomy id p.records.length with old | new | beyond
  · exact Pool.toll_congr (List.getElem?_append_left old)
  · subst new
    simp [Pool.toll, PluginRecord.toll, PluginRecord.fresh]
  · have none : (p.records ++ [.fresh name moduleBytes])[id]? = none :=
      List.getElem?_eq_none (by simpa using Nat.succ_le_of_lt beyond)
    simp [Pool.toll, none, List.getElem?_eq_none (Nat.le_of_lt beyond)]

theorem Pool.SameStanding.toll {p q : Pool σ ε} (same : p.SameStanding q) (id : RecordId) :
    q.toll id = p.toll id := by
  have known (x : Pool σ ε) : x.toll id = ((x.records[id]?.map PluginRecord.standing).map
      fun standing => (standing.2.2, decide (standing.2.1 = .disabled))).getD (0, false) := by
    rw [Option.map_map]
    rfl
  rw [known, known, same.records id]

theorem PluginRecord.toll_crash (limit : Nat) (reason : String) (r : PluginRecord) :
    (r.crash limit reason).toll = (r.toll.1 + 1, r.toll.2 || decide (limit ≤ r.toll.1 + 1)) := by
  rw [toll, crashes_crash, status_crash]
  simp only [toll]
  split <;> simp [*]

/-- The events since the start tell the tolls of all records. -/
def Pool.Tallied (start p : Pool σ ε) : Prop :=
  p.config = start.config ∧ ∃ recent, p.events = recent ++ start.events ∧
    ∀ id, p.toll id = tally start.limits.maxCrashes id (start.toll id) recent

theorem Pool.Tallied.refl (start : Pool σ ε) : start.Tallied start :=
  ⟨rfl, [], rfl, fun _ => rfl⟩

/-- One more event, and the toll of one record with it. -/
theorem Pool.Tallied.note {start p q : Pool σ ε} (tallied : start.Tallied p) {event : PoolEvent}
    (config : q.config = p.config) (events : q.events = event :: p.events)
    (tolls : ∀ id recent, p.toll id = tally start.limits.maxCrashes id (start.toll id) recent →
      q.toll id = tally start.limits.maxCrashes id (start.toll id) (event :: recent)) :
    start.Tallied q := by
  obtain ⟨same, recent, told, all⟩ := tallied
  exact ⟨config.trans same, event :: recent, by rw [events, told]; rfl,
    fun id => tolls id recent (all id)⟩

theorem Move.tallied {h : Habit σ ε} {s : Ledger σ ε} {a b : Station σ ε} {start : Pool σ ε}
    (move : Move h s a b) (tallied : start.Tallied a.pool) : start.Tallied b.pool := by
  cases move with
  | account same =>
    obtain ⟨config, recent, told, all⟩ := tallied
    exact ⟨same.config.trans config, recent, same.events.trans told,
      fun id => (same.toll id).trans (all id)⟩
  | take | enter | leave => exact tallied
  | format | exhaust => exact tallied.note rfl rfl fun id recent told => told
  | @crash _ p _ i n r _ reason known found =>
    have limits : p.limits = start.limits := congrArg PoolConfig.limits tallied.1
    refine tallied.note rfl rfl fun id recent told => ?_
    have changed := Pool.toll_updateRecord found (PluginRecord.crash p.limits.maxCrashes reason) id
    refine (Pool.toll_congr rfl).trans (changed.trans ?_)
    rw [tally, ← told, PluginRecord.toll_crash, limits]
    split
    next same =>
      subst same
      rw [Pool.toll_of_record found]
    next => rfl
  | @succeed _ p i r found =>
    refine tallied.note rfl rfl fun id recent told => ?_
    have changed := Pool.toll_updateRecord found PluginRecord.succeed id
    refine (Pool.toll_congr rfl).trans (changed.trans ?_)
    rw [tally, ← told]
    split
    next same =>
      subst same
      rw [Pool.toll_of_record found]
      rfl
    next => rfl
  | @create p name moduleBytes =>
    obtain ⟨config, recent, told, all⟩ := tallied
    exact ⟨config, recent, told, fun id => (Pool.toll_create p name moduleBytes id).trans (all id)⟩
  | @settle _ p _ i r f found loaded name crashes usable =>
    obtain ⟨config, recent, told, all⟩ := tallied
    refine ⟨config, recent, told, fun id => Eq.trans ?_ (all id)⟩
    rw [Pool.toll_updateRecord found]
    split
    next same =>
      subst same
      rw [Pool.toll_of_record found]
      simp [PluginRecord.toll, crashes, usable, loaded]
    next => rfl

theorem Course.tallied {h : Habit σ ε} {s : Ledger σ ε} {a b : Station σ ε} {start : Pool σ ε}
    (course : Course h s a b) (tallied : start.Tallied a.pool) : start.Tallied b.pool := by
  induction course with
  | refl => exact tallied
  | tail _ move ih => exact move.tallied ih

/-! ### What becomes of one call -/

/-- What the pool makes of the end of a call on a lent instance. `q` is the pool right after the call,
`p` the pool in the end. Nothing but the record of the instance changes. -/
inductive Charged (id : RecordId) (n : InstanceId) (q p : Pool σ ε) :
    Except Fault (Option String) → Prop
  /-- The guest broke the protocol: one crash is counted, and the instance is dropped. -/
  | crashed {f : Fault} {r : PluginRecord} {g : Instance σ ε} (kind : f.kind = .guest)
      (found : q.records[id]? = some r) (there : q.instances[n]? = some (id, g))
      (poisoned : g.poisoned = true)
      (pool : p = { q.updateRecord id fun r =>
          (r.crash q.limits.maxCrashes f.message).release n true with
        events := .crashed id n :: q.events
        journal := p.journal }) : Charged id n q p (.error f)
  /-- It answered, or failed otherwise: nothing is counted, and the instance waits again. -/
  | spared {answer : Except Fault (Option String)} {r : PluginRecord}
      (other : ∀ f, answer = .error f → f.kind ≠ .guest) (found : q.records[id]? = some r)
      (pool : p = { q.updateRecord id (PluginRecord.release n false) with journal := p.journal }) :
      Charged id n q p answer

theorem Pool.updateRecord_updateRecord (p : Pool σ ε) (id : RecordId)
    (f g : PluginRecord → PluginRecord) :
    (p.updateRecord id f).updateRecord id g = p.updateRecord id fun r => g (f r) := by
  simp only [Pool.updateRecord, List.modify_modify_eq]
  rfl

section

variable {engine : Engine σ ε} {s₀ : Ledger σ ε} {others : Multiset Loan}
  {out : Outside ε (Pool σ ε)}

theorem charged_returning (o : Orderly engine s₀) (discreet : Discreet engine out) {id : RecordId}
    {r₀ : PluginRecord} (known : s₀.pool.records[id]? = some r₀) {n : InstanceId}
    (path text : String) (m : ConfigMap) {x : ε × Pool σ ε}
    (past : Past (habit engine) s₀ others {.lent id n} x.2) (holds : Holds Loose id n x.2) :
    Charged id n (lentCall out m id n path text x).2.2
      (ending (PoolM.returning id n (PoolM.formatLent out id path text m.toDatum n)) x).2.2
      (lentCall out m id n path text x).1 := by
  obtain ⟨past', W, g₀, t, ended, there⟩ := lentCall_ends o discreet path text m past holds
  obtain ⟨r, found, -⟩ := past'.named known
  obtain ⟨journal, back⟩ := exists_ending_returning found there
  rw [back]
  revert ended found there
  rcases lentCall out m id n path text x with ⟨f | v, e, q⟩ <;> intro ended there found
  · rcases ended.poisoned_or_excused with ⟨poisoned, kind⟩ | ⟨healthy, excused⟩
    · refine .crashed kind found there poisoned ?_
      simp only [concluded, if_pos kind, poisoned, Pool.updateRecord_updateRecord]
    · have kind := excused.kind_ne_guest
      refine .spared (fun f' same => Except.error.inj same ▸ kind) found ?_
      simp only [concluded, if_neg kind, healthy]
  · have sound : Sound W g₀ false Windowed t := ended
    refine .spared (by rintro f ⟨⟩) found ?_
    simp only [concluded, sound.healthy]

/-- The use of an instance that a thread has borrowed. -/
theorem charged_of_lent {s : Ledger σ ε} (o : Orderly engine s) {id : RecordId} {n : InstanceId}
    (mine : .lent id n ∈ s.loans) (holds : Holds Loose id n s.pool) (depth : Nat) (path text : String)
    (m : ConfigMap) (e : ε) :
    let out := PoolM.below engine depth
    Charged id n (lentCall out m id n path text (e, s.pool)).2.2
      (ending (PoolM.returning id n (PoolM.formatLent out id path text m.toDatum n))
        (e, s.pool)).2.2
      (lentCall out m id n path text (e, s.pool)).1 := by
  obtain ⟨others, loans⟩ := Multiset.exists_cons_of_mem mine
  have known := List.getElem?_eq_getElem (o.balanced.known _ mine)
  have steps : Steps (habit engine) s ⟨s.pool, {.lent id n} + others, s.retired⟩ := by
    rw [Multiset.singleton_add, ← loans]
  exact charged_returning o (discreet_below engine depth) known path text m
    (x := (e, s.pool)) ⟨⟨s.retired, steps⟩, fun _ _ _ _ => rfl⟩ holds

/-- Nothing is lent of a disabled plugin, and nothing is touched. -/
theorem ending_borrowing_of_disabled {α : Type} (engine : Engine σ ε) (out : Outside ε (Pool σ ε))
    (use : InstanceId → PoolM σ ε α) (e : ε) {p : Pool σ ε} {id : RecordId} {r : PluginRecord}
    (found : p.records[id]? = some r) (disabled : r.status = .disabled) :
    ending (PoolM.borrowing engine out id use) (e, p) =
      (.error (.disabled r.name r.error), e, p) := by
  have refused : r.lease p.limits.maxInstances = .refused := PluginRecord.lease_of_disabled disabled
  unfold PoolM.borrowing
  rw [ending_bind, PoolM.ending_acquire engine out found, refused]

/-- After any sequence of calls the events tell the toll of every record. -/
theorem Ran.toll {config : PoolConfig} {x : ε × Pool σ ε} (ran : Ran engine config x)
    {id : RecordId} {r : PluginRecord} (found : x.2.records[id]? = some r) :
    r.toll = tally config.limits.maxCrashes id (0, false) x.2.events := by
  obtain ⟨-, recent, told, all⟩ :=
    Course.tallied ran.tracked.course (Pool.Tallied.refl (Pool.empty config))
  have events : x.2.events = recent := told.trans (List.append_nil recent)
  rw [← Pool.toll_of_record found, events]
  exact all id

/-- Each crash that was counted is that of an instance of the record, in the hand of the thread, whose
guest has broken the protocol. -/
theorem Ran.poisoned {config : PoolConfig} {x : ε × Pool σ ε} (ran : Ran engine config x)
    {id : RecordId} {n : InstanceId} {older : List PoolEvent}
    (noted : (.crashed id n :: older) <:+ x.2.events) :
    ∃ L, Reachable (habit engine) config L ∧ L.pool.events = older ∧ .lent id n ∈ L.loans ∧
      ∃ g, L.pool.instances[n]? = some (id, g) ∧ g.poisoned = true := by
  obtain ⟨st, -, rfl, cause⟩ := Course.cause ran.tracked.course noted List.nil_suffix
  cases cause with
  | crashed known there poisoned =>
    obtain ⟨retired, steps⟩ := known
    exact ⟨_, steps, rfl, by simp [Frame.loans_concat], _, there, poisoned⟩

/-- The events tell what happens to the tolls during a request, at whatever depth. -/
theorem tallied_formatFor {s : Ledger σ ε} (o : Orderly engine s) (voiced : s.pool.Voiced)
    (depth : Nat) (caller path text : String) (m : ConfigMap) (e : ε) :
    s.pool.Tallied
      (ending (PoolM.formatFor engine depth caller path text m.toDatum) (e, s.pool)).2.2 := by
  have begun : Tracked (habit engine) s ⟨[], s.pool⟩ [] s.pool := ⟨.refl, voiced⟩
  have tracked := tracked_formatFor depth s [] caller path text m e o .refl (zero_add _).symm
    (by simp [Answerable]) begun
  exact Course.tallied tracked.course (.refl s.pool)

/-- They tell what happens while an instance is borrowed, whether one is to be had or not. -/
theorem tallied_acquire {s : Ledger σ ε} (o : Orderly engine s) (voiced : s.pool.Voiced)
    (depth : Nat) {id : RecordId} (usable : s.Usable id) (e : ε) :
    s.pool.Tallied (ending (PoolM.acquire engine (PoolM.below engine depth) id) (e, s.pool)).2.2 := by
  obtain ⟨r, found, -⟩ := usable.2
  have heeds : Heeds engine s ⟨[] ++ [⟨some r.name, none⟩], s.pool⟩ (PoolM.below engine depth) :=
    heeds_below engine depth
  have begun : Tracked (habit engine) s ⟨[] ++ [⟨some r.name, none⟩], s.pool⟩
      ([] ++ [⟨some r.name, none⟩]) s.pool := ⟨.refl, voiced⟩
  have past : Past (habit engine) s (Frame.loans [] + s.loans) 0 s.pool := by
    rw [show (Frame.loans [] + s.loans : Multiset Loan) = s.loans from zero_add _]
    exact .refl s
  have tracked := tracked_acquire heeds o .refl found usable (e, s.pool) ⟨past, begun⟩
  revert tracked
  rcases ending (PoolM.acquire engine _ id) (e, s.pool) with ⟨f | n, y⟩
  · exact fun tracked => Course.tallied (Tracked.course tracked) (.refl s.pool)
  · exact fun tracked => Course.tallied (Tracked.course tracked) (.refl s.pool)

end

/-- The accounts of crashes. After any sequence of calls the events tell the toll of every record, and
each crash is that of a lent instance that broke the protocol; so the events do of what happens during a
request or a borrowing, in whatever ledger and at whatever depth. The use of a lent instance counts one
crash if the guest broke the protocol, and none otherwise; the success of a format call starts the count
again. A disabled plugin stays disabled, and nothing is lent of it. -/
theorem crashes_accounted (engine : Engine σ ε) (config : PoolConfig) :
    (∀ x, Ran engine config x →
      (∀ (id : RecordId) (r : PluginRecord), x.2.records[id]? = some r →
        r.toll = tally config.limits.maxCrashes id (0, false) x.2.events) ∧
      ∀ id n older, (.crashed id n :: older) <:+ x.2.events →
        ∃ L, Reachable (habit engine) config L ∧ L.pool.events = older ∧ .lent id n ∈ L.loans ∧
          ∃ g, L.pool.instances[n]? = some (id, g) ∧ g.poisoned = true) ∧
    (∀ s, Reachable (habit engine) config s → s.pool.Voiced → ∀ (depth : Nat) (e : ε),
      (∀ (caller path text : String) (m : ConfigMap), s.pool.Tallied
        (ending (PoolM.formatFor engine depth caller path text m.toDatum) (e, s.pool)).2.2) ∧
      ∀ id, s.Usable id → s.pool.Tallied
        (ending (PoolM.acquire engine (PoolM.below engine depth) id) (e, s.pool)).2.2) ∧
    (∀ s, Reachable (habit engine) config s → ∀ (id : RecordId) (n : InstanceId),
      .lent id n ∈ s.loans → Holds Loose id n s.pool →
      ∀ (depth : Nat) (path text : String) (m : ConfigMap) (e : ε),
        let out := PoolM.below engine depth
        Charged id n (lentCall out m id n path text (e, s.pool)).2.2
          (ending (PoolM.returning id n (PoolM.formatLent out id path text m.toDatum n))
            (e, s.pool)).2.2
          (lentCall out m id n path text (e, s.pool)).1) ∧
    (∀ (out : Outside ε (Pool σ ε)) (path text : String) (override : Datum) (e : ε) (p : Pool σ ε)
      (id : RecordId) (r : PluginRecord) (y : ε × Pool σ ε), p.records[id]? = some r →
      let inner := ending (PoolM.entering r.name
        (PoolM.borrowing engine out id (PoolM.formatLent out id path text override))) (e, p)
      let outer := ending (PoolM.formatWith engine out id path text override) (e, p)
      (∀ v, inner = (.ok v, y) → outer = (.ok v, y.1,
        { y.2.updateRecord id PluginRecord.succeed with events := .succeeded id :: y.2.events })) ∧
      ∀ f, inner = (.error f, y) → outer = (.error f, y)) ∧
    (∀ s s', Reachable (habit engine) config s → Steps (habit engine) s s' →
      ∀ (id : RecordId) (r : PluginRecord), s.pool.records[id]? = some r → r.status = .disabled →
        ∃ r', s'.pool.records[id]? = some r' ∧ r'.status = .disabled) ∧
    ∀ (α : Type) (out : Outside ε (Pool σ ε)) (use : InstanceId → PoolM σ ε α) (e : ε)
      (p : Pool σ ε) (id : RecordId) (r : PluginRecord), p.records[id]? = some r →
      r.status = .disabled →
        ending (PoolM.borrowing engine out id use) (e, p) =
          (.error (.disabled r.name r.error), e, p) ∧
        (Fault.disabled r.name r.error).kind = .unavailable := by
  have balanced : Balanced (habit engine) (.empty config) := .empty config
  refine ⟨?_, ?_, ?_, ?_, ?_, ?_⟩
  · exact fun x ran => ⟨fun id r found => ran.toll found, fun id n older noted => ran.poisoned noted⟩
  · intro s reachable voiced depth e
    have o : Orderly engine s := .of_reachable reachable
    exact ⟨fun caller path text m => tallied_formatFor o voiced depth caller path text m e,
      fun id usable => tallied_acquire o voiced depth usable e⟩
  · intro s reachable id n mine holds depth path text m e out
    exact charged_of_lent (.of_reachable reachable) mine holds depth path text m e
  · intro out path text override e p id r y found inner outer
    exact ⟨fun v ran => PoolM.ending_formatWith_of_ok found ran,
      fun f ran => PoolM.ending_formatWith_of_error found ran⟩
  · intro s s' reachable steps id r found disabled
    exact Steps.disabled steps (balanced.steps reachable)
      (Steps.pristine reachable balanced (pristine_empty config)) found disabled
  · intro α out use e p id r found disabled
    exact ⟨ending_borrowing_of_disabled engine out use e found disabled, rfl⟩

namespace Script

/-- A plugin whose formatter traps. -/
def trapping : Script := { overhanging with format := [.trap "boom"] }

/-- A pool with that plugin after a number of format calls. -/
def crashing : Nat → ScriptCounts × Pool ScriptState ScriptCounts
  | 0 => pooled trapping
  | n + 1 => (ending (PoolM.formatText (single trapping) "f.a" "x" (ConfigMap.toDatum []))
      (crashing n)).2

theorem ran_crashing (n : Nat) : Ran (single trapping) small (crashing n) := by
  induction n with
  | zero => exact ran_pooled trapping
  | succ n ih => exact ih.formatted "f.a" "x" []

end Script

open Script

/-- The general statement for a plugin that crashes three times: it is disabled then, and nothing is
lent of it. -/
theorem trapping_disabled :
    ∃ r, Ran (single trapping) small (crashing 3) ∧
      (crashing 3).2.records[0]? = some r ∧ r.status = .disabled ∧
      r.toll = tally 3 0 (0, false) (crashing 3).2.events ∧
      ending (PoolM.borrowing (single trapping) (PoolM.around (single trapping) small.limits) 0 pure)
        (crashing 3) = (.error (.disabled r.name r.error), crashing 3) := by
  have disabled : (crashing 3).2.records[0]?.map PluginRecord.status = some .disabled := by
    decide +kernel
  obtain ⟨r, found, status⟩ := Option.map_eq_some_iff.1 disabled
  obtain ⟨runs, -, -, -, -, lends⟩ := crashes_accounted (single trapping) small
  exact ⟨r, ran_crashing 3, found, status, (runs _ (ran_crashing 3)).1 0 r found,
    (lends InstanceId _ pure (crashing 3).1 (crashing 3).2 0 r found status).1⟩

end FormatHost
