import FormatHost.Proofs.Guest.Voice
import FormatHost.Proofs.Pool.Runs
/-!
# The course of a thread

What one thread does with a pool is a course of moves: it makes a plugin active inside those that are
active already, gets an instance in hand for it, lets the instance format, draws its conclusions, gives
the instance back, and leaves the plugin again. Between the moves the accounts change, and the guest in
hand may ask for more of the same.
-/
namespace FormatHost

open Ledger

variable {σ ε α β : Type}

/-! ### Moves -/

/-- A piece of work inside other work: the plugin that is active for it, unless it is the loading of a new
plugin, and what the thread has in hand for it. -/
structure Frame where
  name : Option String
  loan : Option Loan

namespace Frame

/-- The active plugins, outermost first. -/
def names (frames : List Frame) : List String := frames.filterMap Frame.name

/-- All that is in hand. -/
def loans (frames : List Frame) : Multiset Loan := (frames.filterMap Frame.loan : List Loan)

theorem names_concat (frames : List Frame) (f : Frame) :
    names (frames ++ [f]) = names frames ++ f.name.toList := by
  cases name : f.name <;> simp [names, name]

theorem loans_concat (frames : List Frame) (f : Frame) :
    loans (frames ++ [f]) = loans frames + (f.loan.toList : List Loan) := by
  cases loan : f.loan with
  | none => simp [loans, loan]
  | some l => simp [loans, loan, ← Multiset.coe_add]

/-- What is in hand concerns a record of the active plugin, or it takes no place of any record. -/
def Fits (p : Pool σ ε) : Option String → Loan → Prop
  | some name, l => ∃ r, p.records[l.account]? = some r ∧ r.name = name
  | none, l => ∀ id, l.charges id = false

end Frame

/-- A thread's work, one piece inside the other, and the pool. -/
structure Station (σ ε : Type) where
  frames : List Frame
  pool : Pool σ ε

/-- What is known of a plugin apart from its accounts. -/
def PluginRecord.standing (r : PluginRecord) : String × PluginStatus × Nat :=
  (r.name, r.status, r.crashes)

/-- Pools in which the same is active, has happened, and is known of the plugins. -/
structure Pool.SameStanding (p q : Pool σ ε) : Prop where
  config : q.config = p.config
  chain : q.chain = p.chain
  events : q.events = p.events
  records : ∀ id : RecordId,
    q.records[id]?.map PluginRecord.standing = p.records[id]?.map PluginRecord.standing

/-- The thread that started from a ledger has this work in hand, with this pool. -/
def Known (h : Habit σ ε) (s : Ledger σ ε) (frames : List Frame) (p : Pool σ ε) : Prop :=
  ∃ retired, Steps h s ⟨p, Frame.loans frames + s.loans, retired⟩

/-- One move of a thread that started from a ledger. -/
inductive Move (h : Habit σ ε) (s : Ledger σ ε) : Station σ ε → Station σ ε → Prop
  /-- The accounts change. -/
  | account {frames : List Frame} {p q : Pool σ ε} (same : p.SameStanding q) :
      Move h s ⟨frames, p⟩ ⟨frames, q⟩
  /-- Something else is in hand for the innermost work, or nothing. -/
  | take {frames : List Frame} {p : Pool σ ε} {name : Option String} {loan loan' : Option Loan}
      (fits : ∀ l, loan' = some l → Frame.Fits p name l) :
      Move h s ⟨frames ++ [⟨name, loan⟩], p⟩ ⟨frames ++ [⟨name, loan'⟩], p⟩
  /-- A plugin becomes active; an outer one that waits for it is another one. -/
  | enter {frames : List Frame} {p : Pool σ ε} {id : RecordId} {r : PluginRecord}
      {chain : CallChain} (found : p.records[id]? = some r)
      (entered : p.chain.enter r.name = .ok chain)
      (waits : ∀ f, frames.getLast? = some f → f.loan.isSome ∧ f.name ≠ some r.name) :
      Move h s ⟨frames, p⟩ ⟨frames ++ [⟨some r.name, none⟩], { p with chain }⟩
  /-- The innermost plugin is done. -/
  | leave {frames : List Frame} {p : Pool σ ε} {name : String} :
      Move h s ⟨frames ++ [⟨some name, none⟩], p⟩ ⟨frames, { p with chain := p.chain.exit }⟩
  /-- The instance in hand starts to format. -/
  | format {frames : List Frame} {p : Pool σ ε} {name : String} {id : RecordId} {n : InstanceId}
      (known : Known h s (frames ++ [⟨some name, some (.lent id n)⟩]) p) :
      Move h s ⟨frames ++ [⟨some name, some (.lent id n)⟩], p⟩
        ⟨frames ++ [⟨some name, some (.lent id n)⟩],
          { p with events := .formatting id n p.chain.active :: p.events }⟩
  /-- No instance is to be had. -/
  | exhaust {frames : List Frame} {p : Pool σ ε} {id : RecordId} {r : PluginRecord}
      (known : Known h s (frames ++ [⟨some r.name, none⟩]) p) (found : p.records[id]? = some r)
      (lease : r.lease p.limits.maxInstances = .exhausted) :
      Move h s ⟨frames ++ [⟨some r.name, none⟩], p⟩
        ⟨frames ++ [⟨some r.name, none⟩], { p with events := .exhausted id :: p.events }⟩
  /-- A crash of the instance in hand is counted: its guest has broken the protocol. -/
  | crash {frames : List Frame} {p : Pool σ ε} {name : String} {id : RecordId} {n : InstanceId}
      {r : PluginRecord} {g : Instance σ ε} {reason : String}
      (known : Known h s (frames ++ [⟨some name, some (.lent id n)⟩]) p)
      (found : p.records[id]? = some r) (there : p.instances[n]? = some (id, g))
      (poisoned : g.poisoned = true) :
      Move h s ⟨frames ++ [⟨some name, some (.lent id n)⟩], p⟩
        ⟨frames ++ [⟨some name, some (.lent id n)⟩],
          { p.updateRecord id (PluginRecord.crash p.limits.maxCrashes reason) with
            events := .crashed id n :: p.events }⟩
  /-- A success is counted. -/
  | succeed {frames : List Frame} {p : Pool σ ε} {id : RecordId} {r : PluginRecord}
      (found : p.records[id]? = some r) :
      Move h s ⟨frames, p⟩ ⟨frames,
        { p.updateRecord id PluginRecord.succeed with events := .succeeded id :: p.events }⟩
  /-- The loading of a new plugin begins. -/
  | create {p : Pool σ ε} (name : String) (moduleBytes : Bytes) :
      Move h s ⟨[], p⟩
        ⟨[⟨none, none⟩], { p with records := p.records ++ [.fresh name moduleBytes] }⟩
  /-- The loading of a new plugin is done, with or without success. -/
  | settle {frames : List Frame} {p : Pool σ ε} {loan : Option Loan} {id : RecordId}
      {r : PluginRecord} {f : PluginRecord → PluginRecord} (found : p.records[id]? = some r)
      (loaded : r.status = .loaded) (name : (f r).name = r.name)
      (crashes : (f r).crashes = r.crashes) (usable : (f r).status ≠ .disabled) :
      Move h s ⟨frames ++ [⟨none, loan⟩], p⟩ ⟨frames, p.updateRecord id f⟩

/-- Any number of moves. -/
abbrev Course (h : Habit σ ε) (s : Ledger σ ε) : Station σ ε → Station σ ε → Prop :=
  Relation.ReflTransGen (Move h s)

/-! ### Events -/

/-- Why a thread notes an event. -/
inductive Cause (h : Habit σ ε) (s : Ledger σ ε) : Station σ ε → PoolEvent → Prop
  /-- The instance in hand starts to format. -/
  | formatting {frames : List Frame} {p : Pool σ ε} {name : String} {id : RecordId}
      {n : InstanceId} (known : Known h s (frames ++ [⟨some name, some (.lent id n)⟩]) p) :
      Cause h s ⟨frames ++ [⟨some name, some (.lent id n)⟩], p⟩ (.formatting id n p.chain.active)
  /-- No instance is to be had for the innermost plugin. -/
  | exhausted {frames : List Frame} {p : Pool σ ε} {id : RecordId} {r : PluginRecord}
      (known : Known h s (frames ++ [⟨some r.name, none⟩]) p) (found : p.records[id]? = some r)
      (lease : r.lease p.limits.maxInstances = .exhausted) :
      Cause h s ⟨frames ++ [⟨some r.name, none⟩], p⟩ (.exhausted id)
  /-- The guest of the instance in hand has broken the protocol. -/
  | crashed {frames : List Frame} {p : Pool σ ε} {name : String} {id : RecordId} {n : InstanceId}
      {g : Instance σ ε} (known : Known h s (frames ++ [⟨some name, some (.lent id n)⟩]) p)
      (there : p.instances[n]? = some (id, g)) (poisoned : g.poisoned = true) :
      Cause h s ⟨frames ++ [⟨some name, some (.lent id n)⟩], p⟩ (.crashed id n)
  /-- A format call of a record succeeded. -/
  | succeeded {frames : List Frame} {p : Pool σ ε} {id : RecordId} {r : PluginRecord}
      (found : p.records[id]? = some r) : Cause h s ⟨frames, p⟩ (.succeeded id)

theorem Move.cause {h : Habit σ ε} {s : Ledger σ ε} {a b : Station σ ε} (move : Move h s a b) :
    b.pool.events = a.pool.events ∨
      ∃ event, Cause h s a event ∧ b.pool.events = event :: a.pool.events := by
  cases move with
  | account same => exact .inl same.events
  | format known => exact .inr ⟨_, .formatting known, rfl⟩
  | exhaust known found lease => exact .inr ⟨_, .exhausted known found lease, rfl⟩
  | crash known found there poisoned => exact .inr ⟨_, .crashed known there poisoned, rfl⟩
  | succeed found => exact .inr ⟨_, .succeeded found, rfl⟩
  | take | enter | leave | create | settle => exact .inl rfl

/-- Events are noted in front of the older ones. -/
theorem Course.events {h : Habit σ ε} {s : Ledger σ ε} {a b : Station σ ε} (course : Course h s a b) :
    a.pool.events <:+ b.pool.events := by
  induction course with
  | refl => exact List.suffix_rfl
  | tail _ move ih =>
    rcases move.cause with same | ⟨event, -, noted⟩
    · rwa [same]
    · rw [noted]
      exact ih.trans (List.suffix_cons _ _)

/-- Whatever was noted on a course had its cause at a station of the course. -/
theorem Course.cause {h : Habit σ ε} {s : Ledger σ ε} {a b : Station σ ε} (course : Course h s a b)
    {event : PoolEvent} {older : List PoolEvent} (noted : (event :: older) <:+ b.pool.events)
    (since : a.pool.events <:+ older) :
    ∃ st, Course h s a st ∧ st.pool.events = older ∧ Cause h s st event := by
  induction course with
  | refl =>
    have shorter := noted.length_le
    have longer := since.length_le
    simp only [List.length_cons] at shorter
    omega
  | @tail c d before move ih =>
    rcases move.cause with same | ⟨last, cause, new⟩
    · exact ih (same ▸ noted)
    · rw [new] at noted
      rcases List.suffix_cons_iff.1 noted with whole | earlier
      · obtain ⟨rfl, rfl⟩ := List.cons.inj whole
        exact ⟨c, before, rfl, cause⟩
      · exact ih earlier

/-- Instances speak in the names of the records that made them. -/
def Pool.Voiced (p : Pool σ ε) : Prop :=
  ∀ (n : InstanceId) (id : RecordId) (g : Instance σ ε), p.instances[n]? = some (id, g) →
    ∃ r, p.records[id]? = some r ∧ g.Speaks r.name

/-- A thread is on its course. -/
structure Tracked (h : Habit σ ε) (s : Ledger σ ε) (start : Station σ ε) (frames : List Frame)
    (p : Pool σ ε) : Prop where
  course : Course h s start ⟨frames, p⟩
  voiced : p.Voiced

namespace Pool.SameStanding

/-- A change of a record that leaves alone what is known of the plugin. -/
theorem updateRecord (p : Pool σ ε) (id : RecordId) {f : PluginRecord → PluginRecord}
    (keeps : ∀ r, p.records[id]? = some r → (f r).standing = r.standing) :
    p.SameStanding (p.updateRecord id f) where
  config := rfl
  chain := rfl
  events := rfl
  records i := by
    by_cases same : i = id
    · subst same
      cases found : p.records[i]? with
      | none => simp [Pool.updateRecord, found]
      | some r => simp [Pool.updateRecord, found, keeps r found]
    · rw [Pool.getElem?_updateRecord_ne p same]

theorem clear (p : Pool σ ε) : p.SameStanding p.clear where
  config := rfl
  chain := rfl
  events := rfl
  records id := by
    cases found : p.records[id]? with
    | some r =>
      obtain ⟨idle, there⟩ := Pool.exists_getElem?_clear found
      rw [there]
      rfl
    | none =>
      have beyond : p.clear.records.length ≤ id :=
        (Pool.length_clear p).trans_le (List.getElem?_eq_none_iff.1 found)
      rw [List.getElem?_eq_none beyond]

/-- Records keep their names. -/
theorem name {p q : Pool σ ε} (same : p.SameStanding q) {id : RecordId} {r : PluginRecord}
    (found : p.records[id]? = some r) : ∃ r', q.records[id]? = some r' ∧ r'.name = r.name := by
  have records := same.records id
  rw [found] at records
  obtain ⟨r', there, standing⟩ := Option.map_eq_some_iff.1 records
  exact ⟨r', there, congrArg Prod.fst standing⟩

end Pool.SameStanding

namespace Pool.Voiced

variable {p q : Pool σ ε}

/-- Instances speak in the same names where these stay. -/
theorem keep (voiced : p.Voiced) (instances : q.instances = p.instances)
    (names : ∀ (id : RecordId) (r : PluginRecord), p.records[id]? = some r →
      ∃ r', q.records[id]? = some r' ∧ r'.name = r.name) : q.Voiced := by
  intro n id g there
  obtain ⟨r, found, speaks⟩ := voiced n id g (instances ▸ there)
  obtain ⟨r', found', name⟩ := names id r found
  exact ⟨r', found', name ▸ speaks⟩

theorem withState (voiced : p.Voiced) {n : InstanceId} {id : RecordId} {g : Instance σ ε}
    {r : PluginRecord} (found : p.records[id]? = some r) (speaks : g.Speaks r.name) :
    (Ledger.withState p n id g).Voiced := by
  intro m i x there
  by_cases same : n = m
  · subst same
    have known : n < p.instances.length := by
      simpa [Ledger.withState] using (List.getElem?_eq_some_iff.1 there).1
    obtain ⟨rfl, rfl⟩ : id = i ∧ g = x := by simpa [Ledger.withState, known] using there
    exact ⟨r, found, speaks⟩
  · exact voiced m i x (by simpa [Ledger.withState, same] using there)

theorem withNew (voiced : p.Voiced) {id : RecordId} {g : Instance σ ε} {r : PluginRecord}
    (found : p.records[id]? = some r) (speaks : g.Speaks r.name) :
    (Ledger.withNew p id g).Voiced := by
  intro m i x there
  rcases List.mem_append.1 (List.mem_of_getElem? there) with old | new
  · obtain ⟨k, there⟩ := List.getElem?_of_mem old
    exact voiced k i x there
  · obtain ⟨rfl, rfl⟩ := Prod.mk.inj (List.mem_singleton.1 new)
    exact ⟨r, found, speaks⟩

end Pool.Voiced

namespace Tracked

variable {h : Habit σ ε} {s : Ledger σ ε} {start : Station σ ε} {frames frames' : List Frame}
  {p q : Pool σ ε}

/-- The accounts change, and the instances stay. -/
theorem account (tracked : Tracked h s start frames p) (same : p.SameStanding q)
    (instances : q.instances = p.instances) : Tracked h s start frames q :=
  ⟨tracked.course.tail (.account same),
    tracked.voiced.keep instances fun _ _ found => same.name found⟩

/-- A record changes, and what is known of its plugin stays. -/
theorem updateRecord (tracked : Tracked h s start frames p) (id : RecordId)
    {f : PluginRecord → PluginRecord}
    (keeps : ∀ r, p.records[id]? = some r → (f r).standing = r.standing) :
    Tracked h s start frames (p.updateRecord id f) :=
  tracked.account (.updateRecord p id keeps) rfl

/-- Something else is noted in the journal. -/
theorem notes (tracked : Tracked h s start frames p) (journal : List LogRecord) :
    Tracked h s start frames { p with journal } :=
  tracked.account ⟨rfl, rfl, rfl, fun _ => rfl⟩ rfl

/-- Something else is in hand. -/
theorem take {name : Option String} {loan : Option Loan}
    (tracked : Tracked h s start (frames ++ [⟨name, loan⟩]) p) (loan' : Option Loan)
    (fits : ∀ l, loan' = some l → Frame.Fits p name l) :
    Tracked h s start (frames ++ [⟨name, loan'⟩]) p :=
  ⟨tracked.course.tail (.take fits), tracked.voiced⟩

/-- A crash of the instance in hand is counted. -/
theorem crash {name : String} {id : RecordId} {n : InstanceId} {r : PluginRecord}
    {g : Instance σ ε}
    (tracked : Tracked h s start (frames ++ [⟨some name, some (.lent id n)⟩]) p)
    (known : Known h s (frames ++ [⟨some name, some (.lent id n)⟩]) p)
    (found : p.records[id]? = some r) (there : p.instances[n]? = some (id, g))
    (poisoned : g.poisoned = true) (reason : String) :
    Tracked h s start (frames ++ [⟨some name, some (.lent id n)⟩])
      { p.updateRecord id (PluginRecord.crash p.limits.maxCrashes reason) with
        events := .crashed id n :: p.events } :=
  ⟨tracked.course.tail (.crash known found there poisoned), tracked.voiced.keep rfl fun _ _ there =>
    Pool.name_updateRecord (fun x _ => PluginRecord.name_crash _ reason x) there⟩

/-- A success is counted. -/
theorem succeed (tracked : Tracked h s start frames p) {id : RecordId} {r : PluginRecord}
    (found : p.records[id]? = some r) :
    Tracked h s start frames
      { p.updateRecord id PluginRecord.succeed with events := .succeeded id :: p.events } :=
  ⟨tracked.course.tail (.succeed found), tracked.voiced.keep rfl fun _ _ there =>
    Pool.name_updateRecord (fun _ _ => rfl) there⟩

end Tracked

end FormatHost
