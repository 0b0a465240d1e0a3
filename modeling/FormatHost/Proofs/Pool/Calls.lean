import FormatHost.Proofs.Config.Written
import FormatHost.Proofs.Pool.Conduct
/-!
# How format calls end

A format call borrows an instance, calls it, and gives it back. The end of the call on the instance
decides what the pool makes of it: a breach of the protocol is a crash, and the instance is dropped;
anything else leaves the instance in use, also a configuration that the host's stack had no room for.
-/
namespace FormatHost

open Ledger

variable {σ ε : Type}

/-- Why a call fails although the guest broke no rule of the protocol. -/
inductive Excused (m : ConfigMap) (g : Instance σ ε) (f : Fault) : Prop
  /-- A piece of a transfer left the guest's memory. -/
  | strayed (strayed : g.Strayed f)
  /-- The guest said that it cannot format the text. -/
  | reported (message : String) (same : f = .reported message)
  /-- An integer of the override is too long to be written. -/
  | unwritten (same : f = .integerTooLong) (long : ¬m.Writable)
  /-- The stack had no room for a configuration that the guest handed over. -/
  | interrupted (out : g.exports.RunsOut f)

/-- What the pool makes of the end of a call on an instance of a record. `q` is the pool right after
the call on the instance, `p` the pool in the end. -/
inductive Settlement (m : ConfigMap) (id : RecordId) (n : InstanceId) (q p : Pool σ ε) :
    Except Fault (Option String) → Except Fault (Option String) → Prop
  /-- The answer is handed on, and the instance waits again. -/
  | answered {v : Option String} {g : Instance σ ε} {r' : PluginRecord}
      (there : p.instances[n]? = some (id, g)) (healthy : g.poisoned = false)
      (record : p.records[id]? = some r') (waits : n ∈ r'.idle) : Settlement m id n q p (.ok v) (.ok v)
  /-- The guest broke the protocol: that is a crash, and the instance is dropped. -/
  | crashed {f : Fault} {g : Instance σ ε} {r r' : PluginRecord} (kind : f.kind = .guest)
      (there : p.instances[n]? = some (id, g)) (poisoned : g.poisoned = true)
      (away : ∀ (i : RecordId) (x : PluginRecord), p.records[i]? = some x → n ∉ x.idle)
      (before : q.records[id]? = some r) (record : p.records[id]? = some r')
      (crashes : r'.crashes = r.crashes + 1) : Settlement m id n q p (.error f) (.error (.crashed f))
  /-- The call failed otherwise: the fault is handed on, nothing is counted, and the instance waits
  again. -/
  | refused {f : Fault} {g : Instance σ ε} {r r' : PluginRecord}
      (reason : Excused m g f) (there : p.instances[n]? = some (id, g)) (healthy : g.poisoned = false)
      (before : q.records[id]? = some r) (record : p.records[id]? = some r')
      (crashes : r'.crashes = r.crashes) (waits : n ∈ r'.idle) :
      Settlement m id n q p (.error f) (.error f)

section

variable {engine : Engine σ ε} {s₀ : Ledger σ ε} {others : Multiset Loan}
  {out : Outside ε (Pool σ ε)}

theorem FormatRefused.excused {ω : Type} {m : ConfigMap} {f : Fault} {s : Scene σ ε ω}
    (refused : FormatRefused m.toDatum f s) : Excused m s.guest f := by
  rcases refused with (strayed | ⟨-, unwritten⟩) | ⟨message, same⟩
  · exact .strayed strayed
  · rcases ConfigMap.serialize_toDatum m with ⟨-, data, written⟩ | ⟨long, failed⟩
    · simp [written] at unwritten
    · obtain rfl := Except.error.inj (failed.symm.trans unwritten)
      exact .unwritten rfl long
  · exact .reported message same

theorem Excused.kind {m : ConfigMap} {f : Fault} {g : Instance σ ε} (excused : Excused m g f) :
    f.kind ∈ [FaultKind.outOfBounds, .format, .value, .recursion] := by
  cases excused with
  | strayed strayed =>
    obtain ⟨e, rfl, -⟩ := strayed
    simp [Fault.kind]
  | reported message same => simp [same, Fault.kind]
  | unwritten same => simp [same, Fault.kind]
  | interrupted out => simp [out.room.kind]

theorem Excused.kind_ne_guest {m : ConfigMap} {f : Fault} {g : Instance σ ε}
    (excused : Excused m g f) : f.kind ≠ .guest := fun same => absurd excused.kind (same ▸ by decide)

/-- A call that failed was a breach of the protocol, or there is an excuse. -/
theorem Ended.poisoned_or_excused {ω : Type} {W : ω → Prop} {g₀ : Instance σ ε} {m : ConfigMap}
    {f : Fault} {s : Scene σ ε ω}
    (ended : Ended (α := Option String) W g₀ false Windowed (FormatRefused m.toDatum) (.error f) s) :
    s.guest.poisoned = true ∧ f.kind = .guest ∨ s.guest.poisoned = false ∧ Excused m s.guest f := by
  rcases ended with (⟨-, poisoned, kind⟩ | ⟨sound, out⟩) | ⟨sound, refused⟩
  · exact .inl ⟨poisoned, kind⟩
  · exact .inr ⟨sound.healthy, .interrupted (sound.exports ▸ out)⟩
  · exact .inr ⟨sound.healthy, refused.excused⟩

/-- The call on a lent instance itself: what comes of it, and the pool right after. -/
def lentCall (out : Outside ε (Pool σ ε)) (m : ConfigMap) (id : RecordId) (n : InstanceId)
    (path text : String) (x : ε × Pool σ ε) : Except Fault (Option String) × ε × Pool σ ε :=
  ending (PoolM.withInstance n (GuestM.formatText out path text m.toDatum))
    (x.1, { x.2 with events := .formatting id n x.2.chain.active :: x.2.events })

theorem ending_formatLent (out : Outside ε (Pool σ ε)) (m : ConfigMap) (id : RecordId)
    (n : InstanceId) (path text : String) (x : ε × Pool σ ε) :
    ending (PoolM.formatLent out id path text m.toDatum n) x =
      match lentCall out m id n path text x with
      | (.ok v, y) => (.ok v, y)
      | (.error f, y) =>
        if f.kind = .guest then
          ending (do PoolM.markCrashed id n f.message; throw (.crashed f)) y
        else (.error f, y) :=
  PoolM.ending_formatLent out id path text m.toDatum n x

/-- A healthy instance was lent and called, and the pool drew its conclusions. -/
def Served (engine : Engine σ ε) (s₀ : Ledger σ ε) (others : Multiset Loan)
    (out : Outside ε (Pool σ ε)) (m : ConfigMap) (id : RecordId) (path text : String)
    (r : Except Fault (Option String)) (p : Pool σ ε) : Prop :=
  ∃ n x, Past (habit engine) s₀ others {.lent id n} x.2 ∧ Holds Windowed id n x.2 ∧
    Settlement m id n (lentCall out m id n path text x).2.2 p (lentCall out m id n path text x).1 r

/-- How a format call of a record ends: no instance was called, and the failure is a declared one or that of
an instance in the making that ran out of room; or one was called. -/
def FormatEnd (engine : Engine σ ε) (s₀ : Ledger σ ε) (others : Multiset Loan)
    (out : Outside ε (Pool σ ε)) (m : ConfigMap) (id : RecordId) (path text : String)
    (r : Except Fault (Option String)) (y : ε × Pool σ ε) : Prop :=
  Past (habit engine) s₀ others 0 y.2 ∧
    ((∃ f, r = .error f ∧ (Declared engine → f.kind.isFormat = true ∨ y.2.RunsOut id f)) ∨
      Served engine s₀ others out m id path text r y.2)

/-- A record that a thread deals with exists. -/
theorem Past.exists_record {h : Habit σ ε} {own : Multiset Loan} {p : Pool σ ε}
    (past : Past h s₀ others own p) (b : Balanced h s₀) {l : Loan} (mine : l ∈ own) :
    ∃ r, p.records[l.account]? = some r := by
  obtain ⟨retired, now⟩ := past.balanced b
  exact ⟨_, List.getElem?_eq_getElem (now.known l (Multiset.mem_add.2 (.inl mine)))⟩

/-- A lent instance is given back. -/
theorem Past.release {p : Pool σ ε} {id : RecordId} {n : InstanceId} {e : ε} {r : PluginRecord}
    {g : Instance σ ε} (past : Past (habit engine) s₀ others {.lent id n} p)
    (found : p.records[id]? = some r) (there : p.instances[n]? = some (id, g)) :
    ∃ q, ending (PoolM.release id n) (e, p) = (.ok (), e, q) ∧ Past (habit engine) s₀ others 0 q ∧
      q.instances[n]? = some (id, g) ∧ q.records[id]? = some (r.release n g.poisoned) := by
  obtain ⟨journal, ran⟩ := PoolM.exists_ending_release (e := e) found there
  have back : Past (habit engine) s₀ others 0 (p.updateRecord id (PluginRecord.release n g.poisoned)) := by
    refine past.next (fun retired => ⟨(if g.poisoned then {n} else 0) + retired, ?_⟩)
      fun _ _ _ _ => rfl
    have released : Ledger.Step (habit engine) ⟨p, .lent id n ::ₘ others, retired⟩
        ⟨p.updateRecord id (PluginRecord.release n g.poisoned), others,
          (if g.poisoned then {n} else 0) + retired⟩ := .release there
    simpa using released
  exact ⟨_, ran, back.notes ⟨rfl, rfl, rfl, rfl⟩, there, Pool.getElem?_updateRecord_self found _⟩

/-- A crash of a lent instance is counted. -/
theorem Past.crash (reason : String) (e : ε) {p : Pool σ ε} {id : RecordId} {n : InstanceId}
    {r : PluginRecord} {g : Instance σ ε} (past : Past (habit engine) s₀ others {.lent id n} p)
    (usable : s₀.Usable id) (found : p.records[id]? = some r)
    (there : p.instances[n]? = some (id, g)) :
    ∃ q, ending (PoolM.markCrashed id n reason) (e, p) = (.ok (), e, q) ∧
      Past (habit engine) s₀ others {.lent id n} q ∧ q.instances[n]? = some (id, g) ∧
      q.records[id]? = some (r.crash p.limits.maxCrashes reason) := by
  obtain ⟨journal, ran⟩ := PoolM.exists_ending_markCrashed n reason e found
  obtain ⟨_, -, r', found', status⟩ := past.usable usable
  obtain rfl : r = r' := Option.some.inj (found.symm.trans found')
  have counted : Past (habit engine) s₀ others {.lent id n}
      (p.updateRecord id (PluginRecord.crash p.limits.maxCrashes reason)) :=
    past.next (fun retired => ⟨retired, .crash (n := n) (by simp) found status⟩) fun _ _ _ _ => rfl
  exact ⟨_, ran, counted.notes ⟨rfl, rfl, rfl, rfl⟩, there,
    Pool.getElem?_updateRecord_self found _⟩

theorem lentCall_ends (o : Orderly engine s₀) (discreet : Discreet engine out) {id : RecordId}
    {n : InstanceId} (path text : String) (m : ConfigMap) {x : ε × Pool σ ε}
    (past : Past (habit engine) s₀ others {.lent id n} x.2) (holds : Holds Loose id n x.2) :
    Past (habit engine) s₀ others {.lent id n} (lentCall out m id n path text x).2.2 ∧
      ∃ (W : Pool σ ε → Prop) (g₀ : Instance σ ε) (s : Scene σ ε (Pool σ ε)),
        Ended W g₀ false Windowed (FormatRefused m.toDatum) (lentCall out m id n path text x).1 s ∧
          (lentCall out m id n path text x).2.2.instances[n]? = some (id, s.guest) := by
  have marked : Past (habit engine) s₀ others {.lent id n}
      { x.2 with events := .formatting id n x.2.chain.active :: x.2.events } :=
    past.notes ⟨rfl, rfl, rfl, rfl⟩
  exact ends_withInstance o discreet others (Multiset.mem_singleton_self (.lent id n))
    (rfl : (Loan.lent id n).account = id) rfl (.format path text m.toDatum)
    (fun W g₀ keeps => ends_ready (ends_formatText keeps path text m.toDatum))
    (fun _ _ _ _ ended => ended.world fun _ _ => Windowed.loose)
    (x.1, { x.2 with events := .formatting id n x.2.chain.active :: x.2.events })
    (And.intro marked (past.windowed o (Multiset.mem_singleton_self _) holds))

/-- What the pool makes of the use of an instance that a thread has borrowed. -/
theorem settlement_of_lent (o : Orderly engine s₀) (discreet : Discreet engine out)
    {id : RecordId} (usable : s₀.Usable id) {n : InstanceId} (path text : String) (m : ConfigMap)
    {x : ε × Pool σ ε} (past : Past (habit engine) s₀ others {.lent id n} x.2)
    (holds : Holds Loose id n x.2) :
    let y := ending (PoolM.returning id n (PoolM.formatLent out id path text m.toDatum n)) x
    Past (habit engine) s₀ others 0 y.2.2 ∧
      Settlement m id n (lentCall out m id n path text x).2.2 y.2.2
        (lentCall out m id n path text x).1 y.1 := by
  obtain ⟨e, p⟩ := x
  have called := lentCall_ends o discreet path text m past holds
  rw [PoolM.ending_returning, ending_formatLent]
  revert called
  rcases lentCall out m id n path text (e, p) with ⟨f | v, e', q⟩
  · rintro ⟨past', W, g₀, s, ended, there⟩
    obtain ⟨r, found⟩ := past'.exists_record o.balanced (Multiset.mem_singleton_self _)
    rcases ended.poisoned_or_excused with ⟨poisoned, kind⟩ | ⟨healthy, excused⟩
    · obtain ⟨q₁, crashed, past₁, there₁, record₁⟩ := past'.crash f.message e'
        usable found there
      obtain ⟨q', given, past'', there', record⟩ := past₁.release (e := e') record₁ there₁
      simp only [if_pos kind]
      rw [ending_bind (PoolM.markCrashed id n f.message), crashed]
      simp only [ending_throw]
      rw [ending_bind, given]
      rw [poisoned] at record
      refine ⟨past'', .crashed kind there' poisoned ?_ found record ?_⟩
      · intro i x found' waits
        obtain ⟨retired, now⟩ := past''.balanced o.balanced
        obtain ⟨g, there'', healthy⟩ := now.idle i x n found' waits
        obtain ⟨-, rfl⟩ := Prod.mk.inj (Option.some.inj (there'.symm.trans there''))
        exact absurd healthy (by simp [poisoned])
      · rw [PluginRecord.release, PluginRecord.crash]
        split <;> rfl
    · obtain ⟨q', given, past'', there', record⟩ := past'.release (e := e') found there
      simp only [if_neg excused.kind_ne_guest]
      rw [ending_bind, given]
      rw [healthy] at record
      exact ⟨past'', .refused excused there' healthy found record rfl
        (by simp [PluginRecord.release])⟩
  · rintro ⟨past', W, g₀, s, ended, there⟩
    have sound : Sound W g₀ false Windowed s := ended
    obtain ⟨r, found⟩ := past'.exists_record o.balanced (Multiset.mem_singleton_self _)
    obtain ⟨q', given, past'', there', record⟩ := past'.release (e := e') found there
    simp only
    rw [ending_bind, given]
    rw [sound.healthy] at record
    exact ⟨past'', .answered there' sound.healthy record (by simp [PluginRecord.release])⟩

theorem ends_borrowing (o : Orderly engine s₀) (discreet : Discreet engine out) {id : RecordId}
    (usable : s₀.Usable id) (path text : String) (m : ConfigMap) :
    Ends (fun x => Past (habit engine) s₀ others 0 x.2)
      (PoolM.borrowing engine out id (PoolM.formatLent out id path text m.toDatum))
      (FormatEnd engine s₀ others out m id path text) := by
  refine (ends_acquire o discreet usable).bind (fun n => ?_) ?_
  · rintro x ⟨past, holds⟩
    obtain ⟨past', settled⟩ := settlement_of_lent o discreet usable path text m past holds.loose
    exact ⟨past', .inr ⟨n, x, past, holds, settled⟩⟩
  · rintro f y ⟨past, unavailable⟩
    refine ⟨past, .inl ⟨f, rfl, fun declared => (unavailable declared usable).imp_left fun kind => ?_⟩⟩
    exact kind ▸ rfl

theorem Settlement.notes {m : ConfigMap} {id : RecordId} {n : InstanceId} {q p p' : Pool σ ε}
    {answer r : Except Fault (Option String)} (settled : Settlement m id n q p answer r)
    (same : SameAccounts p p') : Settlement m id n q p' answer r := by
  cases settled with
  | answered there healthy record waits =>
    exact .answered (same.instances ▸ there) healthy (same.records ▸ record) waits
  | crashed kind there poisoned away before record crashes =>
    exact .crashed kind (same.instances ▸ there) poisoned (same.records ▸ away) before
      (same.records ▸ record) crashes
  | refused reason there healthy before record crashes waits =>
    exact .refused reason (same.instances ▸ there) healthy before (same.records ▸ record) crashes
      waits

theorem FormatEnd.notes {m : ConfigMap} {id : RecordId} {path text : String}
    {r : Except Fault (Option String)} {y y' : ε × Pool σ ε}
    (ended : FormatEnd engine s₀ others out m id path text r y) (same : SameAccounts y.2 y'.2) :
    FormatEnd engine s₀ others out m id path text r y' := by
  refine ⟨ended.1.notes same, ended.2.imp ?_ ?_⟩
  · rintro ⟨f, failed, reason⟩
    refine ⟨f, failed, fun declared => (reason declared).imp_right ?_⟩
    rintro ⟨n, g, there, out⟩
    exact ⟨n, g, same.instances ▸ there, out⟩
  · rintro ⟨n, x, lent, holds, settled⟩
    exact ⟨n, x, lent, holds, settled.notes same⟩

/-- A success that is counted is no crash. -/
theorem Settlement.succeed {m : ConfigMap} {id : RecordId} {n : InstanceId} {q p : Pool σ ε}
    {answer : Except Fault (Option String)} {v : Option String}
    (settled : Settlement m id n q p answer (.ok v)) :
    Settlement m id n q (p.updateRecord id PluginRecord.succeed) answer (.ok v) := by
  cases settled with
  | answered there healthy record waits =>
    exact .answered there healthy (Pool.getElem?_updateRecord_self record _) waits

/-- The chain of active plugins is no account: it is entered and left again. -/
theorem ends_entering {m : ConfigMap} {id : RecordId} {path text : String}
    {use : PoolM σ ε (Option String)} (plugin : String)
    (ends : Ends (fun x => Past (habit engine) s₀ others 0 x.2) use
      (FormatEnd engine s₀ others out m id path text)) :
    Ends (fun x => Past (habit engine) s₀ others 0 x.2) (PoolM.entering plugin use)
      (FormatEnd engine s₀ others out m id path text) := by
  rintro ⟨e, p⟩ past
  rcases entered : p.chain.enter plugin with f | chain
  · rw [PoolM.ending_entering_of_error entered]
    refine ⟨past, .inl ⟨f, rfl, fun _ => .inl ?_⟩⟩
    rw [CallChain.eq_of_enter_eq_error entered]
    rfl
  · rw [PoolM.ending_entering_of_ok entered]
    have within : Past (habit engine) s₀ others 0 { p with chain := chain } :=
      past.notes ⟨rfl, rfl, rfl, rfl⟩
    exact (ends (e, { p with chain := chain }) within).notes ⟨rfl, rfl, rfl, rfl⟩

theorem ends_formatWith (o : Orderly engine s₀) (discreet : Discreet engine out) {id : RecordId}
    (usable : s₀.Usable id) (path text : String) (m : ConfigMap) :
    Ends (fun x => Past (habit engine) s₀ others 0 x.2)
      (PoolM.formatWith engine out id path text m.toDatum)
      (FormatEnd engine s₀ others out m id path text) := by
  rintro ⟨e, p⟩ past
  obtain ⟨retired, entered, r, found, status⟩ := past.usable usable
  rw [PoolM.ending_formatWith engine found]
  refine (ends_entering r.name (ends_borrowing o discreet usable path text m)).bind (fun v => ?_)
    (fun _ _ ended => ended) (e, p) past
  rintro ⟨e, q⟩ ⟨past, failed | served⟩
  · obtain ⟨f, failed, -⟩ := failed
    exact absurd failed (by simp)
  · have counted : Past (habit engine) s₀ others 0 (q.updateRecord id PluginRecord.succeed) :=
      past.next (fun retired => ⟨retired, .succeed id⟩) fun _ _ _ _ => rfl
    obtain ⟨n, x, lent, holds, settled⟩ := served
    refine ⟨counted.notes ⟨rfl, rfl, rfl, rfl⟩, .inr ⟨n, x, lent, holds, ?_⟩⟩
    exact settled.succeed.notes ⟨rfl, rfl, rfl, rfl⟩

/-- What is settled from a later start on is settled. -/
theorem FormatEnd.nested {m : ConfigMap} {id : RecordId} {path text : String}
    {r : Except Fault (Option String)} {p : Pool σ ε} {retired : Multiset InstanceId}
    {y : ε × Pool σ ε} (past : Past (habit engine) s₀ others 0 p)
    (steps : Steps (habit engine) s₀ ⟨p, 0 + others, retired⟩)
    (ended : FormatEnd engine ⟨p, 0 + others, retired⟩ (0 + others) out m id path text r y) :
    FormatEnd engine s₀ others out m id path text r y := by
  refine ⟨past.nested steps ended.1, ended.2.imp_right ?_⟩
  rintro ⟨n, x, lent, served⟩
  exact ⟨n, x, past.nested steps lent, served⟩

/-- A record that handles a path may be borrowed from. -/
theorem Ledger.Balanced.usable_of_resolve {h : Habit σ ε} {s : Ledger σ ε} {path : String}
    {id : RecordId} {r : PluginRecord} (b : Balanced h s)
    (resolved : s.pool.resolve path = some (id, r)) : s.Usable id := by
  obtain ⟨found, name, entry⟩ := Pool.mem_registry_of_resolve resolved
  exact ⟨(b.registered _ entry).1, r, found, (Pool.told_of_resolve resolved).2⟩

/-- What becomes of a guest's request in a pool: the request is noted, and how it failed if it did. -/
theorem run_ask_outside (room : Nat) (format : String → String → String → Datum → PoolM σ ε (Option String))
    (r : Request) (e : ε) (p : Pool σ ε) :
    ((PoolM.outside room format).ask r).run (e, p) =
      match ending (format r.caller r.path r.text r.override.toDatum) (e, { p with
        journal := .debug dispatchLogger
          ("Plugin " ++ r.caller ++ " requested formatting of " ++ r.path) :: p.journal }) with
      | (.error f, e, q) => (.failed f.message, e, { q with
          journal := .warning dispatchLogger ("Nested formatting of " ++ r.path ++ " for plugin " ++
            r.caller ++ " failed: " ++ f.message) :: q.journal })
      | (.ok none, y) => (.unchanged, y)
      | (.ok (some text), y) => (.changed text, y) := by
  rcases answer : ending (format r.caller r.path r.text r.override.toDatum) (e, { p with
      journal := .debug dispatchLogger
        ("Plugin " ++ r.caller ++ " requested formatting of " ++ r.path) :: p.journal })
    with ⟨f | _ | text, y⟩
  all_goals
    simp only [ending, ExceptT.run] at answer
    simp only [PoolM.outside, dispatch, PoolM.noteOutside, StateT.run_bind, StateT.run_modify,
      pure_bind, ExceptT.run, answer]
    rfl

/-- What instances find outside keeps what format calls preserve, if notes are no matter to it. -/
theorem keeps_outside {I : Pool σ ε → Prop} {room : Nat}
    {format : String → String → String → Datum → PoolM σ ε (Option String)}
    (noted : ∀ (p : Pool σ ε) journal overran, I p → I { p with journal, overran })
    (preserves : ∀ caller path text (m : ConfigMap),
      Preserves I (format caller path text m.toDatum)) : (PoolM.outside room format).Keeps I where
  ask r e p holds := by
    have ended := preserves r.caller r.path r.text r.override (e, _) (noted p
      (.debug dispatchLogger ("Plugin " ++ r.caller ++ " requested formatting of " ++ r.path) ::
        p.journal) p.overran holds)
    rw [run_ask_outside]
    revert ended
    rcases ending (format r.caller r.path r.text r.override.toDatum) _ with ⟨f | _ | text, e, q⟩
    · exact noted q _ q.overran
    · exact id
    · exact id
  pause e p holds := noted p p.journal true holds

/-- Requests that leave other threads' instances alone make a discreet outside. -/
theorem discreet_outside {room : Nat}
    {format : String → String → String → Datum → PoolM σ ε (Option String)}
    (conduct : ∀ s₀ others, Orderly engine s₀ → ∀ caller path text (m : ConfigMap),
      Ends (fun x => Past (habit engine) s₀ others 0 x.2) (format caller path text m.toDatum)
        fun _ x => Past (habit engine) s₀ others 0 x.2) :
    Discreet engine (PoolM.outside room format) where
  far := rfl
  keeps s₀ others o :=
    keeps_outside (fun _ _ _ past => past.notes ⟨rfl, rfl, rfl, rfl⟩) (conduct s₀ others o)

/-- A plugin's request leaves the instances alone that others have in hand, however deep it goes. -/
theorem ends_formatFor (o : Orderly engine s₀) (depth : Nat) (caller path text : String)
    (m : ConfigMap) :
    Ends (fun x => Past (habit engine) s₀ others 0 x.2)
      (PoolM.formatFor engine depth caller path text m.toDatum)
      fun _ x => Past (habit engine) s₀ others 0 x.2 := by
  induction depth generalizing s₀ others caller path text m with
  | zero =>
    rintro ⟨e, p⟩ past
    obtain ⟨journal, ⟨ran, -⟩ | ⟨id, r, -, -, ran⟩⟩ :=
      PoolM.exists_ending_formatFor engine 0 caller path text m.toDatum e p <;> rw [ran]
    · exact past.notes ⟨rfl, rfl, rfl, rfl⟩
    · exact past.notes ⟨rfl, rfl, rfl, rfl⟩
  | succ depth ih =>
    rintro ⟨e, p⟩ past
    obtain ⟨journal, ⟨ran, -⟩ | ⟨id, r, resolved, -, ran⟩⟩ :=
      PoolM.exists_ending_formatFor engine (depth + 1) caller path text m.toDatum e p <;> rw [ran]
    · exact past.notes ⟨rfl, rfl, rfl, rfl⟩
    · obtain ⟨retired, steps⟩ := past.steps
      have same : SameAccounts p { p with journal } := ⟨rfl, rfl, rfl, rfl⟩
      have further : Ledger.Step (habit engine) ⟨p, 0 + others, retired⟩
        ⟨{ p with journal }, 0 + others, retired⟩ := .note same
      have usable := further.usable ((o.steps steps).balanced.usable_of_resolve resolved)
      have discreet : Discreet engine (PoolM.below engine depth) := discreet_outside fun _ _ o => ih o
      have ended := ends_formatWith (o.steps (steps.tail further)) discreet usable path text m
        (e, { p with journal }) (.refl _)
      exact (past.notes same).nested (steps.tail further) ended.1

/-- What the instances of a pool find outside is discreet. -/
theorem discreet_below (engine : Engine σ ε) (depth : Nat) :
    Discreet engine (PoolM.below engine depth) :=
  discreet_outside fun _ _ o => ends_formatFor o depth

theorem discreet_around (engine : Engine σ ε) (limits : Limits) :
    Discreet engine (PoolM.around engine limits) := discreet_below engine limits.maxDepth

/-- How a format call on a pool ends: nobody handles the path, or the call of a record that handles it
ends. -/
theorem ends_formatCall (o : Orderly engine s₀) (path text : String) (m : ConfigMap) :
    Ends (fun x => Past (habit engine) s₀ others 0 x.2)
      (PoolM.formatText engine path text m.toDatum) fun r y =>
        r = .error (.noPlugin path) ∧ Past (habit engine) s₀ others 0 y.2 ∨
          ∃ id, FormatEnd engine s₀ others (PoolM.around engine s₀.pool.limits) m id path text r y := by
  rintro ⟨e, p⟩ past
  rcases resolved : p.resolve path with _ | ⟨id, r⟩
  · rw [PoolM.ending_formatText_of_none resolved]
    exact .inl ⟨rfl, past⟩
  · rw [PoolM.ending_formatText_of_resolve resolved]
    obtain ⟨retired, steps⟩ := past.steps
    have usable := (o.steps steps).balanced.usable_of_resolve resolved
    have ended := ends_formatWith (o.steps steps) (discreet_around engine p.limits) usable path text m
      (e, p) (.refl _)
    have same : p.limits = s₀.pool.limits := congrArg PoolConfig.limits past.config
    exact .inr ⟨id, same ▸ ended.nested past steps⟩

end

end FormatHost
