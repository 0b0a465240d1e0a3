import FormatHost.Pool.Register
import FormatHost.Proofs.Pool.Calls
/-!
# Runs of a pool

Registering a plugin, formatting and shutting down are runs of sections, so whatever is done with a
pool, it stays in a ledger that its threads can get to. What is proved of every such ledger holds of the
pool after every sequence of calls.
-/
namespace FormatHost

open Ledger

variable {σ ε : Type}

namespace Ledger

/-- A record keeps its name. -/
theorem Step.name {h : Habit σ ε} {s s' : Ledger σ ε} {id : RecordId} {r : PluginRecord}
    (st : Step h s s') (found : s.pool.records[id]? = some r) :
    ∃ r', s'.pool.records[id]? = some r' ∧ r'.name = r.name := by
  cases st with
  | pop entered found' lease =>
    obtain ⟨-, rest, last, rfl⟩ := PluginRecord.lease_eq_popped_iff.1 lease
    exact Pool.name_updateRecord
      (fun x there => by rw [Option.some.inj (found'.symm.trans there)]) found
  | reserve entered found' lease =>
    obtain ⟨-, empty, room, rfl⟩ := PluginRecord.lease_eq_reserved_iff.1 lease
    exact Pool.name_updateRecord
      (fun x there => by rw [Option.some.inj (found'.symm.trans there)]) found
  | crash =>
    exact Pool.name_updateRecord (fun x _ => PluginRecord.name_crash _ _ x) found
  | count | abandon | release | succeed | describe | accept | reject =>
    exact Pool.name_updateRecord (fun _ _ => rfl) found
  | create =>
    exact ⟨r, (List.getElem?_append_left (List.getElem?_eq_some_iff.1 found).1).trans found, rfl⟩
  | clear =>
    obtain ⟨idle, there⟩ := Pool.exists_getElem?_clear found
    exact ⟨_, there, rfl⟩
  | note same => exact ⟨r, same.records ▸ found, rfl⟩
  | load | drive | lend | loadFirst | enter => exact ⟨r, found, rfl⟩

theorem Steps.name {h : Habit σ ε} {s s' : Ledger σ ε} {id : RecordId} {r : PluginRecord}
    (st : Steps h s s') (found : s.pool.records[id]? = some r) :
    ∃ r', s'.pool.records[id]? = some r' ∧ r'.name = r.name := by
  induction st with
  | refl => exact ⟨r, found, rfl⟩
  | tail _ st ih =>
    obtain ⟨x, there, same⟩ := ih
    obtain ⟨r', found', name⟩ := st.name there
    exact ⟨r', found', name.trans same⟩

end Ledger

section

variable {engine : Engine σ ε} {s₀ : Ledger σ ε} {others own own' : Multiset Loan}
  {out : Outside ε (Pool σ ε)}

/-- How the loading of a plugin goes on. -/
def Introduced (engine : Engine σ ε) (s₀ : Ledger σ ε) (others : Multiset Loan) (id : RecordId) :
    Except Fault PluginInfo → ε × Pool σ ε → Prop
  | .ok _, x => Past (habit engine) s₀ others {.entering id} x.2
  | .error _, x => ∃ m told, Past (habit engine) s₀ others {.registering id m told} x.2

theorem ends_loadPlugin (o : Orderly engine s₀) (discreet : Discreet engine out) (id : RecordId) :
    Ends (fun x => Past (habit engine) s₀ others {.registering id none none} x.2)
      (PoolM.loadPlugin engine out id) (Introduced engine s₀ others id) := by
  have created : Ends (fun x => Past (habit engine) s₀ others {.registering id none none} x.2)
      (PoolM.createInstance engine out id)
      (MadeFor engine s₀ others Ready (.registering id · none) id) :=
    ends_createInstance o discreet (.inr ⟨none, rfl⟩)
  have asked (n : InstanceId) := ends_withInstance o discreet others
    (Multiset.mem_singleton_self (.registering id (some n) none))
    (rfl : (Loan.registering id (some n) none).account = id) rfl .info
    (fun W g₀ keeps => ends_pluginInfo keeps discreet.far) fun _ _ _ _ ended =>
      ended.world fun _ _ => Windowed.loose
  have configured (n : InstanceId) (info : PluginInfo) :
      Ends (fun x => Past (habit engine) s₀ others {.registering id (some n) (some info)} x.2 ∧
        Holds Ready id n x.2) (PoolM.configure out id n)
        (Configured engine s₀ others (.registering id (some n) (some info)) id n) :=
    ends_configure o discreet rfl rfl
  unfold PoolM.loadPlugin
  refine created.bind (fun n => ?_) fun f x ended => ?_
  · refine (asked n).bind (fun info => ?_) fun f x ended => ?_
    · rintro ⟨e, p⟩ ⟨past, W, g₀, s, sound, there⟩
      have told : Past (habit engine) s₀ others {.registering id (some n) (some info)}
          (p.updateRecord id fun r => { r with info := some info }) :=
        past.next (fun retired => ⟨retired, .describe info⟩) fun _ _ _ _ => rfl
      rw [ending_bind, PoolM.ending_updateRecord]
      refine (configured n info).bind (fun _ => ?_) (fun f x ended => ?_) (e, _)
        (And.intro told ((Sound.holds sound there).mono fun _ _ => Windowed.ready))
      · rintro ⟨e, q⟩ ⟨past, ⟨g, there, healthy, -, known⟩, writable⟩
        exact past.next (fun retired => ⟨retired, .accept there healthy known (writable _ _ rfl)⟩)
          fun _ _ _ _ => rfl
      · exact ⟨some n, some info, ended.1⟩
    · exact ⟨some n, none, ended.1⟩
  · obtain ⟨⟨m, past⟩, -⟩ := ended
    exact ⟨m, none, past⟩

/-- A thread that has just got somewhere. -/
theorem Past.start {h : Habit σ ε} {retired : Multiset InstanceId} (p : Pool σ ε) :
    Past h ⟨p, own + others, retired⟩ others own p where
  steps := ⟨retired, .refl⟩
  apart _ _ _ _ := rfl

/-- A thread that goes on from where it has got to. -/
theorem Past.trans {h : Habit σ ε} {p q : Pool σ ε} {retired : Multiset InstanceId}
    (past : Past h s₀ others own p) (steps : Steps h s₀ ⟨p, own + others, retired⟩)
    (further : Past h ⟨p, own + others, retired⟩ others own' q) : Past h s₀ others own' q where
  steps := further.steps.imp fun _ more => steps.trans more
  apart l other n number := (further.apart l other n number).trans (past.apart l other n number)

/-- A record that was loaded or not is entered under its name. -/
theorem Past.enter {p : Pool σ ε} {id : RecordId} {r : PluginRecord}
    (past : Past (habit engine) s₀ others {.entering id} p) (found : p.records[id]? = some r) :
    Past (habit engine) s₀ others 0 (p.enter r.name id) :=
  past.next (fun retired => ⟨retired, by
    have entered : Ledger.Step (habit engine) ⟨p, .entering id ::ₘ others, retired⟩
      ⟨p.enter r.name id, others, retired⟩ := .enter found
    simpa using entered⟩) fun _ _ _ _ => rfl

/-- A plugin is loaded, or its record says why it could not be. -/
theorem past_settleLoad (o : Orderly engine s₀) (discreet : Discreet engine out) (id : RecordId)
    {x : ε × Pool σ ε} (past : Past (habit engine) s₀ others {.registering id none none} x.2) :
    let loaded := ending (PoolM.loadPlugin engine out id) x
    Past (habit engine) s₀ others {.entering id} (settleLoad id loaded.1 loaded.2.2) := by
  have loaded := ends_loadPlugin o discreet id x past
  revert loaded
  rcases ending (PoolM.loadPlugin engine out id) x with ⟨f | info, y⟩
  · rintro ⟨m, told, past⟩
    refine past.next (fun retired => ⟨m.toList + retired, ?_⟩) fun _ _ _ _ => rfl
    have rejected : Ledger.Step (habit engine) ⟨y.2, .registering id m told ::ₘ others, retired⟩
      ⟨y.2.updateRecord id (PluginRecord.degrade f.message), .entering id ::ₘ others,
        m.toList + retired⟩ := .reject
    simpa [settleLoad] using rejected
  · exact fun past => past

/-- Registering a plugin leaves nothing in hand, whatever comes of it. -/
theorem ends_register (o : Orderly engine s₀) (name : String) (moduleBytes : Bytes) :
    Ends (fun x => Past (habit engine) s₀ others 0 x.2) (PoolM.register engine name moduleBytes)
      fun _ x => Past (habit engine) s₀ others 0 x.2 := by
  rintro ⟨e, p⟩ past
  cases valid : isPluginName name with
  | false =>
    rw [PoolM.ending_register_of_invalid engine valid]
    exact past
  | true =>
    obtain ⟨journal, ran⟩ := exists_ending_register engine valid moduleBytes e p
    rw [ran]
    -- From here on the record exists, and its name is known.
    let made : Pool σ ε := { p with records := p.records ++ [.fresh name moduleBytes] }
    have named : made.records[p.records.length]? = some (.fresh name moduleBytes) := by simp [made]
    have created : Past (habit engine) s₀ others {.registering p.records.length none none} made :=
      past.next (fun retired => ⟨retired, by
        have creation : Ledger.Step (habit engine) ⟨p, others, retired⟩
          ⟨made, .registering p.records.length none none ::ₘ others, retired⟩ := .create name moduleBytes
        simpa using creation⟩) fun _ _ _ _ => rfl
    obtain ⟨retired, steps⟩ := created.steps
    have settled := past_settleLoad (o.steps steps) (discreet_around engine p.limits)
      p.records.length (x := (e, made)) (.start made)
    obtain ⟨_, steps'⟩ := settled.steps
    obtain ⟨r, found, same⟩ := Steps.name steps' named
    have entered := created.trans steps (settled.enter found)
    rw [show r.name = name from same] at entered
    exact entered.notes ⟨rfl, rfl, rfl, rfl⟩

theorem ends_shutdown (engine : Engine σ ε) (s₀ : Ledger σ ε) :
    Ends (fun x => Past (habit engine) s₀ others 0 x.2) PoolM.shutdown
      fun _ x => Past (habit engine) s₀ others 0 x.2 := by
  rintro ⟨e, p⟩ past
  have cleared : Past (habit engine) s₀ others 0 p.clear :=
    past.next (fun retired => ⟨_, .clear⟩) fun _ _ _ _ => rfl
  exact cleared.notes ⟨rfl, rfl, rfl, rfl⟩

end

/-- The states that a pool gets to by calls one after the other. The guests' common state is part of
them. -/
inductive Ran (engine : Engine σ ε) (config : PoolConfig) : ε × Pool σ ε → Prop
  | opened (e : ε) : Ran engine config (e, .empty config)
  | registered {x : ε × Pool σ ε} (ran : Ran engine config x) (name : String)
      (moduleBytes : Bytes) : Ran engine config (ending (PoolM.register engine name moduleBytes) x).2
  | formatted {x : ε × Pool σ ε} (ran : Ran engine config x) (path text : String) (m : ConfigMap) :
      Ran engine config (ending (PoolM.formatText engine path text m.toDatum) x).2
  | cleared {x : ε × Pool σ ε} (ran : Ran engine config x) :
      Ran engine config (ending PoolM.shutdown x).2

/-- Between calls a pool is in a ledger that its threads can get to, with nothing in hand. -/
theorem Ran.reachable {engine : Engine σ ε} {config : PoolConfig} {x : ε × Pool σ ε}
    (ran : Ran engine config x) : ∃ retired, Reachable (habit engine) config ⟨x.2, 0, retired⟩ := by
  have past : Past (habit engine) (.empty config) 0 0 x.2 := by
    have o : Orderly engine (.empty config) := .of_reachable .refl
    induction ran with
    | opened => exact .refl _
    | registered ran name moduleBytes ih => exact ends_register o name moduleBytes _ ih
    | formatted ran path text m ih =>
      obtain ⟨-, past⟩ | ⟨id, past, -⟩ := ends_formatCall o path text m _ ih
      · exact past
      · exact past
    | cleared ran ih => exact ends_shutdown engine _ _ ih
  exact past.steps

end FormatHost
