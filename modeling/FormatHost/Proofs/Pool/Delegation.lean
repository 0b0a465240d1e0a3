import FormatHost.Proofs.Config.Overlong
import FormatHost.Proofs.Guest.Scripted
import FormatHost.Proofs.Pool.Abreast
import FormatHost.Proofs.Pool.Aside
import FormatHost.Proofs.Pool.Nesting
/-!
# Formatting through another plugin

A plugin that has the host format its texts under one path is transparent: a call that goes through it
comes to what a call on that path comes to. Path, text and override cross the boundary twice and the
answer comes back, and none of it is changed on the way. What a relay cannot pass on is an override that
the host does not read as it was meant: one with an integer that is too long, or with two keys that are
written in the same way. An override in writing has one container, so there is always room for it.
-/
namespace FormatHost

open Ledger

variable {σ ε : Type}

/-- Two format calls come to the same: the same text or none, or failures to format that say the same. -/
inductive SameOutcome : Except Fault (Option String) → Except Fault (Option String) → Prop
  | answered (v : Option String) : SameOutcome (.ok v) (.ok v)
  | failed {f f' : Fault} (kind : f.kind.isFormat = true) (kind' : f'.kind.isFormat = true)
      (message : f'.message = f.message) : SameOutcome (.error f) (.error f')

theorem SameOutcome.toOption_eq {result result' : Except Fault (Option String)}
    (same : SameOutcome result result') : result.toOption = result'.toOption := by
  cases same <;> rfl

/-- What a request learns of the format call that it leads to. -/
def Outcome.of : Except Fault (Option String) → Outcome
  | .ok none => .unchanged
  | .ok (some text) => .changed text
  | .error f => .failed f.message

/-- What is staged spells an override: nothing is staged for the empty one, or a text that the host reads as
the override with the room that it has, or its written form, if its keys are written in different ways. -/
inductive Spells (room : Nat) : Option String → ConfigMap → Prop
  | nothing : Spells room none []
  | read {o : String} {m : ConfigMap} (read : ConfigMap.parse room (Utf8.encode o) = .ok m)
      (writable : m.Writable) : Spells room (some o) m
  | written {o : String} {m : ConfigMap} (written : ConfigMap.serialize m.toDatum = .ok (Utf8.encode o))
      (distinct : (m.map fun e => Json.quoted e.1).Nodup) : Spells room (some o) m

/-- The plugin of a path delegates to another one, which goes by itself, and an instance of the
delegating plugin is to be had. -/
structure Relayed (engine : Engine σ ε) (view : TransferView σ) (d : Delegation) (path : String)
    (x : ε × Pool σ ε) (a b : RecordId) (r r' : PluginRecord) : Prop where
  source : x.2.resolve path = some (a, r)
  target : x.2.resolve d.path = some (b, r')
  other : r'.name ≠ r.name
  delegates : ∀ e m, (engine r.moduleBytes e).1 = .ok m → m.Delegates view d
  solitary : ∀ e m, (engine r'.moduleBytes e).1 = .ok m → m.Solitary
  alike : ∀ e e', (engine r'.moduleBytes e').1 = (engine r'.moduleBytes e).1
  available : ∃ n, (ending (PoolM.entering r.name
    (PoolM.acquire engine (PoolM.around engine x.2.limits) a)) x).1 = .ok n

section

variable {room : Nat} {o : Option String} {m : ConfigMap}

theorem ConfigMap.readable_none (room : Nat) : ConfigMap.Readable room none :=
  fun _ staged => absurd staged (by simp)

/-- What is read is what a request for which it is staged has as its override. -/
theorem ConfigMap.readable_of_parse {o : String} (read : ConfigMap.parse room (Utf8.encode o) = .ok m) :
    ConfigMap.Readable room (some o) ∧ ConfigMap.ofStaged (some o) = m := by
  obtain rfl := ConfigMap.eq_spelled_of_parse read
  refine ⟨fun o' same => ?_, rfl⟩
  obtain rfl := Option.some.inj same
  exact read

/-- The host reads what is staged, and writes it as it writes the override. -/
theorem Spells.ofStaged (spells : Spells room o m) :
    ConfigMap.Readable room o ∧ (ConfigMap.ofStaged o).toDatum.isBlank = m.toDatum.isBlank ∧
      ConfigMap.serialize (ConfigMap.ofStaged o).toDatum = ConfigMap.serialize m.toDatum := by
  cases spells with
  | nothing => exact ⟨ConfigMap.readable_none room, rfl, rfl⟩
  | read read =>
    obtain ⟨readable, rfl⟩ := ConfigMap.readable_of_parse read
    exact ⟨readable, rfl, rfl⟩
  | written written distinct =>
    obtain ⟨m', read, same, blank⟩ := ConfigMap.serialize_parse written distinct
    obtain ⟨readable, rfl⟩ := ConfigMap.readable_of_parse (read room)
    rw [ConfigMap.isBlank_toDatum, ConfigMap.isBlank_toDatum]
    exact ⟨readable, blank, same.trans written.symm⟩

theorem Spells.writable (spells : Spells room o m) : m.Writable := by
  cases spells with
  | nothing => exact fun e here => absurd here (by simp)
  | read read writable => exact writable
  | written written distinct => exact ConfigMap.writable_of_serialize written

end

/-- No override is the empty one. -/
theorem PoolM.formatText_null (engine : Engine σ ε) (path text : String) :
    PoolM.formatText engine path text .null =
      PoolM.formatText engine path text (ConfigMap.toDatum []) := rfl

/-- A request learns what the format call comes to. -/
theorem outcome_ask_outside (room : Nat)
    (format : String → String → String → Datum → PoolM σ ε (Option String)) (r : Request) (e : ε)
    (p : Pool σ ε) :
    (((PoolM.outside room format).ask r).run (e, p)).1 =
      .of (ending (format r.caller r.path r.text r.override.toDatum) (e, { p with
        journal := .debug dispatchLogger
          ("Plugin " ++ r.caller ++ " requested formatting of " ++ r.path) :: p.journal })).1 := by
  rw [run_ask_outside]
  rcases ending (format r.caller r.path r.text r.override.toDatum) _ with ⟨f | _ | text, y⟩ <;> rfl

/-- An instance that waits is lent. -/
theorem PoolM.exists_acquire_of_waits (engine : Engine σ ε) (out : Outside ε (Pool σ ε)) (e : ε)
    {p : Pool σ ε} {id : RecordId} {r : PluginRecord} (found : p.records[id]? = some r)
    (enabled : r.status ≠ .disabled) (waits : r.idle ≠ []) :
    ∃ n, (ending (PoolM.acquire engine out id) (e, p)).1 = .ok n := by
  have lease : r.lease p.limits.maxInstances = .popped (r.idle.getLast waits)
      { r with idle := r.idle.dropLast, inUse := r.inUse + 1 } :=
    PluginRecord.lease_of_idle enabled (List.dropLast_concat_getLast waits).symm
  rw [PoolM.ending_acquire engine out found, lease]
  exact ⟨_, rfl⟩

section

variable {engine : Engine σ ε} {config : PoolConfig} {view : TransferView σ} {d : Delegation}
  {path : String} {e : ε} {p : Pool σ ε} {a b : RecordId} {r r' : PluginRecord}

/-- The pool in which this plugin alone is active. -/
def Pool.activated (p : Pool σ ε) (name : String) : Pool σ ε :=
  { p with chain := ⟨p.limits.maxDepth, [name]⟩ }

theorem Ran.enter (ran : Ran engine config (e, p)) (name : String) :
    p.chain.enter name = .ok ⟨p.limits.maxDepth, [name]⟩ := by
  rw [show p.chain = ⟨p.limits.maxDepth, []⟩ from ran.idle.trans (CallChain.empty_maxDepth p.limits)]
  exact CallChain.enter_of_lt (c := ⟨p.limits.maxDepth, []⟩) p.limits.one_le_maxDepth name

/-- A call from outside comes to what becomes of borrowing and calling an instance. -/
theorem Ran.result_formatText (ran : Ran engine config (e, p)) {id : RecordId} {r : PluginRecord}
    (resolved : p.resolve path = some (id, r)) (text : String) (m : ConfigMap) :
    (ending (PoolM.formatText engine path text m.toDatum) (e, p)).1 =
      borrowedCall engine (PoolM.around engine p.limits) m id path text (e, p.activated r.name) := by
  obtain ⟨retired, reachable⟩ := ran.reachable
  have o := Orderly.of_reachable reachable
  rw [PoolM.ending_formatText_of_resolve resolved]
  exact result_formatWith o (discreet_around engine p.limits) (o.balanced.usable_of_resolve resolved)
    (.refl _) (Pool.mem_registry_of_resolve resolved).1 (ran.enter r.name)

/-- The override of a call that a lent instance answered has a written form. -/
theorem writable_of_lentCall {out : Outside ε (Pool σ ε)} {m : ConfigMap} {id : RecordId}
    {n : InstanceId} {text : String} {x : ε × Pool σ ε} {v : Option String}
    (answered : (lentCall out m id n path text x).1 = .ok v) : m.Writable := by
  let q : Pool σ ε := { x.2 with events := .formatting id n x.2.chain.active :: x.2.events }
  unfold lentCall at answered
  cases blank : m.toDatum.isBlank with
  | true =>
    rw [ConfigMap.isBlank_toDatum, List.isEmpty_iff] at blank
    exact fun e here => absurd here (by simp [blank])
  | false =>
    cases there : x.2.instances[n]? with
    | none => simp [PoolM.withInstance, ending, ExceptT.run, ExceptT.mk, StateT.run, there] at answered
    | some owned =>
      rw [PoolM.ending_withInstance (x := (x.1, q)) there] at answered
      obtain ⟨data, written⟩ := written_of_formatText blank answered
      exact ConfigMap.writable_of_serialize written

/-- So has the override of a call from outside. -/
theorem Ran.writable_of_answered (ran : Ran engine config (e, p)) {text : String} {m : ConfigMap}
    {v : Option String}
    (answered : (ending (PoolM.formatText engine path text m.toDatum) (e, p)).1 = .ok v) :
    m.Writable := by
  cases resolved : p.resolve path with
  | none =>
    simp [PoolM.ending_formatText_of_none resolved] at answered
  | some found =>
    rw [ran.result_formatText resolved] at answered
    unfold borrowedCall at answered
    split at answered
    next => simp at answered
    next n y lent =>
      cases called : (lentCall (PoolM.around engine p.limits) m found.1 n path text y).1 with
      | error f => simp [called, settled] at answered
      | ok answer => exact writable_of_lentCall called

theorem Ran.limits {x : ε × Pool σ ε} (ran : Ran engine config x) : x.2.limits = config.limits := by
  obtain ⟨retired, reachable⟩ := ran.reachable
  exact congrArg PoolConfig.limits (Steps.config reachable)

/-- An instance of a delegating plugin is in hand, and beside it the pool is as it was. -/
structure InHand (engine : Engine σ ε) (config : PoolConfig) (view : TransferView σ)
    (d : Delegation) (p : Pool σ ε) (a : RecordId) (r : PluginRecord) (n : InstanceId)
    (q : Pool σ ε) : Prop where
  aside : (p.activated r.name).Aside a q
  reachable : ∃ loans retired, Reachable (habit engine) config ⟨q, loans, retired⟩
  there : ∃ g, q.instances[n]? = some (a, g) ∧ g.busy = false ∧ Delegates view d g.exports ∧
    Poised d r.name g.exports g

theorem InHand.notes {n : InstanceId} {q q' : Pool σ ε} (inHand : InHand engine config view d p a r n q)
    (same : SameAccounts q q') (chain : q'.chain = q.chain) :
    InHand engine config view d p a r n q' where
  aside :=
    { config := same.config.trans inHand.aside.config
      registry := same.registry.trans inHand.aside.registry
      chain := chain.trans inHand.aside.chain
      faces := by rw [same.records]; exact inHand.aside.faces
      records := by rw [same.records]; exact inHand.aside.records
      instances := by rw [same.instances]; exact inHand.aside.instances }
  reachable := by
    obtain ⟨loans, retired, reachable⟩ := inHand.reachable
    exact ⟨loans, retired, reachable.tail (.note same)⟩
  there := by rw [same.instances]; exact inHand.there

variable (ran : Ran engine config (e, p)) (relayed : Relayed engine view d path (e, p) a b r r')
include ran relayed

/-- The delegating plugin is borrowed from. -/
theorem Relayed.exists_lent :
    ∃ n y, ending (PoolM.acquire engine (PoolM.around engine p.limits) a) (e, p.activated r.name) =
      (.ok n, y) ∧ InHand engine config view d p a r n y.2 := by
  obtain ⟨retired, reachable⟩ := ran.reachable
  have o := Orderly.of_reachable reachable
  have known : (p.activated r.name).records[a]? = some r :=
    (Pool.mem_registry_of_resolve relayed.source).1
  have start : Past (habit engine) ⟨p, 0, retired⟩ 0 0 (p.activated r.name) :=
    Past.notes (.refl _) ⟨rfl, rfl, rfl, rfl⟩
  have fosters := fosters_around (breeds_forwarding relayed.delegates) p.limits
  have bred := ((ran.bred (breeds_forwarding relayed.delegates)).notes
    (q := p.activated r.name) rfl rfl).self
  have borrowed := ends_acquire o (discreet_around engine p.limits)
    (o.balanced.usable_of_resolve relayed.source) (e, p.activated r.name) start
  have fostered := fosters_acquire (breeds_forwarding relayed.delegates) fosters a _
    (e, p.activated r.name) bred
  obtain ⟨n, available⟩ := relayed.available
  have available : (ending (PoolM.acquire engine (PoolM.around engine p.limits) a)
      (e, p.activated r.name)).1 = .ok n := (result_entering _ (ran.enter r.name)).symm.trans available
  rcases lent : ending (PoolM.acquire engine (PoolM.around engine p.limits) a)
    (e, p.activated r.name) with ⟨f | m, y⟩
  · exact absurd (congrArg Prod.fst lent ▸ available) (by simp)
  · rw [lent] at borrowed fostered
    obtain ⟨past, g, there, -, settled⟩ := borrowed
    obtain ⟨retired', steps⟩ := past.steps
    obtain ⟨exports, poised⟩ := fostered.traits known there rfl
    exact ⟨m, y, rfl, aside_acquire relayed.delegates fosters known rfl bred lent,
      ⟨_, retired', reachable.trans steps⟩, g, there, settled.1, exports, poised⟩

omit ran in
theorem Relayed.apart : b ≠ a := by
  rintro rfl
  have same := (Pool.mem_registry_of_resolve relayed.source).1.symm.trans
    (Pool.mem_registry_of_resolve relayed.target).1
  exact relayed.other (congrArg PluginRecord.name (Option.some.inj same)).symm

section

variable {n : InstanceId} {q : Pool σ ε} (inHand : InHand engine config view d p a r n q)
include inHand

omit ran in
/-- The path of the other plugin still goes to it. -/
theorem InHand.target : q.resolve d.path = some (b, r') := by
  obtain ⟨r'', resolved, -⟩ := Pool.exists_resolve (p := p) inHand.aside.registry
    inHand.aside.faces relayed.target
  have found := (Pool.mem_registry_of_resolve resolved).1.symm.trans
    ((inHand.aside.records b relayed.apart).trans (Pool.mem_registry_of_resolve relayed.target).1)
  rwa [Option.some.inj found] at resolved

/-- A format call of the other plugin comes to what it comes to from outside, inside the delegating
plugin as well. -/
theorem InHand.result (deep : 2 ≤ p.limits.maxDepth) (depth : Nat) (out : Outside ε (Pool σ ε))
    (text : String) (m : ConfigMap) (e' : ε) :
    (ending (PoolM.formatWith engine (PoolM.below engine depth) b d.path text
        m.toDatum) (e', q)).1 =
      borrowedCall engine out m b d.path text (e, p.activated r'.name) := by
  obtain ⟨retired, reachable⟩ := ran.reachable
  have o := Orderly.of_reachable reachable
  obtain ⟨loans, retired', reachable'⟩ := inHand.reachable
  have o' := Orderly.of_reachable reachable'
  have target := inHand.target relayed
  have found := (Pool.mem_registry_of_resolve relayed.target).1
  have chain : q.chain = ⟨p.limits.maxDepth, [r.name]⟩ := inHand.aside.chain
  have entered : q.chain.enter r'.name = .ok ⟨p.limits.maxDepth, [r.name, r'.name]⟩ := by
    rw [chain]
    exact CallChain.enter_of_lt (c := ⟨p.limits.maxDepth, [r.name]⟩) deep r'.name
  refine (result_formatWith o' (discreet_below engine depth) (o'.balanced.usable_of_resolve target) (.refl _)
    (Pool.mem_registry_of_resolve target).1 entered).trans ?_
  refine borrowedCall_alike relayed.alike relayed.solitary rfl rfl ?_ found rfl ?_
  · exact ⟨inHand.aside.config, inHand.aside.records b relayed.apart⟩
  · intro k waits
    obtain ⟨g, there, -⟩ := o.balanced.idle b r' k found waits
    obtain ⟨later, all⟩ := inHand.aside.instances
    have still : q.instances[k]? = some (b, g) := by
      rw [← all]
      exact (List.getElem?_append_left (List.getElem?_eq_some_iff.1 there).1).trans there
    exact ⟨g, there, still, (ran.bred (breeds_lonely relayed.solitary)).traits found there rfl⟩

/-- What the delegating plugin asks for comes to what the direct call comes to. -/
theorem InHand.outcome (deep : 2 ≤ p.limits.maxDepth) (text : String) (e' : ε) :
    let m := ConfigMap.ofStaged d.override
    (((PoolM.around engine p.limits).ask ⟨r.name, d.path, text, m⟩).run (e', q)).1 =
      .of (ending (PoolM.formatText engine d.path text m.toDatum) (e, p)).1 := by
  intro m
  rw [ran.result_formatText relayed.target, PoolM.around, PoolM.below, outcome_ask_outside]
  refine congrArg Outcome.of ?_
  simp only
  obtain ⟨depth, limit⟩ : ∃ depth, p.limits.maxDepth = depth + 1 :=
    ⟨p.limits.maxDepth - 1, by omega⟩
  have noted : InHand engine config view d p a r n { q with
      journal := .debug dispatchLogger
        ("Plugin " ++ r.name ++ " requested formatting of " ++ d.path) :: q.journal } :=
    inHand.notes ⟨rfl, rfl, rfl, rfl⟩ rfl
  have target := noted.target relayed
  rw [limit, PoolM.formatFor]
  obtain ⟨found, journal, asked, ⟨-, own⟩ | ⟨i, x, rfl, resolved, -⟩⟩ :=
    PoolM.exists_ending_resolveFor r.name d.path e' { q with
      journal := .debug dispatchLogger
        ("Plugin " ++ r.name ++ " requested formatting of " ++ d.path) :: q.journal }
  · exact absurd (own b r' target) relayed.other
  · obtain ⟨rfl, rfl⟩ := Prod.mk.inj (Option.some.inj (resolved.symm.trans target))
    have further : InHand engine config view d p a r n { q with journal } :=
      noted.notes ⟨rfl, rfl, rfl, rfl⟩ rfl
    rw [ending_bind_of_ok asked]
    exact further.result ran relayed deep depth _ text m e'

end

/-- A call that goes through the delegating plugin passes on what a direct call comes to, with the
override that is read from what is staged. -/
theorem Relayed.result (deep : 2 ≤ p.limits.maxDepth) (text : String) {outcome : Outcome}
    (readable : ConfigMap.Readable (engine.room p.limits.maxDepth) d.override)
    (direct : .of (ending (PoolM.formatText engine d.path text
      (ConfigMap.ofStaged d.override).toDatum) (e, p)).1 = outcome) (room : d.Room path text outcome) :
    (ending (PoolM.formatText engine path text .null) (e, p)).1 = outcome.relay := by
  obtain ⟨n, y, lent, inHand⟩ := relayed.exists_lent ran
  obtain ⟨g, there, free, exports, poised⟩ := inHand.there
  let q : Pool σ ε := { y.2 with events := .formatting a n y.2.chain.active :: y.2.events }
  have noted : InHand engine config view d p a r n q := inHand.notes ⟨rfl, rfl, rfl, rfl⟩ rfl
  have called : (lentCall (PoolM.around engine p.limits) [] a n path text y).1 = outcome.relay := by
    unfold lentCall
    rw [PoolM.ending_withInstance (x := (y.1, q)) there]
    exact ending_formatText_of_delegates (PoolM.around engine p.limits) exports
      (s := ⟨g, y.1, q⟩) poised free readable room
      fun e' => (noted.outcome ran relayed deep text e').trans direct
  rw [PoolM.formatText_null, ran.result_formatText relayed.source, borrowedCall, lent]
  simp only [called]
  cases outcome <;> rfl

omit relayed in
/-- A plugin that goes by itself does not tell overrides apart that are written alike. -/
theorem result_formatText_alike {id : RecordId} (resolved : p.resolve path = some (id, r))
    (solitary : ∀ e m, (engine r.moduleBytes e).1 = .ok m → m.Solitary)
    (alike : ∀ e e', (engine r.moduleBytes e').1 = (engine r.moduleBytes e).1) (text : String)
    {m m' : ConfigMap} (blank : m'.toDatum.isBlank = m.toDatum.isBlank)
    (written : ConfigMap.serialize m'.toDatum = ConfigMap.serialize m.toDatum) :
    (ending (PoolM.formatText engine path text m'.toDatum) (e, p)).1 =
      (ending (PoolM.formatText engine path text m.toDatum) (e, p)).1 := by
  obtain ⟨retired, reachable⟩ := ran.reachable
  have found := (Pool.mem_registry_of_resolve resolved).1
  rw [ran.result_formatText resolved, ran.result_formatText resolved]
  refine borrowedCall_alike alike solitary blank written ⟨rfl, rfl⟩ found rfl fun n waits => ?_
  obtain ⟨g, there, -⟩ :=
    (Orderly.of_reachable reachable).balanced.idle id r n found waits
  exact ⟨g, there, there, (ran.bred (breeds_lonely solitary)).traits found there rfl⟩

omit relayed in
/-- A call on a plugin that goes by itself does not fail for want of room. -/
theorem Ran.fault_of_solitary (declared : Declared engine) {id : RecordId}
    (resolved : p.resolve path = some (id, r))
    (solitary : ∀ e m, (engine r.moduleBytes e).1 = .ok m → m.Solitary) (text : String) (m : ConfigMap)
    {f : Fault} (failed : (ending (PoolM.formatText engine path text m.toDatum) (e, p)).1 = .error f) :
    f.kind.isFormat = true ∨ f.kind = .outOfBounds ∨ ¬m.Writable := by
  obtain ⟨retired, reachable⟩ := ran.reachable
  have o := Orderly.of_reachable reachable
  have found := (Pool.mem_registry_of_resolve resolved).1
  have descends := fosters_formatText (breeds_lonely solitary) path text m.toDatum p (e, p)
    (ran.bred (breeds_lonely solitary))
  have ended := ends_formatWith o (discreet_around engine p.limits) (o.balanced.usable_of_resolve resolved)
    path text m (e, p) (.refl _)
  rw [PoolM.ending_formatText_of_resolve resolved] at failed descends
  obtain ⟨-, ⟨f', same, kind⟩ | ⟨n, x, -, -, settled⟩⟩ := ended
  · obtain rfl := Except.error.inj (failed.symm.trans same)
    rcases kind declared with kind | ⟨n, g, there, out⟩
    · exact .inl kind
    · exact absurd out (descends.traits found there rfl).not_runsOut
  · rw [failed] at settled
    generalize (lentCall (PoolM.around engine p.limits) m id n path text x).1 = answer at settled
    cases settled with
    | crashed => exact .inl rfl
    | refused reason there =>
      cases reason with
      | strayed strayed =>
        obtain ⟨fault, rfl, -⟩ := strayed
        exact .inr (.inl rfl)
      | reported message same => exact .inl (same ▸ rfl)
      | unwritten same long => exact .inr (.inr long)
      | interrupted out => exact absurd out (descends.traits found there rfl).not_runsOut

end

/-- In a pool with room for one plugin inside another, a plugin that delegates its texts to another one is
transparent: a format call on its path and a format call on the path that it delegates to, with the
override that it stages, come to the same. The transfers of the delegating plugin stay inside its memory,
and so do those of the other one, or else the direct call fails with a fault of its transfer. -/
theorem sameOutcome_of_relayed {engine : Engine σ ε} {config : PoolConfig} {view : TransferView σ}
    {d : Delegation} {path text : String} {x : ε × Pool σ ε} {a b : RecordId} {r r' : PluginRecord}
    {m : ConfigMap} (ran : Ran engine config x) (declared : Declared engine)
    (relayed : Relayed engine view d path x a b r r') (deep : 2 ≤ x.2.limits.maxDepth)
    (spells : Spells (engine.room x.2.limits.maxDepth) d.override m)
    (inside : ∀ f, (ending (PoolM.formatText engine d.path text m.toDatum) x).1 = .error f →
      f.kind ≠ .outOfBounds)
    (room : d.Room path text (.of (ending (PoolM.formatText engine d.path text m.toDatum) x).1)) :
    SameOutcome (ending (PoolM.formatText engine d.path text m.toDatum) x).1
      (ending (PoolM.formatText engine path text .null) x).1 := by
  have fails (f : Fault) := ran.fault_of_solitary (f := f) declared relayed.target relayed.solitary text m
  obtain ⟨readable, blank, written⟩ := spells.ofStaged
  have alike := result_formatText_alike ran relayed.target relayed.solitary relayed.alike text blank
    written
  rw [relayed.result ran deep text readable (congrArg Outcome.of alike) room]
  revert fails inside
  rcases ending (PoolM.formatText engine d.path text m.toDatum) x with ⟨f | _ | answer, z⟩ <;>
    intro inside fails
  · refine .failed ?_ rfl rfl
    rcases fails f rfl with kind | strayed | long
    · exact kind
    · exact absurd strayed (inside f rfl)
    · exact absurd spells.writable long
  · exact .answered none
  · exact .answered (some answer)

/-! ### Scripts that delegate -/

theorem eq_ok_of_toOption {α ε : Type} {result : Except ε α} {a : α}
    (some : result.toOption = some a) : result = .ok a := by
  cases result with
  | error e => cases some
  | ok b => exact congrArg Except.ok (Option.some.inj some)

namespace Script

/-- Loading a script that never fails gives its module. -/
theorem result_engine {scripts : List (Bytes × Script)} {key : Bytes} {script : Script}
    (found : scripts.find? (fun s => s.1 == key) = some (key, script))
    (faultless : script.loadFaults = []) (counts : ScriptCounts) :
    (engine scripts key counts).1 = .ok (script.toModule key) := by
  simp [engine, engineOf, found, loadFault?, nth?, faultless]

/-- A script that delegates and one that computes its answer, in a pool that has both. -/
theorem relayed_double {script script' : Script} (plain : script.Plain) {pred : Nat}
    (size : script.bufferSize = (pred + 1 : Nat)) {target : String} (named : target.isEmpty = false)
    {override : Option String} (format : script.format = [.delegate (some target) override])
    (faultless : script.loadFaults = []) {step : FormatStep} (format' : script'.format = [step])
    (own : step.Own) (faultless' : script'.loadFaults = []) {config : PoolConfig}
    {x : ScriptCounts × Pool ScriptState ScriptCounts} (ran : Ran (double script script') config x)
    {path : String} {a b : RecordId} {r r' : PluginRecord} (source : x.2.resolve path = some (a, r))
    (first : r.moduleBytes = [1]) (waits : r.idle ≠ []) (enabled : r.status ≠ .disabled)
    (aim : x.2.resolve target = some (b, r')) (second : r'.moduleBytes = [2])
    (other : r'.name ≠ r.name) :
    Relayed (double script script') view (script.delegation pred target override) path x a b r r' where
  source := source
  target := aim
  other := other
  delegates e m loaded := by
    rw [first, double, result_engine rfl faultless] at loaded
    obtain rfl := Except.ok.inj loaded
    exact delegates_toModule plain size named format [1]
  solitary e m loaded := by
    rw [second, double, result_engine rfl faultless'] at loaded
    obtain rfl := Except.ok.inj loaded
    exact solitary_toModule format' own [2]
  alike e e' := by
    rw [second, double, result_engine rfl faultless', result_engine rfl faultless']
  available := by
    obtain ⟨e, p⟩ := x
    obtain ⟨n, lent⟩ := PoolM.exists_acquire_of_waits (double script script')
      (PoolM.around (double script script') p.limits) e (p := p.activated r.name)
      (Pool.mem_registry_of_resolve source).1 enabled waits
    exact ⟨n, (result_entering _ (ran.enter r.name)).trans lent⟩

/-- A plugin that has every text formatted under the path of another one. -/
def forwarding (memorySize : Nat) (override : Option String) : Script := { overhanging with
  memorySize
  format := [.delegate (some "f.b") override] }

/-- A plugin that shows what it was handed. -/
def showing : Script := { overhanging with
  data := [("get_plugin_info", Utf8.encode
    "\x7b\"name\":\"b\",\"configKey\":\"b\",\"fileExtensions\":[\"b\"]\x7d")] }

/-- The setup of a pool with room for one plugin inside another. It disables a plugin at its first
crash. -/
def shallow : PoolConfig :=
  ⟨⟨1, .zero false, .zero false, 1, 2, Nat.one_pos, Nat.one_pos, Nat.two_pos⟩, [], []⟩

/-- A pool with a plugin of this script and the one that shows. -/
def linked (script : Script) : ScriptCounts × Pool ScriptState ScriptCounts :=
  coupled shallow script showing

theorem ran_linked (script : Script) : Ran (double script showing) shallow (linked script) :=
  ran_coupled shallow script showing

/-- A path goes to a plugin of this name and module whose one instance waits. -/
def waits (x : ScriptCounts × Pool ScriptState ScriptCounts) (path : String) (id : RecordId)
    (name : String) (moduleBytes : Bytes) : Bool :=
  (x.2.resolve path).any fun e => e.1 == id && e.2.name == name && e.2.moduleBytes == moduleBytes &&
    e.2.idle == [id] && e.2.status == .loaded

theorem exists_of_waits {x : ScriptCounts × Pool ScriptState ScriptCounts} {path : String}
    {id : RecordId} {name : String} {moduleBytes : Bytes}
    (waiting : waits x path id name moduleBytes = true) :
    ∃ r, x.2.resolve path = some (id, r) ∧ r.name = name ∧ r.moduleBytes = moduleBytes ∧
      r.idle = [id] ∧ r.status = .loaded := by
  unfold waits at waiting
  cases resolved : x.2.resolve path with
  | none => simp [resolved] at waiting
  | some e =>
    simp only [resolved, Option.any_some, Bool.and_eq_true, beq_iff_eq] at waiting
    obtain ⟨⟨⟨⟨rfl, name⟩, bytes⟩, idle⟩, status⟩ := waiting
    exact ⟨e.2, rfl, name, bytes, idle, status⟩

/-- A plugin that has room for every transfer. -/
def passing (override : Option String) : Script := forwarding 1124 override

/-- The first plugin of a pool passes on to the second. -/
def PassesOn (override : Option String) (x : ScriptCounts × Pool ScriptState ScriptCounts) : Prop :=
  ∃ r r', Relayed (double (passing override) showing) view
    ((passing override).delegation 99 "f.b" override) "f.a" x 0 1 r r'

theorem passesOn_linked (override : Option String)
    (waiting : (waits (linked (passing override)) "f.a" 0 "aa" [1] &&
      waits (linked (passing override)) "f.b" 1 "bb" [2]) = true) :
    PassesOn override (linked (passing override)) := by
  obtain ⟨first, second⟩ := (Bool.and_eq_true _ _).mp waiting
  obtain ⟨r, source, name, moduleBytes, idle, status⟩ := exists_of_waits first
  obtain ⟨r', target, name', moduleBytes', -⟩ := exists_of_waits second
  have plain : (passing override).Plain := ⟨rfl, rfl, rfl, rfl, rfl⟩
  have echoes : FormatStep.echo.Own := trivial
  exact ⟨r, r', relayed_double plain rfl rfl rfl rfl rfl echoes rfl (ran_linked _) source moduleBytes
    (by simp [idle]) (by simp [status]) target moduleBytes' (by simp [name, name'])⟩

/-- What a call with the other plugin's own path comes to. -/
def direct (script : Script) (m : ConfigMap) (x : ScriptCounts × Pool ScriptState ScriptCounts) :
    Except Fault (Option String) :=
  (ending (PoolM.formatText (double script showing) "f.b" "x" m.toDatum) x).1

/-- What a call that goes through the plugin of the script comes to. -/
def through (script : Script) (x : ScriptCounts × Pool ScriptState ScriptCounts) :
    Except Fault (Option String) :=
  (ending (PoolM.formatText (double script showing) "f.a" "x" .null) x).1

/-- A flag and a number. -/
def marked : ConfigMap := [(Text.ofString "k", .bool true), (Text.ofString "n", .int (-3))]

def markedText : String := "\x7b\"k\":true,\"n\":-3\x7d"

theorem spells_marked (room : Nat) : Spells room (some markedText) marked := by
  refine .written ?_ (by decide)
  rfl

end Script

open Script

/-- The general statement for an override with a flag and a number. -/
theorem sameOutcome_of_marked :
    SameOutcome (direct (passing (some markedText)) marked (linked (passing (some markedText))))
      (through (passing (some markedText)) (linked (passing (some markedText)))) := by
  -- The pool stands for itself, so that nothing evaluates it again.
  have general {x : ScriptCounts × Pool ScriptState ScriptCounts}
      (ran : Ran (double (passing (some markedText)) showing) shallow x)
      (passes : PassesOn (some markedText) x)
      (answered : (direct (passing (some markedText)) marked x).toOption =
        some (some "f.b|x|\x7b\"k\":true,\"n\":-3\x7d")) :
      SameOutcome (direct (passing (some markedText)) marked x)
        (through (passing (some markedText)) x) := by
    obtain ⟨r, r', relayed⟩ := passes
    have deep : 2 ≤ x.2.limits.maxDepth := by
      rw [ran.limits]
      decide
    have inside (f : Fault) (failed : direct (passing (some markedText)) marked x = .error f) :
        f.kind ≠ .outOfBounds := by simp [failed, Except.toOption] at answered
    have same := sameOutcome_of_relayed ran (declared_double rfl rfl) relayed deep (spells_marked _)
      inside
      (.of_windows (by decide) (by decide) (by decide) "f.a" "x" _)
    exact same
  exact general (ran_linked _) (passesOn_linked _ (by decide +kernel)) (by decide +kernel)

namespace Script

/-- An integer with one digit more than can be written. -/
def overlong : ConfigMap := [(Text.ofString "k", .int (10 ^ 4300 : Nat))]

def overlongText : String :=
  String.ofList ('{' :: (Json.quoted (Text.ofString "k") ++ ':' :: Nat.toDigits 10 (10 ^ 4300)) ++
    ['}'])

theorem not_writable_overlong : ¬overlong.Writable :=
  ConfigMap.not_writable_overlong _ (by rw [Json.length_toDigits_pow]; decide)

theorem parse_overlong (room : Nat) : ConfigMap.parse room (Utf8.encode overlongText) = .ok [] := by
  rw [Utf8.encode, overlongText, String.toList_ofList]
  exact ConfigMap.parse_overlong _ (by rw [Json.length_toDigits_pow]; decide) room

/-- Two keys that are written in the same way. -/
def twofold : ConfigMap :=
  [([0xD83D, 0xDE00].filterMap Symbol.ofCodePoint?, .int 1), ([.char '😀'], .int 2)]

def twofoldText : String := "\x7b\"\\ud83d\\ude00\":1,\"\\ud83d\\ude00\":2\x7d"

theorem written_twofold : ConfigMap.serialize twofold.toDatum = .ok (Utf8.encode twofoldText) :=
  eq_ok_of_toOption (by decide +kernel)

/-- What is left after a text that the memory of a forwarding plugin has no room for. -/
def overrun : ScriptCounts × Pool ScriptState ScriptCounts :=
  (ending (PoolM.formatText (double (forwarding 1032 none) showing) "f.a" "abcdefghijk" .null)
    (linked (forwarding 1032 none))).2

end Script

/-- A relay changes what a call comes to in three cases: an integer of the override is too long, two of
its keys are written in the same way, or the delegating plugin has been disabled. -/
theorem not_sameOutcome_of_linked :
    (PassesOn (some overlongText) (linked (passing (some overlongText))) ∧
      ¬SameOutcome (direct (passing (some overlongText)) overlong (linked (passing (some overlongText))))
        (through (passing (some overlongText)) (linked (passing (some overlongText))))) ∧
    (ConfigMap.serialize twofold.toDatum = .ok (Utf8.encode twofoldText) ∧
      ¬SameOutcome (direct (passing (some twofoldText)) twofold (linked (passing (some twofoldText))))
        (through (passing (some twofoldText)) (linked (passing (some twofoldText))))) ∧
    ¬SameOutcome (direct (forwarding 1032 none) [] overrun)
      (through (forwarding 1032 none) overrun) := by
  have general {x : ScriptCounts × Pool ScriptState ScriptCounts}
      (ran : Ran (double (passing (some overlongText)) showing) shallow x)
      (passes : PassesOn (some overlongText) x)
      (shown : (direct (passing (some overlongText)) [] x).toOption = some (some "f.b|x|-")) :
      ¬SameOutcome (direct (passing (some overlongText)) overlong x)
        (through (passing (some overlongText)) x) := by
    obtain ⟨e, p⟩ := x
    obtain ⟨r, r', relayed⟩ := passes
    have deep : 2 ≤ p.limits.maxDepth := by
      rw [show p.limits = shallow.limits from ran.limits]
      decide
    -- What is staged is read as no map, and the other plugin is asked without an override.
    obtain ⟨readable, staged⟩ := ConfigMap.readable_of_parse (parse_overlong _)
    have asked : Outcome.of (direct (passing (some overlongText))
        (ConfigMap.ofStaged (some overlongText)) (e, p)) = .changed "f.b|x|-" := by
      rw [staged, eq_ok_of_toOption shown]
      rfl
    have told : through (passing (some overlongText)) (e, p) = .ok (some "f.b|x|-") :=
      relayed.result ran deep "x" readable asked (.of_windows (by decide) (by decide) (by decide) "f.a" "x" _)
    intro same
    cases result : direct (passing (some overlongText)) overlong (e, p) with
    | error f =>
      rw [result, told] at same
      cases same
    | ok v => exact not_writable_overlong (ran.writable_of_answered result)
  have passes := passesOn_linked (some overlongText) (by decide +kernel)
  refine ⟨⟨passes, general (ran_linked _) passes (by decide +kernel)⟩, ⟨written_twofold, ?_⟩, ?_⟩
  · have plainly : (direct (passing (some twofoldText)) twofold
        (linked (passing (some twofoldText)))).toOption =
          some (some "f.b|x|\x7b\"\\ud83d\\ude00\":1,\"\\ud83d\\ude00\":2\x7d") := by decide +kernel
    have relayed : (through (passing (some twofoldText))
        (linked (passing (some twofoldText)))).toOption =
          some (some "f.b|x|\x7b\"\\ud83d\\ude00\":2\x7d") := by decide +kernel
    exact fun same => absurd (plainly.symm.trans (same.toOption_eq.trans relayed)) (by decide)
  · have plainly : (direct (forwarding 1032 none) [] overrun).toOption = some (some "f.b|x|-") := by
      decide +kernel
    have refused : (through (forwarding 1032 none) overrun).toOption = none := by decide +kernel
    exact fun same => absurd (plainly.symm.trans (same.toOption_eq.trans refused)) (by decide)

end FormatHost
