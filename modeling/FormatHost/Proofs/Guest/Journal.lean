import FormatHost.Proofs.Guest.Career
import FormatHost.Proofs.Guest.Loading
/-!
# Guests that keep a journal

A career names calls that bring an instance to its state. A guest may note in its state which of its
exports are called, and then no other calls can have brought it there: the calls of a career are those that
the guest has noted. Any engine can be made to load guests that do so and are otherwise the same.
-/
namespace FormatHost

variable {σ ε ω : Type}

/-- The calls among dealings, with their arguments. -/
def Dealing.calls (deals : List Dealing) : List (String × List Int) :=
  deals.filterMap fun
    | .called name arguments _ => some (name, arguments)
    | _ => none

/-- The guests of an engine keep a journal: they start with an empty one and enter every call of an
export. -/
structure Journal (engine : Engine σ ε) (journal : σ → List (String × List Int)) : Prop where
  opened : ∀ (origin : String × Bytes) (g : Instance σ ε), Career engine origin [] g → journal g.state = []
  entered : ∀ {ω : Type} {out : Outside ε ω} (again : Again σ ε ω) {origin : String × Bytes}
    {deals : List Dealing} {g : Instance σ ε} {name : String} {behaviour : List Int → Act σ ε},
    out.selfCalls = false → Career engine origin deals g → g.exports name = some behaviour →
    ∀ (arguments : List Int) (e : ε) (w : ω),
      journal ((behaviour arguments).run out again ⟨g, e, w⟩).2.guest.state =
        journal g.state ++ [(name, arguments)]

/-- The calls of a career are those in the journal. -/
theorem Career.calls_eq {engine : Engine σ ε} {journal : σ → List (String × List Int)}
    (keeps : Journal engine journal) {origin : String × Bytes} {deals : List Dealing}
    {g : Instance σ ε} (career : Career engine origin deals g) :
    Dealing.calls deals = journal g.state := by
  have step (before after : List Dealing) : Dealing.calls (before ++ after) =
      Dealing.calls before ++ Dealing.calls after := List.filterMap_append
  induction career with
  | loaded far loaded => exact (keeps.opened origin _ (.loaded far loaded)).symm
  | called career far again there arguments e w ih =>
    rw [step, ih, keeps.entered again far career there]
    rfl
  | put career written ih => rw [step, ih]; exact List.append_nil _
  | got career read ih => rw [step, ih]; exact List.append_nil _
  | noted career _ _ _ _ ih => exact ih

/-! ### An engine with journals -/

/-- The behaviour of a guest that has a journal beside its own state. -/
def Act.beside : Act σ ε → Act (σ × List (String × List Int)) ε
  | .done result => .done result
  | .trap message => .trap message
  | .look next => .look fun s e => (next s.1 e).beside
  | .keep state e next => .look fun s _ => .keep (state, s.2) e next.beside
  | .peek pointer length next => .peek pointer length fun data => (next data).beside
  | .poke pointer data next => .poke pointer data next.beside
  | .grow pages next => .grow pages fun before => (next before).beside
  | .host call next => .host call fun value => (next value).beside
  | .pause next => .pause next.beside
  | .reenter path text next => .reenter path text fun answer => (next answer).beside

/-- A module whose instances enter each call into their journal before they do anything else. -/
def Module.journaled (m : Module σ ε) : Module (σ × List (String × List Int)) ε where
  initial := (m.initial, [])
  memorySize := m.memorySize
  memoryExport := m.memoryExport
  unlinkable := m.unlinkable
  start := m.start.map Act.beside
  exports := fun name => (m.exports name).map fun behaviour arguments =>
    .look fun s e => .keep (s.1, s.2 ++ [(name, arguments)]) e (behaviour arguments).beside

/-- An engine whose modules are those of another, with journals. -/
def Engine.journaled (engine : Engine σ ε) : Engine (σ × List (String × List Int)) ε where
  decode moduleBytes e := ((engine moduleBytes e).1.map Module.journaled, (engine moduleBytes e).2)
  room := engine.room

/-- A scene without the journal. The exports are those of another instance. -/
def Scene.forget (exports : Exports σ ε) (s : Scene (σ × List (String × List Int)) ε ω) :
    Scene σ ε ω where
  guest := { s.guest with exports := exports, state := s.guest.state.1 }
  engine := s.engine
  world := s.world

/-- A journal makes no difference to what a guest does, and a guest that does not reach itself does nothing
to its journal. -/
theorem Act.run_beside {out : Outside ε ω} (far : out.selfCalls = false)
    (again : Again (σ × List (String × List Int)) ε ω) (again' : Again σ ε ω) (exports : Exports σ ε)
    (act : Act σ ε) (s : Scene (σ × List (String × List Int)) ε ω) :
    act.run out again' (s.forget exports) =
        ((act.beside.run out again s).1, (act.beside.run out again s).2.forget exports) ∧
      (act.beside.run out again s).2.guest.state.2 = s.guest.state.2 := by
  induction act generalizing s with
  | done result => exact ⟨rfl, rfl⟩
  | trap message => exact ⟨rfl, rfl⟩
  | look next ih => exact ih _ _ s
  | keep state e next ih => exact ih ⟨{ s.guest with state := (state, s.guest.state.2) }, e, s.world⟩
  | peek pointer length next ih =>
    rw [Act.beside, Act.run, Act.run]
    have same : (s.forget exports).guest.memory = s.guest.memory := rfl
    rw [same]
    cases s.guest.memory.read pointer length with
    | error f => exact ⟨rfl, rfl⟩
    | ok data => exact ih data s
  | poke pointer data next ih =>
    rw [Act.beside, Act.run, Act.run]
    have same : (s.forget exports).guest.memory = s.guest.memory := rfl
    rw [same]
    cases s.guest.memory.write pointer data with
    | error f => exact ⟨rfl, rfl⟩
    | ok m => exact ih { s with guest := { s.guest with memory := m } }
  | grow pages next ih =>
    rw [Act.beside, Act.run, Act.run]
    exact ih _ { s with guest := { s.guest with memory := (growMemory pages s.guest.memory).2 } }
  | host call next ih =>
    rw [Act.beside, Act.run, Act.run]
    have same : (HostTable.call out.room out.ask call (s.forget exports).guest.table
        (s.forget exports).guest.memory).run ((s.forget exports).engine, (s.forget exports).world) =
      (HostTable.call out.room out.ask call s.guest.table s.guest.memory).run (s.engine, s.world) := rfl
    rw [same]
    rcases (HostTable.call out.room out.ask call s.guest.table s.guest.memory).run (s.engine, s.world) with
      ⟨⟨fault | value, table, memory⟩, e, w⟩
    · exact ⟨rfl, rfl⟩
    · exact ih value ⟨{ s.guest with table, memory }, e, w⟩
  | pause next ih =>
    rw [Act.beside, Act.run, Act.run]
    exact ih ⟨s.guest, (out.pause.run (s.engine, s.world)).2.1, (out.pause.run (s.engine, s.world)).2.2⟩
  | reenter path text next ih =>
    rw [Act.beside, Act.run, Act.run, if_neg (by simp [far]), if_neg (by simp [far])]
    exact ⟨rfl, rfl⟩

/-- An instance of a module with journals, with these entries. -/
def Instance.Entered (entries : List (String × List Int))
    (g : Instance (σ × List (String × List Int)) ε) : Prop :=
  (∃ m : Module σ ε, g.exports = m.journaled.exports) ∧ g.state.2 = entries

/-- What a guest does by itself makes no entries. -/
theorem Act.entered_beside {out : Outside ε ω} (far : out.selfCalls = false)
    (again : Again (σ × List (String × List Int)) ε ω) (act : Act σ ε)
    {s : Scene (σ × List (String × List Int)) ε ω} {entries : List (String × List Int)}
    (entered : s.guest.Entered (σ := σ) entries) :
    (act.beside.run out again s).2.guest.Entered entries := by
  obtain ⟨⟨m, exports⟩, same⟩ := entered
  have kept := (Act.run_keeps out.keeps_true (.inl far : Undisturbed out again s.guest.busy)
    act.beside s trivial rfl).2
  exact ⟨⟨m, kept.exports.trans exports⟩,
    (act.run_beside far again GuestM.refused (fun _ => none) s).2.trans same⟩

theorem ends_instantiate_journaled {out : Outside ε ω} (far : out.selfCalls = false) (m : Module σ ε) :
    Ends (fun s : Scene (σ × List (String × List Int)) ε ω => s.guest.Entered [])
      (m.journaled.instantiate out) fun _ s => s.guest.Entered [] := by
  refine ends_instantiate_of_start (fun behaviour start s entered => ?_) (fun _ _ _ entered => entered)
    fun _ entered => entered
  obtain ⟨act, -, rfl⟩ := Option.map_eq_some_iff.1 start
  exact act.entered_beside far GuestM.refused entered

/-- The journal of an instance holds the calls of its career. -/
theorem Career.entered {engine : Engine σ ε} {origin : String × Bytes} {deals : List Dealing}
    {g : Instance (σ × List (String × List Int)) ε} (career : Career engine.journaled origin deals g) :
    g.Entered (Dealing.calls deals) := by
  have step (before after : List Dealing) : Dealing.calls (before ++ after) =
      Dealing.calls before ++ Dealing.calls after := List.filterMap_append
  induction career with
  | @loaded ω out x g far loaded =>
    obtain ⟨m', e, s, read, made, rfl⟩ := exists_of_load loaded
    obtain ⟨m, rfl⟩ : ∃ m : Module σ ε, m' = m.journaled := by
      rcases ran : engine origin.2 x.1 with ⟨fault | m, e⟩
      · simp [Engine.journaled, ran, Except.map] at read
      · simp only [Engine.journaled, ran, Except.map, Prod.mk.injEq, Except.ok.injEq] at read
        exact ⟨m, read.1.symm⟩
    have entered := ends_instantiate_journaled far m
      ⟨m.journaled.begin origin.1 (some (.fresh origin.1)), e, x.2⟩ ⟨⟨m, rfl⟩, rfl⟩
    rwa [made] at entered
  | @called ω deals g career out far again name behaviour there arguments e w ih =>
    obtain ⟨⟨m, exports⟩, entries⟩ := ih
    rw [exports] at there
    obtain ⟨act, -, rfl⟩ := Option.map_eq_some_iff.1 there
    rw [step]
    exact (act arguments).entered_beside far again (s := ⟨{ g with
      state := (g.state.1, g.state.2 ++ [(name, arguments)]) }, e, w⟩)
      ⟨⟨m, exports⟩, by rw [entries]; rfl⟩
  | put career written ih =>
    rw [step]
    exact ⟨ih.1, ih.2.trans (List.append_nil _).symm⟩
  | got career read ih =>
    rw [step]
    exact ⟨ih.1, ih.2.trans (List.append_nil _).symm⟩
  | noted career _ _ _ _ ih => exact ih

/-- The instances of an engine with journals keep them. -/
theorem journal_journaled (engine : Engine σ ε) : Journal engine.journaled Prod.snd where
  opened _ _ career := career.entered.2
  entered := by
    intro ω out again origin deals g name behaviour far career there arguments e w
    have after := (career.called far again there arguments e w).entered.2
    rw [after, career.entered.2]
    exact List.filterMap_append

end FormatHost
