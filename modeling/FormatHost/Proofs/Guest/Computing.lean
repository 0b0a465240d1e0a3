import FormatHost.Proofs.Guest.Delegate
/-!
# Guests that compute

A guest that keeps to the protocol, asks its host for nothing, and computes its answers from path and text
alone. Every format call of such a guest succeeds with the answer that it computes, and leaves the guest
ready for the next one.
-/
namespace FormatHost

variable {σ ε ω : Type}

/-- What a guest computes, and where its transfers take place. -/
structure Calculus (σ : Type) where
  view : TransferView σ
  /-- Where the window for transfers starts. -/
  start : Int
  /-- The size of the window, less one. -/
  pred : Nat
  answer : String → String → Option String

/-- The outcome of a format call that answers. -/
def Outcome.ofAnswer : Option String → Outcome
  | none => .unchanged
  | some text => .changed text

/-- A guest whose formatter computes the answer for the path and the text that it was handed. Neither it nor
any other export touches more than the guest's own state and memory. -/
structure Computes (c : Calculus σ) (X : Exports σ ε) : Prop where
  carries : Carries c.view c.start (c.pred + 1 : Nat) X
  aside : ∀ {ω : Type} (out : Outside ε ω) (again : Again σ ε ω) (s : Scene σ ε ω) {name : String}
    {act : List Int → Act σ ε} (arguments : List Int), X name = some act →
      Moves s ((act arguments).run out again s).2
  format : ∀ {ω : Type} (s : Scene σ ε ω) (path text : String),
    c.view.path s.guest.state = Utf8.encode path → c.view.staged s.guest.state = Utf8.encode text →
      ∃ t, Yields X "format" [] s (Outcome.ofAnswer (c.answer path text)).status t ∧ Moves s t ∧
        c.view.Keeps (.ofAnswer (c.answer path text)) t.guest.state
  nonneg : 0 ≤ c.start

/-- A module whose instances compute, with the window inside their memory. -/
structure Module.Computes (c : Calculus σ) (m : Module σ ε) : Prop where
  exports : FormatHost.Computes c m.exports
  room : c.start + (c.pred + 1 : Nat) ≤ m.memorySize
  start : ∀ {ω : Type} (out : Outside ε ω) (again : Again σ ε ω) (s : Scene σ ε ω) {act : Act σ ε},
    m.start = some act → Moves s (act.run out again s).2

/-- An instance of a guest that computes. -/
structure Instance.Computes (c : Calculus σ) (g : Instance σ ε) : Prop where
  exports : FormatHost.Computes c g.exports
  window : g.windowStart = none ∨ g.Knows c.start (c.pred + 1 : Nat)
  room : c.start + (c.pred + 1 : Nat) ≤ g.memory.size

variable {c : Calculus σ}

theorem Instance.Computes.moves {s t : Scene σ ε ω} (computes : s.guest.Computes c)
    (moves : Moves s t) : t.guest.Computes c where
  exports := moves.exports ▸ computes.exports
  window := by
    rw [moves.guest]
    exact computes.window
  room := by
    have more := moves.size
    have room := computes.room
    omega

theorem Instance.Computes.informed {s : Scene σ ε ω} (computes : s.guest.Computes c) :
    (s.informed c.start (c.pred + 1 : Nat)).guest.Computes c :=
  { computes with window := .inr ⟨rfl, rfl⟩ }

/-- The instance has room for every transfer. -/
theorem Instance.Computes.fits {g : Instance σ ε} (computes : g.Computes c) (text : String) :
    Fits c.start (c.pred + 1 : Nat) (Utf8.encode text) g.memory.size :=
  .of_window computes.exports.nonneg computes.room _

/-- The guest answers what it was handed. -/
theorem ending_fetchAnswer_of_computes (out : Outside ε ω) (again : Again σ ε ω) {s : Scene σ ε ω}
    (computes : s.guest.Computes c) (knows : s.guest.Knows c.start (c.pred + 1 : Nat))
    {path text : String} (told : c.view.path s.guest.state = Utf8.encode path)
    (staged : c.view.staged s.guest.state = Utf8.encode text) :
    ∃ t, ending (GuestM.fetchAnswer out again) s = (.ok (c.answer path text), t) ∧ Moves s t := by
  obtain ⟨t, yields, moves, keeps⟩ := computes.exports.format s path text told staged
  have called := ending_callExport_of_yields out again yields rfl
  unfold GuestM.fetchAnswer
  rw [ending_bind_of_ok called]
  cases answer : c.answer path text with
  | none => exact ⟨t, rfl, moves⟩
  | some formatted =>
    rw [answer] at keeps
    obtain ⟨u, fetched, further, restaged⟩ := computes.exports.carries.formatted t
    rw [show c.view.formatted t.guest.state = Utf8.encode formatted from keeps] at fetched restaged
    have knows' : t.guest.Knows c.start (c.pred + 1 : Nat) := by
      rw [moves.guest]
      exact knows
    obtain ⟨x, received, last⟩ := ending_receiveText out again computes.exports.carries fetched further
      restaged moves.exports knows' ((computes.moves moves).fits formatted)
    exact ⟨x, ending_bind_of_ok received, moves.trans last⟩

/-- A format call succeeds with the answer that the guest computes. -/
theorem ending_formatText_of_computes (out : Outside ε ω) {s : Scene σ ε ω}
    (computes : s.guest.Computes c) (free : s.guest.busy = false) (path text : String) :
    ∃ t, ending (GuestM.formatText out path text .null) s = (.ok (c.answer path text), t) ∧
      t.guest.Computes c ∧ t.guest.busy = false ∧ t.guest.poisoned = s.guest.poisoned ∧
      t.world = s.world := by
  let again : Again σ ε ω := GuestM.nestedFormat out
  let held : Scene σ ε ω := { s with guest := { s.guest with busy := true } }
  have computes₀ : held.guest.Computes c := { computes with }
  obtain ⟨t, handed, first, told, staged⟩ := ending_handOver out again computes.exports.carries
    (s := held) rfl computes₀.window fun t _ => computes₀.fits t
  have computes₁ := computes₀.informed.moves first
  have knows : t.guest.Knows c.start (c.pred + 1 : Nat) := by
    rw [first.guest]
    exact ⟨rfl, rfl⟩
  obtain ⟨u, answered, second⟩ := ending_fetchAnswer_of_computes out again computes₁ knows told staged
  have exchanged : ending (GuestM.formatExchange out again path text .null) held =
      (.ok (c.answer path text), u) := by
    unfold GuestM.formatExchange
    rw [ending_bind_of_ok handed]
    exact answered
  have whole := (first.trans second).guest
  refine ⟨{ u with guest := { u.guest with busy := false } }, ?_, { computes₁.moves second with }, rfl,
    ?_, ?_⟩
  · rw [GuestM.formatText, ending_formatWith_of_free out _ path text .null free, ending_holding, exchanged]
  · rw [whole]
    rfl
  · exact (first.trans second).world

/-! ### Between calls -/

section

variable {out : Outside ε ω}

/-- A computing instance beside itself. -/
def ComputesTwin (c : Calculus σ) (s s' : Scene σ ε ω) : Prop := s' = s ∧ s.guest.Computes c

theorem paired_computes : Paired (ComputesTwin (ε := ε) (ω := ω) c) where
  same := by rintro s s' ⟨rfl, -⟩; rfl
  poison := by rintro s s' ⟨rfl, computes⟩; exact ⟨rfl, { computes with }⟩
  hold := by rintro s s' held ⟨rfl, computes⟩; exact ⟨rfl, { computes with }⟩
  put := by
    rintro s s' m size ⟨rfl, computes⟩
    exact ⟨rfl, { computes with room := size ▸ computes.room }⟩

theorem level_callExport_computes (far : out.selfCalls = false) (again again' : Again σ ε ω)
    (called : String) (arguments : List Int) :
    Level (ComputesTwin c) (GuestM.callExport out again called arguments)
      (GuestM.callExport out again' called arguments) := by
  refine paired_computes.callExport fun {s s' act} twin there => ?_
  obtain ⟨rfl, computes⟩ := twin
  have after := computes.moves (computes.exports.aside out again s' arguments there)
  rw [Act.run_again far again again']
  exact ⟨rfl, rfl, after⟩

/-- Whatever the host does with a computing instance, it stays one. -/
theorem inStep_computes (far : out.selfCalls = false) :
    InStep (ComputesTwin (σ := σ) (ε := ε) (ω := ω) c) out out where
  paired := paired_computes
  call again again' called arguments _ := level_callExport_computes far again again' called arguments
  window again again' := by
    rintro s s' ⟨rfl, computes⟩
    obtain ⟨t, told, moves, -⟩ :=
      ending_window out again computes.exports.carries rfl computes.window
    rw [window_again far again again', told]
    exact ⟨rfl, rfl, computes.informed.moves moves⟩

/-- What is level with itself leaves a computing instance one. -/
theorem Level.computes {α : Type} {call : GuestM σ ε ω α} (level : Level (ComputesTwin c) call call) :
    Ends (fun s => s.guest.Computes c) call fun _ s => s.guest.Computes c :=
  fun s computes => (level s s ⟨rfl, computes⟩).2.2

/-- A new instance of a computing module. -/
theorem computes_of_load {engine : Engine σ ε} {m : Module σ ε} {name : String} {moduleBytes : Bytes}
    {e e' : ε} {w : ω} {g : Instance σ ε} (computes : m.Computes c)
    (read : engine moduleBytes e = (.ok m, e'))
    (loaded : ((Instance.load engine out name (some (.fresh name)) moduleBytes).run (e, w)).1.1 =
      .ok g) : g.Computes c := by
  obtain ⟨m', e₁, s, read', made, rfl⟩ := exists_of_load loaded
  obtain ⟨rfl, rfl⟩ : m = m' ∧ e' = e₁ := by simpa using read.symm.trans read'
  have kept : Ends (fun s : Scene σ ε ω => s.guest.Computes c) (m.instantiate out)
      fun _ s => s.guest.Computes c :=
    ends_instantiate_of_start
      (fun behaviour started s before => before.moves (computes.start out GuestM.refused s started))
      (fun _ _ _ after => after) fun _ before => { before with }
  have fresh : (m.begin name (some (.fresh name))).Computes c :=
    ⟨computes.exports, .inl rfl, by simpa [Module.begin, Memory.zeroed, Memory.size] using computes.room⟩
  have ended := kept ⟨m.begin name (some (.fresh name)), e', w⟩ fresh
  rwa [made] at ended

end

end FormatHost
