import FormatHost.Proofs.Guest.Restraint
import FormatHost.Proofs.Guest.Transfer
/-!
# Guests that delegate

A guest that has its host format every text under one path, with one override or none, and answers as it
was answered. Such a guest ends a format call as whoever the host asks ends the request, as long as every
transfer stays inside its memory. Nothing is left behind in its host functions that a later call could
take for its own.
-/
namespace FormatHost

variable {σ ε ω : Type}

/-- The override of a request for which this text is staged, or none. -/
def ConfigMap.ofStaged : Option String → ConfigMap
  | none => []
  | some o => spelled (Utf8.encode o)

/-- There is room for the override that is staged, if one is. -/
def ConfigMap.Readable (room : Nat) (override : Option String) : Prop :=
  ∀ o, override = some o → parse room (Utf8.encode o) = .ok (spelled (Utf8.encode o))

/-- What a delegating guest asks for, and where its transfers take place. -/
structure Delegation where
  /-- Where the window for transfers starts. -/
  start : Int
  /-- The size of the window, less one. -/
  pred : Nat
  /-- Where values are put for the host and fetched from it. -/
  place : Nat
  /-- The greatest length of the parts in which they are, less one. -/
  part : Nat
  /-- The size of the memory. -/
  limit : Nat
  path : String
  /-- The configuration text that is staged with the request, if any is. -/
  override : Option String

namespace Delegation

/-- Every transfer of a call stays inside the memory: those between the caller and the guest, and those
between the guest and its host. -/
structure Room (d : Delegation) (path text : String) (outcome : Outcome) : Prop where
  window : ∀ t ∈ path :: text :: outcome.texts,
    Fits d.start (d.pred + 1 : Nat) (Utf8.encode t) d.limit
  place : ∀ t ∈ d.path :: text :: (d.override.toList ++ outcome.texts),
    Fits d.place (d.part + 1 : Nat) (Utf8.encode t) d.limit

/-- There is room for every text where both windows are inside the memory as a whole. -/
theorem Room.of_windows {d : Delegation} (nonneg : 0 ≤ d.start)
    (window : d.start + (d.pred + 1 : Nat) ≤ d.limit) (place : d.place + d.part < d.limit)
    (path text : String) (outcome : Outcome) : d.Room path text outcome where
  window t _ := .of_window nonneg window (Utf8.encode t)
  place t _ := .of_window (Int.natCast_nonneg _) (by omega) (Utf8.encode t)

/-- The request of a guest that delegates a text. -/
def ask (d : Delegation) (text : String) (answer : Outcome → Act σ ε) : Act σ ε :=
  Act.askHost d.place (d.part + 1 : Nat) d.path text d.override answer

end Delegation

/-- A guest will hand an outcome out. -/
def TransferView.Keeps (view : TransferView σ) : Outcome → σ → Prop
  | .unchanged, _ => True
  | .changed text, state => view.formatted state = Utf8.encode text
  | .failed message, state => view.error state = Utf8.encode message

/-- A guest ends its own call as its request was answered, without its host. -/
structure Answers (view : TransferView σ) (answer : Outcome → Act σ ε) : Prop where
  silent : ∀ outcome, (answer outcome).Calls fun _ => False
  yields : ∀ {ω : Type} (s : Scene σ ε ω) (outcome : Outcome), ∃ t, Moves s t ∧
    view.Keeps outcome t.guest.state ∧ ∀ (out : Outside ε ω) (again : Again σ ε ω),
      (answer outcome).run out again s = (.ok outcome.status, t)

/-- A guest whose formatter delegates every text that it is handed. Its other exports call no host
function. -/
structure Delegates (view : TransferView σ) (d : Delegation) (X : Exports σ ε) : Prop where
  carries : Carries view d.start (d.pred + 1 : Nat) X
  aside : ∀ {ω : Type} (out : Outside ε ω) (again : Again σ ε ω) (s : Scene σ ε ω) {name : String}
    {act : List Int → Act σ ε} (arguments : List Int), name ≠ "format" → X name = some act →
      Moves s ((act arguments).run out again s).2
  format : ∃ act answer, X "format" = some act ∧ Answers view answer ∧
    ∀ {ω : Type} (out : Outside ε ω) (again : Again σ ε ω) (s : Scene σ ε ω),
      (∀ text, view.staged s.guest.state = Utf8.encode text →
        ∃ t, Moves s t ∧ (act []).run out again s = (d.ask text answer).run out again t) ∧
      ((∀ text, view.staged s.guest.state ≠ Utf8.encode text) →
        Moves s ((act []).run out again s).2)

/-- A module whose instances delegate. -/
structure Module.Delegates (view : TransferView σ) (d : Delegation) (m : Module σ ε) : Prop where
  exports : FormatHost.Delegates view d m.exports
  size : m.memorySize = d.limit
  start : ∀ {ω : Type} (out : Outside ε ω) (again : Again σ ε ω) (s : Scene σ ε ω) {act : Act σ ε},
    m.start = some act → Moves s (act.run out again s).2

/-! ### The request -/

namespace Act

/-- An override that is staged is the one that the request has. -/
theorem run_askHost {place pred : Nat} {b : Boundary} {s : Scene σ ε ω} (out : Outside ε ω)
    (again : Again σ ε ω) {path text : String} {override : Option String}
    (next : Outcome → Act σ ε) {outcome : Outcome} {e' : ε} {w' : ω}
    (table : s.guest.table = some b) (bound : b.bound = true)
    (clean : override = none → b.override.value = none)
    (readable : ConfigMap.Readable out.room override)
    (asked : (out.ask ⟨b.plugin, path, text, .ofStaged override⟩).run (s.engine, s.world) =
      (outcome, e', w'))
    (fits : ∀ t ∈ path :: text :: (override.toList ++ outcome.texts),
      Fits place (pred + 1 : Nat) (Utf8.encode t) s.guest.memory.size) :
    ∃ t, Answered s t e' w' ∧
      (askHost place (pred + 1 : Nat) path text override next).run out again s =
        (next outcome).run out again t := by
  cases override with
  | none =>
    refine run_request out again next table bound ?_ fits
    rw [clean rfl]
    exact asked
  | some o =>
    let request : Act σ ε := askHost place (pred + 1 : Nat) path text none next
    -- The boundary with the override staged, and with the override taken.
    let b₁ : Boundary := { b with buffer := ⟨Utf8.encode o, (Utf8.encode o).length⟩ }
    let b₂ : Boundary := { b with override := ⟨some (.ofStaged (some o))⟩, buffer := .empty }
    obtain ⟨m₁, size, staged⟩ := run_stage out again
      (.host .takeOverrideConfig fun _ => request) table bound (fits o (by simp))
    have taken : b₁.call out.room .takeOverrideConfig m₁ = (.finished (.ok none), b₂, m₁) := by
      unfold Boundary.call
      rw [if_neg (by simp [b₁, bound])]
      simp only [Boundary.takeOverride, b₁, readable o rfl]
      rfl
    obtain ⟨t, answered, ran⟩ := run_request out again (s := s.served b₂ m₁) next rfl bound asked
      fun t mem => by
        rw [show (s.served b₂ m₁).guest.memory.size = s.guest.memory.size from size]
        refine fits t ?_
        simp only [List.mem_cons, List.mem_append] at mem ⊢
        exact mem.imp_right (Or.imp_right .inr)
    refine ⟨t, ⟨answered.guest, answered.size.trans size, answered.engine, answered.world⟩, ?_⟩
    calc (askHost place (pred + 1 : Nat) path text (some o) next).run out again s
        = (Act.host .takeOverrideConfig fun _ => request).run out again (s.served b₁ m₁) := staged
      _ = request.run out again (s.served b₂ m₁) :=
        run_host out again (s := s.served b₁ m₁) rfl taken
      _ = (next outcome).run out again t := ran

end Act

/-! ### The call -/

/-- How a call ends whose guest passes an outcome on. -/
def Outcome.relay : Outcome → Except Fault (Option String)
  | .unchanged => .ok none
  | .changed text => .ok (some text)
  | .failed message => .error (.reported message)

/-- An instance of a delegating guest. -/
structure Poised (d : Delegation) (name : String) (X : Exports σ ε) (g : Instance σ ε) : Prop where
  exports : g.exports = X
  window : g.windowStart = none ∨ g.Knows d.start (d.pred + 1 : Nat)
  room : d.limit ≤ g.memory.size
  /-- The host functions work, and unless the guest stages an override there is none. -/
  table : ∃ b, g.table = some b ∧ b.bound = true ∧ b.plugin = name ∧
    (d.override = none → b.override.value = none)

theorem Poised.moves {d : Delegation} {name : String} {X : Exports σ ε} {s t : Scene σ ε ω}
    (poised : Poised d name X s.guest) (moves : Moves s t) : Poised d name X t.guest where
  exports := moves.exports.trans poised.exports
  window := by
    rw [moves.guest]
    exact poised.window
  room := Nat.le_trans poised.room moves.size
  table := by
    rw [moves.guest]
    exact poised.table

theorem Poised.informed {d : Delegation} {name : String} {X : Exports σ ε} {s : Scene σ ε ω}
    (poised : Poised d name X s.guest) :
    Poised d name X (s.informed d.start (d.pred + 1 : Nat)).guest :=
  { poised with window := .inr ⟨rfl, rfl⟩ }

section

variable {view : TransferView σ} {d : Delegation} {X : Exports σ ε} (out : Outside ε ω)
  (again : Again σ ε ω)

/-- Path and text reach a guest; there is no override to hand over. -/
theorem ending_handOver {start : Int} {pred : Nat} (carries : Carries view start (pred + 1 : Nat) X)
    {s : Scene σ ε ω} (exports : s.guest.exports = X)
    (window : s.guest.windowStart = none ∨ s.guest.Knows start (pred + 1 : Nat)) {path text : String}
    (fits : ∀ t ∈ [path, text], Fits start (pred + 1 : Nat) (Utf8.encode t) s.guest.memory.size) :
    ∃ t, ending (GuestM.handOver out again path text .null) s = (.ok (), t) ∧
      Moves (s.informed start (pred + 1 : Nat)) t ∧
      view.path t.guest.state = Utf8.encode path ∧ view.staged t.guest.state = Utf8.encode text := by
  obtain ⟨t, sent, first, staged, -⟩ :=
    ending_sendBytes out again carries exports window (fits path (by simp))
  have exports₁ : t.guest.exports = X := first.exports.trans exports
  obtain ⟨v, u, taken, second, told⟩ := carries.take t path staged
  have exports₂ : u.guest.exports = X := second.exports.trans exports₁
  have knows : u.guest.Knows start (pred + 1 : Nat) := by
    rw [(first.trans second).guest]
    exact ⟨rfl, rfl⟩
  have room : s.guest.memory.size ≤ u.guest.memory.size := (first.trans second).size
  obtain ⟨x, sent', third, staged', kept⟩ := ending_sendBytes out again carries exports₂ (.inr knows)
    ((fits text (by simp)).mono room)
  rw [Scene.informed_of_knows knows] at third
  refine ⟨x, ?_, (first.trans second).trans third, (kept knows).trans (told.trans staged), staged'⟩
  unfold GuestM.handOver
  rw [ending_bind_of_ok sent, ending_bind_of_ok (ending_callExport_of_yields out again taken exports₁)]
  exact sent'

/-- A request of a delegating guest is answered, and the guest is about to pass the answer on. -/
theorem exists_ending_format (delegates : Delegates view d X) {name path : String}
    {s : Scene σ ε ω} (poised : Poised d name X s.guest) {text : String} {outcome : Outcome}
    (readable : ConfigMap.Readable out.room d.override)
    (staged : view.staged s.guest.state = Utf8.encode text) (room : d.Room path text outcome)
    (asked : ∀ e, ((out.ask ⟨name, d.path, text, .ofStaged d.override⟩).run (e, s.world)).1 =
      outcome) :
    ∃ t, ending (GuestM.callExport out again "format" []) s = (.ok outcome.status, t) ∧
      t.guest.exports = X ∧ t.guest.windowStart = s.guest.windowStart ∧
      t.guest.windowSize = s.guest.windowSize ∧ d.limit ≤ t.guest.memory.size ∧
      view.Keeps outcome t.guest.state := by
  obtain ⟨act, answer, there, answers, forwards⟩ := delegates.format
  obtain ⟨t, moves, forwarded⟩ := (forwards out again s).1 text staged
  have poised₁ := poised.moves moves
  obtain ⟨b, table, bound, rfl, clean⟩ := poised₁.table
  have asked₁ := asked t.engine
  rw [← moves.world] at asked₁
  obtain ⟨u, answered, ran⟩ := Act.run_askHost out again answer table bound clean readable
    (Prod.ext asked₁ (Prod.ext rfl rfl)) fun t mem => (room.place t mem).mono poised₁.room
  obtain ⟨x, last, keeps, ended⟩ := answers.yields u outcome
  have whole : (act []).run out again s = (.ok outcome.status, x) := by
    rw [forwarded, Delegation.ask, ran, ended]
  refine ⟨x, ?_, ?_, ?_, ?_, ?_, keeps⟩
  · rw [GuestM.ending_callExport, poised.exports, there]
    simp only [whole]
  · rw [last.exports, answered.guest]
    exact poised₁.exports
  · rw [last.guest, answered.guest, moves.guest]
  · rw [last.guest, answered.guest, moves.guest]
  · exact Nat.le_trans (answered.size ▸ poised₁.room) last.size

/-- A call of a delegating guest ends as its request was answered. -/
theorem ending_formatText_of_delegates (delegates : Delegates view d X) {name path text : String}
    {outcome : Outcome} {s : Scene σ ε ω} (poised : Poised d name X s.guest)
    (free : s.guest.busy = false) (readable : ConfigMap.Readable out.room d.override)
    (room : d.Room path text outcome)
    (asked : ∀ e, ((out.ask ⟨name, d.path, text, .ofStaged d.override⟩).run (e, s.world)).1 =
      outcome) :
    (ending (GuestM.formatText out path text .null) s).1 = outcome.relay := by
  have carries := delegates.carries
  let again : Again σ ε ω := GuestM.nestedFormat out
  let held : Scene σ ε ω := { s with guest := { s.guest with busy := true } }
  have poised₀ : Poised d name X held.guest := { poised with }
  have fitsIn : ∀ t ∈ [path, text],
      Fits d.start (d.pred + 1 : Nat) (Utf8.encode t) held.guest.memory.size := by
    intro t mem
    refine (room.window t ?_).mono poised.room
    simp only [List.mem_cons, List.not_mem_nil, or_false] at mem ⊢
    exact mem.imp_right .inl
  obtain ⟨t, handed, first, -, staged⟩ := ending_handOver out again carries (s := held) poised.exports
    poised.window fitsIn
  obtain ⟨u, called, exports, windowStart, windowSize, least, keeps⟩ := exists_ending_format out again
    delegates (poised₀.informed.moves first) readable staged room fun e => by
      rw [first.world]
      exact asked e
  have knows : u.guest.Knows d.start (d.pred + 1 : Nat) := by
    rw [Instance.Knows, windowStart, windowSize, first.guest]
    exact ⟨rfl, rfl⟩
  have fits (t : String) (mem : t ∈ outcome.texts) :
      Fits d.start (d.pred + 1 : Nat) (Utf8.encode t) u.guest.memory.size :=
    (room.window t (List.mem_cons_of_mem _ (List.mem_cons_of_mem _ mem))).mono least
  have fetched : (ending (GuestM.fetchAnswer out again) t).1 = outcome.relay := by
    unfold GuestM.fetchAnswer
    rw [ending_bind_of_ok called]
    cases outcome with
    | unchanged => rfl
    | changed answer =>
      obtain ⟨x, yields, moves, staged⟩ := carries.formatted u
      rw [show view.formatted u.guest.state = Utf8.encode answer from keeps] at yields staged
      obtain ⟨y, received, -⟩ := ending_receiveText out again carries yields moves staged exports knows
        (fits answer (List.mem_singleton_self answer))
      exact congrArg Prod.fst (ending_bind_of_ok received)
    | failed message =>
      obtain ⟨x, yields, moves, staged⟩ := carries.error u
      rw [show view.error u.guest.state = Utf8.encode message from keeps] at yields staged
      obtain ⟨y, received, -⟩ := ending_receiveText out again carries yields moves staged exports knows
        (fits message (List.mem_singleton_self message))
      exact congrArg Prod.fst (ending_bind_of_ok received)
  rw [GuestM.formatText, ending_formatWith_of_free out _ _ _ _ free, ending_holding]
  unfold GuestM.formatExchange
  simp only
  rw [ending_bind_of_ok handed]
  exact fetched

end

/-! ### Between calls -/

section

variable {view : TransferView σ} {d : Delegation} {name : String} {X : Exports σ ε}
  {out : Outside ε ω}

/-- The host functions that a delegating guest calls keep what it relies on. -/
theorem constant_of_delegation (override : Option String) (name : String) :
    Boundary.Constant (fun c => override = none → c ≠ .takeOverrideConfig) fun b =>
      b.bound = true ∧ b.plugin = name ∧ (override = none → b.override.value = none) where
  call := by
    rintro room c b m allowed ⟨bound, named, clean⟩
    refine ⟨?_, (b.plugin_call room c m).1.trans named, fun none => ?_⟩
    · unfold Boundary.call
      rw [if_neg (by simp [bound])]
      cases c with
      | readBuffer pointer length =>
        simp only [Boundary.readBuffer]
        split <;> exact bound
      | takeOverrideConfig =>
        simp only [Boundary.takeOverride]
        split <;> exact bound
      | takeFilePath =>
        simp only [Boundary.takePath]
        split <;> exact bound
      | format =>
        simp only [Boundary.takeRequest]
        split
        · exact bound
        split <;> exact bound
      | _ => exact bound
    · have clean := clean none
      unfold Boundary.call
      rw [if_neg (by simp [bound])]
      cases c with
      | readBuffer pointer length =>
        simp only [Boundary.readBuffer]
        split <;> exact clean
      | takeOverrideConfig => exact absurd rfl (allowed none)
      | takeFilePath =>
        simp only [Boundary.takePath]
        split <;> exact clean
      | format =>
        simp only [Boundary.takeRequest]
        split
        · rfl
        split <;> rfl
      | _ => exact clean
  conclude := by
    rintro outcome b holds
    cases outcome <;> exact holds

/-- A format call leaves the instance as it must be for the next one, however it ends. -/
theorem Poised.run_format (delegates : Delegates view d X) (far : out.selfCalls = false)
    (again : Again σ ε ω) {s : Scene σ ε ω} (poised : Poised d name X s.guest)
    {act : List Int → Act σ ε} (there : X "format" = some act) :
    Poised d name X ((act []).run out again s).2.guest := by
  obtain ⟨act', answer, there', answers, forwards⟩ := delegates.format
  obtain rfl : act' = act := Option.some.inj (there'.symm.trans there)
  obtain ⟨asks, refuses⟩ := forwards out again s
  by_cases text : ∃ text, view.staged s.guest.state = Utf8.encode text
  · obtain ⟨text, staged⟩ := text
    obtain ⟨t, moves, ran⟩ := asks text staged
    have poised := poised.moves moves
    rw [ran]
    obtain ⟨-, same⟩ := Act.run_keeps out.keeps_true (.inl far : Undisturbed out again t.guest.busy)
      (d.ask text answer) t trivial rfl
    refine ⟨same.exports.trans poised.exports, ?_,
      Nat.le_trans poised.room (Act.size_le_run far again _ t), ?_⟩
    · rw [Instance.Knows, same.windowStart, same.windowSize]
      exact poised.window
    · refine Act.run_table (constant_of_delegation d.override name) far again _ ?_ t poised.table
      refine Act.calls_askHost (fun c other _ => other) d.path text
        (fun given none => absurd none given) fun outcome => ?_
      exact (answers.silent outcome).mono fun c none => none.elim
  · exact poised.moves (refuses fun t staged => text ⟨t, staged⟩)

/-- A delegating instance beside itself, in a world with a property. -/
def PoisedTwin (d : Delegation) (name : String) (X : Exports σ ε) (W : ω → Prop)
    (s s' : Scene σ ε ω) : Prop :=
  s' = s ∧ Poised d name X s.guest ∧ W s.world

variable {W : ω → Prop}

theorem paired_poised : Paired (PoisedTwin d name X W) where
  same := by rintro s s' ⟨rfl, -⟩; rfl
  poison := by rintro s s' ⟨rfl, poised, world⟩; exact ⟨rfl, { poised with }, world⟩
  hold := by rintro s s' held ⟨rfl, poised, world⟩; exact ⟨rfl, { poised with }, world⟩
  put := by
    rintro s s' m size ⟨rfl, poised, world⟩
    exact ⟨rfl, { poised with room := size ▸ poised.room }, world⟩

/-- An export that leaves the instance one of a delegating guest does so for every caller. -/
theorem level_callExport_poised (far : out.selfCalls = false) (again again' : Again σ ε ω)
    {called : String} {arguments : List Int}
    (run : ∀ {s : Scene σ ε ω} {act : List Int → Act σ ε}, Poised d name X s.guest → W s.world →
      X called = some act → Poised d name X ((act arguments).run out again s).2.guest ∧
        W ((act arguments).run out again s).2.world) :
    Level (PoisedTwin d name X W) (GuestM.callExport out again called arguments)
      (GuestM.callExport out again' called arguments) := by
  refine paired_poised.callExport fun {s s' act} twin there => ?_
  obtain ⟨rfl, poised, world⟩ := twin
  obtain ⟨after, still⟩ := run poised world (poised.exports ▸ there)
  rw [Act.run_again far again again']
  exact ⟨rfl, rfl, after, still⟩

/-- Whatever export but the formatter is called, the instance stays one of a delegating guest, and the
world stays as it is. -/
theorem inStep_poised (delegates : Delegates view d X) (far : out.selfCalls = false) :
    InStep (PoisedTwin d name X W) out out where
  paired := paired_poised
  call again again' called arguments other :=
    level_callExport_poised far again again' fun {s act} poised world there => by
      have moves := delegates.aside out again s arguments other there
      exact ⟨poised.moves moves, moves.world ▸ world⟩
  window again again' := by
    rintro s s' ⟨rfl, poised, world⟩
    obtain ⟨t, told, moves, -⟩ :=
      ending_window out again delegates.carries poised.exports poised.window
    rw [window_again far again again', told]
    exact ⟨rfl, rfl, poised.informed.moves moves, moves.world ▸ world⟩

/-- What is level with itself leaves the instance one of a delegating guest. -/
theorem Level.poised {α : Type} {c : GuestM σ ε ω α} (level : Level (PoisedTwin d name X W) c c) :
    Ends (fun s => Poised d name X s.guest ∧ W s.world) c
      fun _ s => Poised d name X s.guest ∧ W s.world :=
  fun s holds => (level s s ⟨rfl, holds⟩).2.2

/-- So does a format call, whatever becomes of the world. -/
theorem poised_formatText (delegates : Delegates view d X) (far : out.selfCalls = false)
    (path text : String) (override : Datum) :
    Ends (fun s : Scene σ ε ω => Poised d name X s.guest)
      (GuestM.formatText out path text override) fun _ s => Poised d name X s.guest := by
  have inStep : InStep (PoisedTwin d name X fun _ : ω => True) out out := inStep_poised delegates far
  have level := inStep.formatText
    (fun again again' => level_callExport_poised far again again' fun poised _ there =>
      ⟨poised.run_format delegates far again there, trivial⟩) path text
    (rfl : override.isBlank = override.isBlank) rfl
  exact level.poised.weaken (fun _ poised => ⟨poised, trivial⟩) fun _ _ ended => ended.1

/-- Loading a delegating module leaves the world as it is. -/
theorem world_load_of_delegates (out : Outside ε ω) {engine : Engine σ ε} {moduleBytes : Bytes}
    {e : ε} (name : String)
    (delegates : ∀ m, (engine moduleBytes e).1 = .ok m → m.Delegates view d) (table : HostTable) (w : ω) :
    ((Instance.load engine out name table moduleBytes).run (e, w)).2.2 = w := by
  have still (m : Module σ ε) (delegates : m.Delegates view d) :
      Ends (fun s : Scene σ ε ω => s.world = w) (m.instantiate out) fun _ s => s.world = w :=
    ends_instantiate_of_start
      (fun behaviour started s same => (delegates.start out GuestM.refused s started).world.trans same)
      (fun _ _ _ same => same) fun _ same => same
  rw [run_load]
  rcases read : engine moduleBytes e with ⟨fault | m, e'⟩
  · rfl
  · exact still m (delegates m (congrArg Prod.fst read)) ⟨m.begin name table, e', w⟩ rfl

/-- A new instance of a delegating module. -/
theorem poised_of_load {engine : Engine σ ε} {m : Module σ ε} {moduleBytes : Bytes} {e e' : ε}
    {w : ω} {g : Instance σ ε} (delegates : m.Delegates view d)
    (read : engine moduleBytes e = (.ok m, e'))
    (loaded : ((Instance.load engine out name (some (.fresh name)) moduleBytes).run (e, w)).1.1 =
      .ok g) : Poised d name m.exports g := by
  obtain ⟨m', e₁, s, read', made, rfl⟩ := exists_of_load loaded
  obtain ⟨rfl, rfl⟩ : m = m' ∧ e' = e₁ := by simpa using read.symm.trans read'
  let s₀ : Scene σ ε ω := ⟨m.begin name (some (.fresh name)), e', w⟩
  have poised : Ends (Moves s₀) (m.instantiate out)
      fun r s => r = .ok () → Poised d name m.exports s.guest := by
    refine ends_instantiate_of_start
      (fun behaviour started s moves => moves.trans (delegates.start out GuestM.refused s started))
      (fun f s _ _ failed => absurd failed (by simp)) fun s moves _ => ⟨moves.exports, .inl ?_, ?_, ?_⟩
    · rw [moves.guest]
      rfl
    · have room := moves.size
      rw [← delegates.size]
      simpa [s₀, Module.begin, Memory.zeroed, Memory.size] using room
    · rw [moves.guest]
      exact ⟨_, rfl, rfl, rfl, fun _ => rfl⟩
  have ended := poised s₀ (.refl s₀)
  rw [made] at ended
  exact ended rfl

end

end FormatHost
