import FormatHost.Proofs.Guest.Restraint
import FormatHost.Proofs.Guest.Sequence
import FormatHost.Proofs.Guest.Transfer
/-!
# The staging contract

What a guest promises of the exports through which values are handed over and fetched, in the surroundings
in which it runs: it stages what it finds in its window, takes what is staged, and puts parts of what is
staged into its window. Beyond that its exports may do anything, call host functions and change the memory
wherever they like. While a call goes on, the host and the guest take turns; the host's turns change no
byte of the memory outside the window.
-/
namespace FormatHost

open Relation

variable {σ ε ω : Type}

/-- What a guest was handed and what it will hand out, read off its state. -/
structure StagingView (σ : Type) extends TransferView σ where
  override : σ → Option Bytes

/-- A guest still has the path and the override that it was told. -/
def StagingView.Remembers (view : StagingView σ) (s t : Scene σ ε ω) : Prop :=
  view.path t.guest.state = view.path s.guest.state ∧
    view.override t.guest.state = view.override s.guest.state

/-- In a scene an export ends with a value and leaves another scene. -/
def Performs (out : Outside ε ω) (again : Again σ ε ω) (X : Exports σ ε) (name : String)
    (arguments : List Int) (s : Scene σ ε ω) (v : Int) (t : Scene σ ε ω) : Prop :=
  ∃ act, X name = some act ∧ (act arguments).run out again s = (.ok v, t)

theorem Yields.performs {X : Exports σ ε} {name : String} {arguments : List Int} {s t : Scene σ ε ω}
    {v : Int} (yields : Yields X name arguments s v t) (out : Outside ε ω) (again : Again σ ε ω) :
    Performs out again X name arguments s v t := by
  obtain ⟨act, there, ran⟩ := yields
  exact ⟨act, there, ran out again⟩

/-- A guest with a window of `extent` bytes at `start` that follows the staging contract while it is held.
Nothing is asked of its formatter but that it uses up the override if it ends with a result. -/
structure Stages (view : StagingView σ) (start : Int) (extent : Nat) (X : Exports σ ε)
    (out : Outside ε ω) (again : Again σ ε ω) : Prop where
  window : ∀ s, s.guest.busy = true →
    ∃ t, Performs out again X "get_wasm_memory_buffer" [] s start t ∧ view.Remembers s t
  size : ∀ s, s.guest.busy = true →
    ∃ t, Performs out again X "get_wasm_memory_buffer_size" [] s extent t ∧ view.Remembers s t
  clear : ∀ s (n : Nat), s.guest.busy = true →
    ∃ v t, Performs out again X "clear_shared_bytes" [n] s v t ∧ view.Remembers s t ∧
      view.staged t.guest.state = []
  append : ∀ s (data : Bytes), s.guest.busy = true → data.length ≤ extent →
    s.guest.memory.read start data.length = .ok data →
      ∃ v t, Performs out again X "add_to_shared_bytes_from_buffer" [data.length] s v t ∧
        view.Remembers s t ∧
        view.staged t.guest.state = view.staged s.guest.state ++ data
  fill : ∀ s (offset length : Nat), s.guest.busy = true → length ≤ extent →
    InRange start length s.guest.memory.size →
    offset + length ≤ (view.staged s.guest.state).length →
      ∃ v t, Performs out again X "set_buffer_with_shared_bytes" [offset, length] s v t ∧
        view.Remembers s t ∧ view.staged t.guest.state = view.staged s.guest.state ∧
        t.guest.memory.read start length =
          .ok (Memory.slice (view.staged s.guest.state) offset length)
  takePath : ∀ s (path : String), s.guest.busy = true →
    view.staged s.guest.state = Utf8.encode path →
      ∃ v t, Performs out again X "set_file_path" [] s v t ∧
        view.path t.guest.state = Utf8.encode path ∧
        view.override t.guest.state = view.override s.guest.state
  takeOverride : ∀ s (m : ConfigMap), s.guest.busy = true →
    ConfigMap.serialize m.toDatum = .ok (view.staged s.guest.state) →
      ∃ v t, Performs out again X "set_override_config" [] s v t ∧
        view.override t.guest.state = some (view.staged s.guest.state) ∧
        view.path t.guest.state = view.path s.guest.state
  formatted : ∀ s, s.guest.busy = true →
    ∃ t, Performs out again X "get_formatted_text" [] s (view.formatted s.guest.state).length t ∧
      view.Remembers s t ∧ view.staged t.guest.state = view.formatted s.guest.state
  error : ∀ s, s.guest.busy = true →
    ∃ t, Performs out again X "get_error_text" [] s (view.error s.guest.state).length t ∧
      view.Remembers s t ∧ view.staged t.guest.state = view.error s.guest.state
  consume : ∀ s t (text : String) (v : Int), s.guest.busy = true →
    view.staged s.guest.state = Utf8.encode text → Performs out again X "format" [] s v t →
      view.override t.guest.state = none

theorem StagingView.Remembers.trans {view : StagingView σ} {s t u : Scene σ ε ω}
    (first : view.Remembers s t) (second : view.Remembers t u) : view.Remembers s u :=
  ⟨second.1.trans first.1, second.2.trans first.2⟩

/-- The bytes that an export hands out, as a text. -/
def handedOut (plugin name : String) (data : Bytes) : Except Fault String :=
  (Utf8.decode data).mapError fun _ => .answerNotText plugin name

/-- What is handed out is a text, or it is refused. -/
theorem handedOut_cases (plugin name : String) (data : Bytes) :
    (∃ text, data = Utf8.encode text ∧ handedOut plugin name data = .ok text) ∨
      ((∀ text, data ≠ Utf8.encode text) ∧
        handedOut plugin name data = .error (.answerNotText plugin name)) := by
  unfold handedOut
  cases decoded : Utf8.decode data with
  | ok text => exact .inl ⟨text, Utf8.decode_eq_ok_iff.1 decoded, rfl⟩
  | error refusal =>
    refine .inr ⟨fun text same => ?_, rfl⟩
    exact absurd (decoded.symm.trans (Utf8.decode_eq_ok_iff.2 same)) (by simp)

/-! ### Turns -/

/-- A turn in a call: an export of the guest runs, or the host changes its notes and bytes of the memory
between `start` and `start + size`. -/
inductive CallTurn (out : Outside ε ω) (again : Again σ ε ω) (start size : Int) :
    Scene σ ε ω → Scene σ ε ω → Prop
  | guest (s : Scene σ ε ω) {name : String} {act : List Int → Act σ ε} (arguments : List Int)
      (offered : s.guest.exports name = some act) :
      CallTurn out again start size s ((act arguments).run out again s).2
  | host (s : Scene σ ε ω) (m : Memory) (windowStart windowSize : Option Int) (poisoned busy : Bool)
      (same : m.size = s.guest.memory.size)
      (outside : ∀ i : Nat, (i : Int) < start ∨ start + size ≤ i →
        m.bytes[i]? = s.guest.memory.bytes[i]?) :
      CallTurn out again start size s
        { s with guest := { s.guest with memory := m, windowStart, windowSize, poisoned, busy } }

/-- CallTurns one after the other. -/
abbrev CallTurns (out : Outside ε ω) (again : Again σ ε ω) (start size : Int) :
    Scene σ ε ω → Scene σ ε ω → Prop := ReflTransGen (CallTurn out again start size)

section

variable {out : Outside ε ω} {again : Again σ ε ω} {view : StagingView σ} {start : Int} {size pred : Nat}
  {g₀ : Instance σ ε} {s t : Scene σ ε ω}

/-- The host changes its notes. -/
theorem CallTurns.notes (s : Scene σ ε ω) (windowStart windowSize : Option Int) (poisoned busy : Bool) :
    CallTurns out again start size s
      { s with guest := { s.guest with windowStart, windowSize, poisoned, busy } } :=
  .single (.host s s.guest.memory windowStart windowSize poisoned busy rfl fun _ _ => rfl)

/-- What holds of the bytes outside the window, and stays so when the guest runs, is kept by every turn. -/
theorem CallTurns.keep {P : Scene σ ε ω → Prop} (turns : CallTurns out again start size s t)
    (runs : ∀ s {name act} arguments, s.guest.exports name = some act → P s →
      P ((act arguments).run out again s).2)
    (blind : ∀ s m windowStart windowSize poisoned busy, m.size = s.guest.memory.size →
      (∀ i : Nat, (i : Int) < start ∨ start + size ≤ i → m.bytes[i]? = s.guest.memory.bytes[i]?) →
      P s → P { s with guest := { s.guest with memory := m, windowStart, windowSize, poisoned, busy } })
    (holds : P s) : P t := by
  induction turns with
  | refl => exact holds
  | tail _ last ih =>
    cases last with
    | guest arguments offered => exact runs _ arguments offered ih
    | host m windowStart windowSize poisoned busy same outside =>
      exact blind _ m windowStart windowSize poisoned busy same outside ih

/-- An instance that is held, with room for the window. -/
structure Attended (g₀ : Instance σ ε) (start : Int) (size : Nat) (s : Scene σ ε ω) : Prop where
  plugin : s.guest.plugin = g₀.plugin
  exports : s.guest.exports = g₀.exports
  busy : s.guest.busy = true
  room : start + size ≤ s.guest.memory.size

/-- An instance in the middle of a call: the host knows nothing of its window, or all of it. -/
structure Serving (g₀ : Instance σ ε) (start : Int) (size : Nat) (s : Scene σ ε ω) : Prop
    extends Attended g₀ start size s where
  window : s.guest.windowStart = none ∨ s.guest.Knows start size

/-- Whatever the guest does, it stays in the middle of the call. -/
theorem Attended.run (attended : Attended g₀ start size s) (undisturbed : Undisturbed out again true)
    (act : Act σ ε) : Attended g₀ start size (act.run out again s).2 := by
  obtain ⟨-, same⟩ := Act.run_keeps out.keeps_true undisturbed act s trivial attended.busy
  have larger := Act.size_le_run_of_undisturbed undisturbed act s attended.busy
  have room := attended.room
  constructor
  · exact same.plugin.trans attended.plugin
  · exact same.exports.trans attended.exports
  · exact same.busy.trans attended.busy
  · omega

/-- A scene in which an export has left the instance that is held. -/
structure Tended (out : Outside ε ω) (again : Again σ ε ω) (g₀ : Instance σ ε) (start : Int)
    (size : Nat) (s t : Scene σ ε ω) : Prop where
  attended : Attended g₀ start size t
  turns : CallTurns out again start size s t
  windowStart : t.guest.windowStart = s.guest.windowStart
  windowSize : t.guest.windowSize = s.guest.windowSize

theorem Tended.knows (tended : Tended out again g₀ start size s t) (knows : s.guest.Knows start size) :
    t.guest.Knows start size :=
  ⟨tended.windowStart.trans knows.1, tended.windowSize.trans knows.2⟩

theorem Tended.serving (tended : Tended out again g₀ start size s t)
    (serving : Serving g₀ start size s) : Serving g₀ start size t where
  toAttended := tended.attended
  window := by
    rw [Instance.Knows, tended.windowStart, tended.windowSize]
    exact serving.window

/-- An export of a guest in the middle of a call, whatever it does: if it fails, that is a breach, or the
host had no room. -/
theorem exists_ending_callExport (attended : Attended g₀ start size s)
    (undisturbed : Undisturbed out again true) (name : String) (arguments : List Int) :
    ∃ r t, ending (GuestM.callExport out again name arguments) s = (r, t) ∧
      Tended out again g₀ start size s t ∧
      ∀ f, r = .error f → f.kind = .guest ∧ t.guest.poisoned = true ∨ f.OutOfRoom := by
  rw [GuestM.ending_callExport]
  cases offered : s.guest.exports name with
  | none =>
    refine ⟨_, _, rfl, ⟨{ attended with }, ?_, rfl, rfl⟩, ?_⟩
    · exact CallTurns.notes s s.guest.windowStart s.guest.windowSize true s.guest.busy
    · rintro f ⟨⟩
      exact .inl ⟨rfl, rfl⟩
  | some act =>
    have turn : CallTurn out again start size s ((act arguments).run out again s).2 :=
      .guest s arguments offered
    have after := attended.run undisturbed (act arguments)
    obtain ⟨-, same⟩ := Act.run_keeps out.keeps_true undisturbed (act arguments) s trivial attended.busy
    have expected (f : Fault) : ((act arguments).run out again s).1 = .error f → f.Expected :=
      (act arguments).expected_of_run
    revert turn after same expected
    simp only
    rcases (act arguments).run out again s with ⟨cause | v, t⟩ <;> intro turn after same expected
    · rcases expected cause rfl with declared | room
      · simp only [if_pos declared]
        refine ⟨_, _, rfl, ⟨{ after with }, ?_, same.windowStart, same.windowSize⟩, ?_⟩
        · exact (ReflTransGen.single turn).trans
            (CallTurns.notes t t.guest.windowStart t.guest.windowSize true t.guest.busy)
        · rintro f ⟨⟩
          exact .inl ⟨rfl, rfl⟩
      · simp only [room.kind, FaultKind.isDeclared, Bool.false_eq_true, if_false]
        refine ⟨_, _, rfl, ⟨after, .single turn, same.windowStart, same.windowSize⟩, ?_⟩
        rintro f ⟨⟩
        exact .inr room
    · refine ⟨_, _, rfl, ⟨after, .single turn, same.windowStart, same.windowSize⟩, ?_⟩
      rintro f ⟨⟩

/-- An export that does what it promised. -/
theorem Performs.ending {name : String} {arguments : List Int} {v : Int}
    (performs : Performs out again g₀.exports name arguments s v t)
    (attended : Attended g₀ start size s) (undisturbed : Undisturbed out again true) :
    ending (GuestM.callExport out again name arguments) s = (.ok v, t) ∧
      Tended out again g₀ start size s t := by
  obtain ⟨act, offered, ran⟩ := performs
  have called : FormatHost.ending (GuestM.callExport out again name arguments) s = (.ok v, t) := by
    rw [GuestM.ending_callExport, attended.exports, offered]
    simp only [ran]
  obtain ⟨r, u, ended, tended, -⟩ := exists_ending_callExport attended undisturbed name arguments
  obtain ⟨-, rfl⟩ := Prod.mk.inj (ended.symm.trans called)
  exact ⟨called, tended⟩

/-- An export that has ended with a value has done something. -/
theorem performs_of_ending {name : String} {arguments : List Int} {v : Int}
    (called : ending (GuestM.callExport out again name arguments) s = (.ok v, t)) :
    Performs out again s.guest.exports name arguments s v t := by
  rw [GuestM.ending_callExport] at called
  cases offered : s.guest.exports name with
  | none => simp [offered] at called
  | some act =>
    simp only [offered] at called
    revert called
    rcases ran : (act arguments).run out again s with ⟨cause | w, u⟩ <;> intro called
    · simp only at called
      split at called
      · cases congrArg Prod.fst called
      · cases congrArg Prod.fst called
    · obtain ⟨same, rfl⟩ := Prod.mk.inj called
      obtain rfl := Except.ok.inj same
      exact ⟨act, offered, ran⟩

/-! ### Transfers -/

section

variable (stages : Stages view start (pred + 1) g₀.exports out again)
  (undisturbed : Undisturbed out again true) (nonneg : 0 ≤ start)

/-- What a call that goes on does to a scene without losing the path and the override. -/
def Proceeds (view : StagingView σ) (out : Outside ε ω) (again : Again σ ε ω) (start : Int) (size : Nat)
    (s t : Scene σ ε ω) : Prop :=
  CallTurns out again start size s t ∧ view.Remembers s t

theorem Proceeds.refl (s : Scene σ ε ω) : Proceeds view out again start size s s := ⟨.refl, rfl, rfl⟩

theorem Proceeds.trans {u : Scene σ ε ω} (first : Proceeds view out again start size s t)
    (second : Proceeds view out again start size t u) : Proceeds view out again start size s u :=
  ⟨first.1.trans second.1, first.2.trans second.2⟩

/-- An export that does what it promised, as a step of a transfer. -/
theorem Performs.reaches {name : String} {arguments : List Int} {v : Int}
    (performs : Performs out again g₀.exports name arguments s v t)
    (attended : Attended g₀ start size s) (undisturbed : Undisturbed out again true)
    (kept : view.Remembers s t) :
    Reaches out again (Attended g₀ start size) (Proceeds view out again start size) name arguments s v
      t := by
  obtain ⟨called, tended⟩ := performs.ending attended undisturbed
  exact ⟨called, tended.attended, ⟨tended.turns, kept⟩, tended.windowStart, tended.windowSize⟩

include stages undisturbed

theorem Stages.tells : Tells out again (Attended g₀ start (pred + 1))
    (Proceeds view out again start (pred + 1)) start (pred + 1) where
  refl := .refl
  trans := .trans
  start {s} attended := by
    obtain ⟨t, told, kept⟩ := stages.window s attended.busy
    exact ⟨t, told.reaches attended undisturbed kept⟩
  size {s} attended := by
    obtain ⟨t, told, kept⟩ := stages.size s attended.busy
    exact ⟨t, told.reaches attended undisturbed kept⟩
  note {s} a z attended :=
    ⟨{ attended with }, .notes s a z s.guest.poisoned s.guest.busy, rfl, rfl⟩

theorem Stages.takes : Takes out again (Attended g₀ start (pred + 1))
    (Proceeds view out again start (pred + 1)) view.staged start (pred + 1) where
  refl := .refl
  trans := .trans
  put {s m} attended same outside := by
    refine ⟨{ attended with room := by rw [same]; exact attended.room }, .single ?_, rfl, rfl⟩
    exact .host s m s.guest.windowStart s.guest.windowSize s.guest.poisoned s.guest.busy same outside
  clear {s} n attended := by
    obtain ⟨v, t, cleared, kept, empty⟩ := stages.clear s n attended.busy
    exact ⟨v, t, cleared.reaches attended undisturbed kept, empty⟩
  append {s data} attended short read := by
    obtain ⟨v, t, appended, kept, staged⟩ := stages.append s data attended.busy short read
    exact ⟨v, t, appended.reaches attended undisturbed kept, staged⟩

theorem Stages.fills : Fills out again (Attended g₀ start (pred + 1))
    (Proceeds view out again start (pred + 1)) view.staged start (pred + 1) where
  refl := .refl
  trans := .trans
  fill {s offset length} attended short range inside := by
    obtain ⟨v, t, filled, kept, staged, read⟩ :=
      stages.fill s offset length attended.busy short range inside
    exact ⟨v, t, filled.reaches attended undisturbed kept, staged, read⟩

omit stages undisturbed in
include nonneg in
/-- There is room for anything. -/
theorem Attended.fits (attended : Attended g₀ start (pred + 1) s) (data : Bytes) :
    Fits start ↑(pred + 1) data s.guest.memory.size := .of_window nonneg attended.room data

include nonneg

/-- Bytes that are handed over are what is staged then. -/
theorem exists_ending_sendBytes (data : Bytes) (serving : Serving g₀ start (pred + 1) s) :
    ∃ t, ending (GuestM.sendBytes out again data) s = (.ok (), t) ∧
      Serving g₀ start (pred + 1) t ∧ t.guest.Knows start ↑(pred + 1) ∧
      CallTurns out again start ↑(pred + 1) s t ∧ view.Remembers s t ∧
      view.staged t.guest.state = data := by
  obtain ⟨t, told, attended, first, knows, -⟩ :=
    (stages.tells undisturbed).exists_window serving.toAttended serving.window
  obtain ⟨u, sent, attended', second, knows', staged⟩ := (stages.takes undisturbed).exists_sendBytes
    (fun _ attended => attended.fits nonneg data) told attended knows
  obtain ⟨turns, kept⟩ := first.trans second
  exact ⟨u, sent, ⟨attended', .inr knows'⟩, knows', turns, kept, staged⟩

/-- The bytes that a guest hands out arrive. If they are no text, that is a breach. -/
theorem exists_ending_receiveText {name : String} {data : Bytes}
    (performs : Performs out again g₀.exports name [] s data.length t) (kept : view.Remembers s t)
    (staged : view.staged t.guest.state = data) (attended : Attended g₀ start (pred + 1) s)
    (knows : s.guest.Knows start ↑(pred + 1)) :
    ∃ u, ending (GuestM.receiveText out again name) s = (handedOut g₀.plugin name data, u) ∧
      Serving g₀ start (pred + 1) u ∧ CallTurns out again start ↑(pred + 1) s u ∧
      view.Remembers s u ∧
      (∀ f, handedOut g₀.plugin name data = .error f → u.guest.poisoned = true) := by
  obtain ⟨u, after, ⟨turns, kept'⟩, knows', received⟩ := (stages.fills undisturbed).exists_receiveText
    (fun _ attended => attended.fits nonneg data) (performs.reaches attended undisturbed kept) knows
    staged
  unfold handedOut
  rw [received]
  cases Utf8.decode data with
  | ok text =>
    exact ⟨u, rfl, ⟨after, .inr knows'⟩, turns, kept', fun _ none => nomatch none⟩
  | error refusal =>
    let v : Scene σ ε ω := { u with guest := { u.guest with poisoned := true } }
    have refused : ending (GuestM.breach (.answerNotText u.guest.plugin name)) u =
        ((.error (.answerNotText g₀.plugin name) : Except Fault String), v) := by
      rw [GuestM.ending_breach, after.plugin]
    refine ⟨v, refused, ⟨{ after with }, .inr knows'⟩, turns.trans ?_, kept', fun _ _ => rfl⟩
    exact CallTurns.notes u u.guest.windowStart u.guest.windowSize true u.guest.busy

end

end

end FormatHost
