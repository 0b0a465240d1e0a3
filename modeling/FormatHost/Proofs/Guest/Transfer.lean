import FormatHost.Proofs.Guest.Conveyance
import FormatHost.Proofs.Text.Utf8
/-!
# Guests that keep to themselves

A guest that does its part in the transfers of a format call, and in nothing but its own state, its memory
and what guests share. It behaves so in all surroundings. The host's part in an exchange with such a guest
is known in full.
-/
namespace FormatHost

variable {σ ε ω : Type}

/-- What a guest keeps of the transfers, read off its state: the bytes of the one that goes on, the path
that it was told, and the texts that it will hand out. -/
structure TransferView (σ : Type) where
  staged : σ → Bytes
  path : σ → Bytes
  formatted : σ → Bytes
  error : σ → Bytes

/-- A guest has changed its own state, its memory, and what guests share, and nothing else. -/
structure Moves (s t : Scene σ ε ω) : Prop where
  guest : t.guest = { s.guest with state := t.guest.state, memory := t.guest.memory }
  size : s.guest.memory.size ≤ t.guest.memory.size
  world : t.world = s.world

theorem Moves.refl (s : Scene σ ε ω) : Moves s s := ⟨rfl, Nat.le_refl _, rfl⟩

theorem Moves.trans {s t u : Scene σ ε ω} (first : Moves s t) (second : Moves t u) : Moves s u where
  guest := by
    have same := second.guest
    rw [first.guest] at same
    exact same
  size := Nat.le_trans first.size second.size
  world := second.world.trans first.world

theorem Moves.exports {s t : Scene σ ε ω} (moves : Moves s t) :
    t.guest.exports = s.guest.exports := by
  rw [moves.guest]

/-- In a scene an export ends with a value and leaves another scene, whatever is outside. -/
def Yields (X : Exports σ ε) (name : String) (arguments : List Int) (s : Scene σ ε ω) (v : Int)
    (t : Scene σ ε ω) : Prop :=
  ∃ act, X name = some act ∧
    ∀ (out : Outside ε ω) (again : Again σ ε ω), (act arguments).run out again s = (.ok v, t)

/-- A guest with a window of `size` bytes at `start` that follows the protocol: it stages what is put into
the window, takes what is staged as a path, and puts parts of what it hands out into the window. -/
structure Carries (view : TransferView σ) (start size : Int) (X : Exports σ ε) : Prop where
  window : ∀ {ω : Type} (s : Scene σ ε ω),
    ∃ t, Yields X "get_wasm_memory_buffer" [] s start t ∧ Moves s t
  size : ∀ {ω : Type} (s : Scene σ ε ω),
    ∃ t, Yields X "get_wasm_memory_buffer_size" [] s size t ∧ Moves s t
  clear : ∀ {ω : Type} (s : Scene σ ε ω) (n : Nat),
    ∃ v t, Yields X "clear_shared_bytes" [n] s v t ∧ Moves s t ∧
      view.staged t.guest.state = [] ∧ view.path t.guest.state = view.path s.guest.state
  append : ∀ {ω : Type} (s : Scene σ ε ω) (data : Bytes),
    s.guest.memory.read start data.length = .ok data →
      ∃ v t, Yields X "add_to_shared_bytes_from_buffer" [data.length] s v t ∧ Moves s t ∧
        view.staged t.guest.state = view.staged s.guest.state ++ data ∧
        view.path t.guest.state = view.path s.guest.state
  take : ∀ {ω : Type} (s : Scene σ ε ω) (path : String),
    view.staged s.guest.state = Utf8.encode path →
      ∃ v t, Yields X "set_file_path" [] s v t ∧ Moves s t ∧
        view.path t.guest.state = view.staged s.guest.state
  fill : ∀ {ω : Type} (s : Scene σ ε ω) (offset length : Nat),
    InRange start length s.guest.memory.size →
      offset + length ≤ (view.staged s.guest.state).length →
        ∃ v t, Yields X "set_buffer_with_shared_bytes" [offset, length] s v t ∧ Moves s t ∧
          view.staged t.guest.state = view.staged s.guest.state ∧
          t.guest.memory.read start length =
            .ok (Memory.slice (view.staged s.guest.state) offset length)
  formatted : ∀ {ω : Type} (s : Scene σ ε ω),
    ∃ t, Yields X "get_formatted_text" [] s (view.formatted s.guest.state).length t ∧ Moves s t ∧
      view.staged t.guest.state = view.formatted s.guest.state
  error : ∀ {ω : Type} (s : Scene σ ε ω),
    ∃ t, Yields X "get_error_text" [] s (view.error s.guest.state).length t ∧ Moves s t ∧
      view.staged t.guest.state = view.error s.guest.state

/-- The scene with other notes of the window. -/
def Scene.noted (s : Scene σ ε ω) (windowStart windowSize : Option Int) : Scene σ ε ω :=
  { s with guest := { s.guest with windowStart, windowSize } }

/-- The scene in which the host knows the window. -/
def Scene.informed (s : Scene σ ε ω) (start size : Int) : Scene σ ε ω :=
  s.noted (some start) (some size)

theorem Moves.noted {s t : Scene σ ε ω} (moves : Moves s t) (windowStart windowSize : Option Int) :
    Moves (s.noted windowStart windowSize) (t.noted windowStart windowSize) where
  guest := congrArg (fun g : Instance σ ε => { g with windowStart, windowSize }) moves.guest
  size := moves.size
  world := moves.world

theorem Scene.informed_of_knows {s : Scene σ ε ω} {start size : Int}
    (knows : s.guest.Knows start size) : s.informed start size = s := by
  obtain ⟨⟨plugin, exports, state, memory, table, first, extent, poisoned, busy⟩, engine, world⟩ := s
  obtain ⟨rfl, rfl⟩ := knows
  rfl

section

variable {view : TransferView σ} {start : Int} {pred : Nat} {X : Exports σ ε}
  (out : Outside ε ω) (again : Again σ ε ω)

theorem ending_callExport_of_yields {name : String} {arguments : List Int} {s t : Scene σ ε ω}
    {v : Int} (yields : Yields X name arguments s v t) (exports : s.guest.exports = X) :
    ending (GuestM.callExport out again name arguments) s = (.ok v, t) := by
  obtain ⟨act, there, ran⟩ := yields
  rw [GuestM.ending_callExport, exports, there]
  simp only [ran out again]

/-- An instance with these exports and a memory that is not too small. -/
def Equipped (X : Exports σ ε) (limit : Nat) (s : Scene σ ε ω) : Prop :=
  s.guest.exports = X ∧ limit ≤ s.guest.memory.size

theorem Equipped.moves {limit : Nat} {s t : Scene σ ε ω} (equipped : Equipped X limit s)
    (moves : Moves s t) : Equipped X limit t :=
  ⟨moves.exports.trans equipped.1, Nat.le_trans equipped.2 moves.size⟩

variable {out again} in
/-- An export whose ending is known, as a step of a transfer. -/
theorem Yields.reaches {limit : Nat} {R : Scene σ ε ω → Scene σ ε ω → Prop} {name : String}
    {arguments : List Int} {s t : Scene σ ε ω} {v : Int} (yields : Yields X name arguments s v t)
    (equipped : Equipped X limit s) (moves : Moves s t) (related : R s t) :
    Reaches out again (Equipped X limit) R name arguments s v t where
  ended := ending_callExport_of_yields out again yields equipped.1
  holds := equipped.moves moves
  related := related
  windowStart := by rw [moves.guest]
  windowSize := by rw [moves.guest]

/-- Such a guest tells its window, and changes nothing but itself. -/
theorem Carries.tells (carries : Carries view start (pred + 1 : Nat) X) (limit : Nat) :
    Tells out again (Equipped X limit) (fun s t => ∃ a z, Moves (s.noted a z) t) start (pred + 1) where
  refl s := ⟨s.guest.windowStart, s.guest.windowSize, .refl s⟩
  trans := by
    rintro s t u ⟨a, z, first⟩ ⟨a', z', second⟩
    exact ⟨a', z', (first.noted a' z').trans second⟩
  start {s} equipped := by
    obtain ⟨t, told, moves⟩ := carries.window s
    exact ⟨t, told.reaches equipped moves ⟨_, _, moves⟩⟩
  size {s} equipped := by
    obtain ⟨t, told, moves⟩ := carries.size s
    exact ⟨t, told.reaches equipped moves ⟨_, _, moves⟩⟩
  note a z equipped := ⟨equipped, a, z, .refl _⟩

/-- It stages what is put into its window, and remembers the path that it was told. -/
theorem Carries.takes (carries : Carries view start (pred + 1 : Nat) X) (limit : Nat) :
    Takes out again (Equipped X limit)
      (fun s t => Moves s t ∧ view.path t.guest.state = view.path s.guest.state) view.staged start
      (pred + 1) where
  refl s := ⟨.refl s, rfl⟩
  trans first second := ⟨first.1.trans second.1, second.2.trans first.2⟩
  put equipped same _ :=
    ⟨⟨equipped.1, same ▸ equipped.2⟩, ⟨rfl, Nat.le_of_eq same.symm, rfl⟩, rfl⟩
  clear {s} n equipped := by
    obtain ⟨v, t, cleared, moves, empty, path⟩ := carries.clear s n
    exact ⟨v, t, cleared.reaches equipped moves ⟨moves, path⟩, empty⟩
  append {s data} equipped _ read := by
    obtain ⟨v, t, appended, moves, staged, path⟩ := carries.append s data read
    exact ⟨v, t, appended.reaches equipped moves ⟨moves, path⟩, staged⟩

/-- It puts parts of what is staged into its window. -/
theorem Carries.fills (carries : Carries view start (pred + 1 : Nat) X) (limit : Nat) :
    Fills out again (Equipped X limit) Moves view.staged start (pred + 1) where
  refl := .refl
  trans := .trans
  fill {s offset length} equipped _ range inside := by
    obtain ⟨v, t, filled, moves, staged, read⟩ := carries.fill s offset length range inside
    exact ⟨v, t, filled.reaches equipped moves moves, staged, read⟩

/-- The host learns where the window is, if it does not know that yet. -/
theorem ending_window (carries : Carries view start (pred + 1 : Nat) X) {s : Scene σ ε ω}
    (exports : s.guest.exports = X)
    (window : s.guest.windowStart = none ∨ s.guest.Knows start (pred + 1 : Nat)) :
    ∃ t, ending (GuestM.window out again) s = (.ok (start, some ↑(pred + 1 : Nat)), t) ∧
      Moves (s.informed start (pred + 1 : Nat)) t ∧ (s.guest.Knows start (pred + 1 : Nat) → t = s) := by
  obtain ⟨t, told, -, ⟨a, z, moves⟩, knows, still⟩ :=
    (carries.tells out again 0).exists_window ⟨exports, Nat.zero_le _⟩ window
  refine ⟨t, told, ?_, still⟩
  obtain rfl : a = some start := by
    rw [← knows.1, moves.guest]
    rfl
  obtain rfl : z = some ↑(pred + 1) := by
    rw [← knows.2, moves.guest]
    rfl
  exact moves

/-- Bytes that are handed over are what is staged then. -/
theorem ending_sendBytes (carries : Carries view start (pred + 1 : Nat) X) {s : Scene σ ε ω}
    (exports : s.guest.exports = X)
    (window : s.guest.windowStart = none ∨ s.guest.Knows start (pred + 1 : Nat)) {data : Bytes}
    (fits : Fits start (pred + 1 : Nat) data s.guest.memory.size) :
    ∃ t, ending (GuestM.sendBytes out again data) s = (.ok (), t) ∧
      Moves (s.informed start (pred + 1 : Nat)) t ∧ view.staged t.guest.state = data ∧
      (s.guest.Knows start (pred + 1 : Nat) →
        view.path t.guest.state = view.path s.guest.state) := by
  obtain ⟨t, told, first, still⟩ := ending_window out again carries exports window
  have knows : t.guest.Knows start (pred + 1 : Nat) := by
    rw [first.guest]
    exact ⟨rfl, rfl⟩
  obtain ⟨u, sent, -, ⟨second, path⟩, -, staged⟩ :=
    (carries.takes out again s.guest.memory.size).exists_sendBytes
      (fun _ equipped => fits.mono equipped.2) told ⟨first.exports.trans exports, first.size⟩ knows
  refine ⟨u, sent, first.trans second, staged, fun known => ?_⟩
  rw [path, still known]

/-- A text that a guest hands out arrives. -/
theorem ending_receiveText (carries : Carries view start (pred + 1 : Nat) X) {name : String}
    {text : String} {s t : Scene σ ε ω}
    (yields : Yields X name [] s (Utf8.encode text).length t) (moves : Moves s t)
    (staged : view.staged t.guest.state = Utf8.encode text) (exports : s.guest.exports = X)
    (knows : s.guest.Knows start (pred + 1 : Nat))
    (fits : Fits start (pred + 1 : Nat) (Utf8.encode text) s.guest.memory.size) :
    ∃ u, ending (GuestM.receiveText out again name) s = (.ok text, u) ∧ Moves s u := by
  have told : Reaches out again (Equipped X s.guest.memory.size) Moves name [] s
      (Utf8.encode text).length t := yields.reaches ⟨exports, Nat.le_refl _⟩ moves moves
  obtain ⟨u, -, related, -, received⟩ :=
    (carries.fills out again s.guest.memory.size).exists_receiveText
      (fun _ equipped => fits.mono equipped.2) told knows staged
  rw [Utf8.decode_encode] at received
  exact ⟨u, received, related⟩

end

end FormatHost
