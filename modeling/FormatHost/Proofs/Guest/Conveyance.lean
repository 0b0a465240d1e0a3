import FormatHost.Guest.Staging
import FormatHost.Proofs.Guest.Breach
/-!
# Transfers through a window

Values cross between a host and a guest in pieces that fit the guest's window. If the exports for it do
their part and every piece stays inside the guest's memory, what arrives is what was sent, in both
directions, for windows of any size. What else holds of the guest meanwhile, and how its scenes are related
before and after, is a parameter: it has to be kept by single exports and by what the host puts into the
window.
-/
namespace FormatHost

variable {σ ε ω : Type}

/-- Every piece of a transfer through a window stays inside a memory. -/
def Fits (start size : Int) (data : Bytes) (limit : Nat) : Prop :=
  ∀ piece ∈ Act.piecesOf size data, InRange start piece.length limit

/-- A piece is not empty, and no longer than the window or what it is taken from. -/
theorem length_of_mem_pieces {pred : Nat} {data piece : Bytes} (mem : piece ∈ pieces pred data) :
    0 < piece.length ∧ piece.length ≤ pred + 1 ∧ piece.length ≤ data.length := by
  fun_induction pieces pred data with
  | case1 => simp at mem
  | case2 b rest ih =>
    rcases List.mem_cons.1 mem with rfl | later
    · simp only [List.length_cons, List.length_take]
      omega
    · obtain ⟨some, short, least⟩ := ih later
      rw [List.length_drop] at least
      simp only [List.length_cons]
      omega

namespace Fits

variable {start : Int} {pred limit limit' : Nat} {data data' : Bytes}

/-- A range no longer than the window and what is transferred stays inside as well. -/
theorem inRange (fits : Fits start (pred + 1 : Nat) data limit) {length : Nat} (some : 0 < length)
    (short : length ≤ pred + 1) (least : length ≤ data.length) : InRange start length limit := by
  cases data with
  | nil => simp at least; omega
  | cons b rest =>
    have first : b :: rest.take pred ∈ pieces pred (b :: rest) := by
      rw [pieces]
      exact List.mem_cons_self
    obtain ⟨nonneg, -, most⟩ := fits _ first
    refine ⟨nonneg, by omega, ?_⟩
    simp only [List.length_cons, List.length_take] at most least ⊢
    omega

/-- Only the number of bytes matters. -/
theorem of_length (fits : Fits start (pred + 1 : Nat) data limit)
    (same : data'.length = data.length) : Fits start (pred + 1 : Nat) data' limit := by
  intro piece mem
  obtain ⟨some, short, least⟩ := length_of_mem_pieces mem
  exact fits.inRange some short (same ▸ least)

/-- Anything can be transferred through a window that is inside the memory as a whole. -/
theorem of_window (nonneg : 0 ≤ start) (inside : start + (pred + 1 : Nat) ≤ limit) (data : Bytes) :
    Fits start (pred + 1 : Nat) data limit := by
  intro piece mem
  obtain ⟨-, short, -⟩ := length_of_mem_pieces mem
  exact ⟨nonneg, by omega, by omega⟩

theorem mono (fits : Fits start (pred + 1 : Nat) data limit) (more : limit ≤ limit') :
    Fits start (pred + 1 : Nat) data limit' := by
  intro piece mem
  obtain ⟨nonneg, least, most⟩ := fits piece mem
  exact ⟨nonneg, least, by omega⟩

end Fits

/-- The host knows the window. -/
def Instance.Knows (g : Instance σ ε) (start size : Int) : Prop :=
  g.windowStart = some start ∧ g.windowSize = some size

/-- An export ends with a value, in a scene with a property that is related to the one before. What the host
knows of the window stays. -/
structure Reaches (out : Outside ε ω) (again : Again σ ε ω) (P : Scene σ ε ω → Prop)
    (R : Scene σ ε ω → Scene σ ε ω → Prop) (name : String) (arguments : List Int) (s : Scene σ ε ω)
    (v : Int) (t : Scene σ ε ω) : Prop where
  ended : ending (GuestM.callExport out again name arguments) s = (.ok v, t)
  holds : P t
  related : R s t
  windowStart : t.guest.windowStart = s.guest.windowStart
  windowSize : t.guest.windowSize = s.guest.windowSize

/-- A guest tells its window to whoever asks. -/
structure Tells (out : Outside ε ω) (again : Again σ ε ω) (P : Scene σ ε ω → Prop)
    (R : Scene σ ε ω → Scene σ ε ω → Prop) (start : Int) (size : Nat) : Prop where
  refl : ∀ s, R s s
  trans : ∀ {s t u}, R s t → R t u → R s u
  start : ∀ {s}, P s → ∃ t, Reaches out again P R "get_wasm_memory_buffer" [] s start t
  size : ∀ {s}, P s → ∃ t, Reaches out again P R "get_wasm_memory_buffer_size" [] s size t
  note : ∀ {s} (windowStart windowSize : Option Int), P s →
    P { s with guest := { s.guest with windowStart, windowSize } } ∧
      R s { s with guest := { s.guest with windowStart, windowSize } }

/-- A guest stages what is put into its window. -/
structure Takes (out : Outside ε ω) (again : Again σ ε ω) (P : Scene σ ε ω → Prop)
    (R : Scene σ ε ω → Scene σ ε ω → Prop) (staged : σ → Bytes) (start : Int) (size : Nat) : Prop where
  refl : ∀ s, R s s
  trans : ∀ {s t u}, R s t → R t u → R s u
  put : ∀ {s} {m : Memory}, P s → m.size = s.guest.memory.size →
    (∀ i : Nat, (i : Int) < start ∨ start + size ≤ i → m.bytes[i]? = s.guest.memory.bytes[i]?) →
      P { s with guest := { s.guest with memory := m } } ∧
        R s { s with guest := { s.guest with memory := m } }
  clear : ∀ {s} (n : Nat), P s → ∃ v t, Reaches out again P R "clear_shared_bytes" [n] s v t ∧
    staged t.guest.state = []
  append : ∀ {s} {data : Bytes}, P s → data.length ≤ size →
    s.guest.memory.read start data.length = .ok data →
      ∃ v t, Reaches out again P R "add_to_shared_bytes_from_buffer" [data.length] s v t ∧
        staged t.guest.state = staged s.guest.state ++ data

/-- A guest puts parts of what is staged into its window. -/
structure Fills (out : Outside ε ω) (again : Again σ ε ω) (P : Scene σ ε ω → Prop)
    (R : Scene σ ε ω → Scene σ ε ω → Prop) (staged : σ → Bytes) (start : Int) (size : Nat) : Prop where
  refl : ∀ s, R s s
  trans : ∀ {s t u}, R s t → R t u → R s u
  fill : ∀ {s} {offset length : Nat}, P s → length ≤ size →
    InRange start length s.guest.memory.size →
    offset + length ≤ (staged s.guest.state).length →
      ∃ v t, Reaches out again P R "set_buffer_with_shared_bytes" [offset, length] s v t ∧
        staged t.guest.state = staged s.guest.state ∧
        t.guest.memory.read start length = .ok (Memory.slice (staged s.guest.state) offset length)

section

variable {out : Outside ε ω} {again : Again σ ε ω} {P : Scene σ ε ω → Prop}
  {R : Scene σ ε ω → Scene σ ε ω → Prop} {staged : σ → Bytes} {start : Int} {pred : Nat}
  {s t : Scene σ ε ω}

theorem Reaches.knows {name : String} {arguments : List Int} {v : Int} {size : Int}
    (reaches : Reaches out again P R name arguments s v t) (knows : s.guest.Knows start size) :
    t.guest.Knows start size :=
  ⟨reaches.windowStart.trans knows.1, reaches.windowSize.trans knows.2⟩

/-- A window that is known is not asked for. -/
theorem ending_window_of_knows {size : Int} (knows : s.guest.Knows start size) :
    ending (GuestM.window out again) s = (.ok (start, some size), s) := by
  unfold GuestM.window
  rw [ending_bind, GuestM.ending_guest]
  simp only [knows.1, knows.2]
  rfl

/-- The host learns where the window is, if it does not know that yet. -/
theorem Tells.exists_window (tells : Tells out again P R start (pred + 1)) (holds : P s)
    (window : s.guest.windowStart = none ∨ s.guest.Knows start ↑(pred + 1)) :
    ∃ t, ending (GuestM.window out again) s = (.ok (start, some ↑(pred + 1)), t) ∧ P t ∧ R s t ∧
      t.guest.Knows start ↑(pred + 1) ∧ (s.guest.Knows start ↑(pred + 1) → t = s) := by
  rcases window with unknown | knows
  · obtain ⟨t, told⟩ := tells.start holds
    obtain ⟨holds₁, noted⟩ := tells.note (some start) t.guest.windowSize told.holds
    obtain ⟨u, sized⟩ := tells.size holds₁
    obtain ⟨holds₂, noted'⟩ := tells.note u.guest.windowStart (some ↑(pred + 1)) sized.holds
    refine ⟨_, ?_, holds₂, ?_, ⟨sized.windowStart, rfl⟩, ?_⟩
    · unfold GuestM.window
      rw [ending_bind, GuestM.ending_guest]
      simp only [unknown]
      rw [ending_bind_of_ok told.ended, ending_bind_of_ok (GuestM.ending_update _ t),
        ending_bind_of_ok sized.ended, ending_bind_of_ok (GuestM.ending_update _ u),
        if_neg (by omega)]
      rfl
    · exact tells.trans (tells.trans told.related noted) (tells.trans sized.related noted')
    · rintro ⟨known, -⟩
      exact absurd (unknown.symm.trans known) (by simp)
  · exact ⟨s, ending_window_of_knows knows, holds, tells.refl s, knows, fun _ => rfl⟩

/-- Pieces that are handed over are staged behind what is there. -/
theorem Takes.exists_sendPieces (takes : Takes out again P R staged start (pred + 1))
    (parts : List Bytes) (short : ∀ piece ∈ parts, piece.length ≤ pred + 1)
    (inside : ∀ s, P s → ∀ piece ∈ parts, InRange start piece.length s.guest.memory.size)
    (holds : P s) (knows : s.guest.Knows start ↑(pred + 1)) :
    ∃ t, ending (GuestM.sendPieces out again start parts) s = (.ok (), t) ∧ P t ∧ R s t ∧
      t.guest.Knows start ↑(pred + 1) ∧
      staged t.guest.state = staged s.guest.state ++ parts.flatten := by
  induction parts generalizing s with
  | nil => exact ⟨s, rfl, holds, takes.refl s, knows, (List.append_nil _).symm⟩
  | cons piece rest ih =>
    have least := short piece List.mem_cons_self
    obtain ⟨nonneg, -, most⟩ := inside s holds piece List.mem_cons_self
    have range : start.toNat + piece.length ≤ s.guest.memory.size := by omega
    let m : Memory := ⟨Memory.splice s.guest.memory.bytes start.toNat piece⟩
    have written : s.guest.memory.write start piece = .ok m := by
      rw [Memory.write_eq, if_pos ⟨nonneg, Int.natCast_nonneg _, most⟩]
    obtain ⟨holds₁, put⟩ := takes.put holds (m := m) (Memory.length_splice range) fun i outside =>
      Memory.getElem?_splice range (by omega)
    obtain ⟨v, t, appended, staged₁⟩ := takes.append holds₁ least (Memory.read_write written)
    obtain ⟨u, sent, holds₂, later, knows₂, staged₂⟩ :=
      ih (fun p mem => short p (List.mem_cons_of_mem _ mem))
        (fun s holds p mem => inside s holds p (List.mem_cons_of_mem _ mem)) appended.holds
        (appended.knows knows)
    have begun : ending (GuestM.putPiece start piece) s =
        (.ok (), { s with guest := { s.guest with memory := m } }) := by
      rw [GuestM.ending_putPiece, written]
    refine ⟨u, ?_, holds₂, takes.trans (takes.trans put appended.related) later, knows₂, ?_⟩
    · unfold GuestM.sendPieces
      rw [ending_bind_of_ok begun, ending_bind_of_ok appended.ended]
      exact sent
    · rw [staged₂, staged₁, List.flatten_cons, List.append_assoc]

/-- Bytes that are handed over are what is staged then. -/
theorem Takes.exists_sendBytes (takes : Takes out again P R staged start (pred + 1)) {data : Bytes}
    (fits : ∀ s, P s → Fits start ↑(pred + 1) data s.guest.memory.size)
    (told : ending (GuestM.window out again) s = (.ok (start, some ↑(pred + 1)), t)) (holds : P t)
    (knows : t.guest.Knows start ↑(pred + 1)) :
    ∃ u, ending (GuestM.sendBytes out again data) s = (.ok (), u) ∧ P u ∧ R t u ∧
      u.guest.Knows start ↑(pred + 1) ∧ staged u.guest.state = data := by
  obtain ⟨v, u, cleared, empty⟩ := takes.clear data.length holds
  obtain ⟨x, sent, holds', later, knows', staged'⟩ := takes.exists_sendPieces (pieces pred data)
    (fun piece mem => length_le_of_mem_pieces mem) (fun s holds piece mem => fits s holds piece mem)
    cleared.holds (cleared.knows knows)
  refine ⟨x, ?_, holds', takes.trans cleared.related later, knows', ?_⟩
  · unfold GuestM.sendBytes
    rw [ending_bind_of_ok told]
    simp only
    rw [ending_bind_of_ok cleared.ended]
    exact sent
  · rw [staged', empty, flatten_pieces, List.nil_append]

/-- What is fetched from an offset on is what is staged there. -/
theorem Fills.exists_receiveFrom (fills : Fills out again P R staged start (pred + 1)) {data : Bytes}
    (fits : ∀ s, P s → Fits start ↑(pred + 1) data s.guest.memory.size) (offset remaining : Nat)
    (holds : P s) (knows : s.guest.Knows start ↑(pred + 1)) (same : staged s.guest.state = data)
    (inside : offset + remaining ≤ data.length) :
    ∃ t, ending (GuestM.receiveFrom out again start pred offset remaining) s =
      (.ok (Memory.slice data offset remaining), t) ∧ P t ∧ R s t ∧
        t.guest.Knows start ↑(pred + 1) := by
  fun_induction GuestM.receiveFrom out again start pred offset remaining generalizing s with
  | case1 => exact ⟨s, by simp [Memory.slice], holds, fills.refl s, knows⟩
  | case2 offset remaining some length =>
    rename_i ih
    have shorter : length ≤ remaining := Nat.min_le_right ..
    have least : length ≤ pred + 1 := Nat.min_le_left ..
    have few : length ≤ data.length := by omega
    have range : InRange start length s.guest.memory.size :=
      (fits s holds).inRange (Nat.lt_min.2 ⟨by omega, by omega⟩) least few
    have enough : offset + length ≤ (staged s.guest.state).length := by rw [same]; omega
    obtain ⟨v, t, filled, staged₁, read⟩ := fills.fill holds least range enough
    have fetched : ending (GuestM.fetchPiece out again start offset length) s =
        (.ok (Memory.slice data offset length), t) := by
      unfold GuestM.fetchPiece
      rw [ending_bind_of_ok filled.ended, GuestM.ending_getPiece, read, same]
    obtain ⟨u, rest, holds', later, knows'⟩ :=
      ih filled.holds (filled.knows knows) (staged₁.trans same) (by omega)
    refine ⟨u, ?_, holds', fills.trans filled.related later, knows'⟩
    rw [ending_bind_of_ok fetched, ending_bind_of_ok rest, ending_pure, Memory.slice_append_slice,
      Nat.add_sub_cancel' shorter]

/-- What is staged is fetched as a whole. -/
theorem Fills.exists_receiveBytes (fills : Fills out again P R staged start (pred + 1)) {data : Bytes}
    (fits : ∀ s, P s → Fits start ↑(pred + 1) data s.guest.memory.size) (holds : P s)
    (knows : s.guest.Knows start ↑(pred + 1)) (same : staged s.guest.state = data) :
    ∃ t, ending (GuestM.receiveBytes out again data.length) s = (.ok data, t) ∧ P t ∧ R s t ∧
      t.guest.Knows start ↑(pred + 1) := by
  unfold GuestM.receiveBytes
  rw [ending_bind_of_ok (ending_window_of_knows knows)]
  simp only
  by_cases none : data.length = 0
  · rw [if_pos (by omega), List.length_eq_zero_iff.1 none]
    exact ⟨s, rfl, holds, fills.refl s, knows⟩
  · rw [if_neg (by omega)]
    have whole := fills.exists_receiveFrom fits 0 data.length holds knows same (by omega)
    rwa [show Memory.slice data 0 data.length = data by simp [Memory.slice]] at whole

/-- The bytes that an export hands out arrive. If they are no text, that is a breach. -/
theorem Fills.exists_receiveText (fills : Fills out again P R staged start (pred + 1)) {data : Bytes}
    (fits : ∀ s, P s → Fits start ↑(pred + 1) data s.guest.memory.size) {name : String}
    (told : Reaches out again P R name [] s data.length t)
    (knows : s.guest.Knows start ↑(pred + 1)) (same : staged t.guest.state = data) :
    ∃ u, P u ∧ R s u ∧ u.guest.Knows start ↑(pred + 1) ∧ ending (GuestM.receiveText out again name) s =
      match Utf8.decode data with
      | .ok text => (.ok text, u)
      | .error _ => ending (GuestM.breach (.answerNotText u.guest.plugin name)) u := by
  obtain ⟨u, received, holds, later, knows'⟩ :=
    fills.exists_receiveBytes fits told.holds (told.knows knows) same
  refine ⟨u, holds, fills.trans told.related later, knows', ?_⟩
  unfold GuestM.receiveText
  rw [ending_bind_of_ok told.ended, ending_bind_of_ok received]
  cases Utf8.decode data <;> rfl

end

end FormatHost
