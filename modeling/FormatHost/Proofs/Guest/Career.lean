import FormatHost.Proofs.Guest.Voice
/-!
# What an instance has been through

The dealings of a host with an instance from its loading on: which exports it called, what it wrote into the
memory and what it read from there. Some exports only carry bytes to the guest and back. Apart from them the
dealings are a list of affairs: a call, what had been handed over for it, what it returned, and what was
fetched afterwards.
-/
namespace FormatHost

variable {σ ε ω α β : Type}

/-- A dealing with an instance. -/
inductive Dealing where
  /-- An export was called, and this came of it. -/
  | called (name : String) (arguments : List Int) (result : Except Fault Int)
  /-- Bytes were written into the memory. -/
  | put (start : Int) (data : Bytes)
  /-- Bytes were read from the memory. -/
  | got (start : Int) (data : Bytes)

/-- Dealings, oldest first, that bring an instance to its state. It was loaded under a name from module
bytes; what its guest does in a call depends on surroundings that may be any, except that the guest does not
reach itself. What the host notes about an instance is no dealing with it. -/
inductive Career (engine : Engine σ ε) (origin : String × Bytes) :
    List Dealing → Instance σ ε → Prop
  | loaded {ω : Type} {out : Outside ε ω} {x : ε × ω} {g : Instance σ ε} (far : out.selfCalls = false)
      (loaded : ((Instance.load engine out origin.1 (some (.fresh origin.1)) origin.2).run x).1.1 =
        .ok g) : Career engine origin [] g
  | called {ω : Type} {deals : List Dealing} {g : Instance σ ε} (career : Career engine origin deals g)
      {out : Outside ε ω} (far : out.selfCalls = false) (again : Again σ ε ω) {name : String}
      {behaviour : List Int → Act σ ε} (there : g.exports name = some behaviour)
      (arguments : List Int) (e : ε) (w : ω) :
      Career engine origin
        (deals ++ [.called name arguments ((behaviour arguments).run out again ⟨g, e, w⟩).1])
        ((behaviour arguments).run out again ⟨g, e, w⟩).2.guest
  | put {deals : List Dealing} {g : Instance σ ε} (career : Career engine origin deals g) {start : Int}
      {data : Bytes} {m : Memory} (written : g.memory.write start data = .ok m) :
      Career engine origin (deals ++ [.put start data]) { g with memory := m }
  | got {deals : List Dealing} {g : Instance σ ε} (career : Career engine origin deals g)
      {start length : Int} {data : Bytes} (read : g.memory.read start length = .ok data) :
      Career engine origin (deals ++ [.got start data]) g
  | noted {deals : List Dealing} {g : Instance σ ε} (career : Career engine origin deals g)
      (windowStart windowSize : Option Int) (poisoned busy : Bool) :
      Career engine origin deals { g with windowStart, windowSize, poisoned, busy }

/-! ### Affairs -/

/-- The exports that only carry bytes. -/
def carriers : List String :=
  ["get_wasm_memory_buffer", "get_wasm_memory_buffer_size", "clear_shared_bytes",
    "add_to_shared_bytes_from_buffer", "set_buffer_with_shared_bytes"]

/-- A call of an export that does more than carry bytes. -/
structure Affair where
  name : String
  /-- What had been handed over to the guest. -/
  handed : Bytes
  result : Except Fault Int
  /-- What has been fetched from the guest since. -/
  fetched : Bytes

/-- What dealings amount to. -/
structure Digest where
  /-- Where the guest said that its window starts, and how many bytes it has. -/
  window : Option Int
  size : Option Int
  /-- What lies in the window, if it was put there just now. -/
  piece : Bytes
  /-- What the guest has been handed. -/
  shared : Bytes
  /-- Which part the guest has put into the window just now. -/
  shown : Option (Int × Int)
  /-- The affairs, newest first. -/
  affairs : List Affair

namespace Digest

/-- Nothing has happened. -/
def fresh : Digest := ⟨none, none, [], [], none, []⟩

/-- Whatever lies in the window may have changed. -/
def stir (d : Digest) : Digest := { d with piece := [], shown := none }

/-- A piece at this place lies within the window. -/
def admits (d : Digest) (start : Int) (data : Bytes) : Bool :=
  d.window == some start && d.size.any fun n => decide ((data.length : Int) ≤ n)

/-- One more dealing. Of what is handed over and fetched only that counts which goes through the window,
with the right lengths and in the right order. -/
def note (d : Digest) : Dealing → Digest
  | .called name arguments result =>
    if name ∈ carriers then
      match name, result with
      | "get_wasm_memory_buffer", .ok start => { d.stir with window := some start }
      | "get_wasm_memory_buffer_size", .ok n => { d.stir with size := some n }
      | "clear_shared_bytes", .ok _ => { d.stir with shared := [] }
      | "add_to_shared_bytes_from_buffer", .ok _ =>
        { d.stir with shared := if arguments = [(d.piece.length : Int)] then d.shared ++ d.piece else [] }
      | "set_buffer_with_shared_bytes", .ok _ =>
        { d.stir with
          shown := match arguments with | [offset, length] => some (offset, length) | _ => none }
      | _, _ => d.stir
    else { d.stir with affairs := ⟨name, d.shared, result, []⟩ :: d.affairs }
  | .put start data => { d.stir with piece := if d.admits start data then data else [] }
  | .got start data =>
    match d.affairs with
    | [] => d
    | a :: rest =>
      if d.window = some start ∧ d.shown = some ((a.fetched.length : Int), (data.length : Int)) then
        { d with affairs := { a with fetched := a.fetched ++ data } :: rest }
      else d

/-- What a list of dealings amounts to. -/
def ofDealings (deals : List Dealing) : Digest := deals.foldl note fresh

variable {d : Digest} {name : String} {arguments : List Int}

theorem note_tell_start (start : Int) :
    d.note (.called "get_wasm_memory_buffer" arguments (.ok start)) =
      { d.stir with window := some start } := rfl

theorem note_tell_size (n : Int) :
    d.note (.called "get_wasm_memory_buffer_size" arguments (.ok n)) =
      { d.stir with size := some n } := rfl

theorem note_clear (v : Int) :
    d.note (.called "clear_shared_bytes" arguments (.ok v)) = { d.stir with shared := [] } := rfl

theorem note_add (v : Int) : d.note (.called "add_to_shared_bytes_from_buffer"
      [(d.piece.length : Int)] (.ok v)) = { d.stir with shared := d.shared ++ d.piece } := by
  simp [note, carriers]

theorem note_show (offset length v : Int) :
    d.note (.called "set_buffer_with_shared_bytes" [offset, length] (.ok v)) =
      { d.stir with shown := some (offset, length) } := rfl

/-- A call that is more than carrying bytes is an affair. -/
theorem note_affair (other : name ∉ carriers) (result : Except Fault Int) :
    d.note (.called name arguments result) =
      { d.stir with affairs := ⟨name, d.shared, result, []⟩ :: d.affairs } := if_neg other

/-- A call opens an affair of its own, or none. -/
theorem affairs_note_called (result : Except Fault Int) :
    (d.note (.called name arguments result)).affairs =
      if name ∈ carriers then d.affairs else ⟨name, d.shared, result, []⟩ :: d.affairs := by
  simp only [note]
  split
  · split <;> rfl
  · rfl

/-- What was fetched after a call belongs to it. -/
theorem note_got {a : Affair} {rest : List Affair} {start : Int} {data : Bytes}
    (affairs : d.affairs = a :: rest) (window : d.window = some start)
    (shown : d.shown = some ((a.fetched.length : Int), (data.length : Int))) :
    d.note (.got start data) =
      { d with affairs := { a with fetched := a.fetched ++ data } :: rest } := by
  simp [note, affairs, window, shown]

end Digest

/-! ### What instances stand for -/

/-- An instance has a career that amounts to this. -/
def Stands (engine : Engine σ ε) (origin : String × Bytes) (d : Digest) (g : Instance σ ε) : Prop :=
  ∃ deals, Digest.ofDealings deals = d ∧ Career engine origin deals g

section

variable {engine : Engine σ ε} {origin : String × Bytes} {d : Digest} {g : Instance σ ε}

namespace Stands

theorem next {g' : Instance σ ε} (stands : Stands engine origin d g) (deal : Dealing)
    (further : ∀ deals, Career engine origin deals g → Career engine origin (deals ++ [deal]) g') :
    Stands engine origin (d.note deal) g' := by
  obtain ⟨deals, rfl, career⟩ := stands
  exact ⟨deals ++ [deal], by rw [Digest.ofDealings, List.foldl_append]; rfl, further deals career⟩

theorem noted (stands : Stands engine origin d g) (windowStart windowSize : Option Int)
    (poisoned busy : Bool) :
    Stands engine origin d { g with windowStart, windowSize, poisoned, busy } := by
  obtain ⟨deals, amounts, career⟩ := stands
  exact ⟨deals, amounts, career.noted windowStart windowSize poisoned busy⟩

theorem put (stands : Stands engine origin d g) {start : Int} {data : Bytes} {m : Memory}
    (written : g.memory.write start data = .ok m) :
    Stands engine origin (d.note (.put start data)) { g with memory := m } :=
  stands.next _ fun _ career => career.put written

theorem got (stands : Stands engine origin d g) {start length : Int} {data : Bytes}
    (read : g.memory.read start length = .ok data) :
    Stands engine origin (d.note (.got start data)) g :=
  stands.next _ fun _ career => career.got read

theorem called {out : Outside ε ω} (far : out.selfCalls = false) (again : Again σ ε ω) {name : String}
    {behaviour : List Int → Act σ ε} {s : Scene σ ε ω} (stands : Stands engine origin d s.guest)
    (there : s.guest.exports name = some behaviour) (arguments : List Int) :
    Stands engine origin
      (d.note (.called name arguments ((behaviour arguments).run out again s).1))
      ((behaviour arguments).run out again s).2.guest :=
  stands.next _ fun _ career => career.called far again there arguments s.engine s.world

/-- An instance that was just loaded has no affairs. -/
theorem loaded {out : Outside ε ω} (far : out.selfCalls = false) {x : ε × ω}
    (loaded : ((Instance.load engine out origin.1 (some (.fresh origin.1)) origin.2).run x).1.1 =
      .ok g) : Stands engine origin .fresh g :=
  ⟨[], rfl, .loaded far loaded⟩

end Stands

/-! ### What any exchange does -/

/-- An instance beside itself, with new affairs on top of old ones. The names of the new ones are of a
kind. -/
def Advanced (engine : Engine σ ε) (origin : String × Bytes) (kind : String → Prop)
    (before : List Affair) (s s' : Scene σ ε ω) : Prop :=
  s' = s ∧ ∃ d new, Stands engine origin d s.guest ∧ d.affairs = new ++ before ∧
    ∀ a ∈ new, kind a.name

variable {kind : String → Prop} {before : List Affair}

theorem paired_advanced : Paired (Advanced (ω := ω) engine origin kind before) where
  same := by rintro s s' ⟨rfl, -⟩; rfl
  poison := by
    rintro s s' ⟨rfl, d, new, stands, affairs⟩
    exact ⟨rfl, d, new, stands.noted _ _ true _, affairs⟩
  hold := by
    rintro s s' held ⟨rfl, d, new, stands, affairs⟩
    exact ⟨rfl, d, new, stands.noted _ _ _ held, affairs⟩
  put := by
    rintro s s' m size ⟨rfl, d, new, stands, affairs⟩
    -- The whole memory is written at once.
    have written : s'.guest.memory.write 0 m.bytes = .ok m := by
      have inside : InRange 0 m.bytes.length s'.guest.memory.size :=
        ⟨Int.le_refl 0, Int.natCast_nonneg _, by rw [Int.zero_add, ← size]; exact Int.le_refl _⟩
      rw [Memory.write_eq, if_pos inside]
      have all : s'.guest.memory.bytes.drop m.bytes.length = [] :=
        List.drop_eq_nil_of_le (Nat.le_of_eq size.symm)
      simp [Memory.splice, all]
    exact ⟨rfl, _, new, stands.put written, affairs⟩

theorem level_callExport_advanced {out : Outside ε ω} (far : out.selfCalls = false)
    (again again' : Again σ ε ω) {name : String} (allowed : name ∉ carriers → kind name)
    (arguments : List Int) :
    Level (Advanced engine origin kind before) (GuestM.callExport out again name arguments)
      (GuestM.callExport out again' name arguments) := by
  refine paired_advanced.callExport fun {s s' behaviour} advanced there => ?_
  obtain ⟨rfl, d, new, stands, affairs, kinds⟩ := advanced
  have after := stands.called far again there arguments
  rw [Act.run_again far again again']
  have more : ∃ new', (d.note (.called name arguments
      ((behaviour arguments).run out again s').1)).affairs = new' ++ before ∧
        ∀ a ∈ new', kind a.name := by
    rw [Digest.affairs_note_called]
    split
    · exact ⟨new, affairs, kinds⟩
    · next other =>
      refine ⟨⟨name, d.shared, _, []⟩ :: new, by rw [affairs]; rfl, ?_⟩
      exact List.forall_mem_cons.2 ⟨allowed other, kinds⟩
  obtain ⟨new', affairs', kinds'⟩ := more
  exact ⟨rfl, rfl, _, new', after, affairs', kinds'⟩

theorem inStep_advanced {out : Outside ε ω} (far : out.selfCalls = false)
    (allowed : ∀ name, name ≠ "format" → kind name) :
    InStep (Advanced (σ := σ) (ω := ω) engine origin kind before) out out := by
  refine .of_calls paired_advanced ?_ ?_ fun again again' name arguments other =>
    level_callExport_advanced far again again' (fun _ => allowed name other) arguments
  · rintro s s' a ⟨rfl, d, new, stands, affairs⟩
    exact ⟨rfl, d, new, stands.noted (some a) _ _ _, affairs⟩
  · rintro s s' n ⟨rfl, d, new, stands, affairs⟩
    exact ⟨rfl, d, new, stands.noted _ (some n) _ _, affairs⟩

end
end FormatHost
