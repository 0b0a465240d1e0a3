import FormatHost.Proofs.Guest.Failure
/-!
# Breaches of the protocol

How exchanges with an instance end. A guest that fails in an export, or whose answer does not fit the
protocol, breaks it: its instance is poisoned. Two kinds of failure are no breach to the host. A piece of
a transfer that leaves the guest's memory is refused by the memory itself. And where the host's stack has no
room for a configuration that the guest hands over, the fault passes through the guest. In both cases the
instance stays as it is, though a question for its window may be left half answered.
-/
namespace FormatHost

variable {σ ε ω : Type}

namespace GuestM

/-! ### Single steps -/

@[simp] theorem ending_guest (s : Scene σ ε ω) : ending (guest (ω := ω)) s = (.ok s.guest, s) := rfl

@[simp] theorem ending_update (f : Instance σ ε → Instance σ ε) (s : Scene σ ε ω) :
    ending (update f) s = (.ok (), { s with guest := f s.guest }) := rfl

@[simp] theorem ending_attempt {α : Type} (c : GuestM σ ε ω α) (s : Scene σ ε ω) :
    ending (attempt c) s = (.ok (ending c s).1, (ending c s).2) := rfl

@[simp] theorem ending_breach {α : Type} (fault : Fault) (s : Scene σ ε ω) :
    ending (breach fault : GuestM σ ε ω α) s =
      (.error fault, { s with guest := { s.guest with poisoned := true } }) := rfl

theorem ending_callExport (out : Outside ε ω) (again : Again σ ε ω) (name : String)
    (arguments : List Int) (s : Scene σ ε ω) :
    ending (callExport out again name arguments) s =
      match s.guest.exports name with
      | none => ending (breach (.exportMissing s.guest.plugin name)) s
      | some behaviour =>
        match (behaviour arguments).run out again s with
        | (.ok value, t) => (.ok value, t)
        | (.error cause, t) =>
          if cause.kind.isDeclared then ending (breach (.exportFailed s.guest.plugin name cause)) t
          else (.error cause, t) := by
  unfold callExport
  rw [ending_bind, ending_guest]
  simp only
  rcases s.guest.exports name with none | behaviour
  · rfl
  · simp only [ending_bind, ending_get]
    rcases (behaviour arguments).run out again s with ⟨cause | value, t⟩
    · simp only [ending_set]
      split <;> rfl
    · rfl

theorem ending_putPiece (start : Int) (data : Bytes) (s : Scene σ ε ω) :
    ending (putPiece start data) s =
      match s.guest.memory.write start data with
      | .error e => (.error (.outOfBounds e), s)
      | .ok m => (.ok (), { s with guest := { s.guest with memory := m } }) := by
  unfold putPiece
  rw [ending_bind, ending_guest]
  simp only
  rcases s.guest.memory.write start data with e | m <;> rfl

theorem ending_getPiece (start length : Int) (s : Scene σ ε ω) :
    ending (getPiece start length) s =
      match s.guest.memory.read start length with
      | .error e => (.error (.outOfBounds e), s)
      | .ok data => (.ok data, s) := by
  unfold getPiece
  rw [ending_bind, ending_guest]
  simp only
  rcases s.guest.memory.read start length with e | m <;> rfl

end GuestM

/-! ### Sound instances -/

/-- The host knows no window, or one with a place for a byte. -/
def Fit (start size : Option Int) : Prop :=
  start = none ∨ ∃ a n, start = some a ∧ size = some n ∧ 0 < n

/-- The host knows the window of `n` bytes at `a`. -/
def At (a n : Int) (start size : Option Int) : Prop := start = some a ∧ size = some n ∧ 0 < n

/-- The host knows a window with a place for a byte. -/
def Windowed (start size : Option Int) : Prop := ∃ a n, At a n start size

/-- The host was told nothing of the window. -/
def Untold (start size : Option Int) : Prop := start = none ∧ size = none

/-- The host was told nothing of the window, or all of it. -/
def Ready (start size : Option Int) : Prop := Untold start size ∨ Windowed start size

/-- The host was not told the size of the window, though perhaps where it starts, or all of it. -/
def Loose (start size : Option Int) : Prop := size = none ∨ Windowed start size

section

variable {a n : Int} {start size : Option Int}

theorem At.windowed (there : At a n start size) : Windowed start size := ⟨a, n, there⟩

theorem Untold.ready (untold : Untold start size) : Ready start size := .inl untold

theorem Windowed.ready (known : Windowed start size) : Ready start size := .inr known

theorem Windowed.fit (known : Windowed start size) : Fit start size := .inr known

theorem Windowed.loose (known : Windowed start size) : Loose start size := .inr known

theorem Ready.loose (ready : Ready start size) : Loose start size := ready.imp_left And.right

/-- The host knows where a window starts and not its size, or all of it or nothing. -/
theorem Loose.unsized_or_ready (loose : Loose start size) :
    (∃ a, start = some a ∧ size = none) ∨ Ready start size := by
  rcases loose with unsized | known
  · cases start with
    | none => exact .inr (.inl ⟨rfl, unsized⟩)
    | some a => exact .inl ⟨a, rfl, unsized⟩
  · exact .inr known.ready

end

/-- An instance with the exports of `g₀` that is held or not, in a world with a property. -/
structure Watched (W : ω → Prop) (g₀ : Instance σ ε) (held : Bool) (s : Scene σ ε ω) : Prop where
  world : W s.world
  plugin : s.guest.plugin = g₀.plugin
  exports : s.guest.exports = g₀.exports
  busy : s.guest.busy = held

/-- Such an instance that broke no rule, with what the host notes about its window. -/
structure Sound (W : ω → Prop) (g₀ : Instance σ ε) (held : Bool)
    (window : Option Int → Option Int → Prop) (s : Scene σ ε ω) : Prop
    extends Watched W g₀ held s where
  healthy : s.guest.poisoned = false
  window : window s.guest.windowStart s.guest.windowSize

/-- A guest is in the way of an exchange: it broke the protocol and is poisoned, or it handed over a
configuration that the host's stack had no room for. -/
def Broken (W : ω → Prop) (g₀ : Instance σ ε) (held : Bool) (f : Fault) (s : Scene σ ε ω) : Prop :=
  (Watched W g₀ held s ∧ s.guest.poisoned = true ∧ f.kind = .guest) ∨
    (Sound W g₀ held Loose s ∧ g₀.exports.RunsOut f)

/-- An exchange succeeds, or the guest was in the way, or it fails for one of the allowed reasons and the
instance is as sound as before. -/
def Ended {α : Type} (W : ω → Prop) (g₀ : Instance σ ε) (held : Bool)
    (window : Option Int → Option Int → Prop) (allowed : Fault → Scene σ ε ω → Prop) :
    Except Fault α → Scene σ ε ω → Prop
  | .ok _, s => Sound W g₀ held window s
  | .error f, s => Broken W g₀ held f s ∨ (Sound W g₀ held Ready s ∧ allowed f s)

/-- A call of an export succeeds, or the guest was in the way. -/
def Called {α : Type} (W : ω → Prop) (g₀ : Instance σ ε) (held : Bool)
    (window : Option Int → Option Int → Prop) : Except Fault α → Scene σ ε ω → Prop
  | .ok _, s => Sound W g₀ held window s
  | .error f, s => Broken W g₀ held f s

/-- A piece of a transfer leaves the memory of an instance: it starts with the window and is no longer
than that. -/
def Instance.Strayed (g : Instance σ ε) (f : Fault) : Prop :=
  ∃ e, f = .outOfBounds e ∧ g.windowStart = some e.start ∧
    (∃ n, g.windowSize = some n ∧ e.length ≤ n) ∧ 0 ≤ e.length ∧ e.limit = g.memory.size ∧
    ¬ InRange e.start e.length e.limit

/-- The transfer with the instance of a scene left the memory. -/
def Strayed (f : Fault) (s : Scene σ ε ω) : Prop := s.guest.Strayed f

section

variable {α β : Type} {out : Outside ε ω} {again : Again σ ε ω} {W : ω → Prop}
  {g₀ : Instance σ ε} {held : Bool} {F F' F'' : Option Int → Option Int → Prop}
  {allowed allowed' : Fault → Scene σ ε ω → Prop}

theorem Sound.mono {s : Scene σ ε ω} (sound : Sound W g₀ held F s)
    (window : ∀ start size, F start size → F' start size) : Sound W g₀ held F' s :=
  { sound with window := window _ _ sound.window }

theorem Ended.mono {r : Except Fault α} {s : Scene σ ε ω} (ended : Ended W g₀ held F allowed r s)
    (window : ∀ start size, F start size → F' start size)
    (reasons : ∀ f s, allowed f s → allowed' f s) : Ended W g₀ held F' allowed' r s := by
  cases r with
  | ok a => exact Sound.mono ended window
  | error f => exact ended.imp_right fun ⟨sound, reason⟩ => ⟨sound, reasons f s reason⟩

theorem ends_bind {c : GuestM σ ε ω α} {k : α → GuestM σ ε ω β}
    (first : Ends (Sound W g₀ held F) c (Ended W g₀ held F' allowed))
    (next : ∀ a, Ends (Sound W g₀ held F') (k a) (Ended W g₀ held F'' allowed)) :
    Ends (Sound W g₀ held F) (c >>= k) (Ended W g₀ held F'' allowed) :=
  first.bind next fun _ _ ended => ended

theorem ends_allow {before : Scene σ ε ω → Prop} {c : GuestM σ ε ω α}
    (ends : Ends before c (Ended W g₀ held F allowed))
    (more : ∀ f s, allowed f s → allowed' f s) : Ends before c (Ended W g₀ held F allowed') :=
  ends.weaken (fun _ holds => holds) fun _ _ ended => ended.mono (fun _ _ known => known) more

/-- An exchange with an instance whose window is known. -/
theorem ends_ready {c : GuestM σ ε ω α} (ends : Ends (Sound W g₀ held Ready) c (Ended W g₀ held F allowed)) :
    Ends (Sound W g₀ held Windowed) c (Ended W g₀ held F allowed) :=
  ends.weaken (fun _ sound => sound.mono fun _ _ => Windowed.ready) fun _ _ ended => ended

theorem ends_pure (a : α) :
    Ends (Sound W g₀ held F) (pure a : GuestM σ ε ω α) (Ended W g₀ held F allowed) :=
  .pure fun _ sound => sound

/-- A breach poisons the instance. -/
theorem broken_breach {fault : Fault} (kind : fault.kind = .guest) {s : Scene σ ε ω}
    (watched : Watched W g₀ held s) :
    Broken W g₀ held fault { s with guest := { s.guest with poisoned := true } } :=
  .inl ⟨⟨watched.world, watched.plugin, watched.exports, watched.busy⟩, rfl, kind⟩

theorem ends_breach {fault : Fault} (kind : fault.kind = .guest) :
    Ends (Watched W g₀ held) (GuestM.breach fault : GuestM σ ε ω α)
      (Ended W g₀ held F allowed) := fun _ watched => .inl (broken_breach kind watched)

/-- Calling an export breaks nothing, or the guest is in the way. -/
theorem ends_callExport (loose : ∀ start size, F start size → Loose start size) (keeps : out.Keeps W)
    (undisturbed : Undisturbed out again held) (name : String) (arguments : List Int) :
    Ends (Sound W g₀ held F) (GuestM.callExport out again name arguments) (Called W g₀ held F) := by
  intro s sound
  rw [GuestM.ending_callExport]
  cases there : s.guest.exports name with
  | none => exact broken_breach rfl sound.toWatched
  | some behaviour =>
    simp only
    have kept := Act.run_keeps keeps undisturbed (behaviour arguments) s sound.world sound.busy
    have expected (f : Fault) : ((behaviour arguments).run out again s).1 = .error f → f.Expected :=
      (behaviour arguments).expected_of_run
    revert kept expected
    rcases ran : (behaviour arguments).run out again s with ⟨cause | value, t⟩ <;>
      rintro ⟨world, same⟩ expected
    all_goals
      have watched : Watched W g₀ held t :=
        ⟨world, same.plugin.trans sound.plugin, same.exports.trans sound.exports,
          same.busy.trans sound.busy⟩
      have unbroken : Sound W g₀ held F t :=
        { watched with
          healthy := same.poisoned.trans sound.healthy
          window := by
            rw [same.windowStart, same.windowSize]
            exact sound.window }
    · rcases expected cause rfl with declared | room
      · simp only [if_pos declared]
        exact broken_breach rfl watched
      · simp only [room.kind, FaultKind.isDeclared, Bool.false_eq_true, if_false]
        have failed : ((behaviour arguments).run out again s).1 = .error cause := congrArg Prod.fst ran
        exact .inr ⟨unbroken.mono loose, room, name, behaviour, arguments, ω, out, again, s,
          sound.exports ▸ there, failed⟩
    · exact unbroken

/-- Calling an export between two steps of an exchange. -/
theorem ends_called (loose : ∀ start size, F start size → Loose start size) (keeps : out.Keeps W)
    (undisturbed : Undisturbed out again held) (name : String) (arguments : List Int) :
    Ends (Sound W g₀ held F) (GuestM.callExport out again name arguments)
      (Ended W g₀ held F allowed) :=
  (ends_callExport loose keeps undisturbed name arguments).weaken (fun _ sound => sound)
    fun r _ ended => match r with
      | .ok _ => ended
      | .error _ => .inl ended

/-! ### Transfers -/

/-- How a question for the window ends: the window is known, or the guest was in the way. -/
def WindowKnown (W : ω → Prop) (g₀ : Instance σ ε) (held : Bool) :
    Except Fault (Int × Option Int) → Scene σ ε ω → Prop
  | .ok (a, size), s => ∃ n, size = some n ∧ Sound W g₀ held (At a n) s
  | .error f, s => Broken W g₀ held f s

theorem ends_update_bind {before : Scene σ ε ω → Prop} (middle : Scene σ ε ω → Prop)
    {f : Instance σ ε → Instance σ ε} {k : Unit → GuestM σ ε ω α}
    {last : Except Fault α → Scene σ ε ω → Prop}
    (holds : ∀ s, before s → middle { s with guest := f s.guest }) (next : Ends middle (k ()) last) :
    Ends before (GuestM.update f >>= k) last := fun s first => next _ (holds s first)

theorem ends_window (keeps : out.Keeps W) (undisturbed : Undisturbed out again held) :
    Ends (Sound W g₀ held Ready) (GuestM.window out again) (WindowKnown W g₀ held) := by
  have failed (f : Fault) (s : Scene σ ε ω) (broken : Broken W g₀ held f s) :
      WindowKnown W g₀ held (.error f) s := broken
  unfold GuestM.window
  intro s sound
  rw [ending_bind, GuestM.ending_guest]
  simp only
  cases start : s.guest.windowStart with
  | some a =>
    rcases sound.window with ⟨none, -⟩ | ⟨a', n, known, size, positive⟩
    · simp [start] at none
    · obtain rfl : a = a' := Option.some.inj (start.symm.trans known)
      exact ⟨n, size, { sound with window := ⟨known, size, positive⟩ }⟩
  | none =>
    have size : s.guest.windowSize = none := by
      rcases sound.window with ⟨-, none⟩ | ⟨a, n, known, -⟩
      · exact none
      · simp [start] at known
    have first : Ends (Sound W g₀ held fun _ size => size = none)
        (GuestM.callExport out again "get_wasm_memory_buffer" []) _ :=
      ends_callExport (fun _ _ => .inl) keeps undisturbed "get_wasm_memory_buffer" []
    refine first.bind (fun a => ?_) failed s { sound with window := size }
    -- Between the two questions the start is known and the size is not.
    refine ends_update_bind (Sound W g₀ held fun start size => start = some a ∧ size = none)
      (fun _ sound => { sound with window := ⟨rfl, sound.window⟩ }) ?_
    have second : Ends (Sound W g₀ held fun start size => start = some a ∧ size = none)
        (GuestM.callExport out again "get_wasm_memory_buffer_size" []) _ :=
      ends_callExport (fun _ _ known => .inl known.2) keeps undisturbed "get_wasm_memory_buffer_size" []
    refine second.bind (fun n => ?_) failed
    refine ends_update_bind (Sound W g₀ held fun start size => start = some a ∧ size = some n)
      (fun _ sound => { sound with window := ⟨sound.window.1, rfl⟩ }) ?_
    refine .ite (fun empty => ?_) fun room => ?_
    · exact fun t sound => broken_breach rfl sound.toWatched
    · intro t sound
      exact ⟨n, rfl, { sound with window := ⟨sound.window.1, sound.window.2, by omega⟩ }⟩

/-- A piece no longer than the window is written, or it leaves the memory. -/
theorem ends_putPiece {a n : Int} {data : Bytes} (short : data.length ≤ n) :
    Ends (Sound W g₀ held (At a n)) (GuestM.putPiece a data)
      (Ended W g₀ held (At a n) Strayed) := by
  intro s sound
  obtain ⟨start, size, -⟩ := sound.window
  rw [GuestM.ending_putPiece, Memory.write_eq]
  by_cases inside : InRange a data.length s.guest.memory.size
  · simp only [if_pos inside]
    exact { sound with }
  · simp only [if_neg inside]
    exact .inr ⟨sound.mono fun _ _ there => there.windowed.ready, _, rfl, start, ⟨n, size, short⟩,
      Int.natCast_nonneg _, rfl, inside⟩

/-- A piece no longer than the window is read, or it leaves the memory. -/
theorem ends_getPiece {a n length : Int} (least : 0 ≤ length) (short : length ≤ n) :
    Ends (Sound W g₀ held (At a n)) (GuestM.getPiece a length)
      (Ended W g₀ held (At a n) Strayed) := by
  intro s sound
  obtain ⟨start, size, -⟩ := sound.window
  rw [GuestM.ending_getPiece, Memory.read_eq]
  by_cases inside : InRange a length s.guest.memory.size
  · simp only [if_pos inside]
    exact sound
  · simp only [if_neg inside]
    exact .inr ⟨sound.mono fun _ _ there => there.windowed.ready, _, rfl, start, ⟨n, size, short⟩, least,
      rfl, inside⟩

theorem ends_sendPieces (keeps : out.Keeps W) (undisturbed : Undisturbed out again held) {a n : Int}
    (parts : List Bytes) (short : ∀ piece ∈ parts, (piece.length : Int) ≤ n) :
    Ends (Sound W g₀ held (At a n)) (GuestM.sendPieces out again a parts)
      (Ended W g₀ held (At a n) Strayed) := by
  induction parts with
  | nil => exact ends_pure ()
  | cons piece rest ih =>
    refine ends_bind (ends_putPiece (short piece (List.mem_cons_self ..))) fun _ => ?_
    refine ends_bind (ends_called (fun _ _ there => there.windowed.loose) keeps undisturbed _ _) fun _ => ?_
    exact ih fun piece mem => short piece (List.mem_cons_of_mem _ mem)

theorem length_le_of_mem_pieces {pred : Nat} {data piece : Bytes} (mem : piece ∈ pieces pred data) :
    piece.length ≤ pred + 1 := by
  fun_induction pieces pred data with
  | case1 => simp at mem
  | case2 b rest ih =>
    rcases List.mem_cons.1 mem with rfl | mem
    · rw [List.length_cons, List.length_take]
      exact Nat.succ_le_succ (Nat.min_le_left ..)
    · exact ih mem

theorem exists_eq_ofNat_succ {n : Int} (positive : 0 < n) : ∃ pred : Nat, n = .ofNat (pred + 1) := by
  obtain ⟨pred, rfl⟩ := Int.eq_succ_of_zero_lt positive
  exact ⟨pred, rfl⟩

theorem ends_sendBytes (keeps : out.Keeps W) (undisturbed : Undisturbed out again held)
    (data : Bytes) :
    Ends (Sound W g₀ held Ready) (GuestM.sendBytes out again data)
      (Ended W g₀ held Windowed Strayed) := by
  refine (ends_window keeps undisturbed).bind ?_ fun _ _ broken => .inl broken
  rintro ⟨a, size⟩ s ⟨n, rfl, sound⟩
  obtain ⟨pred, rfl⟩ := exists_eq_ofNat_succ sound.window.2.2
  have sent : Ends (Sound W g₀ held (At a (.ofNat (pred + 1)))) (do
      let _ ← GuestM.callExport out again "clear_shared_bytes" [data.length]
      GuestM.sendPieces out again a (pieces pred data))
      (Ended W g₀ held (At a (.ofNat (pred + 1))) Strayed) :=
    ends_bind (ends_called (fun _ _ there => there.windowed.loose) keeps undisturbed _ _) fun _ =>
      ends_sendPieces keeps undisturbed _ fun piece mem =>
        Int.ofNat_le.2 (length_le_of_mem_pieces mem)
  exact (sent s sound).mono (fun _ _ => At.windowed) fun _ _ reason => reason

theorem ends_fetchPiece (keeps : out.Keeps W) (undisturbed : Undisturbed out again held)
    {a n offset length : Int} (least : 0 ≤ length) (short : length ≤ n) :
    Ends (Sound W g₀ held (At a n)) (GuestM.fetchPiece out again a offset length)
      (Ended W g₀ held (At a n) Strayed) :=
  ends_bind (ends_called (fun _ _ there => there.windowed.loose) keeps undisturbed _ _) fun _ =>
    ends_getPiece least short

theorem ends_receiveFrom (keeps : out.Keeps W) (undisturbed : Undisturbed out again held) {a : Int}
    (pred offset remaining : Nat) :
    Ends (Sound W g₀ held (At a (.ofNat (pred + 1))))
      (GuestM.receiveFrom out again a pred offset remaining)
      (Ended W g₀ held (At a (.ofNat (pred + 1))) Strayed) := by
  fun_induction GuestM.receiveFrom out again a pred offset remaining with
  | case1 => exact ends_pure []
  | case2 offset remaining _ length ih =>
    refine ends_bind (ends_fetchPiece keeps undisturbed (Int.natCast_nonneg _) ?_) fun _ => ?_
    · exact Int.ofNat_le.2 (Nat.min_le_left ..)
    · exact ends_bind ih fun _ => ends_pure _

theorem ends_receiveBytes (keeps : out.Keeps W) (undisturbed : Undisturbed out again held)
    (length : Int) :
    Ends (Sound W g₀ held Ready) (GuestM.receiveBytes out again length)
      (Ended W g₀ held Windowed Strayed) := by
  refine (ends_window keeps undisturbed).bind ?_ fun _ _ broken => .inl broken
  rintro ⟨a, size⟩ s ⟨n, rfl, sound⟩
  obtain ⟨pred, rfl⟩ := exists_eq_ofNat_succ sound.window.2.2
  have received : Ends (Sound W g₀ held (At a (.ofNat (pred + 1))))
      (if length ≤ 0 then return [] else GuestM.receiveFrom out again a pred 0 length.toNat)
      (Ended W g₀ held (At a (.ofNat (pred + 1))) Strayed) :=
    .ite (fun _ => ends_pure []) fun _ => ends_receiveFrom keeps undisturbed _ _ _
  exact (received s sound).mono (fun _ _ => At.windowed) fun _ _ reason => reason

theorem ends_receiveText (keeps : out.Keeps W) (undisturbed : Undisturbed out again held)
    (name : String) :
    Ends (Sound W g₀ held Ready) (GuestM.receiveText out again name)
      (Ended W g₀ held Windowed Strayed) := by
  refine ends_bind (ends_called (fun _ _ => Ready.loose) keeps undisturbed _ _) fun length => ?_
  refine ends_bind (ends_receiveBytes keeps undisturbed _) fun data => ?_
  cases Utf8.decode data with
  | ok text => exact ends_pure text
  | error refusal => exact fun s sound => ends_breach rfl s sound.toWatched

/-! ### Calls -/

/-- A configuration is handed over, or it has no written form. -/
theorem ends_sendConfig (keeps : out.Keeps W) (undisturbed : Undisturbed out again held)
    (config : Datum) (taker : String) :
    Ends (Sound W g₀ held Ready) (GuestM.sendConfig out again config taker)
      (Ended W g₀ held Windowed fun f s => Strayed f s ∨ ConfigMap.serialize config = .error f) := by
  unfold GuestM.sendConfig
  cases written : ConfigMap.serialize config with
  | error f => exact fun s sound => .inr ⟨sound, .inr rfl⟩
  | ok data =>
    refine ends_bind (ends_pure data) fun data => ?_
    refine ends_bind (ends_allow (ends_sendBytes keeps undisturbed data) fun _ _ => .inl) fun _ => ?_
    exact ends_bind (ends_called (fun _ _ => Windowed.loose) keeps undisturbed _ _) fun _ => ends_pure _

/-- Why a guest could not be handed a format call although it broke no rule. -/
def HandOverRefused (override : Datum) (f : Fault) (s : Scene σ ε ω) : Prop :=
  Strayed f s ∨ override.isBlank = false ∧ ConfigMap.serialize override = .error f

/-- Why a format call fails although the guest broke no rule. -/
def FormatRefused (override : Datum) (f : Fault) (s : Scene σ ε ω) : Prop :=
  HandOverRefused override f s ∨ ∃ message, f = .reported message

theorem ends_handOver (keeps : out.Keeps W) (undisturbed : Undisturbed out again held)
    (path text : String) (override : Datum) :
    Ends (Sound W g₀ held Ready) (GuestM.handOver out again path text override)
      (Ended W g₀ held Windowed (HandOverRefused override)) := by
  have sent (data : Bytes) : Ends (Sound W g₀ held Ready) (GuestM.sendBytes out again data)
      (Ended W g₀ held Windowed (HandOverRefused override)) :=
    ends_allow (ends_sendBytes keeps undisturbed data) fun _ _ => .inl
  have resent (data : Bytes) : Ends (Sound W g₀ held Windowed) (GuestM.sendBytes out again data)
      (Ended W g₀ held Windowed (HandOverRefused override)) := ends_ready (sent data)
  unfold GuestM.handOver
  refine ends_bind (sent _) fun _ => ?_
  refine ends_bind (ends_called (fun _ _ => Windowed.loose) keeps undisturbed _ _) fun _ => ?_
  refine .ite (fun given => ?_) fun _ => resent _
  refine ends_bind (ends_ready (ends_allow (ends_sendConfig keeps undisturbed override _) ?_))
    fun _ => resent _
  exact fun f s reason => reason.imp_right fun unwritten => ⟨by simpa using given, unwritten⟩

theorem ends_fetchAnswer (keeps : out.Keeps W) (undisturbed : Undisturbed out again held)
    (override : Datum) :
    Ends (Sound W g₀ held Windowed) (GuestM.fetchAnswer out again)
      (Ended W g₀ held Windowed (FormatRefused override)) := by
  have received (name : String) : Ends (Sound W g₀ held Windowed) (GuestM.receiveText out again name)
      (Ended W g₀ held Windowed (FormatRefused override)) :=
    ends_ready (ends_allow (ends_receiveText keeps undisturbed name) fun _ _ strayed =>
      .inl (.inl strayed))
  unfold GuestM.fetchAnswer
  refine ends_bind (ends_called (fun _ _ => Windowed.loose) keeps undisturbed _ _) fun status => ?_
  split
  · exact ends_pure none
  · exact ends_bind (received _) fun _ => ends_pure _
  · refine ends_bind (received _) fun message => ?_
    exact fun s sound => .inr ⟨sound.mono fun _ _ => Windowed.ready, .inr ⟨message, rfl⟩⟩
  · exact fun s sound => ends_breach rfl s sound.toWatched

theorem ends_formatExchange (keeps : out.Keeps W) (undisturbed : Undisturbed out again held)
    (path text : String) (override : Datum) :
    Ends (Sound W g₀ held Ready) (GuestM.formatExchange out again path text override)
      (Ended W g₀ held Windowed (FormatRefused override)) :=
  ends_bind (ends_allow (ends_handOver keeps undisturbed path text override) fun _ _ => .inl)
    fun _ => ends_fetchAnswer keeps undisturbed override

theorem ending_holding (c : GuestM σ ε ω α) (s : Scene σ ε ω) :
    ending (GuestM.holding c) s =
      ((ending c { s with guest := { s.guest with busy := true } }).1,
        { (ending c { s with guest := { s.guest with busy := true } }).2 with
          guest := { (ending c { s with guest := { s.guest with busy := true } }).2.guest with
            busy := false } }) := by
  unfold GuestM.holding
  rw [ending_bind, GuestM.ending_update]
  simp only
  rw [ending_bind, GuestM.ending_attempt]
  simp only
  rw [ending_bind, GuestM.ending_update]
  simp only [ending_ofExcept]

section

variable (out : Outside ε ω) (again : Again σ ε ω) (path text : String) (override : Datum)
  {s : Scene σ ε ω}

/-- A format call that finds the instance held is refused and leaves everything as it is. -/
theorem ending_formatWith_of_held (held : s.guest.busy = true) :
    ending (GuestM.formatWith out again path text override) s =
      (.error (.busy s.guest.plugin), s) := by
  unfold GuestM.formatWith
  rw [ending_bind, GuestM.ending_guest]
  simp only [held, if_true]
  rfl

theorem ending_formatWith_of_free (free : s.guest.busy = false) :
    ending (GuestM.formatWith out again path text override) s =
      ending (GuestM.holding (GuestM.formatExchange out again path text override)) s := by
  unfold GuestM.formatWith
  rw [ending_bind, GuestM.ending_guest]
  simp only [free, Bool.false_eq_true, if_false]

end

/-- A held instance refuses format calls of its own guest. -/
theorem undisturbed_nestedFormat (out : Outside ε ω) :
    Undisturbed out (GuestM.nestedFormat (σ := σ) out) true :=
  .inr ⟨rfl, fun path text _ held =>
    congrArg Prod.snd (ending_formatWith_of_held out GuestM.refused path text .null held)⟩

theorem ends_holding {c : GuestM σ ε ω α}
    (ends : Ends (Sound W g₀ true F) c (Ended W g₀ true F' allowed))
    (still : ∀ f s, allowed f s → allowed f { s with guest := { s.guest with busy := false } }) :
    Ends (Sound W g₀ held F) (GuestM.holding c) (Ended W g₀ false F' allowed) := by
  intro s sound
  have ended := ends { s with guest := { s.guest with busy := true } }
    { sound with busy := rfl }
  rw [ending_holding]
  revert ended
  rcases ending c { s with guest := { s.guest with busy := true } } with ⟨f | a, t⟩
  · rintro ((⟨watched, poisoned, kind⟩ | ⟨loose, room⟩) | ⟨sound, reason⟩)
    · exact .inl (.inl ⟨{ watched with busy := rfl }, poisoned, kind⟩)
    · exact .inl (.inr ⟨{ loose with busy := rfl }, room⟩)
    · exact .inr ⟨{ sound with busy := rfl }, still f t reason⟩
  · intro sound
    exact { Sound.mono sound fun _ _ known => known with busy := rfl }

/-- How a format call on an instance ends. -/
theorem ends_formatText (keeps : out.Keeps W) (path text : String) (override : Datum) :
    Ends (Sound W g₀ false Ready) (GuestM.formatText out path text override)
      (Ended W g₀ false Windowed (FormatRefused override)) := by
  intro s sound
  rw [GuestM.formatText, ending_formatWith_of_free out _ path text override sound.busy]
  refine ends_holding ?_ (fun _ _ reason => reason) s sound
  exact ends_formatExchange keeps (undisturbed_nestedFormat out) path text override

/-- Why a configuration call fails although the guest broke no rule. -/
def ConfigRefused (global plugin : Datum) (f : Fault) (s : Scene σ ε ω) : Prop :=
  Strayed f s ∨ ConfigMap.serialize global = .error f ∨ ConfigMap.serialize plugin = .error f

/-- A configuration that was handed over has a written form. -/
theorem written_of_sendConfig {config : Datum} {taker : String} {s : Scene σ ε ω}
    (ok : (ending (GuestM.sendConfig out again config taker) s).1 = .ok ()) :
    ∃ data, ConfigMap.serialize config = .ok data := by
  obtain ⟨data, t, written, -⟩ := exists_of_ending_bind ok
  exact ⟨data, congrArg Prod.fst written⟩

theorem written_of_setConfig {global plugin : Datum} {s : Scene σ ε ω}
    (ok : (ending (GuestM.setConfig out global plugin) s).1 = .ok ()) :
    (∃ data, ConfigMap.serialize global = .ok data) ∧
      ∃ data, ConfigMap.serialize plugin = .ok data := by
  unfold GuestM.setConfig at ok
  rw [ending_holding] at ok
  obtain ⟨_, _, -, ok⟩ := exists_of_ending_bind ok
  obtain ⟨_, _, sent, ok⟩ := exists_of_ending_bind ok
  exact ⟨written_of_sendConfig (congrArg Prod.fst sent), written_of_sendConfig ok⟩

/-- The override of a format call that was answered has a written form. -/
theorem written_of_formatText {path text : String} {override : Datum}
    (given : override.isBlank = false) {v : Option String} {s : Scene σ ε ω}
    (ok : (ending (GuestM.formatText out path text override) s).1 = .ok v) :
    ∃ data, ConfigMap.serialize override = .ok data := by
  unfold GuestM.formatText GuestM.formatWith at ok
  obtain ⟨g, t, -, ok⟩ := exists_of_ending_bind ok
  split at ok
  · simp at ok
  rw [ending_holding] at ok
  obtain ⟨_, _, handed, -⟩ := exists_of_ending_bind ok
  have handed := congrArg Prod.fst handed
  obtain ⟨_, _, -, handed⟩ := exists_of_ending_bind handed
  obtain ⟨_, _, -, handed⟩ := exists_of_ending_bind handed
  simp only [given, Bool.not_false, if_true] at handed
  obtain ⟨_, _, sent, -⟩ := exists_of_ending_bind handed
  exact written_of_sendConfig (congrArg Prod.fst sent)

/-- How a configuration call ends; it succeeds only if both configurations can be written. -/
theorem ends_setConfig (keeps : out.Keeps W) (global plugin : Datum) :
    Ends (Sound W g₀ false Ready) (GuestM.setConfig out global plugin)
      fun r s => Ended W g₀ false Windowed (ConfigRefused global plugin) r s ∧
        (r = .ok () → (∃ data, ConfigMap.serialize global = .ok data) ∧
          ∃ data, ConfigMap.serialize plugin = .ok data) := by
  have undisturbed := undisturbed_nestedFormat (σ := σ) out
  refine fun s sound => ⟨?_, written_of_setConfig⟩
  unfold GuestM.setConfig
  refine ends_holding ?_ (fun _ _ reason => reason) s sound
  refine ends_bind (ends_called (fun _ _ => Ready.loose) keeps undisturbed _ _) fun _ => ?_
  refine ends_bind (ends_allow (ends_sendConfig keeps undisturbed global _) ?_) fun _ => ends_ready ?_
  · exact fun _ _ reason => reason.imp_right .inl
  · exact ends_allow (ends_sendConfig keeps undisturbed plugin _) fun _ _ reason =>
      reason.imp_right .inr

theorem ends_pluginInfo (keeps : out.Keeps W) (far : out.selfCalls = false) :
    Ends (Sound W g₀ false Ready) (GuestM.pluginInfo out) (Ended W g₀ false Windowed Strayed) := by
  refine ends_bind (ends_receiveText keeps (.inl far) _) fun text => ?_
  cases PluginInfo.parse text with
  | ok info => exact ends_pure info
  | error complaints => exact fun s sound => ends_breach rfl s sound.toWatched

theorem ends_configDiagnostics (keeps : out.Keeps W) (far : out.selfCalls = false) :
    Ends (Sound W g₀ false Ready) (GuestM.configDiagnostics out)
      (Ended W g₀ false Windowed fun f s =>
        Strayed f s ∨ ∃ complaints, f = .diagnosticsMalformed g₀.plugin complaints) := by
  refine ends_bind (ends_allow (ends_receiveText keeps (.inl far) _) fun _ _ => .inl) fun text => ?_
  refine .ite (fun _ => ends_pure []) fun _ => ?_
  cases Diagnostic.parseAll text with
  | ok diagnostics => exact ends_pure diagnostics
  | error complaints =>
    exact fun s sound => .inr
      ⟨sound.mono fun _ _ => Windowed.ready, .inr ⟨complaints, sound.plugin ▸ rfl⟩⟩

/-- No call is going on with an instance, and the host knows no empty window of it unless it is marked as
unusable. -/
def Settled (g : Instance σ ε) : Prop :=
  g.busy = false ∧ (g.poisoned = false → Loose g.windowStart g.windowSize)

theorem Sound.settled {s : Scene σ ε ω} (sound : Sound W g₀ false Loose s) : Settled s.guest :=
  ⟨sound.busy, fun _ => sound.window⟩

theorem Broken.settled {f : Fault} {s : Scene σ ε ω} (broken : Broken W g₀ false f s) :
    Watched W g₀ false s ∧ Settled s.guest := by
  rcases broken with ⟨watched, poisoned, -⟩ | ⟨sound, -⟩
  · exact ⟨watched, watched.busy, fun healthy => absurd healthy (by simp [poisoned])⟩
  · exact ⟨sound.toWatched, sound.settled⟩

theorem Ended.settled (loose : ∀ start size, F start size → Loose start size) {r : Except Fault α}
    {s : Scene σ ε ω} (ended : Ended W g₀ false F allowed r s) :
    Watched W g₀ false s ∧ Settled s.guest := by
  rcases r with f | a
  · rcases ended with broken | ⟨sound, -⟩
    · exact broken.settled
    · exact ⟨sound.toWatched, (sound.mono fun _ _ => Ready.loose).settled⟩
  · exact ⟨Sound.toWatched ended, (Sound.mono ended loose).settled⟩

theorem Ended.world (loose : ∀ start size, F start size → Loose start size) {r : Except Fault α}
    {s : Scene σ ε ω} (ended : Ended W g₀ false F allowed r s) : W s.world :=
  (ended.settled loose).1.world

/-- How the question for the schema version ends: a failure is one of loading, or for want of room. -/
def Tried (W : ω → Prop) (g₀ : Instance σ ε) : Except Fault α → Scene σ ε ω → Prop
  | .ok _, s => Sound W g₀ false Ready s
  | .error f, s =>
    Watched W g₀ false s ∧ Settled s.guest ∧ (f.kind = .load ∨ g₀.exports.RunsOut f)

theorem ends_checkSchema (keeps : out.Keeps W) (far : out.selfCalls = false) :
    Ends (Sound W g₀ false Ready) (GuestM.checkSchema out) (Tried W g₀) := by
  have reported : Ends (Sound W g₀ false Ready) (GuestM.reportedSchema out) (Called W g₀ false Ready) :=
    ends_callExport (fun _ _ => Ready.loose) keeps (.inl far) _ _
  unfold GuestM.checkSchema
  intro s sound
  have ended := reported s sound
  rw [ending_bind, GuestM.ending_guest]
  simp only
  rw [ending_bind, GuestM.ending_attempt]
  revert ended
  rcases ending (GuestM.reportedSchema out) s with ⟨cause | version, t⟩ <;> intro ended
  · refine ⟨Broken.settled ended |>.1, Broken.settled ended |>.2, ?_⟩
    rcases ended with ⟨-, -, kind⟩ | ⟨-, out⟩
    · exact .inl (by simp only [if_pos kind]; rfl)
    · have other : cause.kind ≠ .guest := out.room.kind ▸ FaultKind.noConfusion
      exact .inr (by simpa only [if_neg other] using out)
  · refine Ends.ite (fun _ => ?_) (fun _ => ?_) t ended
    · intro t sound
      exact ⟨Sound.toWatched sound, (Sound.mono sound fun _ _ => Ready.loose).settled, .inl rfl⟩
    · exact fun t sound => sound

end

end FormatHost
