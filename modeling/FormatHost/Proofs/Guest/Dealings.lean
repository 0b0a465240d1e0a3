import FormatHost.Proofs.Guest.Career
/-!
# What exchanges amount to

An exchange that succeeds has had its effect: the bytes that were to be handed over have been handed over,
piece by piece and in order, however large the window is, and an answer was fetched as a whole.
-/
namespace FormatHost

variable {σ ε ω α β : Type}

/-! ### Affairs -/

/-- A guest took what it had been handed. -/
structure Affair.Took (a : Affair) (name : String) (data : Bytes) : Prop where
  name : a.name = name
  handed : a.handed = data
  result : ∃ v, a.result = .ok v

/-- A guest announced a text, and all of it was fetched. -/
structure Affair.Told (a : Affair) (name text : String) : Prop where
  name : a.name = name
  whole : ∃ length, a.result = .ok length ∧ a.fetched.length = length.toNat
  text : Utf8.decode a.fetched = .ok text

namespace Digest

variable {d : Digest} {name : String} {arguments : List Int}

/-- Only one export tells where the window starts. -/
theorem window_note_called (other : name ≠ "get_wasm_memory_buffer") (result : Except Fault Int) :
    (d.note (.called name arguments result)).window = d.window := by
  simp only [note]
  split
  · split <;> first | rfl | contradiction
  · rfl

/-- Only one export tells how large it is. -/
theorem size_note_called (other : name ≠ "get_wasm_memory_buffer_size") (result : Except Fault Int) :
    (d.note (.called name arguments result)).size = d.size := by
  simp only [note]
  split
  · split <;> first | rfl | contradiction
  · rfl

end Digest

/-! ### Successful exchanges -/

/-- What the host notes about the window is what the guest told, and there is room for a byte. -/
def Furnished (d : Digest) (g : Instance σ ε) : Prop :=
  ∀ start, g.windowStart = some start → d.window = some start ∧
    ∃ pred : Nat, g.windowSize = some (.ofNat (pred + 1)) ∧ d.size = some (.ofNat (pred + 1))

/-- An instance that was just loaded has told nothing of a window. -/
theorem Furnished.fresh {engine : Engine σ ε} {out : Outside ε ω} (far : out.selfCalls = false)
    {name : String} {table : HostTable} (unbound : table.Unbound) {moduleBytes : Bytes} {x : ε × ω}
    {g : Instance σ ε} (loaded : ((Instance.load engine out name table moduleBytes).run x).1.1 = .ok g) :
    Furnished .fresh g := by
  obtain ⟨m, e, s, -, made, rfl⟩ := exists_of_load loaded
  have sound := ends_instantiate out.keeps_true far m ⟨m.begin name table, e, x.2⟩
    ⟨(⟨⟨trivial, rfl, rfl, rfl⟩, rfl, rfl, rfl⟩ : Sound _ (m.begin name table) false _ _), unbound⟩
  rw [made] at sound
  intro start known
  exact absurd (known.symm.trans sound.window.1) (by simp)

/-- Started where dealings amount to `P`, an exchange that succeeds makes them amount to `Q`. -/
def Achieves (engine : Engine σ ε) (origin : String × Bytes) (P : Digest → Prop)
    (c : GuestM σ ε ω α) (Q : α → Digest → Prop) : Prop :=
  ∀ s d, Stands engine origin d s.guest → Furnished d s.guest → P d →
    ∀ a t, ending c s = (.ok a, t) →
      ∃ d', Stands engine origin d' t.guest ∧ Furnished d' t.guest ∧ Q a d'

section

variable {engine : Engine σ ε} {origin : String × Bytes} {P : Digest → Prop}
  {c : GuestM σ ε ω α} {Q : α → Digest → Prop}

namespace Achieves

theorem pure {a : α} (holds : ∀ d, P d → Q a d) :
    Achieves engine origin P (Pure.pure a : GuestM σ ε ω α) Q := by
  rintro s d stands furnished before _ _ ⟨⟩
  exact ⟨d, stands, furnished, holds d before⟩

theorem throw (f : Fault) :
    Achieves engine origin P (MonadExcept.throw f : GuestM σ ε ω α) Q := by
  rintro s d stands furnished before _ _ ⟨⟩

theorem breach (f : Fault) : Achieves engine origin P (GuestM.breach f : GuestM σ ε ω α) Q := by
  rintro s d stands furnished before _ _ ⟨⟩

theorem bind {k : α → GuestM σ ε ω β} {R : β → Digest → Prop} (first : Achieves engine origin P c Q)
    (next : ∀ a, Achieves engine origin (Q a) (k a) R) : Achieves engine origin P (c >>= k) R := by
  intro s d stands furnished before b u ok
  obtain ⟨a, t, ran, ok⟩ := exists_of_ending_bind_eq ok
  obtain ⟨d', stands', furnished', after⟩ := first s d stands furnished before a t ran
  exact next a t d' stands' furnished' after b u ok

theorem weaken {P' : Digest → Prop} {Q' : α → Digest → Prop} (achieves : Achieves engine origin P c Q)
    (stronger : ∀ d, P' d → P d) (weaker : ∀ a d, Q a d → Q' a d) :
    Achieves engine origin P' c Q' := by
  intro s d stands furnished before a t ok
  obtain ⟨d', stands', furnished', after⟩ := achieves s d stands furnished (stronger d before) a t ok
  exact ⟨d', stands', furnished', weaker a d' after⟩

theorem guest_bind {k : Instance σ ε → GuestM σ ε ω β} {R : β → Digest → Prop}
    (next : ∀ g, Achieves engine origin P (k g) R) :
    Achieves engine origin P (GuestM.guest >>= k) R := by
  refine .bind (Q := fun _ => P) ?_ next
  rintro s d stands furnished before _ _ ⟨⟩
  exact ⟨d, stands, furnished, before⟩

/-- Whether the instance is held is no matter. -/
theorem holding (achieves : Achieves engine origin P c Q) :
    Achieves engine origin P (GuestM.holding c) Q := by
  intro s d stands furnished before a t ok
  rw [ending_holding] at ok
  have held := achieves { s with guest := { s.guest with busy := true } } d
    (stands.noted _ _ _ true) furnished before a
  revert held ok
  rcases ending c { s with guest := { s.guest with busy := true } } with ⟨r, u⟩
  intro ok held
  obtain ⟨rfl, rfl⟩ := Prod.mk.inj ok
  obtain ⟨d', stands', furnished', after⟩ := held u rfl
  exact ⟨d', stands'.noted _ _ _ false, furnished', after⟩

end Achieves

/-! ### Calls and transfers -/

variable {out : Outside ε ω} (far : out.selfCalls = false) (again : Again σ ε ω)
include far

/-- A call that succeeds is one more dealing, and the host's notes stay. -/
theorem Stands.callExport {d : Digest} {s t : Scene σ ε ω} {name : String} {arguments : List Int}
    {v : Int} (stands : Stands engine origin d s.guest)
    (ok : ending (GuestM.callExport out again name arguments) s = (.ok v, t)) :
    Stands engine origin (d.note (.called name arguments (.ok v))) t.guest ∧
      s.guest.SameHost t.guest := by
  rw [GuestM.ending_callExport] at ok
  cases there : s.guest.exports name with
  | none => simp [there] at ok
  | some behaviour =>
    have after := stands.called far again there arguments
    have same := (Act.run_keeps (out.keeps_true) (.inl far : Undisturbed out again s.guest.busy)
      (behaviour arguments) s trivial rfl).2
    simp only [there] at ok
    revert after same ok
    rcases (behaviour arguments).run out again s with ⟨f | v', t'⟩ <;> intro after same ok
    · dsimp only at ok
      split at ok
      · cases congrArg Prod.fst ok
      · cases congrArg Prod.fst ok
    · obtain ⟨value, rfl⟩ := Prod.mk.inj ok
      obtain rfl := Except.ok.inj value
      exact ⟨after, same⟩

theorem achieves_callExport {name : String} (arguments : List Int) {Q : Int → Digest → Prop}
    (start : name ≠ "get_wasm_memory_buffer") (size : name ≠ "get_wasm_memory_buffer_size")
    (note : ∀ v d, P d → Q v (d.note (.called name arguments (.ok v)))) :
    Achieves engine origin P (GuestM.callExport out again name arguments) Q := by
  intro s d stands furnished before v t ok
  obtain ⟨after, same⟩ := stands.callExport far again ok
  refine ⟨_, after, fun a known => ?_, note v d before⟩
  rw [Digest.window_note_called start, Digest.size_note_called size, same.windowSize]
  exact furnished a (same.windowStart ▸ known)

/-- An affair that is opened. -/
theorem achieves_affair {name : String} (other : name ∉ carriers) (arguments : List Int)
    {data : Bytes} {affairs : List Affair} :
    Achieves engine origin (fun d => d.shared = data ∧ d.affairs = affairs)
      (GuestM.callExport out again name arguments : GuestM σ ε ω Int)
      fun v d => d.affairs = ⟨name, data, .ok v, []⟩ :: affairs := by
  refine achieves_callExport far again arguments ?_ ?_ ?_
  · rintro rfl
    exact other (by decide)
  · rintro rfl
    exact other (by decide)
  · rintro v d ⟨rfl, rfl⟩
    rw [Digest.note_affair other]

/-- What was handed over for it may be anything. -/
theorem achieves_opened {name : String} (other : name ∉ carriers) (arguments : List Int)
    {affairs : List Affair} :
    Achieves engine origin (fun d => d.affairs = affairs)
      (GuestM.callExport out again name arguments : GuestM σ ε ω Int)
      fun v d => ∃ data, d.affairs = ⟨name, data, .ok v, []⟩ :: affairs := by
  intro s d stands furnished same v t ok
  obtain ⟨d', stands', furnished', opened⟩ :=
    achieves_affair far again other arguments s d stands furnished ⟨rfl, same⟩ v t ok
  exact ⟨d', stands', furnished', _, opened⟩

/-- The window is asked for, unless it is known already. -/
theorem achieves_window {affairs : List Affair} :
    Achieves engine origin (fun d => d.affairs = affairs)
      (GuestM.window out again : GuestM σ ε ω (Int × Option Int)) fun told d =>
        d.affairs = affairs ∧ d.window = some told.1 ∧
          ∃ pred : Nat, told.2 = some (.ofNat (pred + 1)) ∧ d.size = some (.ofNat (pred + 1)) := by
  rintro s d stands furnished rfl ⟨a, size⟩ t ok
  unfold GuestM.window at ok
  rw [ending_bind, GuestM.ending_guest] at ok
  simp only at ok
  cases known : s.guest.windowStart with
  | some start =>
    obtain ⟨window, pred, windowSize, told⟩ := furnished start known
    simp only [known, ending_pure] at ok
    obtain ⟨answer, rfl⟩ := Prod.mk.inj ok
    obtain ⟨rfl, rfl⟩ := Prod.mk.inj (Except.ok.inj answer)
    exact ⟨d, stands, furnished, rfl, window, pred, windowSize, told⟩
  | none =>
    simp only [known] at ok
    -- Between the two questions the start is known and the size is not.
    obtain ⟨start, t₁, first, ok⟩ := exists_of_ending_bind_eq ok
    obtain ⟨stands₁, same₁⟩ := stands.callExport far again first
    rw [Digest.note_tell_start] at stands₁
    rw [ending_bind, GuestM.ending_update] at ok
    simp only at ok
    obtain ⟨n, t₂, second, ok⟩ := exists_of_ending_bind_eq ok
    obtain ⟨stands₂, same₂⟩ :=
      (stands₁.noted (some start) _ _ _).callExport far again second
    rw [Digest.note_tell_size] at stands₂
    rw [ending_bind, GuestM.ending_update] at ok
    by_cases empty : n ≤ 0
    · simp only [if_pos empty] at ok
      obtain ⟨_, _, failed, -⟩ := exists_of_ending_bind_eq ok
      simp at failed
    · simp only [if_neg empty, ending_pure] at ok
      obtain ⟨answer, rfl⟩ := Prod.mk.inj ok
      obtain ⟨rfl, rfl⟩ := Prod.mk.inj (Except.ok.inj answer)
      obtain ⟨pred, rfl⟩ := exists_eq_ofNat_succ (by omega : 0 < n)
      refine ⟨_, stands₂.noted _ (some (.ofNat (pred + 1))) _ _, fun b told => ?_, rfl, rfl, pred, rfl,
        rfl⟩
      obtain rfl : start = b := Option.some.inj (same₂.windowStart.symm.trans told)
      exact ⟨rfl, pred, rfl, rfl⟩

/-! ### Handing over -/

/-- A transfer is going on: the window is known, and so much has been handed over. -/
def Passing (start n : Int) (shared : Bytes) (affairs : List Affair) (d : Digest) : Prop :=
  d.window = some start ∧ d.size = some n ∧ d.shared = shared ∧ d.affairs = affairs

variable {start n : Int} {shared : Bytes} {affairs : List Affair}

omit far in
theorem achieves_putPiece {data : Bytes} (short : data.length ≤ n) :
    Achieves engine origin (Passing start n shared affairs)
      (GuestM.putPiece start data : GuestM σ ε ω Unit)
      fun _ d => Passing start n shared affairs d ∧ d.piece = data := by
  rintro s d stands furnished ⟨window, size, rest⟩ a t ok
  rw [GuestM.ending_putPiece] at ok
  cases written : s.guest.memory.write start data with
  | error e => simp [written] at ok
  | ok m =>
    simp only [written] at ok
    obtain ⟨-, rfl⟩ := Prod.mk.inj ok
    refine ⟨_, stands.put written, furnished, ⟨window, size, rest⟩, if_pos ?_⟩
    simp [Digest.admits, window, size, short]

/-- Pieces that fit the window are handed over in their order. -/
theorem achieves_sendPieces (parts : List Bytes)
    (short : ∀ piece ∈ parts, (piece.length : Int) ≤ n) :
    Achieves engine origin (Passing start n shared affairs)
      (GuestM.sendPieces out again start parts : GuestM σ ε ω Unit)
      fun _ => Passing start n (shared ++ parts.flatten) affairs := by
  induction parts generalizing shared with
  | nil => exact .pure fun d passing => by simpa using passing
  | cons piece rest ih =>
    refine (achieves_putPiece (short piece List.mem_cons_self)).bind fun _ => ?_
    have added : Achieves engine origin
        (fun d => Passing start n shared affairs d ∧ d.piece = piece)
        (GuestM.callExport out again "add_to_shared_bytes_from_buffer" [(piece.length : Int)])
        fun _ => Passing start n (shared ++ piece) affairs := by
      refine achieves_callExport far again _ (by decide) (by decide) ?_
      rintro v d ⟨⟨window, size, rfl, same⟩, rfl⟩
      rw [Digest.note_add]
      exact ⟨window, size, rfl, same⟩
    refine added.bind fun _ => ?_
    rw [List.flatten_cons, ← List.append_assoc]
    exact ih fun piece mem => short piece (List.mem_cons_of_mem _ mem)

/-- Bytes are handed over as a whole, however large the window is. -/
theorem achieves_sendBytes (data : Bytes) :
    Achieves engine origin (fun d => d.affairs = affairs)
      (GuestM.sendBytes out again data : GuestM σ ε ω Unit)
      fun _ d => d.shared = data ∧ d.affairs = affairs := by
  refine (achieves_window far again).bind ?_
  rintro ⟨start, size⟩
  have cleared : Achieves engine origin
      (fun d => d.affairs = affairs ∧ d.window = some start ∧
        ∃ pred : Nat, size = some (.ofNat (pred + 1)) ∧ d.size = some (.ofNat (pred + 1)))
      (GuestM.callExport out again "clear_shared_bytes" [(data.length : Int)])
      fun _ d => ∃ pred : Nat, size = some (.ofNat (pred + 1)) ∧
        Passing start (.ofNat (pred + 1)) [] affairs d := by
    refine achieves_callExport far again _ (by decide) (by decide) ?_
    rintro v d ⟨same, window, pred, told, room⟩
    rw [Digest.note_clear]
    exact ⟨pred, told, window, room, rfl, same⟩
  refine cleared.bind fun _ => ?_
  rintro s d stands furnished ⟨pred, rfl, passing⟩
  have sent : Achieves engine origin (Passing start (.ofNat (pred + 1)) [] affairs)
      (GuestM.sendPieces out again start (pieces pred data))
      fun _ => Passing start (.ofNat (pred + 1)) ([] ++ (pieces pred data).flatten) affairs :=
    achieves_sendPieces far again _ fun piece mem => Int.ofNat_le.2 (length_le_of_mem_pieces mem)
  refine sent.weaken (fun _ passing => passing) ?_ s d stands furnished passing
  rintro _ d ⟨-, -, all, same⟩
  rw [flatten_pieces, List.nil_append] at all
  exact ⟨all, same⟩

/-- A configuration that was handed over was taken in its written form. -/
theorem achieves_sendConfig (config : Datum) {taker : String} (other : taker ∉ carriers) :
    Achieves engine origin (fun d => d.affairs = affairs)
      (GuestM.sendConfig out again config taker : GuestM σ ε ω Unit) fun _ d =>
        ∃ a data, d.affairs = a :: affairs ∧ ConfigMap.serialize config = .ok data ∧
          a.Took taker data := by
  unfold GuestM.sendConfig
  cases written : ConfigMap.serialize config with
  | error f => exact .bind (Q := fun _ _ => False) (.throw f) fun _ => fun _ _ _ _ none => none.elim
  | ok data =>
    refine .bind (Q := fun b d => b = data ∧ d.affairs = affairs) (.pure fun d same => ⟨rfl, same⟩)
      fun b => ?_
    refine .bind (Q := fun _ d => d.shared = data ∧ d.affairs = affairs) ?_ fun _ => ?_
    · rintro s d stands furnished ⟨rfl, same⟩
      exact achieves_sendBytes far again b s d stands furnished same
    · refine (achieves_affair far again other []).bind fun v => .pure fun d opened => ?_
      exact ⟨_, data, opened, rfl, rfl, rfl, v, rfl⟩

/-! ### Fetching -/

/-- An answer is being fetched: the window is known, and so much of the newest affair's answer is there. -/
def Fetching (start : Int) (a : Affair) (fetched : Bytes) (affairs : List Affair) (d : Digest) : Prop :=
  d.window = some start ∧ d.affairs = { a with fetched } :: affairs

variable {a : Affair} {fetched : Bytes}

/-- A piece from where the last one ended belongs to the answer. -/
theorem achieves_fetchPiece (length : Int) :
    Achieves engine origin (Fetching start a fetched affairs)
      (GuestM.fetchPiece out again start fetched.length length : GuestM σ ε ω Bytes) fun data d =>
        (data.length : Int) = length ∧ Fetching start a (fetched ++ data) affairs d := by
  have shown : Achieves engine origin (Fetching start a fetched affairs)
      (GuestM.callExport out again "set_buffer_with_shared_bytes" [(fetched.length : Int), length])
      fun _ d => Fetching start a fetched affairs d ∧ d.shown = some ((fetched.length : Int), length) := by
    refine achieves_callExport far again _ (by decide) (by decide) ?_
    rintro v d ⟨window, same⟩
    rw [Digest.note_show]
    exact ⟨⟨window, same⟩, rfl⟩
  refine shown.bind fun _ => ?_
  rintro s d stands furnished ⟨⟨window, same⟩, part⟩ data t ok
  rw [GuestM.ending_getPiece] at ok
  cases read : s.guest.memory.read start length with
  | error e => simp [read] at ok
  | ok data' =>
    simp only [read] at ok
    obtain ⟨answer, rfl⟩ := Prod.mk.inj ok
    obtain rfl := Except.ok.inj answer
    have long : (data'.length : Int) = length := Memory.length_of_read read
    have note : d.note (.got start data') =
        { d with affairs := { a with fetched := fetched ++ data' } :: affairs } :=
      Digest.note_got same window (by rw [part, long])
    refine ⟨d.note (.got start data'), stands.got read, fun b told => ?_, long, ?_⟩
    · rw [note]
      exact furnished b told
    · rw [note]
      exact ⟨window, rfl⟩

/-- As much as was asked for is fetched, however large the window is. -/
theorem achieves_receiveFrom (pred remaining : Nat) :
    Achieves engine origin (Fetching start a fetched affairs)
      (GuestM.receiveFrom out again start pred fetched.length remaining : GuestM σ ε ω Bytes)
      fun data d => data.length = remaining ∧ Fetching start a (fetched ++ data) affairs d := by
  induction remaining using Nat.strongRecOn generalizing fetched with
  | ind remaining ih =>
    rw [GuestM.receiveFrom]
    split
    · next none => exact .pure fun d fetching => ⟨none.symm, by simpa using fetching⟩
    · next some =>
      refine (achieves_fetchPiece far again _).bind fun data => ?_
      rintro s d stands furnished ⟨long, fetching⟩
      have here : min (pred + 1) remaining = data.length := by omega
      have rest := @ih (remaining - data.length) (by omega) (fetched ++ data)
      rw [here]
      rw [List.length_append] at rest
      refine (rest.bind fun rest => .pure fun d => ?_) s d stands furnished fetching
      rintro ⟨left, fetching⟩
      exact ⟨by rw [List.length_append, left]; omega, by rwa [← List.append_assoc]⟩

/-- The answer of the newest affair is fetched as a whole. -/
theorem achieves_receiveBytes (length : Int) (none : a.fetched = []) :
    Achieves engine origin (fun d => d.affairs = a :: affairs)
      (GuestM.receiveBytes out again length : GuestM σ ε ω Bytes) fun data d =>
        data.length = length.toNat ∧ d.affairs = { a with fetched := data } :: affairs := by
  refine (achieves_window far again).bind ?_
  rintro ⟨start, size⟩ s d stands furnished ⟨same, window, pred, told, -⟩
  obtain rfl : size = some (.ofNat (pred + 1)) := told
  have received : Achieves engine origin (Fetching start a [] affairs)
      (if length ≤ 0 then return [] else GuestM.receiveFrom out again start pred 0 length.toNat)
      fun data d => data.length = length.toNat ∧ Fetching start a data affairs d := by
    split
    · next least => exact .pure fun d fetching => ⟨by simp; omega, fetching⟩
    · have none : ([] : Bytes).length = 0 := rfl
      rw [← none]
      exact achieves_receiveFrom far again pred length.toNat
  refine received.weaken (fun _ fetching => fetching) ?_ s d stands furnished ⟨window, ?_⟩
  · exact fun data d ⟨long, _, same⟩ => ⟨long, same⟩
  · rw [same, ← none]

/-- A text that was received was told as a whole. -/
theorem achieves_receiveText {name : String} (other : name ∉ carriers) :
    Achieves engine origin (fun d => d.affairs = affairs)
      (GuestM.receiveText out again name : GuestM σ ε ω String) fun text d =>
        ∃ a, d.affairs = a :: affairs ∧ a.Told name text := by
  refine (achieves_opened far again other []).bind fun length => ?_
  rintro s d stands furnished ⟨data, same⟩
  refine ((achieves_receiveBytes far again length rfl).bind fun fetched => ?_) s d stands furnished same
  cases read : Utf8.decode fetched with
  | ok text => exact .pure fun d ⟨long, told⟩ => ⟨_, told, rfl, ⟨length, rfl, long⟩, read⟩
  | error refusal => exact .guest_bind fun g => .breach _

/-! ### Services -/

omit again

/-- A guest that passed the check reported the schema version of the protocol. -/
theorem achieves_checkSchema :
    Achieves engine origin (fun d => d.affairs = affairs)
      (GuestM.checkSchema out : GuestM σ ε ω Unit) fun _ d =>
        ∃ a, d.affairs = a :: affairs ∧ a.name = "get_plugin_schema_version" ∧
          a.result = .ok schemaVersion := by
  refine .guest_bind fun g s d stands furnished same u t ok => ?_
  obtain ⟨r, t₁, tried, ok⟩ := exists_of_ending_bind_eq ok
  rw [GuestM.ending_attempt] at tried
  obtain ⟨answer, rfl⟩ := Prod.mk.inj tried
  cases r with
  | error cause => simp at ok
  | ok version =>
    by_cases right : version = schemaVersion
    · subst right
      simp only [ne_eq, not_true_eq_false, if_false] at ok
      obtain ⟨-, rfl⟩ := Prod.mk.inj ok
      obtain ⟨d', stands', furnished', data, opened⟩ := achieves_opened far _ (by decide) [] s d
        stands furnished same _ _ (Prod.ext (Except.ok.inj answer) rfl)
      exact ⟨d', stands', furnished', _, opened, rfl, rfl⟩
    · simp [right] at ok

/-- A guest that described itself has told its description. -/
theorem achieves_pluginInfo :
    Achieves engine origin (fun d => d.affairs = affairs)
      (GuestM.pluginInfo out : GuestM σ ε ω PluginInfo) fun info d =>
        ∃ a text, d.affairs = a :: affairs ∧ a.Told "get_plugin_info" text ∧
          PluginInfo.parse text = .ok info := by
  refine (achieves_receiveText far _ (by decide)).bind fun text => ?_
  cases parsed : PluginInfo.parse text with
  | ok info => exact .pure fun d ⟨a, same, told⟩ => ⟨a, text, same, told, parsed⟩
  | error complaints => exact .guest_bind fun g => .breach _

/-- A guest that was configured was reset, and took both configurations in their written form. -/
theorem achieves_setConfig (global plugin : Datum) :
    Achieves engine origin (fun d => d.affairs = affairs)
      (GuestM.setConfig out global plugin : GuestM σ ε ω Unit) fun _ d =>
        ∃ reset forAll forOne written written',
          d.affairs = forOne :: forAll :: reset :: affairs ∧
          ConfigMap.serialize global = .ok written ∧ ConfigMap.serialize plugin = .ok written' ∧
          reset.name = "reset_config" ∧ (∃ v, reset.result = .ok v) ∧
          forAll.Took "set_global_config" written ∧ forOne.Took "set_plugin_config" written' := by
  refine .holding ?_
  refine (achieves_opened far _ (by decide) []).bind fun v => ?_
  rintro s d stands furnished ⟨data, same⟩
  refine ((achieves_sendConfig far _ global (by decide)).bind fun _ => ?_) s d stands furnished same
  rintro s d stands furnished ⟨forAll, written, same, isWritten, took⟩
  refine ((achieves_sendConfig far _ plugin (by decide)).weaken (fun _ same => same) ?_) s d stands
    furnished same
  rintro _ d ⟨forOne, written', same, isWritten', took'⟩
  exact ⟨_, forAll, forOne, written, written', same, isWritten, isWritten', rfl, ⟨v, rfl⟩, took, took'⟩

/-- The errors that a guest found were told as a text that spells them; an empty one stands for none. -/
theorem achieves_configDiagnostics :
    Achieves engine origin (fun d => d.affairs = affairs)
      (GuestM.configDiagnostics out : GuestM σ ε ω (List Diagnostic)) fun diagnostics d =>
        ∃ a text, d.affairs = a :: affairs ∧ a.Told "get_config_diagnostics" text ∧
          (text = "" ∧ diagnostics = [] ∨ Diagnostic.parseAll text = .ok diagnostics) := by
  refine (achieves_receiveText far _ (by decide)).bind fun text => ?_
  by_cases empty : text.isEmpty = true
  · rw [if_pos empty]
    have none : text = "" := by simpa using empty
    exact .pure fun d ⟨a, same, told⟩ => ⟨a, text, same, told, .inl ⟨none, rfl⟩⟩
  · rw [if_neg empty]
    cases parsed : Diagnostic.parseAll text with
    | ok diagnostics => exact .pure fun d ⟨a, same, told⟩ => ⟨a, text, same, told, .inr parsed⟩
    | error complaints => exact .guest_bind fun g => .throw _

end
end FormatHost
