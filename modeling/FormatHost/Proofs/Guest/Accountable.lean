import FormatHost.Proofs.Guest.Hereditary
/-!
# Guests are held to account

An exchange that blames the guest leaves the instance poisoned, and nothing that happens to an instance
makes it sound again. What the guest has told about its window stays, and unless it is poisoned its window
has room for a byte as soon as the host knows a size for it. All this holds of guests that ask for further
format calls on their own instance, too: such a call is an exchange like any other.
-/
namespace FormatHost

variable {σ ε ω α β : Type}

/-- What becomes of an instance while it is dealt with. -/
structure Instance.Advance (g g' : Instance σ ε) : Prop where
  plugin : g'.plugin = g.plugin
  free : g.busy = false → g'.busy = false
  poisoned : g.poisoned = true → g'.poisoned = true
  /-- The guest is not asked again where its window starts. -/
  told : g.windowStart ≠ none → g'.windowStart = g.windowStart ∧ g'.windowSize = g.windowSize
  /-- A new size comes with a whole window. -/
  asked : g'.poisoned = false →
    g'.windowSize = g.windowSize ∨ Windowed g'.windowStart g'.windowSize

namespace Instance.Advance

variable {g g' g'' : Instance σ ε}

theorem refl (g : Instance σ ε) : g.Advance g := ⟨rfl, id, id, fun _ => ⟨rfl, rfl⟩, fun _ => .inl rfl⟩

theorem healthy (advance : g.Advance g') (after : g'.poisoned = false) : g.poisoned = false := by
  cases before : g.poisoned with
  | false => rfl
  | true => exact absurd (advance.poisoned before) (by simp [after])

/-- A window that is known stays known. -/
theorem windowed (advance : g.Advance g') (known : Windowed g.windowStart g.windowSize) :
    Windowed g'.windowStart g'.windowSize := by
  obtain ⟨a, n, start, size, positive⟩ := known
  obtain ⟨start', size'⟩ := advance.told (by simp [start])
  exact ⟨a, n, start'.trans start, size'.trans size, positive⟩

theorem loose (advance : g.Advance g') (before : Loose g.windowStart g.windowSize)
    (after : g'.poisoned = false) : Loose g'.windowStart g'.windowSize := by
  rcases before with none | known
  · exact (advance.asked after).imp_left fun same => same.trans none
  · exact .inr (advance.windowed known)

theorem trans (first : g.Advance g') (second : g'.Advance g'') : g.Advance g'' where
  plugin := second.plugin.trans first.plugin
  free before := second.free (first.free before)
  poisoned before := second.poisoned (first.poisoned before)
  told known := by
    obtain ⟨start, size⟩ := first.told known
    obtain ⟨start', size'⟩ := second.told (start ▸ known)
    exact ⟨start'.trans start, size'.trans size⟩
  asked after := by
    rcases second.asked after with same | known
    · rcases first.asked (second.healthy after) with same' | known
      · exact .inl (same.trans same')
      · exact .inr (second.windowed known)
    · exact .inr known

/-- State, memory and host functions make no difference. -/
theorem parts (advance : g.Advance g') (state : σ) (memory : Memory) (table : HostTable) :
    g.Advance { g' with state, memory, table } :=
  ⟨advance.plugin, advance.free, advance.poisoned, advance.told, advance.asked⟩

/-- It does no harm to hold an instance for a while. -/
theorem release (advance : Advance { g with busy := true } g') : g.Advance { g' with busy := false } :=
  ⟨advance.plugin, fun _ => rfl, advance.poisoned, advance.told, advance.asked⟩

/-- A poisoned instance needs no window. -/
theorem of_poisoned (plugin : g'.plugin = g.plugin) (free : g.busy = false → g'.busy = false)
    (poisoned : g'.poisoned = true)
    (told : g.windowStart ≠ none → g'.windowStart = g.windowStart ∧ g'.windowSize = g.windowSize) :
    g.Advance g' :=
  ⟨plugin, free, fun _ => poisoned, told,
    fun healthy => absurd (poisoned.symm.trans healthy) (by simp)⟩

end Instance.Advance

/-- A computation that advances the instance, however it ends. -/
def Advancing (c : GuestM σ ε ω α) : Prop :=
  ∀ s : Scene σ ε ω, s.guest.Advance (ending c s).2.guest

/-- A computation that leaves the instance poisoned if it blames the guest. -/
def Blaming (c : GuestM σ ε ω α) : Prop :=
  ∀ (s : Scene σ ε ω) (f : Fault), (ending c s).1 = .error f → f.kind = .guest →
    (ending c s).2.guest.poisoned = true

theorem stable_advance (out : Outside ε ω) {again : Again σ ε ω}
    (nested : ∀ path text, Advancing (again path text)) (g : Instance σ ε) :
    Stable (fun _ => True) out again fun s => g.Advance s.guest where
  keep state _ advance := advance.parts state _ _
  memory _ advance := advance.parts _ _ _
  host _ _ advance := advance.parts _ _ _
  pause := id
  -- The answer comes from an exchange with the same instance, which advances it in between.
  reenter path text _ advance := advance.trans (nested path text _)

/-- Guest code advances its instance if the format calls do that it asks for. -/
theorem Act.run_advances (out : Outside ε ω) {again : Again σ ε ω}
    (nested : ∀ path text, Advancing (again path text)) (act : Act σ ε) (s : Scene σ ε ω) :
    s.guest.Advance (act.run out again s).2.guest :=
  act.run_stable (stable_advance out nested s.guest) (.refl _)

/-! ### Single steps -/

/-- A call of an export that fails is a breach, whatever the guest asked for meanwhile, or there was no room
for a configuration. -/
theorem blamed_callExport {out : Outside ε ω} {again : Again σ ε ω} {name : String}
    {arguments : List Int} {s t : Scene σ ε ω} {f : Fault}
    (failed : ending (GuestM.callExport out again name arguments) s = (.error f, t)) :
    f.kind = .guest ∧ t.guest.poisoned = true ∨ f.OutOfRoom := by
  rw [GuestM.ending_callExport] at failed
  split at failed
  · obtain ⟨same, rfl⟩ := Prod.mk.inj failed
    obtain rfl := Except.error.inj same
    exact .inl ⟨rfl, rfl⟩
  · next behaviour _ =>
    split at failed
    · cases failed
    · next cause u ran =>
      rcases (behaviour arguments).expected_of_run (congrArg Prod.fst ran) with declared | room
      · rw [if_pos declared] at failed
        obtain ⟨same, rfl⟩ := Prod.mk.inj failed
        obtain rfl := Except.error.inj same
        exact .inl ⟨rfl, rfl⟩
      · rw [if_neg (by simp [room.kind, FaultKind.isDeclared])] at failed
        obtain rfl := Except.error.inj (congrArg Prod.fst failed)
        exact .inr room

/-- A guest that is blamed for the failure of an export is poisoned. -/
theorem poisoned_callExport {out : Outside ε ω} {again : Again σ ε ω} {name : String}
    {arguments : List Int} {s t : Scene σ ε ω} {f : Fault}
    (failed : ending (GuestM.callExport out again name arguments) s = (.error f, t))
    (kind : f.kind = .guest) : t.guest.poisoned = true := by
  rcases blamed_callExport failed with ⟨-, poisoned⟩ | room
  · exact poisoned
  · exact absurd (room.kind.symm.trans kind) FaultKind.noConfusion

theorem advancing_callExport (out : Outside ε ω) {again : Again σ ε ω}
    (nested : ∀ path text, Advancing (again path text)) (name : String) (arguments : List Int) :
    Advancing (GuestM.callExport out again name arguments) := by
  intro s
  have advance := fun act : Act σ ε => act.run_advances out nested s
  rw [GuestM.ending_callExport]
  split
  · exact .of_poisoned rfl id rfl fun _ => ⟨rfl, rfl⟩
  · next behaviour _ =>
    have advance := advance (behaviour arguments)
    split
    · next ran =>
      rw [ran] at advance
      exact advance
    · next ran =>
      rw [ran] at advance
      split
      · exact .of_poisoned advance.plugin advance.free rfl advance.told
      · exact advance

/-- A guest that told where its window starts is not asked again. -/
theorem ending_window_of_told (out : Outside ε ω) (again : Again σ ε ω) {s : Scene σ ε ω} {a : Int}
    (told : s.guest.windowStart = some a) :
    ending (GuestM.window out again) s = (.ok (a, s.guest.windowSize), s) := by
  unfold GuestM.window
  rw [ending_bind, GuestM.ending_guest]
  simp only [told]
  rfl

/-- How the question for the window goes: it is known already, or the guest is asked first where it starts
and then for its size. -/
inductive WindowAsked (out : Outside ε ω) (again : Again σ ε ω) (s : Scene σ ε ω) :
    Except Fault (Int × Option Int) × Scene σ ε ω → Prop
  | known {a : Int} (start : s.guest.windowStart = some a) :
    WindowAsked out again s (.ok (a, s.guest.windowSize), s)
  | startless {f : Fault} {t : Scene σ ε ω} (unknown : s.guest.windowStart = none)
    (failed : ending (GuestM.callExport out again "get_wasm_memory_buffer" []) s = (.error f, t)) :
    WindowAsked out again s (.error f, t)
  | sizeless {a : Int} {f : Fault} {t u : Scene σ ε ω} (unknown : s.guest.windowStart = none)
    (start : ending (GuestM.callExport out again "get_wasm_memory_buffer" []) s = (.ok a, t))
    (failed : ending (GuestM.callExport out again "get_wasm_memory_buffer_size" [])
      { t with guest := { t.guest with windowStart := some a } } = (.error f, u)) :
    WindowAsked out again s (.error f, u)
  | empty {a n : Int} {t u : Scene σ ε ω} (unknown : s.guest.windowStart = none)
    (start : ending (GuestM.callExport out again "get_wasm_memory_buffer" []) s = (.ok a, t))
    (size : ending (GuestM.callExport out again "get_wasm_memory_buffer_size" [])
      { t with guest := { t.guest with windowStart := some a } } = (.ok n, u)) (least : n ≤ 0) :
    WindowAsked out again s (.error (.windowEmpty s.guest.plugin),
      { u with guest := { u.guest with windowSize := some n, poisoned := true } })
  | given {a n : Int} {t u : Scene σ ε ω} (unknown : s.guest.windowStart = none)
    (start : ending (GuestM.callExport out again "get_wasm_memory_buffer" []) s = (.ok a, t))
    (size : ending (GuestM.callExport out again "get_wasm_memory_buffer_size" [])
      { t with guest := { t.guest with windowStart := some a } } = (.ok n, u)) (positive : 0 < n) :
    WindowAsked out again s
      (.ok (a, some n), { u with guest := { u.guest with windowSize := some n } })

theorem windowAsked (out : Outside ε ω) (again : Again σ ε ω) (s : Scene σ ε ω) :
    WindowAsked out again s (ending (GuestM.window out again) s) := by
  cases known : s.guest.windowStart with
  | some a =>
    rw [ending_window_of_told out again known]
    exact .known known
  | none =>
    unfold GuestM.window
    rw [ending_bind, GuestM.ending_guest]
    simp only [known]
    rcases start : ending (GuestM.callExport out again "get_wasm_memory_buffer" []) s with ⟨f | a, t⟩
    · rw [ending_bind_of_error start]
      exact .startless known start
    rw [ending_bind_of_ok start, ending_bind, GuestM.ending_update]
    simp only
    rcases size : ending (GuestM.callExport out again "get_wasm_memory_buffer_size" [])
      { t with guest := { t.guest with windowStart := some a } } with ⟨f | n, u⟩
    · rw [ending_bind_of_error size]
      exact .sizeless known start size
    rw [ending_bind_of_ok size, ending_bind, GuestM.ending_update]
    simp only
    split
    · next least => exact .empty (u := u) known start size least
    · next more => exact .given (u := u) known start size (by omega)

/-- A guest that is asked for its window either gives a whole one or is left as it was, but for the
start. -/
theorem advancing_window (out : Outside ε ω) {again : Again σ ε ω}
    (nested : ∀ path text, Advancing (again path text)) :
    Advancing (GuestM.window out again) := by
  intro s
  have asked := windowAsked out again s
  revert asked
  generalize ending (GuestM.window out again) s = r
  intro asked
  have called {name : String} {t u : Scene σ ε ω} {r : Except Fault Int}
      (ran : ending (GuestM.callExport out again name []) t = (r, u)) : t.guest.Advance u.guest := by
    have advance := advancing_callExport out nested name [] t
    rwa [ran] at advance
  cases asked with
  | known start => exact .refl _
  | startless unknown failed => exact called failed
  | sizeless unknown start failed =>
    refine ⟨(called failed).plugin.trans (called start).plugin,
      fun before => (called failed).free ((called start).free before), fun before => ?_,
      fun known => absurd unknown known, fun after => ?_⟩
    · exact (called failed).poisoned ((called start).poisoned before)
    · -- A window that the guest was asked for in between has kept its size.
      obtain ⟨start', size⟩ := (called failed).told (by simp)
      rw [start', size]
      refine ((called start).asked ((called failed).healthy after)).imp_right ?_
      rintro ⟨b, n, -, size, positive⟩
      exact ⟨_, n, rfl, size, positive⟩
  | empty unknown start size least =>
    refine .of_poisoned ?_ (fun before => (called size).free ((called start).free before)) rfl
      fun known => absurd unknown known
    exact (called size).plugin.trans (called start).plugin
  | @given a n t u unknown start size positive =>
    -- A guest that is asked for the size cannot change the start, so the two belong together.
    refine ⟨(called size).plugin.trans (called start).plugin,
      fun before => (called size).free ((called start).free before), fun before => ?_,
      fun known => absurd unknown known, fun _ => ?_⟩
    · exact (called size).poisoned ((called start).poisoned before)
    · have told : u.guest.windowStart = some a := ((called size).told (by simp)).1
      exact .inr ⟨a, n, told, rfl, positive⟩

theorem blaming_window (out : Outside ε ω) (again : Again σ ε ω) :
    Blaming (GuestM.window out again) := by
  intro s f failed kind
  have asked := windowAsked out again s
  revert asked failed
  generalize ending (GuestM.window out again) s = r
  intro failed asked
  cases asked with
  | known start => cases failed
  | startless unknown broken =>
    cases failed
    exact poisoned_callExport broken kind
  | sizeless unknown start broken =>
    cases failed
    exact poisoned_callExport broken kind
  | empty unknown start size least => rfl
  | given unknown start size positive => cases failed

/-! ### Exchanges -/

/-- A computation that advances the instance and leaves it poisoned if it blames the guest. -/
def Accountable (c : GuestM σ ε ω α) : Prop := Advancing c ∧ Blaming c

theorem Advancing.bind {c : GuestM σ ε ω α} {k : α → GuestM σ ε ω β} (first : Advancing c)
    (next : ∀ a, Advancing (k a)) : Advancing (c >>= k) := by
  intro s
  have advance := first s
  rw [ending_bind]
  revert advance
  rcases ending c s with ⟨f | a, t⟩ <;> intro advance
  · exact advance
  · exact advance.trans (next a t)

theorem Blaming.bind {c : GuestM σ ε ω α} {k : α → GuestM σ ε ω β} (first : Blaming c)
    (next : ∀ a, Blaming (k a)) : Blaming (c >>= k) := by
  intro s
  have blames := first s
  rw [ending_bind]
  revert blames
  rcases ending c s with ⟨f | a, t⟩ <;> intro blames
  · exact fun f' failed => blames f' (congrArg Except.error (Except.error.inj failed))
  · exact next a t

theorem Accountable.bind {c : GuestM σ ε ω α} {k : α → GuestM σ ε ω β} (first : Accountable c)
    (next : ∀ a, Accountable (k a)) : Accountable (c >>= k) :=
  ⟨first.1.bind fun a => (next a).1, first.2.bind fun a => (next a).2⟩

theorem Accountable.of_unchanged {c : GuestM σ ε ω α} (same : ∀ s, (ending c s).2 = s)
    (other : ∀ s f, (ending c s).1 = .error f → f.kind ≠ .guest) : Accountable c :=
  ⟨fun s => (same s).symm ▸ .refl _, fun s f failed kind => absurd kind (other s f failed)⟩

section

variable (out : Outside ε ω) {again : Again σ ε ω}

theorem accountable_callExport (nested : ∀ path text, Advancing (again path text)) (name : String)
    (arguments : List Int) : Accountable (GuestM.callExport out again name arguments) := by
  refine ⟨advancing_callExport out nested name arguments, fun s f failed kind => ?_⟩
  exact poisoned_callExport (t := (ending (GuestM.callExport out again name arguments) s).2)
    (Prod.ext failed rfl) kind

theorem accountable_breach (f : Fault) : Accountable (GuestM.breach f : GuestM σ ε ω α) :=
  ⟨fun _ => .of_poisoned rfl id rfl fun _ => ⟨rfl, rfl⟩, fun _ _ _ _ => rfl⟩

theorem accountable_throw {f : Fault} (other : f.kind ≠ .guest) :
    Accountable (throw f : GuestM σ ε ω α) :=
  .of_unchanged (fun _ => rfl) fun _ _ failed => Except.error.inj failed ▸ other

theorem accountable_putPiece (start : Int) (data : Bytes) :
    Accountable (GuestM.putPiece start data : GuestM σ ε ω Unit) := by
  constructor
  · intro s
    rw [GuestM.ending_putPiece]
    split
    · exact .refl _
    · exact (Instance.Advance.refl s.guest).parts _ _ _
  · intro s f
    rw [GuestM.ending_putPiece]
    split
    · rintro ⟨⟩ kind
      cases kind
    · rintro ⟨⟩

theorem accountable_getPiece (start length : Int) :
    Accountable (GuestM.getPiece start length : GuestM σ ε ω Bytes) := by
  have split (s : Scene σ ε ω) := GuestM.ending_getPiece (σ := σ) (ε := ε) start length s
  refine .of_unchanged (fun s => ?_) fun s f => ?_
  · rw [split]
    cases s.guest.memory.read start length <;> rfl
  · rw [split]
    cases s.guest.memory.read start length with
    | error e => rintro ⟨⟩ kind; cases kind
    | ok data => rintro ⟨⟩

/-- Every exchange is accountable if the format calls advance that the guest asks for. -/
theorem hereditary_accountable (nested : ∀ path text, Advancing (again path text)) :
    Hereditary out out again again fun _ c _ => Accountable c where
  pure _ := .of_unchanged (fun _ => rfl) fun _ _ none => by cases none
  bind := .bind
  guest := .of_unchanged (fun _ => rfl) fun _ _ none => by cases none
  throw := accountable_throw
  breach _ _ := accountable_breach _
  callExport arguments _ := accountable_callExport out nested _ arguments
  window := ⟨advancing_window out nested, blaming_window out again⟩
  putPiece := accountable_putPiece
  getPiece := accountable_getPiece

theorem accountable_formatExchange (nested : ∀ path text, Advancing (again path text))
    (path text : String) (override : Datum) :
    Accountable (GuestM.formatExchange out again path text override) := by
  have steps := hereditary_accountable out nested
  exact (steps.handOver path text rfl rfl).bind fun _ =>
    steps.fetchAnswer (accountable_callExport out nested _ _)

end

theorem Accountable.holding {c : GuestM σ ε ω α} (accountable : Accountable c) :
    Accountable (GuestM.holding c) := by
  constructor
  · intro s
    rw [ending_holding]
    exact (accountable.1 { s with guest := { s.guest with busy := true } }).release
  · intro s f failed kind
    rw [ending_holding] at failed ⊢
    exact accountable.2 _ f failed kind

/-! ### Format calls -/

theorem advancing_refused (path text : String) :
    Advancing (GuestM.refused path text : GuestM σ ε ω (Option String)) := fun _ => .refl _

theorem advancing_formatWith (out : Outside ε ω) {again : Again σ ε ω}
    (nested : ∀ path text, Advancing (again path text)) (path text : String) (override : Datum) :
    Advancing (GuestM.formatWith out again path text override) := by
  intro s
  cases held : s.guest.busy with
  | true =>
    rw [ending_formatWith_of_held out again path text override held]
    exact .refl _
  | false =>
    rw [ending_formatWith_of_free out again path text override held]
    exact (accountable_formatExchange out nested path text override).holding.1 s

theorem advancing_nestedFormat (out : Outside ε ω) (path text : String) :
    Advancing (GuestM.nestedFormat out path text : GuestM σ ε ω (Option String)) :=
  advancing_formatWith out advancing_refused path text .null

theorem advancing_freeFormat (out : Outside ε ω) (path text : String) :
    Advancing (GuestM.freeFormat out path text : GuestM σ ε ω (Option String)) :=
  advancing_formatWith out (advancing_nestedFormat out) path text .null

end FormatHost
