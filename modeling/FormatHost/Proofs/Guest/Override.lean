import FormatHost.Proofs.Guest.Breach
/-!
# Overrides

What a formatter sees of the override configurations that are handed to its guest. A guest takes the
bytes that were staged as its override, and uses the override up when its formatter runs. A blank
override is not handed over at all, so what the formatter sees then is what earlier calls have left.
-/
namespace FormatHost

variable {σ ε ω : Type}

/-- What a guest was handed, read off its state: the bytes of the transfer that goes on, and the override
that the next run of the formatter sees. -/
structure OverrideView (σ : Type) where
  staged : σ → Bytes
  override : σ → Option Bytes

/-- An export runs while no format call gets through to the instance. -/
def Calls (X : Exports σ ε) (name : String) (arguments : List Int) (s : Scene σ ε ω)
    (r : Except Fault Int) (t : Scene σ ε ω) : Prop :=
  ∃ act out again, X name = some act ∧ Undisturbed out again s.guest.busy ∧
    (act arguments).run out again s = (r, t)

/-- A guest with its window at `start` that takes overrides from what is staged, and uses up its override
each time its formatter runs. Any of its exports may fail at any point. -/
structure Consumes (view : OverrideView σ) (start : Int) (X : Exports σ ε) : Prop where
  window : ∀ {ω : Type} {s t : Scene σ ε ω} {v : Int},
    Calls X "get_wasm_memory_buffer" [] s (.ok v) t → v = start
  clear : ∀ {ω : Type} {s t : Scene σ ε ω} {n v : Int},
    Calls X "clear_shared_bytes" [n] s (.ok v) t → view.staged t.guest.state = []
  append : ∀ {ω : Type} {s t : Scene σ ε ω} {n v : Int},
    Calls X "add_to_shared_bytes_from_buffer" [n] s (.ok v) t →
      ∃ data, s.guest.memory.read start n = .ok data ∧
        view.staged t.guest.state = view.staged s.guest.state ++ data
  take : ∀ {ω : Type} {s t : Scene σ ε ω} {v : Int},
    Calls X "set_override_config" [] s (.ok v) t →
      view.override t.guest.state = some (view.staged s.guest.state)
  untaken : ∀ {ω : Type} {s t : Scene σ ε ω} {f : Fault},
    Calls X "set_override_config" [] s (.error f) t →
      view.override t.guest.state = view.override s.guest.state ∨
        view.override t.guest.state = some (view.staged s.guest.state)
  consume : ∀ {ω : Type} {s t : Scene σ ε ω} {r : Except Fault Int},
    Calls X "format" [] s r t → view.override t.guest.state = none
  keep : ∀ {ω : Type} {s t : Scene σ ε ω} {r : Except Fault Int} {name : String}
    {arguments : List Int}, name ≠ "set_override_config" → name ≠ "format" →
      Calls X name arguments s r t → view.override t.guest.state = view.override s.guest.state

/-- What the host knows about the window of a guest whose window is at `start`: nothing, the start, or
both. If the size is given, it is known. -/
def Told (start : Int) (size : Option Int) (a z : Option Int) : Prop :=
  (a = none ∧ z = none ∨ a = some start) ∧ ∀ n, size = some n → a = some start ∧ z = some n

/-- An instance with the exports of `g₀` that is held or not, whose override is known. -/
structure Tame (view : OverrideView σ) (start : Int) (size : Option Int) (g₀ : Instance σ ε)
    (held : Bool) (o : Option Bytes) (s : Scene σ ε ω) : Prop
    extends Watched (fun _ => True) g₀ held s where
  told : Told start size s.guest.windowStart s.guest.windowSize
  override : view.override s.guest.state = o

section

variable {α β : Type} {out : Outside ε ω} {again : Again σ ε ω} {view : OverrideView σ}
  {start : Int} {size : Option Int} {g₀ : Instance σ ε} {held : Bool} {o : Option Bytes}

/-- A computation leaves the override alone, however it ends. -/
def Quiet (view : OverrideView σ) (start : Int) (size : Option Int) (g₀ : Instance σ ε)
    (held : Bool) (c : GuestM σ ε ω α) : Prop :=
  ∀ o, Ends (Tame view start size g₀ held o) c fun _ => Tame view start size g₀ held o

theorem Quiet.pure (a : α) : Quiet view start size g₀ held (Pure.pure a : GuestM σ ε ω α) :=
  fun _ _ tame => tame

theorem Quiet.throw (f : Fault) :
    Quiet view start size g₀ held (MonadExcept.throw f : GuestM σ ε ω α) :=
  fun _ _ tame => tame

theorem Quiet.bind {c : GuestM σ ε ω α} {k : α → GuestM σ ε ω β}
    (first : Quiet view start size g₀ held c) (next : ∀ a, Quiet view start size g₀ held (k a)) :
    Quiet view start size g₀ held (c >>= k) :=
  fun o => (first o).bind (fun a => next a o) fun _ _ tame => tame

/-- Poisoning an instance is no matter of its state. -/
theorem Tame.poison {s : Scene σ ε ω} (tame : Tame view start size g₀ held o s) :
    Tame view start size g₀ held o { s with guest := { s.guest with poisoned := true } } :=
  { tame with }

/-- Calling an export runs it, or the export is missing. What the host knows of the window stays. -/
theorem callExport_cases (undisturbed : Undisturbed out again held) (name : String)
    (arguments : List Int) {s : Scene σ ε ω} (tame : Tame view start size g₀ held o s) :
    ∃ r t, ending (GuestM.callExport out again name arguments) s = (r, t) ∧
      t.guest.windowStart = s.guest.windowStart ∧ t.guest.windowSize = s.guest.windowSize ∧
      (g₀.exports name = none ∧ (∀ v, r ≠ .ok v) ∧ Tame view start size g₀ held o t ∨
        ∃ r' t', Calls g₀.exports name arguments s r' t' ∧ t.guest.state = t'.guest.state ∧
          (∀ v, r = .ok v ↔ r' = .ok v) ∧
          Tame view start size g₀ held (view.override t'.guest.state) t) := by
  rw [GuestM.ending_callExport, tame.exports]
  cases there : g₀.exports name with
  | none => exact ⟨_, _, rfl, rfl, rfl, .inl ⟨rfl, by simp, tame.poison⟩⟩
  | some act =>
    have called : Calls g₀.exports name arguments s ((act arguments).run out again s).1
        ((act arguments).run out again s).2 :=
      ⟨act, out, again, there, tame.busy.symm ▸ undisturbed, rfl⟩
    have kept := Act.run_keeps out.keeps_true undisturbed (act arguments) s trivial tame.busy
    simp only
    revert kept called
    rcases (act arguments).run out again s with ⟨cause | v, t⟩ <;> rintro called ⟨-, same⟩
    all_goals
      have after : Tame view start size g₀ held (view.override t.guest.state) t :=
        { world := trivial
          plugin := same.plugin.trans tame.plugin
          exports := same.exports.trans tame.exports
          busy := same.busy.trans tame.busy
          told := by rw [same.windowStart, same.windowSize]; exact tame.told
          override := rfl }
    · simp only
      split
      · exact ⟨_, _, rfl, same.windowStart, same.windowSize,
          .inr ⟨_, _, called, rfl, by simp, after.poison⟩⟩
      · exact ⟨_, _, rfl, same.windowStart, same.windowSize,
          .inr ⟨_, _, called, rfl, by simp, after⟩⟩
    · exact ⟨_, _, rfl, same.windowStart, same.windowSize, .inr ⟨_, _, called, rfl, by simp, after⟩⟩

/-- An export that takes no override and runs no formatter leaves the override alone. -/
theorem callExport_keeps (consumes : Consumes view start g₀.exports)
    (undisturbed : Undisturbed out again held) (name : String) (arguments : List Int)
    (taker : name ≠ "set_override_config") (formatter : name ≠ "format") {s : Scene σ ε ω}
    (tame : Tame view start size g₀ held o s) :
    ∃ r t, ending (GuestM.callExport out again name arguments) s = (r, t) ∧
      t.guest.windowStart = s.guest.windowStart ∧ t.guest.windowSize = s.guest.windowSize ∧
      Tame view start size g₀ held o t ∧
        ∀ v, r = .ok v → ∃ t', Calls g₀.exports name arguments s (.ok v) t' ∧
          t.guest.state = t'.guest.state := by
  obtain ⟨r, t, ended, sameStart, sameSize, ⟨-, fails, after⟩ | ⟨r', t', ran, state, ok, after⟩⟩ :=
    callExport_cases undisturbed name arguments tame
  · exact ⟨r, t, ended, sameStart, sameSize, after, fun v same => absurd same (fails v)⟩
  · rw [consumes.keep taker formatter ran, tame.override] at after
    exact ⟨r, t, ended, sameStart, sameSize, after, fun v same =>
      ⟨t', (ok v).1 same ▸ ran, state⟩⟩

theorem quiet_callExport (consumes : Consumes view start g₀.exports)
    (undisturbed : Undisturbed out again held) (name : String) (arguments : List Int)
    (taker : name ≠ "set_override_config") (formatter : name ≠ "format") :
    Quiet view start size g₀ held (GuestM.callExport out again name arguments) := by
  intro o s tame
  obtain ⟨r, t, ended, -, -, after, -⟩ :=
    callExport_keeps consumes undisturbed name arguments taker formatter tame
  rwa [ended]

theorem quiet_breach (f : Fault) :
    Quiet view start size g₀ held (GuestM.breach f : GuestM σ ε ω α) :=
  fun _ _ tame => tame.poison

theorem quiet_guest_bind {k : Instance σ ε → GuestM σ ε ω β}
    (next : ∀ g, Quiet view start size g₀ held (k g)) :
    Quiet view start size g₀ held (GuestM.guest >>= k) :=
  fun o s tame => next s.guest o s tame

/-- A question for the window leaves the override alone, and an answer is right. -/
theorem ends_window_tame (consumes : Consumes view start g₀.exports)
    (undisturbed : Undisturbed out again held) :
    Ends (Tame view start size g₀ held o) (GuestM.window out again) fun r (s : Scene σ ε ω) =>
      Tame view start size g₀ held o s ∧ ∀ a z, r = .ok (a, z) →
        a = start ∧ s.guest.windowStart = some start ∧ s.guest.windowSize = z := by
  intro s tame
  unfold GuestM.window
  rw [ending_bind, GuestM.ending_guest]
  simp only
  cases known : s.guest.windowStart with
  | some a =>
    obtain rfl : a = start := by
      have told := tame.told
      simp only [Told, known, reduceCtorEq, false_and, false_or, Option.some.injEq] at told
      exact told.1
    refine ⟨tame, ?_⟩
    rintro a z same
    obtain ⟨rfl, rfl⟩ := Prod.mk.inj (Except.ok.inj same)
    exact ⟨rfl, known, rfl⟩
  | none =>
    obtain rfl : size = none := by
      cases size with
      | none => rfl
      | some n => exact absurd ((tame.told.2 n rfl).1) (by simp [known])
    obtain ⟨r, t, ended, -, -, tame, told⟩ := callExport_keeps consumes undisturbed
      "get_wasm_memory_buffer" [] (by decide) (by decide) tame
    rw [ending_bind, ended]
    rcases r with f | a
    · exact ⟨tame, by simp⟩
    · obtain ⟨t', ran, -⟩ := told a rfl
      obtain rfl := consumes.window ran
      have asking : Tame view a none g₀ held o
          { t with guest := { t.guest with windowStart := some a } } :=
        { tame with told := ⟨.inr rfl, by simp⟩ }
      obtain ⟨r, u, ended, sameStart, -, tame, -⟩ := callExport_keeps consumes undisturbed
        "get_wasm_memory_buffer_size" [] (by decide) (by decide) asking
      simp only
      rw [ending_bind, GuestM.ending_update]
      simp only
      rw [ending_bind, ended]
      rcases r with f | n
      · exact ⟨tame, by simp⟩
      · have known : Tame view a none g₀ held o
            { u with guest := { u.guest with windowSize := some n } } :=
          { tame with told := ⟨.inr sameStart, by simp⟩ }
        simp only
        rw [ending_bind, GuestM.ending_update]
        simp only
        split
        · exact ⟨known.poison, by rintro b z ⟨⟩⟩
        · refine ⟨known, ?_⟩
          rintro b z same
          obtain ⟨rfl, rfl⟩ := Prod.mk.inj (Except.ok.inj same)
          exact ⟨rfl, sameStart, rfl⟩

theorem quiet_getPiece (a length : Int) :
    Quiet view start size g₀ held (GuestM.getPiece a length : GuestM σ ε ω Bytes) := by
  intro o s tame
  rw [GuestM.ending_getPiece]
  split <;> exact tame

/-- Pieces that are handed over are staged behind what is there. -/
theorem ends_sendPieces_staged (consumes : Consumes view start g₀.exports)
    (undisturbed : Undisturbed out again held) (z : Option Int) (parts : List Bytes) (got : Bytes) :
    Ends (fun s => Tame view start size g₀ held o s ∧ s.guest.windowSize = z ∧
        view.staged s.guest.state = got) (GuestM.sendPieces out again start parts)
      fun r s => Tame view start size g₀ held o s ∧ s.guest.windowSize = z ∧
        (r = .ok () → view.staged s.guest.state = got ++ parts.flatten) := by
  induction parts generalizing got with
  | nil =>
    rintro s ⟨tame, known, staged⟩
    exact ⟨tame, known, fun _ => staged.trans (List.append_nil got).symm⟩
  | cons piece rest ih =>
    rintro s ⟨tame, known, staged⟩
    unfold GuestM.sendPieces
    rw [ending_bind, GuestM.ending_putPiece]
    cases written : s.guest.memory.write start piece with
    | error e => exact ⟨tame, known, by simp⟩
    | ok m =>
      have put : Tame view start size g₀ held o { s with guest := { s.guest with memory := m } } :=
        { tame with }
      obtain ⟨r, t, ended, -, sameSize, tame, ran⟩ := callExport_keeps consumes undisturbed
        "add_to_shared_bytes_from_buffer" [piece.length] (by decide) (by decide) put
      simp only
      rw [ending_bind, ended]
      rcases r with f | v
      · exact ⟨tame, sameSize.trans known, by simp⟩
      · obtain ⟨t', ran, state⟩ := ran v rfl
        obtain ⟨data, read, appended⟩ := consumes.append ran
        obtain rfl : piece = data :=
          Except.ok.inj ((Memory.read_write written).symm.trans read)
        have further := ih (got ++ piece) t
          ⟨tame, sameSize.trans known, by rw [state, appended, ← staged]⟩
        simpa [List.append_assoc] using further

/-- A window of negative size, for which its guest was poisoned. Nothing is put into it. -/
def Instance.Windowless (g : Instance σ ε) : Prop := ∃ n, g.windowSize = some n ∧ n < 0

/-- Bytes that are handed over are what is staged then. -/
theorem ends_sendBytes_staged (consumes : Consumes view start g₀.exports)
    (undisturbed : Undisturbed out again held) (data : Bytes) :
    Ends (Tame view start size g₀ held o) (GuestM.sendBytes out again data) fun r s =>
      Tame view start size g₀ held o s ∧
        (r = .ok () → view.staged s.guest.state = data ∨ s.guest.Windowless) := by
  refine (ends_window_tame consumes undisturbed).bind ?_ ?_
  · rintro ⟨a, z⟩ s ⟨tame, known⟩
    obtain ⟨rfl, -, known⟩ := known a z rfl
    obtain ⟨r, t, ended, -, sameSize, tame, ran⟩ := callExport_keeps consumes undisturbed
      "clear_shared_bytes" [data.length] (by decide) (by decide) tame
    simp only
    rw [ending_bind, ended]
    rcases r with f | v
    · exact ⟨tame, by simp⟩
    · obtain ⟨t', ran, state⟩ := ran v rfl
      have empty : view.staged t.guest.state = [] := by rw [state, consumes.clear ran]
      have known := sameSize.trans known
      rcases z with _ | ((_ | pred) | n)
      · exact ⟨tame, by rintro ⟨⟩⟩
      · exact ⟨tame, by rintro ⟨⟩⟩
      · obtain ⟨tame, -, staged⟩ := ends_sendPieces_staged consumes undisturbed _
          (pieces pred data) [] t ⟨tame, known, empty⟩
        exact ⟨tame, fun ok => .inl (by simpa [flatten_pieces] using staged ok)⟩
      · exact ⟨tame, fun _ => .inr ⟨_, known, Int.negSucc_lt_zero n⟩⟩
  · exact fun f s ⟨tame, _⟩ => ⟨tame, by simp⟩

theorem quiet_sendBytes (consumes : Consumes view start g₀.exports)
    (undisturbed : Undisturbed out again held) (data : Bytes) :
    Quiet view start size g₀ held (GuestM.sendBytes out again data) :=
  fun _ => (ends_sendBytes_staged consumes undisturbed data).weaken (fun _ tame => tame)
    fun _ _ ended => ended.1

theorem quiet_window (consumes : Consumes view start g₀.exports)
    (undisturbed : Undisturbed out again held) :
    Quiet view start size g₀ held (GuestM.window out again) :=
  fun _ => (ends_window_tame consumes undisturbed).weaken (fun _ tame => tame)
    fun _ _ ended => ended.1

theorem quiet_receiveFrom (consumes : Consumes view start g₀.exports)
    (undisturbed : Undisturbed out again held) (a : Int) (pred offset remaining : Nat) :
    Quiet view start size g₀ held (GuestM.receiveFrom out again a pred offset remaining) := by
  fun_induction GuestM.receiveFrom out again a pred offset remaining with
  | case1 => exact .pure []
  | case2 offset remaining _ length ih =>
    have fetched : Quiet view start size g₀ held
        (GuestM.fetchPiece out again a offset length) :=
      (quiet_callExport consumes undisturbed _ _ (by decide) (by decide)).bind fun _ =>
        quiet_getPiece a length
    exact fetched.bind fun _ => ih.bind fun _ => .pure _

theorem quiet_receiveBytes (consumes : Consumes view start g₀.exports)
    (undisturbed : Undisturbed out again held) (length : Int) :
    Quiet view start size g₀ held (GuestM.receiveBytes out again length) := by
  have fetched (a offset length : Int) : Quiet view start size g₀ held
      (GuestM.fetchPiece out again a offset length) :=
    (quiet_callExport consumes undisturbed _ _ (by decide) (by decide)).bind fun _ =>
      quiet_getPiece a length
  refine (quiet_window consumes undisturbed).bind ?_
  rintro ⟨a, z⟩
  intro o
  refine .ite (fun _ => .pure fun _ tame => tame) fun _ => ?_
  rcases z with _ | ((_ | pred) | n)
  · exact Quiet.throw _ o
  · exact ((fetched a 0 0).bind fun _ => .throw _) o
  · exact quiet_receiveFrom consumes undisturbed a pred 0 length.toNat o
  · exact fetched a 0 (.negSucc n) o

theorem quiet_receiveText (consumes : Consumes view start g₀.exports)
    (undisturbed : Undisturbed out again held) (name : String)
    (taker : name ≠ "set_override_config") (formatter : name ≠ "format") :
    Quiet view start size g₀ held (GuestM.receiveText out again name) := by
  refine (quiet_callExport consumes undisturbed name [] taker formatter).bind fun length => ?_
  refine (quiet_receiveBytes consumes undisturbed length).bind fun data => ?_
  cases Utf8.decode data with
  | ok text => exact .pure text
  | error refusal => exact quiet_guest_bind fun g => quiet_breach _

theorem quiet_sendConfig (consumes : Consumes view start g₀.exports)
    (undisturbed : Undisturbed out again held) (config : Datum) (taker : String)
    (other : taker ≠ "set_override_config") (formatter : taker ≠ "format") :
    Quiet view start size g₀ held (GuestM.sendConfig out again config taker) := by
  unfold GuestM.sendConfig
  cases ConfigMap.serialize config with
  | error f => exact .throw f
  | ok data =>
    refine (Quiet.pure data).bind fun data => ?_
    refine (quiet_sendBytes consumes undisturbed data).bind fun _ => ?_
    exact (quiet_callExport consumes undisturbed taker [] other formatter).bind fun _ => .pure ()

/-- Holding an instance during a call is no matter of its override. -/
theorem quiet_holding {c : GuestM σ ε ω α} (quiet : Quiet view start size g₀ true c) :
    Quiet view start size g₀ false (GuestM.holding c) := by
  intro o s tame
  rw [ending_holding]
  have after := quiet o { s with guest := { s.guest with busy := true } } { tame with busy := rfl }
  exact { after with busy := rfl }

theorem quiet_setConfig (consumes : Consumes view start g₀.exports) (global plugin : Datum) :
    Quiet view start size g₀ false (GuestM.setConfig out global plugin) := by
  have undisturbed := undisturbed_nestedFormat (σ := σ) out
  refine quiet_holding ?_
  refine (quiet_callExport consumes undisturbed _ _ (by decide) (by decide)).bind fun _ => ?_
  refine (quiet_sendConfig consumes undisturbed global _ (by decide) (by decide)).bind fun _ => ?_
  exact quiet_sendConfig consumes undisturbed plugin _ (by decide) (by decide)

theorem quiet_checkSchema (consumes : Consumes view start g₀.exports)
    (far : out.selfCalls = false) : Quiet view start size g₀ held (GuestM.checkSchema out) := by
  have reported : Quiet view start size g₀ held (GuestM.reportedSchema out) :=
    quiet_callExport consumes (.inl far) _ _ (by decide) (by decide)
  refine quiet_guest_bind fun g => ?_
  intro o s tame
  have after := reported o s tame
  rw [ending_bind, GuestM.ending_attempt]
  revert after
  rcases ending (GuestM.reportedSchema out) s with ⟨cause | version, t⟩ <;> intro after
  · exact after
  · exact Ends.ite (fun _ => Quiet.throw _ o) (fun _ => Quiet.pure () o) t after

theorem quiet_pluginInfo (consumes : Consumes view start g₀.exports) (far : out.selfCalls = false) :
    Quiet view start size g₀ held (GuestM.pluginInfo out) := by
  refine (quiet_receiveText consumes (.inl far) _ (by decide) (by decide)).bind fun text => ?_
  cases PluginInfo.parse text with
  | ok info => exact .pure info
  | error complaints => exact quiet_guest_bind fun g => quiet_breach _

theorem quiet_configDiagnostics (consumes : Consumes view start g₀.exports)
    (far : out.selfCalls = false) :
    Quiet view start size g₀ held (GuestM.configDiagnostics out) := by
  refine (quiet_receiveText consumes (.inl far) _ (by decide) (by decide)).bind fun text => ?_
  intro o
  refine .ite (fun _ => Quiet.pure [] o) fun _ => ?_
  cases Diagnostic.parseAll text with
  | ok diagnostics => exact Quiet.pure diagnostics o
  | error complaints => exact quiet_guest_bind (fun g => .throw _) o

/-! ### Format calls -/

/-- What is handed over as the override of a call: its written form, or nothing if it is blank. -/
def ownOverride (d : Datum) : Option Bytes :=
  if d.isBlank then none else (ConfigMap.serialize d).toOption

/-- A window that is known stays as it is. -/
theorem windowless_stays {c : GuestM σ ε ω α}
    (ends : ∀ size, Ends (Tame view start size g₀ held o) c fun _ s =>
      ∃ o', Tame view start size g₀ held o' s)
    {s : Scene σ ε ω} (tame : Tame view start size g₀ held o s)
    (windowless : s.guest.Windowless) : (ending c s).2.guest.Windowless := by
  obtain ⟨n, known, negative⟩ := windowless
  have started : s.guest.windowStart = some start := by
    have told := tame.told.1
    simpa [known] using told
  have sized : Tame view start (some n) g₀ held o s :=
    { tame with told := ⟨.inr started, by rintro m ⟨⟩; exact ⟨started, known⟩⟩ }
  obtain ⟨o', after⟩ := ends (some n) s sized
  exact ⟨n, (after.told.2 n rfl).2, negative⟩

/-- How an exchange with a guest ends whose override was `o` before it. After a success the override is
the one that the formatter is to see; a failure leaves it alone, or leaves the new one behind. -/
def HandedOver (view : OverrideView σ) (start : Int) (size : Option Int) (g₀ : Instance σ ε)
    (held : Bool) (override : Datum) (o : Option Bytes) (r : Except Fault Unit) (s : Scene σ ε ω) :
    Prop :=
  ∃ o', Tame view start size g₀ held o' s ∧ (s.guest.Windowless ∨
    (r = .ok () ∧ o' = if override.isBlank then o else ownOverride override) ∨
    (r ≠ .ok () ∧ (o' = o ∨ override.isBlank = false ∧ o' = ownOverride override)))

/-- The last part of an exchange, after which the override is the one that the formatter is to see. -/
theorem ends_handOver_text (consumes : Consumes view start g₀.exports)
    (undisturbed : Undisturbed out again held) (text : Bytes) {override : Datum}
    {o' : Option Bytes} (seen : o' = if override.isBlank then o else ownOverride override) :
    Ends (Tame view start size g₀ held o') (GuestM.sendBytes out again text)
      (HandedOver view start size g₀ held override o) := by
  intro s tame
  have after := quiet_sendBytes consumes undisturbed text o' s tame
  refine ⟨o', after, .inr ?_⟩
  by_cases ok : (ending (GuestM.sendBytes out again text) s).1 = .ok ()
  · exact .inl ⟨ok, seen⟩
  · refine .inr ⟨ok, ?_⟩
    cases blank : override.isBlank with
    | true => exact .inl (by simpa [blank] using seen)
    | false => exact .inr ⟨rfl, by simpa [blank] using seen⟩

/-- The guest takes what was staged as its override. -/
theorem ends_takeOverride (consumes : Consumes view start g₀.exports)
    (undisturbed : Undisturbed out again held) {override : Datum}
    (given : override.isBlank = false) :
    Ends (Tame view start size g₀ held o)
      (GuestM.sendConfig out again override "set_override_config")
      (HandedOver view start size g₀ held override o) := by
  have failed {f : Fault} {s : Scene σ ε ω} (tame : Tame view start size g₀ held o s) :
      HandedOver view start size g₀ held override o (.error f) s :=
    ⟨o, tame, .inr (.inr ⟨by simp, .inl rfl⟩)⟩
  unfold GuestM.sendConfig
  cases written : ConfigMap.serialize override with
  | error f => exact fun s tame => failed tame
  | ok data =>
    have own : ownOverride override = some data := by
      rw [ownOverride, given, written]
      rfl
    intro s tame
    refine ((ends_sendBytes_staged consumes undisturbed data).bind (fun _ => ?_)
      fun f t ended => failed ended.1 : Ends _ _ _) s tame
    rintro t ⟨tame, staged⟩
    obtain ⟨r, u, ended, -, sameSize, ⟨-, fails, after⟩ | ⟨r', u', ran, -, ok, after⟩⟩ :=
      callExport_cases undisturbed "set_override_config" [] tame
    · rw [ending_bind, ended]
      rcases r with f | v
      · exact failed after
      · exact absurd rfl (fails v)
    · rw [ending_bind, ended]
      rcases staged rfl with staged | ⟨n, known, negative⟩
      · rcases r with f | v
        · rcases r' with f' | v'
          · refine ⟨_, after, .inr (.inr ⟨by simp, ?_⟩)⟩
            rcases consumes.untaken ran with same | taken
            · exact .inl (same.trans tame.override)
            · exact .inr ⟨given, by rw [taken, staged, own]⟩
          · exact absurd ((ok v').2 rfl) (by simp)
        · obtain rfl := (ok v).1 rfl
          refine ⟨_, after, .inr (.inl ⟨rfl, ?_⟩)⟩
          rw [consumes.take ran, staged, given, own]
          rfl
      · have windowless : u.guest.Windowless := ⟨n, sameSize.trans known, negative⟩
        rcases r with f | v
        · exact ⟨_, after, .inl windowless⟩
        · exact ⟨_, after, .inl windowless⟩

/-- What has become of the override when everything is handed over, or when that failed. -/
theorem ends_handOver_tame (consumes : Consumes view start g₀.exports)
    (undisturbed : Undisturbed out again held) (path text : String) (override : Datum) :
    Ends (Tame view start size g₀ held o) (GuestM.handOver out again path text override)
      (HandedOver view start size g₀ held override o) := by
  have failed {f : Fault} {s : Scene σ ε ω} (tame : Tame view start size g₀ held o s) :
      HandedOver view start size g₀ held override o (.error f) s :=
    ⟨o, tame, .inr (.inr ⟨by simp, .inl rfl⟩)⟩
  unfold GuestM.handOver
  refine (quiet_sendBytes consumes undisturbed _ o).bind (fun _ => ?_) fun _ _ => failed
  refine (quiet_callExport consumes undisturbed "set_file_path" [] (by decide) (by decide) o).bind
    (fun _ => ?_) fun _ _ => failed
  cases blank : override.isBlank with
  | true => exact ends_handOver_text consumes undisturbed _ (by simp [blank])
  | false =>
    refine (ends_takeOverride consumes undisturbed blank).bind (fun _ => ?_) fun f s ended => ?_
    · rintro s ⟨o', tame, windowless | ⟨-, seen⟩ | ⟨fails, -⟩⟩
      · have quiet (size : Option Int) : Quiet view start size g₀ held
            (GuestM.sendBytes out again (Utf8.encode text)) := quiet_sendBytes consumes undisturbed _
        exact ⟨o', quiet size o' s tame, .inl (windowless_stays
          (fun size t tame => ⟨o', quiet size o' t tame⟩) tame windowless)⟩
      · exact ends_handOver_text consumes undisturbed _ seen s tame
      · exact absurd rfl fails
    · obtain ⟨o', tame, windowless | ⟨ok, -⟩ | ⟨-, left⟩⟩ := ended
      · exact ⟨o', tame, .inl windowless⟩
      · exact absurd ok (by simp)
      · exact ⟨o', tame, .inr (.inr ⟨by simp, left⟩)⟩

/-- A formatter that runs uses up the override. -/
theorem ends_fetchAnswer_tame (consumes : Consumes view start g₀.exports)
    (undisturbed : Undisturbed out again held) :
    Ends (Tame view start size g₀ held o) (GuestM.fetchAnswer out again) fun _ s =>
      ∃ o', Tame view start size g₀ held o' s ∧
        (g₀.exports "format" ≠ none ∧ o' = none ∨ g₀.exports "format" = none ∧ o' = o) := by
  intro s tame
  obtain ⟨r, t, ended, -, -, ⟨missing, fails, after⟩ | ⟨r', t', ran, -, -, after⟩⟩ :=
    callExport_cases undisturbed "format" [] tame
  · unfold GuestM.fetchAnswer
    rw [ending_bind, ended]
    rcases r with f | v
    · exact ⟨o, after, .inr ⟨missing, rfl⟩⟩
    · exact absurd rfl (fails v)
  · have there : g₀.exports "format" ≠ none := by
      obtain ⟨act, -, -, there, -⟩ := ran
      simp [there]
    rw [consumes.consume ran] at after
    unfold GuestM.fetchAnswer
    rw [ending_bind, ended]
    rcases r with f | status
    · exact ⟨none, after, .inl ⟨there, rfl⟩⟩
    · have formatted : Quiet view start size g₀ held
          (GuestM.receiveText out again "get_formatted_text") :=
        quiet_receiveText consumes undisturbed _ (by decide) (by decide)
      have message : Quiet view start size g₀ held
          (GuestM.receiveText out again "get_error_text") :=
        quiet_receiveText consumes undisturbed _ (by decide) (by decide)
      refine ⟨none, ?_, .inl ⟨there, rfl⟩⟩
      simp only
      split
      · exact after
      · exact (formatted.bind fun _ => .pure _) none t after
      · exact (message.bind fun _ => .throw _) none t after
      · exact (quiet_guest_bind fun g => quiet_breach _) none t after

end

end FormatHost
