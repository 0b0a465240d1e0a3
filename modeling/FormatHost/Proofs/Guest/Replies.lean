import FormatHost.Proofs.Config.Written
import FormatHost.Proofs.Guest.Staged
/-!
# Replies

What a formatter is handed in a call, what it replies, and what the reply comes to. A guest that keeps to
the staging contract is handed exactly what the call is about. Its reply is an answer, a report or a breach
of the protocol, and the host adds nothing to it.
-/
namespace FormatHost

variable {σ ε ω : Type}

/-- What a formatter answers: how its export ended, and what the guest will hand out after it. -/
structure Reply where
  status : Except Fault Int
  formatted : Bytes
  error : Bytes

/-- What a plugin's reply comes to. -/
def Reply.outcome (plugin : String) (r : Reply) : Except Fault (Option String) :=
  match r.status with
  | .ok 0 => .ok none
  | .ok 1 => (handedOut plugin "get_formatted_text" r.formatted).map some
  | .ok 2 => (handedOut plugin "get_error_text" r.error).bind fun message => .error (.reported message)
  | .ok status => .error (.statusUnknown plugin status)
  | .error f => .error f

/-- The reply of the formatter that is called in a scene. -/
def StagingView.reply (view : StagingView σ) (out : Outside ε ω) (again : Again σ ε ω)
    (s : Scene σ ε ω) : Reply :=
  let (status, t) := ending (GuestM.callExport out again "format" []) s
  ⟨status, view.formatted t.guest.state, view.error t.guest.state⟩

/-- A call ends as the formatter replied. It answers and reports nothing but what the guest hands out, and
whatever else the reply is, the guest broke the protocol and is poisoned, unless the host had no room for a
configuration that the formatter handed over. -/
structure Reply.Concludes (r : Reply) (result : Except Fault (Option String)) (poisoned : Bool) :
    Prop where
  unchanged : result = .ok none ↔ r.status = .ok 0
  changed : ∀ text, result = .ok (some text) ↔
    r.status = .ok 1 ∧ r.formatted = Utf8.encode text
  reported : ∀ message, result = .error (.reported message) ↔
    r.status = .ok 2 ∧ r.error = Utf8.encode message
  unknown : ∀ n, r.status = .ok n → n ≠ 0 → n ≠ 1 → n ≠ 2 →
    (∃ f, result = .error f ∧ f.kind = .guest) ∧ poisoned = true
  otherwise : ∀ f, result = .error f →
    (∃ message, f = .reported message) ∨ f.kind = .guest ∧ poisoned = true ∨
      f.OutOfRoom ∧ r.status = .error f

/-- A reply concludes with its outcome, provided that breaches poison the guest. -/
theorem Reply.concludes {r : Reply} {plugin : String} {poisoned : Bool}
    (failed : ∀ f, r.status = .error f → f.kind = .guest ∨ f.OutOfRoom)
    (breach : ∀ f, r.outcome plugin = .error f → f.kind = .guest → poisoned = true) :
    r.Concludes (r.outcome plugin) poisoned := by
  have encode_iff (t t' : String) : Utf8.encode t = Utf8.encode t' ↔ t = t' :=
    ⟨Utf8.encode_injective, congrArg Utf8.encode⟩
  obtain ⟨status, formatted, error⟩ := r
  rcases status with f | n
  · have other (m : String) : f ≠ .reported m := by
      rintro rfl
      rcases failed _ rfl with kind | room
      · cases kind
      · cases room.kind
    have blamed : f.kind = .guest ∧ poisoned = true ∨ f.OutOfRoom :=
      (failed f rfl).imp_left fun kind => ⟨kind, breach f rfl kind⟩
    constructor
    · simp [outcome]
    · simp [outcome]
    · simp [outcome, other]
    · simp
    · intro f' same
      obtain rfl := Except.error.inj same
      exact .inr (blamed.imp_right fun room => ⟨room, rfl⟩)
  by_cases zero : n = 0
  · subst zero
    constructor
    all_goals simp [outcome]
  by_cases one : n = 1
  · subst one
    obtain ⟨text, rfl, handed⟩ | ⟨garbled, refused⟩ :=
      handedOut_cases plugin "get_formatted_text" formatted
    · have value : outcome plugin ⟨.ok 1, Utf8.encode text, error⟩ = .ok (some text) := by
        simp only [outcome, handed, Except.map]
      rw [value]
      constructor
      all_goals simp [encode_iff]
    · have value : outcome plugin ⟨.ok 1, formatted, error⟩ =
          .error (.answerNotText plugin "get_formatted_text") := by
        simp only [outcome, refused, Except.map]
      have poisoned : poisoned = true := breach _ value rfl
      rw [value]
      constructor
      all_goals simp [garbled, poisoned, Fault.kind]
  by_cases two : n = 2
  · subst two
    obtain ⟨message, rfl, handed⟩ | ⟨garbled, refused⟩ :=
      handedOut_cases plugin "get_error_text" error
    · have value : outcome plugin ⟨.ok 2, formatted, Utf8.encode message⟩ =
          .error (.reported message) := by
        simp only [outcome, handed, Except.bind]
      rw [value]
      constructor
      all_goals simp [encode_iff]
    · have value : outcome plugin ⟨.ok 2, formatted, error⟩ =
          .error (.answerNotText plugin "get_error_text") := by
        simp only [outcome, refused, Except.bind]
      have poisoned : poisoned = true := breach _ value rfl
      rw [value]
      constructor
      all_goals simp [garbled, poisoned, Fault.kind]
  · have value : outcome plugin ⟨.ok n, formatted, error⟩ = .error (.statusUnknown plugin n) := by
      simp only [outcome]
    have poisoned : poisoned = true := breach _ value rfl
    rw [value]
    constructor
    all_goals simp [zero, one, two, poisoned, Fault.kind]

/-- What the formatter is handed in a scene: this path, this text, and the written form of this override
or nothing if the override is blank. -/
structure StagingView.Receives (view : StagingView σ) (path text : String) (override : Datum)
    (s : Scene σ ε ω) : Prop where
  path : view.path s.guest.state = Utf8.encode path
  text : view.staged s.guest.state = Utf8.encode text
  blank : override.isBlank = true → view.override s.guest.state = none
  given : override.isBlank = false → ∃ data, ConfigMap.serialize override = .ok data ∧
    view.override s.guest.state = some data

/-- Two replies that say the same: the same status, and the same text with it. -/
structure Reply.Same (r r' : Reply) : Prop where
  status : r'.status = r.status
  formatted : r.status = .ok 1 → r'.formatted = r.formatted
  error : r.status = .ok 2 → r'.error = r.error

/-- Replies that say the same come to the same. -/
theorem Reply.Same.outcome {r r' : Reply} (same : r.Same r') (plugin : String) :
    r'.outcome plugin = r.outcome plugin := by
  obtain ⟨status, formatted, error⟩ := r
  obtain ⟨_, formatted', error'⟩ := r'
  obtain ⟨rfl, texts, errors⟩ := same
  unfold Reply.outcome
  simp only at texts errors ⊢
  split
  · rfl
  · rw [texts rfl]
  · rw [errors rfl]
  · rfl
  · rfl

/-- The formatter of an instance is called in a scene. -/
structure Instance.Called (g : Instance σ ε) (s : Scene σ ε ω) : Prop where
  plugin : s.guest.plugin = g.plugin
  exports : s.guest.exports = g.exports
  busy : s.guest.busy = true

/-- The formatters of two guests reply alike if they were handed the same. -/
def RepliesAlike {σ' ε' ω' : Type} (view : StagingView σ) (g : Instance σ ε) (out : Outside ε ω)
    (view' : StagingView σ') (g' : Instance σ' ε') (out' : Outside ε' ω') : Prop :=
  ∀ s s', g.Called s → g'.Called s' → view'.path s'.guest.state = view.path s.guest.state →
    view'.staged s'.guest.state = view.staged s.guest.state →
    view'.override s'.guest.state = view.override s.guest.state →
      (view.reply out (GuestM.nestedFormat out) s).Same
        (view'.reply out' (GuestM.nestedFormat out') s')

/-- An instance between two calls, with its window inside its memory and no override left. -/
structure Instance.Primed (view : StagingView σ) (start : Int) (extent : Nat) (g : Instance σ ε) :
    Prop where
  idle : g.busy = false
  window : g.windowStart = none ∨ g.Knows start extent
  nonneg : 0 ≤ start
  positive : 0 < extent
  room : start + extent ≤ g.memory.size
  clean : view.override g.state = none

section

variable {out : Outside ε ω} {again : Again σ ε ω} {view : StagingView σ} {start : Int} {pred : Nat}
  {g₀ : Instance σ ε} {s : Scene σ ε ω}
  (stages : Stages view start (pred + 1) g₀.exports out again)
  (undisturbed : Undisturbed out again true) (nonneg : 0 ≤ start)
include stages undisturbed nonneg

/-- A configuration that is handed over is taken. -/
theorem exists_ending_sendConfig {m : ConfigMap} {data : Bytes}
    (written : ConfigMap.serialize m.toDatum = .ok data) (serving : Serving g₀ start (pred + 1) s) :
    ∃ t, ending (GuestM.sendConfig out again m.toDatum "set_override_config") s = (.ok (), t) ∧
      Serving g₀ start (pred + 1) t ∧ CallTurns out again start ↑(pred + 1) s t ∧
      view.path t.guest.state = view.path s.guest.state ∧
      view.override t.guest.state = some data := by
  obtain ⟨t, sent, serving₁, -, first, kept, staged⟩ :=
    exists_ending_sendBytes stages undisturbed nonneg data serving
  obtain ⟨v, u, taken, told, path⟩ := stages.takeOverride t m serving₁.busy (by rw [staged, written])
  obtain ⟨called, second⟩ := taken.ending serving₁.toAttended undisturbed
  refine ⟨u, ?_, second.serving serving₁, first.trans second.turns, path.trans kept.1,
    by rw [told, staged]⟩
  unfold GuestM.sendConfig
  rw [written]
  change ending (GuestM.sendBytes out again data >>= _) s = _
  rw [ending_bind_of_ok sent, ending_bind_of_ok called]
  rfl

/-- Path and override are handed over before the text. -/
theorem exists_ending_handOver (path text : String) {override : Datum}
    (given : override.isBlank = true ∨ ∃ m : ConfigMap, m.Writable ∧ override = m.toDatum)
    (serving : Serving g₀ start (pred + 1) s) (clean : view.override s.guest.state = none) :
    ∃ t, ending (GuestM.handOver out again path text override) s = (.ok (), t) ∧
      Serving g₀ start (pred + 1) t ∧ t.guest.Knows start ↑(pred + 1) ∧
      CallTurns out again start ↑(pred + 1) s t ∧ view.Receives path text override t := by
  obtain ⟨t, sent, serving₁, -, first, kept, staged⟩ :=
    exists_ending_sendBytes stages undisturbed nonneg (Utf8.encode path) serving
  obtain ⟨v, u, taken, told, still⟩ := stages.takePath t path serving₁.busy staged
  obtain ⟨called, second⟩ := taken.ending serving₁.toAttended undisturbed
  have serving₂ := second.serving serving₁
  have none₂ : view.override u.guest.state = none := (still.trans kept.2).trans clean
  -- The scene in which the guest has the override, or does not need one.
  obtain ⟨x, configured, serving₃, third, told₃, blank, own⟩ : ∃ x,
      ending (do if !override.isBlank then GuestM.sendConfig out again override "set_override_config") u =
        (.ok (), x) ∧ Serving g₀ start (pred + 1) x ∧ CallTurns out again start ↑(pred + 1) u x ∧
      view.path x.guest.state = view.path u.guest.state ∧
      (override.isBlank = true → view.override x.guest.state = none) ∧
      (override.isBlank = false → ∃ data, ConfigMap.serialize override = .ok data ∧
        view.override x.guest.state = some data) := by
    cases blank : override.isBlank with
    | true =>
      refine ⟨u, rfl, serving₂, .refl, rfl, fun _ => none₂, fun other => ?_⟩
      exact absurd other (by simp)
    | false =>
      obtain full | ⟨m, writable, rfl⟩ := given
      · exact absurd (blank.symm.trans full) (by simp)
      obtain ⟨-, data, written⟩ | ⟨long, -⟩ := ConfigMap.serialize_toDatum m
      · obtain ⟨x, configured, serving₃, third, path₃, override₃⟩ :=
          exists_ending_sendConfig stages undisturbed nonneg written serving₂
        refine ⟨x, configured, serving₃, third, path₃, fun other => ?_, fun _ => ⟨data, written, override₃⟩⟩
        exact absurd other (by simp)
      · exact absurd writable long
  obtain ⟨y, sent', serving₄, knows, fourth, kept', staged'⟩ :=
    exists_ending_sendBytes stages undisturbed nonneg (Utf8.encode text) serving₃
  have turns := ((first.trans second.turns).trans third).trans fourth
  refine ⟨y, ?_, serving₄, knows, turns, ?_, staged', ?_, ?_⟩
  · unfold GuestM.handOver
    rw [ending_bind_of_ok sent, ending_bind_of_ok called]
    cases blank : override.isBlank with
    | true =>
      rw [blank] at configured
      obtain ⟨-, rfl⟩ := Prod.mk.inj configured
      exact sent'
    | false =>
      rw [blank] at configured
      exact (ending_bind_of_ok configured).trans sent'
  · exact kept'.1.trans (told₃.trans told)
  · exact fun full => kept'.2.trans (blank full)
  · intro other
    obtain ⟨data, written, own⟩ := own other
    exact ⟨data, written, kept'.2.trans own⟩

/-- The exchange ends as the formatter replies, and a breach poisons the guest. The override is used up,
unless the formatter was interrupted. -/
theorem exists_ending_fetchAnswer {text : String} (serving : Serving g₀ start (pred + 1) s)
    (knows : s.guest.Knows start ↑(pred + 1)) (staged : view.staged s.guest.state = Utf8.encode text) :
    ∃ t, ending (GuestM.fetchAnswer out again) s =
        ((view.reply out again s).outcome g₀.plugin, t) ∧
      Serving g₀ start (pred + 1) t ∧ CallTurns out again start ↑(pred + 1) s t ∧
      (∀ f, (view.reply out again s).status = .error f → f.kind = .guest ∨ f.OutOfRoom) ∧
      (∀ f, (view.reply out again s).outcome g₀.plugin = .error f → f.kind = .guest →
        t.guest.poisoned = true) ∧
      (t.guest.poisoned = false → view.override t.guest.state = none ∨
        ∃ f, (view.reply out again s).status = .error f ∧ f.OutOfRoom) := by
  obtain ⟨status, t, called, tended, breach⟩ :=
    exists_ending_callExport serving.toAttended undisturbed "format" []
  have serving₁ := tended.serving serving
  have first := tended.turns
  have reply : view.reply out again s = ⟨status, view.formatted t.guest.state, view.error t.guest.state⟩ := by
    rw [StagingView.reply, called]
  rw [reply]
  unfold GuestM.fetchAnswer
  rcases status with f | n
  · rw [ending_bind_of_error called]
    refine ⟨t, rfl, serving₁, first, ?_, ?_, ?_⟩
    · rintro f' ⟨⟩
      exact (breach f rfl).imp_left And.left
    · rintro f' ⟨⟩ kind
      rcases breach f rfl with ⟨-, poisoned⟩ | room
      · exact poisoned
      · cases kind.symm.trans room.kind
    · intro healthy
      rcases breach f rfl with ⟨-, poisoned⟩ | room
      · exact absurd healthy (by simp [poisoned])
      · exact .inr ⟨f, rfl, room⟩
  · have performs := performs_of_ending called
    rw [serving.exports] at performs
    have used := stages.consume s t text n serving.busy staged performs
    have knows₁ := tended.knows knows
    rw [ending_bind_of_ok called]
    simp only
    split
    · refine ⟨t, rfl, serving₁, first, by simp, ?_, fun _ => .inl used⟩
      rintro f ⟨⟩
    · obtain ⟨u, fetched, kept, staged'⟩ := stages.formatted t serving₁.busy
      obtain ⟨x, received, serving₂, second, kept', garbled⟩ := exists_ending_receiveText stages
        undisturbed nonneg fetched kept staged' tended.attended knows₁
      refine ⟨x, ?_, serving₂, first.trans second, by simp, ?_, fun _ => .inl (kept'.2.trans used)⟩
      · rw [ending_bind, received]
        simp only [Reply.outcome]
        cases handedOut g₀.plugin "get_formatted_text" (view.formatted t.guest.state) <;> rfl
      · intro f failed _
        refine garbled f ?_
        revert failed
        simp only [Reply.outcome]
        cases handedOut g₀.plugin "get_formatted_text" (view.formatted t.guest.state) with
        | ok text => simp [Except.map]
        | error f' => simp [Except.map]
    · obtain ⟨u, fetched, kept, staged'⟩ := stages.error t serving₁.busy
      obtain ⟨x, received, serving₂, second, kept', garbled⟩ := exists_ending_receiveText stages
        undisturbed nonneg fetched kept staged' tended.attended knows₁
      refine ⟨x, ?_, serving₂, first.trans second, by simp, ?_, fun _ => .inl (kept'.2.trans used)⟩
      · rw [ending_bind, received]
        simp only [Reply.outcome]
        cases handedOut g₀.plugin "get_error_text" (view.error t.guest.state) <;> rfl
      · intro f failed kind
        refine garbled f ?_
        revert failed
        simp only [Reply.outcome]
        cases handedOut g₀.plugin "get_error_text" (view.error t.guest.state) with
        | ok message =>
          simp only [Except.bind, Except.error.injEq]
          rintro rfl
          exact absurd kind (by simp [Fault.kind])
        | error f' => simp [Except.bind]
    · next n zero one two =>
      rw [ending_bind, GuestM.ending_guest]
      simp only
      rw [GuestM.ending_breach, serving₁.plugin]
      refine ⟨{ t with guest := { t.guest with poisoned := true } }, ?_, { serving₁ with },
        first.trans ?_, by simp, fun _ _ _ => rfl, fun _ => .inl used⟩
      · simp only [Reply.outcome]
      · exact CallTurns.notes t t.guest.windowStart t.guest.windowSize true t.guest.busy

end

end FormatHost
