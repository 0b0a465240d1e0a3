import FormatHost.Proofs.Config.Overlong
import FormatHost.Proofs.Guest.ScriptedStaging
/-!
# Exact format calls

A format call on a guest that keeps to the staging contract. The formatter is handed the path, the text and
the override of the call, the call ends as the formatter answers, and the host changes the guest's memory
nowhere but in the window. How large the window is, where it starts and how large the memory is makes no
difference to how the call ends.
-/
namespace FormatHost

variable {σ ε ω : Type}

/-- A call hands over what it is about and ends as the formatter replies. Between its beginning and its end
the guest and the host take turns. -/
structure FormatCall.Exact (view : StagingView σ) (start : Int) (extent : Nat) (c : FormatCall ε ω)
    (g : Instance σ ε) : Prop where
  formatted : ∃ s, c.handed g = (.ok (), s) ∧ view.Receives c.path c.text c.override s ∧
    (view.reply c.out (GuestM.nestedFormat c.out) s).Concludes (c.ended g).1 (c.after g).poisoned
  turns : CallTurns c.out (GuestM.nestedFormat c.out) start extent ⟨g, c.engine, c.world⟩ (c.ended g).2

namespace FormatCall

open Script

variable {view : StagingView σ} {start : Int} {extent : Nat} {c : FormatCall ε ω} {g : Instance σ ε}

/-- The scene in which a call begins to hand over. -/
def opening (c : FormatCall ε ω) (g : Instance σ ε) : Scene σ ε ω :=
  ⟨{ g with busy := true }, c.engine, c.world⟩

theorem serving_opening (primed : g.Primed view start extent) :
    Serving g start extent (c.opening g) where
  plugin := rfl
  exports := rfl
  busy := rfl
  window := primed.window
  room := primed.room

/-- A call on a primed instance hands everything over, ends with the outcome of the reply, and leaves the
instance primed unless it is poisoned or the formatter was interrupted for want of room. -/
theorem exists_ended (stages : Stages view start extent g.exports c.out (GuestM.nestedFormat c.out))
    (primed : g.Primed view start extent)
    (given : c.override.isBlank = true ∨ ∃ m : ConfigMap, m.Writable ∧ c.override = m.toDatum) :
    ∃ s, c.handed g = (.ok (), s) ∧ g.Called s ∧ view.Receives c.path c.text c.override s ∧
      (c.ended g).1 = (view.reply c.out (GuestM.nestedFormat c.out) s).outcome g.plugin ∧
      c.Exact view start extent g ∧
      ((c.after g).poisoned = false → (∀ f, (c.ended g).1 = .error f → ¬f.OutOfRoom) →
        (c.after g).Primed view start extent) := by
  obtain ⟨pred, rfl⟩ := Nat.exists_eq_succ_of_ne_zero (Nat.ne_of_gt primed.positive)
  have undisturbed := undisturbed_nestedFormat (σ := σ) c.out
  obtain ⟨s, handed, serving, knows, first, receives⟩ := exists_ending_handOver stages undisturbed
    primed.nonneg c.path c.text given (serving_opening primed) primed.clean
  obtain ⟨t, fetched, serving', second, failed, breach, used⟩ := exists_ending_fetchAnswer stages
    undisturbed primed.nonneg serving knows receives.text
  have arrived : c.handed g = (.ok (), s) := handed
  let u : Scene σ ε ω := { t with guest := { t.guest with busy := false } }
  have ended : c.ended g =
      ((view.reply c.out (GuestM.nestedFormat c.out) s).outcome g.plugin, u) := by
    rw [ended_eq primed.idle, arrived]
    simp only [fetched]
    rfl
  have called : g.Called s := ⟨serving.plugin, serving.exports, serving.busy⟩
  have held : CallTurns c.out (GuestM.nestedFormat c.out) start ↑(pred + 1) ⟨g, c.engine, c.world⟩
      (c.opening g) := CallTurns.notes _ g.windowStart g.windowSize g.poisoned true
  have freed : CallTurns c.out (GuestM.nestedFormat c.out) start ↑(pred + 1) t u :=
    CallTurns.notes t t.guest.windowStart t.guest.windowSize t.guest.poisoned false
  refine ⟨s, arrived, called, receives, by rw [ended], ⟨⟨s, arrived, receives, ?_⟩, ?_⟩, ?_⟩
  · rw [after, ended]
    exact Reply.concludes failed breach
  · rw [ended]
    exact ((held.trans first).trans second).trans freed
  · rw [after, ended]
    intro healthy through
    constructor
    · rfl
    · exact serving'.window
    · exact primed.nonneg
    · exact primed.positive
    · exact serving'.room
    · refine (used healthy).resolve_right ?_
      rintro ⟨f, failed, interrupted⟩
      exact through f (by simp only [Reply.outcome, failed]) interrupted

/-- A format call on a guest that keeps to the staging contract is exact, if the override has a written
form. The instance can be called again unless it is poisoned or the formatter was interrupted. Any other
call with the same path, text and override, on a guest of the same name whose formatter replies alike,
ends the same way, wherever and however large its window is and whatever the size of its memory. -/
theorem exact_of_stages
    (stages : Stages view start extent g.exports c.out (GuestM.nestedFormat c.out))
    (primed : g.Primed view start extent)
    (given : c.override.isBlank = true ∨ ∃ m : ConfigMap, m.Writable ∧ c.override = m.toDatum) :
    c.Exact view start extent g ∧
    ((c.after g).poisoned = false → (∀ f, (c.ended g).1 = .error f → ¬f.OutOfRoom) →
      (c.after g).Primed view start extent) ∧
    ∀ {σ' ε' ω' : Type} {view' : StagingView σ'} {start' : Int} {extent' : Nat}
      {c' : FormatCall ε' ω'} {g' : Instance σ' ε'},
      Stages view' start' extent' g'.exports c'.out (GuestM.nestedFormat c'.out) →
      g'.Primed view' start' extent' → g'.plugin = g.plugin →
      c'.path = c.path → c'.text = c.text → c'.override = c.override →
      RepliesAlike view g c.out view' g' c'.out → (c'.ended g').1 = (c.ended g).1 := by
  obtain ⟨s, -, called, receives, ended, exact, after⟩ := exists_ended stages primed given
  refine ⟨exact, after, ?_⟩
  intro σ' ε' ω' view' start' extent' c' g' stages' primed' plugin path text override alike
  obtain ⟨s', -, called', receives', ended', -, -⟩ :=
    exists_ended stages' primed' (by rw [override]; exact given)
  have same : view'.override s'.guest.state = view.override s.guest.state := by
    cases blank : c.override.isBlank with
    | true => rw [receives.blank blank, receives'.blank (by rw [override, blank])]
    | false =>
      obtain ⟨data, written, told⟩ := receives.given blank
      obtain ⟨data', written', told'⟩ := receives'.given (by rw [override, blank])
      rw [override] at written'
      obtain rfl := Except.ok.inj (written'.symm.trans written)
      rw [told, told']
  have reply := alike s s' called called' (by rw [receives.path, receives'.path, path])
    (by rw [receives.text, receives'.text, text]) same
  rw [ended, ended', plugin, reply.outcome]

/-- The general statement for an override of one entry and two windows. -/
theorem exact_of_echoedCall :
    let c := echoedCall [(Text.ofString "k", .int 1)]
    Stages stagingView 3 2 narrow.exports c.out (GuestM.nestedFormat c.out) ∧
    narrow.Primed stagingView 3 2 ∧ ConfigMap.Writable [(Text.ofString "k", .int 1)] ∧
    c.Exact stagingView 3 2 narrow ∧ (c.ended wide).1 = (c.ended narrow).1 := by
  intro c
  have stages := stages_narrow [(Text.ofString "k", .int 1)]
  have writable : ConfigMap.Writable [(Text.ofString "k", .int 1)] := by
    intro e mem
    obtain rfl := List.mem_singleton.1 mem
    have short : (toString (1 : Int).natAbs).length ≤ 4300 := by decide
    exact short
  obtain ⟨exact, -, alike⟩ := exact_of_stages stages primed_narrow (.inr ⟨_, writable, rfl⟩)
  refine ⟨stages, primed_narrow, writable, exact, ?_⟩
  have own : FormatStep.echo.Own := trivial
  have exports : narrow.exports = (echoing 5 3 2).exports [] := rfl
  have exports' : wide.exports = (echoing 100 0 90).exports [] := rfl
  refine alike (stages_wide _) primed_wide rfl rfl rfl rfl ?_
  exact repliesAlike (plain_echoing 5 3 2) (plain_echoing 100 0 90) own (by simp) rfl rfl exports
    exports' rfl c.out c.out

/-- An override without a written form is not handed over, and the formatter is not called. -/
theorem handed_of_unwritable
    (stages : Stages view start extent g.exports c.out (GuestM.nestedFormat c.out))
    (primed : g.Primed view start extent) {m : ConfigMap} (long : ¬m.Writable)
    (override : c.override = m.toDatum) : (c.handed g).1 = .error .integerTooLong := by
  obtain ⟨pred, rfl⟩ := Nat.exists_eq_succ_of_ne_zero (Nat.ne_of_gt primed.positive)
  have undisturbed := undisturbed_nestedFormat (σ := σ) c.out
  have failed : ConfigMap.serialize m.toDatum = .error .integerTooLong := by
    obtain ⟨writable, -⟩ | ⟨-, failed⟩ := ConfigMap.serialize_toDatum m
    · exact absurd writable long
    · exact failed
  have full : m.toDatum.isBlank = false := by
    rw [ConfigMap.isBlank_toDatum]
    cases m with
    | nil => exact absurd (fun e none => absurd none (by simp)) long
    | cons => rfl
  obtain ⟨t, sent, serving, -, -, -, staged⟩ := exists_ending_sendBytes stages undisturbed
    primed.nonneg (Utf8.encode c.path) (serving_opening (c := c) primed)
  obtain ⟨v, u, taken, -, -⟩ := stages.takePath t c.path serving.busy staged
  obtain ⟨called, -⟩ := taken.ending serving.toAttended undisturbed
  have refused : ending (GuestM.sendConfig c.out (GuestM.nestedFormat c.out) m.toDatum
      "set_override_config") u = (.error .integerTooLong, u) := by
    unfold GuestM.sendConfig
    rw [failed]
    rfl
  change (ending (GuestM.handOver c.out (GuestM.nestedFormat c.out) c.path c.text c.override)
    (c.opening g)).1 = _
  unfold GuestM.handOver
  rw [ending_bind_of_ok sent, ending_bind_of_ok called, override, full]
  exact congrArg Prod.fst (ending_bind_of_error refused)

/-- With an integer of too many digits a call is not exact. -/
theorem not_exact_of_overlong :
    let c := echoedCall [(Text.ofString "k", .int (10 ^ 4300 : Nat))]
    Stages stagingView 3 2 narrow.exports c.out (GuestM.nestedFormat c.out) ∧
    narrow.Primed stagingView 3 2 ∧ ¬c.Exact stagingView 3 2 narrow := by
  intro c
  refine ⟨stages_narrow _, primed_narrow, ?_⟩
  rintro ⟨⟨s, handed, -⟩, -⟩
  have long : ¬ConfigMap.Writable [(Text.ofString "k", .int (10 ^ 4300 : Nat))] :=
    ConfigMap.not_writable_overlong _ (by rw [Json.length_toDigits_pow]; decide)
  have failed := handed_of_unwritable (stages_narrow _) primed_narrow long rfl
  rw [handed] at failed
  exact absurd failed (by simp)

end FormatCall

end FormatHost
