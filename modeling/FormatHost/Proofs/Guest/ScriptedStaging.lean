import FormatHost.Proofs.Guest.Replies
import FormatHost.Proofs.Guest.Scripted
/-!
# Scripts that keep to the staging contract

A plain script whose steps compute keeps to the staging contract. What such a step answers depends on the
path, the text and the override that it was handed, and not on the window through which they came.
-/
namespace FormatHost

variable {ω : Type}

namespace Script

/-- What scripts keep of what they are handed. -/
def stagingView : StagingView ScriptState where
  toTransferView := view
  override s := s.override.map Utf8.encode

variable {script : Script} {key : Bytes}

/-- Steps that compute leave the override as it is. -/
theorem override_formatStep (path text : String) (override : Option String) {step : FormatStep}
    (own : step.Own) (out : Outside ScriptCounts ω) (again : Again ScriptState ScriptCounts ω)
    (s : Scene ScriptState ScriptCounts ω) :
    ((formatStep script path text override step).run out again s).2.guest.state.override =
      s.guest.state.override := by
  have changes (old new : String) : ((changedFrom old new).run out again s).2.guest.state.override =
      s.guest.state.override := by
    rw [changedFrom]
    split <;> rfl
  cases step with
  | trim => exact changes _ _
  | none | text | append | echo | error | status | trap => rfl
  | _ => exact own.elim

/-- A plain script whose steps compute keeps to the staging contract, whatever is outside. -/
theorem stages_exports (plain : script.Plain) (own : ∀ step ∈ script.format, step.Own) {extent : Nat}
    (size : script.bufferSize = extent) (out : Outside ScriptCounts ω)
    (again : Again ScriptState ScriptCounts ω) :
    Stages stagingView script.bufferPointer extent (script.exports key) out again where
  window s _ := ⟨_, (plain.yields_pointer s).performs out again, rfl, rfl⟩
  size s _ := by
    rw [← size]
    exact ⟨_, (plain.yields_size s).performs out again, rfl, rfl⟩
  clear s n _ := ⟨0, _, (plain.yields_clear s n).performs out again, ⟨rfl, rfl⟩, rfl⟩
  append s data _ _ read := ⟨0, _, (plain.yields_append read).performs out again, ⟨rfl, rfl⟩, rfl⟩
  fill s offset length _ _ inside most := by
    obtain ⟨m, -, back, yields⟩ := plain.exists_yields_fill key inside most
    exact ⟨0, _, yields.performs out again, ⟨rfl, rfl⟩, rfl, back⟩
  takePath s path _ staged := ⟨0, _, (plain.yields_path staged).performs out again, rfl, rfl⟩
  takeOverride s m _ written := by
    obtain ⟨text, staged⟩ := ConfigMap.exists_text_of_serialize written
    exact ⟨0, _, (plain.yields_override staged).performs out again, congrArg some staged.symm, rfl⟩
  formatted s _ := ⟨_, (plain.yields_formatted s).performs out again, ⟨rfl, rfl⟩, rfl⟩
  error s _ := ⟨_, (plain.yields_error s).performs out again, ⟨rfl, rfl⟩, rfl⟩
  consume s t text v _ staged performs := by
    obtain ⟨act, there, ran⟩ := performs
    obtain ⟨act', there', runs⟩ := plain.run_due key
    obtain rfl : act' = act := Option.some.inj (there'.symm.trans there)
    have stepped := runs out again s
    rw [show Utf8.decode s.guest.state.shared = .ok text from Utf8.decode_eq_ok_iff.2 staged] at stepped
    -- The step that is due, which is one of the list or the step that changes nothing.
    have due (n : Nat) : ((nth? script.format n).getD .none).Own := by
      cases there : nth? script.format n with
      | none => trivial
      | some step => exact own step (List.mem_of_getElem? there)
    have last := congrArg (fun ended => ended.2.guest.state.override) (stepped.symm.trans ran)
    simp only [override_formatStep _ _ _ (due _)] at last
    exact congrArg (Option.map Utf8.encode) last.symm

/-- What a step answers that computes and tells its answer. -/
theorem run_formatStep_alike (path text : String) (override : Option String) {step : FormatStep}
    (own : step.Own) (tells : ∀ n, step ≠ .status n) (script script' : Script) {ω ω' : Type}
    (out : Outside ScriptCounts ω) (again : Again ScriptState ScriptCounts ω)
    (out' : Outside ScriptCounts ω') (again' : Again ScriptState ScriptCounts ω')
    (s : Scene ScriptState ScriptCounts ω) (s' : Scene ScriptState ScriptCounts ω') :
    let r := (formatStep script path text override step).run out again s
    let r' := (formatStep script' path text override step).run out' again' s'
    r'.1 = r.1 ∧ (r.1 = .ok 1 → r'.2.guest.state.formatted = r.2.guest.state.formatted) ∧
      (r.1 = .ok 2 → r'.2.guest.state.error = r.2.guest.state.error) := by
  cases step with
  | status n => exact absurd rfl (tells n)
  | trim =>
    simp only [formatStep, changedFrom]
    split
    · simp [Act.run]
    · simp [changed, change, Act.run]
  | none | text | append | echo | error | trap =>
    simp [formatStep, changed, failed, change, Act.run]
  | _ => exact own.elim

/-- The formatters of two plain scripts with the same step, which computes and tells its answer, reply
alike. -/
theorem repliesAlike (plain : script.Plain) {script' : Script} {key' : Bytes} (plain' : script'.Plain)
    {step : FormatStep} (own : step.Own) (tells : ∀ n, step ≠ .status n)
    (format : script.format = [step]) (format' : script'.format = [step])
    {g g' : Instance ScriptState ScriptCounts} (exports : g.exports = script.exports key)
    (exports' : g'.exports = script'.exports key') (plugin : g'.plugin = g.plugin) {ω' : Type}
    (out : Outside ScriptCounts ω) (out' : Outside ScriptCounts ω') :
    RepliesAlike stagingView g out stagingView g' out' := by
  intro s s' called called' path text override
  have samePath : s'.guest.state.path.getD "" = s.guest.state.path.getD "" :=
    Utf8.encode_injective path
  have sameText : s'.guest.state.shared = s.guest.state.shared := text
  have sameOverride : s'.guest.state.override = s.guest.state.override :=
    Option.map_injective (fun _ _ => Utf8.encode_injective) override
  obtain ⟨f, there, runs⟩ := plain.run_step format key
  obtain ⟨f', there', runs'⟩ := plain'.run_step format' key'
  have offered : s.guest.exports "format" = some f := by rw [called.exports, exports, there]
  have offered' : s'.guest.exports "format" = some f' := by rw [called'.exports, exports', there']
  have ran := runs out (GuestM.nestedFormat out) s
  have ran' := runs' out' (GuestM.nestedFormat out') s'
  rw [sameText] at ran'
  suffices alike : ((f' []).run out' (GuestM.nestedFormat out') s').1 =
        ((f []).run out (GuestM.nestedFormat out) s).1 ∧
      (((f []).run out (GuestM.nestedFormat out) s).1 = .ok 1 →
        ((f' []).run out' (GuestM.nestedFormat out') s').2.guest.state.formatted =
          ((f []).run out (GuestM.nestedFormat out) s).2.guest.state.formatted) ∧
      (((f []).run out (GuestM.nestedFormat out) s).1 = .ok 2 →
        ((f' []).run out' (GuestM.nestedFormat out') s').2.guest.state.error =
          ((f []).run out (GuestM.nestedFormat out) s).2.guest.state.error) by
    unfold StagingView.reply
    rw [GuestM.ending_callExport, GuestM.ending_callExport, offered, offered', called.plugin,
      called'.plugin, plugin]
    simp only
    revert alike
    rcases (f []).run out (GuestM.nestedFormat out) s with ⟨cause | v, t⟩ <;>
      rcases (f' []).run out' (GuestM.nestedFormat out') s' with ⟨cause' | v', t'⟩ <;>
      rintro ⟨status, formatted, error⟩
    · obtain rfl := Except.error.inj status
      simp only
      split
      · exact ⟨rfl, by simp, by simp⟩
      · exact ⟨rfl, by simp, by simp⟩
    · exact absurd status (by simp)
    · exact absurd status (by simp)
    · obtain rfl := Except.ok.inj status
      exact ⟨rfl, formatted, error⟩
  cases decoded : Utf8.decode s.guest.state.shared with
  | error refusal =>
    simp only [decoded] at ran ran'
    simp [ran, ran']
  | ok t =>
    simp only [decoded, samePath, sameOverride] at ran ran'
    rw [ran, ran']
    exact run_formatStep_alike _ t _ own tells script script' out _ out' _ _ _

/-- A script that shows what it was handed. -/
def echoing (memorySize : Nat) (bufferPointer bufferSize : Int) : Script where
  memorySize
  bufferPointer
  bufferSize
  data := []
  returns := []
  traps := []
  missing := []
  format := [.echo]
  loadFaults := []

theorem plain_echoing (memorySize : Nat) (bufferPointer bufferSize : Int) :
    (echoing memorySize bufferPointer bufferSize).Plain := ⟨rfl, rfl, rfl, rfl, rfl⟩

/-- An instance with a window of two bytes at the end of its memory. -/
def narrow : Instance ScriptState ScriptCounts := ((echoing 5 3 2).toModule []).begin "p" none

/-- An instance with a window that has room for everything. -/
def wide : Instance ScriptState ScriptCounts := ((echoing 100 0 90).toModule []).begin "p" none

/-- A call that is about three bytes of text. -/
def echoedCall (override : ConfigMap) : FormatCall ScriptCounts Unit where
  out := { ask := fun _ => pure .unchanged, pause := pure (), room := 0 }
  path := "f"
  text := "xé"
  override := override.toDatum
  engine := .zero
  world := ()

theorem stages_narrow (override : ConfigMap) : Stages stagingView 3 2 narrow.exports
    (echoedCall override).out (GuestM.nestedFormat (echoedCall override).out) :=
  stages_exports (plain_echoing 5 3 2) (by simp [echoing, FormatStep.Own]) rfl _ _

theorem stages_wide (override : ConfigMap) : Stages stagingView 0 90 wide.exports
    (echoedCall override).out (GuestM.nestedFormat (echoedCall override).out) :=
  stages_exports (plain_echoing 100 0 90) (by simp [echoing, FormatStep.Own]) rfl _ _

theorem primed_narrow : narrow.Primed stagingView 3 2 where
  idle := rfl
  window := .inl rfl
  nonneg := by decide
  positive := by decide
  room := by decide
  clean := rfl

theorem primed_wide : wide.Primed stagingView 0 90 where
  idle := rfl
  window := .inl rfl
  nonneg := by decide
  positive := by decide
  room := by decide
  clean := rfl

end Script

end FormatHost
