import FormatHost.Proofs.Guest.Accountable
import FormatHost.Proofs.Guest.ScriptedStaging
/-!
# Operations one after the other

All that a host does with an instance once it is loaded, in any order and whatever failed before. An
operation that blames the guest leaves the instance poisoned, with one exception: a malformed answer about
its configuration costs a guest nothing.
-/
namespace FormatHost

variable {σ ε ω : Type}

/-- What a host can do with an instance. -/
inductive Operation where
  | schemaVersion
  | pluginInfo
  | licenseText
  | setConfig (global plugin : Datum)
  | resolvedConfig
  | configDiagnostics
  | formatText (path text : String) (override : Datum)
  | sendBytes (data : Bytes)
  | receiveBytes (length : Int)

namespace Operation

/-- Performs an operation; what it answers does not matter here. -/
def perform (out : Outside ε ω) : Operation → GuestM σ ε ω Unit
  | schemaVersion => do let _ ← GuestM.reportedSchema out
  | pluginInfo => do let _ ← GuestM.pluginInfo out
  | licenseText => do let _ ← GuestM.licenseText out
  | setConfig global plugin => GuestM.setConfig out global plugin
  | resolvedConfig => do let _ ← GuestM.resolvedConfig out
  | configDiagnostics => do let _ ← GuestM.configDiagnostics out
  | formatText path text override => do let _ ← GuestM.formatText out path text override
  | sendBytes data => GuestM.sendBytes out (GuestM.freeFormat out) data
  | receiveBytes length => do let _ ← GuestM.receiveBytes out (GuestM.freeFormat out) length

/-- The ways in which an operation blames a guest that may go on: the instance is in the middle of a
format call, or the guest's list of diagnostics is malformed. -/
inductive Spares (g : Instance σ ε) : Operation → Fault → Prop
  | busy (path text : String) (override : Datum) (held : g.busy = true) :
    Spares g (formatText path text override) (.busy g.plugin)
  | diagnostics {answer : String} {complaints : List Complaint}
    (malformed : Diagnostic.parseAll answer = .error complaints) :
    Spares g configDiagnostics (.diagnosticsMalformed g.plugin complaints)

end Operation

section

variable {out : Outside ε ω}

/-- Outside of format calls, exchanges are accountable whatever the guest asks for. -/
theorem hereditary_free (out : Outside ε ω) :
    Hereditary out out (GuestM.freeFormat (σ := σ) out) (GuestM.freeFormat out)
      fun _ c _ => Accountable c :=
  hereditary_accountable out (advancing_freeFormat out)

theorem accountable_pluginInfo (out : Outside ε ω) :
    Accountable (GuestM.pluginInfo out : GuestM σ ε ω PluginInfo) := by
  have steps := hereditary_free (σ := σ) out
  refine (steps.receiveText (by decide)).bind fun text => ?_
  cases PluginInfo.parse text with
  | ok info => exact steps.pure info
  | error complaints => exact steps.guest.bind fun g => accountable_breach _

theorem accountable_setConfig (out : Outside ε ω) (global plugin : Datum) :
    Accountable (GuestM.setConfig out global plugin : GuestM σ ε ω Unit) := by
  have steps := hereditary_accountable (σ := σ) out (advancing_nestedFormat out)
  refine Accountable.holding ?_
  refine (steps.callExport [] (by decide)).bind fun _ => ?_
  exact (steps.sendConfig (by decide) rfl).bind fun _ => steps.sendConfig (by decide) rfl

theorem accountable_resolvedConfig (out : Outside ε ω) :
    Accountable (GuestM.resolvedConfig out : GuestM σ ε ω Datum) := by
  have steps := hereditary_free (σ := σ) out
  refine (steps.receiveText (by decide)).bind fun text => ?_
  split
  · exact steps.pure _
  · split
    · exact steps.pure _
    · exact accountable_throw (by decide)
    · exact accountable_throw (by decide)
    · exact accountable_throw FaultKind.noConfusion

/-- The question for diagnostics ends as the fetching of the answer did, or the answer is malformed. -/
theorem configDiagnostics_cases (out : Outside ε ω) (s : Scene σ ε ω) :
    let asked := ending (GuestM.receiveText out (GuestM.freeFormat out) "get_config_diagnostics") s
    (ending (GuestM.configDiagnostics out) s).2 = asked.2 ∧
      ∀ f, (ending (GuestM.configDiagnostics out) s).1 = .error f →
        asked.1 = .error f ∨ Operation.configDiagnostics.Spares asked.2.guest f := by
  unfold GuestM.configDiagnostics
  rw [ending_bind]
  rcases ending (GuestM.receiveText out (GuestM.freeFormat out) "get_config_diagnostics") s with
    ⟨cause | answer, t⟩
  · exact ⟨rfl, fun f failed => .inl (congrArg Except.error (Except.error.inj failed))⟩
  · simp only
    split
    · exact ⟨rfl, fun _ none => by cases none⟩
    · split
      · exact ⟨rfl, fun _ none => by cases none⟩
      · next malformed =>
        refine ⟨rfl, fun f failed => .inr ?_⟩
        obtain rfl := Except.error.inj failed
        exact .diagnostics malformed

theorem accountable_answer (out : Outside ε ω) (name : String) (other : name ≠ "format") :
    Accountable (GuestM.receiveText (σ := σ) out (GuestM.freeFormat out) name) :=
  (hereditary_free out).receiveText other

theorem advancing_configDiagnostics (out : Outside ε ω) :
    Advancing (GuestM.configDiagnostics out : GuestM σ ε ω (List Diagnostic)) := by
  intro s
  rw [(configDiagnostics_cases out s).1]
  exact (accountable_answer out _ (by decide)).1 s

/-- The question for the schema version is the call of an export. -/
theorem advancing_checkSchema (out : Outside ε ω) :
    Advancing (GuestM.checkSchema out : GuestM σ ε ω Unit) := by
  intro s
  have advance := advancing_callExport out (advancing_freeFormat out) "get_plugin_schema_version" [] s
  unfold GuestM.checkSchema
  rw [ending_bind, GuestM.ending_guest]
  simp only
  rw [ending_bind, GuestM.ending_attempt]
  change s.guest.Advance (ending (GuestM.reportedSchema out) s).2.guest at advance
  revert advance
  rcases ending (GuestM.reportedSchema out) s with ⟨cause | version, t⟩ <;> intro advance
  · exact advance
  · simp only
    split <;> exact advance

theorem blamed_configDiagnostics (out : Outside ε ω) (s : Scene σ ε ω) {f : Fault}
    (failed : (ending (GuestM.configDiagnostics out) s).1 = .error f) (kind : f.kind = .guest) :
    (ending (GuestM.configDiagnostics out) s).2.guest.poisoned = true ∨
      Operation.configDiagnostics.Spares s.guest f := by
  obtain ⟨advances, blames⟩ := accountable_answer (σ := σ) out
    "get_config_diagnostics" (by decide)
  obtain ⟨same, cases⟩ := configDiagnostics_cases out s
  rw [same]
  rcases cases f failed with broken | spared
  · exact .inl (blames s f broken kind)
  · right
    cases spared with
    | diagnostics malformed =>
      rw [(advances s).plugin]
      exact .diagnostics malformed

/-- A format call blames the guest with the instance poisoned, or it found the instance held. -/
theorem blamed_formatText (out : Outside ε ω) (path text : String) (override : Datum)
    (s : Scene σ ε ω) {f : Fault}
    (failed : (ending (GuestM.formatText out path text override) s).1 = .error f)
    (kind : f.kind = .guest) :
    (ending (GuestM.formatText out path text override) s).2.guest.poisoned = true ∨
      (Operation.formatText path text override).Spares s.guest f := by
  rw [GuestM.formatText] at failed ⊢
  cases held : s.guest.busy with
  | true =>
    rw [ending_formatWith_of_held out _ path text override held] at failed
    obtain rfl := Except.error.inj failed
    exact .inr (.busy path text override held)
  | false =>
    rw [ending_formatWith_of_free out _ path text override held] at failed ⊢
    have exchange := accountable_formatExchange (σ := σ) out (advancing_nestedFormat out)
    exact .inl ((exchange path text override).holding.2 s f failed kind)

/-- How a computation ends whose answer does not matter. -/
theorem ending_drop {α : Type} (c : GuestM σ ε ω α) (s : Scene σ ε ω) :
    ending (do let _ ← c : GuestM σ ε ω Unit) s =
      ((ending c s).1.map fun _ => (), (ending c s).2) := by
  rw [ending_bind]
  rcases ending c s with ⟨f | a, t⟩ <;> rfl

theorem failed_of_drop {α : Type} {c : GuestM σ ε ω α} {s : Scene σ ε ω} {f : Fault}
    (failed : (ending (do let _ ← c : GuestM σ ε ω Unit) s).1 = .error f) :
    (ending c s).1 = .error f := by
  rw [ending_drop] at failed
  revert failed
  rcases ending c s with ⟨g | a, t⟩ <;> intro failed
  · exact congrArg Except.error (Except.error.inj failed)
  · cases failed

theorem Advancing.drop {α : Type} {c : GuestM σ ε ω α} (advancing : Advancing c) :
    Advancing (do let _ ← c : GuestM σ ε ω Unit) := by
  intro s
  rw [ending_drop]
  exact advancing s

theorem Accountable.drop {α : Type} {c : GuestM σ ε ω α} (accountable : Accountable c) :
    Accountable (do let _ ← c : GuestM σ ε ω Unit) := by
  refine ⟨accountable.1.drop, fun s f failed kind => ?_⟩
  rw [ending_drop]
  exact accountable.2 s f (failed_of_drop failed) kind

end

namespace Operation

/-- An operation is accountable, or it is one of the two that may spare the guest. -/
theorem accountable (out : Outside ε ω) (operation : Operation) :
    Accountable (operation.perform out : GuestM σ ε ω Unit) ∨ operation = configDiagnostics ∨
      ∃ path text override, operation = formatText path text override := by
  have steps := hereditary_free (σ := σ) out
  cases operation with
  | schemaVersion => exact .inl (steps.callExport [] (by decide)).drop
  | pluginInfo => exact .inl (accountable_pluginInfo out).drop
  | licenseText => exact .inl (accountable_answer out _ (by decide)).drop
  | setConfig global plugin => exact .inl (accountable_setConfig out global plugin)
  | resolvedConfig => exact .inl (accountable_resolvedConfig out).drop
  | configDiagnostics => exact .inr (.inl rfl)
  | formatText path text override => exact .inr (.inr ⟨path, text, override, rfl⟩)
  | sendBytes data => exact .inl (steps.sendBytes data)
  | receiveBytes length => exact .inl (steps.receiveBytes length).drop

/-- Every operation advances the instance, however it ends. -/
theorem advancing (out : Outside ε ω) (operation : Operation) :
    Advancing (operation.perform out : GuestM σ ε ω Unit) := by
  rcases operation.accountable (σ := σ) out with accountable | rfl | ⟨path, text, override, rfl⟩
  · exact accountable.1
  · exact (advancing_configDiagnostics out).drop
  · exact (advancing_formatWith out (advancing_nestedFormat out) path text override).drop

/-- An operation that blames the guest leaves the instance poisoned, or spares it. -/
theorem blamed (out : Outside ε ω) (operation : Operation) (s : Scene σ ε ω) {f : Fault}
    (failed : (ending (operation.perform out) s).1 = .error f) (kind : f.kind = .guest) :
    (ending (operation.perform out) s).2.guest.poisoned = true ∨ operation.Spares s.guest f := by
  rcases operation.accountable (σ := σ) out with accountable | rfl | ⟨path, text, override, rfl⟩
  · exact .inl (accountable.2 s f failed kind)
  · rw [perform, ending_drop]
    exact blamed_configDiagnostics out s (failed_of_drop failed) kind
  · rw [perform, ending_drop]
    exact blamed_formatText out path text override s (failed_of_drop failed) kind

end Operation

/-- An operation in the surroundings that it meets. -/
structure Occasion (ε ω : Type) where
  out : Outside ε ω
  operation : Operation
  engine : ε
  world : ω

namespace Occasion

/-- How the operation ends. -/
def ended (o : Occasion ε ω) (g : Instance σ ε) : Except Fault Unit × Scene σ ε ω :=
  ending (o.operation.perform o.out) ⟨g, o.engine, o.world⟩

/-- The instance after the operation, however it ended. -/
def after (o : Occasion ε ω) (g : Instance σ ε) : Instance σ ε := (o.ended g).2.guest

/-- The instance after some operations, one after the other. -/
def afterAll (g : Instance σ ε) (os : List (Occasion ε ω)) : Instance σ ε :=
  os.foldl (fun g o => o.after g) g

theorem advance_after (o : Occasion ε ω) (g : Instance σ ε) : g.Advance (o.after g) :=
  o.operation.advancing o.out ⟨g, o.engine, o.world⟩

theorem advance_afterAll (os : List (Occasion ε ω)) (g : Instance σ ε) :
    g.Advance (afterAll g os) := by
  induction os generalizing g with
  | nil => exact .refl g
  | cons o os ih => exact (o.advance_after g).trans (ih (o.after g))

/-- Whatever was done with an instance before, an operation that blames the guest leaves it poisoned,
unless the instance is in the middle of a format call or the fault is a malformed list of diagnostics. A
poisoned instance stays so. -/
theorem poisoned_of_blamed (g₀ : Instance σ ε) (earlier later : List (Occasion ε ω))
    (o : Occasion ε ω) :
    (∀ f, (o.ended (afterAll g₀ earlier)).1 = .error f → f.kind = .guest →
      (o.after (afterAll g₀ earlier)).poisoned = true ∨
        o.operation.Spares (afterAll g₀ earlier) f) ∧
      ((afterAll g₀ earlier).poisoned = true → (afterAll g₀ (earlier ++ later)).poisoned = true) := by
  refine ⟨fun f failed kind => o.operation.blamed o.out _ failed kind, ?_⟩
  rw [afterAll, afterAll, List.foldl_append]
  exact (advance_afterAll later (afterAll g₀ earlier)).poisoned

end Occasion

/-- The class of the fault with which something ended, if it failed. -/
def failure? {α : Type} : Except Fault α → Option FaultKind
  | .ok _ => none
  | .error f => some f.kind

theorem exists_of_failure? {α : Type} {r : Except Fault α} {kind : FaultKind}
    (failed : failure? r = some kind) : ∃ f, r = .error f ∧ f.kind = kind := by
  cases r with
  | ok a => cases failed
  | error f => exact ⟨f, rfl, Option.some.inj failed⟩

namespace Script

/-- A script whose description of itself and whose diagnostics are malformed. -/
def garbling : Script where
  __ := echoing 100 0 90
  data := [("get_plugin_info", Utf8.encode "\x7b\x7d"), ("get_config_diagnostics", Utf8.encode "\x7b\x7d")]

/-- An instance of it. -/
def garbled : Instance ScriptState ScriptCounts := (garbling.toModule []).begin "p" none

/-- An operation while nothing happens around the instance. -/
def calmly (operation : Operation) : Occasion ScriptCounts Unit where
  out := { ask := fun _ => pure .unchanged, pause := pure (), room := 0 }
  operation
  engine := .zero
  world := ()

end Script

open Script Occasion

/-- A malformed description poisons, and what happens later does not change that. -/
theorem poisoned_of_garbled :
    ∃ f, ((calmly .pluginInfo).ended (afterAll garbled [calmly .licenseText])).1 = .error f ∧
      f.kind = .guest ∧
      ((calmly .pluginInfo).after (afterAll garbled [calmly .licenseText])).poisoned = true ∧
      (afterAll garbled ([calmly .licenseText, calmly .pluginInfo] ++ [calmly .licenseText])).poisoned =
        true := by
  have failed : failure? ((calmly .pluginInfo).ended (afterAll garbled [calmly .licenseText])).1 =
      some .guest := by decide +kernel
  obtain ⟨f, ended, kind⟩ := exists_of_failure? failed
  have blamed := (poisoned_of_blamed garbled [calmly .licenseText] [] (calmly .pluginInfo)).1
  have stays := (poisoned_of_blamed garbled [calmly .licenseText, calmly .pluginInfo]
    [calmly .licenseText] (calmly .pluginInfo)).2
  have poisoned := (blamed f ended kind).resolve_right fun spared => nomatch spared
  exact ⟨f, ended, kind, poisoned, stays poisoned⟩

/-- Malformed diagnostics do not. -/
theorem garbled_spared :
    ∃ f, ((calmly .configDiagnostics).ended garbled).1 = .error f ∧ f.kind = .guest ∧
      (∀ plugin, f ≠ .busy plugin) ∧ ((calmly .configDiagnostics).after garbled).poisoned = false := by
  have evaluated : (match (calmly .configDiagnostics).ended garbled with
    | (.error (.diagnosticsMalformed _ _), s) => s.guest.poisoned
    | _ => true) = false := by decide +kernel
  unfold Occasion.after
  revert evaluated
  rcases (calmly .configDiagnostics).ended garbled with ⟨f | _, s⟩
  · cases f with
    | diagnosticsMalformed plugin complaints =>
      exact fun healthy => ⟨_, rfl, rfl, fun _ => Fault.noConfusion, healthy⟩
    | _ => exact fun none => Bool.noConfusion none
  · exact fun none => Bool.noConfusion none

end FormatHost
