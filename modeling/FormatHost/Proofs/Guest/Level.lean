import FormatHost.Proofs.Guest.Hereditary
/-!
# Exchanges side by side

The same exchange takes place in two surroundings. If the exports of the guest do the same in both, then
so does the host: all it goes by is the instance.
-/
namespace FormatHost

variable {σ ε ω α β : Type} {R : Scene σ ε ω → Scene σ ε ω → Prop}

/-- A relation between scenes that lets the host see no difference, and that is kept by what the host does
to an instance by itself. -/
structure Paired (R : Scene σ ε ω → Scene σ ε ω → Prop) : Prop where
  same : ∀ {s s'}, R s s' → s'.guest = s.guest
  poison : ∀ {s s'}, R s s' → R { s with guest := { s.guest with poisoned := true } }
    { s' with guest := { s'.guest with poisoned := true } }
  hold : ∀ {s s'} (held : Bool), R s s' → R { s with guest := { s.guest with busy := held } }
    { s' with guest := { s'.guest with busy := held } }
  put : ∀ {s s'} {m : Memory}, m.size = s.guest.memory.size → R s s' →
    R { s with guest := { s.guest with memory := m } }
      { s' with guest := { s'.guest with memory := m } }

/-- The exports of a guest, apart from its formatter, do the same in both surroundings. -/
structure InStep (R : Scene σ ε ω → Scene σ ε ω → Prop) (out out' : Outside ε ω) : Prop where
  paired : Paired R
  call : ∀ (again again' : Again σ ε ω) {name : String} (arguments : List Int), name ≠ "format" →
    Level R (GuestM.callExport out again name arguments)
      (GuestM.callExport out' again' name arguments)
  window : ∀ again again' : Again σ ε ω,
    Level R (GuestM.window out again) (GuestM.window out' again')

namespace Paired

variable {out out' : Outside ε ω} {again again' : Again σ ε ω}

theorem guest_bind (paired : Paired R) {k k' : Instance σ ε → GuestM σ ε ω β}
    (next : ∀ g, Level R (k g) (k' g)) :
    Level R (GuestM.guest >>= k) (GuestM.guest >>= k') := by
  intro s s' related
  rw [ending_bind, ending_bind, GuestM.ending_guest, GuestM.ending_guest]
  simp only [paired.same related]
  exact next s.guest s s' related

theorem breach (paired : Paired R) (f : Fault) :
    Level R (GuestM.breach f : GuestM σ ε ω α) (GuestM.breach f) :=
  fun _ _ related => ⟨rfl, paired.poison related⟩

/-- An export is called in both surroundings. If it is blamed, the instance is poisoned in both. -/
theorem callExport (paired : Paired R) {name : String} {arguments : List Int}
    (run : ∀ {s s' : Scene σ ε ω} {act : List Int → Act σ ε}, R s s' →
      s.guest.exports name = some act →
        ((act arguments).run out' again' s').1 = ((act arguments).run out again s).1 ∧
          R ((act arguments).run out again s).2 ((act arguments).run out' again' s').2) :
    Level R (GuestM.callExport out again name arguments)
      (GuestM.callExport out' again' name arguments) := by
  intro s s' related
  rw [GuestM.ending_callExport, GuestM.ending_callExport, paired.same related]
  cases there : s.guest.exports name with
  | none => exact paired.breach _ s s' related
  | some act =>
    have both := run related there
    simp only
    revert both
    rcases (act arguments).run out again s with ⟨f | v, t⟩ <;>
      rcases (act arguments).run out' again' s' with ⟨f' | v', t'⟩ <;>
      rintro ⟨same, after⟩
    · obtain rfl := Except.error.inj same
      simp only
      split
      · exact paired.breach _ t t' after
      · exact ⟨rfl, after⟩
    · exact absurd same (by simp)
    · exact absurd same (by simp)
    · exact ⟨same, after⟩

theorem putPiece (paired : Paired R) (start : Int) (data : Bytes) :
    Level R (GuestM.putPiece start data) (GuestM.putPiece start data) := by
  intro s s' related
  rw [GuestM.ending_putPiece, GuestM.ending_putPiece, paired.same related]
  cases written : s.guest.memory.write start data with
  | error e => exact ⟨rfl, related⟩
  | ok m =>
    have after := paired.put (Memory.size_of_write written) related
    rw [paired.same related] at after
    exact ⟨rfl, after⟩

theorem getPiece (paired : Paired R) (start length : Int) :
    Level R (GuestM.getPiece start length) (GuestM.getPiece start length) := by
  intro s s' related
  rw [GuestM.ending_getPiece, GuestM.ending_getPiece, paired.same related]
  cases s.guest.memory.read start length with
  | error e => exact ⟨rfl, related⟩
  | ok data => exact ⟨rfl, related⟩

theorem holding (paired : Paired R) {c c' : GuestM σ ε ω α} (level : Level R c c') :
    Level R (GuestM.holding c) (GuestM.holding c') := by
  intro s s' related
  rw [ending_holding, ending_holding]
  obtain ⟨same, after⟩ := level _ _ (paired.hold true related)
  exact ⟨same, paired.hold false after⟩

end Paired

namespace InStep

variable {out out' : Outside ε ω}

/-- The host's notes about the window are kept like everything else. -/
theorem of_calls (paired : Paired R)
    (start : ∀ {s s'} (a : Int), R s s' → R { s with guest := { s.guest with windowStart := some a } }
      { s' with guest := { s'.guest with windowStart := some a } })
    (size : ∀ {s s'} (n : Int), R s s' → R { s with guest := { s.guest with windowSize := some n } }
      { s' with guest := { s'.guest with windowSize := some n } })
    (call : ∀ (again again' : Again σ ε ω) {name : String} (arguments : List Int), name ≠ "format" →
      Level R (GuestM.callExport out again name arguments)
        (GuestM.callExport out' again' name arguments)) : InStep R out out' where
  paired
  call
  window again again' := by
    unfold GuestM.window
    refine paired.guest_bind fun g => ?_
    cases g.windowStart with
    | some a => exact .pure _
    | none =>
      refine (call again again' [] (by decide)).bind fun a => ?_
      refine Level.bind (fun s s' related => ⟨rfl, start a related⟩) fun _ => ?_
      refine (call again again' [] (by decide)).bind fun n => ?_
      refine Level.bind (fun s s' related => ⟨rfl, size n related⟩) fun _ => ?_
      exact .ite (fun _ => paired.breach _) fun _ => .pure _

variable (level : InStep R out out')
include level

/-- Whole exchanges go the same way in both surroundings. -/
theorem hereditary (again again' : Again σ ε ω) :
    Hereditary out out' again again' fun _ c c' => Level R c c' where
  pure := .pure
  bind := .bind
  guest _ _ related := ⟨congrArg Except.ok (level.paired.same related), related⟩
  throw _ := .throw _
  breach _ _ := level.paired.breach _
  callExport := level.call again again'
  window := level.window again again'
  putPiece := level.paired.putPiece
  getPiece := level.paired.getPiece

/-- A format call goes the same way in both surroundings if the formatter does. -/
theorem formatText (formatter : ∀ again again', Level R (GuestM.callExport out again "format" [])
      (GuestM.callExport out' again' "format" []))
    (path text : String) {override override' : Datum}
    (blank : override'.isBlank = override.isBlank)
    (written : ConfigMap.serialize override' = ConfigMap.serialize override) :
    Level R (GuestM.formatText out path text override)
      (GuestM.formatText out' path text override') := by
  refine level.paired.guest_bind fun g => ?_
  have rest : Level R
      (GuestM.holding (GuestM.formatExchange out (GuestM.nestedFormat out) path text override))
      (GuestM.holding (GuestM.formatExchange out' (GuestM.nestedFormat out') path text override')) :=
    level.paired.holding (((level.hereditary _ _).handOver path text blank written).bind fun _ =>
      (level.hereditary _ _).fetchAnswer (formatter _ _))
  cases g.busy with
  | true => exact (Level.throw _).bind fun _ => rest
  | false => exact (Level.pure ()).bind fun _ => rest

theorem checkSchema : Level R (GuestM.checkSchema out) (GuestM.checkSchema out') := by
  refine level.paired.guest_bind fun g => ?_
  have reported : Level R (GuestM.attempt (GuestM.reportedSchema out))
      (GuestM.attempt (GuestM.reportedSchema out')) := by
    intro s s' related
    obtain ⟨same, after⟩ := level.call (GuestM.freeFormat out) (GuestM.freeFormat out') []
      (by decide : "get_plugin_schema_version" ≠ "format") s s' related
    exact ⟨congrArg Except.ok same, after⟩
  refine reported.bind fun r => ?_
  cases r with
  | error cause => exact .throw _
  | ok version => exact .ite (fun _ => .throw _) fun _ => .pure ()

theorem pluginInfo : Level R (GuestM.pluginInfo out) (GuestM.pluginInfo out') := by
  refine ((level.hereditary _ _).receiveText (by decide)).bind fun text => ?_
  cases PluginInfo.parse text with
  | ok info => exact .pure info
  | error complaints => exact level.paired.guest_bind fun g => level.paired.breach _

theorem setConfig (global plugin : Datum) :
    Level R (GuestM.setConfig out global plugin) (GuestM.setConfig out' global plugin) := by
  refine level.paired.holding ?_
  refine (level.call _ _ [] (by decide)).bind fun _ => ?_
  refine ((level.hereditary _ _).sendConfig (by decide) rfl).bind fun _ => ?_
  exact (level.hereditary _ _).sendConfig (by decide) rfl

theorem configDiagnostics :
    Level R (GuestM.configDiagnostics out) (GuestM.configDiagnostics out') := by
  refine ((level.hereditary _ _).receiveText (by decide)).bind fun text => ?_
  refine .ite (fun _ => .pure []) fun _ => ?_
  cases Diagnostic.parseAll text with
  | ok diagnostics => exact .pure diagnostics
  | error complaints => exact level.paired.guest_bind fun g => .throw _

end InStep

end FormatHost
