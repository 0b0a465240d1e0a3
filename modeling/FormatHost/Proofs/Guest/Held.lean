import FormatHost.Proofs.Guest.Busy
import FormatHost.Proofs.Guest.Operations
/-!
# Held instances

While a configuration or format call goes on, its instance is held. A format call that the guest asks for
meanwhile is refused, as often as it asks, and the refusal leaves no trace: the call goes on as if guests
had no way to format with their own instance. However the call ends, the instance is let go.
-/
namespace FormatHost

variable {σ ε ω α : Type}

/-- Format calls on a held instance are refused and change nothing. -/
def Refusing (again : Again σ ε ω) : Prop :=
  ∀ (path text : String) (s : Scene σ ε ω), s.guest.busy = true →
    ending (again path text) s = (.error (.busy s.guest.plugin), s)

theorem refusing_nestedFormat (out : Outside ε ω) :
    Refusing (GuestM.nestedFormat out : Again σ ε ω) := fun path text _ held =>
  ending_formatWith_of_held out GuestM.refused path text .null held

/-- One scene, in which the instance is held. -/
def Held (s s' : Scene σ ε ω) : Prop := s' = s ∧ s.guest.busy = true

section

variable (out : Outside ε ω) {again : Again σ ε ω} (refusing : Refusing again)
include refusing

omit refusing in
theorem stable_busy : Stable (fun _ => True) out GuestM.refused
    fun s : Scene σ ε ω => s.guest.busy = true where
  keep _ _ held := held
  memory _ held := held
  host _ _ held := held
  pause := id
  -- The refusal leaves the scene as it was, so the instance is still held when the code goes on.
  reenter _ _ _ held := held

theorem indistinct_of_refusing :
    Indistinct (fun s : Scene σ ε ω => s.guest.busy = true) out out GuestM.refused again where
  host _ _ := rfl
  pause := rfl
  reach := rfl
  reenter path text _ held := refusing path text _ held

/-- Guest code on a held instance runs as if the guest could not format with its own instance, and the
instance stays held. -/
theorem Act.run_refused (act : Act σ ε) {s : Scene σ ε ω} (held : s.guest.busy = true) :
    act.run out again s = act.run out GuestM.refused s ∧
      (act.run out GuestM.refused s).2.guest.busy = true :=
  ⟨act.run_indistinct (indistinct_of_refusing out refusing) (stable_busy out) held,
    act.run_stable (stable_busy out) held⟩

theorem held_callExport (name : String) (arguments : List Int) :
    Level Held (GuestM.callExport out again name arguments)
      (GuestM.callExport out GuestM.refused name arguments) := by
  rintro s s' ⟨rfl, held⟩
  rw [GuestM.ending_callExport, GuestM.ending_callExport]
  cases s'.guest.exports name with
  | none => exact ⟨rfl, rfl, held⟩
  | some behaviour =>
    obtain ⟨same, still⟩ := (behaviour arguments).run_refused out refusing held
    simp only
    rw [same]
    revert still
    rcases (behaviour arguments).run out GuestM.refused s' with ⟨cause | value, t⟩ <;> intro still
    · dsimp only
      split
      · exact ⟨rfl, rfl, still⟩
      · exact ⟨rfl, rfl, still⟩
    · exact ⟨rfl, rfl, still⟩

omit refusing in
/-- What the host notes about a held instance does not let it go. -/
theorem held_update {f : Instance σ ε → Instance σ ε} (keeps : ∀ g, (f g).busy = g.busy) :
    Level Held (GuestM.update f : GuestM σ ε ω Unit) (GuestM.update f) := by
  rintro s s' ⟨rfl, held⟩
  exact ⟨rfl, rfl, (keeps _).trans held⟩

omit refusing in
theorem held_guest : Level Held (GuestM.guest : GuestM σ ε ω (Instance σ ε)) GuestM.guest := by
  rintro s s' ⟨rfl, held⟩
  exact ⟨rfl, rfl, held⟩

omit refusing in
theorem held_breach (f : Fault) : Level Held (GuestM.breach f : GuestM σ ε ω α) (GuestM.breach f) :=
  (held_update fun _ => by rfl).bind fun _ => .throw f

theorem held_window :
    Level Held (GuestM.window out again) (GuestM.window out GuestM.refused) := by
  refine held_guest.bind fun g => ?_
  cases g.windowStart with
  | some start => exact .pure _
  | none =>
    refine (held_callExport out refusing _ _).bind fun start =>
      (held_update fun _ => by rfl).bind fun _ => ?_
    refine (held_callExport out refusing _ _).bind fun size =>
      (held_update fun _ => by rfl).bind fun _ => ?_
    exact .ite (fun _ => (held_breach _).bind fun _ => .pure _) fun _ => .pure _

theorem hereditary_held : Hereditary out out again GuestM.refused fun _ c c' => Level Held c c' where
  pure := .pure
  bind := .bind
  guest := held_guest
  throw _ := .throw _
  breach _ _ := held_breach _
  callExport arguments _ := held_callExport out refusing _ arguments
  window := held_window out refusing
  putPiece start data := by
    rintro s s' ⟨rfl, held⟩
    rw [GuestM.ending_putPiece]
    cases s'.guest.memory.write start data with
    | error e => exact ⟨rfl, rfl, held⟩
    | ok m => exact ⟨rfl, rfl, held⟩
  getPiece start length := by
    rintro s s' ⟨rfl, held⟩
    rw [GuestM.ending_getPiece]
    cases s'.guest.memory.read start length with
    | error e => exact ⟨rfl, rfl, held⟩
    | ok data => exact ⟨rfl, rfl, held⟩

end

/-! ### Calls that hold the instance -/

/-- A call that holds the instance. -/
inductive HeldCall where
  | setConfig (global plugin : Datum)
  | formatText (path text : String) (override : Datum)

namespace HeldCall

def operation : HeldCall → Operation
  | setConfig global plugin => .setConfig global plugin
  | formatText path text override => .formatText path text override

/-- What the call does with the guest while the instance is held, with an answer for format calls that the
guest asks for. -/
def exchange (out : Outside ε ω) (again : Again σ ε ω) : HeldCall → GuestM σ ε ω Unit
  | setConfig global plugin => do
    let _ ← GuestM.callExport out again "reset_config" []
    GuestM.sendConfig out again global "set_global_config"
    GuestM.sendConfig out again plugin "set_plugin_config"
  | formatText path text override => do
    let _ ← GuestM.formatExchange out again path text override

variable (call : HeldCall) (out : Outside ε ω)

theorem ending_perform {s : Scene σ ε ω} (free : s.guest.busy = false) :
    ending (call.operation.perform out) s =
      ending (GuestM.holding (call.exchange out (GuestM.nestedFormat out))) s := by
  cases call with
  | setConfig global plugin => rfl
  | formatText path text override =>
    rw [operation, Operation.perform, ending_drop, GuestM.formatText,
      ending_formatWith_of_free out _ path text override free, ending_holding, ending_holding, exchange,
      ending_drop]

/-- Both kinds of calls are made of steps and the formatter. -/
theorem held_exchange {again : Again σ ε ω} (refusing : Refusing again) :
    Level Held (call.exchange out again) (call.exchange out GuestM.refused) := by
  have steps := hereditary_held out refusing
  cases call with
  | setConfig global plugin =>
    exact (steps.callExport [] (by decide)).bind fun _ =>
      (steps.sendConfig (by decide) rfl).bind fun _ => steps.sendConfig (by decide) rfl
  | formatText path text override =>
    have handed := steps.handOver path text (rfl : override.isBlank = _) rfl
    have fetched := steps.fetchAnswer (held_callExport out refusing "format" [])
    exact (handed.bind fun _ => fetched).bind fun _ => .pure ()

theorem unhindered_exchange (again : Again σ ε ω) : Unhindered (call.exchange out again) := by
  have steps := hereditary_unhindered out again
  cases call with
  | setConfig global plugin =>
    exact (steps.callExport [] (by decide)).bind fun _ =>
      (steps.sendConfig (by decide) rfl).bind fun _ => steps.sendConfig (by decide) rfl
  | formatText path text override =>
    exact (unhindered_formatExchange out again path text override).bind fun _ => .pure ()

end HeldCall

namespace Occasion

/-- Whatever was done with an instance before, and however it failed, it is not held. A call that holds it
goes as if every format call of its guest were refused out of hand, is not refused itself, and lets go of
the instance; and on an instance that is held a format call is refused and changes nothing. -/
theorem held_while_called {g₀ : Instance σ ε} (idle : g₀.busy = false)
    (earlier : List (Occasion ε ω)) (call : HeldCall) (out : Outside ε ω) (e : ε) (w : ω) :
    let s : Scene σ ε ω := ⟨afterAll g₀ earlier, e, w⟩
    s.guest.busy = false ∧
      ending (call.operation.perform out) s =
        ending (GuestM.holding (call.exchange out GuestM.refused)) s ∧
      (∀ plugin, (ending (call.operation.perform out) s).1 ≠ .error (.busy plugin)) ∧
      (ending (call.operation.perform out) s).2.guest.busy = false ∧
      ∀ (t : Scene σ ε ω) (path text : String) (override : Datum), t.guest.busy = true →
        ending (GuestM.formatText out path text override) t = (.error (.busy t.guest.plugin), t) := by
  intro s
  have free : s.guest.busy = false := (advance_afterAll earlier g₀).free idle
  have performed := call.ending_perform out free
  have level := call.held_exchange out (refusing_nestedFormat out)
    { s with guest := { s.guest with busy := true } } _ ⟨rfl, rfl⟩
  refine ⟨free, ?_, ?_, ?_, fun t path text override held =>
    ending_formatWith_of_held out _ path text override held⟩
  · rw [performed, ending_holding, ending_holding, level.1, level.2.1]
  · rw [performed, ending_holding]
    exact call.unhindered_exchange out _ _
  · rw [performed, ending_holding]

end Occasion

open Script Occasion

/-- An instance whose formatter asks for a format call on the same instance. -/
def Script.reentrant : Instance ScriptState ScriptCounts :=
  (({ echoing 100 0 90 with format := [.reenter] } : Script).toModule []).begin "p" none

/-- The refusal makes the formatter of this guest trap. The next call is not refused, and it fails in the
same way. -/
theorem held_while_reentered :
    let call := HeldCall.formatText "f" "x" .null
    let o := calmly call.operation
    let g := afterAll reentrant [o]
    let s : Scene ScriptState ScriptCounts Unit := ⟨g, .zero, ()⟩
    let t : Scene ScriptState ScriptCounts Unit := { s with guest := { g with busy := true } }
    reentrant.busy = false ∧ failure? (o.ended reentrant).1 = some .guest ∧ g.busy = false ∧
      failure? (ending (call.operation.perform o.out) s).1 = some .guest ∧
      (∀ plugin, (ending (call.operation.perform o.out) s).1 ≠ .error (.busy plugin)) ∧
      ending (call.operation.perform o.out) s =
        ending (GuestM.holding (call.exchange o.out GuestM.refused)) s ∧
      (ending (call.operation.perform o.out) s).2.guest.busy = false ∧
      ending (GuestM.formatText o.out "f" "x" .null) t = (.error (.busy t.guest.plugin), t) := by
  intro call o g s t
  have first : failure? (o.ended reentrant).1 = some .guest := by decide +kernel
  have second : failure? (ending (call.operation.perform o.out) s).1 = some .guest := by
    decide +kernel
  obtain ⟨free, same, other, released, refused⟩ :=
    held_while_called (rfl : reentrant.busy = false) [o] call o.out .zero ()
  exact ⟨rfl, first, free, second, other, same, released,
    refused t "f" "x" .null rfl⟩

end FormatHost
