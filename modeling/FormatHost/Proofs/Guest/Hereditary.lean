import FormatHost.Proofs.Config.Written
import FormatHost.Proofs.Guest.Breach
/-!
# What exchanges inherit from their steps

An exchange with an instance is made of a few kinds of steps: a call of an export, the question for the
window, a piece that is put into the memory or read from there, a breach or another fault. What holds of
the steps and is kept when they are put together holds of every exchange. The same goes for two exchanges
that take place side by side.
-/
namespace FormatHost

variable {σ ε ω : Type}

/-- A relation between computations in two surroundings that holds of the steps of exchanges, except for
the formatter, and is kept when steps are put together. -/
structure Hereditary (out out' : Outside ε ω) (again again' : Again σ ε ω)
    (P : ∀ ⦃α : Type⦄, GuestM σ ε ω α → GuestM σ ε ω α → Prop) : Prop where
  pure : ∀ {α : Type} (a : α), P (Pure.pure a) (Pure.pure a)
  bind : ∀ {α β : Type} {c c' : GuestM σ ε ω α} {k k' : α → GuestM σ ε ω β}, P c c' →
    (∀ a, P (k a) (k' a)) → P (c >>= k) (c' >>= k')
  guest : P GuestM.guest GuestM.guest
  throw : ∀ {α : Type} {f : Fault}, f.kind ≠ .guest →
    P (MonadExcept.throw f : GuestM σ ε ω α) (MonadExcept.throw f)
  breach : ∀ {α : Type} {f : Fault}, f.kind = .guest → (∀ plugin, f ≠ .busy plugin) →
    P (GuestM.breach f : GuestM σ ε ω α) (GuestM.breach f)
  callExport : ∀ {name : String} (arguments : List Int), name ≠ "format" →
    P (GuestM.callExport out again name arguments) (GuestM.callExport out' again' name arguments)
  window : P (GuestM.window out again) (GuestM.window out' again')
  putPiece : ∀ (start : Int) (data : Bytes), P (GuestM.putPiece start data) (GuestM.putPiece start data)
  getPiece : ∀ start length : Int, P (GuestM.getPiece start length) (GuestM.getPiece start length)

/-- A configuration without a written form is no fault of the guest. -/
theorem kind_of_serialize {config : Datum} {f : Fault}
    (failed : ConfigMap.serialize config = .error f) : f.kind ≠ .guest := by
  rcases ConfigMap.unwritten_serialize config f failed with kind | kind <;> rw [kind] <;> decide

namespace Hereditary

variable {out out' : Outside ε ω} {again again' : Again σ ε ω}
  {P : ∀ ⦃α : Type⦄, GuestM σ ε ω α → GuestM σ ε ω α → Prop}

theorem ite {α : Type} {p : Prop} [Decidable p] {c c' d d' : GuestM σ ε ω α} (yes : p → P c c')
    (no : ¬p → P d d') : P (if p then c else d) (if p then c' else d') := by
  split
  next holds => exact yes holds
  next fails => exact no fails

section

variable (h : Hereditary out out' again again' P)
include h

theorem sendPieces (start : Int) (parts : List Bytes) :
    P (GuestM.sendPieces out again start parts) (GuestM.sendPieces out' again' start parts) := by
  induction parts with
  | nil => exact h.pure ()
  | cons piece rest ih =>
    exact h.bind (h.putPiece start piece) fun _ => h.bind (h.callExport _ (by decide)) fun _ => ih

theorem sendBytes (data : Bytes) :
    P (GuestM.sendBytes out again data) (GuestM.sendBytes out' again' data) := by
  refine h.bind h.window ?_
  rintro ⟨start, size⟩
  refine h.bind (h.callExport _ (by decide)) fun _ => ?_
  rcases size with _ | ((_ | pred) | n)
  · exact h.throw (by decide)
  · exact h.throw (by decide)
  · exact h.sendPieces start _
  · exact h.pure ()

theorem fetchPiece (start offset length : Int) :
    P (GuestM.fetchPiece out again start offset length)
      (GuestM.fetchPiece out' again' start offset length) :=
  h.bind (h.callExport _ (by decide)) fun _ => h.getPiece start length

theorem receiveFrom (start : Int) (pred offset remaining : Nat) :
    P (GuestM.receiveFrom out again start pred offset remaining)
      (GuestM.receiveFrom out' again' start pred offset remaining) := by
  induction offset, remaining using GuestM.receiveFrom.induct pred with
  | case1 offset =>
    rw [GuestM.receiveFrom, GuestM.receiveFrom, if_pos rfl, if_pos rfl]
    exact h.pure []
  | case2 offset remaining more length ih =>
    rw [GuestM.receiveFrom, GuestM.receiveFrom.eq_def out', if_neg more, if_neg more]
    exact h.bind (h.fetchPiece start offset length) fun data => h.bind ih fun rest => h.pure _

theorem receiveBytes (length : Int) :
    P (GuestM.receiveBytes out again length) (GuestM.receiveBytes out' again' length) := by
  refine h.bind h.window ?_
  rintro ⟨start, size⟩
  refine ite (fun _ => h.pure []) fun _ => ?_
  rcases size with _ | ((_ | pred) | n)
  · exact h.throw (by decide)
  · exact h.bind (h.fetchPiece start 0 0) fun _ => h.throw (by decide)
  · exact h.receiveFrom start pred 0 length.toNat
  · exact h.fetchPiece start 0 (.negSucc n)

theorem receiveText {name : String} (other : name ≠ "format") :
    P (GuestM.receiveText out again name) (GuestM.receiveText out' again' name) := by
  refine h.bind (h.callExport [] other) fun length => h.bind (h.receiveBytes length) fun data => ?_
  cases Utf8.decode data with
  | ok text => exact h.pure text
  | error refusal => exact h.bind h.guest fun g => h.breach rfl fun _ => Fault.noConfusion

/-- Two configurations that are written alike are handed over alike. -/
theorem sendConfig {config config' : Datum} {taker : String} (other : taker ≠ "format")
    (written : ConfigMap.serialize config' = ConfigMap.serialize config) :
    P (GuestM.sendConfig out again config taker) (GuestM.sendConfig out' again' config' taker) := by
  unfold GuestM.sendConfig
  rw [written]
  cases same : ConfigMap.serialize config with
  | error f => exact h.throw (kind_of_serialize same)
  | ok data =>
    refine h.bind (h.pure data) fun data => ?_
    exact h.bind (h.sendBytes data) fun _ => h.bind (h.callExport [] other) fun _ => h.pure ()

/-- Overrides that are written alike are handed over alike, if both or none of them are blank. -/
theorem handOver (path text : String) {override override' : Datum}
    (blank : override'.isBlank = override.isBlank)
    (written : ConfigMap.serialize override' = ConfigMap.serialize override) :
    P (GuestM.handOver out again path text override)
      (GuestM.handOver out' again' path text override') := by
  unfold GuestM.handOver
  rw [blank]
  refine h.bind (h.sendBytes _) fun _ => h.bind (h.callExport [] (by decide)) fun _ => ?_
  refine ite (fun _ => ?_) fun _ => h.sendBytes _
  exact h.bind (h.sendConfig (by decide) written) fun _ => h.sendBytes _

theorem fetchAnswer (formatter : P (GuestM.callExport out again "format" [])
      (GuestM.callExport out' again' "format" [])) :
    P (GuestM.fetchAnswer out again) (GuestM.fetchAnswer out' again') := by
  refine h.bind formatter fun status => ?_
  split
  · exact h.pure none
  · exact h.bind (h.receiveText (by decide)) fun text => h.pure (some text)
  · exact h.bind (h.receiveText (by decide)) fun message => h.throw FaultKind.noConfusion
  · exact h.bind h.guest fun g => h.breach rfl fun _ => Fault.noConfusion

end

end Hereditary

end FormatHost
