import FormatHost.Proofs.Guest.Hereditary
/-!
# Busy instances

Only the test at the door of a format call reports an instance as busy: nothing of the exchange behind
it does. A failing export is reported as such, whatever its reason, unless there was no room for a
configuration. So an instance that is not held is never reported as busy.
-/
namespace FormatHost

variable {σ ε ω α β : Type}

/-- A computation on an instance that never reports it as busy. -/
def Unhindered (c : GuestM σ ε ω α) : Prop :=
  ∀ (s : Scene σ ε ω) (plugin : String), (ending c s).1 ≠ .error (.busy plugin)

namespace Unhindered

theorem pure (a : α) : Unhindered (Pure.pure a : GuestM σ ε ω α) := fun _ _ => by simp

theorem throw {f : Fault} (other : ∀ plugin, f ≠ .busy plugin) :
    Unhindered (MonadExcept.throw f : GuestM σ ε ω α) := fun _ plugin failed =>
  other plugin (Except.error.inj failed)

theorem breach {f : Fault} (other : ∀ plugin, f ≠ .busy plugin) :
    Unhindered (GuestM.breach f : GuestM σ ε ω α) := fun _ plugin failed =>
  other plugin (Except.error.inj failed)

theorem bind {c : GuestM σ ε ω α} {k : α → GuestM σ ε ω β} (first : Unhindered c)
    (next : ∀ a, Unhindered (k a)) : Unhindered (c >>= k) := by
  intro s plugin
  have before := first s plugin
  rw [ending_bind]
  rcases ran : ending c s with ⟨f | a, t⟩
  · rw [ran] at before
    exact fun failed => before (congrArg Except.error (Except.error.inj failed))
  · exact next a t plugin

theorem guest : Unhindered (GuestM.guest : GuestM σ ε ω (Instance σ ε)) := fun _ _ => by simp

theorem update (f : Instance σ ε → Instance σ ε) : Unhindered (GuestM.update f : GuestM σ ε ω Unit) :=
  fun _ _ => by simp

end Unhindered

section

variable (out : Outside ε ω) (again : Again σ ε ω)

/-- A guest that finds its own instance held fails in its export. -/
theorem unhindered_callExport (name : String) (arguments : List Int) :
    Unhindered (GuestM.callExport out again name arguments) := by
  intro s plugin
  rw [GuestM.ending_callExport]
  rcases s.guest.exports name with none | behaviour
  · simp
  · simp only
    have expected (f : Fault) : ((behaviour arguments).run out again s).1 = .error f → f.Expected :=
      (behaviour arguments).expected_of_run
    revert expected
    rcases (behaviour arguments).run out again s with ⟨cause | value, t⟩ <;> intro expected
    · rcases expected cause rfl with declared | ⟨container, rfl⟩
      · simp only [if_pos declared]
        simp
      · simp [Fault.kind, FaultKind.isDeclared]
    · simp

theorem unhindered_window : Unhindered (GuestM.window out again) := by
  refine .bind .guest fun g => ?_
  cases g.windowStart with
  | some start => exact .pure _
  | none =>
    refine (unhindered_callExport out again _ _).bind fun start => .bind (.update _) fun _ => ?_
    refine (unhindered_callExport out again _ _).bind fun size => .bind (.update _) fun _ => ?_
    split
    · exact .bind (.breach fun _ => Fault.noConfusion) fun _ => .pure _
    · exact .pure _

theorem unhindered_putPiece (start : Int) (data : Bytes) :
    Unhindered (GuestM.putPiece start data : GuestM σ ε ω Unit) := by
  intro s plugin
  rw [GuestM.ending_putPiece]
  rcases s.guest.memory.write start data with e | m <;> simp

theorem unhindered_getPiece (start length : Int) :
    Unhindered (GuestM.getPiece start length : GuestM σ ε ω Bytes) := by
  intro s plugin
  rw [GuestM.ending_getPiece]
  rcases s.guest.memory.read start length with e | data <;> simp

/-- Exchanges never report the instance as busy, whatever the guest asks for. -/
theorem hereditary_unhindered :
    Hereditary out out again again fun _ c _ => Unhindered (c : GuestM σ ε ω _) where
  pure := .pure
  bind := .bind
  guest := .guest
  throw other := .throw fun _ busy => other (busy ▸ rfl)
  breach _ other := .breach other
  callExport arguments _ := unhindered_callExport out again _ arguments
  window := unhindered_window out again
  putPiece := unhindered_putPiece
  getPiece := unhindered_getPiece

theorem unhindered_formatExchange (path text : String) (override : Datum) :
    Unhindered (GuestM.formatExchange out again path text override) := by
  have steps := hereditary_unhindered out again
  exact (steps.handOver path text rfl rfl).bind fun _ =>
    steps.fetchAnswer (unhindered_callExport out again _ _)

/-- A format call on an instance that is not held never reports it as busy. -/
theorem formatText_ne_busy (path text : String) (override : Datum) {s : Scene σ ε ω}
    (free : s.guest.busy = false) (plugin : String) :
    (ending (GuestM.formatText out path text override) s).1 ≠ .error (.busy plugin) := by
  rw [GuestM.formatText, ending_formatWith_of_free out _ path text override free, ending_holding]
  exact unhindered_formatExchange out _ path text override _ plugin

end

end FormatHost
