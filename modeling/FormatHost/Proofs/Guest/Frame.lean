import FormatHost.Guest.Loading
import FormatHost.Proofs.Ends
/-!
# What guest code cannot touch

A guest may do with its own state and memory whatever it likes, and it may call host functions. What
no single step takes away is there after a whole run, and surroundings that differ in no single step
are all the same to guest code. So what its host notes about it stays as it is, and so does whatever
the world keeps.
-/
namespace FormatHost

variable {σ ε ω : Type}

/-! ### Step by step -/

/-- The scene after a host function was called, whatever came of it. -/
def Scene.called (s : Scene σ ε ω) (out : Outside ε ω) (call : HostCall) : Scene σ ε ω :=
  let r := (HostTable.call out.room out.ask call s.guest.table s.guest.memory).run (s.engine, s.world)
  ⟨{ s.guest with table := r.1.2.1, memory := r.1.2.2 }, r.2.1, r.2.2⟩

/-- The scene after a pause. -/
def Scene.paused (s : Scene σ ε ω) (out : Outside ε ω) : Scene σ ε ω :=
  let r := out.pause.run (s.engine, s.world)
  { s with engine := r.2.1, world := r.2.2 }

/-- A guest's memory is not made smaller. -/
theorem Act.size_le_growMemory (pages : Int) (m : Memory) : m.size ≤ (growMemory pages m).2.size := by
  unfold growMemory
  simp only
  split
  · simp [Memory.grow, Memory.size]
  · exact Nat.le_refl _

/-- A behaviour that calls none but the allowed host functions, whatever it meets. -/
def Act.Calls (allowed : HostCall → Prop) : Act σ ε → Prop
  | .done _ => True
  | .trap _ => True
  | .look next => ∀ s e, (next s e).Calls allowed
  | .keep _ _ next => next.Calls allowed
  | .peek _ _ next => ∀ data, (next data).Calls allowed
  | .poke _ _ next => next.Calls allowed
  | .grow _ next => ∀ before, (next before).Calls allowed
  | .host call next => allowed call ∧ ∀ value, (next value).Calls allowed
  | .pause next => next.Calls allowed
  | .reenter _ _ next => ∀ answer, (next answer).Calls allowed

theorem Act.Calls.mono {allowed allowed' : HostCall → Prop} {act : Act σ ε}
    (calls : act.Calls allowed) (more : ∀ c, allowed c → allowed' c) : act.Calls allowed' := by
  induction act with
  | done result => trivial
  | trap message => trivial
  | look next ih => exact fun s e => ih s e (calls s e)
  | keep state engine next ih => exact ih calls
  | peek pointer length next ih => exact fun data => ih data (calls data)
  | poke pointer data next ih => exact ih calls
  | grow pages next ih => exact fun before => ih before (calls before)
  | host call next ih => exact ⟨more _ calls.1, fun value => ih value (calls.2 value)⟩
  | pause next ih => exact ih calls
  | reenter path text next ih => exact fun answer => ih answer (calls answer)

theorem Act.calls_any (act : Act σ ε) : act.Calls fun _ => True := by
  induction act <;> simp_all [Calls]

/-- What no single step of guest code takes away, if the code calls allowed host functions only. -/
structure Stable (allowed : HostCall → Prop) (out : Outside ε ω) (again : Again σ ε ω)
    (P : Scene σ ε ω → Prop) : Prop where
  keep : ∀ {s} state engine, P s → P { s with guest := { s.guest with state }, engine }
  memory : ∀ {s} {memory : Memory}, s.guest.memory.size ≤ memory.size → P s →
    P { s with guest := { s.guest with memory } }
  host : ∀ {s} call, allowed call → P s → P (s.called out call)
  pause : ∀ {s}, P s → P (s.paused out)
  reenter : ∀ {s} path text, out.selfCalls = true → P s → P (ending (again path text) s).2

/-- What no single step takes away, a run does not take away. -/
theorem Act.run_stable_of_calls {allowed : HostCall → Prop} {out : Outside ε ω} {again : Again σ ε ω}
    {P : Scene σ ε ω → Prop} (stable : Stable allowed out again P) (act : Act σ ε)
    (calls : act.Calls allowed) {s : Scene σ ε ω} (holds : P s) : P (act.run out again s).2 := by
  induction act generalizing s with
  | done result => exact holds
  | trap message => exact holds
  | look next ih => exact ih _ _ (calls _ _) holds
  | keep state engine next ih => exact ih calls (stable.keep state engine holds)
  | peek pointer length next ih =>
    rw [run]
    split
    · exact holds
    · exact ih _ (calls _) holds
  | poke pointer data next ih =>
    rw [run]
    split
    · exact holds
    · next m written =>
      -- Writing happens in place, so to the step it is a memory that is not smaller.
      exact ih calls (stable.memory (Nat.le_of_eq (Memory.size_of_write written).symm) holds)
  | grow pages next ih => exact ih _ (calls _) (stable.memory (size_le_growMemory pages _) holds)
  | host call next ih =>
    -- A failure of the host function ends the code, but what the call did stays done.
    have after := stable.host call calls.1 holds
    rw [run]
    unfold Scene.called at after
    revert after
    rcases (HostTable.call out.room out.ask call s.guest.table s.guest.memory).run (s.engine, s.world) with
      ⟨⟨fault | value, table, memory⟩, engine, world⟩ <;> intro after
    · exact after
    · exact ih value (calls.2 value) after
  | pause next ih => exact ih calls (stable.pause holds)
  | reenter path text next ih =>
    rw [run]
    split
    · next reach => exact ih _ (calls _) (stable.reenter path text reach holds)
    · exact holds

theorem Act.run_stable {out : Outside ε ω} {again : Again σ ε ω} {P : Scene σ ε ω → Prop}
    (stable : Stable (fun _ => True) out again P) (act : Act σ ε) {s : Scene σ ε ω} (holds : P s) :
    P (act.run out again s).2 :=
  act.run_stable_of_calls stable act.calls_any holds

/-- Surroundings that make no difference to any single step of guest code, where a property holds. -/
structure Indistinct (P : Scene σ ε ω → Prop) (out out' : Outside ε ω) (again again' : Again σ ε ω) :
    Prop where
  host : ∀ {s : Scene σ ε ω} (call : HostCall), P s →
    HostTable.call out'.room out'.ask call s.guest.table s.guest.memory =
      HostTable.call out.room out.ask call s.guest.table s.guest.memory
  pause : out'.pause = out.pause
  reach : out'.selfCalls = out.selfCalls
  reenter : ∀ {s} path text, out.selfCalls = true → P s →
    ending (again' path text) s = ending (again path text) s

/-- Surroundings that make no difference to any single step make none to a run. -/
theorem Act.run_indistinct {out out' : Outside ε ω} {again again' : Again σ ε ω} {P : Scene σ ε ω → Prop}
    (indistinct : Indistinct P out out' again again') (stable : Stable (fun _ => True) out again P)
    (act : Act σ ε) {s : Scene σ ε ω} (holds : P s) : act.run out' again' s = act.run out again s := by
  induction act generalizing s with
  | done result => rfl
  | trap message => rfl
  | look next ih => exact ih _ _ holds
  | keep state engine next ih => exact ih (stable.keep state engine holds)
  | peek pointer length next ih =>
    rw [run, run]
    split
    · rfl
    · exact ih _ holds
  | poke pointer data next ih =>
    rw [run, run]
    split
    · rfl
    · next m written =>
      exact ih (stable.memory (Nat.le_of_eq (Memory.size_of_write written).symm) holds)
  | grow pages next ih => exact ih _ (stable.memory (size_le_growMemory pages _) holds)
  | host call next ih =>
    have after := stable.host call trivial holds
    rw [run, run, indistinct.host call holds]
    unfold Scene.called at after
    revert after
    rcases (HostTable.call out.room out.ask call s.guest.table s.guest.memory).run (s.engine, s.world) with
      ⟨⟨fault | value, table, memory⟩, engine, world⟩ <;> intro after
    · rfl
    · exact ih value after
  | pause next ih =>
    rw [run, run, indistinct.pause]
    exact ih (stable.pause holds)
  | reenter path text next ih =>
    rw [run, run, indistinct.reach]
    split
    · next reach =>
      have same : (again' path text).run.run s = (again path text).run.run s :=
        indistinct.reenter path text reach holds
      rw [same]
      exact ih _ (stable.reenter path text reach holds)
    · rfl

/-! ### What the host notes -/

/-- A property of the world that requests and pauses keep. -/
structure Outside.Keeps (out : Outside ε ω) (W : ω → Prop) : Prop where
  ask : ∀ request x w, W w → W ((out.ask request).run (x, w)).2.2
  pause : ∀ x w, W w → W (out.pause.run (x, w)).2.2

/-- Nothing is known of the world. -/
theorem Outside.keeps_true (out : Outside ε ω) : out.Keeps fun _ => True :=
  ⟨fun _ _ _ _ => trivial, fun _ _ _ => trivial⟩

/-- No format call gets through to an instance while its code runs: it is out of reach, or it is held
and such calls are refused. -/
def Undisturbed (out : Outside ε ω) (again : Again σ ε ω) (held : Bool) : Prop :=
  out.selfCalls = false ∨
    held = true ∧ ∀ path text s, s.guest.busy = true → (ending (again path text) s).2 = s

/-- Two states of an instance that look the same to its host. -/
structure Instance.SameHost (g g' : Instance σ ε) : Prop where
  plugin : g'.plugin = g.plugin
  exports : g'.exports = g.exports
  windowStart : g'.windowStart = g.windowStart
  windowSize : g'.windowSize = g.windowSize
  poisoned : g'.poisoned = g.poisoned
  busy : g'.busy = g.busy

theorem Instance.SameHost.refl (g : Instance σ ε) : SameHost g g := ⟨rfl, rfl, rfl, rfl, rfl, rfl⟩

/-- State, memory and host functions are no matter of the host's notes. -/
theorem Instance.SameHost.parts {g g' : Instance σ ε} (same : SameHost g g') (state : σ)
    (memory : Memory) (table : HostTable) : SameHost g { g' with state, memory, table } :=
  ⟨same.plugin, same.exports, same.windowStart, same.windowSize, same.poisoned, same.busy⟩

/-- Answering a host function keeps what the world keeps. -/
theorem HostTable.call_keeps {out : Outside ε ω} {W : ω → Prop} (keeps : out.Keeps W)
    (c : HostCall) (t : HostTable) (memory : Memory) (x : ε) (w : ω) (holds : W w) :
    W ((HostTable.call out.room out.ask c t memory).run (x, w)).2.2 := by
  cases t with
  | none => exact holds
  | some b =>
    simp only [HostTable.call]
    rcases b.call out.room c memory with ⟨result | request, b', memory'⟩
    · exact holds
    · exact keeps.ask request x w holds

/-- A format call that gets through to nothing changes nothing. -/
theorem Undisturbed.unmoved {out : Outside ε ω} {again : Again σ ε ω} {held : Bool}
    (undisturbed : Undisturbed out again held) {s : Scene σ ε ω} (path text : String)
    (reach : out.selfCalls = true) (busy : s.guest.busy = held) :
    (ending (again path text) s).2 = s := by
  obtain far | ⟨rfl, refused⟩ := undisturbed
  · exact absurd reach (by simp [far])
  · exact refused path text s busy

theorem stable_sameHost {out : Outside ε ω} {again : Again σ ε ω} {W : ω → Prop} {held : Bool}
    (keeps : out.Keeps W) (undisturbed : Undisturbed out again held) {g : Instance σ ε}
    (busy : g.busy = held) :
    Stable (fun _ => True) out again fun s => W s.world ∧ g.SameHost s.guest where
  keep state _ after := ⟨after.1, after.2.parts state _ _⟩
  memory _ after := ⟨after.1, after.2.parts _ _ _⟩
  host call _ after := ⟨HostTable.call_keeps keeps call _ _ _ _ after.1, after.2.parts _ _ _⟩
  pause after := ⟨keeps.pause _ _ after.1, after.2⟩
  reenter path text reach after := by
    rw [undisturbed.unmoved path text reach (after.2.busy.trans busy)]
    exact after

/-- Guest code keeps what its host notes about the instance, and what the world keeps. -/
theorem Act.run_keeps {out : Outside ε ω} {again : Again σ ε ω} {W : ω → Prop} {held : Bool}
    (keeps : out.Keeps W) (undisturbed : Undisturbed out again held) (act : Act σ ε)
    (s : Scene σ ε ω) (holds : W s.world) (busy : s.guest.busy = held) :
    W (act.run out again s).2.world ∧ s.guest.SameHost (act.run out again s).2.guest :=
  act.run_stable (stable_sameHost keeps undisturbed busy) ⟨holds, .refl _⟩

end FormatHost
