import FormatHost.Proofs.Config.Lenient
import FormatHost.Proofs.Guest.Level
import FormatHost.Proofs.Guest.Loading
/-!
# Guests that go by themselves

A guest that asks its host for nothing and does not look at what guests share behaves in all
surroundings alike, and leaves them as they are. So it does not matter from where it is called, nor how
much room there is: it never hands over a configuration that is too deep.
-/
namespace FormatHost

variable {σ ε ω α : Type}

/-- A behaviour that depends on its instance alone, and leaves the world alone. -/
def Act.Solitary (act : Act σ ε) : Prop :=
  ∀ (ω : Type) (out out' : Outside ε ω) (again again' : Again σ ε ω) (s s' : Scene σ ε ω),
    s'.guest = s.guest →
      (act.run out' again' s').1 = (act.run out again s).1 ∧
        (act.run out' again' s').2.guest = (act.run out again s).2.guest ∧
        (act.run out again s).2.world = s.world

/-- All exports depend on their instance alone. -/
def SolitaryExports (X : Exports σ ε) : Prop :=
  ∀ name act arguments, X name = some act → (act arguments).Solitary

/-- A module whose instances depend on nothing but themselves. -/
structure Module.Solitary (m : Module σ ε) : Prop where
  exports : SolitaryExports m.exports
  start : ∀ act, m.start = some act → act.Solitary

/-! ### Room -/

/-- With room for the staged configuration, a host function does the same however much room there is. -/
theorem Boundary.call_of_nesting {room : Nat} {b : Boundary}
    (within : ConfigMap.nesting b.buffer.data ≤ room) (call : HostCall) (memory : Memory) :
    b.call room call memory = b.call (ConfigMap.nesting b.buffer.data) call memory := by
  have read (room : Nat) (within : ConfigMap.nesting b.buffer.data ≤ room) :
      ConfigMap.parse room b.buffer.data = .ok (ConfigMap.spelled b.buffer.data) :=
    ConfigMap.parse_of_nesting (Nat.le_succ_of_le within)
  unfold Boundary.call
  cases call with
  | takeOverrideConfig =>
    simp only [takeOverride, read room within, read _ (Nat.le_refl _)]
  | _ => rfl

/-- Guest code that ends alike however much room there is does not end for want of it. -/
theorem Act.not_outOfRoom_of_rooms {out : Outside ε ω} {again : Again σ ε ω} {f : Fault} {act : Act σ ε}
    {s : Scene σ ε ω} {least : Nat}
    (ends : ∀ room, least ≤ room → (act.run { out with room } again s).1 = .error f) :
    ¬f.OutOfRoom := by
  -- There is room beyond any bound, so there is room for whatever the guest has staged.
  induction act generalizing s least with
  | done result => exact absurd (ends least (Nat.le_refl _)) (by simp [run])
  | trap message =>
    obtain rfl := Except.error.inj (ends least (Nat.le_refl _))
    rintro ⟨container, ⟨⟩⟩
  | look next ih => exact ih _ _ ends
  | keep state engine next ih => exact ih ends
  | peek pointer length next ih =>
    simp only [run] at ends
    cases read : s.guest.memory.read pointer length with
    | error e =>
      simp only [read] at ends
      obtain rfl := Except.error.inj (ends least (Nat.le_refl _))
      rintro ⟨container, ⟨⟩⟩
    | ok data =>
      simp only [read] at ends
      exact ih data ends
  | poke pointer data next ih =>
    simp only [run] at ends
    cases written : s.guest.memory.write pointer data with
    | error e =>
      simp only [written] at ends
      obtain rfl := Except.error.inj (ends least (Nat.le_refl _))
      rintro ⟨container, ⟨⟩⟩
    | ok m =>
      simp only [written] at ends
      exact ih ends
  | grow pages next ih => exact ih _ ends
  | host call next ih =>
    let enough : Nat := s.guest.table.elim 0 fun b => ConfigMap.nesting b.buffer.data
    have same (room : Nat) (within : enough ≤ room) :
        HostTable.call room out.ask call s.guest.table s.guest.memory =
          HostTable.call enough out.ask call s.guest.table s.guest.memory := by
      revert within
      simp only [enough]
      cases s.guest.table with
      | none => exact fun _ => rfl
      | some b =>
        intro within
        simp only [HostTable.call, Option.elim_some, Boundary.call_of_nesting within]
    have ends (room : Nat) (least' : max least enough ≤ room) :=
      ends room (Nat.le_trans (Nat.le_max_left _ _) least')
    have broken :
        ((HostTable.call enough out.ask call s.guest.table s.guest.memory).run
          (s.engine, s.world)).1.1 = .error f →
            ∃ b, s.guest.table = some b ∧
              (b.call enough call s.guest.memory).1 = .finished (.error f) :=
      HostTable.exists_boundary_of_call
    simp only [run] at ends
    revert ends broken
    rcases called : (HostTable.call enough out.ask call s.guest.table s.guest.memory).run
      (s.engine, s.world) with ⟨⟨fault | value, table, memory⟩, engine, world⟩ <;> intro broken ends
    · have ended := ends _ (Nat.le_refl _)
      rw [same _ (Nat.le_max_right _ _), called] at ended
      obtain ⟨b, there, refused⟩ := broken (congrArg Except.error (Except.error.inj ended))
      have read : ConfigMap.parse enough b.buffer.data = .ok (ConfigMap.spelled b.buffer.data) :=
        ConfigMap.parse_of_nesting (by simp [enough, there])
      rcases Boundary.fault_of_call refused with declared | ⟨-, deep⟩
      · intro short
        rw [short.kind] at declared
        exact absurd declared (by decide)
      · exact absurd (read.symm.trans deep) (by simp)
    · let t : Scene σ ε ω :=
        { guest := { s.guest with table := table, memory := memory }, engine := engine, world := world }
      have goesOn (room : Nat) (within : max least enough ≤ room) :
          ((next value).run { out with room } again t).1 = .error f := by
        have ended := ends room within
        rwa [same room (Nat.le_trans (Nat.le_max_right _ _) within), called] at ended
      exact ih value goesOn
  | pause next ih => exact ih ends
  | reenter path text next ih =>
    simp only [run] at ends
    by_cases reach : out.selfCalls = true
    · simp only [if_pos reach] at ends
      exact ih _ ends
    · simp only [if_neg reach] at ends
      obtain rfl := Except.error.inj (ends least (Nat.le_refl _))
      rintro ⟨container, ⟨⟩⟩

/-- A solitary behaviour ends alike however much room there is. -/
theorem Act.Solitary.not_outOfRoom {act : Act σ ε} (solitary : act.Solitary) {out : Outside ε ω}
    {again : Again σ ε ω} {s : Scene σ ε ω} {f : Fault} (failed : (act.run out again s).1 = .error f) :
    ¬f.OutOfRoom :=
  Act.not_outOfRoom_of_rooms fun room (_ : 0 ≤ room) =>
    (solitary ω out { out with room } again again s s rfl).1.trans failed

theorem SolitaryExports.not_runsOut {X : Exports σ ε} (solitary : SolitaryExports X) {f : Fault} :
    ¬X.RunsOut f := by
  rintro ⟨short, name, act, arguments, ω, out, again, s, there, failed⟩
  exact (solitary name act arguments there).not_outOfRoom failed short

/-! ### Side by side -/

/-- The same instance in two surroundings. -/
structure Beside (X : Exports σ ε) (w w' : ω) (s s' : Scene σ ε ω) : Prop where
  same : s'.guest = s.guest
  exports : s.guest.exports = X
  left : s.world = w
  right : s'.world = w'

section

variable {X : Exports σ ε} {w w' : ω} {out out' : Outside ε ω}

/-- What a solitary behaviour makes of an instance does not depend on the surroundings. -/
theorem Act.Solitary.beside {act : Act σ ε} (solitary : act.Solitary) (out out' : Outside ε ω)
    (again again' : Again σ ε ω) {s s' : Scene σ ε ω} (beside : Beside X w w' s s') :
    (act.run out' again' s').1 = (act.run out again s).1 ∧
      Beside X w w' (act.run out again s).2 (act.run out' again' s').2 := by
  obtain ⟨same, guest, world⟩ := solitary ω out out' again again' s s' beside.same
  obtain ⟨-, -, world'⟩ := solitary ω out' out again' again s' s beside.same.symm
  -- The exports are seen to stay where no call gets through to the instance.
  let far : Outside ε ω := { out with selfCalls := false }
  obtain ⟨-, aside, -⟩ := solitary ω far out again again s s rfl
  obtain ⟨-, kept⟩ := Act.run_keeps (W := fun _ => True) far.keeps_true
    (.inl rfl : Undisturbed far again s.guest.busy) act s trivial rfl
  exact ⟨same, guest, by rw [aside, kept.exports, beside.exports], world.trans beside.left,
    world'.trans beside.right⟩

theorem paired_beside : Paired (Beside X w w') where
  same beside := beside.same
  poison := by rintro s s' ⟨same, exports, left, right⟩; exact ⟨by rw [same], exports, left, right⟩
  hold := by rintro s s' b ⟨same, exports, left, right⟩; exact ⟨by rw [same], exports, left, right⟩
  put := by rintro s s' m - ⟨same, exports, left, right⟩; exact ⟨by rw [same], exports, left, right⟩

theorem level_callExport_beside (solitary : SolitaryExports X) (again again' : Again σ ε ω)
    (name : String) (arguments : List Int) :
    Level (Beside X w w') (GuestM.callExport out again name arguments)
      (GuestM.callExport out' again' name arguments) := by
  refine paired_beside.callExport fun {s s' act} beside there => ?_
  exact (solitary name act arguments (beside.exports ▸ there)).beside out out' again again' beside

theorem inStep_beside (solitary : SolitaryExports X) : InStep (Beside X w w') out out' := by
  refine .of_calls paired_beside ?_ ?_ fun again again' name arguments _ =>
    level_callExport_beside solitary again again' name arguments
  · rintro s s' a ⟨same, exports, left, right⟩
    exact ⟨by rw [same], exports, left, right⟩
  · rintro s s' a ⟨same, exports, left, right⟩
    exact ⟨by rw [same], exports, left, right⟩

theorem level_formatText_beside (solitary : SolitaryExports X) (path text : String)
    {override override' : Datum} (blank : override'.isBlank = override.isBlank)
    (written : ConfigMap.serialize override' = ConfigMap.serialize override) :
    Level (Beside X w w') (GuestM.formatText out path text override)
      (GuestM.formatText out' path text override') :=
  (inStep_beside solitary).formatText
    (fun again again' => level_callExport_beside solitary again again' "format" []) path text blank
    written

theorem level_instantiate_beside (out out' : Outside ε ω) {m : Module σ ε}
    (solitary : m.Solitary) :
    Level (Beside X w w') (m.instantiate out) (m.instantiate out') := by
  have bound : Level (Beside X w w') m.bindTable m.bindTable := by
    unfold Module.bindTable
    cases m.memoryExport with
    | absent => exact .throw _
    | otherKind => exact .throw _
    | memory =>
      rintro s s' ⟨same, exports, left, right⟩
      exact ⟨rfl, by simp [same], exports, left, right⟩
  unfold Module.instantiate
  cases m.unlinkable with
  | some detail => exact .throw _
  | none =>
    cases started : m.start with
    | none => exact bound
    | some behaviour =>
      intro s s' beside
      obtain ⟨same, after⟩ := (solitary.start behaviour started).beside out out' GuestM.refused
        GuestM.refused beside
      simp only [ending_bind, ending_get]
      revert same after
      rcases behaviour.run out GuestM.refused s with ⟨fault | v, t⟩ <;>
        rcases behaviour.run out' GuestM.refused s' with ⟨fault' | v', t'⟩ <;> intro same after
      · obtain rfl := Except.error.inj same
        exact ⟨rfl, after⟩
      · exact absurd same (by simp)
      · exact absurd same (by simp)
      · exact bound t t' after

/-- A solitary module that an engine reads alike becomes the same instance. -/
theorem load_beside {engine : Engine σ ε} {moduleBytes : Bytes} {e e' : ε}
    (alike : (engine moduleBytes e').1 = (engine moduleBytes e).1)
    (solitary : ∀ m, (engine moduleBytes e).1 = .ok m → m.Solitary) (out out' : Outside ε ω)
    (w w' : ω) (name : String) (table : HostTable) :
    let (r, x) := (Instance.load engine out name table moduleBytes).run (e, w)
    let (r', x') := (Instance.load engine out' name table moduleBytes).run (e', w')
    r'.1 = r.1 ∧ x.2 = w ∧ x'.2 = w' ∧ ∀ g, r.1 = .ok g → SolitaryExports g.exports := by
  rw [run_load, run_load]
  revert alike solitary
  rcases engine moduleBytes e with ⟨fault | m, f⟩ <;>
    rcases engine moduleBytes e' with ⟨fault' | m', f'⟩ <;> intro alike solitary
  · obtain rfl := Except.error.inj alike
    exact ⟨rfl, rfl, rfl, by simp⟩
  · exact absurd alike (by simp)
  · exact absurd alike (by simp)
  · obtain rfl := Except.ok.inj alike
    have solitary := solitary m' rfl
    have fresh : Beside m'.exports w w' ⟨m'.begin name table, f, w⟩ ⟨m'.begin name table, f', w'⟩ :=
      ⟨rfl, rfl, rfl, rfl⟩
    obtain ⟨same, after⟩ := level_instantiate_beside out out' solitary _ _ fresh
    simp only
    revert same after
    rcases ending (m'.instantiate out) _ with ⟨fault | _, t⟩ <;>
      rcases ending (m'.instantiate out') _ with ⟨fault' | _, t'⟩ <;> intro same after
    · obtain rfl := Except.error.inj same
      exact ⟨rfl, after.left, after.right, by simp [Except.map]⟩
    · exact absurd same (by simp)
    · exact absurd same (by simp)
    · refine ⟨congrArg Except.ok after.same, after.left, after.right, ?_⟩
      rintro g made
      obtain rfl := Except.ok.inj made
      exact after.exports ▸ solitary.exports

end

end FormatHost
