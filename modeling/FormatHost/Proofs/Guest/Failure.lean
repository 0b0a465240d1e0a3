import FormatHost.Proofs.Guest.Frame
/-!
# How guest code fails

Guest code ends early when it traps, when it leaves its memory, or when a host function fails under it.
All these failures are declared ones of the protocol but one: the host's stack may have no room for the
configuration that the guest hands over. A host function that knows no memory yet does not look at any
configuration.
-/
namespace FormatHost

variable {σ ε ω : Type} {f : Fault}

/-- The host's stack had no room for a configuration. -/
def Fault.OutOfRoom (f : Fault) : Prop := ∃ container, f = .tooDeep container

theorem Fault.OutOfRoom.kind (out : f.OutOfRoom) : f.kind = .recursion := by
  obtain ⟨container, rfl⟩ := out
  rfl

/-- A declared fault, or one for want of room. -/
def Fault.Expected (f : Fault) : Prop := f.kind.isDeclared = true ∨ f.OutOfRoom

/-- An override is read, or there is no room for it. -/
theorem ConfigMap.outOfRoom_of_parse {room : Nat} {data : Bytes}
    (failed : ConfigMap.parse room data = .error f) : f.OutOfRoom := by
  unfold ConfigMap.parse at failed
  split at failed
  · cases failed
  · split at failed
    · cases failed
    · exact ⟨_, (Except.error.inj failed).symm⟩
    · cases failed

/-- Host functions that do nothing, or that know no memory yet. -/
def HostTable.Unbound (t : HostTable) : Prop := ∀ b, t = some b → b.bound = false

theorem HostTable.unbound_fresh (plugin : String) : HostTable.Unbound (some (.fresh plugin)) := by
  rintro b ⟨⟩
  rfl

section

variable {room : Nat} {call : HostCall} {b : Boundary} {memory : Memory}

/-- A host function fails with a declared fault, or because it does not read the staged configuration to its
end. -/
theorem Boundary.fault_of_call
    (failed : (b.call room call memory).1 = .finished (.error f)) :
    f.kind.isDeclared = true ∨
      b.bound = true ∧ ConfigMap.parse room b.buffer.data = .error f := by
  unfold Boundary.call at failed
  split at failed
  · cases failed
    exact .inl rfl
  · next bound =>
    cases call with
    | clearBytes | getFormattedText | getErrorText => cases failed
    | readBuffer pointer length =>
      simp only [readBuffer] at failed
      split at failed <;> cases failed
      exact .inl rfl
    | writeBuffer pointer offset length =>
      simp only [writeBuffer] at failed
      split at failed
      · cases failed
        exact .inl rfl
      · split at failed <;> cases failed
        exact .inl rfl
    | takeOverrideConfig =>
      simp only [takeOverride] at failed
      split at failed
      · next deep =>
        cases failed
        exact .inr ⟨by simpa using bound, deep⟩
      · cases failed
    | takeFilePath =>
      simp only [takePath] at failed
      split at failed <;> cases failed
      exact .inl rfl
    | format =>
      simp only [takeRequest] at failed
      split at failed
      · cases failed
        exact .inl rfl
      · split at failed <;> cases failed

/-- A host function fails as its boundary does; an answered request is no failure. -/
theorem HostTable.exists_boundary_of_call {W : Type} {ask : Request → StateM W Outcome} {t : HostTable}
    {w : W} (failed : ((HostTable.call room ask call t memory).run w).1.1 = .error f) :
    ∃ b, t = some b ∧ (b.call room call memory).1 = .finished (.error f) := by
  cases t with
  | none => cases failed
  | some b =>
    refine ⟨b, rfl, ?_⟩
    simp only [HostTable.call] at failed
    revert failed
    rcases b.call room call memory with ⟨result | request, b', memory'⟩ <;> intro failed
    · exact congrArg Effect.finished failed
    · cases failed

end

/-- How guest code fails is a matter of traps, of its memory, and of the host functions that it calls where
a property holds. -/
theorem Act.fault_of_run {out : Outside ε ω} {again : Again σ ε ω} {P : Scene σ ε ω → Prop}
    {Q : Fault → Prop} (stable : Stable (fun _ => True) out again P)
    (declared : ∀ f, f.kind.isDeclared = true → Q f)
    (called : ∀ (s : Scene σ ε ω) (b : Boundary) (call : HostCall) (f : Fault), P s →
      s.guest.table = some b → (b.call out.room call s.guest.memory).1 = .finished (.error f) → Q f)
    (act : Act σ ε) {s : Scene σ ε ω} (holds : P s) (failed : (act.run out again s).1 = .error f) :
    Q f := by
  induction act generalizing s with
  | done result => cases failed
  | trap message =>
    cases failed
    exact declared _ rfl
  | look next ih => exact ih _ _ holds failed
  | keep state engine next ih => exact ih (stable.keep state engine holds) failed
  | peek pointer length next ih =>
    rw [run] at failed
    split at failed
    · cases failed
      exact declared _ rfl
    · exact ih _ holds failed
  | poke pointer data next ih =>
    rw [run] at failed
    split at failed
    · cases failed
      exact declared _ rfl
    · next m written =>
      exact ih (stable.memory (Nat.le_of_eq (Memory.size_of_write written).symm) holds) failed
  | grow pages next ih =>
    exact ih _ (stable.memory (size_le_growMemory pages _) holds) failed
  | host call next ih =>
    have after := stable.host call trivial holds
    have broken (f' : Fault) :
        ((HostTable.call out.room out.ask call s.guest.table s.guest.memory).run
          (s.engine, s.world)).1.1 = .error f' →
            ∃ b, s.guest.table = some b ∧
              (b.call out.room call s.guest.memory).1 = .finished (.error f') :=
      HostTable.exists_boundary_of_call
    rw [run] at failed
    unfold Scene.called at after
    revert failed after broken
    rcases (HostTable.call out.room out.ask call s.guest.table s.guest.memory).run (s.engine, s.world) with
      ⟨⟨fault | value, table, memory⟩, engine, world⟩ <;> intro failed after broken
    · obtain ⟨b, there, ended⟩ := broken fault rfl
      exact called s b call f holds there (Except.error.inj failed ▸ ended)
    · exact ih value after failed
  | pause next ih => exact ih (stable.pause holds) failed
  | reenter path text next ih =>
    rw [run] at failed
    split at failed
    · next reach => exact ih _ (stable.reenter path text reach holds) failed
    · cases failed
      exact declared _ rfl

/-- Guest code fails with a declared fault or for want of room. -/
theorem Act.expected_of_run {out : Outside ε ω} {again : Again σ ε ω} (act : Act σ ε)
    {s : Scene σ ε ω} (failed : (act.run out again s).1 = .error f) : f.Expected := by
  refine act.fault_of_run (P := fun _ => True) ⟨?_, ?_, ?_, ?_, ?_⟩ (fun f => .inl) ?_ trivial failed
  · exact fun _ _ _ => trivial
  · exact fun _ _ => trivial
  · exact fun _ _ _ => trivial
  · exact fun _ => trivial
  · exact fun _ _ _ _ => trivial
  · exact fun s b call f _ _ ended =>
      (Boundary.fault_of_call ended).imp_right fun deep => ConfigMap.outOfRoom_of_parse deep.2

/-- An export of a guest fails for want of room in some surroundings: it hands over a configuration that is
too deep for them. -/
structure Exports.RunsOut (X : Exports σ ε) (f : Fault) : Prop where
  room : f.OutOfRoom
  failed : ∃ (name : String) (behaviour : List Int → Act σ ε) (arguments : List Int) (ω : Type)
    (out : Outside ε ω) (again : Again σ ε ω) (s : Scene σ ε ω),
      X name = some behaviour ∧ ((behaviour arguments).run out again s).1 = .error f

/-! ### Before the memory is known -/

theorem stable_unbound (out : Outside ε ω) :
    Stable (fun _ => True) out (GuestM.refused (σ := σ)) fun s => s.guest.table.Unbound where
  keep _ _ unbound := unbound
  memory _ unbound := unbound
  host {s} call _ unbound := by
    intro b there
    simp only [Scene.called] at there
    cases table : s.guest.table with
    | none =>
      rw [table] at there
      cases there
    | some b' =>
      have closed := unbound b' table
      rw [table, HostTable.call, b'.call_of_unbound closed] at there
      exact Option.some.inj there ▸ closed
  pause := id
  reenter _ _ _ unbound := unbound

/-- A start function fails with declared faults only. -/
theorem Act.declared_of_run_unbound {out : Outside ε ω} (act : Act σ ε) {s : Scene σ ε ω}
    (unbound : s.guest.table.Unbound) (failed : (act.run out GuestM.refused s).1 = .error f) :
    f.kind.isDeclared = true := by
  refine act.fault_of_run (stable_unbound out) (fun _ => id) (fun s b call f unbound there ended => ?_)
    unbound failed
  rcases Boundary.fault_of_call ended with declared | ⟨bound, -⟩
  · exact declared
  · exact absurd bound (by simp [unbound b there])

end FormatHost
