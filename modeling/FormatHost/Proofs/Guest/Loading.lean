import FormatHost.Proofs.Guest.Breach
/-!
# How loading ends

A module becomes an instance that is settled, or loading fails with a fault of the engine or one of
instantiation.
-/
namespace FormatHost

variable {σ ε : Type}

/-- The last step of an instantiation: the host functions are told of the memory. -/
def Module.bindTable {ω : Type} (m : Module σ ε) : GuestM σ ε ω Unit :=
  match m.memoryExport with
  | .absent => throw .memoryMissing
  | .otherKind => throw .memoryOfOtherKind
  | .memory => GuestM.update fun g => { g with table := g.table.bind }

/-- How the making of an instance of a module ends. -/
def Made {ω : Type} (W : ω → Prop) (g₀ : Instance σ ε) : Except Fault Unit → Scene σ ε ω → Prop
  | .ok _, s => Sound W g₀ false Untold s
  | .error f, s => W s.world ∧ f.kind = .instantiation

theorem Module.kind_startFault {f : Fault} (declared : f.kind.isDeclared = true) :
    (startFault f).kind = .instantiation := by
  unfold startFault
  split
  · rfl
  · rw [if_pos declared]
    rfl

/-- Why the making of an instance fails: it cannot be linked or has no memory, or its start function
failed. -/
inductive Module.Faulty {ω : Type} (out : Outside ε ω) (m : Module σ ε) (P : Scene σ ε ω → Prop) :
    Fault → Prop
  | unfit {f : Fault} (kind : f.kind = .instantiation) : Faulty out m P f
  | start {behaviour : Act σ ε} {cause : Fault} {s : Scene σ ε ω} (starts : m.start = some behaviour)
    (holds : P s) (failed : (behaviour.run out GuestM.refused s).1 = .error cause) :
    Faulty out m P (startFault cause)

/-- How the making of an instance ends is a matter of the start function, of failures of instantiation, and
of the last step. -/
theorem ends_instantiate_of_start {ω : Type} {out : Outside ε ω} {m : Module σ ε}
    {P : Scene σ ε ω → Prop} {Q : Except Fault Unit → Scene σ ε ω → Prop}
    (started : ∀ behaviour, m.start = some behaviour → ∀ s, P s →
      P (behaviour.run out GuestM.refused s).2)
    (failed : ∀ f s, m.Faulty out P f → P s → Q (.error f) s)
    (bound : ∀ s, P s → Q (.ok ()) { s with guest := { s.guest with table := s.guest.table.bind } }) :
    Ends P (m.instantiate out) Q := by
  have last : Ends P m.bindTable Q := by
    unfold Module.bindTable
    cases m.memoryExport with
    | absent => exact fun s holds => failed _ s (.unfit rfl) holds
    | otherKind => exact fun s holds => failed _ s (.unfit rfl) holds
    | memory => exact bound
  unfold Module.instantiate
  cases m.unlinkable with
  | some detail => exact fun s holds => failed _ s (.unfit rfl) holds
  | none =>
    cases start : m.start with
    | none => exact last
    | some behaviour =>
      intro s holds
      have after := started behaviour start s holds
      simp only [ending_bind, ending_get]
      rcases ran : behaviour.run out GuestM.refused s with ⟨fault | value, t⟩
      · exact failed _ t (.start start holds (by rw [ran])) (by rwa [ran] at after)
      · exact last t (by rwa [ran] at after)

/-- Linking and starting a module gives an instance that is ready, or a failure of instantiation. -/
theorem ends_instantiate {ω : Type} {out : Outside ε ω} {W : ω → Prop} {g₀ : Instance σ ε}
    (keeps : out.Keeps W) (far : out.selfCalls = false) (m : Module σ ε) :
    Ends (fun s => Sound W g₀ false Untold s ∧ s.guest.table.Unbound) (m.instantiate out) (Made W g₀) := by
  refine ends_instantiate_of_start (fun behaviour _ s ⟨sound, unbound⟩ => ?_)
    (fun f s faulty ⟨sound, _⟩ => ?_) fun s ⟨sound, _⟩ => { sound with }
  · have undisturbed : Undisturbed out (GuestM.refused : Again σ ε ω) false := .inl far
    obtain ⟨world, same⟩ := Act.run_keeps keeps undisturbed behaviour s sound.world sound.busy
    refine ⟨⟨⟨world, same.plugin.trans sound.plugin, same.exports.trans sound.exports,
      same.busy.trans sound.busy⟩, same.poisoned.trans sound.healthy, ?_⟩,
      behaviour.run_stable (stable_unbound out) unbound⟩
    rw [same.windowStart, same.windowSize]
    exact sound.window
  · refine ⟨sound.world, ?_⟩
    cases faulty with
    | unfit kind => exact kind
    | start _ before failed =>
      exact Module.kind_startFault (Act.declared_of_run_unbound _ before.2 failed)

theorem run_load {ω : Type} (engine : Engine σ ε) (out : Outside ε ω) (name : String)
    (table : HostTable) (moduleBytes : Bytes) (e : ε) (w : ω) :
    (Instance.load engine out name table moduleBytes).run (e, w) =
      match engine moduleBytes e with
      | (.error fault, e) => ((.error fault, table), e, w)
      | (.ok m, e) =>
        let made := ending (m.instantiate out) ⟨m.begin name table, e, w⟩
        ((made.1.map fun _ => made.2.guest, made.2.guest.table), made.2.engine, made.2.world) := rfl

/-- An instance that was loaded is what its module was made. -/
theorem exists_of_load {ω : Type} {engine : Engine σ ε} {out : Outside ε ω} {name : String}
    {table : HostTable} {moduleBytes : Bytes} {x : ε × ω} {g : Instance σ ε}
    (loaded : ((Instance.load engine out name table moduleBytes).run x).1.1 = .ok g) :
    ∃ m e s, engine moduleBytes x.1 = (.ok m, e) ∧
      ending (m.instantiate out) ⟨m.begin name table, e, x.2⟩ = (.ok (), s) ∧ s.guest = g := by
  obtain ⟨e, w⟩ := x
  rw [run_load] at loaded
  rcases read : engine moduleBytes e with ⟨fault | m, e'⟩
  · simp [read] at loaded
  · simp only [read] at loaded
    rcases made : ending (m.instantiate out) ⟨m.begin name table, e', w⟩ with ⟨fault | ⟨⟩, s⟩
    · simp [made, Except.map] at loaded
    · exact ⟨m, e', s, rfl, made, by simpa [made, Except.map] using loaded⟩

/-- How loading ends: nothing went wrong with the instance yet, and it was not asked for its window, or the
engine failed, or the module cannot be made an instance. -/
def WasLoaded {ω : Type} (W : ω → Prop) (engine : Engine σ ε) (moduleBytes : Bytes) (e : ε)
    (name : String) : Except Fault (Instance σ ε) → ω → Prop
  | .ok g, w => W w ∧ g.plugin = name ∧ g.poisoned = false ∧ g.busy = false ∧
    Untold g.windowStart g.windowSize
  | .error f, w => W w ∧ ((engine moduleBytes e).1 = .error f ∨ f.kind = .instantiation)

theorem load_spec {ω : Type} (engine : Engine σ ε) {out : Outside ε ω} {W : ω → Prop}
    (keeps : out.Keeps W) (far : out.selfCalls = false) (name : String) {table : HostTable}
    (unbound : table.Unbound) (moduleBytes : Bytes) (e : ε) (w : ω) (holds : W w) :
    WasLoaded W engine moduleBytes e name
      ((Instance.load engine out name table moduleBytes).run (e, w)).1.1
      ((Instance.load engine out name table moduleBytes).run (e, w)).2.2 := by
  rw [run_load]
  rcases ran : engine moduleBytes e with ⟨fault | m, e'⟩
  · exact ⟨holds, .inl (congrArg Prod.fst ran)⟩
  · have made := ends_instantiate keeps far m ⟨m.begin name table, e', w⟩
      ⟨⟨⟨holds, rfl, rfl, rfl⟩, rfl, rfl, rfl⟩, unbound⟩
    simp only
    revert made
    rcases ending (m.instantiate out) ⟨m.begin name table, e', w⟩ with ⟨fault | _, s⟩ <;> intro made
    · exact ⟨made.1, .inr made.2⟩
    · have sound : Sound W (m.begin name table) false Untold s := made
      exact ⟨sound.world, sound.plugin, sound.healthy, sound.busy, sound.window⟩

end FormatHost
