import FormatHost.Proofs.Guest.Level
import FormatHost.Proofs.Guest.Loading
/-!
# In whose name guests speak

The host functions of an instance send its requests in the name of one plugin. Nothing that the guest
does changes the name, so the world outside hears requests in that name only.
-/
namespace FormatHost

variable {σ ε ω α : Type}

/-- The host functions of an instance speak in the name of a plugin, if they send requests at all. -/
def Instance.Speaks (name : String) (g : Instance σ ε) : Prop :=
  ∀ b, g.table = some b → b.plugin = name

/-- An instance speaks in some name. -/
theorem Instance.exists_speaks (g : Instance σ ε) : ∃ name, g.Speaks name := by
  cases table : g.table with
  | none => exact ⟨"", fun b there => absurd (table.symm.trans there) (by simp)⟩
  | some b =>
    exact ⟨b.plugin, fun b' there => by rw [Option.some.inj (table.symm.trans there)]⟩

namespace Boundary

/-- A boundary stays that of its plugin, and asks in its name. -/
theorem plugin_call (room : Nat) (c : HostCall) (b : Boundary) (m : Memory) :
    (b.call room c m).2.1.plugin = b.plugin ∧
      ∀ request, (b.call room c m).1 = .asks request → request.caller = b.plugin := by
  unfold call
  split
  · exact ⟨rfl, by simp [fails]⟩
  cases c with
  | clearBytes length => exact ⟨rfl, by simp [done]⟩
  | readBuffer pointer length =>
    simp only [readBuffer]
    split <;> exact ⟨rfl, by simp [done, fails]⟩
  | writeBuffer pointer offset length =>
    refine ⟨rfl, ?_⟩
    simp only [writeBuffer]
    split
    · simp [fails]
    split <;> simp [done, fails]
  | takeOverrideConfig =>
    simp only [takeOverride]
    split <;> exact ⟨rfl, by simp [done, fails]⟩
  | takeFilePath =>
    simp only [takePath]
    split <;> exact ⟨rfl, by simp [done, fails]⟩
  | format =>
    simp only [takeRequest]
    split
    · exact ⟨rfl, by simp [fails]⟩
    split
    · exact ⟨rfl, by simp⟩
    · exact ⟨rfl, by rintro request ⟨⟩; rfl⟩
  | getFormattedText => exact ⟨rfl, by simp [deliver]⟩
  | getErrorText => exact ⟨rfl, by simp [deliver]⟩

theorem plugin_conclude (outcome : Outcome) (b : Boundary) :
    (b.conclude outcome).plugin = b.plugin := by
  cases outcome <;> rfl

end Boundary

/-- A property of the world that pauses and the requests of one plugin keep. -/
structure Outside.Hears (out : Outside ε ω) (name : String) (W : ω → Prop) : Prop where
  far : out.selfCalls = false
  ask : ∀ request x w, request.caller = name → W w → W ((out.ask request).run (x, w)).2.2
  pause : ∀ x w, W w → W (out.pause.run (x, w)).2.2

/-- What the requests of all plugins keep, those of one keep. -/
theorem Outside.Keeps.hears {out : Outside ε ω} {W : ω → Prop} (keeps : out.Keeps W)
    (far : out.selfCalls = false) (name : String) : out.Hears name W :=
  ⟨far, fun request x w _ => keeps.ask request x w, keeps.pause⟩

/-- An instance speaks in the name of a plugin, and the world has a property. -/
structure Heard (name : String) (W : ω → Prop) (s : Scene σ ε ω) : Prop where
  world : W s.world
  speaks : s.guest.Speaks name

section

variable {out : Outside ε ω} {name : String} {W : ω → Prop}

/-- A host function speaks in the name of its plugin, and keeps what the world keeps for it. -/
theorem HostTable.call_hears (hears : out.Hears name W) (c : HostCall) {t : HostTable}
    (speaks : ∀ b, t = some b → b.plugin = name) (memory : Memory) (x : ε) (w : ω) (holds : W w) :
    W ((HostTable.call out.room out.ask c t memory).run (x, w)).2.2 ∧
      ∀ b, ((HostTable.call out.room out.ask c t memory).run (x, w)).1.2.1 = some b → b.plugin = name := by
  cases t with
  | none => exact ⟨holds, fun b none => absurd none (by simp [HostTable.call])⟩
  | some b =>
    obtain ⟨same, asks⟩ := b.plugin_call out.room c memory
    have named := speaks b rfl
    simp only [HostTable.call]
    revert same asks
    rcases b.call out.room c memory with ⟨result | request, b', memory'⟩ <;> intro same asks
    · exact ⟨holds, by rintro x ⟨⟩; exact same.trans named⟩
    · refine ⟨hears.ask request x w ((asks request rfl).trans named) holds, ?_⟩
      rintro x ⟨⟩
      exact (Boundary.plugin_conclude _ b').trans (same.trans named)

theorem stable_heard (hears : out.Hears name W) (again : Again σ ε ω) :
    Stable (fun _ => True) out again (Heard name W) where
  keep _ _ heard := ⟨heard.world, heard.speaks⟩
  memory _ heard := ⟨heard.world, heard.speaks⟩
  host call _ heard := by
    obtain ⟨world, speaks⟩ := HostTable.call_hears hears call heard.speaks _ _ _ heard.world
    exact ⟨world, speaks⟩
  pause heard := ⟨hears.pause _ _ heard.world, heard.speaks⟩
  reenter _ _ reach := absurd reach (by simp [hears.far])

/-- Guest code is heard in the name of its plugin only. -/
theorem Act.run_hears (hears : out.Hears name W) (again : Again σ ε ω) (act : Act σ ε)
    (s : Scene σ ε ω) (heard : Heard name W s) : Heard name W (act.run out again s).2 :=
  act.run_stable (stable_heard hears again) heard

/-- A scene beside itself, where a plugin is heard. -/
def Twin (name : String) (W : ω → Prop) (s s' : Scene σ ε ω) : Prop := s' = s ∧ Heard name W s

theorem paired_twin : Paired (Twin (σ := σ) (ε := ε) name W) where
  same := by rintro s s' ⟨rfl, -⟩; rfl
  poison := by rintro s s' ⟨rfl, heard⟩; exact ⟨rfl, heard.world, heard.speaks⟩
  hold := by rintro s s' b ⟨rfl, heard⟩; exact ⟨rfl, heard.world, heard.speaks⟩
  put := by rintro s s' m - ⟨rfl, heard⟩; exact ⟨rfl, heard.world, heard.speaks⟩

/-- Guest code that cannot reach its own instance does not find out how calls on it are answered. -/
theorem Act.run_again {out : Outside ε ω} (far : out.selfCalls = false) (again again' : Again σ ε ω)
    (act : Act σ ε) (s : Scene σ ε ω) : act.run out again' s = act.run out again s := by
  have indistinct : Indistinct (fun _ => True) out out again again' :=
    ⟨fun _ _ => rfl, rfl, rfl, fun _ _ reach => absurd reach (by simp [far])⟩
  exact act.run_indistinct indistinct ⟨fun _ _ => id, fun _ => id, fun _ _ => id, id, fun _ _ _ => id⟩ trivial

theorem level_callExport_twin (hears : out.Hears name W) (again again' : Again σ ε ω)
    (called : String) (arguments : List Int) :
    Level (Twin name W) (GuestM.callExport out again called arguments)
      (GuestM.callExport out again' called arguments) := by
  refine paired_twin.callExport fun {s s' act} twin _ => ?_
  obtain ⟨rfl, heard⟩ := twin
  have after := Act.run_hears hears again (act arguments) s' heard
  rw [Act.run_again hears.far again again']
  exact ⟨rfl, rfl, after⟩

theorem inStep_twin (hears : out.Hears name W) :
    InStep (Twin (σ := σ) (ε := ε) name W) out out := by
  refine .of_calls paired_twin ?_ ?_ fun again again' called arguments _ =>
    level_callExport_twin hears again again' called arguments
  · rintro s s' a ⟨rfl, heard⟩
    exact ⟨rfl, heard.world, heard.speaks⟩
  · rintro s s' n ⟨rfl, heard⟩
    exact ⟨rfl, heard.world, heard.speaks⟩

/-- Nor does the host, when it asks such code for its window. -/
theorem window_again (far : out.selfCalls = false) (again again' : Again σ ε ω) (s : Scene σ ε ω) :
    ending (GuestM.window out again') s = ending (GuestM.window out again) s := by
  obtain ⟨name, speaks⟩ := s.guest.exists_speaks
  have hears : out.Hears name fun _ => True := ⟨far, fun _ _ _ _ _ => trivial, fun _ _ _ => trivial⟩
  obtain ⟨same, there, -⟩ := (inStep_twin (σ := σ) hears).window again again' s s ⟨rfl, trivial, speaks⟩
  exact Prod.ext same there

/-- What is level with itself is heard in the name of its plugin only. -/
theorem Level.heard {c : GuestM σ ε ω α} (level : Level (Twin name W) c c) :
    Ends (Heard name W) c fun _ => Heard name W :=
  fun s heard => (level s s ⟨rfl, heard⟩).2.2

/-- A format call is heard in the name of its plugin only. -/
theorem hears_formatText (hears : out.Hears name W) (path text : String) (override : Datum) :
    Ends (Heard name W) (GuestM.formatText out path text override : GuestM σ ε ω (Option String))
      fun _ => Heard name W :=
  ((inStep_twin hears).formatText (fun again again' =>
    level_callExport_twin hears again again' "format" []) path text rfl rfl).heard

/-- So is the making of an instance. -/
theorem hears_instantiate (hears : out.Hears name W) (m : Module σ ε) :
    Ends (Heard name W) (m.instantiate out) fun _ => Heard name W := by
  refine ends_instantiate_of_start
    (fun behaviour _ s heard => Act.run_hears hears GuestM.refused behaviour s heard)
    (fun _ _ _ heard => heard) fun s heard => ⟨heard.world, fun b table => ?_⟩
  obtain ⟨b', there, rfl⟩ := Option.map_eq_some_iff.1 table
  exact heard.speaks b' there

/-- An instance that was loaded speaks in the name that it was loaded under. -/
theorem hears_load (engine : Engine σ ε) (hears : out.Hears name W) (moduleBytes : Bytes) (e : ε)
    (w : ω) (holds : W w) :
    W ((Instance.load engine out name (some (.fresh name)) moduleBytes).run (e, w)).2.2 ∧
      ∀ g, ((Instance.load engine out name (some (.fresh name)) moduleBytes).run (e, w)).1.1 = .ok g →
        g.Speaks name := by
  rw [run_load]
  rcases engine moduleBytes e with ⟨fault | m, e'⟩
  · exact ⟨holds, by rintro g ⟨⟩⟩
  · have made := hears_instantiate hears m ⟨m.begin name (some (.fresh name)), e', w⟩
      ⟨holds, by rintro b ⟨⟩; rfl⟩
    simp only
    revert made
    rcases ending (m.instantiate out) ⟨m.begin name (some (.fresh name)), e', w⟩ with
      ⟨fault | _, s⟩ <;> intro made
    · exact ⟨made.world, by rintro g ⟨⟩⟩
    · exact ⟨made.world, by rintro g ⟨⟩; exact made.speaks⟩

end

end FormatHost
