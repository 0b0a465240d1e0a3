import FormatHost.Proofs.Guest.Override
import Mathlib.Logic.Relation
/-!
# Format calls one after the other

An instance serves many format calls, and each may fail at any point. What a formatter sees as its
override is the one of its own call, unless that is blank and an earlier call has left one behind.
-/
namespace FormatHost

open Relation

variable {σ ε ω : Type}

/-- A format call on an instance: what it is about, and the surroundings that it meets. -/
structure FormatCall (ε ω : Type) where
  out : Outside ε ω
  path : String
  text : String
  override : Datum
  engine : ε
  world : ω

namespace FormatCall

/-- The instance when the call has handed everything over, or has failed to. -/
def handed (c : FormatCall ε ω) (g : Instance σ ε) : Except Fault Unit × Scene σ ε ω :=
  ending (GuestM.handOver c.out (GuestM.nestedFormat c.out) c.path c.text c.override)
    ⟨{ g with busy := true }, c.engine, c.world⟩

/-- How the call ends. -/
def ended (c : FormatCall ε ω) (g : Instance σ ε) : Except Fault (Option String) × Scene σ ε ω :=
  ending (GuestM.formatText c.out c.path c.text c.override) ⟨g, c.engine, c.world⟩

/-- The instance after the call, however it ended. -/
def after (c : FormatCall ε ω) (g : Instance σ ε) : Instance σ ε := (c.ended g).2.guest

/-- In the call the formatter of the instance runs, from this scene on. -/
def Runs (c : FormatCall ε ω) (g : Instance σ ε) (s : Scene σ ε ω) : Prop :=
  c.handed g = (.ok (), s) ∧ g.exports "format" ≠ none

theorem ended_eq {c : FormatCall ε ω} {g : Instance σ ε} (idle : g.busy = false) :
    c.ended g =
      match c.handed g with
      | (.ok _, t) =>
        let (r, u) := ending (GuestM.fetchAnswer c.out (GuestM.nestedFormat c.out)) t
        (r, { u with guest := { u.guest with busy := false } })
      | (.error f, t) => (.error f, { t with guest := { t.guest with busy := false } }) := by
  rw [ended, handed, GuestM.formatText, ending_formatWith_of_free c.out _ c.path c.text c.override idle,
    ending_holding]
  unfold GuestM.formatExchange
  simp only
  rw [ending_bind]
  rcases ending (GuestM.handOver c.out (GuestM.nestedFormat c.out) c.path c.text c.override)
    ⟨{ g with busy := true }, c.engine, c.world⟩ with ⟨f | _, t⟩ <;> rfl

end FormatCall

/-- An instance of a guest that consumes its overrides, between two calls. -/
structure Consuming (view : OverrideView σ) (g : Instance σ ε) : Prop where
  consumes : ∃ start, Consumes view start g.exports ∧ Told start none g.windowStart g.windowSize
  idle : g.busy = false

namespace FormatCall

variable {view : OverrideView σ} {c : FormatCall ε ω} {g : Instance σ ε}

/-- What has been handed over, or could not be. -/
theorem handed_spec (consuming : Consuming view g) :
    ∃ start, Consumes view start g.exports ∧
      HandedOver view start none g true c.override (view.override g.state) (c.handed g).1
        (c.handed g).2 := by
  obtain ⟨start, consumes, told⟩ := consuming.consumes
  exact ⟨start, consumes, ends_handOver_tame consumes (undisturbed_nestedFormat c.out) c.path c.text
    c.override ⟨{ g with busy := true }, c.engine, c.world⟩ ⟨⟨trivial, rfl, rfl, rfl⟩, told, rfl⟩⟩

/-- A formatter sees the override of its call, or what is left from before if that is blank. -/
theorem override_of_runs (consuming : Consuming view g) {s : Scene σ ε ω} (runs : c.Runs g s) :
    s.guest.Windowless ∨ view.override s.guest.state =
      if c.override.isBlank then view.override g.state else ownOverride c.override := by
  obtain ⟨start, -, handed⟩ := handed_spec (c := c) consuming
  rw [runs.1] at handed
  obtain ⟨o, tame, windowless | ⟨-, seen⟩ | ⟨fails, -⟩⟩ := handed
  · exact .inl windowless
  · exact .inr (tame.override.trans seen)
  · exact absurd rfl fails

/-- A window of negative size stays, and calls leave a guest one that consumes its overrides. -/
theorem windowless_handed (consuming : Consuming view g) (windowless : g.Windowless) :
    (c.handed g).2.guest.Windowless := by
  obtain ⟨start, consumes, told⟩ := consuming.consumes
  have held : Tame view start none g true (view.override g.state)
      (⟨{ g with busy := true }, c.engine, c.world⟩ : Scene σ ε ω) :=
    ⟨⟨trivial, rfl, rfl, rfl⟩, told, rfl⟩
  refine windowless_stays (fun size s tame => ?_) held windowless
  obtain ⟨o, tame, -⟩ := ends_handOver_tame consumes (undisturbed_nestedFormat c.out) c.path c.text
    c.override s tame
  exact ⟨o, tame⟩

/-- What a call leaves behind: nothing if the formatter ran, else what was there or what the call has
handed over. -/
theorem after_spec (consuming : Consuming view g) :
    Consuming view (c.after g) ∧ (g.Windowless → (c.after g).Windowless) ∧
      ((c.after g).Windowless ∨
        (∃ s, c.Runs g s) ∧ view.override (c.after g).state = none ∨
        (¬∃ s, c.Runs g s) ∧ (view.override (c.after g).state = view.override g.state ∨
          c.override.isBlank = false ∧
            view.override (c.after g).state = ownOverride c.override)) := by
  have stays := windowless_handed (c := c) consuming
  obtain ⟨start, consumes, o, tame, left⟩ := handed_spec (c := c) consuming
  have undisturbed := undisturbed_nestedFormat (σ := σ) c.out
  unfold after
  rw [ended_eq consuming.idle]
  unfold Runs
  revert tame left stays
  rcases c.handed g with ⟨f | _, t⟩ <;> intro stays tame left
  · refine ⟨⟨⟨start, tame.exports ▸ consumes, tame.told⟩, rfl⟩, stays, ?_⟩
    rcases left with windowless | ⟨ok, -⟩ | ⟨-, left⟩
    · exact .inl windowless
    · exact absurd ok (by simp)
    · refine .inr (.inr ⟨by simp, ?_⟩)
      rw [tame.override]
      exact left
  · obtain ⟨o', answered, used⟩ := ends_fetchAnswer_tame consumes undisturbed t tame
    have windowless (before : t.guest.Windowless) :
        (ending (GuestM.fetchAnswer c.out (GuestM.nestedFormat c.out)) t).2.guest.Windowless :=
      windowless_stays (fun size s tame => by
        obtain ⟨o', tame, -⟩ := ends_fetchAnswer_tame consumes undisturbed s tame
        exact ⟨o', tame⟩) tame before
    refine ⟨⟨⟨start, answered.exports ▸ consumes, answered.told⟩, rfl⟩,
      fun before => windowless (stays before), ?_⟩
    rcases left with before | ⟨-, seen⟩ | ⟨fails, -⟩
    · exact .inl (windowless before)
    · rw [answered.override]
      rcases used with ⟨there, rfl⟩ | ⟨missing, rfl⟩
      · exact .inr (.inl ⟨⟨t, rfl, there⟩, rfl⟩)
      · refine .inr (.inr ⟨fun ⟨s, runs⟩ => runs.2 missing, ?_⟩)
        cases blank : c.override.isBlank with
        | true => exact .inl (by simpa [blank] using seen)
        | false => exact .inr ⟨rfl, by simpa [blank] using seen⟩
    · exact absurd rfl fails

/-- A guest whose window starts somewhere, but is of unknown size, cannot be handed anything. -/
theorem exists_fault_of_unsized {out : Outside ε ω} {again : Again σ ε ω} {s : Scene σ ε ω} {a : Int}
    (start : s.guest.windowStart = some a) (size : s.guest.windowSize = none) (data : Bytes) :
    ∃ f, (ending (GuestM.sendBytes out again data) s).1 = .error f := by
  have told : ending (GuestM.window out again) s = (.ok (a, none), s) := by
    unfold GuestM.window
    rw [ending_bind, GuestM.ending_guest]
    simp only [start, size, ending_pure]
  unfold GuestM.sendBytes
  rw [ending_bind_of_ok told, ending_bind]
  rcases ending (GuestM.callExport out again "clear_shared_bytes" [data.length]) s with ⟨f | v, t⟩
  · exact ⟨f, rfl⟩
  · exact ⟨.windowUnknown, rfl⟩

/-- Such a guest keeps the override that it has. -/
theorem after_of_unsized (consuming : Consuming view g) {a : Int} (start : g.windowStart = some a)
    (size : g.windowSize = none) : view.override (c.after g).state = view.override g.state := by
  obtain ⟨begins, consumes, told⟩ := consuming.consumes
  have quiet : Quiet view begins none g true
      (GuestM.sendBytes c.out (GuestM.nestedFormat c.out) (Utf8.encode c.path)) :=
    quiet_sendBytes consumes (undisturbed_nestedFormat c.out) _
  have kept := quiet (view.override g.state) ⟨{ g with busy := true }, c.engine, c.world⟩
    ⟨⟨trivial, rfl, rfl, rfl⟩, told, rfl⟩
  obtain ⟨f, failed⟩ : ∃ f, (ending (GuestM.sendBytes c.out (GuestM.nestedFormat c.out)
      (Utf8.encode c.path)) ⟨{ g with busy := true }, c.engine, c.world⟩).1 = .error f :=
    exists_fault_of_unsized start size (Utf8.encode c.path)
  unfold after
  rw [ended_eq consuming.idle]
  unfold handed GuestM.handOver
  rw [ending_bind]
  revert kept failed
  rcases ending (GuestM.sendBytes c.out (GuestM.nestedFormat c.out) (Utf8.encode c.path))
    ⟨{ g with busy := true }, c.engine, c.world⟩ with ⟨f' | v, t⟩ <;> intro kept failed
  · exact kept.override
  · cases failed

/-- A call that leaves a healthy instance healthy, and in which no formatter ran, could not hand
something over, or was interrupted for want of room. -/
theorem refused_of_unused (idle : g.busy = false) (ready : Ready g.windowStart g.windowSize)
    (healthy : g.poisoned = false) (unused : ¬∃ s, c.Runs g s)
    (still : (c.after g).poisoned = false) :
    ∃ f t, c.ended g = (.error f, t) ∧ (g.exports.RunsOut f ∨ HandOverRefused c.override f t) := by
  have sound : Sound (fun _ => True) g true Ready
      (⟨{ g with busy := true }, c.engine, c.world⟩ : Scene σ ε ω) :=
    ⟨⟨trivial, rfl, rfl, rfl⟩, healthy, ready⟩
  have ended := ends_handOver c.out.keeps_true (undisturbed_nestedFormat c.out) c.path c.text
    c.override _ sound
  change Ended _ _ _ _ _ (c.handed g).1 (c.handed g).2 at ended
  unfold after at still
  rw [ended_eq idle] at still ⊢
  unfold Runs at unused
  revert ended still unused
  rcases c.handed g with ⟨f | _, t⟩ <;> intro unused still ended
  · rcases ended with (⟨-, poisoned, -⟩ | ⟨-, room⟩) | ⟨-, refused⟩
    · exact absurd (still.symm.trans poisoned) (by simp)
    · exact ⟨f, _, rfl, .inl room⟩
    · exact ⟨f, _, rfl, .inr refused⟩
  · have sound : Sound (fun _ => True) g true Windowed t := ended
    have missing : t.guest.exports "format" = none := by
      rw [sound.exports]
      exact Classical.not_not.1 fun there => unused ⟨t, rfl, there⟩
    unfold GuestM.fetchAnswer at still
    simp only [ending_bind, GuestM.ending_callExport, missing] at still
    exact absurd still Bool.noConfusion

end FormatCall

/-! ### Sequences of calls -/

/-- A call leaves an override behind: it handed one over, and its formatter did not run. -/
structure FormatCall.Leaves (c : FormatCall ε ω) (g : Instance σ ε) (o : Option Bytes) : Prop where
  given : c.override.isBlank = false
  unused : ¬∃ s, c.Runs g s
  same : o = ownOverride c.override

/-- The next call on an instance. Its surroundings may be any others. -/
def Follows (ω : Type) (g g' : Instance σ ε) : Prop := ∃ c : FormatCall ε ω, g' = c.after g

/-- A next call in which the formatter does not run. -/
def Passes (ω : Type) (g g' : Instance σ ε) : Prop :=
  ∃ c : FormatCall ε ω, (¬∃ s, c.Runs g s) ∧ g' = c.after g

/-- A formatter sees the override of its own call or, if that is blank, something that was left. -/
def FormatCall.Sees (view : OverrideView σ) (c : FormatCall ε ω) (s : Scene σ ε ω)
    (left : Option Bytes → Prop) : Prop :=
  view.override s.guest.state = ownOverride c.override ∨
    c.override.isBlank = true ∧ left (view.override s.guest.state)

/-- An override that is there was left behind by a call, and no formatter ran since. -/
theorem left_of_calls {view : OverrideView σ} {g₀ g : Instance σ ε} (consuming : Consuming view g₀)
    (clean : view.override g₀.state = none) (calls : ReflTransGen (Follows ω) g₀ g) :
    Consuming view g ∧ (g.Windowless ∨ view.override g.state = none ∨
      ∃ (g₁ : Instance σ ε) (d : FormatCall ε ω), ReflTransGen (Follows ω) g₀ g₁ ∧
        d.Leaves g₁ (view.override g.state) ∧ ReflTransGen (Passes ω) (d.after g₁) g) := by
  induction calls with
  | refl => exact ⟨consuming, .inr (.inl clean)⟩
  | @tail g' g before next ih =>
    obtain ⟨c, rfl⟩ := next
    obtain ⟨consuming, left⟩ := ih
    obtain ⟨after, stays, windowless | ⟨-, used⟩ | ⟨unused, same | ⟨given, own⟩⟩⟩ :=
      FormatCall.after_spec (c := c) consuming
    · exact ⟨after, .inl windowless⟩
    · exact ⟨after, .inr (.inl used)⟩
    · refine ⟨after, ?_⟩
      rw [same]
      rcases left with windowless | clean | ⟨g₁, d, earlier, left, passes⟩
      · exact .inl (stays windowless)
      · exact .inr (.inl clean)
      · exact .inr (.inr ⟨g₁, d, earlier, left, passes.tail ⟨c, unused, rfl⟩⟩)
    · exact ⟨after, .inr (.inr ⟨g', c, before, ⟨given, unused, own⟩, .refl⟩)⟩

theorem ownOverride_of_isBlank {d : Datum} (blank : d.isBlank = true) : ownOverride d = none := by
  rw [ownOverride, if_pos blank]

/-- What a formatter sees in a call is that call's override or one that an earlier call has left. -/
theorem FormatCall.sees_of_runs {view : OverrideView σ} {c : FormatCall ε ω} {g : Instance σ ε}
    {left : Option Bytes → Prop} (consuming : Consuming view g)
    (before : view.override g.state = none ∨ left (view.override g.state)) {s : Scene σ ε ω}
    (runs : c.Runs g s) : s.guest.Windowless ∨ c.Sees view s left := by
  refine (FormatCall.override_of_runs consuming runs).imp_right fun seen => ?_
  unfold FormatCall.Sees
  rw [seen]
  cases blank : c.override.isBlank with
  | false => exact .inl rfl
  | true =>
    rw [if_pos rfl, ownOverride_of_isBlank blank]
    exact before.imp_right fun left => ⟨rfl, left⟩

end FormatHost
