import FormatHost.Guest.Description
import FormatHost.Proofs.Guest.Loading
import FormatHost.Proofs.Host.Results
import FormatHost.Proofs.Host.RoundTrip
/-!
# Binding of the memory

The host functions of a plugin learn of the memory of its instance as the last step of loading. Before that
every one of them fails and changes nothing, also when a start function calls it. So a module becomes an
instance whose host functions work on its memory, or the host functions are as they were; the pool is not
asked for anything meanwhile.
-/
namespace FormatHost

variable {σ ε ω W : Type}

/-! ### Before the memory is known -/

theorem HostTable.call_of_unbound {n : Type → Type} [Monad n] (room : Nat) (ask : Request → n Outcome)
    (c : HostCall) {b : Boundary} (unbound : b.bound = false) (memory : Memory) :
    HostTable.call room ask c (some b) memory = pure (.error (.unbound b.plugin), some b, memory) := by
  rw [HostTable.call, b.call_of_unbound unbound c]
  rfl

namespace HostSession

variable (note : LogRecord → StateM W Unit) (pool : Formatter (StateM W))

/-- Any calls of host functions before the memory is known fail, and leave nothing but themselves in the
history. -/
theorem callAll_of_unbound {s : HostSession W} {b : Boundary} (table : s.table = some b)
    (unbound : b.bound = false) (calls : List HostCall) :
    s.callAll note pool calls =
      { s with history := calls.reverse.map (fun call =>
          ⟨call, s.memory, [], .error (.unbound b.plugin)⟩) ++ s.history } := by
  induction calls generalizing s with
  | nil => rfl
  | cons call calls ih =>
    have refused := step_of_finished note pool table (b.call_of_unbound unbound call (m := s.memory))
    rw [callAll_cons, refused, ih rfl]
    obtain ⟨t, memory, world, history⟩ := s
    obtain rfl := table
    simp

end HostSession

section

variable (out : Outside ε ω) {b : Boundary} (unbound : b.bound = false)
include unbound

theorem stable_table : Stable (fun _ => True) out GuestM.refused
    fun s : Scene σ ε ω => s.guest.table = some b where
  keep _ _ table := table
  memory _ table := table
  host call _ table := by
    simp only [Scene.called, table, HostTable.call_of_unbound _ _ _ unbound]
    rfl
  pause := id
  reenter _ _ _ table := table

theorem indistinct_of_unbound (ask : Request → StateM (ε × ω) Outcome) :
    Indistinct (fun s : Scene σ ε ω => s.guest.table = some b) out { out with ask } GuestM.refused
      GuestM.refused where
  host call table := by
    rw [table, HostTable.call_of_unbound _ _ _ unbound, HostTable.call_of_unbound _ _ _ unbound]
  pause := rfl
  reach := rfl
  reenter _ _ _ _ := rfl

/-- A start function runs before the memory is known. What it does does not depend on the pool, and the
host functions stay as they are. -/
theorem Act.run_unbound (ask : Request → StateM (ε × ω) Outcome) (act : Act σ ε) {s : Scene σ ε ω}
    (table : s.guest.table = some b) :
    act.run { out with ask } GuestM.refused s = act.run out GuestM.refused s ∧
      (act.run out GuestM.refused s).2.guest.table = some b :=
  ⟨act.run_indistinct (indistinct_of_unbound out unbound ask) (stable_table out unbound) table,
    act.run_stable (stable_table out unbound) table⟩

end

/-! ### Instantiation -/

/-- Why a module cannot be made an instance: an import does not fit, the start function fails, or there is
no memory under its name. -/
inductive Module.Unfit (out : Outside ε ω) (m : Module σ ε) (s : Scene σ ε ω) : Prop
  | imports {detail : String} (unlinkable : m.unlinkable = some detail)
  | start {behaviour : Act σ ε} {cause : Fault} (starts : m.start = some behaviour)
    (failed : (behaviour.run out GuestM.refused s).1 = .error cause)
  | memory (other : m.memoryExport ≠ .memory)

/-- How a module is instantiated with host functions that know no memory yet: they are told of it as the
last step, or the instantiation fails and they are as they were. -/
inductive Module.Instantiated (out : Outside ε ω) (m : Module σ ε) (b : Boundary) (s : Scene σ ε ω) :
    Except Fault Unit × Scene σ ε ω → Prop
  | bound {t : Scene σ ε ω} (fit : ¬m.Unfit out s) (table : t.guest.table = some b.bind) :
    Instantiated out m b s (.ok (), t)
  | failed {f : Fault} {t : Scene σ ε ω} (unfit : m.Unfit out s) (kind : f.kind = .instantiation)
    (table : t.guest.table = some b) : Instantiated out m b s (.error f, t)

/-- The last step of an instantiation whose start function came to its end, if there is one. -/
theorem Module.instantiated_bindTable {out : Outside ε ω} {m : Module σ ε} {b : Boundary}
    {s t : Scene σ ε ω} (linked : m.unlinkable = none)
    (started : ∀ behaviour, m.start = some behaviour →
      ∃ v, (behaviour.run out GuestM.refused s).1 = .ok v)
    (table : t.guest.table = some b) : m.Instantiated out b s (ending m.bindTable t) := by
  unfold Module.bindTable
  cases memory : m.memoryExport with
  | absent => exact .failed (.memory (by simp [memory])) rfl table
  | otherKind => exact .failed (.memory (by simp [memory])) rfl table
  | memory =>
    refine .bound (fun unfit => ?_) (by simp only [table]; rfl)
    cases unfit with
    | imports unlinkable => simp [linked] at unlinkable
    | start starts failed =>
      obtain ⟨v, ok⟩ := started _ starts
      simp [ok] at failed
    | memory other => exact other memory

theorem Module.instantiated (out : Outside ε ω) (m : Module σ ε) {b : Boundary}
    (unbound : b.bound = false) {s : Scene σ ε ω} (table : s.guest.table = some b) :
    m.Instantiated out b s (ending (m.instantiate out) s) := by
  unfold Module.instantiate
  cases linked : m.unlinkable with
  | some detail => exact .failed (.imports linked) rfl table
  | none =>
    cases starts : m.start with
    | none =>
      exact m.instantiated_bindTable linked (fun behaviour starts' => by simp [starts] at starts') table
    | some behaviour =>
      have still := (Act.run_unbound out unbound out.ask behaviour table).2
      simp only [ending_bind, ending_get]
      revert still
      rcases ran : behaviour.run out GuestM.refused s with ⟨cause | v, t⟩ <;> intro still
      · have declared : cause.kind.isDeclared = true := behaviour.declared_of_run_unbound
          (fun b' there => Option.some.inj (table.symm.trans there) ▸ unbound) (by rw [ran])
        exact .failed (.start starts (by rw [ran])) (Module.kind_startFault declared) still
      · refine m.instantiated_bindTable linked (fun behaviour' starts' => ⟨v, ?_⟩) still
        obtain rfl := Option.some.inj (starts.symm.trans starts')
        rw [ran]

/-- Nothing that the pool might do shows while a module is instantiated. -/
theorem Module.ending_instantiate_ask (out : Outside ε ω) (ask : Request → StateM (ε × ω) Outcome)
    (m : Module σ ε) {b : Boundary} (unbound : b.bound = false) {s : Scene σ ε ω}
    (table : s.guest.table = some b) :
    ending (m.instantiate { out with ask }) s = ending (m.instantiate out) s := by
  unfold Module.instantiate
  cases m.unlinkable with
  | some detail => exact (ending_bind_of_error rfl).trans (ending_bind_of_error rfl).symm
  | none =>
    cases m.start with
    | none => rfl
    | some behaviour =>
      have same := (Act.run_unbound out unbound ask behaviour table).1
      simp only [ending_bind, ending_get]
      rw [same]

/-! ### Loading -/

/-- An engine that decodes modules, or says why it cannot. -/
def decoding (room : Nat → Nat) (decode : Bytes → ε → Except String (Module σ ε) × ε) : Engine σ ε where
  decode bytes e :=
    match decode bytes e with
    | (.ok m, e) => (.ok m, e)
    | (.error detail, e) => (.error (.undecodable detail), e)
  room

/-- The scene with other staged bytes. -/
def Scene.staging (s : Scene σ ε ω) (b : Boundary) (buffer : Buffer) : Scene σ ε ω :=
  { s with guest := { s.guest with table := some { b with buffer } } }

/-- The host functions of an instance, of which nothing was used yet, are bound to its memory: what its code
has read is read from there, and what its code has written is written there. -/
structure Instance.BoundTo (g : Instance σ ε) (b : Boundary) : Prop where
  table : g.table = some b
  reads : ∀ {ω : Type} (out : Outside ε ω) (again : Again σ ε ω) (s : Scene σ ε ω) (pointer length : Nat)
    (next : Option Nat → Act σ ε), s.guest = g →
      (Act.host (.readBuffer pointer length) next).run out again s =
        match g.memory.read pointer length with
        | .error e => (.error (.outOfBounds e), s)
        | .ok data => (next none).run out again (s.staging b (b.buffer.extend data))
  writes : ∀ {ω : Type} (out : Outside ε ω) (again : Again σ ε ω) (s : Scene σ ε ω) (buffer : Buffer)
    (pointer offset length : Nat) (data : Bytes) (next : Option Nat → Act σ ε), s.guest = g →
      buffer.read offset length = .ok data →
        (Act.host (.writeBuffer pointer offset length) next).run out again (s.staging b buffer) =
          match g.memory.write pointer data with
          | .error e => (.error (.outOfBounds e), s.staging b buffer)
          | .ok m => (next none).run out again
              { s.staging b buffer with guest := { (s.staging b buffer).guest with memory := m } }

theorem Instance.boundTo_of_table {g : Instance σ ε} {b : Boundary} (table : g.table = some b)
    (bound : b.bound = true) : g.BoundTo b where
  table
  reads out again s pointer length next there := by
    obtain ⟨⟨plugin, exports, state, memory, table', start, size, poisoned, busy⟩, engine, world⟩ := s
    obtain rfl := there
    obtain rfl : table' = some b := table
    rw [Act.run]
    simp only
    cases read : memory.read pointer length with
    | error e =>
      have refused : b.call out.room (.readBuffer pointer length) memory =
          (Boundary.fails (.outOfBounds e), b, memory) := by
        unfold Boundary.call
        rw [if_neg (by simp [bound])]
        simp only [Boundary.readBuffer, read]
      rw [HostTable.call, refused]
      rfl
    | ok data =>
      rw [HostTable.call, Boundary.call_readBuffer out.room bound read]
      rfl
  writes out again s buffer pointer offset length data next there staged := by
    obtain ⟨⟨plugin, exports, state, memory, table', start, size, poisoned, busy⟩, engine, world⟩ := s
    obtain rfl := there
    have bound' : { b with buffer }.bound = true := bound
    rw [Act.run]
    simp only [Scene.staging]
    cases written : memory.write pointer data with
    | error e =>
      have refused : { b with buffer }.call out.room (.writeBuffer pointer offset length) memory =
          (Boundary.fails (.outOfBounds e), { b with buffer }, memory) := by
        unfold Boundary.call
        rw [if_neg (by simp [bound])]
        simp only [Boundary.writeBuffer, staged, written]
      rw [HostTable.call, refused]
      rfl
    | ok m =>
      rw [HostTable.call, Boundary.call_writeBuffer out.room bound' staged written]
      rfl

/-- How loading a module for a plugin ends, given what its bytes were decoded to. -/
inductive LoadEnded (out : Outside ε ω) (plugin : String) (e : ε) (w : ω) :
    Except String (Module σ ε) → Except Fault (Instance σ ε) × HostTable → Prop
  | bound {m : Module σ ε} {g : Instance σ ε}
    (fit : ¬m.Unfit out ⟨m.begin plugin (some (.fresh plugin)), e, w⟩)
    (bound : g.BoundTo (Boundary.fresh plugin).bind) : LoadEnded out plugin e w (.ok m) (.ok g, g.table)
  | undecodable {detail : String} {f : Fault} (kind : f.kind = .deserialization) :
    LoadEnded out plugin e w (.error detail) (.error f, some (.fresh plugin))
  | unfit {m : Module σ ε} {f : Fault}
    (unfit : m.Unfit out ⟨m.begin plugin (some (.fresh plugin)), e, w⟩)
    (kind : f.kind = .instantiation) :
    LoadEnded out plugin e w (.ok m) (.error f, some (.fresh plugin))

theorem LoadEnded.of_unfit {out : Outside ε ω} {plugin : String} {e : ε} {w : ω} {m : Module σ ε}
    {r : Except Fault (Instance σ ε) × HostTable} (loaded : LoadEnded out plugin e w (.ok m) r)
    (unfit : m.Unfit out ⟨m.begin plugin (some (.fresh plugin)), e, w⟩) :
    (∃ f, r.1 = .error f ∧ f.kind = .instantiation) ∧ r.2 = some (.fresh plugin) := by
  cases loaded with
  | bound fit => exact absurd unfit fit
  | unfit _ kind => exact ⟨⟨_, rfl, kind⟩, rfl⟩

/-- Loading a module against fresh host functions makes an instance to whose memory they are bound, or fails
and leaves them as they were, and it goes the same way whatever the pool would do if it were asked. Host
functions that know no memory fail in every call, and change nothing. -/
theorem Instance.bound_or_untouched (room : Nat → Nat)
    (decode : Bytes → ε → Except String (Module σ ε) × ε) (out : Outside ε ω) (plugin : String)
    (moduleBytes : Bytes) (e : ε) (w : ω) :
    LoadEnded out plugin (decode moduleBytes e).2 w (decode moduleBytes e).1
        ((Instance.load (decoding room decode) out plugin (some (.fresh plugin)) moduleBytes).run (e, w)).1 ∧
      (∀ ask : Request → StateM (ε × ω) Outcome,
        (Instance.load (decoding room decode) { out with ask } plugin (some (.fresh plugin)) moduleBytes).run
            (e, w) =
          (Instance.load (decoding room decode) out plugin (some (.fresh plugin)) moduleBytes).run (e, w)) ∧
      ∀ {W : Type} (note : LogRecord → StateM W Unit) (pool : Formatter (StateM W)) (s : HostSession W)
        (b : Boundary) (calls : List HostCall), s.table = some b → b.bound = false →
          s.callAll note pool calls =
            { s with history := calls.reverse.map (fun call =>
                ⟨call, s.memory, [], .error (.unbound b.plugin)⟩) ++ s.history } := by
  have unbound : (Boundary.fresh plugin).bound = false := rfl
  refine ⟨?_, fun ask => ?_, fun note pool s b calls table unbound =>
    HostSession.callAll_of_unbound note pool table unbound calls⟩
  · rw [run_load]
    simp only [decoding]
    rcases decode moduleBytes e with ⟨detail | m, e'⟩
    · exact .undecodable rfl
    · have made := m.instantiated out unbound (s := ⟨m.begin plugin (some (.fresh plugin)), e', w⟩) rfl
      simp only
      revert made
      rcases ending (m.instantiate out) ⟨m.begin plugin (some (.fresh plugin)), e', w⟩ with ⟨r, t⟩
      intro made
      cases made with
      | bound fit table => exact .bound fit (Instance.boundTo_of_table table rfl)
      | failed unfit kind table =>
        simp only [table]
        exact .unfit unfit kind
  · rw [run_load, run_load]
    simp only [decoding]
    rcases decode moduleBytes e with ⟨detail | m, e'⟩
    · rfl
    · simp only
      rw [m.ending_instantiate_ask out ask unbound rfl]

/-- A module whose start function calls a host function. -/
def hasty : ModuleDescription where
  imports := [⟨HostCall.moduleName, "host_clear_bytes", 1, 0⟩]
  pages := some 0
  memoryExport := .memory
  start := some (.call 0 [4])
  schema := some 3

/-- Such a module cannot be loaded. -/
theorem untouched_of_hasty :
    let out : Outside Unit Unit := { ask := fun _ => pure .unchanged, pause := pure (), room := 0 }
    let decode : Bytes → Unit → Except String (Module Unit Unit) × Unit :=
      fun _ e => (.ok (hasty.toModule ()), e)
    let loaded := (Instance.load (decoding (fun _ => 0) decode) out "p" (some (.fresh "p")) []).run ((), ())
    let s : HostSession Unit := .closed "p" (.zeroed 4) () 0
    (∃ f, loaded.1.1 = .error f ∧ f.kind = .instantiation) ∧ loaded.1.2 = some (.fresh "p") ∧
      (s.callAll (fun _ => pure ()) (fun _ => pure (.ok none)) [.clearBytes 4, .format]).history =
        [⟨.format, s.memory, [], .error (.unbound "p")⟩,
          ⟨.clearBytes 4, s.memory, [], .error (.unbound "p")⟩] := by
  intro out decode loaded s
  obtain ⟨ended, -, refused⟩ := Instance.bound_or_untouched (fun _ => 0) decode out "p" [] () ()
  have called := refused (fun _ => pure ()) (fun _ => pure (.ok none)) s (.fresh "p")
    [.clearBytes 4, .format] rfl rfl
  have unfit : (hasty.toModule () : Module Unit Unit).Unfit out
      ⟨(hasty.toModule ()).begin "p" (some (.fresh "p")), (), ()⟩ := .start rfl rfl
  obtain ⟨blamed, untouched⟩ := ended.of_unfit unfit
  exact ⟨blamed, untouched, by rw [called]; rfl⟩

end FormatHost
