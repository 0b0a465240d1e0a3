import FormatHost.Guest.Script
import FormatHost.Proofs.Guest.Computing
import FormatHost.Proofs.Guest.Solitary
import FormatHost.Proofs.Text.Lines
import Mathlib.Data.List.DropRight
/-!
# Scripted plugins as guests

What scripted plugins do, seen as guest code. A script whose formatter computes its answer from what it was
handed depends on nothing but its instance, and a script whose formatter delegates is a delegating guest.
Where the answer comes from the text alone, such a script is a computing guest.
-/
namespace FormatHost

variable {σ ε ω : Type}

/-! ### Behaviours that keep to themselves -/

/-- Two behaviours that do the same with their instance, and nothing outside. What guests share may be
different, and so may be what they put there. -/
inductive Act.Agrees : Act σ ε → Act σ ε → Prop
  | done (result : Int) : Agrees (.done result) (.done result)
  | trap (message : String) : Agrees (.trap message) (.trap message)
  | look {next next' : σ → ε → Act σ ε} (agrees : ∀ s e e', Agrees (next s e) (next' s e')) :
      Agrees (.look next) (.look next')
  | keep (s : σ) (e e' : ε) {next next' : Act σ ε} (agrees : Agrees next next') :
      Agrees (.keep s e next) (.keep s e' next')
  | peek (pointer length : Int) {next next' : Bytes → Act σ ε}
      (agrees : ∀ data, Agrees (next data) (next' data)) :
      Agrees (.peek pointer length next) (.peek pointer length next')
  | poke (pointer : Int) (data : Bytes) {next next' : Act σ ε} (agrees : Agrees next next') :
      Agrees (.poke pointer data next) (.poke pointer data next')

namespace Act.Agrees

/-- In two surroundings with the same instance behaviours that agree have the same result and leave the
same instance. -/
theorem run {act act' : Act σ ε} (agrees : act.Agrees act') (out out' : Outside ε ω)
    (again again' : Again σ ε ω) {s s' : Scene σ ε ω} (same : s'.guest = s.guest) :
    (act'.run out' again' s').1 = (act.run out again s).1 ∧
      (act'.run out' again' s').2.guest = (act.run out again s).2.guest ∧
      Moves s (act.run out again s).2 := by
  induction agrees generalizing s s' with
  | done result => exact ⟨rfl, same, .refl s⟩
  | trap message => exact ⟨rfl, same, .refl s⟩
  | look agrees ih =>
    rw [Act.run, Act.run, same]
    exact ih s.guest.state s.engine s'.engine same
  | keep state e e' agrees ih =>
    let t : Scene σ ε ω := { s with guest := { s.guest with state := state }, engine := e }
    let t' : Scene σ ε ω := { s' with guest := { s'.guest with state := state }, engine := e' }
    have same : t'.guest = t.guest := by simp [t, t', same]
    obtain ⟨result, guest, moves⟩ := ih same
    exact ⟨result, guest, moves.guest, moves.size, moves.world⟩
  | peek pointer length agrees ih =>
    rw [Act.run, Act.run, same]
    cases s.guest.memory.read pointer length with
    | error e => exact ⟨rfl, same, .refl s⟩
    | ok data => exact ih data same
  | poke pointer data agrees ih =>
    rw [Act.run, Act.run, same]
    cases written : s.guest.memory.write pointer data with
    | error e => exact ⟨rfl, same, .refl s⟩
    | ok m =>
      let t : Scene σ ε ω := { s with guest := { s.guest with memory := m } }
      let t' : Scene σ ε ω := { s' with guest := { s.guest with memory := m } }
      have same : t'.guest = t.guest := rfl
      obtain ⟨result, guest, moves⟩ := ih same
      refine ⟨result, guest, moves.guest, ?_, moves.world⟩
      rw [← Memory.size_of_write written]
      exact moves.size

theorem solitary {act : Act σ ε} (agrees : act.Agrees act) : act.Solitary := by
  intro ω out out' again again' s s' same
  obtain ⟨result, guest, moves⟩ := agrees.run out out' again again' same
  exact ⟨result, guest, moves.world⟩

theorem moves {act : Act σ ε} (agrees : act.Agrees act) (out : Outside ε ω) (again : Again σ ε ω)
    (s : Scene σ ε ω) : Moves s (act.run out again s).2 :=
  (agrees.run out out again again rfl).2.2

end Act.Agrees

/-- The steps of a formatter that compute an answer from path, text and override. -/
def FormatStep.Own : FormatStep → Prop
  | .none | .text _ | .append _ | .trim | .echo | .error _ | .status _ | .trap _ => True
  | _ => False

/-- The text without the spaces at the ends of its lines, unless there are none. -/
def Script.trimmed? (text : String) : Option String :=
  if trimLines text = text then none else some (trimLines text)

/-- What the steps answer that go by the text alone. -/
def FormatStep.answer? : FormatStep → Option (String → Option String)
  | .none => some fun _ => .none
  | .text s => some fun _ => some s
  | .append s => some fun text => some (text ++ s)
  | .trim => some Script.trimmed?
  | _ => .none

theorem FormatStep.own_of_answer {step : FormatStep} {f : String → Option String}
    (answers : step.answer? = some f) : step.Own := by
  cases step with
  | none | text | append | trim => trivial
  | _ => cases answers

namespace Script

/-- What scripts keep of the transfers. -/
def view : TransferView ScriptState where
  staged s := s.shared
  path s := Utf8.encode (s.path.getD "")
  formatted s := s.formatted
  error s := s.error

theorem agrees_change (f : ScriptState → ScriptState) {next next' : ScriptAct}
    (agrees : next.Agrees next') : (change f next).Agrees (change f next') :=
  .look fun s e e' => .keep (f s) e e' agrees

theorem agrees_takeText {next next' : String → ScriptAct}
    (agrees : ∀ text, (next text).Agrees (next' text)) :
    (takeText next).Agrees (takeText next') := by
  refine .look fun s e e' => ?_
  cases Utf8.decode s.shared with
  | ok text => exact .keep _ e e' (agrees text)
  | error refusal => exact .keep _ e e' (.trap _)

theorem agrees_returning (result : Int) {act act' : ScriptAct} (agrees : act.Agrees act') :
    (returning result act).Agrees (returning result act') := by
  induction agrees with
  | done r => exact .done result
  | trap message => exact .trap message
  | look agrees ih => exact .look ih
  | keep s e e' agrees ih => exact .keep s e e' ih
  | peek pointer length agrees ih => exact .peek pointer length ih
  | poke pointer data agrees ih => exact .poke pointer data ih

/-- Apart from the formatter, what an export does depends on its instance alone. -/
theorem agrees_effect (script : Script) (key : Bytes) {name : String} {arguments : List Int}
    (other : name ≠ "format") {act : ScriptAct}
    (effect : script.effect key name arguments = some act) : act.Agrees act := by
  unfold Script.effect at effect
  split at effect
  all_goals try cases effect
  · exact .done 3
  · exact .done _
  · exact .done _
  · exact agrees_change _ (.done 0)
  · exact .peek _ _ fun data => agrees_change _ (.done 0)
  · exact .look fun s e e' => .poke _ _ (.done 0)
  · exact agrees_change _ (.done 0)
  · exact agrees_takeText fun t => agrees_change _ (.done 0)
  · exact agrees_takeText fun t => agrees_change _ (.done 0)
  · exact agrees_takeText fun t => agrees_change _ (.done 0)
  · exact agrees_takeText fun t => agrees_change _ (.done 0)
  · refine .look fun s e e' => ?_
    split <;> exact .keep _ e e' (.done _)
  · refine .look fun s e e' => ?_
    split <;> exact .keep _ e e' (.done _)
  · exact absurd rfl other
  · split at effect
    · cases effect
    · cases effect
      exact agrees_change _ (.done _)

/-- What is exported under a name does what the name stands for, or something less. -/
theorem agrees_exports {script : Script} {key : Bytes} {name : String} {arguments : List Int}
    (agrees : ∀ act, script.effect key name arguments = some act → act.Agrees act)
    {act : List Int → ScriptAct} (there : script.exports key name = some act) :
    (act arguments).Agrees (act arguments) := by
  unfold exports at there
  split at there
  · cases there
  split at there
  · cases there
  cases there
  refine agrees_change _ ?_
  have own : ((script.effect key name arguments).getD (.trap "wrong number of arguments")).Agrees
      ((script.effect key name arguments).getD (.trap "wrong number of arguments")) := by
    cases effect : script.effect key name arguments with
    | none => exact .trap _
    | some act => exact agrees act effect
  split
  · exact .trap _
  · split
    · exact agrees_returning _ own
    · exact own

theorem agrees_changed (text : String) : (changed text).Agrees (changed text) :=
  agrees_change _ (.done 1)

theorem agrees_formatStep (script : Script) (path text : String) (override : Option String)
    {step : FormatStep} (own : step.Own) :
    (formatStep script path text override step).Agrees (formatStep script path text override step) := by
  cases step with
  | none => exact .done 0
  | text s => exact agrees_changed s
  | append s => exact agrees_changed _
  | trim =>
    rw [formatStep, changedFrom]
    split
    · exact .done 0
    · exact agrees_changed _
  | echo => exact agrees_changed _
  | error s => exact agrees_change _ (.done 2)
  | status n => exact .done n
  | trap s => exact .trap s
  | block | reenter | delegate | blocks | host => exact own.elim

/-- A step that stands alone is taken at every call. -/
theorem nth?_singleton {α : Type} (a : α) (n : Nat) : nth? [a] n = some a := by
  simp [nth?]

/-- Where the formatter computes its answer, always in the same way, all exports keep to themselves. -/
theorem agrees_of_own {script : Script} {step : FormatStep} (format : script.format = [step])
    (own : step.Own) {key : Bytes} {name : String} {arguments : List Int} {act : List Int → ScriptAct}
    (there : script.exports key name = some act) : (act arguments).Agrees (act arguments) := by
  refine agrees_exports (fun act effect => ?_) there
  by_cases formatter : name = "format"
  · subst formatter
    obtain rfl : script.formatter key = act := Option.some.inj effect
    refine agrees_takeText fun text => .look fun s e e' => .keep _ _ _ ?_
    rw [format, nth?_singleton, nth?_singleton]
    exact agrees_formatStep script _ text _ own
  · exact agrees_effect script key formatter effect

/-- So the script goes by itself. -/
theorem solitary_toModule {script : Script} {step : FormatStep} (format : script.format = [step])
    (own : step.Own) (key : Bytes) : (script.toModule key).Solitary where
  exports _ _ _ there := (agrees_of_own format own there).solitary
  start act starts := absurd starts (by simp [toModule])

/-! ### Scripts that keep to the protocol -/

/-- A script whose exports do what the protocol asks for, none of them replaced. -/
structure Plain (script : Script) : Prop where
  missing : script.missing = []
  traps : script.traps = []
  returns : script.returns = []
  formatted : lookup? script.data "get_formatted_text" = none
  error : lookup? script.data "get_error_text" = none

section

variable {script : Script} {key : Bytes}

/-- The scene in which a call has been logged. -/
def logged (s : Scene ScriptState ScriptCounts ω) (name : String) (arguments : List Int) :
    Scene ScriptState ScriptCounts ω :=
  { s with guest := { s.guest with
    state := { s.guest.state with calls := s.guest.state.calls ++ [(name, arguments)] } } }

theorem moves_logged (s : Scene ScriptState ScriptCounts ω) (name : String) (arguments : List Int) :
    Moves s (logged s name arguments) := ⟨rfl, Nat.le_refl _, rfl⟩

/-- The scene in which a script has changed its own state. -/
def kept (s : Scene ScriptState ScriptCounts ω) (f : ScriptState → ScriptState) :
    Scene ScriptState ScriptCounts ω :=
  { s with guest := { s.guest with state := f s.guest.state } }

theorem moves_kept (s : Scene ScriptState ScriptCounts ω) (f : ScriptState → ScriptState) :
    Moves s (kept s f) := ⟨rfl, Nat.le_refl _, rfl⟩

/-- An export logs its call, and then does what its name stands for. -/
theorem Plain.run (plain : script.Plain) (key : Bytes) (name : String) (arguments : List Int)
    {act : ScriptAct}
    (offered : ((script.effect key name [0, 0]).isNone && (script.effect key name [0]).isNone) = false)
    (effect : script.effect key name arguments = some act) :
    ∃ f, script.exports key name = some f ∧ ∀ {ω : Type} (out : Outside ScriptCounts ω)
      (again : Again ScriptState ScriptCounts ω) (s : Scene ScriptState ScriptCounts ω),
        (f arguments).run out again s = act.run out again (logged s name arguments) := by
  unfold exports
  rw [if_neg (by simp [plain.missing]), if_neg (by simp [offered])]
  refine ⟨_, rfl, fun out again s => ?_⟩
  simp only [plain.traps, plain.returns, lookup?, List.find?_nil, Option.map_none, effect,
    Option.getD_some]
  rfl

theorem Plain.yields (plain : script.Plain) {name : String} {arguments : List Int} {act : ScriptAct}
    (offered : ((script.effect key name [0, 0]).isNone && (script.effect key name [0]).isNone) = false)
    (effect : script.effect key name arguments = some act) {s t : Scene ScriptState ScriptCounts ω}
    {v : Int} (ran : ∀ (out : Outside ScriptCounts ω) (again : Again ScriptState ScriptCounts ω),
      act.run out again (logged s name arguments) = (.ok v, t)) :
    Yields (script.exports key) name arguments s v t := by
  obtain ⟨f, there, runs⟩ := plain.run key name arguments offered effect
  exact ⟨f, there, fun out again => (runs out again s).trans (ran out again)⟩

/-- The part of what is staged that an offset and a length name. -/
theorem sharedPart_eq (data : Bytes) (offset length : Nat) :
    sharedPart data offset length = Memory.slice data offset length := by
  have stop : ¬((offset : Int) + length < 0) := by omega
  have sum : ((offset : Int) + length).toNat = offset + length := by omega
  rw [sharedPart, if_neg stop, sum, Int.toNat_natCast, Memory.slice, List.drop_take,
    Nat.add_sub_cancel_left]

/-! What the exports of such a script do, each in the scene in which its call has been logged. -/

theorem Plain.yields_pointer (plain : script.Plain) (s : Scene ScriptState ScriptCounts ω) :
    Yields (script.exports key) "get_wasm_memory_buffer" [] s script.bufferPointer
      (logged s "get_wasm_memory_buffer" []) :=
  plain.yields rfl rfl fun _ _ => rfl

theorem Plain.yields_size (plain : script.Plain) (s : Scene ScriptState ScriptCounts ω) :
    Yields (script.exports key) "get_wasm_memory_buffer_size" [] s script.bufferSize
      (logged s "get_wasm_memory_buffer_size" []) :=
  plain.yields rfl rfl fun _ _ => rfl

theorem Plain.yields_clear (plain : script.Plain) (s : Scene ScriptState ScriptCounts ω) (n : Nat) :
    Yields (script.exports key) "clear_shared_bytes" [(n : Int)] s 0
      (kept (logged s "clear_shared_bytes" [(n : Int)]) fun x => { x with shared := [] }) :=
  plain.yields rfl rfl fun _ _ => rfl

theorem Plain.yields_append (plain : script.Plain) {s : Scene ScriptState ScriptCounts ω} {data : Bytes}
    (read : s.guest.memory.read script.bufferPointer data.length = .ok data) :
    Yields (script.exports key) "add_to_shared_bytes_from_buffer" [(data.length : Int)] s 0
      (kept (logged s "add_to_shared_bytes_from_buffer" [(data.length : Int)]) fun x =>
        { x with shared := x.shared ++ data }) := by
  refine plain.yields rfl rfl fun out again => ?_
  have there : (logged s "add_to_shared_bytes_from_buffer"
      [(data.length : Int)]).guest.memory.read script.bufferPointer data.length = .ok data := read
  rw [Act.run, there]
  rfl

/-- The window gets a part of what is staged, and the memory keeps its size. -/
theorem Plain.exists_yields_fill (plain : script.Plain) (key : Bytes)
    {s : Scene ScriptState ScriptCounts ω} {offset length : Nat}
    (inside : InRange script.bufferPointer length s.guest.memory.size)
    (most : offset + length ≤ s.guest.state.shared.length) :
    ∃ m : Memory, m.size = s.guest.memory.size ∧
      m.read script.bufferPointer length = .ok (Memory.slice s.guest.state.shared offset length) ∧
      Yields (script.exports key) "set_buffer_with_shared_bytes" [(offset : Int), (length : Int)] s 0
        { logged s "set_buffer_with_shared_bytes" [(offset : Int), (length : Int)] with
          guest := { (logged s "set_buffer_with_shared_bytes" [(offset : Int), (length : Int)]).guest
            with memory := m } } := by
  have size : (Memory.slice s.guest.state.shared offset length).length = length := by
    rw [Memory.slice, List.length_take, List.length_drop]
    omega
  obtain ⟨m, written, same⟩ := Memory.exists_write (size.symm ▸ inside)
  refine ⟨m, same, ?_, plain.yields rfl rfl fun out again => ?_⟩
  · have back := Memory.read_write written
    rwa [size] at back
  · let t := logged s "set_buffer_with_shared_bytes" [(offset : Int), (length : Int)]
    have put : t.guest.memory.write script.bufferPointer
        (sharedPart t.guest.state.shared offset length) = .ok m := by
      rw [sharedPart_eq]
      exact written
    rw [Act.run, Act.run, put]
    rfl

theorem Plain.yields_path (plain : script.Plain) {s : Scene ScriptState ScriptCounts ω} {path : String}
    (staged : s.guest.state.shared = Utf8.encode path) :
    Yields (script.exports key) "set_file_path" [] s 0
      (kept (logged s "set_file_path" []) fun x => { x with shared := [], path := some path }) := by
  refine plain.yields rfl rfl fun out again => ?_
  rw [takeText, Act.run, show Utf8.decode (logged s "set_file_path" []).guest.state.shared = .ok path from
    Utf8.decode_eq_ok_iff.2 staged]
  rfl

theorem Plain.yields_override (plain : script.Plain) {s : Scene ScriptState ScriptCounts ω}
    {text : String} (staged : s.guest.state.shared = Utf8.encode text) :
    Yields (script.exports key) "set_override_config" [] s 0
      (kept (logged s "set_override_config" []) fun x =>
        { x with shared := [], override := some text }) := by
  refine plain.yields rfl rfl fun out again => ?_
  rw [takeText, Act.run, show Utf8.decode (logged s "set_override_config" []).guest.state.shared =
    .ok text from Utf8.decode_eq_ok_iff.2 staged]
  rfl

theorem Plain.yields_formatted (plain : script.Plain) (s : Scene ScriptState ScriptCounts ω) :
    Yields (script.exports key) "get_formatted_text" [] s s.guest.state.formatted.length
      (kept (logged s "get_formatted_text" []) fun x =>
        { x with shared := x.formatted, formatted := [] }) := by
  refine plain.yields rfl rfl fun out again => ?_
  rw [Act.run, plain.formatted]
  rfl

theorem Plain.yields_error (plain : script.Plain) (s : Scene ScriptState ScriptCounts ω) :
    Yields (script.exports key) "get_error_text" [] s s.guest.state.error.length
      (kept (logged s "get_error_text" []) fun x => { x with shared := x.error, error := [] }) := by
  refine plain.yields rfl rfl fun out again => ?_
  rw [Act.run, plain.error]
  rfl

/-- The scene in which a formatter has counted its call and takes its step. -/
def stepping (key : Bytes) (s : Scene ScriptState ScriptCounts ω) : Scene ScriptState ScriptCounts ω :=
  let t := logged s "format" []
  { t with
    guest := { t.guest with state := { t.guest.state with shared := [], override := none } }
    engine := { t.engine with formats := ScriptCounts.bump t.engine.formats key } }

theorem moves_stepping (key : Bytes) (s : Scene ScriptState ScriptCounts ω) : Moves s (stepping key s) :=
  ⟨rfl, Nat.le_refl _, rfl⟩

/-- What the formatter of a plain script does with a text, and with other bytes. -/
theorem Plain.run_due (plain : script.Plain) (key : Bytes) :
    ∃ f, script.exports key "format" = some f ∧ ∀ {ω : Type} (out : Outside ScriptCounts ω)
      (again : Again ScriptState ScriptCounts ω) (s : Scene ScriptState ScriptCounts ω),
      match Utf8.decode s.guest.state.shared with
      | .ok text => (f []).run out again s =
          (formatStep script (s.guest.state.path.getD "") text s.guest.state.override
            ((nth? script.format (ScriptCounts.count s.engine.formats key)).getD .none)).run out again
              (stepping key s)
      | .error refusal => (f []).run out again s =
          (.error (.trap refusal.message),
            kept (logged s "format" []) fun x => { x with shared := [] }) := by
  obtain ⟨f, there, runs⟩ := plain.run key "format" [] rfl rfl
  refine ⟨f, there, fun out again s => ?_⟩
  have same : (logged s "format" []).guest.state.shared = s.guest.state.shared := rfl
  rw [runs, formatter, takeText, Act.run, same]
  cases Utf8.decode s.guest.state.shared with
  | error refusal => rfl
  | ok text => rfl

/-- A formatter with a single step takes it at every call. -/
theorem Plain.run_step (plain : script.Plain) {step : FormatStep} (format : script.format = [step])
    (key : Bytes) :
    ∃ f, script.exports key "format" = some f ∧ ∀ {ω : Type} (out : Outside ScriptCounts ω)
      (again : Again ScriptState ScriptCounts ω) (s : Scene ScriptState ScriptCounts ω),
      match Utf8.decode s.guest.state.shared with
      | .ok text => (f []).run out again s =
          (formatStep script (s.guest.state.path.getD "") text s.guest.state.override step).run out again
            (stepping key s)
      | .error refusal => (f []).run out again s =
          (.error (.trap refusal.message),
            kept (logged s "format" []) fun x => { x with shared := [] }) := by
  obtain ⟨f, there, runs⟩ := plain.run_due key
  refine ⟨f, there, fun out again s => ?_⟩
  have due := runs out again s
  rwa [format, nth?_singleton, Option.getD_some] at due

theorem carries_exports (plain : script.Plain) :
    Carries view script.bufferPointer script.bufferSize (script.exports key) where
  window s := ⟨_, plain.yields_pointer s, moves_logged s _ _⟩
  size s := ⟨_, plain.yields_size s, moves_logged s _ _⟩
  clear s n := ⟨0, _, plain.yields_clear s n, (moves_logged s _ _).trans (moves_kept _ _), rfl, rfl⟩
  append s data read :=
    ⟨0, _, plain.yields_append read, (moves_logged s _ _).trans (moves_kept _ _), rfl, rfl⟩
  take s path staged :=
    ⟨0, _, plain.yields_path staged, (moves_logged s _ _).trans (moves_kept _ _), staged.symm⟩
  fill s offset length inside most := by
    obtain ⟨m, same, back, yields⟩ := plain.exists_yields_fill key inside most
    exact ⟨0, _, yields, ⟨rfl, Nat.le_of_eq same.symm, rfl⟩, rfl, back⟩
  formatted s := ⟨_, plain.yields_formatted s, (moves_logged s _ _).trans (moves_kept _ _), rfl⟩
  error s := ⟨_, plain.yields_error s, (moves_logged s _ _).trans (moves_kept _ _), rfl⟩

end

/-! ### Scripts that compute -/

theorem mem_of_mem_trimLine {line : List Char} {c : Char} (mem : c ∈ trimLine line) : c ∈ line := by
  have mem : c ∈ line.reverse.dropWhile (· == ' ') := List.mem_reverse.1 mem
  exact List.mem_reverse.1 ((List.dropWhile_suffix _).subset mem)

/-- Lines that were trimmed stay as they are. -/
theorem trimLines_trimLines (text : String) : trimLines (trimLines text) = trimLines text := by
  have some : (Text.lines text.toList).map trimLine ≠ [] := fun empty =>
    Text.splitAt_ne_nil _ _ (List.map_eq_nil_iff.1 empty)
  have whole : ∀ l ∈ (Text.lines text.toList).map trimLine, '\n' ∉ l := by
    intro l listed mem
    obtain ⟨line, there, rfl⟩ := List.mem_map.1 listed
    exact absurd (Text.mem_of_mem_splitAt there (mem_of_mem_trimLine mem)).2 (by decide)
  have again : trimLine ∘ trimLine = trimLine := by
    funext line
    simp [trimLine, List.dropWhile_idempotent]
  rw [trimLines, trimLines, String.toList_ofList, Text.lines_unlines some whole, List.map_map, again]

/-- Trimmed lines have no characters that the text does not have. -/
theorem mem_of_mem_trimLines {text : String} {c : Char} (mem : c ∈ (trimLines text).toList) :
    c = '\n' ∨ c ∈ text.toList := by
  rw [trimLines, String.toList_ofList] at mem
  refine (Text.mem_of_mem_unlines mem).imp_right fun ⟨l, listed, mem⟩ => ?_
  obtain ⟨line, there, rfl⟩ := List.mem_map.1 listed
  exact (Text.mem_of_mem_splitAt there (mem_of_mem_trimLine mem)).1

theorem eq_trimLines_of_trimmed? {text formatted : String} (trimmed : trimmed? text = some formatted) :
    formatted = trimLines text := by
  unfold trimmed? at trimmed
  split at trimmed
  · exact absurd trimmed (by simp)
  · exact (Option.some.inj trimmed).symm

/-- A step that answers ends the call with its answer. -/
theorem yields_formatStep (script : Script) (path text : String) (override : Option String)
    {step : FormatStep} {f : String → Option String} (answers : step.answer? = some f)
    (s : Scene ScriptState ScriptCounts ω) :
    ∃ t, Moves s t ∧ view.Keeps (.ofAnswer (f text)) t.guest.state ∧
      ∀ (out : Outside ScriptCounts ω) (again : Again ScriptState ScriptCounts ω),
        (formatStep script path text override step).run out again s =
          (.ok (Outcome.ofAnswer (f text)).status, t) := by
  have unchanged : ∃ t, Moves s t ∧ view.Keeps .unchanged t.guest.state ∧
      ∀ (out : Outside ScriptCounts ω) (again : Again ScriptState ScriptCounts ω),
        (Act.done 0 : ScriptAct).run out again s = (.ok Outcome.unchanged.status, t) :=
    ⟨s, .refl s, trivial, fun _ _ => rfl⟩
  have changed (text : String) : ∃ t, Moves s t ∧ view.Keeps (.changed text) t.guest.state ∧
      ∀ (out : Outside ScriptCounts ω) (again : Again ScriptState ScriptCounts ω),
        (Script.changed text).run out again s = (.ok (Outcome.changed text).status, t) :=
    ⟨{ s with guest := { s.guest with
      state := { s.guest.state with formatted := Utf8.encode text } } },
      ⟨rfl, Nat.le_refl _, rfl⟩, rfl, fun _ _ => rfl⟩
  cases step with
  | none => cases answers; exact unchanged
  | text s => cases answers; exact changed s
  | append s => cases answers; exact changed _
  | trim =>
    cases answers
    simp only [formatStep, changedFrom, trimmed?]
    split
    · exact unchanged
    · exact changed _
  | _ => cases answers

/-- A plain script whose formatter answers with a function of the text is a computing guest. -/
theorem computes_toModule {script : Script} (plain : script.Plain) {pred : Nat}
    (size : script.bufferSize = (pred + 1 : Nat)) (nonneg : 0 ≤ script.bufferPointer)
    (room : script.bufferPointer + (pred + 1 : Nat) ≤ script.memorySize) {step : FormatStep}
    (format : script.format = [step]) {f : String → Option String} (answers : step.answer? = some f)
    (key : Bytes) :
    (script.toModule key).Computes ⟨view, script.bufferPointer, pred, fun _ text => f text⟩ where
  exports :=
    { carries := by
        rw [← size]
        exact carries_exports plain
      aside := fun out again s _ _ _ there =>
        (agrees_of_own format (FormatStep.own_of_answer answers) there).moves out again s
      format := fun {ω} s path text _ staged => by
        obtain ⟨act, there, runs⟩ := plain.run_step format key
        obtain ⟨t, more, keeps, ended⟩ := yields_formatStep script (s.guest.state.path.getD "") text
          s.guest.state.override answers (stepping key s)
        refine ⟨t, ⟨act, there, fun out again => ?_⟩, (moves_stepping key s).trans more, keeps⟩
        have ran := runs out again s
        rw [show Utf8.decode s.guest.state.shared = .ok text from Utf8.decode_eq_ok_iff.2 staged] at ran
        exact ran.trans (ended out again)
      nonneg := nonneg }
  room := room
  start out again s act starts := absurd starts (by simp [toModule])

/-! ### Scripts that delegate -/

/-- What a script asks for that delegates its texts to a path. -/
def delegation (script : Script) (pred : Nat) (path : String) (override : Option String) :
    Delegation where
  start := script.bufferPointer
  pred
  place := stagePointer
  part := pred
  limit := script.memorySize
  path
  override

/-- How such a script goes on with the outcome. -/
def passOn : Outcome → ScriptAct
  | .unchanged => .done 0
  | .changed text => changed text
  | .failed message => failed message

theorem answers_passOn : Answers view passOn where
  silent outcome := by
    cases outcome with
    | unchanged => trivial
    | changed text => exact fun _ _ => trivial
    | failed message => exact fun _ _ => trivial
  yields s outcome := by
    cases outcome with
    | unchanged => exact ⟨s, .refl s, trivial, fun _ _ => rfl⟩
    | changed text =>
      exact ⟨{ s with guest := { s.guest with
        state := { s.guest.state with formatted := Utf8.encode text } } },
        ⟨rfl, Nat.le_refl _, rfl⟩, rfl, fun _ _ => rfl⟩
    | failed message =>
      exact ⟨{ s with guest := { s.guest with
        state := { s.guest.state with error := Utf8.encode message } } },
        ⟨rfl, Nat.le_refl _, rfl⟩, rfl, fun _ _ => rfl⟩

/-- A script whose formatter delegates, always in the same way, is a delegating guest. -/
theorem delegates_toModule {script : Script} (plain : script.Plain) {pred : Nat}
    (size : script.bufferSize = (pred + 1 : Nat)) {path : String} (named : path.isEmpty = false)
    {override : Option String} (format : script.format = [.delegate (some path) override])
    (key : Bytes) :
    (script.toModule key).Delegates view (script.delegation pred path override) where
  exports :=
    { carries := by
        rw [delegation, ← size]
        exact carries_exports plain
      aside := fun out again s name act arguments other there =>
        (agrees_exports (fun _ effect => agrees_effect script key other effect) there).moves out again s
      format := by
        obtain ⟨act, there, runs⟩ := plain.run_step format key
        refine ⟨act, passOn, there, answers_passOn, fun out again s => ?_⟩
        have ran := runs out again s
        cases decoded : Utf8.decode s.guest.state.shared with
        | ok text =>
          have whole : s.guest.state.shared = Utf8.encode text := Utf8.decode_eq_ok_iff.1 decoded
          refine ⟨fun text' staged => ⟨stepping key s, moves_stepping key s, ?_⟩,
            fun other => absurd whole (other text)⟩
          obtain rfl : text = text' := Utf8.encode_injective (whole.symm.trans staged)
          rw [decoded] at ran
          rw [ran]
          simp only [formatStep, named, askHost, size]
          rfl
        | error refusal =>
          refine ⟨fun text staged => ?_, fun other => ?_⟩
          · exact absurd (decoded.symm.trans (Utf8.decode_eq_ok_iff.2 staged)) (by simp)
          · rw [decoded] at ran
            simp only [ran]
            exact (moves_logged s _ _).trans (moves_kept _ _) }
  size := rfl
  start out again s act starts := absurd starts (by simp [toModule])

end Script

end FormatHost
