import FormatHost.Host.Dispatch
import FormatHost.Proofs.Config.Lenient
import FormatHost.Proofs.Text.Utf8
/-!
# What the pool is asked

A guest stages values piece by piece and then asks for a text to be formatted. Which requests reach the
pool is read off the history of its calls: each value is the bytes that the guest has staged since the
staging area was last emptied, and each value is used once.
-/
namespace FormatHost

/-- What the pool says to a request. -/
abbrev Answer := Except Fault (Option String)

/-- A call of a host function as it was seen from outside: the memory it found, what the pool was asked
meanwhile, and how it ended. -/
structure Sight where
  call : HostCall
  memory : Memory
  asked : List (Request × Answer)
  result : Except Fault (Option Nat)

/-- The calls of one guest, newest first. -/
abbrev History := List Sight

/-- A call that did not fail. -/
def Sight.succeeded (s : Sight) : Bool := s.result.isOk

/-- The formatted text that a request leaves for the guest. -/
def Sight.changed? (s : Sight) : Option String :=
  match s.asked with
  | (_, .ok text) :: _ => text
  | _ => none

/-- The message that a request leaves for the guest. Without an answer the text was no UTF-8. -/
def Sight.complaint? (path : Option Bytes) (staged : Bytes) (s : Sight) : Option String :=
  match s.asked with
  | (_, .error fault) :: _ => some fault.message
  | (_, .ok _) :: _ => none
  | [] =>
    match path.map Utf8.decode, Utf8.decode staged with
    | some (.ok path), .error refusal =>
      some (Fault.invalidEncoding ("text for " ++ path) refusal).message
    | _, _ => none

namespace History

/-- The formatted text that waits for the guest. -/
def formatted : History → Option String
  | [] => none
  | s :: before =>
    match s.call with
    | .format => if s.succeeded then s.changed? else formatted before
    | .getFormattedText => none
    | _ => formatted before

mutual

/-- The staged bytes: those of all successful reads since the staging area was last reset, behind what a
getter put there. A format request resets it only where it found a path, and fails otherwise. -/
def staged : History → Bytes
  | [] => []
  | s :: before =>
    match s.call with
    | .readBuffer pointer length =>
      if s.succeeded then staged before ++ Memory.slice s.memory.bytes pointer length
      else staged before
    | .writeBuffer _ _ _ => staged before
    | .clearBytes _ | .takeOverrideConfig | .takeFilePath => []
    | .format => if s.succeeded then [] else staged before
    | .getFormattedText => Utf8.encode ((formatted before).getD "")
    | .getErrorText => Utf8.encode ((failure before).getD "")

/-- The bytes that the last successful taking of a path consumed, unless a request has used them. -/
def path : History → Option Bytes
  | [] => none
  | s :: before =>
    match s.call with
    | .takeFilePath => if s.succeeded then some (staged before) else path before
    | .format => if s.succeeded then none else path before
    | _ => path before

/-- The message that waits for the guest. -/
def failure : History → Option String
  | [] => none
  | s :: before =>
    match s.call with
    | .format => if s.succeeded then s.complaint? (path before) (staged before) else failure before
    | .getErrorText => none
    | _ => failure before

end

/-- The bytes that the last successful taking of an override consumed, unless a request of any outcome
has come since. A taking that fails consumes its bytes and leaves the override before it. -/
def override : History → Option Bytes
  | [] => none
  | s :: before =>
    match s.call with
    | .takeOverrideConfig => if s.succeeded then some (staged before) else override before
    | .format => none
    | _ => override before

/-- All that the pool was asked, oldest first. -/
def asked : History → List Request
  | [] => []
  | s :: before => asked before ++ s.asked.map Prod.fst

/-- What the pool is asked by a plugin, oldest first: one request for each format request that found a
path and a text. -/
inductive Asks (plugin : String) : History → List Request → Prop where
  | start : Asks plugin [] []
  | other {s : Sight} {before : History} {requests : List Request} (apart : s.call ≠ .format)
      (earlier : Asks plugin before requests) : Asks plugin (s :: before) requests
  | pathless {s : Sight} {before : History} {requests : List Request} (call : s.call = .format)
      (none : before.path = none) (earlier : Asks plugin before requests) :
      Asks plugin (s :: before) requests
  | textless {s : Sight} {before : History} {requests : List Request} (call : s.call = .format)
      (none : ∀ text, before.staged ≠ Utf8.encode text) (earlier : Asks plugin before requests) :
      Asks plugin (s :: before) requests
  | request {s : Sight} {before : History} {requests : List Request} (call : s.call = .format)
      (path text : String) (hasPath : before.path = some (Utf8.encode path))
      (hasText : before.staged = Utf8.encode text) (earlier : Asks plugin before requests) :
      Asks plugin (s :: before)
        (requests ++ [⟨plugin, path, text, (before.override.map ConfigMap.spelled).getD []⟩])

/-- A history says what the pool is asked. -/
theorem Asks.unique {plugin : String} {h : History} {requests requests' : List Request}
    (one : Asks plugin h requests) (other : Asks plugin h requests') : requests = requests' := by
  induction one generalizing requests' with
  | start => cases other; rfl
  | other apart _ ih =>
    cases other with
    | other _ earlier => exact ih earlier
    | pathless call | textless call | request call => exact absurd call apart
  | pathless call none _ ih =>
    cases other with
    | other apart => exact absurd call apart
    | pathless _ _ earlier | textless _ _ earlier => exact ih earlier
    | request _ _ _ hasPath => rw [none] at hasPath; cases hasPath
  | textless call none _ ih =>
    cases other with
    | other apart => exact absurd call apart
    | pathless _ _ earlier | textless _ _ earlier => exact ih earlier
    | request _ _ _ _ hasText => exact absurd hasText (none _)
  | request call path text hasPath hasText _ ih =>
    cases other with
    | other apart => exact absurd call apart
    | pathless _ none => rw [none] at hasPath; cases hasPath
    | textless _ none => exact absurd hasText (none _)
    | request _ _ _ hasPath' hasText' earlier =>
      obtain rfl := Utf8.encode_injective (Option.some.inj (hasPath.symm.trans hasPath'))
      obtain rfl := Utf8.encode_injective (hasText.symm.trans hasText')
      rw [ih earlier]

end History

/-! ### The host functions in use -/

/-- What happens at the boundary: the guest changes its memory or calls a host function, or the host's
stack leaves another room for configurations. -/
inductive Deed where
  | writes (memory : Memory)
  | calls (call : HostCall)
  | leaves (room : Nat)

/-- The host functions of one guest in use, with its memory, whatever lies behind the pool, all calls so
far, and the room that the host's stack has for configurations. -/
structure HostSession (W : Type) where
  table : HostTable
  memory : Memory
  world : W
  history : History
  room : Nat

namespace HostSession

variable {W : Type} (note : LogRecord → StateM W Unit) (pool : Formatter (StateM W))

/-- Log records are noted beside what the pool is asked. -/
def noting (r : LogRecord) : StateM (List (Request × Answer) × W) Unit :=
  fun (log, w) => ((), log, (note r w).2)

/-- The pool with a list of what it was asked and answered. -/
def watched : Formatter (StateM (List (Request × Answer) × W)) :=
  fun request (log, w) =>
    ((pool request w).1, log ++ [(request, (pool request w).1)], (pool request w).2)

/-- One deed. -/
def step (s : HostSession W) : Deed → HostSession W
  | .writes memory => { s with memory }
  | .calls call =>
    let done := (HostTable.call s.room (dispatch (noting note) (some (watched pool))) call s.table
      s.memory).run ([], s.world)
    ⟨done.1.2.1, done.1.2.2, done.2.2, ⟨call, s.memory, done.2.1, done.1.1⟩ :: s.history, s.room⟩
  | .leaves room => { s with room }

/-- The host functions of a plugin when its memory has become known. -/
def opening (plugin : String) (memory : Memory) (world : W) (room : Nat) : HostSession W :=
  ⟨HostTable.bind (some (.fresh plugin)), memory, world, [], room⟩

/-- What becomes of a request that was answered. -/
def outcome : Answer → Outcome
  | .ok none => .unchanged
  | .ok (some text) => .changed text
  | .error fault => .failed fault.message

theorem step_of_finished {s : HostSession W} {b b' : Boundary} {call : HostCall} {memory : Memory}
    {result : Except Fault (Option Nat)} (table : s.table = some b)
    (finished : b.call s.room call s.memory = (.finished result, b', memory)) :
    s.step note pool (.calls call) =
      ⟨some b', memory, s.world, ⟨call, s.memory, [], result⟩ :: s.history, s.room⟩ := by
  simp only [step, table, HostTable.call, finished]
  rfl

/-- A request that is dispatched is put to the pool once. -/
theorem exists_dispatch (request : Request) (w : W) :
    ∃ (answer : Answer) (w' : W),
      (dispatch (noting note) (some (watched pool)) request).run ([], w) =
        (outcome answer, [(request, answer)], w') := by
  obtain ⟨answer, later, answered⟩ : ∃ answer later, pool request (note (.debug dispatchLogger
      ("Plugin " ++ request.caller ++ " requested formatting of " ++ request.path)) w).2 =
        (answer, later) := ⟨_, _, rfl⟩
  have noted (r : LogRecord) (log : List (Request × Answer)) (w : W) :
      (noting note r).run (log, w) = pure ((), log, (note r w).2) := rfl
  have put (log : List (Request × Answer)) (w : W) : (watched pool request).run (log, w) =
      pure ((pool request w).1, log ++ [(request, (pool request w).1)], (pool request w).2) := rfl
  refine ⟨answer, ?_⟩
  simp only [dispatch, StateT.run_bind, noted, pure_bind, put, answered]
  rcases answer with fault | _ | text
  · exact ⟨(note (.warning dispatchLogger ("Nested formatting of " ++ request.path ++
      " for plugin " ++ request.caller ++ " failed: " ++ fault.message)) later).2, rfl⟩
  · exact ⟨later, rfl⟩
  · exact ⟨later, rfl⟩

theorem exists_step_of_asks {s : HostSession W} {b b' : Boundary} {call : HostCall} {memory : Memory}
    {request : Request} (table : s.table = some b)
    (asks : b.call s.room call s.memory = (.asks request, b', memory)) :
    ∃ (answer : Answer) (world : W), s.step note pool (.calls call) =
      ⟨some (b'.conclude (outcome answer)), memory, world,
        ⟨call, s.memory, [(request, answer)], .ok (some (outcome answer).status)⟩ :: s.history,
        s.room⟩ := by
  obtain ⟨answer, world, answered⟩ := exists_dispatch note pool request s.world
  refine ⟨answer, world, ?_⟩
  simp only [step, table, HostTable.call, asks, StateT.run_bind, answered]
  rfl

end HostSession

namespace History

/-- The host's state is what the history says. -/
structure Reflects (plugin : String) (h : History) (b : Boundary) : Prop where
  plugin : b.plugin = plugin
  bound : b.bound = true
  staged : b.buffer.data = h.staged
  path : b.path.value.map Utf8.encode = h.path
  override : b.override.value = h.override.map ConfigMap.spelled
  formatted : b.formatted.value = h.formatted
  failure : b.error.value = h.failure

variable {plugin : String} {h : History} {b b' : Boundary} {m m' : Memory} {room : Nat}

theorem Reflects.fresh (plugin : String) : Reflects plugin [] (Boundary.fresh plugin).bind :=
  ⟨rfl, rfl, rfl, rfl, rfl, rfl, rfl⟩

/-- Calls that are no format request finish, and the history says what they leave. -/
theorem Reflects.finish (r : Reflects plugin h b) {call : HostCall} (apart : call ≠ .format) :
    ∃ result b' m', b.call room call m = (.finished result, b', m') ∧
      Reflects plugin (⟨call, m, [], result⟩ :: h) b' := by
  obtain ⟨named, bound, same, path, override, formatted, failure⟩ := r
  unfold Boundary.call
  rw [if_neg (by simp [bound])]
  cases call with
  | format => exact absurd rfl apart
  | clearBytes length =>
    exact ⟨_, _, _, rfl, named, bound, rfl, path, override, formatted, failure⟩
  | readBuffer pointer length =>
    cases read : m.read pointer length with
    | error e =>
      simp only [Boundary.readBuffer, read]
      exact ⟨_, _, _, rfl, named, bound, same, path, override, formatted, failure⟩
    | ok data =>
      simp only [Boundary.readBuffer, read]
      refine ⟨_, _, _, rfl, named, bound, ?_, path, override, formatted, failure⟩
      rw [Memory.read_eq] at read
      split at read
      · obtain rfl := Except.ok.inj read
        exact congrArg (· ++ _) same
      · cases read
  | writeBuffer pointer offset length =>
    simp only [Boundary.writeBuffer]
    split
    · exact ⟨_, _, _, rfl, named, bound, same, path, override, formatted, failure⟩
    split <;> exact ⟨_, _, _, rfl, named, bound, same, path, override, formatted, failure⟩
  | takeOverrideConfig =>
    simp only [Boundary.takeOverride]
    cases read : ConfigMap.parse room b.buffer.data with
    | error fault => exact ⟨_, _, _, rfl, named, bound, rfl, path, override, formatted, failure⟩
    | ok config =>
      refine ⟨_, _, _, rfl, named, bound, rfl, path, ?_, formatted, failure⟩
      rw [ConfigMap.eq_spelled_of_parse read, same]
      rfl
  | takeFilePath =>
    simp only [Boundary.takePath]
    cases decoded : Utf8.decode b.buffer.data with
    | error refusal => exact ⟨_, _, _, rfl, named, bound, rfl, path, override, formatted, failure⟩
    | ok text =>
      refine ⟨_, _, _, rfl, named, bound, rfl, ?_, override, formatted, failure⟩
      exact congrArg some ((Utf8.decode_eq_ok_iff.1 decoded).symm.trans same)
  | getFormattedText =>
    refine ⟨_, _, _, rfl, named, bound, ?_, path, override, rfl, failure⟩
    exact congrArg (fun text => Utf8.encode (text.getD "")) formatted
  | getErrorText =>
    refine ⟨_, _, _, rfl, named, bound, ?_, path, override, formatted, rfl⟩
    exact congrArg (fun text => Utf8.encode (text.getD "")) failure

/-- A format request without a path or without a text finishes, and the history says what it leaves. -/
theorem Reflects.refuse (r : Reflects plugin h b)
    (lacks : h.path = none ∨ ∀ text, h.staged ≠ Utf8.encode text) :
    ∃ result b', b.call room .format m = (.finished result, b', m) ∧
      Reflects plugin (⟨.format, m, [], result⟩ :: h) b' := by
  obtain ⟨named, bound, same, path, -, formatted, failure⟩ := r
  unfold Boundary.call
  rw [if_neg (by simp [bound])]
  simp only [Boundary.takeRequest]
  cases taken : b.path.value with
  | none =>
    rw [taken] at path
    refine ⟨_, _, rfl, named, bound, same, ?_, rfl, formatted, failure⟩
    rw [taken]
    exact path
  | some text =>
    rw [taken] at path
    cases decoded : Utf8.decode b.buffer.data with
    | ok t =>
      rw [Utf8.decode_eq_ok_iff, same] at decoded
      rcases lacks with pathless | textless
      · rw [pathless] at path
        cases path
      · exact absurd decoded (textless t)
    | error refusal =>
      refine ⟨_, _, rfl, named, bound, rfl, rfl, rfl, rfl, ?_⟩
      have waits : some (Fault.invalidEncoding ("text for " ++ text) refusal).message =
          Sight.complaint? h.path h.staged ⟨.format, m, [], .ok (some 2)⟩ := by
        rw [← path, ← same]
        simp [Sight.complaint?, Utf8.decode_encode, decoded]
      exact waits

/-- A format request with a path and a text is put to the pool, and the history says what the answer
leaves. -/
theorem Reflects.ask (r : Reflects plugin h b) {path text : String}
    (hasPath : h.path = some (Utf8.encode path)) (hasText : h.staged = Utf8.encode text) :
    ∃ b', b.call room .format m = (.asks ⟨plugin, path, text,
        (h.override.map ConfigMap.spelled).getD []⟩, b', m) ∧
      ∀ request answer, Reflects plugin (⟨.format, m, [(request, answer)],
        .ok (some (HostSession.outcome answer).status)⟩ :: h)
          (b'.conclude (HostSession.outcome answer)) := by
  obtain ⟨rfl, bound, same, path', override, -, -⟩ := r
  obtain ⟨text', taken, same'⟩ := Option.map_eq_some_iff.1 (path'.trans hasPath)
  obtain rfl := Utf8.encode_injective same'
  have decoded : Utf8.decode b.buffer.data = .ok text :=
    Utf8.decode_eq_ok_iff.2 (same.trans hasText)
  unfold Boundary.call
  rw [if_neg (by simp [bound])]
  simp only [Boundary.takeRequest, taken, decoded, override]
  refine ⟨_, rfl, fun request answer => ?_⟩
  rcases answer with fault | _ | changed
  · exact ⟨rfl, bound, rfl, rfl, rfl, rfl, rfl⟩
  · exact ⟨rfl, bound, rfl, rfl, rfl, rfl, rfl⟩
  · exact ⟨rfl, bound, rfl, rfl, rfl, rfl, rfl⟩

end History

namespace HostSession

variable {W : Type} (note : LogRecord → StateM W Unit) (pool : Formatter (StateM W))

/-- The session's host functions are where its history leads, and the pool was asked what the history
says. -/
structure Follows (plugin : String) (s : HostSession W) : Prop where
  reflects : ∃ b, s.table = some b ∧ s.history.Reflects plugin b
  asks : s.history.Asks plugin s.history.asked

theorem Follows.opening (plugin : String) (memory : Memory) (world : W) (room : Nat) :
    Follows plugin (opening plugin memory world room) :=
  ⟨⟨_, rfl, .fresh plugin⟩, .start⟩

/-- A format request that lacks its path or its text is not put to the pool. -/
theorem Follows.refuse {plugin : String} {s : HostSession W} (follows : Follows plugin s)
    (lacks : s.history.path = none ∨ ∀ text, s.history.staged ≠ Utf8.encode text) :
    Follows plugin (s.step note pool (.calls .format)) := by
  obtain ⟨⟨b, table, reflects⟩, asks⟩ := follows
  obtain ⟨result, b', finished, after⟩ := reflects.refuse (m := s.memory) lacks
  rw [step_of_finished note pool table finished]
  refine ⟨⟨b', rfl, after⟩, ?_⟩
  simp only [History.asked, List.map_nil, List.append_nil]
  rcases lacks with pathless | textless
  · exact .pathless rfl pathless asks
  · exact .textless rfl textless asks

/-- A format request is put to the pool, or it lacks its path or its text. -/
theorem Follows.format {plugin : String} {s : HostSession W} (follows : Follows plugin s) :
    Follows plugin (s.step note pool (.calls .format)) := by
  obtain ⟨⟨b, table, reflects⟩, asks⟩ := id follows
  have hasPath := reflects.path
  cases taken : b.path.value with
  | none =>
    rw [taken] at hasPath
    exact follows.refuse note pool (.inl hasPath.symm)
  | some path =>
    rw [taken] at hasPath
    cases decoded : Utf8.decode s.history.staged with
    | error refusal =>
      refine follows.refuse note pool (.inr fun text hasText => ?_)
      rw [hasText, Utf8.decode_encode] at decoded
      cases decoded
    | ok text =>
      have hasText := Utf8.decode_eq_ok_iff.1 decoded
      obtain ⟨b', asked, after⟩ := reflects.ask (m := s.memory) hasPath.symm hasText
      obtain ⟨answer, world, done⟩ := exists_step_of_asks note pool table asked
      rw [done]
      exact ⟨⟨_, rfl, after _ answer⟩, .request rfl path text hasPath.symm hasText asks⟩

/-- One deed keeps a session to its history. -/
theorem Follows.step {plugin : String} {s : HostSession W} (follows : Follows plugin s) (deed : Deed) :
    Follows plugin (s.step note pool deed) := by
  cases deed with
  | writes memory | leaves room => exact ⟨follows.reflects, follows.asks⟩
  | calls call =>
    by_cases format : call = .format
    · subst format
      exact follows.format note pool
    · obtain ⟨⟨b, table, reflects⟩, asks⟩ := follows
      obtain ⟨result, b', m', finished, after⟩ := reflects.finish (m := s.memory) format
      rw [step_of_finished note pool table finished]
      refine ⟨⟨b', rfl, after⟩, ?_⟩
      simp only [History.asked, List.map_nil, List.append_nil]
      exact .other format asks

/-- Whatever a guest does with its host functions, the pool is asked exactly what the history of the calls
says. -/
theorem asks_of_run (plugin : String) (memory : Memory) (world : W) (room : Nat) (deeds : List Deed) :
    let history := (deeds.foldl (step note pool) (opening plugin memory world room)).history
    history.Asks plugin history.asked ∧
      ∀ requests, history.Asks plugin requests → requests = history.asked := by
  intro history
  have follows : Follows plugin (deeds.foldl (step note pool) (opening plugin memory world room)) :=
    List.foldlRecOn deeds _ (.opening plugin memory world room) fun _ kept deed _ =>
      kept.step note pool deed
  exact ⟨follows.asks, fun _ asks => asks.unique follows.asks⟩

/-- An override is taken, another is too deep for the room, and a getter stages nothing in front of the
text. -/
def overrideRun : List Deed :=
  [.calls (.readBuffer 0 7), .calls .takeOverrideConfig, .calls (.readBuffer 7 2),
    .calls .takeOverrideConfig, .calls (.readBuffer 9 1), .calls .takeFilePath, .calls .getErrorText,
    .calls (.readBuffer 10 1), .calls .format, .calls .getFormattedText]

/-- The override before the failed taking goes with the request. -/
theorem asks_of_overrideRun :
    let memory : Memory := ⟨Utf8.encode "\x7b\"k\":1\x7d[[fx"⟩
    let s := overrideRun.foldl (step (fun _ => pure ()) fun _ => pure (.ok (some "y")))
      (opening "p" memory () 0)
    let requests := [⟨"p", "f", "x", [([.char 'k'], .int 1)]⟩]
    s.history.map Sight.succeeded =
        [true, true, true, true, true, true, false, true, true, true] ∧
      s.history.asked = requests ∧ s.history.Asks "p" requests := by
  intro memory s requests
  have asked : s.history.asked = requests := by decide +kernel
  refine ⟨by decide +kernel, asked, ?_⟩
  rw [← asked]
  exact (asks_of_run _ _ "p" memory () 0 overrideRun).1

end HostSession

end FormatHost
