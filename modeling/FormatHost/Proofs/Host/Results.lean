import FormatHost.Proofs.Host.Requests
/-!
# Formatted texts and messages

What becomes of a format request waits in one of two slots until the guest calls for it. Whatever a guest
calls, in whatever order, before or after its memory has become known, at most one of the slots is filled.
A result is handed out once, and only until the next request that uses up a path.
-/
namespace FormatHost

/-- What a format request may leave for the guest. -/
inductive ResultKind where
  | text
  | message
  deriving DecidableEq, Repr

/-- The host function that hands out a kind of result. -/
def ResultKind.getter : ResultKind → HostCall
  | text => .getFormattedText
  | message => .getErrorText

namespace Boundary

variable {b : Boundary} {m : Memory} {room : Nat}

/-- The result of a kind that waits for the guest. -/
def waiting (kind : ResultKind) (b : Boundary) : Option String :=
  match kind with
  | .text => b.formatted.value
  | .message => b.error.value

/-- At most one result waits, and none before the memory is known. -/
structure Orderly (b : Boundary) : Prop where
  alone : b.waiting .text = none ∨ b.waiting .message = none
  silent : b.bound = false → ∀ kind, b.waiting kind = none

theorem Orderly.fresh (plugin : String) : Orderly (fresh plugin) :=
  ⟨.inl rfl, fun _ kind => by cases kind <;> rfl⟩

theorem Orderly.bind (orderly : Orderly b) : Orderly b.bind :=
  ⟨orderly.alone, fun unbound => nomatch unbound⟩

/-- Calls that are no format request touch a slot only to hand it out. -/
theorem exists_finished (bound : b.bound = true) {call : HostCall} (apart : call ≠ .format) :
    ∃ result b' m', b.call room call m = (.finished result, b', m') ∧ b'.bound = true ∧
      ∀ kind, b'.waiting kind = if call = kind.getter then none else b.waiting kind := by
  unfold Boundary.call
  rw [if_neg (by simp [bound])]
  cases call with
  | format => exact absurd rfl apart
  | clearBytes length => exact ⟨_, _, _, rfl, bound, fun kind => by cases kind <;> rfl⟩
  | readBuffer pointer length =>
    cases read : m.read pointer length with
    | error e =>
      simp only [readBuffer, read]
      exact ⟨_, _, _, rfl, bound, fun kind => by cases kind <;> rfl⟩
    | ok data =>
      simp only [readBuffer, read]
      exact ⟨_, _, _, rfl, bound, fun kind => by cases kind <;> rfl⟩
  | writeBuffer pointer offset length =>
    simp only [writeBuffer]
    split
    · exact ⟨_, _, _, rfl, bound, fun kind => by cases kind <;> rfl⟩
    split <;> exact ⟨_, _, _, rfl, bound, fun kind => by cases kind <;> rfl⟩
  | takeOverrideConfig =>
    simp only [takeOverride]
    split <;> exact ⟨_, _, _, rfl, bound, fun kind => by cases kind <;> rfl⟩
  | takeFilePath =>
    simp only [takePath]
    split <;> exact ⟨_, _, _, rfl, bound, fun kind => by cases kind <;> rfl⟩
  | getFormattedText | getErrorText =>
    exact ⟨_, _, _, rfl, bound, fun kind => by cases kind <;> rfl⟩

/-- A getter stages what waits and returns its length. -/
theorem call_getter (bound : b.bound = true) (kind : ResultKind) :
    let data := Utf8.encode ((b.waiting kind).getD "")
    ∃ b', b.call room kind.getter m = (.finished (.ok (some data.length)), b', m) ∧
      b'.buffer.data = data := by
  intro data
  unfold Boundary.call
  rw [if_neg (by simp [bound])]
  cases kind with
  | text | message => exact ⟨_, rfl, rfl⟩

/-- A format request without a path fails and leaves what waits. -/
theorem call_format_pathless (bound : b.bound = true) (pathless : b.path.value = none) :
    ∃ b', b.call room .format m = (fails (.pathMissing b.plugin), b', m) ∧ b'.bound = true ∧
      ∀ kind, b'.waiting kind = b.waiting kind := by
  unfold Boundary.call
  rw [if_neg (by simp [bound])]
  simp only [takeRequest, pathless]
  exact ⟨_, rfl, bound, fun kind => by cases kind <;> rfl⟩

/-- A call that uses up no path: every result waits on, or has just been handed out. -/
theorem Orderly.call_of_spared (orderly : b.Orderly) {call : HostCall}
    (spared : call = .format → b.bound = true → b.path.value = none) :
    ∃ result b' m', b.call room call m = (.finished result, b', m') ∧ b'.Orderly ∧ b'.bound = b.bound ∧
      ∀ kind, b'.waiting kind = if call = kind.getter then none else b.waiting kind := by
  cases bound : b.bound with
  | false =>
    refine ⟨_, b, m, call_of_unbound bound call, orderly, bound, fun kind => ?_⟩
    rw [orderly.silent bound kind, ite_self]
  | true =>
    by_cases format : call = .format
    · subst format
      obtain ⟨b', failed, known, same⟩ := call_format_pathless (m := m) bound (spared rfl bound)
      refine ⟨_, b', m, failed, ⟨?_, by simp [known]⟩, known, fun kind => ?_⟩
      · rw [same, same]
        exact orderly.alone
      · rw [same, if_neg (by cases kind <;> decide)]
    · obtain ⟨result, b', m', finished, known, left⟩ := exists_finished (m := m) bound format
      refine ⟨result, b', m', finished, ⟨?_, by simp [known]⟩, known, left⟩
      rw [left, left]
      rcases orderly.alone with text | message
      · simp [text]
      · simp [message]

/-- A format request with a path drops what waits. It answers at once that the text is no UTF-8, or puts
the request. -/
theorem call_format_path (bound : b.bound = true) {path : String} (taken : b.path.value = some path) :
    (∃ b' message, b.call room .format m = (.finished (.ok (some 2)), b', m) ∧ b'.bound = true ∧
        b'.waiting .text = none ∧ b'.waiting .message = some message) ∨
      ∃ b' request, b.call room .format m = (.asks request, b', m) ∧ b'.bound = true ∧
        ∀ kind, b'.waiting kind = none := by
  unfold Boundary.call
  rw [if_neg (by simp [bound])]
  simp only [takeRequest, taken]
  split
  · exact .inl ⟨_, _, rfl, bound, rfl, rfl⟩
  · exact .inr ⟨_, _, rfl, bound, fun kind => by cases kind <;> rfl⟩

end Boundary

/-- What happens at the boundary: the memory becomes known, or the guest does something. -/
inductive Turn where
  | connects
  | acts (deed : Deed)

namespace HostSession

variable {W : Type} (note : LogRecord → StateM W Unit) (pool : Option (Formatter (StateM W)))

/-- One turn, with or without a pool behind the host functions. -/
def take (s : HostSession W) : Turn → HostSession W
  | .connects => { s with table := s.table.bind }
  | .acts (.writes memory) => { s with memory }
  | .acts (.calls call) =>
    let done := (HostTable.call s.room (dispatch (noting note) (pool.map watched)) call s.table
      s.memory).run ([], s.world)
    ⟨done.1.2.1, done.1.2.2, done.2.2, ⟨call, s.memory, done.2.1, done.1.1⟩ :: s.history, s.room⟩
  | .acts (.leaves room) => { s with room }

/-- The host functions of a plugin before its memory is known. -/
def closed (plugin : String) (memory : Memory) (world : W) (room : Nat) : HostSession W :=
  ⟨some (.fresh plugin), memory, world, [], room⟩

/-- The result of a kind that waits for the guest. -/
def waiting (kind : ResultKind) (s : HostSession W) : Option String :=
  Option.bind s.table (Boundary.waiting kind)

/-- The staged bytes. -/
def staged (s : HostSession W) : Bytes := (s.table.map (·.buffer.data)).getD []

/-- A format request would find a path now. -/
def Ready (s : HostSession W) : Prop :=
  ∃ b path, s.table = some b ∧ b.bound = true ∧ b.path.value = some path

/-- In none of these turns does a format request use up a path. -/
def Spares (s : HostSession W) : List Turn → Prop
  | [] => True
  | turn :: rest =>
    ¬ (turn = .acts (.calls .format) ∧ s.Ready) ∧ (s.take note pool turn).Spares rest

/-- How a format request that uses up a path ends: its status says which result waits from now on. -/
inductive Settles (s t : HostSession W) : Prop where
  | unchanged (request : Request)
      (seen : t.history = ⟨.format, s.memory, [(request, .ok none)], .ok (some 0)⟩ :: s.history)
      (text : t.waiting .text = none) (message : t.waiting .message = none)
  | changed (request : Request) (text : String)
      (seen : t.history = ⟨.format, s.memory, [(request, .ok (some text))], .ok (some 1)⟩ :: s.history)
      (waits : t.waiting .text = some text) (message : t.waiting .message = none)
  | failed (asked : List (Request × Answer)) (message : String)
      (seen : t.history = ⟨.format, s.memory, asked, .ok (some 2)⟩ :: s.history)
      (said : ∀ x ∈ asked, ∃ fault, x.2 = .error fault ∧ message = fault.message)
      (text : t.waiting .text = none) (waits : t.waiting .message = some message)

/-- A getter called now returns the length of these bytes and stages them. -/
def Hands (kind : ResultKind) (data : Bytes) (s : HostSession W) : Prop :=
  let t := s.take note pool (.acts (.calls kind.getter))
  t.history = ⟨kind.getter, s.memory, [], .ok (some data.length)⟩ :: s.history ∧ t.staged = data

/-- A call fails now and leaves every result where it is. -/
def Refuses (call : HostCall) (s : HostSession W) : Prop :=
  let t := s.take note pool (.acts (.calls call))
  (∃ fault, t.history = ⟨call, s.memory, [], .error fault⟩ :: s.history) ∧
    ∀ kind, t.waiting kind = s.waiting kind

theorem take_of_finished {s : HostSession W} {b b' : Boundary} {call : HostCall} {memory : Memory}
    {result : Except Fault (Option Nat)} (table : s.table = some b)
    (finished : b.call s.room call s.memory = (.finished result, b', memory)) :
    s.take note pool (.acts (.calls call)) =
      ⟨some b', memory, s.world, ⟨call, s.memory, [], result⟩ :: s.history, s.room⟩ := by
  simp only [take, table, HostTable.call, finished]
  rfl

/-- A request is put to the pool, or it fails for want of one. -/
theorem exists_take_of_asks {s : HostSession W} {b b' : Boundary} {call : HostCall} {memory : Memory}
    {request : Request} (table : s.table = some b)
    (asks : b.call s.room call s.memory = (.asks request, b', memory)) :
    (∃ (answer : Answer) (world : W), s.take note pool (.acts (.calls call)) =
        ⟨some (b'.conclude (outcome answer)), memory, world,
          ⟨call, s.memory, [(request, answer)], .ok (some (outcome answer).status)⟩ :: s.history,
          s.room⟩) ∨
      ∃ message, s.take note pool (.acts (.calls call)) =
        ⟨some (b'.conclude (.failed message)), memory, s.world,
          ⟨call, s.memory, [], .ok (some 2)⟩ :: s.history, s.room⟩ := by
  cases pool with
  | some pool => exact .inl (exists_step_of_asks note pool table asks)
  | none =>
    refine .inr ⟨Fault.named request.caller ++ " has no plugin pool to format with", ?_⟩
    simp only [take, table, HostTable.call, asks]
    rfl

variable {s : HostSession W} {b : Boundary}

/-- A getter hands out what waits. -/
theorem hands_of_bound (table : s.table = some b) (bound : b.bound = true) (kind : ResultKind) :
    s.Hands note pool kind (Utf8.encode ((s.waiting kind).getD "")) := by
  obtain ⟨b', finished, staged⟩ := b.call_getter (m := s.memory) bound kind
  have waits : s.waiting kind = b.waiting kind := by rw [waiting, table, Option.bind_some]
  rw [Hands, take_of_finished note pool table finished, waits]
  exact ⟨rfl, staged⟩

theorem refuses_of_unbound (table : s.table = some b) (unbound : b.bound = false) (call : HostCall) :
    s.Refuses note pool call := by
  rw [Refuses, take_of_finished note pool table (b.call_of_unbound unbound call)]
  exact ⟨⟨_, rfl⟩, fun kind => by rw [waiting, waiting, table]⟩

/-- A format request that finds no path fails. -/
theorem refuses_of_not_ready (table : s.table = some b) (idle : ¬ s.Ready) :
    s.Refuses note pool .format := by
  cases bound : b.bound with
  | false => exact refuses_of_unbound note pool table bound .format
  | true =>
    cases path : b.path.value with
    | some text => exact absurd ⟨b, text, table, bound, path⟩ idle
    | none =>
      obtain ⟨b', failed, -, same⟩ := b.call_format_pathless (m := s.memory) bound path
      rw [Refuses, take_of_finished note pool table failed]
      exact ⟨⟨_, rfl⟩, fun kind => by rw [waiting, waiting, table]; exact same kind⟩

/-- A format request that finds a path leaves one result at most. -/
theorem settles_of_ready (ready : s.Ready) :
    let t := s.take note pool (.acts (.calls .format))
    (∃ b, t.table = some b ∧ b.bound = true ∧ b.Orderly) ∧ s.Settles t := by
  obtain ⟨b, path, table, bound, taken⟩ := ready
  intro t
  rcases b.call_format_path (m := s.memory) bound taken with
    ⟨b', message, finished, known, text, waits⟩ | ⟨b', request, asks, known, clear⟩
  · have after := take_of_finished note pool table finished
    rw [show t = _ from after]
    exact ⟨⟨b', rfl, known, .inl text, by simp [known]⟩,
      .failed [] message rfl (by simp) text waits⟩
  · rcases exists_take_of_asks note pool table asks with ⟨answer, world, after⟩ | ⟨message, after⟩
    · rw [show t = _ from after]
      rcases answer with fault | _ | text
      · exact ⟨⟨_, rfl, known, .inl (clear .text), by simp [known, Boundary.conclude, outcome]⟩,
          .failed _ fault.message rfl (by simp) (clear .text) rfl⟩
      · exact ⟨⟨_, rfl, known, .inl (clear .text), by simp [known, Boundary.conclude, outcome]⟩,
          .unchanged request rfl (clear .text) (clear .message)⟩
      · exact ⟨⟨_, rfl, known, .inr (clear .message), by simp [known, Boundary.conclude, outcome]⟩,
          .changed request text rfl rfl (clear .message)⟩
    · rw [show t = _ from after]
      exact ⟨⟨_, rfl, known, .inl (clear .text), by simp [known, Boundary.conclude]⟩,
        .failed [] message rfl (by simp) (clear .text) rfl⟩

/-- A turn that uses up no path: every result waits on, or has just been handed out. -/
theorem take_of_spared (table : s.table = some b) (orderly : b.Orderly) {turn : Turn}
    (spared : ¬ (turn = .acts (.calls .format) ∧ s.Ready)) :
    ∃ b', (s.take note pool turn).table = some b' ∧ b'.Orderly ∧ (b.bound = true → b'.bound = true) ∧
      ∀ kind, (turn = .acts (.calls kind.getter) → b'.waiting kind = none) ∧
        (turn ≠ .acts (.calls kind.getter) → b'.waiting kind = b.waiting kind) := by
  match turn with
  | .connects =>
    refine ⟨b.bind, by rw [take, table]; rfl, orderly.bind, fun _ => rfl, fun kind => ⟨nofun, ?_⟩⟩
    exact fun _ => by cases kind <;> rfl
  | .acts (.writes memory) | .acts (.leaves room) =>
    exact ⟨b, table, orderly, id, fun kind => ⟨nofun, fun _ => rfl⟩⟩
  | .acts (.calls call) =>
    have pathless (format : call = .format) (bound : b.bound = true) : b.path.value = none := by
      cases path : b.path.value with
      | none => rfl
      | some text => exact absurd ⟨by rw [format], b, text, table, bound, path⟩ spared
    obtain ⟨result, b', memory, finished, orderly', same, left⟩ :=
      orderly.call_of_spared (m := s.memory) pathless
    rw [take_of_finished note pool table finished]
    refine ⟨b', rfl, orderly', same.trans, fun kind => ⟨fun getter => ?_, fun other => ?_⟩⟩
    · cases getter
      rw [left, if_pos rfl]
    · rw [left, if_neg fun getter => other (by rw [getter])]

/-- Turns that use up no path: every result waits on until it is handed out. -/
theorem foldl_take_of_spares {between : List Turn} (table : s.table = some b) (orderly : b.Orderly)
    (spares : s.Spares note pool between) :
    ∃ b', (between.foldl (take note pool) s).table = some b' ∧ b'.Orderly ∧
      (b.bound = true → b'.bound = true) ∧
      ∀ kind, (b.waiting kind = none → b'.waiting kind = none) ∧
        (.acts (.calls kind.getter) ∈ between → b'.waiting kind = none) ∧
        (.acts (.calls kind.getter) ∉ between → b'.waiting kind = b.waiting kind) := by
  induction between generalizing s b with
  | nil => exact ⟨b, table, orderly, id, fun kind => ⟨id, nofun, fun _ => rfl⟩⟩
  | cons turn rest ih =>
    obtain ⟨b₁, table₁, orderly₁, known₁, now⟩ := take_of_spared note pool table orderly spares.1
    obtain ⟨b₂, table₂, orderly₂, known₂, later⟩ := ih table₁ orderly₁ spares.2
    refine ⟨b₂, table₂, orderly₂, known₂ ∘ known₁, fun kind => ?_⟩
    obtain ⟨handed, waits⟩ := now kind
    obtain ⟨gone, handed', waits'⟩ := later kind
    have gone₁ (nothing : b.waiting kind = none) : b₁.waiting kind = none := by
      by_cases getter : turn = .acts (.calls kind.getter)
      · exact handed getter
      · exact (waits getter).trans nothing
    refine ⟨gone ∘ gone₁, fun mem => ?_, fun never => ?_⟩
    · exact (List.mem_cons.1 mem).elim (fun same => gone (handed same.symm)) handed'
    · rw [List.mem_cons, not_or] at never
      exact (waits' never.2).trans (waits (Ne.symm never.1))

/-- One turn keeps the results in order. -/
theorem orderly_take (table : s.table = some b) (orderly : b.Orderly) (turn : Turn) :
    ∃ b', (s.take note pool turn).table = some b' ∧ b'.Orderly := by
  by_cases uses : turn = .acts (.calls .format) ∧ s.Ready
  · obtain ⟨rfl, ready⟩ := uses
    obtain ⟨⟨b', table', -, orderly'⟩, -⟩ := settles_of_ready note pool ready
    exact ⟨b', table', orderly'⟩
  · obtain ⟨b', table', orderly', -⟩ := take_of_spared note pool table orderly uses
    exact ⟨b', table', orderly'⟩

theorem orderly_foldl_take (table : s.table = some b) (orderly : b.Orderly) (turns : List Turn) :
    ∃ b', (turns.foldl (take note pool) s).table = some b' ∧ b'.Orderly := by
  induction turns generalizing s b with
  | nil => exact ⟨b, table, orderly⟩
  | cons turn rest ih =>
    obtain ⟨b', table', orderly'⟩ := orderly_take note pool table orderly turn
    exact ih table' orderly'

/-- Whatever happens at the boundary, at most one result waits. A format request that finds a path says
by its status which one waits from then on, and a format request that finds none changes nothing. Until
the next request that uses up a path the first call of the getter hands the result out and all others
hand out nothing, so no result outlives such a request. -/
theorem results_of_run (plugin : String) (memory : Memory) (world : W) (room : Nat)
    (turns : List Turn) :
    let start := closed plugin memory world room
    let s := turns.foldl (take note pool) start
    let t := s.take note pool (.acts (.calls .format))
    (s.waiting .text = none ∨ s.waiting .message = none) ∧
    (s.Ready → s.Settles t) ∧ (¬ s.Ready → s.Refuses note pool .format) ∧
    (∀ kind between, s.Ready → t.Spares note pool between →
      let u := between.foldl (take note pool) t
      (.acts (.calls kind.getter) ∉ between →
        u.Hands note pool kind (Utf8.encode ((t.waiting kind).getD ""))) ∧
      (.acts (.calls kind.getter) ∈ between → u.Hands note pool kind [])) ∧
    ∀ kind, start.Spares note pool turns →
      s.Hands note pool kind [] ∨ s.Refuses note pool kind.getter := by
  intro start s t
  have begins : Boundary.Orderly (.fresh plugin) := .fresh plugin
  obtain ⟨b, table, orderly⟩ := orderly_foldl_take note pool (s := start) rfl begins turns
  have waits {u : HostSession W} {b : Boundary} (table : u.table = some b) (kind : ResultKind) :
      u.waiting kind = b.waiting kind := by
    rw [waiting, table, Option.bind_some]
  refine ⟨?_, fun ready => (settles_of_ready note pool ready).2,
    refuses_of_not_ready note pool table, fun kind between ready spares => ?_,
    fun kind spares => ?_⟩
  · rw [waits table, waits table]
    exact orderly.alone
  · intro u
    obtain ⟨⟨b', table', known, orderly'⟩, -⟩ := settles_of_ready note pool ready
    obtain ⟨b₂, table₂, -, known₂, later⟩ :=
      foldl_take_of_spares note pool table' orderly' spares
    obtain ⟨-, handed, still⟩ := later kind
    have hands := hands_of_bound note pool table₂ (known₂ known) kind
    rw [waits table₂ kind] at hands
    refine ⟨fun never => ?_, fun called => ?_⟩
    · rw [still never, ← waits table' kind] at hands
      exact hands
    · rw [handed called] at hands
      exact hands
  · obtain ⟨b', table', -, -, later⟩ := foldl_take_of_spares note pool rfl begins spares
    cases bound : b'.bound with
    | false => exact .inr (refuses_of_unbound note pool table' bound _)
    | true =>
      have hands := hands_of_bound note pool table' bound kind
      rw [waits table' kind, (later kind).1 (by cases kind <;> rfl)] at hands
      exact .inl hands

/-- A text that the pool has answered is handed out once the guest calls for it. -/
theorem results_of_answered :
    let pool : Formatter (StateM Unit) := fun _ => pure (.ok (some "ab"))
    let s := [Turn.connects, .acts (.calls (.readBuffer 0 1)), .acts (.calls .takeFilePath)].foldl
      (take (fun _ => pure ()) (some pool)) (closed "p" ⟨[102]⟩ () 0)
    let t := s.take (fun _ => pure ()) (some pool) (.acts (.calls .format))
    s.Ready ∧ t.Hands (fun _ => pure ()) (some pool) .text [97, 98] := by
  intro pool s t
  have ready : s.Ready := ⟨_, "f", rfl, rfl, rfl⟩
  have handed := ((results_of_run (fun _ => pure ()) (some pool) "p" ⟨[102]⟩ () 0
    [.connects, .acts (.calls (.readBuffer 0 1)), .acts (.calls .takeFilePath)]).2.2.2.1 .text []
      ready trivial).1 (by simp)
  have waits : t.waiting .text = some "ab" := rfl
  have bytes : Utf8.encode "ab" = [97, 98] := by decide
  rw [show t.waiting .text = _ from waits, Option.getD_some, bytes] at handed
  exact ⟨ready, handed⟩

end HostSession

end FormatHost
