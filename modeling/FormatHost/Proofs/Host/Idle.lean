import FormatHost.Proofs.Host.Requests
/-!
# Host functions that do nothing

Guests that never format through others get host functions without a boundary behind them: each call
is answered with a constant and changes nothing. Beside a pool that leaves every text as it is, a guest
that keeps the protocol cannot tell these functions from real ones, as long as the host's stack has room
for the overrides that it stages: where one is nested deeper, the real function fails. What carries the
comparison is that such a pool never leaves a text or a message behind, so that every getter of the real
functions returns zero and every permitted write is of no bytes.
-/
namespace FormatHost

/-- What a call shows to the guest, with the memory it found. -/
def Sight.shown (s : Sight) : HostCall × Memory × Except Fault (Option Nat) :=
  (s.call, s.memory, s.result)

namespace History

/-- The length that the last getter returned, unless bytes have been staged since. -/
def announced : History → Option Nat
  | [] => none
  | s :: before =>
    match s.call with
    | .getFormattedText | .getErrorText => s.result.toOption.join
    | .readBuffer _ length => if length = 0 then announced before else none
    | _ => announced before

/-- The protocol admits a call: ranges lie within the memory, paths and texts are UTF-8, a format
request follows the taking of a path, and only what a getter has announced is written. -/
def Admits (h : History) (memory : Memory) : HostCall → Prop
  | .readBuffer pointer length => pointer + length ≤ memory.size
  | .writeBuffer pointer offset length =>
    (∃ n, h.announced = some n ∧ offset + length ≤ n) ∧ pointer + length ≤ memory.size
  | .takeFilePath => ∃ path, h.staged = Utf8.encode path
  | .format => (∃ data, h.path = some data) ∧ ∃ text, h.staged = Utf8.encode text
  | .clearBytes _ | .takeOverrideConfig | .getFormattedText | .getErrorText => True

/-- No text and no message waits for the guest, and what a getter has announced is nothing. -/
structure Hushed (h : History) : Prop where
  formatted : h.formatted = none
  failure : h.failure = none
  announced : ∀ n, h.announced = some n → n = 0 ∧ h.staged = []

theorem Hushed.nil : Hushed [] := ⟨rfl, rfl, fun _ none => nomatch none⟩

variable {plugin : String} {h : History} {b : Boundary} {m : Memory} {call : HostCall} {room : Nat}

/-- The override that a call takes is nested no deeper than there is room for. -/
def Fits (h : History) (room : Nat) (call : HostCall) : Prop :=
  call = .takeOverrideConfig → ConfigMap.nesting h.staged ≤ room + 1

/-- Where nothing waits, an admitted call that is no format request and for which there is room has the
result of a function that does nothing, and nothing waits after it. -/
theorem Reflects.finish_admitted (r : Reflects plugin h b) (hushed : h.Hushed)
    (admitted : h.Admits m call) (fits : h.Fits room call) (apart : call ≠ .format) :
    ∃ b', b.call room call m = (.finished (.ok (HostTable.idleResult call)), b', m) ∧
      Reflects plugin (⟨call, m, [], .ok (HostTable.idleResult call)⟩ :: h) b' ∧
      Hushed (⟨call, m, [], .ok (HostTable.idleResult call)⟩ :: h) := by
  obtain ⟨result, b', m', called, after⟩ : ∃ result b' m',
      b.call room call m = (.finished result, b', m') ∧
        Reflects plugin (⟨call, m, [], result⟩ :: h) b' := r.finish apart
  obtain ⟨-, bound, same, -, -, formatted, failure⟩ := r
  obtain ⟨silent, calm, announced⟩ := hushed
  suffices answered : result = .ok (HostTable.idleResult call) ∧ m' = m ∧
      Hushed (⟨call, m, [], .ok (HostTable.idleResult call)⟩ :: h) by
    obtain ⟨rfl, rfl, hushed⟩ := answered
    exact ⟨b', called, after, hushed⟩
  unfold Boundary.call at called
  rw [if_neg (by simp [bound])] at called
  cases call with
  | format => exact absurd rfl apart
  | clearBytes length =>
    cases called
    exact ⟨rfl, rfl, silent, calm, fun n known => ⟨(announced n known).1, rfl⟩⟩
  | readBuffer pointer length =>
    have inside : InRange pointer length m.size :=
      ⟨by omega, by omega, by simpa [Admits] using Int.ofNat_le.2 admitted⟩
    simp only [Boundary.readBuffer, Memory.read_eq, if_pos inside] at called
    cases called
    refine ⟨rfl, rfl, silent, calm, fun n known => ?_⟩
    by_cases zero : length = 0
    · subst zero
      obtain ⟨rfl, empty⟩ := announced n (by simpa [History.announced] using known)
      have grown : History.staged (⟨.readBuffer pointer 0, m, [], .ok none⟩ :: h) =
          h.staged ++ Memory.slice m.bytes pointer 0 := rfl
      exact ⟨rfl, grown.trans (by simp [empty, Memory.slice])⟩
    · exact absurd known (by simp [History.announced, zero])
  | writeBuffer pointer offset length =>
    obtain ⟨⟨n, known, within⟩, inside⟩ := admitted
    obtain ⟨rfl, empty⟩ := announced n known
    obtain ⟨rfl, rfl⟩ : offset = 0 ∧ length = 0 := by omega
    have nothing : b.buffer.read (0 : Nat) (0 : Nat) = .ok [] := by
      rw [Buffer.read_eq b.buffer (Nat.zero_le _)]
      rfl
    have spot : InRange pointer ([] : Bytes).length m.size :=
      ⟨by omega, by simp, by simpa using Int.ofNat_le.2 inside⟩
    have kept : Memory.splice m.bytes pointer [] = m.bytes := by
      simp [Memory.splice]
    simp only [Boundary.writeBuffer, nothing, Memory.write_eq, if_pos spot, Int.toNat_natCast, kept]
      at called
    cases called
    exact ⟨rfl, rfl, silent, calm, announced⟩
  | takeOverrideConfig =>
    have read : ConfigMap.parse room b.buffer.data = .ok (ConfigMap.spelled h.staged) := by
      rw [same]
      exact ConfigMap.parse_of_nesting (fits rfl)
    simp only [Boundary.takeOverride, read] at called
    cases called
    exact ⟨rfl, rfl, silent, calm, fun n known => ⟨(announced n known).1, rfl⟩⟩
  | takeFilePath =>
    obtain ⟨path, spelled⟩ := admitted
    simp only [Boundary.takePath, same, spelled, Utf8.decode_encode] at called
    cases called
    exact ⟨rfl, rfl, silent, calm, fun n known => ⟨(announced n known).1, rfl⟩⟩
  | getFormattedText =>
    simp only [Boundary.deliver, formatted, silent] at called
    cases called
    have empty : Utf8.encode (h.formatted.getD "") = [] := by rw [silent]; rfl
    exact ⟨rfl, rfl, rfl, calm, fun n known => ⟨(Option.some.inj known).symm, empty⟩⟩
  | getErrorText =>
    simp only [Boundary.deliver, failure, calm] at called
    cases called
    have empty : Utf8.encode (h.failure.getD "") = [] := by rw [calm]; rfl
    exact ⟨rfl, rfl, silent, rfl, fun n known => ⟨(Option.some.inj known).symm, empty⟩⟩

/-- Where nothing waits, an admitted format request is put to the pool. -/
theorem Reflects.ask_admitted (r : Reflects plugin h b) (hushed : h.Hushed)
    (admitted : h.Admits m .format) :
    ∃ request b', b.call room .format m = (.asks request, b', m) ∧
      Reflects plugin (⟨.format, m, [(request, .ok none)], .ok (some 0)⟩ :: h) b' ∧
      Hushed (⟨.format, m, [(request, .ok none)], .ok (some 0)⟩ :: h) := by
  obtain ⟨⟨data, hasPath⟩, text, hasText⟩ := admitted
  obtain ⟨path, -, spelled⟩ := Option.map_eq_some_iff.1 (r.path.trans hasPath)
  obtain ⟨b', asked, after⟩ := r.ask (m := m) (hasPath.trans (congrArg some spelled.symm)) hasText
  refine ⟨_, b', asked, after _ (.ok none), rfl, rfl, fun n known => ?_⟩
  exact ⟨(hushed.announced n known).1, rfl⟩

end History

namespace HostSession

variable {W : Type} (note : LogRecord → StateM W Unit) (pool : Formatter (StateM W))

/-- Every deed of a list is one that the protocol admits where it is done. Changes of the memory are the
guest's own affair, and the stack is the host's. -/
def Respects : HostSession W → List Deed → Prop
  | _, [] => True
  | s, .calls call :: deeds =>
    s.history.Admits s.memory call ∧ Respects (s.step note pool (.calls call)) deeds
  | s, deed :: deeds => Respects (s.step note pool deed) deeds

/-- For every override that is taken in these deeds the stack has room. -/
def HasRoom : HostSession W → List Deed → Prop
  | _, [] => True
  | s, .calls call :: deeds =>
    s.history.Fits s.room call ∧ HasRoom (s.step note pool (.calls call)) deeds
  | s, deed :: deeds => HasRoom (s.step note pool deed) deeds

/-- A guest with host functions that do nothing. -/
def idling (memory : Memory) (world : W) (room : Nat) : HostSession W :=
  ⟨HostTable.bind none, memory, world, [], room⟩

variable {note pool}

theorem step_of_idle {s : HostSession W} (idle : s.table = none) (call : HostCall) :
    s.step note pool (.calls call) = ⟨none, s.memory, s.world,
      ⟨call, s.memory, [], .ok (HostTable.idleResult call)⟩ :: s.history, s.room⟩ := by
  simp only [step, idle, HostTable.call]
  rfl

/-- A pool that leaves every text as it is answers a request with no change. -/
theorem exists_step_of_silent (note : LogRecord → StateM W Unit)
    (silent : ∀ request w, (pool request w).1 = .ok none)
    {s : HostSession W} {b b' : Boundary} {call : HostCall} {memory : Memory} {request : Request}
    (table : s.table = some b) (asks : b.call s.room call s.memory = (.asks request, b', memory)) :
    ∃ world, s.step note pool (.calls call) = ⟨some b', memory, world,
      ⟨call, s.memory, [(request, .ok none)], .ok (some 0)⟩ :: s.history, s.room⟩ := by
  obtain ⟨later, answered⟩ : ∃ later, pool request (note (.debug dispatchLogger
      ("Plugin " ++ request.caller ++ " requested formatting of " ++ request.path)) s.world).2 =
        (.ok none, later) := ⟨_, Prod.ext (silent _ _) rfl⟩
  have noted (r : LogRecord) (log : List (Request × Answer)) (w : W) :
      (noting note r).run (log, w) = pure ((), log, (note r w).2) := rfl
  have put (log : List (Request × Answer)) (w : W) : (watched pool request).run (log, w) =
      pure ((pool request w).1, log ++ [(request, (pool request w).1)], (pool request w).2) := rfl
  refine ⟨later, ?_⟩
  simp only [step, table, HostTable.call, asks, dispatch, StateT.run_bind, noted, pure_bind, put,
    answered]
  rfl

/-- Two guests in step, one with real host functions and one with functions that do nothing. -/
structure Twinned (plugin : String) (real idle : HostSession W) : Prop where
  reflects : ∃ b, real.table = some b ∧ real.history.Reflects plugin b
  hushed : real.history.Hushed
  table : idle.table = none
  memory : idle.memory = real.memory
  shown : idle.history.map Sight.shown = real.history.map Sight.shown
  succeeded : ∀ sight ∈ real.history ++ idle.history, sight.succeeded

variable {plugin : String} {real idle : HostSession W}

theorem Twinned.opening (plugin : String) (memory : Memory) (world world' : W) (room room' : Nat) :
    Twinned plugin (opening plugin memory world room) (idling memory world' room') :=
  ⟨⟨_, rfl, .fresh plugin⟩, .nil, rfl, rfl, rfl, fun _ none => nomatch none⟩

/-- The step of a call that both guests see end alike. -/
theorem Twinned.next (twinned : Twinned plugin real idle) {call : HostCall} {b' : Boundary} {world : W}
    {asked : List (Request × Answer)}
    (done : real.step note pool (.calls call) = ⟨some b', real.memory, world,
      ⟨call, real.memory, asked, .ok (HostTable.idleResult call)⟩ :: real.history, real.room⟩)
    (reflects : History.Reflects plugin
      (⟨call, real.memory, asked, .ok (HostTable.idleResult call)⟩ :: real.history) b')
    (hushed : History.Hushed
      (⟨call, real.memory, asked, .ok (HostTable.idleResult call)⟩ :: real.history)) :
    Twinned plugin (real.step note pool (.calls call)) (idle.step note pool (.calls call)) := by
  rw [done, step_of_idle twinned.table]
  refine ⟨⟨b', rfl, reflects⟩, hushed, rfl, twinned.memory, ?_, ?_⟩
  · simp only [List.map_cons, Sight.shown, twinned.memory]
    exact congrArg _ twinned.shown
  · intro sight seen
    rcases List.mem_append.1 seen with seen | seen <;> rcases List.mem_cons.1 seen with rfl | seen
    · rfl
    · exact twinned.succeeded sight (List.mem_append_left _ seen)
    · rfl
    · exact twinned.succeeded sight (List.mem_append_right _ seen)

/-- One admitted call keeps two guests in step. -/
theorem Twinned.call (twinned : Twinned plugin real idle)
    (silent : ∀ request w, (pool request w).1 = .ok none) {call : HostCall}
    (admitted : real.history.Admits real.memory call) (fits : real.history.Fits real.room call) :
    Twinned plugin (real.step note pool (.calls call)) (idle.step note pool (.calls call)) := by
  obtain ⟨b, table, reflects⟩ := twinned.reflects
  by_cases format : call = .format
  · subst format
    obtain ⟨request, b', asks, after, hushed⟩ := reflects.ask_admitted twinned.hushed admitted
    obtain ⟨world, done⟩ := exists_step_of_silent note silent table asks
    exact twinned.next done after hushed
  · obtain ⟨b', finished, after, hushed⟩ :=
      reflects.finish_admitted twinned.hushed admitted fits format
    exact twinned.next (step_of_finished note pool table finished) after hushed

theorem Twinned.writes (twinned : Twinned plugin real idle) (memory : Memory) :
    Twinned plugin (real.step note pool (.writes memory)) (idle.step note pool (.writes memory)) :=
  ⟨twinned.reflects, twinned.hushed, twinned.table, rfl, twinned.shown, twinned.succeeded⟩

theorem Twinned.leaves (twinned : Twinned plugin real idle) (room : Nat) :
    Twinned plugin (real.step note pool (.leaves room)) (idle.step note pool (.leaves room)) :=
  ⟨twinned.reflects, twinned.hushed, twinned.table, twinned.memory, twinned.shown, twinned.succeeded⟩

/-- Any list of admitted deeds keeps two guests in step. -/
theorem Twinned.run (twinned : Twinned plugin real idle)
    (silent : ∀ request w, (pool request w).1 = .ok none) {deeds : List Deed}
    (respects : real.Respects note pool deeds) (hasRoom : real.HasRoom note pool deeds) :
    Twinned plugin (deeds.foldl (step note pool) real) (deeds.foldl (step note pool) idle) := by
  induction deeds generalizing real idle with
  | nil => exact twinned
  | cons deed deeds ih =>
    cases deed with
    | writes memory => exact ih (twinned.writes memory) respects hasRoom
    | leaves room => exact ih (twinned.leaves room) respects hasRoom
    | calls call => exact ih (twinned.call silent respects.1 hasRoom.1) respects.2 hasRoom.2

theorem Respects.left {s : HostSession W} {earlier later : List Deed}
    (respects : s.Respects note pool (earlier ++ later)) : s.Respects note pool earlier := by
  induction earlier generalizing s with
  | nil => trivial
  | cons deed earlier ih =>
    cases deed with
    | writes memory | leaves room => exact ih respects
    | calls call => exact ⟨respects.1, ih respects.2⟩

theorem HasRoom.left {s : HostSession W} {earlier later : List Deed}
    (hasRoom : s.HasRoom note pool (earlier ++ later)) : s.HasRoom note pool earlier := by
  induction earlier generalizing s with
  | nil => trivial
  | cons deed earlier ih =>
    cases deed with
    | writes memory | leaves room => exact ih hasRoom
    | calls call => exact ⟨hasRoom.1, ih hasRoom.2⟩

/-- Beside a pool that leaves every text as it is, host functions that do nothing cannot be told from
real ones by a guest that keeps the protocol, if there is room for its overrides: after any part of its
deeds the memory is the same, and every call so far found the same memory and had the same result, which
is never a failure. -/
theorem idle_alike_of_silent (silent : ∀ request w, (pool request w).1 = .ok none) (plugin : String)
    (memory : Memory) (world : W) (room : Nat) {deeds : List Deed}
    (respects : (opening plugin memory world room).Respects note pool deeds)
    (hasRoom : (opening plugin memory world room).HasRoom note pool deeds) {earlier : List Deed}
    (part : earlier <+: deeds) :
    let real := earlier.foldl (step note pool) (opening plugin memory world room)
    let idle := earlier.foldl (step note pool) (idling memory world room)
    idle.memory = real.memory ∧
      idle.history.map Sight.shown = real.history.map Sight.shown ∧
      ∀ sight ∈ real.history ++ idle.history, sight.succeeded := by
  intro real idle
  obtain ⟨later, rfl⟩ := part
  have twinned : Twinned plugin real idle :=
    (Twinned.opening plugin memory world world room room).run silent respects.left hasRoom.left
  exact ⟨twinned.memory, twinned.shown, twinned.succeeded⟩

/-- A pool that leaves every text as it is. -/
def leaving : Formatter (StateM Unit) := fun _ => pure (.ok none)

/-- Each host function once and the getters' announcements used, on a memory that grows meanwhile. -/
def fullRound : List Deed :=
  [.calls (.clearBytes 1), .calls (.readBuffer 0 1), .calls .takeOverrideConfig,
    .calls (.readBuffer 1 2), .calls .takeFilePath, .writes (.zeroed 8), .calls (.readBuffer 0 8),
    .calls .format, .calls .getFormattedText, .calls (.writeBuffer 8 0 0), .calls .getErrorText,
    .calls (.readBuffer 8 0), .calls (.writeBuffer 0 0 0)]

theorem idle_alike_full_round :
    (∀ request w, (leaving request w).1 = .ok none) ∧
      (opening "echo" (.zeroed 4) () 0).Respects (fun _ => pure ()) leaving fullRound ∧
      (opening "echo" (.zeroed 4) () 0).HasRoom (fun _ => pure ()) leaving fullRound ∧
      (let real := fullRound.foldl (step (fun _ => pure ()) leaving) (opening "echo" (.zeroed 4) () 0)
      let idle := fullRound.foldl (step (fun _ => pure ()) leaving) (idling (.zeroed 4) () 0)
      idle.memory = real.memory ∧
        idle.history.map Sight.shown = real.history.map Sight.shown ∧
        ∀ sight ∈ real.history ++ idle.history, sight.succeeded) := by
  have silent : ∀ request w, (leaving request w).1 = .ok none := fun _ _ => rfl
  have respects : (opening "echo" (.zeroed 4) () 0).Respects (fun _ => pure ()) leaving fullRound :=
    ⟨trivial, (by decide : 0 + 1 ≤ 4), trivial, (by decide : 1 + 2 ≤ 4), ⟨"\x00\x00", by decide⟩,
      (by decide : 0 + 8 ≤ 8), ⟨⟨_, rfl⟩, "\x00\x00\x00\x00\x00\x00\x00\x00", by decide⟩, trivial,
      ⟨⟨0, rfl, by decide⟩, (by decide : 8 + 0 ≤ 8)⟩, trivial, (by decide : 8 + 0 ≤ 8),
      ⟨⟨0, rfl, by decide⟩, (by decide : 0 + 0 ≤ 8)⟩, trivial⟩
  have hasRoom : (opening "echo" (.zeroed 4) () 0).HasRoom (fun _ => pure ()) leaving fullRound :=
    ⟨nofun, nofun, fun _ => by decide, nofun, nofun, nofun, nofun, nofun, nofun, nofun, nofun, nofun,
      trivial⟩
  exact ⟨silent, respects, hasRoom,
    idle_alike_of_silent silent "echo" (.zeroed 4) () 0 respects hasRoom (List.prefix_refl _)⟩

/-- Staged brackets are taken as an override. -/
def bracketRound (n : Nat) : List Deed := [.calls (.readBuffer 0 n), .calls .takeOverrideConfig]

/-- Brackets that are too many for the room: the real function fails, and the one that does nothing does
not. -/
theorem results_of_brackets (note : LogRecord → StateM W Unit) (pool : Formatter (StateM W))
    (plugin : String) (world : W) {room n : Nat} (deep : room + 2 ≤ n) :
    let memory : Memory := ⟨List.replicate n 0x5B⟩
    let real := (bracketRound n).foldl (step note pool) (opening plugin memory world room)
    let idle := (bracketRound n).foldl (step note pool) (idling memory world room)
    real.history.map Sight.result = [.error (.tooDeep .array), .ok none] ∧
      idle.history.map Sight.result = [.ok none, .ok none] := by
  intro memory real idle
  have read : memory.read (0 : Nat) n = .ok (List.replicate n 0x5B) := by
    have inside : InRange (0 : Nat) n memory.size := ⟨by omega, by omega, by simp [memory, Memory.size]⟩
    rw [Memory.read_eq, if_pos inside]
    simp [Memory.slice, memory]
  have staged := step_of_finished note pool (s := opening plugin memory world room) rfl
    (Boundary.call_readBuffer room rfl read)
  let b : Boundary := { (Boundary.fresh plugin).bind with buffer := ⟨List.replicate n 0x5B, 0⟩ }
  have broken : b.call room .takeOverrideConfig memory =
      (Boundary.fails (.tooDeep .array), { b with buffer := .empty }, memory) := by
    rw [Boundary.call, if_neg (by simp [b, Boundary.bind])]
    simp only [Boundary.takeOverride, b, ConfigMap.parse_brackets deep]
  have failed := step_of_finished note pool (s := (opening plugin memory world room).step note pool
    (.calls (.readBuffer 0 n))) (by rw [staged]) (by rw [staged]; exact broken)
  constructor
  · rw [show real.history = _ from congrArg HostSession.history failed, staged]
    rfl
  · rfl

/-- A guest keeps the protocol and takes a hundred thousand brackets for its override, on a stack with
room for not quite a thousand. -/
theorem idle_unlike_of_brackets :
    let memory : Memory := ⟨List.replicate 100000 0x5B⟩
    let real := (bracketRound 100000).foldl (step (fun _ => pure ()) leaving)
      (opening "p" memory () 960)
    let idle := (bracketRound 100000).foldl (step (fun _ => pure ()) leaving) (idling memory () 960)
    (opening "p" memory () 960).Respects (fun _ => pure ()) leaving (bracketRound 100000) ∧
      idle.history.map Sight.shown ≠ real.history.map Sight.shown ∧
      ¬ ∀ sight ∈ real.history, sight.succeeded := by
  intro memory real idle
  have results := results_of_brackets (fun _ => pure ()) leaving "p" ()
    (show 960 + 2 ≤ 100000 by decide)
  have inside : 0 + 100000 ≤ memory.size := by
    have size : memory.size = 100000 := List.length_replicate
    omega
  refine ⟨⟨inside, trivial, trivial⟩, fun same => ?_, fun succeeded => ?_⟩
  · have alike := congrArg (List.map fun shown => shown.2.2) same
    rw [List.map_map, List.map_map] at alike
    have unlike := results.2.symm.trans (alike.trans results.1)
    exact absurd unlike (by simp)
  · obtain ⟨sight, mem, failed⟩ : ∃ sight ∈ real.history, sight.result = .error (.tooDeep .array) :=
      List.mem_map.1 (results.1 ▸ List.mem_cons_self)
    have fine := succeeded sight mem
    simp [Sight.succeeded, failed, Except.isOk, Except.toBool] at fine

end HostSession

end FormatHost
