import FormatHost.Proofs.Guest.Transfer
/-!
# Passing a format call on

A guest that has its host format a text gets the answer of whoever the host asks: path, text and override
arrive as they were staged, and so does the answer. A guest that hands the answer out as its own passes it
on unchanged.
-/
namespace FormatHost

variable {σ ε ω : Type}

/-- The texts that an outcome carries. -/
def Outcome.texts : Outcome → List String
  | .unchanged => []
  | .changed text => [text]
  | .failed message => [message]

/-- The scene with other host functions and another memory of the guest. -/
def Scene.served (s : Scene σ ε ω) (b : Boundary) (m : Memory) : Scene σ ε ω :=
  { s with guest := { s.guest with table := some b, memory := m } }

namespace Act

section

variable {place pred : Nat} {b : Boundary} {s : Scene σ ε ω} (out : Outside ε ω)
  (again : Again σ ε ω)

/-- A host function that finishes lets the guest go on. -/
theorem run_host {c : HostCall} {v : Option Nat} {b' : Boundary} {m : Memory}
    {next : Option Nat → Act σ ε} (table : s.guest.table = some b)
    (finished : b.call out.room c s.guest.memory = (.finished (.ok v), b', m)) :
    (Act.host c next).run out again s = (next v).run out again (s.served b' m) := by
  have called : (HostTable.call out.room out.ask c s.guest.table s.guest.memory).run (s.engine, s.world) =
      ((.ok v, some b', m), s.engine, s.world) := by
    rw [table, HostTable.call]
    simp only [finished]
    rfl
  rw [Act.run, called]
  rfl

/-- A format request is answered from outside. -/
theorem run_host_format {request : Request} {outcome : Outcome} {b' : Boundary}
    {next : Option Nat → Act σ ε} {e' : ε} {w' : ω} (table : s.guest.table = some b)
    (asks : b.call out.room .format s.guest.memory = (.asks request, b', s.guest.memory))
    (answer : (out.ask request).run (s.engine, s.world) = (outcome, e', w')) :
    (Act.host .format next).run out again s = (next (some outcome.status)).run out again
      { s.served (b'.conclude outcome) s.guest.memory with engine := e', world := w' } := by
  have called : (HostTable.call out.room out.ask .format s.guest.table s.guest.memory).run
      (s.engine, s.world) =
        ((.ok (some outcome.status), some (b'.conclude outcome), s.guest.memory), e', w') := by
    rw [table, HostTable.call]
    simp only [asks, StateT.run_bind, answer]
    rfl
  rw [Act.run, called]
  rfl

/-- Pieces that are staged come behind what is there. -/
theorem run_stagePieces (parts : List Bytes) (next : Act σ ε) (table : s.guest.table = some b)
    (bound : b.bound = true)
    (fits : ∀ piece ∈ parts, InRange place piece.length s.guest.memory.size) :
    ∃ m, m.size = s.guest.memory.size ∧ (stagePieces place parts next).run out again s =
      next.run out again (s.served { b with buffer := b.buffer.extend parts.flatten } m) := by
  induction parts generalizing s b with
  | nil =>
    refine ⟨s.guest.memory, rfl, ?_⟩
    have same : s.served { b with buffer := b.buffer.extend [] } s.guest.memory = s := by
      simp [Scene.served, Buffer.extend, ← table]
    simp [stagePieces, same]
  | cons piece rest ih =>
    obtain ⟨m, written, size⟩ := Memory.exists_write (fits piece List.mem_cons_self)
    let s₁ : Scene σ ε ω := { s with guest := { s.guest with memory := m } }
    let b₁ : Boundary := { b with buffer := b.buffer.extend piece }
    have read : b.call out.room (.readBuffer place piece.length) s₁.guest.memory =
        (.finished (.ok none), b₁, s₁.guest.memory) :=
      Boundary.call_readBuffer out.room bound (Memory.read_write written)
    obtain ⟨m', size', ran⟩ := ih (s := s₁.served b₁ m) (b := b₁) rfl bound fun p later => by
      rw [show (s₁.served b₁ m).guest.memory.size = s.guest.memory.size from size]
      exact fits p (List.mem_cons_of_mem _ later)
    refine ⟨m', size'.trans size, ?_⟩
    rw [stagePieces, Act.run, written]
    simp only
    rw [run_host out again (s := s₁) table read, ran]
    simp [Scene.served, Buffer.extend, s₁, b₁]

/-- What is staged is what the host has then. -/
theorem run_stage {data : Bytes} (next : Act σ ε) (table : s.guest.table = some b)
    (bound : b.bound = true) (fits : Fits place (pred + 1 : Nat) data s.guest.memory.size) :
    ∃ m, m.size = s.guest.memory.size ∧
      (stage place (pred + 1 : Nat) data next).run out again s =
        next.run out again (s.served { b with buffer := ⟨data, data.length⟩ } m) := by
  let b₁ : Boundary := { b with buffer := .clear data.length }
  have cleared : b.call out.room (.clearBytes data.length) s.guest.memory =
      (.finished (.ok none), b₁, s.guest.memory) := Boundary.call_clearBytes out.room bound data.length
  obtain ⟨m, size, ran⟩ := run_stagePieces out again (s := s.served b₁ s.guest.memory) (b := b₁)
    (pieces pred data) next rfl bound fits
  refine ⟨m, size, ?_⟩
  rw [stage, run_host out again table cleared]
  refine ran.trans ?_
  rw [flatten_pieces]
  simp [Scene.served, Buffer.extend, Buffer.clear, b₁]

/-- Parts that are fetched are what the host has there. -/
theorem run_fetchParts (parts : List Bytes) (offset : Nat) (got : Bytes) (next : Bytes → Act σ ε)
    (table : s.guest.table = some b) (bound : b.bound = true)
    (fits : ∀ part ∈ parts, InRange place part.length s.guest.memory.size)
    (inside : offset + parts.flatten.length ≤ b.buffer.data.length) :
    ∃ m, m.size = s.guest.memory.size ∧ (fetchParts place parts offset got next).run out again s =
      (next (got ++ Memory.slice b.buffer.data offset parts.flatten.length)).run out again
        (s.served b m) := by
  induction parts generalizing s offset got with
  | nil =>
    refine ⟨s.guest.memory, rfl, ?_⟩
    have same : s.served b s.guest.memory = s := by simp [Scene.served, ← table]
    simp [fetchParts, same, Memory.slice]
  | cons part rest ih =>
    simp only [List.flatten_cons, List.length_append] at inside
    let data := Memory.slice b.buffer.data offset part.length
    have length : data.length = part.length := by
      simp only [data, Memory.slice, List.length_take, List.length_drop]
      omega
    have range : InRange place data.length s.guest.memory.size :=
      length ▸ fits part List.mem_cons_self
    obtain ⟨m, written, size⟩ := Memory.exists_write range
    have staged : offset + part.length ≤ b.buffer.size := by
      rw [Buffer.size]
      omega
    have copied : b.call out.room (.writeBuffer place offset part.length) s.guest.memory =
        (.finished (.ok none), b, m) :=
      Boundary.call_writeBuffer out.room bound (b.buffer.read_eq staged) written
    have back : (s.served b m).guest.memory.read place part.length = .ok data :=
      length ▸ Memory.read_write written
    obtain ⟨m', size', ran⟩ := ih (s := s.served b m) (offset + part.length) (got ++ data) rfl
      (fun p later => by
        rw [show (s.served b m).guest.memory.size = s.guest.memory.size from size]
        exact fits p (List.mem_cons_of_mem _ later))
      (by omega)
    refine ⟨m', size'.trans size, ?_⟩
    rw [fetchParts, run_host out again table copied, Act.run, back]
    simp only
    rw [ran, List.append_assoc, Memory.slice_append_slice, List.flatten_cons, List.length_append]
    rfl

/-- How a guest goes on with the bytes of a text. -/
def withText (next : String → Act σ ε) (data : Bytes) : Act σ ε :=
  match Utf8.decode data with
  | .ok text => next text
  | .error refusal => .trap refusal.message

/-- A text that the host stages is what is fetched. -/
theorem run_fetch {getter : HostCall} {text : String} {b' : Boundary} (next : String → Act σ ε)
    (table : s.guest.table = some b) (bound : b'.bound = true)
    (delivered : b.call out.room getter s.guest.memory =
      (.finished (.ok (some (Utf8.encode text).length)), b', s.guest.memory))
    (staged : b'.buffer.data = Utf8.encode text)
    (fits : Fits place (pred + 1 : Nat) (Utf8.encode text) s.guest.memory.size) :
    ∃ m, m.size = s.guest.memory.size ∧
      (fetch place (pred + 1 : Nat) getter next).run out again s =
        (next text).run out again (s.served b' m) := by
  let zeros : Bytes := List.replicate (Utf8.encode text).length 0
  have length : (pieces pred zeros).flatten.length = (Utf8.encode text).length := by
    rw [flatten_pieces, List.length_replicate]
  obtain ⟨m, size, ran⟩ := run_fetchParts out again (s := s.served b' s.guest.memory) (b := b')
    (pieces pred zeros) 0 [] (withText next) rfl bound
    (fits.of_length (List.length_replicate)) (by rw [length, staged]; omega)
  refine ⟨m, size, ?_⟩
  rw [fetch, run_host out again table delivered]
  refine ran.trans ?_
  rw [length, staged]
  simp only [Memory.slice, List.drop_zero, List.take_length, List.nil_append, withText,
    Utf8.decode_encode]
  rfl

/-- What the host has taken a path, or a request, from. -/
theorem call_takeFilePath {room : Nat} {path : String} {m : Memory} (bound : b.bound = true)
    (staged : b.buffer.data = Utf8.encode path) :
    b.call room .takeFilePath m =
      (.finished (.ok none), { b with buffer := .empty, path := ⟨some path⟩ }, m) := by
  rw [Boundary.call, if_neg (by simp [bound])]
  simp only [Boundary.takePath, staged, Utf8.decode_encode]
  rfl

theorem call_format {room : Nat} {path text : String} {m : Memory} (bound : b.bound = true)
    (taken : b.path.value = some path) (staged : b.buffer.data = Utf8.encode text) :
    b.call room .format m =
      (.asks ⟨b.plugin, path, text, b.override.value.getD []⟩, { b with
        override := .empty, path := .empty, buffer := .empty, formatted := .empty,
        error := .empty }, m) := by
  rw [Boundary.call, if_neg (by simp [bound])]
  simp only [Boundary.takeRequest, taken, staged, Utf8.decode_encode]

/-- A request has been answered: the host functions and the memory of the guest have changed, and what
is around it. -/
structure Answered (s t : Scene σ ε ω) (e : ε) (w : ω) : Prop where
  guest : t.guest = { s.guest with table := t.guest.table, memory := t.guest.memory }
  size : t.guest.memory.size = s.guest.memory.size
  engine : t.engine = e
  world : t.world = w

/-- How a guest goes on when it has the status of its request. -/
def onStatus (place : Nat) (size : Int) (next : Outcome → Act σ ε) (status : Option Nat) :
    Act σ ε :=
  match status with
  | some 1 => fetch place size .getFormattedText fun t => next (.changed t)
  | some 2 => fetch place size .getErrorText fun t => next (.failed t)
  | _ => next .unchanged

theorem askHost_none (place : Nat) (size : Int) (path text : String) (next : Outcome → Act σ ε) :
    askHost place size path text none next =
      stage place size (Utf8.encode path) (.host .takeFilePath fun _ =>
        stage place size (Utf8.encode text) (.host .format (onStatus place size next))) := rfl

/-- The guest learns the outcome that the host keeps for it. -/
theorem run_onStatus (next : Outcome → Act σ ε) {outcome : Outcome}
    (table : s.guest.table = some (b.conclude outcome)) (bound : b.bound = true)
    (fits : ∀ t ∈ outcome.texts,
      Fits place (pred + 1 : Nat) (Utf8.encode t) s.guest.memory.size) :
    ∃ t, Answered s t s.engine s.world ∧
      (onStatus place (pred + 1 : Nat) next (some outcome.status)).run out again s =
        (next outcome).run out again t := by
  cases outcome with
  | unchanged => exact ⟨s, ⟨rfl, rfl, rfl, rfl⟩, rfl⟩
  | changed text =>
    let b' : Boundary := { b with formatted := .empty, buffer := .replace (Utf8.encode text) }
    have delivered : (b.conclude (.changed text)).call out.room .getFormattedText s.guest.memory =
        (.finished (.ok (some (Utf8.encode text).length)), b', s.guest.memory) := by
      rw [Boundary.call, if_neg (by simp [Boundary.conclude, bound])]
      rfl
    obtain ⟨m, size, ran⟩ := run_fetch out again (fun t => next (.changed t)) table
      (show b'.bound = true from bound) delivered rfl (fits text (List.mem_singleton_self text))
    exact ⟨s.served b' m, ⟨rfl, size, rfl, rfl⟩, ran⟩
  | failed message =>
    let b' : Boundary := { b with error := .empty, buffer := .replace (Utf8.encode message) }
    have delivered : (b.conclude (.failed message)).call out.room .getErrorText s.guest.memory =
        (.finished (.ok (some (Utf8.encode message).length)), b', s.guest.memory) := by
      rw [Boundary.call, if_neg (by simp [Boundary.conclude, bound])]
      rfl
    obtain ⟨m, size, ran⟩ := run_fetch out again (fun t => next (.failed t)) table
      (show b'.bound = true from bound) delivered rfl
      (fits message (List.mem_singleton_self message))
    exact ⟨s.served b' m, ⟨rfl, size, rfl, rfl⟩, ran⟩

/-- A request reaches whoever is outside, and the outcome comes back. -/
theorem run_request {path text : String} (next : Outcome → Act σ ε) {outcome : Outcome} {e' : ε}
    {w' : ω} (table : s.guest.table = some b) (bound : b.bound = true)
    (asked : (out.ask ⟨b.plugin, path, text, b.override.value.getD []⟩).run (s.engine, s.world) =
      (outcome, e', w'))
    (fits : ∀ t ∈ path :: text :: outcome.texts,
      Fits place (pred + 1 : Nat) (Utf8.encode t) s.guest.memory.size) :
    ∃ t, Answered s t e' w' ∧ (askHost place (pred + 1 : Nat) path text none next).run out again s =
      (next outcome).run out again t := by
  -- The boundary with the path staged, with the path taken, and with the text staged.
  let b₁ : Boundary := { b with buffer := ⟨Utf8.encode path, (Utf8.encode path).length⟩ }
  let b₂ : Boundary := { b with buffer := .empty, path := ⟨some path⟩ }
  let b₃ : Boundary := { b₂ with buffer := ⟨Utf8.encode text, (Utf8.encode text).length⟩ }
  let b₄ : Boundary := { b with
    override := .empty, path := .empty, buffer := .empty, formatted := .empty, error := .empty }
  let rest : Act σ ε := stage place (pred + 1 : Nat) (Utf8.encode text)
    (.host .format (onStatus place (pred + 1 : Nat) next))
  obtain ⟨m₁, size₁, staged⟩ := run_stage out again (.host .takeFilePath fun _ => rest) table bound
    (fits path (by simp))
  have taken : b₁.call out.room .takeFilePath m₁ = (.finished (.ok none), b₂, m₁) :=
    call_takeFilePath bound rfl
  have fitsText : Fits place (pred + 1 : Nat) (Utf8.encode text)
      (s.served b₂ m₁).guest.memory.size := by
    rw [show (s.served b₂ m₁).guest.memory.size = s.guest.memory.size from size₁]
    exact fits text (by simp)
  obtain ⟨m₂, size₂, restaged⟩ := run_stage out again (s := s.served b₂ m₁) (b := b₂)
    (.host .format (onStatus place (pred + 1 : Nat) next)) rfl bound fitsText
  have same : m₂.size = s.guest.memory.size := size₂.trans size₁
  have asks : b₃.call out.room .format m₂ =
      (.asks ⟨b.plugin, path, text, b.override.value.getD []⟩, b₄, m₂) :=
    call_format bound rfl rfl
  let s₄ : Scene σ ε ω :=
    { s.served (b₄.conclude outcome) m₂ with engine := e', world := w' }
  have formatted : (Act.host .format (onStatus place (pred + 1 : Nat) next)).run out again
      (s.served b₃ m₂) =
        (onStatus place (pred + 1 : Nat) next (some outcome.status)).run out again s₄ :=
    run_host_format out again (s := s.served b₃ m₂) rfl asks asked
  obtain ⟨t, answered, learnt⟩ := run_onStatus out again (s := s₄) next rfl bound fun t mem => by
    rw [show s₄.guest.memory.size = s.guest.memory.size from same]
    exact fits t (List.mem_cons_of_mem _ (List.mem_cons_of_mem _ mem))
  refine ⟨t, ⟨answered.guest, answered.size.trans same, answered.engine, answered.world⟩, ?_⟩
  calc (askHost place (pred + 1 : Nat) path text none next).run out again s
      = (Act.host .takeFilePath fun _ => rest).run out again (s.served b₁ m₁) := staged
    _ = rest.run out again (s.served b₂ m₁) := run_host out again (s := s.served b₁ m₁) rfl taken
    _ = (Act.host .format (onStatus place (pred + 1 : Nat) next)).run out again
          (s.served b₃ m₂) := restaged
    _ = (onStatus place (pred + 1 : Nat) next (some outcome.status)).run out again s₄ := formatted
    _ = (next outcome).run out again t := learnt

end

end Act

end FormatHost
