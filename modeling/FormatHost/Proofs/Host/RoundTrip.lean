import FormatHost.Proofs.Host.Requests
import Mathlib.Algebra.GroupWithZero.Nat
/-!
# Bytes through the staging area

A guest hands bytes to its host chunk by chunk and has them written elsewhere chunk by chunk. The two
divisions into chunks need not be the same, chunks may be empty, the announced capacity limits nothing,
and the two ranges of the memory may overlap: everything has been read before anything is written.
-/
namespace FormatHost

namespace HostCall

/-- Reads neighbouring ranges of these lengths, the first at `pointer`. -/
def reads (pointer : Nat) : List Nat → List HostCall
  | [] => []
  | length :: rest => .readBuffer pointer length :: reads (pointer + length) rest

/-- Writes neighbouring ranges of these lengths of what is staged, the first from `offset` on, to
`pointer` plus their offsets. -/
def writes (pointer offset : Nat) : List Nat → List HostCall
  | [] => []
  | length :: rest =>
    .writeBuffer (pointer + offset) offset length :: writes pointer (offset + length) rest

end HostCall

namespace HostSession

variable {W : Type} (note : LogRecord → StateM W Unit) (pool : Formatter (StateM W))

/-- Calls in order. -/
def callAll (s : HostSession W) (calls : List HostCall) : HostSession W :=
  (calls.map Deed.calls).foldl (step note pool) s

/-- Calls that all succeeded, without a result and without a request to the pool. -/
structure Performed (calls : List HostCall) (s t : HostSession W) : Prop where
  world : t.world = s.world
  history : ∃ seen, t.history = seen ++ s.history ∧ seen.map Sight.call = calls.reverse ∧
    ∀ x ∈ seen, x.result = .ok none ∧ x.asked = []

theorem Performed.nil (s : HostSession W) : Performed [] s s := ⟨rfl, [], rfl, rfl, by simp⟩

theorem Performed.append {calls calls' : List HostCall} {s t u : HostSession W}
    (first : Performed calls s t) (second : Performed calls' t u) :
    Performed (calls ++ calls') s u := by
  obtain ⟨seen, grown, called, quiet⟩ := first.history
  obtain ⟨seen', grown', called', quiet'⟩ := second.history
  refine ⟨second.world.trans first.world, seen' ++ seen, ?_, ?_, ?_⟩
  · rw [grown', grown, List.append_assoc]
  · rw [List.map_append, called, called', List.reverse_append]
  · intro x mem
    exact (List.mem_append.1 mem).elim (quiet' x) (quiet x)

theorem callAll_append (s : HostSession W) (calls calls' : List HostCall) :
    s.callAll note pool (calls ++ calls') = (s.callAll note pool calls).callAll note pool calls' := by
  rw [callAll, List.map_append, List.foldl_append]
  rfl

theorem callAll_cons (s : HostSession W) (call : HostCall) (calls : List HostCall) :
    s.callAll note pool (call :: calls) = (s.step note pool (.calls call)).callAll note pool calls :=
  rfl

/-- One call that succeeds without a result. -/
theorem performed_of_done {s : HostSession W} {b b' : Boundary} {call : HostCall} {memory : Memory}
    (table : s.table = some b) (done : b.call s.room call s.memory = (Boundary.done, b', memory)) :
    (s.step note pool (.calls call)).table = some b' ∧
      (s.step note pool (.calls call)).memory = memory ∧
      Performed [call] s (s.step note pool (.calls call)) := by
  rw [step_of_finished note pool table done]
  exact ⟨rfl, rfl, rfl, [_], rfl, rfl, by simp⟩

/-- Neighbouring ranges are staged as the one range that they make up. -/
theorem callAll_reads (pointer : Nat) (lengths : List Nat) {s : HostSession W} {b : Boundary}
    (table : s.table = some b) (bound : b.bound = true)
    (inside : pointer + lengths.sum ≤ s.memory.size) :
    let t := s.callAll note pool (HostCall.reads pointer lengths)
    t.table = some { b with
      buffer := b.buffer.extend (Memory.slice s.memory.bytes pointer lengths.sum) } ∧
      t.memory = s.memory ∧ Performed (HostCall.reads pointer lengths) s t := by
  induction lengths generalizing pointer s b with
  | nil =>
    refine ⟨?_, rfl, .nil s⟩
    rw [List.sum_nil, Memory.slice, List.take_zero, Buffer.extend, List.append_nil]
    exact table
  | cons length rest ih =>
    rw [List.sum_cons] at inside
    have range : InRange pointer length s.memory.size := ⟨by omega, by omega, by omega⟩
    have read : s.memory.read pointer length = .ok (Memory.slice s.memory.bytes pointer length) := by
      rw [Memory.read_eq, if_pos range, Int.toNat_natCast, Int.toNat_natCast]
    obtain ⟨table₁, memory₁, first⟩ :=
      performed_of_done note pool table (Boundary.call_readBuffer _ bound read)
    obtain ⟨table₂, memory₂, others⟩ := ih (pointer + length) table₁ bound (by
      rw [memory₁]
      omega)
    intro t
    refine ⟨table₂.trans ?_, memory₂.trans memory₁, first.append others⟩
    rw [memory₁, List.sum_cons, ← Memory.slice_append_slice]
    simp only [Buffer.extend, List.append_assoc]

/-- Neighbouring ranges of what is staged are written as the one range that they make up. -/
theorem callAll_writes (pointer offset : Nat) (lengths : List Nat) {s : HostSession W} {b : Boundary}
    (table : s.table = some b) (bound : b.bound = true)
    (staged : offset + lengths.sum ≤ b.buffer.size)
    (inside : pointer + offset + lengths.sum ≤ s.memory.size) :
    let t := s.callAll note pool (HostCall.writes pointer offset lengths)
    t.table = some b ∧
      t.memory.bytes = Memory.splice s.memory.bytes (pointer + offset)
        (Memory.slice b.buffer.data offset lengths.sum) ∧
      Performed (HostCall.writes pointer offset lengths) s t := by
  induction lengths generalizing offset s with
  | nil =>
    refine ⟨table, ?_, .nil s⟩
    simp [callAll, HostCall.writes, Memory.slice, Memory.splice]
  | cons length rest ih =>
    rw [List.sum_cons] at staged inside
    let part := Memory.slice b.buffer.data offset length
    have size : part.length = length := by
      have most : b.buffer.size = b.buffer.data.length := rfl
      simp only [part, Memory.slice, List.length_take, List.length_drop]
      omega
    have range : InRange ↑(pointer + offset) part.length s.memory.size :=
      ⟨by omega, by omega, by omega⟩
    have written : s.memory.write ↑(pointer + offset) part =
        .ok ⟨Memory.splice s.memory.bytes (pointer + offset) part⟩ := by
      rw [Memory.write_eq, if_pos range, Int.toNat_natCast]
    have same : (Memory.splice s.memory.bytes (pointer + offset) part).length = s.memory.size :=
      Memory.length_splice (by rw [size, ← Memory.size]; omega)
    obtain ⟨table₁, memory₁, first⟩ := performed_of_done note pool table
      (Boundary.call_writeBuffer _ bound (b.buffer.read_eq (by omega)) written)
    obtain ⟨table₂, memory₂, others⟩ := ih (offset + length) table₁ (by omega) (by
      rw [memory₁, Memory.size, same]
      omega)
    intro t
    refine ⟨table₂, memory₂.trans ?_, first.append others⟩
    rw [memory₁, List.sum_cons, ← Memory.slice_append_slice, ← Nat.add_assoc]
    have join := Memory.splice_splice part (Memory.slice b.buffer.data (offset + length) rest.sum)
      (show pointer + offset ≤ s.memory.bytes.length by rw [← Memory.size]; omega)
    rwa [size] at join

/-- Bytes that a guest stages chunk by chunk and has written chunk by chunk arrive as they are. All calls
succeed, nothing else in the memory changes, and the bytes are still staged. -/
theorem roundTrip_of_chunks {s : HostSession W} {b : Boundary} (table : s.table = some b)
    (bound : b.bound = true) (data : Bytes) (source target declared : Nat)
    (lengths lengths' : List Nat) (stored : Memory.slice s.memory.bytes source data.length = data)
    (inside : source + data.length ≤ s.memory.size) (inside' : target + data.length ≤ s.memory.size)
    (whole : lengths.sum = data.length) (whole' : lengths'.sum = data.length) :
    let calls := .clearBytes declared :: HostCall.reads source lengths ++
      HostCall.writes target 0 lengths'
    let t := s.callAll note pool calls
    Performed calls s t ∧ t.memory.size = s.memory.size ∧
      Memory.slice t.memory.bytes target data.length = data ∧
      (∀ i, i < target ∨ target + data.length ≤ i → t.memory.bytes[i]? = s.memory.bytes[i]?) ∧
      t.table = some { b with buffer := ⟨data, declared⟩ } := by
  obtain ⟨table₁, memory₁, cleared⟩ :=
    performed_of_done note pool table (Boundary.call_clearBytes _ bound declared)
  obtain ⟨table₂, memory₂, fetched⟩ := callAll_reads note pool source lengths table₁ bound
    (by rw [memory₁, whole]; exact inside)
  rw [memory₁, whole, stored] at table₂
  have staged : (Buffer.clear declared).extend data = ⟨data, declared⟩ := rfl
  rw [staged] at table₂
  obtain ⟨table₃, memory₃, written⟩ := callAll_writes note pool target 0 lengths' table₂ bound
    (by rw [whole', Nat.zero_add]; exact Nat.le_refl _)
    (by rw [memory₂, memory₁, whole']; exact inside')
  rw [memory₂, memory₁, whole'] at memory₃
  simp only [Memory.slice, List.drop_zero, List.take_length, Nat.add_zero] at memory₃
  intro calls t
  have run : t = ((s.step note pool (.calls (.clearBytes declared))).callAll note pool
      (HostCall.reads source lengths)).callAll note pool (HostCall.writes target 0 lengths') := by
    rw [← callAll_append, ← callAll_cons]
    rfl
  rw [run, Memory.size, memory₃]
  refine ⟨(cleared.append fetched).append written, ?_, ?_, ?_, table₃⟩
  · exact Memory.length_splice inside'
  · exact Memory.slice_splice inside'
  · exact fun i outside => Memory.getElem?_splice inside' outside

/-- The general statement for ranges that overlap, empty chunks, and a capacity that is too small. -/
theorem roundTrip_of_overlapping :
    let s : HostSession Unit := opening "p" ⟨[1, 2, 3, 4, 5, 6]⟩ () 0
    let t := s.callAll (fun _ => pure ()) (fun _ => pure (.ok none))
      (.clearBytes 2 :: HostCall.reads 0 [1, 0, 3] ++ HostCall.writes 2 0 [2, 0, 2])
    t.memory.size = 6 ∧ Memory.slice t.memory.bytes 2 4 = [1, 2, 3, 4] ∧
      t.memory.bytes[0]? = some 1 ∧ t.memory.bytes[1]? = some 2 := by
  intro s t
  have table : s.table = some (Boundary.fresh "p").bind := rfl
  obtain ⟨-, size, arrived, kept, -⟩ := roundTrip_of_chunks (fun _ => pure ())
    (fun _ => pure (.ok none)) table rfl [1, 2, 3, 4] 0 2 2 [1, 0, 3] [2, 0, 2] rfl (by decide)
    (by decide) rfl rfl
  exact ⟨size, arrived, kept 0 (.inl (by decide)), kept 1 (.inl (by decide))⟩

end HostSession

end FormatHost
