import FormatHost.Host.Boundary
/-!
# Bounds of the transfers

A guest names ranges of its memory and of the staged bytes by words of thirty-two bits. A transfer is
refused exactly if one of its ranges ends beyond its limit; the end is an exact sum, so no range wraps
around, and a range of no bytes has to lie inside as well. All ranges are checked before anything is
moved: a refused transfer changes nothing, and one that is made moves its bytes and touches nothing else.
-/
namespace FormatHost

/-- A range whose end, the exact sum of two words, lies beyond a limit. -/
def Overruns (start length : Int) (limit : Nat) : Prop :=
  (limit : Int) < start % 0x100000000 + length % 0x100000000

instance (start length : Int) (limit : Nat) : Decidable (Overruns start length limit) := by
  unfold Overruns; infer_instance

namespace HostCall

/-- An argument counts by its residue. -/
theorem word_cast (n : Int) : (word n : Int) = n % 0x100000000 :=
  Int.toNat_of_nonneg (Int.emod_nonneg n (by decide))

theorem overruns_iff {start length : Int} {limit : Nat} :
    Overruns start length limit ↔ limit < word start + word length := by
  rw [Overruns, ← word_cast, ← word_cast]
  omega

end HostCall

namespace Memory

theorem read_inside {m : Memory} {pointer length : Nat} (inside : pointer + length ≤ m.size) :
    m.read pointer length = .ok (slice m.bytes pointer length) := by
  have range : InRange pointer length m.size := ⟨by omega, by omega, by omega⟩
  rw [read_eq, if_pos range, Int.toNat_natCast, Int.toNat_natCast]

theorem read_beyond {m : Memory} {pointer length : Nat} (beyond : m.size < pointer + length) :
    m.read pointer length = .error ⟨"guest memory read", pointer, length, m.size⟩ := by
  have range : ¬ InRange pointer length m.size := by
    rintro ⟨-, -, most⟩
    omega
  rw [read_eq, if_neg range]

theorem write_inside {m : Memory} {pointer : Nat} {data : Bytes}
    (inside : pointer + data.length ≤ m.size) :
    m.write pointer data = .ok ⟨splice m.bytes pointer data⟩ := by
  have range : InRange pointer data.length m.size := ⟨by omega, by omega, by omega⟩
  rw [write_eq, if_pos range, Int.toNat_natCast]

theorem write_beyond {m : Memory} {pointer : Nat} {data : Bytes}
    (beyond : m.size < pointer + data.length) :
    m.write pointer data =
      .error ⟨"guest memory write", pointer, data.length, m.size⟩ := by
  have range : ¬ InRange pointer data.length m.size := by
    rintro ⟨-, -, most⟩
    omega
  rw [write_eq, if_neg range]

theorem length_slice {data : Bytes} {start length : Nat} (inside : start + length ≤ data.length) :
    (slice data start length).length = length := by
  rw [slice, List.length_take, List.length_drop]
  omega

theorem getElem?_slice {data : Bytes} {start length i : Nat} (less : i < length) :
    (slice data start length)[i]? = data[start + i]? := by
  rw [slice, List.getElem?_take_of_lt less, List.getElem?_drop]

/-- A write puts the bytes into its range. -/
theorem getElem?_splice_inside {bytes data : Bytes} {start i : Nat}
    (inside : start + data.length ≤ bytes.length) (within : start ≤ i)
    (less : i < start + data.length) : (splice bytes start data)[i]? = data[i - start]? := by
  have before : (bytes.take start).length = start := by rw [List.length_take]; omega
  rw [splice, List.append_assoc, List.getElem?_append_right (by omega), before,
    List.getElem?_append_left (by omega)]

end Memory

theorem Buffer.read_beyond {b : Buffer} {offset length : Nat} (beyond : b.size < offset + length) :
    b.read offset length = .error ⟨"shared buffer", offset, length, b.size⟩ := by
  have range : ¬ InRange offset length b.size := by
    rintro ⟨-, -, most⟩
    omega
  rw [read, checkRange, if_neg range]
  rfl

namespace Boundary

variable {b : Boundary} {m : Memory} {pointer offset length : Nat} (room : Nat)

/-- A range beyond the memory is not read. -/
theorem call_readBuffer_beyond (bound : b.bound = true) (beyond : m.size < pointer + length) :
    b.call room (.readBuffer pointer length) m =
      (fails (.outOfBounds ⟨"guest memory read", pointer, length, m.size⟩), b, m) := by
  rw [call, if_neg (by simp [bound])]
  simp only [readBuffer, Memory.read_beyond beyond]

/-- A range beyond the staged bytes is not copied. -/
theorem call_writeBuffer_unstaged (bound : b.bound = true)
    (beyond : b.buffer.size < offset + length) :
    b.call room (.writeBuffer pointer offset length) m =
      (fails (.outOfBounds ⟨"shared buffer", offset, length, b.buffer.size⟩), b, m) := by
  rw [call, if_neg (by simp [bound])]
  simp only [writeBuffer, Buffer.read_beyond beyond]

/-- Staged bytes are not copied beyond the memory. -/
theorem call_writeBuffer_beyond (bound : b.bound = true) (staged : offset + length ≤ b.buffer.size)
    (beyond : m.size < pointer + length) :
    b.call room (.writeBuffer pointer offset length) m =
      (fails (.outOfBounds ⟨"guest memory write", pointer, length, m.size⟩), b, m) := by
  have size : (Memory.slice b.buffer.data offset length).length = length :=
    Memory.length_slice staged
  have refused : m.write pointer (Memory.slice b.buffer.data offset length) =
      .error ⟨"guest memory write", pointer, length, m.size⟩ := by
    rw [Memory.write_beyond (by rw [size]; exact beyond), size]
  rw [call, if_neg (by simp [bound])]
  simp only [writeBuffer, b.buffer.read_eq staged, refused]

end Boundary

/-- What a host function leaves: its result, the table and the memory. -/
abbrev HostAnswer := Except Fault (Option Nat) × HostTable × Memory

/-- The answer to a call that moves nothing because of a range: the table and the memory are as they
were. -/
def Refuses (b : Boundary) (m : Memory) (answer : HostAnswer) : Prop :=
  ∃ e, answer = (.error (.outOfBounds e), some b, m)

/-- The answer to a call that reads the memory: refused if the range ends beyond the memory, otherwise
the bytes of the range stand behind the bytes that were staged. -/
structure ReadsExactly (b : Boundary) (m : Memory) (pointer length : Int) (answer : HostAnswer) :
    Prop where
  raises_iff : (∃ e, answer.1 = .error (.outOfBounds e)) ↔ Overruns pointer length m.size
  atomic : (∃ fault, answer.1 = .error fault) → Refuses b m answer
  moves : ¬ Overruns pointer length m.size → ∃ data : Bytes,
    answer = (.ok none, some { b with buffer := ⟨b.buffer.data ++ data, b.buffer.capacity⟩ }, m) ∧
    (data.length : Int) = length % 0x100000000 ∧
    ∀ i < data.length, data[i]? = m.bytes[(pointer % 0x100000000).toNat + i]?

/-- The answer to a call that writes the memory: refused if one of its ranges ends beyond the staged
bytes or the memory, otherwise the bytes of the one range stand in the other. -/
structure WritesExactly (b : Boundary) (m : Memory) (pointer offset length : Int)
    (answer : HostAnswer) : Prop where
  raises_iff : (∃ e, answer.1 = .error (.outOfBounds e)) ↔
    Overruns offset length b.buffer.size ∨ Overruns pointer length m.size
  atomic : (∃ fault, answer.1 = .error fault) → Refuses b m answer
  moves : ¬ Overruns offset length b.buffer.size → ¬ Overruns pointer length m.size →
    ∃ m' : Memory, answer = (.ok none, some b, m') ∧ m'.size = m.size ∧
    ∀ i : Nat, m'.bytes[i]? =
      if pointer % 0x100000000 ≤ i ∧ (i : Int) < pointer % 0x100000000 + length % 0x100000000 then
        b.buffer.data[(offset % 0x100000000).toNat + (i - (pointer % 0x100000000).toNat)]?
      else m.bytes[i]?

namespace HostTable

variable {M : Type → Type} [Monad M] (room : Nat) (ask : Request → M Outcome) {b : Boundary} {m m' : Memory}
  {call : HostCall}

/-- A call that its boundary finishes asks for nothing. -/
theorem call_of_finished {b' : Boundary} {result : Except Fault (Option Nat)}
    (finished : b.call room call m = (.finished result, b', m')) :
    HostTable.call room ask call (some b) m = pure (result, some b', m') := by
  simp only [HostTable.call, finished]

theorem exists_readsExactly (bound : b.bound = true) (m : Memory) (pointer length : Int) :
    ∃ answer, HostTable.call room ask (.readBuffer (HostCall.word pointer) (HostCall.word length))
        (some b) m = pure answer ∧ ReadsExactly b m pointer length answer := by
  by_cases beyond : Overruns pointer length m.size
  · have failed := call_of_finished room ask
      (Boundary.call_readBuffer_beyond room bound (HostCall.overruns_iff.1 beyond))
    refine ⟨_, failed, ⟨iff_of_true ⟨_, rfl⟩ beyond, fun _ => ⟨_, rfl⟩, fun inside => ?_⟩⟩
    exact absurd beyond inside
  · have inside : HostCall.word pointer + HostCall.word length ≤ m.size := by
      rw [HostCall.overruns_iff] at beyond
      omega
    have size : (Memory.slice m.bytes _ _).length = _ := Memory.length_slice inside
    have done := call_of_finished room ask
      (Boundary.call_readBuffer room bound (Memory.read_inside inside))
    refine ⟨_, done, ⟨?_, ?_, fun _ => ⟨_, rfl, ?_, fun i less => ?_⟩⟩⟩
    · exact iff_of_false (fun ⟨_, raised⟩ => nomatch raised) beyond
    · exact fun ⟨_, raised⟩ => nomatch raised
    · rw [size, HostCall.word_cast]
    · rw [size] at less
      exact Memory.getElem?_slice less

theorem exists_writesExactly (bound : b.bound = true) (m : Memory) (pointer offset length : Int) :
    ∃ answer, HostTable.call room ask
        (.writeBuffer (HostCall.word pointer) (HostCall.word offset) (HostCall.word length))
        (some b) m = pure answer ∧ WritesExactly b m pointer offset length answer := by
  by_cases unstaged : Overruns offset length b.buffer.size
  · have fails : b.call room
        (.writeBuffer (HostCall.word pointer) (HostCall.word offset) (HostCall.word length)) m = _ :=
      Boundary.call_writeBuffer_unstaged room bound (HostCall.overruns_iff.1 unstaged)
    refine ⟨_, call_of_finished room ask fails,
      ⟨iff_of_true ⟨_, rfl⟩ (.inl unstaged), fun _ => ⟨_, rfl⟩, fun staged => ?_⟩⟩
    exact absurd unstaged staged
  have staged : HostCall.word offset + HostCall.word length ≤ b.buffer.size := by
    rw [HostCall.overruns_iff] at unstaged
    omega
  by_cases beyond : Overruns pointer length m.size
  · have failed := call_of_finished room ask
      (Boundary.call_writeBuffer_beyond room bound staged (HostCall.overruns_iff.1 beyond))
    refine ⟨_, failed,
      ⟨iff_of_true ⟨_, rfl⟩ (.inr beyond), fun _ => ⟨_, rfl⟩, fun _ inside => ?_⟩⟩
    exact absurd beyond inside
  · have inside : HostCall.word pointer + HostCall.word length ≤ m.size := by
      rw [HostCall.overruns_iff] at beyond
      omega
    have size : (Memory.slice b.buffer.data _ _).length = _ := Memory.length_slice staged
    have fits := inside
    rw [← size] at fits
    have done := call_of_finished room ask (Boundary.call_writeBuffer room bound
      (b.buffer.read_eq staged) (Memory.write_inside fits))
    refine ⟨_, done, ⟨?_, ?_, fun _ _ => ⟨_, rfl, Memory.length_splice fits, fun i => ?_⟩⟩⟩
    · exact iff_of_false (fun ⟨_, raised⟩ => nomatch raised) (not_or.2 ⟨unstaged, beyond⟩)
    · exact fun ⟨_, raised⟩ => nomatch raised
    · have first := HostCall.word_cast pointer
      have count := HostCall.word_cast length
      split
      · next within =>
        obtain ⟨least, most⟩ := within
        rw [Memory.getElem?_splice_inside fits (by omega) (by omega),
          Memory.getElem?_slice (by omega)]
        rfl
      · next outside =>
        exact Memory.getElem?_splice fits (by omega)

/-- The two transfers of a table whose memory is known. Each raises exactly on a range that ends beyond
its limit and has then changed nothing; otherwise it moves exactly the bytes of its range. -/
theorem transfers_exact (bound : b.bound = true) (m : Memory) (pointer offset length : Int) :
    (∃ read answer, HostCall.ofName? "host_read_buffer" [pointer, length] = some read ∧
      HostTable.call room ask read (some b) m = pure answer ∧
      ReadsExactly b m pointer length answer) ∧
    (∃ write answer, HostCall.ofName? "host_write_buffer" [pointer, offset, length] = some write ∧
      HostTable.call room ask write (some b) m = pure answer ∧
      WritesExactly b m pointer offset length answer) := by
  constructor
  · obtain ⟨answer, called, exact⟩ := exists_readsExactly room ask bound m pointer length
    exact ⟨_, answer, rfl, called, exact⟩
  · obtain ⟨answer, called, exact⟩ := exists_writesExactly room ask bound m pointer offset length
    exact ⟨_, answer, rfl, called, exact⟩

/-- A memory of two bytes and three staged ones. A range from the end on may have no bytes, and a range
that starts at the last word does not wrap around. -/
theorem transfers_exact_at_the_end :
    let quiet : Request → Id Outcome := fun _ => pure .unchanged
    let b := { (Boundary.fresh "p").bind with buffer := ⟨[7, 8, 9], 5⟩ }
    (b.bound = true) ∧ Overruns (-1) 1 2 ∧ ¬ Overruns 2 0 2 ∧ Overruns 3 0 2 ∧
      ∃ answer, HostTable.call 0 quiet (.writeBuffer 0 1 2) (some b) ⟨[1, 2]⟩ = pure answer ∧
        WritesExactly b ⟨[1, 2]⟩ 0x100000000 (1 - 0x100000000) 2 answer := by
  intro quiet b
  refine ⟨rfl, by decide, by decide, by decide, ?_⟩
  obtain ⟨-, _, answer, named, called, exact⟩ :=
    transfers_exact 0 quiet (b := b) rfl ⟨[1, 2]⟩ 0x100000000 (1 - 0x100000000) 2
  obtain rfl := Option.some.inj named
  exact ⟨answer, called, exact⟩

end HostTable

end FormatHost
