import FormatHost.Text.Bytes
import FormatHost.Transfer.Range
/-!
# Linear memory

A guest's memory is a byte string that is read and written in ranges. A range outside the memory is
refused, also one of length zero, and then nothing changes.
-/
namespace FormatHost

/-- The bytes of a guest's memory. -/
structure Memory where
  bytes : Bytes
  deriving DecidableEq, Repr

namespace Memory

/-- A memory of zero bytes. -/
def zeroed (size : Nat) : Memory := ⟨List.replicate size 0⟩

/-- The number of bytes. -/
def size (m : Memory) : Nat := m.bytes.length

/-- The bytes of a range. -/
def slice (data : Bytes) (start length : Nat) : Bytes := (data.drop start).take length

/-- The bytes with those from `start` on replaced. -/
def splice (bytes : Bytes) (start : Nat) (data : Bytes) : Bytes :=
  bytes.take start ++ data ++ bytes.drop (start + data.length)

/-- Reads a range. -/
def read (m : Memory) (pointer length : Int) : Except OutOfBounds Bytes := do
  checkRange pointer length m.size "guest memory read"
  return slice m.bytes pointer.toNat length.toNat

/-- Writes a range. -/
def write (m : Memory) (pointer : Int) (data : Bytes) : Except OutOfBounds Memory := do
  checkRange pointer data.length m.size "guest memory write"
  return ⟨splice m.bytes pointer.toNat data⟩

/-- Adds zero bytes at the end. -/
def grow (m : Memory) (count : Nat) : Memory := ⟨m.bytes ++ List.replicate count 0⟩

theorem read_eq (m : Memory) (pointer length : Int) :
    m.read pointer length =
      if InRange pointer length m.size then .ok (slice m.bytes pointer.toNat length.toNat)
      else .error ⟨"guest memory read", pointer, length, m.size⟩ := by
  unfold read checkRange
  split <;> rfl

theorem write_eq (m : Memory) (pointer : Int) (data : Bytes) :
    m.write pointer data =
      if InRange pointer data.length m.size then .ok ⟨splice m.bytes pointer.toNat data⟩
      else .error ⟨"guest memory write", pointer, data.length, m.size⟩ := by
  unfold write checkRange
  split <;> rfl

/-- Two neighbouring ranges are one. -/
theorem slice_append_slice (data : Bytes) (start length length' : Nat) :
    slice data start length ++ slice data (start + length) length' =
      slice data start (length + length') := by
  rw [slice, slice, slice, List.take_add, List.drop_drop]

theorem length_splice {bytes data : Bytes} {start : Nat} (h : start + data.length ≤ bytes.length) :
    (splice bytes start data).length = bytes.length := by
  simp [splice]; omega

theorem slice_splice {bytes data : Bytes} {start : Nat} (h : start + data.length ≤ bytes.length) :
    slice (splice bytes start data) start data.length = data := by
  have before : (bytes.take start).length = start := by rw [List.length_take]; omega
  rw [slice, splice, List.append_assoc, List.drop_left' before, List.take_left]

/-- Two neighbouring writes are one. -/
theorem splice_splice {bytes : Bytes} {start : Nat} (data data' : Bytes)
    (inside : start ≤ bytes.length) :
    splice (splice bytes start data) (start + data.length) data' =
      splice bytes start (data ++ data') := by
  have before : (bytes.take start ++ data).length = start + data.length := by
    rw [List.length_append, List.length_take, Nat.min_eq_left inside]
  have first : (splice bytes start data).take (start + data.length) = bytes.take start ++ data := by
    rw [splice, List.take_left' before]
  have last : (splice bytes start data).drop (start + data.length + data'.length) =
      bytes.drop (start + (data ++ data').length) := by
    rw [splice, ← List.drop_drop, List.drop_left' before, List.drop_drop, List.length_append,
      Nat.add_assoc]
  rw [splice, first, last, splice, List.append_assoc (bytes.take start)]

/-- A write leaves the bytes outside its range alone. -/
theorem getElem?_splice {bytes data : Bytes} {start i : Nat} (inside : start + data.length ≤ bytes.length)
    (outside : i < start ∨ start + data.length ≤ i) : (splice bytes start data)[i]? = bytes[i]? := by
  have before : (bytes.take start).length = start := by rw [List.length_take]; omega
  rw [splice, List.append_assoc]
  rcases outside with less | more
  · rw [List.getElem?_append_left (by omega), List.getElem?_take_of_lt less]
  · rw [List.getElem?_append_right (by omega), List.getElem?_append_right (by omega), before,
      List.getElem?_drop]
    congr 1
    omega

/-- A range inside a memory is written, and the memory keeps its size. -/
theorem exists_write {m : Memory} {pointer : Int} {data : Bytes}
    (inside : InRange pointer data.length m.size) :
    ∃ m', m.write pointer data = .ok m' ∧ m'.size = m.size := by
  rw [write_eq, if_pos inside]
  obtain ⟨least, -, most⟩ := inside
  refine ⟨_, rfl, length_splice ?_⟩
  simp only [size] at most
  omega

theorem size_of_write {m m' : Memory} {pointer : Int} {data : Bytes}
    (written : m.write pointer data = .ok m') : m'.size = m.size := by
  by_cases inside : InRange pointer data.length m.size
  · obtain ⟨_, written', same⟩ := exists_write inside
    obtain rfl := Except.ok.inj (written'.symm.trans written)
    exact same
  · rw [write_eq, if_neg inside] at written
    exact absurd written (by simp)

/-- What is read has the length that was asked for. -/
theorem length_of_read {m : Memory} {pointer length : Int} {data : Bytes}
    (read : m.read pointer length = .ok data) : (data.length : Int) = length := by
  rw [read_eq] at read
  split at read
  · next inside =>
    obtain ⟨least, positive, most⟩ := inside
    obtain rfl := Except.ok.inj read
    simp only [size] at most
    rw [slice, List.length_take, List.length_drop]
    omega
  · simp at read

/-- What was written is read. -/
theorem read_write {m m' : Memory} {pointer : Int} {data : Bytes}
    (written : m.write pointer data = .ok m') : m'.read pointer data.length = .ok data := by
  rw [write_eq] at written
  split at written
  · next inside =>
    obtain ⟨least, -, most⟩ := inside
    obtain rfl := Except.ok.inj written
    have room : pointer.toNat + data.length ≤ m.bytes.length := by
      simp only [size] at most
      omega
    have same : (⟨splice m.bytes pointer.toNat data⟩ : Memory).size = m.size := length_splice room
    rw [read_eq, same, if_pos ⟨least, Int.natCast_nonneg _, most⟩, Int.toNat_natCast,
      slice_splice room]
  · simp at written

end Memory

end FormatHost
