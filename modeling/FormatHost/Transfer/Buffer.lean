import FormatHost.Transfer.Memory
/-!
# Transfer buffer

The staging area for the one value that is crossing the boundary. The announced capacity is kept for
show; it limits nothing.
-/
namespace FormatHost

/-- The staged bytes and the capacity that was last announced. -/
structure Buffer where
  data : Bytes
  capacity : Nat
  deriving DecidableEq, Repr

namespace Buffer

/-- Nothing is staged. -/
def empty : Buffer := ⟨[], 0⟩

/-- The number of staged bytes. -/
def size (b : Buffer) : Nat := b.data.length

/-- Drops what is staged and announces a capacity; a negative one counts as zero. -/
def clear (capacity : Int) : Buffer := ⟨[], capacity.toNat⟩

/-- Stages more bytes behind those that are there. -/
def extend (b : Buffer) (data : Bytes) : Buffer := { b with data := b.data ++ data }

/-- Reads a range of the staged bytes. -/
def read (b : Buffer) (offset length : Int) : Except OutOfBounds Bytes := do
  checkRange offset length b.size "shared buffer"
  return Memory.slice b.data offset.toNat length.toNat

theorem read_eq (b : Buffer) {offset length : Nat} (inside : offset + length ≤ b.size) :
    b.read offset length = .ok (Memory.slice b.data offset length) := by
  have range : InRange offset length b.size := ⟨by omega, by omega, by omega⟩
  rw [read, checkRange_eq_ok_iff.2 range, Int.toNat_natCast, Int.toNat_natCast]
  rfl

/-- Takes everything out. -/
def drain (b : Buffer) : Bytes × Buffer := (b.data, empty)

/-- Stages exactly these bytes; the capacity is their number. -/
def replace (data : Bytes) : Buffer := ⟨data, data.length⟩

end Buffer

end FormatHost
