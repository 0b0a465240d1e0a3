/-!
# Slots

A slot holds at most one value. Taking the value leaves the slot empty, so a value is delivered once.
-/
namespace FormatHost

/-- A place for at most one value. -/
structure Slot (α : Type) where
  value : Option α
  deriving DecidableEq, Repr

namespace Slot

variable {α : Type}

/-- A slot without a value. -/
def empty : Slot α := ⟨none⟩

/-- Looks at the value. -/
def peek (s : Slot α) : Option α := s.value

/-- Takes the value out. -/
def take (s : Slot α) : Option α × Slot α := (s.value, empty)

/-- Puts a value in, or none, and hands out the one before. -/
def replace (s : Slot α) (value : Option α) : Option α × Slot α := (s.value, ⟨value⟩)

end Slot

end FormatHost
