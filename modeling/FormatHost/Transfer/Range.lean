/-!
# Ranges

Every transfer names a range `start .. start + length` of something that has a limit. The sum is an
exact integer, so no range wraps around.
-/
namespace FormatHost

/-- A range that leaves `0 .. limit`. -/
structure OutOfBounds where
  what : String
  start : Int
  length : Int
  limit : Int
  deriving DecidableEq, Repr

/-- Names the range and the limit. -/
def OutOfBounds.message (e : OutOfBounds) : String :=
  e.what ++ " range " ++ toString e.start ++ ".." ++ toString (e.start + e.length) ++
    " is outside 0.." ++ toString e.limit

/-- A range is inside if it starts at or after zero, has no negative length and ends at the limit or
before. -/
def InRange (start length limit : Int) : Prop := 0 ≤ start ∧ 0 ≤ length ∧ start + length ≤ limit

instance (start length limit : Int) : Decidable (InRange start length limit) := by
  unfold InRange; infer_instance

/-- Refuses a range that is not inside. -/
def checkRange (start length limit : Int) (what : String) : Except OutOfBounds Unit :=
  if InRange start length limit then .ok () else .error ⟨what, start, length, limit⟩

theorem checkRange_eq_ok_iff {start length limit : Int} {what : String} :
    checkRange start length limit what = .ok () ↔ InRange start length limit := by
  unfold checkRange; split <;> simp_all

end FormatHost
