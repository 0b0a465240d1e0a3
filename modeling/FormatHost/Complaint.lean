/-!
# Complaints

What a check of structured data finds wrong: the place, as a path of field names and positions, and
the problem.
-/
namespace FormatHost

/-- One step of the path to a place. -/
inductive Step where
  | field (name : String)
  | item (index : Nat)
  deriving DecidableEq, Repr

/-- What is wrong at a place. -/
inductive Problem where
  | notJson
  | notRecord
  | notList
  | notText
  | notUnicode
  | missing
  | notInteger
  | unreadableInteger
  | fractionalInteger
  | notFinite
  | notNumber
  | unreadableNumber
  deriving DecidableEq, Repr

/-- A problem and its place. -/
structure Complaint where
  place : List Step
  problem : Problem
  deriving DecidableEq, Repr

namespace Complaint

/-- The place of a complaint that concerns the whole. -/
def whole (problem : Problem) : Complaint := ⟨[], problem⟩

/-- The complaint as seen from one step further out. -/
def under (step : Step) (c : Complaint) : Complaint := { c with place := step :: c.place }

/-- The wording of a problem. -/
def wording : Problem → String
  | .notJson => "not a JSON text"
  | .notRecord => "not a record"
  | .notList => "not a list"
  | .notText => "not a text"
  | .notUnicode => "not a text of Unicode characters"
  | .missing => "missing"
  | .notInteger => "not an integer"
  | .unreadableInteger => "not readable as an integer"
  | .fractionalInteger => "has a fraction"
  | .notFinite => "not finite"
  | .notNumber => "not a number"
  | .unreadableNumber => "not readable as a number"

/-- The place with points between its steps. -/
def placeText (c : Complaint) : String :=
  ".".intercalate (c.place.map fun
    | .field name => name
    | .item index => toString index)

/-- The complaint in words. -/
def message (c : Complaint) : String :=
  if c.place.isEmpty then wording c.problem else c.placeText ++ ": " ++ wording c.problem

/-- Several complaints in words. -/
def messages (cs : List Complaint) : String := "; ".intercalate (cs.map message)

end Complaint

/-- A checked value, or what is wrong with it. -/
abbrev Checked (α : Type) := Except (List Complaint) α

namespace Checked

/-- The value with its complaints seen from one step further out. -/
def under {α : Type} (step : Step) (c : Checked α) : Checked α :=
  c.mapError fun complaints => complaints.map (Complaint.under step)

/-- Applies a checked function to a checked value; complaints of both are kept. -/
def both {α β : Type} (f : Checked (α → β)) (a : Checked α) : Checked β :=
  match f, a with
  | .ok f, .ok a => .ok (f a)
  | .ok _, .error e => .error e
  | .error e, .ok _ => .error e
  | .error e, .error e' => .error (e ++ e')

end Checked

end FormatHost
