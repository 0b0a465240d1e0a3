import FormatHost.Config.Datum
/-!
# Configuration maps

The configurations that cross the boundary: text keys, each once, and values that are booleans,
integers or texts.
-/
namespace FormatHost

/-- A value of a configuration map. -/
inductive Scalar where
  | bool (b : Bool)
  | int (n : Int)
  | text (t : Text)
  deriving DecidableEq, Repr, Inhabited

/-- A configuration map: its pairs in order. -/
abbrev ConfigMap := List (Text × Scalar)

namespace Scalar

/-- The scalar as a value. -/
def toDatum : Scalar → Datum
  | bool b => .bool b
  | int n => .int n
  | text t => .text t

/-- The scalar that a value is, if it is one. -/
def ofDatum? : Datum → Option Scalar
  | .bool b => some (bool b)
  | .int n => some (int n)
  | .text t => some (text t)
  | _ => none

theorem ofDatum?_toDatum (s : Scalar) : ofDatum? s.toDatum = some s := by
  cases s <;> rfl

end Scalar

namespace ConfigMap

/-- The entries of a map as values. -/
def toEntries (m : ConfigMap) : List (Datum × Datum) :=
  m.map fun (key, value) => (.text key, value.toDatum)

/-- The map as a value. -/
def toDatum (m : ConfigMap) : Datum := .map m.toEntries

/-- The pair of an entry whose value is a scalar. -/
def pair? : Datum × Datum → Option (Text × Scalar)
  | (.text key, value) => (Scalar.ofDatum? value).map (key, ·)
  | _ => none

/-- The map that a value is; one value of another kind makes it none. -/
def ofDatum? : Datum → Option ConfigMap
  | .map entries => entries.mapM pair?
  | _ => none

end ConfigMap

end FormatHost
