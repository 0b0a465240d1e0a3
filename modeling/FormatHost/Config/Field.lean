import FormatHost.Config.Datum
/-!
# Parts of described values

A description is a value whose form is known to whoever reads it. A part that is missing or of another
kind than expected reads as a blank one. A part is smaller than the whole, so that a description can
be read by going from parts to their parts.
-/
namespace FormatHost.Datum

/-- The entries of a map. -/
def entries : Datum → List (Datum × Datum)
  | map es => es
  | _ => []

/-- The items of a list. -/
def items : Datum → List Datum
  | list ds => ds
  | _ => []

/-- The symbols of a string. -/
def symbols : Datum → Text
  | text t => t
  | _ => []

/-- The scalar values of a string. -/
def scalars (d : Datum) : String := d.symbols.scalars

/-- The scalar values of a string, or nothing for a value that is none. -/
def scalars? : Datum → Option String
  | text t => some t.scalars
  | _ => none

/-- The number of an integer. -/
def whole : Datum → Int
  | int n => n
  | _ => 0

/-- The value of a name. -/
def part? (d : Datum) (name : String) : Option Datum := field? d.entries name

/-- The value of a name, or null. -/
def part (d : Datum) (name : String) : Datum := (d.part? name).getD null

/-- The item at a place, or null. -/
def item (d : Datum) (i : Nat) : Datum := d.items.getD i null

/-- The values of all names. -/
def named {α : Type} (read : Datum → α) (d : Datum) : List (String × α) :=
  d.entries.map fun (k, v) => (k.scalars, read v)

theorem sizeOf_lt_of_part?_eq_some {d v : Datum} {name : String} (h : d.part? name = some v) :
    sizeOf v < sizeOf d := by
  cases d with
  | map es =>
    obtain ⟨e, he, rfl⟩ := Option.map_eq_some_iff.1 h
    have hm := List.sizeOf_lt_of_mem (List.mem_of_find?_eq_some he)
    have hp : sizeOf e = 1 + sizeOf e.1 + sizeOf e.2 := by cases e; simp
    simp only [map.sizeOf_spec]
    change sizeOf e < sizeOf es at hm
    omega
  | _ => simp [part?, field?, find?, entries] at h

end FormatHost.Datum
