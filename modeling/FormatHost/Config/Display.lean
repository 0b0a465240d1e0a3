import FormatHost.Config.Datum
import FormatHost.Text.Quoted
/-!
# Displayed data

How a value of a configuration is shown inside a message: texts in quotes unless they stand alone,
lists in brackets, maps in braces.
-/
namespace FormatHost.Datum

mutual

/-- A value inside another one. -/
def displayInner : Datum → String
  | .null => "None"
  | .bool b => if b then "True" else "False"
  | .int n => toString n
  | .float x => x.text
  | .text t => Text.quoted t.scalars
  | .list items => "[" ++ ", ".intercalate (displayItems items) ++ "]"
  | .map entries => "\x7b" ++ ", ".intercalate (displayEntries entries) ++ "\x7d"
  | .binary data => "b" ++ Text.quoted (String.ofList (data.map fun b => Char.ofNat b.toNat))
  | .moment (.date day) => day.text
  | .moment (.time day microseconds _) => day.text ++ "+" ++ toString microseconds
  | .set members => "\x7b" ++ ", ".intercalate (displayItems members) ++ "\x7d"
  | .pair key value => "(" ++ displayInner key ++ ", " ++ displayInner value ++ ")"

/-- Several values. -/
def displayItems : List Datum → List String
  | [] => []
  | d :: rest => displayInner d :: displayItems rest

/-- Entries of a map. -/
def displayEntries : List (Datum × Datum) → List String
  | [] => []
  | (key, value) :: rest =>
    (displayInner key ++ ": " ++ displayInner value) :: displayEntries rest

end

/-- A value by itself. -/
def display : Datum → String
  | .text t => t.scalars
  | d => displayInner d

end FormatHost.Datum
