import FormatHost.Json.Printer
/-!
# Indented JSON

JSON for people: each item and each entry on a line of its own, two columns further in than the
container. An empty container stands on one line.
-/
namespace FormatHost.Json

/-- A line end and the indentation of a level. -/
def lineStart (level : Nat) : List Char := '\n' :: List.replicate (2 * level) ' '

mutual

/-- The written form of a value inside containers. -/
def indentValue (level : Nat) : Datum → Except Fault (List Char)
  | .list (d :: rest) => do
    let body ← indentItems (level + 1) (d :: rest)
    return '[' :: body ++ lineStart level ++ [']']
  | .map (e :: rest) => do
    let body ← indentEntries (level + 1) (e :: rest)
    return '{' :: body ++ lineStart level ++ ['}']
  | d => printValue d

/-- Items, each on a line. -/
def indentItems (level : Nat) : List Datum → Except Fault (List Char)
  | [] => .ok []
  | d :: rest => do
    let first ← indentValue level d
    let others ← indentItems level rest
    return lineStart level ++ first ++ (if rest.isEmpty then [] else [',']) ++ others

/-- Entries, each on a line. -/
def indentEntries (level : Nat) : List (Datum × Datum) → Except Fault (List Char)
  | [] => .ok []
  | (key, value) :: rest => do
    let k ← keyText key
    let v ← indentValue level value
    let others ← indentEntries level rest
    return lineStart level ++ k ++ [':', ' '] ++ v ++ (if rest.isEmpty then [] else [',']) ++ others

end

/-- The written form of a value on lines. -/
def indented (d : Datum) : Except Fault (List Char) := indentValue 0 d

end FormatHost.Json
