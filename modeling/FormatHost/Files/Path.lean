import FormatHost.Text.Lines
/-!
# Paths

A path is its parts between slashes. Empty parts and single points say nothing and are left out; two
points are an ordinary name. One slash in front makes a path absolute, and exactly two are kept.
-/
namespace FormatHost

/-- The slashes in front and the parts. -/
structure Path where
  root : String
  parts : List String
  deriving DecidableEq, Repr

namespace Path

/-- The slashes that count at the front of a path. -/
def rootOf (cs : List Char) : String :=
  match (cs.takeWhile (· == '/')).length with
  | 0 => ""
  | 2 => "//"
  | _ => "/"

/-- Reads a path. -/
def ofString (s : String) : Path where
  root := rootOf s.toList
  parts :=
    ((Text.splitAt (· == '/') s.toList).filter fun p => !p.isEmpty && p != ['.']).map String.ofList

/-- The written form; a path without parts is a point. -/
def toString (p : Path) : String :=
  if p.root.isEmpty && p.parts.isEmpty then "." else p.root ++ "/".intercalate p.parts

/-- The last part, or nothing. -/
def name (p : Path) : String := p.parts.getLastD ""

/-- The path with more parts behind it; an absolute path stands alone. -/
def join (p q : Path) : Path := if q.root.isEmpty then ⟨p.root, p.parts ++ q.parts⟩ else q

/-- A name before and from its last point. A point at either end does not count. -/
def splitName (name : String) : String × String :=
  let cs := name.toList
  let after := (cs.reverse.takeWhile (· != '.')).reverse
  let stem := cs.take (cs.length - after.length - 1)
  if after.length < cs.length ∧ ¬after.isEmpty ∧ ¬stem.isEmpty then
    (String.ofList stem, String.ofList ('.' :: after))
  else (name, "")

/-- The name from its last point. -/
def suffix (p : Path) : String := (splitName p.name).2

/-- The name before its last point. -/
def stem (p : Path) : String := (splitName p.name).1

end Path

end FormatHost
