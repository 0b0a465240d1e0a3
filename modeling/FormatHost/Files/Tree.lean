import FormatHost.Files.Path
import FormatHost.Text.Bytes
import FormatHost.Text.Quoted
import FormatHost.Text.Utf8
/-!
# File trees

Files and directories, and which of these is the working directory. Paths are followed part by part,
as a file system does: a name before a slash must be a directory that exists.
-/
namespace FormatHost

/-- A file or a directory. -/
inductive FileNode where
  | directory
  | file (data : Bytes)
  deriving DecidableEq, Repr

/-- Why a path cannot be used. -/
inductive FileError where
  | notFound
  | exists
  | notDirectory
  | isDirectory
  | nameTooLong
  deriving DecidableEq, Repr

namespace FileError

/-- The number of the error. -/
def number : FileError → Nat
  | notFound => 2
  | «exists» => 17
  | notDirectory => 20
  | isDirectory => 21
  | nameTooLong => 36

/-- The wording of the error. -/
def text : FileError → String
  | notFound => "No such file or directory"
  | «exists» => "File exists"
  | notDirectory => "Not a directory"
  | isDirectory => "Is a directory"
  | nameTooLong => "File name too long"

/-- The error with the path that it concerns. -/
def message (e : FileError) (p : Path) : String :=
  "[Errno " ++ toString e.number ++ "] " ++ e.text ++ ": " ++ Text.quoted p.toString

end FileError

/-- Nodes by the parts of their paths from the root on. The root itself is not listed. -/
structure FileTree where
  /-- The place of the working directory. -/
  home : List String
  nodes : List (List String × FileNode)

namespace FileTree

/-- Nothing but the working directory and those that it lies in. -/
def empty (home : List String) : FileTree :=
  ⟨home, (List.range home.length).map fun n => (home.take (n + 1), .directory)⟩

/-- The node at a place. -/
def node? (t : FileTree) (place : List String) : Option FileNode :=
  if place.isEmpty then some .directory
  else (t.nodes.find? fun n => n.1 == place).map Prod.snd

/-- Puts a node at a place. -/
def set (t : FileTree) (place : List String) (node : FileNode) : FileTree :=
  if t.nodes.any fun n => n.1 == place then
    { t with nodes := t.nodes.map fun n => if n.1 == place then (place, node) else n }
  else { t with nodes := t.nodes ++ [(place, node)] }

/-- Removes the node at a place. -/
def remove (t : FileTree) (place : List String) : FileTree :=
  { t with nodes := t.nodes.filter fun n => n.1 != place }

/-- One part further from a place that must be a directory. The root is its own parent. -/
def follow (t : FileTree) (place : List String) (part : String) : Except FileError (List String) :=
  match t.node? place with
  | none => .error .notFound
  | some (.file _) => .error .notDirectory
  | some .directory =>
    if 255 < (Utf8.encode part).length then .error .nameTooLong
    else .ok (if part = ".." then place.dropLast else place ++ [part])

/-- The place of a path, which starts at the root or at the working directory. -/
def place (t : FileTree) (p : Path) : Except FileError (List String) :=
  p.parts.foldlM t.follow (if p.root.isEmpty then t.home else [])

/-- The node of a path. -/
def find (t : FileTree) (p : Path) : Except FileError FileNode := do
  match t.node? (← t.place p) with
  | some node => return node
  | none => .error .notFound

/-- Something is at the path. -/
def contains (t : FileTree) (p : Path) : Bool :=
  match t.find p with
  | .ok _ => true
  | .error _ => false

/-- A directory is at the path. -/
def isDirectory (t : FileTree) (p : Path) : Bool :=
  match t.find p with
  | .ok .directory => true
  | _ => false

/-- The bytes of the file at the path. -/
def read (t : FileTree) (p : Path) : Except FileError Bytes := do
  match ← t.find p with
  | .file data => return data
  | .directory => .error .isDirectory

/-- Gives the file at the path new bytes, which may depend on the old ones; a new file is empty
before. -/
def modify (t : FileTree) (p : Path) (f : Bytes → Bytes) : Except FileError FileTree := do
  let place ← t.place p
  match t.node? place with
  | some .directory => .error .isDirectory
  | some (.file data) => return t.set place (.file (f data))
  | none =>
    match t.node? place.dropLast with
    | some .directory => return t.set place (.file (f []))
    | some (.file _) => .error .notDirectory
    | none => .error .notFound

/-- Writes a file. -/
def write (t : FileTree) (p : Path) (data : Bytes) : Except FileError FileTree :=
  t.modify p fun _ => data

/-- Writes bytes at the end of a file. -/
def append (t : FileTree) (p : Path) (data : Bytes) : Except FileError FileTree :=
  t.modify p fun old => old ++ data

/-- Makes a directory of the next part unless something is there. -/
def makeStep (t : FileTree) (place : List String) (part : String) :
    Except FileError (FileTree × List String) := do
  let next ← t.follow place part
  match t.node? next with
  | some _ => return (t, next)
  | none => return (t.set next .directory, next)

/-- Makes a directory and those above it. -/
def makeDirectories (t : FileTree) (p : Path) : Except FileError FileTree := do
  let start := if p.root.isEmpty then t.home else []
  let (t, last) ← p.parts.foldlM (fun (t, place) part => t.makeStep place part) (t, start)
  match t.node? last with
  | some .directory => return t
  | _ => .error .exists

/-- The names in the directory at the path, with their nodes. -/
def children (t : FileTree) (p : Path) : List (String × FileNode) :=
  match t.place p with
  | .ok directory =>
    t.nodes.filterMap fun (place, node) =>
      if place.dropLast == directory && !place.isEmpty then some (place.getLastD "", node) else none
  | .error _ => []

/-- All paths below the working directory in the order of their characters. -/
def listing (t : FileTree) : List (String × FileNode) :=
  let below := t.nodes.filterMap fun (place, node) =>
    if t.home.isPrefixOf place && t.home != place then
      some ("/".intercalate (place.drop t.home.length), node)
    else none
  below.mergeSort fun a b => decide (a.1 ≤ b.1)

end FileTree

end FormatHost
