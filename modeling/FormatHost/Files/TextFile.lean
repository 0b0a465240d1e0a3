import FormatHost.Files.Tree
import FormatHost.Text.Lines
/-!
# Text files

Files that hold UTF-8. All kinds of line ends are read as line feeds.
-/
namespace FormatHost

/-- Why a text file cannot be read. -/
inductive ReadFault where
  | file (e : FileError)
  | notText (refusal : Utf8.Refusal)
  deriving DecidableEq, Repr

namespace ReadFault

/-- The message of the fault for a path. -/
def message (p : Path) : ReadFault → String
  | file e => e.message p
  | notText refusal => refusal.message

end ReadFault

/-- The text of a file. -/
def FileTree.readText (t : FileTree) (p : Path) : Except ReadFault (List Char) := do
  let data ← (t.read p).mapError ReadFault.file
  let s ← (Utf8.decode data).mapError ReadFault.notText
  return Text.unifyBreaks s.toList

end FormatHost
