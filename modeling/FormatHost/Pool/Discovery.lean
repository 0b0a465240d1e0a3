import FormatHost.Files.Tree
import FormatHost.Log.Record
import FormatHost.Pool.Record
/-!
# Discovery

The compiled plugins of a directory: files with the right suffix whose other part can be the name of
a plugin, in the order of their names.
-/
namespace FormatHost.Discovery

/-- The suffix of compiled plugins. -/
def suffix : String := ".compiled"

/-- The logger of this part. -/
def logger : String := "fmtbridge.loader"

/-- A file with the suffix. -/
def isCandidate (entry : String × FileNode) : Bool :=
  (match entry.2 with | .file _ => true | .directory => false) &&
    (Path.splitName entry.1).2 == suffix

/-- The entries of a directory in the order of their names. -/
def entries (t : FileTree) (directory : Path) : List (String × FileNode) :=
  (t.children directory).mergeSort fun a b => decide (a.1 ≤ b.1)

/-- The paths of the plugins in a directory, and what there is to note about it. -/
def discover (t : FileTree) (directory : Path) : List Path × List LogRecord :=
  if !t.isDirectory directory then
    ([], [.warning logger ("Plugin directory does not exist: " ++ directory.toString)])
  else
    let candidates := ((entries t directory).filter isCandidate).map Prod.fst
    let isGood (name : String) := isPluginName (Path.splitName name).1
    let skipped := (candidates.filter fun name => !isGood name).map fun name =>
      LogRecord.warning logger ("Skipped plugin with invalid name: " ++ name)
    let good := candidates.filter isGood
    let names := ", ".intercalate (good.map Text.quoted)
    (good.map fun name => directory.join ⟨"", [name]⟩,
      skipped ++ [.debug logger ("Discovered plugins: [" ++ names ++ "]")])

end FormatHost.Discovery
