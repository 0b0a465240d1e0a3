import FormatHost.Proofs.CommandLine.Visits
import FormatHost.Proofs.Pool.Loads
/-!
# What a run comes to

A run whose settings can be read and whose log can be opened loads its plugins and comes to all of its
files, one after the other. Its status tells whether one of them could not be read or formatted, or is to
be formatted; a file has the text that was written to it last, and otherwise its old bytes; and who only
checks files writes to none of them. All this leaves out the files of the log, which have lives of their
own.
-/
namespace FormatHost

variable {σ ε : Type}

namespace Session

variable {engine : Engine σ ε} {clock : Clock} {s : Session σ ε} {directory p : Path}

/-! ### How a run comes to its first file -/

/-- The session in which a run comes to its first file: the plugins are loaded, and listed if they are to
be. -/
def ready (engine : Engine σ ε) (clock : Clock) (o : Options) (directory : Path) (s : Session σ ε) :
    Session σ ε :=
  ((loadDirectory engine clock directory).run s).2.listed clock o.list

end Session

namespace Run

open Session

variable {engine : Engine σ ε} {start : ε} {clock : Clock} {environment : List (String × String)}
  {o : Options} {tree : FileTree} {s : Session σ ε} {plugins : Path}

open Script

/-- A file that is not there, and the file beside the desk by two paths. -/
def rounds : Options := { errand with files := ["gone", "/f.a", "../f.a"] }

/-- The place of a log that is too old to be kept. -/
def oldLog : List String := ["logs", "fmtbridge-2020-01-01.log"]

/-- A directory with that log. -/
def dated : FileTree := ⟨[], [(["e.yaml"], .file []), (["logs"], .directory), (oldLog, .file [120])]⟩

end Run
end FormatHost
