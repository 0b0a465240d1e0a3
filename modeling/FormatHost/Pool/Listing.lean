import FormatHost.Config.Datum
import FormatHost.Pool.Basic
/-!
# Listings of plugins

What a pool tells about its plugins.
-/
namespace FormatHost

namespace PluginRecord

/-- A list of texts as a value. -/
def texts (ss : List String) : Datum := .list (ss.map Datum.string)

/-- What is told about a plugin. A plugin that was never asked what it is has empty fields. -/
def toDatum (updated : Datum) (r : PluginRecord) : Datum :=
  let told (f : PluginInfo → String) : Datum := .string ((r.info.map f).getD "")
  let toldAll (f : PluginInfo → List String) : Datum := texts ((r.info.map f).getD [])
  .map [
    (.string "name", .string r.name),
    (.string "plugin_name", told (·.name)),
    (.string "version", told (·.version)),
    (.string "config_key", told (·.configKey)),
    (.string "file_extensions", toldAll (·.fileExtensions)),
    (.string "file_names", toldAll (·.fileNames)),
    (.string "status", .string r.status.text),
    (.string "message", .string r.message),
    (.string "error", .string r.error),
    (.string "updated_at", updated),
    (.string "idle_instances", .int r.idle.length),
    (.string "busy_instances", .int r.inUse),
    (.string "instances_created", .int r.created),
    (.string "consecutive_crashes", .int r.crashes)]

end PluginRecord

/-- What a pool tells about its plugins, in the order of their names. -/
def Pool.listing {σ ε : Type} (updated : Datum) (p : Pool σ ε) : Datum :=
  .list (p.sorted.map fun r => r.2.toDatum updated)

end FormatHost
