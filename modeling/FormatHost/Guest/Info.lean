import FormatHost.Complaint
import FormatHost.Json.Parser
import FormatHost.Text.LowerCase
/-!
# What guests say about themselves

A guest describes itself and the errors in its configuration by JSON texts. A field may be written
under either of two names; the first of them wins. All complaints about a text are collected, in the
order of the fields.
-/
namespace FormatHost

/-- A plugin's description of itself. -/
structure PluginInfo where
  name : String
  version : String
  configKey : String
  fileExtensions : List String
  fileNames : List String
  helpUrl : String
  configSchemaUrl : String
  updateUrl : Option String
  deriving DecidableEq, Repr

/-- An error that a guest found in its configuration. -/
structure Diagnostic where
  property : String
  message : String
  deriving DecidableEq, Repr

/-- The error with the property it concerns. -/
def Diagnostic.line (d : Diagnostic) : String := d.message ++ " (" ++ d.property ++ ")"

namespace Checked

/-- A text. -/
def text : Datum → Checked String
  | .text t => .ok t.scalars
  | _ => .error [.whole .notText]

/-- A text, or nothing. -/
def textOrNull : Datum → Checked (Option String)
  | .null => .ok none
  | d => (text d).map some

/-- Checks each item of a list, counted from an index. -/
def each {α : Type} (check : Datum → Checked α) : Nat → List Datum → Checked (List α)
  | _, [] => .ok []
  | i, d :: rest =>
    both ((under (.item i) (check d)).map List.cons) (each check (i + 1) rest)

/-- A list of texts. -/
def texts : Datum → Checked (List String)
  | .list ds => each text 0 ds
  | _ => .error [.whole .notList]

/-- The field under the first of its names that is there. -/
def field {α : Type} (entries : List (Datum × Datum)) (names : List String)
    (check : Datum → Checked α) (absent : Checked α) : Checked α :=
  match names.findSome? fun name => (Datum.field? entries name).map (name, ·) with
  | some (name, d) => under (.field name) (check d)
  | none => absent

/-- The complaint about a field that is not there. -/
def missing {α : Type} (name : String) : Checked α := .error [⟨[.field name], .missing⟩]

end Checked

open Checked

/-- Checks a plugin's description of itself. -/
def PluginInfo.check : Datum → Checked PluginInfo
  | .map es =>
    let info := (field es ["name"] text (missing "name")).map PluginInfo.mk
    let info := both info (field es ["version"] text (.ok "0.0.0"))
    let info := both info (field es ["configKey", "config_key"] text (missing "configKey"))
    let info := both info (field es ["fileExtensions", "file_extensions"] texts (.ok []))
    let info := both info (field es ["fileNames", "file_names"] texts (.ok []))
    let info := both info (field es ["helpUrl", "help_url"] text (.ok ""))
    let info := both info (field es ["configSchemaUrl", "config_schema_url"] text (.ok ""))
    both info (field es ["updateUrl", "update_url"] textOrNull (.ok none))
  | _ => .error [.whole .notRecord]

/-- Checks an error that a guest found in its configuration. -/
def Diagnostic.check : Datum → Checked Diagnostic
  | .map es =>
    both ((field es ["propertyName", "property_name"] text (missing "propertyName")).map
      Diagnostic.mk) (field es ["message"] text (missing "message"))
  | _ => .error [.whole .notRecord]

/-- Checks a list of such errors. -/
def Diagnostic.checkAll : Datum → Checked (List Diagnostic)
  | .list ds => each Diagnostic.check 0 ds
  | _ => .error [.whole .notList]

/-- Reads a text and checks what it spells. -/
def Checked.ofJson {α : Type} (check : Datum → Checked α) (s : String) : Checked α :=
  match Json.parse .strict (Text.ofString s) with
  | .ok d => check d
  | .error _ => .error [.whole .notJson]

/-- Reads a plugin's description of itself. -/
def PluginInfo.parse (s : String) : Checked PluginInfo := Checked.ofJson PluginInfo.check s

/-- Reads a list of configuration errors. -/
def Diagnostic.parseAll (s : String) : Checked (List Diagnostic) :=
  Checked.ofJson Diagnostic.checkAll s

namespace PluginInfo

/-- An extension in lower case and without its points in front. -/
def bareExtension (extension : String) : List Char :=
  (Text.lower extension).toList.dropWhile (· == '.')

/-- The plugin handles files of this name or, unless it is empty, of this extension. -/
def handles (info : PluginInfo) (fileName extension : String) : Bool :=
  info.fileNames.contains fileName ||
    (let bare := bareExtension extension
     !bare.isEmpty && info.fileExtensions.any fun e => bareExtension e == bare)

end PluginInfo

end FormatHost
