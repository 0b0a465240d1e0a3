import FormatHost.Text.Symbol
import FormatHost.Yaml.Fault
/-!
# Tokens

The words of a YAML text. Indentation is made visible: tokens mark where block collections start
and end.
-/
namespace FormatHost.Yaml

/-- A tag as it is written: a handle, which is left out in the verbatim form, and the rest. -/
structure TagWord where
  handle : Option String
  suffix : String
  deriving DecidableEq, Repr

/-- A directive. -/
inductive Directive where
  | version (major : Nat)
  | handle (handle start : String)
  | other
  deriving DecidableEq, Repr

/-- A token. -/
inductive Token where
  | directive (d : Directive)
  | documentStart
  | documentEnd
  | streamEnd
  | blockSequenceStart
  | blockMappingStart
  | blockEnd
  | flowSequenceStart
  | flowSequenceEnd
  | flowMappingStart
  | flowMappingEnd
  | flowEntry
  | blockEntry
  | key
  | value
  | alias (name : String)
  | anchor (name : String)
  | tag (word : TagWord)
  /-- A text; a plain one has no quotes and is no block. -/
  | scalar (plain : Bool) (text : Text)
  /-- The place from which on the characters cannot be read. -/
  | broken (f : Fault)
  deriving DecidableEq, Repr

end FormatHost.Yaml
