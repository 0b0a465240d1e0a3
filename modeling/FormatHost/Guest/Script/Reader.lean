import FormatHost.Config.Field
import FormatHost.Guest.Script
import FormatHost.Json.Parser
/-!
# Reading scripts

The written form of a scripted plugin is a map with a field for each thing that a script may say;
what a field leaves out is as usual. A file of a plugin holds that map as a JSON text.
-/
namespace FormatHost.Script

/-- Reads a byte string: the UTF-8 of a text, or hexadecimal digits. -/
def readBytes (d : Datum) : Bytes :=
  match d.part? "text" with
  | some t => Utf8.encode t.scalars
  | none => (Bytes.ofHex? (d.part "hex").scalars).getD []

/-- Reads a call of the `host` step: its name, and its arguments behind it. -/
def readCall (d : Datum) : Option ScriptCall :=
  match (d.item 0).scalars with
  | "poke" =>
    some (.poke (d.item 1).whole ((Bytes.ofHex? (d.item 2).scalars).getD []))
  | "peek" => some (.peek (d.item 1).whole (d.item 2).whole)
  | name => (HostCall.ofName? name ((d.items.drop 1).map Datum.whole)).map .host

/-- Reads a step of the formatter. A step that is none changes nothing. -/
def readStep (d : Datum) : FormatStep :=
  match (d.part "do").scalars with
  | "text" => .text (d.part "text").scalars
  | "append" => .append (d.part "text").scalars
  | "trim" => .trim
  | "echo" => .echo
  | "error" => .error (d.part "text").scalars
  | "status" => .status (d.part "value").whole
  | "trap" => .trap (d.part "text").scalars
  | "block" =>
    match h : d.part? "then" with
    | some next =>
      have := Datum.sizeOf_lt_of_part?_eq_some h
      .block (readStep next)
    | none => .block .none
  | "reenter" => .reenter
  | "delegate" => .delegate (d.part "path").scalars? (d.part "override").scalars?
  | "blocks" => .blocks (d.part "override").scalars?
  | "host" => .host ((d.part "calls").items.filterMap readCall)
  | _ => .none
termination_by sizeOf d

/-- Reads a script. -/
def ofDatum (d : Datum) : Script where
  memorySize := ((d.part? "memory").map fun n => n.whole.toNat).getD 4096
  bufferPointer := ((d.part? "buffer_pointer").map Datum.whole).getD 512
  bufferSize := ((d.part? "buffer_size").map Datum.whole).getD 64
  data := (d.part "data").named readBytes
  returns := (d.part "returns").named Datum.whole
  traps := (d.part "traps").named Datum.scalars
  missing := (d.part "missing").items.map Datum.scalars
  format := (d.part "format").items.map readStep
  loadFaults := []

/-- Reads a script from the bytes of a file, if they are the JSON text of a map. -/
def ofBytes? (data : Bytes) : Option Script :=
  match (Utf8.decode data).toOption.bind fun s => (Json.parse .lenient (.ofString s)).toOption with
  | some (.map entries) => some (ofDatum (.map entries))
  | _ => none

end FormatHost.Script
