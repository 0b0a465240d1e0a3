import FormatHost.Config.Map
import FormatHost.Json.Parser
import FormatHost.Json.Printer
import FormatHost.Text.Utf8
/-!
# Override configurations

Reading the configuration that a guest stages. The bytes may be UTF-8, UTF-16 or UTF-32; a byte
order mark or the place of the zero bytes tells which. What is not a map of booleans, integers and
texts counts as the empty map: no part of it is taken. Only a text whose containers stand inside each
other deeper than the stack has room for is not read to its end.
-/
namespace FormatHost

namespace Text

/-- The forms in which a configuration may be encoded. -/
inductive Encoding where
  | utf8
  | utf16 (bigEndian : Bool)
  | utf32 (bigEndian : Bool)
  deriving DecidableEq, Repr

/-- The encoding of a byte string without a byte order mark, by the zeros among its first bytes. -/
def Encoding.ofZeros : Bytes → Encoding
  | a :: b :: c :: d :: _ =>
    if a == 0 then if b == 0 then .utf32 true else .utf16 true
    else if b == 0 then if c == 0 && d == 0 then .utf32 false else .utf16 false
    else .utf8
  | [a, b] =>
    if a == 0 then .utf16 true else if b == 0 then .utf16 false else .utf8
  | _ => .utf8

/-- The encoding of a byte string and the bytes behind the byte order mark. -/
def Encoding.detect (data : Bytes) : Encoding × Bytes :=
  match data with
  | 0x00 :: 0x00 :: 0xFE :: 0xFF :: rest => (.utf32 true, rest)
  | 0xFF :: 0xFE :: 0x00 :: 0x00 :: rest => (.utf32 false, rest)
  | 0xFE :: 0xFF :: rest => (.utf16 true, rest)
  | 0xFF :: 0xFE :: rest => (.utf16 false, rest)
  | 0xEF :: 0xBB :: 0xBF :: rest => (.utf8, rest)
  | data => (.ofZeros data, data)

/-- The units of sixteen bits of a byte string of even length. -/
def units16? (bigEndian : Bool) : Bytes → Option (List Nat)
  | [] => some []
  | a :: b :: rest =>
    (units16? bigEndian rest).map
      ((if bigEndian then 256 * a.toNat + b.toNat else 256 * b.toNat + a.toNat) :: ·)
  | [_] => none

/-- The code points of a byte string of four bytes each. -/
def units32? (bigEndian : Bool) : Bytes → Option (List Nat)
  | [] => some []
  | a :: b :: c :: d :: rest =>
    let n :=
      if bigEndian then ((a.toNat * 256 + b.toNat) * 256 + c.toNat) * 256 + d.toNat
      else ((d.toNat * 256 + c.toNat) * 256 + b.toNat) * 256 + a.toNat
    (units32? bigEndian rest).map (n :: ·)
  | _ => none

/-- Joins units that form pairs; others stand for themselves. -/
def ofUnits16? : List Nat → Option Text
  | [] => some []
  | [n] => (Symbol.ofCodePoint? n).map ([·])
  | high :: low :: rest =>
    if Json.isHighUnit high && Json.isLowUnit low then do
      let s ← Symbol.ofCodePoint? (0x10000 + (high - 0xD800) * 0x400 + (low - 0xDC00))
      let t ← ofUnits16? rest
      return s :: t
    else do
      let s ← Symbol.ofCodePoint? high
      let t ← ofUnits16? (low :: rest)
      return s :: t

/-- The text of a byte string in its detected encoding. Encoded surrogates stand for themselves. -/
def ofBytes? (data : Bytes) : Option Text :=
  match Encoding.detect data with
  | (.utf8, rest) => (Utf8.decodeLone rest).toOption
  | (.utf16 bigEndian, rest) => (units16? bigEndian rest).bind ofUnits16?
  | (.utf32 bigEndian, rest) => (units32? bigEndian rest).bind (List.mapM Symbol.ofCodePoint?)

end Text

namespace ConfigMap

/-- The map that a staged byte string spells, if it spells one, however deep it is nested. -/
def parse? (data : Bytes) : Option ConfigMap := do
  let t ← Text.ofBytes? data
  let d ← (Json.parse .lenient t).toOption
  ofDatum? d

/-- The map that a staged byte string stands for: anything but a map of scalars counts as the empty
one. -/
def spelled (data : Bytes) : ConfigMap := (parse? data).getD []

/-- Reads a staged byte string with room for so many containers inside the outermost one. -/
def parse (room : Nat) (data : Bytes) : Except Fault ConfigMap :=
  match Text.ofBytes? data with
  | none => .ok []
  | some t =>
    match Json.parse (.roomy room) t with
    | .ok d => .ok ((ofDatum? d).getD [])
    | .error (.tooDeep container) => .error (.tooDeep container)
    | .error _ => .ok []

/-- The configuration text of a value, in bytes. -/
def serialize (d : Datum) : Except Fault Bytes := (Json.configText d).map Utf8.encodeChars

end ConfigMap

end FormatHost
