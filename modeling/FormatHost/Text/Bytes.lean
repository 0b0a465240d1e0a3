/-!
# Byte strings

Values cross the boundary between host and guest as byte strings. Their written form in reports is
lower-case hexadecimal.
-/
namespace FormatHost

/-- A byte string. -/
abbrev Bytes := List UInt8

namespace Bytes

/-- The hexadecimal digit of a number below sixteen. -/
def hexDigit (n : Nat) : Char :=
  if n < 10 then Char.ofNat (48 + n) else Char.ofNat (87 + n)

/-- The value of a hexadecimal digit of either case. -/
def hexValue? (c : Char) : Option Nat :=
  if '0' ≤ c ∧ c ≤ '9' then some (c.toNat - 48)
  else if 'a' ≤ c ∧ c ≤ 'f' then some (c.toNat - 87)
  else if 'A' ≤ c ∧ c ≤ 'F' then some (c.toNat - 55)
  else none

/-- Two hexadecimal digits a byte. -/
def hex (data : Bytes) : String :=
  String.ofList (data.flatMap fun b => [hexDigit (b.toNat / 16), hexDigit (b.toNat % 16)])

/-- Reads pairs of hexadecimal digits. -/
def ofHexDigits? : List Char → Option Bytes
  | [] => some []
  | high :: low :: rest => do
    let h ← hexValue? high
    let l ← hexValue? low
    let data ← ofHexDigits? rest
    return UInt8.ofNat (16 * h + l) :: data
  | [_] => none

/-- Reads a byte string from its written form. -/
def ofHex? (s : String) : Option Bytes := ofHexDigits? s.toList

end Bytes

end FormatHost
