import FormatHost.Text.Symbol
import FormatHost.Text.Bytes
/-!
# UTF-8

Encoding takes one to four bytes a scalar value. Decoding stops at the first ill-formed sequence and
reports it: where it starts, how long its maximal well-formed part is, and why it was refused.
-/
namespace FormatHost.Utf8

/-- Why a sequence is ill-formed. -/
inductive Reason where
  | startByte
  | continuationByte
  | unexpectedEnd
  deriving DecidableEq, Repr

/-- The wording of a reason. -/
def Reason.text : Reason → String
  | startByte => "invalid start byte"
  | continuationByte => "invalid continuation byte"
  | unexpectedEnd => "unexpected end of data"

/-- The first ill-formed sequence of a byte string: its position, its first byte, its length and
the reason. -/
structure Refusal where
  position : Nat
  byte : UInt8
  length : Nat
  reason : Reason
  deriving DecidableEq, Repr

/-- One byte is shown by its value, several by the positions of the first and the last. -/
def Refusal.message (r : Refusal) : String :=
  if r.length ≤ 1 then
    "'utf-8' codec can't decode byte 0x" ++ Bytes.hex [r.byte] ++ " in position " ++
      toString r.position ++ ": " ++ r.reason.text
  else
    "'utf-8' codec can't decode bytes in position " ++ toString r.position ++ "-" ++
      toString (r.position + r.length - 1) ++ ": " ++ r.reason.text

/-- The bytes of a code point below `0x110000`. -/
def encodeNat (n : Nat) : Bytes :=
  if n < 0x80 then [UInt8.ofNat n]
  else if n < 0x800 then [UInt8.ofNat (0xC0 + n / 0x40), UInt8.ofNat (0x80 + n % 0x40)]
  else if n < 0x10000 then
    [UInt8.ofNat (0xE0 + n / 0x1000), UInt8.ofNat (0x80 + n / 0x40 % 0x40),
      UInt8.ofNat (0x80 + n % 0x40)]
  else
    [UInt8.ofNat (0xF0 + n / 0x40000), UInt8.ofNat (0x80 + n / 0x1000 % 0x40),
      UInt8.ofNat (0x80 + n / 0x40 % 0x40), UInt8.ofNat (0x80 + n % 0x40)]

/-- The bytes of a list of scalar values. -/
def encodeChars (cs : List Char) : Bytes := cs.flatMap fun c => encodeNat c.toNat

/-- The bytes of a string. -/
def encode (s : String) : Bytes := encodeChars s.toList

/-- Continuation bytes carry six bits. -/
def isContinuation (b : UInt8) : Bool := 0x80 ≤ b && b < 0xC0

/-- Which second bytes a three-byte sequence admits: no shorter form exists, and a surrogate is
admitted only where `lone` says so. -/
def admitsSecond3 (lone : Bool) (first second : UInt8) : Bool :=
  isContinuation second && !(first == 0xE0 && second < 0xA0) &&
    (lone || !(first == 0xED && 0xA0 ≤ second))

/-- Which second bytes a four-byte sequence admits: no shorter form exists, and the code point lies
below `0x110000`. -/
def admitsSecond4 (first second : UInt8) : Bool :=
  isContinuation second && !(first == 0xF0 && second < 0x90) && !(first == 0xF4 && 0x90 ≤ second)

/-- The symbol of a code point that a well-formed sequence spells. -/
def symbol (n : Nat) : Symbol := (Symbol.ofCodePoint? n).getD (.char '\uFFFD')

/-- The low six bits of a continuation byte. -/
def low6 (b : UInt8) : Nat := b.toNat % 0x40

/-- One symbol from the front of a byte string, and how many bytes it took. -/
def front (lone : Bool) : Bytes → Except (Nat × Reason) (Symbol × Nat)
  | [] => .error (0, .unexpectedEnd)
  | b :: rest =>
    if b < 0x80 then .ok (symbol b.toNat, 1)
    else if b < 0xC2 then .error (1, .startByte)
    else if b < 0xE0 then
      match rest with
      | [] => .error (1, .unexpectedEnd)
      | c :: _ =>
        if isContinuation c then .ok (symbol (0x40 * (b.toNat % 0x20) + low6 c), 2)
        else .error (1, .continuationByte)
    else if b < 0xF0 then
      match rest with
      | [] => .error (1, .unexpectedEnd)
      | c :: rest =>
        if !admitsSecond3 lone b c then .error (1, .continuationByte)
        else match rest with
          | [] => .error (2, .unexpectedEnd)
          | d :: _ =>
            if isContinuation d then
              .ok (symbol (0x1000 * (b.toNat % 0x10) + 0x40 * low6 c + low6 d), 3)
            else .error (2, .continuationByte)
    else if b < 0xF5 then
      match rest with
      | [] => .error (1, .unexpectedEnd)
      | c :: rest =>
        if !admitsSecond4 b c then .error (1, .continuationByte)
        else match rest with
          | [] => .error (2, .unexpectedEnd)
          | d :: rest =>
            if !isContinuation d then .error (2, .continuationByte)
            else match rest with
              | [] => .error (3, .unexpectedEnd)
              | e :: _ =>
                if isContinuation e then
                  .ok (symbol (0x40000 * (b.toNat % 8) + 0x1000 * low6 c + 0x40 * low6 d + low6 e),
                    4)
                else .error (3, .continuationByte)
    else .error (1, .startByte)

/-- Decodes from a position on. A decoded sequence takes at least one byte, so the number of bytes
bounds the steps. -/
def decodeFrom (lone : Bool) : Nat → Nat → Bytes → Except Refusal Text
  | _, _, [] => .ok []
  | 0, _, _ :: _ => .ok []
  | steps + 1, position, b :: rest =>
    match front lone (b :: rest) with
    | .error (length, reason) => .error ⟨position, b, length, reason⟩
    | .ok (s, length) =>
      match decodeFrom lone steps (position + length) ((b :: rest).drop length) with
      | .error r => .error r
      | .ok t => .ok (s :: t)

/-- Decodes a whole byte string; encoded surrogates are refused. -/
def decode (data : Bytes) : Except Refusal String :=
  (decodeFrom false data.length 0 data).map Text.scalars

/-- Decodes a whole byte string; encoded surrogates stand for themselves. -/
def decodeLone (data : Bytes) : Except Refusal Text := decodeFrom true data.length 0 data

end FormatHost.Utf8
