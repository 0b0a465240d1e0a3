import FormatHost.Number.Numeral
import FormatHost.Yaml.Tag
/-!
# Values of texts

What a text with a tag stands for. A tag may be written in front of any text; then the text may fail
to spell what the tag promises.
-/
namespace FormatHost.Yaml

/-- The text without underscores. -/
def dropFillers (cs : List Char) : List Char := cs.filter (· != '_')

/-- Splits off a sign. -/
def splitSign (cs : List Char) : Bool × List Char := (cs.head? == some '-', Tag.dropSign cs)

/-- A numeral that must be readable. -/
def orBad {α : Type} : Option α → Except Fault α
  | some a => .ok a
  | none => .error .badNumber

/-- The value of digits to the base sixty. -/
def sixtieths (parts : List Int) : Int := parts.foldl (fun n d => 60 * n + d) 0

/-- The integer that a text without sign spells. -/
def magnitude (cs : List Char) : Except Fault Int :=
  match cs with
  | [] => .error .emptyNumber
  | ['0'] => .ok 0
  | '0' :: 'b' :: ds => orBad (Numeral.inBase? 2 ds)
  | '0' :: 'x' :: ds => orBad (Numeral.inBase? 16 ds)
  | '0' :: _ => orBad (Numeral.inBase? 8 cs)
  | _ =>
    if cs.contains ':' then
      orBad (((Text.splitAt (· == ':') cs).mapM Numeral.int?).map sixtieths)
    else orBad (Numeral.int? cs)

/-- The integer that a text spells. -/
def readInt (cs : List Char) : Except Fault Int := do
  let cs := dropFillers cs
  if cs.isEmpty then throw .emptyNumber
  let (negative, cs) := splitSign cs
  let n ← magnitude cs
  return if negative then -n else n

/-- The value of parts to the base sixty, the last one first: each is multiplied and added in turn, with
the rounding of each step. -/
def addSixtieths : List Double → Int → Double → Except Fault Double
  | [], _, sum => .ok sum
  | x :: rest, base, sum =>
    let b := Double.ofInt base
    if b.isFinite then addSixtieths rest (60 * base) (sum.add (x.mul b)) else .error .hugeNumber

/-- The number that a text without sign spells. -/
def magnitudeFloat (cs : List Char) : Except Fault Double :=
  if cs = ".inf".toList then .ok (.infinity false)
  else if cs = ".nan".toList then .ok .nan
  else if cs.contains ':' then do
    let parts ← orBad ((Text.splitAt (· == ':') cs).mapM Numeral.double?)
    addSixtieths parts.reverse 1 (.zero false)
  else orBad (Numeral.double? cs)

/-- The number that a text spells. -/
def readFloat (cs : List Char) : Except Fault Double := do
  let cs := Numeral.asciiLower (dropFillers cs)
  if cs.isEmpty then throw .emptyNumber
  let (negative, cs) := splitSign cs
  let x ← magnitudeFloat cs
  return if negative then x.neg else x

/-- The words for true. -/
def trueWords : List String := ["yes", "true", "on"]

/-- The words for false. -/
def falseWords : List String := ["no", "false", "off"]

/-- The truth value that a text spells, in any case. -/
def readBool (cs : List Char) : Except Fault Bool :=
  let word := String.ofList (Numeral.asciiLower cs)
  if trueWords.contains word then .ok true
  else if falseWords.contains word then .ok false
  else .error .badBool

/-- The value of a character of base sixty-four. -/
def sextet? (c : Char) : Option Nat :=
  if 'A' ≤ c ∧ c ≤ 'Z' then some (c.toNat - 65)
  else if 'a' ≤ c ∧ c ≤ 'z' then some (c.toNat - 71)
  else if '0' ≤ c ∧ c ≤ '9' then some (c.toNat + 4)
  else if c = '+' then some 62
  else if c = '/' then some 63
  else none

/-- Decodes base sixty-four: the place in a group of four, the bits that are left over and the equal
signs since the last character. Other characters count for nothing. -/
def sextets : List Char → Nat → Nat → Nat → Except Fault Bytes
  | [], place, _, _ => if place = 0 then .ok [] else .error .badBytes
  | c :: rest, place, left, equals =>
    if c = '=' then
      if 2 ≤ place then
        if 4 ≤ place + equals + 1 then .ok [] else sextets rest place left (equals + 1)
      else sextets rest place left equals
    else match sextet? c with
      | none => sextets rest place left equals
      | some n =>
        match place with
        | 0 => sextets rest 1 n 0
        | 1 => (sextets rest 2 (n % 16) 0).map (UInt8.ofNat (4 * left + n / 16) :: ·)
        | 2 => (sextets rest 3 (n % 4) 0).map (UInt8.ofNat (16 * left + n / 4) :: ·)
        | _ => (sextets rest 0 0 0).map (UInt8.ofNat (64 * left + n) :: ·)

/-- The bytes that a text spells in base sixty-four. -/
def readBytes (cs : List Char) : Except Fault Bytes :=
  if cs.all fun c => c.toNat < 128 then sextets cs 0 0 0 else .error .badBytes

/-- Reads a text whose characters must all be scalar values. -/
def withChars {α : Type} (t : Text) (f : Fault) (read : List Char → Except Fault α) :
    Except Fault α :=
  match t.chars? with
  | some cs => read cs
  | none => .error f

/-- The value of a text with a tag. -/
def scalarDatum (tag : Tag) (t : Text) : Except Fault Datum :=
  match tag with
  | .null => .ok .null
  | .bool => (withChars t .badBool readBool).map .bool
  | .int => (withChars t .badNumber readInt).map .int
  | .float => (withChars t .badNumber readFloat).map .float
  | .bytes => (withChars t .badBytes readBytes).map .binary
  | .moment =>
    withChars t .badMoment fun cs =>
      (readMoment (if cs.getLast? = some '\n' then cs.dropLast else cs)).map .moment
  | .text => .ok (.text t)
  | .orderedMap | .pairs | .set | .list | .map => .error .wrongShape
  | .merge | .standIn | .other _ => .error .unknownTag

end FormatHost.Yaml
