/-!
# Double-precision numbers

A number of the binary64 format, kept as its bits. All arithmetic here is exact on integers and rounds
once, to the nearest number and of two nearest ones to the even one.
-/
namespace FormatHost

/-- A binary64 number by its bits: sign, eleven bits of exponent, fifty-two of fraction. -/
structure Double where
  bits : UInt64
  deriving DecidableEq, Repr

namespace Double

/-- The sign bit is set. -/
def isNegative (x : Double) : Bool := 0x8000000000000000 ≤ x.bits

/-- The exponent field. -/
def exponentField (x : Double) : Nat := x.bits.toNat / Nat.pow 2 52 % Nat.pow 2 11

/-- The fraction field. -/
def fraction (x : Double) : Nat := x.bits.toNat % Nat.pow 2 52

/-- Neither infinite nor a NaN. -/
def isFinite (x : Double) : Bool := x.exponentField < 0x7FF

/-- Not a number. -/
def isNaN (x : Double) : Bool := x.exponentField == 0x7FF && x.fraction != 0

/-- The magnitude of a finite number is `significand * 2 ^ scale`. -/
def significand (x : Double) : Nat :=
  if x.exponentField = 0 then x.fraction else Nat.pow 2 52 + x.fraction

/-- The power of two that goes with the significand. -/
def scale (x : Double) : Int := (max x.exponentField 1 : Nat) - 1075

/-- The exact magnitude of a finite number as a ratio. -/
def ratio (x : Double) : Nat × Nat :=
  if 0 ≤ x.scale then (x.significand * Nat.pow 2 x.scale.toNat, 1)
  else (x.significand, Nat.pow 2 (-x.scale).toNat)

/-- The number of a sign and a magnitude below `2 ^ 63`. -/
def ofMagnitude (negative : Bool) (magnitude : Nat) : Double :=
  ⟨UInt64.ofNat (magnitude + if negative then Nat.pow 2 63 else 0)⟩

/-- The bits of infinity without its sign. -/
def infinityMagnitude : Nat := 0x7FF * Nat.pow 2 52

/-- Infinity. -/
def infinity (negative : Bool) : Double := ofMagnitude negative infinityMagnitude

/-- The quiet NaN. -/
def nan : Double := ⟨0x7FF8000000000000⟩

/-- Zero. -/
def zero (negative : Bool) : Double := ofMagnitude negative 0

/-- The quotient rounded to the nearest integer, a half to the even one. -/
def roundQuotient (num den : Nat) : Nat :=
  let q := num / den
  let rest := 2 * (num % den)
  if rest < den then q else if den < rest then q + 1 else q + q % 2

/-- `num / den` in units of `2 ^ scale`, rounded. -/
def roundScaled (num den : Nat) (scale : Int) : Nat :=
  if 0 ≤ scale then roundQuotient num (den * Nat.pow 2 scale.toNat)
  else roundQuotient (num * Nat.pow 2 (-scale).toNat) den

/-- The number nearest to a ratio. A significand that rounds up to `2 ^ 53` carries into the exponent
field, which is the right number again; at the top the carry gives infinity. -/
def ofRatio (negative : Bool) (num den : Nat) : Double :=
  if num = 0 then zero negative
  else
    let guess : Int := (num.log2 : Int) - den.log2 - 53
    let fits : Bool :=
      if 0 ≤ guess then num < den * Nat.pow 2 (guess.toNat + 53)
      else num * Nat.pow 2 (-guess).toNat < den * Nat.pow 2 53
    let scale := max (if fits then guess else guess + 1) (-1074)
    let magnitude := (scale + 1074).toNat * Nat.pow 2 52 + roundScaled num den scale
    ofMagnitude negative (min magnitude infinityMagnitude)

/-- The number nearest to an integer. -/
def ofInt (n : Int) : Double := ofRatio (n < 0) n.natAbs 1

/-- The number nearest to `digits * 10 ^ exponent`. Exponents far outside the range are cut short. -/
def ofDecimal (negative : Bool) (digits : Nat) (exponent : Int) : Double :=
  if digits = 0 then zero negative
  else
    let top : Int := exponent + (digits.log2 : Int) * 3 / 10
    if 400 < top then infinity negative
    else if top < -1200 then zero negative
    else if 0 ≤ exponent then ofRatio negative (digits * Nat.pow 10 exponent.toNat) 1
    else ofRatio negative digits (Nat.pow 10 (-exponent).toNat)

/-- The integer part of a finite number, toward zero. -/
def truncate? (x : Double) : Option Int :=
  if x.isFinite then
    let (num, den) := x.ratio
    let q : Int := (num / den : Nat)
    some (if x.isNegative then -q else q)
  else none

/-- A finite number is an integer. -/
def isInteger (x : Double) : Bool :=
  x.isFinite && x.ratio.1 % x.ratio.2 == 0

/-- The exact value of a finite number over a positive denominator. -/
def value (x : Double) : Int × Nat :=
  let (num, den) := x.ratio
  (if x.isNegative then -(num : Int) else num, den)

/-- The order of the values; a NaN is not below anything. -/
def below (x y : Double) : Bool :=
  if x.isNaN || y.isNaN then false
  else if !x.isFinite && !y.isFinite then x.isNegative && !y.isNegative
  else if !x.isFinite then x.isNegative
  else if !y.isFinite then !y.isNegative
  else
    let (a, b) := x.value
    let (c, d) := y.value
    a * d < c * b

/-- Equality of the values: both zeros are equal, and a NaN differs from everything. -/
def sameValue (x y : Double) : Bool :=
  !x.isNaN && !y.isNaN && !x.below y && !y.below x

/-- The value equals an integer. -/
def isInt (x : Double) (n : Int) : Bool :=
  x.isFinite && x.value.1 == n * x.value.2

/-- The greater of a floor and a number; the floor stands in for a NaN. -/
def atLeast (floor x : Double) : Double := if floor.below x then x else floor

/-- The number nearest to an exact fraction; `negativeZero` gives the sign of a zero. -/
def ofFraction (num : Int) (den : Nat) (negativeZero : Bool) : Double :=
  if num = 0 then zero negativeZero else ofRatio (num < 0) num.natAbs den

/-- The sum, rounded once. -/
def add (x y : Double) : Double :=
  if x.isNaN || y.isNaN then nan
  else if !x.isFinite && !y.isFinite then if x.isNegative == y.isNegative then x else nan
  else if !x.isFinite then x
  else if !y.isFinite then y
  else
    let (a, b) := x.value
    let (c, d) := y.value
    ofFraction (a * d + c * b) (b * d) (x.isNegative && y.isNegative)

/-- The product, rounded once. -/
def mul (x y : Double) : Double :=
  let negative := x.isNegative != y.isNegative
  if x.isNaN || y.isNaN then nan
  else if !x.isFinite || !y.isFinite then
    if (x.isFinite && x.significand == 0) || (y.isFinite && y.significand == 0) then nan
    else infinity negative
  else
    let (a, b) := x.ratio
    let (c, d) := y.ratio
    ofRatio negative (a * c) (b * d)

/-- The same magnitude with the other sign. -/
def neg (x : Double) : Double := ⟨x.bits ^^^ 0x8000000000000000⟩

/-! ### Written forms -/

/-- The decimal digits of a number, padded with zeros on the left to a width. -/
def padded (width n : Nat) : String :=
  let digits := Nat.toDigits 10 n
  String.ofList (List.replicate (width - digits.length) '0' ++ digits)

/-- A magnitude `digits * 10 ^ exponent` read back as a number is `x`. -/
def readsBack (x : Double) (digits : Nat) (exponent : Int) : Bool :=
  ofDecimal x.isNegative digits exponent == x

/-- The neighbour of the magnitude on the grid of `10 ^ exponent` that reads back, the nearer one
if both do. -/
def onGrid (x : Double) (exponent : Int) : Option Nat :=
  let (num, den) := x.ratio
  let (n, d) :=
    if 0 ≤ exponent then (num, den * Nat.pow 10 exponent.toNat)
    else (num * Nat.pow 10 (-exponent).toNat, den)
  let low := n / d
  let near := roundQuotient n d
  let far := if near = low then low + 1 else low
  if near ≠ 0 ∧ x.readsBack near exponent then some near
  else if far ≠ 0 ∧ x.readsBack far exponent then some far
  else none

/-- Tries grids from coarse to fine; seventeen digits always read back. -/
def searchGrid (x : Double) : Nat → Int → Nat × Int
  | 0, exponent => ((x.onGrid exponent).getD 0, exponent)
  | steps + 1, exponent =>
    match x.onGrid exponent with
    | some digits => (digits, exponent)
    | none => searchGrid x steps (exponent - 1)

/-- A power of ten above the magnitude: digits start at or below it. -/
def topExponent (x : Double) : Int :=
  let (num, den) := x.ratio
  ((num.log2 : Int) - den.log2 + 1) * 30103 / 100000 + 1

/-- The shortest digits that read back, and their exponent, of a finite number other than zero. -/
def shortestDigits (x : Double) : Nat × Int := searchGrid x 20 x.topExponent

/-- Drops the zeros at the end of the digits. -/
def dropZeros : List Char → List Char := fun cs => (cs.reverse.dropWhile (· == '0')).reverse

/-- The written form of a number: the shortest digits that read back, positional from `1e-4` up to
below `1e16`, with a point always, and otherwise with a signed exponent of two digits or more. -/
def text (x : Double) : String :=
  if x.isNaN then "nan"
  else
    let sign := if x.isNegative then "-" else ""
    if !x.isFinite then sign ++ "inf"
    else if x.significand = 0 then sign ++ "0.0"
    else
      let (n, exponent) := x.shortestDigits
      let all := Nat.toDigits 10 n
      let digits := dropZeros all
      -- the value is 0.digits * 10 ^ point
      let point : Int := exponent + all.length
      if -4 < point ∧ point ≤ 16 then
        if point ≤ 0 then
          sign ++ "0." ++ String.ofList (List.replicate (-point).toNat '0' ++ digits)
        else
          let whole := digits.take point.toNat
          let part := digits.drop point.toNat
          sign ++ String.ofList (whole ++ List.replicate (point.toNat - whole.length) '0') ++ "." ++
            (if part.isEmpty then "0" else String.ofList part)
      else
        let e := point - 1
        let mantissa := match digits with
          | [] => "0"
          | [d] => String.ofList [d]
          | d :: rest => String.ofList (d :: '.' :: rest)
        sign ++ mantissa ++ "e" ++ (if e < 0 then "-" else "+") ++ padded 2 e.natAbs

/-- The written form with a fixed number of places; a half goes to the even neighbour. -/
def fixed (places : Nat) (x : Double) : String :=
  if x.isNaN then "nan"
  else
    let sign := if x.isNegative then "-" else ""
    if !x.isFinite then sign ++ "inf"
    else
      let (num, den) := x.ratio
      let n := roundQuotient (num * Nat.pow 10 places) den
      let whole := toString (n / Nat.pow 10 places)
      if places = 0 then sign ++ whole
      else sign ++ whole ++ "." ++ padded places (n % Nat.pow 10 places)

end Double

end FormatHost
