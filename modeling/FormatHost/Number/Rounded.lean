import FormatHost.Number.Double
/-!
# Numbers with a given number of digits

The written forms of a magnitude that keep some digits and round the rest away: with an exponent
always, or with one only where the digits would stand far from the point. A half goes to the even
neighbour.
-/
namespace FormatHost.Double

/-- A finite magnitude rounded to digits: the digits, and the exponent of the first. -/
def rounded (count : Nat) (x : Double) : List Char × Int :=
  if x.significand = 0 then (List.replicate count '0', 0)
  else
    let (num, den) := x.ratio
    let (n, exponent) := x.shortestDigits
    -- the exponent of the first digit, or one more where the shortest digits are rounded up
    let guess := exponent + (Nat.toDigits 10 n).length - 1
    let digitsAt (first : Int) : List Char :=
      let shift := (count : Int) - 1 - first
      Nat.toDigits 10
        (if 0 ≤ shift then roundQuotient (num * Nat.pow 10 shift.toNat) den
        else roundQuotient num (den * Nat.pow 10 (-shift).toNat))
    let digits := digitsAt guess
    if digits.length < count then
      let digits := digitsAt (guess - 1)
      (digits.take count, guess - 1 + (digits.length - count))
    else (digits.take count, guess + (digits.length - count))

/-- Digits with a point behind the first ones; `pointed` keeps the point where nothing follows it. -/
def withPoint (pointed : Bool) (whole part : List Char) : List Char :=
  if part.isEmpty && !pointed then whole else whole ++ '.' :: part

/-- An exponent with its sign and two digits at least. -/
def exponentText (e : Int) : List Char :=
  'e' :: (if e < 0 then '-' else '+') :: (padded 2 e.natAbs).toList

/-- A finite magnitude with one digit before the point, places behind it, and an exponent. -/
def scientific (places : Nat) (pointed : Bool) (x : Double) : List Char :=
  let (digits, e) := x.rounded (places + 1)
  withPoint pointed (digits.take 1) (digits.drop 1) ++ exponentText e

/-- A finite magnitude with so many digits, written with an exponent if the first digit would stand
far from the point. Zeros at the end stay only if the point does. -/
def general (count : Nat) (pointed : Bool) (x : Double) : List Char :=
  let count := max 1 count
  let (digits, e) := x.rounded count
  let short (part : List Char) : List Char := if pointed then part else dropZeros part
  if -4 ≤ e ∧ e < count then
    if e < 0 then
      withPoint pointed ['0'] (short (List.replicate (-e - 1).toNat '0' ++ digits))
    else
      withPoint pointed (digits.take (e.toNat + 1)) (short (digits.drop (e.toNat + 1)))
  else withPoint pointed (digits.take 1) (short (digits.drop 1)) ++ exponentText e

end FormatHost.Double
