import SdkGen.Decimal.Shortest

/-!
# Texts of floating-point numbers

A number is written positionally while its decimal point stands within sixteen digits or follows at
most three zeros, and with an exponent of at least two digits otherwise. A positional text always has
a digit after the point.
-/

namespace SdkGen.Decimal

/-- So many zeros. -/
def zeros (n : Nat) : List Char := List.replicate n '0'

/-- The exponent part: a sign and at least two digits. -/
def exponentText (e : Int) : List Char :=
  let digits := Nat.toDigits 10 e.natAbs
  'e' :: (if e < 0 then '-' else '+') :: (zeros (2 - digits.length) ++ digits)

/-- A positive decimal as text. -/
def Scaled.layout (d : Scaled) : List Char :=
  let digits := Nat.toDigits 10 d.digits
  let point : Int := digits.length + d.exponent
  if point < -3 ∨ 16 < point then
    let mantissa := match digits with
      | [] => []
      | [c] => [c]
      | c :: cs => c :: '.' :: cs
    mantissa ++ exponentText (point - 1)
  else if point ≤ 0 then '0' :: '.' :: (zeros point.natAbs ++ digits)
  else if point.toNat < digits.length then
    digits.take point.toNat ++ '.' :: digits.drop point.toNat
  else digits ++ zeros (point.toNat - digits.length) ++ ['.', '0']

/-- The text of a finite number; the sign of zero is kept. -/
def finiteText (x : Float) : String :=
  let bits := x.toBits.toNat
  let magnitude := bits % Nat.pow 2 63
  let sign := if bits / Nat.pow 2 63 = 1 then ['-'] else []
  if magnitude = 0 then String.ofList (sign ++ ['0', '.', '0'])
  else String.ofList (sign ++ (shortest (.ofBits magnitude)).layout)

/-- The words for the numbers that are not finite. -/
structure SpecialWords where
  /-- The word for what is not a number. -/
  nan : String
  /-- The word for the greatest number. -/
  infinity : String
  /-- The word for the least number. -/
  negativeInfinity : String

/-- The text of a number. -/
def floatText (words : SpecialWords) (x : Float) : String :=
  if x.isNaN then words.nan
  else if x.isInf then (if x < 0 then words.negativeInfinity else words.infinity)
  else finiteText x

/-- The number `digits * 10 ^ exponent`, correctly rounded; beyond the range of the format it is
infinite or zero. -/
def toFloat (negative : Bool) (digits : Nat) (exponent : Int) : Float :=
  let size : Int := digitCount digits + exponent
  let magnitude : Float :=
    if digits = 0 ∨ size < -400 then 0
    else if 400 < size then 1 / 0
    else Float.ofScientific digits (exponent < 0) exponent.natAbs
  if negative then -magnitude else magnitude

end SdkGen.Decimal
