/-!
# The shortest decimal for a binary number

A finite floating-point number is `m * 2 ^ q` for natural `m`. The decimals that read back as that
number fill an interval around it; among the decimals in the interval with the fewest digits the
nearest one is chosen, and of two equally near ones that with the even last digit.

All comparisons are made on one decimal grid, in exact arithmetic: with `q < 0` the number is
`m * 5 ^ (-q)` units of `10 ^ q`.
-/

namespace SdkGen.Decimal

/-- A binary number `mantissa * 2 ^ exponent`, with a mark for the powers of two whose lower
neighbour is nearer than the upper one. -/
structure Binary where
  /-- The whole factor. -/
  mantissa : Nat
  /-- The power of two. -/
  exponent : Int
  /-- Whether the gap below is half the gap above. -/
  narrowBelow : Bool

/-- The magnitude of a finite floating-point number, from its bits. -/
def Binary.ofBits (bits : Nat) : Binary :=
  let fraction : Nat := bits % Nat.pow 2 52
  let biased : Nat := bits / Nat.pow 2 52 % Nat.pow 2 11
  if biased = 0 then ⟨fraction, -1074, false⟩
  else ⟨fraction + Nat.pow 2 52, (biased : Int) - 1075, fraction == 0 && biased > 1⟩

/-- A decimal number `digits * 10 ^ exponent`. -/
structure Scaled where
  /-- The whole factor. -/
  digits : Nat
  /-- The power of ten. -/
  exponent : Int
deriving DecidableEq, Repr

/-- An interval on the grid of the multiples of `10 ^ exponent`, around the point `centre`. -/
structure Span where
  /-- The lower end. -/
  low : Nat
  /-- The number itself. -/
  centre : Nat
  /-- The upper end. -/
  high : Nat
  /-- Whether the ends belong to the interval. -/
  closed : Bool
  /-- The power of ten of the grid. -/
  exponent : Int

/-- Whether a point of the grid lies in the interval. -/
def Span.contains (s : Span) (x : Nat) : Bool :=
  if s.closed then s.low ≤ x && x ≤ s.high else s.low < x && x < s.high

/-- The interval of the decimals that read back as a binary number: it ends half-way to the
neighbours, and its ends belong to it when the mantissa is even. -/
def Span.ofBinary (b : Binary) : Span :=
  -- four units to the mantissa: half-way to either neighbour, and half of that, are whole numbers then
  let q := b.exponent - 2
  let unit := if q < 0 then Nat.pow 5 q.natAbs else Nat.pow 2 q.natAbs
  { low := (4 * b.mantissa - if b.narrowBelow then 1 else 2) * unit
    centre := 4 * b.mantissa * unit
    high := (4 * b.mantissa + 2) * unit
    closed := b.mantissa % 2 == 0
    exponent := if q < 0 then q else 0 }

/-- The number of decimal digits. -/
def digitCount (n : Nat) : Nat := (Nat.toDigits 10 n).length

/-- The neighbour of the centre with `count` digits that lies in the interval and is nearest. -/
def Span.pick? (s : Span) (count : Nat) : Option Scaled :=
  let unit := Nat.pow 10 (digitCount s.centre - count)
  let exponent := s.exponent + (digitCount s.centre - count : Nat)
  let below := s.centre / unit
  let lower := s.contains (below * unit)
  let upper := s.contains ((below + 1) * unit)
  let down := s.centre - below * unit
  let up := (below + 1) * unit - s.centre
  if lower && (!upper || down < up || (down == up && below % 2 == 0)) then some ⟨below, exponent⟩
  else if upper then some ⟨below + 1, exponent⟩
  else none

/-- A decimal without zeros at the end of its digits. `fuel` bounds the number of zeros. -/
def Scaled.trimZeros : Nat → Scaled → Scaled
  | 0, d => d
  | fuel + 1, d =>
    if d.digits ≠ 0 ∧ d.digits % 10 = 0 then trimZeros fuel ⟨d.digits / 10, d.exponent + 1⟩ else d

/-- The shortest decimal that reads back as a binary number. -/
def shortest (b : Binary) : Scaled :=
  let s := Span.ofBinary b
  let found := ((List.range 17).findSome? fun n => s.pick? (n + 1)).getD ⟨s.centre, s.exponent⟩
  found.trimZeros (digitCount found.digits)

end SdkGen.Decimal
