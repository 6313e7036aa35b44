import SdkGen.Decimal.Layout
import SdkGen.Failure
import SdkGen.Text.Blank
import SdkGen.Text.CharSet
import SdkGen.Text.Table.Digits

/-!
# Numbers in texts

Whole, decimal and complex numbers as they are written in texts of their own. Blanks around a number
do not count, and the digits of every script do. Of the blanks in ASCII, those that separate files,
groups, records and units are no blanks here.
-/

namespace SdkGen.Text

/-- The digits zero of every script. -/
def zeros : List Nat := (Table.zeroRows.flatMap (·.splitOn " ")).map hexValue

/-- The digit that a character is. -/
def digit? (c : Char) : Option Nat :=
  zeros.findSome? fun z => if z ≤ c.toNat ∧ c.toNat < z + 10 then some (c.toNat - z) else none

/-- A character in ASCII that means the same in a number, or else the character itself. -/
def commonForm (c : Char) : Char :=
  if c.toNat < 0x80 then c
  else if isBlank c then ' '
  else
    match digit? c with
    | some n => Char.ofNat (0x30 + n)
    | none => c

/-- Whether a character in ASCII is a blank around numbers. -/
def isNumberBlank (c : Char) : Bool := c ∈ [' ', '\t', '\n', '\x0b', '\x0c', '\r']

/-- A number without the blanks around it. -/
def trimNumber (cs : List Char) : List Char :=
  ((cs.dropWhile isNumberBlank).reverse.dropWhile isNumberBlank).reverse

/-- A number without the blanks around it, in common digits. -/
def numeral (cs : List Char) : List Char := trimNumber (cs.map commonForm)

/-- Whether a number has a minus in front, and the number without its sign. -/
def splitSign : List Char → Bool × List Char
  | '-' :: cs => (true, cs)
  | '+' :: cs => (false, cs)
  | cs => (false, cs)

/-- The value of a character as a digit of a base. -/
def digitIn? (base : Nat) (c : Char) : Option Nat :=
  let value : Option Nat :=
    if '0' ≤ c ∧ c ≤ '9' then some (c.toNat - 0x30)
    else if 'a' ≤ c ∧ c ≤ 'f' then some (c.toNat - 0x57)
    else if 'A' ≤ c ∧ c ≤ 'F' then some (c.toNat - 0x37)
    else none
  value.filter (· < base)

/-- The number that digits of a base write; other characters count as zero. -/
def digitsIn (base : Nat) (cs : List Char) : Nat :=
  cs.foldl (fun n c => base * n + (digitIn? base c).getD 0) 0

/-- A number without the mark of its base. -/
def dropMark (base : Nat) (cs : List Char) : List Char :=
  match cs with
  | '0' :: mark :: rest =>
    if (base = 2 ∧ mark ∈ ['b', 'B']) ∨ (base = 8 ∧ mark ∈ ['o', 'O']) ∨
        (base = 16 ∧ mark ∈ ['x', 'X']) then rest
    else cs
  | _ => cs

/-- The most decimal digits that a whole number may have. -/
def maxDigits : Nat := 4300

/-- The most characters of a text that the fault of a whole number shows. -/
def maxShown : Nat := 200

/-- The whole number that a text writes in a base; `shown` shows texts that are none. -/
def readInt (shown : List Char → String) (base : Nat) (cs : List Char) : Except Fault Int :=
  let (negative, body) := splitSign (numeral cs)
  let body := dropMark base body
  let digits := body.takeWhile fun c => (digitIn? base c).isSome
  if base = 10 ∧ maxDigits < digits.length then .error (.tooManyDigits digits.length)
  else if digits.isEmpty ∨ digits.length < body.length then
    .error (.notInBase base (String.ofList ((shown cs).toList.take maxShown)))
  else
    let n : Int := digitsIn base digits
    .ok (if negative then -n else n)

/-- The characters behind a word that comes next in any case. -/
def afterWord? (word : String) (cs : List Char) : Option (List Char) :=
  let n := word.length
  if (cs.take n).map Char.toLower = word.toList then some (cs.drop n) else none

/-- The exponent at the start of a text, if there is one, and what follows. -/
def takeExponent (cs : List Char) : Int × List Char :=
  match cs with
  | e :: rest =>
    let (negative, rest) := splitSign rest
    let digits := rest.takeWhile Char.isDigit
    if e.toLower = 'e' ∧ !digits.isEmpty then
      let n : Int := digitsIn 10 digits
      (if negative then -n else n, rest.drop digits.length)
    else (0, cs)
  | [] => (0, [])

/-- The decimal number at the start of a text, and what follows. -/
def takeFloat (cs : List Char) : Option (Float × List Char) :=
  let (negative, cs) := splitSign cs
  let signed := fun (x : Float) => if negative then -x else x
  match afterWord? "infinity" cs, afterWord? "inf" cs, afterWord? "nan" cs with
  | some rest, _, _ | none, some rest, _ => some (signed (1 / 0), rest)
  | none, none, some rest => some (0 / 0, rest)
  | none, none, none =>
    let whole := cs.takeWhile Char.isDigit
    let (fraction, rest) := match cs.drop whole.length with
      | '.' :: rest => (rest.takeWhile Char.isDigit, rest.dropWhile Char.isDigit)
      | rest => ([], rest)
    if whole.isEmpty && fraction.isEmpty then none
    else
      let (e, rest) := takeExponent rest
      some (Decimal.toFloat negative (digitsIn 10 (whole ++ fraction)) (e - fraction.length), rest)

/-- The decimal number that a text writes; `shown` shows texts that are none. -/
def readFloat (shown : List Char → String) (cs : List Char) : Except Fault Float :=
  match takeFloat (numeral cs) with
  | some (x, []) => .ok x
  | _ => .error (.notDecimal (shown cs))

/-- A number without the underscores between its digits; none may stand elsewhere. `before` is the
character in front. -/
def dropUnderscores? (before : Char) : List Char → Option (List Char)
  | [] => some []
  | '_' :: c :: cs =>
    if before.isDigit && c.isDigit then (dropUnderscores? c cs).map (c :: ·) else none
  | c :: cs => if c = '_' then none else (dropUnderscores? c cs).map (c :: ·)

/-- The real and the imaginary part of a text that is a real number, an imaginary one, or the sum of both. -/
def complexParts? (cs : List Char) : Option (Float × Float) :=
  let isUnit := fun (cs : List Char) => (cs.map Char.toLower) = ['j']
  let unit? := fun (cs : List Char) =>
    let (negative, rest) := splitSign cs
    if isUnit rest then some (if negative then (-1 : Float) else 1) else none
  match takeFloat cs with
  | none => (unit? cs).map (0, ·)
  | some (x, rest) =>
    if rest.isEmpty then some (x, 0)
    else if isUnit rest then some (0, x)
    else if rest.head?.any fun c => c = '+' || c = '-' then
      match takeFloat rest with
      | some (y, rest) => if isUnit rest then some (x, y) else none
      | none => (unit? rest).map (x, ·)
    else none

/-- The parts of the complex number that a text writes, perhaps between parentheses; `shown` shows texts that
are none. -/
def readComplex (shown : List Char → String) (cs : List Char) : Except Fault (Float × Float) :=
  let parts? := fun (cs : List Char) =>
    match cs with
    | '(' :: inside =>
      if inside.getLast? = some ')' then complexParts? (trimNumber inside.dropLast) else none
    | cs => complexParts? cs
  match dropUnderscores? ' ' (numeral cs) with
  | none => .error (.strayUnderscore (shown cs))
  | some cs => (parts? cs).elim (.error .notComplex) .ok

end SdkGen.Text
