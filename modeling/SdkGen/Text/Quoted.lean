import SdkGen.Text.CharSet
import SdkGen.Text.Table.Classes

/-!
# Quoted texts

A text as it is shown inside a message: between single quotes, or between double quotes when it holds
a single quote and no double one. Backslashes and the quote in use are escaped, tabs and line ends
have short escapes, and every other character that cannot be shown is written by its code point with
two, four or eight hexadecimal digits.
-/

namespace SdkGen.Text

/-- Characters outside ASCII that are shown as they are. -/
def printableTable : CharSet := .ofRows Table.printableRows

/-- Whether a character is shown as it is. -/
def isPrintable (c : Char) : Bool :=
  if c.toNat < 0x80 then 0x20 ≤ c.toNat && c.toNat < 0x7F else printableTable.contains c

/-- The lower-case hexadecimal digit of a number below sixteen. -/
def hexDigit (n : Nat) : Char := Nat.digitChar (n % 16)

/-- The lowest `width` hexadecimal digits of a number. -/
def hexDigits : Nat → Nat → List Char
  | 0, _ => []
  | width + 1, n => hexDigits width (n / 16) ++ [hexDigit n]

/-- A character that cannot be shown, written by its code point. -/
def escapeCode (c : Char) : List Char :=
  let n := c.toNat
  if n < 0x100 then '\\' :: 'x' :: hexDigits 2 n
  else if n < 0x10000 then '\\' :: 'u' :: hexDigits 4 n
  else '\\' :: 'U' :: hexDigits 8 n

/-- A character between the quotes `quote`. -/
def escapeChar (quote c : Char) : List Char :=
  if c = quote ∨ c = '\\' then ['\\', c]
  else if c = '\n' then ['\\', 'n']
  else if c = '\r' then ['\\', 'r']
  else if c = '\t' then ['\\', 't']
  else if isPrintable c then [c]
  else escapeCode c

/-- The quote that a text is shown with. -/
def quoteFor (cs : List Char) : Char := if '\'' ∈ cs ∧ '"' ∉ cs then '"' else '\''

/-- A text between quotes. -/
def quoted (s : String) : String :=
  let cs := s.toList
  let q := quoteFor cs
  String.ofList (q :: cs.flatMap (escapeChar q) ++ [q])

/-- Characters between quotes. -/
def quotedList (cs : List Char) : String := quoted (String.ofList cs)

/-- A byte between the quotes `quote`. -/
def escapeByte (quote : Char) (b : UInt8) : List Char :=
  if 0x80 ≤ b then escapeCode (Char.ofNat b.toNat) else escapeChar quote (Char.ofNat b.toNat)

/-- Bytes between quotes, as the characters of ASCII where they are some. -/
def quotedBytes (bs : List UInt8) : String :=
  let q := quoteFor (bs.map fun b => Char.ofNat b.toNat)
  String.ofList ('b' :: q :: bs.flatMap (escapeByte q) ++ [q])

end SdkGen.Text
