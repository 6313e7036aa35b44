import SdkGen.Decimal.Layout
import SdkGen.Value

/-!
# Reading JSON

A reader for JSON documents that keeps the order of fields and the difference between whole numbers
and decimals: a number is a decimal when its text has a fraction or an exponent. The words `NaN`,
`Infinity` and `-Infinity` are read as numbers. A key that is repeated keeps its first place and takes
its last value.

Readers take the characters that are left and return a value with the characters that remain.
-/

namespace SdkGen.Json

/-- Whether a character may stand between tokens. -/
def isSpace (c : Char) : Bool := c == ' ' || c == '\t' || c == '\n' || c == '\r'

/-- The characters from the next token on. -/
def skipSpace (cs : List Char) : List Char := cs.dropWhile isSpace

/-- The value of a hexadecimal digit. -/
def hexValue? (c : Char) : Option Nat :=
  if '0' ≤ c ∧ c ≤ '9' then some (c.toNat - 0x30)
  else if 'a' ≤ c ∧ c ≤ 'f' then some (c.toNat - 0x57)
  else if 'A' ≤ c ∧ c ≤ 'F' then some (c.toNat - 0x37)
  else none

/-- The number that four hexadecimal digits write. -/
def hex4? (a b c d : Char) : Option Nat := do
  return (((← hexValue? a) * 16 + (← hexValue? b)) * 16 + (← hexValue? c)) * 16 + (← hexValue? d)

/-- The character that a short escape stands for. -/
def shortEscape? : Char → Option Char
  | '"' => some '"'
  | '\\' => some '\\'
  | '/' => some '/'
  | 'b' => some '\x08'
  | 'f' => some '\x0c'
  | 'n' => some '\n'
  | 'r' => some '\r'
  | 't' => some '\t'
  | _ => none

/-- The body of a text up to its closing quote; `acc` holds what was read, in reverse, and `halves` tells whether
some of it stands for halves of characters. -/
def readText (halves : Bool) (acc : List Char) : List Char → Option (Text.HalvedText × List Char)
  | [] => none
  | '"' :: cs => some ({ text := String.ofList acc.reverse, halves }, cs)
  | '\\' :: 'u' :: a :: b :: c :: d :: '\\' :: 'u' :: e :: f :: g :: h :: cs =>
    match hex4? a b c d with
    | none => none
    | some high =>
      match hex4? e f g h with
      | some low =>
        -- two halves of one character in a row are that character
        if Text.isFirstHalf high && Text.isSecondHalf low then
          readText halves (Text.ofHalves high low :: acc) cs
        else
          readText (halves || Text.isHalf high) (Text.ofNumber high :: acc)
            ('\\' :: 'u' :: e :: f :: g :: h :: cs)
      | none => none
  | '\\' :: 'u' :: a :: b :: c :: d :: cs =>
    match hex4? a b c d with
    | some n => readText (halves || Text.isHalf n) (Text.ofNumber n :: acc) cs
    | none => none
  | '\\' :: c :: cs =>
    match shortEscape? c with
    | some d => readText halves (d :: acc) cs
    | none => none
  | c :: cs => if c.toNat < 0x20 then none else readText halves (c :: acc) cs
termination_by cs => cs.length

/-- The number that decimal digits write. -/
def digitsValue (cs : List Char) : Nat := cs.foldl (fun n c => 10 * n + (c.toNat - 0x30)) 0

/-- The exponent of a number, if one is written, and what follows. -/
def readExponent (cs : List Char) : Option Int × List Char :=
  match cs with
  | c :: rest =>
    if c = 'e' ∨ c = 'E' then
      let (negative, rest') := match rest with
        | '-' :: r => (true, r)
        | '+' :: r => (false, r)
        | r => (false, r)
      match rest'.takeWhile Char.isDigit with
      | [] => (none, cs)
      | digits =>
        let n : Int := digitsValue digits
        (some (if negative then -n else n), rest'.dropWhile Char.isDigit)
    else (none, cs)
  | [] => (none, [])

/-- The digits after the point of a number, if there are any, and what follows. -/
def readFraction (cs : List Char) : List Char × List Char :=
  match cs with
  | '.' :: rest =>
    match rest.takeWhile Char.isDigit with
    | [] => ([], cs)
    | digits => (digits, rest.dropWhile Char.isDigit)
  | _ => ([], cs)

/-- A number from its whole part on; zero is the only whole part that starts with a zero. -/
def readMagnitude (negative : Bool) (cs : List Char) : Option (Value × List Char) :=
  let whole := match cs with
    | '0' :: _ => ['0']
    | _ => cs.takeWhile Char.isDigit
  if whole.isEmpty then none
  else
    let (fraction, rest) := readFraction (cs.drop whole.length)
    let (exponent, rest) := readExponent rest
    if fraction.isEmpty && exponent.isNone then
      let n : Int := digitsValue whole
      some (.int (if negative then -n else n), rest)
    else
      let scale := exponent.getD 0 - fraction.length
      some (.float (Decimal.toFloat negative (digitsValue (whole ++ fraction)) scale), rest)

/-- The value that a word stands for, from its first character on. -/
def readWord (cs : List Char) : Option (Value × List Char) :=
  match cs with
  | 'n' :: 'u' :: 'l' :: 'l' :: r => some (.null, r)
  | 't' :: 'r' :: 'u' :: 'e' :: r => some (.bool true, r)
  | 'f' :: 'a' :: 'l' :: 's' :: 'e' :: r => some (.bool false, r)
  | 'N' :: 'a' :: 'N' :: r => some (.float (0 / 0), r)
  | 'I' :: 'n' :: 'f' :: 'i' :: 'n' :: 'i' :: 't' :: 'y' :: r => some (.float (1 / 0), r)
  | '-' :: 'I' :: 'n' :: 'f' :: 'i' :: 'n' :: 'i' :: 't' :: 'y' :: r => some (.float (-1 / 0), r)
  | '-' :: r => readMagnitude true r
  | _ => readMagnitude false cs

/-- Writes a field into the fields read so far, newest first. -/
def putField (key : String) (v : Value) (fields : List (String × Value)) : List (String × Value) :=
  if fields.any (·.1 = key) then fields.map fun f => if f.1 = key then (key, v) else f
  else (key, v) :: fields

mutual

/-- A value from its first character on. `fuel` bounds the number of steps. -/
def readValue : Nat → List Char → Option (Value × List Char)
  | 0, _ => none
  | fuel + 1, cs =>
    match cs with
    | '"' :: r => (readText false [] r).map fun (t, r) => (.ofHalved t, r)
    | '[' :: r =>
      match skipSpace r with
      | ']' :: r => some (.list [], r)
      | r => readItems fuel [] r
    | '\x7b' :: r =>
      match skipSpace r with
      | '\x7d' :: r => some (.map [], r)
      | r => readFields fuel [] r
    | _ => readWord cs

/-- The items of a sequence from the next item on; `acc` holds those read, in reverse. -/
def readItems : Nat → List Value → List Char → Option (Value × List Char)
  | 0, _, _ => none
  | fuel + 1, acc, cs =>
    match readValue fuel (skipSpace cs) with
    | none => none
    | some (v, r) =>
      match skipSpace r with
      | ',' :: r => readItems fuel (v :: acc) r
      | ']' :: r => some (.list (v :: acc).reverse, r)
      | _ => none

/-- The fields of a mapping from the next key on; `acc` holds those read, in reverse. -/
def readFields : Nat → List (String × Value) → List Char → Option (Value × List Char)
  | 0, _, _ => none
  | fuel + 1, acc, cs =>
    match skipSpace cs with
    | '"' :: r =>
      match readText false [] r with
      | none => none
      | some (key, r) =>
        match skipSpace r with
        | ':' :: r =>
          match readValue fuel (skipSpace r) with
          | none => none
          | some (v, r) =>
            match skipSpace r with
            | ',' :: r => readFields fuel (putField key.text v acc) r
            | '\x7d' :: r => some (.record (putField key.text v acc).reverse, r)
            | _ => none
        | _ => none
    | _ => none

end

/-- The value that a document holds, if it is well formed. -/
def parse? (document : String) : Option Value :=
  let cs := document.toList
  match readValue (cs.length + 1) (skipSpace cs) with
  | some (v, r) => if (skipSpace r).isEmpty then some v else none
  | none => none

end SdkGen.Json
