import SdkGen.Console.Literal.Token
import SdkGen.Text.Encoding.Escaped

/-!
# What texts hold

A text may hold escapes, and a text of bytes nothing but ASCII. Characters outside ASCII are written as
escapes with eight digits before the escapes of a text are read, so the places in what is said of them count
these digits.
-/

namespace SdkGen.Console.Literal

/-- A character as it is spelled where escapes are read. -/
def spelling (c : Char) : List UInt8 :=
  if c.toNat < 0x80 then [c.toUInt8]
  else ('\\' :: 'U' :: Text.hexDigits 8 c.toNat).map Char.toUInt8

/-- A backslash as it is spelled in front of what is no escape. -/
def backslashSpelling : List UInt8 := "\\u005c".toList.map Char.toUInt8

/-- A text as it is spelled where escapes are read. A backslash at the end or in front of a character outside
ASCII is spelled as an escape of its own. -/
def spelled : List Char → List UInt8
  | [] => []
  | ['\\'] => backslashSpelling
  | '\\' :: c :: cs =>
    if c.toNat < 0x80 then 0x5C :: c.toUInt8 :: spelled cs
    else backslashSpelling ++ spelling c ++ spelled cs
  | c :: cs => spelling c ++ spelled cs

/-- What is wrong with the escapes of a text. -/
def escapeProblem? (cs : List Char) : Option Problem :=
  match Text.Escapes.all.decode Text.standIn (spelled cs) with
  | .ok _ => none
  | .error u => some ("(unicode error) " ++ u.message)

/-- What is wrong with the escapes of a text of bytes, the first of which is at a place. -/
def byteProblem? (place : Nat) : List Char → Option Problem
  | [] | [_] => none
  | '\\' :: 'x' :: cs =>
    if 2 ≤ cs.length ∧ (cs.take 2).all fun c => (Text.hexDigit? c.toUInt8).isSome then
      byteProblem? (place + 2) cs
    else some ("(value error) invalid \\x escape at position " ++ toString place)
  | '\\' :: _ :: cs => byteProblem? (place + 2) cs
  | _ :: cs => byteProblem? (place + 1) cs

/-- What is wrong with what a text of characters holds. -/
def plainProblem? (raw : Bool) (body : List Char) : Option Problem :=
  if raw then none else escapeProblem? body

/-- What is wrong with what a text of bytes holds. -/
def bytesProblem? (raw : Bool) (body : List Char) : Option Problem :=
  if body.any (0x80 ≤ ·.toNat) then some "bytes can only contain ASCII literal characters"
  else if raw then none
  else byteProblem? 0 body

end SdkGen.Console.Literal
