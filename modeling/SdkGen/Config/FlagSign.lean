import SdkGen.Failure
import SdkGen.Text.Blank
import SdkGen.Text.Numeral
import SdkGen.Text.Word

/-!
# The signs of flags

A flag begins with a sign, of which the last character may be doubled. Where a flag ends and its text begins
is found with a pattern that holds the sign behind a backslash. The backslash turns most letters into
something else, or makes the pattern malformed.
-/

namespace SdkGen.Config

/-- What the characters at one place of a sign have to be like. -/
abbrev SignPart := Char → Bool

namespace SignPart

/-- One character. -/
def only (c : Char) : SignPart := (· == c)

/-- Whether a character may stand in a word. -/
def word : SignPart := Text.isWordChar

/-- Whether a character is a digit of some script. -/
def digit : SignPart := fun c => (Text.digit? c).isSome

end SignPart

/-- The hexadecimal digits at the start of a text, at most so many. -/
def takeHexadecimal (count : Nat) (cs : List Char) : List Char :=
  (cs.take count).takeWhile fun c => (Text.digitIn? 16 c).isSome

/-- A character that is written with so many hexadecimal digits behind a letter, and what follows it. -/
def numbered (letter : Char) (count : Nat) (cs : List Char) :
    Except PatternProblem (List SignPart × List Char) :=
  let digits := takeHexadecimal count cs
  if digits.length < count then .error (.cutEscape (String.ofList ('\\' :: letter :: digits)))
  else .ok ([.only (Char.ofNat (Text.digitsIn 16 digits))], cs.drop count)

/-- What the first character of a sign means behind a backslash, and what follows it. -/
def escapedPart (c : Char) (rest : List Char) : Except PatternProblem (List SignPart × List Char) :=
  let one := fun (part : SignPart) => .ok ([part], rest)
  match c with
  | 'd' => one .digit
  | 'D' => one fun c => !SignPart.digit c
  | 's' => one Text.isBlank
  | 'S' => one fun c => !Text.isBlank c
  | 'w' => one .word
  | 'W' => one fun c => !SignPart.word c
  | 'a' => one (.only '\x07')
  | 'f' => one (.only '\x0c')
  | 'n' => one (.only '\n')
  | 'r' => one (.only '\r')
  | 't' => one (.only '\t')
  | 'v' => one (.only '\x0b')
  | 'A' | 'b' | 'B' | 'Z' => if rest.isEmpty then .error (.nothingRepeated 4) else .ok ([], rest)
  | 'x' => numbered 'x' 2 rest
  | 'u' => numbered 'u' 4 rest
  | 'U' => numbered 'U' 8 rest
  | 'N' => .error (.noSuchName "1,2")
  | '0' =>
    let digits := (rest.take 2).takeWhile fun c => (Text.digitIn? 8 c).isSome
    .ok ([.only (Char.ofNat (Text.digitsIn 8 digits))], rest.drop digits.length)
  | '1' => if rest.isEmpty then .error .openGroup else .error (.noSuchGroup 1)
  | c =>
    if c.isDigit then .error (.noSuchGroup (c.toNat - 0x30))
    else if c.isAlpha then .error (.noEscape c)
    else one (.only c)

/-- The parts of a sign; only the last one may be doubled. A sign must not end in what repeats or parts the
things in front of it. -/
def signParts (sign : List Char) : Except PatternProblem (List SignPart) :=
  match sign with
  | [] => .ok []
  | c :: rest => do
    let (first, others) ← escapedPart c rest
    match others.getLast? with
    | some '*' | some '+' | some '?' => throw (.repeatedTwice (3 + sign.length))
    | some '^' | some '$' | some '|' | some '(' => throw (.nothingRepeated (3 + sign.length))
    | _ => return first ++ others.map fun c => if c = '.' then (· != '\n') else SignPart.only c

/-- What follows the parts of a sign at the start of a text. -/
def afterParts? : List SignPart → List Char → Option (List Char)
  | [], cs => some cs
  | part :: parts, c :: cs => if part c then afterParts? parts cs else none
  | _ :: _, [] => none

/-- The flag at the start of a text, which goes up to a blank or an equals sign, and what follows it. -/
def flagBehind? (parts : List SignPart) (cs : List Char) : Option (List Char × List Char) :=
  (afterParts? parts cs).bind fun rest =>
    let name := rest.takeWhile fun c => !Text.isBlank c && c != '='
    let count := cs.length - rest.length + name.length
    if name.isEmpty then none else some (cs.take count, cs.drop count)

/-- The flag at the start of a text and what follows it. -/
def splitFlag? (parts : List SignPart) (cs : List Char) : Option (List Char × List Char) :=
  (flagBehind? (parts ++ parts.getLast?.toList) cs).or (flagBehind? parts cs)

end SdkGen.Config
