import SdkGen.Text.CharacterName
import SdkGen.Text.Encoding.Stray
import SdkGen.Text.Halves

/-!
# Encodings with escapes

Each byte stands for the character with its number, except for the backslash: behind it a letter tells how
many hexadecimal digits give the number of a character. In the fuller of the two encodings there are more
escapes: short ones for some characters, octal digits, names, and a line end that is passed over. A backslash
with anything else behind it stands for itself.
-/

namespace SdkGen.Text

/-- The value of a byte as a hexadecimal digit. -/
def hexDigit? (b : UInt8) : Option Nat :=
  let n := b.toNat
  if 0x30 ≤ n && n ≤ 0x39 then some (n - 0x30)
  else if 0x41 ≤ n && n ≤ 0x46 then some (n - 0x41 + 10)
  else if 0x61 ≤ n && n ≤ 0x66 then some (n - 0x61 + 10)
  else none

/-- The value of a byte as an octal digit. -/
def octalDigit? (b : UInt8) : Option Nat :=
  if 0x30 ≤ b && b ≤ 0x37 then some (b.toNat - 0x30) else none

/-- An encoding with escapes. -/
structure Escapes where
  name : String
  /-- Whether there are more escapes than those with the number of a character in four or eight digits. -/
  full : Bool
  /-- What is said of a number that is too big. -/
  tooBig : String

namespace Escapes

/-- The encoding with all escapes. -/
def all : Escapes := ⟨"unicodeescape", true, "illegal Unicode character"⟩

/-- The encoding with few escapes. -/
def raw : Escapes := ⟨"rawunicodeescape", false, "\\Uxxxxxxxx out of range"⟩

/-- The number of hexadecimal digits behind a letter, and what is said where they end too early. -/
def digits? (e : Escapes) (letter : Char) : Option (Nat × String) :=
  match letter with
  | 'u' => some (4, "truncated \\uXXXX escape")
  | 'U' => some (8, "truncated \\UXXXXXXXX escape")
  | 'x' => if e.full then some (2, "truncated \\xXX escape") else none
  | _ => none

/-- The characters of a short escape. -/
def short? (letter : Char) : Option (List Char) :=
  match letter with
  | '\n' => some []
  | '\\' | '\'' | '"' => some [letter]
  | 'a' => some ['\x07']
  | 'b' => some ['\x08']
  | 't' => some ['\t']
  | 'n' => some ['\n']
  | 'v' => some ['\x0b']
  | 'f' => some ['\x0c']
  | 'r' => some ['\r']
  | _ => none

/-- What an escape comes to. -/
inductive Read where
  /-- The characters of so many bytes behind the backslash. -/
  | characters (cs : List Char) (count : Nat)
  /-- So many bytes behind the backslash and itself stand for nothing. -/
  | wrong (count : Nat) (reason : String)

/-- The number in some digits. -/
def number (base : Nat) (ds : List Nat) : Nat := ds.foldl (fun n d => base * n + d) 0

/-- An escape with a number in so many digits, behind its letter; `half` gives a character for each half. -/
def hexadecimal (e : Escapes) (half : Nat → Char) (count : Nat) (reason : String) (bs : List UInt8) : Read :=
  let ds := ((bs.take count).map hexDigit?).takeWhile (·.isSome) |>.filterMap id
  if ds.length < count then .wrong (ds.length + 1) reason
  else if 0x110000 ≤ number 16 ds then .wrong (count + 1) e.tooBig
  else .characters [ofNumberWith half (number 16 ds)] (count + 1)

/-- An escape with a name in braces, behind its letter. -/
def named (bs : List UInt8) : Read :=
  match bs with
  | 0x7B :: rest =>
    let name := rest.takeWhile (· != 0x7D)
    if name.length = rest.length then .wrong (rest.length + 2) "malformed \\N character escape"
    else if name.isEmpty then .wrong 2 "malformed \\N character escape"
    else
      match CharacterName.character? (String.ofList (name.map fun b => Char.ofNat b.toNat)) with
      | some c => .characters [c] (name.length + 3)
      | none => .wrong (name.length + 3) "unknown Unicode character name"
  | _ => .wrong 1 "malformed \\N character escape"

/-- Reads what comes behind a backslash. -/
def read (e : Escapes) (half : Nat → Char) : List UInt8 → Read
  | [] => if e.full then .wrong 0 "\\ at end of string" else .characters ['\\'] 0
  | b :: rest =>
    let letter := Char.ofNat b.toNat
    match e.digits? letter with
    | some (count, reason) => e.hexadecimal half count reason rest
    | none =>
      if !e.full then .characters ['\\', letter] 1
      else if letter = 'N' then named rest
      else
        match short? letter, octalDigit? b with
        | some cs, _ => .characters cs 1
        | none, some d =>
          let ds := d :: (((rest.take 2).map octalDigit?).takeWhile (·.isSome)).filterMap id
          .characters [Char.ofNat (number 8 ds)] ds.length
        | none, none => .characters ['\\', letter] 1

/-- The characters of bytes, the first of which is at a place. -/
def decodeFrom (e : Escapes) (half : Nat → Char) (place : Nat) : List UInt8 → Except Undecodable (List Char)
  | [] => .ok []
  | b :: rest =>
    if b != 0x5C then (decodeFrom e half (place + 1) rest).map (Char.ofNat b.toNat :: ·)
    else
      match e.read half rest with
      | .characters cs count => (decodeFrom e half (place + 1 + count) (rest.drop count)).map (cs ++ ·)
      | .wrong count reason => .error (.stray e.name place (count + 1) b reason)
termination_by bs => bs.length
decreasing_by
  · simp only [List.length_cons]
    omega
  · simp only [List.length_drop, List.length_cons]
    omega

/-- The characters of bytes. -/
def decode (e : Escapes) (half : Nat → Char) (bs : List UInt8) : Except Undecodable (List Char) :=
  e.decodeFrom half 0 bs

end Escapes

end SdkGen.Text
