import SdkGen.Text.Quoted

/-!
# Halves of characters

Among the numbers of characters are some that belong to halves of characters, two of which make one. A half may
stand alone in a text, where it is no character. Such a text is kept with a character in place of every half: the
one that comes so many places behind it, among those that are left to private use.
-/

namespace SdkGen.Text

/-- Whether a number is that of the first half of a character. -/
def isFirstHalf (n : Nat) : Bool := 0xD800 ≤ n && n < 0xDC00

/-- Whether a number is that of the second half of a character. -/
def isSecondHalf (n : Nat) : Bool := 0xDC00 ≤ n && n < 0xE000

/-- Whether a number is that of half of a character. -/
def isHalf (n : Nat) : Bool := isFirstHalf n || isSecondHalf n

/-- The character of two halves. -/
def ofHalves (first second : Nat) : Char :=
  Char.ofNat (0x10000 + (first - 0xD800) * 0x400 + (second - 0xDC00))

/-- How far behind half of a character the one comes that stands for it. -/
def standInDistance : Nat := 0x100000

/-- The character that stands for half of a character. -/
def standIn (n : Nat) : Char := Char.ofNat (standInDistance + n)

/-- The character with a number, where `half` gives one for each half. -/
def ofNumberWith (half : Nat → Char) (n : Nat) : Char := if isHalf n then half n else Char.ofNat n

/-- The character with a number, or the one that stands for half of a character. -/
def ofNumber (n : Nat) : Char := ofNumberWith standIn n

/-- Whether a character is one that stands for half of a character. -/
def standsForHalf (c : Char) : Bool := isHalf (c.toNat - standInDistance)

/-- The number of the character, or of the half of one, that a character stands for. -/
def numberOf (c : Char) : Nat := if standsForHalf c then c.toNat - standInDistance else c.toNat

/-- Whether a number is that of a character, or of half of one, but of none that stands for a half. -/
def isOrdinary (n : Nat) : Bool := n < 0x110000 && !isHalf (n - standInDistance)

/-- A text that may hold halves of characters. -/
structure HalvedText where
  text : String
  /-- Whether some of its characters stand for halves. -/
  halves : Bool := false
deriving DecidableEq, Repr, Inhabited

namespace HalvedText

/-- The text of characters and halves with some numbers. -/
def ofNumbers (ns : List Nat) : HalvedText where
  text := String.ofList (ns.map ofNumber)
  halves := ns.any isHalf

/-- The text that is read with a character for each half. Where it comes out the same whatever stands for the
halves, it holds none. -/
def ofDecoder {ε : Type} (decode : (Nat → Char) → Except ε (List Char)) : Except ε HalvedText := do
  let cs ← decode standIn
  return { text := String.ofList cs, halves := decide (cs ≠ (← decode fun _ => '\x00')) }

def part (t : HalvedText) (text : String) : HalvedText where
  text
  halves := t.halves && text.toList.any standsForHalf

/-- A character between the quotes `quote`; a half is written by its number. -/
def escapeChar (quote c : Char) : List Char :=
  if standsForHalf c then '\\' :: 'u' :: hexDigits 4 (numberOf c) else Text.escapeChar quote c

/-- A text between quotes. -/
def quoted (t : HalvedText) : String :=
  if t.halves then
    let cs := t.text.toList
    let q := quoteFor cs
    String.ofList (q :: cs.flatMap (escapeChar q) ++ [q])
  else Text.quoted t.text

/-- The first halves in a row, by the place of the first one and their numbers. -/
def firstHalves? (t : HalvedText) : Option (Nat × List Nat) :=
  let cs := t.text.toList
  let front := cs.takeWhile fun c => !standsForHalf c
  let found := (cs.drop front.length).takeWhile standsForHalf
  if t.halves && !found.isEmpty then some (front.length, found.map numberOf) else none

/-- What is wrong with a text that is to be stored in bytes behind so many characters: there are none for half of
a character. -/
def storeProblemBehind? (before : Nat) (t : HalvedText) : Option String :=
  t.firstHalves?.map fun (n, ns) =>
    let place := before + n
    let shown := match ns with
      | [n] => "character '" ++ String.ofList ('\\' :: 'u' :: hexDigits 4 n) ++ "' in position " ++ toString place
      | _ => "characters in position " ++ toString place ++ "-" ++ toString (place + ns.length - 1)
    "'utf-8' codec can't encode " ++ shown ++ ": surrogates not allowed"

/-- What is wrong with a text that is to be stored in bytes. -/
def storeProblem? (t : HalvedText) : Option String := t.storeProblemBehind? 0

/-- A text without halves can be stored. -/
theorem storeProblem?_of_whole (text : String) : storeProblem? { text } = none := by
  simp [storeProblem?, storeProblemBehind?, firstHalves?]

end HalvedText

end SdkGen.Text
