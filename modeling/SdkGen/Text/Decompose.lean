import SdkGen.Text.CharSet
import SdkGen.Text.Table.Decomposition

/-!
# Letters without accents

A text is decomposed into base characters and marks, and the marks are dropped. Since every mark
goes, the order in which marks are put does not matter, so each character can be treated alone.

Main statement: `plainChar_of_ascii`, ASCII stays as it is.
-/

namespace SdkGen.Text

/-- Compatibility decompositions outside ASCII, Hangul apart. -/
def decompositionTable : CharMap := .ofRows Table.decompositionRows

/-- Marks outside ASCII. -/
def markTable : CharSet := .ofRows Table.markRows

/-- The letters of a Hangul syllable: the leading consonant, the vowel and, if there is one, the
trailing consonant, all found by division. -/
def hangulLetters (syllable : Nat) : List Char :=
  let lead := Char.ofNat (0x1100 + syllable / 588)
  let vowel := Char.ofNat (0x1161 + syllable % 588 / 28)
  let trail := syllable % 28
  if trail = 0 then [lead, vowel] else [lead, vowel, Char.ofNat (0x11A7 + trail)]

/-- The full compatibility decomposition of a character. -/
def decompose (c : Char) : List Char :=
  if c.toNat < 0x80 then [c]
  else if 0xAC00 ≤ c.toNat && c.toNat ≤ 0xD7A3 then hangulLetters (c.toNat - 0xAC00)
  else decompositionTable.apply c

/-- Whether a character is a combining mark. -/
def isMark (c : Char) : Bool := if c.toNat < 0x80 then false else markTable.contains c

/-- What is left of a character once it is decomposed and its marks are dropped. -/
def plainChar (c : Char) : List Char := (decompose c).filter fun d => !isMark d

/-- ASCII characters have no accents to lose. -/
theorem plainChar_of_ascii {c : Char} (h : c.toNat < 0x80) : plainChar c = [c] := by
  simp [plainChar, decompose, isMark, h]

/-- A text with its characters decomposed and all marks dropped. -/
def removeAccents (s : String) : String := String.ofList (s.toList.flatMap plainChar)

end SdkGen.Text
