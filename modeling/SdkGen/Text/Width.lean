import SdkGen.Text.CharSet
import SdkGen.Text.Table.Width

/-!
# Widths of texts

A screen shows a text in cells. Most characters take one cell; the characters of East Asian scripts and
the emoji take two, marks and control characters none. A joiner makes one picture of the characters around
it, which is as wide as the first of them, and a selector may turn a narrow character into a picture. What
is shown in one piece is a grapheme.
-/

namespace SdkGen.Text

/-- The characters outside ASCII that take no cell. -/
def flatTable : CharSet := .ofRows Table.flatRows

/-- The characters outside ASCII that take two cells. -/
def wideTable : CharSet := .ofRows Table.wideRows

/-- The narrow characters that can be turned into pictures. -/
def pictureTable : CharSet := .ofRows Table.pictureRows

/-- The number of cells that a character takes by itself. -/
def cells (c : Char) : Nat :=
  if c.toNat < 0x80 then
    if c.toNat < 0x20 || c.toNat = 0x7F then 0 else 1
  else if flatTable.contains c then 0
  else if wideTable.contains c then 2
  else 1

/-- The character that makes one picture of those around it. -/
def joiner : Char := '\u200d'

/-- The character that turns the one before it into a picture. -/
def selector : Char := '\ufe0f'

/-- The cells that a character takes more as a picture. -/
def pictureCells : Option Char → Nat
  | some c => if pictureTable.contains c then 1 else 0
  | none => 0

/-- The number of cells that a text takes, behind a character that takes some and is not selected yet. A
joiner hides the character behind it. -/
def cellCountFrom (last : Option Char) : List Char → Nat
  | [] => 0
  | c :: cs =>
    if c = joiner then
      match cs with
      | [] => 0
      | _ :: rest => cellCountFrom last rest
    else if c = selector then pictureCells last + cellCountFrom none cs
    else cells c + cellCountFrom (if cells c = 0 then last else some c) cs

/-- The number of cells that a text takes. -/
def cellCount (cs : List Char) : Nat := cellCountFrom none cs

/-! ## Graphemes -/

/-- Characters that are shown in one piece. -/
structure Grapheme where
  chars : List Char
  /-- The cells that they take. -/
  width : Nat
deriving DecidableEq, Repr

/-- A grapheme with more characters behind, which take some more cells. -/
def Grapheme.add (g : Grapheme) (cs : List Char) (width : Nat) : Grapheme :=
  ⟨g.chars ++ cs, g.width + width⟩

/-- Graphemes with characters that belong to the last of them, which stands first. They are a grapheme of
their own if there is none. -/
def addToLast (cs : List Char) (width : Nat) : List Grapheme → List Grapheme
  | [] => [⟨cs, width⟩]
  | g :: gs => g.add cs width :: gs

/-- The graphemes of a text behind others, the last of which stands first. -/
def graphemesFrom (found : List Grapheme) (last : Option Char) : List Char → List Grapheme
  | [] => found.reverse
  | c :: cs =>
    if c = joiner then
      match found, cs with
      | _ :: _, d :: rest => graphemesFrom (addToLast [c, d] 0 found) last rest
      | _, cs => graphemesFrom (addToLast [c] 0 found) last cs
    else if c = selector then
      graphemesFrom (addToLast [c] (if found.isEmpty then 0 else pictureCells last) found)
        (if pictureCells last = 0 then last else none) cs
    else if cells c = 0 then graphemesFrom (addToLast [c] 0 found) last cs
    else graphemesFrom (⟨[c], cells c⟩ :: found) (some c) cs

/-- The graphemes of a text. -/
def graphemes (cs : List Char) : List Grapheme := graphemesFrom [] none cs

end SdkGen.Text
