import SdkGen.Text.CharSet
import SdkGen.Text.Table.Case

/-!
# Upper and lower case

The full case mappings: one character may become several, and a capital sigma at the end of a word
becomes a final sigma. On ASCII the mappings are arithmetic and consult no table.
-/

namespace SdkGen.Text

/-- Upper-case forms outside ASCII. -/
def upperTable : CharMap := .ofRows Table.upperRows

/-- Lower-case forms outside ASCII. -/
def lowerTable : CharMap := .ofRows Table.lowerRows

/-- Characters outside ASCII that have a case. -/
def casedTable : CharSet := .ofRows Table.casedRows

/-- Characters outside ASCII that are passed over around a sigma. -/
def caseIgnorableTable : CharSet := .ofRows Table.caseIgnorableRows

/-- The upper-case form of a character. -/
def upperChar (c : Char) : List Char :=
  if c.toNat < 0x80 then [c.toUpper] else upperTable.apply c

/-- The lower-case form of a character away from the end of a word. -/
def lowerChar (c : Char) : List Char :=
  if c.toNat < 0x80 then [c.toLower] else lowerTable.apply c

/-- Whether a character has a case. -/
def isCased (c : Char) : Bool :=
  if c.toNat < 0x80 then c.isAlpha else casedTable.contains c

/-- Whether a character is passed over when the surroundings of a sigma are looked at. -/
def isCaseIgnorable (c : Char) : Bool :=
  if c.toNat < 0x80 then c ∈ ['\'', '.', ':', '^', '\x60'] else caseIgnorableTable.contains c

/-- Whether the first character that counts is a cased one. -/
def startsCased (cs : List Char) : Bool :=
  match cs.dropWhile isCaseIgnorable with
  | [] => false
  | c :: _ => isCased c

/-- Lower case of a text, given the characters that precede it, nearest first. -/
def lowerAfter (before : List Char) : List Char → List Char
  | [] => []
  | c :: cs =>
    let image :=
      if c = 'Σ' then
        if startsCased before && !startsCased cs then ['ς'] else ['σ']
      else lowerChar c
    image ++ lowerAfter (c :: before) cs

/-- A text in upper case. -/
def toUpper (s : String) : String := String.ofList (s.toList.flatMap upperChar)

/-- A text in lower case. -/
def toLower (s : String) : String := String.ofList (lowerAfter [] s.toList)

end SdkGen.Text
