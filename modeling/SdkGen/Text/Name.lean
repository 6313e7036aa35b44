import SdkGen.Text.CharSet
import SdkGen.Text.Table.Names

/-!
# Names

A name begins with a letter of some script or an underscore, and goes on with these, with digits and with
marks.
-/

namespace SdkGen.Text

/-- The characters outside ASCII that a name may begin with. -/
def nameStartTable : CharSet := .ofRows Table.nameStartRows

/-- The characters outside ASCII that a name may only go on with. -/
def nameRestTable : CharSet := .ofRows Table.nameRestRows

/-- Whether a name may begin with a character. -/
def isNameStart (c : Char) : Bool :=
  if c.toNat < 0x80 then c.isAlpha || c == '_' else nameStartTable.contains c

/-- Whether a character may stand in a name. -/
def isNameChar (c : Char) : Bool :=
  isNameStart c || if c.toNat < 0x80 then c.isDigit else nameRestTable.contains c

/-- Whether characters are a name. -/
def isName : List Char → Bool
  | [] => false
  | c :: cs => isNameStart c && cs.all isNameChar

end SdkGen.Text
