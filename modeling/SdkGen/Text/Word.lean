import SdkGen.Text.CharSet
import SdkGen.Text.Table.Classes

/-!
# Word characters

The characters that may stand in a word: letters and numbers of every script, and the underscore.
-/

namespace SdkGen.Text

/-- Letters and numbers outside ASCII. -/
def wordTable : CharSet := .ofRows Table.wordRows

/-- Whether a character may stand in a word. -/
def isWordChar (c : Char) : Bool :=
  if c.toNat < 0x80 then c.isAlphanum || c == '_' else wordTable.contains c

end SdkGen.Text
