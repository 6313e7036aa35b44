import SdkGen.Text.Case
import SdkGen.Text.Decompose

/-!
# Identifiers from free text

`pascalCase` turns any text into a fragment of an identifier: accents are dropped, every run of
characters other than ASCII letters and digits separates two parts, and the parts are capitalised and
joined. A fragment that would start with a digit gets an underscore in front.
-/

namespace SdkGen.Text

/-- A text with its first character in upper case. -/
def capitalizeChars : List Char → List Char
  | [] => []
  | c :: cs => upperChar c ++ cs

/-- A text with its first character in upper case; no text is the empty one. -/
def capitalize (text : Option String) : String :=
  match text with
  | none => ""
  | some s => String.ofList (capitalizeChars s.toList)

/-- The longest runs of ASCII letters and digits, in order. -/
def alphanumParts : List Char → List (List Char)
  | [] => []
  | c :: cs =>
    if c.isAlphanum then
      -- the next character decides whether the first of the later parts begins here
      match cs, alphanumParts cs with
      | d :: _, l :: ls => if d.isAlphanum then (c :: l) :: ls else [c] :: l :: ls
      | _, ls => [c] :: ls
    else alphanumParts cs

/-- Puts an underscore in front of a digit. -/
def guardDigit : List Char → List Char
  | [] => []
  | c :: cs => if c.isDigit then '_' :: c :: cs else c :: cs

/-- The identifier fragment for a list of characters. -/
def pascalCaseChars (cs : List Char) : List Char :=
  guardDigit ((alphanumParts (cs.flatMap plainChar)).flatMap capitalizeChars)

/-- The identifier fragment for a text; no text is the empty one. -/
def pascalCase (text : Option String) : String :=
  String.ofList (pascalCaseChars (text.getD "").toList)

end SdkGen.Text
