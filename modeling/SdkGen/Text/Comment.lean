import SdkGen.Text.Blank

/-!
# Comment blocks

Every line of a text behind a marker. The text is trimmed first, so a blank text gives nothing, and
every line is trimmed at its end, so that a blank line becomes the bare marker.
-/

namespace SdkGen.Text

/-- One line of a comment block. -/
def commentLine (marker line : List Char) : List Char := trimRight (marker ++ line)

/-- The comment block of a text behind a marker, as a list of characters. -/
def commentChars (marker text : List Char) : List Char :=
  match trim text with
  | [] => []
  | body => ['\n'].intercalate ((splitLines body).map (commentLine marker))

/-- The comment block of a text, each line behind `indent` and `marker`; no text gives nothing. -/
def commentBlock (text : Option String) (indent marker : String) : String :=
  String.ofList (commentChars (indent ++ marker).toList (text.getD "").toList)

end SdkGen.Text
