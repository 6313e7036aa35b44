import SdkGen.Console.Emoji
import SdkGen.Console.Layout
import SdkGen.Console.Literal
import SdkGen.Console.Style

/-!
# Marked texts

A text for the console may hold tags in square brackets that style the text between them. A tag begins
with a small letter or one of a few marks and holds no further opening bracket; a slash makes it a
closing tag, which closes the last open tag of its style, or the last open tag at all if it names none.
A backslash before a tag makes it text, and a backslash before any other opening bracket goes. Between
two tags, names of emoji become emoji.

Main statement: `firstTag?_length`, what follows a tag is shorter than the text with the tag.
-/

namespace SdkGen.Console

/-- A piece of a marked text. -/
inductive Piece where
  /-- Text between tags. -/
  | text (cs : List Char)
  /-- A tag by what stands between its brackets, and its position. -/
  | tag (content : List Char) (position : Nat)
deriving DecidableEq, Repr

/-- A tag and its surroundings. -/
structure TagPlace where
  /-- The text before it. -/
  before : List Char := []
  /-- The number of backslashes right before it. -/
  slashes : Nat := 0
  /-- What stands between its brackets. -/
  content : List Char
  rest : List Char

/-- Whether a character can be the first of a tag. -/
def isTagStart (c : Char) : Bool := c.isLower || c = '#' || c = '/' || c = '@'

/-- What stands between the brackets of a tag, behind its opening bracket. -/
def tagContent? (cs : List Char) : Option (List Char) :=
  let inside := cs.takeWhile fun c => c != '[' && c != ']'
  if inside.head?.any isTagStart && (cs.drop inside.length).head? = some ']' then some inside
  else none

/-- A place with one more character in front. -/
def TagPlace.addBefore (c : Char) (t : TagPlace) : TagPlace :=
  if c = '\\' ∧ t.before = [] then { t with slashes := t.slashes + 1 }
  else { t with before := c :: t.before }

/-- The first tag of a text. -/
def firstTag? : List Char → Option TagPlace
  | [] => none
  | c :: cs =>
    match if c = '[' then tagContent? cs else none with
    | some content => some { content, rest := cs.drop (content.length + 1) }
    | none => (firstTag? cs).map (.addBefore c)

/-- Nothing changes behind a place when a character comes in front. -/
theorem TagPlace.rest_addBefore (c : Char) (t : TagPlace) : (t.addBefore c).rest = t.rest := by
  unfold TagPlace.addBefore
  split <;> rfl

/-- What follows a tag is shorter than the text with the tag. -/
theorem firstTag?_length {cs : List Char} {t : TagPlace} (h : firstTag? cs = some t) :
    t.rest.length < cs.length := by
  induction cs generalizing t with
  | nil => simp [firstTag?] at h
  | cons c cs ih =>
    simp only [firstTag?] at h
    split at h
    · cases h
      simp only [List.length_drop, List.length_cons]
      omega
    · obtain ⟨u, hu, rfl⟩ := Option.map_eq_some_iff.1 h
      have := ih hu
      rw [TagPlace.rest_addBefore, List.length_cons]
      omega

/-- The pieces of a marked text that starts at a position. Of the backslashes before a tag, two stand for
one, and the odd one makes the tag text. -/
def pieces (position : Nat) (cs : List Char) : List Piece :=
  match _h : firstTag? cs with
  | none => [.text cs]
  | some t =>
    let start := position + t.before.length + t.slashes
    let tag : Piece :=
      if t.slashes % 2 = 1 then .text ('[' :: t.content ++ [']']) else .tag t.content start
    .text t.before :: .text (List.replicate (t.slashes / 2) '\\') :: tag ::
      pieces (start + t.content.length + 2) t.rest
termination_by cs.length
decreasing_by exact firstTag?_length _h

/-- A text without the backslashes before opening brackets. -/
def dropBracketSlashes : List Char → List Char
  | '\\' :: '[' :: cs => '[' :: dropBracketSlashes cs
  | c :: cs => c :: dropBracketSlashes cs
  | [] => []

structure OpenTag where
  style : String
  /-- The parameters behind its equals sign. -/
  parameters : String := ""
  /-- The number of characters before it. -/
  start : Nat := 0
deriving DecidableEq, Repr

/-- The style of a tag and its parameters: what stands before an equals sign and what stands behind it. -/
def tagParts (content : List Char) : List Char × List Char :=
  let style := content.takeWhile (· != '=')
  (style, content.drop (style.length + 1))

/-- The last open tag of a style and the others, innermost first. -/
def closeTag? (style : String) : List OpenTag → Option (OpenTag × List OpenTag)
  | [] => none
  | t :: opened =>
    if t.style = style then some (t, opened)
    else (closeTag? style opened).map fun found => (found.1, t :: found.2)

/-- Closes a tag: the parameters of one that does something have to be literals. -/
def OpenTag.close (t : OpenTag) : Except Fault Unit :=
  if t.style.startsWith "@" && t.parameters != "" then checkParameters t.parameters else .ok ()

/-- The characters of the pieces without the tags, with some tags open, where so many characters are in
front, and what each tag styles. Every closing tag has to close an open one. -/
def textOf (opened : List OpenTag) (place : Nat) : List Piece → Except Fault StyledText
  | [] => return ⟨[], opened.map fun t => (t.start, place)⟩
  | .text cs :: ps => do
    let cs := (withEmoji (dropBracketSlashes cs)).filter isShown
    let rest ← textOf opened (place + cs.length) ps
    return { rest with chars := cs ++ rest.chars }
  | .tag content position :: ps =>
    match tagParts content with
    | ('/' :: style, _) =>
      -- a slash alone closes the innermost tag, whatever its style is
      if (Text.trim style).isEmpty then
        match opened with
        | [] => throw (.nothingToClose position)
        | t :: opened => do
          t.close
          let rest ← textOf opened place ps
          return { rest with parts := (t.start, place) :: rest.parts }
      else do
        match closeTag? (← Style.normal (Text.trim style)) opened with
        | none => throw (.unmatchedTag (String.ofList ('[' :: content ++ [']'])) position)
        | some (t, opened) =>
          t.close
          let rest ← textOf opened place ps
          return { rest with parts := (t.start, place) :: rest.parts }
    | (style, parameters) => do
      textOf (⟨← Style.normal style, String.ofList parameters, place⟩ :: opened) place ps

/-- A marked text without its tags. -/
def unmarked (text : String) : Except Fault StyledText := textOf [] 0 (pieces 0 text.toList)

end SdkGen.Console
