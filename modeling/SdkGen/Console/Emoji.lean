import SdkGen.Text.Blank
import SdkGen.Text.Case
import SdkGen.Text.CharSet
import SdkGen.Text.Table.Emoji

/-!
# Names of emoji

The name of an emoji between two colons stands for the emoji, whatever the case of the name. A name that
ends in `-emoji` or `-text` asks for the coloured or the plain form. What no emoji is named by stays as
it is, with both its colons: the second is not the first of another name.
-/

namespace SdkGen.Console

/-- The emoji by their names, tones of skin apart. -/
def emojiTable : Std.HashMap String (List Char) :=
  let put := fun (table : Std.HashMap String (List Char)) (entry : String) =>
    match entry.splitOn "," with
    | [] => table
    | image :: names =>
      let image := (image.splitOn ".").map fun n => Char.ofNat (Text.hexValue n)
      names.foldl (fun table name => table.insert name image) table
  (Text.Table.emojiRows.flatMap (·.splitOn " ")).foldl put {}

/-- The names of the emoji that have tones of skin. -/
def tonedNames : Std.HashSet String :=
  .ofList (Text.Table.tonedRows.flatMap (·.splitOn " "))

/-- The tones of skin, by what they add to the name of an emoji, and their characters. -/
def tones : List (String × Char) :=
  [("_medium-light_skin_tone", Char.ofNat 0x1F3FC), ("_light_skin_tone", Char.ofNat 0x1F3FB),
    ("_medium_skin_tone", Char.ofNat 0x1F3FD), ("_medium-dark_skin_tone", Char.ofNat 0x1F3FE),
    ("_dark_skin_tone", Char.ofNat 0x1F3FF)]

/-- The character that asks for the coloured form of the one before it. -/
def colouredForm : Char := Char.ofNat 0xFE0F

/-- The character that asks for the plain form of the one before it. -/
def plainForm : Char := Char.ofNat 0xFE0E

/-- An emoji in a tone of skin: the tone follows the first character, in place of a form. -/
def inTone (tone : Char) : List Char → List Char
  | [] => []
  | c :: d :: cs => if d = colouredForm then c :: tone :: cs else c :: tone :: d :: cs
  | [c] => [c, tone]

/-- The emoji of a name in small letters. -/
def emoji? (name : String) : Option (List Char) :=
  match emojiTable[name]? with
  | some image => some image
  | none =>
    tones.findSome? fun (ending, tone) =>
      if name.endsWith ending then
        let name := (name.dropEnd ending.length).toString
        if tonedNames.contains name then emojiTable[name]?.map (inTone tone) else none
      else none

/-- A name without the form that it asks for, and the character of the form. -/
def splitForm (name : List Char) : List Char × List Char :=
  let reversed := name.reverse
  if "ijome-".toList.isPrefixOf reversed then ((reversed.drop 6).reverse, [colouredForm])
  else if "txet-".toList.isPrefixOf reversed then ((reversed.drop 5).reverse, [plainForm])
  else (name, [])

/-- What stands for a name between colons. -/
def emojiOrName (name : List Char) : List Char :=
  let (bare, form) := splitForm name
  match emoji? (Text.toLower (String.ofList bare)) with
  | some image => image ++ form
  | none => ':' :: name ++ [':']

/-- The name at the start of a text, if a colon follows it. -/
def nameBeforeColon? (cs : List Char) : Option (List Char) :=
  let name := cs.takeWhile fun c => c != ':' && !Text.isBlank c
  if (cs.drop name.length).head? = some ':' then some name else none

/-- A text with emoji in place of their names. -/
def withEmoji : List Char → List Char
  | [] => []
  | c :: cs =>
    if c = ':' then
      match nameBeforeColon? cs with
      | some name => emojiOrName name ++ withEmoji (cs.drop (name.length + 1))
      | none => c :: withEmoji cs
    else c :: withEmoji cs
termination_by cs => cs.length
decreasing_by all_goals simp_wf; try omega

end SdkGen.Console
