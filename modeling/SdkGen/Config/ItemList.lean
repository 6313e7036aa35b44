import SdkGen.Text.Numeral
import SdkGen.Value.Shown

/-!
# Lists in arguments

A list may be given by several arguments, each of which holds one or more items with commas between, perhaps
in brackets. An item in braces or brackets of its own is one in JSON; any other is a number, a word of JSON
or a text, whether it stands in quotes or not. A backslash in an item stands for itself.
-/

namespace SdkGen.Config

/-- Reads an item in braces or brackets up to its end, where `depth` of them are open inside; `before` is
the character in front. What stands in quotes counts for nothing. -/
def bracketed? (close : Char) (depth : Int) (quoted : Bool) (before : Char) :
    List Char → Option (List Char × List Char)
  | [] => none
  | c :: cs =>
    let go := fun (depth : Int) (quoted : Bool) =>
      (bracketed? close depth quoted c cs).map fun found => (c :: found.1, found.2)
    if c = '"' && before != '\\' then go depth !quoted
    else if quoted then go depth quoted
    else if c ∈ ['{', '['] then go (depth + 1) quoted
    else if c ∈ ['}', ']'] then
      if c = close && depth = 1 then some ([c], cs) else go (depth - 1) quoted
    else go depth quoted

/-- Reads an item up to the next comma outside quotes; there is none if a quote is missing. -/
def unbracketed? (quoted : Bool) (before : Char) : List Char → Option (List Char × List Char)
  | [] => if quoted then none else some ([], [])
  | c :: cs =>
    let quoted := if c = '"' && before != '\\' then !quoted else quoted
    if c = ',' && !quoted then some ([], c :: cs)
    else (unbracketed? quoted c cs).map fun found => (c :: found.1, found.2)

/-- Whether a text is a number, perhaps with underscores between its digits. -/
def isNumber (cs : List Char) : Bool :=
  (Text.dropUnderscores? ' ' (Text.numeral cs)).any fun cs => (Text.readFloat Text.quotedList cs).toOption.isSome

/-- A text without the quotes around it. -/
def withoutQuotes (cs : List Char) : List Char :=
  ((cs.dropWhile (· = '"')).reverse.dropWhile (· = '"')).reverse

/-- An item in JSON: numbers and words are themselves, and all else is a text. -/
def plainItem (nullWord : Option String) (cs : List Char) : String :=
  let cs := withoutQuotes (Text.trim cs)
  let item := String.ofList cs
  if isNumber cs then item
  else if nullWord = some item then "null"
  else if item ∈ ["true", "false", "null"] then item
  else "\"" ++ item ++ "\""

/-- The items of a text, behind some others, the last of which stands first. Where a comma comes without
an item in front, there is an empty one; `done` tells whether an item was the last to come. `fuel` bounds
the number of items and commas. -/
def itemsFrom (nullWord : Option String) :
    Nat → List String → Bool → List Char → Except String (List String × Bool)
  | 0, found, done, _ => .ok (found, done)
  | fuel + 1, found, done, cs =>
    match Text.trim cs with
    | [] => .ok (found, done)
    | ',' :: rest => itemsFrom nullWord fuel (if done then found else "\"\"" :: found) false rest
    | c :: rest =>
      if c ∈ ['{', '['] then
        let close := if c = '{' then '}' else ']'
        match bracketed? close 1 false c rest with
        | none => .error ("Missing end delimiter \"" ++ String.ofList [close] ++ "\"")
        | some (item, rest) =>
          itemsFrom nullWord fuel (String.ofList (c :: item) :: found) true rest
      else
        match unbracketed? false ' ' (c :: rest) with
        | none => .error "Mismatched quotes"
        | some (item, rest) => itemsFrom nullWord fuel (plainItem nullWord item :: found) true rest

/-- A text where each backslash is written so that it stands for itself. -/
def withBackslashes (cs : List Char) : List Char :=
  cs.flatMap fun c => if c = '\\' then ['\\', '\\'] else [c]

/-- What a text holds between brackets, if it stands in some. -/
def inBrackets? (cs : List Char) : Option (List Char) :=
  let cs := Text.trim cs
  if cs.head? = some '[' && cs.getLast? = some ']' then some (Text.trim (cs.drop 1).dropLast) else none

/-- The items of a text, behind some others, the last of which stands first; `done` tells whether an item
was the last to come. A text without an item has an empty one, unless it stands in brackets. -/
def itemsOf (nullWord : Option String) (found : List String) (done : Bool) (text : String) :
    Except String (List String × Bool) := do
  let cs := withBackslashes text.toList
  match inBrackets? cs with
  | some [] => return (found, done)
  | inside =>
    let cs := inside.getD (Text.trim cs)
    let (found, done) ← itemsFrom nullWord cs.length found done cs
    return (if done then found else "\"\"" :: found, done)

/-- The items of arguments, behind some others, the last of which stands first. -/
def itemsOfAll (nullWord : Option String) (found : List String) (done : Bool) :
    List String → Except String (List String)
  | [] => .ok found
  | text :: texts => do
    let (found, done) ← itemsOf nullWord found done text
    itemsOfAll nullWord found done texts

/-- The list in JSON that arguments make together. One that is no text cannot be joined to the others. -/
def listOf (nullWord : Option String) (arguments : List Value) : Except String String := do
  let texts := arguments.takeWhile (·.text?.isSome)
  let items ← itemsOfAll nullWord [] false (texts.filterMap Value.text?)
  match arguments[texts.length]? with
  | some v => throw (Fault.itemNotText texts.length v.kindName).message
  | none => return "[" ++ String.intercalate "," items.reverse ++ "]"

end SdkGen.Config
