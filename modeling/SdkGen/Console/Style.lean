import SdkGen.Console.Colour
import SdkGen.Text.Case

/-!
# Styles

A style is written in words: attributes, perhaps with `not` before them, a colour, `on` and a colour of the
background, `link` and an address. Two texts that write the same style have one normal text, in
which the attributes come first and in a fixed order. A text that writes no style is its own normal
text, in small letters.
-/

namespace SdkGen.Console

/-- The attributes of a style, in the order of the normal text. -/
inductive Attribute where
  /-- Heavy letters. -/
  | bold
  /-- Faint letters. -/
  | dim
  /-- Slanted letters. -/
  | italic
  /-- A line below. -/
  | underline
  /-- Going on and off. -/
  | blink
  /-- Going on and off fast. -/
  | blink2
  /-- Text and background change colours. -/
  | reverse
  | conceal
  /-- A line through the text. -/
  | strike
  /-- Two lines below. -/
  | underline2
  | frame
  /-- A circle around. -/
  | encircle
  /-- A line above. -/
  | overline
deriving DecidableEq, Repr

namespace Attribute

/-- All attributes, in order. -/
def all : List Attribute :=
  [bold, dim, italic, underline, blink, blink2, reverse, conceal, strike, underline2, frame, encircle,
    overline]

/-- The word for an attribute. -/
def name : Attribute → String
  | bold => "bold"
  | dim => "dim"
  | italic => "italic"
  | underline => "underline"
  | blink => "blink"
  | blink2 => "blink2"
  | reverse => "reverse"
  | conceal => "conceal"
  | strike => "strike"
  | underline2 => "underline2"
  | frame => "frame"
  | encircle => "encircle"
  | overline => "overline"

/-- The short word for an attribute, if it has one. -/
def shortName? : Attribute → Option String
  | bold => some "b"
  | dim => some "d"
  | italic => some "i"
  | underline => some "u"
  | reverse => some "r"
  | conceal => some "c"
  | strike => some "s"
  | underline2 => some "uu"
  | overline => some "o"
  | blink | blink2 | frame | encircle => none

/-- The attribute that a word stands for. -/
def ofWord? (word : String) : Option Attribute :=
  all.find? fun a => a.name = word || a.shortName? = some word

end Attribute

structure Style where
  /-- The attributes that are switched on or off. -/
  attributes : Attribute → Option Bool := fun _ => none
  colour : Option String := none
  background : Option String := none
  /-- The address that the text leads to. -/
  link : Option String := none

namespace Style

/-- A style with one attribute switched on or off. -/
def switch (s : Style) (a : Attribute) (on : Bool) : Style :=
  { s with attributes := fun b => if b = a then some on else s.attributes b }

/-- The words of a style, in order. -/
def words (s : Style) : List String :=
  (Attribute.all.flatMap fun a =>
    match s.attributes a with
    | none => []
    | some true => [a.name]
    | some false => ["not", a.name]) ++
  s.colour.toList ++
  (s.background.map fun c => ["on", c]).getD [] ++
  (s.link.map fun address => ["link", address]).getD []

/-- The normal text of a style. -/
def text (s : Style) : String :=
  match s.words with
  | [] => "none"
  | words => " ".intercalate words

/-- What some words make of a style; nothing if one of them does not belong there. -/
def extend? (s : Style) : List String → Except Fault (Option Style)
  | [] => return some s
  | first :: rest =>
    match Text.toLower first with
    | "on" =>
      match rest with
      | [] => return none
      | c :: rest => do
        let c := Text.toLower c
        if ← isColour c then extend? { s with background := some c } rest else return none
    | "not" =>
      match rest with
      | [] => return none
      | word :: rest =>
        match Attribute.ofWord? word with
        | none => return none
        | some a => extend? (s.switch a false) rest
    | "link" =>
      match rest with
      | [] => return none
      | address :: rest => extend? { s with link := some address } rest
    | word =>
      match Attribute.ofWord? word with
      | some a => extend? (s.switch a true) rest
      | none => do
        if ← isColour word then extend? { s with colour := some word } rest else return none

/-- The style that a text writes. -/
def ofText? (cs : List Char) : Except Fault (Option Style) :=
  if Text.trim cs = "none".toList then return some {}
  else extend? {} ((Text.words cs).map String.ofList)

/-- The normal text for what a text writes. -/
def normal (cs : List Char) : Except Fault String := do
  match ← ofText? cs with
  | some s => return s.text
  | none => return Text.toLower (String.ofList (Text.trim cs))

end Style

end SdkGen.Console
