import SdkGen.Config.FlagSign
import SdkGen.Text.Case
import SdkGen.Value.Shown

/-!
# Arguments in a configuration document

A document may list arguments as a program gets them. A flag gives the field that it is named for the text
behind its equals sign, or else the argument that follows it. The last model counts, while targets are
gathered: each text holds one or more of them with commas between, perhaps in brackets. What is neither a
flag nor the text of one is of no use. An argument that is no text is never a flag.
-/

namespace SdkGen.Config

/-- What a flag stands for. -/
inductive FlagUse where
  | model
  | targets
  /-- Nothing but the wish for help. -/
  | help
deriving DecidableEq, Repr

structure Flags where
  /-- The characters that flags begin with. -/
  signs : List Char
  /-- What the names of all flags for fields begin with behind their signs. -/
  front : String := ""
  /-- The flags as they are written, and what they stand for. -/
  uses : List (String × FlagUse)

/-- What stops the reading of arguments. -/
inductive FlagProblem where
  /-- Help is asked for. -/
  | help
  /-- An argument is wrong, or one is missing. -/
  | wrong (text : String)
deriving DecidableEq, Repr

/-- What arguments give. -/
structure Given where
  model : Option Value := none
  /-- The arguments for the targets in order. -/
  targets : List Value := []
  /-- The arguments that are of no use. -/
  strays : List Value := []

/-- What arguments give together with one for a use in front of them. -/
def Given.add (g : Given) (use : FlagUse) (argument : Value) : Given :=
  match use with
  | .model => { g with model := some (g.model.getD argument) }
  | .targets => { g with targets := argument :: g.targets }
  | .help => g

namespace Flags

/-- What a flag stands for as it is written. -/
def use? (fs : Flags) (written : String) : Option FlagUse := fs.uses.lookup written

/-- All ways to write a flag. -/
def spellings (fs : Flags) (use : FlagUse) : String :=
  String.intercalate "/" ((fs.uses.filter (·.2 = use)).map (·.1))

/-- Whether a text begins like a flag. -/
def isSigned (fs : Flags) (text : List Char) : Bool := text.head?.any (· ∈ fs.signs)

/-- What a flag of one letter stands for, and the text that follows it without a gap. -/
def short? (fs : Flags) : List Char → Option (FlagUse × Option String)
  | sign :: letter :: text =>
    -- behind two signs there is a long name, and no letter that is a flag
    if letter ∈ fs.signs then none
    else (fs.use? (String.ofList [sign, letter])).map (·, some (String.ofList text))
  | _ => none

/-- What a text stands for if it is a flag, and the text that it holds itself. -/
def flagIn? (fs : Flags) (text : String) : Option (FlagUse × Option String) :=
  let cs := text.toList
  if !fs.isSigned cs then none
  else
    match fs.use? text, cs.span (· != '=') with
    | some use, _ => some (use, none)
    | none, (name, '=' :: text) =>
      match fs.use? (String.ofList name) with
      | some use => some (use, some (String.ofList text))
      | none => fs.short? cs
    | none, _ => fs.short? cs

/-- What an argument stands for if it is a flag, and the text that it holds itself. -/
def flag? (fs : Flags) (argument : Value) : Option (FlagUse × Option String) :=
  argument.text?.bind fs.flagIn?

/-- Whether a text is a number below zero. A line end behind it does not count. -/
def isNegative (cs : List Char) : Bool :=
  let isDigits := fun (ds : List Char) => !ds.isEmpty && ds.all SignPart.digit
  match if cs.getLast? = some '\n' then cs.dropLast else cs with
  | '-' :: number =>
    match number.span (· != '.') with
    | (whole, []) => isDigits whole
    | (whole, _ :: part) => (whole.isEmpty || isDigits whole) && isDigits part
  | _ => false

/-- Whether an argument may be the one that the flag in front of it asks for. -/
def isPlain (fs : Flags) (argument : Value) : Bool :=
  match argument with
  | .text s =>
    let cs := s.toList
    !fs.isSigned cs || ((fs.flagIn? s).isNone &&
      (cs.length = 1 || ' ' ∈ cs ||
        (isNegative cs && !fs.uses.any fun u => isNegative u.1.toList)))
  | _ => true

/-- What is wrong with an argument of a use. -/
def wrong (fs : Flags) (use : FlagUse) (text : String) : FlagProblem :=
  .wrong ("argument " ++ fs.spellings use ++ ": " ++ text)

/-- The argument behind which there are no flags. -/
def flagsEnd : String := "--"

/-- Whether an argument is the one behind which there are no flags. -/
def isEnd (argument : Value) : Bool := argument.text? = some flagsEnd

/-- What comes of a wish for help that shares its sign with another flag: that one still needs its text. -/
def sharedHelp (fs : Flags) (other : String) (rest : List Value) : FlagProblem :=
  match fs.use? other with
  | none | some .help => .help
  | some use =>
    if rest.head?.any fun argument => !isEnd argument && fs.isPlain argument then .help
    else fs.wrong use "expected one argument"

/-- Reads arguments. -/
def read (fs : Flags) : List Value → Except FlagProblem Given
  | [] => .ok {}
  | argument :: rest =>
    if isEnd argument then .ok { strays := argument :: rest }
    else
      match fs.flag? argument with
      | none => (read fs rest).map fun g => { g with strays := argument :: g.strays }
      | some (.help, none) => .error .help
      | some (.help, some text) =>
        let written := (argument.text?.getD "").toList
        if fs.short? written = some (.help, some text) && !fs.isSigned text.toList then
          .error (fs.sharedHelp (String.ofList (written.take 1) ++ text) rest)
        else .error (fs.wrong .help ("ignored explicit argument " ++ Text.quoted text))
      | some (use, some text) => (read fs rest).map (·.add use (.text text))
      | some (use, none) =>
        match rest with
        | argument :: rest =>
          if !isEnd argument && fs.isPlain argument then (read fs rest).map (·.add use argument)
          else .error (fs.wrong use "expected one argument")
        | [] => .error (fs.wrong use "expected one argument")

/-! ## Flags in any case -/

/-- A flag in small letters where that is how it is written, with what follows it up to the end of its line.
A number below zero stays as it is. -/
def foldFlag (fs : Flags) (parts : List SignPart) (text : String) : String :=
  match splitFlag? parts text.toList with
  | none => text
  | some (flag, rest) =>
    if isNegative text.toList then text
    else
      let written := String.ofList flag
      let lowered := Text.toLower written
      (if (fs.use? written).isNone && (fs.use? lowered).isSome then lowered else written) ++
        String.ofList (rest.takeWhile (· != '\n'))

/-- Texts with their flags in small letters where that is how they are written. -/
def foldFlags (fs : Flags) (parts : List SignPart) : List String → List String
  | [] => []
  | text :: texts =>
    if text = flagsEnd then text :: texts else fs.foldFlag parts text :: foldFlags fs parts texts

end Flags

/-! ## Arguments that are no texts -/

/-- Whether characters stand next to each other in a list of characters. -/
def isPart (part : List Char) : List Char → Bool
  | [] => part.isEmpty
  | c :: cs => part.isPrefixOf (c :: cs) || isPart part cs

/-- What stops an argument from being looked at as a flag: it is no text, but has something inside. A list
that begins with a text is looked at, and is of no use as a flag only if that text is none of a sign. -/
def flagFault? (signs : List Char) (argument : Value) : Option Fault :=
  let isSign := fun (s : String) => isPart s.toList signs
  match argument with
  | .text _ => none
  | .sequence kind (first :: rest) =>
    match kind, first with
    | .set, _ => some (.notIndexed argument.kindName)
    | .list, .text s => if isSign s then some (.notHashable "list") else none
    | .tuple, .text s =>
      if isSign s && !rest.isEmpty then some (.noMember "tuple" "partition") else none
    | _, first => some (.notSearched first.kindName)
  | v =>
    if !v.isTruthy then none
    else
      match v with
      | .map _ => some (.raised "KeyError" "0")
      | .bytes _ => some (.notSearched "int")
      | v => some (.notIndexed v.kindName)

/-- The texts of arguments: what is empty counts as an empty text. -/
def argumentTexts (arguments : List Value) : Except Fault (List String) :=
  arguments.mapM fun v =>
    match v with
    | .text s => .ok s
    | v =>
      if !v.isTruthy then .ok ""
      else .error (match v with | .bytes _ => .bytesAsText | v => .notAText v.kindName)

end SdkGen.Config
