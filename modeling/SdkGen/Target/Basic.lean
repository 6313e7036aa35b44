import SdkGen.Conventions
import SdkGen.Text.Case
import SdkGen.Text.Comment

/-!
# Target languages and targets

A target is a language with its conventions and the place where its files go. Targets are made from
the name of a language, in any case, and a set of options.
-/

namespace SdkGen

/-- The languages that sources can be generated for. -/
inductive Language where
  | python
  | typescript
deriving DecidableEq, Repr, Inhabited

namespace Language

def name : Language → String
  | python => "python"
  | typescript => "typescript"

/-- All languages, in the order of their names. -/
def all : List Language := [python, typescript]

/-- The language of a name in any case. -/
def ofName? (s : String) : Option Language := all.find? (·.name = Text.toLower s)

def conventions : Language → Conventions
  | python =>
    { propDelimiter := "\n"
      indentStr := "    "
      commentStr := "# "
      nullStr := "None"
      itself := "self"
      fileExtension := ".py" }
  | typescript =>
    { propDelimiter := "\n"
      endTypeStr := "\x7d"
      itself := "this"
      fileExtension := ".ts" }

/-- Whether methods of a language bundle their parameters in request types. -/
def needsRequestTypes : Language → Bool
  | python => false
  | typescript => true

end Language

/-- What a target may be made with. -/
structure TargetOptions where
  /-- Conventions to start from, in place of those of the language. -/
  conventions : Option Conventions := none
  /-- The directory for generated files. -/
  codePath : String := "./"
  /-- The package directory below it. -/
  package : String := "sdk"
  /-- Whether to use request types, in place of what the language does. -/
  needsRequestTypes : Option Bool := none
  /-- Conventions to replace, by name. -/
  overrides : List (String × String) := []

/-- A language with its conventions and the place of its files. -/
structure Target where
  language : Language
  /-- The delimiters and tokens in use. -/
  conventions : Conventions
  /-- The directory for generated files. -/
  codePath : String
  /-- The package directory below it. -/
  package : String
  /-- Whether methods bundle their parameters in request types. -/
  needsRequestTypes : Bool
deriving DecidableEq, Repr, Inhabited

namespace Target

/-- The target for the name of a language. -/
def make (language : String) (o : TargetOptions) : Except Failure Target :=
  match Language.ofName? language with
  | none =>
    .error (.unsupported s!"language '{language}'"
      (some ("Choose one of: " ++ String.intercalate ", " (Language.all.map Language.name))))
  | some l =>
    match (o.conventions.getD l.conventions).replaceAll o.overrides with
    | .error f => .error (.fault f)
    | .ok conventions =>
      .ok
        { language := l
          conventions
          codePath := o.codePath
          package := o.package
          needsRequestTypes := o.needsRequestTypes.getD l.needsRequestTypes }

/-- One level further in. -/
def bumper (t : Target) (indent : String) : String := t.conventions.bumper indent

/-- A member of the receiver. -/
def it (t : Target) (value : String) : String := t.conventions.it value

/-- The name of the file of a module. -/
def fileName (t : Target) (base : String) : String :=
  t.codePath ++ t.package ++ "/" ++ base ++ t.conventions.fileExtension

/-- A text as line comments. -/
def comment (t : Target) (indent : String) (text : Option String) : String :=
  Text.commentBlock text indent t.conventions.commentStr

/-- A text as line comments that end their line; nothing for no text. -/
def commentHeader (t : Target) (indent : String) (text : Option String) : String :=
  if text.getD "" = "" then "" else t.comment indent text ++ "\n"

/-- A property as an argument of a constructor, with the null literal as default where there is
one. -/
def declareConstructorArg (t : Target) (indent name : String) (nullable : Bool) : String :=
  indent ++ name ++ (if nullable then " = " ++ t.conventions.nullStr else "")

end Target

/-- What generated files say about themselves. -/
def editWarning : String :=
  "NOTE: Do not edit this source code file. It is generated by polysdk."

end SdkGen
