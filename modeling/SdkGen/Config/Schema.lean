import SdkGen.Failure
import SdkGen.Target.Basic
import SdkGen.Value

/-!
# The form of a configuration

A configuration names the factory of a model and lists targets. It is read from a document; the first
thing that is wrong with the document, in a fixed order, is what gets reported: first the model, then
the targets one after the other with their fields in order, then fields that do not belong there.
-/

namespace SdkGen

/-- Environment variables with their values, oldest first. -/
abbrev Environment := List (String × String)

/-- One target of a configuration. -/
structure TargetConfig where
  language : String
  /-- The directory for generated files. -/
  codePath : String := "./"
  /-- The package directory below it. -/
  package : String := "sdk"
  /-- The indentation to use in place of that of the language. -/
  indentStr : Option String := none
  /-- The transport member to use in place of that of the language. -/
  transport : Option String := none
  /-- Whether to use request types, in place of what the language does. -/
  needsRequestTypes : Option Bool := none
  /-- Whether there are halves of characters in its texts. -/
  halves : Bool := false
deriving DecidableEq, Repr, Inhabited

structure Configuration where
  /-- The import path of the factory of the model. -/
  model : String
  /-- The targets in order. -/
  targets : List TargetConfig
  /-- Whether there are halves of characters in its texts. -/
  halves : Bool := false
deriving DecidableEq, Repr, Inhabited

/-- The target that a configuration asks for. -/
def TargetConfig.target (c : TargetConfig) : Except Failure Target :=
  Target.make c.language
    { codePath := c.codePath
      package := c.package
      needsRequestTypes := c.needsRequestTypes
      overrides :=
        (c.indentStr.map fun s => ("indent_str", s)).toList ++
          (c.transport.map fun s => ("transport", s)).toList }

namespace Config

/-- What is wrong with a document, and the path of the field where it is. -/
structure Mistake where
  text : String
  /-- The names and numbers that lead to the field. -/
  field : List String := []
deriving DecidableEq, Repr

namespace Mistake

/-- A field is missing. -/
def required (field : List String) : Mistake := ⟨"Field required", field⟩

/-- A field is not of its kind. -/
def notA (kind : String) (field : List String) : Mistake :=
  ⟨"Input should be a valid " ++ kind, field⟩

/-- Some part of a text stands for no character. -/
def noCharacters (field : List String) : Mistake :=
  notA "string, unable to parse raw data as a unicode string" field

/-- A field is none of those that there are. -/
def extra (field : List String) : Mistake := ⟨"Extra inputs are not permitted", field⟩

/-- Something other than the document is wrong. -/
def outside (text : String) : Mistake := ⟨"Value error, " ++ text, []⟩

/-- The targets that a supply gives cannot be read. -/
def unreadableTargets (supply : String) : Mistake :=
  outside ("error parsing value for field \"targets\" from source \"" ++ supply ++ "\"")

/-- The name of the variable for the model cannot be put together. -/
def unreachableModel (supply : String) : Mistake :=
  outside ("error getting value for field \"model\" from source \"" ++ supply ++ "\"")

/-- The failure that reports a mistake in a configuration. A field without a name is not named. -/
def failure (m : Mistake) (path : String) : Failure :=
  let field := String.intercalate "." m.field
  .configuration ("Invalid configuration: " ++ m.text) (some path)
    (if field = "" then none else some field)

end Mistake

/-- What stops the reading of a configuration. -/
inductive Trouble where
  /-- The document, or what belongs to it, is wrong. -/
  | mistake (m : Mistake)
  /-- Something else fails on the way, such as an option that is of no use. -/
  | fault (f : Fault)

/-- The failure that comes of what stops the reading of a configuration. -/
def Trouble.failure (path : String) : Trouble → Failure
  | mistake m => m.failure path
  | fault f => .fault f

/-- A text, or the bytes of one. -/
def text (field : List String) : Value → Except Mistake String
  | .text s | .halved s => .ok s
  | .bytes bs => (String.fromUTF8? ⟨bs.toArray⟩).elim (.error (.noCharacters field)) .ok
  | _ => .error (.notA "string" field)

/-- The words for truth and falsehood, in any case. -/
def wordTruth? (word : String) : Option Bool :=
  let w := String.ofList (word.toList.map Char.toLower)
  if w ∈ ["0", "off", "f", "false", "n", "no"] then some false
  else if w ∈ ["1", "on", "t", "true", "y", "yes"] then some true
  else none

/-- Whether a whole number fits into a machine word of 64 bits. -/
def fitsWord (n : Int) : Bool := -Int.pow 2 63 ≤ n && n < Int.pow 2 63

/-- A truth value, also as a word or as the number one or zero. Texts and whole numbers of at most a
machine word that are none of these are told apart from other values, and so are texts with halves. -/
def truth (field : List String) (v : Value) : Except Mistake Bool :=
  let unclear : Except Mistake Bool := .error (.notA "boolean, unable to interpret input" field)
  match v with
  | .bool b => .ok b
  | .halved _ => .error (.noCharacters field)
  | .text _ | .bytes _ =>
    match (text field v).toOption.bind wordTruth? with
    | some b => .ok b
    | none => unclear
  | .int n =>
    if n = 0 then .ok false
    else if n = 1 then .ok true
    else if fitsWord n then unclear
    else .error (.notA "boolean" field)
  | .float x =>
    if x == 0 then .ok false
    else if x == 1 then .ok true
    else if x == x.floor && x.abs < 9223372036854775808 then unclear
    else .error (.notA "boolean" field)
  | _ => .error (.notA "boolean" field)

/-- A field that may be missing. -/
def fieldOr {α : Type} (v : Value) (name : String) (default : α)
    (read : List String → Value → Except Mistake α) (field : List String) : Except Mistake α :=
  match v.field? name with
  | none => .ok default
  | some w => read (field ++ [name]) w

/-- A value that may be null. -/
def orNull {α : Type} (read : List String → Value → Except Mistake α) (field : List String) :
    Value → Except Mistake (Option α)
  | .null => .ok none
  | v => do return some (← read field v)

/-- A field that has to be there. -/
def requiredField {α : Type} (v : Value) (name : String)
    (read : List String → Value → Except Mistake α) (field : List String) : Except Mistake α :=
  match v.field? name with
  | none => .error (.required (field ++ [name]))
  | some w => read (field ++ [name]) w

/-- Whether a field holds halves of characters. -/
def hasHalvedField (v : Value) : Bool := v.fields.any fun f => (f.2 matches .halved _)

/-- A target. Fields that do not belong there are passed. -/
def target (field : List String) (v : Value) : Except Mistake TargetConfig :=
  match v with
  | .map _ => do
    return {
      language := ← requiredField v "language" text field
      codePath := ← fieldOr v "code_path" "./" text field
      package := ← fieldOr v "package" "sdk" text field
      indentStr := ← fieldOr v "indent_str" none (orNull text) field
      transport := ← fieldOr v "transport" none (orNull text) field
      needsRequestTypes := ← fieldOr v "needs_request_types" none (orNull truth) field
      halves := hasHalvedField v }
  | _ => .error (.notA "dictionary or instance of TargetConfig" field)

def targets (field : List String) : Value → Except Mistake (List TargetConfig)
  | .sequence _ items => items.zipIdx.mapM fun e => target (field ++ [toString e.2]) e.1
  | _ => .error (.notA "list" field)

/-- Whether the name of an entry of a mapping holds halves of characters. -/
def hasHalvedName : Value → Bool
  | .map entries => entries.any fun e => (e.1 matches .halved _)
  | _ => false

/-- A configuration. Nothing can be said of names that hold halves of characters, whatever else is wrong. -/
def configuration (v : Value) : Except Mistake Configuration := do
  if hasHalvedName v then throw (.noCharacters [])
  let model ← requiredField v "model" text []
  let targets ← requiredField v "targets" targets []
  match v.fields.find? fun f => f.1 ∉ ["model", "targets"] with
  | some f => throw (.extra [f.1])
  | none => return { model, targets, halves := hasHalvedField v || targets.any (·.halves) }

end Config

end SdkGen
