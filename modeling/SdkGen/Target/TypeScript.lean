import SdkGen.Model.Basic
import SdkGen.Target.Basic
import SdkGen.Text.Identifier
import SdkGen.Text.Word

/-!
# Text of the TypeScript target

Interfaces, and one class of asynchronous methods that take request types.
-/

namespace SdkGen.TypeScript

/-- How a built-in type is written. -/
def builtin (name : String) : String :=
  match name with
  | "any" => "any"
  | "boolean" => "boolean"
  | "date" | "datetime" => "Date"
  | "double" | "float" | "int64" | "integer" => "number"
  | "string" => "string"
  | "void" => "void"
  | _ => "any"

/-- How a sequence is written. -/
def sequence (element : String) : String := element ++ "[]"

/-- The name of the interface of a type. -/
def interfaceName (name : String) : String := "I" ++ name

/-- The argument that carries a request type. -/
def requestArg : String := "request"

/-- A documentation block; nothing for a blank text. -/
def summary (indent : String) (text : Option String) : String :=
  let body := Text.commentBlock text indent " * "
  if body = "" then "" else indent ++ "/**\n" ++ body ++ "\n" ++ indent ++ " */\n"

/-- The mark of a member that may be left out. -/
def optionalMark (nullable : Bool) : String := if nullable then "?" else ""

def parameter (indent name type : String) (nullable : Bool) : String :=
  indent ++ name ++ optionalMark nullable ++ ": " ++ type

/-- A property with its type, behind its description. -/
def property (t : Target) (indent : String) (p : Property) (type : String) : String :=
  t.commentHeader indent (some p.description) ++ indent ++
    (if p.readOnly then "readonly " else "") ++ p.name ++ optionalMark p.nullable ++ ": " ++ type

/-- The head of an interface. -/
def typeSignature (indent name description : String) : String :=
  summary indent (some description) ++ indent ++ "export interface " ++ interfaceName name ++
    " \x7b\n"

/-- The head of a method, given its parameters and the type that it promises. -/
def methodSignature (indent name params returns : String) : String :=
  indent ++ "async " ++ name ++
    (if params = "" then "()" else "(\n" ++ params ++ "\n" ++ indent ++ ")") ++ ": Promise<" ++
    returns ++ "> \x7b\n"

/-- The assignment of an argument to a member. -/
def initArg (indent name : String) : String := indent ++ "this." ++ name ++ " = " ++ name

/-- A constructor that takes every property in order. -/
def construct (t : Target) (indent : String) (properties : List Property) : String :=
  if properties.isEmpty then indent ++ "constructor() \x7b\x7d"
  else
    let args := properties.map fun p => p.name ++ optionalMark p.nullable ++ ": any"
    let body := properties.map fun p => initArg (t.bumper indent) p.name
    indent ++ "constructor(" ++ String.intercalate ", " args ++ ") \x7b\n" ++
      String.intercalate "\n" body ++ "\n" ++ indent ++ "\x7d"

/-- The word between a brace that was just opened and its closing brace, with what follows, if there
is a word and nothing else. -/
def placeholder? (cs : List Char) : Option (List Char × List Char) :=
  let word := cs.takeWhile Text.isWordChar
  match cs.drop word.length with
  | '\x7d' :: rest => if word.isEmpty then none else some (word, rest)
  | _ => none

/-- What follows a placeholder is shorter than what it was read from. -/
theorem length_of_placeholder? {cs word rest : List Char} (h : placeholder? cs = some (word, rest)) :
    rest.length < cs.length := by
  simp only [placeholder?] at h
  split at h
  · next r hd =>
    split at h
    · exact absurd h (by simp)
    · simp only [Option.some.injEq, Prod.mk.injEq] at h
      have hl := congrArg List.length hd
      rw [List.length_drop, List.length_cons, h.2] at hl
      omega
  · exact absurd h (by simp)

/-- The template of a path: every placeholder becomes a substitution behind a common text, read from
left to right. -/
def template (front : List Char) : List Char → List Char
  | [] => []
  | c :: cs =>
    if c = '\x7b' then
      match _h : placeholder? cs with
      | some (word, rest) => '$' :: '\x7b' :: front ++ word ++ '\x7d' :: template front rest
      -- a brace that opens no placeholder stands for itself
      | none => c :: template front cs
    else c :: template front cs
termination_by cs => cs.length
decreasing_by
  · have := length_of_placeholder? _h
    simp only [List.length_cons]
    omega
  · simp
  · simp

/-- The literal of a path; one with a brace in it is a template. -/
def httpPath (path front : String) : String :=
  if '\x7b' ∈ path.toList then
    "\x60" ++ String.ofList (template front.toList path.toList) ++ "\x60"
  else "\"" ++ path ++ "\""

/-- What stands before the methods. -/
def methodsPrologue (t : Target) (indent : String) : String :=
  t.comment indent (some editWarning) ++
    "\nimport \x7b APIMethods \x7d from './rtl/apiMethods'\nimport * as models from './models'\n\n" ++
    indent ++ "export class " ++ Text.pascalCase (some t.package) ++
    "SDK extends APIMethods \x7b\n"

/-- What stands after the methods. -/
def methodsEpilogue (indent : String) : String := indent ++ "\x7d\n"

/-- What stands before the models. -/
def modelsPrologue (t : Target) (indent : String) : String :=
  t.comment indent (some editWarning) ++ "\n"

end SdkGen.TypeScript
