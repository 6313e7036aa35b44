import SdkGen.Model.Basic
import SdkGen.Target.Basic
import SdkGen.Text.Identifier

/-!
# Text of the Python target

Record classes with annotated members, and one synchronous class that calls the transport.
-/

namespace SdkGen.Python

/-- How a built-in type is written. -/
def builtin (name : String) : String :=
  match name with
  | "any" => "Any"
  | "boolean" => "bool"
  | "date" => "datetime.date"
  | "datetime" => "datetime.datetime"
  | "double" | "float" => "float"
  | "int64" | "integer" => "int"
  | "string" => "str"
  | "void" => "None"
  | _ => "Any"

/-- How a sequence is written. -/
def sequence (element : String) : String := "Sequence[" ++ element ++ "]"

/-- A documentation line; nothing for no text. -/
def summary (indent : String) (text : Option String) : String :=
  match text with
  | none => ""
  | some "" => ""
  | some s => indent ++ "\"\"\"" ++ s ++ "\"\"\"\n"

/-- The annotation of a member: one that may be left out has the null literal as default. -/
def annotation (nullStr type : String) (nullable : Bool) : String :=
  if nullable then "Optional[" ++ type ++ "] = " ++ nullStr else type

/-- A member with its annotation. -/
def member (nullStr indent name type : String) (nullable : Bool) : String :=
  indent ++ name ++ ": " ++ annotation nullStr type nullable

/-- The head of a class for a record. -/
def typeSignature (t : Target) (indent name description : String) : String :=
  indent ++ "@attr.s(auto_attribs=True, kw_only=True)\n" ++ indent ++ "class " ++ name ++
    "(model.Model):\n" ++
    summary (t.bumper indent) (some (if description = "" then name else description))

/-- The head of a method, given its parameters and the type that it returns. -/
def methodSignature (t : Target) (indent name params returns : String) : String :=
  indent ++ "def " ++ name ++ "(\n" ++ t.bumper indent ++ "self" ++
    (if params = "" then "" else ",\n" ++ params) ++ "\n" ++ indent ++ ") -> " ++ returns ++ ":\n"

/-- The assignment of an argument to a member. -/
def initArg (indent name : String) : String := indent ++ "self." ++ name ++ " = " ++ name

/-- A constructor that takes every property by name. -/
def construct (t : Target) (indent : String) (properties : List Property) : String :=
  let bump := t.bumper indent
  let args := properties.map fun p => t.declareConstructorArg "" p.name p.nullable
  let signature := if args.isEmpty then "self" else String.intercalate ", " ("self" :: "*" :: args)
  let body :=
    if properties.isEmpty then [bump ++ "pass"] else properties.map fun p => initArg bump p.name
  indent ++ "def __init__(" ++ signature ++ "):\n" ++ String.intercalate "\n" body

/-- The literal of a path; one with arguments in it is a formatted text. -/
def httpPath (path : String) : String :=
  (if '\x7b' ∈ path.toList then "f\"" else "\"") ++ path ++ "\""

/-- The body of a class without methods. -/
def emptyBody (indent : String) : String := indent ++ "pass"

/-- What stands before the methods. -/
def methodsPrologue (t : Target) (indent : String) : String :=
  t.comment indent (some editWarning) ++
    "\nimport datetime\nfrom typing import Any, Optional, Sequence\n\nfrom " ++ t.package ++
    " import models\nfrom " ++ t.package ++ ".rtl.api_methods import APIMethods\n\n\n" ++ indent ++
    "class " ++ Text.pascalCase (some t.package) ++ "SDK(APIMethods):\n"

/-- What stands before the models. -/
def modelsPrologue (t : Target) (indent : String) : String :=
  t.comment indent (some editWarning) ++
    "\nfrom __future__ import annotations\n\nimport datetime\n" ++
    "from typing import Any, Optional, Sequence\n\nimport attr\n\nfrom " ++ t.package ++
    ".rtl import model\n"

end SdkGen.Python
