import SdkGen.Arguments
import SdkGen.Target.Python
import SdkGen.Target.TypeScript

/-!
# Text of a target

The pieces of text that depend on the language alone and on nothing that a pass knows, chosen by the
language of the target.
-/

namespace SdkGen.Target

/-- A documentation text in front of or inside a declaration. -/
def summary (t : Target) (indent : String) (text : Option String) : String :=
  match t.language with
  | .python => Python.summary indent text
  | .typescript => TypeScript.summary indent text

/-- The head of the declaration of a type. -/
def typeSignature (t : Target) (indent : String) (d : TypeDecl) : String :=
  match t.language with
  | .python => Python.typeSignature t indent d.name d.description
  | .typescript => TypeScript.typeSignature indent d.name d.description

def parameterText (t : Target) (indent : String) (p : Parameter) (type : String) : String :=
  match t.language with
  | .python => Python.member t.conventions.nullStr indent p.name type p.nullable
  | .typescript => TypeScript.parameter indent p.name type p.nullable

def propertyText (t : Target) (indent : String) (p : Property) (type : String) : String :=
  match t.language with
  | .python => Python.member t.conventions.nullStr indent p.name type p.nullable
  | .typescript => TypeScript.property t indent p type

/-- How a sequence is written. -/
def sequence (t : Target) (element : String) : String :=
  match t.language with
  | .python => Python.sequence element
  | .typescript => TypeScript.sequence element

/-- How a type that is no sequence is written. -/
def spelling (t : Target) (qualifier : String) (d : TypeDecl) : String :=
  match t.language with
  | .python => if d.intrinsic then Python.builtin d.name else qualifier ++ d.name
  | .typescript =>
    if d.intrinsic then TypeScript.builtin d.name
    else qualifier ++ TypeScript.interfaceName d.name

/-- The assignment of an argument to a member. -/
def initArg (t : Target) (indent name : String) : String :=
  match t.language with
  | .python => Python.initArg indent name
  | .typescript => TypeScript.initArg indent name

/-- A constructor for a list of properties. -/
def construct (t : Target) (indent : String) (properties : List Property) : String :=
  match t.language with
  | .python => Python.construct t indent properties
  | .typescript => TypeScript.construct t indent properties

/-- The literal of a path without arguments. -/
def plainPath (path : String) : String := "\"" ++ path ++ "\""

/-- The literal of a path, with its arguments behind a common text. -/
def httpPath (t : Target) (path front : String) : String :=
  match t.language with
  | .python => Python.httpPath path
  | .typescript => TypeScript.httpPath path front

/-- The body of a class without methods. -/
def emptyBody (t : Target) (indent : String) : String :=
  match t.language with
  | .python => Python.emptyBody indent
  | .typescript => ""

/-- What stands before the methods. -/
def methodsPrologue (t : Target) (indent : String) : String :=
  match t.language with
  | .python => Python.methodsPrologue t indent
  | .typescript => TypeScript.methodsPrologue t indent

/-- What stands after the methods. -/
def methodsEpilogue (t : Target) (indent : String) : String :=
  match t.language with
  | .python => ""
  | .typescript => TypeScript.methodsEpilogue indent

/-- What stands before the models. -/
def modelsPrologue (t : Target) (indent : String) : String :=
  match t.language with
  | .python => Python.modelsPrologue t indent
  | .typescript => TypeScript.modelsPrologue t indent

/-- What stands after the models. -/
def modelsEpilogue (_ : Target) (_ : String) : String := ""

/-- The arguments of the transport call of a method. -/
def httpArgs (t : Target) (m : Method) (front : String) : String := t.conventions.httpArgs m front

/-- The verb and the path of a method. -/
def route (m : Method) : String := Text.toUpper m.verb ++ " " ++ m.endpoint

/-- The transport call of a method, given the types of its errors. -/
def callText (t : Target) (indent : String) (m : Method) (front errors : String) : String :=
  let args := t.httpArgs m front
  indent ++ "return " ++ t.it t.conventions.transport ++ "." ++ Text.toLower m.verb ++ "((" ++
    errors ++ "), " ++ t.httpPath m.endpoint front ++ (if args = "" then "" else ", " ++ args) ++ ")"

end SdkGen.Target
