import SdkGen.Failure

/-!
# Conventions of a target language

The delimiters and tokens that generated text is put together with. Each convention can be replaced by
its name.
-/

namespace SdkGen

/-- Delimiters and literal tokens of a language. -/
structure Conventions where
  /-- Stands between the arguments of a call. -/
  argDelimiter : String := ", "
  /-- Stands between declared parameters. -/
  paramDelimiter : String := ",\n"
  /-- Stands between declared properties. -/
  propDelimiter : String := ",\n"
  /-- One level of indentation. -/
  indentStr : String := "  "
  /-- The marker of a line comment, with its space. -/
  commentStr : String := "// "
  /-- The literal for no value, which also holds the place of an empty group. -/
  nullStr : String := "null"
  /-- The closing token of a type declaration, if there is one. -/
  endTypeStr : String := ""
  /-- The receiver that members are accessed on, if one is named. -/
  itself : String := ""
  /-- The member that does the transport. -/
  transport : String := "rtl"
  /-- The extension of generated files. -/
  fileExtension : String := ".code"
deriving DecidableEq, Repr, Inhabited

namespace Conventions

/-- One level further in. -/
def bumper (c : Conventions) (indent : String) : String := indent ++ c.indentStr

/-- A member of the receiver. -/
def it (c : Conventions) (value : String) : String :=
  if c.itself = "" then value else c.itself ++ "." ++ value

/-- All conventions by name. -/
def fields (c : Conventions) : List (String × String) :=
  [("arg_delimiter", c.argDelimiter), ("param_delimiter", c.paramDelimiter),
   ("prop_delimiter", c.propDelimiter), ("indent_str", c.indentStr),
   ("comment_str", c.commentStr), ("null_str", c.nullStr), ("end_type_str", c.endTypeStr),
   ("itself", c.itself), ("transport", c.transport), ("file_extension", c.fileExtension)]

/-- Replaces the convention of a name, if there is one. -/
def replace? (c : Conventions) (name value : String) : Option Conventions :=
  match name with
  | "arg_delimiter" => some { c with argDelimiter := value }
  | "param_delimiter" => some { c with paramDelimiter := value }
  | "prop_delimiter" => some { c with propDelimiter := value }
  | "indent_str" => some { c with indentStr := value }
  | "comment_str" => some { c with commentStr := value }
  | "null_str" => some { c with nullStr := value }
  | "end_type_str" => some { c with endTypeStr := value }
  | "itself" => some { c with itself := value }
  | "transport" => some { c with transport := value }
  | "file_extension" => some { c with fileExtension := value }
  | _ => none

/-- Replaces conventions by name; the first name that is none of theirs is refused. -/
def replaceAll (c : Conventions) (changes : List (String × String)) : Except Fault Conventions :=
  changes.foldlM (fun c e =>
    match c.replace? e.1 e.2 with
    | some c => .ok c
    | none => .error (.unknownArgument "Conventions" e.1)) c

end Conventions

end SdkGen
