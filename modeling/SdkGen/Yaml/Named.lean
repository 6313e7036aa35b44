import SdkGen.Problem
import SdkGen.Yaml.MemberValues
import SdkGen.Yaml.Members

/-!
# Values by name

A tag can ask for something by its name, perhaps with the name of the place where it stands. There are places
that are always there, and a document may be read with further ones. Nothing looks into such a value but into
the few that are ordinary ones.
-/

namespace SdkGen.Yaml

/-- The name of the kind of what a name stands for in some rows, each of which begins with the name of a kind. -/
def kindIn? (rows : List String) (name : String) : Option String :=
  rows.findSome? fun row =>
    match row.splitOn " " with
    | kind :: names => if names.contains name then some kind else none
    | [] => none

/-- The whole number that an entry `name=number` gives a name. -/
def numberOf? (name entry : String) : Option Int :=
  match entry.splitOn "=" with
  | [key, number] => if key = name then number.toInt? else none
  | _ => none

/-- The whole number that a name stands for in some rows of entries. -/
def numberIn? (rows : List String) (name : String) : Option Int :=
  rows.findSome? fun row => (row.splitOn " ").findSome? (numberOf? name)

/-- The places that have a second name. -/
def secondNames : List (String × String) := [("os.path", "posixpath")]

/-- What stands under a name in a place that is always there. -/
def ordinary? (place name : String) : Option Value :=
  let place := (secondNames.lookup place).getD place
  let rowsIn := fun (table : List (String × List String)) => (table.lookup place).getD []
  match memberValues.lookup (place ++ "." ++ name), numberIn? (rowsIn memberNumbers) name,
      kindIn? (rowsIn memberRows) name with
  | some v, _, _ => some v
  | none, some n, _ => some (.int n)
  | none, none, some kind => some (.foreign kind)
  | none, none, none =>
    if name = "__name__" && (memberRows.lookup place).isSome then some (.text place) else none

/-- Further places where things have names: what a name means there, if there is such a place. -/
abbrev Places := String → Option (String → Except Problem Value)

/-- The place of names without dots. -/
def commonPlace : String := "builtins"

def meaningIn (places : Places) (place name : String) : Except Problem Value :=
  match places place with
  | some meaning => meaning name
  | none => Problem.need (ordinary? place name)

/-- What a name means: what stands before its last dot has to be a place where things have names. -/
def named (places : Places) (name : String) : Except Problem Value :=
  let parts := name.splitOn "."
  let place := if parts.length < 2 then commonPlace else ".".intercalate parts.dropLast
  meaningIn places place (parts.getLast?.getD "")

end SdkGen.Yaml
