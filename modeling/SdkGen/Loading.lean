import SdkGen.Loading.Member
import SdkGen.Loading.Raised
import SdkGen.Model.Reader
import SdkGen.Yaml.Named

/-!
# Loading models

A model is loaded from a module by the path `module:attribute`. The attribute holds a model, a value
that is none, or a factory that is run for one. A dotted path names a module of its own: unless it has been
imported by then, the modules above it are imported first, from the top on, and it is looked for among the
parts of the last one.
-/

namespace SdkGen

namespace Loading

/-- The name of a module by its parts, from the last to the first. -/
def moduleName (parts : List String) : String := String.intercalate "." parts.reverse

/-- Whether a module has been imported by then. -/
def isImported (modules : Modules) (name : String) : Bool := modules.get? name matches some (.members _)

/-- What a module comes to by itself, whatever is above it. -/
def byItself (modules : Modules) (name : String) : Except Fault (Dict String Member) :=
  match modules.get? name with
  | some (.members table) => .ok table
  | some (.code result) => result
  | none => .error (.missingModule name none)

/-- The attributes of a module, given by the parts of its name from the last to the first. -/
def importParts (modules : Modules) : List String → Except Fault (Dict String Member)
  | [] => byItself modules ""
  | [name] => byItself modules name
  | part :: next :: above => do
    let name := moduleName (part :: next :: above)
    if isImported modules name then byItself modules name
    else
      let table ← importParts modules (next :: above)
      match Module.partFault? table (moduleName (next :: above)) name with
      | some f => throw f
      | none => byItself modules name

/-- The parts of the name of a module, from the last to the first. -/
def nameParts (name : String) : List String :=
  ((Text.splitAtChar '.' name.toList).map String.ofList).reverse

/-- The attributes of a module. -/
def importModule (modules : Modules) (name : String) : Except Fault (Dict String Member) :=
  importParts modules (nameParts name)

/-- Whether a fault while a module is imported counts as a failure to load. -/
def isImportFault (f : Fault) : Bool := f.isA "ImportError" || f.isA "AttributeError"

/-- Whether a fault while a factory is run ends more than the loading. -/
def endsAll (f : Fault) : Bool := !f.isA "Exception"

/-- The two parts of an import path; without a colon all of it is the module. -/
def splitPath (path : String) : String × String :=
  let cs := path.toList
  let name := cs.takeWhile (· != ':')
  (String.ofList name, String.ofList (cs.drop (name.length + 1)))

/-- The attribute that an import path leads to. -/
def findMember (modules : Modules) (name member : String) : Except Fault Member := do
  -- there is no package that a relative name could start from
  if name.startsWith "." then throw (.relativeImport name)
  let table ← importModule modules name
  Module.lookup table name member

/-- The model that an import path leads to. -/
def load (modules : Modules) (path : String) : Except Failure Model :=
  let (name, member) := splitPath path
  if name = "" ∨ member = "" then .error (.modelLoad path (some .emptyImportPart))
  else
    -- importing counts few faults as a failure to load, running the factory nearly all of them
    match findMember modules name member with
    | .error f => .error (if isImportFault f then .modelLoad path (some f) else .fault f)
    | .ok found =>
      let product : Except Fault Product := match found with
        | .held p => .ok p
        | .factory result => result
      match product with
      | .error f => .error (if endsAll f then .fault f else .modelLoad path (some f))
      | .ok (.model m) => .ok m
      | .ok (.value v) => .error (.modelLoad path (some (.notAModel v.kindName)))

/-- The modules as places where things have names for documents. -/
def placesOf (modules : Modules) : Yaml.Places := fun place =>
  match modules.get? place with
  | some (.members table) =>
    some fun name =>
      match Module.lookup table place name with
      | .ok found => .ok found.asValue
      | .error (.missingAttribute _ _) => .error .malformed
      | .error f => .error (.fault f)
  | _ => none

/-- What a catalog gives: its model, or nothing. -/
def productOf (c : Catalog) : Product :=
  match c.model? with
  | some m => .model m
  | none => .value .null

/-- The attribute that a document describes: a `value`, a model as an `instance`, or a factory that
builds a `model`, `returns` a value or `raises` a failure. -/
def readMember (v : Value) : Except Fault Member :=
  match v.field? "model", v.field? "instance", v.field? "returns", v.textField? "raises" with
  | some spec, _, _, _ => .ok (.factory ((Catalog.ofValue spec).map productOf))
  | _, some spec, _, _ => do return .held (productOf (← Catalog.ofValue spec))
  | _, _, some w, _ => .ok (.factory (.ok (.value w)))
  | _, _, _, some kind => .ok (.factory (.error (raised kind (v.field "args").items)))
  | _, _, _, _ => .ok (.held (.value (v.field "value")))

/-- The modules that a document describes. -/
def readModules (v : Value) : Except Fault Modules := do
  let modules ← v.fields.mapM fun (name, attributes) => do
    let table ← attributes.fields.mapM fun (member, spec) => do
      return (member, ← readMember spec)
    return (name, Module.members (.ofList table))
  return .ofList modules

end Loading

end SdkGen
