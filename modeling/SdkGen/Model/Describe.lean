import SdkGen.Pass.Basic
import SdkGen.Text.Case
import SdkGen.Text.Quoted

/-!
# Descriptions of model objects

A model object as one line of text: the kind of the object with all its fields in parentheses. A type
that is met again inside itself is written as three dots, and so is a property; the writeable variant
of a type has its properties in common with that type.
-/

namespace SdkGen

/-- A type, or a property by its name and where it comes from. -/
inductive Place where
  | type (id : TypeId)
  | property (name : String) (origin : Origin)
deriving DecidableEq

/-- A truth value in a description. -/
def describeBool (b : Bool) : String := if b then "True" else "False"

/-- Fields between parentheses behind the kind of an object. -/
def describeFields (kind : String) (fields : List (String × String)) : String :=
  kind ++ "(" ++ String.intercalate ", " (fields.map fun f => f.1 ++ "=" ++ f.2) ++ ")"

/-- A location in a description. -/
def Location.describe (l : Location) : String :=
  "<ParamLocation." ++ Text.toUpper l.name ++ ": " ++ Text.quoted l.name ++ ">"

namespace Pass

/-- Fields of a property, given the description of its type. -/
def describeProperty (q : Property) (type : String) : String :=
  describeFields "Property"
    [("name", Text.quoted q.name), ("type", type), ("description", Text.quoted q.description),
     ("nullable", describeBool q.nullable), ("read_only", describeBool q.readOnly)]

/-- Fields of a type, given its kind and the description of its properties. -/
def describeDecl (kind name properties description : String) : String :=
  describeFields kind
    [("name", Text.quoted name), ("properties", "\x7b" ++ properties ++ "\x7d"),
     ("description", Text.quoted description)]

/-- The description of a mention of a type inside the given places. `fuel` bounds the depth. -/
def describeRef (p : Pass) (m : Model) : Nat → List Place → Option TypeRef → String
  | 0, _, _ => "..."
  | _ + 1, _, none => "None"
  | _ + 1, _, some (.array element description) =>
    describeDecl "ArrayType" (p.typeName m (.array element description)) "" description
  | fuel + 1, inside, some (.named id) =>
    if .type id ∈ inside then "..."
    else
      let d := p.decl m id
      let property := fun (q : Property) =>
        let place := Place.property q.name ((d.origin q.name).within id)
        if place ∈ inside then "..."
        else describeProperty q (p.describeRef m fuel (place :: .type id :: inside) q.type)
      let properties := d.properties.values.map fun q => Text.quoted q.name ++ ": " ++ property q
      describeDecl (if d.intrinsic then "IntrinsicType" else "Type") d.name
        (String.intercalate ", " properties) d.description

/-- The description of a mention of a type: no chain of types is longer than the number of types. -/
def describe (p : Pass) (m : Model) (r : Option TypeRef) : String :=
  p.describeRef m (m.decls.size + p.derivedTypes.length + 2) [] r

/-- The description of a parameter. -/
def describeParameter (p : Pass) (m : Model) (q : Parameter) : String :=
  describeFields "Parameter"
    [("name", Text.quoted q.name), ("type", p.describe m q.type),
     ("location", q.location.describe), ("description", Text.quoted q.description),
     ("nullable", describeBool q.nullable)]

/-- Descriptions between brackets. -/
def describeList (items : List String) : String := "[" ++ String.intercalate ", " items ++ "]"

/-- The description of a method. -/
def describeMethod (p : Pass) (m : Model) (q : Method) : String :=
  describeFields "Method"
    [("name", Text.quoted q.name), ("http_method", Text.quoted q.verb),
     ("endpoint", Text.quoted q.endpoint),
     ("params", describeList (q.params.map (p.describeParameter m))),
     ("type", p.describe m q.type), ("errors", describeList (q.errors.map (p.describe m))),
     ("description", Text.quoted q.description)]

end Pass

end SdkGen
