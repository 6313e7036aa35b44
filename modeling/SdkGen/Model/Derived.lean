import SdkGen.Model.Basic
import SdkGen.Text.Identifier

/-!
# Derived types

Two rules make new types from what a model holds. A method with two or more parameters that may be
left out gets a *request type*, which bundles its parameters. A record with properties that are only
ever read has a *writeable variant* without them.
-/

namespace SdkGen

/-- A parameter as a member of a request type. -/
def Parameter.toProperty (p : Parameter) : Property :=
  { name := p.name, type := p.type, description := p.description, nullable := p.nullable }

def Method.requestTypeName (m : Method) : String := "Request" ++ Text.pascalCase (some m.name)

/-- The request type of a method, if the method needs one. -/
def Method.requestType? (m : Method) : Option TypeDecl :=
  if m.optionalParams.length ≤ 1 then none
  else
    some
      { name := m.requestTypeName
        description := s!"Dynamically generated request type for {m.name}"
        properties := .ofList (m.allParams.map fun p => (p.name, p.toProperty)) }

/-- The name of the writeable variant of a type. -/
def TypeDecl.writeableName (t : TypeDecl) : String := "Write" ++ t.name

/-- The writeable variant of a type, if there is anything to leave out. -/
def TypeDecl.writeable? (t : TypeDecl) : Option TypeDecl :=
  if t.intrinsic || t.readOnlyProperties.isEmpty then none
  else
    some
      { name := t.writeableName
        description :=
          s!"Dynamically generated writeable type for {t.name} removes read-only properties"
        properties := .ofList ((t.properties.values.filter fun p => !p.readOnly).map
          fun p => (p.name, p)) }

end SdkGen
