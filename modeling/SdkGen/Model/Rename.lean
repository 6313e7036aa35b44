import SdkGen.Model.Basic

/-!
# Renaming types

Putting other identities in place of those that a model mentions. Names, order and the shape of what is
mentioned stay as they are.

Main statement: `TypeRef.root_rename` (the root of a mention is renamed and nothing else).
-/

namespace SdkGen

/-- A mention with its type renamed. -/
def TypeRef.rename (f : TypeId → TypeId) : TypeRef → TypeRef
  | .named id => .named (f id)
  | .array element description => .array (element.rename f) description

/-- The root of a mention is what gets renamed. -/
theorem TypeRef.root_rename (f : TypeId → TypeId) (r : TypeRef) : (r.rename f).root = f r.root := by
  induction r with
  | named => rfl
  | array _ _ ih => simpa [rename, root] using ih

/-- A property with the types that it mentions renamed. -/
def Property.rename (f : TypeId → TypeId) (p : Property) : Property :=
  { p with type := p.type.map (·.rename f) }

/-- An origin with the type renamed that a property was added to. -/
def Origin.rename (f : TypeId → TypeId) : Origin → Origin
  | .own earlier => .own earlier
  | .shared owner earlier => .shared (f owner) earlier

/-- A type with the types that it mentions renamed. -/
def TypeDecl.rename (f : TypeId → TypeId) (t : TypeDecl) : TypeDecl :=
  { t with
    properties := t.properties.mapValues (·.rename f)
    origins := t.origins.mapValues (·.rename f) }

/-- A parameter with the types that it mentions renamed. -/
def Parameter.rename (f : TypeId → TypeId) (p : Parameter) : Parameter :=
  { p with type := p.type.map (·.rename f) }

/-- A method with the types that it mentions renamed. -/
def Method.rename (f : TypeId → TypeId) (m : Method) : Method :=
  { m with
    params := m.params.map (·.rename f)
    type := m.type.map (·.rename f)
    errors := m.errors.map fun e => e.map (·.rename f) }

/-- A model with the types that it mentions renamed. -/
def Model.rename (f : TypeId → TypeId) (m : Model) : Model :=
  { m with
    decls := m.decls.map (·.rename f)
    types := m.types.mapValues f
    methodDecls := m.methodDecls.map (·.rename f) }

end SdkGen
