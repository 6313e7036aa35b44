import SdkGen.Failure
import SdkGen.Model.Basic

/-!
# Building a model

A model starts with the types that every target language has built in and grows by adding types,
properties and methods. Adding a name twice is refused; asking for a built-in type makes it if it is
not there yet.
-/

namespace SdkGen

/-- The built-in types that a model starts with unless it is told otherwise. -/
def standardIntrinsics : List String :=
  ["any", "boolean", "date", "datetime", "double", "float", "int64", "integer", "string", "void"]

namespace Model

/-- Declares a type without making it part of the model. -/
def declare (m : Model) (t : TypeDecl) : TypeId × Model :=
  (.declared m.decls.size, { m with decls := m.decls.push t })

/-- Puts a type into the model under its name, in place of another one of that name. -/
def register (m : Model) (name : String) (id : TypeId) : Model :=
  { m with types := m.types.insert name id }

/-- Adds a type under a name that must be new. -/
def addType (m : Model) (t : TypeDecl) : Except Fault (TypeId × Model) :=
  if m.types.contains t.name then .error (.duplicateType t.name)
  else
    let (id, m) := m.declare t
    .ok (id, m.register t.name id)

/-- The type of a name, which becomes a built-in one if there is none. -/
def intrinsic (m : Model) (name : String) : TypeId × Model :=
  match m.types.get? name with
  | some id => (id, m)
  | none =>
    let (id, m) := m.declare { name, intrinsic := true }
    (id, m.register name id)

/-- The model that holds built-in types of the given names and nothing else. -/
def ofIntrinsics (names : List String) : Model :=
  names.foldl (fun m name =>
    let (id, m) := m.declare { name, intrinsic := true }
    m.register name id) {}

/-- The model to start from. -/
def standard : Model := ofIntrinsics standardIntrinsics

/-- Declares a method without making it part of the model. -/
def declareMethod (m : Model) (method : Method) : MethodId × Model :=
  (⟨m.methodDecls.size⟩, { m with methodDecls := m.methodDecls.push method })

/-- Adds a method under a name that must be new. -/
def addMethod (m : Model) (method : Method) : Except Fault (MethodId × Model) :=
  if m.methods.contains method.name then .error (.duplicateMethod method.name)
  else
    let (id, m) := m.declareMethod method
    .ok (id, { m with methods := m.methods.insert method.name id })

/-- Adds a property to a declared type. -/
def addProperty (m : Model) (id : TypeId) (p : Property) : Model :=
  match id with
  | .declared n => { m with decls := m.decls.modify n (·.addProperty p) }
  | _ => m

/-- The methods of the model in the order of their names. -/
def sortedMethods (m : Model) : List MethodId :=
  (m.methods.entries.mergeSort fun a b => a.1 ≤ b.1).map Prod.snd

end Model

end SdkGen
