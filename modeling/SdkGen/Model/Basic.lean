import SdkGen.Dict

/-!
# The model of an API

Types and methods are handled by their identity: two types of one name are different types, and a
type keeps its identity while properties are added to it. So a model keeps its type declarations in a
list, and everything that mentions a type holds a `TypeId`. Array types have no identity of their own:
an array is what its elements are. Properties have an identity as well, which is where they come from: two
types may have the same property, and a property that replaces another is not the same, even if it looks
the same.

A type that a pass derives is identified by what it is derived from, which makes it the same type
whenever it is asked for.
-/

namespace SdkGen

/-- Where a parameter travels in the request. -/
inductive Location where
  /-- Inside the path. -/
  | path
  /-- In the query string. -/
  | query
  /-- In a header. -/
  | header
  /-- In a cookie. -/
  | cookie
  /-- In the body. -/
  | body
deriving DecidableEq, Repr, Inhabited

namespace Location

/-- The name of a location. -/
def name : Location → String
  | path => "path"
  | query => "query"
  | header => "header"
  | cookie => "cookie"
  | body => "body"

/-- All locations, in the order of their declaration. -/
def all : List Location := [path, query, header, cookie, body]

/-- The location of a name. -/
def ofName? (s : String) : Option Location := all.find? (·.name = s)

end Location

/-- The identity of a method: its place among the declared methods. -/
structure MethodId where
  /-- The place. -/
  index : Nat
deriving DecidableEq, Repr, Inhabited

/-- The identity of a type. -/
inductive TypeId where
  /-- A declared type, by its place among the declared types. -/
  | declared (index : Nat)
  /-- The request type of a method. -/
  | request (method : MethodId)
  /-- The writeable variant of a type. -/
  | writeable (source : TypeId)
deriving DecidableEq, Repr, Inhabited

/-- A mention of a type. -/
inductive TypeRef where
  /-- A type with an identity. -/
  | named (id : TypeId)
  /-- A collection of elements. -/
  | array (element : TypeRef) (description : String)
deriving DecidableEq, Repr, Inhabited

/-- The type left once all array layers are taken off. -/
def TypeRef.root : TypeRef → TypeId
  | .named id => id
  | .array element _ => element.root

/-- A property of a type. -/
structure Property where
  /-- The name of the member. -/
  name : String
  /-- The type of the member, if it has one. -/
  type : Option TypeRef
  /-- What the member is for. -/
  description : String := ""
  /-- Whether the member may be left out. -/
  nullable : Bool := false
  /-- Whether the member is only ever read. -/
  readOnly : Bool := false
deriving DecidableEq, Repr

/-- Where a property of a type comes from. -/
inductive Origin where
  /-- It was added to the type, after so many others of its name. -/
  | own (earlier : Nat)
  /-- It was added to another type, after so many others of its name, and both types have it. -/
  | shared (owner : TypeId) (earlier : Nat)
deriving DecidableEq, Repr

namespace Origin

/-- How many properties of the name came before. -/
def earlier : Origin → Nat
  | own n => n
  | shared _ n => n

/-- The origin as it is seen from outside of a type: the same for all types that have the property. -/
def within (id : TypeId) : Origin → Origin
  | own n => shared id n
  | shared owner n => shared owner n

end Origin

/-- A named record of properties, or a type that the target languages have built in. -/
structure TypeDecl where
  /-- The name as it is written in generated code. -/
  name : String
  /-- The properties by name, in the order of declaration. -/
  properties : Dict String Property := .empty
  /-- Where properties come from; one that is missing here was added to the type as the first of its
  name. -/
  origins : Dict String Origin := .empty
  /-- What the type is for. -/
  description : String := ""
  /-- Whether the type is built in; such types are never declared. -/
  intrinsic : Bool := false

instance : Inhabited TypeDecl := ⟨{ name := "" }⟩

namespace TypeDecl

/-- Where the property of a name comes from. -/
def origin (t : TypeDecl) (name : String) : Origin := (t.origins.get? name).getD (.own 0)

/-- Adds a property; a property of the same name is replaced where it stands. -/
def addProperty (t : TypeDecl) (p : Property) : TypeDecl :=
  { t with
    properties := t.properties.insert p.name p
    origins :=
      if t.properties.contains p.name then
        t.origins.insert p.name (.own ((t.origin p.name).earlier + 1))
      else t.origins }

/-- A type whose properties are those of a source, under the identity of the source. -/
def sharing (t : TypeDecl) (id : TypeId) (source : TypeDecl) : TypeDecl :=
  { t with origins := .ofList (t.properties.keys.map fun n => (n, (source.origin n).within id)) }

/-- The properties that are only ever read. -/
def readOnlyProperties (t : TypeDecl) : List Property := t.properties.values.filter (·.readOnly)

end TypeDecl

/-- A parameter of a method. -/
structure Parameter where
  /-- The name of the parameter. -/
  name : String
  /-- The type of the parameter, if it has one. -/
  type : Option TypeRef
  /-- Where the parameter travels. -/
  location : Location := .query
  /-- What the parameter is for. -/
  description : String := ""
  /-- Whether the parameter may be left out. -/
  nullable : Bool := false
deriving DecidableEq, Repr

/-- An operation of the API. -/
structure Method where
  /-- The name of the generated function. -/
  name : String
  /-- The verb of the request. -/
  verb : String
  /-- The path template of the request. -/
  endpoint : String
  /-- The parameters in the order of declaration. -/
  params : List Parameter := []
  /-- The type of the answer, if there is one. -/
  type : Option TypeRef := none
  /-- The types of the error answers. -/
  errors : List (Option TypeRef) := []
  /-- What the method does. -/
  description : String := ""
deriving DecidableEq, Repr

instance : Inhabited Method := ⟨{ name := "", verb := "", endpoint := "" }⟩

namespace Method

/-- The names of the parameters at a location. -/
def argsAt (m : Method) (l : Location) : List String :=
  (m.params.filter (·.location = l)).map (·.name)

/-- The names of the path parameters. -/
def pathArgs (m : Method) : List String := m.argsAt .path

/-- The names of the query parameters. -/
def queryArgs (m : Method) : List String := m.argsAt .query

/-- The names of the header parameters. -/
def headerArgs (m : Method) : List String := m.argsAt .header

/-- The names of the cookie parameters. -/
def cookieArgs (m : Method) : List String := m.argsAt .cookie

/-- The name of the body parameter: the first one counts. -/
def bodyArg (m : Method) : Option String := (m.argsAt .body).head?

/-- The parameters that must be given. -/
def requiredParams (m : Method) : List Parameter := m.params.filter fun p => !p.nullable

/-- The parameters that may be left out. -/
def optionalParams (m : Method) : List Parameter := m.params.filter (·.nullable)

/-- All parameters, those that must be given first. -/
def allParams (m : Method) : List Parameter := m.requiredParams ++ m.optionalParams

end Method

/-- The types and methods of one API. Types and methods may be declared without being part of the
model: then no name leads to them, but they can be mentioned. -/
structure Model where
  /-- All types that were declared, in the model or not. -/
  decls : Array TypeDecl := #[]
  /-- The types of the model by name. -/
  types : Dict String TypeId := .empty
  /-- All methods that were declared, in the model or not. -/
  methodDecls : Array Method := #[]
  /-- The methods of the model by name. -/
  methods : Dict String MethodId := .empty

instance : Inhabited Model := ⟨{}⟩

namespace Model

/-- The declared type of an identity; derived types are not declared in a model. -/
def decl? (m : Model) : TypeId → Option TypeDecl
  | .declared n => m.decls[n]?
  | _ => none

/-- The method of an identity. -/
def method (m : Model) (id : MethodId) : Method := m.methodDecls[id.index]?.getD default

end Model

end SdkGen
