import SdkGen.Model.Build
import SdkGen.Text.Quoted
import SdkGen.Value

/-!
# Reading model descriptions

A model can be described by a document: the built-in types to start from, records with their
properties, methods with their parameters. Besides, a description may declare *strays*, types and
methods outside the model which other parts can mention.

A mention of a type is written as a name (a type of the model, made as a built-in one if there is none
of that name), as `array` of another mention, as a `stray`, as an `intrinsic` outside the model, or as
a `lookup` among the types that a pass knows. Whatever was made before a fault stays made.
-/

namespace SdkGen

/-- A model with the strays around it. -/
structure Catalog where
  model : Model := .standard
  /-- Whether there is a model at all. -/
  present : Bool := true
  /-- The types outside the model, by name. -/
  strays : Dict String TypeId := .empty
  /-- The methods outside the model, by name. -/
  strayMethods : Dict String MethodId := .empty

instance : Inhabited Catalog := ⟨{}⟩

/-- A step in reading a description. A step that fails keeps what it made before. -/
abbrev Build (α : Type) := ExceptT Fault (StateM Catalog) α

namespace Value

/-- The value of a field is smaller than the mapping that holds it. -/
theorem sizeOf_lt_of_field? {v w : Value} {key : String} (h : v.field? key = some w) :
    sizeOf w < sizeOf v := by
  simp only [field?, Option.map_eq_some_iff] at h
  obtain ⟨⟨k, x⟩, hf, rfl⟩ := h
  have hm := List.mem_reverse.1 (List.mem_of_find?_eq_some hf)
  cases v with
  | map entries =>
    simp only [fields, List.mem_filterMap, Option.map_eq_some_iff] at hm
    obtain ⟨⟨a, b⟩, hab, c, _, hc⟩ := hm
    have h1 := List.sizeOf_lt_of_mem hab
    simp only [Prod.mk.injEq] at hc
    rw [← hc.2]
    simp only [Prod.mk.sizeOf_spec, map.sizeOf_spec] at *
    omega
  | _ => simp [fields] at hm

end Value

namespace Build

/-- How a step finds the types that a pass knows. -/
abbrev Finder := Model → String → Option TypeId

/-- Finds nothing. -/
def noFinder : Finder := fun _ _ => none

/-- Changes the model and gives what the change gave. -/
def onModel {α : Type} (f : Model → α × Model) : Build α := do
  let c ← get
  let (a, m) := f c.model
  set { c with model := m }
  return a

/-- Changes the model unless the change is refused. -/
def onModel? {α : Type} (f : Model → Except Fault (α × Model)) : Build α := do
  let c ← get
  match f c.model with
  | .ok (a, m) =>
    set { c with model := m }
    return a
  | .error e => throw e

/-- The value under a key, which has to be there. -/
def require {α : Type} (found : Option α) (key : String) : Build α :=
  match found with
  | some a => pure a
  | none => throw (.missingKey key)

/-- The type that a document mentions. -/
def readRef (find : Finder) (v : Value) : Build (Option TypeRef) := do
  match _h : v.field? "array" with
  | some element =>
    match ← readRef find element with
    | some r => return some (.array r (v.textField "description" ""))
    | none => throw (.noValue "name")
  | none =>
    match v.text?, v.textField? "stray", v.textField? "intrinsic", v.textField? "lookup" with
    | some name, _, _, _ =>
      unless (← get).present do throw (.noValue "intrinsic")
      return some (.named (← onModel (·.intrinsic name)))
    | _, some name, _, _ => return some (.named (← require ((← get).strays.get? name) name))
    | _, _, some name, _ => return some (.named (← onModel (·.declare { name, intrinsic := true })))
    | _, _, _, some name => return (find (← get).model name).map .named
    | _, _, _, _ => return none
termination_by sizeOf v
decreasing_by exact Value.sizeOf_lt_of_field? _h

/-- The property that a document describes. -/
def readProperty (find : Finder) (v : Value) : Build Property := do
  let type ← readRef find (v.field "type")
  return {
    name := v.textField "name" ""
    type
    description := v.textField "description" ""
    nullable := v.boolField "nullable" false
    readOnly := v.boolField "read_only" false }

/-- The parameter that a document describes; its location is looked at first. -/
def readParameter (find : Finder) (v : Value) : Build Parameter := do
  let written := v.textField "location" "query"
  match Location.ofName? written with
  | none => throw (.unknownLocation (Text.quoted written))
  | some location =>
    let type ← readRef find (v.field "type")
    return {
      name := v.textField "name" ""
      type
      location
      description := v.textField "description" ""
      nullable := v.boolField "nullable" false }

/-- The method that a document describes: its parameters are looked at first, its errors last. -/
def readMethod (find : Finder) (v : Value) : Build Method := do
  let params ← (v.field "params").items.mapM (readParameter find)
  let type ← readRef find (v.field "type")
  let errors ← (v.field "errors").items.mapM (readRef find)
  return {
    name := v.textField "name" ""
    verb := v.textField "http_method" ""
    endpoint := v.textField "endpoint" ""
    params
    type
    errors
    description := v.textField "description" "" }

/-- The type that a document describes, without its properties. -/
def emptyDecl (v : Value) : TypeDecl :=
  { name := v.textField "name" "", description := v.textField "description" "" }

/-- Adds the properties that a document describes to a type. -/
def readProperties (find : Finder) (id : TypeId) (v : Value) : Build Unit :=
  (v.field "properties").items.forM fun p => do
    let property ← readProperty find p
    onModel fun m => ((), m.addProperty id property)

/-- The method that a document refers to: by its name in the model, or as a stray. -/
def methodRef (v : Value) : Build MethodId := do
  let c ← get
  match v with
  | .text name =>
    unless c.present do throw (.noValue "methods")
    require (c.model.methods.get? name) name
  | _ =>
    let name := v.textField "stray" ""
    require (c.strayMethods.get? name) name

/-- Makes the parts of a description one after the other: types, strays, the properties of both,
methods, stray methods. -/
def readModel (v : Value) : Build Unit := do
  for t in (v.field "types").items do
    let _ ← onModel? (·.addType (emptyDecl t))
  for t in (v.field "strays").items do
    let id ← onModel (·.declare (emptyDecl t))
    modify fun c => { c with strays := c.strays.insert (t.textField "name" "") id }
  for t in (v.field "types").items do
    let name := t.textField "name" ""
    readProperties noFinder (← require ((← get).model.types.get? name) name) t
  for t in (v.field "strays").items do
    let name := t.textField "name" ""
    readProperties noFinder (← require ((← get).strays.get? name) name) t
  for d in (v.field "methods").items do
    let method ← readMethod noFinder d
    let _ ← onModel? (·.addMethod method)
  for d in (v.field "stray_methods").items do
    let method ← readMethod noFinder d
    let id ← onModel (·.declareMethod method)
    modify fun c => { c with strayMethods := c.strayMethods.insert method.name id }

end Build

namespace Catalog

/-- The catalog that a document describes; a document without value describes that there is no
model. -/
def ofValue (v : Value) : Except Fault Catalog :=
  match v with
  | .null => .ok { model := {}, present := false }
  | _ =>
    let start : Model :=
      match v.field? "intrinsics" with
      | some names => .ofIntrinsics (names.items.filterMap Value.text?)
      | none => .standard
    match (Build.readModel v).run.run { model := start } with
    | (.ok (), c) => .ok c
    | (.error f, _) => .error f

/-- The model, if there is one. -/
def model? (c : Catalog) : Option Model := if c.present then some c.model else none

end Catalog

end SdkGen
