import SdkGen.Failure
import SdkGen.Journal
import SdkGen.Model.Build
import SdkGen.Model.Derived

/-!
# The state of a pass

A pass renders one model for one target. Its state counts how often each type is referenced and keeps
the types that were derived along the way; which types get declared is decided by the counts alone.

Main statements: `Counts.get_bump` says what counting one reference does.
-/

namespace SdkGen

/-- How often each type was referenced. A missing type counts like any other. -/
structure Counts where
  table : Dict (Option TypeId) Nat

namespace Counts

/-- No references. -/
def empty : Counts := ⟨.empty⟩

instance : Inhabited Counts := ⟨empty⟩

/-- How often a type was referenced. -/
def get (c : Counts) (id : Option TypeId) : Nat := (c.table.get? id).getD 0

/-- Counts one more reference. -/
def bump (c : Counts) (id : Option TypeId) : Counts := ⟨c.table.insert id (c.get id + 1)⟩

/-- Counting a reference raises one count by one. -/
theorem get_bump (c : Counts) (a b : Option TypeId) :
    (c.bump a).get b = if a = b then c.get b + 1 else c.get b := by
  by_cases h : a = b
  · subst h; simp [get, bump]
  · simp [get, bump, Dict.get?_insert, h]

end Counts

/-- The state of a pass. -/
structure Pass where
  /-- Whether a model is bound to the pass. -/
  bound : Bool := true
  /-- Whether parameters are bundled in request types. -/
  needsRequestTypes : Bool := false
  /-- The references so far. -/
  counts : Counts := .empty
  /-- What asking for the request type of a method gave, by method. -/
  requests : Dict MethodId (Option TypeDecl) := .empty
  /-- What asking for the writeable variant of a type gave, by type. -/
  writeables : Dict TypeId (Option TypeDecl) := .empty
  /-- The events so far, oldest first. -/
  journal : Array Event := #[]

instance : Inhabited Pass := ⟨{}⟩

/-- A step of a pass. A step that fails keeps what it did to the state before. -/
abbrev Step (α : Type) := ExceptT Failure (StateM Pass) α

namespace Step

/-- Runs a step from a state. -/
def runFrom {α : Type} (s : Step α) (p : Pass) : Except Failure α × Pass := s.run.run p

/-- Fails with a bare fault. -/
def fault {α : Type} (f : Fault) : Step α := throw (.fault f)

def report (e : Event) : Step Unit := modify fun p => { p with journal := p.journal.push e }

end Step

namespace Pass

/-- The declaration behind the identity of a type. -/
def decl (p : Pass) (m : Model) : TypeId → TypeDecl
  | .declared n => (m.decl? (.declared n)).getD default
  | .request method => ((p.requests.get? method).join).getD default
  | .writeable source => ((p.writeables.get? source).join).getD default

/-- The name of a type: an array has the name of its elements and a pair of brackets. -/
def typeName (p : Pass) (m : Model) : TypeRef → String
  | .named id => (p.decl m id).name
  | .array element _ => p.typeName m element ++ "[]"

/-- How often a mentioned type was referenced; references to an array count for its elements. -/
def refCount (p : Pass) : Option TypeRef → Nat
  | none => p.counts.get none
  | some (.named id) => p.counts.get (some id)
  | some (.array _ _) => 0

/-- Every type derived so far: request types first, each kind in the order of creation. -/
def derivedTypes (p : Pass) : List TypeId :=
  (p.requests.entries.filterMap fun e => e.2.map fun _ => .request e.1) ++
    p.writeables.entries.filterMap fun e => e.2.map fun _ => .writeable e.1

/-- The names of the derived types. -/
def derivedNames (p : Pass) (m : Model) : List String :=
  p.derivedTypes.map fun id => (p.decl m id).name

/-- Types in the order of their names. -/
def sortByName (p : Pass) (m : Model) (types : List TypeId) : List TypeId :=
  types.mergeSort fun a b => (p.decl m a).name ≤ (p.decl m b).name

/-- Every type that may have to be declared, in the order of their names: the types of the model and
the derived ones, if a model is bound. -/
def candidates (p : Pass) (m : Model) : List TypeId :=
  if p.bound then p.sortByName m (m.types.values ++ p.derivedTypes) else []

/-- The types that have to be declared, in the order of their names: those of the model and the
derived ones that were referenced and are not built in. -/
def referencedTypes (p : Pass) (m : Model) : List TypeId :=
  (p.candidates m).filter fun id => 0 < p.counts.get (some id) && !(p.decl m id).intrinsic

/-- The names of the types that have to be declared. -/
def referencedTypeNames (p : Pass) (m : Model) : List String :=
  (p.referencedTypes m).map fun id => (p.decl m id).name

/-- The type of a name: a type of the model, or else a derived one. -/
def lookup (p : Pass) (m : Model) (name : String) : Option TypeId :=
  match if p.bound then m.types.get? name else none with
  | some id => some id
  | none => p.derivedTypes.find? fun id => (p.decl m id).name = name

/-- Adds a property to a type, derived or declared. -/
def addProperty (p : Pass) (m : Model) (id : TypeId) (q : Property) : Pass × Model :=
  match id with
  | .declared _ => (p, m.addProperty id q)
  | .request method =>
    match (p.requests.get? method).join with
    | some t => ({ p with requests := p.requests.insert method (some (t.addProperty q)) }, m)
    | none => (p, m)
  | .writeable source =>
    match (p.writeables.get? source).join with
    | some t => ({ p with writeables := p.writeables.insert source (some (t.addProperty q)) }, m)
    | none => (p, m)

end Pass

end SdkGen
