import SdkGen.Pass.Basic

/-!
# References and derived types

The three things that a pass does to its state. Referencing a type counts it. Asking for a request
type or a writeable variant derives it on the first call, keeps what came out, and counts one
reference on every call that gives a type. A derived type whose name is taken is refused before
anything is kept.
-/

namespace SdkGen

namespace Pass

/-- Whether a derived type must not get this name. -/
def nameTaken (p : Pass) (m : Model) (name : String) : Bool :=
  m.types.contains name || name ∈ p.derivedNames m

end Pass

namespace Step

/-- Counts one reference to a type; for an array, to its elements. -/
def reference (r : Option TypeRef) : Step Unit :=
  modify fun p => { p with counts := p.counts.bump (r.map TypeRef.root) }

/-- Fails unless a model is bound to the pass. -/
def requireModel (operation : String) : Step Unit := do
  unless (← get).bound do throw (.modelNotBound operation)

/-- Refuses a derived type whose name is taken. -/
def checkName (m : Model) (derived : TypeDecl) (source : String) : Step Unit := do
  if (← get).nameTaken m derived.name then throw (.nameConflict derived.name source)

/-- The name of the request type of a method, if request types are in use and the method needs
one. -/
def requestTypeFor (m : Model) (id : MethodId) : Step (Option String) := do
  unless (← get).needsRequestTypes do return none
  requireModel "request_type_for"
  let derived ← match (← get).requests.get? id with
    | some kept => pure kept
    | none =>
      let method := m.method id
      let made := method.requestType?
      -- a refusal comes before anything is kept, so the next call is refused again
      if let some t := made then
        checkName m t method.name
        report (.createdRequest t.name method.name)
      -- that there is none to derive is kept as well
      modify fun p => { p with requests := p.requests.insert id made }
      pure made
  match derived with
  | none => return none
  | some t =>
    reference (some (.named (.request id)))
    return some t.name

/-- The writeable variant of a type, if the type has properties that are only ever read. Arrays have
no writeable variant. -/
def writeableTypeFor (m : Model) (r : Option TypeRef) : Step (Option TypeRef) := do
  match r with
  | none => return none
  | some (.array _ _) =>
    requireModel "writeable_type_for"
    return none
  | some (.named id) =>
    requireModel "writeable_type_for"
    let derived ← match (← get).writeables.get? id with
      | some kept => pure kept
      | none =>
        let source := (← get).decl m id
        -- the variant has the properties of its source themselves, and no copies of them
        let made := source.writeable?.map (·.sharing id source)
        if let some t := made then
          checkName m t source.name
          report (.createdWriteable t.name source.name)
        modify fun p => { p with writeables := p.writeables.insert id made }
        pure made
    match derived with
    | none => return none
    | some _ =>
      let variant := TypeRef.named (.writeable id)
      reference (some variant)
      return some variant

end Step

end SdkGen
