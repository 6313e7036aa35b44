import SdkGen.Target.Declare

/-!
# Generating sources

One pass over a model gives two source texts: the methods, and the declarations of every type that
the methods mention, directly or through the properties of other declared types.

Declaring a type references the types of its properties, so declaring goes on in rounds until no type
is left that was referenced and is not declared. Each round takes at least one type off the list of
those that remain, hence the rounds end.
-/

namespace SdkGen

/-- The sources that a pass gives. -/
structure Sources where
  methods : String
  models : String
  /-- The names of the declared types, in order. -/
  typeNames : List String := []
deriving DecidableEq, Repr, Inhabited

namespace Pass

/-- The state at the beginning of a pass for a target. -/
def start (t : Target) : Pass := { needsRequestTypes := t.needsRequestTypes }

/-- Whether a type was referenced and no declaration goes by its name yet. -/
def isPending (p : Pass) (m : Model) (done : Dict String String) (id : TypeId) : Bool :=
  0 < p.counts.get (some id) && !(p.decl m id).intrinsic && !done.contains (p.decl m id).name

/-- The types among those that remain which have to be declared next. -/
def pending (p : Pass) (m : Model) (done : Dict String String) (remaining : List TypeId) :
    List TypeId :=
  remaining.filter (p.isPending m done)

/-- The types among those that remain which have not to be declared yet. -/
def waiting (p : Pass) (m : Model) (done : Dict String String) (remaining : List TypeId) :
    List TypeId :=
  remaining.filter fun id => !p.isPending m done id

/-- If there is a type to declare next, fewer types remain. -/
theorem length_waiting_lt {p : Pass} {m : Model} {done : Dict String String}
    {remaining : List TypeId} (h : p.pending m done remaining ≠ []) :
    (p.waiting m done remaining).length < remaining.length := by
  obtain ⟨id, hid⟩ := List.exists_mem_of_ne_nil _ h
  obtain ⟨hm, hp⟩ := List.mem_filter.1 hid
  exact List.length_filter_lt_length_iff_exists.2 ⟨id, hm, by simp [hp]⟩

end Pass

namespace Target

/-- The methods module over the model of a pass. -/
def renderMethods (t : Target) (m : Model) : Step String := do
  unless (← get).bound do Step.fault (.noValue "sorted_methods")
  let indent := t.bumper ""
  let parts ← m.sortedMethods.mapM (t.declareMethod m indent)
  let parts := if parts.isEmpty then [t.emptyBody indent] else parts
  return t.methodsPrologue "" ++ String.intercalate "\n\n" parts ++ "\n" ++ t.methodsEpilogue ""

/-- Declares one more type. -/
def declareNext (t : Target) (m : Model) (done : Dict String String) (id : TypeId) :
    Step (Dict String String) := do
  let d := (← get).decl m id
  Step.report (.declaring d.name)
  return done.insert d.name (← t.declareDecl m "" d)

/-- Declares in rounds what was referenced among the types that remain. -/
def declareRounds (t : Target) (m : Model) (remaining : List TypeId) (done : Dict String String) :
    Step (Dict String String) := do
  let p ← get
  if _h : p.pending m done remaining = [] then return done
  else
    let done' ← (p.pending m done remaining).foldlM (t.declareNext m) done
    t.declareRounds m (p.waiting m done remaining) done'
termination_by remaining.length
decreasing_by exact Pass.length_waiting_lt _h

/-- The declarations of all types that were referenced, by name and in the order of declaration. -/
def renderDeclarations (t : Target) (m : Model) : Step (Dict String String) := do
  -- declaring types derives no others, so all candidates are known by now
  t.declareRounds m ((← get).candidates m) .empty

/-- The models module: the named declarations between prologue and epilogue. -/
def renderModels (t : Target) (declarations : Dict String String) (names : List String) :
    Step String := do
  let parts ← names.mapM fun name =>
    match declarations.get? name with
    | some text => pure text
    | none => Step.fault (.missingKey name)
  return t.modelsPrologue "" ++ "\n\n" ++ String.intercalate "\n\n\n" parts ++ "\n" ++
    t.modelsEpilogue ""

/-- The steps of a pass over a bound model. -/
def generateSteps (t : Target) (m : Model) : Step Sources := do
  Step.report (.generating t.language.name m.methods.size)
  let methods ← t.renderMethods m
  let declarations ← t.renderDeclarations m
  let typeNames := (← get).referencedTypeNames m
  let models ← t.renderModels declarations typeNames
  Step.report (.declared typeNames.length)
  return { methods, models, typeNames }

/-- Generates the sources for a model, with the journal of the pass. -/
def generate (t : Target) (model : Option Model) : Except Failure Sources × Array Event :=
  match model with
  | none => (.error (.fault (.noValue "methods")), #[])
  | some m =>
    let (result, p) := (t.generateSteps m).runFrom (.start t)
    (result, p.journal)

end Target

end SdkGen
