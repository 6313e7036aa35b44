import SdkGen.Pass.Resolve
import SdkGen.Target.Text

/-!
# Declarations

The steps of a pass that declare parameters, properties, types and methods. Whatever writes a type
references it, so that what generated text mentions is declared in the end.
-/

namespace SdkGen.Target

/-- Stands before the types of the models module wherever the methods module mentions them. -/
def modelsQualifier : String := "models."

/-- How a mention of a type is written; the type left under all array layers is referenced once. -/
def typeMapRef (t : Target) (m : Model) (qualifier : String) : TypeRef → Step String
  | .array element _ => do return t.sequence (← t.typeMapRef m qualifier element)
  | .named id => do
    Step.reference (some (.named id))
    return t.spelling qualifier ((← get).decl m id)

/-- How a mention of a type is written. A type that is missing is referenced, too, and fails then. -/
def typeMap (t : Target) (m : Model) (qualifier : String) : Option TypeRef → Step String
  | some r => t.typeMapRef m qualifier r
  | none => do
    Step.reference none
    Step.fault (.noValue "name")

/-- The name of a type in the model, which is referenced. -/
def plainTypeMap (m : Model) : Option TypeRef → Step String
  | some r => do
    Step.reference (some r)
    return (← get).typeName m r
  | none => do
    Step.reference none
    Step.fault (.noValue "name")

/-- The type that a parameter is declared with: in the body, the writeable variant if there is one. -/
def parameterType (m : Model) (p : Parameter) : Step (Option TypeRef) :=
  match p.location with
  | .body => do return (← Step.writeableTypeFor m p.type).or p.type
  | _ => pure p.type

/-- The declaration of a parameter. -/
def declareParameter (t : Target) (m : Model) (indent : String) (p : Parameter) : Step String := do
  let type ← parameterType m p
  return t.parameterText indent p (← t.typeMap m modelsQualifier type)

/-- The declarations of parameters, delimited. -/
def declareParameters (t : Target) (m : Model) (indent : String) (params : List Parameter) :
    Step String := do
  return String.intercalate t.conventions.paramDelimiter
    (← params.mapM (t.declareParameter m indent))

/-- The declaration of a property. -/
def declareProperty (t : Target) (m : Model) (indent : String) (p : Property) : Step String := do
  return t.propertyText indent p (← t.typeMap m "" p.type)

/-- The declaration of a type with the given contents. -/
def declareDecl (t : Target) (m : Model) (indent : String) (d : TypeDecl) : Step String := do
  let props ← d.properties.values.mapM (t.declareProperty m (t.bumper indent))
  let close := t.conventions.endTypeStr
  return t.typeSignature indent d ++ String.intercalate t.conventions.propDelimiter props ++
    (if close = "" then "" else "\n" ++ indent ++ close)

/-- The declaration of a type. -/
def declareType (t : Target) (m : Model) (indent : String) (id : TypeId) : Step String := do
  t.declareDecl m indent ((← get).decl m id)

/-- The types of the errors of a method, delimited. -/
def errorResponses (t : Target) (m : Model) (qualifier : String) (method : Method) :
    Step String := do
  return String.intercalate ", " (← method.errors.mapM (t.typeMap m qualifier))

/-- The transport call of a method. -/
def httpCall (t : Target) (m : Model) (indent : String) (method : Method) (front : String) :
    Step String := do
  return t.callText indent method front (← t.errorResponses m modelsQualifier method)

/-- The type of the answer of a method, or `none` in the words of the language. -/
def returnType (t : Target) (m : Model) (nothing : String) (method : Method) : Step String :=
  match method.type with
  | none => pure nothing
  | some r => t.typeMap m modelsQualifier (some r)

/-- The head of a Python method: the answer is mapped before the parameters. -/
def pythonSignature (t : Target) (m : Model) (indent : String) (method : Method) :
    Step String := do
  let returns ← t.returnType m "None" method
  let params ← t.declareParameters m (t.bumper indent) method.allParams
  return Python.methodSignature t indent method.name params returns

/-- The head of a TypeScript method, which takes a request type if there is one: the parameters are
mapped before the answer. -/
def typeScriptSignature (t : Target) (m : Model) (indent : String) (method : Method)
    (request : Option String) : Step String := do
  let bump := t.bumper indent
  -- behind a request type, no parameter is mapped, so none of their types is referenced here
  let params ← match request with
    | some name =>
      pure (bump ++ TypeScript.requestArg ++ ": " ++ modelsQualifier ++
        TypeScript.interfaceName name)
    | none => t.declareParameters m bump method.allParams
  let returns ← t.returnType m "void" method
  return TypeScript.methodSignature indent method.name params returns

/-- The head of a method. -/
def methodSignature (t : Target) (m : Model) (indent : String) (id : MethodId) : Step String := do
  match t.language with
  | .python => t.pythonSignature m indent (m.method id)
  | .typescript =>
    let request ← Step.requestTypeFor m id
    t.typeScriptSignature m indent (m.method id) request

/-- The documentation of a TypeScript method: its description, if it has one, and its route. -/
def typeScriptDoc (method : Method) : String :=
  if method.description = "" then route method
  else method.description ++ "\n\n" ++ route method

/-- The declaration of a method. With a request type, every argument is a member of the request,
path arguments included. -/
def declareMethod (t : Target) (m : Model) (indent : String) (id : MethodId) : Step String := do
  let method := m.method id
  let bump := t.bumper indent
  match t.language with
  | .python =>
    let signature ← t.pythonSignature m indent method
    let call ← t.httpCall m bump method ""
    return t.commentHeader indent (some (route method)) ++ signature ++
      t.summary bump (some method.description) ++ call
  | .typescript =>
    let request ← Step.requestTypeFor m id
    -- whoever asks for the request type references it, so the signature is given what was found
    let front := if request.isSome then TypeScript.requestArg ++ "." else ""
    let signature ← t.typeScriptSignature m indent method request
    let call ← t.httpCall m bump method front
    return t.summary indent (some (typeScriptDoc method)) ++ signature ++ call ++ "\n" ++ indent ++
      "\x7d"

end SdkGen.Target
