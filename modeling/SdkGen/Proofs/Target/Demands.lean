import SdkGen.Generate
import SdkGen.Proofs.Pass.Serves

/-!
# What rendering demands

For every step that renders a part of a model, the demands that it serves. They depend on the model, on the language
and on whether request types are in use, and on nothing that was rendered before.

Main statement: `Target.serves_renderMethods`. Rendering all methods of a model serves `Target.demands`, method by
method in the order of their names.
-/

namespace SdkGen

namespace Demand

/-- What mapping a type demands: that it is referenced, and that it is there. -/
def ofMention : Option TypeRef → List Demand
  | some r => [.reference (some r.root)]
  | none => [.reference none, .missing]

/-- What declaring a parameter demands. -/
def ofParameter (m : Model) (q : Parameter) : List Demand :=
  match q.location with
  | .body => ofVariant q.type ++ ofMention ((m.variant? q.type).or q.type)
  | _ => ofMention q.type

/-- What mapping the answer of a method demands. -/
def ofAnswer (method : Method) : List Demand :=
  match method.type with
  | some r => ofMention (some r)
  | none => []

end Demand

namespace Target

open Demand

/-- The target of a language, as it is made without options. -/
def standard (l : Language) : Target :=
  { language := l
    conventions := l.conventions
    codePath := "./"
    package := "sdk"
    needsRequestTypes := l.needsRequestTypes }

variable {t : Target} {m : Model} {wraps : Bool} {qualifier indent : String}

/-- Whether a target passes the parameters of a method in a request type. -/
def bundles (t : Target) (m : Model) (wraps : Bool) (id : MethodId) : Bool :=
  t.language = .typescript ∧ wraps ∧ (m.made? (.request id)).isSome

/-- What declaring the parameters of a method demands, unless they are passed in a request type. -/
def parameterDemands (t : Target) (m : Model) (wraps : Bool) (id : MethodId) : List Demand :=
  if t.bundles m wraps id then [] else (m.method id).allParams.flatMap (ofParameter m)

/-- What the head of a method demands. -/
def signatureDemands (t : Target) (m : Model) (wraps : Bool) (id : MethodId) : List Demand :=
  match t.language with
  | .python => ofAnswer (m.method id) ++ t.parameterDemands m wraps id
  | .typescript => ofRequest wraps id ++ (t.parameterDemands m wraps id ++ ofAnswer (m.method id))

/-- What declaring a method demands. -/
def methodDemands (t : Target) (m : Model) (wraps : Bool) (id : MethodId) : List Demand :=
  t.signatureDemands m wraps id ++ (m.method id).errors.flatMap ofMention

/-- What rendering the methods of a model demands. -/
def demands (t : Target) (m : Model) (wraps : Bool) : List Demand :=
  m.sortedMethods.flatMap (t.methodDemands m wraps)

/-- Whatever text comes out, mapping a type references its root. -/
lemma serves_typeMapRef (r : TypeRef) :
    (t.typeMapRef m qualifier r).Serves m wraps [.reference (some r.root)] := by
  induction r with
  | named id =>
    rw [typeMapRef]
    exact (Step.serves_reference (some (.named id))).bind_get
  | array element _ ih =>
    rw [typeMapRef]
    simpa [TypeRef.root] using ih.map t.sequence

/-- Mapping a type demands what it mentions. -/
lemma serves_typeMap (r : Option TypeRef) :
    (t.typeMap m qualifier r).Serves m wraps (ofMention r) := by
  cases r with
  | some r => exact serves_typeMapRef r
  | none => exact (Step.serves_reference none).bind fun _ => Step.serves_noValue

/-- Mapping a type to its plain name demands what it mentions. -/
lemma serves_plainTypeMap (r : Option TypeRef) :
    (plainTypeMap m r).Serves m wraps (ofMention r) := by
  cases r with
  | some r =>
    exact (Step.serves_reference (some r)).bind_get
  | none => exact (Step.serves_reference none).bind fun _ => Step.serves_noValue

/-- Declaring a parameter demands its type, or the variant of it. -/
lemma serves_declareParameter (q : Parameter) :
    (t.declareParameter m indent q).Serves m wraps (ofParameter m q) := by
  have hm (type : Option TypeRef) :
      (t.parameterText indent q <$> t.typeMap m modelsQualifier type).Serves m wraps (ofMention type) :=
    (serves_typeMap type).map _
  rw [declareParameter, parameterType, ofParameter]
  cases q.location with
  | body =>
    simp only [← map_eq_pure_bind, bind_map_left]
    apply (Step.gives_writeableTypeFor q.type).bind
    rintro v rfl
    exact hm _
  | _ => simpa using hm q.type

/-- Declaring parameters demands what each of them demands. -/
lemma serves_declareParameters (params : List Parameter) :
    (t.declareParameters m indent params).Serves m wraps (params.flatMap (ofParameter m)) := by
  rw [declareParameters, ← map_eq_pure_bind]
  exact (Step.Serves.mapM fun q _ => serves_declareParameter q).map _

/-- Declaring a property demands its type. -/
lemma serves_declareProperty (q : Property) :
    (t.declareProperty m indent q).Serves m wraps (ofMention q.type) := by
  rw [declareProperty, ← map_eq_pure_bind]
  exact (serves_typeMap q.type).map _

/-- Declaring a type demands what its properties mention. -/
lemma serves_declareDecl (d : TypeDecl) :
    (t.declareDecl m indent d).Serves m wraps (d.properties.values.flatMap fun q => ofMention q.type) := by
  rw [declareDecl, ← map_eq_pure_bind]
  exact (Step.Serves.mapM fun q _ => serves_declareProperty q).map _

/-- Mapping the answer of a method demands its type, if there is one. -/
lemma serves_returnType (nothing : String) (method : Method) :
    (t.returnType m nothing method).Serves m wraps (ofAnswer method) := by
  rw [returnType, ofAnswer]
  cases method.type with
  | none => exact Step.Serves.pure nothing
  | some r => exact serves_typeMap (some r)

/-- Mapping the errors of a method demands their types. -/
lemma serves_errorResponses (method : Method) :
    (t.errorResponses m qualifier method).Serves m wraps (method.errors.flatMap ofMention) := by
  rw [errorResponses, ← map_eq_pure_bind]
  exact (Step.Serves.mapM fun r _ => serves_typeMap r).map _

/-- The call of a method demands the types of its errors. -/
lemma serves_httpCall (method : Method) (front : String) :
    (t.httpCall m indent method front).Serves m wraps (method.errors.flatMap ofMention) := by
  rw [httpCall, ← map_eq_pure_bind]
  exact (serves_errorResponses method).map _

/-- The head of a Python method demands the answer and then the parameters. -/
lemma serves_pythonSignature (method : Method) :
    (t.pythonSignature m indent method).Serves m wraps
      (ofAnswer method ++ method.allParams.flatMap (ofParameter m)) := by
  rw [pythonSignature]
  apply (serves_returnType "None" method).bind
  intro returns
  rw [← map_eq_pure_bind]
  exact (serves_declareParameters _).map _

/-- The head of a TypeScript method demands the parameters, unless there is a request type, and then the answer. -/
lemma serves_typeScriptSignature (method : Method) (request : Option String) :
    (t.typeScriptSignature m indent method request).Serves m wraps
      ((if request.isSome then [] else method.allParams.flatMap (ofParameter m)) ++ ofAnswer method) := by
  have hr (params : String) : (do
      let returns ← t.returnType m "void" method
      return TypeScript.methodSignature indent method.name params returns).Serves m wraps
        (ofAnswer method) := by
    rw [← map_eq_pure_bind]
    exact (serves_returnType "void" method).map _
  cases request with
  | some name => exact (Step.Serves.pure _).bind hr
  | none => exact (serves_declareParameters _).bind hr

/-- Python methods demand all their parameters. -/
lemma parameterDemands_of_python (ht : t.language = .python) (id : MethodId) :
    t.parameterDemands m wraps id = (m.method id).allParams.flatMap (ofParameter m) := by
  simp [parameterDemands, bundles, ht]

/-- TypeScript methods demand their parameters unless there is a request type. -/
lemma parameterDemands_of_typescript (ht : t.language = .typescript) (id : MethodId) :
    t.parameterDemands m wraps id =
      if (if wraps then (m.made? (.request id)).map (·.name) else none).isSome then []
      else (m.method id).allParams.flatMap (ofParameter m) := by
  cases wraps <;> simp [parameterDemands, bundles, ht]

/-- The head of a method demands what its language makes of it. -/
lemma serves_methodSignature (id : MethodId) :
    (t.methodSignature m indent id).Serves m wraps (t.signatureDemands m wraps id) := by
  rw [methodSignature, signatureDemands]
  cases ht : t.language with
  | python =>
    exact parameterDemands_of_python ht id ▸ serves_pythonSignature _
  | typescript =>
    apply (Step.gives_requestTypeFor id).bind
    rintro request rfl
    exact parameterDemands_of_typescript ht id ▸ serves_typeScriptSignature _ _

/-- Declaring a method demands what its head demands, and then its errors. -/
lemma serves_declareMethod (id : MethodId) :
    (t.declareMethod m indent id).Serves m wraps (t.methodDemands m wraps id) := by
  rw [declareMethod, methodDemands, signatureDemands]
  cases ht : t.language with
  | python =>
    rw [parameterDemands_of_python ht]
    apply (serves_pythonSignature _).bind
    intro signature
    simpa using (serves_httpCall _ _).map _
  | typescript =>
    simp only [List.append_assoc]
    apply (Step.gives_requestTypeFor id).bind
    rintro request rfl
    rw [parameterDemands_of_typescript ht, ← List.append_assoc]
    apply (serves_typeScriptSignature _ _).bind
    intro signature
    simpa using (serves_httpCall _ _).map _

/-- Rendering all methods demands what each of them demands, in the order of their names. -/
theorem serves_renderMethods : (t.renderMethods m).Serves m wraps (t.demands m wraps) := by
  rw [renderMethods]
  apply Step.Gives.get_bind
  intro p hp
  simp only [hp.bound, if_true]
  rw [← map_eq_pure_bind]
  exact (Step.Serves.mapM fun id _ => serves_declareMethod id).map _

end Target
end SdkGen
