import SdkGen.Proofs.Target.Demands
import SdkGen.Proofs.Target.Texts

/-!
# Texts of methods

A method is written with the types that its model mentions and with what the rules of the model make. Both can be looked
up in the model, if the model is grounded, so the text of a method can be given without a pass, by
`Target.methodText`. The same goes for the declarations of types.

Main statements: `Target.gives_declareMethod` (a method that is rendered in any sound pass gives its text, unless one of
its demands fails) and `Target.runFrom_declareDecl_eq` (so does the declaration of a type, which never fails).
-/

namespace SdkGen

/-- The type that a parameter is declared with: in the body, the writeable variant if the rules make one. -/
def Model.passedType (m : Model) (q : Parameter) : Option TypeRef :=
  match q.location with
  | .body => (m.variant? q.type).or q.type
  | _ => q.type

namespace Target

open Demand

variable {t : Target} {m : Model} {wraps : Bool} {qualifier indent : String}

/-- How a mention of a type in the methods module is written; nothing for none. -/
def methodMention (t : Target) (m : Model) (r : Option TypeRef) : String :=
  r.elim "" (t.mentionText modelsQualifier m.declOf)

/-- The declarations of the parameters of a method. -/
def parametersText (t : Target) (m : Model) (indent : String) (method : Method) : String :=
  String.intercalate t.conventions.paramDelimiter
    (method.allParams.map fun q => t.parameterText indent q (t.methodMention m (m.passedType q)))

/-- The type of the answer of a method, or what stands for none. -/
def answerText (t : Target) (m : Model) (nothing : String) (method : Method) : String :=
  method.type.elim nothing (t.mentionText modelsQualifier m.declOf)

/-- The types of the errors of a method. -/
def errorsText (t : Target) (m : Model) (method : Method) : String :=
  String.intercalate ", " (method.errors.map (t.methodMention m))

/-- The head of a TypeScript method, given the name of its request type, if it takes one. -/
def typeScriptHead (t : Target) (m : Model) (indent : String) (method : Method) (request : Option String) : String :=
  let bump := t.bumper indent
  let params := match request with
    | some name => bump ++ TypeScript.requestArg ++ ": " ++ modelsQualifier ++ TypeScript.interfaceName name
    | none => t.parametersText m bump method
  TypeScript.methodSignature indent method.name params (t.answerText m "void" method)

/-- The declaration of a method. -/
def methodText (t : Target) (m : Model) (wraps : Bool) (indent : String) (id : MethodId) : String :=
  let method := m.method id
  let bump := t.bumper indent
  match t.language with
  | .python =>
    t.commentHeader indent (some (route method)) ++
      Python.methodSignature t indent method.name (t.parametersText m bump method) (t.answerText m "None" method) ++
      t.summary bump (some method.description) ++ t.callText bump method "" (t.errorsText m method)
  | .typescript =>
    let request := if wraps then (m.made? (.request id)).map (·.name) else none
    let front := if request.isSome then TypeScript.requestArg ++ "." else ""
    t.summary indent (some (typeScriptDoc method)) ++ t.typeScriptHead m indent method request ++
      t.callText bump method front (t.errorsText m method) ++ "\n" ++ indent ++ "\x7d"

/-- A mention is written with the declaration of its root. -/
lemma mentionText_congr {look look' : TypeId → TypeDecl} {r : TypeRef} (h : look r.root = look' r.root) :
    t.mentionText qualifier look r = t.mentionText qualifier look' r := by
  induction r with
  | named id => exact congrArg (t.spelling qualifier) h
  | array element _ ih => exact congrArg t.sequence (ih h)

/-- A declared type is declared in every pass as it is in the model. -/
lemma decl_of_isDeclared {id : TypeId} (h : id.isDeclared) (p : Pass) : p.decl m id = m.declOf id := by
  cases id with
  | declared n => rfl
  | request _ => cases h
  | writeable _ => cases h

/-- From a pass that declares a mentioned type as the model does, mapping gives the text by the model. -/
lemma runFrom_typeMap_eq {r : TypeRef} {p : Pass} (h : p.decl m r.root = m.declOf r.root) :
    (t.typeMap m qualifier (some r)).runFrom p =
      (.ok (t.mentionText qualifier m.declOf r), p.count (some r.root)) := by
  rw [← mentionText_congr h]
  exact runFrom_typeMapRef r p

/-- A grounded mention is written as in the model. -/
lemma gives_typeMap {r : Option TypeRef} (h : TypeRef.isGrounded r) :
    (t.typeMap m qualifier r).Gives m wraps (ofMention r)
      (· = r.elim "" (t.mentionText qualifier m.declOf)) := by
  intro p hp
  cases r with
  | none => rfl
  | some r => exact ⟨_, runFrom_typeMap_eq (decl_of_isDeclared h p), rfl⟩

/-- A parameter in the body is written with the variant that was just derived, or else with its type. -/
lemma gives_declareParameter {q : Parameter} (h : TypeRef.isGrounded q.type) :
    (t.declareParameter m indent q).Gives m wraps (ofParameter m q)
      (· = t.parameterText indent q (t.methodMention m (m.passedType q))) := by
  rw [declareParameter, parameterType, ofParameter, Model.passedType]
  cases q.location with
  | body =>
    simp only [← map_eq_pure_bind, bind_map_left]
    intro p hp
    have hv := Step.gives_writeableTypeFor q.type p hp
    have hs := hp.serveAll (ofVariant q.type)
    rw [serveAll_append]
    rcases he : serveAll m (ofVariant q.type) p with ⟨f | u, p₁⟩
    · rw [he] at hv
      exact Step.runFrom_bind_of_error hv
    · rw [he] at hv hs
      obtain ⟨v, hv, rfl⟩ := hv
      rw [Step.runFrom_bind_of_ok hv]
      cases hr : (m.variant? q.type).or q.type with
      | none => rfl
      | some r =>
        have hd : p₁.decl m r.root = m.declOf r.root := by
          rcases Option.or_eq_some_iff.1 hr with hv | ⟨_, hr⟩
          -- the variant was made when it was asked for
          · obtain ⟨id, hid, rfl⟩ := Model.of_variant? hv
            apply hs.decl_of_mem
            apply (mem_derivedTypes_serveAll hp he _).2
            rw [hid] at hv ⊢
            obtain ⟨made, hmade, _⟩ := Option.map_eq_some_iff.1 hv
            exact .inr ⟨List.mem_cons_self, by simp [TypeRef.root, hmade]⟩
          · rw [hr] at h
            exact decl_of_isDeclared h p₁
        refine ⟨_, ?_, rfl⟩
        rw [Step.runFrom_map, runFrom_typeMap_eq hd]
        rfl
  | _ => simpa using (gives_typeMap h).map _ fun _ e => congrArg _ e

/-- Texts of items that are given one after the other are joined. -/
lemma gives_intercalate {ι : Type} {k : ι → Step String} {demands : ι → List Demand} {text : ι → String}
    {l : List ι} (delimiter : String) (hk : ∀ i ∈ l, (k i).Gives m wraps (demands i) (· = text i)) :
    (String.intercalate delimiter <$> l.mapM k).Gives m wraps (l.flatMap demands)
      (· = String.intercalate delimiter (l.map text)) :=
  (Step.Gives.mapM_eq hk).map _ fun _ h => congrArg _ h

/-- Parameters of grounded types are written as in the model. -/
lemma gives_declareParameters {method : Method} (h : method.Grounded) :
    (t.declareParameters m indent method.allParams).Gives m wraps (method.allParams.flatMap (ofParameter m))
      (· = t.parametersText m indent method) := by
  rw [declareParameters, ← map_eq_pure_bind]
  apply gives_intercalate
  exact fun q hq => gives_declareParameter (h.params q (Method.mem_allParams_iff.1 hq))

/-- The answer of a grounded method is written as in the model. -/
lemma gives_returnType {nothing : String} {method : Method} (h : method.Grounded) :
    (t.returnType m nothing method).Gives m wraps (ofAnswer method) (· = t.answerText m nothing method) := by
  have ha := h.answer
  rw [returnType, ofAnswer, answerText]
  cases hr : method.type with
  | none => exact Step.Gives.pure rfl
  | some r =>
    rw [hr] at ha
    exact gives_typeMap ha

/-- The call of a grounded method is written as in the model. -/
lemma gives_httpCall {method : Method} (h : method.Grounded) (front : String) :
    (t.httpCall m indent method front).Gives m wraps (method.errors.flatMap ofMention)
      (· = t.callText indent method front (t.errorsText m method)) := by
  rw [httpCall, errorResponses, ← map_eq_pure_bind, ← map_eq_pure_bind]
  apply (gives_intercalate _ fun r hr => gives_typeMap (h.errors r hr)).map
  rintro _ rfl
  rfl

/-- The head of a grounded Python method is written as in the model. -/
lemma gives_pythonSignature {method : Method} (h : method.Grounded) :
    (t.pythonSignature m indent method).Gives m wraps
      (ofAnswer method ++ method.allParams.flatMap (ofParameter m))
      (· = Python.methodSignature t indent method.name (t.parametersText m (t.bumper indent) method)
        (t.answerText m "None" method)) := by
  rw [pythonSignature]
  apply (gives_returnType h).bind
  rintro _ rfl
  rw [← map_eq_pure_bind]
  exact (gives_declareParameters h).map _ fun _ e => e ▸ rfl

/-- The head of a grounded TypeScript method is written as in the model. -/
lemma gives_typeScriptSignature {method : Method} (h : method.Grounded) (request : Option String) :
    (t.typeScriptSignature m indent method request).Gives m wraps
      ((if request.isSome then [] else method.allParams.flatMap (ofParameter m)) ++ ofAnswer method)
      (· = t.typeScriptHead m indent method request) := by
  have hr (params : String) : (do
      let returns ← t.returnType m "void" method
      return TypeScript.methodSignature indent method.name params returns).Gives m wraps (ofAnswer method)
        (· = TypeScript.methodSignature indent method.name params (t.answerText m "void" method)) := by
    rw [← map_eq_pure_bind]
    exact (gives_returnType h).map _ fun _ e => e ▸ rfl
  cases request with
  | some name =>
    apply Step.Gives.bind (Step.Gives.pure rfl)
    rintro _ rfl
    exact hr _
  | none =>
    apply (gives_declareParameters h).bind
    rintro _ rfl
    exact hr _

/-- A method that is rendered in any sound pass gives its text. -/
theorem gives_declareMethod (hm : m.Grounded) (id : MethodId) :
    (t.declareMethod m indent id).Gives m wraps (t.methodDemands m wraps id)
      (· = t.methodText m wraps indent id) := by
  have h := hm.method id
  rw [declareMethod, methodDemands, signatureDemands, methodText]
  cases ht : t.language with
  | python =>
    rw [parameterDemands_of_python ht]
    apply (gives_pythonSignature h).bind
    rintro _ rfl
    simpa using (gives_httpCall h "").map _ fun _ e => e ▸ rfl
  | typescript =>
    simp only [List.append_assoc]
    apply (Step.gives_requestTypeFor id).bind
    rintro request rfl
    rw [parameterDemands_of_typescript ht, ← List.append_assoc]
    apply (gives_typeScriptSignature h _).bind
    rintro _ rfl
    simpa using (gives_httpCall h _).map _ fun _ e => e ▸ rfl

/-- The declaration of a type is written with the declarations of the types that its properties mention. -/
lemma declText_congr {look look' : TypeId → TypeDecl} {d : TypeDecl}
    (h : ∀ q ∈ d.properties.values, ∀ r, q.type = some r → look r.root = look' r.root) :
    t.declText indent look d = t.declText indent look' d := by
  have hprops : (d.properties.values.map fun q =>
        t.propertyText (t.bumper indent) q (q.type.elim "" (t.mentionText "" look))) =
      d.properties.values.map fun q =>
        t.propertyText (t.bumper indent) q (q.type.elim "" (t.mentionText "" look')) := by
    apply List.map_congr_left
    intro q hq
    cases hr : q.type with
    | none => rfl
    | some r => rw [Option.elim_some, Option.elim_some, mentionText_congr (h q hq r hr)]
  simp only [declText, hprops]

/-- The declaration of a type that is rendered in any pass gives its text. -/
theorem runFrom_declareDecl_eq {d : TypeDecl} (ht : d.Typed) (hg : d.Grounded) (p : Pass) :
    (t.declareDecl m indent d).runFrom p = (.ok (t.declText indent m.declOf d), p.countAll d.mentions) := by
  rw [runFrom_declareDecl ht]
  congr 2
  apply declText_congr
  intro q hq r hr
  have hq := hg q hq
  rw [hr] at hq
  exact decl_of_isDeclared hq p

end Target
end SdkGen
