import SdkGen.Proofs.Pass.Alike
import SdkGen.Proofs.Pass.Mirror
import SdkGen.Proofs.Target.Demands

/-!
# Texts over models that mirror each other

Over a model and another one that mirrors it, the steps that render a part of the one and the mirrored part of the
other do alike: they give the same text, and passes that mirror each other do so afterwards.

Main statements: `Target.alike_declareDecl` and `Target.alike_renderMethods`.
-/

namespace SdkGen

namespace Step

variable {α β : Type} {σ : Renumbering} {m m' : Model} {wraps : Bool} {s : Step α} {s' : Step β}
  {ds ds' : List Demand} {Q₁ : α → Prop} {Q₂ : β → Prop} {Q : α → β → Prop}

/-- Steps that serve the same demands match, as far as the second one does not fail. -/
lemma Matches.of_gives (hm : m.Mirrors σ m') (hs : s.Gives m wraps ds Q₁)
    (hs' : s'.Gives m' wraps ds' Q₂) (hd : Demand.Mirrors σ m ds ds')
    (hQ : ∀ a b, Q₁ a → Q₂ b → Q a b) : Matches (Pass.Mirrors σ m m' wraps) False s s' Q := by
  intro p p' hp
  have hs' := hs' p' hp.sound'
  rcases he' : Demand.serveAll m' ds' p' with ⟨f | u, p₁'⟩
  · rw [he'] at hs'
    rw [hs']
    exact False.elim
  · rw [he'] at hs'
    obtain ⟨b, hb, hq₂⟩ := hs'
    obtain ⟨p₁, he, hp₁⟩ := hp.serveAll_of_ok hm hd he'
    have hs := hs p hp.sound
    rw [he] at hs
    obtain ⟨a, ha, hq₁⟩ := hs
    rw [hb]
    exact ⟨a, p₁, ha, hQ a b hq₁ hq₂, hp₁⟩

end Step

/-- A method mentions nothing but what a model mentions. -/
structure Method.Within (m : Model) (method : Method) : Prop where
  answer : ∀ r, method.type = some r → m.Mentions r.root
  error : ∀ r, some r ∈ method.errors → m.Mentions r.root
  parameter : ∀ q ∈ method.params, ∀ r, q.type = some r → m.Mentions r.root

/-- A method of a model mentions types within it. -/
lemma Model.within_method {m : Model} {k : MethodId} (hk : k ∈ m.methods.values) : (m.method k).Within m :=
  ⟨fun _ => .answer hk, fun _ => .error hk, fun _ hq _ => .parameter hk hq⟩

namespace Demand

variable {σ : Renumbering} {m m' : Model} {wraps : Bool}

/-- What a mention demands is mirrored. -/
lemma mirrors_ofMention {r : Option TypeRef} (hr : ∀ x, r = some x → m.Knows x.root) :
    Mirrors σ m (ofMention r) (ofMention (r.map (·.rename σ.type))) := by
  cases r with
  | none =>
    refine ⟨fun d hd => ?_, rfl⟩
    rcases List.mem_cons.1 hd with rfl | hd
    · exact nofun
    · obtain rfl := List.mem_singleton.1 hd
      trivial
  | some x =>
    refine ⟨fun d hd => ?_, ?_⟩
    · obtain rfl := List.mem_singleton.1 hd
      rintro id ⟨⟩
      exact hr x rfl
    · simp [ofMention, rename, TypeRef.root_rename]

/-- What asking for a variant demands is mirrored. -/
lemma mirrors_ofVariant {r : Option TypeRef} (hr : ∀ x, r = some x → m.Mentions x.root) :
    Mirrors σ m (ofVariant r) (ofVariant (r.map (·.rename σ.type))) := by
  rcases r with _ | id | _
  · exact .nil
  · refine ⟨fun d hd => ?_, rfl⟩
    obtain rfl := List.mem_singleton.1 hd
    exact .writeable (hr _ rfl)
  · exact .nil

/-- What asking for a request type demands is mirrored. -/
lemma mirrors_ofRequest {k : MethodId} (hk : k ∈ m.methods.values) :
    Mirrors σ m (ofRequest wraps k) (ofRequest wraps (σ.method k)) := by
  cases wraps with
  | false => exact .nil
  | true =>
    refine ⟨fun d hd => ?_, rfl⟩
    obtain rfl := List.mem_singleton.1 hd
    exact .request hk

/-- A parameter is declared with what is known: its type, or the variant of its type. -/
lemma knows_of_variant?_or {r : Option TypeRef} (hr : ∀ x, r = some x → m.Mentions x.root) :
    ∀ x, (m.variant? r).or r = some x → m.Knows x.root := by
  intro x hx
  cases hv : m.variant? r with
  | none =>
    rw [hv, Option.none_or] at hx
    exact .inl (hr x hx)
  | some v =>
    rw [hv, Option.some_or] at hx
    cases hx
    obtain ⟨id, hid, rfl⟩ := Model.of_variant? hv
    exact .inr (.writeable (hr _ hid))

/-- What a parameter demands is mirrored. -/
lemma mirrors_ofParameter (hm : m.Mirrors σ m') {q : Parameter} (hq : ∀ r, q.type = some r → m.Mentions r.root) :
    Mirrors σ m (ofParameter m q) (ofParameter m' (q.rename σ.type)) := by
  simp only [ofParameter, Parameter.rename]
  cases q.location with
  | body =>
    rw [hm.variant? hq, ← Option.map_or]
    exact (mirrors_ofVariant hq).append (mirrors_ofMention (knows_of_variant?_or hq))
  | _ => exact mirrors_ofMention fun r hr => .inl (hq r hr)

/-- What an answer demands is mirrored. -/
lemma mirrors_ofAnswer {method : Method} (hw : method.Within m) :
    Mirrors σ m (ofAnswer method) (ofAnswer (method.rename σ.type)) := by
  simp only [ofAnswer, Method.rename]
  cases hr : method.type with
  | none => exact .nil
  | some r =>
    apply mirrors_ofMention (r := some r)
    rintro x ⟨⟩
    exact .inl (hw.answer r hr)

end Demand

namespace Target

variable {t : Target} {σ : Renumbering} {m m' : Model} {wraps : Bool} {strict : Prop}
  {qualifier indent : String}

section Mapping

variable (hm : m.Mirrors σ m')

include hm

/-- A type and its mirror image are referenced side by side. -/
lemma matches_reference {r : Option TypeRef} (hr : ∀ x, r = some x → m.Knows x.root) :
    Step.Matches (Pass.Mirrors σ m m' wraps) strict (Step.reference r)
      (Step.reference (r.map (·.rename σ.type))) fun _ _ => True := by
  intro p p' hp
  have he : (r.map (·.rename σ.type)).map TypeRef.root = (r.map TypeRef.root).map σ.type := by
    cases r with
    | none => rfl
    | some x => simp [TypeRef.root_rename]
  rw [Step.runFrom_reference, he]
  refine ⟨(), _, Step.runFrom_reference r p, trivial, hp.count hm ?_⟩
  intro id hid
  obtain ⟨x, rfl, rfl⟩ := Option.map_eq_some_iff.1 hid
  exact hr x rfl

/-- A type that is known is written in the same way. -/
lemma alike_typeMapRef {r : TypeRef} (hr : m.Knows r.root) :
    Step.Alike (Pass.Mirrors σ m m' wraps) strict (t.typeMapRef m qualifier r)
      (t.typeMapRef m' qualifier (r.rename σ.type)) := by
  induction r with
  | named id =>
    rw [TypeRef.rename, typeMapRef, typeMapRef]
    apply (matches_reference hm (r := some (.named id)) fun x hx => by cases hx; exact hr).bind
    intro _ _ _
    apply Step.Matches.get_bind
    intro p p' hp
    have hd : (p.decl m id).Mirrors σ (p'.decl m' (σ.type id)) := hp.decl hm hr
    apply Step.Matches.pure
    simp only [spelling, hd.name, hd.intrinsic]
  | array element _ ih =>
    rw [TypeRef.rename, typeMapRef, typeMapRef]
    exact (ih hr).bind fun _ => Step.Alike.pure _

/-- A type and its mirror image are written alike. -/
lemma alike_typeMap {r : Option TypeRef} (hr : ∀ x, r = some x → m.Knows x.root) :
    Step.Alike (Pass.Mirrors σ m m' wraps) strict (t.typeMap m qualifier r)
      (t.typeMap m' qualifier (r.map (·.rename σ.type))) := by
  cases r with
  | some r => exact alike_typeMapRef hm (hr r rfl)
  | none => exact (matches_reference hm (r := none) nofun).bind fun _ _ _ => Step.Matches.fault _

/-- A property and its mirror image are written alike. -/
lemma alike_declareProperty {q : Property} (hq : ∀ r, q.type = some r → m.Knows r.root) :
    Step.Alike (Pass.Mirrors σ m m' wraps) strict (t.declareProperty m indent q)
      (t.declareProperty m' indent (q.rename σ.type)) := by
  rw [declareProperty, declareProperty]
  exact (alike_typeMap hm hq).bind fun _ => Step.Alike.pure _

/-- Types that look the same are declared in the same way, if nothing unknown is mentioned. -/
theorem alike_declareDecl {d d' : TypeDecl} (hd : d.Mirrors σ d')
    (hq : ∀ q ∈ d.properties.values, ∀ r, q.type = some r → m.Knows r.root) :
    Step.Alike (Pass.Mirrors σ m m' wraps) strict (t.declareDecl m indent d) (t.declareDecl m' indent d') := by
  have hs : t.typeSignature indent d' = t.typeSignature indent d := by
    simp only [typeSignature, hd.name, hd.description]
  rw [declareDecl, declareDecl, hd.values, hs]
  apply (Step.Alike.mapM fun q h => alike_declareProperty hm (hq q h)).bind
  exact fun _ => Step.Alike.pure _

/-- The errors of a method and of its mirror image are written alike. -/
lemma alike_errorResponses {method : Method} (hw : method.Within m) :
    Step.Alike (Pass.Mirrors σ m m' wraps) strict (t.errorResponses m qualifier method)
      (t.errorResponses m' qualifier (method.rename σ.type)) := by
  rw [errorResponses, errorResponses]
  have hmap : Step.Alike (Pass.Mirrors σ m m' wraps) strict (method.errors.mapM (t.typeMap m qualifier))
      ((method.rename σ.type).errors.mapM (t.typeMap m' qualifier)) := by
    apply Step.Alike.mapM
    rintro r hr
    apply alike_typeMap hm
    rintro x rfl
    exact .inl (hw.error x hr)
  exact hmap.bind fun _ => Step.Alike.pure _

/-- The calls of a method and of its mirror image are written alike. -/
lemma alike_httpCall {method : Method} (hw : method.Within m) (front : String) :
    Step.Alike (Pass.Mirrors σ m m' wraps) strict (t.httpCall m indent method front)
      (t.httpCall m' indent (method.rename σ.type) front) := by
  have he (errors : String) :
      t.callText indent (method.rename σ.type) front errors = t.callText indent method front errors := by
    simp only [callText, httpArgs, Conventions.httpArgs, Method.queryArgs, Method.bodyArg, Method.headerArgs,
      Method.cookieArgs, Method.argsAt_rename]
    rfl
  rw [httpCall, httpCall]
  apply (alike_errorResponses hm hw).bind
  intro errors
  rw [he]
  exact Step.Alike.pure _

/-- The answers of a method and of its mirror image are written alike. -/
lemma alike_returnType {method : Method} (hw : method.Within m) (nothing : String) :
    Step.Alike (Pass.Mirrors σ m m' wraps) strict (t.returnType m nothing method)
      (t.returnType m' nothing (method.rename σ.type)) := by
  rw [returnType, returnType, Method.rename]
  cases hr : method.type with
  | none => exact Step.Alike.pure nothing
  | some r =>
    apply alike_typeMap hm (r := some r)
    rintro x ⟨⟩
    exact .inl (hw.answer r hr)

end Mapping

section Methods

variable (hm : m.Mirrors σ m')

include hm

/-- The variants of a type and of its mirror image mirror each other. -/
lemma matches_writeableTypeFor {r : Option TypeRef} (hr : ∀ x, r = some x → m.Mentions x.root) :
    Step.Matches (Pass.Mirrors σ m m' wraps) False (Step.writeableTypeFor m r)
      (Step.writeableTypeFor m' (r.map (·.rename σ.type)))
      fun v v' => v = m.variant? r ∧ v' = v.map (·.rename σ.type) := by
  apply Step.Matches.of_gives hm (Step.gives_writeableTypeFor r) (Step.gives_writeableTypeFor _)
    (Demand.mirrors_ofVariant hr)
  rintro _ _ rfl rfl
  exact ⟨rfl, hm.variant? hr⟩

/-- The request types of a method and of its mirror image have one name. -/
lemma alike_requestTypeFor {k : MethodId} (hk : k ∈ m.methods.values) :
    Step.Alike (Pass.Mirrors σ m m' wraps) False (Step.requestTypeFor m k)
      (Step.requestTypeFor m' (σ.method k)) := by
  apply Step.Matches.of_gives hm (Step.gives_requestTypeFor k) (Step.gives_requestTypeFor _)
    (Demand.mirrors_ofRequest hk)
  rintro _ _ rfl rfl
  rw [hm.requestName hk]

/-- A parameter is declared with the same type. -/
lemma matches_parameterType {q : Parameter} (hq : ∀ r, q.type = some r → m.Mentions r.root) :
    Step.Matches (Pass.Mirrors σ m m' wraps) False (parameterType m q) (parameterType m' (q.rename σ.type))
      fun type type' => (∀ r, type = some r → m.Knows r.root) ∧ type' = type.map (·.rename σ.type) := by
  simp only [parameterType, Parameter.rename]
  cases q.location with
  | body =>
    apply (matches_writeableTypeFor hm hq).bind
    rintro v _ ⟨rfl, rfl⟩
    exact Step.Matches.pure ⟨Demand.knows_of_variant?_or hq, Option.map_or.symm⟩
  | _ => exact Step.Matches.pure ⟨fun r hr => .inl (hq r hr), rfl⟩

/-- A parameter and its mirror image are written alike. -/
lemma alike_declareParameter {q : Parameter} (hq : ∀ r, q.type = some r → m.Mentions r.root) :
    Step.Alike (Pass.Mirrors σ m m' wraps) False (t.declareParameter m indent q)
      (t.declareParameter m' indent (q.rename σ.type)) := by
  rw [declareParameter, declareParameter]
  apply (matches_parameterType hm hq).bind
  rintro type _ ⟨ht, rfl⟩
  apply (alike_typeMap hm ht).bind
  exact fun _ => Step.Alike.pure _

/-- Parameters and their mirror images are written alike. -/
lemma alike_declareParameters {params : List Parameter}
    (hq : ∀ q ∈ params, ∀ r, q.type = some r → m.Mentions r.root) :
    Step.Alike (Pass.Mirrors σ m m' wraps) False (t.declareParameters m indent params)
      (t.declareParameters m' indent (params.map (·.rename σ.type))) := by
  rw [declareParameters, declareParameters]
  apply (Step.Alike.mapM fun q h => alike_declareParameter hm (hq q h)).bind
  exact fun _ => Step.Alike.pure _

/-- All parameters of a method and of its mirror image are written alike, in the order of its head.
-/
lemma alike_allParams {method : Method} (hw : method.Within m) :
    Step.Alike (Pass.Mirrors σ m m' wraps) False (t.declareParameters m indent method.allParams)
      (t.declareParameters m' indent (method.rename σ.type).allParams) := by
  rw [Method.allParams_rename]
  exact alike_declareParameters hm fun q hq => hw.parameter q (Method.mem_allParams_iff.1 hq)

/-- The Python heads of a method and of its mirror image are written alike. -/
lemma alike_pythonSignature {method : Method} (hw : method.Within m) :
    Step.Alike (Pass.Mirrors σ m m' wraps) False (t.pythonSignature m indent method)
      (t.pythonSignature m' indent (method.rename σ.type)) := by
  rw [pythonSignature, pythonSignature]
  apply (alike_returnType hm hw "None").bind
  intro returns
  apply (alike_allParams hm hw).bind
  exact fun _ => Step.Alike.pure _

/-- The TypeScript heads of a method and of its mirror image are written alike. -/
lemma alike_typeScriptSignature {method : Method} (hw : method.Within m) (request : Option String) :
    Step.Alike (Pass.Mirrors σ m m' wraps) False (t.typeScriptSignature m indent method request)
      (t.typeScriptSignature m' indent (method.rename σ.type) request) := by
  have hreturns (params : String) : Step.Alike (Pass.Mirrors σ m m' wraps) False
      (do
        let returns ← t.returnType m "void" method
        return TypeScript.methodSignature indent method.name params returns)
      (do
        let returns ← t.returnType m' "void" (method.rename σ.type)
        return TypeScript.methodSignature indent method.name params returns) :=
    (alike_returnType hm hw "void").bind fun _ => Step.Alike.pure _
  cases request with
  | some name => exact (Step.Alike.pure _).bind hreturns
  | none => exact (alike_allParams hm hw).bind hreturns

/-- A method is declared in the same way. -/
lemma alike_declareMethod {k : MethodId} (hk : k ∈ m.methods.values) :
    Step.Alike (Pass.Mirrors σ m m' wraps) False (t.declareMethod m indent k)
      (t.declareMethod m' indent (σ.method k)) := by
  have hw := Model.within_method hk
  rw [declareMethod, declareMethod, hm.method k hk]
  cases t.language with
  | python =>
    apply (alike_pythonSignature hm hw).bind
    intro signature
    apply (alike_httpCall hm hw "").bind
    exact fun _ => Step.Alike.pure _
  | typescript =>
    apply (alike_requestTypeFor hm hk).bind
    intro request
    apply (alike_typeScriptSignature hm hw request).bind
    intro signature
    apply (alike_httpCall hm hw _).bind
    exact fun _ => Step.Alike.pure _

/-- The methods are rendered in the same way. -/
theorem alike_renderMethods :
    Step.Alike (Pass.Mirrors σ m m' wraps) False (t.renderMethods m) (t.renderMethods m') := by
  rw [renderMethods, renderMethods, hm.sortedMethods]
  apply Step.Matches.get_bind
  intro p p' hp
  simp only [hp.sound.bound, hp.sound'.bound, if_true]
  have hmap : Step.Alike (Pass.Mirrors σ m m' wraps) False
      (m.sortedMethods.mapM (t.declareMethod m (t.bumper "")))
      ((m.sortedMethods.map σ.method).mapM (t.declareMethod m' (t.bumper ""))) :=
    Step.Alike.mapM fun k hk => alike_declareMethod hm (Model.mem_sortedMethods_iff.1 hk)
  exact hmap.bind fun _ => Step.Alike.pure _

/-- What declaring the parameters of a method demands is the same. -/
lemma mirrors_parameterDemands {k : MethodId} (hk : k ∈ m.methods.values) :
    Demand.Mirrors σ m (t.parameterDemands m wraps k) (t.parameterDemands m' wraps (σ.method k)) := by
  have hb : t.bundles m' wraps (σ.method k) = t.bundles m wraps k := by
    have he : (m'.made? (.request (σ.method k))).isSome = _ := TypeDecl.isSome_eq (hm.made? (.request hk))
    simp only [bundles, he]
  rw [parameterDemands, parameterDemands, hb, hm.method k hk, Method.allParams_rename]
  split
  · exact .nil
  · apply Demand.Mirrors.flatMap
    intro q hq
    exact Demand.mirrors_ofParameter hm ((Model.within_method hk).parameter q (Method.mem_allParams_iff.1 hq))

/-- What declaring a method demands is mirrored. -/
lemma mirrors_methodDemands {k : MethodId} (hk : k ∈ m.methods.values) :
    Demand.Mirrors σ m (t.methodDemands m wraps k) (t.methodDemands m' wraps (σ.method k)) := by
  have hw := Model.within_method hk
  have hanswer : Demand.Mirrors σ m (Demand.ofAnswer (m.method k)) (Demand.ofAnswer (m'.method (σ.method k))) :=
    hm.method k hk ▸ Demand.mirrors_ofAnswer hw
  have hsignature : Demand.Mirrors σ m (t.signatureDemands m wraps k) (t.signatureDemands m' wraps (σ.method k)) := by
    have hparameters :
        Demand.Mirrors σ m (t.parameterDemands m wraps k) (t.parameterDemands m' wraps (σ.method k)) :=
      mirrors_parameterDemands hm hk
    rw [signatureDemands, signatureDemands]
    cases t.language with
    | python => exact hanswer.append hparameters
    | typescript => exact (Demand.mirrors_ofRequest hk).append (hparameters.append hanswer)
  apply hsignature.append
  rw [hm.method k hk]
  apply Demand.Mirrors.flatMap
  rintro r hr
  apply Demand.mirrors_ofMention
  rintro x rfl
  exact .inl (hw.error x hr)

/-- Rendering the methods demands the same. -/
theorem mirrors_demands : Demand.Mirrors σ m (t.demands m wraps) (t.demands m' wraps) := by
  rw [demands, demands, hm.sortedMethods]
  exact Demand.Mirrors.flatMap fun k hk => mirrors_methodDemands hm (Model.mem_sortedMethods_iff.1 hk)

end Methods

end Target

end SdkGen
