import Mathlib.Algebra.BigOperators.Group.List.Basic
import Mathlib.Algebra.Ring.Nat
import SdkGen.Proofs.Generate.Closure
import SdkGen.Proofs.Generate.Languages

/-!
# How often types are referenced

References are counted deep inside of what renders texts, and the rounds of declarations go on until nothing new comes
up. All the same, how often a type is referenced can be said without a pass: every method has its share, and so has
every type that is declared, once for each place where it mentions the type.

Main statements: `Target.countP_touches_methodDemands` (the share of a method is what its demands count for) and
`Target.refCount_renderAll`.
-/

namespace SdkGen

instance {m : Model} {id : TypeId} : Decidable (m.HasVariant id) :=
  inferInstanceAs
    (Decidable ((m.declOf id).intrinsic = false ∧ ∃ q ∈ (m.declOf id).properties.values, q.readOnly = true))

instance {t : Target} {m : Model} {id : MethodId} : Decidable (t.Bundles m id) :=
  inferInstanceAs (Decidable
    (t.language = .typescript ∧ t.needsRequestTypes = true ∧ 1 < (m.method id).optionalParams.length))

/-- Under all array layers, a mention, if there is one, is of the type. -/
def TypeRef.mentions (x : TypeId) (r : Option TypeRef) : Bool := r.map TypeRef.root = some x

/-- A grounded mention is of no type that is derived. -/
lemma TypeRef.mentions_eq_false {r : Option TypeRef} {x : TypeId} (h : TypeRef.isGrounded r)
    (hx : x.isDeclared = false) : TypeRef.mentions x r = false := by
  cases r with
  | none => rfl
  | some r =>
    have hdeclared : r.root.isDeclared = true := h
    have hroot : r.root ≠ x := by
      rintro rfl
      rw [hx] at hdeclared
      cases hdeclared
    simp [TypeRef.mentions, hroot]

namespace Model

/-- The writeable variant that a parameter is passed as, if it is passed as one. -/
def passedVariant? (m : Model) (q : Parameter) : Option TypeId :=
  match q.location, q.type with
  | .body, some (.named id) => if m.HasVariant id then some (.writeable id) else none
  | _, _ => none

/-- How often a type is referenced where a parameter is declared: twice if the parameter is passed as this variant, not
at all if it is passed as another one, and else as often as it mentions the type. -/
def parameterShare (m : Model) (x : TypeId) (q : Parameter) : Nat :=
  match m.passedVariant? q with
  | some v => if v = x then 2 else 0
  | none => if TypeRef.mentions x q.type then 1 else 0

/-- How often a type is referenced where a type is declared: once for each property that mentions it. -/
def declarationShare (m : Model) (x id : TypeId) : Nat :=
  (m.declOf id).properties.values.countP fun q => TypeRef.mentions x q.type

variable {m : Model} {q : Parameter}

/-- A parameter that is passed as a variant travels in the body, and its type has the variant. -/
lemma passedVariant?_eq_some_iff {v : TypeId} :
    m.passedVariant? q = some v ↔ ∃ id, m.PassesVariant q id ∧ .writeable id = v := by
  rw [passedVariant?.eq_def]
  simp only [PassesVariant]
  cases q.location with
  | body =>
    cases q.type with
    | none => simp
    | some r => cases r <;> simp [and_assoc]
  | _ => simp

end Model

namespace Target

open Demand

variable {t : Target} {m : Model} {x : TypeId}

/-- How often a type is referenced where a method is rendered: once for the answer and for each error that mentions it,
and for the parameters once for the request type, if they are passed in one, and else as often as each of them has
it. -/
def methodShare (t : Target) (m : Model) (x : TypeId) (id : MethodId) : Nat :=
  (if TypeRef.mentions x (m.method id).type then 1 else 0) +
    (m.method id).errors.countP (TypeRef.mentions x) +
    if t.Bundles m id then if .request id = x then 1 else 0
    else ((m.method id).params.map (m.parameterShare x)).sum

/-- A mention counts once, for its root. -/
lemma countP_touches_ofMention (r : Option TypeRef) :
    (ofMention r).countP (·.touches m (some x)) = if TypeRef.mentions x r then 1 else 0 := by
  cases r with
  | none => rfl
  | some r => simp [ofMention, touches, TypeRef.mentions, List.countP_cons]

/-- Declaring a parameter counts for its share. -/
lemma countP_touches_ofParameter (q : Parameter) :
    (ofParameter m q).countP (·.touches m (some x)) = m.parameterShare x q := by
  rw [ofParameter, Model.parameterShare, Model.passedVariant?.eq_def]
  cases q.location with
  | body =>
    rw [List.countP_append, countP_touches_ofMention]
    cases q.type with
    | none => rfl
    | some r =>
      cases r with
      | array e d => simp [ofVariant, Model.variant?]
      | named id =>
        by_cases hv : m.HasVariant id
        · obtain ⟨d, hd⟩ := Option.isSome_iff_exists.1 (Model.made?_writeable_isSome_iff.2 hv)
          by_cases hx : TypeId.writeable id = x
          · subst hx
            simp [ofVariant, Model.variant?, touches, hd, hv, TypeRef.mentions, TypeRef.root]
          · simp [ofVariant, Model.variant?, touches, hd, hv, TypeRef.mentions, TypeRef.root, hx, Ne.symm hx]
        · have hn : m.made? (.writeable id) = none := by
            simpa [← Model.made?_writeable_isSome_iff] using hv
          simp [ofVariant, Model.variant?, touches, hn, hv]
  | _ => simp [countP_touches_ofMention]

/-- Mentions count as often as the type is among them. -/
lemma countP_touches_flatMap_ofMention (rs : List (Option TypeRef)) :
    (rs.flatMap ofMention).countP (·.touches m (some x)) = rs.countP (TypeRef.mentions x) := by
  induction rs with
  | nil => rfl
  | cons r rs ih =>
    rw [List.flatMap_cons, List.countP_append, List.countP_cons, countP_touches_ofMention, ih, Nat.add_comm]

/-- An answer counts once, for the root of its type. -/
lemma countP_touches_ofAnswer (method : Method) :
    (ofAnswer method).countP (·.touches m (some x)) = if TypeRef.mentions x method.type then 1 else 0 := by
  rw [ofAnswer]
  cases method.type with
  | none => rfl
  | some r => exact countP_touches_ofMention (some r)

/-- Without a request type, the parameters count for their shares, in whatever order they are declared. -/
lemma countP_touches_parameterDemands (id : MethodId) :
    (t.parameterDemands m t.needsRequestTypes id).countP (·.touches m (some x)) =
      if t.Bundles m id then 0 else ((m.method id).params.map (m.parameterShare x)).sum := by
  by_cases hb : t.Bundles m id
  · rw [parameterDemands, if_pos (bundles_iff.2 hb), if_pos hb]
    rfl
  · have hshare : List.countP (·.touches m (some x)) ∘ ofParameter m = m.parameterShare x :=
      funext fun q => countP_touches_ofParameter q
    rw [parameterDemands, if_neg (mt bundles_iff.1 hb), if_neg hb, List.countP_flatMap, hshare]
    exact ((m.method id).allParams_perm.map _).sum_eq

/-- The request type of a method counts once where the parameters are passed in it. -/
lemma countP_touches_ofRequest (ht : t.language = .typescript) (id : MethodId) :
    (ofRequest t.needsRequestTypes id).countP (·.touches m (some x)) =
      if t.Bundles m id then if .request id = x then 1 else 0 else 0 := by
  have hb : t.Bundles m id ↔ t.needsRequestTypes = true ∧ (m.made? (.request id)).isSome := by
    rw [Bundles, Model.made?_request_isSome_iff]
    exact and_iff_right ht
  rw [if_congr hb rfl rfl]
  cases t.needsRequestTypes with
  | false => rfl
  | true =>
    cases hr : m.made? (.request id) <;> simp [ofRequest, touches, List.countP_cons, hr, @eq_comm _ x]

/-- Declaring a method counts for its share. -/
theorem countP_touches_methodDemands (id : MethodId) :
    (t.methodDemands m t.needsRequestTypes id).countP (·.touches m (some x)) = t.methodShare m x id := by
  rw [methodDemands, signatureDemands, List.countP_append, countP_touches_flatMap_ofMention, methodShare]
  cases ht : t.language with
  | python =>
    have hb : ¬t.Bundles m id := fun h => by
      rw [h.1] at ht
      cases ht
    rw [List.countP_append, countP_touches_ofAnswer, countP_touches_parameterDemands, if_neg hb, if_neg hb]
    omega
  | typescript =>
    rw [List.countP_append, List.countP_append, countP_touches_ofAnswer, countP_touches_parameterDemands,
      countP_touches_ofRequest ht]
    split <;> omega

/-- Rendering all methods counts for the shares of all methods. -/
lemma countP_touches_demands :
    (t.demands m t.needsRequestTypes).countP (·.touches m (some x)) =
      (m.methods.values.map (t.methodShare m x)).sum := by
  have hshare : List.countP (·.touches m (some x)) ∘ t.methodDemands m t.needsRequestTypes = t.methodShare m x :=
    funext fun id => countP_touches_methodDemands id
  rw [demands, List.countP_flatMap, hshare]
  exact (m.sortedMethods_perm.map _).sum_eq

/-- The types that are declared count for their shares. -/
lemma countP_mentions (ids : List TypeId) :
    (ids.flatMap fun id => (m.declOf id).mentions).countP (some · = some x) =
      (ids.map (m.declarationShare x)).sum := by
  rw [List.countP_flatMap]
  congr 2
  funext id
  rw [Function.comp_apply, TypeDecl.mentions, List.countP_filterMap, Model.declarationShare]
  apply List.countP_congr
  intro q _
  cases q.type <;> simp [TypeRef.mentions]

section Requests

variable (hg : m.Grounded) {k id : MethodId}

include hg

/-- No declaration in a grounded model mentions a request type. -/
lemma declarationShare_request (id : TypeId) : m.declarationShare (.request k) id = 0 := by
  apply List.countP_eq_zero.2
  intro q hq
  rw [TypeRef.mentions_eq_false (hg.declOf id q hq) rfl]
  exact Bool.false_ne_true

/-- In a grounded model, a request type has a share in its method and in no other one. -/
lemma methodShare_request :
    t.methodShare m (.request k) id = if t.Bundles m id then if id = k then 1 else 0 else 0 := by
  have h := hg.method id
  have herrors : (m.method id).errors.countP (TypeRef.mentions (.request k)) = 0 := by
    apply List.countP_eq_zero.2
    intro r hr
    rw [TypeRef.mentions_eq_false (h.errors r hr) rfl]
    exact Bool.false_ne_true
  have hparams : (m.method id).params.map (m.parameterShare (.request k)) = (m.method id).params.map fun _ => 0 := by
    apply List.map_congr_left
    intro q hq
    rw [Model.parameterShare, TypeRef.mentions_eq_false (h.params q hq) rfl]
    split
    · next v hv =>
      obtain ⟨y, _, rfl⟩ := Model.passedVariant?_eq_some_iff.1 hv
      rfl
    · rfl
  rw [methodShare, TypeRef.mentions_eq_false h.answer rfl, herrors, hparams]
  simp

end Requests

/-- The methods and the declarations of a model without missing types were rendered. Then each type was referenced as
often as it has shares in the methods and in the types that were declared, each of which was declared once. In a
grounded model, this is once for every request type. -/
theorem refCount_renderAll (hm : m.Built) (ht : m.Typed) (t : Target)
    {decls : Dict String String} {p : Pass} (h : (t.renderAll m).runFrom (.start t) = (.ok decls, p)) :
    ∃ ids : List TypeId,
      ids.Nodup ∧ (∀ id, id ∈ ids ↔ id ∈ p.referencedTypes m) ∧
      decls.keys = ids.map (fun id => (m.declOf id).name) ∧
      (∀ x, p.refCount (some (.named x)) =
        (m.methods.values.map (t.methodShare m x)).sum + (ids.map (m.declarationShare x)).sum) ∧
      (∀ element description, p.refCount (some (.array element description)) = 0) ∧
      (m.Grounded → ∀ id ∈ m.methods.values, t.Bundles m id → p.refCount (some (.named (.request id))) = 1) := by
  have hs := Pass.Sound.fresh m t.needsRequestTypes
  obtain ⟨methods, p₁, hmethods, hdecls⟩ := Step.exists_of_runFrom_bind h
  obtain ⟨hserve, _⟩ := serves_renderMethods.of_runFrom hs hmethods
  have hs₁ := hs.serveAll (t.demands m t.needsRequestTypes)
  have ha₁ := Pass.apart_serveAll hs (Pass.apart_fresh m t.needsRequestTypes) (t.demands m t.needsRequestTypes)
  rw [hserve] at hs₁ ha₁
  have ho := hs₁.orderly ha₁ hm.keyed ht
  obtain ⟨ids, decls', p', hloop, hrun⟩ := exists_renderDeclarations (t := t) ho
  rw [hdecls] at hrun
  cases hrun
  have hdecl : ∀ id ∈ ids, p₁.decl m id = m.declOf id := by
    intro id hid
    apply hs₁.decl_of_isCandidate hm.keyed
    apply hs₁.mem_candidates_iff.1
    have hc := (Pass.mem_referencedTypes_iff.1 (hloop.of_mem ho hid).1).1
    rwa [hloop.state_eq ho, Pass.candidates_declareAll] at hc
  have hcount (x : TypeId) : p.refCount (some (.named x)) =
      (m.methods.values.map (t.methodShare m x)).sum + (ids.map (m.declarationShare x)).sum := by
    have hmentions : (ids.flatMap fun id => (p₁.decl m id).mentions) = ids.flatMap fun id => (m.declOf id).mentions :=
      List.flatMap_congr fun id hid => by rw [hdecl id hid]
    show p.counts.get (some x) = _
    rw [hloop.state_eq ho, Pass.counts_declareAll, hmentions, countP_mentions, counts_serveAll hs hserve,
      countP_touches_demands]
    exact congrArg (· + _) (Nat.zero_add _)
  refine ⟨ids, hloop.nodup ho, fun id => hloop.mem_iff ho, ?_, hcount, fun _ _ => rfl, fun hg id hid hb => ?_⟩
  · rw [hloop.keys_eq ho]
    exact List.map_congr_left fun id hid => by rw [hdecl id hid]
  · have hdecls : ids.map (m.declarationShare (.request id)) = ids.map fun _ => 0 :=
      List.map_congr_left fun x _ => declarationShare_request hg x
    have hmethods : (m.methods.values.map (t.methodShare m (.request id))).sum = 1 := by
      rw [List.sum_map_eq_nsmul_single id]
      · rw [List.count_eq_one_of_mem hm.keyed.nodup_methods hid, methodShare_request hg, if_pos hb, if_pos rfl]
        rfl
      · intro k hk _
        rw [methodShare_request hg, if_neg hk, ite_self]
    rw [hcount, hmethods, hdecls]
    simp

/-- The sample with one of its methods. -/
def sampleAlone : Model :=
  { Model.sample with
    methodDecls := #[Model.sampleMethod "add_user"]
    methods := ⟨[("add_user", ⟨0⟩)], by decide⟩ }

/-- The sample with one method is built step by step. -/
lemma built_sampleAlone : sampleAlone.Built := by
  have declared := Model.Built.declare Model.sampleUser (.start ["string"])
  have types := declared.register (n := 1) (t := Model.sampleUser) rfl rfl
  exact @Model.Built.addMethod _ _ (Model.sampleMethod "add_user") _ types rfl

/-- Its methods are methods of the sample. -/
lemma mem_methodDecls_sample {method : Method} (h : method ∈ sampleAlone.methodDecls) :
    method ∈ Model.sample.methodDecls := by
  obtain rfl : method = Model.sampleMethod "add_user" := by simpa [sampleAlone] using h
  simp [Model.sample]

/-- All its properties and parameters have types. -/
lemma typed_sampleAlone : sampleAlone.Typed :=
  ⟨Model.typed_sample.decls, fun method h => Model.typed_sample.methods method (mem_methodDecls_sample h)⟩

/-- It mentions declared types alone. -/
lemma grounded_sampleAlone : sampleAlone.Grounded :=
  ⟨Model.grounded_sample.decls, fun method h => Model.grounded_sample.methods method (mem_methodDecls_sample h)⟩

/-- No names are in each other's way there. -/
lemma not_conflicts_sampleAlone : ¬(standard .typescript).Conflicts sampleAlone := by
  have hbundles : ∀ id ∈ sampleAlone.methods.values, (standard .typescript).Bundles sampleAlone id := by decide
  have honly {x : TypeId} (h : (standard .typescript).CallsFor sampleAlone x) : x = .request ⟨0⟩ := by
    cases h with
    | request hid _ =>
      obtain rfl := List.mem_singleton.1 hid
      rfl
    | variant hid hb _ _ => exact absurd (hbundles _ hid) hb
  apply not_conflicts_iff.2
  constructor
  · intro a ha
    obtain rfl := honly ha
    decide
  · intro a b ha hb _
    rw [honly ha, honly hb]

/-- TypeScript declares the request type of the only method and what that mentions. -/
theorem refCount_renderAll_sample :
    sampleAlone.Built ∧ sampleAlone.Typed ∧ sampleAlone.Grounded ∧
    ∃ decls p, ((standard .typescript).renderAll sampleAlone).runFrom (.start (standard .typescript)) = (.ok decls, p) ∧
    ∃ ids : List TypeId,
      ids.Nodup ∧ (∀ id, id ∈ ids ↔ id ∈ p.referencedTypes sampleAlone) ∧
      decls.keys = ids.map (fun id => (sampleAlone.declOf id).name) ∧
      (∀ x, p.refCount (some (.named x)) =
        (sampleAlone.methods.values.map ((standard .typescript).methodShare sampleAlone x)).sum +
          (ids.map (sampleAlone.declarationShare x)).sum) ∧
      p.refCount (some (.named (.request ⟨0⟩))) = 1 := by
  obtain ⟨decls, p, h⟩ :=
    exists_renderAll built_sampleAlone typed_sampleAlone (by decide) not_conflicts_sampleAlone
  obtain ⟨ids, hnodup, hids, hkeys, hcount, _, hrequest⟩ :=
    refCount_renderAll built_sampleAlone typed_sampleAlone _ h
  exact ⟨built_sampleAlone, typed_sampleAlone, grounded_sampleAlone, decls, p, h, ids, hnodup, hids, hkeys, hcount,
    hrequest grounded_sampleAlone ⟨0⟩ (by decide) (by decide)⟩

end Target
end SdkGen
