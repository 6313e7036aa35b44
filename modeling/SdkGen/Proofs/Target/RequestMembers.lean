import SdkGen.Proofs.Generate.Histories
import SdkGen.Proofs.Generate.Seeds

/-!
# Members of request types

What a method takes can be declared in two ways: by the members of its request type, and by parameters of its own. Both
name the same things and mark the same ones as optional. The types are the same, too, except for what is passed as a
writeable variant: a parameter is declared with the variant, the member with the type that it was made from.

Main statement: `Target.requestMembers_agree_iff`. A request type has a member for each parameter, and the types are
the same exactly if the parameter is not passed as a variant.
-/

namespace SdkGen.Target

open Demand

/-- A type is written in both modules alike, but for the qualifier of the models module. -/
def SameButQualifier (member parameter : String) : Prop :=
  parameter = member ∨ parameter = modelsQualifier ++ member

instance {member parameter : String} : Decidable (SameButQualifier member parameter) :=
  inferInstanceAs (Decidable (_ ∨ _))

/-- How the type of a member is written in the models module; nothing for none. -/
def memberMention (t : Target) (m : Model) (r : Option TypeRef) : String :=
  r.elim "" (t.mentionText "" m.declOf)

variable {t : Target} {m : Model} {wraps : Bool} {indent : String}

/-- In TypeScript, a qualifier stands before all that is written of a type, unless the type is built in. -/
lemma mentionText_qualifier (ht : t.language = .typescript) (qualifier : String) (look : TypeId → TypeDecl)
    (r : TypeRef) :
    t.mentionText qualifier look r =
      if (look r.root).intrinsic then t.mentionText "" look r else qualifier ++ t.mentionText "" look r := by
  induction r with
  | named id =>
    simp only [mentionText, spelling, ht, TypeRef.root]
    split
    · rfl
    · simp
  | array element _ ih =>
    simp only [mentionText, sequence, ht, TypeScript.sequence, TypeRef.root] at ih ⊢
    rw [ih]
    split
    · rfl
    · rw [String.append_assoc]

/-- A type that is written without a variant is written alike. -/
lemma sameButQualifier_methodMention (ht : t.language = .typescript) (r : Option TypeRef) :
    SameButQualifier (t.memberMention m r) (t.methodMention m r) := by
  cases r with
  | none => exact .inl rfl
  | some r =>
    rw [memberMention, methodMention, Option.elim_some, Option.elim_some, mentionText_qualifier ht modelsQualifier]
    split
    · exact .inl rfl
    · exact .inr rfl

/-- What is made from a type has a name of its own. -/
lemma name_of_made?_writeable {id : TypeId} {d : TypeDecl} (h : m.made? (.writeable id) = some d) :
    d.name = (m.declOf id).writeableName := by
  rw [Model.made?_writeable] at h
  obtain ⟨made, hmade, rfl⟩ := Option.map_eq_some_iff.1 h
  rw [TypeDecl.writeable?] at hmade
  split at hmade
  · cases hmade
  · cases hmade
    rfl

/-- A variant is written with a longer name than the type that it is made from. -/
lemma not_sameButQualifier_variant (ht : t.language = .typescript) {id : TypeId} (hv : m.HasVariant id) :
    ¬SameButQualifier (t.memberMention m (some (.named id))) (t.methodMention m (some (.named (.writeable id)))) := by
  obtain ⟨d, hd⟩ := Option.isSome_iff_exists.1 (Model.made?_writeable_isSome_iff.2 hv)
  have hmember : t.memberMention m (some (.named id)) = "I" ++ (m.declOf id).name := by
    simp [memberMention, mentionText, spelling, ht, hv.1, TypeScript.interfaceName]
  have hparameter : t.methodMention m (some (.named (.writeable id))) =
      "models." ++ ("I" ++ ("Write" ++ (m.declOf id).name)) := by
    simp [methodMention, mentionText, spelling, ht, Model.declOf_of_made? hd, Model.intrinsic_of_made? hd,
      name_of_made?_writeable hd, TypeDecl.writeableName, TypeScript.interfaceName, modelsQualifier]
  -- the variant adds five characters to the name, and the qualifier accounts for the other seven
  have hlonger : (t.memberMention m (some (.named id))).length + 7 <
      (t.methodMention m (some (.named (.writeable id)))).length := by
    rw [hmember, hparameter]
    simp only [String.length_append]
    have hmodels : "models.".length = 7 := rfl
    have hwrite : "Write".length = 5 := rfl
    omega
  rintro (h | h)
  · rw [h] at hlonger
    omega
  · rw [h, String.length_append] at hlonger
    exact absurd hlonger (Nat.not_lt.2 (Nat.le_of_eq (Nat.add_comm _ _)))

/-- A parameter that is not passed as a variant is passed as its type. -/
lemma passedType_eq {q : Parameter} (h : ∀ x, ¬m.PassesVariant q x) : m.passedType q = q.type := by
  rw [Model.passedType]
  split
  · next hl =>
    have hn : m.variant? q.type = none := by
      apply Option.eq_none_iff_forall_ne_some.2
      intro v hv
      obtain ⟨id, hid, rfl⟩ := Model.of_variant? hv
      rw [hid] at hv
      obtain ⟨d, hd, _⟩ := Option.map_eq_some_iff.1 hv
      exact h id ⟨hl, hid, Model.made?_writeable_isSome_iff.1 (by simp [hd])⟩
    rw [hn, Option.none_or]
  · rfl

/-- Where a variant is passed, it is the type that is passed. -/
lemma passedType_of_passesVariant {q : Parameter} {id : TypeId} (h : m.PassesVariant q id) :
    m.passedType q = some (.named (.writeable id)) := by
  obtain ⟨hl, hq, hv⟩ := h
  obtain ⟨d, hd⟩ := Option.isSome_iff_exists.1 (Model.made?_writeable_isSome_iff.2 hv)
  rw [Model.passedType, hl, hq, Model.variant?, hd]
  rfl

/-- A member and a parameter are written with the same type exactly if the parameter is not passed as a variant. -/
theorem sameButQualifier_iff (ht : t.language = .typescript) (q : Parameter) :
    SameButQualifier (t.memberMention m q.type) (t.methodMention m (m.passedType q)) ↔ ∀ x, ¬m.PassesVariant q x := by
  constructor
  · intro h x hx
    rw [passedType_of_passesVariant hx, hx.2.1] at h
    exact not_sameButQualifier_variant ht hx.2.2 h
  · intro h
    rw [passedType_eq h]
    exact sameButQualifier_methodMention ht q.type

/-- How TypeScript writes a member of a request type, given the type of the member. -/
def memberText (t : Target) (indent : String) (q : Parameter) (type : String) : String :=
  t.commentHeader indent (some q.description) ++ TypeScript.parameter indent q.name type q.nullable

/-- A member of a request type has the name of its parameter, may be left out if the parameter may, and is never only
read. -/
lemma propertyText_toProperty (ht : t.language = .typescript) (q : Parameter) (type : String) :
    t.propertyText indent q.toProperty type = t.memberText indent q type := by
  simp [propertyText, ht, TypeScript.property, TypeScript.parameter, memberText, Parameter.toProperty,
    String.append_assoc]

/-- A property of a grounded type is written as in the model. -/
lemma gives_declareProperty {q : Property} (h : TypeRef.isGrounded q.type) :
    (t.declareProperty m indent q).Gives m wraps (ofMention q.type)
      (· = t.propertyText indent q (t.memberMention m q.type)) := by
  rw [declareProperty, ← map_eq_pure_bind]
  exact (gives_typeMap h).map _ fun _ e => congrArg _ e

/-- A request type that was derived has a member for each parameter. -/
lemma gives_declareType_request (ht : t.language = .typescript) (hg : m.Grounded) {id : MethodId} {d : TypeDecl}
    (hd : m.made? (.request id) = some d) (hn : ((m.method id).params.map (·.name)).Nodup) :
    (t.declareDecl m indent d).Gives m wraps (d.properties.values.flatMap fun q => ofMention q.type)
      (· = t.typeSignature indent d ++
        String.intercalate t.conventions.propDelimiter
          ((m.method id).allParams.map fun q => t.memberText (t.bumper indent) q (t.memberMention m q.type)) ++
        if t.conventions.endTypeStr = "" then "" else "\n" ++ indent ++ t.conventions.endTypeStr) := by
  have hgd : d.Grounded := Model.declOf_of_made? hd ▸ hg.declOf (.request id)
  have hvalues : d.properties.values = (m.method id).allParams.map Parameter.toProperty := by
    rw [Dict.values, Method.entries_of_requestType? hd hn, List.map_map]
    rfl
  rw [declareDecl, ← map_eq_pure_bind]
  refine (Step.Gives.mapM_eq fun q hq => gives_declareProperty (hgd q hq)).map _ ?_
  rintro _ rfl
  rw [hvalues, List.map_map]
  congr 3
  exact List.map_congr_left fun q _ => propertyText_toProperty ht q _

/-- TypeScript writes a request type with a member for each parameter of the method, in the order in which the
parameters are declared, and each member has the name of its parameter and may be left out if the parameter may. The
types are the same exactly if the parameter is not passed as a variant. -/
theorem requestMembers_agree_iff (ht : t.language = .typescript) (hg : m.Grounded) {p p₁ : Pass} (hp : p.Reachable m)
    {id : MethodId} (hid : .request id ∈ p.derivedTypes) (hn : ((m.method id).params.map (·.name)).Nodup)
    {text : String} (h : (t.declareType m indent (.request id)).runFrom p = (.ok text, p₁)) :
    ∃ members : List String,
      text = t.typeSignature indent (m.declOf (.request id)) ++
        String.intercalate t.conventions.propDelimiter members ++
        (if t.conventions.endTypeStr = "" then "" else "\n" ++ indent ++ t.conventions.endTypeStr) ∧
      (m.method id).allParams.Forall₂ (fun q member =>
        ∃ type, member = t.memberText (t.bumper indent) q type ∧
          ∀ p' indent' parameter p₂, p'.Reachable m →
            (t.declareParameter m indent' q).runFrom p' = (.ok parameter, p₂) →
            ∃ type', parameter = TypeScript.parameter indent' q.name type' q.nullable ∧
              (SameButQualifier type type' ↔ ∀ x, ¬m.PassesVariant q x)) members := by
  obtain ⟨wraps, hs, _⟩ := hp.sound_apart
  obtain ⟨d, hk⟩ := Pass.mem_derivedTypes_iff.1 hid
  have hd : m.made? (.request id) = some d := (hs.made _ _ hk).symm
  rw [declareType, Step.runFrom_bind_of_ok (Step.runFrom_get p), Pass.decl_of_kept? hk] at h
  obtain ⟨_, rfl⟩ := (gives_declareType_request ht hg hd hn).of_runFrom hs h
  rw [Model.declOf_of_made? hd]
  refine ⟨_, rfl, List.forall₂_map_right_iff.2 (List.forall₂_same.2 fun q hq => ⟨_, rfl, ?_⟩)⟩
  intro p' indent' parameter p₂ hp' hparameter
  obtain ⟨_, hs', _⟩ := hp'.sound_apart
  have hgrounded := (hg.method id).params q (Method.mem_allParams_iff.1 hq)
  obtain ⟨_, rfl⟩ := (gives_declareParameter hgrounded).of_runFrom hs' hparameter
  exact ⟨_, by rw [parameterText, ht], sameButQualifier_iff ht q⟩

/-- The pass over the sample in which the request type of the first method was asked for. -/
def sampleAsked : Pass := ((Step.requestTypeFor .sample ⟨0⟩).runFrom { needsRequestTypes := true }).2

/-- Asking for the request type leads to this pass. -/
lemma reachable_sampleAsked : sampleAsked.Reachable .sample :=
  (Pass.Reachable.fresh true).use (.requestTypeFor ⟨0⟩)

/-- The request type of the sample, which has a member for the record itself. -/
def sampleRequestText : String :=
  "/**\n * Dynamically generated request type for add_user\n */\nexport interface IRequestAddUser \x7b\n" ++
    "  user: IUser\n  limit?: string\n  page?: string\n\x7d"

/-- The request type of the sample is declared there. -/
lemma declareType_sampleAsked :
    ∃ p₁, ((standard .typescript).declareType .sample "" (.request ⟨0⟩)).runFrom sampleAsked =
      (.ok sampleRequestText, p₁) := ⟨_, rfl⟩

/-- The request type of the sample has a member for each of the three parameters. -/
theorem requestMembers_agree_iff_sample :
    let t := standard .typescript
    t.language = .typescript ∧ Model.sample.Grounded ∧ sampleAsked.Reachable .sample ∧
    .request ⟨0⟩ ∈ sampleAsked.derivedTypes ∧ ((Model.sample.method ⟨0⟩).params.map (·.name)).Nodup ∧
    ∃ p₁, (t.declareType .sample "" (.request ⟨0⟩)).runFrom sampleAsked = (.ok sampleRequestText, p₁) ∧
    ∃ members : List String,
      sampleRequestText = t.typeSignature "" (Model.sample.declOf (.request ⟨0⟩)) ++
        String.intercalate "\n" members ++ "\n\x7d" ∧
      (Model.sample.method ⟨0⟩).allParams.Forall₂ (fun q member =>
        ∃ type, member = t.memberText "  " q type ∧
          ∀ p' indent' parameter p₂, p'.Reachable .sample →
            (t.declareParameter .sample indent' q).runFrom p' = (.ok parameter, p₂) →
            ∃ type', parameter = TypeScript.parameter indent' q.name type' q.nullable ∧
              (SameButQualifier type type' ↔ ∀ x, ¬Model.sample.PassesVariant q x)) members := by
  have hid : .request ⟨0⟩ ∈ sampleAsked.derivedTypes := by decide
  have hn : ((Model.sample.method ⟨0⟩).params.map (·.name)).Nodup := by decide
  obtain ⟨p₁, h⟩ := declareType_sampleAsked
  exact ⟨rfl, Model.grounded_sample, reachable_sampleAsked, hid, hn, p₁, h,
    requestMembers_agree_iff rfl Model.grounded_sample reachable_sampleAsked hid hn h⟩

/-- The parameter of the sample that travels in the body. -/
def sampleBody : Parameter := { name := "user", type := some (.named (.declared 1)), location := .body }

/-- A method that takes its parameters one by one takes the variant of the record. -/
theorem not_requestMembers_agree :
    let t := standard .typescript
    sampleAsked.Reachable .sample ∧ .request ⟨0⟩ ∈ sampleAsked.derivedTypes ∧
    ((Model.sample.method ⟨0⟩).params.map (·.name)).Nodup ∧ sampleBody ∈ (Model.sample.method ⟨0⟩).params ∧
    ((t.declareType .sample "" (.request ⟨0⟩)).runFrom sampleAsked).1 =
      .ok (t.typeSignature "" (Model.sample.declOf (.request ⟨0⟩)) ++
        String.intercalate "\n" ["  user: IUser", "  limit?: string", "  page?: string"] ++ "\n\x7d") ∧
    ((t.declareParameter .sample "  " sampleBody).runFrom sampleAsked).1 = .ok "  user: models.IWriteUser" ∧
    ¬SameButQualifier "IUser" "models.IWriteUser" := by
  refine ⟨reachable_sampleAsked, by decide, by decide, by decide, ?_, ?_, by decide⟩
  · rfl
  · rfl

end SdkGen.Target
