import SdkGen.Proofs.Target.Demands

/-!
# What methods reach

Which types the methods of a model mention, and which derived types they call for, can be said without a pass.
`Target.CallsFor` are the derived types, `Target.Seed` all types that methods reach by themselves.

Main statements: `Target.makes_demands_iff` and `Target.touches_demands_iff`. The demands of rendering all methods
make what the methods call for and touch what the methods reach.
-/

namespace SdkGen

/-- A parameter is passed as a writeable variant: it travels in the body, and there is a variant of its type, which is
no array. -/
def Model.PassesVariant (m : Model) (q : Parameter) (id : TypeId) : Prop :=
  q.location = .body ∧ q.type = some (.named id) ∧ m.HasVariant id

namespace Target

/-- A target passes the parameters of a method in a request type: for TypeScript with request types in use, if two or
more of them may be left out. -/
def Bundles (t : Target) (m : Model) (id : MethodId) : Prop :=
  t.language = .typescript ∧ t.needsRequestTypes = true ∧ 1 < (m.method id).optionalParams.length

/-- The derived types that the methods of a model call for. -/
inductive CallsFor (t : Target) (m : Model) : TypeId → Prop where
  | request {id} :
    id ∈ m.methods.values →
    t.Bundles m id →
    CallsFor t m (.request id)
  | variant {id q x} :
    id ∈ m.methods.values →
    ¬t.Bundles m id →
    q ∈ (m.method id).params →
    m.PassesVariant q x →
    CallsFor t m (.writeable x)

/-- The types that the methods of a model reach by themselves. -/
inductive Seed (t : Target) (m : Model) : TypeId → Prop where
  | answer {id r} :
    id ∈ m.methods.values →
    (m.method id).type = some r →
    Seed t m r.root
  | error {id r} :
    id ∈ m.methods.values →
    some r ∈ (m.method id).errors →
    Seed t m r.root
  | derived {id} :
    t.CallsFor m id →
    Seed t m id
  | parameter {id q r} :
    id ∈ m.methods.values →
    ¬t.Bundles m id →
    q ∈ (m.method id).params →
    q.type = some r →
    (∀ x, ¬m.PassesVariant q x) →
    Seed t m r.root

end Target

namespace Demand

variable {m : Model} {q : Parameter} {x id : TypeId}

/-- A mention demands its root and no other type. -/
lemma exists_touches_ofMention (r : Option TypeRef) :
    (∃ d ∈ ofMention r, d.touches m (some x) = true) ↔ ∃ r', r = some r' ∧ r'.root = x := by
  cases r with
  | none => simp [ofMention, touches]
  | some r => simp [ofMention, touches]

/-- A parameter asks for a derived type just if it is in the body, for the variant of its type. -/
lemma mem_ofParameter_derive_iff :
    .derive id ∈ ofParameter m q ↔
      q.location = .body ∧ ∃ y, q.type = some (.named y) ∧ id = .writeable y := by
  have hm (r : Option TypeRef) : .derive id ∉ ofMention r := by
    cases r <;> simp [ofMention]
  rw [ofParameter]
  cases q.location with
  | body =>
    rw [List.mem_append, or_iff_left (hm _)]
    cases q.type with
    | none => simp [ofVariant]
    | some r => cases r <;> simp [ofVariant]
  | _ => simpa using hm q.type

/-- Declaring a parameter makes the variant that the parameter is passed as, and nothing else. -/
lemma makes_ofParameter_iff :
    .derive id ∈ ofParameter m q ∧ (m.made? id).isSome ↔ ∃ y, m.PassesVariant q y ∧ id = .writeable y := by
  rw [mem_ofParameter_derive_iff]
  constructor
  · rintro ⟨⟨hl, y, hq, rfl⟩, hm⟩
    exact ⟨y, ⟨hl, hq, Model.made?_writeable_isSome_iff.1 hm⟩, rfl⟩
  · rintro ⟨y, ⟨hl, hq, hv⟩, rfl⟩
    exact ⟨⟨hl, y, hq, rfl⟩, Model.made?_writeable_isSome_iff.2 hv⟩

/-- Declaring a parameter touches the variant that it is passed as, or else the root of its type. -/
lemma exists_touches_ofParameter :
    (∃ d ∈ ofParameter m q, d.touches m (some x) = true) ↔
      (∃ y, m.PassesVariant q y ∧ x = .writeable y) ∨
        ∃ r, q.type = some r ∧ (∀ y, ¬m.PassesVariant q y) ∧ r.root = x := by
  have hv (y : TypeId) : (∃ d ∈ ofVariant (some (.named y)), d.touches m (some x) = true) ↔
      x = .writeable y ∧ m.HasVariant y := by
    simp [ofVariant, touches, Model.made?_writeable_isSome_iff]
  rw [ofParameter]
  cases hl : q.location with
  | body =>
    simp only [List.mem_append, or_and_right, exists_or, exists_touches_ofMention]
    cases hq : q.type with
    | none => simp [ofVariant, Model.variant?, Model.PassesVariant, hq]
    | some r =>
      cases r with
      | array e s => simp [ofVariant, Model.variant?, Model.PassesVariant, hq]
      | named y =>
        rw [hv]
        -- with a variant, both demands touch the variant; without one, only the mention touches anything
        by_cases hy : m.HasVariant y
        · obtain ⟨t, ht⟩ := Option.isSome_iff_exists.1 (Model.made?_writeable_isSome_iff.2 hy)
          simp [Model.variant?, ht, Model.PassesVariant, hl, hq, hy, TypeRef.root, eq_comm]
        · have ht : m.made? (.writeable y) = none := by
            simpa [← Model.made?_writeable_isSome_iff] using hy
          simp [Model.variant?, ht, Model.PassesVariant, hq, hy]
  | _ => simp [exists_touches_ofMention, Model.PassesVariant, hl]

end Demand

namespace Target

open Demand

variable {t : Target} {m : Model} {d : Demand} {x : TypeId}

/-- A target bundles the parameters of a method just if it needs request types and the method has
one. -/
lemma bundles_iff {id : MethodId} :
    t.bundles m t.needsRequestTypes id = true ↔ t.Bundles m id := by
  simp [bundles, Bundles, Model.made?_request_isSome_iff]

/-- What declaring a method demands, in any order. -/
lemma mem_methodDemands_iff {id : MethodId} :
    d ∈ t.methodDemands m t.needsRequestTypes id ↔
      d ∈ ofAnswer (m.method id) ∨
      (t.language = .typescript ∧ d ∈ ofRequest t.needsRequestTypes id) ∨
      (¬t.Bundles m id ∧ ∃ q ∈ (m.method id).params, d ∈ ofParameter m q) ∨
      ∃ r ∈ (m.method id).errors, d ∈ ofMention r := by
  have hp : d ∈ t.parameterDemands m t.needsRequestTypes id ↔
      ¬t.Bundles m id ∧ ∃ q ∈ (m.method id).params, d ∈ ofParameter m q := by
    rw [parameterDemands, ← bundles_iff]
    split
    · next h => simp [h]
    · next h => simp [h, List.mem_flatMap, Method.mem_allParams_iff]
  rw [methodDemands, signatureDemands, List.mem_append, List.mem_flatMap]
  cases ht : t.language with
  | python => simp only [List.mem_append, hp, reduceCtorEq, false_and, false_or, or_assoc]
  | typescript =>
    simp only [List.mem_append, hp, true_and, or_assoc, or_left_comm]

/-- What is demanded is demanded by a method of the model. -/
lemma mem_demands_iff :
    d ∈ t.demands m t.needsRequestTypes ↔
      ∃ id ∈ m.methods.values, d ∈ t.methodDemands m t.needsRequestTypes id := by
  simp only [demands, List.mem_flatMap, Model.mem_sortedMethods_iff]

/-- Rendering all methods makes the derived types that they call for. -/
theorem makes_demands_iff : Makes m (t.demands m t.needsRequestTypes) x ↔ t.CallsFor m x := by
  have ha (method : Method) : .derive x ∉ ofAnswer method := by
    rw [ofAnswer]
    split <;> simp [ofMention]
  have he (r : Option TypeRef) : .derive x ∉ ofMention r := by
    cases r <;> simp [ofMention]
  constructor
  · rintro ⟨hd, hm⟩
    obtain ⟨id, hid, hd⟩ := mem_demands_iff.1 hd
    rcases mem_methodDemands_iff.1 hd with hd | ⟨hl, hd⟩ | ⟨hb, q, hq, hd⟩ | ⟨r, _, hd⟩
    · exact absurd hd (ha _)
    · rw [ofRequest] at hd
      split at hd
      · next hw =>
        obtain rfl : x = .request id := by simpa using hd
        exact .request hid ⟨hl, hw, Model.made?_request_isSome_iff.1 hm⟩
      · cases hd
    · obtain ⟨y, hy, rfl⟩ := makes_ofParameter_iff.1 ⟨hd, hm⟩
      exact .variant hid hb hq hy
    · exact absurd hd (he r)
  · intro h
    cases h with
    | @request id hid hb =>
      obtain ⟨hl, hw, hn⟩ := hb
      refine ⟨mem_demands_iff.2 ⟨id, hid, ?_⟩, Model.made?_request_isSome_iff.2 hn⟩
      exact mem_methodDemands_iff.2 (.inr (.inl ⟨hl, by simp [ofRequest, hw]⟩))
    | @variant id q y hid hb hq hy =>
      obtain ⟨hd, hm⟩ := makes_ofParameter_iff.2 ⟨y, hy, rfl⟩
      refine ⟨mem_demands_iff.2 ⟨id, hid, ?_⟩, hm⟩
      exact mem_methodDemands_iff.2 (.inr (.inr (.inl ⟨hb, q, hq, hd⟩)))

/-- Rendering all methods touches the types that they reach by themselves. -/
theorem touches_demands_iff :
    (∃ d ∈ t.demands m t.needsRequestTypes, d.touches m (some x) = true) ↔ t.Seed m x := by
  constructor
  · rintro ⟨d, hd, ht⟩
    obtain ⟨id, hid, hd'⟩ := mem_demands_iff.1 hd
    rcases mem_methodDemands_iff.1 hd' with ha | ⟨hl, hr⟩ | ⟨hb, q, hq, hp⟩ | ⟨r, hr, he⟩
    · rw [ofAnswer] at ha
      split at ha
      · next r hr =>
        obtain ⟨_, ⟨⟩, rfl⟩ := (exists_touches_ofMention (m := m) _).1 ⟨d, ha, ht⟩
        exact .answer hid hr
      · cases ha
    · rw [ofRequest] at hr
      split at hr
      · obtain rfl : d = .derive (.request id) := by simpa using hr
        obtain ⟨rfl, hm⟩ : x = .request id ∧ (m.made? (.request id)).isSome := by
          simpa [touches] using ht
        exact .derived (makes_demands_iff.1 ⟨hd, hm⟩)
      · cases hr
    · rcases exists_touches_ofParameter.1 ⟨d, hp, ht⟩ with ⟨y, hy, rfl⟩ | ⟨r, hr, hn, rfl⟩
      · exact .derived (.variant hid hb hq hy)
      · exact .parameter hid hb hq hr hn
    · obtain ⟨r, rfl, rfl⟩ := (exists_touches_ofMention (m := m) _).1 ⟨d, he, ht⟩
      exact .error hid hr
  · intro h
    cases h with
    | @answer id r hid hr =>
      obtain ⟨d, hd, ht⟩ := (exists_touches_ofMention (m := m) (some r)).2 ⟨r, rfl, rfl⟩
      refine ⟨d, mem_demands_iff.2 ⟨id, hid, mem_methodDemands_iff.2 (.inl ?_)⟩, ht⟩
      simpa [ofAnswer, hr] using hd
    | @error id r hid hr =>
      obtain ⟨d, hd, ht⟩ := (exists_touches_ofMention (m := m) (some r)).2 ⟨r, rfl, rfl⟩
      refine ⟨d, mem_demands_iff.2 ⟨id, hid, mem_methodDemands_iff.2 ?_⟩, ht⟩
      exact .inr (.inr (.inr ⟨_, hr, hd⟩))
    | derived hx =>
      obtain ⟨hd, hm⟩ := makes_demands_iff.2 hx
      exact ⟨_, hd, by simp [touches, hm]⟩
    | @parameter id q r hid hb hq hr hn =>
      obtain ⟨d, hd, ht⟩ := exists_touches_ofParameter.2 (.inr ⟨r, hr, hn, rfl⟩)
      refine ⟨d, mem_demands_iff.2 ⟨id, hid, mem_methodDemands_iff.2 ?_⟩, ht⟩
      exact .inr (.inr (.inl ⟨hb, q, hq, hd⟩))

end Target

end SdkGen
