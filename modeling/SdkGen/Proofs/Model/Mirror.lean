import SdkGen.Model.Rename
import SdkGen.Proofs.Model.Rules

/-!
# Models that mirror each other

Where a type or a method stands in a model is a matter of how the model was filled. A model mirrors another one if it
holds what that one holds under other numbers, in any order, and perhaps more. What the rules make of the one model
they make of the other one too.

Main statements: `Model.Mirrors.made?` (the rules make mirrored types from mirrored ones) and
`Model.Mirrors.sortedMethods` (methods are taken in the same order).
-/

namespace SdkGen

/-- Other numbers for declared types and for methods. -/
structure Renumbering where
  /-- The number of a declared type. -/
  declared : Nat → Nat
  /-- The number of a method. -/
  method : MethodId → MethodId
  declared_injective : Function.Injective declared
  method_injective : Function.Injective method

namespace Renumbering

/-- A type under other numbers; a derived type goes with what it is derived from. -/
def type (σ : Renumbering) : TypeId → TypeId
  | .declared n => .declared (σ.declared n)
  | .request k => .request (σ.method k)
  | .writeable x => .writeable (σ.type x)

/-- Different types have different numbers. -/
lemma type_injective (σ : Renumbering) : Function.Injective σ.type := by
  intro a b h
  induction a generalizing b with
  | declared n =>
    cases b <;> simp only [type, TypeId.declared.injEq, reduceCtorEq] at h
    rw [σ.declared_injective h]
  | request k =>
    cases b <;> simp only [type, TypeId.request.injEq, reduceCtorEq] at h
    rw [σ.method_injective h]
  | writeable x ih =>
    cases b <;> simp only [type, TypeId.writeable.injEq, reduceCtorEq] at h
    rw [ih h]

end Renumbering

/-- Two types look the same under other numbers. -/
structure TypeDecl.Mirrors (σ : Renumbering) (t t' : TypeDecl) : Prop where
  name : t'.name = t.name
  properties : t'.properties = t.properties.mapValues (·.rename σ.type)
  description : t'.description = t.description
  intrinsic : t'.intrinsic = t.intrinsic

namespace TypeDecl

variable {σ : Renumbering} {t t' : TypeDecl} {o o' : Option TypeDecl}

/-- A type is mirrored by the type with other numbers in it. -/
lemma mirrors_rename (σ : Renumbering) (t : TypeDecl) : t.Mirrors σ (t.rename σ.type) :=
  ⟨rfl, rfl, rfl, rfl⟩

/-- What is no type is mirrored by what is none. -/
lemma mirrors_default (σ : Renumbering) : (default : TypeDecl).Mirrors σ default :=
  ⟨rfl, rfl, rfl, rfl⟩

/-- What may be a type is mirrored by what may be one. -/
lemma mirrors_getD (h : Option.Rel (Mirrors σ) o o') : (o.getD default).Mirrors σ (o'.getD default) := by
  cases h with
  | some h => exact h
  | none => exact mirrors_default σ

/-- Either nothing is there, or both are there and look the same. -/
lemma rel_cases (h : Option.Rel (Mirrors σ) o o') :
    (o = none ∧ o' = none) ∨ ∃ t t', o = some t ∧ o' = some t' ∧ t.Mirrors σ t' := by
  cases h with
  | none => exact .inl ⟨rfl, rfl⟩
  | some h => exact .inr ⟨_, _, rfl, rfl, h⟩

/-- There is a type on one side just if there is one on the other. -/
lemma isSome_eq (h : Option.Rel (Mirrors σ) o o') : o'.isSome = o.isSome := by
  cases h <;> rfl

namespace Mirrors

/-- The properties on both sides are the same up to numbers. -/
lemma values (h : t.Mirrors σ t') : t'.properties.values = t.properties.values.map (·.rename σ.type) := by
  rw [h.properties, Dict.values_mapValues]

/-- The writeable variants of types that look the same look the same. -/
lemma writeable? (h : t.Mirrors σ t') : Option.Rel (Mirrors σ) t.writeable? t'.writeable? := by
  have hr : t'.readOnlyProperties = t.readOnlyProperties.map (·.rename σ.type) := by
    rw [readOnlyProperties, h.values, List.filter_map]
    rfl
  have he : t'.readOnlyProperties.isEmpty = t.readOnlyProperties.isEmpty := by
    rw [hr, List.isEmpty_map]
  simp only [TypeDecl.writeable?, h.intrinsic, he]
  split
  · exact .none
  · refine .some ⟨?_, ?_, ?_, rfl⟩
    · simp only [writeableName, h.name]
    · simp only [h.values, List.filter_map, List.map_map, Dict.mapValues_ofList]
      rfl
    · simp only [h.name]

end Mirrors

end TypeDecl

namespace Method

variable {F : TypeId → TypeId}

/-- Other numbers leave it to the same parameters to be left out. -/
@[simp] lemma optionalParams_rename (method : Method) :
    (method.rename F).optionalParams = method.optionalParams.map (·.rename F) := by
  simp only [optionalParams, rename, List.filter_map]
  rfl

/-- Other numbers leave the order of declared parameters as it is. -/
@[simp] lemma allParams_rename (method : Method) :
    (method.rename F).allParams = method.allParams.map (·.rename F) := by
  simp only [allParams, requiredParams, optionalParams, rename, List.filter_map, List.map_append]
  rfl

/-- Other numbers leave the names of arguments as they are. -/
@[simp] lemma argsAt_rename (method : Method) (l : Location) : (method.rename F).argsAt l = method.argsAt l := by
  simp only [argsAt, rename, List.filter_map, List.map_map]
  rfl

/-- The request type of a method mentions what the method mentions. -/
lemma requestType?_rename (method : Method) :
    (method.rename F).requestType? = method.requestType?.map (·.rename F) := by
  simp only [requestType?, optionalParams_rename, allParams_rename, List.length_map, List.map_map]
  split
  · rfl
  · simp only [Option.map_some, TypeDecl.rename, Dict.mapValues_ofList, List.map_map]
    rfl

end Method

namespace Model

/-- The types that a model holds, and those that its methods or such types mention. -/
inductive Mentions (m : Model) : TypeId → Prop where
  | type {id} :
    id ∈ m.types.values →
    Mentions m id
  | answer {k r} :
    k ∈ m.methods.values →
    (m.method k).type = some r →
    Mentions m r.root
  | error {k r} :
    k ∈ m.methods.values →
    some r ∈ (m.method k).errors →
    Mentions m r.root
  | parameter {k q r} :
    k ∈ m.methods.values →
    q ∈ (m.method k).params →
    q.type = some r →
    Mentions m r.root
  | property {n q r} :
    Mentions m (.declared n) →
    q ∈ (m.declOf (.declared n)).properties.values →
    q.type = some r →
    Mentions m r.root

/-- The types that are derived from the methods of a model and from types that it mentions. -/
inductive Derives (m : Model) : TypeId → Prop where
  | request {k} :
    k ∈ m.methods.values →
    Derives m (.request k)
  | writeable {id} :
    m.Mentions id →
    Derives m (.writeable id)

/-- A type is mentioned or derived. -/
def Knows (m : Model) (id : TypeId) : Prop := m.Mentions id ∨ m.Derives id

/-- A model holds the methods and the types of another one under other numbers, and in any order. It may hold further
types that the other one does not mention. -/
structure Mirrors (σ : Renumbering) (m m' : Model) : Prop where
  types : ∀ name id, m.types.get? name = some id → m'.types.get? name = some (σ.type id)
  others : ∀ name id, m'.types.get? name = some id → name ∈ m.types.keys ∨ ∀ x, m.Knows x → σ.type x ≠ id
  decls : ∀ n, m.Mentions (.declared n) →
    (m.declOf (.declared n)).Mirrors σ (m'.declOf (.declared (σ.declared n)))
  methods : ∀ name, m'.methods.get? name = (m.methods.get? name).map σ.method
  method : ∀ k ∈ m.methods.values, m'.method (σ.method k) = (m.method k).rename σ.type

variable {σ : Renumbering} {m m' : Model} {id : TypeId}

/-- A derived type mentions nothing but what the model mentions. -/
lemma Derives.mentions (h : m.Derives id) {q : Property} {r : TypeRef}
    (hq : q ∈ (m.declOf id).properties.values) (hr : q.type = some r) : m.Mentions r.root := by
  have hdefault : q ∉ (default : TypeDecl).properties.values := List.not_mem_nil
  cases h with
  | @request k hk =>
    rw [declOf_request] at hq
    cases ht : m.made? (.request k) with
    | none =>
      rw [ht] at hq
      exact absurd hq hdefault
    | some t =>
      rw [ht] at hq
      obtain ⟨p, hp, rfl⟩ := Method.exists_of_mem_requestType? ht hq
      exact .parameter hk hp hr
  | @writeable x hx =>
    rw [declOf_writeable, made?_writeable] at hq
    cases ht : (m.declOf x).writeable? with
    | none =>
      rw [ht] at hq
      exact absurd hq hdefault
    | some t =>
      rw [ht] at hq
      obtain ⟨hq, _⟩ := TypeDecl.of_mem_writeable? ht hq
      cases x with
      | declared n => exact .property hx hq hr
      | request k =>
        rw [declOf_request, writeable?_getD_made?] at ht
        cases ht
      | writeable x =>
        rw [declOf_writeable, writeable?_getD_made?] at ht
        cases ht

namespace Mirrors

/-- The rules make types that look the same. -/
lemma made? (h : m.Mirrors σ m') (hid : m.Derives id) :
    Option.Rel (TypeDecl.Mirrors σ) (m.made? id) (m'.made? (σ.type id)) := by
  cases hid with
  | @request k hk =>
    show Option.Rel _ (m.method k).requestType? (m'.method (σ.method k)).requestType?
    rw [h.method k hk, Method.requestType?_rename]
    cases (m.method k).requestType? with
    | none => exact .none
    | some t => exact .some (TypeDecl.mirrors_rename σ t)
  | @writeable x hx =>
    cases x with
    | declared n =>
      show Option.Rel _ (m.made? (.writeable (.declared n))) (m'.made? (.writeable (.declared (σ.declared n))))
      rw [made?_writeable, made?_writeable]
      rcases TypeDecl.rel_cases (h.decls n hx).writeable? with ⟨e, e'⟩ | ⟨t, t', e, e', ht⟩
      · rw [e, e']
        exact .none
      · rw [e, e']
        exact .some ⟨ht.name, ht.properties, ht.description, ht.intrinsic⟩
    | request _ => exact .none
    | writeable _ => exact .none

/-- Derived types look the same. -/
lemma declOf (h : m.Mirrors σ m') (hid : m.Derives id) :
    (m.declOf id).Mirrors σ (m'.declOf (σ.type id)) := by
  have hm := TypeDecl.mirrors_getD (h.made? hid)
  cases hid with
  | request _ => exact hm
  | writeable _ => exact hm

/-- Derived types are made from sources of the same name. -/
lemma sourceName (h : m.Mirrors σ m') (hid : m.Derives id) (hm : (m.made? id).isSome) :
    m'.sourceName (σ.type id) = m.sourceName id := by
  cases hid with
  | @request k hk =>
    show (m'.method (σ.method k)).name = (m.method k).name
    rw [h.method k hk]
    rfl
  | @writeable x hx =>
    -- only declared types have variants
    cases x with
    | declared n => exact (h.decls n hx).name
    | request _ => cases hm
    | writeable _ => cases hm

/-- What is mentioned has variants that are derived from the same source. -/
lemma variant? (h : m.Mirrors σ m') {r : Option TypeRef} (hr : ∀ x, r = some x → m.Mentions x.root) :
    m'.variant? (r.map (·.rename σ.type)) = (m.variant? r).map (·.rename σ.type) := by
  match r with
  | none => rfl
  | some (.array _ _) => rfl
  | some (.named id) =>
    show (m'.made? (σ.type (.writeable id))).map _ = ((m.made? (.writeable id)).map _).map _
    have hid : m.Mentions id := hr _ rfl
    rcases TypeDecl.rel_cases (h.made? (.writeable hid)) with ⟨e, e'⟩ | ⟨t, t', e, e', _⟩
    · rw [e, e']
      rfl
    · rw [e, e']
      rfl

/-- There is a request type of a mirrored method if there is one of the method, and it has the same name. -/
lemma requestName (h : m.Mirrors σ m') {k : MethodId} (hk : k ∈ m.methods.values) :
    (m'.made? (.request (σ.method k))).map (·.name) = (m.made? (.request k)).map (·.name) := by
  show (m'.method (σ.method k)).requestType?.map _ = (m.method k).requestType?.map _
  rw [h.method k hk, Method.requestType?_rename, Option.map_map]
  rfl

/-- The methods of the one model are those of the other, in some order. -/
lemma methods_perm (h : m.Mirrors σ m') : m'.methods.entries.Perm (m.methods.mapValues σ.method).entries :=
  Dict.entries_perm_of_get?_eq fun name => by rw [h.methods, Dict.get?_mapValues]

/-- There are as many methods. -/
lemma size_methods (h : m.Mirrors σ m') : m'.methods.size = m.methods.size := by
  rw [Dict.size, h.methods_perm.length_eq]
  simp [Dict.mapValues, Dict.size]

/-- Methods are taken in the same order. -/
lemma sortedMethods (h : m.Mirrors σ m') : m'.sortedMethods = m.sortedMethods.map σ.method := by
  have hsorted (l : List (String × MethodId)) :
      (l.mergeSort fun a b => a.1 ≤ b.1).Pairwise fun a b => a.1 ≤ b.1 := pairwise_mergeSort_by_name Prod.fst l
  have hperm : (m'.methods.entries.mergeSort fun a b => a.1 ≤ b.1).Perm
      ((m.methods.entries.mergeSort fun a b => a.1 ≤ b.1).map fun e => (e.1, σ.method e.2)) :=
    (List.mergeSort_perm _ _).trans (h.methods_perm.trans ((List.mergeSort_perm _ _).symm.map _))
  have heq : (m'.methods.entries.mergeSort fun a b => a.1 ≤ b.1) =
      (m.methods.entries.mergeSort fun a b => a.1 ≤ b.1).map fun e => (e.1, σ.method e.2) := by
    refine List.Perm.eq_of_pairwise ?_ (hsorted _) ((hsorted _).map _ fun _ _ h => h) hperm
    -- no two methods go by one name
    intro a b ha hb hab hba
    have ha := List.mem_mergeSort.1 ha
    have hb := List.mem_mergeSort.1 (hperm.mem_iff.2 hb)
    exact List.inj_on_of_nodup_map m'.methods.nodup ha hb (String.le_antisymm hab hba)
  simp only [Model.sortedMethods, heq, List.map_map]
  rfl

end Mirrors

end Model

end SdkGen
