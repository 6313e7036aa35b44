import SdkGen.Model.Derived
import SdkGen.Proofs.Model.Built

/-!
# What the rules of a model make

Which types can be derived from a model, and how they are declared, is a matter of the model alone. `Model.made?`
gives what the rules make for an identity and `Model.declOf` the declaration that an identity stands for, so
statements about passes can speak of types without a pass.

Main statements: `made?_request_isSome_iff` and `made?_writeable_isSome_iff` say for which methods and types
there is something to make; `readOnlyProperties_of_made?` says that nothing is made from what was made.
-/

namespace SdkGen

/-- A type has the same properties that can only be read, whatever it shares with another one. -/
@[simp] lemma TypeDecl.readOnlyProperties_sharing (t source : TypeDecl) (id : TypeId) :
    (t.sharing id source).readOnlyProperties = t.readOnlyProperties := rfl

/-- Every property of a type has a type. -/
def TypeDecl.Typed (t : TypeDecl) : Prop := ∀ q ∈ t.properties.values, q.type.isSome

/-- Every parameter of a method has a type. -/
def Method.Typed (method : Method) : Prop := ∀ q ∈ method.params, q.type.isSome

instance (t : TypeDecl) : Decidable t.Typed :=
  inferInstanceAs (Decidable (∀ q ∈ t.properties.values, q.type.isSome))

instance (method : Method) : Decidable method.Typed :=
  inferInstanceAs (Decidable (∀ q ∈ method.params, q.type.isSome))

/-- Whether a type is a declared one. -/
def TypeId.isDeclared : TypeId → Bool
  | .declared _ => true
  | _ => false

/-- Whether a mention, if there is one, is of a declared type. -/
def TypeRef.isGrounded (r : Option TypeRef) : Bool := r.all fun x => x.root.isDeclared

/-- All properties of a type mention declared types. -/
def TypeDecl.Grounded (t : TypeDecl) : Prop := ∀ q ∈ t.properties.values, TypeRef.isGrounded q.type

/-- All parameters of a method, its answer and its errors mention declared types. -/
structure Method.Grounded (method : Method) : Prop where
  params : ∀ q ∈ method.params, TypeRef.isGrounded q.type
  answer : TypeRef.isGrounded method.type
  errors : ∀ r ∈ method.errors, TypeRef.isGrounded r

/-- All parameters are the parameters, in another order. -/
lemma Method.allParams_perm (method : Method) : method.allParams.Perm method.params := by
  simpa [allParams, requiredParams, optionalParams] using List.filter_append_perm (fun q => !q.nullable) method.params

/-- Required or not, every parameter is among all. -/
lemma Method.mem_allParams_iff {method : Method} {q : Parameter} : q ∈ method.allParams ↔ q ∈ method.params :=
  method.allParams_perm.mem_iff

/-- The properties of a request type are the parameters of the method. -/
lemma Method.exists_of_mem_requestType? {method : Method} {t : TypeDecl} {q : Property}
    (h : method.requestType? = some t) (hq : q ∈ t.properties.values) :
    ∃ p ∈ method.params, p.toProperty = q := by
  simp only [requestType?] at h
  split at h
  · cases h
  · cases h
    have hq := Dict.mem_values_ofList hq
    simp only [List.map_map, List.mem_map, mem_allParams_iff] at hq
    obtain ⟨p, hp, rfl⟩ := hq
    exact ⟨p, hp, rfl⟩

/-- If no two parameters have one name, then each of them has its property of a request type, under its name. -/
lemma Method.entries_of_requestType? {method : Method} {t : TypeDecl} (h : method.requestType? = some t)
    (hn : (method.params.map (·.name)).Nodup) :
    t.properties.entries = method.allParams.map fun q => (q.name, q.toProperty) := by
  simp only [requestType?] at h
  split at h
  · cases h
  · cases h
    apply Dict.entries_ofList
    rw [List.map_map]
    exact (method.allParams_perm.map _).nodup_iff.2 hn

/-- The properties of a writeable variant are those of the type that are not only read. -/
lemma TypeDecl.of_mem_writeable? {source t : TypeDecl} {q : Property} (h : source.writeable? = some t)
    (hq : q ∈ t.properties.values) : q ∈ source.properties.values ∧ q.readOnly = false := by
  simp only [writeable?] at h
  split at h
  · cases h
  · cases h
    have hq := Dict.mem_values_ofList hq
    simp only [List.map_map, List.mem_map, List.mem_filter] at hq
    obtain ⟨p, ⟨hp, hr⟩, rfl⟩ := hq
    exact ⟨hp, by simpa using hr⟩

/-- A type has no properties that are only ever read if none of its properties is. -/
lemma TypeDecl.readOnlyProperties_eq_nil {t : TypeDecl} (h : ∀ q ∈ t.properties.values, q.readOnly = false) :
    t.readOnlyProperties = [] :=
  List.filter_eq_nil_iff.2 fun q hq => by simp [h q hq]

/-- A request type has no properties that are only ever read. -/
lemma Method.readOnlyProperties_of_requestType? {method : Method} {t : TypeDecl}
    (h : method.requestType? = some t) : t.readOnlyProperties = [] := by
  apply TypeDecl.readOnlyProperties_eq_nil
  intro q hq
  obtain ⟨p, _, rfl⟩ := exists_of_mem_requestType? h hq
  rfl

/-- A writeable variant has no properties that are only ever read. -/
lemma TypeDecl.readOnlyProperties_of_writeable? {source t : TypeDecl}
    (h : source.writeable? = some t) : t.readOnlyProperties = [] :=
  readOnlyProperties_eq_nil fun _ hq => (of_mem_writeable? h hq).2

/-- There is a writeable variant exactly of the types that are not built in and have a property that is only
ever read. -/
lemma TypeDecl.writeable?_isSome_iff {t : TypeDecl} :
    t.writeable?.isSome ↔ t.intrinsic = false ∧ ∃ q ∈ t.properties.values, q.readOnly = true := by
  have hr : t.readOnlyProperties.isEmpty = false ↔ ∃ q ∈ t.properties.values, q.readOnly = true := by
    simp only [readOnlyProperties, List.isEmpty_eq_false_iff_exists_mem, List.mem_filter]
  rw [← hr, writeable?]
  cases t.intrinsic <;> cases t.readOnlyProperties.isEmpty <;> simp

/-- What is sorted by a name ascends by it. -/
lemma pairwise_mergeSort_by_name {α : Type} (name : α → String) (l : List α) :
    (l.mergeSort fun a b => name a ≤ name b).Pairwise fun a b => name a ≤ name b := by
  have h : (l.mergeSort fun a b => name a ≤ name b).Pairwise fun a b => decide (name a ≤ name b) = true :=
    List.pairwise_mergeSort (fun a b c => by simpa using String.le_trans)
      (fun a b => by simpa using String.le_total _ _) l
  simpa using h

/-- What is sorted by a name ascends strictly by it if no name comes twice. -/
lemma pairwise_lt_mergeSort_by_name {α : Type} {name : α → String} {l : List α} (h : (l.map name).Nodup) :
    (l.mergeSort fun a b => name a ≤ name b).Pairwise fun a b => name a < name b := by
  have hdistinct : (l.mergeSort fun a b => name a ≤ name b).Pairwise fun a b => name a ≠ name b :=
    List.pairwise_map.1 (((List.mergeSort_perm l _).map name).nodup_iff.2 h)
  apply ((pairwise_mergeSort_by_name name l).and hdistinct).imp
  rintro a b ⟨hle, hne⟩
  exact String.not_le.1 fun hge => hne (String.le_antisymm hle hge)

namespace Model

/-- The methods of a model in order are the methods of the model. -/
lemma mem_sortedMethods_iff {m : Model} {id : MethodId} : id ∈ m.sortedMethods ↔ id ∈ m.methods.values := by
  simp [sortedMethods, Dict.values]

/-- The methods in the order of their names are the methods of the model. -/
lemma sortedMethods_perm (m : Model) : m.sortedMethods.Perm m.methods.values :=
  (List.mergeSort_perm _ _).map _

/-- What the rules of a model make for an identity; nothing is made for a declared type. -/
def made? (m : Model) : TypeId → Option TypeDecl
  | .declared _ => none
  | .request method => (m.method method).requestType?
  | .writeable (.declared n) =>
    let source := (m.decls[n]?).getD default
    source.writeable?.map (·.sharing (.declared n) source)
  | .writeable _ => none

/-- The writeable variant of what is mentioned, if the rules make one; arrays have none. -/
def variant? (m : Model) : Option TypeRef → Option TypeRef
  | some (.named id) => (m.made? (.writeable id)).map fun _ => .named (.writeable id)
  | _ => none

/-- The declaration that an identity stands for, declared or made by the rules. -/
def declOf (m : Model) : TypeId → TypeDecl
  | .declared n => (m.decls[n]?).getD default
  | id => (m.made? id).getD default

/-- There is a writeable variant of a type: the type is not built in and has a property that is only ever read. -/
def HasVariant (m : Model) (id : TypeId) : Prop :=
  (m.declOf id).intrinsic = false ∧ ∃ q ∈ (m.declOf id).properties.values, q.readOnly = true

/-- The name of the method or the type that an identity is derived from. -/
def sourceName (m : Model) : TypeId → String
  | .declared n => (m.declOf (.declared n)).name
  | .request method => (m.method method).name
  | .writeable source => (m.declOf source).name

variable {m : Model}

/-- A request type is declared as the rules make it. -/
lemma declOf_request (m : Model) (id : MethodId) :
    m.declOf (.request id) = (m.made? (.request id)).getD default := rfl

/-- A writeable variant is declared as the rules make it. -/
lemma declOf_writeable (m : Model) (id : TypeId) :
    m.declOf (.writeable id) = (m.made? (.writeable id)).getD default := rfl

/-- What the rules make is how a derived type is declared. -/
lemma declOf_of_made? {id : TypeId} {t : TypeDecl} (h : m.made? id = some t) : m.declOf id = t := by
  cases id with
  | declared _ => cases h
  | request _ => simp [declOf_request, h]
  | writeable _ => simp [declOf_writeable, h]

/-- What the rules made has no properties that are only ever read. -/
lemma readOnlyProperties_of_made? {id : TypeId} {t : TypeDecl} (h : m.made? id = some t) :
    t.readOnlyProperties = [] := by
  match id with
  | .request _ => exact Method.readOnlyProperties_of_requestType? h
  | .writeable (.declared n) =>
    obtain ⟨t, ht, rfl⟩ := Option.map_eq_some_iff.1 h
    rw [TypeDecl.readOnlyProperties_sharing]
    exact TypeDecl.readOnlyProperties_of_writeable? ht

/-- Nothing is made from what was made, nor from what could not be made. -/
lemma writeable?_getD_made? (m : Model) (id : TypeId) :
    ((m.made? id).getD default).writeable? = none := by
  cases h : m.made? id with
  | none => rfl
  | some t => simp [TypeDecl.writeable?, readOnlyProperties_of_made? h]

/-- The rule for writeable variants, for any type: the variant has the properties that the type has. -/
lemma made?_writeable (m : Model) (id : TypeId) :
    m.made? (.writeable id) = (m.declOf id).writeable?.map (·.sharing id (m.declOf id)) := by
  cases id with
  | declared n => rfl
  | request k =>
    rw [declOf_request, writeable?_getD_made?]
    rfl
  | writeable x =>
    rw [declOf_writeable, writeable?_getD_made?]
    rfl

/-- Only a type that is no array has a writeable variant. -/
lemma of_variant? {r : Option TypeRef} {v : TypeRef} (h : m.variant? r = some v) :
    ∃ id, r = some (.named id) ∧ v = .named (.writeable id) := by
  match r with
  | none => cases h
  | some (.array _ _) => cases h
  | some (.named id) =>
    obtain ⟨_, _, rfl⟩ := Option.map_eq_some_iff.1 h
    exact ⟨id, rfl, rfl⟩

/-- Built-in types are never made. -/
lemma intrinsic_of_made? {id : TypeId} {t : TypeDecl} (h : m.made? id = some t) :
    t.intrinsic = false := by
  match id with
  | .request method =>
    simp only [made?, Method.requestType?] at h
    split at h
    · cases h
    · cases h
      rfl
  | .writeable (.declared n) =>
    obtain ⟨t, ht, rfl⟩ := Option.map_eq_some_iff.1 h
    simp only [TypeDecl.writeable?] at ht
    split at ht
    · cases ht
    · cases ht
      rfl

section Mentions

variable {P : Option TypeRef → Prop} {o : Option TypeDecl}

/-- What holds of the properties of a type, if there is one, holds where there is none. -/
lemma forall_property_getD (h : ∀ t, o = some t → ∀ q ∈ t.properties.values, P q.type) :
    ∀ q ∈ (o.getD default).properties.values, P q.type := by
  cases o with
  | none => exact nofun
  | some t => exact h t rfl

/-- What holds of all methods that were declared, and of none at all, holds of the method of each identity. -/
lemma forall_method {Q : Method → Prop} (hm : ∀ method ∈ m.methodDecls, Q method) (h₀ : Q default) (id : MethodId) :
    Q (m.method id) := by
  rw [Model.method]
  cases h : m.methodDecls[id.index]? with
  | none => exact h₀
  | some method => exact hm method (Array.mem_of_getElem? h)

variable (hd : ∀ t ∈ m.decls, ∀ q ∈ t.properties.values, P q.type)

include hd

/-- What holds of the properties of all declared types holds of those under any number. -/
lemma forall_property_declared (n : Nat) :
    ∀ q ∈ ((m.decls[n]?).getD default).properties.values, P q.type :=
  forall_property_getD fun t h => hd t (Array.mem_of_getElem? h)

variable (hm : ∀ method ∈ m.methodDecls, ∀ q ∈ method.params, P q.type)

include hm

/-- The rules take the types of properties from properties and parameters. -/
lemma forall_property_made? {id : TypeId} {t : TypeDecl} (h : m.made? id = some t) :
    ∀ q ∈ t.properties.values, P q.type := by
  intro q hq
  match id with
  | .request k =>
    obtain ⟨p, hp, rfl⟩ := Method.exists_of_mem_requestType? h hq
    exact forall_method (Q := fun method => ∀ q ∈ method.params, P q.type) hm nofun k p hp
  | .writeable (.declared n) =>
    obtain ⟨t', ht, rfl⟩ := Option.map_eq_some_iff.1 h
    exact forall_property_declared hd n q (TypeDecl.of_mem_writeable? ht hq).1

/-- What holds of the types of all properties and parameters of a model holds of the types of all properties, also of
derived types. -/
theorem forall_property_declOf (id : TypeId) : ∀ q ∈ (m.declOf id).properties.values, P q.type := by
  cases id with
  | declared n => exact forall_property_declared hd n
  | request k => exact forall_property_getD fun t h => forall_property_made? hd hm h
  | writeable source => exact forall_property_getD fun t h => forall_property_made? hd hm h

end Mentions

/-- Every property and every parameter of a model has a type. -/
structure Typed (m : Model) : Prop where
  decls : ∀ t ∈ m.decls, t.Typed
  methods : ∀ method ∈ m.methodDecls, method.Typed

/-- In the sample, every property and every parameter has a type. -/
lemma typed_sample : sample.Typed := ⟨by decide, by decide⟩

/-- The methods of a typed model are typed. -/
lemma Typed.method (hm : m.Typed) (id : MethodId) : (m.method id).Typed :=
  forall_method hm.methods nofun id

/-- In a model with types everywhere, all declarations have types everywhere. -/
lemma Typed.declOf (hm : m.Typed) (id : TypeId) : (m.declOf id).Typed :=
  forall_property_declOf (P := fun r => r.isSome) hm.decls hm.methods id

/-- Every type that a model mentions is a declared one. A model that was there before a pass began cannot mention what
the pass derives. -/
structure Grounded (m : Model) : Prop where
  decls : ∀ t ∈ m.decls, t.Grounded
  methods : ∀ method ∈ m.methodDecls, method.Grounded

/-- The sample mentions declared types only. -/
lemma grounded_sample : sample.Grounded where
  decls := by
    have h : ∀ t ∈ sample.decls, ∀ q ∈ t.properties.values, TypeRef.isGrounded q.type := by decide
    exact h
  methods := by
    have h : ∀ method ∈ sample.methodDecls, (∀ q ∈ method.params, TypeRef.isGrounded q.type) ∧
        TypeRef.isGrounded method.type ∧ ∀ r ∈ method.errors, TypeRef.isGrounded r := by decide
    intro method hmethod
    obtain ⟨hparams, hanswer, herrors⟩ := h method hmethod
    exact ⟨hparams, hanswer, herrors⟩

/-- The methods of a grounded model are grounded. -/
lemma Grounded.method (hm : m.Grounded) (id : MethodId) : (m.method id).Grounded :=
  forall_method hm.methods ⟨nofun, rfl, nofun⟩ id

/-- In a grounded model, derived types mention declared ones, too. -/
lemma Grounded.declOf (hm : m.Grounded) (id : TypeId) : (m.declOf id).Grounded :=
  forall_property_declOf (P := fun r => TypeRef.isGrounded r) hm.decls (fun method h => (hm.methods method h).params) id

/-- There is a request type exactly for the methods with two or more parameters that may be left out. -/
lemma made?_request_isSome_iff {id : MethodId} :
    (m.made? (.request id)).isSome ↔ 1 < (m.method id).optionalParams.length := by
  simp only [made?, Method.requestType?]
  split <;> simp <;> omega

/-- There is a writeable variant exactly of the types that are not built in and have a property that is only
ever read. -/
lemma made?_writeable_isSome_iff {id : TypeId} :
    (m.made? (.writeable id)).isSome ↔ m.HasVariant id := by
  rw [HasVariant]
  cases id with
  | declared n => simp [made?, declOf, TypeDecl.writeable?_isSome_iff]
  | request method =>
    rw [← TypeDecl.writeable?_isSome_iff, declOf_request, writeable?_getD_made?]
    simp [made?]
  | writeable source =>
    rw [← TypeDecl.writeable?_isSome_iff, declOf_writeable, writeable?_getD_made?]
    simp [made?]

/-- Every type of a model is a declared one. -/
lemma Keyed.exists_declared (hm : m.Keyed) {id : TypeId} (h : id ∈ m.types.values) :
    ∃ n, id = .declared n := by
  obtain ⟨name, hn⟩ := Dict.mem_values_iff.1 h
  obtain ⟨n, _, rfl, _⟩ := hm.types name id hn
  exact ⟨n, rfl⟩

/-- The name of a type of the model leads to the type and to no other one. -/
lemma Keyed.get?_eq_some_iff (hm : m.Keyed) {name : String} {id : TypeId} :
    m.types.get? name = some id ↔ id ∈ m.types.values ∧ (m.declOf id).name = name := by
  have h {name id} (h : m.types.get? name = some id) : (m.declOf id).name = name := by
    obtain ⟨n, t, rfl, ht, e⟩ := hm.types name id h
    simpa [declOf, ht] using e
  constructor
  · exact fun hn => ⟨Dict.mem_values_iff.2 ⟨name, hn⟩, h hn⟩
  · rintro ⟨hv, rfl⟩
    obtain ⟨name, hn⟩ := Dict.mem_values_iff.1 hv
    rwa [h hn]

/-- The names that are taken by the types of a model. -/
lemma Keyed.mem_keys_iff (hm : m.Keyed) {name : String} :
    name ∈ m.types.keys ↔ ∃ id ∈ m.types.values, (m.declOf id).name = name := by
  rw [Dict.mem_keys_iff]
  exact exists_congr fun _ => hm.get?_eq_some_iff

/-- No two types of a model have one name. -/
lemma Keyed.eq_of_name_eq (hm : m.Keyed) {a b : TypeId} (ha : a ∈ m.types.values)
    (hb : b ∈ m.types.values) (h : (m.declOf a).name = (m.declOf b).name) : a = b := by
  have ha := hm.get?_eq_some_iff.2 ⟨ha, rfl⟩
  have hb := hm.get?_eq_some_iff.2 ⟨hb, h.symm⟩
  rw [ha] at hb
  exact Option.some.inj hb

/-- No type is listed twice in a model. -/
lemma Keyed.nodup_values (hm : m.Keyed) : m.types.values.Nodup := by
  apply List.Nodup.map_on _ (List.Nodup.of_map _ m.types.nodup)
  rintro ⟨a, x⟩ ha ⟨b, y⟩ hb (rfl : x = y)
  have ha := (hm.get?_eq_some_iff.1 (Dict.get?_eq_some_iff.2 ha)).2
  have hb := (hm.get?_eq_some_iff.1 (Dict.get?_eq_some_iff.2 hb)).2
  rw [← ha, ← hb]

/-- No method is listed twice in a model. -/
lemma Keyed.nodup_methods (hm : m.Keyed) : m.methods.values.Nodup := by
  apply List.Nodup.map_on _ (List.Nodup.of_map _ m.methods.nodup)
  rintro ⟨a, x⟩ ha ⟨b, y⟩ hb (rfl : x = y)
  obtain ⟨method, hx, rfl⟩ := hm.methods a x (Dict.get?_eq_some_iff.2 ha)
  obtain ⟨method', hx', rfl⟩ := hm.methods b x (Dict.get?_eq_some_iff.2 hb)
  rw [hx] at hx'
  cases hx'
  rfl

end Model

end SdkGen
