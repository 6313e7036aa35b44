import SdkGen.Pass.Basic
import SdkGen.Proofs.Model.Rules

/-!
# Changes of a model

A model is filled by calls that may come in any order and go on after a call that was refused: types and methods are
made and added, built-in types are asked for, and properties are added to types. `Model.afterChanges` is the model that
a run of changes leads to.

Main statement: `Model.keepsItsKeys_afterChanges`. Whatever was done to a model, each name leads to the type or the
method of that name and goes on leading there, the names stand in the order in which they first came, and what would
take a name a second time is refused.
-/

namespace SdkGen

/-- A type after properties were added: each name has one property, the last one that was added under it, in the place
of the first one. -/
structure TypeDecl.Gains (t : TypeDecl) (added : List Property) (t' : TypeDecl) : Prop where
  name : t'.name = t.name
  description : t'.description = t.description
  intrinsic : t'.intrinsic = t.intrinsic
  keys : t'.properties.keys = (t.properties.keys ++ added.map (·.name)).eraseDups
  get? : ∀ name, t'.properties.get? name = (added.filter (·.name = name)).getLast?.or (t.properties.get? name)

/-- A type gains the properties that are added to it. -/
lemma TypeDecl.gains_foldl (t : TypeDecl) (added : List Property) : t.Gains added (added.foldl addProperty t) := by
  have hfold : (added.foldl addProperty t).name = t.name ∧ (added.foldl addProperty t).description = t.description ∧
      (added.foldl addProperty t).intrinsic = t.intrinsic ∧
      (added.foldl addProperty t).properties = t.properties.insertMany (added.map fun q => (q.name, q)) := by
    induction added generalizing t with
    | nil => exact ⟨rfl, rfl, rfl, rfl⟩
    | cons q added ih => exact ih (t.addProperty q)
  obtain ⟨hname, hdescription, hintrinsic, hproperties⟩ := hfold
  refine ⟨hname, hdescription, hintrinsic, ?_, fun name => ?_⟩
  · rw [hproperties, Dict.keys_insertMany, List.map_map]
    rfl
  · rw [hproperties, Dict.get?_insertMany, List.filter_map, List.getLast?_map, Option.map_map]
    simp [Function.comp_def]

namespace Model

/-- Adds a type that was declared before, under its name, which must be new. -/
def addDeclared (m : Model) (n : Nat) : Except Fault (TypeId × Model) :=
  match m.decls[n]? with
  | none => .error (.noValue "name")
  | some t =>
    if m.types.contains t.name then .error (.duplicateType t.name)
    else .ok (.declared n, m.register t.name (.declared n))

/-- Puts a method into the model under its name. -/
def registerMethod (m : Model) (name : String) (id : MethodId) : Model :=
  { m with methods := m.methods.insert name id }

/-- Adds a method that was declared before, under its name, which must be new. -/
def addDeclaredMethod (m : Model) (id : MethodId) : Except Fault (MethodId × Model) :=
  match m.methodDecls[id.index]? with
  | none => .error (.noValue "name")
  | some method =>
    if m.methods.contains method.name then .error (.duplicateMethod method.name)
    else .ok (id, m.registerMethod method.name id)

/-- A change of a model. -/
inductive Change where
  /-- A type is made, and no name leads to it. -/
  | declare (t : TypeDecl)
  /-- A method is made, and no name leads to it. -/
  | declareMethod (method : Method)
  /-- A type is made and added. -/
  | addType (t : TypeDecl)
  /-- A type that was made before is added. -/
  | addDeclared (n : Nat)
  /-- A method is made and added. -/
  | addMethod (method : Method)
  /-- A method that was made before is added. -/
  | addDeclaredMethod (id : MethodId)
  /-- The type of a name is asked for. -/
  | intrinsic (name : String)
  /-- A property is added to a type. -/
  | addProperty (id : TypeId) (q : Property)

/-- What a change gives. -/
inductive Given where
  /-- A type. -/
  | type (id : TypeId)
  /-- A method. -/
  | method (id : MethodId)
  /-- A property. -/
  | property (q : Property)
deriving DecidableEq

namespace Change

/-- What a change gives and the model after it, unless it is refused. -/
def apply (m : Model) : Change → Except Fault (Given × Model)
  | declare t => .ok (.type (m.declare t).1, (m.declare t).2)
  | declareMethod method => .ok (.method (m.declareMethod method).1, (m.declareMethod method).2)
  | addType t => (m.addType t).map fun e => (.type e.1, e.2)
  | addDeclared n => (m.addDeclared n).map fun e => (.type e.1, e.2)
  | addMethod method => (m.addMethod method).map fun e => (.method e.1, e.2)
  | addDeclaredMethod id => (m.addDeclaredMethod id).map fun e => (.method e.1, e.2)
  | intrinsic name => .ok (.type (m.intrinsic name).1, (m.intrinsic name).2)
  | addProperty id q => .ok (.property q, m.addProperty id q)

/-- The name of a type that a change adds or asks for. -/
def typeName? (m : Model) : Change → Option String
  | addType t => some t.name
  | addDeclared n => (m.decls[n]?).map (·.name)
  | intrinsic name => some name
  | _ => none

/-- The name of a method that a change adds. -/
def methodName? (m : Model) : Change → Option String
  | addMethod method => some method.name
  | addDeclaredMethod id => (m.methodDecls[id.index]?).map (·.name)
  | _ => none

/-- The property that a change adds to a declared type. -/
def propertyOf? (n : Nat) : Change → Option Property
  | addProperty (.declared k) q => if k = n then some q else none
  | _ => none

end Change

variable {m m' : Model} {n : Nat} {t : TypeDecl} {method : Method} {id : MethodId} {name : String} {c : Change}

/-- What a change gives, or why it is refused. -/
def outcome (m : Model) (c : Change) : Except Fault Given := (c.apply m).map Prod.fst

/-- The model after a change; a change that is refused leaves it as it is. -/
def afterChange (m : Model) (c : Change) : Model :=
  match c.apply m with
  | .ok (_, m') => m'
  | .error _ => m

/-- The model after a run of changes, which goes on after those that are refused. -/
def afterChanges (m : Model) (changes : List Change) : Model := changes.foldl afterChange m

/-- The names of types that a run of changes adds or asks for, one after the other. -/
def typeNames (m : Model) : List Change → List String
  | [] => []
  | c :: changes => (c.typeName? m).toList ++ (m.afterChange c).typeNames changes

/-- The names of methods that a run of changes adds, one after the other. -/
def methodNames (m : Model) : List Change → List String
  | [] => []
  | c :: changes => (c.methodName? m).toList ++ (m.afterChange c).methodNames changes

/-! ## One change -/

/-- A change adds something to a model under a name, unless the name is taken: then it is refused and the model stays as
it is. -/
structure Takes (m : Model) (c : Change) (taken : Prop) (f : Fault) (given : Given) (m' : Model) : Prop where
  refused : taken → m.outcome c = .error f ∧ m.afterChange c = m
  done : ¬taken → m.outcome c = .ok given ∧ m.afterChange c = m'

section Takes

variable {taken : Prop} {f : Fault} {given : Given}

/-- A change that depends on a name alone is refused if the name is taken, and made otherwise. -/
lemma takes_of_apply [Decidable taken] (h : c.apply m = if taken then .error f else .ok (given, m')) :
    m.Takes c taken f given m' where
  refused htaken := by
    rw [outcome, afterChange, h, if_pos htaken]
    exact ⟨rfl, rfl⟩
  done htaken := by
    rw [outcome, afterChange, h, if_neg htaken]
    exact ⟨rfl, rfl⟩

/-- Such a change leaves the model as it was if the name is taken, and changes it otherwise. -/
lemma Takes.afterChange_cases (h : m.Takes c taken f given m') :
    taken ∧ m.afterChange c = m ∨ ¬taken ∧ m.afterChange c = m' := by
  by_cases htaken : taken
  · exact .inl ⟨htaken, (h.refused htaken).2⟩
  · exact .inr ⟨htaken, (h.done htaken).2⟩

end Takes

/-- A declared type is registered unless its name is taken. -/
lemma takes_addDeclared (ht : m.decls[n]? = some t) :
    m.Takes (.addDeclared n) (t.name ∈ m.types.keys) (.duplicateType t.name) (.type (.declared n))
      (m.register t.name (.declared n)) := by
  apply takes_of_apply
  rw [Change.apply, addDeclared, ht]
  simp only [Dict.contains_eq_true_iff]
  split <;> rfl

/-- A new type is declared and registered unless its name is taken. -/
lemma takes_addType (m : Model) (t : TypeDecl) :
    m.Takes (.addType t) (t.name ∈ m.types.keys) (.duplicateType t.name) (.type (.declared m.decls.size))
      ((m.declare t).2.register t.name (.declared m.decls.size)) := by
  apply takes_of_apply
  rw [Change.apply, addType]
  simp only [Dict.contains_eq_true_iff]
  split <;> rfl

/-- A declared method is registered unless its name is taken. -/
lemma takes_addDeclaredMethod (hid : m.methodDecls[id.index]? = some method) :
    m.Takes (.addDeclaredMethod id) (method.name ∈ m.methods.keys) (.duplicateMethod method.name) (.method id)
      (m.registerMethod method.name id) := by
  apply takes_of_apply
  rw [Change.apply, addDeclaredMethod, hid]
  simp only [Dict.contains_eq_true_iff]
  split <;> rfl

/-- A new method is declared and registered unless its name is taken. -/
lemma takes_addMethod (m : Model) (method : Method) :
    m.Takes (.addMethod method) (method.name ∈ m.methods.keys) (.duplicateMethod method.name)
      (.method ⟨m.methodDecls.size⟩) ((m.declareMethod method).2.registerMethod method.name ⟨m.methodDecls.size⟩) := by
  apply takes_of_apply
  rw [Change.apply, addMethod]
  simp only [Dict.contains_eq_true_iff]
  split <;> rfl

/-- Where no type was declared, there is none to register. -/
lemma afterChange_addDeclared_of_none (h : m.decls[n]? = none) : m.afterChange (.addDeclared n) = m := by
  simp [afterChange, Change.apply, addDeclared, h, Except.map]

/-- Where no method was declared, there is none to register. -/
lemma afterChange_addDeclaredMethod_of_none (h : m.methodDecls[id.index]? = none) :
    m.afterChange (.addDeclaredMethod id) = m := by
  simp [afterChange, Change.apply, addDeclaredMethod, h, Except.map]

/-- The type of a name is the one that is there, or else a new one that is built in. -/
structure Asks (m : Model) (name : String) : Prop where
  found : ∀ id, m.types.get? name = some id →
    m.outcome (.intrinsic name) = .ok (.type id) ∧ m.afterChange (.intrinsic name) = m
  made : name ∉ m.types.keys →
    m.outcome (.intrinsic name) = .ok (.type (.declared m.decls.size)) ∧
      m.afterChange (.intrinsic name) =
        (m.declare { name, intrinsic := true }).2.register name (.declared m.decls.size)

/-- Asking for a built-in type gives the one of that name, which is made if there is none. -/
lemma asks (m : Model) (name : String) : m.Asks name where
  found id hid := by
    have hintrinsic : m.intrinsic name = (id, m) := by rw [intrinsic, hid]
    simp [outcome, afterChange, Change.apply, hintrinsic, Except.map]
  made hname := by
    have hintrinsic : m.intrinsic name = (.declared m.decls.size,
        (m.declare { name, intrinsic := true }).2.register name (.declared m.decls.size)) := by
      rw [intrinsic, Dict.get?_eq_none_iff.2 hname]
      rfl
    simp [outcome, afterChange, Change.apply, hintrinsic, Except.map]

/-- Asking for a built-in type changes the model only if there is none of that name. -/
lemma Asks.afterChange_cases (h : m.Asks name) :
    name ∈ m.types.keys ∧ m.afterChange (.intrinsic name) = m ∨
      name ∉ m.types.keys ∧ m.afterChange (.intrinsic name) =
        (m.declare { name, intrinsic := true }).2.register name (.declared m.decls.size) := by
  by_cases hname : name ∈ m.types.keys
  · obtain ⟨id, hid⟩ := Dict.mem_keys_iff.1 hname
    exact .inl ⟨hname, (h.found id hid).2⟩
  · exact .inr ⟨hname, (h.made hname).2⟩

/-- Adding a property changes nothing but the declaration of the type. -/
lemma addProperty_eq (m : Model) (x : TypeId) (q : Property) :
    ∃ decls, m.addProperty x q = { m with decls := decls } := by
  cases x with
  | declared n => exact ⟨_, rfl⟩
  | request _ => exact ⟨m.decls, rfl⟩
  | writeable _ => exact ⟨m.decls, rfl⟩

/-- A model has what another one has, and perhaps more types and methods to which no name leads. -/
structure Grows (m m₁ : Model) : Prop where
  types : m₁.types = m.types
  methods : m₁.methods = m.methods
  decls : ∀ (n : Nat) t, m.decls[n]? = some t → m₁.decls[n]? = some t
  methodDecls : ∀ (k : Nat) method, m.methodDecls[k]? = some method → m₁.methodDecls[k]? = some method

/-- A model grows into itself. -/
lemma Grows.refl (m : Model) : m.Grows m := ⟨rfl, rfl, fun _ _ h => h, fun _ _ h => h⟩

/-- A model grows by a declared type. -/
lemma grows_declare (m : Model) (t : TypeDecl) : m.Grows (m.declare t).2 where
  types := rfl
  methods := rfl
  decls _ _ h := decls_declare_of_some h
  methodDecls _ _ h := h

/-- A model grows by a declared method. -/
lemma grows_declareMethod (m : Model) (method : Method) : m.Grows (m.declareMethod method).2 where
  types := rfl
  methods := rfl
  decls _ _ h := h
  methodDecls k method' h := by
    obtain ⟨hlt, rfl⟩ := Array.getElem?_eq_some_iff.1 h
    exact Array.getElem?_push_lt hlt

/-- What one change can do to a model. -/
inductive Effect (m : Model) (c : Change) : Model → Prop where
  | nothingNew {m₁} :
    m.Grows m₁ →
    (∀ name ∈ c.typeName? m, name ∈ m.types.keys) →
    (∀ name ∈ c.methodName? m, name ∈ m.methods.keys) →
    (∀ k, c.propertyOf? k = none) →
    Effect m c m₁
  | newType {m₁ n t} :
    m.Grows m₁ →
    m₁.decls[n]? = some t →
    c.typeName? m = some t.name →
    t.name ∉ m.types.keys →
    c.methodName? m = none →
    (∀ k, c.propertyOf? k = none) →
    Effect m c (m₁.register t.name (.declared n))
  | newMethod {m₁ id method} :
    m.Grows m₁ →
    m₁.methodDecls[id.index]? = some method →
    c.methodName? m = some method.name →
    method.name ∉ m.methods.keys →
    c.typeName? m = none →
    (∀ k, c.propertyOf? k = none) →
    Effect m c (m₁.registerMethod method.name id)
  | newProperty {x q} :
    c = .addProperty x q →
    Effect m c (m.addProperty x q)

/-- A change that takes the name of a type does so exactly if the name is new. -/
lemma effect_of_typeName {m₁ m₂ : Model} (hname : c.typeName? m = some t.name) (hmethod : c.methodName? m = none)
    (hproperty : ∀ k, c.propertyOf? k = none) (hgrows : m.Grows m₁) (ht : m₁.decls[n]? = some t)
    (h : t.name ∈ m.types.keys ∧ m₂ = m ∨ t.name ∉ m.types.keys ∧ m₂ = m₁.register t.name (.declared n)) :
    m.Effect c m₂ := by
  rcases h with ⟨hmem, rfl⟩ | ⟨hmem, rfl⟩
  · exact .nothingNew (.refl _) (by simpa [hname] using hmem) (by simp [hmethod]) hproperty
  · exact .newType hgrows ht hname hmem hmethod hproperty

/-- The effect of a change that registers a method, or is refused. -/
lemma effect_of_methodName {m₁ m₂ : Model} (hname : c.methodName? m = some method.name) (htype : c.typeName? m = none)
    (hproperty : ∀ k, c.propertyOf? k = none) (hgrows : m.Grows m₁) (hid : m₁.methodDecls[id.index]? = some method)
    (h : method.name ∈ m.methods.keys ∧ m₂ = m ∨
      method.name ∉ m.methods.keys ∧ m₂ = m₁.registerMethod method.name id) :
    m.Effect c m₂ := by
  rcases h with ⟨hmem, rfl⟩ | ⟨hmem, rfl⟩
  · exact .nothingNew (.refl _) (by simp [htype]) (by simpa [hname] using hmem) hproperty
  · exact .newMethod hgrows hid hname hmem htype hproperty

/-- A change has one of these effects, whatever it is. -/
theorem effect_afterChange (m : Model) (c : Change) : m.Effect c (m.afterChange c) := by
  cases c with
  | declare t => exact .nothingNew (m.grows_declare t) nofun nofun fun _ => rfl
  | declareMethod method => exact .nothingNew (m.grows_declareMethod method) nofun nofun fun _ => rfl
  | addType t =>
    exact effect_of_typeName rfl rfl (fun _ => rfl) (m.grows_declare t) (decls_declare_self m t)
      (m.takes_addType t).afterChange_cases
  | addDeclared n =>
    cases ht : m.decls[n]? with
    | none =>
      rw [afterChange_addDeclared_of_none ht]
      exact .nothingNew (.refl m) (by simp [Change.typeName?, ht]) nofun fun _ => rfl
    | some t =>
      exact effect_of_typeName (by simp [Change.typeName?, ht]) rfl (fun _ => rfl) (.refl m) ht
        (takes_addDeclared ht).afterChange_cases
  | addMethod method =>
    exact effect_of_methodName rfl rfl (fun _ => rfl) (m.grows_declareMethod method) Array.getElem?_push_size
      (m.takes_addMethod method).afterChange_cases
  | addDeclaredMethod id =>
    cases hid : m.methodDecls[id.index]? with
    | none =>
      rw [afterChange_addDeclaredMethod_of_none hid]
      exact .nothingNew (.refl m) nofun (by simp [Change.methodName?, hid]) fun _ => rfl
    | some method =>
      exact effect_of_methodName (by simp [Change.methodName?, hid]) rfl (fun _ => rfl) (.refl m) hid
        (takes_addDeclaredMethod hid).afterChange_cases
  | intrinsic name =>
    exact effect_of_typeName (t := { name, intrinsic := true }) rfl rfl (fun _ => rfl) (m.grows_declare _)
      (decls_declare_self m _) (m.asks name).afterChange_cases
  | addProperty x q => exact .newProperty rfl

/-! ## What one change keeps -/

/-- What grows keeps its types and methods under their names. -/
lemma Grows.keyed {m₁ : Model} (h : m.Grows m₁) (hm : m.Keyed) : m₁.Keyed where
  types name x hx := by
    obtain ⟨n, t, hx, ht, hname⟩ := hm.types name x (h.types ▸ hx)
    exact ⟨n, t, hx, h.decls n t ht, hname⟩
  methods name id hid := by
    obtain ⟨method, hmethod, hname⟩ := hm.methods name id (h.methods ▸ hid)
    exact ⟨method, h.methodDecls _ _ hmethod, hname⟩

/-- A method is registered under its name. -/
lemma Keyed.registerMethod (hm : m.Keyed) (hid : m.methodDecls[id.index]? = some method) :
    (m.registerMethod method.name id).Keyed where
  types := hm.types
  methods name id' hid' := by
    simp only [Model.registerMethod, Dict.get?_insert] at hid'
    split at hid'
    · next hname =>
      cases hid'
      exact ⟨method, hid, hname⟩
    · exact hm.methods name id' hid'

namespace Effect

variable (h : m.Effect c m')

include h

/-- After a change, types and methods are under their names. -/
lemma keyed (hm : m.Keyed) : m'.Keyed := by
  cases h with
  | nothingNew hgrows => exact hgrows.keyed hm
  | newType hgrows ht => exact (hgrows.keyed hm).register ht
  | newMethod hgrows hid => exact (hgrows.keyed hm).registerMethod hid
  | @newProperty x q => exact hm.addProperty x q

/-- The name of a type that a change adds or asks for is listed behind those that came before. -/
lemma typeKeys : m'.types.keys = (m.types.keys ++ (c.typeName? m).toList).eraseDups := by
  cases h with
  | nothingNew hgrows hname =>
    rw [hgrows.types, Dict.eraseDups_keys_append_of_mem fun name hmem => hname name (by simpa using hmem)]
  | newType hgrows _ hname =>
    rw [hname, register, hgrows.types]
    exact Dict.keys_insert_eq_eraseDups _ _ _
  | newMethod hgrows _ _ _ hname =>
    rw [hname, registerMethod, hgrows.types]
    exact Dict.keys_eq_eraseDups_append_nil _
  | @newProperty x q hproperty =>
    obtain ⟨decls, hdecls⟩ := m.addProperty_eq x q
    rw [hdecls, hproperty]
    exact Dict.keys_eq_eraseDups_append_nil _

/-- After a change, there is the name of the method at the end of the others, unless it was there
before. -/
lemma methodKeys : m'.methods.keys = (m.methods.keys ++ (c.methodName? m).toList).eraseDups := by
  cases h with
  | nothingNew hgrows _ hname =>
    rw [hgrows.methods, Dict.eraseDups_keys_append_of_mem fun name hmem => hname name (by simpa using hmem)]
  | newType hgrows _ _ _ hname =>
    rw [hname, register, hgrows.methods]
    exact Dict.keys_eq_eraseDups_append_nil _
  | newMethod hgrows _ hname =>
    rw [hname, registerMethod, hgrows.methods]
    exact Dict.keys_insert_eq_eraseDups _ _ _
  | @newProperty x q hproperty =>
    obtain ⟨decls, hdecls⟩ := m.addProperty_eq x q
    rw [hdecls, hproperty]
    exact Dict.keys_eq_eraseDups_append_nil _

/-- A name goes on leading to its type. -/
lemma types {x : TypeId} (hx : m.types.get? name = some x) : m'.types.get? name = some x := by
  have hmem : name ∈ m.types.keys := Dict.mem_keys_iff.2 ⟨x, hx⟩
  cases h with
  | nothingNew hgrows => rwa [hgrows.types]
  | newType hgrows _ _ hnew =>
    rw [register, hgrows.types, Dict.get?_insert, if_neg (ne_of_mem_of_not_mem hmem hnew).symm, hx]
  | newMethod hgrows => rwa [registerMethod, hgrows.types]
  | @newProperty x q =>
    obtain ⟨decls, hdecls⟩ := m.addProperty_eq x q
    rwa [hdecls]

/-- After a change, there is the same method under a name. -/
lemma methods (hid : m.methods.get? name = some id) : m'.methods.get? name = some id := by
  have hmem : name ∈ m.methods.keys := Dict.mem_keys_iff.2 ⟨id, hid⟩
  cases h with
  | nothingNew hgrows => rwa [hgrows.methods]
  | newType hgrows => rwa [register, hgrows.methods]
  | newMethod hgrows _ _ hnew =>
    rw [registerMethod, hgrows.methods, Dict.get?_insert, if_neg (ne_of_mem_of_not_mem hmem hnew).symm, hid]
  | @newProperty x q =>
    obtain ⟨decls, hdecls⟩ := m.addProperty_eq x q
    rwa [hdecls]

/-- Every type that was made stays as it is, but for the property that is added to it. -/
lemma decls (ht : m.decls[n]? = some t) : m'.decls[n]? = some ((c.propertyOf? n).elim t t.addProperty) := by
  cases h with
  | nothingNew hgrows _ _ hproperty => rw [hproperty, hgrows.decls n t ht, Option.elim_none]
  | newType hgrows _ _ _ _ hproperty => rw [hproperty, register, hgrows.decls n t ht, Option.elim_none]
  | newMethod hgrows _ _ _ _ hproperty => rw [hproperty, registerMethod, hgrows.decls n t ht, Option.elim_none]
  | @newProperty x q hproperty =>
    subst hproperty
    cases x with
    | declared k => by_cases hk : k = n <;> simp [addProperty, Array.getElem?_modify, Change.propertyOf?, hk, ht]
    | request _ => exact ht
    | writeable _ => exact ht

/-- After a change, a method is declared as it was. -/
lemma methodDecls {k : Nat} (hk : m.methodDecls[k]? = some method) : m'.methodDecls[k]? = some method := by
  cases h with
  | nothingNew hgrows => exact hgrows.methodDecls k method hk
  | newType hgrows => exact hgrows.methodDecls k method hk
  | newMethod hgrows => exact hgrows.methodDecls k method hk
  | @newProperty x q =>
    obtain ⟨decls, hdecls⟩ := m.addProperty_eq x q
    rwa [hdecls]

end Effect

/-! ## Runs of changes -/

section Runs

variable {changes : List Change}

/-- The first change of a run comes before the others. -/
lemma afterChanges_cons (m : Model) (c : Change) (changes : List Change) :
    m.afterChanges (c :: changes) = (m.afterChange c).afterChanges changes := rfl

/-- After a run of changes, types and methods are under their names. -/
lemma Keyed.afterChanges (hm : m.Keyed) (changes : List Change) : (m.afterChanges changes).Keyed := by
  induction changes generalizing m with
  | nil => exact hm
  | cons c changes ih => exact ih ((m.effect_afterChange c).keyed hm)

/-- The names of types stand in the order in which they were first added or asked for. -/
lemma typeKeys_afterChanges (m : Model) (changes : List Change) :
    (m.afterChanges changes).types.keys = (m.types.keys ++ m.typeNames changes).eraseDups := by
  induction changes generalizing m with
  | nil => exact Dict.keys_eq_eraseDups_append_nil _
  | cons c changes ih =>
    rw [afterChanges_cons, ih, (m.effect_afterChange c).typeKeys, Dict.eraseDups_eraseDups_append, List.append_assoc,
      typeNames]

/-- After a run of changes, the names of methods stand in the order in which they came first. -/
lemma methodKeys_afterChanges (m : Model) (changes : List Change) :
    (m.afterChanges changes).methods.keys = (m.methods.keys ++ m.methodNames changes).eraseDups := by
  induction changes generalizing m with
  | nil => exact Dict.keys_eq_eraseDups_append_nil _
  | cons c changes ih =>
    rw [afterChanges_cons, ih, (m.effect_afterChange c).methodKeys, Dict.eraseDups_eraseDups_append,
      List.append_assoc, methodNames]

/-- After a run of changes, there is the same type under a name. -/
lemma types_afterChanges {x : TypeId} (hx : m.types.get? name = some x) (changes : List Change) :
    (m.afterChanges changes).types.get? name = some x := by
  induction changes generalizing m with
  | nil => exact hx
  | cons c changes ih => exact ih ((m.effect_afterChange c).types hx)

/-- After a run of changes, there is the same method under a name. -/
lemma methods_afterChanges (hid : m.methods.get? name = some id) (changes : List Change) :
    (m.afterChanges changes).methods.get? name = some id := by
  induction changes generalizing m with
  | nil => exact hid
  | cons c changes ih => exact ih ((m.effect_afterChange c).methods hid)

/-- A type that was made has the properties that are added to it. -/
lemma decls_afterChanges (ht : m.decls[n]? = some t) (changes : List Change) :
    (m.afterChanges changes).decls[n]? =
      some ((changes.filterMap (Change.propertyOf? n)).foldl TypeDecl.addProperty t) := by
  induction changes generalizing m t with
  | nil => exact ht
  | cons c changes ih =>
    rw [afterChanges_cons, ih ((m.effect_afterChange c).decls ht), List.filterMap_cons]
    cases c.propertyOf? n <;> rfl

/-- After a run of changes, a method is declared as it was. -/
lemma methodDecls_afterChanges {k : Nat} (hk : m.methodDecls[k]? = some method) (changes : List Change) :
    (m.afterChanges changes).methodDecls[k]? = some method := by
  induction changes generalizing m with
  | nil => exact hk
  | cons c changes ih => exact ih ((m.effect_afterChange c).methodDecls hk)

end Runs

/-! ## Order -/

/-- The methods in order ascend strictly by their names. -/
lemma Keyed.pairwise_sortedMethods (hm : m.Keyed) :
    m.sortedMethods.Pairwise fun a b => (m.method a).name < (m.method b).name := by
  have hname : ∀ e ∈ m.methods.entries, (m.method e.2).name = e.1 := by
    intro e he
    obtain ⟨method, hid, hname⟩ := hm.methods e.1 e.2 (Dict.get?_eq_some_iff.2 he)
    simp [Model.method, hid, hname]
  rw [sortedMethods, List.pairwise_map]
  apply (pairwise_lt_mergeSort_by_name m.methods.nodup).imp_of_mem
  intro a b ha hb hlt
  rwa [hname a (List.mem_mergeSort.1 ha), hname b (List.mem_mergeSort.1 hb)]

/-- The types of a model, sorted, ascend strictly by their names. -/
lemma Keyed.pairwise_sortByName (hm : m.Keyed) (p : Pass) :
    (p.sortByName m m.types.values).Pairwise fun a b => (p.decl m a).name < (p.decl m b).name := by
  apply pairwise_lt_mergeSort_by_name
  apply hm.nodup_values.map_on
  intro a ha b hb hname
  obtain ⟨_, rfl⟩ := hm.exists_declared ha
  obtain ⟨_, rfl⟩ := hm.exists_declared hb
  exact hm.eq_of_name_eq ha hb hname

/-! ## Names of a model -/

/-- How a model answers a change: what has a name that is taken is refused, and the type of a name is the one that the
name leads to. -/
structure Answers (m : Model) : Prop where
  addType : ∀ t, m.Takes (.addType t) (t.name ∈ m.types.keys) (.duplicateType t.name)
    (.type (.declared m.decls.size)) ((m.declare t).2.register t.name (.declared m.decls.size))
  addDeclared : ∀ (n : Nat) t, m.decls[n]? = some t →
    m.Takes (.addDeclared n) (t.name ∈ m.types.keys) (.duplicateType t.name) (.type (.declared n))
      (m.register t.name (.declared n))
  addMethod : ∀ method, m.Takes (.addMethod method) (method.name ∈ m.methods.keys) (.duplicateMethod method.name)
    (.method ⟨m.methodDecls.size⟩) ((m.declareMethod method).2.registerMethod method.name ⟨m.methodDecls.size⟩)
  addDeclaredMethod : ∀ (id : MethodId) method, m.methodDecls[id.index]? = some method →
    m.Takes (.addDeclaredMethod id) (method.name ∈ m.methods.keys) (.duplicateMethod method.name) (.method id)
      (m.registerMethod method.name id)
  intrinsic : ∀ name, ∃ x, m.outcome (.intrinsic name) = .ok (.type x) ∧
    (m.afterChange (.intrinsic name)).types.get? name = some x ∧
    (m.afterChange (.intrinsic name)).types.keys =
      (if name ∈ m.types.keys then m.types.keys else m.types.keys ++ [name]) ∧
    (m.afterChange (.intrinsic name)).methods = m.methods
  addProperty : ∀ x q, m.outcome (.addProperty x q) = .ok (.property q) ∧
    (m.afterChange (.addProperty x q)).types = m.types ∧ (m.afterChange (.addProperty x q)).methods = m.methods

/-- What a run of changes leaves of a model: names go on leading where they led, new ones come behind them in the order
in which they were first used, and nothing that was made changes but the properties of types. -/
structure LeadsTo (m : Model) (changes : List Change) (m' : Model) : Prop where
  types : ∀ name x, m.types.get? name = some x → m'.types.get? name = some x
  methods : ∀ name id, m.methods.get? name = some id → m'.methods.get? name = some id
  typeKeys : m'.types.keys = (m.types.keys ++ m.typeNames changes).eraseDups
  methodKeys : m'.methods.keys = (m.methods.keys ++ m.methodNames changes).eraseDups
  decls : ∀ (n : Nat) t, m.decls[n]? = some t →
    ∃ t', m'.decls[n]? = some t' ∧ t.Gains (changes.filterMap (Change.propertyOf? n)) t'
  methodDecls : ∀ (k : Nat) method, m.methodDecls[k]? = some method → m'.methodDecls[k]? = some method

/-- The methods and the types of a model, sorted, are all of them, and their names ascend strictly. -/
structure Sorts (m : Model) : Prop where
  methods_perm : m.sortedMethods.Perm m.methods.values
  methods : (m.sortedMethods.map fun id => (m.method id).name).Pairwise (· < ·)
  types_perm : ∀ p : Pass, (p.sortByName m m.types.values).Perm m.types.values
  types : ∀ p : Pass, ((p.sortByName m m.types.values).map fun x => (p.decl m x).name).Pairwise (· < ·)

/-- What the changes of a model answer. -/
lemma answers (m : Model) : m.Answers where
  addType := m.takes_addType
  addDeclared _ _ ht := takes_addDeclared ht
  addMethod := m.takes_addMethod
  addDeclaredMethod _ _ hid := takes_addDeclaredMethod hid
  intrinsic name := by
    by_cases hname : name ∈ m.types.keys
    · obtain ⟨x, hx⟩ := Dict.mem_keys_iff.1 hname
      obtain ⟨hgiven, hafter⟩ := (m.asks name).found x hx
      rw [hafter, if_pos hname]
      exact ⟨x, hgiven, hx, rfl, rfl⟩
    · obtain ⟨hgiven, hafter⟩ := (m.asks name).made hname
      rw [hafter, if_neg hname]
      refine ⟨_, hgiven, Dict.get?_insert_self _ _ _, ?_, rfl⟩
      rw [register, Dict.keys_insert]
      exact if_neg hname
  addProperty x q := by
    have hafter : m.afterChange (.addProperty x q) = m.addProperty x q := rfl
    obtain ⟨decls, hdecls⟩ := m.addProperty_eq x q
    rw [hafter, hdecls]
    exact ⟨rfl, rfl, rfl⟩

/-- What a run of changes leads to. -/
lemma leadsTo_afterChanges (m : Model) (changes : List Change) : m.LeadsTo changes (m.afterChanges changes) where
  types _ _ hx := types_afterChanges hx changes
  methods _ _ hid := methods_afterChanges hid changes
  typeKeys := m.typeKeys_afterChanges changes
  methodKeys := m.methodKeys_afterChanges changes
  decls _ t ht := ⟨_, decls_afterChanges ht changes, t.gains_foldl _⟩
  methodDecls _ _ hk := methodDecls_afterChanges hk changes

/-- The sorted views hold what the model holds. -/
lemma Keyed.sorts (hm : m.Keyed) : m.Sorts where
  methods_perm := m.sortedMethods_perm
  methods := List.pairwise_map.2 hm.pairwise_sortedMethods
  types_perm _ := List.mergeSort_perm _ _
  types p := List.pairwise_map.2 (hm.pairwise_sortByName p)

/-- The built-in types of a model stand in the order in which their names were first given. -/
lemma typeKeys_ofIntrinsics (names : List String) : (ofIntrinsics names).types.keys = names.eraseDups := by
  suffices h : ∀ m : Model,
      (names.foldl (fun m name =>
        (m.declare { name, intrinsic := true }).2.register name (.declared m.decls.size)) m).types.keys =
        (m.types.keys ++ names).eraseDups from h {}
  induction names with
  | nil => exact fun m => Dict.keys_eq_eraseDups_append_nil _
  | cons name names ih =>
    intro m
    rw [List.foldl_cons, ih, register, Dict.keys_insert_eq_eraseDups, Dict.eraseDups_eraseDups_append,
      List.append_assoc]
    rfl

/-- There are no methods at first. -/
lemma methodKeys_ofIntrinsics (names : List String) : (ofIntrinsics names).methods.keys = [] := by
  suffices h : ∀ m : Model,
      (names.foldl (fun m name =>
        (m.declare { name, intrinsic := true }).2.register name (.declared m.decls.size)) m).methods = m.methods from
    congrArg Dict.keys (h {})
  induction names with
  | nil => exact fun m => rfl
  | cons name names ih => exact fun m => ih _

/-- Whatever was done to a model before, refusals included, its names lead to types and methods of these names and stand
in the order in which they were first used. From there on, they lead to the same types and methods whatever is done;
what would take a name a second time is refused and changes nothing, and asking for a built-in type adds its name at
most. Sorted by their names, the types and the methods ascend strictly, and each type has one property for each name, in
the place of the first one and with the value of the last one. -/
theorem keepsItsKeys_afterChanges (names : List String) (before after : List Change) :
    let m := (ofIntrinsics names).afterChanges before
    m.Keyed ∧ m.types.keys = (names ++ (ofIntrinsics names).typeNames before).eraseDups ∧
      m.methods.keys = ((ofIntrinsics names).methodNames before).eraseDups ∧
      m.Answers ∧ m.LeadsTo after (m.afterChanges after) ∧ m.Sorts := by
  intro m
  have hm : m.Keyed := (Keyed.ofIntrinsics names).afterChanges before
  refine ⟨hm, ?_, ?_, m.answers, m.leadsTo_afterChanges after, hm.sorts⟩
  · rw [typeKeys_afterChanges, typeKeys_ofIntrinsics, Dict.eraseDups_eraseDups_append]
  · rw [methodKeys_afterChanges, methodKeys_ofIntrinsics, List.nil_append]

end Model

end SdkGen
