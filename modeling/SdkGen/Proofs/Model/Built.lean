import SdkGen.Model.Build
import SdkGen.Proofs.Dict

/-!
# Models as they are built

A model is built from nothing but its operations: it starts with built-in types, and then types, properties and
methods are declared and added. Types and methods may be declared without being added, and be added later on.

Main statement: `Built.keyed`. In every model that was built, the name that leads to a type or to a method is the
name which that type or method has.

`sample` is a model with all that makes passes difficult: a type that mentions itself through arrays and has a
writeable variant, and two methods whose request types would have one name.
-/

namespace SdkGen.Model

/-- The models that the operations on models build. -/
inductive Built : Model → Prop where
  | start (names : List String) :
    Built (.ofIntrinsics names)
  | declare {m} (t : TypeDecl) :
    Built m →
    Built (m.declare t).2
  | register {m n t} :
    Built m →
    m.decls[n]? = some t →
    m.types.contains t.name = false →
    Built (m.register t.name (.declared n))
  | addType {m m' t id} :
    Built m →
    m.addType t = .ok (id, m') →
    Built m'
  | intrinsic {m} (name : String) :
    Built m →
    Built (m.intrinsic name).2
  | addProperty {m} (id : TypeId) (q : Property) :
    Built m →
    Built (m.addProperty id q)
  | declareMethod {m} (method : Method) :
    Built m →
    Built (m.declareMethod method).2
  | addMethod {m m' method id} :
    Built m →
    m.addMethod method = .ok (id, m') →
    Built m'

/-- Every name of a model leads to something of that name. -/
structure Keyed (m : Model) : Prop where
  types : ∀ name id, m.types.get? name = some id →
    ∃ n t, id = .declared n ∧ m.decls[n]? = some t ∧ t.name = name
  methods : ∀ name id, m.methods.get? name = some id →
    ∃ method, m.methodDecls[id.index]? = some method ∧ method.name = name

/-- Declaring a type changes nothing that was declared. -/
lemma decls_declare_of_some {m : Model} {t t' : TypeDecl} {n : Nat} (h : m.decls[n]? = some t) :
    (m.declare t').2.decls[n]? = some t := by
  obtain ⟨hn, rfl⟩ := Array.getElem?_eq_some_iff.1 h
  exact Array.getElem?_push_lt hn

/-- A type that was just declared is there. -/
lemma decls_declare_self (m : Model) (t : TypeDecl) :
    (m.declare t).2.decls[m.decls.size]? = some t :=
  Array.getElem?_push_size

/-- Adding a property changes no name. -/
lemma name_addProperty {m : Model} (id : TypeId) (q : Property) {n : Nat} {t : TypeDecl}
    (h : m.decls[n]? = some t) :
    ∃ t', (m.addProperty id q).decls[n]? = some t' ∧ t'.name = t.name := by
  cases id with
  | declared k =>
    simp only [addProperty, Array.getElem?_modify, h]
    split
    · exact ⟨_, rfl, rfl⟩
    · exact ⟨_, rfl, rfl⟩
  | request _ => exact ⟨t, h, rfl⟩
  | writeable _ => exact ⟨t, h, rfl⟩

/-- A model without types and methods is keyed. -/
lemma Keyed.empty : Keyed {} :=
  ⟨nofun, nofun⟩

/-- Declaring a type keeps a model keyed. -/
lemma Keyed.declare {m : Model} (hm : m.Keyed) (t : TypeDecl) : (m.declare t).2.Keyed where
  types name id h := by
    obtain ⟨n, t', e, hn, ht⟩ := hm.types name id h
    exact ⟨n, t', e, decls_declare_of_some hn, ht⟩
  methods := hm.methods

/-- Putting a declared type under its own name keeps a model keyed. -/
lemma Keyed.register {m : Model} (hm : m.Keyed) {n : Nat} {t : TypeDecl} (h : m.decls[n]? = some t) :
    (m.register t.name (.declared n)).Keyed where
  types name id hid := by
    simp only [Model.register, Dict.get?_insert] at hid
    split at hid
    · next e =>
      cases hid
      exact ⟨n, t, rfl, h, e⟩
    · exact hm.types name id hid
  methods := hm.methods

/-- A type that is declared and put under its name at once keeps a model keyed. -/
lemma Keyed.declare_register {m : Model} (hm : m.Keyed) (t : TypeDecl) :
    ((m.declare t).2.register t.name (.declared m.decls.size)).Keyed :=
  (hm.declare t).register (decls_declare_self m t)

/-- Adding a property keeps a model keyed. -/
lemma Keyed.addProperty {m : Model} (hm : m.Keyed) (id : TypeId) (q : Property) :
    (m.addProperty id q).Keyed := by
  have ht : (m.addProperty id q).types = m.types := by cases id <;> rfl
  have hs : (m.addProperty id q).methods = m.methods := by cases id <;> rfl
  have hd : (m.addProperty id q).methodDecls = m.methodDecls := by cases id <;> rfl
  constructor
  · intro name x h
    rw [ht] at h
    obtain ⟨n, t, e, hn, rfl⟩ := hm.types name x h
    obtain ⟨t', hn', e'⟩ := name_addProperty id q hn
    exact ⟨n, t', e, hn', e'⟩
  · rw [hs, hd]
    exact hm.methods

/-- Declaring a method keeps a model keyed. -/
lemma Keyed.declareMethod {m : Model} (hm : m.Keyed) (method : Method) :
    (m.declareMethod method).2.Keyed where
  types := hm.types
  methods name id h := by
    obtain ⟨d, hd, e⟩ := hm.methods name id h
    obtain ⟨hn, rfl⟩ := Array.getElem?_eq_some_iff.1 hd
    exact ⟨_, Array.getElem?_push_lt hn, e⟩

/-- A model of built-in types is keyed, also when names are given twice. -/
lemma Keyed.ofIntrinsics (names : List String) : (ofIntrinsics names).Keyed := by
  suffices h : ∀ m : Model, m.Keyed →
      (names.foldl (fun m name =>
        (m.declare { name, intrinsic := true }).2.register name (.declared m.decls.size)) m).Keyed from
    h {} .empty
  induction names with
  | nil => exact fun m hm => hm
  | cons name names ih => exact fun m hm => ih _ (hm.declare_register { name, intrinsic := true })

/-- Every model that was built is keyed. -/
theorem Built.keyed {m : Model} (h : m.Built) : m.Keyed := by
  induction h with
  | start names => exact .ofIntrinsics names
  | declare t _ ih => exact ih.declare t
  | register _ hn _ ih => exact ih.register hn
  | @addType m m' t id _ h ih =>
    simp only [Model.addType] at h
    split at h
    · cases h
    · cases h
      exact ih.declare_register t
  | @intrinsic m name _ ih =>
    simp only [Model.intrinsic]
    split
    · exact ih
    · exact ih.declare_register { name, intrinsic := true }
  | addProperty id q _ ih => exact ih.addProperty id q
  | declareMethod method _ ih => exact ih.declareMethod method
  | @addMethod m m' method id _ h ih =>
    simp only [Model.addMethod] at h
    split at h
    · cases h
    · cases h
      refine ⟨ih.types, fun name x hx => ?_⟩
      simp only [Dict.get?_insert] at hx
      split at hx
      · next e =>
        cases hx
        exact ⟨method, Array.getElem?_push_size, e⟩
      · exact (ih.declareMethod method).methods name x hx

/-- A record that mentions itself. -/
def sampleUser : TypeDecl :=
  { name := "User"
    properties := .ofList
      [("id", { name := "id", type := some (.named (.declared 0)), readOnly := true }),
       ("friends", { name := "friends", type := some (.array (.named (.declared 1)) "") })] }

/-- A method with two parameters that may be left out, and a third one in the body. -/
def sampleMethod (name : String) : Method :=
  { name
    verb := "POST"
    endpoint := "/users"
    params :=
      [{ name := "limit", type := some (.named (.declared 0)), nullable := true },
       { name := "page", type := some (.named (.declared 0)), nullable := true },
       { name := "user", type := some (.named (.declared 1)), location := .body }]
    type := some (.array (.named (.declared 1)) "") }

/-- A model in which request types are in each other's way and writeable variants are not. -/
def sample : Model :=
  { decls := #[{ name := "string", intrinsic := true }, sampleUser]
    types := ⟨[("string", .declared 0), ("User", .declared 1)], by decide⟩
    methodDecls := #[sampleMethod "add_user", sampleMethod "addUser"]
    methods := ⟨[("add_user", ⟨0⟩), ("addUser", ⟨1⟩)], by decide⟩ }

/-- The sample is built step by step. -/
lemma built_sample : sample.Built := by
  have declared := Built.declare sampleUser (.start ["string"])
  have types := declared.register (n := 1) (t := sampleUser) rfl rfl
  have one := @Built.addMethod _ _ (sampleMethod "add_user") _ types rfl
  exact @Built.addMethod _ _ (sampleMethod "addUser") _ one rfl

end SdkGen.Model
