import SdkGen.Proofs.Pass.Serves
import SdkGen.Target.Declare

/-!
# Texts of declarations

The text of a declaration depends on the declarations of the types that it mentions and on nothing else that a pass
knows, and all that declaring a type does to a pass is that each of these types is referenced. So the text can be
given without a pass, by `Target.declText`.

Main statement: `Target.runFrom_declareDecl`. Declaring a type whose properties have types gives its text and
references what its properties mention.
-/

namespace SdkGen

/-- The types that the properties of a type mention, once for each property. -/
def TypeDecl.mentions (d : TypeDecl) : List TypeId :=
  d.properties.values.filterMap fun q => q.type.map TypeRef.root

namespace Pass

variable {m : Model} {p : Pass}

/-- One more reference to each type of a list. -/
def countAll (p : Pass) (ids : List TypeId) : Pass :=
  ids.foldl (fun p id => p.count (some id)) p

/-- References count one after the other. -/
@[simp] lemma countAll_cons (p : Pass) (id : TypeId) (ids : List TypeId) :
    p.countAll (id :: ids) = (p.count (some id)).countAll ids := rfl

/-- References leave all declarations as they are. -/
@[simp] lemma decl_countAll (ids : List TypeId) : (p.countAll ids).decl m = p.decl m := by
  induction ids generalizing p with
  | nil => rfl
  | cons id ids ih => rw [countAll_cons, ih, decl_count]

/-- Each type has as many more references as it comes in the list. -/
lemma counts_countAll (ids : List TypeId) (x : Option TypeId) :
    (p.countAll ids).counts.get x = p.counts.get x + ids.countP (some · = x) := by
  induction ids generalizing p with
  | nil => rfl
  | cons id ids ih =>
    simp only [countAll_cons, ih, counts_count, List.countP_cons, decide_eq_true_eq]
    split <;> omega

end Pass

namespace Target

variable {t : Target} {m : Model} {qualifier indent : String}

/-- How a mention of a type is written, given the declarations of types. -/
def mentionText (t : Target) (qualifier : String) (look : TypeId → TypeDecl) : TypeRef → String
  | .named id => t.spelling qualifier (look id)
  | .array element _ => t.sequence (t.mentionText qualifier look element)

/-- The declaration of a type, given the declarations of the types that it mentions. -/
def declText (t : Target) (indent : String) (look : TypeId → TypeDecl) (d : TypeDecl) : String :=
  let props := d.properties.values.map fun q =>
    t.propertyText (t.bumper indent) q (q.type.elim "" (t.mentionText "" look))
  let close := t.conventions.endTypeStr
  t.typeSignature indent d ++ String.intercalate t.conventions.propDelimiter props ++
    (if close = "" then "" else "\n" ++ indent ++ close)

/-- Mapping a type gives its text and references its root. -/
lemma runFrom_typeMapRef (r : TypeRef) (p : Pass) :
    (t.typeMapRef m qualifier r).runFrom p =
      (.ok (t.mentionText qualifier (p.decl m) r), p.count (some r.root)) := by
  induction r with
  | named id =>
    rw [typeMapRef, Step.runFrom_bind_of_ok (Step.runFrom_reference _ p)]
    simp [mentionText, TypeRef.root, Except.map]
  | array element _ ih =>
    rw [typeMapRef, Step.runFrom_bind_of_ok ih]
    rfl

/-- Declaring a property of a type gives its text and references what it mentions. -/
lemma runFrom_declareProperty {q : Property} {r : TypeRef} (h : q.type = some r) (p : Pass) :
    (t.declareProperty m indent q).runFrom p =
      (.ok (t.propertyText indent q (t.mentionText "" (p.decl m) r)), p.count (some r.root)) := by
  rw [declareProperty, h, typeMap, Step.runFrom_bind_of_ok (runFrom_typeMapRef r p)]
  rfl

/-- Declaring properties gives their texts and references what they mention. -/
lemma runFrom_declareProperties {qs : List Property} (h : ∀ q ∈ qs, q.type.isSome) (p : Pass) :
    (qs.mapM (t.declareProperty m indent)).runFrom p =
      (.ok (qs.map fun q => t.propertyText indent q (q.type.elim "" (t.mentionText "" (p.decl m)))),
        p.countAll (qs.filterMap fun q => q.type.map TypeRef.root)) := by
  induction qs generalizing p with
  | nil => rfl
  | cons q qs ih =>
    obtain ⟨r, hr⟩ := Option.isSome_iff_exists.1 (h q List.mem_cons_self)
    have ih := ih (fun q hq => h q (List.mem_cons_of_mem _ hq)) (p.count (some r.root))
    rw [List.mapM_cons, Step.runFrom_bind_of_ok (runFrom_declareProperty hr p),
      Step.runFrom_bind_of_ok ih]
    simp [hr]

/-- Declaring a type gives its text and references what its properties mention. -/
theorem runFrom_declareDecl {d : TypeDecl} (h : d.Typed) (p : Pass) :
    (t.declareDecl m indent d).runFrom p =
      (.ok (t.declText indent (p.decl m) d), p.countAll d.mentions) := by
  rw [declareDecl, Step.runFrom_bind_of_ok (runFrom_declareProperties h p)]
  rfl

end Target

end SdkGen
