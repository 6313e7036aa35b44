import SdkGen.Proofs.Model.Built
import SdkGen.Proofs.Target.Demands
import SdkGen.Proofs.Target.Texts

/-!
# Array layers

An array is what its elements are, in as many layers as it has: the type that counts is the one under all of them, and
each layer adds its own marks to what is written of that type. Mapping a mention takes the layers off one at a time, and
only where none is left is a type referenced.

Main statement: `Target.typeMap_references`. Mapping a mention does to a pass what one reference to it does, and what
it writes is what mapping the root alone writes, with the marks of the layers.
-/

namespace SdkGen

/-- How many array layers a mention has. -/
def TypeRef.layers : TypeRef → Nat
  | .named _ => 0
  | .array element _ => element.layers + 1

/-- A text written so many times in a row. -/
def Text.times (n : Nat) (s : String) : String := String.join (List.replicate n s)

namespace Text

/-- No times, a text is empty. -/
lemma times_zero (s : String) : times 0 s = "" := rfl

/-- Once more, a text stands in front of the others. -/
lemma times_succ (n : Nat) (s : String) : times (n + 1) s = s ++ times n s := by
  rw [times, List.replicate_succ, String.join_cons]
  rfl

/-- Once more, a text stands behind the others. -/
lemma times_succ' (n : Nat) (s : String) : times (n + 1) s = times n s ++ s := by
  rw [times, List.replicate_succ', String.join_append]
  simp [times]

end Text

/-- The name of a mention is the name of its root, with a pair of brackets for each layer. -/
lemma Pass.typeName_eq (p : Pass) (m : Model) (r : TypeRef) :
    p.typeName m r = (p.decl m r.root).name ++ Text.times r.layers "[]" := by
  induction r with
  | named id => simp [typeName, TypeRef.root, TypeRef.layers, Text.times_zero]
  | array element _ ih =>
    rw [typeName, ih, TypeRef.root, TypeRef.layers, Text.times_succ', String.append_assoc]

/-- A pass has one more reference to a type, and nothing else has changed. -/
structure Pass.RefersOnceMore (p : Pass) (id : TypeId) (p' : Pass) : Prop where
  counts : ∀ x, p'.counts.get x = if x = some id then p.counts.get x + 1 else p.counts.get x
  rest : p' = { p with counts := p'.counts }

/-- Counting a type refers to it once more. -/
lemma Pass.refersOnceMore_count (p : Pass) (id : TypeId) : p.RefersOnceMore id (p.count (some id)) where
  counts x := by
    rw [counts_count]
    simp [eq_comm]
  rest := rfl

namespace Target

/-- What is written of a type, with the marks of so many array layers. -/
def layered (t : Target) (n : Nat) (base : String) : String :=
  match t.language with
  | .python => Text.times n "Sequence[" ++ base ++ Text.times n "]"
  | .typescript => base ++ Text.times n "[]"

/-- The name that a declared type is mentioned by. -/
def declaredName (t : Target) (d : TypeDecl) : String :=
  match t.language with
  | .python => d.name
  | .typescript => "I" ++ d.name

variable {t : Target} {m : Model} {qualifier : String}

/-- One more layer goes around those that are there. -/
lemma sequence_layered (t : Target) (n : Nat) (base : String) :
    t.sequence (t.layered n base) = t.layered (n + 1) base := by
  cases hl : t.language with
  | python =>
    simp only [sequence, layered, hl, Python.sequence]
    rw [Text.times_succ, Text.times_succ' n "]"]
    simp only [String.append_assoc]
  | typescript =>
    simp only [sequence, layered, hl, TypeScript.sequence]
    rw [Text.times_succ', String.append_assoc]

/-- What is written of a mention is what is written of its root, with the marks of its layers. -/
lemma mentionText_eq (t : Target) (qualifier : String) (look : TypeId → TypeDecl) (r : TypeRef) :
    t.mentionText qualifier look r = t.layered r.layers (t.spelling qualifier (look r.root)) := by
  induction r with
  | named id =>
    rw [mentionText, TypeRef.layers, TypeRef.root, layered]
    cases t.language <;> simp [Text.times_zero]
  | array element _ ih => rw [mentionText, ih, sequence_layered, TypeRef.layers, TypeRef.root]

/-- Mapping a type to its name in the model gives the name and references its root. -/
lemma runFrom_plainTypeMap (r : TypeRef) (p : Pass) :
    (plainTypeMap m (some r)).runFrom p = (.ok (p.typeName m r), p.count (some r.root)) := by
  have hname : (p.count (some r.root)).typeName m r = p.typeName m r := by
    rw [Pass.typeName_eq, Pass.typeName_eq, Pass.decl_count]
  rw [plainTypeMap, Step.runFrom_bind_of_ok (Step.runFrom_reference _ p), Option.map_some,
    Step.runFrom_bind_of_ok (Step.runFrom_get _), Step.runFrom_pure, hname]

/-- A declared type is written with its qualifier. -/
lemma spelling_of_declared {d : TypeDecl} (h : d.intrinsic = false) :
    t.spelling qualifier d = qualifier ++ t.declaredName d := by
  rw [spelling, declaredName]
  cases t.language <;> simp [h, TypeScript.interfaceName]

/-- A built-in type is written alike with any qualifier. -/
lemma spelling_of_intrinsic {d : TypeDecl} (h : d.intrinsic = true) (qualifier' : String) :
    t.spelling qualifier' d = t.spelling qualifier d := by
  rw [spelling, spelling]
  cases t.language <;> simp [h]

/-- Mapping a type references what a reference to it references, whichever way it is mapped: its root, once, and nothing
else changes. What is written is what mapping the root alone writes, with the marks of the array layers around it: the
name behind the qualifier, or for a built-in type a spelling that has no qualifier. -/
theorem typeMap_references (t : Target) (m : Model) (p : Pass) (qualifier : String) (r : TypeRef) :
    ∃ p' base,
      (Step.reference (some r)).runFrom p = (.ok (), p') ∧ p.RefersOnceMore r.root p' ∧
      (plainTypeMap m (some r)).runFrom p = (.ok ((p.decl m r.root).name ++ Text.times r.layers "[]"), p') ∧
      (t.typeMap m qualifier (some (.named r.root))).runFrom p = (.ok base, p') ∧
      (t.typeMap m qualifier (some r)).runFrom p = (.ok (t.layered r.layers base), p') ∧
      if (p.decl m r.root).intrinsic then
        ∀ qualifier', (t.typeMap m qualifier' (some (.named r.root))).runFrom p = (.ok base, p')
      else base = qualifier ++ t.declaredName (p.decl m r.root) := by
  refine ⟨p.count (some r.root), t.spelling qualifier (p.decl m r.root), Step.runFrom_reference _ p,
    p.refersOnceMore_count _, ?_, runFrom_typeMapRef _ p, ?_, ?_⟩
  · rw [runFrom_plainTypeMap, Pass.typeName_eq]
  · rw [typeMap, runFrom_typeMapRef, mentionText_eq]
  · split
    · next hintrinsic =>
      intro qualifier'
      rw [typeMap, runFrom_typeMapRef, mentionText, spelling_of_intrinsic hintrinsic, TypeRef.root]
    · next hdeclared => exact spelling_of_declared (Bool.eq_false_iff.2 hdeclared)

/-- Two layers around a record of the sample. -/
example :
    ((standard .python).typeMap .sample "models." (some (.array (.array (.named (.declared 1)) "") ""))).runFrom {} =
      (.ok "Sequence[Sequence[models.User]]", Pass.count {} (some (.declared 1))) :=
  rfl

end Target

end SdkGen
