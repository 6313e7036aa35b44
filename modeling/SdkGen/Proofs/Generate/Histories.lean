import SdkGen.Proofs.Generate.Contexts
import SdkGen.Proofs.Pass.Agreement
import SdkGen.Proofs.Target.MethodTexts

/-!
# Texts do not depend on what was rendered before

Rendering looks at the state of a pass and changes it. All the same, what a pass was used for before makes no
difference to the text of a method or of a type, and the order in which methods are rendered makes none to the
declarations that come afterwards.

Main statements: `Target.sameDeclarations` (passes with the same derived types and with references to
the same types give the same declarations) and `Target.texts_regardless_of_history`.
-/

namespace SdkGen

namespace Demand

variable {m : Model} {p p' : Pass} {ds : List Demand}

/-- Demands that were served ask for nothing that is missing. -/
lemma missing_notMem_of_serveAll (h : serveAll m ds p = (.ok (), p')) : .missing ∉ ds := by
  induction ds generalizing p with
  | nil => exact List.not_mem_nil
  | cons d ds ih =>
    obtain ⟨p₁, h₁, h₂⟩ := serveAll_cons_ok h
    rintro (_ | ⟨_, hd⟩)
    · cases h₁
    · exact ih h₂ hd

end Demand

/-- Whether a type is there for a pass: declared, or derived in it. -/
def Pass.Knows (p : Pass) (id : TypeId) : Prop := id.isDeclared ∨ id ∈ p.derivedTypes

/-- A sound pass declares what is there for it as the rules of the model have it. -/
lemma Pass.Sound.decl_of_knows {m : Model} {wraps : Bool} {p : Pass} {id : TypeId} (hp : p.Sound m wraps)
    (h : p.Knows id) : p.decl m id = m.declOf id := by
  rcases h with h | h
  · exact Target.decl_of_isDeclared h p
  · exact hp.decl_of_mem h

namespace Target

open Demand

variable {t : Target} {m : Model} {wraps : Bool} {p p' q q' : Pass} {ids ids' : List TypeId}
  {decls decls' : Dict String String}

/-- Rendering declarations goes on from either of two passes to its end. It gives the same text for each name, and
then the same names have to be declared. -/
def SameDeclarations (t : Target) (m : Model) (p p' : Pass) : Prop :=
  ∃ decls q decls' q',
    (t.renderDeclarations m).runFrom p = (.ok decls, q) ∧
    (t.renderDeclarations m).runFrom p' = (.ok decls', q') ∧
    (∀ name, decls'.get? name = decls.get? name) ∧
    q'.referencedTypeNames m = q.referencedTypeNames m

section SameReferences

variable (hp : p.Sound m wraps) (hp' : p'.Sound m wraps)
  (hd : ∀ x, x ∈ p.derivedTypes ↔ x ∈ p'.derivedTypes)
  (hc : ∀ x, 0 < p.counts.get (some x) ↔ 0 < p'.counts.get (some x))

include hp hp' hd hc

/-- The loop that starts with references to the same types ends with references to no other types. -/
lemma Declares.counts_pos (h : t.Declares m p .empty ids decls q) (h' : t.Declares m p' .empty ids' decls' q')
    (ho : p.Orderly m) (ho' : p'.Orderly m) {x : TypeId} (hx : 0 < q.counts.get (some x)) :
    0 < q'.counts.get (some x) := by
  have hdecl := hp.decl_congr hp' hd
  refine h.least ho (R := fun x => 0 < q'.counts.get (some x)) (fun x hx => ?_) (fun id hid hi hn x hx => ?_) x hx
  · rw [h'.state_eq ho']
    exact Pass.counts_declareAll_pos_iff.2 (.inl ((hc x).1 hx))
  -- a type that is declared in the one loop is declared in the other one, with all that it mentions
  · have hid' : id ∈ p'.candidates m := ((hp.candidates_perm hp' hd).mem_iff).1 hid
    rw [hdecl] at hi hx
    apply h'.closed ho' (Pass.mem_referencedTypes_iff.2 ⟨?_, hn, ?_⟩) x hx
    · rwa [h'.state_eq ho', Pass.candidates_declareAll]
    · rwa [h'.state_eq ho', Pass.decl_declareAll]

/-- Passes with the same derived types, whose names are apart, and with references to the same types give the same
declarations. -/
theorem sameDeclarations (ha : m.Apart (· ∈ p.derivedTypes)) (hm : m.Keyed) (ht : m.Typed) :
    t.SameDeclarations m p p' := by
  have ho := hp.orderly ha hm ht
  have ho' := hp'.orderly (ha.mono fun x => (hd x).2) hm ht
  obtain ⟨ids, decls, q, h, hr⟩ := exists_renderDeclarations (t := t) ho
  obtain ⟨ids', decls', q', h', hr'⟩ := exists_renderDeclarations (t := t) ho'
  have hcounts (x : TypeId) : 0 < q'.counts.get (some x) ↔ 0 < q.counts.get (some x) :=
    ⟨h'.counts_pos hp' hp (fun x => (hd x).symm) (fun x => (hc x).symm) h ho' ho,
      h.counts_pos hp hp' hd hc h' ho ho'⟩
  have hs : q.Sound m wraps := h.state_eq ho ▸ hp.declareAll ids
  have hs' : q'.Sound m wraps := h'.state_eq ho' ▸ hp'.declareAll ids'
  have hder (x : TypeId) : x ∈ q'.derivedTypes ↔ x ∈ q.derivedTypes := by
    rw [h.state_eq ho, h'.state_eq ho', Pass.derivedTypes_declareAll, Pass.derivedTypes_declareAll, hd]
  refine ⟨decls, q, decls', q', hr, hr', ?_, hs'.referencedTypeNames_congr hs hder hcounts⟩
  apply h.get?_congr h' ho ho'
  · funext id
    simp only [entry, hp.decl_congr hp' hd]
  · intro id
    simp only [Pass.mem_referencedTypes_iff, hcounts, hs'.decl_congr hs hder,
      (hs'.candidates_perm hs hder).mem_iff]

end SameReferences

/-- Rendering methods of a grounded model, one after the other, serves all their demands and gives their texts. -/
lemma gives_declareMethods (hg : m.Grounded) (indent : String) (methods : List MethodId) :
    (methods.mapM (t.declareMethod m indent)).Gives m wraps (methods.flatMap (t.methodDemands m wraps))
      (· = methods.map (t.methodText m wraps indent)) :=
  Step.Gives.mapM_eq fun id _ => gives_declareMethod hg id

/-- Whenever a pass that was not used before renders methods in one order, it renders them in another order, too, with
the same text of each, and then the same types have to be declared and the same declarations are rendered. -/
def SameInOrder (t : Target) (m : Model) (wraps : Bool) (indent : String) (methods methods' : List MethodId) : Prop :=
  ∀ texts p,
    (methods.mapM (t.declareMethod m indent)).runFrom { needsRequestTypes := wraps } = (.ok texts, p) →
    ∃ text p', texts = methods.map text ∧
      (methods'.mapM (t.declareMethod m indent)).runFrom { needsRequestTypes := wraps } =
        (.ok (methods'.map text), p') ∧
      p'.referencedTypeNames m = p.referencedTypeNames m ∧
      t.SameDeclarations m p p'

/-- The order in which methods are rendered makes no difference. -/
lemma sameInOrder_of_perm (hm : m.Built) (ht : m.Typed) (hg : m.Grounded) {indent : String}
    {methods methods' : List MethodId} (hperm : methods.Perm methods') :
    t.SameInOrder m wraps indent methods methods' := by
  intro texts p h
  have hf := Pass.Sound.fresh m wraps
  have hsame (d : Demand) : d ∈ methods.flatMap (t.methodDemands m wraps) ↔
      d ∈ methods'.flatMap (t.methodDemands m wraps) := (hperm.flatMap_right _).mem_iff
  obtain ⟨hserve, htexts⟩ := (gives_declareMethods hg indent methods).of_runFrom hf h
  obtain ⟨p', hserve'⟩ := (exists_serveAll_ok_congr hf (Pass.apart_fresh m wraps)
    (missing_notMem_of_serveAll hserve) hsame).1 ⟨_, hserve⟩
  obtain ⟨_, hrun', rfl⟩ := (gives_declareMethods hg indent methods').exists_of_serveAll hf hserve'
  -- what is derived and what is referenced depends on which demands there are
  have hp := hf.serveAll (methods.flatMap (t.methodDemands m wraps))
  have hp' := hf.serveAll (methods'.flatMap (t.methodDemands m wraps))
  have ha := Pass.apart_serveAll hf (Pass.apart_fresh m wraps) (methods.flatMap (t.methodDemands m wraps))
  rw [hserve] at hp ha
  rw [hserve'] at hp'
  have hd (x : TypeId) : x ∈ p.derivedTypes ↔ x ∈ p'.derivedTypes := by
    simp only [mem_derivedTypes_serveAll hf hserve, mem_derivedTypes_serveAll hf hserve', Makes, hsame]
  have hc (x : TypeId) : 0 < p.counts.get (some x) ↔ 0 < p'.counts.get (some x) := by
    simp only [counts_serveAll_pos_iff hf hserve, counts_serveAll_pos_iff hf hserve', hsame]
  exact ⟨_, p', htexts, hrun', (hp.referencedTypeNames_congr hp' hd hc).symm,
    sameDeclarations hp hp' hd hc ha hm.keyed ht⟩

/-- Two passes write the same texts: of a method that both can declare, of a type that both know, and of a type that
only the first one knows and that is handed to the second one. -/
structure SameTexts (t : Target) (m : Model) (p p' : Pass) : Prop where
  method : ∀ indent id text q text' q',
    (t.declareMethod m indent id).runFrom p = (.ok text, q) →
    (t.declareMethod m indent id).runFrom p' = (.ok text', q') →
    text = text'
  type : ∀ indent id, p.Knows id → ∃ text q q',
    (t.declareType m indent id).runFrom p = (.ok text, q) ∧
    (t.declareDecl m indent (p.decl m id)).runFrom p' = (.ok text, q') ∧
    (p'.Knows id → (t.declareType m indent id).runFrom p' = (.ok text, q'))

/-- Sound passes over one model with request types in both or in none write the same texts. -/
lemma sameTexts (ht : m.Typed) (hg : m.Grounded) (hp : p.Sound m wraps) (hp' : p'.Sound m wraps) :
    t.SameTexts m p p' where
  method indent id text q text' q' h h' := by
    have htext := ((gives_declareMethod hg id).of_runFrom hp h).2
    have htext' := ((gives_declareMethod hg id).of_runFrom hp' h').2
    exact htext.trans htext'.symm
  type indent id hid := by
    have hdecl (p : Pass) : (t.declareDecl m indent (m.declOf id)).runFrom p =
        (.ok (t.declText indent m.declOf (m.declOf id)), p.countAll (m.declOf id).mentions) :=
      runFrom_declareDecl_eq (ht.declOf id) (hg.declOf id) p
    have htype {p : Pass} (hp : p.Sound m wraps) (hid : p.Knows id) :
        (t.declareType m indent id).runFrom p = (t.declareDecl m indent (m.declOf id)).runFrom p := by
      rw [declareType, Step.runFrom_bind_of_ok (Step.runFrom_get p), hp.decl_of_knows hid]
    refine ⟨_, _, _, (htype hp hid).trans (hdecl p), ?_, fun hid' => (htype hp' hid').trans (hdecl p')⟩
    rw [hp.decl_of_knows hid, hdecl p']

/-- What was rendered before makes no difference. Two passes over one model, used in any way, write the same text of
every method that both can declare, and of every type. If methods can be rendered in some order by a pass that was not
used before, they can be rendered in every order, with the same texts and then with the same declarations. -/
theorem texts_regardless_of_history (hm : m.Built) (ht : m.Typed) (hg : m.Grounded) (t : Target)
    (hp : p.Reachable m) (hp' : p'.Reachable m) (hw : p.needsRequestTypes = p'.needsRequestTypes) :
    t.SameTexts m p p' ∧
    ∀ wraps indent methods methods', methods.Perm methods' → t.SameInOrder m wraps indent methods methods' := by
  obtain ⟨wraps, hs, _⟩ := hp.sound_apart
  obtain ⟨wraps', hs', _⟩ := hp'.sound_apart
  obtain rfl : wraps = wraps' := by rw [← hs.needs, hw, hs'.needs]
  exact ⟨sameTexts ht hg hs hs', fun wraps indent methods methods' => sameInOrder_of_perm hm ht hg⟩

/-- A pass that was not used before and one that declared a method write the same texts of the sample. The two methods
of the sample can be rendered in either order. -/
theorem texts_regardless_of_history_sample :
    Model.sample.Built ∧ Model.sample.Typed ∧ Model.sample.Grounded ∧
    ∃ p p' : Pass, p.Reachable .sample ∧ p'.Reachable .sample ∧ p.needsRequestTypes = p'.needsRequestTypes ∧
      p'.derivedTypes ≠ p.derivedTypes ∧
      (standard .typescript).SameTexts .sample p p' ∧
      [MethodId.mk 0, ⟨1⟩].Perm [⟨1⟩, ⟨0⟩] ∧
      (standard .typescript).SameInOrder .sample false "" [⟨0⟩, ⟨1⟩] [⟨1⟩, ⟨0⟩] := by
  have hp := Pass.Reachable.fresh (m := .sample) true
  have hp' := hp.use (.declareMethod (standard .typescript) "" ⟨0⟩)
  have hperm : [MethodId.mk 0, ⟨1⟩].Perm [⟨1⟩, ⟨0⟩] := .swap _ _ _
  obtain ⟨hsame, horder⟩ := texts_regardless_of_history Model.built_sample Model.typed_sample Model.grounded_sample
    (standard .typescript) hp hp' rfl
  exact ⟨Model.built_sample, Model.typed_sample, Model.grounded_sample, _, _, hp, hp', rfl, by decide, hsame, hperm,
    horder false "" _ _ hperm⟩

end Target

end SdkGen
