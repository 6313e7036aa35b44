import Mathlib.Data.List.Perm.Subperm
import SdkGen.Proofs.Generate.Rounds
import SdkGen.Proofs.Pass.Calls
import SdkGen.Proofs.Target.Demands

/-!
# Passes in use

Whoever holds a pass may use it in any order and as often as it takes: map and declare what is in the model and what
is not, ask for derived types, and go on after a failure. `Pass.Reachable` are the passes that this leads to.

Main statements: `Pass.Reachable.sound_apart` (in use, a pass keeps what makes it orderly) and
`Target.renderDeclarations_settles` (whatever a pass was used for, rendering declarations ends, declares each type
once and nothing but what has to be declared, and to do it again changes nothing).
-/

namespace SdkGen

/-- What a pass can be used for, with any target and any argument. To look at a pass changes nothing and is left
out. -/
inductive Step.IsUse (m : Model) : {α : Type} → Step α → Prop where
  | reference (r : Option TypeRef) :
    IsUse m (Step.reference r)
  | requestTypeFor (id : MethodId) :
    IsUse m (Step.requestTypeFor m id)
  | writeableTypeFor (r : Option TypeRef) :
    IsUse m (Step.writeableTypeFor m r)
  | plainTypeMap (r : Option TypeRef) :
    IsUse m (Target.plainTypeMap m r)
  | typeMap (t : Target) (qualifier : String) (r : Option TypeRef) :
    IsUse m (t.typeMap m qualifier r)
  | declareParameter (t : Target) (indent : String) (q : Parameter) :
    IsUse m (t.declareParameter m indent q)
  | declareParameters (t : Target) (indent : String) (qs : List Parameter) :
    IsUse m (t.declareParameters m indent qs)
  | declareProperty (t : Target) (indent : String) (q : Property) :
    IsUse m (t.declareProperty m indent q)
  | declareDecl (t : Target) (indent : String) (d : TypeDecl) :
    IsUse m (t.declareDecl m indent d)
  | declareType (t : Target) (indent : String) (id : TypeId) :
    IsUse m (t.declareType m indent id)
  | errorResponses (t : Target) (qualifier : String) (method : Method) :
    IsUse m (t.errorResponses m qualifier method)
  | httpCall (t : Target) (indent : String) (method : Method) (front : String) :
    IsUse m (t.httpCall m indent method front)
  | methodSignature (t : Target) (indent : String) (id : MethodId) :
    IsUse m (t.methodSignature m indent id)
  | declareMethod (t : Target) (indent : String) (id : MethodId) :
    IsUse m (t.declareMethod m indent id)
  | renderMethods (t : Target) :
    IsUse m (t.renderMethods m)
  | renderDeclarations (t : Target) :
    IsUse m (t.renderDeclarations m)

/-- The passes over a model that uses lead to, whether or not they fail. -/
inductive Pass.Reachable (m : Model) : Pass → Prop where
  | fresh (wraps : Bool) :
    Reachable m { needsRequestTypes := wraps }
  | use {p} {α : Type} {s : Step α} :
    Reachable m p →
    s.IsUse m →
    Reachable m (s.runFrom p).2

namespace Target

section Keeps

variable {t : Target} {m : Model} {wraps : Bool} {I : Pass → Prop} (hI : ∀ p, I p → p.Sound m wraps)
  (hcount : ∀ p type, I p → I (p.count type)) (hnote : ∀ p e, I p → I (p.note e))

include hI hcount

/-- Declaring a type keeps what references keep. -/
lemma keeps_declareDecl (indent : String) (d : TypeDecl) : (t.declareDecl m indent d).Keeps I := by
  apply (serves_declareDecl d).keeps hI
  intro demand hd p hp
  obtain ⟨q, _, hd⟩ := List.mem_flatMap.1 hd
  cases demand with
  | reference type => exact hcount p type hp
  | missing => exact hp
  | derive id => cases hq : q.type <;> simp [hq, Demand.ofMention] at hd

/-- Declaring a type keeps what one more reference keeps. -/
lemma keeps_declareType (indent : String) (id : TypeId) : (t.declareType m indent id).Keeps I :=
  .get_bind fun p => keeps_declareDecl hI hcount indent (p.decl m id)

include hnote

/-- Declaring the next type of a round keeps what one more reference keeps. -/
lemma keeps_declareNext (done : Dict String String) (id : TypeId) : (t.declareNext m done id).Keeps I := by
  rw [declareNext]
  apply Step.Keeps.get_bind
  intro p
  have hreport : (Step.report (.declaring (p.decl m id).name)).Keeps I := fun p hp => hnote p _ hp
  exact hreport.bind fun _ => (keeps_declareDecl hI hcount "" _).bind fun _ => .pure _

/-- Declaring in rounds keeps what references and reports keep. -/
lemma keeps_declareRounds (remaining : List TypeId) (done : Dict String String) :
    (t.declareRounds m remaining done).Keeps I := by
  induction h : remaining.length using Nat.strongRecOn generalizing remaining done with
  | ind n ih =>
    rw [declareRounds]
    apply Step.Keeps.get_bind
    intro p
    split
    · exact .pure done
    · next hu =>
      apply (Step.Keeps.foldlM (keeps_declareNext hI hcount hnote) _ _).bind
      intro done'
      exact ih _ (h ▸ Pass.length_waiting_lt hu) _ _ rfl

/-- Rendering all declarations keeps what one more reference keeps. -/
lemma keeps_renderDeclarations : (t.renderDeclarations m).Keeps I :=
  .get_bind fun _ => keeps_declareRounds hI hcount hnote _ _

end Keeps

end Target

/-- Whatever a pass is used for, it stays sound, and its types stay apart. -/
lemma Step.IsUse.keepsApart {α : Type} {m : Model} {wraps : Bool} {s : Step α} (hs : s.IsUse m) :
    s.KeepsApart m wraps := by
  cases hs with
  | reference r => exact (serves_reference r).keepsApart
  | requestTypeFor id => exact (gives_requestTypeFor id).serves.keepsApart
  | writeableTypeFor r => exact (gives_writeableTypeFor r).serves.keepsApart
  | plainTypeMap r => exact (Target.serves_plainTypeMap r).keepsApart
  | typeMap t qualifier r => exact (Target.serves_typeMap r).keepsApart
  | declareParameter t indent q => exact (Target.serves_declareParameter q).keepsApart
  | declareParameters t indent qs => exact (Target.serves_declareParameters qs).keepsApart
  | declareProperty t indent q => exact (Target.serves_declareProperty q).keepsApart
  | declareDecl t indent d => exact (Target.serves_declareDecl d).keepsApart
  | declareType t indent id =>
    apply Keeps.keepsApart
    exact Target.keeps_declareType (fun _ h => h.1) (fun _ type h => ⟨h.1.count type, h.2⟩) indent id
  | errorResponses t qualifier method => exact (Target.serves_errorResponses method).keepsApart
  | httpCall t indent method front => exact (Target.serves_httpCall method front).keepsApart
  | methodSignature t indent id => exact (Target.serves_methodSignature id).keepsApart
  | declareMethod t indent id => exact (Target.serves_declareMethod id).keepsApart
  | renderMethods t => exact Target.serves_renderMethods.keepsApart
  | renderDeclarations t =>
    apply Keeps.keepsApart
    exact Target.keeps_renderDeclarations (fun _ h => h.1) (fun _ type h => ⟨h.1.count type, h.2⟩)
      fun _ e h => ⟨h.1.note e, h.2⟩

/-- In use, a pass is sound, and its types are apart. -/
theorem Pass.Reachable.sound_apart {m : Model} {p : Pass} (h : p.Reachable m) :
    ∃ wraps, p.Sound m wraps ∧ m.Apart (· ∈ p.derivedTypes) := by
  induction h with
  | fresh wraps => exact ⟨wraps, .fresh m wraps, Pass.apart_fresh m wraps⟩
  | use _ hs ih =>
    obtain ⟨wraps, hp, ha⟩ := ih
    exact ⟨wraps, hs.keepsApart _ hp ha⟩

namespace Target

variable {t : Target} {m : Model} {wraps : Bool} {p p' p'' : Pass} {ids ids' : List TypeId}
  {decls decls' : Dict String String}

/-- What rendering declarations does: the loop ends with a declaration of every type that has to be declared in the
end, made once, and no type is derived. -/
structure Settles (t : Target) (m : Model) (p : Pass) (ids : List TypeId) (decls : Dict String String)
    (p' : Pass) : Prop where
  loop : t.Declares m p .empty ids decls p'
  run : (t.renderDeclarations m).runFrom p = (.ok decls, p')
  once : ids.Nodup
  length_le : ids.length ≤
    (m.types.values.filter fun id => !(m.declOf id).intrinsic).length + p.derivedTypes.length
  derivedTypes : p'.derivedTypes = p.derivedTypes
  mem_iff : ∀ id, id ∈ ids ↔ id ∈ p'.referencedTypes m
  mem_keys_iff : ∀ name, name ∈ decls.keys ↔ name ∈ p'.referencedTypeNames m

/-- No more types are declared than there are to declare. -/
lemma Declares.length_le (h : t.Declares m p .empty ids decls p') (hp : p.Sound m wraps)
    (hm : m.Keyed) (ho : p.Orderly m) :
    ids.length ≤
      (m.types.values.filter fun id => !(m.declOf id).intrinsic).length + p.derivedTypes.length := by
  rw [← List.length_append]
  apply (List.subperm_of_subset (h.nodup ho) _).length_le
  intro id hid
  obtain ⟨hc, _, hi⟩ := Pass.mem_referencedTypes_iff.1 (h.of_mem ho hid).1
  rw [h.state_eq ho, Pass.candidates_declareAll] at hc
  rw [h.state_eq ho, Pass.decl_declareAll] at hi
  have hc := hp.mem_candidates_iff.1 hc
  rw [hp.decl_of_isCandidate hm hc] at hi
  rcases hc with hc | hc
  · exact List.mem_append_left _ (List.mem_filter.2 ⟨hc, by simp [hi]⟩)
  · exact List.mem_append_right _ hc

/-- In a sound pass whose types are apart, rendering declarations does what it is for. -/
lemma exists_settles (hp : p.Sound m wraps) (ha : m.Apart (· ∈ p.derivedTypes)) (hm : m.Keyed)
    (ht : m.Typed) : ∃ ids decls p', t.Settles m p ids decls p' := by
  have ho := hp.orderly ha hm ht
  obtain ⟨ids, decls, p', h, hr⟩ := exists_renderDeclarations (t := t) ho
  refine ⟨ids, decls, p', h, hr, h.nodup ho, h.length_le hp hm ho, ?_, fun _ => h.mem_iff ho,
    h.mem_keys_iff ho⟩
  rw [h.state_eq ho, Pass.derivedTypes_declareAll]

/-- After declarations were rendered, every reference of a type that a declared type mentions is there. -/
lemma Declares.closed (h : t.Declares m p .empty ids decls p') (ho : p.Orderly m) {id : TypeId}
    (hid : id ∈ p'.referencedTypes m) : ∀ x ∈ (p.decl m id).mentions, 0 < p'.counts.get (some x) := by
  intro x hx
  rw [h.state_eq ho]
  exact Pass.counts_declareAll_pos_iff.2 (.inr ⟨id, (h.mem_iff ho).2 hid, hx⟩)

/-- To render declarations again brings up no new type. -/
lemma Declares.referencedTypes_again (h : t.Declares m p .empty ids decls p')
    (h' : t.Declares m p' .empty ids' decls' p'') (ho : p.Orderly m) :
    p''.referencedTypes m = p'.referencedTypes m := by
  have hp' := h.state_eq ho
  have ho' : p'.Orderly m := hp' ▸ ho.declareAll ids
  have hd : p'.decl m = p.decl m := by rw [hp', Pass.decl_declareAll]
  have hgrow : ∀ x, 0 < p'.counts.get (some x) → 0 < p''.counts.get (some x) := by
    intro x hx
    rw [h'.state_eq ho']
    exact Pass.counts_declareAll_pos_iff.2 (.inl hx)
  -- the references after the first run are closed, so the second run adds none to another type
  have hleast : ∀ x, 0 < p''.counts.get (some x) → 0 < p'.counts.get (some x) := by
    apply h'.least ho' fun _ => id
    intro id hc hi hn
    rw [hd]
    exact h.closed ho (Pass.mem_referencedTypes_iff.2 ⟨hc, hn, hi⟩)
  have hc : p''.candidates m = p'.candidates m := by
    rw [h'.state_eq ho', Pass.candidates_declareAll]
  have hd' : p''.decl m = p'.decl m := by rw [h'.state_eq ho', Pass.decl_declareAll]
  simp only [Pass.referencedTypes, hc, hd']
  apply List.filter_congr
  intro id _
  rw [Bool.eq_iff_iff]
  simp only [Bool.and_eq_true, decide_eq_true_eq]
  exact and_congr_left fun _ => ⟨hleast id, hgrow id⟩

/-- Where the same types have to be declared in the end and are declared in the same way, the declarations are the
same. -/
lemma Declares.get?_congr {p₁ p₁' : Pass} (h : t.Declares m p .empty ids decls p₁)
    (h' : t.Declares m p' .empty ids' decls' p₁') (ho : p.Orderly m) (ho' : p'.Orderly m)
    (he : t.entry m p' = t.entry m p)
    (hr : ∀ id, id ∈ p₁'.referencedTypes m ↔ id ∈ p₁.referencedTypes m) (name : String) :
    decls'.get? name = decls.get? name := by
  apply Option.ext
  intro text
  rw [Dict.get?_eq_some_iff, Dict.get?_eq_some_iff, h.entries_eq ho, h'.entries_eq ho', he]
  simp only [List.mem_append, List.mem_map, h.mem_iff ho, h'.mem_iff ho', hr]

/-- To render declarations again gives the same declarations. -/
lemma Declares.get?_again (h : t.Declares m p .empty ids decls p')
    (h' : t.Declares m p' .empty ids' decls' p'') (ho : p.Orderly m) (name : String) :
    decls'.get? name = decls.get? name := by
  have ho' : p'.Orderly m := h.state_eq ho ▸ ho.declareAll ids
  have he : t.entry m p' = t.entry m p := by rw [h.state_eq ho, entry_declareAll]
  exact h.get?_congr h' ho ho' he (fun id => by rw [h.referencedTypes_again h' ho]) name

/-- Whatever a pass over a model was used for, rendering declarations ends, declares each type that has to be
declared once, and derives none. To render declarations again leaves the types that have to be declared and their
declarations as they are; only references are counted again. -/
theorem renderDeclarations_settles (hm : m.Built) (ht : m.Typed) (t : Target) (hp : p.Reachable m) :
    ∃ ids decls p', t.Settles m p ids decls p' ∧
      ∃ ids' decls' p'', t.Settles m p' ids' decls' p'' ∧
        p''.referencedTypeNames m = p'.referencedTypeNames m ∧
        (∀ name, decls'.get? name = decls.get? name) ∧
        ∀ x, p'.counts.get x ≤ p''.counts.get x := by
  obtain ⟨wraps, hs, ha⟩ := hp.sound_apart
  have ho := hs.orderly ha hm.keyed ht
  obtain ⟨ids, decls, p', h⟩ := exists_settles (t := t) hs ha hm.keyed ht
  have hs' : p'.Sound m wraps := h.loop.state_eq ho ▸ hs.declareAll ids
  have ha' : m.Apart (· ∈ p'.derivedTypes) := h.derivedTypes ▸ ha
  obtain ⟨ids', decls', p'', h'⟩ := exists_settles (t := t) hs' ha' hm.keyed ht
  have ho' := hs'.orderly ha' hm.keyed ht
  refine ⟨ids, decls, p', h, ids', decls', p'', h', ?_, h.loop.get?_again h'.loop ho, fun x => ?_⟩
  · have hd : p''.decl m = p'.decl m := by rw [h'.loop.state_eq ho', Pass.decl_declareAll]
    rw [Pass.referencedTypeNames, Pass.referencedTypeNames, h.loop.referencedTypes_again h'.loop ho, hd]
  · rw [h'.loop.state_eq ho', Pass.counts_declareAll]
    exact Nat.le_add_right _ _

/-- A pass that was used to declare a method and, in vain, another one. -/
theorem renderDeclarations_settles_sample :
    Model.sample.Built ∧ Model.sample.Typed ∧
    ∃ p : Pass, p.Reachable .sample ∧
      ∃ ids decls p', (standard .typescript).Settles .sample p ids decls p' ∧
        ∃ ids' decls' p'', (standard .typescript).Settles .sample p' ids' decls' p'' ∧
          p''.referencedTypeNames .sample = p'.referencedTypeNames .sample ∧
          (∀ name, decls'.get? name = decls.get? name) ∧
          ∀ x, p'.counts.get x ≤ p''.counts.get x := by
  have first := (Pass.Reachable.fresh (m := .sample) true).use (.declareMethod (standard .typescript) "" ⟨0⟩)
  have second := first.use (.declareMethod (standard .typescript) "" ⟨1⟩)
  exact ⟨Model.built_sample, Model.typed_sample, _, second,
    renderDeclarations_settles Model.built_sample Model.typed_sample _ second⟩

end Target

end SdkGen
