import Mathlib.Tactic.MkIffOfInductiveProp
import SdkGen.Proofs.Pass.Alike
import SdkGen.Proofs.Pass.Demand

/-!
# Passes that go in parallel

Two passes go in parallel if they derived the same types and count the same references, whatever they report and
whether or not they use request types. A reference neither fails nor has an effect on what can be derived, so passes
stay in parallel also when one of them makes its references earlier or later than the other one.

Main statement: `Demand.Reorders.serveAll`.
-/

namespace SdkGen

namespace Pass

/-- Two passes that got the same answers when they asked for derived types. -/
structure SameKept (p p' : Pass) : Prop where
  bound : p'.bound = p.bound
  requests : p'.requests = p.requests
  writeables : p'.writeables = p.writeables

/-- Two passes that derived the same types and count the same references. -/
structure Parallel (p p' : Pass) : Prop extends SameKept p p' where
  counts : ∀ x, p'.counts.get x = p.counts.get x

variable {m : Model} {p p' : Pass}

namespace SameKept

/-- A pass has kept what it has kept. -/
lemma refl (p : Pass) : p.SameKept p := ⟨rfl, rfl, rfl⟩

/-- A reference on one side leaves what was kept as it is. -/
lemma count_left (h : p.SameKept p') (type : Option TypeId) : (p.count type).SameKept p' :=
  ⟨h.bound, h.requests, h.writeables⟩

/-- References on both sides leave what was kept as it is. -/
lemma count (h : p.SameKept p') (type type' : Option TypeId) : (p.count type).SameKept (p'.count type') :=
  ⟨h.bound, h.requests, h.writeables⟩

/-- Events on both sides leave what was kept as it is. -/
lemma note (h : p.SameKept p') (e e' : Event) : (p.note e).SameKept (p'.note e') :=
  ⟨h.bound, h.requests, h.writeables⟩

/-- Both sides may keep the same. -/
lemma keep (h : p.SameKept p') (id : TypeId) (made : Option TypeDecl) :
    (p.keep id made).SameKept (p'.keep id made) := by
  cases id with
  | declared _ => exact h
  | request _ => exact ⟨h.bound, by simp only [Pass.keep, h.requests], h.writeables⟩
  | writeable _ => exact ⟨h.bound, h.requests, by simp only [Pass.keep, h.writeables]⟩

variable (h : p.SameKept p')

include h

/-- Passes that have kept the same declare the same. -/
lemma decl : p'.decl m = p.decl m := by
  funext id
  cases id <;> simp only [Pass.decl, h.requests, h.writeables]

/-- Passes that have kept the same give the same for each type. -/
lemma kept? : p'.kept? = p.kept? := by
  funext id
  cases id <;> simp only [Pass.kept?, h.requests, h.writeables]

/-- Passes that have kept the same have derived the same. -/
lemma derivedTypes : p'.derivedTypes = p.derivedTypes := by
  rw [Pass.derivedTypes, Pass.derivedTypes, h.requests, h.writeables]

/-- Passes that have kept the same have derived the same names. -/
lemma derivedNames : p'.derivedNames m = p.derivedNames m := by
  rw [Pass.derivedNames, Pass.derivedNames, h.derivedTypes, h.decl]

/-- In passes that have kept the same, the same names are taken. -/
lemma nameTaken (name : String) : p'.nameTaken m name = p.nameTaken m name := by
  rw [Pass.nameTaken, Pass.nameTaken, h.derivedNames]

/-- Passes that have kept the same have the same candidates. -/
lemma candidates : p'.candidates m = p.candidates m := by
  simp only [Pass.candidates, sortByName, h.bound, h.derivedTypes, h.decl]

/-- A demand is answered by both passes in the same way. -/
lemma serve (d : Demand) :
    (d.serve m p').1 = (d.serve m p).1 ∧ (d.serve m p).2.SameKept (d.serve m p').2 := by
  cases d with
  | reference type => exact ⟨rfl, h.count type type⟩
  | missing => exact ⟨rfl, h⟩
  | derive id =>
    simp only [Demand.serve, h.kept?, h.nameTaken]
    rcases p.kept? id with _ | _ | t
    · rcases m.made? id with _ | t
      · exact ⟨rfl, h.keep id none⟩
      · dsimp only
        split
        · exact ⟨rfl, h⟩
        · exact ⟨rfl, ((h.note _ _).keep id (some t)).count _ _⟩
    · exact ⟨rfl, h⟩
    · exact ⟨rfl, h.count _ _⟩

end SameKept

namespace Parallel

/-- Passes that have just begun go in parallel. -/
lemma fresh (wraps wraps' : Bool) :
    ({ needsRequestTypes := wraps } : Pass).Parallel { needsRequestTypes := wraps' } where
  toSameKept := ⟨rfl, rfl, rfl⟩
  counts _ := rfl

variable (h : p.Parallel p')

include h

/-- Parallel passes stay so with a reference to the same type. -/
lemma count (type : Option TypeId) : (p.count type).Parallel (p'.count type) where
  toSameKept := h.toSameKept.count type type
  counts x := by simp only [counts_count, h.counts]

/-- Parallel passes stay so with any events. -/
lemma note (e e' : Event) : (p.note e).Parallel (p'.note e') where
  toSameKept := h.toSameKept.note e e'
  counts := h.counts

/-- Parallel passes have referenced the same types. -/
lemma referencedTypeNames : p'.referencedTypeNames m = p.referencedTypeNames m := by
  simp only [Pass.referencedTypeNames, referencedTypes, h.candidates, h.decl, h.counts]

/-- Parallel passes have counted the same. -/
lemma refCount (r : Option TypeRef) : p'.refCount r = p.refCount r := by
  rcases r with _ | _ | _
  · exact h.counts none
  · exact h.counts _
  · rfl

end Parallel

end Pass

namespace Demand

variable {m : Model} {wraps wraps' : Bool} {p p' : Pass} {ds ds' es es' : List Demand}

/-- Whether a demand is a reference, which never fails and derives nothing. -/
def isReference : Demand → Bool
  | .reference _ => true
  | _ => false

/-- The demands of a list that may fail or derive types. -/
def decisive (ds : List Demand) : List Demand := ds.filter fun d => !d.isReference

/-- Without the references, demands come to the same end and derive the same types. -/
lemma serveAll_decisive (ds : List Demand) (h : p.SameKept p') :
    (serveAll m (decisive ds) p').1 = (serveAll m ds p).1 ∧
      (serveAll m ds p).2.SameKept (serveAll m (decisive ds) p').2 := by
  induction ds generalizing p p' with
  | nil => exact ⟨rfl, h⟩
  | cons d ds ih =>
    cases hd : d.isReference with
    | true =>
      have hdrop : decisive (d :: ds) = decisive ds := List.filter_cons_of_neg (by simp [hd])
      rw [hdrop]
      cases d with
      | reference type => exact ih (h.count_left type)
      | derive _ => cases hd
      | missing => cases hd
    | false =>
      have hkeep : decisive (d :: ds) = d :: decisive ds := List.filter_cons_of_pos (by simp [hd])
      obtain ⟨he, hs⟩ := h.serve (m := m) d
      rw [hkeep, serveAll, serveAll]
      rcases hserve : d.serve m p with ⟨f | u, p₁⟩ <;>
        rcases hserve' : d.serve m p' with ⟨f' | u', p₁'⟩ <;>
        simp only [hserve, hserve', reduceCtorEq, Except.error.injEq] at he hs ⊢
      · exact ⟨he, hs⟩
      · exact ih hs

/-- Two lists hold the same demands, and those that may fail or derive types in the same order. -/
structure Reorders (ds ds' : List Demand) : Prop where
  perm : ds.Perm ds'
  order : decisive ds' = decisive ds

namespace Reorders

/-- Demands are a reordering of themselves. -/
lemma refl (ds : List Demand) : Reorders ds ds := ⟨.refl ds, rfl⟩

/-- Reordered demands may come one list after the other. -/
lemma append (h : Reorders ds ds') (he : Reorders es es') : Reorders (ds ++ es) (ds' ++ es') where
  perm := h.perm.append he.perm
  order := by
    have hd := h.order
    have he := he.order
    simp only [decisive, List.filter_append] at hd he ⊢
    rw [hd, he]

/-- Demands may be reordered item by item. -/
lemma flatMap {ι : Type} {demands demands' : ι → List Demand} (h : ∀ i, Reorders (demands i) (demands' i))
    (l : List ι) : Reorders (l.flatMap demands) (l.flatMap demands') := by
  induction l with
  | nil => exact refl []
  | cons i l ih =>
    rw [List.flatMap_cons, List.flatMap_cons]
    exact (h i).append ih

/-- References may be made later. -/
lemma postpone (h : ∀ d ∈ es, d.isReference) (ds : List Demand) : Reorders (es ++ ds) (ds ++ es) where
  perm := List.perm_append_comm
  order := by
    have he : decisive es = [] := List.filter_eq_nil_iff.2 fun d hd => by simp [h d hd]
    simp only [decisive, List.filter_append] at he ⊢
    rw [he, List.append_nil, List.nil_append]

/-- Passes that go in parallel come to the same end when they serve the same demands, the references among them at any
time, and if they serve all of them, they go in parallel again. -/
theorem serveAll (h : Reorders ds ds') (hp : p.Sound m wraps) (hp' : p'.Sound m wraps') (hpp : p.Parallel p') :
    (serveAll m ds' p').1 = (serveAll m ds p).1 ∧
      ((serveAll m ds p).1 = .ok () → (serveAll m ds p).2.Parallel (serveAll m ds' p').2) := by
  -- both lists are compared with the decisive demands that they share
  obtain ⟨he, hk⟩ := serveAll_decisive ds hpp.toSameKept
  obtain ⟨he', hk'⟩ := serveAll_decisive ds' (.refl p')
  rw [h.order] at he' hk'
  have hend : (Demand.serveAll m ds' p').1 = (Demand.serveAll m ds p).1 := he'.symm.trans he
  refine ⟨hend, fun hok => ⟨⟨?_, ?_, ?_⟩, fun x => ?_⟩⟩
  · rw [← hk'.bound, hk.bound]
  · rw [← hk'.requests, hk.requests]
  · rw [← hk'.writeables, hk.writeables]
  · rw [counts_serveAll hp (Prod.ext hok rfl) x, counts_serveAll hp' (Prod.ext (hend.trans hok) rfl) x,
      hpp.counts, h.perm.countP_eq]

end Reorders

end Demand

namespace Step

variable {α β α' β' : Type} {Q : α → β → Prop} {Q' : α' → β' → Prop}

/-- Two runs come to the same end: both fail in the same way, or both give values and leave passes that go in
parallel. -/
@[mk_iff]
inductive SameEnd (Q : α → β → Prop) : Except Failure α × Pass → Except Failure β × Pass → Prop where
  | ok {a b p p'} :
    Q a b →
    p.Parallel p' →
    SameEnd Q (.ok a, p) (.ok b, p')
  | error (f p p') :
    SameEnd Q (.error f, p) (.error f, p')

/-- Steps that match come to the same end. -/
lemma Matches.sameEnd {s : Step α} {s' : Step β} (h : Matches Pass.Parallel True s s' Q) {p p' : Pass}
    (hp : p.Parallel p') : SameEnd Q (s.runFrom p) (s'.runFrom p') := by
  have h := h p p' hp
  rcases he : s'.runFrom p' with ⟨f | b, q'⟩ <;> rw [he] at h
  · obtain ⟨q, h, _⟩ := h trivial
    rw [h]
    exact .error f q q'
  · obtain ⟨a, q, h, hq, hp⟩ := h
    rw [h]
    exact .ok hq hp

/-- Runs that came to the same end and go on with steps that match come to the same end again. -/
lemma SameEnd.bind {s : Step α} {s' : Step β} {k : α → Step α'} {k' : β → Step β'} {p p' : Pass}
    (h : SameEnd Q (s.runFrom p) (s'.runFrom p'))
    (hk : ∀ a b, Q a b → Matches Pass.Parallel True (k a) (k' b) Q') :
    SameEnd Q' ((s >>= k).runFrom p) ((s' >>= k').runFrom p') := by
  rcases hs : s.runFrom p with ⟨f | a, q⟩ <;> rcases hs' : s'.runFrom p' with ⟨f' | b, q'⟩ <;> rw [hs, hs'] at h <;>
    cases h
  · rw [runFrom_bind_of_error hs, runFrom_bind_of_error hs']
    exact .error f q q'
  · next hq hp =>
    rw [runFrom_bind_of_ok hs, runFrom_bind_of_ok hs']
    exact (hk a b hq).sameEnd hp

end Step

end SdkGen
