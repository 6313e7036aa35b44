import Mathlib.Data.List.Forall2
import SdkGen.Proofs.Pass.Run

/-!
# Steps that do alike

Two steps are taken from two passes that are in some relation. They *match* if the first one gives whatever the second
one gives, and leaves passes that are in the relation again. If they match strictly, the first one also fails wherever
the second one does. Steps that are put together from matching steps match.

Main statements: `Matches.bind`, `Matches.mapM` and `Matches.foldlM`.
-/

namespace SdkGen.Step

variable {α β α' β' ι ι' : Type} {R : Pass → Pass → Prop} {strict : Prop} {s : Step α} {s' : Step β}
  {Q : α → β → Prop} {Q' : α' → β' → Prop}

/-- From related passes, the first step does what the second one does; with failures, if that is strict. -/
def Matches (R : Pass → Pass → Prop) (strict : Prop) (s : Step α) (s' : Step β) (Q : α → β → Prop) : Prop :=
  ∀ p p', R p p' →
    match s'.runFrom p' with
    | (.ok b, p₁') => ∃ a p₁, s.runFrom p = (.ok a, p₁) ∧ Q a b ∧ R p₁ p₁'
    | (.error f, p₁') => strict → ∃ p₁, s.runFrom p = (.error f, p₁) ∧ R p₁ p₁'

/-- Steps that match and give the same. -/
abbrev Alike (R : Pass → Pass → Prop) (strict : Prop) (s s' : Step α) : Prop :=
  Matches R strict s s' fun a b => b = a

/-- Values that match are given side by side. -/
lemma Matches.pure {a : α} {b : β} (h : Q a b) : Matches R strict (pure a) (pure b) Q :=
  fun p _ hR => ⟨a, p, rfl, h, hR⟩

/-- The same value is given on both sides. -/
lemma Alike.pure (a : α) : Alike R strict (pure a) (pure a) :=
  Matches.pure rfl

/-- Steps that fail in the same way match. -/
lemma Matches.fault (f : Fault) : Matches R strict (fault f : Step α) (fault f : Step β) Q :=
  fun p _ hR _ => ⟨p, rfl, hR⟩

/-- Matching steps may be followed by matching steps. -/
lemma Matches.bind {k : α → Step α'} {k' : β → Step β'} (hs : Matches R strict s s' Q)
    (hk : ∀ a b, Q a b → Matches R strict (k a) (k' b) Q') : Matches R strict (s >>= k) (s' >>= k') Q' := by
  intro p p' hR
  have hs := hs p p' hR
  rcases he : s'.runFrom p' with ⟨f | b, p₁'⟩
  · rw [he] at hs
    rw [runFrom_bind_of_error he]
    intro hstrict
    obtain ⟨p₁, h₁, hR₁⟩ := hs hstrict
    exact ⟨p₁, runFrom_bind_of_error h₁, hR₁⟩
  · rw [he] at hs
    obtain ⟨a, p₁, h₁, hq, hR₁⟩ := hs
    rw [runFrom_bind_of_ok he, runFrom_bind_of_ok h₁]
    exact hk a b hq p₁ p₁' hR₁

/-- Steps that do alike may be followed by steps that match whatever was given. -/
lemma Alike.bind {s s' : Step α} {k : α → Step α'} {k' : α → Step β'} (hs : Alike R strict s s')
    (hk : ∀ a, Matches R strict (k a) (k' a) Q') : Matches R strict (s >>= k) (s' >>= k') Q' :=
  Matches.bind hs fun a _ e => e ▸ hk a

/-- Steps that look at the pass match if they match for related passes. -/
lemma Matches.get_bind {k : Pass → Step α} {k' : Pass → Step β}
    (hk : ∀ p p', R p p' → Matches R strict (k p) (k' p') Q) :
    Matches R strict (get >>= k) (get >>= k') Q := by
  intro p p' hR
  rw [runFrom_bind_of_ok (runFrom_get p), runFrom_bind_of_ok (runFrom_get p')]
  exact hk p p' hR p p' hR

/-- Values that match in one way match in a weaker one. -/
lemma Matches.imp {Q' : α → β → Prop} (hs : Matches R strict s s' Q) (hQ : ∀ a b, Q a b → Q' a b) :
    Matches R strict s s' Q' := by
  intro p p' hR
  have hs := hs p p' hR
  split at hs
  · obtain ⟨a, p₁, h, hq, hR⟩ := hs
    exact ⟨a, p₁, h, hQ a _ hq, hR⟩
  · exact hs

/-- Steps for each item of two lists match if they match for items that go together. -/
lemma Matches.mapM {k : ι → Step α} {k' : ι' → Step β} {g : ι → ι'} {l : List ι}
    (hk : ∀ i ∈ l, Matches R strict (k i) (k' (g i)) Q) :
    Matches R strict (l.mapM k) ((l.map g).mapM k') (List.Forall₂ Q) := by
  induction l with
  | nil => exact Matches.pure .nil
  | cons i l ih =>
    rw [List.map_cons, List.mapM_cons, List.mapM_cons]
    apply (hk i List.mem_cons_self).bind
    intro a b hab
    apply (ih fun j hj => hk j (List.mem_cons_of_mem i hj)).bind
    intro as bs hall
    exact Matches.pure (.cons hab hall)

/-- Folds over two lists match if they match for items that go together. -/
lemma Matches.foldlM {k : α → ι → Step α} {k' : β → ι' → Step β} {g : ι → ι'} {l : List ι}
    (hk : ∀ a b, Q a b → ∀ i ∈ l, Matches R strict (k a i) (k' b (g i)) Q) {a : α} {b : β} (h : Q a b) :
    Matches R strict (l.foldlM k a) ((l.map g).foldlM k' b) Q := by
  induction l generalizing a b with
  | nil => exact Matches.pure h
  | cons i l ih =>
    rw [List.map_cons, List.foldlM_cons, List.foldlM_cons]
    apply (hk a b h i List.mem_cons_self).bind
    intro a' b' h'
    exact ih (fun a b h j hj => hk a b h j (List.mem_cons_of_mem i hj)) h'

/-- Steps for each item of two lists do alike if they do alike for items that go together. -/
lemma Alike.mapM {k : ι → Step α} {k' : ι' → Step α} {g : ι → ι'} {l : List ι}
    (hk : ∀ i ∈ l, Alike R strict (k i) (k' (g i))) : Alike R strict (l.mapM k) ((l.map g).mapM k') := by
  apply (Matches.mapM hk).imp
  intro as bs h
  have h : List.Forall₂ Eq bs as := h.flip
  rwa [List.forall₂_eq_eq_eq] at h

/-- Folds over two lists do alike if they do alike for items that go together. -/
lemma Alike.foldlM {k : α → ι → Step α} {k' : α → ι' → Step α} {g : ι → ι'} {l : List ι}
    (hk : ∀ a, ∀ i ∈ l, Alike R strict (k a i) (k' a (g i))) (a : α) :
    Alike R strict (l.foldlM k a) ((l.map g).foldlM k' a) := by
  apply Matches.foldlM (Q := fun a b => b = a) _ rfl
  rintro _ b rfl
  exact hk b

end SdkGen.Step
