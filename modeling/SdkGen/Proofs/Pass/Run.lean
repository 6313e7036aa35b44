import Mathlib.Data.List.Forall2
import Mathlib.Tactic.Basic
import SdkGen.Pass.Basic
import SdkGen.Proofs.Failures

/-!
# Running steps

What the building blocks of steps do to the state of a pass. `Step.runFrom_bind` is the one that matters: the second
step goes on from the state in which the first one ends, also the state of a step that fails is kept. `Step.Keeps` are
the properties of passes that outlast a step; what all parts of a step keep is kept by the step.
-/

namespace SdkGen.Step

variable {α β : Type}

/-- A value is given without a change to the pass. -/
@[simp] lemma runFrom_pure (a : α) (p : Pass) :
    (pure a : Step α).runFrom p = (.ok a, p) := rfl

/-- A look at the pass leaves it as it is. -/
@[simp] lemma runFrom_get (p : Pass) :
    (get : Step Pass).runFrom p = (.ok p, p) := rfl

/-- Afterwards, the pass is the changed one. -/
@[simp] lemma runFrom_modify (g : Pass → Pass) (p : Pass) :
    (modify g : Step Unit).runFrom p = (.ok (), g p) := rfl

/-- The second of two steps goes on where the first one ends, unless the first one fails. -/
lemma runFrom_bind (s : Step α) (k : α → Step β) (p : Pass) :
    (s >>= k).runFrom p = match s.runFrom p with
      | (.ok a, p') => (k a).runFrom p'
      | (.error f, p') => (.error f, p') := by
  rw [runFrom, runState_bind]
  rcases h : s.run.run p with ⟨_ | _, _⟩ <;> simp only [runFrom, h]

/-- Behind a step that gives a value, a run goes on with it. -/
lemma runFrom_bind_of_ok {s : Step α} {k : α → Step β} {p p' : Pass} {a : α}
    (h : s.runFrom p = (.ok a, p')) : (s >>= k).runFrom p = (k a).runFrom p' := by
  rw [runFrom_bind, h]

/-- A run ends with the first step that fails. -/
lemma runFrom_bind_of_error {s : Step α} {k : α → Step β} {p p' : Pass} {f : Failure}
    (h : s.runFrom p = (.error f, p')) : (s >>= k).runFrom p = (.error f, p') := by
  rw [runFrom_bind, h]

/-- Where two steps in a row gave a value, both did. -/
lemma exists_of_runFrom_bind {s : Step α} {k : α → Step β} {p p' : Pass} {b : β}
    (h : (s >>= k).runFrom p = (.ok b, p')) :
    ∃ a q, s.runFrom p = (.ok a, q) ∧ (k a).runFrom q = (.ok b, p') := by
  rw [runFrom_bind] at h
  split at h
  · next a q hs => exact ⟨a, q, hs, h⟩
  · cases h

/-- The value of a step may be changed behind it. -/
@[simp] lemma runFrom_map (g : α → β) (s : Step α) (p : Pass) :
    (g <$> s).runFrom p = ((s.runFrom p).1.map g, (s.runFrom p).2) := by
  rw [map_eq_pure_bind, runFrom_bind]
  rcases s.runFrom p with ⟨_ | _, _⟩ <;> rfl

/-- A step gives a value just as well when the value is changed. -/
lemma exists_runFrom_map {g : α → β} {s : Step α} {p p' : Pass} (h : ∃ a, s.runFrom p = (.ok a, p')) :
    ∃ b, (g <$> s).runFrom p = (.ok b, p') := by
  obtain ⟨a, ha⟩ := h
  exact ⟨g a, by rw [runFrom_map, ha]; rfl⟩

/-- Steps that give values and leave a pass as it is give all their values and leave the pass as it is. -/
lemma exists_runFrom_mapM {ι : Type} {k : ι → Step α} {l : List ι} {p : Pass}
    (hk : ∀ i ∈ l, ∃ a, (k i).runFrom p = (.ok a, p)) :
    ∃ as, (l.mapM k).runFrom p = (.ok as, p) := by
  induction l with
  | nil => exact ⟨[], rfl⟩
  | cons i l ih =>
    obtain ⟨a, ha⟩ := hk i List.mem_cons_self
    obtain ⟨as, has⟩ := ih fun j hj => hk j (List.mem_cons_of_mem i hj)
    refine ⟨a :: as, ?_⟩
    rw [List.mapM_cons, runFrom_bind_of_ok ha, runFrom_bind_of_ok has]
    rfl

/-- A step keeps a property of passes, also when it fails. -/
def Keeps (I : Pass → Prop) (s : Step α) : Prop := ∀ p, I p → I (s.runFrom p).2

variable {I : Pass → Prop} {s : Step α}

/-- A value keeps anything. -/
lemma Keeps.pure (a : α) : (pure a : Step α).Keeps I := fun _ hp => hp

/-- A fault keeps anything. -/
lemma Keeps.fault (f : Fault) : (fault f : Step α).Keeps I := fun _ hp => hp

/-- What is kept by two steps is kept by both together. -/
lemma Keeps.bind {k : α → Step β} (hs : s.Keeps I) (hk : ∀ a, (k a).Keeps I) : (s >>= k).Keeps I := by
  intro p hp
  have h := hs p hp
  rw [runFrom_bind]
  rcases he : s.runFrom p with ⟨f | a, p'⟩
  · rwa [he] at h
  · rw [he] at h
    exact hk a p' h

/-- What is kept for every pass is kept behind a look at it. -/
lemma Keeps.get_bind {k : Pass → Step α} (hk : ∀ p, (k p).Keeps I) : (get >>= k).Keeps I := by
  intro p hp
  rw [runFrom_bind_of_ok (runFrom_get p)]
  exact hk p p hp

/-- What is kept for every item is kept for a list of them. -/
lemma Keeps.mapM {ι : Type} {k : ι → Step α} (hk : ∀ i, (k i).Keeps I) (l : List ι) : (l.mapM k).Keeps I := by
  induction l with
  | nil => exact .pure []
  | cons i l ih =>
    rw [List.mapM_cons]
    exact (hk i).bind fun a => ih.bind fun as => .pure (a :: as)

/-- What is kept for every item is kept while they are gathered. -/
lemma Keeps.foldlM {ι : Type} {k : α → ι → Step α} (hk : ∀ a i, (k a i).Keeps I) (l : List ι) (a : α) :
    (l.foldlM k a).Keeps I := by
  induction l generalizing a with
  | nil => exact .pure a
  | cons i l ih => exact (hk a i).bind ih

end SdkGen.Step
