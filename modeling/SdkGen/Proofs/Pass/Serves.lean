import SdkGen.Proofs.Pass.Demand

/-!
# Steps that serve demands

A step *serves* a list of demands if it does to every sound pass what these demands do and fails when one of them
fails; `Step.Gives` says besides what is known of its value. Steps that are put together from such steps serve the
demands one after the other, so that the demands of a long step can be read off its parts.

Main statements: `Gives.bind` and `Serves.mapM` for steps that are put together, `serves_reference`,
`gives_requestTypeFor` and `gives_writeableTypeFor` for the three things that a pass does to its state.
-/

namespace SdkGen.Step

variable {α β : Type} {m : Model} {wraps : Bool} {s : Step α} {ds es : List Demand} {Q : α → Prop}
  {R : β → Prop}

/-- From a sound pass, a step does what demands do, and gives a value with a property if they are served. -/
def Gives (m : Model) (wraps : Bool) (s : Step α) (ds : List Demand) (Q : α → Prop) : Prop :=
  ∀ p : Pass, p.Sound m wraps →
    match Demand.serveAll m ds p with
    | (.ok _, p') => ∃ a, s.runFrom p = (.ok a, p') ∧ Q a
    | (.error f, p') => s.runFrom p = (.error f, p')

/-- From a sound pass, a step does what demands do, and gives a value if they are served. -/
abbrev Serves (m : Model) (wraps : Bool) (s : Step α) (ds : List Demand) : Prop :=
  s.Gives m wraps ds fun _ => True

/-- Where the demands of a step are served, the step gives a value with the property. -/
lemma Gives.exists_of_serveAll (hs : s.Gives m wraps ds Q) {p p' : Pass} (hp : p.Sound m wraps)
    (h : Demand.serveAll m ds p = (.ok (), p')) : ∃ a, s.runFrom p = (.ok a, p') ∧ Q a := by
  have hs := hs p hp
  rwa [h] at hs

/-- A step that gave a value had its demands served, and the value has the property. -/
lemma Gives.of_runFrom (hs : s.Gives m wraps ds Q) {p p' : Pass} (hp : p.Sound m wraps) {a : α}
    (h : s.runFrom p = (.ok a, p')) : Demand.serveAll m ds p = (.ok (), p') ∧ Q a := by
  have hs := hs p hp
  split at hs
  · next he =>
    obtain ⟨_, hs, hq⟩ := hs
    rw [h] at hs
    cases hs
    exact ⟨he, hq⟩
  · rw [h] at hs
    cases hs

/-- A step that gives a value serves no demands. -/
lemma Gives.pure {a : α} (h : Q a) : (pure a : Step α).Gives m wraps [] Q :=
  fun _ _ => ⟨a, rfl, h⟩

/-- What has one property has a weaker one. -/
lemma Gives.imp {Q' : α → Prop} (hs : s.Gives m wraps ds Q) (hQ : ∀ a, Q a → Q' a) : s.Gives m wraps ds Q' := by
  intro p hp
  have hs := hs p hp
  split at hs
  · obtain ⟨a, ha, hq⟩ := hs
    exact ⟨a, ha, hQ a hq⟩
  · exact hs

/-- A step serves its demands, whatever else is known of its value. -/
lemma Gives.serves (hs : s.Gives m wraps ds Q) : s.Serves m wraps ds :=
  hs.imp fun _ _ => trivial

/-- One step after another serves the demands of both. -/
lemma Gives.bind {k : α → Step β} (hs : s.Gives m wraps ds Q)
    (hk : ∀ a, Q a → (k a).Gives m wraps es R) : (s >>= k).Gives m wraps (ds ++ es) R := by
  intro p hp
  have hs := hs p hp
  have hd := hp.serveAll ds
  rw [Demand.serveAll_append]
  rcases he : Demand.serveAll m ds p with ⟨f | u, p'⟩
  · rw [he] at hs
    exact runFrom_bind_of_error hs
  · rw [he] at hs hd
    obtain ⟨a, ha, hq⟩ := hs
    simp only [runFrom_bind_of_ok ha]
    exact hk a hq p' hd

/-- A step that looks at the pass serves what it serves for every sound pass. -/
lemma Gives.get_bind {k : Pass → Step α}
    (hk : ∀ p : Pass, p.Sound m wraps → (k p).Gives m wraps ds Q) :
    (get >>= k).Gives m wraps ds Q := by
  intro p hp
  have h := hk p hp p hp
  simpa only [runFrom_bind, runFrom_get] using h

/-- A value demands nothing. -/
lemma Serves.pure (a : α) : (pure a : Step α).Serves m wraps [] :=
  Gives.pure trivial

/-- Two steps serve the demands of both. -/
lemma Serves.bind {k : α → Step β} (hs : s.Serves m wraps ds)
    (hk : ∀ a, (k a).Serves m wraps es) : (s >>= k).Serves m wraps (ds ++ es) :=
  Gives.bind hs fun a _ => hk a

/-- A value that is made from the value of a step. -/
lemma Gives.map (g : α → β) (hs : s.Gives m wraps ds Q) (hg : ∀ a, Q a → R (g a)) :
    (g <$> s).Gives m wraps ds R := by
  rw [map_eq_pure_bind]
  simpa using hs.bind fun a ha => Gives.pure (hg a ha)

/-- A step serves the same demands when its value is changed. -/
lemma Serves.map (g : α → β) (hs : s.Serves m wraps ds) : (g <$> s).Serves m wraps ds :=
  Gives.map g hs fun _ _ => trivial

/-- A value that is made from the value of a step and the pass after it. -/
lemma Serves.bind_get {g : α → Pass → β} (hs : s.Serves m wraps ds) :
    (s >>= fun a => get >>= fun p => (return g a p)).Serves m wraps ds := by
  have h := hs.bind fun a => Gives.get_bind fun p _ => Serves.pure (g a p)
  simpa using h

/-- A step for each item of a list serves the demands of all and gives what each of them gives. -/
lemma Gives.mapM {ι : Type} {k : ι → Step α} {demands : ι → List Demand} {P : ι → α → Prop} {l : List ι}
    (hk : ∀ i ∈ l, (k i).Gives m wraps (demands i) (P i)) :
    (l.mapM k).Gives m wraps (l.flatMap demands) (List.Forall₂ P l) := by
  induction l with
  | nil => exact Gives.pure .nil
  | cons i l ih =>
    rw [List.mapM_cons, List.flatMap_cons]
    apply (hk i List.mem_cons_self).bind
    intro a ha
    have ih := ih fun j hj => hk j (List.mem_cons_of_mem i hj)
    simpa using ih.map (a :: ·) fun as has => List.Forall₂.cons ha has

/-- Steps whose values are known give the list of these values. -/
lemma Gives.mapM_eq {ι : Type} {k : ι → Step α} {demands : ι → List Demand} {value : ι → α} {l : List ι}
    (hk : ∀ i ∈ l, (k i).Gives m wraps (demands i) (· = value i)) :
    (l.mapM k).Gives m wraps (l.flatMap demands) (· = l.map value) := by
  apply (Gives.mapM hk).imp
  intro as has
  have h : List.Forall₂ Eq as (l.map value) := List.forall₂_map_right_iff.2 has.flip
  rwa [List.forall₂_eq_eq_eq] at h

/-- Steps for the items of a list serve the demands of all. -/
lemma Serves.mapM {ι : Type} {k : ι → Step α} {demands : ι → List Demand} {l : List ι}
    (hk : ∀ i ∈ l, (k i).Serves m wraps (demands i)) :
    (l.mapM k).Serves m wraps (l.flatMap demands) :=
  (Gives.mapM hk).serves

/-- The state after a step is the one after its demands. -/
lemma Gives.state_eq (hs : s.Gives m wraps ds Q) {p : Pass} (hp : p.Sound m wraps) :
    (s.runFrom p).2 = (Demand.serveAll m ds p).2 := by
  have hs := hs p hp
  split at hs
  · next h =>
    obtain ⟨a, ha, _⟩ := hs
    rw [ha, h]
  · next h => rw [hs, h]

/-- What the demands of a step keep is kept by the step. -/
lemma Gives.keeps {I : Pass → Prop} (hs : s.Gives m wraps ds Q) (hI : ∀ p, I p → p.Sound m wraps)
    (hd : ∀ d ∈ ds, ∀ p, I p → I (d.serve m p).2) : s.Keeps I := by
  intro p hp
  rw [hs.state_eq (hI p hp)]
  exact Pass.keeps_serveAll hd hp

/-- Referencing a type is a demand of its own. -/
lemma serves_reference (r : Option TypeRef) :
    (reference r).Serves m wraps [.reference (r.map TypeRef.root)] :=
  fun _ _ => ⟨(), rfl, trivial⟩

/-- Asking for what is missing fails. -/
lemma serves_noValue : (fault (.noValue "name") : Step α).Serves m wraps [.missing] :=
  fun _ _ => rfl

/-- A reference counts for the root of its type. -/
@[simp] lemma runFrom_reference (r : Option TypeRef) (p : Pass) :
    (reference r).runFrom p = (.ok (), p.count (r.map TypeRef.root)) := rfl

/-- A report is one more event. -/
@[simp] lemma runFrom_report (e : Event) (p : Pass) : (report e).runFrom p = (.ok (), p.note e) := rfl

/-- A pass with a model goes on. -/
lemma runFrom_requireModel {p : Pass} (h : p.bound = true) (operation : String) :
    (requireModel operation).runFrom p = (.ok (), p) := by
  simp [requireModel, runFrom_bind, h]

/-- A pass without a model fails. -/
lemma runFrom_requireModel_of_unbound {p : Pass} (h : p.bound = false) (operation : String) :
    (requireModel operation).runFrom p = (.error (.modelNotBound operation), p) := by
  rw [requireModel, runFrom_bind_of_ok (runFrom_get p), h]
  rfl

/-- A name that is taken is a conflict. -/
@[simp] lemma runFrom_checkName (t : TypeDecl) (source : String) (p : Pass) :
    (checkName m t source).runFrom p =
      if p.nameTaken m t.name then (.error (.nameConflict t.name source), p) else (.ok (), p) := by
  simp only [checkName, runFrom_bind, runFrom_get]
  split <;> rfl

/-- Asking for a request type is a demand of its own, if request types are in use. -/
lemma gives_requestTypeFor (id : MethodId) :
    (requestTypeFor m id).Gives m wraps (Demand.ofRequest wraps id)
      fun name => name = if wraps then (m.made? (.request id)).map (·.name) else none := by
  intro p hp
  rw [requestTypeFor]
  cases wraps with
  | false => simp [Demand.ofRequest, Demand.serveAll, runFrom_bind, hp.needs]
  | true =>
    have hk : p.kept? (.request id) = p.requests.get? id := rfl
    have hm : m.made? (.request id) = (m.method id).requestType? := rfl
    have hs : m.sourceName (.request id) = (m.method id).name := rfl
    simp only [runFrom_bind, runFrom_get, hp.needs, runFrom_requireModel hp.bound, if_true,
      Demand.ofRequest, Demand.serveAll, Demand.serve, hk]
    cases he : p.requests.get? id with
    | some made =>
      have hd := hp.made (.request id) made (hk.trans he)
      cases made with
      | none => simp [← hd]
      | some t => simp [← hd, TypeRef.root, Except.map]
    | none =>
      -- the first time, the rules decide, and then the names that are taken
      cases ht : (m.method id).requestType? with
      | none => simp [hm, ht, Pass.keep, Except.map]
      | some t =>
        by_cases hn : p.nameTaken m t.name = true
        · simp [hm, ht, hn, hs, runFrom_bind]
        · simp [hm, ht, hn, hs, runFrom_bind, TypeRef.root, Pass.keep, TypeId.creation, Except.map]

/-- Asking for a writeable variant is a demand of its own, unless it is asked for an array or for nothing. -/
lemma gives_writeableTypeFor (r : Option TypeRef) :
    (writeableTypeFor m r).Gives m wraps (Demand.ofVariant r) fun v => v = m.variant? r := by
  intro p hp
  match r with
  | none => exact ⟨none, rfl, rfl⟩
  | some (.array e d) =>
    exact ⟨none, by simp [writeableTypeFor, runFrom_requireModel hp.bound, Except.map], rfl⟩
  | some (.named id) =>
    rw [writeableTypeFor]
    have hk : p.kept? (.writeable id) = p.writeables.get? id := rfl
    have hs : m.sourceName (.writeable id) = (m.declOf id).name := rfl
    simp only [runFrom_bind, runFrom_get, runFrom_requireModel hp.bound, Demand.ofVariant,
      Demand.serveAll, Demand.serve, hk, Model.variant?]
    cases he : p.writeables.get? id with
    | some made =>
      have hd := hp.made (.writeable id) made (hk.trans he)
      cases made with
      | none => simp [← hd]
      | some t => simp [← hd, TypeRef.root, Except.map]
    | none =>
      -- the first time, the rules decide, and then the names that are taken
      simp only [runFrom_bind, runFrom_get, hp.map_sharing id]
      cases ht : m.made? (.writeable id) with
      | none => simp [Pass.keep, Except.map]
      | some t =>
        rw [Pass.decl_of_made?_writeable ht]
        by_cases hn : p.nameTaken m t.name = true
        · simp [hn, hs, runFrom_bind]
        · simp [hn, hs, runFrom_bind, TypeRef.root, Pass.keep, TypeId.creation, Except.map]

end SdkGen.Step
