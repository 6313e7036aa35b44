import SdkGen.Proofs.Pass.Serves

/-!
# Names of types

A pass gives a derived type no name that another type has. `Model.Apart` says what that comes to: no type of a set of
derived types has the name of a type of the model, and no two of them have one name.

Main statements: `Pass.apart_serveAll` and `Step.Serves.keepsApart` (demands and steps that serve them keep derived
types apart, also when one of them fails), `Demand.exists_serveAll_ok_iff` (demands can be served exactly if the types
that they make are apart) and `Pass.lookup_eq_some_iff` (in a pass whose types are apart, a look-up finds the type of a
name).
-/

namespace SdkGen

/-- No type of a set has the name of a type of the model or the name of another one of the set. -/
structure Model.Apart (m : Model) (K : TypeId → Prop) : Prop where
  free : ∀ a, K a → (m.declOf a).name ∉ m.types.keys
  distinct : ∀ a b, K a → K b → (m.declOf a).name = (m.declOf b).name → a = b

/-- Names that are apart among some types are so among fewer types. -/
lemma Model.Apart.mono {m : Model} {K K' : TypeId → Prop} (h : m.Apart K) (hK : ∀ a, K' a → K a) :
    m.Apart K' :=
  ⟨fun a ha => h.free a (hK a ha), fun a b ha hb => h.distinct a b (hK a ha) (hK b hb)⟩

namespace Pass

variable {m : Model} {wraps : Bool} {p p' : Pass} {t : TypeDecl} {id : TypeId}

/-- In a pass that has just begun, no types are derived. -/
lemma apart_fresh (m : Model) (wraps : Bool) :
    m.Apart (· ∈ ({ needsRequestTypes := wraps } : Pass).derivedTypes) :=
  ⟨nofun, nofun⟩

/-- The names that derived types must not get. -/
lemma Sound.nameTaken_iff (hp : p.Sound m wraps) (name : String) :
    p.nameTaken m name = true ↔
      name ∈ m.types.keys ∨ ∃ a ∈ p.derivedTypes, (m.declOf a).name = name := by
  have h : p.derivedNames m = p.derivedTypes.map fun a => (m.declOf a).name :=
    List.map_congr_left fun a ha => by rw [hp.decl_of_mem ha]
  simp only [nameTaken, Bool.or_eq_true, Dict.contains_eq_true_iff, h, decide_eq_true_eq, List.mem_map]

/-- A type can be derived beside others exactly if it is apart from them. -/
lemma apart_or_iff (hp : p.Sound m wraps) (ha : m.Apart (· ∈ p.derivedTypes))
    (hm : m.made? id = some t) (hn : id ∉ p.derivedTypes) :
    m.Apart (fun x => x = id ∨ x ∈ p.derivedTypes) ↔ p.nameTaken m t.name = false := by
  rw [← Bool.not_eq_true, hp.nameTaken_iff, ← Model.declOf_of_made? hm]
  push Not
  constructor
  · intro h
    refine ⟨h.free id (.inl rfl), fun a hd e => hn ?_⟩
    exact h.distinct a id (.inr hd) (.inl rfl) e ▸ hd
  · rintro ⟨hf, hd⟩
    constructor
    · rintro a (rfl | h)
      · exact hf
      · exact ha.free a h
    · rintro a b (rfl | h) (rfl | h') e
      · rfl
      · exact absurd e.symm (hd b h')
      · exact absurd e (hd a h)
      · exact ha.distinct a b h h' e

/-- A demand keeps derived types apart. -/
lemma apart_serve (hp : p.Sound m wraps) (ha : m.Apart (· ∈ p.derivedTypes)) (d : Demand) :
    m.Apart (· ∈ (d.serve m p).2.derivedTypes) := by
  rcases h : d.serve m p with ⟨f | u, p'⟩
  · exact Demand.serve_error h ▸ ha
  · have hd := Demand.mem_derivedTypes_serve hp h
    -- only a type that is derived for the first time can come into conflict
    by_cases hx : ∃ id t, d = .derive id ∧ m.made? id = some t ∧ id ∉ p.derivedTypes
    · obtain ⟨id, t, rfl, hm, hn⟩ := hx
      rw [Demand.serve_derive_of_not_mem hp hm hn] at h
      split at h
      · cases h
      · next ht =>
        apply ((apart_or_iff hp ha hm hn).2 (by simpa using ht)).mono
        intro x h'
        rcases (hd x).1 h' with h' | ⟨⟨⟩, _⟩
        · exact .inr h'
        · exact .inl rfl
    · push Not at hx
      apply ha.mono
      intro x h'
      rcases (hd x).1 h' with h' | ⟨rfl, h'⟩
      · exact h'
      · obtain ⟨t, ht⟩ := Option.isSome_iff_exists.1 h'
        exact hx x t rfl ht

/-- Demands keep derived types apart, also when one of them fails. -/
theorem apart_serveAll (hp : p.Sound m wraps) (ha : m.Apart (· ∈ p.derivedTypes))
    (ds : List Demand) : m.Apart (· ∈ (Demand.serveAll m ds p).2.derivedTypes) :=
  (keeps_serveAll (I := fun p => p.Sound m wraps ∧ m.Apart (· ∈ p.derivedTypes))
    (fun d _ _ h => ⟨h.1.serve d, apart_serve h.1 h.2 d⟩) ⟨hp, ha⟩).2

end Pass

namespace Step

variable {α : Type} {m : Model} {wraps : Bool} {s : Step α} {ds : List Demand}

/-- A step keeps a pass sound and its types apart, also when it fails. -/
def KeepsApart (m : Model) (wraps : Bool) (s : Step α) : Prop :=
  ∀ p : Pass, p.Sound m wraps → m.Apart (· ∈ p.derivedTypes) →
    (s.runFrom p).2.Sound m wraps ∧ m.Apart (· ∈ (s.runFrom p).2.derivedTypes)

/-- What keeps soundness and names apart together keeps names apart in a sound pass. -/
lemma Keeps.keepsApart (hs : s.Keeps fun p => p.Sound m wraps ∧ m.Apart (· ∈ p.derivedTypes)) :
    s.KeepsApart m wraps :=
  fun p hp ha => hs p ⟨hp, ha⟩

/-- What serves demands keeps types apart. -/
lemma Serves.keepsApart (hs : s.Serves m wraps ds) : s.KeepsApart m wraps := by
  intro p hp ha
  rw [hs.state_eq hp]
  exact ⟨hp.serveAll ds, Pass.apart_serveAll hp ha ds⟩

end Step

namespace Demand

variable {m : Model} {wraps : Bool} {p p' : Pass} {ds : List Demand} {f : Failure}

/-- A demand can be served if the types that it makes are apart from those that are there. -/
lemma exists_serve_ok (hp : p.Sound m wraps) (ha : m.Apart (· ∈ p.derivedTypes)) {d : Demand}
    (hd : d ≠ .missing)
    (h : m.Apart fun x => x ∈ p.derivedTypes ∨ d = .derive x ∧ (m.made? x).isSome) :
    ∃ p', d.serve m p = (.ok (), p') := by
  cases d with
  | reference type => exact ⟨_, rfl⟩
  | missing => exact absurd rfl hd
  | derive id =>
    cases hm : m.made? id with
    | none =>
      obtain ⟨p', h', _⟩ := serve_derive_of_made?_eq_none hp hm
      exact ⟨p', h'⟩
    | some t =>
      by_cases hn : id ∈ p.derivedTypes
      · exact ⟨_, serve_derive_of_mem hn⟩
      · have ht : p.nameTaken m t.name = false := by
          apply (Pass.apart_or_iff hp ha hm hn).1
          apply h.mono
          rintro x (rfl | hx)
          · exact .inr ⟨rfl, by simp [hm]⟩
          · exact .inl hx
        rw [serve_derive_of_not_mem hp hm hn, ht]
        exact ⟨_, rfl⟩

/-- Demands that ask for no missing type can be served exactly if the types that they make are apart from each
other and from those that are there. -/
theorem exists_serveAll_ok_iff (hp : p.Sound m wraps) (ha : m.Apart (· ∈ p.derivedTypes))
    (hd : .missing ∉ ds) :
    (∃ p', serveAll m ds p = (.ok (), p')) ↔
      m.Apart fun x => x ∈ p.derivedTypes ∨ Makes m ds x := by
  constructor
  · rintro ⟨p', h⟩
    have hs := Pass.apart_serveAll hp ha ds
    rw [h] at hs
    exact hs.mono fun x hx => (mem_derivedTypes_serveAll hp h x).2 hx
  · intro h
    induction ds generalizing p with
    | nil => exact ⟨p, rfl⟩
    | cons d ds ih =>
      -- the types that are there after the first demand are among those that are apart by assumption
      obtain ⟨p₁, h₁⟩ : ∃ p₁, d.serve m p = (.ok (), p₁) := by
        apply exists_serve_ok hp ha (fun e => hd (e ▸ List.mem_cons_self))
        apply h.mono
        rintro x (hx | ⟨rfl, hx⟩)
        · exact .inl hx
        · exact .inr ⟨List.mem_cons_self, hx⟩
      have hs := hp.serve d
      have has := Pass.apart_serve hp ha d
      simp only [h₁] at hs has
      obtain ⟨p', h'⟩ := ih hs has (fun e => hd (List.mem_cons_of_mem d e)) <| by
        apply h.mono
        rintro x (hx | ⟨hx, hm⟩)
        · rcases (mem_derivedTypes_serve hp h₁ x).1 hx with hx | ⟨rfl, hx⟩
          · exact .inl hx
          · exact .inr ⟨List.mem_cons_self, hx⟩
        · exact .inr ⟨List.mem_cons_of_mem d hx, hm⟩
      exact ⟨p', by simp [serveAll, h₁, h']⟩

/-- A demand that asks for no missing type fails for a name that is taken, and for nothing else. -/
lemma serve_error_eq {d : Demand} (h : d.serve m p = (.error f, p')) (hd : d ≠ .missing) :
    ∃ id, d = .derive id ∧ (m.made? id).isSome ∧
      f = .nameConflict (m.declOf id).name (m.sourceName id) := by
  cases d with
  | reference _ => cases h
  | missing => exact absurd rfl hd
  | derive id =>
    simp only [serve] at h
    split at h
    · cases h
    · cases h
    · cases h
    · next t _ hm =>
      split at h
      · cases h
        exact ⟨id, rfl, by simp [hm], by rw [Model.declOf_of_made? hm]⟩
      · cases h

/-- Demands that ask for no missing type fail for a name that is taken, and for nothing else. -/
theorem serveAll_error_eq (h : serveAll m ds p = (.error f, p')) (hd : .missing ∉ ds) :
    ∃ id, Makes m ds id ∧ f = .nameConflict (m.declOf id).name (m.sourceName id) := by
  induction ds generalizing p with
  | nil => cases h
  | cons d ds ih =>
    simp only [List.mem_cons, not_or] at hd
    simp only [serveAll] at h
    split at h
    · obtain ⟨id, ⟨hx, hm⟩, e⟩ := ih h hd.2
      exact ⟨id, ⟨List.mem_cons_of_mem d hx, hm⟩, e⟩
    · next h' =>
      cases h
      obtain ⟨id, rfl, hm, e⟩ := serve_error_eq h' (Ne.symm hd.1)
      exact ⟨id, ⟨List.mem_cons_self, hm⟩, e⟩

end Demand

namespace Pass

variable {m : Model} {wraps : Bool} {p : Pass} {id a b : TypeId} {name : String}

/-- The types of a model and those that a pass derived. -/
def IsCandidate (p : Pass) (m : Model) (id : TypeId) : Prop :=
  id ∈ m.types.values ∨ id ∈ p.derivedTypes

/-- The candidates of a sound pass are those by the rules. -/
lemma Sound.mem_candidates_iff (hp : p.Sound m wraps) :
    id ∈ p.candidates m ↔ p.IsCandidate m id := by
  rw [candidates, if_pos hp.bound, sortByName, List.mem_mergeSort, List.mem_append]
  rfl

/-- A declared type or one that was derived is declared as the rules say. -/
lemma Sound.decl_of_isCandidate (hp : p.Sound m wraps) (hm : m.Keyed) (h : p.IsCandidate m id) :
    p.decl m id = m.declOf id := by
  rcases h with h | h
  · obtain ⟨n, rfl⟩ := hm.exists_declared h
    rfl
  · exact hp.decl_of_mem h

/-- Among the types of a model and those that a pass derived, a name belongs to one type. -/
lemma eq_of_name_eq (hm : m.Keyed) (ha : m.Apart (· ∈ p.derivedTypes)) (h : p.IsCandidate m a)
    (h' : p.IsCandidate m b) (e : (m.declOf a).name = (m.declOf b).name) : a = b := by
  have hk {x} (hx : x ∈ m.types.values) : (m.declOf x).name ∈ m.types.keys :=
    hm.mem_keys_iff.2 ⟨x, hx, rfl⟩
  rcases h with h | h <;> rcases h' with h' | h'
  · exact hm.eq_of_name_eq h h' e
  · exact absurd (e ▸ hk h) (ha.free b h')
  · exact absurd (e ▸ hk h') (ha.free a h)
  · exact ha.distinct a b h h' e

/-- The name of a derived type leads to the type. -/
lemma lookup_of_mem_derivedTypes (hp : p.Sound m wraps) (ha : m.Apart (· ∈ p.derivedTypes))
    (h : id ∈ p.derivedTypes) : p.lookup m (m.declOf id).name = some id := by
  have hn : m.types.get? (m.declOf id).name = none := Dict.get?_eq_none_iff.2 (ha.free id h)
  obtain ⟨x, hx⟩ : ∃ x, p.derivedTypes.find?
      (fun x => (p.decl m x).name = (m.declOf id).name) = some x := by
    apply Option.isSome_iff_exists.1
    rw [List.find?_isSome]
    exact ⟨id, h, by simp [hp.decl_of_mem h]⟩
  have hx' := List.mem_of_find?_eq_some hx
  have e : (p.decl m x).name = (m.declOf id).name := by simpa using List.find?_some hx
  rw [hp.decl_of_mem hx'] at e
  simp only [lookup, hp.bound, if_true, hn]
  rw [hx, ha.distinct x id hx' h e]

/-- A look-up finds the type of a name among the types of the model and those that were derived. -/
theorem lookup_eq_some_iff (hm : m.Keyed) (hp : p.Sound m wraps)
    (ha : m.Apart (· ∈ p.derivedTypes)) :
    p.lookup m name = some id ↔ p.IsCandidate m id ∧ (m.declOf id).name = name := by
  constructor
  · intro h
    simp only [lookup, hp.bound, if_true] at h
    split at h
    · next x hx =>
      cases h
      obtain ⟨hx, e⟩ := hm.get?_eq_some_iff.1 hx
      exact ⟨.inl hx, e⟩
    -- no type of the model has the name, so it is that of a derived type
    · have hd := List.mem_of_find?_eq_some h
      refine ⟨.inr hd, ?_⟩
      rw [← hp.decl_of_mem hd]
      simpa using List.find?_some h
  · rintro ⟨hv | hd, rfl⟩
    · have h := hm.get?_eq_some_iff.2 ⟨hv, rfl⟩
      simp only [lookup, hp.bound, if_true, h]
    · exact lookup_of_mem_derivedTypes hp ha hd

/-- No type is derived twice. -/
lemma nodup_derivedTypes (p : Pass) : p.derivedTypes.Nodup := by
  have hr := List.pairwise_map.1 p.requests.nodup
  have hw := List.pairwise_map.1 p.writeables.nodup
  apply List.nodup_append.2
  refine ⟨hr.filterMap _ ?_, hw.filterMap _ ?_, ?_⟩
  · intro a b h x hx y hy e
    obtain ⟨_, _, rfl⟩ := Option.map_eq_some_iff.1 hx
    obtain ⟨_, _, rfl⟩ := Option.map_eq_some_iff.1 hy
    exact h (by simpa using e)
  · intro a b h x hx y hy e
    obtain ⟨_, _, rfl⟩ := Option.map_eq_some_iff.1 hx
    obtain ⟨_, _, rfl⟩ := Option.map_eq_some_iff.1 hy
    exact h (by simpa using e)
  · intro x hx y hy
    obtain ⟨_, _, hx⟩ := List.mem_filterMap.1 hx
    obtain ⟨_, _, hy⟩ := List.mem_filterMap.1 hy
    obtain ⟨_, _, rfl⟩ := Option.map_eq_some_iff.1 hx
    obtain ⟨_, _, rfl⟩ := Option.map_eq_some_iff.1 hy
    exact nofun

/-- No type is a candidate twice. -/
lemma nodup_candidates (hm : m.Keyed) (p : Pass) : (p.candidates m).Nodup := by
  rw [candidates]
  split
  · rw [sortByName, (List.mergeSort_perm _ _).nodup_iff]
    apply List.nodup_append.2
    refine ⟨hm.nodup_values, p.nodup_derivedTypes, ?_⟩
    rintro x hx y hy rfl
    obtain ⟨n, rfl⟩ := hm.exists_declared hx
    obtain ⟨t, ht⟩ := mem_derivedTypes_iff.1 hy
    cases ht
  · exact List.nodup_nil

/-- The candidates stand in the order of their names. -/
lemma pairwise_le_candidates (p : Pass) (m : Model) :
    (p.candidates m).Pairwise fun a b => (p.decl m a).name ≤ (p.decl m b).name := by
  rw [candidates]
  split
  · exact pairwise_mergeSort_by_name (fun id => (p.decl m id).name) _
  · exact .nil

/-- The names of the candidates ascend, and no name comes twice. -/
lemma pairwise_lt_candidates (hm : m.Keyed) (hp : p.Sound m wraps)
    (ha : m.Apart (· ∈ p.derivedTypes)) :
    (p.candidates m).Pairwise fun a b => (p.decl m a).name < (p.decl m b).name := by
  apply ((p.pairwise_le_candidates m).and (nodup_candidates hm p)).imp_of_mem
  rintro a b h h' ⟨hle, hne⟩
  have h := hp.mem_candidates_iff.1 h
  have h' := hp.mem_candidates_iff.1 h'
  apply String.not_le.1
  intro hge
  have e := String.le_antisymm hle hge
  rw [hp.decl_of_isCandidate hm h, hp.decl_of_isCandidate hm h'] at e
  exact hne (eq_of_name_eq hm ha h h' e)

/-- The names of the types that have to be declared ascend, and no name comes twice. -/
theorem pairwise_lt_referencedTypeNames (hm : m.Keyed) (hp : p.Sound m wraps)
    (ha : m.Apart (· ∈ p.derivedTypes)) : (p.referencedTypeNames m).Pairwise (· < ·) := by
  rw [referencedTypeNames, List.pairwise_map]
  exact (pairwise_lt_candidates hm hp ha).filter _

end Pass

end SdkGen
