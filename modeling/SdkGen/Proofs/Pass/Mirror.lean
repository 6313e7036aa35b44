import SdkGen.Proofs.Model.Mirror
import SdkGen.Proofs.Pass.Names

/-!
# Passes that mirror each other

Over a model and another one that mirrors it, two passes mirror each other if they have derived the same types, have
counted the same references and have reported the same, up to the numbers of types. What is asked of the one pass can
be asked of the other.

Main statements: `Pass.Mirrors.serveAll` (passes that are asked for the same stay mirrors of each other and fail
alike, if no further type is in the way), `Pass.Mirrors.candidates` (the types that may have to be declared stand in
one order) and `Pass.Mirrors.referencedTypeNames` (those that have to be declared have the same names).
-/

namespace SdkGen

namespace Demand

/-- A demand under other numbers. -/
def rename (σ : Renumbering) : Demand → Demand
  | .reference type => .reference (type.map σ.type)
  | .derive id => .derive (σ.type id)
  | .missing => .missing

/-- A demand asks for nothing that a model does not know. -/
def Within (m : Model) : Demand → Prop
  | .reference type => ∀ id, type = some id → m.Knows id
  | .derive id => m.Derives id
  | .missing => True

/-- Two lists of demands are the same under other numbers, and ask for nothing unknown. -/
structure Mirrors (σ : Renumbering) (m : Model) (ds ds' : List Demand) : Prop where
  within : ∀ d ∈ ds, d.Within m
  eq_map : ds' = ds.map (·.rename σ)

namespace Mirrors

variable {σ : Renumbering} {m : Model} {ds ds' es es' : List Demand}

/-- No demands mirror no demands. -/
lemma nil : Mirrors σ m [] [] := ⟨nofun, rfl⟩

/-- Demands are mirrored one list after the other. -/
lemma append (hd : Mirrors σ m ds ds') (he : Mirrors σ m es es') : Mirrors σ m (ds ++ es) (ds' ++ es') where
  within d h := by
    rcases List.mem_append.1 h with h | h
    · exact hd.within d h
    · exact he.within d h
  eq_map := by rw [hd.eq_map, he.eq_map, List.map_append]

/-- Demands are mirrored item by item. -/
lemma flatMap {ι ι' : Type} {k : ι → List Demand} {k' : ι' → List Demand} {g : ι → ι'} {l : List ι}
    (h : ∀ i ∈ l, Mirrors σ m (k i) (k' (g i))) : Mirrors σ m (l.flatMap k) ((l.map g).flatMap k') := by
  induction l with
  | nil => exact .nil
  | cons i l ih =>
    exact (h i List.mem_cons_self).append (ih fun j hj => h j (List.mem_cons_of_mem i hj))

end Mirrors

end Demand

/-- Over a model and one that mirrors it, a pass is the same as another one up to the numbers of types. -/
structure Pass.Mirrors (σ : Renumbering) (m m' : Model) (wraps : Bool) (p p' : Pass) : Prop where
  sound : p.Sound m wraps
  sound' : p'.Sound m' wraps
  apart : m.Apart (· ∈ p.derivedTypes)
  apart' : m'.Apart (· ∈ p'.derivedTypes)
  derives : ∀ id ∈ p.derivedTypes, m.Derives id
  derived : ∀ id', id' ∈ p'.derivedTypes ↔ ∃ id ∈ p.derivedTypes, σ.type id = id'
  counts : ∀ type : Option TypeId, p'.counts.get (type.map σ.type) = p.counts.get type
  known : ∀ id', 0 < p'.counts.get (some id') → ∃ id, m.Knows id ∧ σ.type id = id'
  journal : p'.journal = p.journal

namespace Pass.Mirrors

variable {σ : Renumbering} {m m' : Model} {wraps : Bool} {p p' p₁ p₁' : Pass} {id : TypeId} {d : Demand}

/-- A type is derived on one side just if it is on the other. -/
lemma mem_derivedTypes_iff (h : p.Mirrors σ m m' wraps p') : σ.type id ∈ p'.derivedTypes ↔ id ∈ p.derivedTypes := by
  rw [h.derived]
  constructor
  · rintro ⟨x, hx, e⟩
    exact σ.type_injective e ▸ hx
  · exact fun hd => ⟨id, hd, rfl⟩

/-- What a model knows looks the same in both passes. -/
lemma decl (h : p.Mirrors σ m m' wraps p') (hm : m.Mirrors σ m') (hid : m.Knows id) :
    (p.decl m id).Mirrors σ (p'.decl m' (σ.type id)) := by
  by_cases hd : id ∈ p.derivedTypes
  · rw [h.sound.decl_of_mem hd, h.sound'.decl_of_mem (h.mem_derivedTypes_iff.2 hd)]
    exact hm.declOf (h.derives id hd)
  · rw [decl_of_notMem_derivedTypes hd, decl_of_notMem_derivedTypes (mt h.mem_derivedTypes_iff.1 hd)]
    cases id with
    | declared n =>
      rcases hid with hid | hid
      · exact hm.decls n hid
      · cases hid
    | request _ => exact TypeDecl.mirrors_default σ
    | writeable _ => exact TypeDecl.mirrors_default σ

/-- In a pass, a type that a model knows mentions nothing but what the model mentions. -/
lemma mentions (h : p.Mirrors σ m m' wraps p') (hid : m.Knows id) {q : Property} {r : TypeRef}
    (hq : q ∈ (p.decl m id).properties.values) (hr : q.type = some r) : m.Mentions r.root := by
  by_cases hd : id ∈ p.derivedTypes
  · rw [h.sound.decl_of_mem hd] at hq
    exact (h.derives id hd).mentions hq hr
  · rw [decl_of_notMem_derivedTypes hd] at hq
    cases id with
    | declared n =>
      rcases hid with hid | hid
      · exact .property hid hq hr
      · cases hid
    | request _ => cases hq
    | writeable _ => cases hq

/-- A name is taken if it is taken in the other pass or belongs to a further type. -/
lemma nameTaken_iff (h : p.Mirrors σ m m' wraps p') (hm : m.Mirrors σ m') (name : String) :
    p'.nameTaken m' name = true ↔ p.nameTaken m name = true ∨ name ∈ m'.types.keys := by
  have hd : (∃ a ∈ p'.derivedTypes, (m'.declOf a).name = name) ↔ ∃ a ∈ p.derivedTypes, (m.declOf a).name = name := by
    constructor
    · rintro ⟨_, ha', e⟩
      obtain ⟨a, ha, rfl⟩ := (h.derived _).1 ha'
      exact ⟨a, ha, (hm.declOf (h.derives a ha)).name ▸ e⟩
    · rintro ⟨a, ha, e⟩
      exact ⟨_, h.mem_derivedTypes_iff.2 ha, (hm.declOf (h.derives a ha)).name.trans e⟩
  have hk : name ∈ m.types.keys → name ∈ m'.types.keys := by
    rw [Dict.mem_keys_iff, Dict.mem_keys_iff]
    rintro ⟨id, hid⟩
    exact ⟨_, hm.types name id hid⟩
  rw [h.sound.nameTaken_iff, h.sound'.nameTaken_iff, hd, or_right_comm, or_iff_right_of_imp hk]

end Pass.Mirrors

namespace Demand

variable {σ : Renumbering} {m m' : Model} {d : Demand}

/-- Under other numbers, a demand touches the same types. -/
lemma touches_rename (hm : m.Mirrors σ m') (hd : d.Within m) (type : Option TypeId) :
    (d.rename σ).touches m' (type.map σ.type) = d.touches m type := by
  have hinj : Function.Injective (Option.map σ.type) := Option.map_injective σ.type_injective
  cases d with
  | reference r => simp only [rename, touches, hinj.eq_iff]
  | missing => rfl
  | derive id =>
    have he : type.map σ.type = some (σ.type id) ↔ type = some id := hinj.eq_iff (b := some id)
    have hs := TypeDecl.isSome_eq (hm.made? hd)
    simp only [rename, touches, he, hs]

/-- Under other numbers, a demand touches nothing but what is known. -/
lemma exists_of_touches_rename (hd : d.Within m) {id' : TypeId}
    (h : (d.rename σ).touches m' (some id') = true) : ∃ id, m.Knows id ∧ σ.type id = id' := by
  cases d with
  | reference r =>
    obtain ⟨id, rfl, e⟩ : ∃ id, r = some id ∧ σ.type id = id' := by simpa [rename, touches] using h
    exact ⟨id, hd id rfl, e⟩
  | missing => cases h
  | derive id =>
    obtain ⟨rfl, _⟩ : id' = σ.type id ∧ _ := by simpa [rename, touches] using h
    exact ⟨id, .inr hd, rfl⟩

end Demand

namespace Pass.Mirrors

variable {σ : Renumbering} {m m' : Model} {wraps : Bool} {p p' p₁ p₁' : Pass} {id : TypeId} {d : Demand}
  {ds ds' : List Demand}

/-- The making of a derived type is reported in the same way. -/
lemma creation (hm : m.Mirrors σ m') (hid : m.Derives id) (hs : (m.made? id).isSome) :
    m'.creation (σ.type id) = m.creation id := by
  rw [Model.creation, Model.creation, (hm.declOf hid).name, hm.sourceName hid hs]
  cases hid with
  | request _ => rfl
  | writeable _ => rfl

section Serve

variable (h : p.Mirrors σ m m' wraps p') (hm : m.Mirrors σ m') (hd : d.Within m) (hs : d.serve m p = (.ok (), p₁))
  (hs' : (d.rename σ).serve m' p' = (.ok (), p₁'))

include h hm hd hs hs'

/-- What is derived for a demand is derived for the same demand under other numbers. -/
lemma derived_of_serve (y : TypeId) : y ∈ p₁'.derivedTypes ↔ ∃ x ∈ p₁.derivedTypes, σ.type x = y := by
  rw [Demand.mem_derivedTypes_serve h.sound' hs', h.derived]
  simp only [Demand.mem_derivedTypes_serve h.sound hs, or_and_right, exists_or]
  apply or_congr_right
  cases d with
  | reference _ => simp [Demand.rename]
  | missing => simp [Demand.rename]
  | derive id =>
    have he := TypeDecl.isSome_eq (hm.made? hd)
    simp only [Demand.rename, Demand.derive.injEq]
    constructor
    · rintro ⟨rfl, hy⟩
      exact ⟨id, ⟨rfl, he ▸ hy⟩, rfl⟩
    · rintro ⟨_, ⟨rfl, hx⟩, rfl⟩
      exact ⟨rfl, he ▸ hx⟩

/-- What is reported of a demand is reported of the same demand under other numbers. -/
lemma journal_of_serve : p₁'.journal = p₁.journal := by
  cases d with
  | reference _ =>
    cases hs
    cases hs'
    exact h.journal
  | missing => cases hs
  | derive id =>
    have he := TypeDecl.isSome_eq (hm.made? hd)
    have hj' := Demand.journal_serve_derive h.sound' hs'
    simp only [h.mem_derivedTypes_iff, he, h.journal] at hj'
    rw [Demand.journal_serve_derive h.sound hs, hj']
    split
    · next hn => rw [creation hm hd hn.2]
    · rfl

end Serve

/-- Passes of which both serve a demand mirror each other. -/
lemma of_serve (h : p.Mirrors σ m m' wraps p') (hm : m.Mirrors σ m') (hd : d.Within m)
    (hs : d.serve m p = (.ok (), p₁)) (hs' : (d.rename σ).serve m' p' = (.ok (), p₁')) :
    p₁.Mirrors σ m m' wraps p₁' where
  sound := by simpa [hs] using h.sound.serve d
  sound' := by simpa [hs'] using h.sound'.serve (d.rename σ)
  apart := by simpa [hs] using apart_serve h.sound h.apart d
  apart' := by simpa [hs'] using apart_serve h.sound' h.apart' (d.rename σ)
  derives x hx := by
    rcases (Demand.mem_derivedTypes_serve h.sound hs x).1 hx with hx | ⟨rfl, _⟩
    · exact h.derives x hx
    · exact hd
  derived := h.derived_of_serve hm hd hs hs'
  counts type := by
    rw [Demand.counts_serve h.sound hs, Demand.counts_serve h.sound' hs', h.counts, Demand.touches_rename hm hd]
  known y hy := by
    rw [Demand.counts_serve h.sound' hs'] at hy
    by_cases ht : (d.rename σ).touches m' (some y) = true
    · exact Demand.exists_of_touches_rename hd ht
    · rw [if_neg ht] at hy
      exact h.known y hy
  journal := h.journal_of_serve hm hd hs hs'

/-- A demand that is served under other numbers is served. -/
lemma serve_of_ok (h : p.Mirrors σ m m' wraps p') (hm : m.Mirrors σ m') (hd : d.Within m)
    (hs' : (d.rename σ).serve m' p' = (.ok (), p₁')) :
    ∃ p₁, d.serve m p = (.ok (), p₁) ∧ p₁.Mirrors σ m m' wraps p₁' := by
  suffices hs : ∃ p₁, d.serve m p = (.ok (), p₁) by
    obtain ⟨p₁, hs⟩ := hs
    exact ⟨p₁, hs, h.of_serve hm hd hs hs'⟩
  cases d with
  | reference _ => exact ⟨_, rfl⟩
  | missing => cases hs'
  | derive id =>
    rcases TypeDecl.rel_cases (hm.made? hd) with ⟨e, e'⟩ | ⟨t, t', e, e', ht⟩
    · obtain ⟨p₁, hs, _⟩ := Demand.serve_derive_of_made?_eq_none h.sound e
      exact ⟨p₁, hs⟩
    · by_cases hn : id ∈ p.derivedTypes
      · exact ⟨_, Demand.serve_derive_of_mem hn⟩
      · rw [Demand.rename, Demand.serve_derive_of_not_mem h.sound' e' (mt h.mem_derivedTypes_iff.1 hn)] at hs'
        have hfree : ¬p.nameTaken m t.name = true := by
          intro hk
          rw [if_pos ((h.nameTaken_iff hm _).2 (.inl (ht.name ▸ hk)))] at hs'
          cases hs'
        rw [Demand.serve_derive_of_not_mem h.sound e hn, if_neg hfree]
        exact ⟨_, rfl⟩

/-- A demand is served or fails alike under other numbers, unless the name of a further type is in the way. -/
lemma serve_eq (h : p.Mirrors σ m m' wraps p') (hm : m.Mirrors σ m') (hd : d.Within m)
    (hfree : ∀ x ∈ (d.serve m p).2.derivedTypes, (m.declOf x).name ∉ m'.types.keys) :
    ((d.rename σ).serve m' p').1 = (d.serve m p).1 := by
  cases d with
  | reference _ => rfl
  | missing => rfl
  | derive id =>
    rcases TypeDecl.rel_cases (hm.made? hd) with ⟨e, e'⟩ | ⟨t, t', e, e', ht⟩
    · obtain ⟨_, hs, _⟩ := Demand.serve_derive_of_made?_eq_none h.sound e
      obtain ⟨_, hs', _⟩ := Demand.serve_derive_of_made?_eq_none h.sound' e'
      rw [Demand.rename, hs, hs']
    · by_cases hn : id ∈ p.derivedTypes
      · rw [Demand.rename, Demand.serve_derive_of_mem hn,
          Demand.serve_derive_of_mem (h.mem_derivedTypes_iff.2 hn)]
      · have hs := Demand.serve_derive_of_not_mem h.sound e hn
        have hs' := Demand.serve_derive_of_not_mem h.sound' e' (mt h.mem_derivedTypes_iff.1 hn)
        rw [ht.name, hm.sourceName hd (by simp [e])] at hs'
        by_cases hk : p.nameTaken m t.name = true
        · rw [if_pos hk] at hs
          rw [if_pos ((h.nameTaken_iff hm _).2 (.inl hk))] at hs'
          rw [Demand.rename, hs, hs']
        -- the type is derived, so its name is not that of a further type
        · rw [if_neg hk] at hs
          have hk' : ¬p'.nameTaken m' t.name = true := by
            rw [h.nameTaken_iff hm, not_or]
            refine ⟨hk, Model.declOf_of_made? e ▸ hfree id ?_⟩
            rw [hs]
            exact (Demand.mem_derivedTypes_serve h.sound hs id).2 (.inr ⟨rfl, by simp [e]⟩)
          rw [if_neg hk'] at hs'
          rw [Demand.rename, hs, hs']

/-- Passes that are asked for the same stay mirrors of each other, also if they fail. -/
lemma serve (h : p.Mirrors σ m m' wraps p') (hm : m.Mirrors σ m') (hd : d.Within m)
    (hfree : ∀ x ∈ (d.serve m p).2.derivedTypes, (m.declOf x).name ∉ m'.types.keys) :
    ((d.rename σ).serve m' p').1 = (d.serve m p).1 ∧
      (d.serve m p).2.Mirrors σ m m' wraps ((d.rename σ).serve m' p').2 := by
  have he := h.serve_eq hm hd hfree
  refine ⟨he, ?_⟩
  rcases hs : d.serve m p with ⟨f | u, p₁⟩ <;> rcases hs' : (d.rename σ).serve m' p' with ⟨f' | u', p₁'⟩
  · rw [Demand.serve_error hs, Demand.serve_error hs']
    exact h
  · simp [hs, hs'] at he
  · simp [hs, hs'] at he
  · exact h.of_serve hm hd hs hs'

/-- Passes that are asked for the same, one thing after the other, stay mirrors of each other and fail alike, unless
the name of a further type is in the way. -/
theorem serveAll (h : p.Mirrors σ m m' wraps p') (hm : m.Mirrors σ m') (hds : Demand.Mirrors σ m ds ds')
    (hfree : ∀ x ∈ (Demand.serveAll m ds p).2.derivedTypes, (m.declOf x).name ∉ m'.types.keys) :
    (Demand.serveAll m' ds' p').1 = (Demand.serveAll m ds p).1 ∧
      (Demand.serveAll m ds p).2.Mirrors σ m m' wraps (Demand.serveAll m' ds' p').2 := by
  obtain ⟨hd, rfl⟩ := hds
  induction ds generalizing p p' with
  | nil => exact ⟨rfl, h⟩
  | cons d ds ih =>
    have hd₁ := hd d List.mem_cons_self
    have hds : ∀ d ∈ ds, d.Within m := fun d h => hd d (List.mem_cons_of_mem _ h)
    have hsound := h.sound.serve d
    simp only [List.map_cons, Demand.serveAll] at hfree ⊢
    rcases hs : d.serve m p with ⟨f | u, p₁⟩
    · rw [hs] at hfree
      obtain ⟨he, hstep⟩ := h.serve hm hd₁ (by rwa [hs])
      rcases hs' : (d.rename σ).serve m' p' with ⟨f' | u', p₁'⟩
      · rw [hs, hs'] at he hstep
        exact ⟨he, hstep⟩
      · simp [hs, hs'] at he
    · rw [hs] at hfree hsound
      -- what the first demand derives stays derived
      obtain ⟨he, hstep⟩ := h.serve hm hd₁ (by
        rw [hs]
        exact fun x hx => hfree x (Demand.mem_derivedTypes_serveAll_of_mem hsound ds hx))
      rcases hs' : (d.rename σ).serve m' p' with ⟨f' | u', p₁'⟩
      · simp [hs, hs'] at he
      · rw [hs, hs'] at hstep
        exact ih hstep hfree hds

/-- Demands that are served under other numbers are served. -/
lemma serveAll_of_ok (h : p.Mirrors σ m m' wraps p') (hm : m.Mirrors σ m') (hds : Demand.Mirrors σ m ds ds')
    (hs' : Demand.serveAll m' ds' p' = (.ok (), p₁')) :
    ∃ p₁, Demand.serveAll m ds p = (.ok (), p₁) ∧ p₁.Mirrors σ m m' wraps p₁' := by
  obtain ⟨hd, rfl⟩ := hds
  induction ds generalizing p p' with
  | nil =>
    cases hs'
    exact ⟨p, rfl, h⟩
  | cons d ds ih =>
    obtain ⟨p₂', hd', hds'⟩ := Demand.serveAll_cons_ok hs'
    obtain ⟨p₂, hs, h₂⟩ := h.serve_of_ok hm (hd d List.mem_cons_self) hd'
    obtain ⟨p₁, hs₁, h₁⟩ := ih h₂ (fun d h => hd d (List.mem_cons_of_mem _ h)) hds'
    refine ⟨p₁, ?_, h₁⟩
    simp only [Demand.serveAll, hs, hs₁]

/-- References are mirrored. -/
lemma count (h : p.Mirrors σ m m' wraps p') (hm : m.Mirrors σ m') {type : Option TypeId}
    (hk : ∀ id, type = some id → m.Knows id) :
    (p.count type).Mirrors σ m m' wraps (p'.count (type.map σ.type)) :=
  h.of_serve (d := .reference type) hm hk rfl rfl

/-- Events are mirrored. -/
lemma note (h : p.Mirrors σ m m' wraps p') (e : Event) : (p.note e).Mirrors σ m m' wraps (p'.note e) where
  sound := h.sound.note e
  sound' := h.sound'.note e
  apart := h.apart
  apart' := h.apart'
  derives := h.derives
  derived := h.derived
  counts := h.counts
  known := h.known
  journal := by rw [Pass.note, Pass.note, h.journal]

/-- Passes that have just begun mirror each other. -/
lemma fresh (σ : Renumbering) (m m' : Model) (wraps : Bool) :
    ({ needsRequestTypes := wraps } : Pass).Mirrors σ m m' wraps { needsRequestTypes := wraps } where
  sound := .fresh m wraps
  sound' := .fresh m' wraps
  apart := apart_fresh m wraps
  apart' := apart_fresh m' wraps
  derives := nofun
  derived _ := ⟨nofun, nofun⟩
  counts _ := rfl
  known := nofun
  journal := rfl

end Pass.Mirrors

/-! ### The order of types -/

/-- A type is known in the first of two models, where it may go by another number. -/
def Model.Shows (σ : Renumbering) (m : Model) (id' : TypeId) : Prop := ∃ id, m.Knows id ∧ σ.type id = id'

open Classical in
/-- A list has the types of another one under other numbers and in the same order, and none that is known besides. -/
def Model.Lists (σ : Renumbering) (m : Model) (l l' : List TypeId) : Prop :=
  (l'.filter fun id' => m.Shows σ id') = l.map σ.type

namespace Model.Lists

variable {σ : Renumbering} {m : Model} {l l' : List TypeId} {q q' : TypeId → Bool}

/-- Of two lists of the same types, alike parts are lists of the same types. -/
lemma filter (h : m.Lists σ l l') (hq : ∀ id ∈ l, q' (σ.type id) = q id) :
    m.Lists σ (l.filter q) (l'.filter q') := by
  have hq : l.filter (q' ∘ σ.type) = l.filter q := List.filter_congr hq
  rw [Lists, List.filter_comm, h, List.filter_map, hq]

/-- Of two lists of the same types, parts that are known have the same types. -/
lemma filter_eq (h : m.Lists σ l l') (hq : ∀ id ∈ l, q' (σ.type id) = q id)
    (hs : ∀ id', q' id' = true → m.Shows σ id') : l'.filter q' = (l.filter q).map σ.type := by
  rw [← h.filter hq, List.filter_filter]
  apply List.filter_congr
  intro id' _
  cases hid : q' id' with
  | false => simp
  | true => simp [hs id' hid]

end Model.Lists

namespace Pass.Mirrors

variable {σ : Renumbering} {m m' : Model} {wraps : Bool} {p p' : Pass} {id : TypeId}

/-- What may have to be declared is known. -/
lemma knows (h : p.Mirrors σ m m' wraps p') (hid : id ∈ p.candidates m) : m.Knows id := by
  rcases h.sound.mem_candidates_iff.1 hid with hid | hid
  · exact .inl (.type hid)
  · exact .inr (h.derives id hid)

/-- What may have to be declared are the types that may have to be declared in the other pass, and further types. -/
lemma isCandidate_iff (h : p.Mirrors σ m m' wraps p') (hm : m.Mirrors σ m') {id' : TypeId} :
    p'.IsCandidate m' id' ∧ m.Shows σ id' ↔ ∃ id, p.IsCandidate m id ∧ σ.type id = id' := by
  constructor
  · rintro ⟨hid' | hid', x, hx, rfl⟩
    · obtain ⟨name, hname⟩ := Dict.mem_values_iff.1 hid'
      rcases hm.others name _ hname with hkey | hne
      · obtain ⟨id, hid⟩ := Dict.mem_keys_iff.1 hkey
        have e := Option.some.inj ((hm.types name id hid).symm.trans hname)
        exact ⟨id, .inl (Dict.mem_values_iff.2 ⟨name, hid⟩), e⟩
      · exact absurd rfl (hne x hx)
    · exact ⟨x, .inr (h.mem_derivedTypes_iff.1 hid'), rfl⟩
  · rintro ⟨id, hid | hid, rfl⟩
    · obtain ⟨name, hname⟩ := Dict.mem_values_iff.1 hid
      exact ⟨.inl (Dict.mem_values_iff.2 ⟨name, hm.types name id hname⟩), id, .inl (.type hid), rfl⟩
    · exact ⟨.inr (h.mem_derivedTypes_iff.2 hid), id, .inr (h.derives id hid), rfl⟩

/-- The types that may have to be declared stand in the same order, up to further types. -/
theorem candidates (h : p.Mirrors σ m m' wraps p') (hm : m.Mirrors σ m') (hk : m.Keyed) (hk' : m'.Keyed) :
    m.Lists σ (p.candidates m) (p'.candidates m') := by
  classical
  have hname {id : TypeId} (hid : id ∈ p.candidates m) : (p'.decl m' (σ.type id)).name = (p.decl m id).name :=
    (h.decl hm (h.knows hid)).name
  have hmem (id' : TypeId) :
      id' ∈ (p'.candidates m').filter (fun id' => m.Shows σ id') ↔ id' ∈ (p.candidates m).map σ.type := by
    simp only [List.mem_filter, decide_eq_true_eq, List.mem_map, h.sound.mem_candidates_iff,
      h.sound'.mem_candidates_iff, h.isCandidate_iff hm]
  have hperm := (List.perm_ext_iff_of_nodup ((nodup_candidates hk' p').filter fun id' => m.Shows σ id')
    ((nodup_candidates hk p).map σ.type_injective)).2 hmem
  refine List.Perm.eq_of_pairwise ?_ ((p'.pairwise_le_candidates m').filter _) ?_ hperm
  -- both lists ascend, and a name belongs to one candidate
  · intro a b ha hb hab hba
    have ha := h.sound'.mem_candidates_iff.1 (List.mem_filter.1 ha).1
    have hb := h.sound'.mem_candidates_iff.1 (List.mem_filter.1 ((hmem b).2 hb)).1
    have e := String.le_antisymm hab hba
    rw [h.sound'.decl_of_isCandidate hk' ha, h.sound'.decl_of_isCandidate hk' hb] at e
    exact eq_of_name_eq hk' h.apart' ha hb e
  · rw [List.pairwise_map]
    apply (p.pairwise_le_candidates m).imp_of_mem
    intro a b ha hb hab
    rw [hname ha, hname hb]
    exact hab

/-- The types that have to be declared have the same names. -/
theorem referencedTypeNames (h : p.Mirrors σ m m' wraps p') (hm : m.Mirrors σ m') (hk : m.Keyed) (hk' : m'.Keyed) :
    p'.referencedTypeNames m' = p.referencedTypeNames m := by
  have hl := h.candidates hm hk hk'
  have hq (id : TypeId) (hid : id ∈ p.candidates m) :
      (decide (0 < p'.counts.get (some (σ.type id))) && !(p'.decl m' (σ.type id)).intrinsic) =
        (decide (0 < p.counts.get (some id)) && !(p.decl m id).intrinsic) := by
    rw [(h.decl hm (h.knows hid)).intrinsic, ← h.counts (some id)]
    rfl
  rw [Pass.referencedTypeNames, Pass.referencedTypes, hl.filter_eq hq, List.map_map]
  · apply List.map_congr_left
    intro id hid
    exact (h.decl hm (h.knows (List.mem_filter.1 hid).1)).name
  · intro id' hid'
    simp only [Bool.and_eq_true, decide_eq_true_eq] at hid'
    exact h.known id' hid'.1

end Pass.Mirrors

end SdkGen
