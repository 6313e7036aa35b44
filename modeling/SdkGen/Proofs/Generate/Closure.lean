import SdkGen.Proofs.Generate.Outcome

/-!
# Which types are declared

`Target.Reached` are the types that the methods of a model reach, by themselves or through the properties of types
that are declared, and `Target.Declarable` the types that can be declared at all. The types that are declared are
those that are both, which is the least set that holds what methods reach and goes through its own properties.

Main statement: `Target.generate_closure`. Generating declares exactly these types, in the order of their names.
-/

namespace SdkGen.Target

/-- A type can be declared if it is not built in, and is in the model or called for by a method. -/
def Declarable (t : Target) (m : Model) (id : TypeId) : Prop :=
  (m.declOf id).intrinsic = false ∧ (id ∈ m.types.values ∨ t.CallsFor m id)

/-- The types that the methods of a model reach: by themselves, or through a property of a type that is reached and
can be declared. -/
inductive Reached (t : Target) (m : Model) : TypeId → Prop where
  | seed {id} :
    t.Seed m id →
    Reached t m id
  | property {id q r} :
    Reached t m id →
    t.Declarable m id →
    q ∈ (m.declOf id).properties.values →
    q.type = some r →
    Reached t m r.root

variable {t : Target} {m : Model} {p₁ p₂ : Pass} {id x : TypeId} {ids : List TypeId}
  {decls : Dict String String}

/-- What a reached type mentions is reached if that type is declared. -/
lemma Reached.mention (h : t.Reached m id) (hd : t.Declarable m id) (hx : x ∈ (m.declOf id).mentions) :
    t.Reached m x := by
  obtain ⟨q, hq, hx⟩ := List.mem_filterMap.1 hx
  obtain ⟨r, hr, rfl⟩ := Option.map_eq_some_iff.1 hx
  exact h.property hd hq hr

/-- A pass that has served the demands of all methods over a model. -/
structure Served (t : Target) (m : Model) (p₁ : Pass) : Prop where
  sound : p₁.Sound m t.needsRequestTypes
  apart : m.Apart (· ∈ p₁.derivedTypes)
  counts : ∀ x, 0 < p₁.counts.get (some x) ↔ t.Seed m x
  derived : ∀ x, x ∈ p₁.derivedTypes ↔ t.CallsFor m x

/-- After the demands of all methods were served, the methods have had their effect. -/
lemma served_of_serveAll
    (h : Demand.serveAll m (t.demands m t.needsRequestTypes) (.begun t m) = (.ok (), p₁)) :
    t.Served m p₁ := by
  have hs := Pass.sound_begun t m
  obtain ⟨hp, ha⟩ := sound_apart_of_serveAll h
  refine ⟨hp, ha, fun x => ?_, fun x => ?_⟩
  · have h0 : (Pass.begun t m).counts.get (some x) = 0 := rfl
    rw [Demand.counts_serveAll hs h, h0, Nat.zero_add, List.countP_pos_iff, touches_demands_iff]
  · rw [Demand.mem_derivedTypes_serveAll hs h, makes_demands_iff, or_iff_right]
    exact nofun

namespace Served

variable (hp : t.Served m p₁)

include hp

/-- Candidates are the types of the model and the derived types that are called for. -/
lemma isCandidate_iff : p₁.IsCandidate m id ↔ id ∈ m.types.values ∨ t.CallsFor m id := by
  rw [Pass.IsCandidate, hp.derived]

/-- The candidates that are no built-in types are the declarable types. -/
lemma declarable_iff (hm : m.Keyed) :
    id ∈ p₁.candidates m ∧ (p₁.decl m id).intrinsic = false ↔ t.Declarable m id := by
  rw [hp.sound.mem_candidates_iff, Declarable, ← hp.isCandidate_iff, and_comm]
  apply and_congr_left
  intro hc
  rw [hp.sound.decl_of_isCandidate hm hc]

/-- After the loop, the types with references are those that are reached. -/
lemma counts_iff_reached (hm : m.Keyed) (ho : p₁.Orderly m)
    (h : t.Declares m p₁ .empty ids decls p₂) :
    0 < p₂.counts.get (some x) ↔ t.Reached m x := by
  constructor
  -- nothing too much: being reached is what references pass on
  · apply h.least (R := t.Reached m) ho (fun x hx => .seed ((hp.counts x).1 hx))
    intro id hc hi hr x hx
    rw [hp.sound.decl_of_isCandidate hm (hp.sound.mem_candidates_iff.1 hc)] at hx
    exact hr.mention ((hp.declarable_iff hm).1 ⟨hc, hi⟩) hx
  -- nothing is missing: by induction on how a type is reached
  · intro hr
    induction hr with
    | @seed x hx =>
      rw [h.state_eq ho]
      exact Pass.counts_declareAll_pos_iff.2 (.inl ((hp.counts x).2 hx))
    | @property id q r _ hd hq hr ih =>
      obtain ⟨hc, hi⟩ := (hp.declarable_iff hm).2 hd
      have hid : id ∈ p₂.referencedTypes m := by
        apply Pass.mem_referencedTypes_iff.2
        refine ⟨?_, ih, ?_⟩
        · rwa [h.state_eq ho, Pass.candidates_declareAll]
        · rwa [h.state_eq ho, Pass.decl_declareAll]
      apply h.closed ho hid
      rw [hp.sound.decl_of_isCandidate hm (hp.sound.mem_candidates_iff.1 hc)]
      exact List.mem_filterMap.2 ⟨q, hq, by rw [hr]; rfl⟩

/-- After the loop, the types that have to be declared are those that are reached and can be declared. -/
lemma mem_referencedTypes_iff (hm : m.Keyed) (ho : p₁.Orderly m)
    (h : t.Declares m p₁ .empty ids decls p₂) :
    id ∈ p₂.referencedTypes m ↔ t.Reached m id ∧ t.Declarable m id := by
  rw [Pass.mem_referencedTypes_iff, hp.counts_iff_reached hm ho h, ← hp.declarable_iff hm,
    h.state_eq ho, Pass.candidates_declareAll, Pass.decl_declareAll, and_left_comm]

end Served

/-- If generating succeeds over a model with types everywhere, it declares exactly the types that are reached and can
be declared, each once and in the order of their names, and derives exactly what the methods call for. -/
theorem generate_closure (hm : m.Built) (ht : m.Typed) (t : Target) {s : Sources}
    (h : (t.generate (some m)).1 = .ok s) :
    (∃ ids : List TypeId, ids.Nodup ∧ (∀ id, id ∈ ids ↔ t.Reached m id ∧ t.Declarable m id) ∧
      s.typeNames = ids.map fun id => (m.declOf id).name) ∧
    s.typeNames.Pairwise (· < ·) ∧
    ∀ id, id ∈ ((t.generateSteps m).runFrom (.start t)).2.derivedTypes ↔ t.CallsFor m id := by
  rcases hserve : Demand.serveAll m (t.demands m t.needsRequestTypes) (.begun t m) with ⟨f | u, p₁⟩
  · rw [generate_of_error hserve] at h
    cases h
  · have hp := served_of_serveAll hserve
    have ho := hp.sound.orderly hp.apart hm.keyed ht
    obtain ⟨methods, ids, decls, p₂, models, hg⟩ := exists_generates hm ht hserve
    have hloop := hg.settles.loop
    have hmem (id : TypeId) : id ∈ p₂.referencedTypes m ↔ t.Reached m id ∧ t.Declarable m id :=
      hp.mem_referencedTypes_iff hm.keyed ho hloop
    have hs₂ : p₂.Sound m t.needsRequestTypes := hloop.state_eq ho ▸ hp.sound.declareAll ids
    have ha₂ : m.Apart (· ∈ p₂.derivedTypes) := hg.settles.derivedTypes ▸ hp.apart
    obtain rfl : { methods, models, typeNames := p₂.referencedTypeNames m } = s := by
      rw [hg.result] at h
      exact Except.ok.inj h
    refine ⟨⟨p₂.referencedTypes m, ?_, hmem, ?_⟩, ?_, fun id => ?_⟩
    · exact (Pass.nodup_candidates hm.keyed p₂).filter _
    · apply List.map_congr_left
      intro id hid
      rw [hs₂.decl_of_isCandidate hm.keyed]
      exact hs₂.mem_candidates_iff.1 (Pass.mem_referencedTypes_iff.1 hid).1
    · exact Pass.pairwise_lt_referencedTypeNames hm.keyed hs₂ ha₂
    · rw [hg.state, ← hp.derived, ← hg.settles.derivedTypes]
      rfl

/-- Python declares what it reaches over the sample. -/
theorem generate_closure_sample :
    Model.sample.Built ∧ Model.sample.Typed ∧
    ∃ s, ((standard .python).generate (some .sample)).1 = .ok s ∧
      (∃ ids : List TypeId, ids.Nodup ∧
        (∀ id, id ∈ ids ↔
          (standard .python).Reached .sample id ∧ (standard .python).Declarable .sample id) ∧
        s.typeNames = ids.map fun id => (Model.sample.declOf id).name) ∧
      s.typeNames.Pairwise (· < ·) ∧
      ∀ id,
        id ∈ (((standard .python).generateSteps .sample).runFrom (.start (standard .python))).2.derivedTypes ↔
          (standard .python).CallsFor .sample id := by
  obtain ⟨s, h⟩ := exists_generate_sample
  exact ⟨Model.built_sample, Model.typed_sample, s, h,
    generate_closure Model.built_sample Model.typed_sample _ h⟩

end SdkGen.Target
