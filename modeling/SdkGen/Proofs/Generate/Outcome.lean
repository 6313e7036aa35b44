import SdkGen.Proofs.Generate.Contexts
import SdkGen.Proofs.Generate.Seeds

/-!
# What generating comes to

Generating sources serves the demands of all methods and then declares what has to be declared. The second part cannot
fail, and the first part fails exactly if two types would have one name.

Main statements: `Target.generate_of_error`, `Target.exists_generates` (what generating comes to in either case) and
`Target.generate_fails_iff_conflicts`.
-/

namespace SdkGen

/-- The pass over a model for a target, once it was announced. -/
def Pass.begun (t : Target) (m : Model) : Pass :=
  (Pass.start t).note (.generating t.language.name m.methods.size)

/-- A pass that has just begun to generate is sound. -/
lemma Pass.sound_begun (t : Target) (m : Model) : (Pass.begun t m).Sound m t.needsRequestTypes :=
  (Sound.fresh m t.needsRequestTypes).note _

/-- At first, no derived types are in each other's way. -/
lemma Pass.apart_begun (t : Target) (m : Model) : m.Apart (· ∈ (Pass.begun t m).derivedTypes) :=
  apart_fresh m t.needsRequestTypes

namespace Target

open Demand

variable {t : Target} {m : Model} {p p₁ p₂ : Pass} {ids : List TypeId} {decls : Dict String String}
  {names : List String} {f : Failure} {methods models : String}

/-- With a declaration for each name, there is a models module. -/
lemma exists_renderModels (h : ∀ name ∈ names, name ∈ decls.keys) (p : Pass) :
    ∃ models, (t.renderModels decls names).runFrom p = (.ok models, p) := by
  rw [renderModels, ← map_eq_pure_bind]
  apply Step.exists_runFrom_map
  apply Step.exists_runFrom_mapM
  intro name hn
  obtain ⟨text, ht⟩ := Dict.mem_keys_iff.1 (h name hn)
  exact ⟨text, by rw [ht]; rfl⟩

/-- How generating goes if it does not fail: from the announced pass over the methods and the declarations to the
models. -/
structure Generates (t : Target) (m : Model) (methods : String) (p₁ : Pass) (ids : List TypeId)
    (decls : Dict String String) (p₂ : Pass) (models : String) : Prop where
  run_methods : (t.renderMethods m).runFrom (.begun t m) = (.ok methods, p₁)
  settles : t.Settles m p₁ ids decls p₂
  run_models : (t.renderModels decls (p₂.referencedTypeNames m)).runFrom p₂ = (.ok models, p₂)
  state : ((t.generateSteps m).runFrom (.start t)).2 =
    p₂.note (.declared (p₂.referencedTypeNames m).length)
  result : (t.generate (some m)).1 = .ok { methods, models, typeNames := p₂.referencedTypeNames m }

/-- Generating renders the methods, then the declarations, and then the models module. -/
lemma runFrom_generateSteps :
    (t.generateSteps m).runFrom (.start t) = (do
      let methods ← t.renderMethods m
      let declarations ← t.renderDeclarations m
      let typeNames := (← get).referencedTypeNames m
      let models ← t.renderModels declarations typeNames
      Step.report (.declared typeNames.length)
      return ({ methods, models, typeNames } : Sources) : Step Sources).runFrom (.begun t m) := by
  rw [generateSteps, Step.runFrom_bind_of_ok (Step.runFrom_report _ _)]
  rfl

/-- If a demand of the methods fails, then so does generating. -/
lemma generate_of_error
    (h : serveAll m (t.demands m t.needsRequestTypes) (.begun t m) = (.error f, p₁)) :
    (t.generate (some m)).1 = .error f := by
  have hs := serves_renderMethods (t := t) _ (Pass.sound_begun t m)
  rw [h] at hs
  simp only [generate, runFrom_generateSteps, Step.runFrom_bind_of_error hs]

/-- Where the demands of the methods are served, the pass is sound, and its types are apart. -/
lemma sound_apart_of_serveAll
    (h : serveAll m (t.demands m t.needsRequestTypes) (.begun t m) = (.ok (), p₁)) :
    p₁.Sound m t.needsRequestTypes ∧ m.Apart (· ∈ p₁.derivedTypes) := by
  have hp := Pass.sound_begun t m
  have hs := hp.serveAll (t.demands m t.needsRequestTypes)
  have ha := Pass.apart_serveAll hp (Pass.apart_begun t m) (t.demands m t.needsRequestTypes)
  rw [h] at hs ha
  exact ⟨hs, ha⟩

/-- If the demands of the methods are served, then generating does not fail. -/
theorem exists_generates (hm : m.Built) (ht : m.Typed)
    (h : serveAll m (t.demands m t.needsRequestTypes) (.begun t m) = (.ok (), p₁)) :
    ∃ methods ids decls p₂ models, t.Generates m methods p₁ ids decls p₂ models := by
  have hs := serves_renderMethods (t := t) _ (Pass.sound_begun t m)
  rw [h] at hs
  obtain ⟨methods, hmethods, _⟩ := hs
  obtain ⟨hp, ha⟩ := sound_apart_of_serveAll h
  obtain ⟨ids, decls, p₂, hd⟩ := exists_settles (t := t) hp ha hm.keyed ht
  obtain ⟨models, hmodels⟩ := exists_renderModels (t := t)
    (fun name hn => (hd.mem_keys_iff name).2 hn) p₂
  have hrun : (t.generateSteps m).runFrom (.start t) =
      (.ok { methods, models, typeNames := p₂.referencedTypeNames m },
        p₂.note (.declared (p₂.referencedTypeNames m).length)) := by
    rw [runFrom_generateSteps, Step.runFrom_bind_of_ok hmethods, Step.runFrom_bind_of_ok hd.run,
      Step.runFrom_bind_of_ok (Step.runFrom_get p₂), Step.runFrom_bind_of_ok hmodels,
      Step.runFrom_bind_of_ok (Step.runFrom_report _ p₂)]
    rfl
  exact ⟨methods, ids, decls, p₂, models, hmethods, hd, hmodels, by rw [hrun],
    by simp only [generate, hrun]⟩

/-- Two types would have one name: one that the methods call for, and a type of the model or another one that they
call for. -/
def Conflicts (t : Target) (m : Model) : Prop :=
  (∃ id, t.CallsFor m id ∧ (m.declOf id).name ∈ m.types.keys) ∨
    ∃ a b, t.CallsFor m a ∧ t.CallsFor m b ∧ a ≠ b ∧ (m.declOf a).name = (m.declOf b).name

/-- There is no conflict exactly if what the methods call for is apart. -/
lemma not_conflicts_iff : ¬t.Conflicts m ↔ m.Apart (t.CallsFor m) := by
  rw [Conflicts]
  push Not
  constructor
  · rintro ⟨hf, hd⟩
    refine ⟨hf, fun a b ha hb e => ?_⟩
    by_contra hne
    exact hd a b ha hb hne e
  · rintro ⟨hf, hd⟩
    exact ⟨hf, fun a b ha hb hne e => hne (hd a b ha hb e)⟩

/-- With types everywhere, no demand asks for a missing type. -/
lemma missing_notMem_demands (ht : m.Typed) (he : ∀ id ∈ m.methods.values, none ∉ (m.method id).errors) :
    .missing ∉ t.demands m t.needsRequestTypes := by
  have hm (r : Option TypeRef) (h : .missing ∈ ofMention r) : r = none := by
    cases r with
    | none => rfl
    | some r => simp [ofMention] at h
  have hv (r : Option TypeRef) : .missing ∉ ofVariant r := by
    cases r with
    | none => simp [ofVariant]
    | some r => cases r <;> simp [ofVariant]
  intro h
  obtain ⟨id, hid, h⟩ := mem_demands_iff.1 h
  rcases mem_methodDemands_iff.1 h with h | ⟨_, h⟩ | ⟨_, q, hq, h⟩ | ⟨r, hr, h⟩
  · rw [ofAnswer] at h
    split at h
    · cases hm _ h
    · cases h
  · rw [ofRequest] at h
    split at h
    · simp at h
    · cases h
  · have hq := ht.method id q hq
    rw [ofParameter] at h
    split at h
    · rcases List.mem_append.1 h with h | h
      · exact hv _ h
      · have hn := (Option.or_eq_none_iff.1 (hm _ h)).2
        rw [hn] at hq
        cases hq
    · rw [hm _ h] at hq
      cases hq
  · exact he id hid (hm r h ▸ hr)

/-- With types everywhere, the demands of all methods can be served exactly if there is no conflict. -/
lemma exists_serveAll_demands_iff (ht : m.Typed)
    (he : ∀ id ∈ m.methods.values, none ∉ (m.method id).errors) :
    (∃ p₁, serveAll m (t.demands m t.needsRequestTypes) (.begun t m) = (.ok (), p₁)) ↔
      ¬t.Conflicts m := by
  rw [exists_serveAll_ok_iff (Pass.sound_begun t m) (Pass.apart_begun t m)
    (missing_notMem_demands ht he), not_conflicts_iff]
  have hc : (fun x => x ∈ (Pass.begun t m).derivedTypes ∨ Makes m (t.demands m t.needsRequestTypes) x) =
      t.CallsFor m := by
    funext x
    rw [makes_demands_iff, eq_iff_iff, or_iff_right]
    exact nofun
  rw [hc]

/-- Python calls for one type over the sample, the variant of the record. -/
lemma eq_of_callsFor_sample {x : TypeId} (h : (standard .python).CallsFor .sample x) :
    x = .writeable (.declared 1) := by
  cases h with
  | request _ hb => exact absurd hb.1 nofun
  | @variant id q x hid _ hq hv =>
    have hparam : ∀ id ∈ Model.sample.methods.values, ∀ q ∈ (Model.sample.method id).params,
        q.location = .body → q.type = some (.named (.declared 1)) := by decide
    have hx := hparam id hid q hq hv.1
    rw [hv.2.1] at hx
    cases hx
    rfl

/-- Python is not in conflict over the sample. -/
lemma not_conflicts_sample : ¬(standard .python).Conflicts .sample := by
  apply not_conflicts_iff.2
  constructor
  · intro a ha
    obtain rfl := eq_of_callsFor_sample ha
    decide
  · intro a b ha hb _
    rw [eq_of_callsFor_sample ha, eq_of_callsFor_sample hb]

/-- Python sources can be generated for the sample. -/
lemma exists_generate_sample : ∃ s, ((standard .python).generate (some .sample)).1 = .ok s := by
  obtain ⟨p₁, h⟩ := (exists_serveAll_demands_iff Model.typed_sample (by decide)).2 not_conflicts_sample
  obtain ⟨_, _, _, _, _, hg⟩ := exists_generates Model.built_sample Model.typed_sample h
  exact ⟨_, hg.result⟩

/-- TypeScript is in conflict over the sample: two methods call for request types of one name. -/
lemma conflicts_sample : (standard .typescript).Conflicts .sample := by
  refine .inr ⟨.request ⟨0⟩, .request ⟨1⟩, ?_, ?_, by decide, by decide⟩
  · exact .request (by decide) ⟨rfl, rfl, by decide⟩
  · exact .request (by decide) ⟨rfl, rfl, by decide⟩

/-- In a model with types everywhere, generating fails exactly if two types would have one name, it fails for such a
name, and in every other case it ends with a declaration for each name of the models module. -/
theorem generate_fails_iff_conflicts (hm : m.Built) (ht : m.Typed)
    (he : ∀ id ∈ m.methods.values, none ∉ (m.method id).errors) (t : Target) :
    ((∃ f, (t.generate (some m)).1 = .error f) ↔ t.Conflicts m) ∧
      (∀ f, (t.generate (some m)).1 = .error f →
        ∃ id, t.CallsFor m id ∧ f = .nameConflict (m.declOf id).name (m.sourceName id)) ∧
      (¬t.Conflicts m →
        ∃ methods p₁ ids decls p₂ models, t.Generates m methods p₁ ids decls p₂ models) := by
  have hserve := exists_serveAll_demands_iff (t := t) ht he
  -- generating fails with the first demand that fails, and with nothing else
  rcases h : serveAll m (t.demands m t.needsRequestTypes) (.begun t m) with ⟨f | u, p₁⟩
  · have hf := generate_of_error h
    have hc : t.Conflicts m := by
      by_contra hc
      obtain ⟨p₂, h₂⟩ := hserve.2 hc
      rw [h] at h₂
      cases h₂
    refine ⟨⟨fun _ => hc, fun _ => ⟨f, hf⟩⟩, fun f' hf' => ?_, fun hn => absurd hc hn⟩
    obtain rfl : f = f' := by
      rw [hf] at hf'
      exact Except.error.inj hf'
    obtain ⟨id, hid, e⟩ := serveAll_error_eq h (missing_notMem_demands ht he)
    exact ⟨id, makes_demands_iff.1 hid, e⟩
  · have hc : ¬t.Conflicts m := hserve.1 ⟨p₁, h⟩
    obtain ⟨methods, ids, decls, p₂, models, hg⟩ := exists_generates hm ht h
    have hf (f : Failure) : (t.generate (some m)).1 ≠ .error f := by
      rw [hg.result]
      exact nofun
    refine ⟨⟨?_, fun h => absurd h hc⟩, fun f h => absurd h (hf f),
      fun _ => ⟨methods, p₁, ids, decls, p₂, models, hg⟩⟩
    rintro ⟨f, h⟩
    exact absurd h (hf f)

/-- Over the sample, TypeScript is in conflict and Python is not. -/
theorem generate_fails_iff_conflicts_sample :
    Model.sample.Built ∧ Model.sample.Typed ∧
    (∀ id ∈ Model.sample.methods.values, none ∉ (Model.sample.method id).errors) ∧
    (∃ f, ((standard .typescript).generate (some .sample)).1 = .error f) ∧
    ∃ s, ((standard .python).generate (some .sample)).1 = .ok s := by
  have he : ∀ id ∈ Model.sample.methods.values, none ∉ (Model.sample.method id).errors := by decide
  have main := generate_fails_iff_conflicts Model.built_sample Model.typed_sample he
  obtain ⟨methods, p₁, ids, decls, p₂, models, hg⟩ := (main (standard .python)).2.2 not_conflicts_sample
  exact ⟨Model.built_sample, Model.typed_sample, he, (main (standard .typescript)).1.2 conflicts_sample, _,
    hg.result⟩

end Target

end SdkGen
