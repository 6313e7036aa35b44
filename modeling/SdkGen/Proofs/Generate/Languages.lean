import SdkGen.Proofs.Generate.Mirror
import SdkGen.Proofs.Pass.Parallel

/-!
# Languages declare the same types

Python and TypeScript write methods in their own ways, and they map the types of a method in different orders. Without
request types they ask for the same types all the same, so what has to be declared in the end is the same in both.

Main statement: `Target.generate_alike_of_unbundled`.
-/

namespace SdkGen.Target

open Demand

variable {t t' : Target} {m : Model} {wraps wraps' : Bool} {p p' : Pass} {done done' : Dict String String}
  {indent indent' qualifier qualifier' : String}

section Declarations

/-! ### Declaring types, in any two languages -/

/-- Different events may be reported side by side. -/
lemma matches_report (e e' : Event) :
    Step.Matches Pass.Parallel True (Step.report e) (Step.report e') fun _ _ => True :=
  fun p _ hp => ⟨(), p.note e, rfl, trivial, hp.note e e'⟩

/-- Types are mapped side by side, whatever they are written like. -/
lemma matches_typeMap (r : Option TypeRef) :
    Step.Matches Pass.Parallel True (t.typeMap m qualifier r) (t'.typeMap m qualifier' r) fun _ _ => True := by
  intro p p' hp
  cases r with
  | none =>
    intro _
    exact ⟨p.count none, rfl, hp.count none⟩
  | some r =>
    rw [typeMap, runFrom_typeMapRef r p']
    exact ⟨_, _, runFrom_typeMapRef r p, trivial, hp.count (some r.root)⟩

/-- The declaration of a type references the same types in every language, or fails at the same property. -/
lemma matches_declareDecl (d : TypeDecl) :
    Step.Matches Pass.Parallel True (t.declareDecl m indent d) (t'.declareDecl m indent' d) fun _ _ => True := by
  have hprops : Step.Matches Pass.Parallel True
      (d.properties.values.mapM (t.declareProperty m (t.bumper indent)))
      ((d.properties.values.map id).mapM (t'.declareProperty m (t'.bumper indent')))
      (List.Forall₂ fun _ _ => True) := by
    apply Step.Matches.mapM
    intro q _
    exact (matches_typeMap q.type).bind fun _ _ _ => Step.Matches.pure trivial
  rw [List.map_id] at hprops
  exact hprops.bind fun _ _ _ => Step.Matches.pure trivial

/-- With declarations of the same names, the next declaration is of the same name. -/
lemma matches_declareNext (hd : done'.keys = done.keys) (id : TypeId) :
    Step.Matches Pass.Parallel True (t.declareNext m done id) (t'.declareNext m done' id)
      fun d d' => d'.keys = d.keys := by
  rw [declareNext, declareNext]
  apply Step.Matches.get_bind
  intro p p' hp
  rw [hp.decl]
  apply (matches_report _ _).bind
  intro _ _ _
  apply (matches_declareDecl _).bind
  intro _ _ _
  apply Step.Matches.pure
  rw [Dict.keys_insert, Dict.keys_insert, hd]

/-- What has to be declared next is decided by the references and by the names that have a declaration. -/
lemma isPending_eq_of_parallel (hp : p.Parallel p') (hd : done'.keys = done.keys) :
    p'.isPending m done' = p.isPending m done := by
  have hc (name : String) : done'.contains name = done.contains name := by
    rw [Bool.eq_iff_iff, Dict.contains_eq_true_iff, Dict.contains_eq_true_iff, hd]
  funext id
  simp only [Pass.isPending, hp.counts, hp.decl, hc]

/-- Types are declared in the same rounds. -/
lemma matches_declareRounds (remaining : List TypeId) (hd : done'.keys = done.keys) :
    Step.Matches Pass.Parallel True (t.declareRounds m remaining done) (t'.declareRounds m remaining done')
      fun d d' => d'.keys = d.keys := by
  -- the same types are left to both loops after each round
  induction h : remaining.length using Nat.strongRecOn generalizing remaining done done' with
  | ind n ih =>
    rw [declareRounds.eq_def t m, declareRounds.eq_def t' m]
    apply Step.Matches.get_bind
    intro p p' hp
    have hpending : p'.pending m done' remaining = p.pending m done remaining := by
      rw [Pass.pending, Pass.pending, isPending_eq_of_parallel hp hd]
    have hwaiting : p'.waiting m done' remaining = p.waiting m done remaining := by
      rw [Pass.waiting, Pass.waiting, isPending_eq_of_parallel hp hd]
    by_cases hu : p.pending m done remaining = []
    · rw [dif_pos hu, dif_pos (hpending.trans hu)]
      exact Step.Matches.pure hd
    · rw [dif_neg hu, dif_neg (hpending ▸ hu), hpending, hwaiting]
      have hround : Step.Matches Pass.Parallel True
          ((p.pending m done remaining).foldlM (t.declareNext m) done)
          (((p.pending m done remaining).map id).foldlM (t'.declareNext m) done') fun d d' => d'.keys = d.keys :=
        Step.Matches.foldlM (fun _ _ hd id _ => matches_declareNext hd id) hd
      rw [List.map_id] at hround
      apply hround.bind
      intro d d' hd
      exact ih _ (h ▸ Pass.length_waiting_lt hu) _ hd rfl

/-- Declarations are rendered side by side, under the same names. -/
lemma matches_renderDeclarations :
    Step.Matches Pass.Parallel True (t.renderDeclarations m) (t'.renderDeclarations m)
      fun d d' => d'.keys = d.keys := by
  apply Step.Matches.get_bind
  intro p p' hp
  rw [hp.candidates]
  exact matches_declareRounds _ rfl

/-- With declarations of the same names, both models modules are there, or the same declaration is missing. -/
lemma matches_renderModels (hd : done'.keys = done.keys) (names : List String) :
    Step.Matches Pass.Parallel True (t.renderModels done names) (t'.renderModels done' names) fun _ _ => True := by
  have hparts : Step.Matches Pass.Parallel True (names.mapM (declarationOf done))
      ((names.map id).mapM (declarationOf done')) (List.Forall₂ fun _ _ => True) := by
    apply Step.Matches.mapM
    intro name _
    have hsome : (∃ text, done'.get? name = some text) ↔ ∃ text, done.get? name = some text := by
      rw [← Dict.mem_keys_iff, ← Dict.mem_keys_iff, hd]
    simp only [declarationOf, id]
    cases h : done.get? name with
    | some text =>
      obtain ⟨text', h'⟩ := hsome.2 ⟨text, h⟩
      rw [h']
      exact Step.Matches.pure trivial
    | none =>
      have h' : done'.get? name = none := by
        rw [Dict.get?_eq_none_iff, hd, ← Dict.get?_eq_none_iff, h]
      rw [h']
      exact Step.Matches.fault _
  rw [List.map_id] at hparts
  exact hparts.bind fun _ _ _ => Step.Matches.pure trivial

/-- After the methods, the same types are declared. -/
lemma matches_complete (methods methods' : String) :
    Step.Matches Pass.Parallel True (t.complete m methods) (t'.complete m methods')
      fun s s' => s'.typeNames = s.typeNames := by
  apply matches_renderDeclarations.bind
  intro d d' hd
  apply Step.Matches.get_bind
  intro p p' hp
  rw [hp.referencedTypeNames]
  apply (matches_renderModels hd _).bind
  intro _ _ _
  exact (matches_report _ _).bind fun _ _ _ => Step.Matches.pure rfl

end Declarations

section Methods

/-! ### Rendering methods without request types -/

variable (ht : t.language = .python) (ht' : t'.language = .typescript)

include ht ht'

/-- Both languages demand the same of a method. Python references the answer before the parameters are mapped. -/
lemma reorders_methodDemands (id : MethodId) :
    Reorders (t.methodDemands m wraps id) (t'.methodDemands m false id) := by
  have hanswer : ∀ d ∈ ofAnswer (m.method id), d.isReference := by
    rw [ofAnswer]
    cases (m.method id).type with
    | none => simp
    | some r => simp [ofMention, isReference]
  have hparams : t'.parameterDemands m false id = t.parameterDemands m wraps id := by
    rw [parameterDemands_of_python ht, parameterDemands_of_typescript ht']
    rfl
  rw [methodDemands, methodDemands, signatureDemands, signatureDemands, ht, ht', hparams]
  exact (Reorders.postpone hanswer _).append (.refl _)

/-- From passes that go in parallel, rendering the methods comes to the same end in both languages. -/
lemma sameEnd_renderMethods (hp : p.Sound m wraps) (hp' : p'.Sound m false) (hpp : p.Parallel p') :
    Step.SameEnd (fun _ _ => True) ((t.renderMethods m).runFrom p) ((t'.renderMethods m).runFrom p') := by
  have hrun := serves_renderMethods (t := t) p hp
  have hrun' := serves_renderMethods (t := t') p' hp'
  have hdemands : Reorders (t.demands m wraps) (t'.demands m false) :=
    Reorders.flatMap (reorders_methodDemands ht ht') _
  obtain ⟨he, hpp⟩ := hdemands.serveAll hp hp' hpp
  rcases hs : serveAll m (t.demands m wraps) p with ⟨f | u, q⟩ <;>
    rcases hs' : serveAll m (t'.demands m false) p' with ⟨f' | u', q'⟩ <;>
    simp only [hs, hs', reduceCtorEq, Except.error.injEq] at he hpp hrun hrun'
  · rw [hrun, hrun', he]
    exact .error f q q'
  · obtain ⟨text, hrun, _⟩ := hrun
    obtain ⟨text', hrun', _⟩ := hrun'
    rw [hrun, hrun']
    exact .ok trivial (hpp trivial)

end Methods

/-- Renders the methods and then the declarations. -/
def renderAll (t : Target) (m : Model) : Step (Dict String String) :=
  t.renderMethods m >>= fun _ => t.renderDeclarations m

/-- Python with or without request types and TypeScript without them generate sources for a model that declare the same
types, or fail in the same way. Rendering the methods and the declarations leaves passes with the same derived types
and with the same number of references to each type, or fails in the same way. -/
theorem generate_alike_of_unbundled (t t' : Target) (ht : t.language = .python) (ht' : t'.language = .typescript)
    (hw : t'.needsRequestTypes = false) :
    (∀ model, (t'.generate model).1.map (·.typeNames) = (t.generate model).1.map (·.typeNames)) ∧
    ∀ m,
      (∃ f q q',
        (t.renderAll m).runFrom (.start t) = (.error f, q) ∧ (t'.renderAll m).runFrom (.start t') = (.error f, q')) ∨
      ∃ decls q decls' q',
        (t.renderAll m).runFrom (.start t) = (.ok decls, q) ∧ (t'.renderAll m).runFrom (.start t') = (.ok decls', q') ∧
        decls'.keys = decls.keys ∧ q'.derivedTypes = q.derivedTypes ∧ q'.decl m = q.decl m ∧
        ∀ r, q'.refCount r = q.refCount r := by
  constructor
  · rintro (_ | m)
    · rfl
    have hp' : (Pass.begun t' m).Sound m false := hw ▸ Pass.sound_begun t' m
    have hmethods := sameEnd_renderMethods ht ht' (Pass.sound_begun t m) hp' ((Pass.Parallel.fresh _ _).note _ _)
    have hend : Step.SameEnd (fun s s' => s'.typeNames = s.typeNames)
        ((t.renderMethods m >>= t.complete m).runFrom (.begun t m))
        ((t'.renderMethods m >>= t'.complete m).runFrom (.begun t' m)) :=
      hmethods.bind fun text text' _ => matches_complete text text'
    rw [generate, generate, runFrom_generateSteps_eq_bind, runFrom_generateSteps_eq_bind]
    rcases (Step.sameEnd_iff ..).1 hend with ⟨s, s', q, q', hs, _, hr, hr'⟩ | ⟨f, q, q', hr, hr'⟩
    · rw [hr, hr']
      exact congrArg Except.ok hs
    · rw [hr, hr']
  · intro m
    have hp' : (Pass.start t').Sound m false := hw ▸ Pass.Sound.fresh m t'.needsRequestTypes
    have hmethods := sameEnd_renderMethods ht ht' (Pass.Sound.fresh m t.needsRequestTypes) hp' (.fresh _ _)
    have hend : Step.SameEnd (fun d d' => d'.keys = d.keys) ((t.renderAll m).runFrom (.start t))
        ((t'.renderAll m).runFrom (.start t')) :=
      hmethods.bind fun _ _ _ => matches_renderDeclarations
    rcases (Step.sameEnd_iff ..).1 hend with ⟨decls, decls', q, q', hd, hq, hr, hr'⟩ | ⟨f, q, q', hr, hr'⟩
    · exact .inr ⟨decls, q, decls', q', hr, hr', hd, hq.derivedTypes, hq.decl, hq.refCount⟩
    · exact .inl ⟨f, q, q', hr, hr'⟩

/-- If no two types would have one name, then the methods and the declarations can be rendered. -/
lemma exists_renderAll (hm : m.Built) (ht : m.Typed) (he : ∀ id ∈ m.methods.values, none ∉ (m.method id).errors)
    (hc : ¬t.Conflicts m) : ∃ decls p, (t.renderAll m).runFrom (.start t) = (.ok decls, p) := by
  obtain ⟨p₁, h⟩ := (exists_serveAll_demands_iff ht he).2 hc
  -- whether the pass was announced makes no difference to the demands
  have hp := Pass.Sound.fresh m t.needsRequestTypes
  have hstart := ((Reorders.refl (t.demands m t.needsRequestTypes)).serveAll (Pass.sound_begun t m) hp
    ⟨⟨rfl, rfl, rfl⟩, fun _ => rfl⟩).1
  have hok : (serveAll m (t.demands m t.needsRequestTypes) (.start t)).1 = .ok () :=
    hstart.trans (congrArg Prod.fst h)
  obtain ⟨text, hmethods, _⟩ := serves_renderMethods.exists_of_serveAll hp (Prod.ext hok rfl)
  have hs := hp.serveAll (t.demands m t.needsRequestTypes)
  have ha := Pass.apart_serveAll hp (Pass.apart_fresh m t.needsRequestTypes) (t.demands m t.needsRequestTypes)
  obtain ⟨ids, decls, q, hq⟩ := exists_settles hs ha hm.keyed ht
  exact ⟨decls, q, (Step.runFrom_bind_of_ok hmethods).trans hq.run⟩

/-- Python and TypeScript without request types declare the same types of the sample. -/
theorem generate_alike_of_unbundled_sample :
    let plain := { standard .typescript with needsRequestTypes := false }
    (standard .python).language = .python ∧ plain.language = .typescript ∧ plain.needsRequestTypes = false ∧
    (∀ model, (plain.generate model).1.map (·.typeNames) = ((standard .python).generate model).1.map (·.typeNames)) ∧
    ∃ decls q decls' q',
      ((standard .python).renderAll .sample).runFrom (.start (standard .python)) = (.ok decls, q) ∧
      (plain.renderAll .sample).runFrom (.start plain) = (.ok decls', q') ∧
      decls'.keys = decls.keys ∧ q'.derivedTypes = q.derivedTypes ∧ q'.decl .sample = q.decl .sample ∧
      ∀ r, q'.refCount r = q.refCount r := by
  intro plain
  obtain ⟨hnames, hall⟩ := generate_alike_of_unbundled (standard .python) plain rfl rfl rfl
  refine ⟨rfl, rfl, rfl, hnames, ?_⟩
  obtain ⟨decls, q, h⟩ :=
    exists_renderAll Model.built_sample Model.typed_sample (by decide) not_conflicts_sample
  rcases hall .sample with ⟨f, _, _, hf, _⟩ | hok
  · rw [h] at hf
    cases hf
  · exact hok

end SdkGen.Target
