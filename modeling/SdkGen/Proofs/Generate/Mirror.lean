import Mathlib.Logic.Equiv.Basic
import SdkGen.Proofs.Generate.Outcome
import SdkGen.Proofs.Target.Mirror

/-!
# Sources depend on content alone

Methods are rendered and types are declared in the order of their names, so it makes no difference in which order a
model was filled. Further types make no difference either, as long as nothing mentions them and their names are not in
the way of a derived type.

Main statement: `Target.generate_eq_of_mirrors`.
-/

namespace SdkGen.Target

variable {t : Target} {σ : Renumbering} {m m' : Model} {wraps : Bool} {strict : Prop}
  {done : Dict String String} {id : TypeId} {p p' : Pass}

/-- The same event is reported on both sides. -/
lemma alike_report (e : Event) :
    Step.Alike (Pass.Mirrors σ m m' wraps) strict (Step.report e) (Step.report e) :=
  fun p _ hp => ⟨(), p.note e, rfl, rfl, hp.note e⟩

section Mirrors

variable (hm : m.Mirrors σ m')

include hm

/-- A type that is known is declared in the same way. -/
lemma alike_declareNext (hid : m.Knows id) (done : Dict String String) :
    Step.Alike (Pass.Mirrors σ m m' wraps) strict (t.declareNext m done id)
      (t.declareNext m' done (σ.type id)) := by
  rw [declareNext, declareNext]
  apply Step.Matches.get_bind
  intro p p' hp
  have hd := hp.decl hm hid
  simp only [hd.name]
  apply (alike_report _).bind
  intro _
  apply (alike_declareDecl hm hd fun q hq r hr => .inl (hp.mentions hid hq hr)).bind
  exact fun _ => Step.Alike.pure _

/-- What is known is pending in both passes or in none. -/
lemma isPending_eq (hp : p.Mirrors σ m m' wraps p') (hid : m.Knows id) (done : Dict String String) :
    p'.isPending m' done (σ.type id) = p.isPending m done id := by
  have hd := hp.decl hm hid
  have hc : p'.counts.get (some (σ.type id)) = p.counts.get (some id) := hp.counts (some id)
  simp only [Pass.isPending, hd.name, hd.intrinsic, hc]

/-- Types that are known are declared in the same rounds. -/
lemma alike_declareRounds {remaining remaining' : List TypeId} (hk : ∀ id ∈ remaining, m.Knows id)
    (hl : m.Lists σ remaining remaining') (done : Dict String String) :
    Step.Alike (Pass.Mirrors σ m m' wraps) strict (t.declareRounds m remaining done)
      (t.declareRounds m' remaining' done) := by
  -- both loops leave fewer types to be declared in every round
  induction h : remaining.length using Nat.strongRecOn generalizing remaining remaining' done with
  | ind n ih =>
    rw [declareRounds.eq_def t m, declareRounds.eq_def t m']
    apply Step.Matches.get_bind
    intro p p' hp
    have hq (id : TypeId) (hid : id ∈ remaining) := isPending_eq hm hp (hk id hid) done
    have hpending : p'.pending m' done remaining' = (p.pending m done remaining).map σ.type := by
      apply hl.filter_eq hq
      intro id' hid'
      simp only [Pass.isPending, Bool.and_eq_true, decide_eq_true_eq] at hid'
      exact hp.known id' hid'.1.1
    have hwaiting : m.Lists σ (p.waiting m done remaining) (p'.waiting m' done remaining') :=
      hl.filter fun id hid => by rw [hq id hid]
    by_cases hu : p.pending m done remaining = []
    · rw [dif_pos hu, dif_pos (by rw [hpending, hu]; rfl)]
      exact Step.Alike.pure done
    · rw [dif_neg hu, dif_neg (by rw [hpending, List.map_eq_nil_iff]; exact hu), hpending]
      have hround : Step.Alike (Pass.Mirrors σ m m' wraps) strict
          ((p.pending m done remaining).foldlM (t.declareNext m) done)
          (((p.pending m done remaining).map σ.type).foldlM (t.declareNext m') done) :=
        Step.Alike.foldlM (fun done id hid => alike_declareNext hm (hk id (List.mem_filter.1 hid).1) done) done
      apply hround.bind
      intro done'
      exact ih _ (h ▸ Pass.length_waiting_lt hu) (fun id hid => hk id (List.mem_filter.1 hid).1) hwaiting done' rfl

/-- The declarations are the same. -/
lemma alike_renderDeclarations (hk : m.Keyed) (hk' : m'.Keyed) :
    Step.Alike (Pass.Mirrors σ m m' wraps) strict (t.renderDeclarations m) (t.renderDeclarations m') := by
  apply Step.Matches.get_bind
  intro p p' hp
  exact alike_declareRounds hm (fun id hid => hp.knows hid) (hp.candidates hm hk hk') .empty

end Mirrors

/-- The declaration that goes by a name. -/
def declarationOf (decls : Dict String String) (name : String) : Step String :=
  match decls.get? name with
  | some text => pure text
  | none => Step.fault (.missingKey name)

/-- The models module is put together alike. -/
lemma alike_renderModels (decls : Dict String String) (names : List String) :
    Step.Alike (Pass.Mirrors σ m m' wraps) strict (t.renderModels decls names) (t.renderModels decls names) := by
  have hparts : Step.Alike (Pass.Mirrors σ m m' wraps) strict (names.mapM (declarationOf decls))
      ((names.map id).mapM (declarationOf decls)) := by
    apply Step.Alike.mapM
    intro name _
    simp only [declarationOf, id]
    cases decls.get? name with
    | some text => exact Step.Alike.pure text
    | none => exact Step.Matches.fault _
  rw [List.map_id] at hparts
  exact hparts.bind fun _ => Step.Alike.pure _

/-- Putting the models module together does nothing to the state of a pass. -/
lemma keeps_renderModels (I : Pass → Prop) (decls : Dict String String) (names : List String) :
    (t.renderModels decls names).Keeps I := by
  have hparts : (names.mapM (declarationOf decls)).Keeps I := by
    apply Step.Keeps.mapM
    intro name
    rw [declarationOf]
    cases decls.get? name with
    | some text => exact .pure text
    | none => exact .fault _
  exact hparts.bind fun _ => .pure _

/-- What is left to do once the methods are rendered. -/
def complete (t : Target) (m : Model) (methods : String) : Step Sources := do
  let declarations ← t.renderDeclarations m
  let typeNames := (← get).referencedTypeNames m
  let models ← t.renderModels declarations typeNames
  Step.report (.declared typeNames.length)
  return { methods, models, typeNames }

/-- From the announced pass, the methods are rendered and the rest is done. -/
lemma runFrom_generateSteps_eq_bind :
    (t.generateSteps m).runFrom (.start t) = (t.renderMethods m >>= t.complete m).runFrom (.begun t m) :=
  runFrom_generateSteps

/-- After the methods, generating does alike. -/
lemma alike_complete (hm : m.Mirrors σ m') (hk : m.Keyed) (hk' : m'.Keyed) (methods : String) :
    Step.Alike (Pass.Mirrors σ m m' wraps) strict (t.complete m methods) (t.complete m' methods) := by
  apply (alike_renderDeclarations hm hk hk').bind
  intro decls
  apply Step.Matches.get_bind
  intro p p' hp
  simp only [hp.referencedTypeNames hm hk hk']
  apply (alike_renderModels decls _).bind
  intro models
  exact (alike_report _).bind fun _ => Step.Alike.pure _

/-- After the methods, nothing is derived any more. -/
lemma keeps_complete (D : List TypeId) (methods : String) :
    (t.complete m methods).Keeps fun p => p.Sound m wraps ∧ p.derivedTypes = D := by
  have hnote (p : Pass) (e : Event) (h : p.Sound m wraps ∧ p.derivedTypes = D) :
      (p.note e).Sound m wraps ∧ (p.note e).derivedTypes = D := ⟨h.1.note e, h.2⟩
  apply (keeps_renderDeclarations (fun _ h => h.1) (fun _ type h => ⟨h.1.count type, h.2⟩) hnote).bind
  intro decls
  apply Step.Keeps.get_bind
  intro p
  refine (keeps_renderModels _ decls _).bind fun models => ?_
  have hreport : (Step.report (.declared (p.referencedTypeNames m).length)).Keeps fun p =>
      p.Sound m wraps ∧ p.derivedTypes = D := fun p hp => hnote p _ hp
  exact hreport.bind fun _ => .pure _

/-- What is derived in the end are the types that the methods demand, as far as they are served. -/
lemma derivedTypes_generateSteps (t : Target) (m : Model) :
    ((t.generateSteps m).runFrom (.start t)).2.Sound m t.needsRequestTypes ∧
      ((t.generateSteps m).runFrom (.start t)).2.derivedTypes =
        (Demand.serveAll m (t.demands m t.needsRequestTypes) (.begun t m)).2.derivedTypes := by
  have hs := (Pass.sound_begun t m).serveAll (t.demands m t.needsRequestTypes)
  have hmethods := serves_renderMethods (t := t) _ (Pass.sound_begun t m)
  rw [runFrom_generateSteps_eq_bind]
  rcases h : Demand.serveAll m (t.demands m t.needsRequestTypes) (.begun t m) with ⟨f | u, p₁⟩
  · rw [h] at hs hmethods
    rw [Step.runFrom_bind_of_error hmethods]
    exact ⟨hs, rfl⟩
  · rw [h] at hs hmethods
    obtain ⟨methods, hmethods, _⟩ := hmethods
    rw [Step.runFrom_bind_of_ok hmethods]
    exact keeps_complete _ methods p₁ ⟨hs, rfl⟩

/-- Further types whose names are not derived are in the way of no demand. -/
lemma name_notMem_of_free
    (hfree : ∀ name ∈ m'.types.keys,
      name ∈ m.types.keys ∨ name ∉ ((t.generateSteps m).runFrom (.start t)).2.derivedNames m) :
    ∀ x ∈ (Demand.serveAll m (t.demands m t.needsRequestTypes) (.begun t m)).2.derivedTypes,
      (m.declOf x).name ∉ m'.types.keys := by
  intro x hx hk
  have ha := Pass.apart_serveAll (Pass.sound_begun t m) (Pass.apart_begun t m) (t.demands m t.needsRequestTypes)
  obtain ⟨hs, hd⟩ := derivedTypes_generateSteps t m
  rcases hfree _ hk with hk | hn
  · exact ha.free x hx hk
  · apply hn
    rw [← hd] at hx
    exact List.mem_map.2 ⟨x, hx, by rw [hs.decl_of_mem hx]⟩

/-- What generating does depends on nothing but what a model holds. For another model that holds the same methods and
the same types, in any order and under any numbers, and further types that the first one does not mention and whose
names are not those of derived types, it gives the same sources or fails in the same way. -/
theorem generate_eq_of_mirrors (hm : m.Built) (hm' : m'.Built) (h : m.Mirrors σ m') (t : Target)
    (hfree : ∀ name ∈ m'.types.keys,
      name ∈ m.types.keys ∨ name ∉ ((t.generateSteps m).runFrom (.start t)).2.derivedNames m) :
    t.generate (some m') = t.generate (some m) := by
  have hbegun : (Pass.begun t m).Mirrors σ m m' t.needsRequestTypes (.begun t m') := by
    rw [Pass.begun, Pass.begun, h.size_methods]
    exact (Pass.Mirrors.fresh σ m m' t.needsRequestTypes).note _
  obtain ⟨he, hstate⟩ := hbegun.serveAll h (mirrors_demands (t := t) h) (name_notMem_of_free hfree)
  have hrun := serves_renderMethods (t := t) _ (Pass.sound_begun t m)
  have hrun' := serves_renderMethods (t := t) _ (Pass.sound_begun t m')
  simp only [generate, runFrom_generateSteps_eq_bind]
  rcases hs : Demand.serveAll m (t.demands m t.needsRequestTypes) (.begun t m) with ⟨f | u, p₁⟩ <;>
    rcases hs' : Demand.serveAll m' (t.demands m' t.needsRequestTypes) (.begun t m') with ⟨f' | u', p₁'⟩ <;>
    simp only [hs, hs', reduceCtorEq, Except.error.injEq] at he hstate hrun hrun'
  -- the first demand that fails is the same
  · subst he
    rw [Step.runFrom_bind_of_error hrun, Step.runFrom_bind_of_error hrun', hstate.journal]
  -- the methods are the same, and what is left to do does not look at the order either
  · obtain ⟨methods, hmethods, _⟩ := hrun
    obtain ⟨methods', hmethods', _⟩ := hrun'
    obtain rfl : methods' = methods := by
      have ha := alike_renderMethods (t := t) h _ _ hbegun
      rw [hmethods'] at ha
      obtain ⟨_, _, ha, rfl, _⟩ := ha
      rw [hmethods] at ha
      cases ha
      rfl
    have hcomplete : Step.Alike (Pass.Mirrors σ m m' t.needsRequestTypes) True (t.complete m methods')
        (t.complete m' methods') := alike_complete h hm.keyed hm'.keyed methods'
    have hc := hcomplete _ _ hstate
    rw [Step.runFrom_bind_of_ok hmethods, Step.runFrom_bind_of_ok hmethods']
    rcases hc' : (t.complete m' methods').runFrom p₁' with ⟨f | s, p₂'⟩
    · rw [hc'] at hc
      obtain ⟨p₂, hr, hp⟩ := hc trivial
      rw [hr, hp.journal]
    · rw [hc'] at hc
      obtain ⟨_, p₂, hr, rfl, hp⟩ := hc
      rw [hr, hp.journal]

/-- What is derived in the end are types that the methods call for, also if generating fails. -/
lemma callsFor_of_mem_derivedTypes {x : TypeId}
    (h : x ∈ ((t.generateSteps m).runFrom (.start t)).2.derivedTypes) : t.CallsFor m x := by
  rw [(derivedTypes_generateSteps t m).2] at h
  rcases Demand.makes_of_mem_derivedTypes_serveAll (Pass.sound_begun t m) h with h | h
  · cases h
  · exact makes_demands_iff.1 h

/-- The numbers of the sample in another order. -/
def sampleNumbers : Renumbering where
  declared := Equiv.swap 0 2
  method id := ⟨Equiv.swap 0 1 id.index⟩
  declared_injective := (Equiv.swap 0 2).injective
  method_injective a b h := by
    cases a
    cases b
    simpa using h

/-- A type that mentions a type of the sample, and that the sample does not mention. -/
def sampleGroup : TypeDecl :=
  { name := "Group"
    properties := .ofList [("owner", { name := "owner", type := some (.named (.declared 1)) })] }

/-- The sample in another order, with a further type. -/
def sampleReordered : Model :=
  { decls := #[sampleGroup, Model.sampleUser.rename sampleNumbers.type, { name := "string", intrinsic := true }]
    types := ⟨[("Group", .declared 0), ("User", .declared 1), ("string", .declared 2)], by decide⟩
    methodDecls :=
      #[(Model.sampleMethod "addUser").rename sampleNumbers.type,
        (Model.sampleMethod "add_user").rename sampleNumbers.type]
    methods := ⟨[("addUser", ⟨0⟩), ("add_user", ⟨1⟩)], by decide⟩ }

/-- The reordered sample is built step by step. -/
lemma built_sampleReordered : sampleReordered.Built := by
  have group := @Model.Built.addType _ _ sampleGroup _ (.start []) rfl
  have user := @Model.Built.addType _ _ (Model.sampleUser.rename sampleNumbers.type) _ group rfl
  have types := user.intrinsic "string"
  have one := @Model.Built.addMethod _ _ ((Model.sampleMethod "addUser").rename sampleNumbers.type) _ types rfl
  exact @Model.Built.addMethod _ _ ((Model.sampleMethod "add_user").rename sampleNumbers.type) _ one rfl

/-- The sample mentions its own types and no other one. -/
lemma eq_of_mentions_sample {x : TypeId} (h : Model.sample.Mentions x) :
    x ∈ [TypeId.declared 0, TypeId.declared 1] := by
  have hanswer : ∀ k ∈ Model.sample.methods.values,
      (Model.sample.method k).type = some (.array (.named (.declared 1)) "") := by decide
  have herrors : ∀ k ∈ Model.sample.methods.values, (Model.sample.method k).errors = [] := by decide
  have hparams : ∀ k ∈ Model.sample.methods.values, ∀ q ∈ (Model.sample.method k).params,
      q.type = some (.named (.declared 0)) ∨ q.type = some (.named (.declared 1)) := by decide
  have hproperties : ∀ x ∈ [TypeId.declared 0, TypeId.declared 1],
      ∀ q ∈ (Model.sample.declOf x).properties.values,
      q.type = some (.named (.declared 0)) ∨ q.type = some (.array (.named (.declared 1)) "") := by decide
  induction h with
  | type hx => exact hx
  | answer hk hr =>
    rw [hanswer _ hk] at hr
    cases hr
    decide
  | error hk hr =>
    rw [herrors _ hk] at hr
    cases hr
  | parameter hk hq hr =>
    rcases hparams _ hk _ hq with e | e <;> (rw [e] at hr; cases hr; decide)
  | property _ hq hr ih =>
    rcases hproperties _ ih _ hq with e | e <;> (rw [e] at hr; cases hr; decide)

/-- No type that the sample knows has the number of the further type. -/
lemma ne_of_knows_sample {x : TypeId} (h : Model.sample.Knows x) : sampleNumbers.type x ≠ .declared 0 := by
  rcases h with h | h
  · have hne : ∀ x ∈ [TypeId.declared 0, TypeId.declared 1], sampleNumbers.type x ≠ .declared 0 := by decide
    exact hne x (eq_of_mentions_sample h)
  · cases h with
    | request _ => exact nofun
    | writeable _ => exact nofun

/-- In the other order, the sample is still there. -/
lemma mirrors_sampleReordered : Model.sample.Mirrors sampleNumbers sampleReordered where
  types name id h := by
    have hall : ∀ e ∈ Model.sample.types.entries,
        sampleReordered.types.get? e.1 = some (sampleNumbers.type e.2) := by decide
    exact hall _ (Dict.get?_eq_some_iff.1 h)
  others name id h := by
    have hall : ∀ e ∈ sampleReordered.types.entries, e.1 ∈ Model.sample.types.keys ∨ e.2 = .declared 0 := by
      decide
    apply (hall _ (Dict.get?_eq_some_iff.1 h)).imp_right
    rintro (rfl : id = .declared 0) x hx
    exact ne_of_knows_sample hx
  decls n h := by
    have hn : n = 0 ∨ n = 1 := by simpa using eq_of_mentions_sample h
    rcases hn with rfl | rfl
    · exact ⟨rfl, rfl, rfl, rfl⟩
    · exact TypeDecl.mirrors_rename _ _
  methods name := by
    rw [← Dict.get?_mapValues]
    apply Dict.get?_eq_of_entries_perm
    decide
  method := by decide

/-- Nothing that the methods of the sample call for has the name of the further type. -/
lemma ne_of_callsFor_sample {x : TypeId} (h : t.CallsFor .sample x) : (Model.sample.declOf x).name ≠ "Group" := by
  have hrequest : ∀ k ∈ Model.sample.methods.values, (Model.sample.declOf (.request k)).name ≠ "Group" := by decide
  have hvariant : ∀ k ∈ Model.sample.methods.values, ∀ q ∈ (Model.sample.method k).params,
      q.location = .body → q.type = some (.named (.declared 1)) := by decide
  cases h with
  | request hk _ => exact hrequest _ hk
  | variant hk _ hq hv =>
    have hx := hvariant _ hk _ hq hv.1
    rw [hv.2.1] at hx
    cases hx
    decide

/-- The names of the reordered sample are none of those that are derived. -/
lemma free_sampleReordered (t : Target) : ∀ name ∈ sampleReordered.types.keys, name ∈ Model.sample.types.keys ∨
    name ∉ ((t.generateSteps .sample).runFrom (.start t)).2.derivedNames .sample := by
  have hall : ∀ name ∈ sampleReordered.types.keys, name ∈ Model.sample.types.keys ∨ name = "Group" := by decide
  intro name hname
  apply (hall name hname).imp_right
  rintro rfl hd
  obtain ⟨x, hx, e⟩ := List.mem_map.1 hd
  rw [(derivedTypes_generateSteps t .sample).1.decl_of_mem hx] at e
  exact ne_of_callsFor_sample (callsFor_of_mem_derivedTypes hx) e

/-- In the other order, the sample gives the same Python sources and fails in the same way in TypeScript. -/
theorem generate_eq_of_mirrors_sample :
    Model.sample.Built ∧ sampleReordered.Built ∧ Model.sample.Mirrors sampleNumbers sampleReordered ∧
    (∀ t : Target, ∀ name ∈ sampleReordered.types.keys, name ∈ Model.sample.types.keys ∨
      name ∉ ((t.generateSteps .sample).runFrom (.start t)).2.derivedNames .sample) ∧
    (standard .python).generate (some sampleReordered) = (standard .python).generate (some .sample) ∧
    (standard .typescript).generate (some sampleReordered) = (standard .typescript).generate (some .sample) := by
  have main (t : Target) : t.generate (some sampleReordered) = t.generate (some .sample) :=
    generate_eq_of_mirrors Model.built_sample built_sampleReordered mirrors_sampleReordered t
      (free_sampleReordered t)
  exact ⟨Model.built_sample, built_sampleReordered, mirrors_sampleReordered, free_sampleReordered, main _, main _⟩

end SdkGen.Target
