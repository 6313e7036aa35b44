import SdkGen.Proofs.Command.Run
import SdkGen.Proofs.Emission.Record
import SdkGen.Proofs.Generate.Mirror
import SdkGen.Proofs.Loading

/-!
# Runs over several targets

The targets of a configuration are published one after the other, each of them from the model and the files alone. No
target sees what a pass for another one has done to its own bookkeeping, and the first one that fails ends the run.

Main statements: `Host.publish_of_publishes` and `Host.publish_of_failsToPublish` (one target),
`Host.generate_publishes_in_order` (a run over all targets of a configuration).
-/

namespace SdkGen

/-! ## The targets of a configuration -/

namespace Conventions

variable {c c' : Conventions} {name value : String}

/-- What is replaced under another name leaves the file extension as it is. -/
lemma fileExtension_of_replace? (h : c.replace? name value = some c') (hname : name ≠ "file_extension") :
    c'.fileExtension = c.fileExtension := by
  unfold replace? at h
  split at h <;> cases h <;> first | rfl | exact absurd rfl hname

/-- Only a new file extension changes the file extension. -/
lemma fileExtension_of_replaceAll {changes : List (String × String)} (h : c.replaceAll changes = .ok c')
    (hnames : "file_extension" ∉ changes.map Prod.fst) : c'.fileExtension = c.fileExtension := by
  induction changes generalizing c with
  | nil =>
    cases h
    rfl
  | cons change changes ih =>
    rw [List.map_cons, List.mem_cons, not_or] at hnames
    rw [replaceAll, List.foldlM_cons] at h
    cases hreplace : c.replace? change.1 change.2 with
    | none =>
      rw [hreplace] at h
      cases h
    | some c₁ =>
      rw [hreplace] at h
      exact (ih h hnames.2).trans (fileExtension_of_replace? hreplace (Ne.symm hnames.1))

end Conventions

namespace TargetConfig

variable {c : TargetConfig} {t : Target}

/-- What a configuration changes about a target leaves its paths and the file extension as they are. -/
lemma keepsExtension (h : c.target = .ok t) :
    t.KeepsExtension ∧ t.codePath = c.codePath ∧ t.package = c.package := by
  rw [target, Target.make] at h
  split at h
  · cases h
  · split at h
    · cases h
    · next hreplace =>
      cases h
      refine ⟨Conventions.fileExtension_of_replaceAll hreplace ?_, rfl, rfl⟩
      rcases c.indentStr with _ | _ <;> rcases c.transport with _ | _ <;> simp

end TargetConfig

namespace Model

variable {m copy : Model}

/-- One model is a copy of another one: it was built in its own right, and holds the same methods and the same types
under numbers of its own. -/
structure IsCopyOf (copy m : Model) : Prop where
  built : copy.Built
  original : m.Built
  mirrors : ∃ σ, copy.Mirrors σ m

/-- A pass over a copy gives the sources that a pass over the model itself gives. -/
lemma IsCopyOf.generate_fst {t : Target} {src : Sources} (h : copy.IsCopyOf m)
    (hsrc : (t.generate (some m)).1 = .ok src) : (t.generate (some copy)).1 = .ok src := by
  obtain ⟨σ, hσ⟩ := h.mirrors
  have hbegun : (Pass.begun t copy).Mirrors σ copy m t.needsRequestTypes (.begun t m) := by
    rw [Pass.begun, Pass.begun, hσ.size_methods]
    exact (Pass.Mirrors.fresh σ copy m t.needsRequestTypes).note _
  have hsteps : Step.Alike (Pass.Mirrors σ copy m t.needsRequestTypes) False (t.renderMethods copy >>= t.complete copy)
      (t.renderMethods m >>= t.complete m) :=
    (Target.alike_renderMethods hσ).bind fun _ => Target.alike_complete hσ h.built.keyed h.original.keyed _
  have hrun := hsteps _ _ hbegun
  simp only [Target.generate, Target.runFrom_generateSteps_eq_bind] at hsrc ⊢
  rcases hm : (t.renderMethods m >>= t.complete m).runFrom (.begun t m) with ⟨_ | _, _⟩ <;>
    rw [hm] at hsrc hrun <;> cases hsrc
  obtain ⟨_, _, hcopy, rfl, -⟩ := hrun
  rw [hcopy]

end Model

/-! ## One target -/

namespace TargetConfig

variable {compile : Check} {c : TargetConfig} {m : Model} {e : Emitter} {src : Sources} {tree : Tree}

/-- The sources of a model for a target, and the emitter that is to write them. -/
def Prepares (compile : Check) (c : TargetConfig) (m : Model) (e : Emitter) (src : Sources) : Prop :=
  ∃ t journal, c.target = .ok t ∧ t.generate (some m) = (.ok src, journal) ∧
    e = { t.emitterWith compile true with halves := c.halves }

/-- The sources of a model for a target are made and written, which makes one tree of another one. -/
def Publishes (compile : Check) (c : TargetConfig) (m : Model) (tree : Tree) (src : Sources) (tree' : Tree) : Prop :=
  ∃ e files s, c.Prepares compile m e src ∧ (e.emit src).runFrom { tree } = (.ok files, s) ∧ s.tree = tree'

/-- A target is refused, or the sources for it cannot be made, or they cannot be written. Only in the last case, files
may be changed. -/
inductive FailsToPublish (compile : Check) (c : TargetConfig) (m : Model) (tree : Tree) : Failure → Tree → Prop where
  | target {f} :
    c.target = .error f →
    FailsToPublish compile c m tree f tree
  | generation {t f journal} :
    c.target = .ok t →
    t.generate (some m) = (.error f, journal) →
    FailsToPublish compile c m tree f tree
  | emission {e src f s} :
    c.Prepares compile m e src →
    (e.emit src).runFrom { tree } = (.error f, s) →
    FailsToPublish compile c m tree f s.tree

/-- The sources can be published or not. -/
lemma publishes_or_fails (compile : Check) (c : TargetConfig) (m : Model) (tree : Tree) :
    (∃ src tree', c.Publishes compile m tree src tree') ∨ ∃ f tree', c.FailsToPublish compile m tree f tree' := by
  cases ht : c.target with
  | error f => exact .inr ⟨f, tree, .target ht⟩
  | ok t =>
    rcases hgen : t.generate (some m) with ⟨f | src, journal⟩
    · exact .inr ⟨f, tree, .generation ht hgen⟩
    · let e : Emitter := { t.emitterWith compile true with halves := c.halves }
      have hprepares : c.Prepares compile m e src := ⟨t, journal, ht, hgen, rfl⟩
      rcases hemit : (e.emit src).runFrom { tree } with ⟨f | files, s⟩
      · exact .inr ⟨f, s.tree, .emission hprepares hemit⟩
      · exact .inl ⟨src, s.tree, _, files, s, hprepares, hemit, rfl⟩

/-- What a target that fails has done to the files: nothing if there are no sources for it, and otherwise the first
modules are stored, up to the one that was refused. -/
inductive Leaves (compile : Check) (c : TargetConfig) (m : Model) (tree : Tree) (f : Failure) : Tree → Prop where
  | nothing :
    (∀ e src, ¬c.Prepares compile m e src) →
    Leaves compile c m tree f tree
  | modules {e src s ws} :
    c.Prepares compile m e src →
    e.Records src { tree } s (.error f) ws →
    Leaves compile c m tree f s.tree

/-- A target that fails to be published leaves what was done for it before. -/
lemma FailsToPublish.leaves {f : Failure} {tree' : Tree} (h : c.FailsToPublish compile m tree f tree')
    (hf : ∀ g, f ≠ .fault g) : c.Leaves compile m tree f tree' := by
  cases h with
  | target ht =>
    refine .nothing fun e src ⟨t, journal, ht', _⟩ => ?_
    rw [ht] at ht'
    cases ht'
  | generation ht hgenerate =>
    refine .nothing fun e src ⟨t, journal, ht', hgenerate', _⟩ => ?_
    obtain rfl := Except.ok.inj (ht.symm.trans ht')
    rw [hgenerate] at hgenerate'
    cases hgenerate'
  | emission hprepares hemit =>
    obtain ⟨t, journal, ht, hgenerate, rfl⟩ := hprepares
    obtain ⟨ws, hrecords⟩ := Emitter.records_of_ne_fault (keepsExtension ht).1 hemit (by simpa using hf)
    exact .modules ⟨t, journal, ht, hgenerate, rfl⟩ hrecords

/-- The sources for a target may as well be made from a copy of the model. -/
lemma Publishes.of_isCopyOf {copy : Model} {tree' : Tree} (h : c.Publishes compile m tree src tree')
    (hcopy : copy.IsCopyOf m) : c.Publishes compile copy tree src tree' := by
  obtain ⟨e, files, s, ⟨t, journal, ht, hgenerate, he⟩, hemit⟩ := h
  have hsrc : (t.generate (some copy)).1 = .ok src := hcopy.generate_fst (congrArg Prod.fst hgenerate)
  exact ⟨e, files, s, ⟨t, _, ht, Prod.ext hsrc rfl, he⟩, hemit⟩

end TargetConfig

/-! ## All targets -/

/-- Models are published for their targets one after the other. -/
inductive PublishesAll (compile : Check) : List (TargetConfig × Model) → List Sources → Tree → Tree → Prop where
  | nil {tree} : PublishesAll compile [] [] tree tree
  | cons {c m jobs src srcs tree₁ tree₂ tree₃} :
    c.Publishes compile m tree₁ src tree₂ →
    PublishesAll compile jobs srcs tree₂ tree₃ →
    PublishesAll compile ((c, m) :: jobs) (src :: srcs) tree₁ tree₃

namespace PublishesAll

variable {compile : Check} {m : Model} {srcs : List Sources} {tree tree' : Tree}

/-- Every target may have a copy of the model for itself. -/
lemma of_isCopyOf {jobs : List (TargetConfig × Model)}
    (h : PublishesAll compile (jobs.map fun j => (j.1, m)) srcs tree tree') (hcopies : ∀ j ∈ jobs, j.2.IsCopyOf m) :
    PublishesAll compile jobs srcs tree tree' := by
  induction jobs generalizing srcs tree with
  | nil =>
    cases h
    exact .nil
  | cons j jobs ih =>
    cases h with
    | cons hfirst hrest =>
      exact .cons (hfirst.of_isCopyOf (hcopies j List.mem_cons_self))
        (ih hrest fun j' hj' => hcopies j' (List.mem_cons_of_mem j hj'))

/-- Either all targets can be published in order, or there is a first one that cannot. -/
lemma all_or_first_fails (compile : Check) (m : Model) (targets : List TargetConfig) (tree : Tree) :
    (∃ srcs tree', PublishesAll compile (targets.map (·, m)) srcs tree tree') ∨
    ∃ before c after srcs tree₁ f tree₂, targets = before ++ c :: after ∧
      PublishesAll compile (before.map (·, m)) srcs tree tree₁ ∧ c.FailsToPublish compile m tree₁ f tree₂ := by
  induction targets generalizing tree with
  | nil => exact .inl ⟨[], tree, .nil⟩
  | cons c targets ih =>
    rcases c.publishes_or_fails compile m tree with ⟨src, tree₁, hfirst⟩ | ⟨f, tree', hfails⟩
    · rcases ih tree₁ with ⟨srcs, tree', hrest⟩ | ⟨before, c', after, srcs, tree₂, f, tree', rfl, hbefore, hfails⟩
      · exact .inl ⟨src :: srcs, tree', .cons hfirst hrest⟩
      · exact .inr ⟨c :: before, c', after, src :: srcs, tree₂, f, tree', rfl, .cons hfirst hbefore, hfails⟩
    · exact .inr ⟨[], c, targets, [], tree, f, tree', rfl, .nil, hfails⟩

end PublishesAll

namespace Host

open Command

variable {h : Host} {w : Workspace} {o : GenerateOptions} {configuration : Configuration} {c : TargetConfig} {m : Model}
  {verbose : Bool} {t : Target} {s : Progress} {f : Failure} {tree tree' : Tree}

/-- What is said of a target in the end comes to what publishing for it has come to. -/
lemma printsThen_conclusion (h : Host) (t : Target) (halves : Bool) (files : Except Failure (List String)) :
    Run.PrintsThen
      (match files with
        | .error f => do
          print (h.terminal.remains ⟨startLine t, halves⟩)
          throw f
        | .ok files => do
          print (h.terminal.remains ⟨endLine t, halves⟩)
          h.printMarked filesLine
          files.forM fun name => h.printMarked ("  - " ++ name))
      h.terminal (· = files.map fun _ => ()) := by
  have hremains (text : Text.HalvedText) : (print (h.terminal.remains text)).Prints h.terminal :=
    prints_print fun _ => .remains
  cases files with
  | error f => exact (hremains _).bind fun _ => .throw f
  | ok files =>
    have hprints : Run.Prints (do
        print (h.terminal.remains ⟨endLine t, halves⟩)
        h.printMarked filesLine
        files.forM fun name => h.printMarked ("  - " ++ name)) h.terminal :=
      (hremains _).bind fun _ => (h.prints_printMarked _).bind fun _ =>
        Run.Prints.forM (fun _ => h.prints_printMarked _) files
    exact hprints.imp fun _ hr => hr.elim fun _ hr => hr

/-- What publishing for a target comes to, whatever is printed. -/
lemma runFrom_publish (ht : c.target = .ok t) (hshown : (h.publish m verbose c).ShownFrom h.terminal s) :
    ∃ s', s'.tree = (t.publish h.compile m c.halves s.tree).tree ∧
      (h.publish m verbose c).runFrom s = ((t.publish h.compile m c.halves s.tree).files.map fun _ => (), s') := by
  rw [publish, ht] at hshown ⊢
  obtain ⟨hshown, hchecked⟩ := hshown.runFrom_bind (Run.runFrom_check_ok t s)
  obtain ⟨hshown, hlooked⟩ := hshown.runFrom_bind (Run.runFrom_get s)
  obtain ⟨_, s₁, -, hbegun⟩ := (prints_begins _).runFrom_bind hshown
  obtain ⟨hshown, hwritten⟩ := (hshown.of_runFrom_eq hbegun).runFrom_bind (Run.runFrom_set _ _)
  rw [hchecked.trans (hlooked.trans (hbegun.trans hwritten))]
  have hconclusion := h.printsThen_conclusion t s.halves (t.publish h.compile m c.halves s.tree).files
  cases verbose with
  | false =>
    obtain ⟨_, s', rfl, htree, hrun⟩ := hconclusion.exists_runFrom hshown
    exact ⟨s', htree, hrun⟩
  | true =>
    have hevents : Run.Prints ((t.publish h.compile m c.halves s.tree).journal.toList.forM fun e =>
        print (h.terminal.event e s.halves)) h.terminal :=
      Run.Prints.forM (fun _ => prints_print fun _ => .event) _
    obtain ⟨_, s', rfl, htree, hrun⟩ := (hevents.bind fun _ => hconclusion).exists_runFrom hshown
    exact ⟨s', htree, hrun⟩

/-- A target that can be published is published. -/
lemma publish_of_publishes {src : Sources} (hpublishes : c.Publishes h.compile m s.tree src tree')
    (hshown : (h.publish m verbose c).ShownFrom h.terminal s) :
    ∃ s', s'.tree = tree' ∧ (h.publish m verbose c).runFrom s = (.ok (), s') := by
  obtain ⟨_, files, s₁, ⟨t, journal, ht, hgenerate, rfl⟩, hemit, rfl⟩ := hpublishes
  obtain ⟨s', htree, hrun⟩ := runFrom_publish ht hshown
  rw [Target.publish, hgenerate] at htree hrun
  dsimp only at htree hrun
  rw [hemit] at htree hrun
  exact ⟨s', htree, hrun⟩

/-- The failure of a target is that of publishing for it. -/
lemma publish_of_failsToPublish (hfails : c.FailsToPublish h.compile m s.tree f tree')
    (hshown : (h.publish m verbose c).ShownFrom h.terminal s) :
    ∃ s', s'.tree = tree' ∧ (h.publish m verbose c).runFrom s = (.error f, s') := by
  cases hfails with
  | target ht =>
    refine ⟨s, rfl, ?_⟩
    rw [publish, ht, Run.runFrom_bind, Run.runFrom_check_error]
  | generation ht hgenerate =>
    obtain ⟨s', htree, hrun⟩ := runFrom_publish ht hshown
    rw [Target.publish, hgenerate] at htree hrun
    exact ⟨s', htree, hrun⟩
  | emission hprepares hemit =>
    obtain ⟨t, journal, ht, hgenerate, rfl⟩ := hprepares
    obtain ⟨s', htree, hrun⟩ := runFrom_publish ht hshown
    rw [Target.publish, hgenerate] at htree hrun
    dsimp only at htree hrun
    rw [hemit] at htree hrun
    exact ⟨s', htree, hrun⟩

/-- A run over targets goes on behind those that can be published. -/
lemma runFrom_forM_publish {before after : List TargetConfig} {srcs : List Sources}
    (hbefore : PublishesAll h.compile (before.map (·, m)) srcs s.tree tree)
    (hshown : ((before ++ after).forM (h.publish m verbose)).ShownFrom h.terminal s) :
    ∃ s', s'.tree = tree ∧ (after.forM (h.publish m verbose)).ShownFrom h.terminal s' ∧
      ((before ++ after).forM (h.publish m verbose)).runFrom s = (after.forM (h.publish m verbose)).runFrom s' := by
  induction before generalizing s srcs with
  | nil =>
    cases hbefore
    exact ⟨s, rfl, hshown, rfl⟩
  | cons c before ih =>
    cases hbefore with
    | cons hfirst hrest =>
    rw [List.cons_append, Run.forM_cons] at hshown ⊢
    obtain ⟨s₁, rfl, hpublished⟩ := publish_of_publishes hfirst hshown.of_bind
    obtain ⟨hshown, hrun⟩ := hshown.runFrom_bind hpublished
    rw [hrun]
    exact ih hrest hshown

/-! ## The whole run -/

section Steps

variable (hconfiguration : h.Configures w o configuration) (hmodel : Loading.load w.modules configuration.model = .ok m)
  (hshown : (h.steps w (.generate o)).ShownFrom h.terminal { tree := w.tree })

include hconfiguration hmodel

/-- Once there are a configuration and a model, all that is left to do is to publish it for the targets. -/
lemma runFrom_steps_generate :
    (h.steps w (.generate o)).runFrom { tree := w.tree } =
      (configuration.targets.forM (h.publish m o.verbose)).runFrom
        { tree := w.tree, halves := configuration.halves } := by
  rw [runFrom_steps_of_configures hconfiguration, hmodel, Run.runFrom_bind, Run.runFrom_check_ok]

include hshown

/-- The steps go well if all targets can be published. -/
lemma runFrom_steps_of_publishesAll {srcs : List Sources}
    (hall : PublishesAll h.compile (configuration.targets.map (·, m)) srcs w.tree tree) :
    ∃ s, s.tree = tree ∧ (h.steps w (.generate o)).runFrom { tree := w.tree } = (.ok (), s) := by
  have hsteps := runFrom_steps_generate hconfiguration hmodel
  have hshown := hshown.of_runFrom_eq hsteps
  rw [← List.append_nil configuration.targets] at hshown hsteps
  obtain ⟨s, htree, -, hrun⟩ := runFrom_forM_publish hall hshown
  exact ⟨s, htree, hsteps.trans hrun⟩

/-- The steps fail as the first target does that cannot be published. -/
lemma runFrom_steps_of_failsToPublish {before after : List TargetConfig} {srcs : List Sources}
    (htargets : configuration.targets = before ++ c :: after)
    (hbefore : PublishesAll h.compile (before.map (·, m)) srcs w.tree tree)
    (hfails : c.FailsToPublish h.compile m tree f tree') :
    ∃ s, s.tree = tree' ∧ (h.steps w (.generate o)).runFrom { tree := w.tree } = (.error f, s) := by
  have hsteps := runFrom_steps_generate hconfiguration hmodel
  have hshown := hshown.of_runFrom_eq hsteps
  rw [htargets] at hshown hsteps
  obtain ⟨s₁, rfl, hshown, hrun⟩ := runFrom_forM_publish hbefore hshown
  rw [Run.forM_cons] at hshown hrun
  obtain ⟨s, htree, hrun'⟩ := publish_of_failsToPublish hfails hshown.of_bind
  rw [Run.runFrom_bind, hrun'] at hrun
  exact ⟨s, htree, hsteps.trans hrun⟩

end Steps

/-- A configuration with a target that there is, and one that there is not. -/
def sampleConfiguration : Configuration :=
  { model := "a:f", targets := [{ language := "typescript" }, { language := "cobol" }] }

/-- A workspace with this configuration, and with a model that holds nothing. -/
def sampleWorkspace : Workspace where
  files := [("polysdk.yaml", some "model: a:f\ntargets:\n- language: typescript\n- language: cobol\n")]
  modules := .ofList [("a", .members (.ofList [("f", .factory (.ok (.model {})))]))]

/-- A host that knows this configuration. -/
def sampleHost : Host := .knowing
  [("model: a:f\ntargets:\n- language: typescript\n- language: cobol\n",
    .record [("model", .text "a:f"), ("targets", .list
      [.record [("language", .text "typescript")], .record [("language", .text "cobol")]])])]

/-- The workspace leads to the configuration. -/
lemma configures_sample : sampleHost.Configures sampleWorkspace {} sampleConfiguration := by
  rw [Configures]
  decide +kernel

/-- The configuration leads to the model. -/
lemma load_sampleWorkspace : Loading.load sampleWorkspace.modules sampleConfiguration.model = .ok {} := by
  have hnames : Loading.Names "a:f" "a" "f" := by decide +kernel
  have habsolute : "a".startsWith "." = false := by decide +kernel
  have hparts : Loading.nameParts "a" = ["a"] := by decide +kernel
  have himports : Loading.Imports sampleWorkspace.modules (Loading.nameParts "a")
      (.ok (.ofList [("f", .factory (.ok (.model {})))])) := hparts ▸ .known rfl
  have hfind : Loading.findMember sampleWorkspace.modules "a" "f" = .ok (.factory (.ok (.model {}))) := by
    rw [Loading.findMember_of_imports habsolute himports]
    rfl
  exact Loading.load_of_findMember_ok hnames hfind

/-- What generating comes to for a model that holds nothing. -/
def sampleGenerated : Except Failure Sources := ((Target.standard .typescript).generate (some {})).1

/-- The sources of such a model. -/
def sampleSources : Sources := sampleGenerated.toOption.getD ⟨"", "", []⟩

/-- There are sources for such a model. -/
lemma sampleGenerated_eq : sampleGenerated = .ok sampleSources := by
  have hbuilt : ({} : Model).Built := .start []
  have htyped : ({} : Model).Typed := ⟨by decide, by decide⟩
  let t : Target := .standard .typescript
  have hdemands : t.demands {} t.needsRequestTypes = [] := by
    rw [Target.demands, Model.sortedMethods, show ({} : Model).methods.entries = [] from rfl, List.mergeSort_nil]
    rfl
  have hserved : Demand.serveAll {} (t.demands {} t.needsRequestTypes) (.begun t {}) = (.ok (), .begun t {}) := by
    rw [hdemands, Demand.serveAll]
  obtain ⟨_, _, _, _, _, hgenerates⟩ := Target.exists_generates hbuilt htyped hserved
  have hresult : sampleGenerated = .ok _ := hgenerates.result
  rw [sampleSources, hresult]
  rfl

/-- What the sources leave behind. -/
def samplePublished : Emission :=
  (((Target.standard .typescript).emitterWith sampleHost.compile true).emit sampleSources
    |>.runFrom { tree := sampleWorkspace.tree }).2

end Host

end SdkGen
