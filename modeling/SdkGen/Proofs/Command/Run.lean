import SdkGen.Command.Steps
import SdkGen.Proofs.Config.Sources
import SdkGen.Proofs.Failures

/-!
# Running invocations

The steps of an invocation go on one after the other until one of them fails; what was done by then stays done. Printing
leaves the files alone. It fails only where the terminal does, and the program reports no such failure.

Main statements: `Run.Prints.runFrom_bind`, a run goes on behind what is printed; `run_of_ok`, `run_of_failure` and
`run_of_fault`, a run ends as its steps do; `run_reports_failure`, what is printed of a failure.
-/

namespace SdkGen

/-! ## Terminals -/

/-- A terminal fails for a fault. -/
inductive Terminal.Fails (t : Terminal) (f : Fault) : Prop where
  | marked {text} :
    t.marked text = .error f →
    Fails t f
  | begins {text} :
    t.begins text = .error f →
    Fails t f
  | remains {text} :
    t.remains text = .error f →
    Fails t f
  | event {e halves} :
    t.event e halves = .error f →
    Fails t f

/-- A text without what stands in brackets. -/
def Terminal.withoutTags : List Char → Bool → List Char
  | [], _ => []
  | '[' :: cs, _ => withoutTags cs true
  | ']' :: cs, _ => withoutTags cs false
  | c :: cs, inside => if inside then withoutTags cs inside else c :: withoutTags cs inside

/-- A terminal that shows every text without what stands in brackets. -/
def Terminal.untagged : Terminal where
  marked text := .ok (String.ofList (withoutTags text.text.toList false))
  begins _ := .ok ()
  remains text := .ok (String.ofList (withoutTags text.text.toList false))
  event e _ := .ok (e.level.name ++ " " ++ e.message)

/-- Such a terminal never fails. -/
lemma Terminal.not_fails_untagged (f : Fault) : ¬Terminal.untagged.Fails f := by
  rintro (h | h | h | h) <;> cases h

namespace Command

variable {α β : Type}

/-- A fault for which the program fails in its own right: neither has code of the user ended it, nor was it
interrupted. -/
def IsPlain (f : Fault) : Prop := f.isA "SystemExit" = false ∧ f.isA "KeyboardInterrupt" = false

instance (f : Fault) : Decidable (IsPlain f) := inferInstanceAs (Decidable (_ ∧ _))

/-- A run that ends with a plain fault fails, and the fault escapes. -/
lemma outcomeOf_of_isPlain {f : Fault} (h : IsPlain f) (s : Progress) :
    outcomeOf s f = { exitCode := 1, printed := s.printed, tree := s.tree, escaped := some f } := by
  obtain ⟨hend, hinterrupt⟩ := h
  cases f with
  | ended _ _ => cases hend
  | _ => simp only [outcomeOf, hinterrupt, Bool.false_eq_true, if_false]

namespace Run

/-- Runs a step from where an invocation stands. -/
def runFrom (a : Run α) (s : Progress) : Except Failure α × Progress := a.run.run s

/-- A look at where an invocation stands leaves it there. -/
@[simp] lemma runFrom_get (s : Progress) : (get : Run Progress).runFrom s = (.ok s, s) := rfl

/-- Afterwards, the invocation stands where it was put. -/
@[simp] lemma runFrom_set (s s' : Progress) : (set s' : Run Unit).runFrom s = (.ok (), s') := rfl

/-- Afterwards, the invocation stands where it was led to. -/
@[simp] lemma runFrom_modify (g : Progress → Progress) (s : Progress) :
    (modify g : Run Unit).runFrom s = (.ok (), g s) := rfl

/-- A run goes on with a result. -/
@[simp] lemma runFrom_check_ok (x : α) (s : Progress) : (check (.ok x)).runFrom s = (.ok x, s) := rfl

/-- A run ends with a failure. -/
@[simp] lemma runFrom_check_error (f : Failure) (s : Progress) :
    (check (.error f : Except Failure α)).runFrom s = (.error f, s) := rfl

/-- The second of two steps goes on where the first one ends, unless the first one fails. -/
lemma runFrom_bind (a : Run α) (k : α → Run β) (s : Progress) :
    (a >>= k).runFrom s = match a.runFrom s with
      | (.ok x, s') => (k x).runFrom s'
      | (.error f, s') => (.error f, s') := by
  rw [runFrom, runState_bind]
  rcases h : a.run.run s with ⟨_ | _, _⟩ <;> simp only [runFrom, h]

/-- Steps for the items of a list go on with those for the rest of it. -/
lemma forM_cons {ι : Type} (k : ι → Run Unit) (i : ι) (l : List ι) :
    (i :: l).forM k = (k i >>= fun _ => l.forM k) := rfl

/-- A failure of the first of two steps is one of both together. -/
lemma runFrom_bind_of_error {a : Run α} {k : α → Run β} {s : Progress} {f : Failure}
    (h : (a.runFrom s).1 = .error f) : ((a >>= k).runFrom s).1 = .error f := by
  rw [runFrom_bind, show a.runFrom s = (.error f, (a.runFrom s).2) from Prod.ext h rfl]

/-! ## Printing -/

section Printing

variable {t : Terminal} {R : Except Failure α → Prop} {s : Progress}

/-- How a step ends that does nothing to the files: with one of some results, or with a fault of the terminal. -/
inductive PrintsFrom (t : Terminal) (R : Except Failure α → Prop) (s : Progress) :
    Except Failure α × Progress → Prop where
  | result {r} {s' : Progress} :
    R r →
    s'.tree = s.tree →
    PrintsFrom t R s (r, s')
  | fault {f} {s' : Progress} :
    t.Fails f →
    s'.tree = s.tree →
    PrintsFrom t R s (.error (.fault f), s')

/-- A step that does nothing to the files, and that comes to one of some results unless the terminal fails. -/
def PrintsThen (a : Run α) (t : Terminal) (R : Except Failure α → Prop) : Prop := ∀ s, PrintsFrom t R s (a.runFrom s)

/-- A step that does nothing but print. -/
abbrev Prints (a : Run α) (t : Terminal) : Prop := a.PrintsThen t fun r => ∃ x, r = .ok x

/-- A step does not end with a fault of the terminal when it is run from somewhere. -/
def ShownFrom (a : Run α) (t : Terminal) (s : Progress) : Prop := ∀ f, t.Fails f → (a.runFrom s).1 ≠ .error (.fault f)

/-- Where nothing is done, nothing happens to the files. -/
lemma PrintsThen.pure (x : α) : (Pure.pure x : Run α).PrintsThen t (· = .ok x) := fun _ => .result rfl rfl

/-- A failure leaves the files alone. -/
lemma PrintsThen.throw (f : Failure) : (MonadExcept.throw f : Run α).PrintsThen t (· = .error f) :=
  fun _ => .result rfl rfl

/-- What comes to one of some results comes to one of more results. -/
lemma PrintsThen.imp {R' : Except Failure α → Prop} {a : Run α} (ha : a.PrintsThen t R) (hR : ∀ r, R r → R' r) :
    a.PrintsThen t R' := by
  intro s
  have ha := ha s
  generalize a.runFrom s = r at ha ⊢
  cases ha with
  | result hr htree => exact .result (hR _ hr) htree
  | fault hf htree => exact .fault hf htree

/-- Behind a step that prints, a run goes on with the same files. -/
lemma Prints.bind {a : Run β} {k : β → Run α} (ha : a.Prints t) (hk : ∀ x, (k x).PrintsThen t R) :
    (a >>= k).PrintsThen t R := by
  intro s
  have ha := ha s
  rw [runFrom_bind]
  generalize a.runFrom s = r at ha
  cases ha with
  | @result _ s' hr htree =>
    obtain ⟨x, rfl⟩ := hr
    have hk := hk x s'
    dsimp only
    generalize (k x).runFrom s' = r at hk ⊢
    cases hk with
    | result hr htree' => exact .result hr (htree'.trans htree)
    | fault hf htree' => exact .fault hf (htree'.trans htree)
  | fault hf htree => exact .fault hf htree

/-- Behind a look at where an invocation stands, a run goes on from there. -/
lemma PrintsThen.get_bind {k : Progress → Run α} (hk : ∀ s, (k s).PrintsThen t R) : (get >>= k).PrintsThen t R := by
  intro s
  rw [runFrom_bind, runFrom_get]
  exact hk s s

/-- Steps that print may be taken for each item of a list. -/
lemma Prints.forM {ι : Type} {k : ι → Run Unit} (hk : ∀ i, (k i).Prints t) (l : List ι) : (l.forM k).Prints t := by
  induction l with
  | nil => exact (PrintsThen.pure _).imp fun _ hr => ⟨_, hr⟩
  | cons i l ih => exact (hk i).bind fun _ => ih

/-- A step that prints comes to its result, unless the terminal fails. -/
lemma PrintsThen.exists_runFrom {a : Run α} (ha : a.PrintsThen t R) (hshown : a.ShownFrom t s) :
    ∃ r s', R r ∧ s'.tree = s.tree ∧ a.runFrom s = (r, s') := by
  have ha := ha s
  rw [ShownFrom] at hshown
  generalize a.runFrom s = r at ha hshown
  cases ha with
  | result hR htree => exact ⟨_, _, hR, htree, rfl⟩
  | fault hf _ => exact absurd rfl (hshown _ hf)

/-- Unless the terminal fails, a run goes on behind a step that prints, with the same files. -/
lemma Prints.runFrom_bind {a : Run β} {k : β → Run α} (ha : a.Prints t) (hshown : (a >>= k).ShownFrom t s) :
    ∃ x s', s'.tree = s.tree ∧ (a >>= k).runFrom s = (k x).runFrom s' := by
  have ha := ha s
  rw [ShownFrom] at hshown
  rw [Run.runFrom_bind] at hshown ⊢
  generalize a.runFrom s = r at ha hshown
  cases ha with
  | result hR htree =>
    obtain ⟨x, rfl⟩ := hR
    exact ⟨x, _, htree, rfl⟩
  | fault hf _ => exact absurd rfl (hshown _ hf)

/-- If the terminal does not fail in two steps, then it does not fail in the first of them. -/
lemma ShownFrom.of_bind {a : Run α} {k : α → Run β} (h : (a >>= k).ShownFrom t s) : a.ShownFrom t s :=
  fun f hf ha => h f hf (runFrom_bind_of_error ha)

/-- If the terminal does not fail in a run, then it does not fail in another one that comes to the same. -/
lemma ShownFrom.of_runFrom_eq {a b : Run α} {s' : Progress} (h : a.ShownFrom t s) (hrun : a.runFrom s = b.runFrom s') :
    b.ShownFrom t s' := by
  rw [ShownFrom, hrun] at h
  exact h

/-- If the terminal does not fail in two steps, then a run goes on behind the first of them, and it does not fail in the
second one. -/
lemma ShownFrom.runFrom_bind {a : Run α} {k : α → Run β} {x : α} {s' : Progress} (h : (a >>= k).ShownFrom t s)
    (ha : a.runFrom s = (.ok x, s')) : (k x).ShownFrom t s' ∧ (a >>= k).runFrom s = (k x).runFrom s' := by
  have hrun : (a >>= k).runFrom s = (k x).runFrom s' := by rw [Run.runFrom_bind, ha]
  exact ⟨h.of_runFrom_eq hrun, hrun⟩

end Printing

end Run

section Terminals

variable {t : Terminal}

/-- Printing leaves the files alone. -/
lemma prints_print {r : Except Fault String} (hr : ∀ f, r = .error f → t.Fails f) : (print r).Prints t := by
  intro s
  cases r with
  | ok text => exact .result ⟨_, rfl⟩ rfl
  | error f => exact .fault (hr f rfl) rfl

/-- To begin to show a text leaves the files alone. -/
lemma prints_begins (text : Text.HalvedText) : (check ((t.begins text).mapError .fault)).Prints t := by
  intro s
  cases h : t.begins text with
  | ok x => exact .result ⟨x, rfl⟩ rfl
  | error f => exact .fault (.begins h) rfl

end Terminals

end Command

namespace Host

open Command

variable {h : Host} {w : Workspace} {i : Invocation} {s s' : Progress} {f : Failure} {g : Fault}

/-- Printing a marked text leaves the files alone. -/
lemma prints_printMarked (h : Host) (text : String) : (h.printMarked text).Prints h.terminal :=
  Run.PrintsThen.get_bind fun _ => prints_print fun _ => .marked

/-- A marked text is printed as the terminal shows it. -/
lemma runFrom_printMarked {text line : String} (hline : h.terminal.marked ⟨text, s.halves⟩ = .ok line) :
    (h.printMarked text).runFrom s = (.ok (), { s with printed := s.printed ++ [line] }) := by
  rw [printMarked, Run.runFrom_bind, Run.runFrom_get]
  dsimp only
  rw [hline, print, Run.runFrom_modify]

/-! ## How a run ends -/

/-- After steps that fail, the failure is reported, unless it is a fault. -/
lemma runFrom_reported (h : Host) (w : Workspace) (i : Invocation) (s : Progress) :
    (h.reported w i).runFrom s = match (h.steps w i).runFrom s with
      | (.ok _, s') => (.ok true, s')
      | (.error (.fault g), s') => (.error (.fault g), s')
      | (.error f, s') => (do h.printMarked (failureLine f); return false : Run Bool).runFrom s' := by
  simp only [Run.runFrom, reported, tryCatch, tryCatchThe, MonadExceptOf.tryCatch, ExceptT.tryCatch, ExceptT.mk,
    ExceptT.run, bind, ExceptT.bind, ExceptT.bindCont, StateT.bind, StateT.run]
  have hpure {α : Type} (x : α) (s : Progress) : (pure x : StateM Progress α) s = (x, s) := rfl
  rcases h.steps w i s with ⟨f | ⟨⟩, s'⟩
  · cases f with
    | fault _ => rfl
    | _ =>
      simp only [hpure, StateT.bind]
      rcases h.printMarked _ s' with ⟨_ | _, _⟩ <;> rfl
  · rfl

/-- If the terminal does not fail in a run with its report, then it does not fail in the steps. -/
lemma shownFrom_steps_of_reported (hreported : (h.reported w i).ShownFrom h.terminal s) :
    (h.steps w i).ShownFrom h.terminal s := by
  intro f hf hsteps
  refine hreported f hf ?_
  rw [runFrom_reported, show (h.steps w i).runFrom s = (.error (.fault f), _) from Prod.ext hsteps rfl]

/-- A run whose steps go well ends well. -/
theorem run_of_ok (hsteps : (h.steps w i).runFrom { tree := w.tree } = (.ok (), s)) :
    h.run w i = { exitCode := 0, printed := s.printed, tree := s.tree } := by
  have hreported := runFrom_reported h w i { tree := w.tree }
  rw [hsteps] at hreported
  rw [run, show (h.reported w i).run.run { tree := w.tree } = (.ok true, s) from hreported]

/-- A run whose steps end with a fault ends with it. -/
theorem run_of_fault (hsteps : (h.steps w i).runFrom { tree := w.tree } = (.error (.fault g), s)) :
    h.run w i = outcomeOf s g := by
  have hreported := runFrom_reported h w i { tree := w.tree }
  rw [hsteps] at hreported
  rw [run, show (h.reported w i).run.run { tree := w.tree } = (.error (.fault g), s) from hreported]

/-- A failure of the steps is reported by a line of its own. -/
lemma runFrom_reported_of_failure (hsteps : (h.steps w i).runFrom { tree := w.tree } = (.error f, s))
    (hf : ∀ g, f ≠ .fault g) :
    (h.reported w i).runFrom { tree := w.tree } =
      (do h.printMarked (failureLine f); return false : Run Bool).runFrom s := by
  rw [runFrom_reported, hsteps]
  cases f with
  | fault g => exact absurd rfl (hf g)
  | _ => rfl

/-- A run whose steps fail prints a line about it and ends with a failure, if the line can be shown. -/
theorem run_reports_failure {line : String} (hsteps : (h.steps w i).runFrom { tree := w.tree } = (.error f, s))
    (hf : ∀ g, f ≠ .fault g) (hline : h.terminal.marked ⟨failureLine f, s.halves⟩ = .ok line) :
    h.run w i = { exitCode := 1, printed := s.printed ++ [line], tree := s.tree } := by
  have hreported : (h.reported w i).runFrom { tree := w.tree } =
      (.ok false, { s with printed := s.printed ++ [line] }) := by
    rw [runFrom_reported_of_failure hsteps hf, Run.runFrom_bind, runFrom_printMarked hline]
    rfl
  rw [run, show (h.reported w i).run.run { tree := w.tree } = (.ok false, _) from hreported]

/-- A run whose steps fail ends with a failure, unless the line about it cannot be shown. -/
theorem run_of_failure (hsteps : (h.steps w i).runFrom { tree := w.tree } = (.error f, s)) (hf : ∀ g, f ≠ .fault g)
    (hshown : (h.reported w i).ShownFrom h.terminal { tree := w.tree }) :
    (h.run w i).exitCode = 1 ∧ (h.run w i).tree = s.tree := by
  have hreported := runFrom_reported_of_failure hsteps hf
  rw [Run.ShownFrom, hreported] at hshown
  obtain ⟨⟨⟩, s', htree, hrun⟩ := (h.prints_printMarked (failureLine f)).runFrom_bind hshown
  rw [hrun] at hreported
  rw [run, show (h.reported w i).run.run { tree := w.tree } = (.ok false, s') from hreported]
  exact ⟨rfl, htree⟩

/-- A host that knows some documents, has no compiler and shows every text without what stands in brackets. -/
def knowing (documents : List (String × Value)) : Host where
  readers := .knowing documents
  compile _ := .accepted
  terminal := .untagged

/-! ## Generating -/

variable {o : GenerateOptions} {c : Configuration}

/-- The options of an invocation lead to a configuration. -/
def Configures (h : Host) (w : Workspace) (o : GenerateOptions) (c : Configuration) : Prop :=
  h.readers.get w.tree w.environment w.cwd o.config = .ok c

/-- Once there is a configuration, the model that it names is loaded. -/
lemma runFrom_steps_of_configures (hc : h.Configures w o c) :
    (h.steps w (.generate o)).runFrom { tree := w.tree } =
      (check (Loading.load w.modules c.model) >>= fun m => c.targets.forM (h.publish m o.verbose)).runFrom
        { tree := w.tree, halves := c.halves } := by
  rw [Configures] at hc
  rw [steps, generate, hc, Run.runFrom_bind, Run.runFrom_check_ok]
  dsimp only
  rw [Run.runFrom_bind, Run.runFrom_modify]

/-- If the model cannot be loaded, then this is what the run comes to. -/
lemma runFrom_steps_of_load_error (hc : h.Configures w o c) (hload : Loading.load w.modules c.model = .error f) :
    (h.steps w (.generate o)).runFrom { tree := w.tree } = (.error f, { tree := w.tree, halves := c.halves }) := by
  rw [runFrom_steps_of_configures hc, hload, Run.runFrom_bind, Run.runFrom_check_error]

end Host

end SdkGen
