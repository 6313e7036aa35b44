import SdkGen.Emission
import SdkGen.Proofs.Failures
import SdkGen.Proofs.Target.Demands
import SdkGen.Proofs.Tree.Files

/-!
# Emitting modules

Modules are checked and written one after the other. So a module that does not pass the check leaves everything as it
is, but for the modules before it, which were written by then.

Main statements: `Emitter.storeEnds_store` and `Emitter.emitsModule` (how storing a source and emitting one module can
end) and `Emitter.emit_malformed_unchanged_iff`.
-/

namespace SdkGen

namespace Emit

variable {α β : Type}

/-- A look at the emission leaves it as it is. -/
@[simp] lemma runFrom_get (s : Emission) : (get : Emit Emission).runFrom s = (.ok s, s) := rfl

/-- The second of two steps goes on where the first one ends, unless the first one fails. -/
lemma runFrom_bind (a : Emit α) (k : α → Emit β) (s : Emission) :
    (a >>= k).runFrom s = match a.runFrom s with
      | (.ok x, s') => (k x).runFrom s'
      | (.error f, s') => (.error f, s') := by
  rw [runFrom, runState_bind]
  rcases h : a.run.run s with ⟨_ | _, _⟩ <;> simp only [runFrom, h]

end Emit

namespace Emitter

variable {e : Emitter} {fileName name source : String} {s s' : Emission} {t t' : Tree} {f : Fault}

/-! ## Storing -/

/-- How storing a source can end. -/
inductive StoreEnds (e : Emitter) (fileName source : String) (t : Tree) : Except Fault Unit × Tree → Prop where
  | stored {t' : Tree} :
    t.write fileName source = (.ok (), t') →
    StoreEnds e fileName source t (.ok (), t')
  | failed {f : Fault} {t' : Tree} :
    Tree.Stores [] t t' →
    StoreEnds e fileName source t (.error f, t')
  /-- The file is open when it turns out that its text cannot be stored. -/
  | emptied {f : Fault} {t' : Tree} :
    e.storeFault? source = some f →
    t.write fileName "" = (.ok (), t') →
    StoreEnds e fileName source t (.error f, t')

/-- Storing a source ends in one of these ways. -/
theorem storeEnds_store (e : Emitter) (fileName source : String) (t : Tree) :
    e.StoreEnds fileName source t (e.store fileName source t) := by
  unfold store
  split
  · exact .failed (.refl t)
  · generalize hwrite : t.write fileName source = r
    rcases r with ⟨f | ⟨⟩, t'⟩
    · exact .failed (Tree.stores_of_write_error hwrite)
    · exact .stored hwrite
  · next f _ hsource =>
    generalize hwrite : t.write fileName "" = r
    rcases r with ⟨f' | ⟨⟩, t'⟩
    · exact .failed (Tree.stores_of_write_error hwrite)
    · exact .emptied hsource hwrite

/-- A text that cannot be stored is no failure of the system. -/
lemma not_isA_of_storeFault? (h : e.storeFault? source = some f) : f.isA "OSError" = false := by
  obtain ⟨_, -, rfl⟩ := Option.map_eq_some_iff.1 h
  rfl

/-- A source that is stored is written. -/
lemma write_of_store (h : e.store fileName source t = (.ok (), t')) : t.write fileName source = (.ok (), t') := by
  have hends := e.storeEnds_store fileName source t
  rw [h] at hends
  cases hends with
  | stored hwrite => exact hwrite

/-- A failure of the system to store a source leaves all files as they were. -/
lemma stores_of_store_error (hf : f.isA "OSError") (h : e.store fileName source t = (.error f, t')) :
    Tree.Stores [] t t' := by
  have hends := e.storeEnds_store fileName source t
  rw [h] at hends
  cases hends with
  | failed hstores => exact hstores
  | emptied hsource _ =>
    rw [not_isA_of_storeFault? hsource] at hf
    cases hf

/-! ## Emitting one module -/

/-- How emitting a module can end. -/
inductive EmitsModule (e : Emitter) (name source : String) (s : Emission) :
    Except Failure String × Emission → Prop where
  | fails {f : Fault} :
    e.check ⟨source, e.halves⟩ = .fails f →
    EmitsModule e name source s (.error (.fault f), s)
  | malformed :
    e.check ⟨source, e.halves⟩ = .malformed →
    EmitsModule e name source s (.error (.output (e.target.fileName name) (some .malformedSource)), s)
  | refused {f : Fault} {tree} :
    e.accepts source = true →
    e.store (e.target.fileName name) source s.tree = (.error f, tree) →
    EmitsModule e name source s (.error (storeFailure (e.target.fileName name) f), { s with tree })
  | written {tree} :
    e.accepts source = true →
    e.store (e.target.fileName name) source s.tree = (.ok (), tree) →
    EmitsModule e name source s
      (.ok (e.target.fileName name),
        { tree,
          written := s.written ++ [e.target.fileName name],
          journal := s.journal.push (.wrote (e.target.fileName name)) })

/-- A source is accepted just if this is the verdict on it. -/
lemma accepts_iff : e.accepts source = true ↔ e.check ⟨source, e.halves⟩ = .accepted := by
  rw [accepts]
  cases e.check ⟨source, e.halves⟩ <;> simp

/-- Emitting a module ends in one of these ways. -/
theorem emitsModule (e : Emitter) (name source : String) (s : Emission) :
    e.EmitsModule name source s ((e.emitModule name source).runFrom s) := by
  rw [emitModule]
  cases hcheck : e.check ⟨source, e.halves⟩ with
  | fails f => exact .fails hcheck
  | malformed => exact .malformed hcheck
  | accepted =>
    have haccepts := accepts_iff.2 hcheck
    dsimp only
    rw [writeModule, Emit.runFrom_bind, Emit.runFrom_get]
    dsimp only
    generalize hstore : e.store (e.target.fileName name) source s.tree = r
    rcases r with ⟨f | ⟨⟩, tree⟩
    · exact .refused haccepts hstore
    · exact .written haccepts hstore

/-- What is in the way of a file is not that its source is malformed. -/
lemma storeFailure_ne (f : Fault) (file : String) : storeFailure fileName f ≠ .output file (some .malformedSource) := by
  intro he
  rw [storeFailure] at he
  split at he
  · next hf =>
    cases he
    cases hf
  · cases he

/-- If a module is malformed, then nothing is done. -/
lemma EmitsModule.of_malformed {file : String}
    (h : e.EmitsModule name source s (.error (.output file (some .malformedSource)), s')) :
    e.accepts source = false ∧ file = e.target.fileName name ∧ s' = s := by
  generalize hr : ((.error (.output file (some .malformedSource)), s') : Except Failure String × Emission) = r at h
  cases h with
  | fails _ => cases hr
  | malformed hcheck =>
    cases hr
    exact ⟨by rw [accepts, hcheck], rfl, rfl⟩
  | refused _ _ =>
    have hr := Except.error.inj (congrArg Prod.fst hr)
    exact absurd hr.symm (storeFailure_ne _ file)
  | written _ _ => cases hr

/-- A module that was emitted was written to its file, and the file was recorded. -/
lemma EmitsModule.of_ok {file : String} (h : e.EmitsModule name source s (.ok file, s')) :
    e.accepts source = true ∧ s.tree.write (e.target.fileName name) source = (.ok (), s'.tree) ∧
      s'.written = s.written ++ [e.target.fileName name] := by
  cases h with
  | written haccepts hstore => exact ⟨haccepts, write_of_store hstore, rfl⟩

/-- Emitting sources, one of which is malformed, leaves all files and the record as they were exactly if the methods
are malformed. If only the models are malformed, then the methods were written by that time and nothing else was. -/
theorem emit_malformed_unchanged_iff {src : Sources} {file : String}
    (h : (e.emit src).runFrom s = (.error (.output file (some .malformedSource)), s')) :
    (s'.tree = s.tree ∧ s'.written = s.written ↔ e.accepts src.methods = false) ∧
    (e.accepts src.methods = false → file = e.target.fileName methodsModule ∧ s' = s) ∧
    (e.accepts src.methods = true →
      e.accepts src.models = false ∧ file = e.target.fileName modelsModule ∧
      s'.written = s.written ++ [e.target.fileName methodsModule] ∧
      s.tree.write (e.target.fileName methodsModule) src.methods = (.ok (), s'.tree) ∧
      s'.tree.lookup? (e.target.fileName methodsModule) = some (.file src.methods)) := by
  have hmethods := e.emitsModule methodsModule src.methods s
  rw [emit, Emit.runFrom_bind] at h
  split at h
  · next methods s₁ hrun =>
    rw [hrun] at hmethods
    obtain ⟨haccepts, hwrite, hwritten⟩ := hmethods.of_ok
    have hmodels := e.emitsModule modelsModule src.models s₁
    rw [Emit.runFrom_bind] at h
    split at h
    · cases h
    · next hrun' =>
      cases h
      rw [hrun'] at hmodels
      obtain ⟨hrejects, hname, rfl⟩ := hmodels.of_malformed
      simp [haccepts, hrejects, hname, hwritten, hwrite, Tree.lookup?_of_write hwrite]
  · next hrun =>
    cases h
    rw [hrun] at hmethods
    obtain ⟨hrejects, hname, rfl⟩ := hmethods.of_malformed
    simp [hrejects, hname]

/-- Sources with methods that pass the check and models that do not. -/
def sampleHalf : Sources := { methods := "x = 1\n", models := "def (:\n" }

/-- The emitter of Python sources. -/
def sampleEmitter : Emitter := (Target.standard .python).emitter true

/-- What emitting such sources leaves behind where there was nothing. -/
def sampleEmission : Emission := ((sampleEmitter.emit sampleHalf).runFrom { tree := {} }).2

/-- The methods of the second sample are written, and then its models are refused. -/
lemma emit_sampleHalf : (sampleEmitter.emit sampleHalf).runFrom { tree := {} } =
    (.error (.output "./sdk/models.py" (some .malformedSource)), sampleEmission) := by
  refine Prod.ext ?_ rfl
  rfl

/-- The methods are written, since only the models are malformed. -/
theorem emit_malformed_unchanged_iff_sample :
    (sampleEmitter.emit sampleHalf).runFrom { tree := {} } =
      (.error (.output "./sdk/models.py" (some .malformedSource)), sampleEmission) ∧
    sampleEmitter.accepts sampleHalf.methods = true ∧ sampleEmitter.accepts sampleHalf.models = false ∧
    sampleEmission.written = ["./sdk/methods.py"] ∧
    sampleEmission.tree.lookup? "./sdk/methods.py" = some (.file "x = 1\n") := by
  have haccepts : sampleEmitter.accepts sampleHalf.methods = true := by decide
  obtain ⟨_, _, hwrites⟩ := emit_malformed_unchanged_iff emit_sampleHalf
  obtain ⟨hrejects, _, hwritten, _, hfile⟩ := hwrites haccepts
  exact ⟨emit_sampleHalf, haccepts, hrejects, hwritten, hfile⟩

/-- Where there was no file, there is one afterwards, and the record has its name. -/
theorem not_emit_malformed_unchanged :
    ((sampleEmitter.emit sampleHalf).runFrom { tree := {} }).1 =
      .error (.output "./sdk/models.py" (some .malformedSource)) ∧
    ({} : Tree).lookup? "./sdk/methods.py" = none ∧
    ((sampleEmitter.emit sampleHalf).runFrom { tree := {} }).2.tree.lookup? "./sdk/methods.py" =
      some (.file "x = 1\n") ∧
    ((sampleEmitter.emit sampleHalf).runFrom { tree := {} }).2.written = ["./sdk/methods.py"] := by
  refine ⟨by rfl, by rfl, by rfl, by rfl⟩

end Emitter
end SdkGen
