import SdkGen.Proofs.Command.Targets
import SdkGen.Proofs.Tree.Places

/-!
# Where modules are written

The files that an emitter writes have the names that its target gives them, whatever it was called with. A name is the
directory for generated files with the package put behind it, and no slash is put between them: the files are in the
package directory below that directory only if its text ends in a slash itself, or is empty.

Main statements: `Emitter.Runs.keeps` (what a run of calls writes) and `TargetConfig.emits_below_codePath_iff`.
-/

namespace SdkGen

/-! ## Runs of calls -/

namespace Emitter

/-- A run of calls of an emitter, of those that emit sources and of those that emit one module, which may fail. -/
inductive Runs (e : Emitter) (s : Emission) : Emission → Prop where
  | start :
    Runs e s s
  | emit {s'} (src : Sources) :
    Runs e s s' →
    Runs e s (e.afterEmit s' src)
  | emitModule {s'} {name : String} (source : String) :
    '/' ∉ name.toList →
    Runs e s s' →
    Runs e s ((e.emitModule name source).runFrom s').2

/-- A place is where the file of a module is. -/
def LeadsTo (e : Emitter) (tree : Tree) (base : String) (p : Path) : Prop :=
  '/' ∉ base.toList ∧ tree.place (Path.ofLocation (e.target.fileName base)) = .ok p

/-- What was recorded and changed on the way from one emission to another one are files of modules. -/
structure Keeps (e : Emitter) (s s' : Emission) : Prop where
  recorded : ∀ name ∈ s'.written, name ∈ s.written ∨ ∃ base p, name = e.target.fileName base ∧ e.LeadsTo s'.tree base p
  changed : ∀ p, s'.tree.files p ≠ s.tree.files p → ∃ base, e.LeadsTo s'.tree base p
  grows : s.tree.Grows s'.tree

variable {e : Emitter} {name : String} {s s' s'' : Emission}

/-- Where nothing is done, nothing is recorded or changed. -/
lemma Keeps.refl (s : Emission) : e.Keeps s s where
  recorded _ h := .inl h
  changed _ h := absurd rfl h
  grows := .refl _

/-- The file of a module stays where it is while directories are made. -/
lemma LeadsTo.mono {tree tree' : Tree} {base : String} {p : Path} (h : e.LeadsTo tree base p)
    (hgrows : tree.Grows tree') : e.LeadsTo tree' base p :=
  ⟨h.1, Tree.place_mono hgrows h.2⟩

/-- What is recorded and changed in one step after another is so in both together. -/
lemma Keeps.trans (h : e.Keeps s s') (h' : e.Keeps s' s'') : e.Keeps s s'' where
  recorded name hname := by
    rcases h'.recorded name hname with hname | hname
    · rcases h.recorded name hname with hname | ⟨base, p, rfl, hp⟩
      · exact .inl hname
      · exact .inr ⟨base, p, rfl, hp.mono h'.grows⟩
    · exact .inr hname
  changed p hp := by
    by_cases hsame : s''.tree.files p = s'.tree.files p
    · obtain ⟨base, hbase⟩ := h.changed p (hsame ▸ hp)
      exact ⟨base, hbase.mono h'.grows⟩
    · exact h'.changed p hsame
  grows := h.grows.trans h'.grows

/-- What stores the text of a module keeps to its file. -/
lemma Keeps.of_stores {text : String} (hname : '/' ∉ name.toList)
    (hstores : Tree.Stores [(e.target.fileName name, text)] s.tree s'.tree)
    (hwritten : s'.written = s.written ∨ s'.written = s.written ++ [e.target.fileName name]) : e.Keeps s s' where
  recorded file hfile := by
    rcases hwritten with hwritten | hwritten
    · exact .inl (hwritten ▸ hfile)
    · rw [hwritten, List.mem_append, List.mem_singleton] at hfile
      refine hfile.imp_right fun hfile => ?_
      obtain ⟨p, hp, -⟩ := Tree.lookup?_eq_file_iff.1 (hstores.holds _ List.mem_cons_self)
      exact ⟨name, p, hfile, hname, hp⟩
  changed p hp := by
    by_contra hnone
    refine hp (hstores.others p fun w hw hplace => hnone ⟨name, hname, ?_⟩)
    obtain rfl := List.mem_singleton.1 hw
    exact hplace
  grows := hstores.grows

/-- What stores nothing keeps to any files. -/
lemma Keeps.of_stores_nil (hstores : Tree.Stores [] s.tree s'.tree) (hwritten : s'.written = s.written) :
    e.Keeps s s' where
  recorded _ hname := .inl (hwritten ▸ hname)
  changed p hp := absurd (hstores.others p nofun) hp
  grows := hstores.grows

/-- Emitting a module writes its file alone, whether it fails or not. -/
lemma keeps_emitModule (hname : '/' ∉ name.toList) (source : String) (s : Emission) :
    e.Keeps s ((e.emitModule name source).runFrom s).2 := by
  have h := e.emitsModule name source s
  generalize (e.emitModule name source).runFrom s = r at h
  cases h with
  | fails _ => exact .refl s
  | malformed _ => exact .refl s
  | refused _ hstore =>
    have hends := e.storeEnds_store (e.target.fileName name) source s.tree
    rw [hstore] at hends
    cases hends with
    | failed hstores => exact .of_stores_nil hstores rfl
    -- an empty file is left where the source cannot be stored
    | emptied _ hwrite => exact .of_stores hname (Tree.stores_of_write hwrite) (.inl rfl)
  | written _ hstore => exact .of_stores hname (Tree.stores_of_write (write_of_store hstore)) (.inr rfl)

/-- Emitting sources writes the files of modules alone, whether it fails or not. -/
lemma keeps_emit (src : Sources) (s : Emission) : e.Keeps s (e.afterEmit s src) := by
  have hmethods : e.Keeps s ((e.emitModule methodsModule src.methods).runFrom s).2 := keeps_emitModule (by decide) _ _
  rw [afterEmit, emit, Emit.runFrom_bind]
  split
  -- the second module is emitted only if the first one was
  · next methods s₁ hrun =>
    rw [hrun] at hmethods
    have hmodels : e.Keeps s₁ ((e.emitModule modelsModule src.models).runFrom s₁).2 := keeps_emitModule (by decide) _ _
    rw [Emit.runFrom_bind]
    split
    · next hrun' =>
      rw [hrun'] at hmodels
      exact hmethods.trans hmodels
    · next hrun' =>
      rw [hrun'] at hmodels
      exact hmethods.trans hmodels
  · next hrun =>
    rw [hrun] at hmethods
    exact hmethods

/-- Whatever an emitter is called with, it writes files of modules and records them. -/
theorem Runs.keeps (h : e.Runs s s') : e.Keeps s s' := by
  induction h with
  | start => exact .refl s
  | emit src _ ih => exact ih.trans (keeps_emit src _)
  | emitModule source hname _ ih => exact ih.trans (keeps_emitModule hname source _)

end Emitter

/-! ## Names of files -/

namespace Target

variable {t : Target} {base file : String} {tree : Tree} {p : Path}

section Package

variable (ht : t.KeepsExtension) (hpackage : Path.IsPart t.package) (hbase : '/' ∉ base.toList)

include ht hpackage hbase in
/-- The file of a module is in a directory that has the name of the package exactly if the parts of the name of the file
begin anew behind the directory for generated files. -/
lemma exists_ofLocation_fileName :
    ∃ above directory, ¬Path.isRoot directory ∧ directory ≠ ".." ∧
      Path.ofLocation (t.fileName base) = above ++ [directory, base ++ t.conventions.fileExtension] ∧
      (Path.IsOpen t.codePath ↔ directory = t.package) ∧
      (Path.IsOpen t.codePath → above = Path.ofLocation t.codePath) := by
  obtain ⟨above, last, hlast, hopen, happend⟩ := Path.exists_ofLocation_append t.codePath
  have hdirectory : Path.IsPart (last ++ t.package) := hpackage.append hlast
  have hfile := isPart_append_extension ht hbase
  have hname : t.fileName base =
      t.codePath ++ (t.package ++ "/" ++ (base ++ t.conventions.fileExtension)) := by
    simp [fileName_eq, String.append_assoc]
  have hparts : last ++ (t.package ++ "/" ++ (base ++ t.conventions.fileExtension)) =
      last ++ t.package ++ "/" ++ (base ++ t.conventions.fileExtension) := by
    simp [String.append_assoc]
  refine ⟨above, last ++ t.package, hdirectory.not_isRoot, hdirectory.ne_up, ?_, ?_, fun h => ?_⟩
  · rw [hname, happend _ (hpackage.isInner_append hfile), hparts, Path.parts_append_slash,
      Path.parts_of_isPart hdirectory, Path.parts_of_isPart hfile]
    rfl
  · rw [hopen, ← String.toList_inj, ← String.toList_inj, String.toList_append, List.append_left_eq_self]
    rfl
  · have hnothing := happend "" ⟨by decide, by decide⟩
    rw [hopen.1 h] at hnothing
    simpa [Path.parts] using hnothing.symm

include ht hpackage hbase in
/-- The file of a module is in the package directory below the directory for generated files exactly if that ends in a
slash or is empty. -/
theorem exists_root_iff (hp : tree.place (Path.ofLocation (t.fileName base)) = .ok p) :
    (∃ root, tree.place (Path.ofLocation t.codePath) = .ok root ∧ p = root ++ [t.package, file]) ↔
      Path.IsOpen t.codePath ∧ file = base ++ t.conventions.fileExtension := by
  obtain ⟨above, directory, hroot, hup, hparts, hopen, habove⟩ := exists_ofLocation_fileName ht hpackage hbase
  rw [hparts] at hp
  obtain ⟨root, hplace, rfl⟩ := Tree.place_append hroot hup (isPart_append_extension ht hbase).ne_up hp
  constructor
  · rintro ⟨root', -, heq⟩
    obtain ⟨-, heq⟩ := List.append_inj' heq rfl
    obtain ⟨hdirectory, hfile, -⟩ := List.cons.inj heq |>.imp_right List.cons.inj
    exact ⟨hopen.2 hdirectory, hfile.symm⟩
  · rintro ⟨h, rfl⟩
    rw [habove h] at hplace
    exact ⟨root, hplace, by rw [hopen.1 h]⟩

end Package

/-- A Python target with its files in some place. -/
def sampleAt (codePath package : String) : Target := { standard .python with codePath, package }

end Target

namespace TargetConfig

/-- A place is that of a file in the package directory below the directory for generated files. -/
def Holds (c : TargetConfig) (tree : Tree) (file : String) (p : Path) : Prop :=
  ∃ root, tree.place (Path.ofLocation c.codePath) = .ok root ∧ p = root ++ [c.package, file]

variable {c : TargetConfig} {t : Target} {e : Emitter} {tree : Tree} {base file : String} {p : Path}

/-- The file of a module is held at its own name just if the parts of the name begin anew behind the
directory. -/
lemma holds_iff (ht : c.target = .ok t) (hpackage : Path.IsPart c.package) (he : e.target = t)
    (h : e.LeadsTo tree base p) :
    c.Holds tree file p ↔ Path.IsOpen c.codePath ∧ file = base ++ t.conventions.fileExtension := by
  obtain ⟨hextension, hcode, hname⟩ := keepsExtension ht
  subst he
  rw [Holds, ← hcode, ← hname]
  exact Target.exists_root_iff hextension (hname ▸ hpackage) h.1 h.2

/-- Whatever an emitter for a target of a configuration is called with, what it records and changes are files of
modules. These are in the package directory below the directory for generated files, under the names of the modules,
exactly if the text of that directory ends in a slash or is empty. Targets of which this is true have no file in common
unless they have one directory for generated files. -/
theorem emits_below_codePath_iff (ht : c.target = .ok t) (hpackage : Path.IsPart c.package) (he : e.target = t)
    {s : Emission} (h : e.Runs { tree } s) :
    (∀ name ∈ s.written, ∃ base p, name = t.fileName base ∧ e.LeadsTo s.tree base p) ∧
    (∀ p, s.tree.files p ≠ tree.files p → ∃ base, e.LeadsTo s.tree base p) ∧
    (∀ base p, e.LeadsTo s.tree base p → ∀ file,
      c.Holds s.tree file p ↔ Path.IsOpen c.codePath ∧ file = base ++ t.conventions.fileExtension) ∧
    ∀ (c' : TargetConfig) (e' : Emitter), c'.target = .ok e'.target → Path.IsPart c'.package →
      Path.IsOpen c.codePath → Path.IsOpen c'.codePath → ∀ (tree' : Tree) base base' p p',
        e.LeadsTo tree' base p → e'.LeadsTo tree' base' p' →
        tree'.place (Path.ofLocation c.codePath) ≠ tree'.place (Path.ofLocation c'.codePath) → p ≠ p' := by
  have hkeeps := h.keeps
  refine ⟨fun name hname => ?_, hkeeps.changed, fun base p hp file => holds_iff ht hpackage he hp, ?_⟩
  · rcases hkeeps.recorded name hname with hnone | hfile
    · cases hnone
    · rwa [he] at hfile
  · rintro c' e' ht' hpackage' hopen hopen' tree' base base' p _ hp hp' hne rfl
    obtain ⟨root, hroot, heq⟩ := (holds_iff ht hpackage he hp).2 ⟨hopen, rfl⟩
    obtain ⟨root', hroot', heq'⟩ := (holds_iff ht' hpackage' rfl hp').2 ⟨hopen', rfl⟩
    obtain ⟨rfl, -⟩ := List.append_inj' (heq.symm.trans heq') rfl
    rw [hroot, hroot'] at hne
    exact hne rfl

/-- A configuration of such a target. -/
def sampleAt (codePath package : String) : TargetConfig := { language := "python", codePath, package }

/-- What emitting sources for such a target leaves behind where there was nothing. -/
def sampleEmitted (codePath package : String) : Emission :=
  ((Target.sampleAt codePath package).emitter true).afterEmit { tree := {} } Emitter.sampleWhole

/-- With a slash at its end, the directory holds the files of a target. -/
theorem emits_below_codePath_iff_sample :
    (sampleAt "out/" "sdk").target = .ok (Target.sampleAt "out/" "sdk") ∧ Path.IsPart "sdk" ∧
    ((Target.sampleAt "out/" "sdk").emitter true).Runs { tree := {} } (sampleEmitted "out/" "sdk") ∧
    (sampleEmitted "out/" "sdk").written = ["out/sdk/methods.py", "out/sdk/models.py"] ∧
    (sampleAt "out/" "sdk").Holds (sampleEmitted "out/" "sdk").tree "methods.py"
      ["/", "tmp", "work", "out", "sdk", "methods.py"] := by
  have ht : (sampleAt "out/" "sdk").target = .ok (Target.sampleAt "out/" "sdk") := by rfl
  have hpackage : Path.IsPart "sdk" := ⟨by decide, by decide, by decide, by decide⟩
  have hruns : ((Target.sampleAt "out/" "sdk").emitter true).Runs { tree := {} } (sampleEmitted "out/" "sdk") :=
    .emit _ .start
  have hleads : ((Target.sampleAt "out/" "sdk").emitter true).LeadsTo (sampleEmitted "out/" "sdk").tree "methods"
      ["/", "tmp", "work", "out", "sdk", "methods.py"] := ⟨by decide, by rfl⟩
  obtain ⟨-, -, hholds, -⟩ := emits_below_codePath_iff ht hpackage rfl hruns
  exact ⟨ht, hpackage, hruns, by rfl, (hholds _ _ hleads _).2 ⟨by decide, by rfl⟩⟩

/-- Without a slash at its end, the name of the directory is the front of the name of another one, which the files are
in, and two directories have the same file. -/
theorem not_emits_below_codePath :
    (sampleAt "out" "sdk").target = .ok (Target.sampleAt "out" "sdk") ∧
    (sampleEmitted "out" "sdk").written = ["outsdk/methods.py", "outsdk/models.py"] ∧
    (sampleEmitted "out" "sdk").tree.lookup? "outsdk/methods.py" = some (.file "x = 0\n") ∧
    (sampleEmitted "out" "sdk").tree.lookup? "out/sdk/methods.py" = none ∧
    (sampleEmitted "a" "bc").written = ["abc/methods.py", "abc/models.py"] ∧
    (sampleEmitted "ab" "c").written = ["abc/methods.py", "abc/models.py"] := by
  refine ⟨by rfl, by rfl, by rfl, by rfl, by rfl, by rfl⟩

end TargetConfig
end SdkGen
