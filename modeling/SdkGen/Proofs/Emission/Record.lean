import SdkGen.Proofs.Emission

/-!
# The record of an emitter

An emitter records the name of every file that it has written. A module that is not written leaves the record and all
files as they were, so the record tells what the files hold, whatever failed in between. Two kinds of failures are
reported together with the name of the file: the source is malformed, or the system fails to store it. A check that
fails for another reason is not reported at all.

Main statements: `Emitter.records_of_emit` (what one call comes to) and `Emitter.record_matches_files` (what a run of
calls leaves behind).
-/

namespace SdkGen

namespace Target

variable {t : Target} {name name' base : String} {tree : Tree} {p : Path}

/-- The name of the file of a module. -/
def IsModuleFile (t : Target) (name : String) : Prop :=
  ∃ base ∈ [methodsModule, modelsModule], name = t.fileName base

/-- A target keeps the file extension of its language. -/
def KeepsExtension (t : Target) : Prop := t.conventions.fileExtension = t.language.conventions.fileExtension

/-- The name of a file is a directory with the name of the module behind a slash. -/
lemma fileName_eq (t : Target) (base : String) :
    t.fileName base = t.codePath ++ t.package ++ "/" ++ (base ++ t.conventions.fileExtension) :=
  String.append_assoc

/-- The name of a module with the extension is a name in a directory. -/
lemma isPart_append_extension (ht : t.KeepsExtension) (hbase : '/' ∉ base.toList) :
    Path.IsPart (base ++ t.conventions.fileExtension) := by
  have hextension : ∀ l : Language,
      2 < l.conventions.fileExtension.length ∧ '/' ∉ l.conventions.fileExtension.toList := by
    intro l
    cases l <;> decide
  obtain ⟨hlong, hslash⟩ := ht ▸ hextension t.language
  have hne (s : String) (hs : s.length ≤ 2) : base ++ t.conventions.fileExtension ≠ s := by
    rintro rfl
    rw [String.length_append] at hs
    omega
  refine ⟨hne _ (by decide), hne _ (by decide), hne _ (by decide), ?_⟩
  rw [String.toList_append, List.mem_append, not_or]
  exact ⟨hbase, hslash⟩

/-- There are no slashes in the names of the modules. -/
lemma slash_notMem_of_module (hbase : base ∈ [methodsModule, modelsModule]) : '/' ∉ base.toList := by
  have hplain : ∀ base ∈ [methodsModule, modelsModule], '/' ∉ base.toList := by decide
  exact hplain base hbase

/-- What the place of a module ends in. -/
lemma getLast?_of_place_fileName (ht : t.KeepsExtension) (hbase : base ∈ [methodsModule, modelsModule])
    (hp : tree.place (Path.ofLocation (t.fileName base)) = .ok p) :
    p.getLast? = some (base ++ t.conventions.fileExtension) := by
  have hpart := isPart_append_extension ht (slash_notMem_of_module hbase)
  obtain ⟨above, last, -, hopen, happend⟩ := Path.exists_ofLocation_append (t.codePath ++ t.package ++ "/")
  have hlast : last = "" := hopen.1 (.inr (by simp))
  rw [fileName_eq, happend _ hpart.isInner, hlast, String.empty_append, Path.parts_of_isPart hpart] at hp
  exact Tree.getLast?_of_place hp List.getLast?_concat hpart.ne_up hpart.not_isRoot

/-- The modules have different files. -/
lemma fileName_methods_ne (t : Target) : t.fileName methodsModule ≠ t.fileName modelsModule := by
  rw [fileName, fileName]
  intro h
  have hbase : methodsModule.toList = modelsModule.toList := by simpa [String.ext_iff] using h
  exact absurd hbase (by decide)

/-- Different files of modules are in different places. -/
lemma place_ne (ht : t.KeepsExtension) (hname : t.IsModuleFile name) (hname' : t.IsModuleFile name')
    (hne : name ≠ name') (hp' : tree.place (Path.ofLocation name') = .ok p) :
    tree.place (Path.ofLocation name) ≠ .ok p := by
  intro hp
  obtain ⟨base, hbase, rfl⟩ := hname
  obtain ⟨base', hbase', rfl⟩ := hname'
  have hsame := (getLast?_of_place_fileName ht hbase hp).symm.trans (getLast?_of_place_fileName ht hbase' hp')
  exact hne (by rw [fileName_eq, fileName_eq, Option.some.inj hsame])

end Target

namespace Emitter

variable {e : Emitter} {name source : String} {src : Sources} {s s' : Emission} {r : Except Failure (List String)}
  {ws : List (String × String)} {f : Fault} {tree : Tree}

/-- The modules of some sources in order: the names of their files with their texts. -/
def modules (e : Emitter) (src : Sources) : List (String × String) :=
  [(e.target.fileName methodsModule, src.methods), (e.target.fileName modelsModule, src.models)]

/-- Why a module, given by the name of its file and its text, is not written, and what comes of it. -/
inductive Refuses (e : Emitter) (m : String × String) : Failure → Prop where
  /-- It is malformed, which is reported. -/
  | malformed :
    e.check ⟨m.2, e.halves⟩ = .malformed →
    Refuses e m (.output m.1 (some .malformedSource))
  /-- The system fails to store it, which is reported. -/
  | blocked {f : Fault} :
    e.accepts m.2 = true →
    f.isA "OSError" →
    Refuses e m (.output m.1 (some f))
  /-- The check of it fails, which is not reported. -/
  | unchecked {f : Fault} :
    e.check ⟨m.2, e.halves⟩ = .fails f →
    Refuses e m (.fault f)

/-- What a module comes to. -/
inductive ModuleEnds (e : Emitter) (name source : String) (s : Emission) : Except Failure String × Emission → Prop where
  | stored {s' : Emission} :
    e.accepts source = true →
    s'.written = s.written ++ [e.target.fileName name] →
    Tree.Stores [(e.target.fileName name, source)] s.tree s'.tree →
    ModuleEnds e name source s (.ok (e.target.fileName name), s')
  | refused {f : Failure} {s' : Emission} :
    e.Refuses (e.target.fileName name, source) f →
    s'.written = s.written →
    Tree.Stores [] s.tree s'.tree →
    ModuleEnds e name source s (.error f, s')

/-- If emitting a module ends with a fault, then this is the fault of its check. -/
def FaultsByCheck (e : Emitter) (name source : String) (s : Emission) : Prop :=
  ∀ f, ((e.emitModule name source).runFrom s).1 = .error (.fault f) → e.check ⟨source, e.halves⟩ = .fails f

/-- A module is stored and recorded, or its failure leaves everything as it was. -/
lemma moduleEnds_emitModule (hfaults : e.FaultsByCheck name source s) :
    e.ModuleEnds name source s ((e.emitModule name source).runFrom s) := by
  have h := e.emitsModule name source s
  rw [FaultsByCheck] at hfaults
  generalize (e.emitModule name source).runFrom s = r at h hfaults
  cases h with
  | fails hcheck => exact .refused (.unchecked hcheck) rfl (.refl _)
  | malformed hcheck => exact .refused (.malformed hcheck) rfl (.refl _)
  | @refused f _ haccepts hstore =>
    rw [storeFailure] at hfaults ⊢
    split at hfaults
    · next hf => exact .refused (by rw [if_pos hf]; exact .blocked haccepts hf) rfl (stores_of_store_error hf hstore)
    · cases (hfaults f rfl).symm.trans (accepts_iff.1 haccepts)
  | written haccepts hstore => exact .stored haccepts rfl (Tree.stores_of_write (write_of_store hstore))

/-- How a call ends after some of its modules were written. -/
inductive Ends (e : Emitter) (src : Sources) : List (String × String) → Except Failure (List String) → Prop where
  | complete :
    Ends e src (e.modules src) (.ok ((e.modules src).map Prod.fst))
  | stopped {ws : List (String × String)} {m rest f} :
    e.modules src = ws ++ m :: rest →
    e.Refuses m f →
    Ends e src ws (.error f)

/-- A call comes to the modules that it wrote: they have passed the check, their names are new in the record, their
texts are in their files, and nothing else has changed. -/
structure Records (e : Emitter) (src : Sources) (s s' : Emission) (r : Except Failure (List String))
    (ws : List (String × String)) : Prop where
  accepted : ∀ w ∈ ws, e.accepts w.2 = true
  recorded : s'.written = s.written ++ ws.map Prod.fst
  stored : Tree.Stores ws s.tree s'.tree
  ends : e.Ends src ws r

/-- A call writes the first modules, and stops at the first one that is refused. -/
theorem records_of_emit (ht : e.target.KeepsExtension) (hmethods : e.FaultsByCheck methodsModule src.methods s)
    (hmodels : ∀ file s₁, (e.emitModule methodsModule src.methods).runFrom s = (.ok file, s₁) →
      e.FaultsByCheck modelsModule src.models s₁)
    (h : (e.emit src).runFrom s = (r, s')) : ∃ ws, e.Records src s s' r ws := by
  have hmethods := moduleEnds_emitModule hmethods
  rw [emit, Emit.runFrom_bind] at h
  split at h
  · next methods s₁ hrun =>
    have hmodels := moduleEnds_emitModule (hmodels methods s₁ hrun)
    rw [hrun] at hmethods
    cases hmethods with
    | stored haccepts hwritten hstores =>
    rw [Emit.runFrom_bind] at h
    split at h
    · next models s₂ hrun' =>
      cases h
      rw [hrun'] at hmodels
      cases hmodels with
      | stored haccepts' hwritten' hstores' =>
      have hboth : Tree.Stores (e.modules src) s.tree s'.tree := by
        apply hstores.trans hstores'
        intro v hv w hw p hp
        obtain rfl := List.mem_singleton.1 hv
        obtain rfl := List.mem_singleton.1 hw
        exact Target.place_ne ht ⟨methodsModule, by simp⟩ ⟨modelsModule, by simp⟩ e.target.fileName_methods_ne hp
      exact ⟨_, by simp [modules, haccepts, haccepts'], by simp [modules, hwritten, hwritten'], hboth, .complete⟩
    · next f s₂ hrun' =>
      cases h
      rw [hrun'] at hmodels
      cases hmodels with
      | refused hrefuses hwritten' hstores' =>
      have hmodules : e.modules src =
          [(e.target.fileName methodsModule, src.methods)] ++ [(e.target.fileName modelsModule, src.models)] := rfl
      exact ⟨_, by simpa using haccepts, by simp [hwritten, hwritten'], hstores.trans hstores' (by simp),
        .stopped hmodules hrefuses⟩
  · next f s₁ hrun =>
    cases h
    rw [hrun] at hmethods
    cases hmethods with
    | refused hrefuses hwritten hstores =>
    have hmodules : e.modules src = [] ++ (e.target.fileName methodsModule, src.methods) ::
        [(e.target.fileName modelsModule, src.models)] := rfl
    exact ⟨[], by simp, by simp [hwritten], hstores, .stopped hmodules hrefuses⟩

/-- A call that does not end with a fault writes the first modules, and reports the first one that is refused. -/
theorem records_of_ne_fault (ht : e.target.KeepsExtension) (h : (e.emit src).runFrom s = (r, s'))
    (hr : ∀ f, r ≠ .error (.fault f)) : ∃ ws, e.Records src s s' r ws := by
  have hrun := congrArg Prod.fst h
  rw [emit, Emit.runFrom_bind] at hrun
  refine records_of_emit ht (fun f hf => ?_) (fun file s₁ hmethods f hf => ?_) h
  · rw [show (e.emitModule methodsModule src.methods).runFrom s = (.error (.fault f), _) from Prod.ext hf rfl] at hrun
    exact absurd hrun.symm (hr f)
  · rw [hmethods] at hrun
    dsimp only at hrun
    rw [Emit.runFrom_bind,
      show (e.emitModule modelsModule src.models).runFrom s₁ = (.error (.fault f), _) from Prod.ext hf rfl] at hrun
    exact absurd hrun.symm (hr f)

/-- A call ends with a fault just if the check of the first module fails that it does not write. -/
lemma Ends.eq_fault_iff (h : e.Ends src ws r) :
    r = .error (.fault f) ↔ ∃ m rest, e.modules src = ws ++ m :: rest ∧ e.check ⟨m.2, e.halves⟩ = .fails f := by
  cases h with
  | complete => simp
  | @stopped _ m rest _ hmodules hrefuses =>
    have hfirst {m' rest'} (hmodules' : e.modules src = ws ++ m' :: rest') : m' = m :=
      (List.cons.inj (List.append_cancel_left (hmodules'.symm.trans hmodules))).1
    constructor
    · intro hf
      obtain rfl := Except.error.inj hf
      cases hrefuses with
      | unchecked hcheck => exact ⟨m, rest, hmodules, hcheck⟩
    · rintro ⟨m', rest', hmodules', hcheck⟩
      obtain rfl := hfirst hmodules'
      cases hrefuses with
      | malformed hcheck' => cases hcheck.symm.trans hcheck'
      | blocked haccepts _ => cases hcheck.symm.trans (accepts_iff.1 haccepts)
      | unchecked hcheck' =>
        cases hcheck.symm.trans hcheck'
        rfl

/-! ## Failures of the system -/

/-- Wherever the same hinders as in a tree, a source that was accepted is not stored only if the system fails. -/
def FailsBySystem (e : Emitter) (tree : Tree) : Prop :=
  ∀ base ∈ [methodsModule, modelsModule], ∀ source (t : Tree) f t', t.hinders = tree.hinders →
    e.accepts source = true → e.store (e.target.fileName base) source t = (.error f, t') → f.isA "OSError"

/-- What is not stored only if the system fails stays so while a tree grows. -/
lemma FailsBySystem.mono {tree' : Tree} (h : e.FailsBySystem tree) (hgrows : tree.Grows tree') :
    e.FailsBySystem tree' := by
  rw [FailsBySystem, hgrows.hinders]
  exact h

/-- Where a module is not stored only if the system fails, a fault is that of its check. -/
lemma FailsBySystem.faultsByCheck (h : e.FailsBySystem s.tree) (hname : name ∈ [methodsModule, modelsModule])
    (source : String) : e.FaultsByCheck name source s := by
  intro f hf
  have hends := e.emitsModule name source s
  generalize (e.emitModule name source).runFrom s = r at hf hends
  cases hends with
  | fails hcheck =>
    cases hf
    exact hcheck
  | malformed _ => cases hf
  | refused haccepts hstore =>
    rw [storeFailure, if_pos (h name hname source s.tree _ _ rfl haccepts hstore)] at hf
    cases hf
  | written _ _ => cases hf

/-- Whole texts under names that can be written are not stored only if the system fails, where nothing else hinders. -/
lemma failsBySystem_of_whole (hwhole : e.halves = false)
    (hnames : ∀ base ∈ [methodsModule, modelsModule],
      Tree.isUnwritable (Path.ofLocation (e.target.fileName base)) = false)
    (hhinders : ∀ n p f, tree.hinders n p = some f → f.isA "OSError") : e.FailsBySystem tree := by
  intro base hbase source t f t' ht _ hstore
  have hstorable (text : String) : e.storeFault? text = none := by
    rw [storeFault?, hwhole, Text.HalvedText.storeProblem?_of_whole]
    rfl
  rw [store, hstorable, hstorable] at hstore
  exact Tree.isA_of_write_error (ht ▸ hhinders) (hnames base hbase) hstore

/-! ## Runs of calls -/

/-- What a call leaves behind. -/
def afterEmit (e : Emitter) (s : Emission) (src : Sources) : Emission := ((e.emit src).runFrom s).2

/-- What a run of calls leaves behind, whether they fail or not. -/
def afterEmits (e : Emitter) (s : Emission) (calls : List Sources) : Emission := calls.foldl e.afterEmit s

/-- The modules that a call has recorded. -/
def wrote (e : Emitter) (s : Emission) (src : Sources) : List (String × String) :=
  (e.modules src).take ((e.afterEmit s src).written.length - s.written.length)

/-- The modules that a run of calls has recorded, the oldest first. -/
def log (e : Emitter) (s : Emission) : List Sources → List (String × String)
  | [] => []
  | src :: calls => e.wrote s src ++ e.log (e.afterEmit s src) calls

/-- The first call of a run comes before the others. -/
lemma afterEmits_cons (s : Emission) (src : Sources) (calls : List Sources) :
    e.afterEmits s (src :: calls) = e.afterEmits (e.afterEmit s src) calls := rfl

/-- The first modules were written. -/
lemma Ends.exists_append (h : e.Ends src ws r) : ∃ rest, e.modules src = ws ++ rest := by
  cases h with
  | complete => exact ⟨[], (List.append_nil _).symm⟩
  | stopped hmodules _ => exact ⟨_, hmodules⟩

/-- What a call has recorded is what it has written. -/
lemma Records.wrote_eq (h : e.Records src s (e.afterEmit s src) r ws) : e.wrote s src = ws := by
  obtain ⟨rest, hmodules⟩ := h.ends.exists_append
  rw [Emitter.wrote, h.recorded, hmodules, List.length_append, Nat.add_sub_cancel_left, List.length_map,
    List.take_left]

/-- A call writes what it records. -/
lemma records_afterEmit (ht : e.target.KeepsExtension) (hsystem : e.FailsBySystem s.tree) (src : Sources) :
    e.Records src s (e.afterEmit s src) ((e.emit src).runFrom s).1 (e.wrote s src) := by
  have hrun : (e.emit src).runFrom s = (((e.emit src).runFrom s).1, e.afterEmit s src) := rfl
  have hmethods := hsystem.faultsByCheck List.mem_cons_self src.methods
  have hmodels (file : String) (s₁ : Emission)
      (hrun' : (e.emitModule methodsModule src.methods).runFrom s = (.ok file, s₁)) :
      e.FaultsByCheck modelsModule src.models s₁ := by
    have hends := moduleEnds_emitModule hmethods
    rw [hrun'] at hends
    cases hends with
    | stored _ _ hstores =>
      exact (hsystem.mono hstores.grows).faultsByCheck (List.mem_cons_of_mem _ List.mem_cons_self) _
  obtain ⟨ws, h⟩ := records_of_emit ht hmethods hmodels hrun
  rwa [← h.wrote_eq] at h

/-- What was written last under the name of a module is in its file. -/
structure Tells (e : Emitter) (known : List (String × String)) (tree : Tree) : Prop where
  names : ∀ w ∈ known, e.target.IsModuleFile w.1
  holds : ∀ name text, known.reverse.lookup name = some text → tree.lookup? name = some (.file text)

/-- Only modules are written. -/
lemma Records.isModuleFile (h : e.Records src s s' r ws) : ∀ w ∈ ws, e.target.IsModuleFile w.1 := by
  intro w hw
  obtain ⟨rest, hmodules⟩ := h.ends.exists_append
  have hw : w ∈ e.modules src := hmodules ▸ List.mem_append_left rest hw
  rcases List.mem_cons.1 hw with rfl | hw
  · exact ⟨methodsModule, by simp, rfl⟩
  · obtain rfl := List.mem_singleton.1 hw
    exact ⟨modelsModule, by simp, rfl⟩

/-- What the record tells stays true when a call adds to it. -/
lemma Tells.append {known : List (String × String)} (hknown : e.Tells known s.tree) (h : e.Records src s s' r ws)
    (ht : e.target.KeepsExtension) : e.Tells (known ++ ws) s'.tree where
  names w hw := (List.mem_append.1 hw).elim (hknown.names w) (h.isModuleFile w)
  holds name text hname := by
    rw [List.reverse_append, List.lookup_append, Option.or_eq_some_iff] at hname
    rcases hname with hnew | ⟨hnew, hname⟩
    -- the call has written the file
    · obtain ⟨front, behind, hws, -⟩ := List.lookup_eq_some_iff.1 hnew
      have hmem : (name, text) ∈ ws := List.mem_reverse.1 (hws ▸ by simp)
      exact h.stored.holds (name, text) hmem
    -- the call has written no file but those of other modules
    · obtain ⟨front, behind, hknown', -⟩ := List.lookup_eq_some_iff.1 hname
      have hmem : (name, text) ∈ known := List.mem_reverse.1 (hknown' ▸ by simp)
      apply h.stored.lookup?_eq (hknown.holds name text hname)
      intro w hw p hp
      have hne : name ≠ w.1 := by simpa using List.lookup_eq_none_iff.1 hnew w (List.mem_reverse.2 hw)
      exact Target.place_ne ht (hknown.names (name, text) hmem) (h.isModuleFile w hw) hne hp

/-- A run of calls records what it writes, and leaves the record telling the truth. -/
lemma tells_afterEmits (ht : e.target.KeepsExtension) (hsystem : e.FailsBySystem s.tree)
    {known : List (String × String)} (hknown : e.Tells known s.tree) (hwritten : s.written = known.map Prod.fst)
    (calls : List Sources) :
    e.Tells (known ++ e.log s calls) (e.afterEmits s calls).tree ∧
      (e.afterEmits s calls).written = (known ++ e.log s calls).map Prod.fst ∧
      e.FailsBySystem (e.afterEmits s calls).tree := by
  induction calls generalizing s known with
  | nil => simpa [log, afterEmits] using ⟨hknown, hwritten, hsystem⟩
  | cons src calls ih =>
    have h := records_afterEmit ht hsystem src
    have hwritten' : (e.afterEmit s src).written = (known ++ e.wrote s src).map Prod.fst := by
      rw [h.recorded, hwritten, List.map_append]
    rw [afterEmits_cons, log, ← List.append_assoc]
    exact ih (hsystem.mono h.stored.grows) (hknown.append h ht) hwritten'

/-- Whatever an emitter of files was called with before, and whether these calls failed or not: the next call records
exactly what it writes, which are the first modules, and gives their names if these are all. Or else it stops at the
first module that it does not write, without a change to the record or a file, and reports the file of this module,
unless the check of it fails: just then, it ends with the fault of the check. And under every name in the record, there
is the text that was last written. -/
theorem record_matches_files (ht : e.target.KeepsExtension) (hsystem : e.FailsBySystem tree) (calls : List Sources) :
    (∀ src, e.Records src (e.afterEmits { tree } calls) (e.afterEmit (e.afterEmits { tree } calls) src)
        ((e.emit src).runFrom (e.afterEmits { tree } calls)).1 (e.wrote (e.afterEmits { tree } calls) src) ∧
      ∀ f, ((e.emit src).runFrom (e.afterEmits { tree } calls)).1 = .error (.fault f) ↔
        ∃ m rest, e.modules src = e.wrote (e.afterEmits { tree } calls) src ++ m :: rest ∧
          e.check ⟨m.2, e.halves⟩ = .fails f) ∧
    (e.afterEmits { tree } calls).written = (e.log { tree } calls).map Prod.fst ∧
    ∀ name ∈ (e.afterEmits { tree } calls).written, ∃ text,
      (e.log { tree } calls).reverse.lookup name = some text ∧
        (e.afterEmits { tree } calls).tree.lookup? name = some (.file text) := by
  have hnothing : e.Tells [] ({ tree } : Emission).tree := ⟨nofun, nofun⟩
  obtain ⟨htells, hwritten, hsystem'⟩ := tells_afterEmits (s := { tree }) ht hsystem hnothing rfl calls
  rw [List.nil_append] at htells hwritten
  refine ⟨fun src => ?_, hwritten, fun name hname => ?_⟩
  · have hrecords := records_afterEmit ht hsystem' src
    exact ⟨hrecords, fun f => hrecords.ends.eq_fault_iff⟩
  · obtain ⟨w, hw, rfl⟩ := List.mem_map.1 (hwritten ▸ hname)
    have hlast : ((e.log { tree } calls).reverse.lookup w.1).isSome :=
      List.lookup_isSome_iff.2 ⟨w, List.mem_reverse.2 hw, by simp⟩
    obtain ⟨text, htext⟩ := Option.isSome_iff_exists.1 hlast
    exact ⟨text, htext, htells.holds _ _ htext⟩

/-- Sources that pass the check. -/
def sampleWhole : Sources := { methods := "x = 0\n", models := "y = 1\n" }

/-- A tree in which the disk is full for the sixth attempt. -/
def sampleFull : Tree where
  hinders n _ := if n = 5 then some (.raised "OSError" "[Errno 28] No space left on device") else none

/-- A full disk is a failure of the system. -/
lemma failsBySystem_sample : sampleEmitter.FailsBySystem sampleFull := by
  refine failsBySystem_of_whole rfl (by decide) fun n p f hf => ?_
  obtain ⟨-, hf⟩ := Option.ite_some_none_eq_some.1 hf
  subst hf
  decide

/-- What the calls of the sample have recorded. -/
lemma log_sample : sampleEmitter.log { tree := sampleFull } [sampleWhole, sampleHalf, sampleHalf] =
    [("./sdk/methods.py", "x = 0\n"), ("./sdk/models.py", "y = 1\n"), ("./sdk/methods.py", "x = 1\n")] := by
  rfl

/-- After a call that writes everything, one that writes nothing since the disk is full, and one that stops at the
models: the methods are those of the last call and the models those of the first one. -/
theorem record_matches_files_sample :
    sampleEmitter.target.KeepsExtension ∧ sampleEmitter.FailsBySystem sampleFull ∧
    (sampleEmitter.afterEmits { tree := sampleFull } [sampleWhole, sampleHalf, sampleHalf]).written =
      ["./sdk/methods.py", "./sdk/models.py", "./sdk/methods.py"] ∧
    (sampleEmitter.afterEmits { tree := sampleFull } [sampleWhole, sampleHalf, sampleHalf]).tree.lookup?
      "./sdk/methods.py" = some (.file "x = 1\n") ∧
    (sampleEmitter.afterEmits { tree := sampleFull } [sampleWhole, sampleHalf, sampleHalf]).tree.lookup?
      "./sdk/models.py" = some (.file "y = 1\n") := by
  have ht : sampleEmitter.target.KeepsExtension := rfl
  obtain ⟨-, hwritten, hfiles⟩ :=
    record_matches_files ht failsBySystem_sample [sampleWhole, sampleHalf, sampleHalf]
  rw [log_sample] at hwritten hfiles
  have htext (name text : String) (hname : name ∈ ["./sdk/methods.py", "./sdk/models.py", "./sdk/methods.py"])
      (hlast : [("./sdk/methods.py", "x = 1\n"), ("./sdk/models.py", "y = 1\n"),
        ("./sdk/methods.py", "x = 0\n")].lookup name = some text) :
      (sampleEmitter.afterEmits { tree := sampleFull } [sampleWhole, sampleHalf, sampleHalf]).tree.lookup? name =
        some (.file text) := by
    obtain ⟨text', htext', hfile⟩ := hfiles name (hwritten ▸ hname)
    rw [hfile, Option.some.inj (htext'.symm.trans hlast)]
  exact ⟨ht, failsBySystem_sample, hwritten, htext _ _ (by decide) (by decide), htext _ _ (by decide) (by decide)⟩

/-- A Python source with half of a character in it. -/
def sampleHalved : Sources where
  methods := "x = '" ++ String.singleton (Text.standIn 0xD800) ++ "'\n"
  models := "y = 1\n"

/-- Such a source cannot be compiled, and no file is named in the failure. -/
theorem not_record_matches_files :
    (({ sampleEmitter with halves := true }.emit sampleHalved).runFrom { tree := {} }).1 =
      .error (.fault (.raised "UnicodeEncodeError"
        "'utf-8' codec can't encode character '\\ud800' in position 5: surrogates not allowed")) := by
  rfl

end Emitter
end SdkGen
