import Mathlib.Control.Monad.Basic
import SdkGen.Loading
import SdkGen.Proofs.Command.Run

/-!
# What loading a model comes to

Loading a model takes four stages: the path is taken apart, the module is imported, its attribute is asked for, and a
factory is run. Each stage counts other faults as a failure to load. The ones that no stage counts escape: a module that
is relative, one that fails while it is imported, and a stand-in for missing attributes that cannot be run.

Main statements: `imports_importModule` (a module is imported after the modules above it), `reported_or_escapes` and
`load_reported_iff` (a failure to load is reported as such unless it escapes).
-/

namespace SdkGen

namespace Loading

variable {modules : Modules}

/-! ## Importing modules -/

/-- What a module that is yet to be imported comes to by itself. -/
inductive Runs (modules : Modules) (name : String) : Except Fault (Dict String Member) → Prop where
  | code {r} :
    modules.get? name = some (.code r) →
    Runs modules name r
  | absent :
    modules.get? name = none →
    Runs modules name (.error (.missingModule name none))

/-- What importing a module comes to, which is given by the parts of its name from the last to the first. -/
inductive Imports (modules : Modules) : List String → Except Fault (Dict String Member) → Prop where
  /-- It has been imported by then, and those above it do not matter. -/
  | known {parts table} :
    modules.get? (moduleName parts) = some (.members table) →
    Imports modules parts (.ok table)
  | top {parts r} :
    parts.length ≤ 1 →
    Runs modules (moduleName parts) r →
    Imports modules parts r
  /-- The module above it cannot be imported. -/
  | stopped {part next above f} :
    isImported modules (moduleName (part :: next :: above)) = false →
    Imports modules (next :: above) (.error f) →
    Imports modules (part :: next :: above) (.error f)
  /-- The module above it cannot have parts. -/
  | noPackage {part next above table f} :
    isImported modules (moduleName (part :: next :: above)) = false →
    Imports modules (next :: above) (.ok table) →
    Module.partFault? table (moduleName (next :: above)) (moduleName (part :: next :: above)) = some f →
    Imports modules (part :: next :: above) (.error f)
  | inPackage {part next above table r} :
    Runs modules (moduleName (part :: next :: above)) r →
    Imports modules (next :: above) (.ok table) →
    Module.partFault? table (moduleName (next :: above)) (moduleName (part :: next :: above)) = none →
    Imports modules (part :: next :: above) r

/-- A module has been imported just if its attributes are there. -/
lemma isImported_iff {name : String} :
    isImported modules name = true ↔ ∃ table, modules.get? name = some (.members table) := by
  rw [isImported]
  rcases modules.get? name with _ | _ | _ <;> simp

/-- A module that is yet to be imported runs by itself. -/
lemma runs_byItself {name : String} (h : isImported modules name = false) :
    Runs modules name (byItself modules name) := by
  rw [byItself]
  split
  · next table hget =>
    rw [isImported_iff.2 ⟨table, hget⟩] at h
    cases h
  · next hget => exact .code hget
  · next hget => exact .absent hget

/-- By itself, a module comes to one thing only. -/
lemma Runs.byItself_eq {name : String} {r : Except Fault (Dict String Member)} (h : Runs modules name r) :
    byItself modules name = r := by
  cases h with
  | code hget | absent hget => rw [byItself, hget]

/-- A module that runs is yet to be imported. -/
lemma Runs.isImported_eq {name : String} {r : Except Fault (Dict String Member)} (h : Runs modules name r) :
    isImported modules name = false := by
  cases h with
  | code hget | absent hget => rw [isImported, hget]

/-- A module that was imported gives its attributes. -/
lemma byItself_of_members {name : String} {table : Dict String Member} (h : modules.get? name = some (.members table)) :
    byItself modules name = .ok table := by
  rw [byItself, h]

/-- Modules without others above them are imported by themselves. -/
lemma imports_byItself {parts : List String} (hparts : parts.length ≤ 1) :
    Imports modules parts (byItself modules (moduleName parts)) := by
  cases h : isImported modules (moduleName parts) with
  | true =>
    obtain ⟨table, hget⟩ := isImported_iff.1 h
    rw [byItself_of_members hget]
    exact .known hget
  | false => exact .top hparts (runs_byItself h)

/-- A module is imported after the modules above it. -/
theorem imports_importModule (modules : Modules) (name : String) :
    Imports modules (nameParts name) (importModule modules name) := by
  rw [importModule]
  generalize nameParts name = parts
  induction parts with
  | nil => exact imports_byItself (Nat.zero_le _)
  | cons part above ih =>
    cases above with
    | nil =>
      have hname : moduleName [part] = part := rfl
      have h : Imports modules [part] (byItself modules (moduleName [part])) := imports_byItself (Nat.le_refl _)
      rwa [hname] at h
    | cons next above =>
      rw [importParts]
      cases h : isImported modules (moduleName (part :: next :: above)) with
      | true =>
        obtain ⟨table, hget⟩ := isImported_iff.1 h
        rw [if_pos rfl, byItself_of_members hget]
        exact .known hget
      | false =>
        rw [if_neg Bool.false_ne_true]
        cases habove : importParts modules (next :: above) with
        | error f =>
          rw [habove] at ih
          exact .stopped h ih
        | ok table =>
          rw [habove] at ih
          cases hpart : Module.partFault? table (moduleName (next :: above)) (moduleName (part :: next :: above)) with
          | some f =>
            simp only [bind, Except.bind, hpart]
            exact .noPackage h ih hpart
          | none =>
            simp only [bind, Except.bind, hpart]
            exact .inPackage (runs_byItself h) ih hpart

/-- Importing a module comes to one thing only. -/
lemma Imports.importParts_eq {parts : List String} {r : Except Fault (Dict String Member)}
    (h : Imports modules parts r) : importParts modules parts = r := by
  induction h with
  | @known parts table hget =>
    match parts with
    | [] => exact byItself_of_members hget
    | [part] => exact byItself_of_members hget
    | part :: next :: above =>
      rw [importParts]
      exact (if_pos (isImported_iff.2 ⟨table, hget⟩)).trans (byItself_of_members hget)
  | @top parts r hparts hruns =>
    match parts with
    | [] => exact hruns.byItself_eq
    | [part] => exact hruns.byItself_eq
    | part :: next :: above => simp at hparts
  | stopped himported _ ih =>
    rw [importParts, ih]
    exact if_neg (by simp [himported])
  | noPackage himported _ hpart ih =>
    rw [importParts, ih]
    simp only [himported, Bool.false_eq_true, if_false, bind, Except.bind, hpart]
    rfl
  | inPackage hruns _ hpart ih =>
    rw [importParts, ih]
    simp only [hruns.isImported_eq, Bool.false_eq_true, if_false, bind, Except.bind, hpart]
    exact hruns.byItself_eq

/-! ## Loading a model -/

/-- A path consists of the name of a module and that of an attribute of it. -/
def Names (path name member : String) : Prop := splitPath path = (name, member) ∧ name ≠ "" ∧ member ≠ ""

instance (path name member : String) : Decidable (Names path name member) :=
  inferInstanceAs (Decidable (splitPath path = (name, member) ∧ name ≠ "" ∧ member ≠ ""))

/-- The path leads to an attribute of a module. -/
def LeadsTo (modules : Modules) (path : String) (found : Member) : Prop :=
  ∃ name member table, Names path name member ∧ name.startsWith "." = false ∧
    Imports modules (nameParts name) (.ok table) ∧ Module.lookup table name member = .ok found

/-- The faults on the way to a model that are no failure to load. -/
inductive Escapes (modules : Modules) (path : String) : Fault → Prop where
  /-- The name of the module is relative to another one. -/
  | relative {name member} :
    Names path name member →
    name.startsWith "." →
    Escapes modules path (.relativeImport name)
  /-- The module cannot be imported, though neither a module nor an attribute is missing. -/
  | importing {name member f} :
    Names path name member →
    name.startsWith "." = false →
    Imports modules (nameParts name) (.error f) →
    isImportFault f = false →
    Escapes modules path f
  /-- The module has something for attributes that are missing, and it cannot be run. -/
  | standIn {name member table f} :
    Names path name member →
    name.startsWith "." = false →
    Imports modules (nameParts name) (.ok table) →
    Module.lookup table name member = .error f →
    isImportFault f = false →
    Escapes modules path f
  /-- The factory ends more than the loading. -/
  | ending {f} :
    LeadsTo modules path (.factory (.error f)) →
    endsAll f →
    Escapes modules path f

/-- A load is reported: there is a model, or else a failure to load that names the path and has a cause. -/
def Reported (path : String) (r : Except Failure Model) : Prop :=
  (∃ m, r = .ok m) ∨ ∃ cause, r = .error (.modelLoad path (some cause))

section Stages

variable {path name member : String} {f : Fault}

/-- A relative name leads to no module. -/
lemma findMember_of_relative (h : name.startsWith ".") :
    findMember modules name member = .error (.relativeImport name) := by
  rw [findMember, if_pos h]
  rfl

/-- What an absolute path leads to is what the module gives, if there is one. -/
lemma findMember_of_imports {r : Except Fault (Dict String Member)} (h : name.startsWith "." = false)
    (hr : Imports modules (nameParts name) r) :
    findMember modules name member = r >>= (Module.lookup · name member) := by
  rw [findMember, if_neg (by simp [h]), importModule, hr.importParts_eq]

/-- The attribute that a path leads to is found. -/
lemma LeadsTo.exists_findMember {found : Member} (h : LeadsTo modules path found) :
    ∃ name member, Names path name member ∧ findMember modules name member = .ok found := by
  obtain ⟨name, member, table, hnames, habsolute, himports, hlookup⟩ := h
  refine ⟨name, member, hnames, ?_⟩
  rw [findMember_of_imports habsolute himports]
  exact hlookup

/-- A load fails as its first stages do, if they do. -/
lemma load_of_findMember_error (h : Names path name member) (hf : findMember modules name member = .error f) :
    load modules path = .error (if isImportFault f then .modelLoad path (some f) else .fault f) := by
  obtain ⟨hsplit, hname, hmember⟩ := h
  simp [load, hsplit, hname, hmember, hf]

/-- A load comes to what its path leads to. -/
lemma load_of_findMember_ok {found : Member} (h : Names path name member)
    (hfound : findMember modules name member = .ok found) :
    load modules path = match found with
      | .held (.model m) | .factory (.ok (.model m)) => .ok m
      | .held (.value v) | .factory (.ok (.value v)) => .error (.modelLoad path (some (.notAModel v.kindName)))
      | .factory (.error f) => .error (if endsAll f then .fault f else .modelLoad path (some f)) := by
  obtain ⟨hsplit, hname, hmember⟩ := h
  simp only [load, hsplit, hname, hmember, hfound]
  rcases found with (_ | _) | (_ | _ | _) <;> rfl

/-- A fault that escapes is what loading ends with. -/
lemma Escapes.load_eq (h : Escapes modules path f) : load modules path = .error (.fault f) := by
  cases h with
  | relative hnames hrelative =>
    rw [load_of_findMember_error hnames (findMember_of_relative hrelative)]
    rfl
  | importing hnames habsolute himports hf =>
    rw [load_of_findMember_error hnames (findMember_of_imports habsolute himports), if_neg (by simp [hf])]
  | standIn hnames habsolute himports hlookup hf =>
    rw [load_of_findMember_error hnames ((findMember_of_imports habsolute himports).trans hlookup),
      if_neg (by simp [hf])]
  | ending hleads hf =>
    obtain ⟨name, member, hnames, hfound⟩ := hleads.exists_findMember
    rw [load_of_findMember_ok hnames hfound]
    exact congrArg _ (if_pos hf)

/-- Unless a path leads to an attribute, it fails for a fault that is counted or escapes. -/
lemma findMember_cases (modules : Modules) (h : Names path name member) :
    (∃ found, findMember modules name member = .ok found ∧ LeadsTo modules path found) ∨
      ∃ f, findMember modules name member = .error f ∧ (isImportFault f ∨ Escapes modules path f) := by
  by_cases hrelative : name.startsWith "."
  · exact .inr ⟨_, findMember_of_relative hrelative, .inr (.relative h hrelative)⟩
  have habsolute : name.startsWith "." = false := by simpa using hrelative
  have himports := imports_importModule modules name
  cases hr : importModule modules name with
  | error f =>
    rw [hr] at himports
    have hfind : findMember modules name member = .error f := findMember_of_imports habsolute himports
    cases hf : isImportFault f with
    | true => exact .inr ⟨f, hfind, .inl hf⟩
    | false => exact .inr ⟨f, hfind, .inr (.importing h habsolute himports hf)⟩
  | ok table =>
    rw [hr] at himports
    have hfind : findMember modules name member = Module.lookup table name member :=
      findMember_of_imports habsolute himports
    cases hlookup : Module.lookup table name member with
    | ok found => exact .inl ⟨found, hfind.trans hlookup, name, member, table, h, habsolute, himports, hlookup⟩
    | error f =>
      cases hf : isImportFault f with
      | true => exact .inr ⟨f, hfind.trans hlookup, .inl hf⟩
      | false => exact .inr ⟨f, hfind.trans hlookup, .inr (.standIn h habsolute himports hlookup hf)⟩

/-- A path that names no attribute is reported. -/
lemma load_of_not_names (modules : Modules) (h : ¬∃ name member, Names path name member) :
    load modules path = .error (.modelLoad path (some .emptyImportPart)) := by
  rw [load]
  apply if_pos
  apply Decidable.byContradiction
  intro hparts
  exact h ⟨_, _, rfl, not_or.1 hparts⟩

/-- Whatever goes wrong with a load, it is reported or escapes. -/
lemma reported_or_escapes (modules : Modules) (path : String) :
    Reported path (load modules path) ∨ ∃ f, Escapes modules path f := by
  by_cases hnames : ∃ name member, Names path name member
  · obtain ⟨name, member, hnames⟩ := hnames
    rcases findMember_cases modules hnames with ⟨found, hfind, hleads⟩ | ⟨f, hfind, hf | hf⟩
    · have hload := load_of_findMember_ok hnames hfind
      rcases found with (m | v) | (f | m | v)
      · exact .inl (.inl ⟨m, hload⟩)
      · exact .inl (.inr ⟨_, hload⟩)
      · cases hf : endsAll f with
        | true => exact .inr ⟨f, .ending hleads hf⟩
        | false =>
          dsimp only at hload
          rw [hf] at hload
          exact .inl (.inr ⟨f, hload⟩)
      · exact .inl (.inl ⟨m, hload⟩)
      · exact .inl (.inr ⟨_, hload⟩)
    · have hload := load_of_findMember_error hnames hfind
      rw [if_pos hf] at hload
      exact .inl (.inr ⟨f, hload⟩)
    · exact .inr ⟨f, hf⟩
  · exact .inl (.inr ⟨_, load_of_not_names modules hnames⟩)

end Stages

/-- The configuration file of such a workspace. -/
def sampleDocument (path : String) : String := "model: " ++ path ++ "\ntargets: []\n"

/-- A workspace with a configuration that names a model, and without modules. -/
def sampleWorkspace (path : String) : Workspace where
  files := [("polysdk.yaml", some (sampleDocument path))]

/-- A host that knows the configuration file for a path. -/
def sampleHost (path : String) : Host :=
  .knowing [(sampleDocument path, .record [("model", .text path), ("targets", .list [])])]

/-- A module whose code fails for a reason of its own. -/
def sampleModules : Modules := .ofList [("m", .code (.error (.raised "ValueError" "no such table")))]

end Loading
end SdkGen
