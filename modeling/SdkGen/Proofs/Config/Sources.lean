import Mathlib.Control.Monad.Basic
import SdkGen.Config.Sources

/-!
# What the sources of configurations come to

A configuration is asked for by a path, or else the first of a few places in the working directory is where it comes
from. Only then is anything read. What is wrong with a document is reported together with its place, but the way to the
document is not safe in the same measure: a directory may stand in the place of a file, the entry of the project file
for all tools may be anything but a table, and a mapping may have keys that are no texts.

Main statements: `Readers.get_eq_fromOrigin` (where a configuration comes from is settled before anything is read),
`Readers.get_reported_iff` (a failure to configure is reported unless a fault escapes).
-/

namespace SdkGen.Config

/-! ## Origins -/

/-- Where a configuration comes from. -/
inductive Origin where
  /-- A path that leads nowhere. -/
  | missing (path : String)
  /-- A path that nothing can have. -/
  | tooLong (path : String)
  /-- What is there for a path, which is shown in a normal form. -/
  | document (entry : Entry) (shown path : String)
  /-- The project file. -/
  | project (entry : Entry) (path : String)
  /-- No file at all. -/
  | nothing
deriving DecidableEq

/-- Where a configuration that is asked for comes from. -/
def askedOrigin (t : Tree) (path : String) : Origin :=
  match t.look (Path.ofText path) with
  | .error .tooLong => .tooLong path
  | .error _ => .missing path
  | .ok entry => .document entry (Path.ofText path).text path

/-- Where a configuration comes from that is not asked for. -/
def defaultOrigin (t : Tree) (cwd : String) : Origin :=
  match defaultFiles.find? t.contains with
  | some name => .document ((t.lookup? name).getD .directory) (cwd ++ "/" ++ name) (cwd ++ "/" ++ name)
  | none =>
    match t.lookup? projectFile with
    | some entry => .project entry (cwd ++ "/" ++ projectFile)
    | none => .nothing

/-- Where the configuration for a path comes from, or that from the default places if there is no path. -/
def origin (t : Tree) (cwd : String) (path : Option String) : Origin :=
  match path.getD "" with
  | "" => defaultOrigin t cwd
  | path => askedOrigin t path

/-! ## The project file -/

/-- What the entry for all tools may be in place of a table. -/
inductive Misplaces : Value → Fault → Prop where
  /-- A text in which the name of the table occurs. -/
  | text {s} :
    (s.splitOn "polysdk").length > 1 →
    Misplaces (.text s) .fieldOfText
  /-- A list with the name of the table. -/
  | list {items v} :
    v ∈ items →
    v.text? = some "polysdk" →
    Misplaces (.list items) .fieldOfList
  /-- Something that cannot be looked through. -/
  | other {v} :
    (∀ entries, v ≠ .map entries) →
    (∀ s, v ≠ .text s) →
    (∀ items, v ≠ .list items) →
    Misplaces v (.noMembers v.kindName)

/-- What is found in a project file that has no entry for all tools, or something else in its place. -/
lemma projectTable?_of_misplaces {project tool : Value} {f : Fault} (htool : project.field? "tool" = some tool)
    (h : Misplaces tool f) : projectTable? project = .error (.fault f) := by
  rw [projectTable?, htool, Option.getD_some]
  cases h with
  | text hname => exact if_pos hname
  | list hmem hname => exact if_pos (List.any_eq_true.2 ⟨_, hmem, by simpa using hname⟩)
  | other hmap htext hlist =>
    split
    · exact absurd rfl (hmap _)
    · exact absurd rfl (htext _)
    · exact absurd rfl (hlist _)
    · rfl

/-- A project file is looked through, unless something else is in the place of the tools. -/
lemma projectTable?_cases (project : Value) :
    (∃ found, projectTable? project = .ok found) ∨ ∃ tool f, project.field? "tool" = some tool ∧ Misplaces tool f := by
  rw [projectTable?]
  cases htool : project.field? "tool" with
  | none => exact .inl ⟨_, rfl⟩
  | some tool =>
    rw [Option.getD_some]
    split
    · exact .inl ⟨_, rfl⟩
    · split
      · next hname => exact .inr ⟨_, _, rfl, .text hname⟩
      · exact .inl ⟨_, rfl⟩
    · split
      · next hname =>
        obtain ⟨v, hmem, hname⟩ := List.any_eq_true.1 hname
        exact .inr ⟨_, _, rfl, .list hmem (by simpa using hname)⟩
      · exact .inl ⟨_, rfl⟩
    · next hmap htext hlist => exact .inr ⟨tool, _, rfl, .other hmap htext hlist⟩

namespace Readers

/-! ## What comes of an origin -/

/-- The configuration that comes from somewhere. -/
def fromOrigin (r : Readers) (t : Tree) (env : Environment) (cwd : String) : Origin → Except Failure Configuration
  | .missing path => .error (.configuration "Configuration file not found" (some path) none)
  | .tooLong path => .error (.fault (.nameTooLong (Path.ofText path).text))
  | .document entry shown path => do r.ofYaml t env (← fileText entry shown) path
  | .project entry path => do
    match ← r.ofProject t env (← fileText entry path) path with
    | some c => return c
    | none => .error (.configuration "Configuration not found" (some cwd) none)
  | .nothing => .error (.configuration "Configuration not found" (some cwd) none)

/-- Where a configuration comes from is settled before anything is read. -/
theorem get_eq_fromOrigin (r : Readers) (t : Tree) (env : Environment) (cwd : String) (path : Option String) :
    r.get t env cwd path = r.fromOrigin t env cwd (origin t cwd path) := by
  have hdirectory : r.ofDirectory t env cwd = r.fromOrigin t env cwd (defaultOrigin t cwd) := by
    simp only [ofDirectory, defaultOrigin]
    cases defaultFiles.find? t.contains with
    | some name => rfl
    | none => cases t.lookup? projectFile <;> rfl
  rw [get, origin]
  generalize path.getD "" = asked
  split
  · exact hdirectory
  · next hne =>
    simp only [askedOrigin]
    cases t.look (Path.ofText asked) with
    | error obstacle => cases obstacle <;> rfl
    | ok entry => rfl

/-- The document of a configuration that comes from somewhere. -/
inductive Describes (r : Readers) : Origin → Value → Prop where
  /-- It is all of a YAML file. -/
  | document {text shown path v} :
    r.yaml (Text.unifiedLines text) = .ok v →
    Describes r (.document (.file text) shown path) v
  /-- It is a table of the project file. -/
  | project {text path project v} :
    r.toml (Text.unifiedLines text) = .ok project →
    projectTable? project = .ok (some v) →
    Describes r (.project (.file text) path) v

/-- The path that decides on a configuration: that of the file, or else the working directory. -/
inductive Decides (r : Readers) (cwd : String) : Origin → String → Prop where
  | missing {path} : Decides r cwd (.missing path) path
  | document {entry shown path} : Decides r cwd (.document entry shown path) path
  /-- The project file decides if it is not well formed … -/
  | malformed {text path} :
    r.toml (Text.unifiedLines text) = .error .malformed →
    Decides r cwd (.project (.file text) path) path
  /-- … or if it has the table. -/
  | project {entry path v} :
    r.Describes (.project entry path) v →
    Decides r cwd (.project entry path) path
  | passedOver {text path project} :
    r.toml (Text.unifiedLines text) = .ok project →
    projectTable? project = .ok none →
    Decides r cwd (.project (.file text) path) cwd
  | nothing : Decides r cwd .nothing cwd

section Origins

variable {r : Readers} {t : Tree} {env : Environment} {cwd : String} {o : Origin}

/-- What comes of a YAML file is what comes of its text. -/
lemma fromOrigin_document (text shown path : String) :
    r.fromOrigin t env cwd (.document (.file text) shown path) = r.ofYaml t env (Text.unifiedLines text) path := by
  rw [fromOrigin, fileText]
  rfl

/-- What comes of a project file is what comes of its text, if that is not passed over. -/
lemma fromOrigin_project (text path : String) :
    r.fromOrigin t env cwd (.project (.file text) path) =
      r.ofProject t env (Text.unifiedLines text) path >>= fun found => match found with
        | some c => return c
        | none => .error (.configuration "Configuration not found" (some cwd) none) := by
  rw [fromOrigin, fileText]
  rfl

/-- What comes of a document is what comes of its value. -/
lemma fromOrigin_of_document {text shown path : String} {v : Value} (h : r.yaml (Text.unifiedLines text) = .ok v) :
    r.fromOrigin t env cwd (.document (.file text) shown path) = r.validate t env v path := by
  rw [fromOrigin_document, ofYaml, h]

/-- What comes of a project file is what comes of its table. -/
lemma fromOrigin_of_project {text path : String} {project v : Value}
    (h : r.toml (Text.unifiedLines text) = .ok project) (htable : projectTable? project = .ok (some v)) :
    r.fromOrigin t env cwd (.project (.file text) path) = r.validate t env v path := by
  have hproject : r.ofProject t env (Text.unifiedLines text) path = some <$> r.validate t env v path := by
    rw [ofProject, h]
    dsimp only
    rw [htable]
    rfl
  rw [fromOrigin_project, hproject]
  cases r.validate t env v path <;> rfl

/-- A document with its place makes the configuration. -/
lemma fromOrigin_eq_validate {v : Value} {place : String} (hdescribes : r.Describes o v)
    (hdecides : r.Decides cwd o place) : r.fromOrigin t env cwd o = r.validate t env v place := by
  cases hdescribes with
  | document hparse =>
    cases hdecides
    exact fromOrigin_of_document hparse
  | project hparse htable =>
    cases hdecides with
    | malformed hmalformed => cases hparse.symm.trans hmalformed
    | project => exact fromOrigin_of_project hparse htable
    | passedOver hparse' hnone =>
      cases hparse.symm.trans hparse'
      cases htable.symm.trans hnone

end Origins

/-! ## What is reported and what escapes -/

/-- A configuration is reported: there is one, or else a failure that names a place. -/
def Reported (place : String) (found : Except Failure Configuration) : Prop :=
  (∃ c, found = .ok c) ∨ ∃ text field, found = .error (.configuration text (some place) field)

/-- A mapping has a key that is no text. -/
def HasOtherKey (entries : List (Value × Value)) : Prop := ∃ e ∈ entries, e.1.halvedText? = none

/-- Readers that fail as they are said to do: a document is read or is not well formed, and it makes a configuration or
is wrong. Only a mapping with a key that is no text is none of both, since its entries are named arguments. -/
structure Regular (r : Readers) : Prop where
  yaml : ∀ document f, r.yaml document ≠ .error (.fault f)
  toml : ∀ document f, r.toml document ≠ .error (.fault f)
  settings : ∀ t env v f, r.settings t env v = .error (.fault f) → ∃ entries, v = .map entries ∧ HasOtherKey entries
  keys : ∀ t env entries, HasOtherKey entries → r.settings t env (.map entries) = .error (.fault .keyNotText)

/-- The faults on the way to a configuration that are not reported. -/
inductive Escapes (r : Readers) : Origin → Fault → Prop where
  /-- Nothing can have the path. -/
  | tooLong {path} : Escapes r (.tooLong path) (.nameTooLong (Path.ofText path).text)
  /-- A directory stands in the place of the file. -/
  | directory {shown path} : Escapes r (.document .directory shown path) (.isADirectory shown)
  | projectDirectory {path} : Escapes r (.project .directory path) (.isADirectory path)
  /-- The project file has something else in the place of the table for all tools. -/
  | tools {text path project tool f} :
    r.toml (Text.unifiedLines text) = .ok project →
    project.field? "tool" = some tool →
    Misplaces tool f →
    Escapes r (.project (.file text) path) f
  /-- The document is a mapping with a key that is no text. -/
  | keys {o entries} :
    r.Describes o (.map entries) →
    HasOtherKey entries →
    Escapes r o .keyNotText

section Reports

variable {r : Readers} {t : Tree} {env : Environment} {cwd : String} {o : Origin} {f : Fault}

/-- What escapes is what comes of the origin. -/
lemma Escapes.fromOrigin_eq (hr : r.Regular) (h : r.Escapes o f) : r.fromOrigin t env cwd o = .error (.fault f) := by
  have hkeys {entries} (hkey : HasOtherKey entries) (path : String) :
      r.validate t env (.map entries) path = .error (.fault .keyNotText) := by
    rw [validate, hr.keys t env entries hkey]
    rfl
  cases h with
  | tooLong => rfl
  | directory => rfl
  | projectDirectory => rfl
  | tools hparse htool hmisplaces =>
    rw [fromOrigin_project, ofProject, hparse]
    dsimp only
    rw [projectTable?_of_misplaces htool hmisplaces]
    rfl
  | keys hdescribes hkey =>
    cases hdescribes with
    | document hparse => rw [fromOrigin_of_document hparse, hkeys hkey]
    | project hparse htable => rw [fromOrigin_of_project hparse htable, hkeys hkey]

/-- A document is reported, unless it is a mapping with a key that is no text. -/
lemma Regular.reported_or_hasOtherKey (hr : r.Regular) (t : Tree) (env : Environment) (v : Value) (path : String) :
    Reported path (r.validate t env v path) ∨ ∃ entries, v = .map entries ∧ HasOtherKey entries := by
  rw [validate]
  cases hsettings : r.settings t env v with
  | ok c => exact .inl (.inl ⟨c, rfl⟩)
  | error trouble =>
    cases trouble with
    | mistake m => exact .inl (.inr ⟨_, _, rfl⟩)
    | fault f => exact .inr (hr.settings t env v f hsettings)

/-- A document that describes a configuration is reported with the path that decides, or has a key that escapes. -/
lemma Regular.decides_or_escapes_of_describes (hr : r.Regular) (t : Tree) (env : Environment) {v : Value}
    {place : String} (hdescribes : r.Describes o v) (hdecides : r.Decides cwd o place) :
    (∃ place, r.Decides cwd o place ∧ Reported place (r.fromOrigin t env cwd o)) ∨ ∃ f, r.Escapes o f := by
  rcases hr.reported_or_hasOtherKey t env v place with hreported | ⟨entries, rfl, hkey⟩
  · rw [← fromOrigin_eq_validate hdescribes hdecides] at hreported
    exact .inl ⟨place, hdecides, hreported⟩
  · exact .inr ⟨_, .keys hdescribes hkey⟩

/-- Whatever is wrong with an origin, it is reported with the path that decides, or escapes. -/
lemma Regular.decides_or_escapes (hr : r.Regular) (t : Tree) (env : Environment) (cwd : String) (o : Origin) :
    (∃ place, r.Decides cwd o place ∧ Reported place (r.fromOrigin t env cwd o)) ∨ ∃ f, r.Escapes o f := by
  cases o with
  | missing path => exact .inl ⟨path, .missing, .inr ⟨_, _, rfl⟩⟩
  | tooLong path => exact .inr ⟨_, .tooLong⟩
  | nothing => exact .inl ⟨cwd, .nothing, .inr ⟨_, _, rfl⟩⟩
  | document entry shown path =>
    cases entry with
    | directory => exact .inr ⟨_, .directory⟩
    | file text =>
      cases hparse : r.yaml (Text.unifiedLines text) with
      | ok v => exact hr.decides_or_escapes_of_describes t env (.document hparse) .document
      | error problem =>
        cases problem with
        | fault f => exact absurd hparse (hr.yaml _ f)
        | malformed =>
          refine .inl ⟨path, .document, .inr ⟨"Invalid YAML: the document is not well formed", none, ?_⟩⟩
          rw [fromOrigin_document, ofYaml, hparse]
  | project entry path =>
    cases entry with
    | directory => exact .inr ⟨_, .projectDirectory⟩
    | file text =>
      cases hparse : r.toml (Text.unifiedLines text) with
      | error problem =>
        cases problem with
        | fault f => exact absurd hparse (hr.toml _ f)
        | malformed =>
          refine .inl ⟨path, .malformed hparse, .inr ⟨"Invalid TOML: the document is not well formed", none, ?_⟩⟩
          rw [fromOrigin_project, ofProject, hparse]
          rfl
      | ok project =>
        rcases projectTable?_cases project with ⟨_ | v, htable⟩ | ⟨tool, f, htool, hmisplaces⟩
        · refine .inl ⟨cwd, .passedOver hparse htable, .inr ⟨"Configuration not found", none, ?_⟩⟩
          rw [fromOrigin_project, ofProject, hparse]
          dsimp only
          rw [htable]
          rfl
        · exact hr.decides_or_escapes_of_describes t env (.project hparse htable) (.project (.project hparse htable))
        · exact .inr ⟨f, .tools hparse htool hmisplaces⟩

end Reports

/-- The configuration for any path and any files is reported with the path that decides on it, unless a fault escapes;
this is then what asking for the configuration ends with. -/
theorem get_reported_iff {r : Readers} (hr : r.Regular) (t : Tree) (env : Environment) (cwd : String)
    (path : Option String) :
    ((∃ place, r.Decides cwd (origin t cwd path) place ∧ Reported place (r.get t env cwd path)) ↔
      ∀ f, ¬r.Escapes (origin t cwd path) f) ∧
    ∀ f, r.Escapes (origin t cwd path) f → r.get t env cwd path = .error (.fault f) := by
  rw [get_eq_fromOrigin]
  refine ⟨⟨?_, fun hescapes => ?_⟩, fun f => Escapes.fromOrigin_eq hr⟩
  · rintro ⟨place, -, ⟨c, hget⟩ | ⟨text, field, hget⟩⟩ f hf
    · cases hget.symm.trans (hf.fromOrigin_eq hr)
    · cases hget.symm.trans (hf.fromOrigin_eq hr)
  · rcases hr.decides_or_escapes t env cwd (origin t cwd path) with hreported | ⟨f, hf⟩
    · exact hreported
    · exact absurd hf (hescapes f)

/-- Readers that know some documents, and find in a document itself all there is to a configuration. -/
def knowing (documents : List (String × Value)) : Readers where
  yaml text := (documents.lookup text).elim (.error .malformed) .ok
  toml text := (documents.lookup text).elim (.error .malformed) .ok
  settings _ _ v :=
    match v with
    | .map entries =>
      if entries.any fun e => e.1.halvedText?.isNone then .error (.fault .keyNotText)
      else (configuration (.map entries)).mapError .mistake
    | _ => .error (.mistake (.notA "dictionary or instance of GeneratorConfig" []))

/-- Readers that know some documents fail as they are said to do. -/
lemma regular_knowing (documents : List (String × Value)) : (knowing documents).Regular where
  yaml document f := by cases h : documents.lookup document <;> simp [knowing, h]
  toml document f := by cases h : documents.lookup document <;> simp [knowing, h]
  settings t env v f h := by
    rw [knowing] at h
    dsimp only at h
    split at h
    · next entries =>
      split at h
      · next hkey =>
        obtain ⟨e, he, hnone⟩ := List.any_eq_true.1 hkey
        exact ⟨entries, rfl, e, he, by simpa using hnone⟩
      · cases hmade : configuration (.map entries) <;> rw [hmade] at h <;> cases h
    · cases h
  keys t env entries hkey := by
    obtain ⟨e, he, hnone⟩ := hkey
    exact if_pos (List.any_eq_true.2 ⟨e, he, by simp [hnone]⟩)

/-- Readers that know a YAML file with a number in place of the model, and a project file with a number in place of the
table for all tools. -/
def sampleReaders : Readers :=
  .knowing [("model: 5\ntargets: []\n", .record [("model", .int 5), ("targets", .list [])]),
    ("tool = 5\n", .record [("tool", .int 5)])]

/-- A configuration with a number in place of the model is reported with its file, so nothing escapes from it. -/
theorem get_reported_iff_sample :
    let t := Tree.ofFiles [("polysdk.yaml", some "model: 5\ntargets: []\n")]
    sampleReaders.Regular ∧ Reported "./polysdk.yaml" (sampleReaders.get t [] "." none) ∧
      ∀ f, ¬sampleReaders.Escapes (origin t "." none) f := by
  intro t
  have hr : sampleReaders.Regular := regular_knowing _
  have horigin : origin t "." none =
      .document (.file "model: 5\ntargets: []\n") "./polysdk.yaml" "./polysdk.yaml" := by decide +kernel
  have hget : sampleReaders.get t [] "." none =
      .error (.configuration "Invalid configuration: Input should be a valid string" (some "./polysdk.yaml")
        (some "model")) := by decide +kernel
  have hreported : Reported "./polysdk.yaml" (sampleReaders.get t [] "." none) := .inr ⟨_, _, hget⟩
  have hdecides : sampleReaders.Decides "." (origin t "." none) "./polysdk.yaml" := horigin ▸ .document
  exact ⟨hr, hreported, (get_reported_iff hr t [] "." none).1.1 ⟨_, hdecides, hreported⟩⟩

/-- A project file with a number in the place of the table for all tools. -/
def sampleTree : Tree := .ofFiles [("pyproject.toml", some "tool = 5\n")]

/-- A number in the place of the table is not reported. -/
theorem not_get_reported :
    sampleReaders.Regular ∧ sampleReaders.get sampleTree [] "." none = .error (.fault (.noMembers "int")) ∧
    ∀ place, ¬Reported place (sampleReaders.get sampleTree [] "." none) := by
  have hget : sampleReaders.get sampleTree [] "." none = .error (.fault (.noMembers "int")) := by decide +kernel
  rw [hget]
  exact ⟨regular_knowing _, rfl, fun place => by simp [Reported]⟩

end Readers

end SdkGen.Config
