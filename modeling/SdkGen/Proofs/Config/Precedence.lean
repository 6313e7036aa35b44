import SdkGen.Proofs.Config.Sources

/-!
# One source and no other

A configuration is read from one source: the path that is asked for, or else the first of a few places in the working
directory that is there. What is at the places behind it is not looked at, whatever is wrong with the document of the
source, and only options of that document lead elsewhere. The project file alone is passed over, if it is well formed
and without a table for the configuration.

Main statements: `Readers.exists_isSource` and `Readers.get_eq_of_agree` (the configuration is that of one source).
-/

namespace SdkGen

/-- Two trees agree on what a path and all those below it lead to. -/
def Tree.AgreeAt (t t' : Tree) (p : Path) : Prop := ∀ below, t.look (p ++ below) = t'.look (p ++ below)

namespace Config.Readers

variable {r : Readers} {t t' : Tree} {env env' : Environment} {v : Value}

/-! ## Sources -/

/-- A project file has no table for the configuration: its table for all tools, if there is one, is without it. -/
def LacksTable (project : Value) : Prop :=
  ∀ tool, project.field? "tool" = some tool → ∃ entries, tool = .map entries ∧ tool.field? "polysdk" = none

/-- What is there as a project file is passed over. -/
inductive PassedOver (r : Readers) : Entry → Prop where
  | project {text project} :
    r.toml (Text.unifiedLines text) = .ok project →
    LacksTable project →
    PassedOver r (.file text)

/-- The source for a path: what is there, or that nothing is. The empty path asks for the first source in the working
directory. -/
inductive IsSource (r : Readers) (t : Tree) (cwd : String) : String → Origin → Prop where
  | document {path entry} :
    path ≠ "" →
    t.look (Path.ofText path) = .ok entry →
    IsSource r t cwd path (.document entry (Path.ofText path).text path)
  | missing {path obstacle} :
    path ≠ "" →
    t.look (Path.ofText path) = .error obstacle →
    obstacle ≠ .tooLong →
    IsSource r t cwd path (.missing path)
  | tooLong {path} :
    path ≠ "" →
    t.look (Path.ofText path) = .error .tooLong →
    IsSource r t cwd path (.tooLong path)
  /-- A YAML file is the source if no earlier one is there … -/
  | file {earlier name later entry} :
    defaultFiles = earlier ++ name :: later →
    (∀ other ∈ earlier, t.lookup? other = none) →
    t.lookup? name = some entry →
    IsSource r t cwd "" (.document entry (cwd ++ "/" ++ name) (cwd ++ "/" ++ name))
  /-- … and the project file if none is there at all, unless it is passed over. -/
  | project {entry} :
    (∀ name ∈ defaultFiles, t.lookup? name = none) →
    t.lookup? projectFile = some entry →
    ¬r.PassedOver entry →
    IsSource r t cwd "" (.project entry (cwd ++ "/" ++ projectFile))
  | nothing :
    (∀ name ∈ defaultFiles, t.lookup? name = none) →
    (∀ entry, t.lookup? projectFile = some entry → r.PassedOver entry) →
    IsSource r t cwd "" .nothing

/-- There is a source for each path, if only that nothing is there. -/
theorem exists_isSource (r : Readers) (t : Tree) (cwd path : String) : ∃ o, r.IsSource t cwd path o := by
  by_cases hpath : path = ""
  · subst hpath
    cases hfirst : defaultFiles.find? fun name => (t.lookup? name).isSome with
    | some name =>
      obtain ⟨hname, earlier, later, hnames, habsent⟩ := List.find?_eq_some_iff_append.1 hfirst
      obtain ⟨entry, hentry⟩ := Option.isSome_iff_exists.1 hname
      exact ⟨_, .file hnames (fun other hother => by simpa using habsent other hother) hentry⟩
    | none =>
      have habsent : ∀ name ∈ defaultFiles, t.lookup? name = none := by simpa using hfirst
      by_cases hproject : ∃ entry, t.lookup? projectFile = some entry ∧ ¬r.PassedOver entry
      · obtain ⟨entry, hentry, hpassed⟩ := hproject
        exact ⟨_, .project habsent hentry hpassed⟩
      · refine ⟨_, .nothing habsent fun entry hentry => ?_⟩
        by_contra hpassed
        exact hproject ⟨entry, hentry, hpassed⟩
  · cases hlook : t.look (Path.ofText path) with
    | ok entry => exact ⟨_, .document hpath hlook⟩
    | error obstacle =>
      by_cases hlong : obstacle = .tooLong
      · exact ⟨_, .tooLong hpath (hlong ▸ hlook)⟩
      · exact ⟨_, .missing hpath hlook hlong⟩

section Origins

variable {cwd : String} {path : Option String} {o : Origin} {entry : Entry}

/-- A project file without the table has none. -/
lemma projectTable?_of_lacksTable {project : Value} (h : LacksTable project) : projectTable? project = .ok none := by
  rw [projectTable?]
  cases htool : project.field? "tool" with
  | none => rfl
  | some tool =>
    obtain ⟨entries, rfl, hnone⟩ := h tool htool
    exact congrArg Except.ok hnone

/-- Where no YAML file is there, none is found. -/
lemma find?_defaultFiles_eq_none (h : ∀ name ∈ defaultFiles, t.lookup? name = none) :
    defaultFiles.find? t.contains = none := by
  rw [List.find?_eq_none]
  intro name hname
  rw [Tree.contains, h name hname]
  exact Bool.false_ne_true

/-- The first YAML file that is there is where a configuration comes from. -/
lemma defaultOrigin_of_file {earlier later : List String} {name : String}
    (hnames : defaultFiles = earlier ++ name :: later) (habsent : ∀ other ∈ earlier, t.lookup? other = none)
    (hentry : t.lookup? name = some entry) :
    defaultOrigin t cwd = .document entry (cwd ++ "/" ++ name) (cwd ++ "/" ++ name) := by
  have hfirst : defaultFiles.find? t.contains = some name := by
    rw [List.find?_eq_some_iff_append]
    refine ⟨by rw [Tree.contains, hentry]; rfl, earlier, later, hnames, fun other hother => ?_⟩
    rw [Tree.contains, habsent other hother]
    rfl
  rw [defaultOrigin, hfirst]
  dsimp only
  rw [hentry]
  rfl

/-- Without a YAML file, a configuration comes from the project file. -/
lemma defaultOrigin_of_project (habsent : ∀ name ∈ defaultFiles, t.lookup? name = none)
    (hentry : t.lookup? projectFile = some entry) :
    defaultOrigin t cwd = .project entry (cwd ++ "/" ++ projectFile) := by
  rw [defaultOrigin, find?_defaultFiles_eq_none habsent]
  dsimp only
  rw [hentry]

/-- Without a source, there is no configuration. -/
lemma fromOrigin_of_passedOver (habsent : ∀ name ∈ defaultFiles, t.lookup? name = none)
    (hpassed : ∀ entry, t.lookup? projectFile = some entry → r.PassedOver entry) :
    r.fromOrigin t env cwd (defaultOrigin t cwd) = r.fromOrigin t env cwd .nothing := by
  cases hentry : t.lookup? projectFile with
  | none =>
    rw [defaultOrigin, find?_defaultFiles_eq_none habsent]
    dsimp only
    rw [hentry]
  | some entry =>
    rw [defaultOrigin_of_project habsent hentry]
    cases hpassed entry hentry with
    | project hparse hlacks =>
      rw [fromOrigin_project, ofProject, hparse]
      dsimp only
      rw [projectTable?_of_lacksTable hlacks]
      rfl

/-- A configuration comes from the path that is asked for. -/
lemma origin_of_ne_empty (h : path.getD "" ≠ "") : origin t cwd path = askedOrigin t (path.getD "") := by
  rw [origin]
  split
  · contradiction
  · rfl

/-- The empty path asks for no source. -/
lemma origin_of_empty (h : path.getD "" = "") : origin t cwd path = defaultOrigin t cwd := by
  rw [origin, h]
  rfl

/-- A configuration is what comes of its source. -/
lemma get_eq_of_isSource (h : r.IsSource t cwd (path.getD "") o) :
    r.get t env cwd path = r.fromOrigin t env cwd o := by
  rw [get_eq_fromOrigin]
  generalize hasked : path.getD "" = asked at h
  cases h with
  | document hne hlook => rw [origin_of_ne_empty (hasked ▸ hne), hasked, askedOrigin, hlook]
  | @missing _ obstacle hne hlook hobstacle =>
    rw [origin_of_ne_empty (hasked ▸ hne), hasked, askedOrigin, hlook]
    cases obstacle with
    | tooLong => contradiction
    | _ => rfl
  | tooLong hne hlook => rw [origin_of_ne_empty (hasked ▸ hne), hasked, askedOrigin, hlook]
  | file hnames habsent hentry => rw [origin_of_empty hasked, defaultOrigin_of_file hnames habsent hentry]
  | project habsent hentry _ => rw [origin_of_empty hasked, defaultOrigin_of_project habsent hentry]
  | nothing habsent hpassed => rw [origin_of_empty hasked, fromOrigin_of_passedOver habsent hpassed]

/-- Where a document describes a configuration, some place decides on it. -/
lemma Describes.exists_decides (h : r.Describes o v) : ∃ place, r.Decides cwd o place := by
  cases h with
  | document hparse => exact ⟨_, .document⟩
  | project hparse htable => exact ⟨_, .project (.project hparse htable)⟩

/-- Where no document describes a configuration, none comes of the origin, and the files make no difference. -/
lemma fromOrigin_of_not_describes (h : ∀ v, ¬r.Describes o v) :
    ∃ f, ∀ t env, r.fromOrigin t env cwd o = .error f := by
  cases o with
  | missing path => exact ⟨_, fun _ _ => rfl⟩
  | tooLong path => exact ⟨_, fun _ _ => rfl⟩
  | nothing => exact ⟨_, fun _ _ => rfl⟩
  | document entry shown path =>
    cases entry with
    | directory => exact ⟨_, fun _ _ => rfl⟩
    | file text =>
      cases hparse : r.yaml (Text.unifiedLines text) with
      | ok v => exact absurd (.document hparse) (h v)
      | error problem =>
        simp only [fromOrigin_document, ofYaml, hparse]
        cases problem <;> exact ⟨_, fun _ _ => rfl⟩
  | project entry path =>
    cases entry with
    | directory => exact ⟨_, fun _ _ => rfl⟩
    | file text =>
      simp only [fromOrigin_project, ofProject]
      cases hparse : r.toml (Text.unifiedLines text) with
      | error problem => cases problem <;> exact ⟨_, fun _ _ => rfl⟩
      | ok project =>
        dsimp only
        rcases projectTable?_cases project with ⟨_ | v, htable⟩ | ⟨tool, f, htool, hmisplaces⟩
        · rw [htable]
          exact ⟨_, fun _ _ => rfl⟩
        · exact absurd (.project hparse htable) (h v)
        · rw [projectTable?_of_misplaces htool hmisplaces]
          exact ⟨_, fun _ _ => rfl⟩

/-- What comes of an origin is the same with other files and another environment if it is so for the settings that the
document there describes. -/
lemma fromOrigin_congr (h : ∀ v, r.Describes o v → r.settings t env v = r.settings t' env' v) :
    r.fromOrigin t env cwd o = r.fromOrigin t' env' cwd o := by
  by_cases hdescribed : ∃ v, r.Describes o v
  · obtain ⟨v, hv⟩ := hdescribed
    obtain ⟨place, hplace⟩ := hv.exists_decides
    rw [fromOrigin_eq_validate hv hplace, fromOrigin_eq_validate hv hplace, validate, validate, h v hv]
  · obtain ⟨f, hf⟩ := fromOrigin_of_not_describes (not_exists.1 hdescribed)
    rw [hf, hf]

/-- There is a configuration just if the document of the origin makes it. -/
lemma fromOrigin_eq_ok_iff {c : Configuration} :
    r.fromOrigin t env cwd o = .ok c ↔
      ∃ v place, r.Describes o v ∧ r.Decides cwd o place ∧ r.validate t env v place = .ok c := by
  constructor
  · intro h
    by_cases hdescribed : ∃ v, r.Describes o v
    · obtain ⟨v, hv⟩ := hdescribed
      obtain ⟨place, hplace⟩ := hv.exists_decides
      exact ⟨v, place, hv, hplace, by rw [← fromOrigin_eq_validate hv hplace, h]⟩
    · obtain ⟨f, hf⟩ := fromOrigin_of_not_describes (not_exists.1 hdescribed)
      cases (hf t env).symm.trans h
  · rintro ⟨v, place, hv, hplace, h⟩
    rw [fromOrigin_eq_validate hv hplace, h]

end Origins

/-! ## Options -/

/-- A document lists an option beside the fields of a configuration: the names of options begin with a line. -/
def ListsOption (v : Value) : Prop := ∃ f ∈ v.fields, f.1.startsWith "_"

/-- No variable of an environment is one of the program. -/
def IsClear (env : Environment) : Prop := ∀ e ∈ env, ¬"POLYSDK_".toList <+: e.1.toList.map Char.toUpper

/-- Readers whose settings look at nothing but some paths, which the options of a document name. Where there are no
options, the document has the fields of a configuration by itself or from variables of the program. -/
structure Confined (r : Readers) (reads : Environment → Value → List Path) : Prop where
  agree : ∀ t t' env v, (∀ p ∈ reads env v, t.AgreeAt t' p) → r.settings t env v = r.settings t' env v
  unlisted : ∀ env v, ¬ListsOption v → reads env v = []
  clear : ∀ t env v, ¬ListsOption v → IsClear env → r.settings t env v = r.settings t [] v

/-- Without options and variables, the document alone makes the configuration. -/
lemma Confined.settings_eq {reads : Environment → Value → List Path} (hr : r.Confined reads) (hlists : ¬ListsOption v)
    (hclear : IsClear env) : r.settings t env v = r.settings {} [] v := by
  rw [hr.clear t env v hlists hclear]
  apply hr.agree
  rw [hr.unlisted [] v hlists]
  exact nofun

/-- A configuration comes from one source. It is the same in two trees that have the same source for a path and agree on
all that the options of its document lead to, and so is the failure if there is none: whatever is wrong with the source,
no other one is turned to. Without options and variables, the document alone makes the configuration, and without a
source there is none. -/
theorem get_eq_of_agree {reads : Environment → Value → List Path} (hr : r.Confined reads) (t t' : Tree)
    (env : Environment) (cwd : String) (path : Option String) (o : Origin)
    (hsource : r.IsSource t cwd (path.getD "") o) (hsource' : r.IsSource t' cwd (path.getD "") o)
    (hagree : ∀ v, r.Describes o v → ∀ p ∈ reads env v, t.AgreeAt t' p) :
    r.get t env cwd path = r.get t' env cwd path ∧
    (∀ c, r.get t env cwd path = .ok c ↔
      ∃ v place, r.Describes o v ∧ r.Decides cwd o place ∧ r.validate t env v place = .ok c) ∧
    (∀ v place, r.Describes o v → r.Decides cwd o place → ¬ListsOption v → IsClear env →
      r.get t env cwd path = r.validate {} [] v place) ∧
    (o = .nothing → r.get t env cwd path = .error (.configuration "Configuration not found" (some cwd) none)) := by
  rw [get_eq_of_isSource hsource, get_eq_of_isSource hsource']
  refine ⟨fromOrigin_congr fun v hv => hr.agree t t' env v (hagree v hv), fun c => fromOrigin_eq_ok_iff, ?_, ?_⟩
  · intro v place hv hplace hlists hclear
    rw [fromOrigin_eq_validate hv hplace, validate, validate, hr.settings_eq hlists hclear]
  · rintro rfl
    rfl

/-- The first of the YAML files is the source if it is there. -/
lemma isSource_first {entry : Entry} (h : t.lookup? "polysdk.yaml" = some entry) :
    r.IsSource t "." "" (.document entry "./polysdk.yaml" "./polysdk.yaml") :=
  .file (show defaultFiles = [] ++ "polysdk.yaml" :: ["polysdk.yml"] from rfl) nofun h

/-- A YAML file with a number in place of the model, with a project file or without one. -/
def invalidTree (project : Option String) : Tree :=
  .ofFiles (("polysdk.yaml", some "model: 5\ntargets: []\n") ::
    (project.map fun text => ("pyproject.toml", some text)).toList)

/-- Readers that look at documents alone look at no paths. -/
lemma confined_knowing (documents : List (String × Value)) : (knowing documents).Confined fun _ _ => [] where
  agree _ _ _ _ _ := rfl
  unlisted _ _ _ := rfl
  clear _ _ _ _ _ := rfl

/-- The file is reported. The project file is not turned to, whatever it describes. -/
theorem get_eq_of_agree_invalid :
    let t := invalidTree (some "[tool.polysdk]\nmodel = \"m:f\"\ntargets = []\n")
    sampleReaders.get t [] "." none = sampleReaders.get (invalidTree none) [] "." none ∧
      sampleReaders.get t [] "." none =
        .error (.configuration "Invalid configuration: Input should be a valid string" (some "./polysdk.yaml")
          (some "model")) := by
  intro t
  have hfirst : t.lookup? "polysdk.yaml" = some (.file "model: 5\ntargets: []\n") := by decide +kernel
  have hfirst' : (invalidTree none).lookup? "polysdk.yaml" = some (.file "model: 5\ntargets: []\n") := by
    decide +kernel
  have hconfined : sampleReaders.Confined fun _ _ => [] := confined_knowing _
  have hget := get_eq_of_agree hconfined t (invalidTree none) [] "." none _
    (isSource_first hfirst) (isSource_first hfirst') fun _ _ => nofun
  exact ⟨hget.1, by decide +kernel⟩

/-- A YAML file with an option that names a file of variables, with that file or without it. -/
def variableTree (assignments : Option String) : Tree :=
  .ofFiles (("polysdk.yaml", some "_env_file: local.env\ntargets: []\n") ::
    (assignments.map fun text => ("local.env", some text)).toList)

/-- The paths of the files of variables that a document names. -/
def variablePaths (v : Value) : List Path := ((v.textField? "_env_file").map Path.ofText).toList

/-- Readers that know this file, and take the model from the first line of a file of variables. -/
def variableReaders : Readers where
  yaml _ := .ok (.record [("_env_file", .text "local.env"), ("targets", .list [])])
  toml _ := .error .malformed
  settings t _ v :=
    let assigned := (variablePaths v).filterMap fun p =>
      match t.look p with
      | .ok (.file text) => some (((text.toList.drop "POLYSDK_MODEL=".length).takeWhile (· ≠ '\n')))
      | _ => none
    match assigned with
    | cs :: _ => .ok { model := String.ofList cs, targets := [] }
    | [] => .error (.mistake (.required ["model"]))

/-- The source alone does not make the configuration where its document has options. -/
theorem not_get_eq_of_agree :
    let t := variableTree (some "POLYSDK_MODEL=m:f\n")
    let t' := variableTree none
    (∃ o, variableReaders.IsSource t "." "" o ∧ variableReaders.IsSource t' "." "" o) ∧
      variableReaders.get t [] "." none = .ok { model := "m:f", targets := [] } ∧
      variableReaders.get t' [] "." none =
        .error (.configuration "Invalid configuration: Field required" (some "./polysdk.yaml") (some "model")) := by
  intro t t'
  refine ⟨⟨.document (.file "_env_file: local.env\ntargets: []\n") "./polysdk.yaml" "./polysdk.yaml", ?_, ?_⟩,
    by decide +kernel, by decide +kernel⟩
  · exact isSource_first (by decide +kernel)
  · exact isSource_first (by decide +kernel)

end Config.Readers

end SdkGen
