import SdkGen.Config.Schema
import SdkGen.Problem
import SdkGen.Text.Blank
import SdkGen.Tree
import SdkGen.Value.Shown

/-!
# Where configurations come from

A configuration comes from the file that is asked for, or else from the first of a few places in the
working directory: two names of YAML files, then a table of the project file. A place that is there
decides, whatever is wrong with it; only a project file without that table is passed over. How documents
and settings are read is a matter of packages of their own, which come as parameters.
-/

namespace SdkGen.Config

/-- What reads documents and settings. -/
structure Readers where
  /-- Reads a YAML document. -/
  yaml : String → Except Problem Value
  /-- Reads a TOML document. -/
  toml : String → Except Problem Value
  /-- Makes a configuration of a document and all that it refers to among some files and in the environment. -/
  settings : Tree → Environment → Value → Except Trouble Configuration

/-- The text of what a path leads to, which has to be a file. -/
def fileText (entry : Entry) (shown : String) : Except Failure String :=
  match entry with
  | .file text => .ok (Text.unifiedLines text)
  | .directory => .error (.fault (.isADirectory shown))

/-- The entry of the project file that holds the configuration, if there is one. Anything but a table
in place of the tools is looked through as far as it goes. -/
def projectTable? (project : Value) : Except Failure (Option Value) :=
  match (project.field? "tool").getD (.map []) with
  | .map entries => .ok ((Value.map entries).field? "polysdk")
  -- a name is looked for among the parts of a text and the items of a list, too
  | .text s =>
    if (s.splitOn "polysdk").length > 1 then .error (.fault .fieldOfText) else .ok none
  | .list items =>
    if items.any fun v => v.text? == some "polysdk" then .error (.fault .fieldOfList) else .ok none
  | v => .error (.fault (.noMembers v.kindName))

/-- The names of the files that are looked for, in order. -/
def defaultFiles : List String := ["polysdk.yaml", "polysdk.yml"]

/-- The name of the project file. -/
def projectFile : String := "pyproject.toml"

namespace Readers

/-- The configuration that a document describes. The path says where the document comes from. -/
def validate (r : Readers) (t : Tree) (env : Environment) (v : Value) (path : String) :
    Except Failure Configuration :=
  (r.settings t env v).mapError (Trouble.failure path)

/-- The configuration in a YAML document. -/
def ofYaml (r : Readers) (t : Tree) (env : Environment) (document path : String) : Except Failure Configuration :=
  match r.yaml document with
  | .ok v => r.validate t env v path
  | .error .malformed =>
    .error (.configuration "Invalid YAML: the document is not well formed" (some path) none)
  | .error (.fault f) => .error (.fault f)

/-- The configuration in a project file, if it has one. -/
def ofProject (r : Readers) (t : Tree) (env : Environment) (document path : String) :
    Except Failure (Option Configuration) := do
  match r.toml document with
  | .error .malformed =>
    throw (.configuration "Invalid TOML: the document is not well formed" (some path) none)
  | .error (.fault f) => throw (.fault f)
  | .ok project =>
    match ← projectTable? project with
    | none => return none
    | some v => return some (← r.validate t env v path)

/-- The configuration from the default places in a working directory. -/
def ofDirectory (r : Readers) (t : Tree) (env : Environment) (cwd : String) : Except Failure Configuration := do
  let whole := fun name => cwd ++ "/" ++ name
  match defaultFiles.find? t.contains with
  | some name =>
    let text ← fileText ((t.lookup? name).getD .directory) (whole name)
    r.ofYaml t env text (whole name)
  | none =>
    match t.lookup? projectFile with
    | none => notFound
    | some entry =>
      match ← r.ofProject t env (← fileText entry (whole projectFile)) (whole projectFile) with
      | some c => return c
      | none => notFound
where
  /-- No place holds a configuration. -/
  notFound : Except Failure Configuration :=
    .error (.configuration "Configuration not found" (some cwd) none)

/-- The configuration for a path, or from the default places if there is no path. -/
def get (r : Readers) (t : Tree) (env : Environment) (cwd : String) (path : Option String) :
    Except Failure Configuration :=
  match path.getD "" with
  | "" => r.ofDirectory t env cwd
  | path =>
    match t.look (Path.ofText path) with
    | .error .tooLong => .error (.fault (.nameTooLong (Path.ofText path).text))
    | .error _ => .error (.configuration "Configuration file not found" (some path) none)
    | .ok entry => do r.ofYaml t env (← fileText entry (Path.ofText path).text) path

end Readers

end SdkGen.Config
