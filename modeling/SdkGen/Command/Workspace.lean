import SdkGen.Config.Schema
import SdkGen.Loading
import SdkGen.Tree

/-!
# Workspaces

A workspace is what an invocation works on. It can be read from a document with the fields `files`,
`env` and `modules`, each of which may be missing.
-/

namespace SdkGen

/-- What an invocation works on. -/
structure Workspace where
  /-- The files below the working directory with their texts; directories have none. -/
  files : List (String × Option String) := []
  environment : Environment := []
  /-- The modules that can be imported. -/
  modules : Modules := .empty
  /-- The path of the working directory. -/
  cwd : String := "."
  /-- All files and directories that are there. -/
  tree : Tree := .ofFiles files

namespace Workspace

/-- The files that a document lists: paths with their texts, or with null for directories. -/
def readFiles (v : Value) : List (String × Option String) :=
  (v.field "files").fields.map fun f => (f.1, f.2.text?)

/-- The environment variables that a document lists. -/
def readEnvironment (v : Value) : Environment :=
  (v.field "env").fields.map fun f => (f.1, f.2.text?.getD "")

/-- The workspace that a document describes. -/
def ofValue (v : Value) (cwd : String) : Except Fault Workspace := do
  return {
    files := readFiles v
    environment := readEnvironment v
    modules := ← Loading.readModules (v.field "modules")
    cwd }

end Workspace

end SdkGen
