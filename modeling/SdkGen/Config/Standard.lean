import SdkGen.Config.Environment
import SdkGen.Config.Sources
import SdkGen.Toml.Document
import SdkGen.Yaml.Document

/-!
# The readers of this program

The readers that come with this program take documents apart themselves, and so they do with options,
variables and all else that a configuration may refer to.
-/

namespace SdkGen.Config

/-- The readers where documents may name what is in some places. -/
def Readers.standard (places : Yaml.Places) : Readers where
  yaml := Yaml.parse places
  toml := Toml.parse
  settings := Config.settings

/-- The configuration that a document describes. -/
def validate (t : Tree) (env : Environment) (v : Value) (path : String) : Except Failure Configuration :=
  (Readers.standard fun _ => none).validate t env v path

/-- The configuration for a path, or from the default places if there is no path. -/
def get (t : Tree) (env : Environment) (places : Yaml.Places) (cwd : String) (path : Option String) :
    Except Failure Configuration :=
  (Readers.standard places).get t env cwd path

end SdkGen.Config
