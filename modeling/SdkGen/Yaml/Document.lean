import SdkGen.Yaml.Construct

/-!
# Reading YAML documents

The value of a document, which may name things in further places. A document without content has no value.
-/

namespace SdkGen.Yaml

def parse (places : Places) (document : String) : Except Problem Value := do
  match ← nodes document with
  | none => return .null
  | some (root, all) => valueOf places all root

end SdkGen.Yaml
