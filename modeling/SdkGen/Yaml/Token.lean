import SdkGen.Problem
import SdkGen.Text.Halves

/-!
# YAML tokens

The tokens of a YAML document. Indentation and the colons of implicit keys structure a document without
marks of their own; they become tokens as well.
-/

namespace SdkGen.Yaml

inductive Token where
  | version
  /-- A declaration of the handle of a tag. -/
  | handle (name front : String)
  | declaration
  /-- Three dashes. -/
  | documentStart
  /-- Three dots. -/
  | documentEnd
  /-- A sequence by indentation begins. -/
  | sequenceStart
  /-- A mapping by indentation begins. -/
  | mappingStart
  /-- A sequence or mapping by indentation ends. -/
  | blockEnd
  | openBracket
  | closeBracket
  | openBrace
  | closeBrace
  /-- A key follows. -/
  | key
  /-- A value follows. -/
  | value
  /-- A dash in front of an item. -/
  | item
  | comma
  /-- A mention of a node by its name. -/
  | mention (name : String)
  /-- The name of the next node. -/
  | anchor (name : String)
  /-- The tag of the next node: a handle, if there is one, and the rest. -/
  | tag (handle : Option String) (suffix : String)
  /-- A scalar; a plain one has neither quotes nor a header. -/
  | scalar (text : Text.HalvedText) (plain : Bool)
  /-- A scalar that names a character that there is not. Nothing is read behind it. -/
  | broken (f : Fault)
deriving DecidableEq, Repr

end SdkGen.Yaml
