import SdkGen.Moment
import SdkGen.Text.Halves

/-!
# Document values

The values that configuration documents and model descriptions are made of. A mapping lists its
entries in the order in which they were written, and its keys may be any values, since some formats
allow that.
-/

namespace SdkGen

/-- The kinds of sequences that a document can hold. -/
inductive SequenceKind where
  /-- A sequence as it is mostly written. -/
  | list
  /-- A sequence that stays as it is. -/
  | tuple
  /-- A sequence without repetitions. -/
  | set
deriving DecidableEq, Repr

/-- A value in a document. -/
inductive Value where
  | null
  /-- A truth value. -/
  | bool (b : Bool)
  /-- A whole number of any size. -/
  | int (n : Int)
  /-- A binary floating-point number. -/
  | float (x : Float)
  /-- A complex number by its real and its imaginary part. -/
  | complex (re im : Float)
  | text (s : String)
  /-- A text with halves of characters in it, and a character in place of each. -/
  | halved (s : String)
  /-- A text as bytes. -/
  | bytes (bs : List UInt8)
  /-- A date or time. -/
  | moment (m : Moment)
  /-- A value of a kind that has no other place here. -/
  | foreign (kind : String)
  | sequence (kind : SequenceKind) (items : List Value)
  /-- A mapping, in the order in which it was written. -/
  | map (entries : List (Value × Value))
deriving Inhabited

namespace Value

/-- A sequence as it is mostly written. -/
@[match_pattern]
abbrev list (items : List Value) : Value := .sequence .list items

/-- A mapping with text keys. -/
def record (fields : List (String × Value)) : Value := .map (fields.map fun f => (.text f.1, f.2))

/-- A sequence of texts. -/
def texts (items : List String) : Value := .list (items.map .text)

def optionalText : Option String → Value
  | none => .null
  | some s => .text s

/-- The value of a text that may hold halves of characters. -/
def ofHalved (t : Text.HalvedText) : Value := if t.halves then .halved t.text else .text t.text

/-- The text that a value is, if it is one without halves of characters. -/
def text? : Value → Option String
  | .text s => some s
  | _ => none

/-- The text that a value is, if it is one. -/
def halvedText? : Value → Option Text.HalvedText
  | .text s => some { text := s }
  | .halved s => some { text := s, halves := true }
  | _ => none

/-- Whether a value says yes where a truth value is asked for: zero and whatever is empty do not. -/
def isTruthy : Value → Bool
  | .null => false
  | .bool b => b
  | .int n => n != 0
  | .float x => x != 0
  | .complex re im => re != 0 || im != 0
  | .text s => s != ""
  | .bytes bs => !bs.isEmpty
  | .sequence _ items => !items.isEmpty
  | .map entries => !entries.isEmpty
  | .halved _ | .moment _ | .foreign _ => true

/-- The items of a sequence; nothing else has any. -/
def items : Value → List Value
  | .sequence _ items => items
  | _ => []

/-- What is met when a value is gone through: the items of a sequence, the keys of a mapping, the
characters of a text, the bytes of bytes. -/
def elements? : Value → Option (List Value)
  | .sequence _ items => some items
  | .map entries => some (entries.map (·.1))
  | .text s => some (s.toList.map fun c => .text (String.singleton c))
  | .halved s =>
    let whole : Text.HalvedText := { text := s, halves := true }
    some (s.toList.map fun c => .ofHalved (whole.part (String.singleton c)))
  | .bytes bs => some (bs.map fun b => .int b.toNat)
  | _ => none

/-- The number of parts of a value that has some kind of parts. -/
def length? : Value → Option Nat
  | .sequence _ items => some items.length
  | .map entries => some entries.length
  | .text s | .halved s => some s.length
  | .bytes bs => some bs.length
  | _ => none

/-- The entries of a mapping whose keys are texts; nothing else has any. -/
def fields : Value → List (String × Value)
  | .map entries => entries.filterMap fun e => e.1.text?.map (·, e.2)
  | _ => []

/-- The value of a field of a mapping: the last one written under that key. -/
def field? (v : Value) (key : String) : Option Value :=
  (v.fields.reverse.find? (·.1 = key)).map Prod.snd

/-- The value of a field, taking a field that is missing for one without value. -/
def field (v : Value) (key : String) : Value := (v.field? key).getD .null

/-- The text of a field, or `default` when the field holds no text. -/
def textField (v : Value) (key default : String) : String :=
  ((v.field? key).bind text?).getD default

/-- The text of a field, if it holds one. -/
def textField? (v : Value) (key : String) : Option String := (v.field? key).bind text?

/-- The truth value of a field, or `default` when the field holds none. -/
def boolField (v : Value) (key : String) (default : Bool) : Bool :=
  match v.field? key with
  | some (.bool b) => b
  | _ => default

end Value

end SdkGen
