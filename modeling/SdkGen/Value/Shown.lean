import SdkGen.Decimal.Layout
import SdkGen.Text.Quoted
import SdkGen.Value

/-!
# Values in messages

A value as it is shown inside a message, and the name of its kind.
-/

namespace SdkGen

def SequenceKind.name : SequenceKind → String
  | .list => "list"
  | .tuple => "tuple"
  | .set => "set"

/-- The items of a sequence of a kind as they are shown together. -/
def SequenceKind.enclose (kind : SequenceKind) (items : List String) : String :=
  let joined := String.intercalate ", " items
  match kind, items with
  | .list, _ => "[" ++ joined ++ "]"
  | .tuple, [item] => "(" ++ item ++ ",)"
  | .tuple, _ => "(" ++ joined ++ ")"
  | .set, [] => "set()"
  | .set, _ => "\x7b" ++ joined ++ "\x7d"

namespace Value

def kindName : Value → String
  | .null => "NoneType"
  | .bool _ => "bool"
  | .int _ => "int"
  | .float _ => "float"
  | .complex _ _ => "complex"
  | .text _ | .halved _ => "str"
  | .bytes _ => "bytes"
  | .moment m => m.kindName
  | .foreign kind => kind
  | .sequence kind _ => kind.name
  | .map _ => "dict"

/-- The name of the kind of a value without the place where the kind is at home. -/
def shortKindName (v : Value) : String := ((v.kindName.splitOn ".").getLast?).getD ""

/-- The words for numbers that are not finite. -/
def specialWords : Decimal.SpecialWords := ⟨"nan", "inf", "-inf"⟩

/-- A part of a complex number: a number without the point of whole numbers. -/
def partText (x : Float) : String :=
  let cs := (Decimal.floatText specialWords x).toList
  String.ofList (if ['0', '.'].isPrefixOf cs.reverse then cs.dropLast.dropLast else cs)

/-- A complex number as it is shown. The real part is left out if it is zero and has no sign. -/
def complexText (re im : Float) : String :=
  if re.toBits = 0 then partText im ++ "j"
  else
    let imaginary := partText im
    "(" ++ partText re ++ (if imaginary.startsWith "-" then "" else "+") ++ imaginary ++ "j)"

mutual

/-- A value as it is shown. -/
def shown : Value → String
  | .null => "None"
  | .bool b => if b then "True" else "False"
  | .int n => toString n
  | .float x => Decimal.floatText specialWords x
  | .complex re im => complexText re im
  | .text s => Text.quoted s
  | .halved s => Text.HalvedText.quoted { text := s, halves := true }
  | .bytes bs => Text.quotedBytes bs
  | .moment m => m.shown
  | .foreign kind => kind
  | .sequence kind items => kind.enclose (shownItems items)
  | .map entries => "\x7b" ++ String.intercalate ", " (shownEntries entries) ++ "\x7d"

/-- The items of a sequence as they are shown. -/
def shownItems : List Value → List String
  | [] => []
  | v :: vs => v.shown :: shownItems vs

/-- The entries of a mapping as they are shown. -/
def shownEntries : List (Value × Value) → List String
  | [] => []
  | (k, v) :: es => (k.shown ++ ": " ++ v.shown) :: shownEntries es

end

/-- A value as a message of its own: a text without quotes, a moment by its parts. -/
def plainText : Value → String
  | .text s | .halved s => s
  | .moment m => m.text
  | v => v.shown

end Value

end SdkGen
