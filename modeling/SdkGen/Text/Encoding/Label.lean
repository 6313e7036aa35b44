import SdkGen.Text.Case
import SdkGen.Text.Compose
import SdkGen.Text.Encoding.Punycode
import SdkGen.Text.Quoted
import SdkGen.Text.Table.Labels

/-!
# Labels of domains

A text in ASCII falls into labels at its points. A label behind the mark `xn--` is in Punycode, and it stands for a
text only if that text, once it is prepared, gives the label back. A text is prepared by folding its characters and
composing them; then it must not hold barred characters, nor may what is written from the right stand beside
what is written from the left.
-/

namespace SdkGen.Text

/-- What is wrong with a label. -/
inductive LabelProblem where
  /-- It is empty, or it has more than 63 characters. -/
  | length
  /-- The character with this number is barred. -/
  | barred (n : Nat)
  /-- There are characters from the right and characters from the left. -/
  | twoWays
  /-- There are characters from the right, but not at both ends. -/
  | openEnd
  /-- It has the mark although it is not in Punycode. -/
  | falseMark
  /-- What the label stands for gives another one back. -/
  | noWayBack (label back : List Char)
deriving DecidableEq, Repr

/-- A character by its number, between quotes. -/
def quotedNumber (n : Nat) : String :=
  if isHalf n then
    String.ofList ('\'' :: '\\' :: 'u' :: hexDigits 4 n ++ ['\''])
  else quoted (String.singleton (Char.ofNat n))

/-- The wording of what is wrong with a label. -/
def LabelProblem.message : LabelProblem → String
  | length => "label empty or too long"
  | barred n => "Invalid character " ++ quotedNumber n
  | twoWays => "Violation of BIDI requirement 2"
  | openEnd => "Violation of BIDI requirement 3"
  | falseMark => "Label starts with ACE prefix"
  | noWayBack label back =>
    "('IDNA does not round-trip', b" ++ quoted (String.ofList label) ++ ", b" ++
      quoted (String.ofList back) ++ ")"

namespace Label

/-- What characters are folded to, if that is not their lower case. -/
def foldTable : CharMap := .ofRows Table.foldRows

/-- Characters that are left out. -/
def droppedTable : CharSet := .ofRows Table.droppedRows

/-- Characters that no label may hold. -/
def barredTable : CharSet := .ofRows Table.barredRows

/-- Characters that are written from the right to the left. -/
def fromRightTable : CharSet := .ofRows Table.fromRightRows

/-- Characters that are written from the left to the right. -/
def fromLeftTable : CharSet := .ofRows Table.fromLeftRows

/-- Characters that are too young to be decomposed. -/
def youngTable : CharSet := .ofRows Table.youngRows

/-- Decompositions that were mended later. -/
def mendedTable : CharMap := .ofRows Table.mendedRows

/-- What a character in a label is decomposed into. -/
def decomposed (c : Char) : List Char :=
  if youngTable.contains c then [c] else mendedTable.table.getD c (decompose c)

/-- A text of a label with its characters composed. -/
def composed (cs : List Char) : List Char := recompose decomposed cs

/-- What a character is folded to where texts are not composed. -/
def simpleFold (c : Char) : List Char := foldTable.table.getD c (lowerChar c)

/-- What a character is folded to. -/
def fold (c : Char) : List Char :=
  let simple := simpleFold c
  let once := composed simple
  let twice := composed (once.flatMap simpleFold)
  if once = twice then simple else twice

/-- The first character of a prepared text that is barred. Halves of characters are barred, and they are in the
prepared text in place of themselves as replacement characters. -/
def barred? (numbers : List Nat) (prepared : List Char) : Option Nat :=
  (prepared.find? barredTable.contains).map fun c =>
    if c = '\ufffd' then
      (numbers.find? fun n => isHalf n || n = 0xFFFD).getD 0xFFFD
    else c.toNat

/-- A text, by the numbers of its characters, as it is compared. -/
def prepare (numbers : List Nat) : Except LabelProblem (List Char) :=
  let cs := (numbers.map (ofNumberWith fun _ => '\ufffd')).filter fun c => !droppedTable.contains c
  let prepared := composed (cs.flatMap fold)
  let fromRight := fromRightTable.contains
  match barred? numbers prepared with
  | some n => .error (.barred n)
  | none =>
    if !prepared.any fromRight then .ok prepared
    else if prepared.any fromLeftTable.contains then .error .twoWays
    else if prepared.head?.any fromRight && prepared.getLast?.any fromRight then .ok prepared
    else .error .openEnd

/-- Whether a text is in ASCII. -/
def isAscii (cs : List Char) : Bool := cs.all fun c => c.toNat < 0x80

/-- A label of one to 63 characters. -/
def ofLength (cs : List Char) : Except LabelProblem (List Char) :=
  if 0 < cs.length && cs.length < 64 then .ok cs else .error .length

/-- The mark of a label in Punycode. -/
def mark : List Char := ['x', 'n', '-', '-']

/-- The label of a text, by the numbers of its characters. -/
def asciiForm (numbers : List Nat) : Except LabelProblem (List Char) := do
  if numbers.all (· < 0x80) then ofLength (numbers.map Char.ofNat)
  else
    let prepared ← prepare numbers
    if isAscii prepared then ofLength prepared
    else if mark.isPrefixOf prepared then .error .falseMark
    else ofLength (mark ++ Punycode.encode (prepared.map Char.toNat))

/-- The text of a label behind its mark. -/
def unmarked (label : List Char) : Except Undecodable (List Nat) :=
  match Punycode.read ((label.drop mark.length).map fun c => c.toNat.toUInt8) with
  | .error (.unreadable reason) =>
    .error (.unreadable
      ("decoding with 'punycode' codec failed (UnicodeError: " ++ reason ++ ")"))
  | r => r

/-- The text that a label stands for. -/
def decodeLabel (label : List Char) : Except Undecodable (List Char) := do
  if !mark.isPrefixOf label then return label
  let numbers ← unmarked label
  match asciiForm numbers with
  | .error p => throw (.unreadable p.message)
  | .ok back =>
    if back = label.map Char.toLower then return numbers.map Char.ofNat
    else throw (.unreadable (LabelProblem.noWayBack label back).message)

/-- The characters of the labels of bytes. -/
def decode (bs : List UInt8) : Except Undecodable (List Char) := do
  let text ← Punycode.asciiOf bs
  let labels ← (text.splitOn '.').mapM decodeLabel
  return ['.'].intercalate labels

end Label

end SdkGen.Text
