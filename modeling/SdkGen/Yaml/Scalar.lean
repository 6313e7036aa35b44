import SdkGen.Problem
import SdkGen.Text.Base64
import SdkGen.Text.Case
import SdkGen.Yaml.Named
import SdkGen.Yaml.Tag

/-!
# Values of YAML scalars

What a scalar with a tag stands for. The tag may have been given to a text of another form, so a text
is read once more, and need not be what its tag says. It may hold halves of characters; those show where the text
is shown.
-/

namespace SdkGen.Yaml.Scalar

/-- Some characters of a text as they are shown. -/
def shown (t : Text.HalvedText) (cs : List Char) : String := (t.part (String.ofList cs)).quoted

/-- A truth value. -/
def bool (t : Text.HalvedText) : Except Fault Value :=
  let word := Text.toLower t.text
  if word ∈ ["yes", "true", "on"] then .ok (.bool true)
  else if word ∈ ["no", "false", "off"] then .ok (.bool false)
  else if t.halves then .error (.raised "KeyError" (t.part word).quoted)
  else .error (.missingKey word)

/-- Places of sixty, the highest first. -/
def sixtieths (places : List Int) : Int := places.foldl (fun n p => 60 * n + p) 0

/-- The magnitude of a whole number, in the notation that its first characters show. -/
def magnitude (t : Text.HalvedText) : List Char → Except Fault Int
  | [] => .error .noCharacter
  | ['0'] => .ok 0
  | '0' :: 'b' :: cs => Text.readInt (shown t) 2 cs
  | '0' :: 'x' :: cs => Text.readInt (shown t) 16 cs
  | '0' :: cs => Text.readInt (shown t) 8 ('0' :: cs)
  | cs =>
    if cs.contains ':' then do
      return sixtieths (← (Text.splitAtChar ':' cs).mapM (Text.readInt (shown t) 10))
    else Text.readInt (shown t) 10 cs

/-- A whole number; underscores in it are passed over. -/
def int (t : Text.HalvedText) : Except Fault Value :=
  match t.text.toList.filter (· != '_') with
  | [] => .error .noCharacter
  | cs => do
    let (negative, cs) := Text.splitSign cs
    let n ← magnitude t cs
    return .int (if negative then -n else n)

/-- Places of sixty, the lowest first. -/
def floatSixtieths (places : List Float) : Float :=
  (places.foldl (fun (acc : Float × Float) p => (acc.1 + p * acc.2, 60 * acc.2)) (0, 1)).1

/-- A decimal; underscores in it are passed over. -/
def float (t : Text.HalvedText) : Except Fault Value :=
  match (Text.toLower (String.ofList (t.text.toList.filter (· != '_')))).toList with
  | [] => .error .noCharacter
  | cs => do
    let (negative, cs) := Text.splitSign cs
    let x ← match String.ofList cs with
      | ".inf" => pure (1 / 0)
      | ".nan" => pure (0 / 0)
      | _ =>
        if cs.contains ':' then do
          pure (floatSixtieths (← (Text.splitAtChar ':' cs).mapM (Text.readFloat (shown t))).reverse)
        else Text.readFloat (shown t) cs
    return .float (if negative then -x else x)

/-- A date or time; an end of line behind it does not count. -/
def moment (s : String) : Except Fault Value :=
  let cs := s.toList
  let cs := if cs.getLast? = some '\n' then cs.dropLast else cs
  match Stamp.read? cs with
  | some stamp => stamp.moment.map .moment
  | none => .error (.noValue "groupdict")

/-- A text of bytes. -/
def bytes (s : String) : Except Problem Value :=
  if s.toList.all (·.toNat < 0x80) then (Problem.need (Text.Base64.decode? s.toList)).map .bytes
  else .error .malformed

/-- A complex number. -/
def complex (t : Text.HalvedText) : Except Fault Value := do
  let (re, im) ← Text.readComplex (shown t) t.text.toList
  return .complex re im

/-- What a scalar stands for, if its tag is one for scalars. -/
def value (places : Places) (tag : Tag) (t : Text.HalvedText) : Except Problem Value :=
  match tag with
  | .null => .ok .null
  | .bool => (bool t).mapError .fault
  | .int => (int t).mapError .fault
  | .float => (float t).mapError .fault
  | .moment => (moment t.text).mapError .fault
  | .text => .ok (.ofHalved t)
  | .bytes => bytes t.text
  | .complex => (complex t).mapError .fault
  | .named name => if t.text = "" then named places name else .error .malformed
  | _ => .error .malformed

end SdkGen.Yaml.Scalar
