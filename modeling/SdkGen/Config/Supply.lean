import SdkGen.Config.Schema
import SdkGen.Json.Reader

/-!
# Supplies

The fields of a configuration may come from several supplies. A list among them is written in JSON where it
is supplied as a text.
-/

namespace SdkGen.Config

/-- The most digits that a whole number in a list may have. -/
def maxDigits : Nat := 4300

mutual

/-- Whether a value holds a whole number of too many digits. -/
def holdsHuge : Value → Bool
  | .int n => Nat.pow 10 maxDigits ≤ n.natAbs
  | .sequence _ items => anyHuge items
  | .map entries => anyHugeEntry entries
  | _ => false

/-- Whether one of some values holds a whole number of too many digits. -/
def anyHuge : List Value → Bool
  | [] => false
  | v :: vs => holdsHuge v || anyHuge vs

/-- Whether the value of one of some entries holds a whole number of too many digits. -/
def anyHugeEntry : List (Value × Value) → Bool
  | [] => false
  | (_, v) :: es => holdsHuge v || anyHugeEntry es

end

/-- What is supplied for the fields of a configuration. -/
structure Supply where
  model : Option Value := none
  targets : Option Value := none
  /-- What is none of the fields. -/
  further : List (Text.HalvedText × Value) := []

mutual

/-- A value that was read from a text in which characters may stand for halves, as they do in its own texts. -/
def partOf (t : Text.HalvedText) : Value → Value
  | .text s => .ofHalved (t.part s)
  | .sequence kind items => .sequence kind (partsOf t items)
  | .map entries => .map (entriesOf t entries)
  | v => v

/-- The same for several values. -/
def partsOf (t : Text.HalvedText) : List Value → List Value
  | [] => []
  | v :: vs => partOf t v :: partsOf t vs

/-- The same for the values of entries. -/
def entriesOf (t : Text.HalvedText) : List (Value × Value) → List (Value × Value)
  | [] => []
  | (k, v) :: es => (k, partOf t v) :: entriesOf t es

end

/-- The value that a text in JSON gives for the targets; no value is as good as none. -/
def targetsOf (supply : String) (t : Text.HalvedText) : Except Mistake (Option Value) :=
  match Json.parse? t.text with
  | none => .error (.unreadableTargets supply)
  | some .null => .ok none
  | some v =>
    if holdsHuge v then .error (.unreadableTargets supply)
    else .ok (some (if t.halves then partOf t v else v))

end SdkGen.Config
