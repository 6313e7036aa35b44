import SdkGen.Decimal.Layout
import SdkGen.Text.Quoted
import SdkGen.Value

/-!
# Printing JSON

Documents are printed in ASCII: every other character is escaped by its code units. `compact` puts a
document on one line without blanks; `pretty` gives every item and every field a line of its own,
indented by two more spaces than the line of its bracket.
-/

namespace SdkGen.Json

/-- How numbers that are not finite are written. -/
def specialWords : Decimal.SpecialWords := ⟨"NaN", "Infinity", "-Infinity"⟩

/-- The escape of one code unit. -/
def escapeUnit (n : Nat) : List Char := '\\' :: 'u' :: Text.hexDigits 4 n

/-- A character inside a text. -/
def escapeChar (c : Char) : List Char :=
  if c = '"' then ['\\', '"']
  else if c = '\\' then ['\\', '\\']
  else if c = '\n' then ['\\', 'n']
  else if c = '\r' then ['\\', 'r']
  else if c = '\t' then ['\\', 't']
  else if c = '\x08' then ['\\', 'b']
  else if c = '\x0c' then ['\\', 'f']
  else if 0x20 ≤ c.toNat ∧ c.toNat ≤ 0x7E then [c]
  else if c.toNat < 0x10000 then escapeUnit c.toNat
  else
    let n := c.toNat - 0x10000
    escapeUnit (0xD800 + n / 0x400) ++ escapeUnit (0xDC00 + n % 0x400)

/-- A text between quotes. -/
def quote (s : String) : String := String.ofList ('"' :: s.toList.flatMap escapeChar ++ ['"'])

/-- The text of a value without items; sequences and mappings have none. -/
def scalarText : Value → String
  | .null => "null"
  | .bool b => if b then "true" else "false"
  | .int n => toString n
  | .float x => Decimal.floatText specialWords x
  | .text s => quote s
  | .complex _ _ | .halved _ | .bytes _ | .moment _ | .foreign _ | .sequence _ _ | .map _ => ""

/-- A key: texts as they are, other values as the text of their text. -/
def keyText : Value → String
  | .text s => quote s
  | v => quote (scalarText v)

/-- A line break with the indentation of a depth. -/
def breakAt (depth : Nat) : String := "\n" ++ String.ofList (List.replicate (2 * depth) ' ')

/-- Items between brackets, each on a line of its own. -/
def bracket (opening closing : String) (depth : Nat) (items : List String) : String :=
  if items.isEmpty then opening ++ closing
  else
    opening ++ breakAt (depth + 1) ++ String.intercalate ("," ++ breakAt (depth + 1)) items
      ++ breakAt depth ++ closing

mutual

/-- A document spread over lines, inside brackets of the given depth. -/
def pretty (depth : Nat) : Value → String
  | .sequence _ items => bracket "[" "]" depth (prettyItems (depth + 1) items)
  | .map entries => bracket "\x7b" "\x7d" depth (prettyEntries (depth + 1) entries)
  | v => scalarText v

/-- The items of a sequence, spread over lines. -/
def prettyItems (depth : Nat) : List Value → List String
  | [] => []
  | v :: vs => pretty depth v :: prettyItems depth vs

/-- The fields of a mapping, spread over lines. -/
def prettyEntries (depth : Nat) : List (Value × Value) → List String
  | [] => []
  | (k, v) :: es => (keyText k ++ ": " ++ pretty depth v) :: prettyEntries depth es

end

mutual

/-- A document on one line. -/
def compact : Value → String
  | .sequence _ items => "[" ++ String.intercalate "," (compactItems items) ++ "]"
  | .map entries => "\x7b" ++ String.intercalate "," (compactEntries entries) ++ "\x7d"
  | v => scalarText v

/-- The items of a sequence, on one line. -/
def compactItems : List Value → List String
  | [] => []
  | v :: vs => compact v :: compactItems vs

/-- The fields of a mapping, on one line. -/
def compactEntries : List (Value × Value) → List String
  | [] => []
  | (k, v) :: es => (keyText k ++ ":" ++ compact v) :: compactEntries es

end

end SdkGen.Json
