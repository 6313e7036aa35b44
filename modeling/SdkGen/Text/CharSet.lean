import Std.Data.HashMap

/-!
# Sets and maps of characters

Large character classes and character maps are kept as rows of text: hexadecimal gaps and lengths,
decoded once. A set is a list of ranges. A map sends a character to a list of characters and every
character that it does not name to itself.
-/

namespace SdkGen.Text

/-- Characters are hashed by their code points. -/
instance hashableChar : Hashable Char := instHashableChar

/-- The value of a lower-case hexadecimal digit. -/
def hexDigitValue (c : Char) : Nat :=
  if c.toNat < 0x3A then c.toNat - 0x30 else c.toNat - 0x57

/-- The number that a lower-case hexadecimal numeral writes. -/
def hexValue (s : String) : Nat :=
  s.toList.foldl (fun n c => 16 * n + hexDigitValue c) 0

/-- A set of characters, as ranges of code points with both ends included. -/
structure CharSet where
  /-- The ranges, in ascending order. -/
  ranges : List (Nat × Nat)

namespace CharSet

/-- Whether a character is in the set. -/
def contains (s : CharSet) (c : Char) : Bool :=
  s.ranges.any fun r => r.1 ≤ c.toNat && c.toNat ≤ r.2

/-- Reads a set from rows of entries `gap.length`: so many code points are out, so many are in. -/
def ofRows (rows : List String) : CharSet :=
  let step := fun (acc : Nat × List (Nat × Nat)) (entry : String) =>
    match (entry.splitOn ".").map hexValue with
    | [gap, len] => (acc.1 + gap + len, (acc.1 + gap, acc.1 + gap + len - 1) :: acc.2)
    | _ => acc
  ⟨((rows.flatMap (·.splitOn " ")).foldl step (0, [])).2.reverse⟩

end CharSet

/-- A map from characters to texts that keeps the characters it does not name. -/
structure CharMap where
  /-- The characters that change, and what they become. -/
  table : Std.HashMap Char (List Char)

namespace CharMap

/-- What a character becomes. -/
def apply (m : CharMap) (c : Char) : List Char := m.table.getD c [c]

/-- Reads a map from rows of entries `gap,image` or `gap+length,image`. An image is a list of code
points joined by dots; along a run of characters an image of one character runs along as well. -/
def ofRows (rows : List String) : CharMap :=
  let step := fun (acc : Nat × Std.HashMap Char (List Char)) (entry : String) =>
    match entry.splitOn "," with
    | [run, image] =>
      let (gap, len) := match (run.splitOn "+").map hexValue with
        | [gap, len] => (gap, len)
        | parts => (parts.headD 0, 1)
      let start := acc.1 + gap
      let codes := (image.splitOn ".").map hexValue
      let table := (List.range len).foldl
        (fun t i => t.insert (Char.ofNat (start + i)) (codes.map fun n => Char.ofNat (n + i))) acc.2
      (start + len, table)
    | _ => acc
  ⟨((rows.flatMap (·.splitOn " ")).foldl step (0, {})).2⟩

end CharMap

end SdkGen.Text
