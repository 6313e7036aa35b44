import SdkGen.Text.Decompose
import SdkGen.Text.Table.Composition

/-!
# Composed texts

A text is decomposed, and its marks are put in the order of their classes. Then each character takes up, one
after the other, the marks behind it with which it makes another character; a mark does not reach it past one
of its own class that stays, or of a higher one.

Main statement: `length_absorb_le`, nothing is added where a character takes up others.
-/

namespace SdkGen.Text

def markClasses : List (Nat × CharSet) := Table.markClasses.map fun c => (c.1, .ofRows c.2)

/-- The class of a mark; that of any other character is zero. -/
def markClass (c : Char) : Nat :=
  if c.toNat < 0x80 then 0 else ((markClasses.find? fun k => k.2.contains c).map (·.1)).getD 0

/-- Puts a character in front of a text, but behind the marks of lower classes there. -/
def place (c : Char) : List Char → List Char
  | [] => [c]
  | d :: ds => if 0 < markClass d && markClass d < markClass c then d :: place c ds else c :: d :: ds

/-- A text with its marks in order. -/
def inOrder (cs : List Char) : List Char := cs.foldr place []

/-- The characters that two others make, Hangul syllables apart. -/
def compositionTable : Std.HashMap (Char × Char) Char :=
  (CharMap.ofRows Table.composedRows).table.fold
    (fun table c parts =>
      match parts with
      | [a, b] => table.insert (a, b) c
      | _ => table)
    {}

/-- The Hangul syllable that a leading consonant makes with a vowel, or a syllable without a trailing consonant
with one. -/
def hangulSyllable? (a b : Char) : Option Char :=
  let first := a.toNat
  let second := b.toNat
  if 0x1100 ≤ first && first < 0x1113 && 0x1161 ≤ second && second < 0x1176 then
    some (Char.ofNat (0xAC00 + ((first - 0x1100) * 21 + (second - 0x1161)) * 28))
  else if 0xAC00 ≤ first && first < 0xD7A4 && (first - 0xAC00) % 28 = 0 &&
      0x11A7 < second && second < 0x11C3 then
    some (Char.ofNat (first + (second - 0x11A7)))
  else none

/-- The character that two others make. -/
def composed? (a b : Char) : Option Char := (hangulSyllable? a b).or compositionTable[(a, b)]?

/-- What a character becomes with those behind it that it takes up, and the others behind it; `highest` is the
class of the last mark that it passed over. -/
def absorb (c : Char) (highest : Nat) : List Char → Char × List Char
  | [] => (c, [])
  | d :: ds =>
    let skipped := fun (highest : Nat) =>
      let r := absorb c highest ds
      (r.1, d :: r.2)
    -- behind a mark that stays, the next character that is no mark is out of reach
    if 0 < highest && markClass d = 0 then (c, d :: ds)
    else if 0 < highest && markClass d ≤ highest then skipped highest
    else
      match composed? c d with
      | some e => absorb e highest ds
      | none => if markClass d = 0 then (c, d :: ds) else skipped (markClass d)

/-- Nothing is added where a character takes up others. -/
theorem length_absorb_le (c : Char) (highest : Nat) (ds : List Char) :
    (absorb c highest ds).2.length ≤ ds.length := by
  induction ds generalizing c highest with
  | nil => simp [absorb]
  | cons d ds ih =>
    unfold absorb
    dsimp only
    split
    · simp
    · split
      · simpa using ih c highest
      · split
        · exact Nat.le_succ_of_le (ih _ highest)
        · split
          · simp
          · simpa using ih c (markClass d)

/-- A decomposed text with its characters composed. -/
def composeFrom : List Char → List Char
  | [] => []
  | c :: cs =>
    let r := absorb c 0 cs
    r.1 :: composeFrom r.2
termination_by cs => cs.length
decreasing_by
  have := length_absorb_le c 0 cs
  simp
  omega

/-- A text with its characters decomposed in some way and composed again. -/
def recompose (decomposed : Char → List Char) (cs : List Char) : List Char :=
  composeFrom (inOrder (cs.flatMap decomposed))

end SdkGen.Text
