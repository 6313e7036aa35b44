import SdkGen.Text.Blank
import SdkGen.Text.Width

/-!
# Texts on a plain console

A plain console drops some control characters, and a tab goes on to the next column that is a multiple
of eight. A text in a column of a table gets as much room as its longest line takes before tabs
are expanded; what does not fit ends in an ellipsis, and lines other than the first stand below it.
-/

namespace SdkGen.Console

/-- Whether a character is shown at all. -/
def isShown (c : Char) : Bool := c.val ∉ [7, 8, 11, 12, 13]

/-- The distance of two stops of the tab, the first of which is the start of the line. -/
def tabWidth : Nat := 8

/-- The parts of a line between its tabs, each brought to the next stop. The blank that a tab is may be
hidden by a joiner before it, but the way to the stop is not. -/
def joinAtStops : List (List Char) → List Char
  | [] => []
  | [part] => part
  | part :: parts =>
    let column := Text.cellCount (part ++ [' '])
    let blanks := (tabWidth - column % tabWidth) % tabWidth
    part ++ List.replicate (blanks + 1) ' ' ++ joinAtStops parts

/-- Blanks in place of the tabs of a line. -/
def expandTabs (line : List Char) : List Char := joinAtStops (Text.splitAtChar '\t' line)

/-- The lines of a text as a plain console shows them. -/
def shownLines (cs : List Char) : List (List Char) :=
  (Text.splitLines (cs.filter isShown)).map expandTabs

/-- What a plain console shows of some characters. -/
def shown (cs : List Char) : String := String.ofList (['\n'].intercalate (shownLines cs))

/-- What a plain console shows of some characters in the last column of a table, where only the first line
has something before it. -/
def shownBelow (indent : Nat) (cs : List Char) : String :=
  String.ofList (('\n' :: List.replicate indent ' ').intercalate (shownLines cs))

/-- Whether a character ends a line of a column. -/
def endsLine (c : Char) : Bool := c.toNat ∈ [0x0A, 0x1C, 0x1D, 0x1E, 0x85, 0x2028, 0x2029]

/-- The room that a text gets in a column: the width of its longest line. -/
def room (cs : List Char) : Nat :=
  (Text.splitAtChar '\n' (cs.map fun c => if endsLine c then '\n' else c)).foldl
    (fun most l => max most (Text.cellCount l)) 0

/-- The first graphemes of a text that fill some cells. One that would stand half outside leaves a
blank. -/
def fill : Nat → List Text.Grapheme → List Char
  | 0, _ => []
  | _, [] => []
  | width + 1, g :: gs =>
    if g.width ≤ width + 1 then g.chars ++ fill (width + 1 - g.width) gs else [' ']

/-- A line in some cells, where an ellipsis stands for what is too long. -/
def fit (width : Nat) (line : List Char) : List Char :=
  if Text.cellCount line ≤ width then line
  else fill (width - 1) (Text.graphemes line) ++ ['…']

/-! ## Columns -/

/-- A text with parts that are styled in one way, each of which is printed on its own. -/
structure StyledText where
  chars : List Char
  /-- The start and the end of each part, in no order. -/
  parts : List (Nat × Nat) := []
deriving DecidableEq, Repr

/-- A line of a text, and where it is cut into segments. -/
structure CutLine where
  chars : List Char
  /-- The places between them where a segment ends, in no order. -/
  cuts : List Nat
deriving DecidableEq, Repr

namespace StyledText

/-- The ends of the parts. Those of a part without characters are lost where a text is taken apart at its
line ends or at its tabs. -/
def cuts (t : StyledText) : List Nat :=
  let apart := '\n' ∈ t.chars || '\t' ∈ t.chars
  (t.parts.filter fun part => !apart || part.1 < part.2).flatMap fun part => [part.1, part.2]

/-- Lines, the first of which starts at a place, with the cuts in each. -/
def linesFrom (cuts : List Nat) (start : Nat) : List (List Char) → List CutLine
  | [] => []
  | line :: lines =>
    ⟨line, (cuts.filter fun n => start < n && n < start + line.length).map (· - start)⟩ ::
      linesFrom cuts (start + line.length + 1) lines

def lines (t : StyledText) : List CutLine := linesFrom t.cuts 0 (Text.splitLines t.chars)

end StyledText

namespace CutLine

/-- A line with blanks in place of its tabs. -/
def expanded (l : CutLine) : CutLine :=
  ⟨expandTabs l.chars, l.cuts.map fun n => (expandTabs (l.chars.take n)).length⟩

/-- Characters, the first of which is at a place, cut into segments. -/
def segmentsFrom (cuts : List Nat) (place : Nat) : List Char → List (List Char)
  | [] => []
  | c :: cs =>
    match segmentsFrom cuts (place + 1) cs with
    | [] => [[c]]
    | s :: ss => if place + 1 ∈ cuts then [c] :: s :: ss else (c :: s) :: ss

def segments (l : CutLine) : List (List Char) := segmentsFrom l.cuts 0 l.chars

end CutLine

/-- The segments that some cells hold; the last of them may be held in part. -/
def crop : Nat → List (List Char) → List Char
  | _, [] => []
  | width, s :: ss =>
    if Text.cellCount s < width then s ++ crop (width - Text.cellCount s) ss
    else if Text.cellCount s = width then s
    else fill width (Text.graphemes s)

/-- A line as a column shows it. Segments may take more cells one by one than they do together. -/
def inColumn (width : Nat) (line : CutLine) : List Char :=
  let line := { line.expanded with chars := fit width line.expanded.chars }
  if (line.segments.map Text.cellCount).foldr (· + ·) 0 ≤ width then line.chars else crop width line.segments

/-- A line with blanks behind it up to some cells. -/
def padded (width : Nat) (line : List Char) : List Char :=
  line ++ List.replicate (width - Text.cellCount line) ' '

/-- The columns in front of the second column of a table whose first column is one mark wide. -/
def markIndent : Nat := 2

/-- What a plain console shows of a text in the second column of a table, whose first column is one mark
wide and shows it on the first line. -/
def besideMark (t : StyledText) : String :=
  String.ofList (('\n' :: List.replicate markIndent ' ').intercalate
    (t.lines.map fun line => padded (room t.chars) (inColumn (room t.chars) line)))

end SdkGen.Console
