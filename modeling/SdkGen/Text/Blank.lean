/-!
# Blank characters and lines

The blank characters of a text, cutting them off at its ends, and splitting a text into lines at the
line feed. Everything works on lists of characters; the wrappers on `String` are at the end.

Main statements: `splitLines_ne_nil` (there is always a line), `intercalate_splitLines` (joining the
lines at line feeds gives the text back), `not_isBlank_getLast_trimRight` (nothing blank is left at
the end).
-/

namespace SdkGen.Text

/-- The blank characters: the control characters from tab to carriage return and from file to unit
separator, the space, and every space or line separator outside ASCII. -/
def isBlank (c : Char) : Bool :=
  let n := c.toNat
  (9 ≤ n && n ≤ 13) || (28 ≤ n && n ≤ 32) || n == 0x85 || n == 0xA0 || n == 0x1680 ||
    (0x2000 ≤ n && n ≤ 0x200A) || n == 0x2028 || n == 0x2029 || n == 0x202F || n == 0x205F ||
    n == 0x3000

/-- A text without the blanks at its start. -/
def trimLeft (cs : List Char) : List Char := cs.dropWhile isBlank

/-- A text without the blanks at its end. -/
def trimRight (cs : List Char) : List Char := (cs.reverse.dropWhile isBlank).reverse

/-- A text without the blanks at its ends. -/
def trim (cs : List Char) : List Char := trimRight (trimLeft cs)

/-- The pieces of a text between the occurrences of a character. -/
def splitAtChar (sep : Char) : List Char → List (List Char)
  | [] => [[]]
  | c :: cs =>
    if c = sep then [] :: splitAtChar sep cs
    else
      match splitAtChar sep cs with
      | [] => [[c]]
      | l :: ls => (c :: l) :: ls

/-- The lines of a text: the pieces between its line feeds. -/
def splitLines (cs : List Char) : List (List Char) := splitAtChar '\n' cs

/-- A text with every end of line written as a line feed. -/
def unifyLines : List Char → List Char
  | '\r' :: '\n' :: cs => '\n' :: unifyLines cs
  | '\r' :: cs => '\n' :: unifyLines cs
  | c :: cs => c :: unifyLines cs
  | [] => []

/-- The words of a text: the pieces between its blanks that are not empty. -/
def words (cs : List Char) : List (List Char) :=
  (splitAtChar ' ' (cs.map fun c => if isBlank c then ' ' else c)).filter fun w => !w.isEmpty

/-- There is always a piece. -/
theorem splitAtChar_ne_nil (sep : Char) (cs : List Char) : splitAtChar sep cs ≠ [] := by
  cases cs with
  | nil => simp [splitAtChar]
  | cons c cs =>
    by_cases h : c = sep
    · simp [splitAtChar, h]
    · cases hs : splitAtChar sep cs <;> simp [splitAtChar, h, hs]

/-- There is always a line. -/
theorem splitLines_ne_nil (cs : List Char) : splitLines cs ≠ [] := splitAtChar_ne_nil _ _

/-- A text without the separator is one piece. -/
theorem splitAtChar_of_not_mem {sep : Char} {cs : List Char} (h : sep ∉ cs) :
    splitAtChar sep cs = [cs] := by
  induction cs with
  | nil => rfl
  | cons c cs ih =>
    simp only [List.mem_cons, not_or] at h
    simp [splitAtChar, Ne.symm h.1, ih h.2]

/-- Joining the pieces at the separator gives the text back. -/
theorem intercalate_splitAtChar (sep : Char) (cs : List Char) :
    [sep].intercalate (splitAtChar sep cs) = cs := by
  induction cs with
  | nil => simp [splitAtChar]
  | cons c cs ih =>
    cases hs : splitAtChar sep cs with
    | nil => exact absurd hs (splitAtChar_ne_nil sep cs)
    | cons l ls =>
      rw [hs] at ih
      by_cases h : c = sep
      · subst h
        simp [splitAtChar, hs, List.intercalate] at *
        cases ls <;> simp_all [List.intersperse]
      · cases ls <;> simp_all [splitAtChar, List.intercalate, List.intersperse]

/-- Joining the lines at line feeds gives the text back. -/
theorem intercalate_splitLines (cs : List Char) : ['\n'].intercalate (splitLines cs) = cs :=
  intercalate_splitAtChar _ _

/-- No line feed is left inside a line. -/
theorem not_mem_of_mem_splitLines {cs l : List Char} (h : l ∈ splitLines cs) : '\n' ∉ l := by
  induction cs generalizing l with
  | nil => simp_all [splitLines, splitAtChar]
  | cons c cs ih =>
    unfold splitLines at h ih
    by_cases hc : c = '\n'
    · simp only [splitAtChar, hc, if_true, List.mem_cons] at h
      rcases h with rfl | h
      · simp
      · exact ih h
    · cases hs : splitAtChar '\n' cs with
      | nil => exact absurd hs (splitAtChar_ne_nil _ cs)
      | cons l' ls =>
        simp only [splitAtChar, hc, if_false, hs, List.mem_cons] at h
        rw [hs] at ih
        rcases h with rfl | h
        · have := ih (l := l') (by simp)
          simp only [List.mem_cons, not_or]
          exact ⟨fun e => hc e.symm, this⟩
        · exact ih (l := l) (by simp [h])

/-- What trimming at the end leaves does not end in a blank. -/
theorem not_isBlank_getLast_trimRight (cs : List Char) (c : Char)
    (h : (trimRight cs).getLast? = some c) : isBlank c = false := by
  rw [trimRight, List.getLast?_reverse] at h
  have := List.head?_dropWhile_not isBlank cs.reverse
  simp [h] at this
  exact this

/-- `String` form of `trim`. -/
def stripped (s : String) : String := String.ofList (trim s.toList)

/-- `String` form of `trimRight`. -/
def strippedRight (s : String) : String := String.ofList (trimRight s.toList)

/-- `String` form of `unifyLines`. -/
def unifiedLines (s : String) : String := String.ofList (unifyLines s.toList)

/-- `String` form of `splitLines`. -/
def linesOf (s : String) : List String := (splitLines s.toList).map String.ofList

end SdkGen.Text
