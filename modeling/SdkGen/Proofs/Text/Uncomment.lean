import Mathlib.Data.List.Forall2
import SdkGen.Proofs.Text.Comment

/-!
# Reading comment blocks back

A comment block keeps the lines of its text but for the blanks at the ends of lines and of the whole text, so it is the
same for two texts exactly if these lines are the same. Taking off as many characters as the marker has gives the lines
back, whatever they are: a blank line is the bare marker, which is not longer than the marker.

Main statements: `commentLine_eq` (what a line of a comment block is), `map_drop_commentChars` (how the lines are read
back) and `commentBlock_eq_iff`.
-/

namespace SdkGen.Text

/-- The lines of a text that a comment block keeps: those of the trimmed text, without the blanks at their ends. -/
def keptLines (text : List Char) : List (List Char) := (splitLines (trim text)).map trimRight

/-- A line as it stands in a comment block: behind the marker without the blanks at its end, or the bare marker if
nothing else is left. -/
structure IsCommentOf (marker line out : List Char) : Prop where
  text : out = if trimRight line = [] then trimRight marker else marker ++ trimRight line
  marked : trimRight marker <+: out
  trimmed : ∀ ch ∈ out.getLast?, isBlank ch = false
  rest : out.drop marker.length = trimRight line

variable {cs marker line text text' : List Char}

/-! ## Trimming at the end -/

/-- A trimmed text is the front of the text. -/
lemma prefix_trimRight (cs : List Char) : trimRight cs <+: cs := by
  obtain ⟨blanks, heq, -⟩ := exists_trimRight_append cs
  exact ⟨blanks, heq.symm⟩

/-- A trimmed text is trimmed. -/
lemma trimRight_trimRight (cs : List Char) : trimRight (trimRight cs) = trimRight cs :=
  trimRight_of_getLast (not_isBlank_getLast_trimRight cs)

/-! ## Lines -/

/-- A line of a comment block is read back by taking off as many characters as the marker has. -/
lemma isCommentOf_commentLine (marker line : List Char) : IsCommentOf marker line (commentLine marker line) where
  text := trimRight_append_eq marker line
  marked := by
    rw [commentLine, trimRight_append_eq]
    split
    · exact List.prefix_rfl
    · exact (prefix_trimRight marker).trans (List.prefix_append _ _)
  trimmed := not_isBlank_getLast_trimRight _
  rest := by
    rw [commentLine, trimRight_append_eq]
    split
    · next hblank =>
      rw [hblank, List.drop_eq_nil_iff]
      exact (prefix_trimRight marker).length_le
    · exact List.drop_left

/-- A line is trimmed when it becomes a comment. -/
lemma commentLine_trimRight (marker line : List Char) :
    commentLine marker (trimRight line) = commentLine marker line := by
  rw [commentLine, commentLine, trimRight_append_eq, trimRight_append_eq, trimRight_trimRight]

/-- A comment is not empty if its marker is not blank. -/
lemma commentLine_ne_nil (hmarker : trimRight marker ≠ []) (line : List Char) : commentLine marker line ≠ [] :=
  (isCommentOf_commentLine marker line).marked.ne_nil hmarker

/-- A text with something in it that is not blank is not empty when it is trimmed. -/
lemma trimRight_ne_nil {ch : Char} (hmem : ch ∈ cs) (hch : isBlank ch = false) : trimRight cs ≠ [] := by
  intro hnil
  obtain ⟨blanks, heq, hblanks⟩ := exists_trimRight_append cs
  rw [hnil, List.nil_append] at heq
  have hblank := hblanks ch (heq ▸ hmem)
  rw [hch] at hblank
  cases hblank

/-! ## Blocks -/

/-- Only a blank text keeps nothing but an empty line. -/
lemma keptLines_eq_iff (text : List Char) : keptLines text = [[]] ↔ trim text = [] := by
  constructor
  · intro h
    obtain ⟨line, hlines, hline⟩ := List.map_eq_singleton_iff.1 h
    -- a text of one line is that line, and it does not end in a blank
    have hline' : trim text = line := by
      rw [← intercalate_splitLines (trim text), hlines]
      simp
    rw [← hline', trim, trimRight_trimRight] at hline
    exact hline
  · intro h
    rw [keptLines, h]
    rfl

/-- A text that is not blank becomes the comments of the lines that are kept. -/
lemma commentChars_eq_of_ne_nil (htext : trim text ≠ []) :
    commentChars marker text = ['\n'].intercalate ((keptLines text).map (commentLine marker)) := by
  have hlines : (keptLines text).map (commentLine marker) = (splitLines (trim text)).map (commentLine marker) := by
    rw [keptLines, List.map_map]
    exact List.map_congr_left fun line _ => commentLine_trimRight marker line
  rw [hlines, commentChars.eq_def]
  split
  · next hnil => exact absurd hnil htext
  · rfl

section Blocks

variable (hfeed : '\n' ∉ marker) (hmarker : trimRight marker ≠ [])

include hfeed in
/-- The kept lines are what is left of the lines of a comment block without the markers. -/
lemma map_drop_commentChars (htext : trim text ≠ []) :
    (splitLines (commentChars marker text)).map (List.drop marker.length) = keptLines text := by
  rw [splitLines_commentChars hfeed, if_neg htext, List.map_map]
  exact List.map_congr_left fun line _ => (isCommentOf_commentLine marker line).rest

include hfeed hmarker in
/-- A text becomes no comment just if it is blank. -/
lemma commentChars_eq_nil_iff (text : List Char) : commentChars marker text = [] ↔ trim text = [] := by
  constructor
  · exact trim_eq_nil_of_commentChars hfeed (commentLine_ne_nil hmarker)
  · intro h
    rw [commentChars, h]

include hfeed hmarker in
/-- Two texts have one comment block exactly if the same lines are kept of them. -/
theorem commentChars_eq_iff (text text' : List Char) :
    commentChars marker text = commentChars marker text' ↔ keptLines text = keptLines text' := by
  by_cases hblank : trim text = []
  -- only a blank text has an empty block, since a marker stands on each line of another one
  · rw [(commentChars_eq_nil_iff hfeed hmarker text).2 hblank, (keptLines_eq_iff text).2 hblank, @eq_comm _ [],
      commentChars_eq_nil_iff hfeed hmarker, @eq_comm _ [[]], keptLines_eq_iff]
  · constructor
    · intro h
      have hblank' : trim text' ≠ [] := by
        rwa [Ne, ← commentChars_eq_nil_iff hfeed hmarker, ← h, commentChars_eq_nil_iff hfeed hmarker]
      rw [← map_drop_commentChars hfeed hblank, h, map_drop_commentChars hfeed hblank']
    · intro h
      have hblank' : trim text' ≠ [] := by
        rwa [Ne, ← keptLines_eq_iff, ← h, keptLines_eq_iff]
      rw [commentChars_eq_of_ne_nil hblank, h, commentChars_eq_of_ne_nil hblank']

end Blocks

variable {indent mark : String}

/-- Two texts have one comment block exactly if the same lines are kept of them; no text is a blank one. The lines of
the block of a text that is not blank are those of the trimmed text, each behind the marker. -/
theorem commentBlock_eq_iff (hfeed : '\n' ∉ (indent ++ mark).toList) (hmark : ∃ ch ∈ mark.toList, isBlank ch = false) :
    (∀ text text' : Option String, commentBlock text indent mark = commentBlock text' indent mark ↔
      keptLines (text.getD "").toList = keptLines (text'.getD "").toList) ∧
    ∀ text : Option String, trim (text.getD "").toList ≠ [] →
      List.Forall₂ (IsCommentOf (indent ++ mark).toList) (splitLines (trim (text.getD "").toList))
        (splitLines (commentBlock text indent mark).toList) := by
  have hmarker : trimRight (indent ++ mark).toList ≠ [] := by
    obtain ⟨ch, hmem, hch⟩ := hmark
    exact trimRight_ne_nil (by simp [hmem]) hch
  constructor
  · intro text text'
    rw [commentBlock, commentBlock, String.ofList_inj, commentChars_eq_iff hfeed hmarker]
  · intro text htext
    rw [commentBlock, String.toList_ofList, splitLines_commentChars hfeed, if_neg htext, List.forall₂_map_right_iff,
      List.forall₂_same]
    exact fun line _ => isCommentOf_commentLine _ line

/-- Two texts that differ in blanks at the ends of lines have one comment block, whose blank line is the bare marker. -/
theorem commentBlock_eq_iff_sample :
    '\n' ∉ ("  " ++ "// ").toList ∧ (∃ ch ∈ "// ".toList, isBlank ch = false) ∧
    trim "\ta \n\n  b".toList ≠ [] ∧
    commentBlock (some "\ta \n\n  b") "  " "// " = commentBlock (some "a\n \n  b\n") "  " "// " ∧
    List.Forall₂ (IsCommentOf "  // ".toList) ["a ".toList, [], "  b".toList]
      ["  // a".toList, "  //".toList, "  //   b".toList] := by
  have hfeed : '\n' ∉ ("  " ++ "// ").toList := by decide
  have hmark : ∃ ch ∈ "// ".toList, isBlank ch = false := ⟨'/', by decide, by decide⟩
  have htext : trim "\ta \n\n  b".toList ≠ [] := by decide
  obtain ⟨hsame, hlines⟩ := commentBlock_eq_iff hfeed hmark
  exact ⟨hfeed, hmark, htext, (hsame _ _).2 (by decide), hlines (some "\ta \n\n  b") htext⟩

end SdkGen.Text
