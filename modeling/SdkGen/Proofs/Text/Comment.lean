import SdkGen.Proofs.Text.Marks
import SdkGen.Text.Comment

/-!
# Lines of comment blocks

Lines that are put together at line feeds are read back, and so are the lines of a comment block: whatever the text is,
each of them begins with the marker. What is in a comment block besides the markers is in its text.

Main statements: `splitLines_commentChars` (the lines of a comment block), `prefix_commentLine` (each line begins with
the marker) and `infix_commentChars_iff` (a mark that is not in the markers is in a comment block if it is in the text).
-/

namespace SdkGen.Text

variable {cs front back marker mark text : List Char}

/-! ## Lines -/

/-- A line feed ends a line. -/
theorem splitLines_append_cons (cs cs' : List Char) :
    splitLines (cs ++ '\n' :: cs') = splitLines cs ++ splitLines cs' := by
  induction cs with
  | nil => rfl
  | cons ch cs ih =>
    rw [splitLines] at ih ⊢
    rw [List.cons_append, splitAtChar, splitLines, splitAtChar]
    by_cases hch : ch = '\n'
    · rw [if_pos hch, if_pos hch, ih]
      rfl
    · obtain ⟨line, lines, hlines⟩ := List.exists_cons_of_ne_nil (splitLines_ne_nil cs)
      rw [splitLines] at hlines
      rw [if_neg hch, if_neg hch, ih, splitLines, hlines]
      rfl

/-- A text without line feeds is one line. -/
lemma splitLines_of_notMem (h : '\n' ∉ cs) : splitLines cs = [cs] := splitAtChar_of_not_mem h

/-- The lines of texts that are joined at line feeds are those of the texts. -/
theorem splitLines_intercalate {texts : List (List Char)} (h : texts ≠ []) :
    splitLines (['\n'].intercalate texts) = texts.flatMap splitLines := by
  induction texts with
  | nil => exact absurd rfl h
  | cons text texts ih =>
    by_cases htexts : texts = []
    · simp [htexts]
    · rw [List.intercalate_cons_of_ne_nil htexts, List.append_assoc, List.singleton_append, splitLines_append_cons,
        ih htexts, List.flatMap_cons]

/-- The lines of two texts with a line feed between them are those of both. -/
lemma linesOf_append (s s' : String) : linesOf (s ++ "\n" ++ s') = linesOf s ++ linesOf s' := by
  have hchars : (s ++ "\n" ++ s').toList = s.toList ++ '\n' :: s'.toList := by simp
  rw [linesOf, hchars, splitLines_append_cons, List.map_append]
  rfl

/-- A text without line feeds is one line. -/
lemma linesOf_of_notMem {s : String} (h : '\n' ∉ s.toList) : linesOf s = [s] := by
  rw [linesOf, splitLines_of_notMem h, List.map_singleton, String.ofList_toList]

/-- The lines of texts with line feeds between them are those of all. -/
lemma linesOf_intercalate {texts : List String} (h : texts ≠ []) :
    linesOf (String.intercalate "\n" texts) = texts.flatMap linesOf := by
  induction texts with
  | nil => exact absurd rfl h
  | cons text texts ih =>
    by_cases htexts : texts = []
    · simp [htexts]
    · rw [String.intercalate_cons_of_ne_nil htexts, linesOf_append, ih htexts, List.flatMap_cons]

/-! ## Lines of a comment block -/

/-- Trimming goes on past a text that is blank. -/
lemma trimRight_append_eq (front back : List Char) :
    trimRight (front ++ back) = if trimRight back = [] then trimRight front else front ++ trimRight back := by
  simp only [trimRight, List.reverse_append, List.dropWhile_append, List.reverse_eq_nil_iff, List.isEmpty_iff]
  split
  · rfl
  · rw [List.reverse_append, List.reverse_reverse]

/-- A text whose last character is not blank stays as it is. -/
lemma trimRight_of_getLast (h : ∀ ch ∈ cs.getLast?, isBlank ch = false) : trimRight cs = cs := by
  rw [← List.head?_reverse] at h
  cases hrev : cs.reverse with
  | nil => rw [List.reverse_eq_nil_iff.1 hrev, trimRight, List.reverse_nil, List.dropWhile_nil, List.reverse_nil]
  | cons ch rest =>
    rw [hrev] at h
    rw [trimRight, hrev, List.dropWhile_cons_of_neg (by simp [h ch rfl]), ← hrev, List.reverse_reverse]

/-- Nothing is trimmed from a text up to a character that is not blank. -/
lemma trimRight_append (h : ∀ ch ∈ front.getLast?, isBlank ch = false) (back : List Char) :
    trimRight (front ++ back) = front ++ trimRight back := by
  rw [trimRight_append_eq]
  split
  · next hnil => rw [trimRight_of_getLast h, hnil, List.append_nil]
  · rfl

/-- A line of a comment block begins with the marker, up to a blank at the end of the marker. -/
theorem prefix_commentLine (h : ∀ ch ∈ front.getLast?, isBlank ch = false) (line : List Char) :
    front <+: commentLine (front ++ [' ']) line := by
  rw [commentLine, List.append_assoc, trimRight_append h]
  exact List.prefix_append _ _

/-- No line of a comment block is broken. -/
lemma notMem_commentLine {line : List Char} (hmarker : '\n' ∉ marker) (hline : '\n' ∉ line) :
    '\n' ∉ commentLine marker line := by
  obtain ⟨blanks, heq, -⟩ := exists_trimRight_append (marker ++ line)
  intro hmem
  have hmem : '\n' ∈ marker ++ line := by
    rw [heq]
    exact List.mem_append_left _ hmem
  rcases List.mem_append.1 hmem with hmem | hmem
  · exact hmarker hmem
  · exact hline hmem

/-- The lines of a comment block are those of the trimmed text, each behind the marker; without a text there is nothing
but an empty line. -/
theorem splitLines_commentChars (hmarker : '\n' ∉ marker) (text : List Char) :
    splitLines (commentChars marker text) =
      if trim text = [] then [[]] else (splitLines (trim text)).map (commentLine marker) := by
  have hlines : ∀ line ∈ (splitLines (trim text)).map (commentLine marker), splitLines line = [line] := by
    intro line hline
    obtain ⟨line, hmem, rfl⟩ := List.mem_map.1 hline
    exact splitLines_of_notMem (notMem_commentLine hmarker (not_mem_of_mem_splitLines hmem))
  rw [commentChars.eq_def]
  split
  · next hnil =>
    rw [if_pos hnil]
    rfl
  · next body hbody =>
    rw [if_neg hbody, splitLines_intercalate (by simp [splitLines_ne_nil]), List.flatMap_congr hlines]
    simp

/-- A line of a comment block begins with the marker, unless it is empty. -/
lemma eq_empty_or_prefix_of_mem_linesOf {text : Option String} {indent marker line : String} (front : List Char)
    (hmarker : (indent ++ marker).toList = front ++ [' ']) (hfeed : '\n' ∉ front)
    (hfront : ∀ ch ∈ front.getLast?, isBlank ch = false) (h : line ∈ linesOf (commentBlock text indent marker)) :
    line = "" ∨ front <+: line.toList := by
  have hfeed : '\n' ∉ front ++ [' '] := by simpa using hfeed
  obtain ⟨chars, hchars, rfl⟩ := List.mem_map.1 h
  rw [commentBlock, String.toList_ofList, hmarker, splitLines_commentChars hfeed] at hchars
  split at hchars
  · obtain rfl : chars = [] := by simpa using hchars
    exact .inl rfl
  · obtain ⟨line, -, rfl⟩ := List.mem_map.1 hchars
    rw [String.toList_ofList]
    exact .inr (prefix_commentLine hfront line)

/-- Only a blank text has an empty comment block. -/
lemma trim_eq_nil_of_commentChars (hmarker : '\n' ∉ marker) (hline : ∀ line, commentLine marker line ≠ [])
    (h : commentChars marker text = []) : trim text = [] := by
  by_contra htrim
  have hlines := splitLines_commentChars hmarker text
  rw [h, if_neg htrim] at hlines
  obtain ⟨line, lines, hbody⟩ := List.exists_cons_of_ne_nil (splitLines_ne_nil (trim text))
  rw [hbody, List.map_cons] at hlines
  exact hline line (List.cons.inj hlines).1.symm

/-! ## Marks in a comment block -/

section Marks

variable (hblank : ∀ ch ∈ mark, isBlank ch = false) (hne : mark ≠ []) (hfront : ¬mark <:+: front)

include hblank hne hfront in
/-- A mark stands in the comment just if it stands in the line. -/
lemma infix_commentLine_iff (line : List Char) : mark <:+: commentLine (front ++ [' ']) line ↔ mark <:+: line := by
  rw [commentLine, infix_trimRight_iff hblank hne, List.append_assoc, List.singleton_append,
    infix_append_cons_iff (notMem_of_isBlank hblank (by decide)) hne, or_iff_right hfront]

include hblank hne hfront in
/-- A mark without blanks that is not in the marker is in a comment block exactly if it is in the text. -/
theorem infix_commentChars_iff (text : List Char) :
    mark <:+: commentChars (front ++ [' ']) text ↔ mark <:+: text := by
  have hfeed : '\n' ∉ mark := notMem_of_isBlank hblank (by decide)
  rw [← infix_trim_iff hblank hne text, commentChars.eq_def]
  split
  · next hnil => rw [hnil]
  · rw [infix_intercalate_iff hfeed hne]
    conv_rhs => rw [← intercalate_splitLines (trim text), infix_intercalate_iff hfeed hne]
    simp only [List.mem_map, exists_exists_and_eq_and, infix_commentLine_iff hblank hne hfront]

end Marks

end SdkGen.Text
