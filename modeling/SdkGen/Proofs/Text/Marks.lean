import Mathlib.Data.List.Infix
import Mathlib.Data.List.TakeWhile
import Mathlib.Tactic.Basic
import SdkGen.Text.Blank

/-!
# Marks in texts

A mark in a text that is put together from parts is in one of the parts, as long as no character of the mark comes
between them. So blanks at the ends and the ends of lines may be passed over when a mark without blanks is looked for.

Main statements: `infix_intercalate_iff` (a mark in joined texts is in one of them), `infix_trim_iff` (trimming leaves
all marks where they are) and `onlyAtEnd_append_iff` (when a mark that is put behind a text comes first at the end).
-/

namespace SdkGen.Text

/-- A mark stands at the end of a text and nowhere before. -/
def OnlyAtEnd (mark cs : List Char) : Prop :=
  mark <:+ cs ∧ ∀ before after, cs = before ++ mark ++ after → after = []

variable {mark cs front back : List Char} {x : Char}

/-- A mark does not reach across a character that is not in it. -/
theorem infix_append_cons_iff (hx : x ∉ mark) (hne : mark ≠ []) (front back : List Char) :
    mark <:+: front ++ x :: back ↔ mark <:+: front ∨ mark <:+: back := by
  have hempty {l : List Char} (hl : l <+: x :: back) (hmem : x ∉ l) : l = [] := by
    rcases List.prefix_cons_iff.1 hl with rfl | ⟨_, rfl, -⟩
    · rfl
    · exact absurd List.mem_cons_self hmem
  rw [List.infix_append_iff, List.infix_cons_iff]
  constructor
  · rintro (h | (h | h) | ⟨l, l', rfl, hl, hl'⟩)
    · exact .inl h
    · exact absurd (hempty h hx) hne
    · exact .inr h
    · obtain rfl := hempty hl' fun hmem => hx (List.mem_append_right l hmem)
      rw [List.append_nil]
      exact .inl hl.isInfix
  · rintro (h | h)
    · exact .inl h
    · exact .inr (.inl (.inr h))

/-- A mark in joined texts is in one of them. -/
theorem infix_intercalate_iff (hx : x ∉ mark) (hne : mark ≠ []) (texts : List (List Char)) :
    mark <:+: [x].intercalate texts ↔ ∃ text ∈ texts, mark <:+: text := by
  induction texts with
  | nil => simp [hne]
  | cons text texts ih =>
    by_cases htexts : texts = []
    · simp [htexts]
    · rw [List.intercalate_cons_of_ne_nil htexts, List.append_assoc, List.singleton_append,
        infix_append_cons_iff hx hne, ih, List.exists_mem_cons_iff]

/-- No mark begins or ends among characters that are not in it. -/
lemma infix_append_left_iff (hback : ∀ ch ∈ back, ch ∉ mark) (hne : mark ≠ []) :
    mark <:+: front ++ back ↔ mark <:+: front := by
  induction back generalizing front with
  | nil => rw [List.append_nil]
  | cons ch back ih =>
    have hnil : mark <:+: [] ++ back ↔ mark <:+: [] := ih fun ch hch => hback ch (List.mem_cons_of_mem _ hch)
    rw [infix_append_cons_iff (hback ch List.mem_cons_self) hne, ← List.nil_append back, hnil]
    simp [hne]

/-- Behind characters that are not in a mark, the mark is found just if it is behind them. -/
lemma infix_append_right_iff (hfront : ∀ ch ∈ front, ch ∉ mark) (hne : mark ≠ []) :
    mark <:+: front ++ back ↔ mark <:+: back := by
  induction front with
  | nil => rw [List.nil_append]
  | cons ch front ih =>
    rw [← ih fun ch hch => hfront ch (List.mem_cons_of_mem _ hch)]
    simpa [hne] using infix_append_cons_iff (hfront ch List.mem_cons_self) hne [] (front ++ back)

/-! ## Blanks -/

/-- What trimming at the end takes off is blank. -/
lemma exists_trimRight_append (cs : List Char) : ∃ blanks, cs = trimRight cs ++ blanks ∧ ∀ ch ∈ blanks, isBlank ch := by
  refine ⟨(cs.reverse.takeWhile isBlank).reverse, ?_, fun ch hch => ?_⟩
  · rw [trimRight, ← List.reverse_append, List.takeWhile_append_dropWhile, List.reverse_reverse]
  · exact List.mem_takeWhile_imp (List.mem_reverse.1 hch)

section Blanks

variable (hblank : ∀ ch ∈ mark, isBlank ch = false) (hne : mark ≠ [])

include hblank in
/-- There is no blank in a mark. -/
lemma notMem_of_isBlank {ch : Char} (hch : isBlank ch) : ch ∉ mark := by
  intro hmem
  rw [hblank ch hmem] at hch
  cases hch

include hblank hne in
/-- Trimming at the end leaves all marks without blanks where they are. -/
lemma infix_trimRight_iff (cs : List Char) : mark <:+: trimRight cs ↔ mark <:+: cs := by
  obtain ⟨blanks, heq, hblanks⟩ := exists_trimRight_append cs
  conv_rhs => rw [heq]
  exact (infix_append_left_iff (fun ch hch => notMem_of_isBlank hblank (hblanks ch hch)) hne).symm

include hblank hne in
/-- Trimming leaves all marks without blanks where they are. -/
theorem infix_trim_iff (cs : List Char) : mark <:+: trim cs ↔ mark <:+: cs := by
  have hfront (ch : Char) (hch : ch ∈ cs.takeWhile isBlank) : ch ∉ mark :=
    notMem_of_isBlank hblank (List.mem_takeWhile_imp hch)
  rw [trim, infix_trimRight_iff hblank hne, trimLeft]
  conv_rhs => rw [← List.takeWhile_append_dropWhile (p := isBlank) (l := cs)]
  exact (infix_append_right_iff hfront hne).symm

end Blanks

/-! ## Marks at the end -/

/-- A mark that is put behind a text comes first at the end if there is none in the text and all of the mark but its
last character. -/
theorem onlyAtEnd_append_iff (hne : mark ≠ []) : OnlyAtEnd mark (cs ++ mark) ↔ ¬mark <:+: cs ++ mark.dropLast := by
  constructor
  · rintro ⟨-, hlast⟩ ⟨before, after, h⟩
    have hwhole : cs ++ mark = before ++ mark ++ (after ++ [mark.getLast hne]) := by
      rw [← List.append_assoc, h, List.append_assoc, List.dropLast_append_getLast]
    exact absurd (hlast _ _ hwhole) (by simp)
  · intro hnot
    refine ⟨List.suffix_append _ _, fun before after h => ?_⟩
    rcases List.eq_nil_or_concat after with rfl | ⟨after, last, rfl⟩
    · rfl
    · have hdrop := congrArg List.dropLast h
      rw [List.dropLast_append_of_ne_nil hne, List.concat_eq_append, ← List.append_assoc,
        List.dropLast_concat] at hdrop
      exact absurd ⟨before, after, hdrop.symm⟩ hnot

end SdkGen.Text
