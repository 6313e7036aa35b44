import SdkGen.Proofs.Text.Comment
import SdkGen.Target.Declare

/-!
# Documentation in generated code

Descriptions and routes are written into docstrings and block comments as they are, so the text that documents something
may hold what ends its own block, and what follows is then read as code. `Python.IsDocstring` and
`TypeScript.IsBlockComment` say what a block is that is closed at its end and nowhere before.

Main statements: `Target.summary_contained_iff` (which texts stay inside their blocks, in both languages) and
`TypeScript.fitsComment_typeScriptDoc_iff` (a method is documented by its description, its verb and its endpoint, and
each of them can end the comment).
-/

namespace SdkGen

variable {indent : String} {s : String} {text : Option String}

/-! ## Docstrings -/

namespace Python

/-- What docstrings stand between. -/
def docQuotes : List Char := ['"', '"', '"']

/-- A text after which quotes are taken as they are: no backslash at its end is left without another one. -/
def EndsPaired (cs : List Char) : Prop := (cs.reverse.takeWhile (· = '\\')).length % 2 = 0

/-- A text is one docstring in a line of its own: the first quotes after the opening ones are at its end, and no
backslash takes them along. -/
def IsDocstring (indent s : String) : Prop :=
  ∃ body, s.toList = indent.toList ++ docQuotes ++ body ++ docQuotes ++ ['\n'] ∧
    Text.OnlyAtEnd docQuotes (body ++ docQuotes) ∧ EndsPaired body

/-- A text may stand in a docstring as it is. -/
structure FitsDocstring (s : String) : Prop where
  no_quotes : ¬docQuotes <:+: s.toList
  no_quote_last : s.toList.getLast? ≠ some '"'
  paired : EndsPaired s.toList

/-- The closing quotes come first if there are none in the text, and none of theirs is its last character. -/
lemma onlyAtEnd_docQuotes_iff (cs : List Char) :
    Text.OnlyAtEnd docQuotes (cs ++ docQuotes) ↔ ¬docQuotes <:+: cs ∧ cs.getLast? ≠ some '"' := by
  have hlonger : ¬docQuotes <:+: ['"', '"'] := fun h => absurd h.length_le (by decide)
  rw [Text.onlyAtEnd_append_iff (by decide), ← not_or, not_iff_not]
  show docQuotes <:+: cs ++ ['"', '"'] ↔ _
  rw [List.infix_append_iff]
  constructor
  · rintro (h | h | ⟨l, l', hl, hsuffix, hbegins⟩)
    · exact .inl h
    · exact absurd h hlonger
    · refine .inr ?_
      have hne : l ≠ [] := by
        rintro rfl
        rw [List.nil_append] at hl
        exact hlonger (hl ▸ hbegins.isInfix)
      have hquote : l.getLast hne = '"' := by
        have hmem : l.getLast hne ∈ docQuotes := hl ▸ List.mem_append_left _ (List.getLast_mem hne)
        simpa [docQuotes] using hmem
      obtain ⟨front, rfl⟩ := hsuffix
      rw [List.getLast?_append_of_ne_nil _ hne, List.getLast?_eq_some_getLast hne, hquote]
  · rintro (h | h)
    · exact .inl h
    · obtain ⟨front, rfl⟩ := List.getLast?_eq_some_iff.1 h
      exact .inr (.inr ⟨['"'], ['"', '"'], rfl, List.suffix_append _ _, List.prefix_rfl⟩)

/-- A text that is put between quotes is one docstring exactly if it may stand there as it is. -/
lemma isDocstring_iff : IsDocstring indent (indent ++ "\"\"\"" ++ s ++ "\"\"\"\n") ↔ FitsDocstring s := by
  have hchars : (indent ++ "\"\"\"" ++ s ++ "\"\"\"\n").toList =
      indent.toList ++ docQuotes ++ s.toList ++ docQuotes ++ ['\n'] := by
    simp [docQuotes]
  rw [IsDocstring, hchars]
  constructor
  · rintro ⟨body, heq, hend, hpaired⟩
    obtain rfl : s.toList = body := by simpa using heq
    obtain ⟨hno, hlast⟩ := (onlyAtEnd_docQuotes_iff _).1 hend
    exact ⟨hno, hlast, hpaired⟩
  · intro h
    exact ⟨s.toList, rfl, (onlyAtEnd_docQuotes_iff _).2 ⟨h.no_quotes, h.no_quote_last⟩, h.paired⟩

/-- A documentation line is one docstring, or there is none, exactly if its text may stand in a docstring as it is. -/
theorem summary_isDocstring_iff :
    (summary indent text = "" ∨ IsDocstring indent (summary indent text)) ↔ FitsDocstring (text.getD "") := by
  have hempty : FitsDocstring "" := ⟨by decide, by decide, rfl⟩
  rw [summary.eq_def]
  split
  · exact iff_of_true (.inl rfl) hempty
  · exact iff_of_true (.inl rfl) hempty
  · next s hs =>
    rw [or_iff_right (by simp), isDocstring_iff, Option.getD_some]

end Python

/-! ## Block comments -/

namespace TypeScript

/-- What ends a block comment. -/
def terminator : List Char := ['*', '/']

/-- A text is one block comment: its first terminator ends its last line. -/
def IsBlockComment (indent s : String) : Prop :=
  ∃ body, s.toList = indent.toList ++ ['/', '*'] ++ body ++ terminator ++ ['\n'] ∧
    Text.OnlyAtEnd terminator (indent.toList ++ ['/', '*'] ++ body ++ terminator)

/-- A text is free of terminators. -/
def FitsComment (s : String) : Prop := ¬terminator <:+: s.toList

instance (s : String) : Decidable (FitsComment s) := inferInstanceAs (Decidable ¬_)

/-- The end of a block is not empty. -/
lemma terminator_ne_nil : terminator ≠ [] := by decide

/-- The end of a block has no blanks in it. -/
lemma terminator_not_blank : ∀ ch ∈ terminator, Text.isBlank ch = false := by simp [terminator, Text.isBlank]

/-- A blank comment block has a blank text. -/
lemma fitsComment_of_blank (h : Text.trim s.toList = []) : FitsComment s := by
  rw [FitsComment, ← Text.infix_trim_iff terminator_not_blank terminator_ne_nil, h]
  decide

section Indented

variable (hindent : ∀ ch ∈ indent.toList, ch = ' ')

include hindent in
/-- No terminator begins in an indentation. -/
lemma infix_indent_append_iff (cs : List Char) : terminator <:+: indent.toList ++ cs ↔ terminator <:+: cs := by
  apply Text.infix_append_right_iff _ terminator_ne_nil
  intro ch hch
  rw [hindent ch hch]
  decide

/-- What is between the marks of a documentation block. -/
def blockBody (indent : String) (text : Option String) : List Char :=
  '*' :: '\n' :: Text.commentChars (indent.toList ++ [' ', '*'] ++ [' ']) (text.getD "").toList ++
    '\n' :: indent.toList ++ [' ']

/-- A block is its opening, its body and its end. -/
lemma toList_block (indent : String) (text : Option String) :
    (indent ++ "/**\n" ++ Text.commentBlock text indent " * " ++ "\n" ++ indent ++ " */\n").toList =
      indent.toList ++ ['/', '*'] ++ blockBody indent text ++ terminator ++ ['\n'] := by
  simp [Text.commentBlock, terminator, blockBody]

include hindent in
/-- All terminators before the end of a block come from its text: the lines that open and close it have none. -/
lemma infix_block_iff :
    terminator <:+: indent.toList ++ ['/', '*'] ++ blockBody indent text ++ ['*'] ↔
      terminator <:+: (text.getD "").toList := by
  have hfeed : '\n' ∉ terminator := by decide
  have hlines : indent.toList ++ ['/', '*'] ++ blockBody indent text ++ ['*'] =
      (indent.toList ++ ['/', '*', '*']) ++ '\n' ::
        (Text.commentChars (indent.toList ++ [' ', '*'] ++ [' ']) (text.getD "").toList ++
          '\n' :: (indent.toList ++ [' ', '*'])) := by
    simp [blockBody]
  have hopening : ¬terminator <:+: ['/', '*', '*'] := by decide
  have hclosing : ¬terminator <:+: [' ', '*'] := by decide
  rw [hlines, Text.infix_append_cons_iff hfeed terminator_ne_nil, Text.infix_append_cons_iff hfeed terminator_ne_nil,
    infix_indent_append_iff hindent, infix_indent_append_iff hindent, or_iff_right hopening, or_iff_left hclosing]
  apply Text.infix_commentChars_iff terminator_not_blank terminator_ne_nil
  rwa [infix_indent_append_iff hindent]

include hindent in
/-- A block around a text is one comment exactly if the text is free of terminators. -/
lemma isBlockComment_iff :
    IsBlockComment indent (indent ++ "/**\n" ++ Text.commentBlock text indent " * " ++ "\n" ++ indent ++ " */\n") ↔
      FitsComment (text.getD "") := by
  have hend (body : List Char) : Text.OnlyAtEnd terminator (indent.toList ++ ['/', '*'] ++ body ++ terminator) ↔
      ¬terminator <:+: indent.toList ++ ['/', '*'] ++ body ++ ['*'] :=
    Text.onlyAtEnd_append_iff terminator_ne_nil
  rw [IsBlockComment, toList_block, FitsComment, ← infix_block_iff hindent, ← hend]
  constructor
  · rintro ⟨body, heq, h⟩
    rw [List.append_cancel_left (List.append_cancel_right (List.append_cancel_right heq))]
    exact h
  · intro h
    exact ⟨_, rfl, h⟩

include hindent in
/-- Only a blank text gives no block. -/
lemma fitsComment_of_commentBlock (h : Text.commentBlock text indent " * " = "") : FitsComment (text.getD "") := by
  have hmarker : (indent ++ " * ").toList = indent.toList ++ [' ', '*'] ++ [' '] := by simp
  have hfeed : '\n' ∉ (indent ++ " * ").toList := by
    rw [String.toList_append, List.mem_append]
    rintro (hmem | hmem)
    · cases hindent _ hmem
    · revert hmem
      decide
  have hline (line : List Char) : Text.commentLine (indent ++ " * ").toList line ≠ [] := by
    rw [hmarker]
    exact (Text.prefix_commentLine (by simp; decide) line).ne_nil (by simp)
  exact fitsComment_of_blank (Text.trim_eq_nil_of_commentChars hfeed hline (String.ofList_eq_empty_iff.1 h))

include hindent in
/-- A documentation block is one comment, or there is none, exactly if its text is free of terminators. -/
theorem summary_isBlockComment_iff :
    (summary indent text = "" ∨ IsBlockComment indent (summary indent text)) ↔ FitsComment (text.getD "") := by
  simp only [summary]
  split
  · next hblank => exact iff_of_true (.inl rfl) (fitsComment_of_commentBlock hindent hblank)
  · rw [or_iff_right (by simp), isBlockComment_iff hindent]

end Indented

/-- A method is documented by its description, its verb and its endpoint, and a terminator in one of them is one in the
documentation. -/
theorem fitsComment_typeScriptDoc_iff (method : Method) :
    FitsComment (Target.typeScriptDoc method) ↔
      FitsComment method.description ∧ FitsComment (Text.toUpper method.verb) ∧ FitsComment method.endpoint := by
  have hfeed : '\n' ∉ terminator := by decide
  have hblank : ' ' ∉ terminator := by decide
  have hempty : FitsComment "" := by decide
  have hnil : ¬terminator <:+: [] := by decide
  have hroute : FitsComment (Target.route method) ↔
      FitsComment (Text.toUpper method.verb) ∧ FitsComment method.endpoint := by
    have hchars : (Target.route method).toList =
        (Text.toUpper method.verb).toList ++ ' ' :: method.endpoint.toList := by
      simp [Target.route]
    rw [FitsComment, hchars, Text.infix_append_cons_iff hblank terminator_ne_nil, not_or]
    rfl
  rw [← hroute, Target.typeScriptDoc]
  split
  · next hnone => rw [hnone, and_iff_right hempty]
  · have hchars : (method.description ++ "\n\n" ++ Target.route method).toList =
        method.description.toList ++ '\n' :: ([] ++ '\n' :: (Target.route method).toList) := by
      simp
    rw [FitsComment, hchars, Text.infix_append_cons_iff hfeed terminator_ne_nil,
      Text.infix_append_cons_iff hfeed terminator_ne_nil, or_iff_right hnil, not_or]
    rfl

end TypeScript

namespace Target

/-- An indentation of spaces. -/
def spaces (n : Nat) : String := String.ofList (List.replicate n ' ')

/-- There is nothing but spaces among spaces. -/
lemma eq_space_of_mem_spaces {n : Nat} : ∀ ch ∈ (spaces n).toList, ch = ' ' := by
  intro ch hch
  rw [spaces, String.toList_ofList] at hch
  exact List.eq_of_mem_replicate hch

/-- A documentation line of Python is one docstring exactly if its text holds no three quotes, does not end in a quote
and does not end in a backslash without another one. A documentation block of TypeScript is one comment exactly if its
text is free of terminators, which for a method are looked for in its description, its verb and its endpoint. -/
theorem summary_contained_iff (n : Nat) (text : Option String) (method : Method) :
    let indent := spaces n
    ((Python.summary indent text = "" ∨ Python.IsDocstring indent (Python.summary indent text)) ↔
      Python.FitsDocstring (text.getD "")) ∧
    ((TypeScript.summary indent text = "" ∨ TypeScript.IsBlockComment indent (TypeScript.summary indent text)) ↔
      TypeScript.FitsComment (text.getD "")) ∧
    let doc := TypeScript.summary indent (some (typeScriptDoc method))
    ((doc = "" ∨ TypeScript.IsBlockComment indent doc) ↔
      TypeScript.FitsComment method.description ∧ TypeScript.FitsComment (Text.toUpper method.verb) ∧
        TypeScript.FitsComment method.endpoint) := by
  refine ⟨Python.summary_isDocstring_iff, TypeScript.summary_isBlockComment_iff eq_space_of_mem_spaces, ?_⟩
  rw [← TypeScript.fitsComment_typeScriptDoc_iff]
  exact TypeScript.summary_isBlockComment_iff eq_space_of_mem_spaces

/-- Quotes in a text end a docstring before its end, and so does a wildcard in an endpoint a block comment. -/
theorem not_summary_contained :
    let quotes := "Says \"\"\"hi\"\"\" once"
    let wildcard := "GET /files/*/raw"
    Python.summary "" (some quotes) = "\"\"\"Says \"\"\"hi\"\"\" once\"\"\"\n" ∧
    ¬Python.IsDocstring "" (Python.summary "" (some quotes)) ∧
    TypeScript.summary "" (some wildcard) = "/**\n * GET /files/*/raw\n */\n" ∧
    ¬TypeScript.IsBlockComment "" (TypeScript.summary "" (some wildcard)) := by
  intro quotes wildcard
  have hquotes : ¬Python.FitsDocstring quotes := fun h => h.no_quotes (by decide)
  have hwildcard : ¬TypeScript.FitsComment wildcard := by decide
  refine ⟨by decide, fun h => hquotes (Python.summary_isDocstring_iff.1 (.inr h)), by decide, fun h => ?_⟩
  exact hwildcard ((TypeScript.summary_isBlockComment_iff (by simp)).1 (.inr h))

end Target

end SdkGen
