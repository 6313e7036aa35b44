import Mathlib.Data.List.Basic
import Mathlib.Tactic.Basic
import SdkGen.Model.Derived
import SdkGen.Text.Name

/-!
# Fragments of identifiers

What is left of a text as a fragment of an identifier is in ASCII, whatever the text was: words that begin with a
capital or a digit, one after the other, behind an underscore where a digit would come first. A fragment is one word
then, so there is nothing left to do about it.

Main statements: `isFragment_pascalCaseChars` (the form of a fragment), `pascalCaseChars_eq_self_iff` (the fragments are
the texts that stay as they are) and `pascalCase_isFragment`.
-/

namespace SdkGen.Text

/-- Letters and digits of ASCII, one after the other. -/
def IsAlphanumeric (cs : List Char) : Prop := ∀ ch ∈ cs, ch.isAlphanum

/-- A fragment of an identifier: nothing, or letters and digits behind a capital or behind an underscore and a digit. -/
inductive IsFragment : List Char → Prop where
  | empty :
    IsFragment []
  | capital {c cs} :
    c.isUpper →
    IsAlphanumeric cs →
    IsFragment (c :: cs)
  | digit {c cs} :
    c.isDigit →
    IsAlphanumeric cs →
    IsFragment ('_' :: c :: cs)

/-- A name in letters, digits and underscores of ASCII, which is a name in both languages. -/
structure IsPlainName (cs : List Char) : Prop where
  name : isName cs
  ascii : ∀ ch ∈ cs, ch.isAlphanum ∨ ch = '_'

variable {c : Char} {cs word : List Char}

/-! ## Letters and digits -/

/-- The numbers of capital letters. -/
lemma isUpper_iff : c.isUpper ↔ 65 ≤ c.toNat ∧ c.toNat ≤ 90 := by
  show decide (65 ≤ c.val ∧ c.val ≤ 90) = true ↔ _
  simp [UInt32.le_iff_toNat_le]

/-- The numbers of small letters. -/
lemma isLower_iff : c.isLower ↔ 97 ≤ c.toNat ∧ c.toNat ≤ 122 := by
  show (decide (97 ≤ c.val) && decide (c.val ≤ 122)) = true ↔ _
  simp [UInt32.le_iff_toNat_le]

/-- The numbers of digits. -/
lemma isDigit_iff : c.isDigit ↔ 48 ≤ c.toNat ∧ c.toNat ≤ 57 := Char.isDigit_iff_toNat

/-- What is alphanumeric is a letter or a digit. -/
lemma isAlphanum_iff : c.isAlphanum ↔ c.isUpper ∨ c.isLower ∨ c.isDigit := by
  show (c.isUpper || c.isLower || c.isDigit) = true ↔ _
  simp [or_assoc]

/-- What is alphanumeric is in ASCII. -/
lemma toNat_lt_of_isAlphanum (h : c.isAlphanum) : c.toNat < 0x80 := by
  rw [isAlphanum_iff, isUpper_iff, isLower_iff, isDigit_iff] at h
  omega

/-- A capital letter is alphanumeric. -/
lemma isAlphanum_of_isUpper (h : c.isUpper) : c.isAlphanum := isAlphanum_iff.2 (.inl h)

/-- A digit is alphanumeric. -/
lemma isAlphanum_of_isDigit (h : c.isDigit) : c.isAlphanum := isAlphanum_iff.2 (.inr (.inr h))

/-- A digit is no small letter. -/
lemma not_isLower_of_isDigit (h : c.isDigit) : ¬c.isLower := by
  rw [isDigit_iff] at h
  rw [isLower_iff]
  omega

/-- A capital letter is no digit. -/
lemma not_isDigit_of_isUpper (h : c.isUpper) : ¬c.isDigit := by
  rw [isUpper_iff] at h
  rw [isDigit_iff]
  omega

/-- A capital letter is no small letter. -/
lemma not_isLower_of_isUpper (h : c.isUpper) : ¬c.isLower := by
  rw [isUpper_iff] at h
  rw [isLower_iff]
  omega

/-- What is no small letter is its own capital. -/
lemma toUpper_of_not_isLower (h : ¬c.isLower) : c.toUpper = c := by
  rw [isLower_iff] at h
  exact dif_neg (by simpa [UInt32.le_iff_toNat_le] using h)

/-- The capital of a small letter is a capital letter. -/
lemma isUpper_toUpper_of_isLower (h : c.isLower) : c.toUpper.isUpper := by
  rw [isLower_iff] at h
  have hrange : 'a'.val ≤ c.val ∧ c.val ≤ 'z'.val := by simpa [UInt32.le_iff_toNat_le] using h
  have hupper : c.toUpper = ⟨c.val + ('A'.val - 'a'.val), _⟩ := dif_pos hrange
  rw [isUpper_iff, ← Char.toNat_val, hupper, UInt32.toNat_add]
  simp
  omega

/-- In capitals, what is alphanumeric is a capital letter or a digit. -/
lemma isUpper_or_isDigit_toUpper (h : c.isAlphanum) : c.toUpper.isUpper ∨ c.toUpper.isDigit := by
  rcases isAlphanum_iff.1 h with h | h | h
  · rw [toUpper_of_not_isLower (not_isLower_of_isUpper h)]
    exact .inl h
  · exact .inl (isUpper_toUpper_of_isLower h)
  · rw [toUpper_of_not_isLower (not_isLower_of_isDigit h)]
    exact .inr h

/-- What is alphanumeric has one character for its capital. -/
lemma upperChar_of_isAlphanum (h : c.isAlphanum) : upperChar c = [c.toUpper] := if_pos (toNat_lt_of_isAlphanum h)

/-- Letters and digits have no accents to lose, and neither has an underscore. -/
lemma flatMap_plainChar (h : ∀ ch ∈ cs, ch.isAlphanum ∨ ch = '_') : cs.flatMap plainChar = cs := by
  have hplain : ∀ ch ∈ cs, plainChar ch = [ch] := by
    intro ch hch
    rcases h ch hch with hch | rfl
    · exact plainChar_of_ascii (toNat_lt_of_isAlphanum hch)
    · exact plainChar_of_ascii (by decide)
  rw [List.flatMap_congr hplain, List.flatMap_singleton']

/-! ## Parts -/

/-- The parts of a text are words of letters and digits. -/
lemma isAlphanumeric_of_mem_alphanumParts (h : word ∈ alphanumParts cs) : word ≠ [] ∧ IsAlphanumeric word := by
  induction cs generalizing word with
  | nil => cases h
  | cons c cs ih =>
    rw [alphanumParts.eq_def] at h
    dsimp only at h
    split at h
    · next hc =>
      have hsingle : IsAlphanumeric [c] := by simpa [IsAlphanumeric] using hc
      split at h
      · next hparts =>
        have hrest {word : List Char} (h : word ∈ alphanumParts _) := ih h
        rw [hparts] at hrest
        split at h
        -- the character goes on with the word that follows
        · rcases List.mem_cons.1 h with rfl | h
          · exact ⟨List.cons_ne_nil _ _, List.forall_mem_cons.2 ⟨hc, (hrest List.mem_cons_self).2⟩⟩
          · exact hrest (List.mem_cons_of_mem _ h)
        · rcases List.mem_cons.1 h with rfl | h
          · exact ⟨List.cons_ne_nil _ _, hsingle⟩
          · exact hrest h
      · rcases List.mem_cons.1 h with rfl | h
        · exact ⟨List.cons_ne_nil _ _, hsingle⟩
        · exact ih h
    · exact ih h

/-- What is all alphanumeric is one part. -/
lemma alphanumParts_of_isAlphanumeric (hne : cs ≠ []) (h : IsAlphanumeric cs) : alphanumParts cs = [cs] := by
  induction cs with
  | nil => exact absurd rfl hne
  | cons c cs ih =>
    obtain ⟨hc, hcs⟩ := List.forall_mem_cons.1 h
    cases cs with
    | nil => simp [alphanumParts, hc]
    | cons d cs =>
      have hd := hcs d List.mem_cons_self
      have hrest := ih (List.cons_ne_nil _ _) hcs
      rw [alphanumParts.eq_def]
      simp only [hc, hrest, hd, if_true]

/-! ## Capitalised words -/

/-- What begins with an alphanumeric character is capitalized there. -/
lemma capitalizeChars_cons (h : c.isAlphanum) (cs : List Char) : capitalizeChars (c :: cs) = c.toUpper :: cs := by
  rw [capitalizeChars, upperChar_of_isAlphanum h, List.singleton_append]

/-- Words that are capitalised and put together begin with a capital or a digit. -/
lemma flatMap_capitalizeChars {parts : List (List Char)} (h : ∀ word ∈ parts, word ≠ [] ∧ IsAlphanumeric word) :
    parts.flatMap capitalizeChars = [] ∨
      ∃ c cs, parts.flatMap capitalizeChars = c :: cs ∧ (c.isUpper ∨ c.isDigit) ∧ IsAlphanumeric cs := by
  induction parts with
  | nil => exact .inl rfl
  | cons word parts ih =>
    obtain ⟨⟨hne, hword⟩, hparts⟩ := List.forall_mem_cons.1 h
    obtain ⟨c, cs, rfl⟩ := List.exists_cons_of_ne_nil hne
    obtain ⟨hc, hcs⟩ := List.forall_mem_cons.1 hword
    -- what the other words come to may be nothing, so its first character is looked at again
    have hbehind : IsAlphanumeric (parts.flatMap capitalizeChars) := by
      rcases ih hparts with hnil | ⟨d, ds, heq, hd, hds⟩
      · rw [hnil]
        exact nofun
      · rw [heq]
        exact List.forall_mem_cons.2 ⟨hd.elim isAlphanum_of_isUpper isAlphanum_of_isDigit, hds⟩
    refine .inr ⟨c.toUpper, cs ++ parts.flatMap capitalizeChars, ?_, isUpper_or_isDigit_toUpper hc, ?_⟩
    · rw [List.flatMap_cons, capitalizeChars_cons hc, List.cons_append]
    · exact List.forall_mem_append.2 ⟨hcs, hbehind⟩

/-! ## Fragments -/

/-- Whatever a text is, a fragment is made of it. -/
theorem isFragment_pascalCaseChars (cs : List Char) : IsFragment (pascalCaseChars cs) := by
  have hparts : ∀ word ∈ alphanumParts (cs.flatMap plainChar), word ≠ [] ∧ IsAlphanumeric word :=
    fun _ => isAlphanumeric_of_mem_alphanumParts
  rw [pascalCaseChars]
  rcases flatMap_capitalizeChars hparts with hnil | ⟨c, cs, heq, hc, hcs⟩
  · rw [hnil]
    exact .empty
  · rw [heq, guardDigit]
    split
    · next hdigit => exact .digit hdigit hcs
    · next hdigit => exact .capital (hc.resolve_right hdigit) hcs

/-- A capitalized word stays as it is. -/
lemma flatMap_capitalizeChars_word (hc : c.toUpper = c) (hword : IsAlphanumeric (c :: cs)) :
    (alphanumParts (c :: cs)).flatMap capitalizeChars = c :: cs := by
  rw [alphanumParts_of_isAlphanumeric (List.cons_ne_nil _ _) hword, List.flatMap_singleton,
    capitalizeChars_cons (List.forall_mem_cons.1 hword).1, hc]

/-- The fragments are the texts that stay as they are. -/
theorem pascalCaseChars_eq_self_iff : pascalCaseChars cs = cs ↔ IsFragment cs := by
  constructor
  · intro h
    rw [← h]
    exact isFragment_pascalCaseChars cs
  · intro h
    rw [pascalCaseChars]
    cases h with
    | empty => rfl
    | @capital c cs hc hcs =>
      have hword : IsAlphanumeric (c :: cs) := List.forall_mem_cons.2 ⟨isAlphanum_of_isUpper hc, hcs⟩
      have hupper : c.toUpper = c := toUpper_of_not_isLower (not_isLower_of_isUpper hc)
      rw [flatMap_plainChar fun ch hch => .inl (hword ch hch), flatMap_capitalizeChars_word hupper hword, guardDigit,
        if_neg (not_isDigit_of_isUpper hc)]
    | @digit c cs hc hcs =>
      have hword : IsAlphanumeric (c :: cs) := List.forall_mem_cons.2 ⟨isAlphanum_of_isDigit hc, hcs⟩
      have hupper : c.toUpper = c := toUpper_of_not_isLower (not_isLower_of_isDigit hc)
      have hplain : ∀ ch ∈ '_' :: c :: cs, ch.isAlphanum ∨ ch = '_' :=
        List.forall_mem_cons.2 ⟨.inr rfl, fun ch hch => .inl (hword ch hch)⟩
      -- the underscore is no part of its own
      have hparts : alphanumParts ('_' :: c :: cs) = alphanumParts (c :: cs) := rfl
      rw [flatMap_plainChar hplain, hparts, flatMap_capitalizeChars_word hupper hword, guardDigit, if_pos hc]

/-! ## Names -/

/-- Letters and underscores may begin a name. -/
lemma isNameStart_of_ascii (h : c.isAlphanum ∨ c = '_') (hdigit : ¬c.isDigit) : isNameStart c := by
  rw [isNameStart]
  rcases h with h | rfl
  · have halpha : c.isAlpha := by simpa [Char.isAlphanum, hdigit] using h
    rw [if_pos (toNat_lt_of_isAlphanum h), halpha, Bool.true_or]
  · decide

/-- Letters, digits and underscores may stand in a name. -/
lemma isNameChar_of_ascii (h : c.isAlphanum ∨ c = '_') : isNameChar c := by
  rw [isNameChar, Bool.or_eq_true]
  by_cases hdigit : c.isDigit
  · exact .inr ((if_pos (toNat_lt_of_isAlphanum (isAlphanum_of_isDigit hdigit))).trans hdigit)
  · exact .inl (isNameStart_of_ascii h hdigit)

/-- What begins with a letter or an underscore and goes on with these or digits is a plain name. -/
lemma isPlainName_of_ascii (hne : cs ≠ []) (h : ∀ ch ∈ cs, ch.isAlphanum ∨ ch = '_')
    (hdigit : ∀ ch ∈ cs.head?, ¬ch.isDigit) : IsPlainName cs where
  name := by
    obtain ⟨c, cs, rfl⟩ := List.exists_cons_of_ne_nil hne
    obtain ⟨hc, hcs⟩ := List.forall_mem_cons.1 h
    rw [isName, isNameStart_of_ascii hc (hdigit c rfl), Bool.true_and, List.all_eq_true]
    exact fun ch hch => isNameChar_of_ascii (hcs ch hch)
  ascii := h

/-- A fragment has letters, digits and underscores in it, and nothing else. -/
lemma IsFragment.ascii (h : IsFragment cs) : ∀ ch ∈ cs, ch.isAlphanum ∨ ch = '_' := by
  cases h with
  | empty => exact nofun
  | capital hc hcs =>
    exact List.forall_mem_cons.2 ⟨.inl (isAlphanum_of_isUpper hc), fun ch hch => .inl (hcs ch hch)⟩
  | digit hc hcs =>
    refine List.forall_mem_cons.2 ⟨.inr rfl, List.forall_mem_cons.2 ⟨.inl (isAlphanum_of_isDigit hc), ?_⟩⟩
    exact fun ch hch => .inl (hcs ch hch)

/-- A fragment does not begin with a digit. -/
lemma IsFragment.not_isDigit_head (h : IsFragment cs) : ∀ ch ∈ cs.head?, ¬ch.isDigit := by
  cases h with
  | empty => exact nofun
  | capital hc _ => simpa using not_isDigit_of_isUpper hc
  | digit _ _ => simp

/-- A word that does not begin with a digit is a name with a fragment behind it or in front of it. -/
lemma IsFragment.isPlainName_append (h : IsFragment cs) (hne : word ≠ []) (hword : IsAlphanumeric word)
    (hhead : ∀ ch ∈ word.head?, ¬ch.isDigit) : IsPlainName (word ++ cs) ∧ IsPlainName (cs ++ word) := by
  have hascii : ∀ ch ∈ word, ch.isAlphanum ∨ ch = '_' := fun ch hch => .inl (hword ch hch)
  constructor
  · apply isPlainName_of_ascii (List.append_ne_nil_of_left_ne_nil hne cs) (List.forall_mem_append.2 ⟨hascii, h.ascii⟩)
    rwa [List.head?_append_of_ne_nil _ hne]
  · apply isPlainName_of_ascii (List.append_ne_nil_of_right_ne_nil cs hne) (List.forall_mem_append.2 ⟨h.ascii, hascii⟩)
    intro ch hch
    rw [List.head?_append] at hch
    rcases Option.or_eq_some_iff.1 hch with hch | ⟨-, hch⟩
    · exact h.not_isDigit_head ch hch
    · exact hhead ch hch

/-- Whatever a text is, a fragment of an identifier is made of it, of which the same fragment is made again. So the
names of request types, and of the classes that hold methods, are names. -/
theorem pascalCase_isFragment (text : Option String) :
    IsFragment (pascalCase text).toList ∧ pascalCase (some (pascalCase text)) = pascalCase text ∧
    (∀ m : Method, IsPlainName m.requestTypeName.toList) ∧ IsPlainName (pascalCase text ++ "SDK").toList := by
  have hfragment (text : Option String) : IsFragment (pascalCase text).toList := by
    rw [pascalCase, String.toList_ofList]
    exact isFragment_pascalCaseChars _
  refine ⟨hfragment text, ?_, fun m => ?_, ?_⟩
  -- a fragment is one word, so it stays as it is
  · have hsame := pascalCaseChars_eq_self_iff.2 (hfragment text)
    rw [pascalCase, Option.getD_some, hsame, String.ofList_toList]
  · rw [Method.requestTypeName, String.toList_append]
    have hword : IsAlphanumeric "Request".toList := List.all_eq_true.1 (by decide)
    exact ((hfragment (some m.name)).isPlainName_append (by decide) hword (by simp)).1
  · rw [String.toList_append]
    have hword : IsAlphanumeric "SDK".toList := List.all_eq_true.1 (by decide)
    exact ((hfragment text).isPlainName_append (by decide) hword (by simp)).2

end SdkGen.Text
