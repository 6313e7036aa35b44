import SdkGen.Proofs.Target.InterfaceLines

/-!
# Literals of paths

An endpoint is written as a literal that puts the arguments of a call in the places of its placeholders: Python reads
the braces of the endpoint themselves, and TypeScript gets a template in which each of them is a substitution.
`Python.denote` and `TypeScript.denote` say what such literals stand for, read from left to right.

Main statement: `PathPart.httpPath_denotes`. Both literals denote the endpoint with the values in place of the
placeholders. A dollar sign in front of a placeholder is none of the mark that opens a substitution, since no brace
follows it there.
-/

namespace SdkGen

/-! ## Endpoints -/

/-- A part of an endpoint. -/
inductive PathPart where
  /-- A text that stands for itself. -/
  | literal (text : String)
  /-- The place of an argument. -/
  | placeholder (name : String)
deriving DecidableEq, Repr

/-- The name of an argument: a word that does not begin with a digit. -/
def Text.IsArgument (s : String) : Prop := IsWord s ∧ s.toList.head?.all fun ch => !ch.isDigit

instance (s : String) : Decidable (Text.IsArgument s) := inferInstanceAs (Decidable (_ ∧ _))

namespace PathPart

/-- The characters that a literal part of an endpoint does without: braces, the marks that end literals, and those that
literals need escapes for. -/
def marks : List Char := ['\x7b', '\x7d', '\x60', '"', '\\', '\n', '\r']

/-- A part as it is written in an endpoint. -/
def chars : PathPart → List Char
  | literal text => text.toList
  | placeholder name => '\x7b' :: name.toList ++ ['\x7d']

/-- A part with the value of its argument. -/
def expand (values : String → String) : PathPart → List Char
  | literal text => text.toList
  | placeholder name => (values name).toList

/-- A part of an endpoint that both languages can write. -/
inductive IsPlain : PathPart → Prop where
  | literal {text} :
    (∀ ch ∈ text.toList, ch ∉ marks) →
    IsPlain (.literal text)
  | placeholder {name} :
    Text.IsArgument name →
    IsPlain (.placeholder name)

/-- The endpoint of some parts. -/
def endpoint (parts : List PathPart) : String := String.ofList (parts.flatMap chars)

/-- The path of some parts with values in the places of arguments. -/
def path (values : String → String) (parts : List PathPart) : String := String.ofList (parts.flatMap (expand values))

end PathPart

/-! ## Literals -/

/-- What stands between double quotes and needs no escapes, read behind the opening quote. -/
def Text.readQuoted : List Char → Option (List Char)
  | [] => none
  | c :: cs =>
    if c = '"' then if cs.isEmpty then some [] else none
    else if c ∈ ['\\', '\n', '\r'] then none
    else (readQuoted cs).map (c :: ·)

namespace Python

/-- Reads a formatted text behind its opening quote, with the name of an argument as far as it was read where one is
open. Each name in braces gives its value, and all else stands for itself. -/
def readFormatted (values : String → String) : Option (List Char) → List Char → Option (List Char)
  | _, [] => none
  | some name, c :: cs =>
    if c = '\x7d' then
      if Text.IsArgument (.ofList name) then
        (readFormatted values none cs).map ((values (.ofList name)).toList ++ ·)
      else none
    else readFormatted values (some (name ++ [c])) cs
  | none, c :: cs =>
    if c = '"' then if cs.isEmpty then some [] else none
    else if c = '\x7b' then readFormatted values (some []) cs
    else if c ∈ ['\x7d', '\\', '\n', '\r'] then none
    else (readFormatted values none cs).map (c :: ·)

/-- What a literal denotes: a formatted text, or a text between quotes. -/
def denote (values : String → String) (s : String) : Option String :=
  match s.toList with
  | 'f' :: '"' :: cs => (readFormatted values none cs).map String.ofList
  | '"' :: cs => (Text.readQuoted cs).map String.ofList
  | _ => none

variable {values : String → String} {s : String} {cs : List Char}

/-- A literal that begins like a formatted text is read as one. -/
lemma denote_formatted (h : s.toList = 'f' :: '"' :: cs) :
    denote values s = (readFormatted values none cs).map String.ofList := by
  simp [denote, h]

/-- A literal that begins with a quote is read as a plain text. -/
lemma denote_quoted (h : s.toList = '"' :: cs) : denote values s = (Text.readQuoted cs).map String.ofList := by
  simp [denote, h]

end Python

namespace TypeScript

/-- A character of a member behind its objects. -/
def isMemberChar (c : Char) : Bool := Text.isWordChar c || c == '.'

/-- Reads a template behind its opening mark, with an expression as far as it was read where a substitution is open. A
dollar sign opens a substitution if a brace follows it; the substitution gives the value of its expression, and all else
stands for itself. -/
def readTemplate (value : String → String) : Option (List Char) → List Char → Option (List Char)
  | _, [] => none
  | some member, c :: cs =>
    if c = '\x7d' then
      if member ≠ [] ∧ member.all isMemberChar then
        (readTemplate value none cs).map ((value (.ofList member)).toList ++ ·)
      else none
    else readTemplate value (some (member ++ [c])) cs
  | none, '$' :: '\x7b' :: cs => readTemplate value (some []) cs
  | none, c :: cs =>
    if c = '\x60' then if cs.isEmpty then some [] else none
    else if c ∈ ['\\', '\r'] then none
    else (readTemplate value none cs).map (c :: ·)

/-- What a literal denotes: a template, or a text between quotes. -/
def denote (value : String → String) (s : String) : Option String :=
  match s.toList with
  | '\x60' :: cs => (readTemplate value none cs).map String.ofList
  | '"' :: cs => (Text.readQuoted cs).map String.ofList
  | _ => none

variable {value : String → String} {s : String} {cs : List Char}

/-- A literal that begins like a template is read as one. -/
lemma denote_template (h : s.toList = '\x60' :: cs) :
    denote value s = (readTemplate value none cs).map String.ofList := by
  simp [denote, h]

/-- A literal that begins with a quote is read as a plain text. -/
lemma denote_quoted (h : s.toList = '"' :: cs) : denote value s = (Text.readQuoted cs).map String.ofList := by
  simp [denote, h]

end TypeScript

namespace PathPart

variable {parts : List PathPart} {values : String → String} {front : String} {rest : List Char}

/-- A part as it is written in a template. -/
def templateChars (front : String) : PathPart → List Char
  | literal text => text.toList
  | placeholder name => '$' :: '\x7b' :: front.toList ++ name.toList ++ ['\x7d']

/-! ## Texts between quotes -/

/-- In a plain text, characters that are no marks stand for themselves. -/
lemma readQuoted_append {cs : List Char} (h : ∀ ch ∈ cs, ch ∉ marks) (rest : List Char) :
    Text.readQuoted (cs ++ rest) = (Text.readQuoted rest).map (cs ++ ·) := by
  induction cs with
  | nil => simp
  | cons c cs ih =>
    obtain ⟨hc, hcs⟩ := List.forall_mem_cons.1 h
    simp only [marks, List.mem_cons, List.not_mem_nil, or_false, not_or] at hc
    rw [List.cons_append, Text.readQuoted, if_neg hc.2.2.2.1, if_neg (by simp [hc]), ih hcs, Option.map_map]
    rfl

/-- Without placeholders, an endpoint stands between quotes as it is. -/
lemma readQuoted_parts (h : ∀ p ∈ parts, p.IsPlain) (hbrace : '\x7b' ∉ parts.flatMap chars) :
    Text.readQuoted (parts.flatMap chars ++ ['"']) = some (parts.flatMap (expand values)) := by
  induction parts with
  | nil => rfl
  | cons p parts ih =>
    obtain ⟨hp, hparts⟩ := List.forall_mem_cons.1 h
    rw [List.flatMap_cons, List.mem_append, not_or] at hbrace
    rw [List.flatMap_cons, List.append_assoc]
    cases hp with
    | @literal text htext =>
      rw [chars, readQuoted_append htext, ih hparts hbrace.2]
      rfl
    | placeholder _ => exact absurd List.mem_cons_self hbrace.1

/-! ## Formatted texts -/

/-- In a formatted text, characters that are no marks stand for themselves. -/
lemma readFormatted_literal {cs : List Char} (h : ∀ ch ∈ cs, ch ∉ marks) (rest : List Char) :
    Python.readFormatted values none (cs ++ rest) = (Python.readFormatted values none rest).map (cs ++ ·) := by
  induction cs with
  | nil => simp
  | cons c cs ih =>
    obtain ⟨hc, hcs⟩ := List.forall_mem_cons.1 h
    simp only [marks, List.mem_cons, List.not_mem_nil, or_false, not_or] at hc
    rw [List.cons_append, Python.readFormatted, if_neg hc.2.2.2.1, if_neg hc.1, if_neg (by simp [hc]), ih hcs,
      Option.map_map]
    rfl

/-- The name between two braces is gathered. -/
lemma readFormatted_name {name : List Char} (h : '\x7d' ∉ name) (before rest : List Char) :
    Python.readFormatted values (some before) (name ++ '\x7d' :: rest) =
      Python.readFormatted values (some (before ++ name)) ('\x7d' :: rest) := by
  induction name generalizing before with
  | nil => simp
  | cons c name ih =>
    rw [List.mem_cons, not_or] at h
    rw [List.cons_append, Python.readFormatted, if_neg (Ne.symm h.1), ih h.2, List.append_assoc, List.singleton_append]

/-- A part of a path in a formatted text is read as what it expands to. -/
lemma readFormatted_chars {p : PathPart} (h : p.IsPlain) (rest : List Char) :
    Python.readFormatted values none (p.chars ++ rest) =
      (Python.readFormatted values none rest).map (p.expand values ++ ·) := by
  cases h with
  | literal htext => exact readFormatted_literal htext rest
  | @placeholder name hname =>
    have hbrace : '\x7d' ∉ name.toList := hname.1.notMem (by decide)
    have hchars : (placeholder name).chars ++ rest = '\x7b' :: (name.toList ++ '\x7d' :: rest) := by simp [chars]
    rw [hchars, Python.readFormatted, if_neg (by decide), if_pos rfl, readFormatted_name hbrace, List.nil_append,
      Python.readFormatted, if_pos rfl, String.ofList_toList, if_pos hname, expand]

/-- All parts of a path in a formatted text are read as what the path expands to. -/
lemma readFormatted_parts (h : ∀ p ∈ parts, p.IsPlain) :
    Python.readFormatted values none (parts.flatMap chars ++ ['"']) = some (parts.flatMap (expand values)) := by
  induction parts with
  | nil => rfl
  | cons p parts ih =>
    obtain ⟨hp, hparts⟩ := List.forall_mem_cons.1 h
    rw [List.flatMap_cons, List.append_assoc, readFormatted_chars hp, ih hparts]
    rfl

/-! ## Templates -/

/-- A word in front of a closing brace is found behind an opening one. -/
lemma placeholder?_append {name : String} (h : Text.IsWord name) (rest : List Char) :
    TypeScript.placeholder? (name.toList ++ '\x7d' :: rest) = some (name.toList, rest) := by
  have hname : name.toList ≠ [] := mt String.toList_eq_nil_iff.1 h.1
  have hword : (name.toList ++ '\x7d' :: rest).takeWhile Text.isWordChar = name.toList :=
    h.takeWhile_append (by rintro ch ⟨⟩; decide)
  simp [TypeScript.placeholder?, hword, hname]

/-- Characters that are no marks stay as they are in a template. -/
lemma template_literal {cs : List Char} (h : ∀ ch ∈ cs, ch ∉ marks) (rest : List Char) :
    TypeScript.template front.toList (cs ++ rest) = cs ++ TypeScript.template front.toList rest := by
  induction cs with
  | nil => rfl
  | cons c cs ih =>
    obtain ⟨hc, hcs⟩ := List.forall_mem_cons.1 h
    have hbrace : c ≠ '\x7b' := fun heq => hc (heq ▸ List.mem_cons_self)
    rw [List.cons_append, TypeScript.template, if_neg hbrace, ih hcs, List.cons_append]

/-- A part of a path becomes its part of the template. -/
lemma template_chars {p : PathPart} (h : p.IsPlain) (rest : List Char) :
    TypeScript.template front.toList (p.chars ++ rest) =
      p.templateChars front ++ TypeScript.template front.toList rest := by
  cases h with
  | literal htext => exact template_literal htext rest
  | @placeholder name hname =>
    have hchars : (placeholder name).chars ++ rest = '\x7b' :: (name.toList ++ '\x7d' :: rest) := by simp [chars]
    rw [hchars, TypeScript.template, if_pos rfl]
    split
    · next word rest' hread =>
      rw [placeholder?_append hname.1] at hread
      cases hread
      simp [templateChars]
    · next hread =>
      rw [placeholder?_append hname.1] at hread
      cases hread

/-- All parts of a path become their parts of the template. -/
lemma template_parts (h : ∀ p ∈ parts, p.IsPlain) :
    TypeScript.template front.toList (parts.flatMap chars) = parts.flatMap (templateChars front) := by
  induction parts with
  | nil => simp [TypeScript.template]
  | cons p parts ih =>
    obtain ⟨hp, hparts⟩ := List.forall_mem_cons.1 h
    rw [List.flatMap_cons, template_chars hp, ih hparts, List.flatMap_cons]

/-! ## Reading templates -/

/-- A text does not begin with a brace that would make a substitution of a dollar sign in front of it. -/
def KeepsApart (cs : List Char) : Prop := ∀ ch ∈ cs.head?, ch ≠ '\x7b'

/-- Characters that are no marks keep a dollar and a brace apart. -/
lemma KeepsApart.append {cs rest : List Char} (h : ∀ ch ∈ cs, ch ∉ marks) (hrest : KeepsApart rest) :
    KeepsApart (cs ++ rest) := by
  cases cs with
  | nil => exact hrest
  | cons c cs =>
    rintro ch hch rfl
    obtain rfl := Option.some.inj hch
    exact h _ List.mem_cons_self List.mem_cons_self

/-- In a template, characters that are no marks stand for themselves. -/
lemma readTemplate_literal {cs : List Char} (h : ∀ ch ∈ cs, ch ∉ marks) (hrest : KeepsApart rest) :
    TypeScript.readTemplate values none (cs ++ rest) = (TypeScript.readTemplate values none rest).map (cs ++ ·) := by
  induction cs with
  | nil => simp
  | cons c cs ih =>
    obtain ⟨hc, hcs⟩ := List.forall_mem_cons.1 h
    have hnext : KeepsApart (cs ++ rest) := hrest.append hcs
    simp only [marks, List.mem_cons, List.not_mem_nil, or_false, not_or] at hc
    rw [List.cons_append, TypeScript.readTemplate, if_neg hc.2.2.1, if_neg (by simp [hc]), ih hcs, Option.map_map]
    · rfl
    -- where the character is a dollar sign, no brace follows it
    · rintro behind - hbehind
      exact hnext '\x7b' (by rw [hbehind]; rfl) rfl

/-- The member between two braces is gathered. -/
lemma readTemplate_member {member : List Char} (h : '\x7d' ∉ member) (before rest : List Char) :
    TypeScript.readTemplate values (some before) (member ++ '\x7d' :: rest) =
      TypeScript.readTemplate values (some (before ++ member)) ('\x7d' :: rest) := by
  induction member generalizing before with
  | nil => simp
  | cons c member ih =>
    rw [List.mem_cons, not_or] at h
    rw [List.cons_append, TypeScript.readTemplate, if_neg (Ne.symm h.1), ih h.2, List.append_assoc,
      List.singleton_append]

section Members

variable {value : String → String} (hfront : front.toList.all TypeScript.isMemberChar)

include hfront in
/-- A part of a template is read as what its part of the path expands to. -/
lemma readTemplate_chars {p : PathPart} (h : p.IsPlain)
    (hvalue : ∀ name, p = placeholder name → value (front ++ name) = values name) (hrest : KeepsApart rest) :
    TypeScript.readTemplate value none (p.templateChars front ++ rest) =
      (TypeScript.readTemplate value none rest).map (p.expand values ++ ·) := by
  cases h with
  | literal htext => exact readTemplate_literal htext hrest
  | @placeholder name hname =>
    have hword : ∀ ch ∈ name.toList, TypeScript.isMemberChar ch := by
      intro ch hch
      rw [TypeScript.isMemberChar, List.all_eq_true.1 hname.1.2 ch hch, Bool.true_or]
    have hmember : (front ++ name).toList.all TypeScript.isMemberChar := by
      rw [String.toList_append, List.all_append, hfront, List.all_eq_true.2 hword, Bool.true_and]
    have hbrace : '\x7d' ∉ (front ++ name).toList := by
      intro hmem
      have hmem := List.all_eq_true.1 hmember _ hmem
      revert hmem
      decide
    have hne : (front ++ name).toList ≠ [] := by
      rw [String.toList_append]
      exact List.append_ne_nil_of_right_ne_nil _ (mt String.toList_eq_nil_iff.1 hname.1.1)
    have hchars : (placeholder name).templateChars front ++ rest =
        '$' :: '\x7b' :: ((front ++ name).toList ++ '\x7d' :: rest) := by
      simp [templateChars]
    rw [hchars, TypeScript.readTemplate, readTemplate_member hbrace, List.nil_append, TypeScript.readTemplate,
      if_pos rfl, if_pos ⟨hne, hmember⟩, String.ofList_toList, hvalue name rfl, expand]

/-- A template keeps its own dollars and braces apart from others. -/
lemma keepsApart_template (h : ∀ p ∈ parts, p.IsPlain) :
    KeepsApart (parts.flatMap (templateChars front) ++ ['\x60']) := by
  induction parts with
  | nil => simp [KeepsApart]
  | cons p parts ih =>
    obtain ⟨hp, hparts⟩ := List.forall_mem_cons.1 h
    rw [List.flatMap_cons, List.append_assoc]
    cases hp with
    | literal htext => exact (ih hparts).append htext
    | placeholder _ => simp [KeepsApart, templateChars]

include hfront in
/-- All parts of a template are read as what the path expands to. -/
lemma readTemplate_parts (h : ∀ p ∈ parts, p.IsPlain)
    (hvalue : ∀ name, placeholder name ∈ parts → value (front ++ name) = values name) :
    TypeScript.readTemplate value none (parts.flatMap (templateChars front) ++ ['\x60']) =
      some (parts.flatMap (expand values)) := by
  induction parts with
  | nil => rfl
  | cons p parts ih =>
    obtain ⟨hp, hparts⟩ := List.forall_mem_cons.1 h
    have hfirst (name : String) (heq : p = placeholder name) : value (front ++ name) = values name :=
      hvalue name (heq ▸ List.mem_cons_self)
    rw [List.flatMap_cons, List.append_assoc, readTemplate_chars hfront hp hfirst (keepsApart_template hparts),
      ih hparts fun name hname => hvalue name (List.mem_cons_of_mem _ hname)]
    rfl

end Members

/-! ## Paths -/

/-- A path with a brace in it becomes a template. -/
lemma typeScript_httpPath (h : ∀ p ∈ parts, p.IsPlain) (hbrace : '\x7b' ∈ parts.flatMap chars) :
    TypeScript.httpPath (endpoint parts) front =
      "\x60" ++ String.ofList (parts.flatMap (templateChars front)) ++ "\x60" := by
  rw [TypeScript.httpPath, endpoint, String.toList_ofList, if_pos hbrace, template_parts h]

/-- Whatever values the arguments have, both languages put them in the places of the placeholders, and change nothing
else about an endpoint. -/
theorem httpPath_denotes {value : String → String} (h : ∀ p ∈ parts, p.IsPlain)
    (hfront : front.toList.all TypeScript.isMemberChar)
    (hvalue : ∀ name, placeholder name ∈ parts → value (front ++ name) = values name) :
    Python.denote values (Python.httpPath (endpoint parts)) = some (path values parts) ∧
    TypeScript.denote value (TypeScript.httpPath (endpoint parts) front) = some (path values parts) := by
  have hchars : (endpoint parts).toList = parts.flatMap chars := String.toList_ofList
  rw [Python.httpPath, hchars, path]
  by_cases hbrace : '\x7b' ∈ parts.flatMap chars
  · rw [if_pos hbrace, typeScript_httpPath h hbrace]
    have hformatted : ("f\"" ++ endpoint parts ++ "\"").toList = 'f' :: '"' :: (parts.flatMap chars ++ ['"']) := by
      simp [hchars]
    have htemplate : ("\x60" ++ String.ofList (parts.flatMap (templateChars front)) ++ "\x60").toList =
        '\x60' :: (parts.flatMap (templateChars front) ++ ['\x60']) := by
      simp
    rw [Python.denote_formatted hformatted, TypeScript.denote_template htemplate, readFormatted_parts h,
      readTemplate_parts hfront h hvalue]
    exact ⟨rfl, rfl⟩
  · rw [if_neg hbrace, TypeScript.httpPath, hchars, if_neg hbrace]
    have hquoted : ("\"" ++ endpoint parts ++ "\"").toList = '"' :: (parts.flatMap chars ++ ['"']) := by simp [hchars]
    rw [Python.denote_quoted hquoted, TypeScript.denote_quoted hquoted, readQuoted_parts h hbrace]
    exact ⟨rfl, rfl⟩

/-- An endpoint with a dollar sign in front of a placeholder, and with two placeholders side by side. -/
def samplePath : List PathPart := [.literal "/cost$", .placeholder "id", .placeholder "part", .literal "/all"]

/-- The value of an argument, which has its name in it. -/
def sampleValue (name : String) : String := name ++ "!"

/-- The value of a member of a request, which is that of the argument. -/
def sampleMember (member : String) : String := sampleValue (String.ofList (member.toList.drop 8))

/-- The dollar sign stands for itself, also in the template, where another one follows it. -/
theorem httpPath_denotes_sample :
    (∀ p ∈ samplePath, p.IsPlain) ∧ "request.".toList.all TypeScript.isMemberChar ∧
    (∀ name, placeholder name ∈ samplePath → sampleMember ("request." ++ name) = sampleValue name) ∧
    Python.httpPath (endpoint samplePath) = "f\"/cost$\x7bid\x7d\x7bpart\x7d/all\"" ∧
    TypeScript.httpPath (endpoint samplePath) "request." =
      "\x60/cost$$\x7brequest.id\x7d$\x7brequest.part\x7d/all\x60" ∧
    Python.denote sampleValue (Python.httpPath (endpoint samplePath)) = some "/cost$id!part!/all" ∧
    TypeScript.denote sampleMember (TypeScript.httpPath (endpoint samplePath) "request.") =
      some "/cost$id!part!/all" := by
  have hplain : ∀ p ∈ samplePath, p.IsPlain := by
    simp only [samplePath, List.forall_mem_cons, List.not_mem_nil, false_implies, implies_true, and_true]
    exact ⟨.literal (by simp [marks]), .placeholder (by decide), .placeholder (by decide), .literal (by simp [marks])⟩
  have hfront : "request.".toList.all TypeScript.isMemberChar := by decide
  have hvalue : ∀ name, placeholder name ∈ samplePath → sampleMember ("request." ++ name) = sampleValue name := by
    simp [sampleMember]
  obtain ⟨hpython, htypescript⟩ := httpPath_denotes hplain hfront hvalue
  have htemplate : TypeScript.httpPath (endpoint samplePath) "request." = _ := typeScript_httpPath hplain (by decide)
  exact ⟨hplain, hfront, hvalue, by decide, htemplate, hpython, htypescript⟩

end PathPart
end SdkGen
