import Mathlib.Data.List.Forall2
import SdkGen.Proofs.Target.Demands
import SdkGen.Proofs.Target.Texts
import SdkGen.Proofs.Text.Comment
import SdkGen.Text.Word

/-!
# Lines of interfaces

A TypeScript interface is written with descriptions between its members, and a description may have any number of lines
and look like anything, like a member or like the head of an interface. Still every line tells what it is: what comes of
a description is blank or begins with the marker of a remark.

Main statement: `Target.declareType_lines`. The lines of an interface that are no remarks are its members.
-/

namespace SdkGen

/-- A word: letters, digits and underscores. -/
def Text.IsWord (s : String) : Prop := s ≠ "" ∧ s.toList.all isWordChar

instance (s : String) : Decidable (Text.IsWord s) := inferInstanceAs (Decidable (_ ∧ _))

namespace TypeScript

/-- The words that an interface begins with. -/
def interfaceWords : String := "export interface "

/-- A line that is the head of an interface. -/
def opensInterface (line : String) : Bool := interfaceWords.toList.isPrefixOf line.toList

/-- The line that opens the interface of a type. -/
def headLine (name : String) : String := interfaceWords ++ interfaceName name ++ " \x7b"

/-- A line between the members of an interface that is none: it is blank or a line comment. -/
def isRemark (line : String) : Bool := line.toList.all Text.isBlank || "  //".toList.isPrefixOf line.toList

/-- The line that declares a member of an interface, given its type. -/
def memberLine (q : Property) (type : String) : String :=
  "  " ++ (if q.readOnly then "readonly " else "") ++ q.name ++ (if q.nullable then "?" else "") ++ ": " ++ type

end TypeScript

namespace Text

variable {s : String}

/-- A mark of the source text is not in a word. -/
lemma IsWord.notMem (h : IsWord s) {ch : Char} (hch : isWordChar ch = false) : ch ∉ s.toList := by
  intro hmem
  rw [List.all_eq_true.1 h.2 ch hmem] at hch
  cases hch

/-- The word in front of a text is what its first characters of words are, if the text goes on with another one. -/
lemma IsWord.takeWhile_append (h : IsWord s) {rest : List Char} (hrest : ∀ ch ∈ rest.head?, isWordChar ch = false) :
    (s.toList ++ rest).takeWhile isWordChar = s.toList := by
  have hnone : rest.takeWhile isWordChar = [] := by
    cases rest with
    | nil => rfl
    | cons ch rest => rw [List.takeWhile_cons_of_neg (by simp [hrest ch rfl])]
  rw [List.takeWhile_append_of_pos (List.all_eq_true.1 h.2), hnone, List.append_nil]

end Text

namespace TypeScript

variable {line type name : String} {q : Property} {text : Option String}

/-! ## Kinds of lines -/

/-- What begins with a blank or with nothing at all is no head of an interface. -/
lemma opensInterface_eq_false (h : ∀ ch ∈ line.toList.head?, ch ≠ 'e') : opensInterface line = false := by
  rw [opensInterface, Bool.eq_false_iff]
  intro hbegins
  obtain ⟨rest, hline⟩ := List.isPrefixOf_iff_prefix.1 hbegins
  rw [← hline] at h
  exact h 'e' rfl rfl

/-- A remark is no head of an interface. -/
lemma opensInterface_of_isRemark (h : isRemark line) : opensInterface line = false := by
  apply opensInterface_eq_false
  rintro ch hch rfl
  rcases Bool.or_eq_true_iff.1 h with h | h
  · have hblank := List.all_eq_true.1 h 'e' (List.mem_of_mem_head? hch)
    revert hblank
    decide
  · obtain ⟨rest, hline⟩ := List.isPrefixOf_iff_prefix.1 h
    rw [← hline] at hch
    cases hch

/-- The characters of a member. -/
lemma toList_memberLine (q : Property) (type : String) :
    (memberLine q type).toList =
      [' ', ' '] ++ (if q.readOnly then ['r', 'e', 'a', 'd', 'o', 'n', 'l', 'y', ' '] else []) ++ q.name.toList ++
        (if q.nullable then ['?'] else []) ++ [':', ' '] ++ type.toList := by
  rw [memberLine]
  cases q.readOnly <;> cases q.nullable <;> simp

/-- A member is no head of an interface. -/
lemma opensInterface_memberLine : opensInterface (memberLine q type) = false := by
  apply opensInterface_eq_false
  rw [toList_memberLine]
  simp

/-- A member is no remark, since its name does not begin with a slash. -/
lemma isRemark_memberLine (hname : Text.IsWord q.name) : isRemark (memberLine q type) = false := by
  obtain ⟨first, rest, hfirst⟩ := List.exists_cons_of_ne_nil (mt String.toList_eq_nil_iff.1 hname.1)
  have hslash : '/' ≠ first := by
    rintro rfl
    exact hname.notMem (by decide) (hfirst ▸ List.mem_cons_self)
  rw [isRemark, Bool.or_eq_false_iff, toList_memberLine, hfirst]
  constructor
  · rw [List.all_eq_false]
    exact ⟨':', by simp, by decide⟩
  · cases q.readOnly <;> simp [List.isPrefixOf, hslash]

/-- A member stands in one line. -/
lemma linesOf_memberLine (hname : Text.IsWord q.name) (htype : '\n' ∉ type.toList) :
    Text.linesOf (memberLine q type) = [memberLine q type] := by
  apply Text.linesOf_of_notMem
  have hfeed : '\n' ∉ q.name.toList := hname.notMem (by decide)
  rw [toList_memberLine]
  cases q.readOnly <;> cases q.nullable <;> simp [hfeed, htype]

/-- The head of an interface is one. -/
lemma opensInterface_headLine (name : String) : opensInterface (headLine name) := by
  rw [opensInterface, List.isPrefixOf_iff_prefix, headLine, String.append_assoc, String.toList_append]
  exact List.prefix_append _ _

/-- The head of an interface stands in one line. -/
lemma linesOf_headLine (hname : Text.IsWord name) : Text.linesOf (headLine name) = [headLine name] := by
  apply Text.linesOf_of_notMem
  have hwords : '\n' ∉ interfaceWords.toList := by decide
  have hfeed : '\n' ∉ name.toList := hname.notMem (by decide)
  simp [headLine, interfaceName, hwords, hfeed]

/-! ## Lines of descriptions -/

/-- What comes of the description of a type stands in lines of its own, and none of them is the head of an interface. -/
lemma exists_linesOf_summary (text : Option String) :
    ∃ docs : List String, (∀ line ∈ docs, opensInterface line = false) ∧
      ∀ s, Text.linesOf (summary "" text ++ s) = docs ++ Text.linesOf s := by
  rw [summary]
  by_cases hbody : Text.commentBlock text "" " * " = ""
  · exact ⟨[], by simp, fun s => by simp [hbody]⟩
  · refine ⟨"/**" :: Text.linesOf (Text.commentBlock text "" " * ") ++ [" */"], ?_, fun s => ?_⟩
    · intro line hline
      rw [List.mem_append, List.mem_cons, List.mem_singleton] at hline
      rcases hline with (rfl | hline) | rfl
      · rfl
      · apply opensInterface_eq_false
        rcases Text.eq_empty_or_prefix_of_mem_linesOf [' ', '*'] rfl (by decide) (by simp; rfl) hline with
          rfl | ⟨rest, hline⟩
        · simp
        · rw [← hline]
          simp
      · rfl
    · have htext : "" ++ "/**\n" ++ Text.commentBlock text "" " * " ++ "\n" ++ "" ++ " */\n" ++ s =
          "/**" ++ "\n" ++ (Text.commentBlock text "" " * " ++ "\n" ++ (" */" ++ "\n" ++ s)) := by
        apply String.toList_injective
        simp
      rw [if_neg hbody, htext, Text.linesOf_append, Text.linesOf_append, Text.linesOf_append]
      simp [Text.linesOf_of_notMem]

end TypeScript

namespace Target

variable {t : Target} {m : Model} {look : TypeId → TypeDecl} {r : TypeRef}

/-- What comes of the description of a member stands in lines of its own, which are all remarks. -/
lemma exists_linesOf_commentHeader (hmarker : t.conventions.commentStr = "// ") (text : Option String) :
    ∃ remarks : List String, (∀ line ∈ remarks, TypeScript.isRemark line) ∧
      ∀ s, Text.linesOf (t.commentHeader "  " text ++ s) = remarks ++ Text.linesOf s := by
  rw [commentHeader, comment, hmarker]
  split
  · exact ⟨[], by simp, fun s => by simp⟩
  · refine ⟨Text.linesOf (Text.commentBlock text "  " "// "), fun line hline => ?_, fun s => Text.linesOf_append _ s⟩
    rcases Text.eq_empty_or_prefix_of_mem_linesOf [' ', ' ', '/', '/'] rfl (by decide) (by simp; rfl) hline with
      rfl | hline
    · rfl
    · exact Bool.or_eq_true_iff.2 (.inr (List.isPrefixOf_iff_prefix.2 hline))

/-- A member is written in one line behind those of its description. -/
lemma exists_linesOf_property (hmarker : t.conventions.commentStr = "// ") {q : Property} {type : String}
    (hname : Text.IsWord q.name) (htype : '\n' ∉ type.toList) :
    ∃ remarks : List String, (∀ line ∈ remarks, TypeScript.isRemark line) ∧
      Text.linesOf (TypeScript.property t "  " q type) = remarks ++ [TypeScript.memberLine q type] := by
  obtain ⟨remarks, hremarks, hlines⟩ := exists_linesOf_commentHeader hmarker (some q.description)
  refine ⟨remarks, hremarks, ?_⟩
  have htext : TypeScript.property t "  " q type =
      t.commentHeader "  " (some q.description) ++ TypeScript.memberLine q type := by
    simp only [TypeScript.property, TypeScript.memberLine, TypeScript.optionalMark, String.append_assoc]
  rw [htext, hlines, TypeScript.linesOf_memberLine hname htype]

/-- A type whose root is called by a word is written in one line. -/
lemma notMem_mentionText (hl : t.language = .typescript) (hroot : Text.IsWord (look r.root).name) :
    '\n' ∉ (t.mentionText "" look r).toList := by
  induction r with
  | named id =>
    have hfeed : '\n' ∉ (look id).name.toList := hroot.notMem (by decide)
    simp only [mentionText, spelling, hl]
    split
    · rw [TypeScript.builtin.eq_def]
      split <;> decide
    · simpa [TypeScript.interfaceName] using hfeed
  | array element _ ih =>
    simpa [mentionText, sequence, hl, TypeScript.sequence] using ih hroot

/-- Among the lines of members, those that are no remarks declare the members in order. -/
lemma filter_linesOf_properties (hmarker : t.conventions.commentStr = "// ") {qs : List Property}
    {type : Property → String} (hqs : ∀ q ∈ qs, Text.IsWord q.name ∧ '\n' ∉ (type q).toList) :
    let lines := Text.linesOf (String.intercalate "\n" (qs.map fun q => TypeScript.property t "  " q (type q)))
    (lines.filter fun line => !TypeScript.isRemark line) = qs.map (fun q => TypeScript.memberLine q (type q)) ∧
      ∀ line ∈ lines, TypeScript.opensInterface line = false := by
  by_cases hnil : qs = []
  · subst hnil
    refine ⟨by simp [Text.linesOf_of_notMem, TypeScript.isRemark], fun line hline => ?_⟩
    obtain rfl : line = "" := by simpa [Text.linesOf_of_notMem] using hline
    rfl
  dsimp only
  rw [Text.linesOf_intercalate (by simpa using hnil)]
  clear hnil
  induction qs with
  | nil => simp
  | cons q qs ih =>
    obtain ⟨hfilter, hopens⟩ := ih fun q hq => hqs q (List.mem_cons_of_mem _ hq)
    obtain ⟨hname, htype⟩ := hqs q List.mem_cons_self
    obtain ⟨remarks, hremarks, hlines⟩ := exists_linesOf_property hmarker hname htype
    rw [List.map_cons, List.flatMap_cons, hlines]
    constructor
    · have hnone : (remarks.filter fun line => !TypeScript.isRemark line) = [] :=
        List.filter_eq_nil_iff.2 fun line hline => by simp [hremarks line hline]
      rw [List.filter_append, List.filter_append, hnone, hfilter, List.map_cons]
      simp [TypeScript.isRemark_memberLine hname]
    · intro line hline
      rw [List.mem_append, List.mem_append, List.mem_singleton] at hline
      rcases hline with (hline | rfl) | hline
      · exact TypeScript.opensInterface_of_isRemark (hremarks line hline)
      · exact TypeScript.opensInterface_memberLine
      · exact hopens line hline

/-- How the type of a property is written inside an interface; nothing for none. -/
def propertyMention (t : Target) (look : TypeId → TypeDecl) (q : Property) : String :=
  q.type.elim "" (t.mentionText "" look)

/-- All members of an interface with their descriptions. -/
def membersText (t : Target) (look : TypeId → TypeDecl) (d : TypeDecl) : String :=
  String.intercalate "\n"
    (d.properties.values.map fun q => TypeScript.property t "  " q (t.propertyMention look q))

/-- An interface is the description of its type, its head, its members and a brace. -/
lemma declText_eq (hl : t.language = .typescript) (hc : t.conventions = Language.typescript.conventions)
    (look : TypeId → TypeDecl) (d : TypeDecl) :
    t.declText "" look d =
      TypeScript.summary "" (some d.description) ++
        (TypeScript.headLine d.name ++ "\n" ++ (t.membersText look d ++ "\n" ++ "\x7d")) := by
  have hbump : t.bumper "" = "  " := by rw [bumper, hc]; rfl
  have hclose : t.conventions.endTypeStr = "\x7d" := by rw [hc]; rfl
  have hdelimiter : t.conventions.propDelimiter = "\n" := by rw [hc]; rfl
  have hhead : t.typeSignature "" d =
      TypeScript.summary "" (some d.description) ++ (TypeScript.headLine d.name ++ "\n") := by
    have hbrace : " \x7b\n" = " \x7b" ++ "\n" := rfl
    simp only [typeSignature, hl, TypeScript.typeSignature, TypeScript.headLine, TypeScript.interfaceWords, hbrace,
      String.append_empty, String.append_assoc]
  have hmembers : (d.properties.values.map fun q =>
        t.propertyText "  " q (q.type.elim "" (t.mentionText "" look))) =
      d.properties.values.map fun q => TypeScript.property t "  " q (t.propertyMention look q) := by
    simp only [propertyText, hl, propertyMention]
  simp only [declText, hbump, hclose, hdelimiter, hhead, hmembers, membersText, String.append_assoc]
  rfl

/-- The lines of an interface: what comes of the description of its type, its head, those of its members and a brace. -/
lemma exists_linesOf_declText (hl : t.language = .typescript) (hc : t.conventions = Language.typescript.conventions)
    (look : TypeId → TypeDecl) {d : TypeDecl} (hname : Text.IsWord d.name) :
    ∃ docs : List String, (∀ line ∈ docs, TypeScript.opensInterface line = false) ∧
      Text.linesOf (t.declText "" look d) =
        docs ++ TypeScript.headLine d.name :: Text.linesOf (t.membersText look d) ++ ["\x7d"] := by
  obtain ⟨docs, hdocs, hsummary⟩ := TypeScript.exists_linesOf_summary (some d.description)
  refine ⟨docs, hdocs, ?_⟩
  rw [declText_eq hl hc, hsummary, Text.linesOf_append, Text.linesOf_append, TypeScript.linesOf_headLine hname]
  simp [Text.linesOf_of_notMem]

/-- With the conventions of TypeScript, the lines of an interface can be read back whatever the descriptions are: one
line is the head, the last one closes the interface, and between them the lines that are no remarks declare the members,
one after the other, each with its name, its marks and its type. -/
theorem declareType_lines (hl : t.language = .typescript) (hc : t.conventions = Language.typescript.conventions)
    {p : Pass} {id : TypeId} (htyped : (p.decl m id).Typed) (hname : Text.IsWord (p.decl m id).name)
    (hwords : ∀ q ∈ (p.decl m id).properties.values,
      Text.IsWord q.name ∧ ∀ r, q.type = some r → Text.IsWord (p.decl m r.root).name) :
    ∃ text p₁ before inner,
      (t.declareType m "" id).runFrom p = (.ok text, p₁) ∧
      Text.linesOf text = before ++ TypeScript.headLine (p.decl m id).name :: inner ++ ["\x7d"] ∧
      (Text.linesOf text).filter TypeScript.opensInterface = [TypeScript.headLine (p.decl m id).name] ∧
      (p.decl m id).properties.values.Forall₂ (fun q line => ∃ r type p₂, q.type = some r ∧
          (t.typeMap m "" (some r)).runFrom p = (.ok type, p₂) ∧ line = TypeScript.memberLine q type)
        (inner.filter fun line => !TypeScript.isRemark line) := by
  have htypes : ∀ q ∈ (p.decl m id).properties.values,
      Text.IsWord q.name ∧ '\n' ∉ (t.propertyMention (p.decl m) q).toList := by
    intro q hq
    obtain ⟨r, hr⟩ := Option.isSome_iff_exists.1 (htyped q hq)
    obtain ⟨hword, hroot⟩ := hwords q hq
    rw [propertyMention, hr]
    exact ⟨hword, notMem_mentionText hl (hroot r hr)⟩
  obtain ⟨docs, hdocs, hlines⟩ := exists_linesOf_declText hl hc (p.decl m) hname
  obtain ⟨hmembers, hopens⟩ := filter_linesOf_properties (t := t) (by rw [hc]; rfl) htypes
  refine ⟨t.declText "" (p.decl m) (p.decl m id), p.countAll (p.decl m id).mentions, docs,
    Text.linesOf (t.membersText (p.decl m) (p.decl m id)), ?_, hlines, ?_, ?_⟩
  · rw [declareType, Step.runFrom_bind_of_ok (Step.runFrom_get p)]
    exact runFrom_declareDecl htyped p
  · have hnone {lines : List String} (h : ∀ line ∈ lines, TypeScript.opensInterface line = false) :
        lines.filter TypeScript.opensInterface = [] :=
      List.filter_eq_nil_iff.2 fun line hline => by simp [h line hline]
    rw [hlines, List.filter_append, List.filter_append, hnone hdocs,
      List.filter_cons_of_pos (TypeScript.opensInterface_headLine _), membersText, hnone hopens]
    rfl
  · rw [membersText, hmembers]
    refine List.forall₂_map_right_iff.2 (List.forall₂_same.2 fun q hq => ?_)
    obtain ⟨r, hr⟩ := Option.isSome_iff_exists.1 (htyped q hq)
    exact ⟨r, _, _, hr, runFrom_typeMapRef r p, by rw [propertyMention, hr]; rfl⟩

/-- A record with descriptions that look like an interface, like a member and like nothing. -/
def sampleDescribed : TypeDecl :=
  { name := "User"
    description := "export interface IAdmin \x7b\n\x7d"
    properties := .ofList
      [("id",
        { name := "id"
          type := some (.named (.declared 0))
          description := "\n  name: string"
          readOnly := true }),
       ("friends",
        { name := "friends"
          type := some (.array (.named (.declared 1)) "")
          description := "\n\n"
          nullable := true })] }

/-- A model with that record. -/
def sampleDescribedModel : Model := { decls := #[{ name := "string", intrinsic := true }, sampleDescribed] }

/-- The two members of the record are read back from its interface, and nothing else is. -/
theorem declareType_lines_sample :
    let t := standard .typescript
    let m := sampleDescribedModel
    let p : Pass := {}
    t.language = .typescript ∧ t.conventions = Language.typescript.conventions ∧
    p.decl m (.declared 1) = sampleDescribed ∧ sampleDescribed.Typed ∧ Text.IsWord sampleDescribed.name ∧
    (∀ q ∈ sampleDescribed.properties.values,
      Text.IsWord q.name ∧ ∀ r, q.type = some r → Text.IsWord (p.decl m r.root).name) ∧
    ∃ text p₁ before inner,
      (t.declareType m "" (.declared 1)).runFrom p = (.ok text, p₁) ∧
      Text.linesOf text = before ++ TypeScript.headLine "User" :: inner ++ ["\x7d"] ∧
      (Text.linesOf text).filter TypeScript.opensInterface = [TypeScript.headLine "User"] ∧
      sampleDescribed.properties.values.Forall₂ (fun q line => ∃ r type p₂, q.type = some r ∧
          (t.typeMap m "" (some r)).runFrom p = (.ok type, p₂) ∧ line = TypeScript.memberLine q type)
        (inner.filter fun line => !TypeScript.isRemark line) := by
  intro t m p
  have htyped : (p.decl m (.declared 1)).Typed := by
    show ∀ q ∈ sampleDescribed.properties.values, q.type.isSome
    decide
  have hname : Text.IsWord (p.decl m (.declared 1)).name := by decide
  have hwords : ∀ q ∈ (p.decl m (.declared 1)).properties.values,
      Text.IsWord q.name ∧ ∀ r, q.type = some r → Text.IsWord (p.decl m r.root).name := by
    have hvalues : ∀ q ∈ sampleDescribed.properties.values,
        Text.IsWord q.name ∧ ∀ r ∈ q.type, Text.IsWord (p.decl m r.root).name := by decide
    exact hvalues
  exact ⟨rfl, rfl, rfl, htyped, hname, hwords,
    declareType_lines rfl rfl htyped hname hwords⟩

end Target

end SdkGen
