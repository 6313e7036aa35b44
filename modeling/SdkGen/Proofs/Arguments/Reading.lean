import Mathlib.Tactic.Basic
import SdkGen.Proofs.Arguments.Positions

/-!
# Arguments can be read back

The same mark stands between the places of a call and between the arguments in one place, places at the end vanish, and
an empty place in the middle is written as a word. All the same, nothing is lost: if prefix and names are made of plain
characters, then the text of a call tells which arguments it has, group by group and in order.

Main statements: `Conventions.readGroup_line` and `Conventions.readBody_line` (one place is read off the front of a
text, and what follows is left) and `Conventions.readArgs_httpArgs`.
-/

namespace SdkGen

/-- The arguments of a call, group by group. -/
structure CallArgs where
  /-- The query arguments. -/
  query : List String
  /-- The body argument, if there is one. -/
  body : Option String
  /-- The header arguments. -/
  header : List String
  /-- The cookie arguments. -/
  cookie : List String
deriving DecidableEq

/-- The arguments that a method passes to its call. -/
def Method.callArgs (m : Method) : CallArgs :=
  { query := m.queryArgs, body := m.bodyArg, header := m.headerArgs, cookie := m.cookieArgs }

namespace Text

/-- Whether a character is none of the marks of an argument list: no blank, no comma and no bracket. Letters, digits,
underscores and dots are plain. -/
def isPlain (ch : Char) : Bool := !isBlank ch && ch != ',' && ch != '[' && ch != ']'

/-- All characters of a text are plain. -/
def IsPlain (s : String) : Prop := s.toList.all isPlain = true

instance (s : String) : Decidable (IsPlain s) := inferInstanceAs (Decidable (s.toList.all isPlain = true))

/-- The characters of a text without the spaces. -/
def compact (s : String) : List Char := s.toList.filter (· ≠ ' ')

variable {s s' : String}

/-- Plain texts make a plain text together. -/
lemma IsPlain.append (h : IsPlain s) (h' : IsPlain s') : IsPlain (s ++ s') := by
  rw [IsPlain, String.toList_append, List.all_append, h, h']
  rfl

/-- A mark of an argument list is not among plain characters. -/
lemma IsPlain.notMem (h : IsPlain s) (ch : Char) (hch : isPlain ch = false) : ch ∉ s.toList := by
  intro hmem
  rw [List.all_eq_true.1 h ch hmem] at hch
  cases hch

/-- There are no spaces in a plain text. -/
lemma IsPlain.compact (h : IsPlain s) : compact s = s.toList := by
  apply List.filter_eq_self.2
  rintro ch hch
  have hne : ch ≠ ' ' := by
    rintro rfl
    exact h.notMem ' ' (by decide) hch
  simp [hne]

/-- Nothing is stripped from a plain text. -/
lemma IsPlain.stripped (h : IsPlain s) : stripped s = s := by
  have hblank (ch : Char) (hch : ch ∈ s.toList) : isBlank ch = false := by
    have hp := List.all_eq_true.1 h ch hch
    simp only [isPlain, Bool.and_eq_true, Bool.not_eq_true'] at hp
    exact hp.1.1.1
  exact stripped_eq_self (fun ch hch => hblank ch (List.mem_of_mem_head? hch))
    (fun ch hch => hblank ch (List.mem_of_mem_getLast? hch))

/-- Spaces are left out of two texts one by one. -/
@[simp] lemma compact_append (s s' : String) : Text.compact (s ++ s') = Text.compact s ++ Text.compact s' := by
  rw [Text.compact, String.toList_append, List.filter_append]
  rfl

/-- Without spaces, joined texts are joined by commas. -/
lemma compact_intercalate (texts : List String) :
    Text.compact (String.intercalate ", " texts) = [','].intercalate (texts.map Text.compact) := by
  induction texts with
  | nil => rfl
  | cons text texts ih =>
    by_cases h : texts = []
    · simp [h]
    · have hmap : texts.map Text.compact ≠ [] := by simpa using h
      rw [String.intercalate_cons_of_ne_nil h, List.map_cons, List.intercalate_cons_of_ne_nil hmap, compact_append,
        compact_append, ih]
      rfl

/-- What is between joined texts or in one of them. -/
lemma mem_intercalate {ch : Char} {mark : List Char} {words : List (List Char)} (h : ch ∈ mark.intercalate words) :
    ch ∈ mark ∨ ∃ word ∈ words, ch ∈ word := by
  induction words with
  | nil => simp at h
  | cons word words ih =>
    by_cases hw : words = []
    · subst hw
      exact .inr ⟨word, List.mem_cons_self, by simpa using h⟩
    · rw [List.intercalate_cons_of_ne_nil hw, List.mem_append, List.mem_append] at h
      rcases h with (h | h) | h
      · exact .inr ⟨word, List.mem_cons_self, h⟩
      · exact .inl h
      · exact (ih h).imp_right fun ⟨w, hw, hch⟩ => ⟨w, List.mem_cons_of_mem _ hw, hch⟩

section Plain

variable {texts : List String} (h : ∀ text ∈ texts, IsPlain text)

include h

/-- A mark of an argument list is in none of some plain texts. -/
lemma notMem_of_isPlain (ch : Char) (hch : isPlain ch = false) : ∀ word ∈ texts.map String.toList, ch ∉ word := by
  intro word hw
  obtain ⟨text, ht, rfl⟩ := List.mem_map.1 hw
  exact (h text ht).notMem ch hch

/-- Without spaces, plain texts between brackets are joined by commas. -/
lemma compact_bracketed :
    Text.compact ("[" ++ String.intercalate ", " texts ++ "]") =
      '[' :: ([','].intercalate (texts.map String.toList) ++ [']']) := by
  have hwords : texts.map Text.compact = texts.map String.toList :=
    List.map_congr_left fun text ht => (h text ht).compact
  rw [compact_append, compact_append, compact_intercalate, hwords]
  rfl

end Plain

/-- A text is read up to a mark that is not in it, or up to its end. -/
lemma scan_append {mark : Char} {cs : List Char} (hcs : mark ∉ cs) (rest : List Char)
    (hrest : ∀ ch ∈ rest.head?, ch = mark) :
    (cs ++ rest).takeWhile (· ≠ mark) = cs ∧ (cs ++ rest).dropWhile (· ≠ mark) = rest := by
  have hne : ∀ ch ∈ cs, decide (ch ≠ mark) = true := by
    intro ch hch
    rw [decide_eq_true_iff]
    rintro rfl
    exact hcs hch
  rw [List.takeWhile_append_of_pos hne, List.dropWhile_append_of_pos hne]
  cases rest with
  | nil => simp
  | cons ch rest =>
    obtain rfl := hrest ch rfl
    simp

end Text

namespace Conventions

/-- Reads a group of arguments off the front of a text without spaces, and leaves what follows. -/
def readGroup (front : String) (cs : List Char) : List String × List Char :=
  if cs.head? = some '[' then
    let inner := cs.tail.takeWhile (· ≠ ']')
    ((inner.splitOn ',').map fun word => String.ofList (word.drop front.length),
      (cs.tail.dropWhile (· ≠ ']')).drop 2)
  else ([], (cs.dropWhile (· ≠ ',')).drop 1)

/-- Reads the body off the front of a text without spaces, and leaves what follows. -/
def readBody (c : Conventions) (front : String) (cs : List Char) : Option String × List Char :=
  let word := cs.takeWhile (· ≠ ',')
  (if word = [] ∨ word = c.nullStr.toList then none else some (String.ofList (word.drop front.length)),
    (cs.dropWhile (· ≠ ',')).drop 1)

/-- Reads the arguments of a call from its text. -/
def readArgs (c : Conventions) (front text : String) : CallArgs :=
  let (query, rest) := readGroup front (Text.compact text)
  let (body, rest) := c.readBody front rest
  let (header, rest) := readGroup front rest
  let (cookie, _) := readGroup front rest
  { query, body, header, cookie }

/-- The text in places, without spaces. -/
def line (c : Conventions) (slots : List (Option String)) : List Char :=
  [','].intercalate ((c.placed slots).map Text.compact)

/-- What follows a place that is taken: the later places behind a comma, unless none of them is taken. -/
def continuation (c : Conventions) (slots : List (Option String)) : List Char :=
  if c.placed slots = [] then [] else ',' :: c.line slots

variable {c : Conventions} {front text : String} {args : List String} {body : Option String}
  {slots : List (Option String)}

/-- Behind its comma, what goes on is the line of the places that are left. -/
@[simp] lemma drop_continuation : (c.continuation slots).drop 1 = c.line slots := by
  rw [continuation]
  split
  · next h => rw [line, h]; rfl
  · rfl

/-- A place that is taken is written with what follows. -/
lemma line_some : c.line (some text :: slots) = Text.compact text ++ c.continuation slots := by
  rw [line, placed, List.map_cons, continuation]
  by_cases h : c.placed slots = []
  · rw [if_pos h, h, List.map_nil, List.intercalate_singleton, List.append_nil]
  · rw [if_neg h, List.intercalate_cons_of_ne_nil (by simpa using h), List.append_assoc]
    rfl

/-- An empty place is written as the null literal if a later place is taken, and not at all if none is. -/
lemma line_none (hnull : Text.IsPlain c.nullStr) (slots : List (Option String)) :
    c.line (none :: slots) = [] ∧ c.line slots = [] ∨
      c.line (none :: slots) = c.nullStr.toList ++ ',' :: c.line slots := by
  by_cases h : c.placed slots = []
  · refine .inl ⟨?_, ?_⟩
    · rw [line, placed, if_pos h]
      rfl
    · rw [line, h]
      rfl
  · refine .inr ?_
    rw [line, placed, if_neg h, List.map_cons, List.intercalate_cons_of_ne_nil (by simpa using h), hnull.compact,
      List.append_assoc]
    rfl

/-- What follows a place that is taken is nothing or begins with a comma. -/
lemma eq_comma_of_head?_continuation : ∀ ch ∈ (c.continuation slots).head?, ch = ',' := by
  rw [continuation]
  split
  · exact nofun
  · rintro _ ⟨⟩
    rfl

/-- Plain texts between brackets are read one by one, without the prefix. -/
lemma readGroup_bracketed {texts : List String} (h : ∀ text ∈ texts, Text.IsPlain text) (hne : texts ≠ [])
    (rest : List Char) :
    readGroup front ('[' :: ([','].intercalate (texts.map String.toList) ++ ']' :: rest)) =
      (texts.map fun text => String.ofList (text.toList.drop front.length), rest.drop 1) := by
  have hend : ']' ∉ [','].intercalate (texts.map String.toList) := by
    intro hmem
    rcases Text.mem_intercalate hmem with hmem | ⟨word, hw, hmem⟩
    · cases List.mem_singleton.1 hmem
    · exact Text.notMem_of_isPlain h ']' (by decide) word hw hmem
  obtain ⟨htake, hdrop⟩ := Text.scan_append hend (']' :: rest) (by simp)
  have hsplit : ([','].intercalate (texts.map String.toList)).splitOn ',' = texts.map String.toList :=
    List.splitOn_intercalate ',' (Text.notMem_of_isPlain h ',' (by decide)) (by simpa using hne)
  rw [readGroup, List.head?_cons, if_pos rfl, List.tail_cons, hdrop, htake]
  simp only [hsplit, List.map_map]
  rfl

/-- Where a plain word stands in place of a group, there are no arguments. -/
lemma readGroup_plain (h : Text.IsPlain text) (rest : List Char) :
    readGroup front (text.toList ++ ',' :: rest) = ([], rest) := by
  obtain ⟨_, hdrop⟩ := Text.scan_append (h.notMem ',' (by decide)) (',' :: rest) (by simp)
  have hhead : (text.toList ++ ',' :: rest).head? ≠ some '[' := by
    intro he
    rw [List.head?_append, Option.or_eq_some_iff] at he
    rcases he with he | ⟨_, he⟩
    · exact h.notMem '[' (by decide) (List.mem_of_mem_head? he)
    · cases he
  rw [readGroup, if_neg hhead, hdrop]
  rfl

/-- The body is the word up to the next comma, unless that is the null literal or empty. -/
lemma readBody_plain {rest : List Char} (h : Text.IsPlain text) (hrest : ∀ ch ∈ rest.head?, ch = ',') :
    c.readBody front (text.toList ++ rest) =
      (if text = "" ∨ text = c.nullStr then none else some (String.ofList (text.toList.drop front.length)),
        rest.drop 1) := by
  obtain ⟨htake, hdrop⟩ := Text.scan_append (h.notMem ',' (by decide)) rest hrest
  simp only [readBody, htake, hdrop, String.toList_eq_nil_iff, String.toList_inj]

/-- A prefix is taken off again. -/
lemma ofList_drop_append (front name : String) :
    String.ofList ((front.toList ++ name.toList).drop front.length) = name := by
  rw [← String.length_toList, List.drop_left, String.ofList_toList]

/-- A group of arguments is read off the front of a text, and the later places are left. -/
theorem readGroup_line (hd : c.argDelimiter = ", ") (hnull : Text.IsPlain c.nullStr) (hf : Text.IsPlain front)
    (hargs : ∀ arg ∈ args, Text.IsPlain arg) :
    readGroup front (c.line (c.groupSlot args front :: slots)) = (args, c.line slots) := by
  by_cases hnil : args = []
  · subst hnil
    have hslot : c.groupSlot [] front = none := rfl
    rw [hslot]
    rcases line_none hnull slots with ⟨h, hlater⟩ | h
    · rw [h, hlater]
      rfl
    · rw [h, readGroup_plain hnull]
  · have hplain : ∀ text ∈ args.map (front ++ ·), Text.IsPlain text := by
      intro text ht
      obtain ⟨arg, harg, rfl⟩ := List.mem_map.1 ht
      exact hf.append (hargs arg harg)
    have hline : c.line (c.groupSlot args front :: slots) =
        '[' :: ([','].intercalate ((args.map (front ++ ·)).map String.toList) ++ ']' :: c.continuation slots) := by
      rw [groupSlot, if_neg hnil, hd, line_some, Text.compact_bracketed hplain]
      simp
    rw [hline, readGroup_bracketed hplain (by simpa using hnil), drop_continuation]
    simp [Function.comp_def, ofList_drop_append]

/-- The body is read off the front of a text, and the later places are left. -/
theorem readBody_line (hnull : Text.IsPlain c.nullStr) (hf : Text.IsPlain front)
    (hbody : ∀ name, body = some name → name ≠ "" ∧ Text.IsPlain name ∧ front ++ name ≠ c.nullStr) :
    c.readBody front (c.line (bodySlot body front :: slots)) = (body, c.line slots) := by
  cases body with
  | none =>
    have hslot : bodySlot none front = none := rfl
    rw [hslot]
    rcases line_none hnull slots with ⟨h, hlater⟩ | h
    · rw [h, hlater]
      rfl
    · rw [h, readBody_plain hnull (by simp), if_pos (.inr rfl)]
      rfl
  | some name =>
    obtain ⟨hne, hname, hnot⟩ := hbody name rfl
    have hslot : bodySlot (some name) front = some (front ++ name) := by simp [bodySlot, Option.filter, hne]
    have hplain := hf.append hname
    have htext : ¬(front ++ name = "" ∨ front ++ name = c.nullStr) := by simp [hne, hnot]
    rw [hslot, line_some, hplain.compact, readBody_plain hplain eq_comma_of_head?_continuation, if_neg htext,
      String.toList_append, ofList_drop_append, drop_continuation]

end Conventions

/-- The arguments of a method can be told apart: the names of its parameters are plain, none is empty, and the body
argument is not written like the null literal. -/
structure Method.Readable (method : Method) (c : Conventions) (front : String) : Prop where
  names : ∀ q ∈ method.params, q.name ≠ "" ∧ Text.IsPlain q.name
  body : ∀ name, method.bodyArg = some name → front ++ name ≠ c.nullStr

namespace Method.Readable

variable {method : Method} {c : Conventions} {front : String}

/-- The names of arguments are plain and not empty. -/
lemma of_mem_argsAt (h : method.Readable c front) {l : Location} {name : String} (hn : name ∈ method.argsAt l) :
    name ≠ "" ∧ Text.IsPlain name := by
  obtain ⟨q, hq, rfl⟩ := List.mem_map.1 hn
  exact h.names q (List.mem_filter.1 hq).1

/-- The text of a body is plain and not empty, and not written like the null literal. -/
lemma of_bodyArg (h : method.Readable c front) {name : String} (hn : method.bodyArg = some name) :
    name ≠ "" ∧ Text.IsPlain name ∧ front ++ name ≠ c.nullStr := by
  obtain ⟨hne, hplain⟩ := h.of_mem_argsAt (List.mem_of_mem_head? hn)
  exact ⟨hne, hplain, h.body name hn⟩

end Method.Readable

namespace Conventions

variable {c : Conventions} {front : String}

/-- Without spaces, the text of a call is what is in its places. -/
lemma compact_httpArgs (hd : c.argDelimiter = ", ") (hnull : Text.IsPlain c.nullStr) (hf : Text.IsPlain front)
    {method : Method} (h : method.Readable c front) :
    Text.compact (c.httpArgs method front) =
      c.line (c.slots method.queryArgs method.bodyArg method.headerArgs method.cookieArgs front) := by
  have hbracket : c.nullStr.toList.head? ≠ some '[' := fun he => hnull.notMem '[' (by decide) (List.mem_of_mem_head? he)
  have hshows (text : String) (ht : bodySlot method.bodyArg front = some text) : c.Shows text := by
    obtain ⟨name, hname, rfl⟩ := Option.map_eq_some_iff.1 ht
    obtain ⟨hne, hplain, hnot⟩ := h.of_bodyArg (Option.filter_eq_some_iff.1 hname).1
    refine ⟨by simp [hne], ?_⟩
    rwa [(hf.append hplain).stripped]
  rw [httpArgs, assemble_of_shows hnull.stripped hbracket hshows, hd, Text.compact_intercalate, line]

/-- With the common delimiter, a plain null literal and a plain prefix, the arguments of a method with plain names are
read back from the text of its call. So methods whose calls have the same text have the same arguments, group by group
and in order. -/
theorem readArgs_httpArgs (hd : c.argDelimiter = ", ") (hnull : Text.IsPlain c.nullStr) (hf : Text.IsPlain front) :
    (∀ method : Method, method.Readable c front → c.readArgs front (c.httpArgs method front) = method.callArgs) ∧
    ∀ method method' : Method, method.Readable c front → method'.Readable c front →
      c.httpArgs method front = c.httpArgs method' front →
      method.queryArgs = method'.queryArgs ∧ method.bodyArg = method'.bodyArg ∧
        method.headerArgs = method'.headerArgs ∧ method.cookieArgs = method'.cookieArgs := by
  have hread (method : Method) (h : method.Readable c front) :
      c.readArgs front (c.httpArgs method front) = method.callArgs := by
    have hgroup {l : Location} (slots : List (Option String)) :
        readGroup front (c.line (c.groupSlot (method.argsAt l) front :: slots)) = (method.argsAt l, c.line slots) :=
      readGroup_line hd hnull hf fun arg ha => (h.of_mem_argsAt ha).2
    have hbody (slots : List (Option String)) :
        c.readBody front (c.line (bodySlot method.bodyArg front :: slots)) = (method.bodyArg, c.line slots) :=
      readBody_line hnull hf fun name hn => h.of_bodyArg hn
    simp only [readArgs, compact_httpArgs hd hnull hf h, slots, Method.queryArgs, Method.headerArgs,
      Method.cookieArgs, hgroup, hbody, Method.callArgs]
  refine ⟨hread, fun method method' h h' he => ?_⟩
  have hargs : method.callArgs = method'.callArgs := by rw [← hread method h, he, hread method' h']
  simpa [Method.callArgs] using hargs

/-- A method with arguments in the query, the body and a cookie. -/
def sampleSearch : Method :=
  { name := "search", verb := "post", endpoint := "/notes"
    params :=
      [{ name := "limit", type := none }, { name := "note_1", type := none, location := .body },
       { name := "page", type := none }, { name := "session", type := none, location := .cookie }] }

/-- A method with the same arguments, in another order as far as they are in different places. -/
def sampleFind : Method :=
  { sampleSearch with
    name := "find"
    params :=
      [{ name := "session", type := none, location := .cookie }, { name := "limit", type := none },
       { name := "page", type := none }, { name := "note_1", type := none, location := .body }] }

/-- The calls of two methods have the same text, from which the same arguments are read. -/
theorem readArgs_httpArgs_sample :
    let c : Conventions := { nullStr := "None" }
    c.argDelimiter = ", " ∧ Text.IsPlain c.nullStr ∧ Text.IsPlain "request." ∧
    sampleSearch.Readable c "request." ∧ sampleFind.Readable c "request." ∧
    c.httpArgs sampleSearch "request." =
      "[request.limit, request.page], request.note_1, None, [request.session]" ∧
    c.httpArgs sampleSearch "request." = c.httpArgs sampleFind "request." ∧
    c.readArgs "request." (c.httpArgs sampleSearch "request.") = sampleSearch.callArgs ∧
    (sampleSearch.queryArgs = sampleFind.queryArgs ∧ sampleSearch.bodyArg = sampleFind.bodyArg ∧
      sampleSearch.headerArgs = sampleFind.headerArgs ∧ sampleSearch.cookieArgs = sampleFind.cookieArgs) := by
  intro c
  have hnull : Text.IsPlain c.nullStr := by decide
  have hf : Text.IsPlain "request." := by decide
  have hsearch : sampleSearch.Readable c "request." := ⟨by decide, by rintro _ ⟨⟩; decide⟩
  have hfind : sampleFind.Readable c "request." := ⟨by decide, by rintro _ ⟨⟩; decide⟩
  have htext : c.httpArgs sampleSearch "request." = c.httpArgs sampleFind "request." := by decide
  obtain ⟨hread, hsame⟩ := readArgs_httpArgs (c := c) rfl hnull hf
  exact ⟨rfl, hnull, hf, hsearch, hfind, by decide, htext, hread _ hsearch, hsame _ _ hsearch hfind htext⟩

end Conventions

end SdkGen
