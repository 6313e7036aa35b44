import Mathlib.Tactic.Basic
import SdkGen.Arguments

/-!
# Arguments keep their places

The arguments of a call are gathered from the last to the first, and what is left out is decided by the look of the
text. As long as no argument looks like the null literal, this comes to a rule about places: everything up to the last
place that is taken is written, with the null literal in the empty places, and nothing after it.

Main statements: `Conventions.assemble_of_shows` (the text of a call in terms of its places) and
`Conventions.assemble_keeps_places`.
-/

namespace SdkGen

namespace Text

/-- Nothing is trimmed from a text whose ends are not blank. -/
lemma trim_eq_self {cs : List Char} (hl : ∀ ch ∈ cs.head?, isBlank ch = false)
    (hr : ∀ ch ∈ cs.getLast?, isBlank ch = false) : trim cs = cs := by
  have hdrop {l : List Char} (h : ∀ ch ∈ l.head?, isBlank ch = false) : l.dropWhile isBlank = l := by
    cases l with
    | nil => rfl
    | cons ch l => exact List.dropWhile_cons_of_neg (by simp [h ch rfl])
  rw [trim, trimLeft, hdrop hl, trimRight, hdrop (by rwa [List.head?_reverse]), List.reverse_reverse]

/-- Nothing is stripped from a text whose ends are not blank. -/
lemma stripped_eq_self {s : String} (hl : ∀ ch ∈ s.toList.head?, isBlank ch = false)
    (hr : ∀ ch ∈ s.toList.getLast?, isBlank ch = false) : stripped s = s := by
  rw [stripped, trim_eq_self hl hr, String.ofList_toList]

/-- Nothing is stripped from a text in brackets. -/
lemma stripped_bracketed (inner : String) : stripped ("[" ++ inner ++ "]") = "[" ++ inner ++ "]" := by
  apply stripped_eq_self
  · simp [isBlank]
  · intro ch hch
    rw [String.toList_append, List.getLast?_append] at hch
    cases hch
    rfl

/-- A common text can be put before each of the joined texts, and not only between them. -/
lemma append_intercalate_append (front delimiter text : String) (texts : List String) :
    front ++ String.intercalate (delimiter ++ front) (text :: texts) =
      String.intercalate delimiter ((text :: texts).map (front ++ ·)) := by
  induction texts generalizing text with
  | nil => simp
  | cons next texts ih =>
    rw [String.intercalate_cons_cons, List.map_cons, List.map_cons, String.intercalate_cons_cons, ← List.map_cons,
      ← ih next]
    simp only [String.append_assoc]

end Text

namespace Conventions

/-- The place of a group of arguments: the bracketed arguments, or nothing if there are none. -/
def groupSlot (c : Conventions) (args : List String) (front : String) : Option String :=
  if args = [] then none
  else some ("[" ++ String.intercalate c.argDelimiter (args.map (front ++ ·)) ++ "]")

/-- The place of the body: nothing if there is no body or if it has no name. -/
def bodySlot (body : Option String) (front : String) : Option String :=
  (body.filter (· ≠ "")).map (front ++ ·)

/-- The four places of a call, in their order. -/
def slots (c : Conventions) (query : List String) (body : Option String) (header cookie : List String)
    (front : String) : List (Option String) :=
  [c.groupSlot query front, bodySlot body front, c.groupSlot header front, c.groupSlot cookie front]

/-- The texts in places up to the last one that is taken, with the null literal in those that are not. -/
def placed (c : Conventions) : List (Option String) → List String
  | [] => []
  | some text :: slots => text :: c.placed slots
  | none :: slots => if c.placed slots = [] then [] else c.nullStr :: c.placed slots

/-- Gathers the texts in places from the last one to the first one. -/
def gather (c : Conventions) : List (Option String) → String
  | [] => ""
  | slot :: slots => c.argFill (c.gather slots) (slot.getD c.nullStr)

/-- A text that shows in a call: it is there and does not look like the null literal. -/
structure Shows (c : Conventions) (text : String) : Prop where
  ne_empty : text ≠ ""
  stripped_ne : Text.stripped text ≠ c.nullStr

variable {c : Conventions} {front text : String} {args query header cookie : List String} {body : Option String}
  {slots later : List (Option String)}

/-- Where no place is taken, nothing is placed. -/
lemma placed_eq_nil (h : ∀ slot ∈ slots, slot = none) : c.placed slots = [] := by
  induction slots with
  | nil => rfl
  | cons slot slots ih =>
    obtain rfl := h slot List.mem_cons_self
    exact if_pos (ih fun slot hs => h slot (List.mem_cons_of_mem _ hs))

/-- Up to the last place that is taken, every place has its text. -/
lemma placed_append_some (h : ∀ slot ∈ later, slot = none) :
    c.placed (slots ++ some text :: later) = (slots ++ [some text]).map (·.getD c.nullStr) := by
  induction slots with
  | nil => exact congrArg (text :: ·) (placed_eq_nil h)
  | cons slot slots ih =>
    rw [List.cons_append, List.cons_append, List.map_cons]
    cases slot with
    | some text' => exact congrArg (text' :: ·) ih
    | none =>
      have hne : c.placed (slots ++ some text :: later) ≠ [] := by simp [ih]
      rw [placed, if_neg hne, ih, Option.getD_none]

/-- What shows is put in front of what was gathered. -/
lemma argFill_of_shows (h : c.Shows text) (gathered : String) :
    c.argFill gathered text = text ++ (if gathered = "" then "" else c.argDelimiter) ++ gathered := by
  rw [argFill, if_neg fun hn => h.stripped_ne hn.2]

/-- Where everything that is placed shows, gathering joins what is placed. -/
theorem gather_eq (hnull : Text.stripped c.nullStr = c.nullStr) (h : ∀ text, some text ∈ slots → c.Shows text) :
    c.gather slots = String.intercalate c.argDelimiter (c.placed slots) ∧
      (c.gather slots = "" ↔ c.placed slots = []) := by
  induction slots with
  | nil => exact ⟨rfl, iff_of_true rfl rfl⟩
  | cons slot slots ih =>
    obtain ⟨heq, hempty⟩ := ih fun text ht => h text (List.mem_cons_of_mem _ ht)
    cases slot with
    | some text =>
      have ht := h text List.mem_cons_self
      have hne : c.gather (some text :: slots) ≠ "" := by
        simp [gather, argFill_of_shows ht, ht.ne_empty]
      refine ⟨?_, iff_of_false hne (List.cons_ne_nil _ _)⟩
      rw [gather, Option.getD_some, argFill_of_shows ht, placed]
      by_cases hp : c.placed slots = []
      · simp [hempty.2 hp, hp]
      · rw [if_neg (mt hempty.1 hp), heq, String.intercalate_cons_of_ne_nil hp]
    | none =>
      rw [gather, Option.getD_none, argFill, placed]
      by_cases hp : c.placed slots = []
      -- the null literal is left out as long as nothing has been gathered
      · rw [if_pos ⟨hempty.2 hp, hnull⟩, if_pos hp]
        exact ⟨rfl, iff_of_true rfl rfl⟩
      · have hg := mt hempty.1 hp
        rw [if_neg fun hn => hg hn.1, if_neg hg, if_neg hp, String.intercalate_cons_of_ne_nil hp, ← heq]
        exact ⟨rfl, iff_of_false (by simp [hg]) (List.cons_ne_nil _ _)⟩

/-- A group of arguments is written as what is in its place, or else as the null literal. -/
lemma argGroup_eq (c : Conventions) (args : List String) (front : String) :
    c.argGroup args front = (c.groupSlot args front).getD c.nullStr := by
  cases args with
  | nil => rfl
  | cons arg args =>
    have hgroup : c.argGroup (arg :: args) front =
        "[" ++ front ++ String.intercalate (c.argDelimiter ++ front) (arg :: args) ++ "]" := rfl
    rw [hgroup, groupSlot, if_neg (List.cons_ne_nil _ _), Option.getD_some, ← Text.append_intercalate_append]
    simp only [String.append_assoc]

/-- The body is written as what is in its place, or else as the null literal. -/
lemma bodyText_eq (c : Conventions) (body : Option String) (front : String) :
    c.bodyText body front = (bodySlot body front).getD c.nullStr := by
  rw [bodyText.eq_def, bodySlot]
  split
  · rfl
  · rfl
  · next name hne =>
    have hname : name ≠ "" := hne
    simp [Option.filter, hname]

/-- A call is gathered from its places. -/
lemma assemble_eq_gather (c : Conventions) (query : List String) (body : Option String) (header cookie : List String)
    (front : String) :
    c.assemble query body header cookie front = c.gather (c.slots query body header cookie front) := by
  simp only [assemble, slots, gather, argGroup_eq, bodyText_eq]

/-- Bracketed arguments show if the null literal does not begin with a bracket. -/
lemma shows_of_groupSlot (hnull : c.nullStr.toList.head? ≠ some '[') (h : c.groupSlot args front = some text) :
    c.Shows text := by
  rw [groupSlot] at h
  split at h
  · cases h
  · cases h
    refine ⟨by simp, ?_⟩
    rw [Text.stripped_bracketed]
    intro he
    simp [← he] at hnull

section Calls

variable (hstripped : Text.stripped c.nullStr = c.nullStr) (hnull : c.nullStr.toList.head? ≠ some '[')
  (hbody : ∀ text, bodySlot body front = some text → c.Shows text)

include hnull hbody in
/-- Where the body shows, too, all that is in a place shows. -/
lemma shows_of_mem_slots (h : some text ∈ c.slots query body header cookie front) : c.Shows text := by
  simp only [slots, List.mem_cons, List.not_mem_nil, or_false] at h
  rcases h with h | h | h | h
  · exact shows_of_groupSlot hnull h.symm
  · exact hbody text h.symm
  · exact shows_of_groupSlot hnull h.symm
  · exact shows_of_groupSlot hnull h.symm

include hstripped hnull hbody

/-- Where the body shows, too, the text of a call joins what is placed. -/
theorem assemble_of_shows : c.assemble query body header cookie front =
    String.intercalate c.argDelimiter (c.placed (c.slots query body header cookie front)) := by
  rw [assemble_eq_gather]
  exact (gather_eq hstripped fun text => shows_of_mem_slots hnull hbody).1

/-- Where the body shows, too, the text of a call is empty just if nothing is placed. -/
lemma assemble_eq_empty_iff : c.assemble query body header cookie front = "" ↔
    c.placed (c.slots query body header cookie front) = [] := by
  rw [assemble_eq_gather]
  exact (gather_eq hstripped fun text => shows_of_mem_slots hnull hbody).2

end Calls

/-- If the null literal has no blanks at its ends and does not begin with a bracket, and if the body does not look like
it, then a call without arguments is empty, and every other call has its arguments up to the last place that is taken,
with the null literal in the empty places. -/
theorem assemble_keeps_places (hstripped : Text.stripped c.nullStr = c.nullStr)
    (hnull : c.nullStr.toList.head? ≠ some '[')
    (hbody : ∀ name, body = some name → name ≠ "" → Text.stripped (front ++ name) ≠ c.nullStr) :
    ((∀ slot ∈ c.slots query body header cookie front, slot = none) →
      c.assemble query body header cookie front = "") ∧
    ∀ slots text later,
      c.slots query body header cookie front = slots ++ some text :: later →
      (∀ slot ∈ later, slot = none) →
      c.assemble query body header cookie front =
        String.intercalate c.argDelimiter ((slots ++ [some text]).map (·.getD c.nullStr)) := by
  have hshows (text : String) (h : bodySlot body front = some text) : c.Shows text := by
    obtain ⟨name, hname, rfl⟩ := Option.map_eq_some_iff.1 h
    obtain ⟨hname, hne⟩ := Option.filter_eq_some_iff.1 hname
    have hne : name ≠ "" := by simpa using hne
    exact ⟨by simp [hne], hbody name hname hne⟩
  rw [assemble_of_shows hstripped hnull hshows]
  constructor
  · intro h
    rw [placed_eq_nil h]
    rfl
  · intro slots text later he h
    rw [he, placed_append_some h]

/-- The body and the headers keep their places behind an empty query, and the place of the cookies is left out. -/
theorem assemble_keeps_places_sample :
    let c : Conventions := { nullStr := "None" }
    Text.stripped c.nullStr = c.nullStr ∧ c.nullStr.toList.head? ≠ some '[' ∧
    (∀ name, some "user" = some name → name ≠ "" → Text.stripped ("self." ++ name) ≠ c.nullStr) ∧
    c.slots [] (some "user") ["trace", "token"] [] "self." =
      [none, some "self.user", some "[self.trace, self.token]", none] ∧
    c.assemble [] (some "user") ["trace", "token"] [] "self." = "None, self.user, [self.trace, self.token]" := by
  intro c
  have hstripped : Text.stripped c.nullStr = c.nullStr := by decide
  have hnull : c.nullStr.toList.head? ≠ some '[' := by decide
  have hbody (name : String) (h : some "user" = some name) (_ : name ≠ "") :
      Text.stripped ("self." ++ name) ≠ c.nullStr := by
    obtain rfl := Option.some.inj h
    decide
  have hslots : c.slots [] (some "user") ["trace", "token"] [] "self." =
      [none, some "self.user"] ++ some "[self.trace, self.token]" :: [none] := by decide
  exact ⟨hstripped, hnull, hbody, hslots,
    (assemble_keeps_places hstripped hnull hbody).2 _ _ _ hslots (by decide)⟩

end Conventions

end SdkGen
