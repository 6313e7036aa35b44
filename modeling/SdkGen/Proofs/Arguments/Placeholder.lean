import Mathlib.Tactic.Basic
import SdkGen.Proofs.Arguments.Positions

/-!
# Arguments that look like the null literal

Whether a place of a call is taken is not kept anywhere: a text that looks like the null literal is left out as long as
nothing has been gathered behind it. A bracketed group never looks like it. The body stands in the call as it is
written, so it is mistaken for the null literal if it is spelled like it and if no header and no cookie follows.

Main statement: `Conventions.assemble_showsAll_iff`. All arguments of a call are at their places exactly if the body is
not mistaken, and a body that is mistaken is left out.
-/

namespace SdkGen.Conventions

/-- A text joins the texts at some positions, and where a place is taken, what takes it is at that position. -/
structure ShowsAll (c : Conventions) (slots : List (Option String)) (positions : List String) (text : String) :
    Prop where
  eq_intercalate : text = String.intercalate c.argDelimiter positions
  taken : ∀ (i : Nat) (arg : String), slots[i]? = some (some arg) → positions[i]? = some arg

/-- The body of a call is taken for the null literal: it is spelled like it, up to blanks, and nothing follows it. -/
def MistakesBody (c : Conventions) (body : Option String) (header cookie : List String) (front : String) : Prop :=
  header = [] ∧ cookie = [] ∧ ∃ text, bodySlot body front = some text ∧ Text.stripped text = c.nullStr

variable {c : Conventions} {front text name : String} {query header cookie : List String} {body : Option String}
  {slots later : List (Option String)}

/-- The place of the body is taken by its name, if it has one. -/
lemma bodySlot_eq_some_iff :
    bodySlot body front = some text ↔ ∃ name, body = some name ∧ name ≠ "" ∧ front ++ name = text := by
  simp only [bodySlot, Option.map_eq_some_iff, Option.filter_eq_some_iff, decide_eq_true_eq, and_assoc]

/-- What takes the place of the body is not empty. -/
lemma ne_empty_of_bodySlot (h : bodySlot body front = some text) : text ≠ "" := by
  obtain ⟨name, -, hne, rfl⟩ := bodySlot_eq_some_iff.1 h
  simp [hne]

/-- A second position comes behind a first one. -/
lemma exists_of_getElem?_one {positions : List String} (h : positions[1]? = some text) :
    ∃ first rest, positions = first :: text :: rest := by
  rcases positions with _ | ⟨first, _ | ⟨second, rest⟩⟩
  · cases h
  · cases h
  · cases h
    exact ⟨first, rest, rfl⟩

/-- Where a body is shown, it is at the second position. -/
lemma ShowsAll.of_bodySlot {positions : List String} {whole : String}
    (h : c.ShowsAll (c.slots query body header cookie front) positions whole)
    (hbody : bodySlot body front = some text) :
    2 ≤ positions.length ∧ whole ≠ "" := by
  obtain ⟨first, rest, rfl⟩ := exists_of_getElem?_one (h.taken 1 text (by simp [slots, hbody]))
  refine ⟨by simp, ?_⟩
  rw [h.eq_intercalate, String.intercalate_cons_cons]
  cases rest <;> simp [ne_empty_of_bodySlot hbody]

/-! ## The last place that is taken -/

/-- Where no place is taken, nothing is gathered. -/
lemma gather_eq_empty (hstripped : Text.stripped c.nullStr = c.nullStr) (h : ∀ slot ∈ later, slot = none) :
    c.gather later = "" :=
  (gather_eq hstripped fun text ht => absurd (h _ ht) (Option.some_ne_none text)).2.2 (placed_eq_nil h)

/-- Once something has been gathered, whatever is put in front of it stays, be it the null literal. -/
lemma argFill_of_ne_empty {gathered : String} (h : gathered ≠ "") (args : String) :
    c.argFill gathered args = args ++ c.argDelimiter ++ gathered := by
  rw [argFill, if_neg fun hn => h hn.1, if_neg h]

/-- It is enough that the text in the last place that is taken shows. -/
theorem gather_append_some (hstripped : Text.stripped c.nullStr = c.nullStr) (htext : c.Shows text)
    (hlater : ∀ slot ∈ later, slot = none) :
    c.gather (slots ++ some text :: later) =
        String.intercalate c.argDelimiter ((slots ++ [some text]).map (·.getD c.nullStr)) ∧
      c.gather (slots ++ some text :: later) ≠ "" := by
  induction slots with
  | nil =>
    have hgather : c.gather ([] ++ some text :: later) = text := by
      rw [List.nil_append, gather, gather_eq_empty hstripped hlater, Option.getD_some, argFill_of_shows htext]
      simp
    rw [hgather]
    exact ⟨by simp, htext.ne_empty⟩
  | cons slot slots ih =>
    obtain ⟨heq, hne⟩ := ih
    have hrest : (slots ++ [some text]).map (·.getD c.nullStr) ≠ [] := by simp
    rw [List.cons_append, gather, argFill_of_ne_empty hne]
    refine ⟨?_, by simp [hne]⟩
    rw [List.cons_append, List.map_cons, String.intercalate_cons_of_ne_nil hrest, heq]

/-- Then all that takes a place is shown. -/
lemma showsAll_of_last (slots : List (Option String)) (hstripped : Text.stripped c.nullStr = c.nullStr)
    (htext : c.Shows text) (hlater : ∀ slot ∈ later, slot = none) :
    ∃ positions, c.ShowsAll (slots ++ some text :: later) positions (c.gather (slots ++ some text :: later)) := by
  refine ⟨_, (gather_append_some hstripped htext hlater).1, fun i arg hi => ?_⟩
  have htaken : (slots ++ [some text])[i]? = some (some arg) := by
    rw [List.append_cons, List.getElem?_append] at hi
    split at hi
    · exact hi
    · cases hlater _ (List.mem_of_getElem? hi)
  rw [List.getElem?_map, htaken]
  rfl

/-! ## The body in the last place -/

section Call

variable (hstripped : Text.stripped c.nullStr = c.nullStr) (hbracket : c.nullStr.toList.head? ≠ some '[')

include hstripped hbracket in
/-- All arguments are at their places if the body is not mistaken. -/
lemma showsAll_of_not_mistakesBody (h : ¬c.MistakesBody body header cookie front) :
    ∃ positions, c.ShowsAll (c.slots query body header cookie front) positions
      (c.assemble query body header cookie front) := by
  have hgroup {args : List String} (hargs : args ≠ []) :
      ∃ text, c.groupSlot args front = some text ∧ c.Shows text := by
    obtain ⟨text, htext⟩ : ∃ text, c.groupSlot args front = some text := ⟨_, if_neg hargs⟩
    exact ⟨text, htext, shows_of_groupSlot hbracket htext⟩
  have hnone : c.groupSlot [] front = none := if_pos rfl
  rw [assemble_eq_gather, slots]
  -- the last place that is taken decides
  by_cases hcookie : cookie = []
  · subst hcookie
    by_cases hheader : header = []
    · subst hheader
      rw [hnone]
      cases hbody : bodySlot body front with
      | some text =>
        have hne : Text.stripped text ≠ c.nullStr := fun he => h ⟨rfl, rfl, text, hbody, he⟩
        exact showsAll_of_last [_] hstripped ⟨ne_empty_of_bodySlot hbody, hne⟩ (by simp)
      | none =>
        by_cases hquery : query = []
        · subst hquery
          rw [hnone, gather_eq_empty hstripped (by simp)]
          exact ⟨[], rfl, fun i arg hi => by simpa using List.mem_of_getElem? hi⟩
        · obtain ⟨text, htext, hshows⟩ := hgroup hquery
          rw [htext]
          exact showsAll_of_last [] hstripped hshows (by simp)
    · obtain ⟨text, htext, hshows⟩ := hgroup hheader
      rw [htext, hnone]
      exact showsAll_of_last [_, _] hstripped hshows (by simp)
  · obtain ⟨text, htext, hshows⟩ := hgroup hcookie
    rw [htext]
    exact showsAll_of_last [_, _, _] hstripped hshows (by simp)

include hstripped in
/-- Where nothing follows a body that is spelled like the null literal, nothing is gathered before the query. -/
lemma assemble_of_mistakesBody (h : c.MistakesBody body header cookie front) :
    c.assemble query body header cookie front = c.argFill "" ((c.groupSlot query front).getD c.nullStr) := by
  obtain ⟨rfl, rfl, text, htext, hlike⟩ := h
  have hnone : c.groupSlot [] front = none := if_pos rfl
  have hbody : c.gather [some text, none, none] = "" := by
    rw [gather, gather_eq_empty hstripped (by simp), argFill]
    exact if_pos ⟨rfl, hlike⟩
  rw [assemble_eq_gather, slots, htext, hnone, gather, hbody]

include hstripped in
/-- A call without a body is gathered in the same way. -/
lemma assemble_none (query : List String) (front : String) :
    c.assemble query none [] [] front = c.argFill "" ((c.groupSlot query front).getD c.nullStr) := by
  have hnone : c.groupSlot [] front = none := if_pos rfl
  have hbody : bodySlot none front = none := rfl
  rw [assemble_eq_gather, slots, hbody, hnone, gather, gather_eq_empty hstripped (by simp)]

include hstripped hbracket in
/-- What is left out is not at its place. -/
lemma not_showsAll_of_mistakesBody (h : c.MistakesBody body header cookie front) (positions : List String) :
    ¬c.ShowsAll (c.slots query body header cookie front) positions (c.assemble query body header cookie front) := by
  rw [assemble_of_mistakesBody hstripped h]
  obtain ⟨-, -, text, htext, -⟩ := h
  rintro ⟨heq, hplaces⟩
  obtain ⟨first, rest, rfl⟩ := exists_of_getElem?_one (hplaces 1 text (by simp [slots, htext]))
  -- the query is all of the text, so nothing is left for the body
  have hquery : (c.argFill "" ((c.groupSlot query front).getD c.nullStr)).length ≤ first.length := by
    cases hslot : c.groupSlot query front with
    | none => simp [argFill, hstripped]
    | some text' =>
      obtain rfl : first = text' := by simpa using hplaces 0 text' (by simp [slots, hslot])
      rw [Option.getD_some, argFill_of_shows (shows_of_groupSlot hbracket hslot)]
      simp
  have htext : text ≠ "" := ne_empty_of_bodySlot htext
  have hlength : 0 < text.length := Nat.pos_of_ne_zero fun h => htext (String.length_eq_zero_iff.1 h)
  rw [heq, String.intercalate_cons_cons] at hquery
  cases rest with
  | nil =>
    simp only [String.intercalate_singleton, String.length_append] at hquery
    omega
  | cons next rest =>
    simp only [String.intercalate_cons_cons, String.length_append] at hquery
    omega

end Call

/-- If the null literal has no blanks at its ends and does not begin with a bracket, then every group of arguments and
the body are at their positions, unless the body is mistaken for the null literal; a body that is mistaken is left out.
Where a body is shown, there are two positions at least, and the text is not empty. -/
theorem assemble_showsAll_iff (hstripped : Text.stripped c.nullStr = c.nullStr)
    (hbracket : c.nullStr.toList.head? ≠ some '[') (query : List String) (body : Option String)
    (header cookie : List String) (front : String) :
    let slots := c.slots query body header cookie front
    let text := c.assemble query body header cookie front
    ((∃ positions, c.ShowsAll slots positions text) ↔ ¬c.MistakesBody body header cookie front) ∧
    (c.MistakesBody body header cookie front → text = c.assemble query none header cookie front) ∧
    ∀ positions name, body = some name → name ≠ "" → c.ShowsAll slots positions text →
      2 ≤ positions.length ∧ text ≠ "" := by
  refine ⟨⟨?_, showsAll_of_not_mistakesBody hstripped hbracket⟩, fun h => ?_, ?_⟩
  · rintro ⟨positions, hshows⟩ h
    exact not_showsAll_of_mistakesBody hstripped hbracket h positions hshows
  · rw [assemble_of_mistakesBody hstripped h]
    obtain ⟨rfl, rfl, -⟩ := h
    exact (assemble_none hstripped query front).symm
  · intro positions name hname hne hshows
    have hbody : bodySlot body front = some (front ++ name) := bodySlot_eq_some_iff.2 ⟨name, hname, hne, rfl⟩
    exact hshows.of_bodySlot hbody

/-- A body that is called like the null literal is shown if a header follows it, and left out if nothing does. -/
theorem assemble_showsAll_iff_sample :
    let c : Conventions := {}
    Text.stripped c.nullStr = c.nullStr ∧ c.nullStr.toList.head? ≠ some '[' ∧
    (∃ positions, c.ShowsAll [none, some "null", some "[token]", none] positions "null, null, [token]") ∧
    c.MistakesBody (some "null") [] [] "" ∧
    c.assemble [] (some "null") [] [] "" = c.assemble [] none [] [] "" := by
  intro c
  have hstripped : Text.stripped c.nullStr = c.nullStr := by decide
  have hbracket : c.nullStr.toList.head? ≠ some '[' := by decide
  have hshown : ¬c.MistakesBody (some "null") ["token"] [] "" := fun h => by cases h.1
  have hmistaken : c.MistakesBody (some "null") [] [] "" := ⟨rfl, rfl, "null", by decide, by decide⟩
  have hslots : c.slots [] (some "null") ["token"] [] "" = [none, some "null", some "[token]", none] := by decide
  have htext : c.assemble [] (some "null") ["token"] [] "" = "null, null, [token]" := by decide
  refine ⟨hstripped, hbracket, ?_, hmistaken, ?_⟩
  · rw [← hslots, ← htext]
    exact (assemble_showsAll_iff hstripped hbracket [] (some "null") ["token"] [] "").1.2 hshown
  · exact (assemble_showsAll_iff hstripped hbracket [] (some "null") [] [] "").2.1 hmistaken

/-- A body that is called like the null literal is not in the text of its call, which is empty. -/
theorem not_assemble_showsAll :
    let c : Conventions := {}
    c.nullStr ≠ "" ∧ Text.stripped c.nullStr = c.nullStr ∧ c.nullStr.toList.head? ≠ some '[' ∧
    c.assemble [] (some "null") [] [] "" = "" ∧
    ∀ positions, ¬c.ShowsAll (c.slots [] (some "null") [] [] "") positions (c.assemble [] (some "null") [] [] "") := by
  intro c
  have hstripped : Text.stripped c.nullStr = c.nullStr := by decide
  have hbracket : c.nullStr.toList.head? ≠ some '[' := by decide
  have hmistaken : c.MistakesBody (some "null") [] [] "" := ⟨rfl, rfl, "null", by decide, by decide⟩
  exact ⟨by decide, hstripped, hbracket, by decide, not_showsAll_of_mistakesBody hstripped hbracket hmistaken⟩

end SdkGen.Conventions
