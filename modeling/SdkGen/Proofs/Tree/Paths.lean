import SdkGen.Proofs.Tree

/-!
# Paths and their texts

A path goes on behind a slash. Behind the text of another path without one at its end, what comes next belongs to the
last part of that path. Neither the root of a path nor the store that the name of a file begins with depends on what
comes behind.

Main statement: `Path.exists_ofLocation_append` (how the parts of a name go on when a text is put behind it).
-/

namespace SdkGen

namespace Path

/-- A part of a path that is a name in a directory. -/
structure IsPart (s : String) : Prop where
  ne_empty : s ≠ ""
  ne_point : s ≠ "."
  ne_up : s ≠ ".."
  no_slash : '/' ∉ s.toList

/-- A text behind which the parts of a path begin anew: it is empty or ends in a slash. -/
def IsOpen (s : String) : Prop := s = "" ∨ s.toList.getLast? = some '/'

instance (s : String) : Decidable (IsOpen s) := inferInstanceAs (Decidable (_ ∨ _))

variable {s back part : String}

/-! ## Parts of texts -/

/-- Behind a slash, parts begin anew. -/
lemma parts_append_slash (front back : String) : parts (front ++ "/" ++ back) = parts front ++ parts back := by
  have htext : (front ++ "/" ++ back).toList = front.toList ++ '/' :: back.toList := by simp
  rw [parts, htext, List.splitOn_append_cons_self, List.map_append, List.filter_append, parts, parts]

/-- A name in a directory is its only part. -/
lemma parts_of_isPart (h : IsPart s) : parts s = [s] := by
  simp [parts, List.splitOn_eq_singleton h.no_slash, h.ne_empty, h.ne_point]

/-- A name in a directory is no root. -/
lemma IsPart.not_isRoot (h : IsPart s) : ¬isRoot s := by
  rw [isRoot, List.contains_iff_mem]
  exact h.no_slash

/-- A part of a path with more characters in front of it is another part. -/
lemma IsPart.append (h : IsPart part) {last : String} (hlast : '/' ∉ last.toList) : IsPart (last ++ part) := by
  have hsuffix {whole : String} (heq : last ++ part = whole) : part.toList <:+ whole.toList :=
    ⟨last.toList, by rw [← heq, String.toList_append]⟩
  -- only points and nothing at all may stand at the end of two points
  have hpoints : ¬part.toList <:+ "..".toList := by
    intro hpoints
    rcases List.suffix_cons_iff.1 hpoints with heq | hpoints
    · exact h.ne_up (String.toList_inj.1 heq)
    · rcases List.suffix_cons_iff.1 hpoints with heq | hnil
      · exact h.ne_point (String.toList_inj.1 heq)
      · exact h.ne_empty (String.toList_eq_nil_iff.1 (List.suffix_nil.1 hnil))
  refine ⟨fun heq => ?_, fun heq => ?_, fun heq => hpoints (hsuffix heq), ?_⟩
  · exact hpoints ((hsuffix heq).trans (List.nil_suffix))
  · exact hpoints ((hsuffix heq).trans (List.suffix_cons '.' ['.']))
  · rw [String.toList_append, List.mem_append, not_or]
    exact ⟨hlast, h.no_slash⟩

/-- What stands behind the last slash of a text is without slashes. -/
lemma exists_eq_append (s : String) :
    ∃ last : String, '/' ∉ last.toList ∧ (s = last ∨ ∃ front : String, s = front ++ "/" ++ last) := by
  by_cases hslash : '/' ∈ s.toList
  · obtain ⟨behind, before, hsplit, hbehind⟩ := List.eq_append_cons_of_mem (List.mem_reverse.2 hslash)
    refine ⟨String.ofList behind.reverse, by simpa using hbehind, .inr ⟨String.ofList before.reverse, ?_⟩⟩
    have hchars := congrArg List.reverse hsplit
    rw [List.reverse_reverse] at hchars
    rw [← String.toList_inj, hchars]
    simp
  · exact ⟨s, hslash, .inl rfl⟩

/-- A text goes on within what stands behind its last slash. -/
lemma exists_parts_append (s : String) :
    ∃ above last, '/' ∉ last.toList ∧ (IsOpen s ↔ last = "") ∧
      ∀ back, parts (s ++ back) = above ++ parts (last ++ back) := by
  obtain ⟨last, hlast, rfl | ⟨front, rfl⟩⟩ := exists_eq_append s
  · refine ⟨[], s, hlast, ⟨fun h => h.resolve_right fun hend => ?_, .inl⟩, fun back => rfl⟩
    exact hlast (List.mem_of_getLast? hend)
  · refine ⟨parts front, last, hlast, ⟨fun h => ?_, ?_⟩, fun back => ?_⟩
    · by_cases hempty : last = ""
      · exact hempty
      · rcases h with h | h
        · simp at h
        · rw [String.toList_append, List.getLast?_append, Option.or_eq_some_iff] at h
          rcases h with h | ⟨h, -⟩
          · exact absurd (List.mem_of_getLast? h) hlast
          · exact absurd (String.toList_eq_nil_iff.1 (List.getLast?_eq_none_iff.1 h)) hempty
    · rintro rfl
      exact .inr (by simp)
    · rw [String.append_assoc, parts_append_slash]

/-! ## Roots and stores -/

/-- A text that goes on with a name in a directory, and perhaps with one more name behind a slash. -/
structure IsInner (back : String) : Prop where
  head : back.toList.head? ≠ some '/'
  slashes : back.toList.count '/' ≤ 1

/-- A name in a directory goes on with itself. -/
lemma IsPart.isInner (h : IsPart s) : IsInner s where
  head hhead := h.no_slash (List.mem_of_head? hhead)
  slashes := by rw [List.count_eq_zero_of_not_mem h.no_slash]; omega

/-- A name in a directory may have one more name behind it. -/
lemma IsPart.isInner_append (h : IsPart s) (hback : IsPart back) : IsInner (s ++ "/" ++ back) where
  head hhead := by
    rw [String.toList_append, String.toList_append, List.append_assoc, List.head?_append,
      Option.or_eq_some_iff] at hhead
    rcases hhead with hhead | ⟨hnil, -⟩
    · exact h.no_slash (List.mem_of_head? hhead)
    · exact h.ne_empty (String.toList_eq_nil_iff.1 (List.head?_eq_none_iff.1 hnil))
  slashes := by
    rw [String.toList_append, String.toList_append, List.count_append, List.count_append,
      List.count_eq_zero_of_not_mem h.no_slash, List.count_eq_zero_of_not_mem hback.no_slash]
    decide

/-- A path that is written goes on as its parts do, with the same root. -/
lemma exists_ofText_append (s : String) :
    ∃ above last, '/' ∉ last.toList ∧ (IsOpen s ↔ last = "") ∧
      ∀ back, IsInner back → ofText (s ++ back) = above ++ parts (last ++ back) := by
  obtain ⟨above, last, hlast, hopen, happend⟩ := exists_parts_append s
  have hroot (back : String) (hback : IsInner back) :
      (s ++ back).toList.head? = some '/' ↔ s.toList.head? = some '/' := by
    rw [String.toList_append]
    cases s.toList with
    | nil => simpa using hback.head
    | cons c cs => rfl
  refine ⟨if s.toList.head? = some '/' then "/" :: above else above, last, hlast, hopen, fun back hback => ?_⟩
  simp only [ofText, hroot back hback, happend]
  split <;> rfl

/-- There are two slashes in what has a mark at its front. -/
lemma count_of_behindMark? {cs rest : List Char} (h : behindMark? cs = some rest) : 2 ≤ cs.count '/' := by
  unfold behindMark? at h
  split at h
  · simp
  · cases h

/-- A mark that begins in a text ends in it, unless a slash comes next. -/
lemma behindMark?_append {cs bs : List Char} (hcs : cs ≠ []) (hbs : bs.head? ≠ some '/') :
    behindMark? (cs ++ bs) = (behindMark? cs).map (· ++ bs) := by
  have hslash (rest : List Char) : bs ≠ '/' :: rest := by
    rintro rfl
    exact hbs rfl
  unfold behindMark?
  rcases cs with _ | ⟨c, _ | ⟨d, _ | ⟨e, cs⟩⟩⟩
  · exact absurd rfl hcs
  · split <;> simp_all
  · split <;> simp_all
  · split <;> split <;> simp_all

/-- What goes on makes no store of a name that has none, and leaves the store of one that has. -/
lemma splitStore?_append (s : String) (hback : IsInner back) :
    splitStore? (s ++ back) = (splitStore? s).map fun found => (found.1, found.2 ++ back) := by
  rw [splitStore?, splitStore?, String.toList_append, List.dropWhile_append]
  cases hrest : s.toList.dropWhile isStoreChar with
  | nil =>
    -- there are not enough slashes behind the name
    have hnone : behindMark? (back.toList.dropWhile isStoreChar) = none := by
      rw [Option.eq_none_iff_forall_ne_some]
      intro rest hmark
      have hsuffix : back.toList.dropWhile isStoreChar <:+ back.toList := List.dropWhile_suffix _
      have hle := hsuffix.sublist.count_le '/'
      have htwo := count_of_behindMark? hmark
      have hslashes := hback.slashes
      omega
    rw [List.isEmpty_nil, if_pos rfl, hnone]
    simp [behindMark?]
  | cons c cs =>
    have hlength : (s.toList.takeWhile isStoreChar).length ≠ s.toList.length := by
      have hwhole := congrArg List.length (List.takeWhile_append_dropWhile (p := isStoreChar) (l := s.toList))
      rw [hrest, List.length_append, List.length_cons] at hwhole
      omega
    rw [List.isEmpty_cons, if_neg Bool.false_ne_true, List.takeWhile_append, if_neg hlength,
      behindMark?_append (List.cons_ne_nil c cs) hback.head]
    split
    · cases behindMark? (c :: cs) <;> simp [String.ofList_append]
    · rfl

/-- What is behind a mark. -/
lemma eq_of_behindMark? {cs rest : List Char} (h : behindMark? cs = some rest) : cs = "://".toList ++ rest := by
  unfold behindMark? at h
  split at h
  · cases h
    rfl
  · cases h

/-- A name that begins with a store is the name of the store and a path behind a mark. -/
lemma eq_of_splitStore? {store path : String} (h : splitStore? s = some (store, path)) :
    s = store ++ "://" ++ path := by
  rw [splitStore?] at h
  split at h
  · obtain ⟨rest, hrest, hsplit⟩ := Option.map_eq_some_iff.1 h
    cases hsplit
    have hwhole := List.takeWhile_append_dropWhile (p := isStoreChar) (l := s.toList)
    rw [eq_of_behindMark? hrest] at hwhole
    rw [← String.toList_inj]
    simp only [String.toList_append, String.toList_ofList, List.append_assoc]
    exact hwhole.symm
  · cases h

/-- Behind a slash, a text is open just if what comes next is. -/
lemma isOpen_append {front : String} (hfront : front.toList.getLast? = some '/') : IsOpen (front ++ s) ↔ IsOpen s := by
  have hlast : (front ++ s).toList.getLast? = s.toList.getLast?.or (some '/') := by
    rw [String.toList_append, List.getLast?_append, hfront]
  have hne : front ++ s ≠ "" := by
    intro hempty
    rw [hempty] at hlast
    cases h : s.toList.getLast? <;> simp [h] at hlast
  rw [IsOpen, IsOpen, hlast]
  cases h : s.toList.getLast? with
  | none => simp [String.toList_eq_nil_iff.1 (List.getLast?_eq_none_iff.1 h)]
  | some c =>
    have hsome : s ≠ "" := by
      rintro rfl
      cases h
    simp [hne, hsome]

/-- The name of a file goes on as its parts do, in the same store and with the same root. -/
theorem exists_ofLocation_append (s : String) :
    ∃ above last, '/' ∉ last.toList ∧ (IsOpen s ↔ last = "") ∧
      ∀ back, IsInner back → ofLocation (s ++ back) = above ++ parts (last ++ back) := by
  cases hstore : splitStore? s with
  | none =>
    obtain ⟨above, last, hlast, hopen, happend⟩ := exists_ofText_append s
    refine ⟨above, last, hlast, hopen, fun back hback => ?_⟩
    rw [ofLocation, splitStore?_append s hback, hstore]
    exact happend back hback
  | some found =>
    obtain ⟨store, path⟩ := found
    have hopenPath : IsOpen s ↔ IsOpen path := by
      rw [eq_of_splitStore? hstore]
      exact isOpen_append (by simp)
    by_cases hlocal : store ∈ localStores
    · obtain ⟨above, last, hlast, hopen, happend⟩ := exists_ofText_append path
      refine ⟨above, last, hlast, hopenPath.trans hopen, fun back hback => ?_⟩
      rw [ofLocation, splitStore?_append s hback, hstore]
      exact (if_pos hlocal).trans (happend back hback)
    · obtain ⟨above, last, hlast, hopen, happend⟩ := exists_parts_append path
      refine ⟨(store ++ "://") :: above, last, hlast, hopenPath.trans hopen, fun back hback => ?_⟩
      rw [ofLocation, splitStore?_append s hback, hstore]
      exact (if_neg hlocal).trans (congrArg _ (happend back))

end Path
end SdkGen
