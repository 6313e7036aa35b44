import SdkGen.Proofs.Tree.Paths

/-!
# Places below a directory

A path with two more parts leads into a directory with the first of them as its name, below the place that the path
itself leads to.

Main statement: `Tree.place_append`.
-/

namespace SdkGen

namespace Path

variable {p : Path} {directory file : String}

/-- The names below a path take some bytes. -/
lemma size_joined_le (p : Path) (directory file : String) :
    (joined p).utf8ByteSize ≤ (joined (p ++ [directory, file])).utf8ByteSize := by
  by_cases hp : p = []
  · subst hp
    simp [joined]
  · rw [joined, joined, String.intercalate_append_of_ne_nil hp (by simp), String.utf8ByteSize_append,
      String.utf8ByteSize_append]
    omega

/-- A path with two more parts is not written in less bytes. -/
lemma size_text_le (p : Path) (hdirectory : ¬isRoot directory) (file : String) :
    (text p).utf8ByteSize ≤ (text (p ++ [directory, file])).utf8ByteSize := by
  cases p with
  | nil =>
    have hslash : "/".utf8ByteSize = ".".utf8ByteSize := rfl
    rw [List.nil_append, text, text, if_neg hdirectory, joined, String.intercalate_cons_cons,
      String.utf8ByteSize_append, String.utf8ByteSize_append]
    omega
  | cons part rest =>
    have hrest := size_joined_le rest directory file
    have hwhole := size_joined_le (part :: rest) directory file
    rw [List.cons_append] at hwhole ⊢
    rw [text, text]
    split
    · rw [String.utf8ByteSize_append, String.utf8ByteSize_append]
      omega
    · exact hwhole

end Path

namespace Tree

variable {t : Tree} {p q above : Path} {directory file : String}

/-- One part leads to the place of that name, unless it is too long. -/
lemma follow_singleton {part : String} (hup : part ≠ "..") :
    t.follow above [part] = .ok q ↔ ¬maxPart < part.utf8ByteSize ∧ q = above ++ [part] := by
  simp only [follow]
  split <;> simp_all [eq_comm]

/-- The first part of a path has to lead to a directory, from which the others go on. -/
lemma follow_cons {part : String} {rest : Path} (hup : part ≠ "..") (hrest : rest ≠ []) :
    t.follow above (part :: rest) = .ok q ↔
      ¬maxPart < part.utf8ByteSize ∧ t.find? (above ++ [part]) = some .directory ∧
        t.follow (above ++ [part]) rest = .ok q := by
  simp only [follow]
  split
  · simp_all
  · rw [if_neg (by simpa using hrest)]
    split <;> simp_all

/-- What leads to a file in a directory leads to the place above it first. -/
lemma follow_append (hdirectory : directory ≠ "..") (hfile : file ≠ "..")
    (h : t.follow above (p ++ [directory, file]) = .ok q) :
    ∃ root, t.follow above p = .ok root ∧ q = root ++ [directory, file] := by
  induction p generalizing above with
  | nil =>
    obtain ⟨-, -, h⟩ := (follow_cons hdirectory (List.cons_ne_nil _ _)).1 h
    obtain ⟨-, rfl⟩ := (follow_singleton hfile).1 h
    exact ⟨above, rfl, by simp⟩
  | cons part rest ih =>
    by_cases hup : part = ".."
    · subst hup
      exact ih h
    · obtain ⟨hshort, hdir, h⟩ := (follow_cons hup (by simp)).1 h
      obtain ⟨root, hroot, hq⟩ := ih h
      refine ⟨root, ?_, hq⟩
      cases rest with
      | nil => exact (follow_singleton hup).2 ⟨hshort, (Except.ok.inj hroot).symm⟩
      | cons next rest => exact (follow_cons hup (List.cons_ne_nil _ _)).2 ⟨hshort, hdir, hroot⟩

/-- A path with two more parts starts where it starts without them. -/
lemma start_append (hroot : ¬Path.isRoot directory) :
    t.start (p ++ [directory, file]) = ((t.start p).1, (t.start p).2 ++ [directory, file]) := by
  cases p with
  | nil => exact if_neg hroot
  | cons part rest =>
    rw [List.cons_append, start, start]
    split <;> rfl

/-- A path with two more parts leads below the place that it leads to without them. -/
theorem place_append (hroot : ¬Path.isRoot directory) (hdirectory : directory ≠ "..") (hfile : file ≠ "..")
    (h : t.place (p ++ [directory, file]) = .ok q) : ∃ root, t.place p = .ok root ∧ q = root ++ [directory, file] := by
  rw [place] at h ⊢
  split at h
  · cases h
  · next hlong =>
    have hle := Path.size_text_le p hroot file
    rw [if_neg (by omega)]
    rw [start_append hroot] at h
    exact follow_append hdirectory hfile h

end Tree
end SdkGen
