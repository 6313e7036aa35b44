import Mathlib.Tactic.Basic
import SdkGen.Tree

/-!
# Writing files

Where a path leads depends on the directories of a tree alone, and writing a file takes none of them away. So a file
that was written is found again under the path that was given for it, dots and all.

Main statements: `Tree.attempts_attempt` (how a change can end), `Tree.place_mono` and `Tree.lookup?_of_write`.
-/

namespace SdkGen

namespace Tree

variable {α : Type} {t t' t'' : Tree} {p q above at' : Path} {part name text : String} {f : Fault}

/-! ## Attempts -/

/-- How an attempt of a change can end. -/
inductive Attempts (t : Tree) (p : Path) (change : Except Fault (α × Dict Path Entry)) :
    Except Fault α × Tree → Prop where
  | hindered {f : Fault} :
    t.hinders t.attempts p = some f →
    Attempts t p change (.error f, t.attempted t.entries)
  | failed {f : Fault} :
    change = .error f →
    Attempts t p change (.error f, t.attempted t.entries)
  | changed {result entries} :
    change = .ok (result, entries) →
    Attempts t p change (.ok result, t.attempted entries)

/-- An attempt ends in one of these ways. -/
theorem attempts_attempt (t : Tree) (p : Path) (change : Except Fault (α × Dict Path Entry)) :
    t.Attempts p change (t.attempt p change) := by
  unfold attempt
  split
  · next hf => exact .hindered hf
  · exact .failed rfl
  · exact .changed rfl

/-- What is put where no directory is changes nothing elsewhere. -/
lemma find?_insert (h : t.find? at' ≠ some .directory) (entry : Entry) (q : Path) :
    (t.attempted (t.entries.insert at' entry)).find? q = if at' = q then some entry else t.find? q := by
  by_cases hq : (q.length ≤ 1 || q.isPrefixOf t.home) = true
  · have hne : at' ≠ q := by
      rintro rfl
      exact h (if_pos hq)
    rw [if_neg hne, find?, find?, attempted, if_pos hq, if_pos hq]
  · rw [find?, find?, attempted, if_neg hq, if_neg hq]
    exact Dict.get?_insert _ _ _ _

/-! ## Trees with more in them -/

/-- A tree is another one after some attempts, and no directory is gone. -/
structure Grows (t t' : Tree) : Prop where
  home : t'.home = t.home
  hinders : t'.hinders = t.hinders
  directories : ∀ d, t.find? d = some .directory → t'.find? d = some .directory

/-- A tree grows to itself. -/
lemma Grows.refl (t : Tree) : t.Grows t := ⟨rfl, rfl, fun _ h => h⟩

/-- What grows and grows again has grown. -/
lemma Grows.trans (h : t.Grows t') (h' : t'.Grows t'') : t.Grows t'' where
  home := h'.home.trans h.home
  hinders := h'.hinders.trans h.hinders
  directories d hd := h'.directories d (h.directories d hd)

/-- An attempt that changes nothing takes nothing away. -/
lemma grows_attempted (t : Tree) : t.Grows (t.attempted t.entries) := ⟨rfl, rfl, fun _ h => h⟩

/-- What is put where no directory is takes no directory away. -/
lemma grows_insert (h : t.find? at' ≠ some .directory) (entry : Entry) :
    t.Grows (t.attempted (t.entries.insert at' entry)) where
  home := rfl
  hinders := rfl
  directories d hd := by
    rw [find?_insert h, if_neg, hd]
    rintro rfl
    exact h hd

/-- Where a path leads, it leads in a tree with more directories, too. -/
lemma follow_mono (hgrows : t.Grows t') (h : t.follow above p = .ok q) : t'.follow above p = .ok q := by
  induction p generalizing above with
  | nil => exact h
  | cons part rest ih =>
    by_cases hup : part = ".."
    · subst hup
      exact ih h
    · simp only [follow] at h ⊢
      split at h
      · cases h
      · next hshort =>
        rw [if_neg hshort]
        split at h
        · next hlast => rwa [if_pos hlast]
        · next hmore =>
          rw [if_neg hmore]
          split at h
          -- a path goes on through a directory, and that is there in both trees
          · next hdir =>
            rw [hgrows.directories _ hdir]
            exact ih h
          · cases h
          · cases h

/-- A path starts at the same place after some attempts. -/
lemma Grows.start_eq (h : t.Grows t') (p : Path) : t'.start p = t.start p := by
  cases p with
  | nil => rw [start, start, h.home]
  | cons part rest => rw [start, start, h.home]

/-- The place that a path leads to stays the same while a tree grows. -/
lemma place_mono (hgrows : t.Grows t') (h : t.place p = .ok q) : t'.place p = .ok q := by
  rw [place] at h ⊢
  split at h
  · cases h
  · next hlong => rw [if_neg hlong, hgrows.start_eq, follow_mono hgrows h]

/-! ## Files -/

/-- A file that can be written into a directory goes where its path leads. -/
lemma exists_of_withFile {entries : Dict Path Entry} (h : t.withFile p text = .ok ((), entries)) :
    ∃ at', t.place p = .ok at' ∧ t.find? at' ≠ some .directory ∧ entries = t.entries.insert at' (.file text) := by
  rw [withFile] at h
  split at h
  · cases h
  split at h
  · cases h
  · cases h
  · next at' hplace =>
    split at h
    · cases h
    · next hat =>
      cases h
      exact ⟨at', hplace, hat, rfl⟩

/-- A file that was written into a directory is where its path leads. -/
lemma place_of_writeFile (h : t.writeFile p text = (.ok (), t')) :
    ∃ at', t'.place p = .ok at' ∧ t'.find? at' = some (.file text) := by
  have hattempt := t.attempts_attempt p (t.withFile p text)
  rw [writeFile] at h
  rw [h] at hattempt
  cases hattempt with
  | changed hfile =>
    obtain ⟨at', hplace, hat, rfl⟩ := exists_of_withFile hfile
    -- no directory gives way to the file, so the path still leads there
    exact ⟨at', place_mono (grows_insert hat _) hplace, by rw [find?_insert hat, if_pos rfl]⟩

/-- A file that was written is found under its name. -/
theorem lookup?_of_write (h : t.write name text = (.ok (), t')) : t'.lookup? name = some (.file text) := by
  simp only [write] at h
  split at h
  · cases h
  · obtain ⟨at', hplace, hfind⟩ := place_of_writeFile h
    have hlook : t'.look (Path.ofLocation name) = .ok (.file text) := by
      simp [look, hplace, hfind, bind, Except.bind, pure, Except.pure]
    rw [lookup?, hlook]
    rfl

end Tree
end SdkGen
