import SdkGen.Proofs.Tree.Paths

/-!
# The files of a tree

What is done to a tree is seen at its files. Making directories leaves all files as they are, and so does a write that
fails; a write that does not fail changes the one file that its name leads to. No directory ever goes, so a path leads
where it led before.

Main statements: `Tree.stores_of_write_error`, `Tree.stores_of_write`, `Tree.Stores.trans` and
`Tree.isA_of_write_error`.
-/

namespace SdkGen

namespace Tree

variable {t t' t'' : Tree} {p q above at' : Path} {path text : String} {f : Fault}

/-- The texts of the files of a tree by their places. -/
def files (t : Tree) (p : Path) : Option String :=
  match t.find? p with
  | some (.file text) => some text
  | _ => none

/-- One tree comes from another one by storing texts under some names: these lead to files with the texts, all other
files are as they were, and no directory is gone. -/
structure Stores (wrote : List (String × String)) (t t' : Tree) : Prop where
  holds : ∀ w ∈ wrote, t'.lookup? w.1 = some (.file w.2)
  others : ∀ p, (∀ w ∈ wrote, t'.place (Path.ofLocation w.1) ≠ .ok p) → t'.files p = t.files p
  grows : t.Grows t'

/-- A tree has a file with a text just where it finds one. -/
lemma files_eq_some_iff : t.files p = some text ↔ t.find? p = some (.file text) := by
  rw [files]
  split <;> simp_all

/-- A name leads to a file if the file is at its place. -/
lemma lookup?_eq_file_iff :
    t.lookup? path = some (.file text) ↔ ∃ p, t.place (Path.ofLocation path) = .ok p ∧ t.files p = some text := by
  simp only [files_eq_some_iff]
  rw [lookup?, look]
  cases hplace : t.place (Path.ofLocation path) with
  | error o => simp [bind, Except.bind, Except.toOption]
  | ok p =>
    cases hfind : t.find? p <;> simp [hfind, bind, Except.bind, pure, Except.pure, throw, throwThe,
      MonadExceptOf.throw, Except.toOption]

/-- The name of a file is the last part of the path to it. -/
lemma getLast?_of_follow (h : t.follow above p = .ok q) {name : String} (hlast : p.getLast? = some name)
    (hname : name ≠ "..") : q.getLast? = some name := by
  induction p generalizing above with
  | nil => cases hlast
  | cons part rest ih =>
    have hrest (hne : rest ≠ []) : rest.getLast? = some name := by
      rwa [List.getLast?_cons_of_ne_nil hne] at hlast
    by_cases hup : part = ".."
    · subst hup
      cases rest with
      | nil =>
        cases hlast
        exact absurd rfl hname
      | cons next rest => exact ih h (hrest (List.cons_ne_nil _ _))
    · simp only [follow] at h
      split at h
      · cases h
      · split at h
        · next hempty =>
          rw [List.isEmpty_iff] at hempty
          subst hempty
          cases hlast
          cases h
          exact List.getLast?_concat
        · next hmore =>
          rw [List.isEmpty_iff] at hmore
          split at h
          · exact ih h (hrest hmore)
          · cases h
          · cases h

/-- The name of a file is the last part of its place. -/
lemma getLast?_of_place (h : t.place p = .ok q) {name : String} (hlast : p.getLast? = some name)
    (hname : name ≠ "..") (hpart : ¬Path.isRoot name) : q.getLast? = some name := by
  rw [place] at h
  split at h
  · cases h
  · refine getLast?_of_follow h ?_ hname
    cases p with
    | nil => cases hlast
    | cons part rest =>
      rw [start]
      split
      -- a root is no name of a file
      · next hroot =>
        cases rest with
        | nil =>
          cases hlast
          exact absurd hroot hpart
        | cons next rest => rwa [List.getLast?_cons_cons] at hlast
      · exact hlast

/-- Nothing is stored where no file changes. -/
lemma Stores.of_files_eq (hfiles : t'.files = t.files) (hgrows : t.Grows t') : Stores [] t t' where
  holds := nofun
  others _ _ := congrFun hfiles _
  grows := hgrows

/-- Nothing is stored where nothing is done. -/
lemma Stores.refl (t : Tree) : Stores [] t t := .of_files_eq rfl (.refl t)

/-- Nothing is stored by an attempt that changes nothing. -/
lemma Stores.attempted (t : Tree) : Stores [] t (t.attempted t.entries) := .of_files_eq rfl t.grows_attempted

/-- What is stored under a name stays there while texts are stored in other places. -/
lemma Stores.lookup?_eq {wrote : List (String × String)} (h : Stores wrote t t')
    (hold : t.lookup? path = some (.file text))
    (happart : ∀ w ∈ wrote, ∀ p, t'.place (Path.ofLocation w.1) = .ok p → t'.place (Path.ofLocation path) ≠ .ok p) :
    t'.lookup? path = some (.file text) := by
  obtain ⟨p, hplace, hfile⟩ := lookup?_eq_file_iff.1 hold
  have hplace' := place_mono h.grows hplace
  refine lookup?_eq_file_iff.2 ⟨p, hplace', ?_⟩
  rw [h.others p fun w hw hp => happart w hw p hp hplace', hfile]

/-- What is stored first is there beside what is stored then, in other places. -/
lemma Stores.trans {first second : List (String × String)} (h : Stores first t t') (h' : Stores second t' t'')
    (happart : ∀ v ∈ first, ∀ w ∈ second, ∀ p, t''.place (Path.ofLocation w.1) = .ok p →
      t''.place (Path.ofLocation v.1) ≠ .ok p) : Stores (first ++ second) t t'' where
  holds w hw := by
    rcases List.mem_append.1 hw with hw | hw
    · exact h'.lookup?_eq (h.holds w hw) (happart w hw)
    · exact h'.holds w hw
  others p hp := by
    rw [h'.others p fun w hw => hp w (List.mem_append_right _ hw)]
    refine h.others p fun w hw hplace => ?_
    exact hp w (List.mem_append_left _ hw) (place_mono h'.grows hplace)
  grows := h.grows.trans h'.grows

/-- A directory that is made where nothing is changes no file. -/
lemma stores_insert_directory (h : t.find? at' = none) :
    Stores [] t (t.attempted (t.entries.insert at' .directory)) := by
  have hat : t.find? at' ≠ some .directory := by
    rw [h]
    exact nofun
  refine .of_files_eq ?_ (grows_insert hat _)
  funext q
  rw [files, files, find?_insert hat]
  by_cases hq : at' = q
  · rw [if_pos hq, ← hq, h]
  · rw [if_neg hq]

/-- Making a directory changes no file, even if something gets in the way. -/
lemma stores_makeDirectory {r : Except Fault Bool} (h : t.makeDirectory p = (r, t')) : Stores [] t t' := by
  have hattempt := t.attempts_attempt p (t.withDirectory p)
  rw [makeDirectory] at h
  rw [h] at hattempt
  cases hattempt with
  | hindered _ => exact .attempted t
  | failed _ => exact .attempted t
  | changed hchange =>
    rw [withDirectory] at hchange
    split at hchange
    · cases hchange
    split at hchange
    · cases hchange
      exact .attempted t
    · cases hchange
    · cases hchange
    · split at hchange
      · cases hchange
        exact .attempted t
      · cases hchange
      · next hnone =>
        cases hchange
        exact stores_insert_directory hnone

/-- One tree comes from another one by making directories alone. -/
lemma Stores.trans_nil (h : Stores [] t t') (h' : Stores [] t' t'') : Stores [] t t'' := h.trans h' nofun

/-- Making directories changes no file, even if something gets in the way. -/
lemma stores_makeDirectories {r : Except Fault Unit} (h : t.makeDirectories p = (r, t')) : Stores [] t t' := by
  induction p generalizing t r t' with
  | nil =>
    cases h
    exact .refl t
  | cons part above ih =>
    simp only [makeDirectories] at h
    split at h
    · next hfirst =>
      cases h
      exact stores_makeDirectory hfirst
    · next hfirst =>
      cases h
      exact stores_makeDirectory hfirst
    · next hfirst =>
      have hfirst := stores_makeDirectory hfirst
      split at h
      · next habove =>
        cases h
        exact hfirst.trans_nil (ih habove)
      · next habove =>
        have habove := hfirst.trans_nil (ih habove)
        split at h
        · next hlast =>
          cases h
          exact habove.trans_nil (stores_makeDirectory hlast)
        · next hlast =>
          cases h
          exact habove.trans_nil (stores_makeDirectory hlast)

/-- Writing a file into a directory changes no file if it fails. -/
lemma stores_of_writeFile_error (h : t.writeFile p text = (.error f, t')) : Stores [] t t' := by
  have hattempt := t.attempts_attempt p (t.withFile p text)
  rw [writeFile] at h
  rw [h] at hattempt
  cases hattempt with
  | hindered _ => exact .attempted t
  | failed _ => exact .attempted t

/-- Writing a file into a directory changes that file alone. -/
lemma others_of_writeFile (h : t.writeFile p text = (.ok (), t')) :
    (∀ q, t'.place p ≠ .ok q → t'.files q = t.files q) ∧ t.Grows t' := by
  have hattempt := t.attempts_attempt p (t.withFile p text)
  rw [writeFile] at h
  rw [h] at hattempt
  cases hattempt with
  | changed hfile =>
    obtain ⟨at', hplace, hat, rfl⟩ := exists_of_withFile hfile
    refine ⟨fun q hq => ?_, grows_insert hat _⟩
    rw [files, files, find?_insert hat, if_neg]
    rintro rfl
    exact hq (place_mono (grows_insert hat _) hplace)

/-- A write that fails changes no file. -/
theorem stores_of_write_error (h : t.write path text = (.error f, t')) : Stores [] t t' := by
  simp only [write] at h
  split at h
  · next hmade =>
    cases h
    exact stores_makeDirectories hmade
  · next hmade => exact (stores_makeDirectories hmade).trans_nil (stores_of_writeFile_error h)

/-- A write that does not fail changes the file that its name leads to. -/
theorem stores_of_write (h : t.write path text = (.ok (), t')) : Stores [(path, text)] t t' := by
  have hholds := lookup?_of_write h
  simp only [write] at h
  split at h
  · cases h
  · next made hmade =>
    obtain ⟨hothers, hgrows⟩ := others_of_writeFile h
    have hfile : Stores [(path, text)] made t' :=
      { holds := by simpa using hholds
        others := fun q hq => hothers q (hq (path, text) List.mem_cons_self)
        grows := hgrows }
    exact (stores_makeDirectories hmade).trans hfile fun _ hmem => absurd hmem List.not_mem_nil

/-! ## What writing fails for -/

section Hinders

variable (hhinders : ∀ n p f, t.hinders n p = some f → f.isA "OSError")

include hhinders

/-- An attempt fails for what hinders it or for what is wrong with the change. -/
lemma isA_of_attempt_error {α : Type} {change : Except Fault (α × Dict Path Entry)}
    (hchange : ∀ f, change = .error f → f.isA "OSError") (h : t.attempt p change = (.error f, t')) :
    f.isA "OSError" := by
  have hattempt := t.attempts_attempt p change
  rw [h] at hattempt
  cases hattempt with
  | hindered hf => exact hhinders _ _ _ hf
  | failed hf => exact hchange _ hf

/-- A directory is not made for a failure of the system, if its path can be written at all. -/
lemma isA_of_makeDirectory_error (hp : isUnwritable p = false) (h : t.makeDirectory p = (.error f, t')) :
    f.isA "OSError" := by
  refine isA_of_attempt_error hhinders (fun f hf => ?_) h
  rw [withDirectory, if_neg (by simp [hp])] at hf
  split at hf
  · cases hf
  · cases hf
    rfl
  · cases hf
    rfl
  · split at hf
    · cases hf
    · cases hf
      rfl
    · cases hf

/-- A file is not written into a directory for a failure of the system, if its path can be written at all. -/
lemma isA_of_writeFile_error (hp : isUnwritable p = false) (h : t.writeFile p text = (.error f, t')) :
    f.isA "OSError" := by
  refine isA_of_attempt_error hhinders (fun f hf => ?_) h
  rw [withFile, if_neg (by simp [hp])] at hf
  split at hf
  · cases hf
    rfl
  · cases hf
    rfl
  · split at hf
    · cases hf
      rfl
    · cases hf

end Hinders

/-- Directories are not made for a failure of the system, if their path can be written at all. -/
lemma isA_of_makeDirectories_error (hhinders : ∀ n p f, t.hinders n p = some f → f.isA "OSError")
    (hp : isUnwritable p.reverse = false) (h : t.makeDirectories p = (.error f, t')) : f.isA "OSError" := by
  induction p generalizing t f t' with
  | nil => cases h
  | cons part above ih =>
    have habove : isUnwritable above.reverse = false := by
      rw [isUnwritable, List.reverse_cons, List.any_append, Bool.or_eq_false_iff] at hp
      exact hp.1
    have hgrown {made : Tree} (hgrows : t.Grows made) : ∀ n p f, made.hinders n p = some f → f.isA "OSError" := by
      rwa [hgrows.hinders]
    simp only [makeDirectories] at h
    split at h
    · next hfirst =>
      cases h
      exact isA_of_makeDirectory_error hhinders hp hfirst
    · cases h
    · next hfirst =>
      have hfirst := stores_makeDirectory hfirst
      split at h
      · next hmade =>
        cases h
        exact ih (hgrown hfirst.grows) habove hmade
      · next hmade =>
        have hmade := hfirst.trans_nil (stores_makeDirectories hmade)
        split at h
        · next hlast =>
          cases h
          exact isA_of_makeDirectory_error (hgrown hmade.grows) hp hlast
        · cases h

/-- Writing a file fails for a failure of the system, if only such failures hinder it and its path can be written at
all. -/
theorem isA_of_write_error (hhinders : ∀ n p f, t.hinders n p = some f → f.isA "OSError")
    (hpath : isUnwritable (Path.ofLocation path) = false) (h : t.write path text = (.error f, t')) :
    f.isA "OSError" := by
  simp only [write] at h
  split at h
  · next hmade =>
    cases h
    refine isA_of_makeDirectories_error hhinders ?_ hmade
    rw [List.reverse_reverse, isUnwritable, List.any_eq_false]
    intro part hpart
    exact List.any_eq_false.1 hpath part (List.dropLast_subset _ hpart)
  · next hmade =>
    refine isA_of_writeFile_error ?_ hpath h
    rwa [(stores_makeDirectories hmade).grows.hinders]

end Tree
end SdkGen
