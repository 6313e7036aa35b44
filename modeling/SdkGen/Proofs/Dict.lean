import Mathlib.Data.List.Nodup
import SdkGen.Dict

/-!
# Entries of insertion-ordered maps

Look-ups, keys and values of a `Dict` in terms of its entries, and what building a map from a list can put
into it.

Main statements: `Dict.get?_eq_some_iff` (a look-up finds exactly the entries),
`Dict.entries_insert_of_get?_eq_none` (a new key goes to the end), `Dict.mem_values_ofList` (values of a map
come from the list that describes it), and `Dict.keys_insertMany` and `Dict.get?_insertMany` (writing a list keeps each
key in its first place and gives it its last value).
-/

namespace SdkGen.Dict

section Order

variable {κ : Type} [DecidableEq κ]

/-- The first ones of all keys come once each. -/
lemma nodup_eraseDups (l : List κ) : l.eraseDups.Nodup := by
  induction h : l.length using Nat.strongRecOn generalizing l with
  | ind n ih =>
    cases l with
    | nil => exact List.nodup_nil
    | cons k l =>
      have hshorter : (l.filter fun k' => !k' == k).length < n :=
        h ▸ Nat.lt_succ_of_le (List.length_filter_le _ _)
      rw [List.eraseDups_cons, List.nodup_cons]
      exact ⟨by simp, ih _ hshorter _ rfl⟩

/-- Keys that come once each are all first ones. -/
lemma eraseDups_of_nodup {l : List κ} (h : l.Nodup) : l.eraseDups = l := by
  induction l with
  | nil => rfl
  | cons k l ih =>
    obtain ⟨hk, hl⟩ := List.nodup_cons.1 h
    have hfilter : (l.filter fun k' => !k' == k) = l :=
      List.filter_eq_self.2 fun k' hk' => by simpa using ne_of_mem_of_not_mem hk' hk
    rw [List.eraseDups_cons, hfilter, ih hl]

/-- Which keys come first is decided from left to right. -/
lemma eraseDups_eraseDups_append (l l' : List κ) : (l.eraseDups ++ l').eraseDups = (l ++ l').eraseDups := by
  have hnew : l'.removeAll l.eraseDups = l'.removeAll l :=
    List.filter_congr fun k _ => by simp
  rw [List.eraseDups_append, List.eraseDups_append, eraseDups_of_nodup (nodup_eraseDups l), hnew]

end Order

section Entries

variable {κ ν : Type} [DecidableEq κ] {d : Dict κ ν} {k k' : κ} {v v' : ν}

/-- A look-up finds exactly the entries. -/
lemma get?_eq_some_iff : d.get? k = some v ↔ (k, v) ∈ d.entries := by
  constructor
  · intro h
    obtain ⟨⟨k', v'⟩, hf, rfl⟩ := Option.map_eq_some_iff.1 h
    obtain rfl : k' = k := by simpa using List.find?_some hf
    exact List.mem_of_find?_eq_some hf
  · intro h
    obtain ⟨⟨k', v'⟩, hf⟩ : ∃ e, d.entries.find? (·.1 = k) = some e := by
      apply Option.isSome_iff_exists.1
      rw [List.find?_isSome]
      exact ⟨_, h, by simp⟩
    obtain rfl : k' = k := by simpa using List.find?_some hf
    have e := List.inj_on_of_nodup_map d.nodup (List.mem_of_find?_eq_some hf) h rfl
    obtain rfl : v' = v := by simpa using e
    simp [get?, hf]

/-- A key is listed exactly when a look-up finds something under it. -/
lemma mem_keys_iff : k ∈ d.keys ↔ ∃ v, d.get? k = some v := by
  simp only [keys, List.mem_map, get?_eq_some_iff]
  constructor
  · rintro ⟨⟨k, v⟩, h, rfl⟩
    exact ⟨v, h⟩
  · rintro ⟨v, h⟩
    exact ⟨_, h, rfl⟩

/-- A value is listed exactly when a look-up finds it under some key. -/
lemma mem_values_iff : v ∈ d.values ↔ ∃ k, d.get? k = some v := by
  simp only [values, List.mem_map, get?_eq_some_iff]
  constructor
  · rintro ⟨⟨k, v⟩, h, rfl⟩
    exact ⟨k, h⟩
  · rintro ⟨k, h⟩
    exact ⟨_, h, rfl⟩

/-- Nothing is found exactly under the keys that are not listed. -/
lemma get?_eq_none_iff : d.get? k = none ↔ k ∉ d.keys := by
  rw [mem_keys_iff, Option.eq_none_iff_forall_ne_some]
  push Not
  rfl

/-- A map holds a key exactly when it is listed. -/
lemma contains_eq_false_iff : d.contains k = false ↔ k ∉ d.keys := by
  rw [← contains_eq_true_iff, Bool.not_eq_true]

/-- Writing under a new key puts one entry at the end. -/
lemma entries_insert_of_get?_eq_none (h : d.get? k = none) :
    (d.insert k v).entries = d.entries ++ [(k, v)] := by
  have hk : k ∉ d.entries.map Prod.fst := get?_eq_none_iff.1 h
  clear h
  show putEntry k v d.entries = _
  generalize d.entries = l at hk ⊢
  induction l with
  | nil => rfl
  | cons e rest ih =>
    simp only [List.map_cons, List.mem_cons, not_or] at hk
    simp [putEntry, Ne.symm hk.1, ih hk.2]

/-- The keys after a write. -/
lemma mem_keys_insert : k' ∈ (d.insert k v).keys ↔ k' = k ∨ k' ∈ d.keys := by
  rw [keys_insert]
  split
  · next h => exact ⟨.inr, fun e => e.elim (· ▸ h) id⟩
  · simp [or_comm]

end Entries

section Built

variable {κ ν : Type} [DecidableEq κ]

/-- The keys of a map are all first ones. -/
lemma eraseDups_keys (d : Dict κ ν) : d.keys.eraseDups = d.keys := eraseDups_of_nodup d.nodup

/-- Keys that are listed do not come first a second time. -/
lemma eraseDups_keys_append_of_mem {d : Dict κ ν} {l : List κ} (h : ∀ k ∈ l, k ∈ d.keys) :
    (d.keys ++ l).eraseDups = d.keys := by
  have hnone : l.removeAll d.keys = [] := List.filter_eq_nil_iff.2 fun k hk => by simpa using h k hk
  rw [List.eraseDups_append, eraseDups_keys, hnone, List.eraseDups_nil, List.append_nil]

/-- With nothing behind them, the keys are what they are. -/
lemma keys_eq_eraseDups_append_nil (d : Dict κ ν) : d.keys = (d.keys ++ []).eraseDups := by
  rw [List.append_nil, eraseDups_keys]

/-- A key that is written is listed behind those that came before it. -/
lemma keys_insert_eq_eraseDups (d : Dict κ ν) (k : κ) (v : ν) : (d.insert k v).keys = (d.keys ++ [k]).eraseDups := by
  rw [keys_insert]
  split
  · next hk => exact (eraseDups_keys_append_of_mem (by simpa using hk)).symm
  · next hk =>
    rw [List.eraseDups_append, eraseDups_keys]
    simp [List.removeAll, hk, List.eraseDups_cons]

/-- After writing a list, the keys stand in the order in which they first came. -/
theorem keys_insertMany (d : Dict κ ν) (l : List (κ × ν)) :
    (d.insertMany l).keys = (d.keys ++ l.map Prod.fst).eraseDups := by
  induction l generalizing d with
  | nil => exact d.keys_eq_eraseDups_append_nil
  | cons e l ih =>
    show ((d.insert e.1 e.2).insertMany l).keys = _
    rw [ih, keys_insert_eq_eraseDups, eraseDups_eraseDups_append, List.append_assoc, List.singleton_append,
      List.map_cons]

/-- After writing a list, the last value that it has for a key is found, or else what was there before. -/
theorem get?_insertMany (d : Dict κ ν) (l : List (κ × ν)) (k : κ) :
    (d.insertMany l).get? k = ((l.filter (·.1 = k)).getLast?.map Prod.snd).or (d.get? k) := by
  induction l generalizing d with
  | nil => rfl
  | cons e l ih =>
    show ((d.insert e.1 e.2).insertMany l).get? k = _
    rw [ih, get?_insert, List.filter_cons]
    by_cases hk : e.1 = k
    · simp [hk, List.getLast?_cons]
    · simp [hk]

/-- The keys after writing a list. -/
lemma mem_keys_insertMany {l : List (κ × ν)} {d : Dict κ ν} {k : κ} :
    k ∈ (d.insertMany l).keys ↔ k ∈ d.keys ∨ k ∈ l.map Prod.fst := by
  induction l generalizing d with
  | nil => simp [insertMany]
  | cons e l ih =>
    show k ∈ ((d.insert e.1 e.2).insertMany l).keys ↔ _
    rw [ih, mem_keys_insert, List.map_cons, List.mem_cons]
    tauto

/-- Writing a list with new keys, none of them twice, puts the list at the end. -/
lemma entries_insertMany {l : List (κ × ν)} {d : Dict κ ν} (hl : (l.map Prod.fst).Nodup)
    (h : ∀ k ∈ l.map Prod.fst, k ∉ d.keys) : (d.insertMany l).entries = d.entries ++ l := by
  induction l generalizing d with
  | nil => simp [insertMany]
  | cons e l ih =>
    rw [List.map_cons, List.nodup_cons] at hl
    have he : (d.insert e.1 e.2).entries = d.entries ++ [e] :=
      entries_insert_of_get?_eq_none (get?_eq_none_iff.2 (h e.1 List.mem_cons_self))
    show ((d.insert e.1 e.2).insertMany l).entries = _
    rw [ih hl.2, he, List.append_assoc]
    · rfl
    · intro k hk hd
      rcases mem_keys_insert.1 hd with rfl | hd
      · exact hl.1 hk
      · exact h k (List.mem_cons_of_mem _ hk) hd

/-- A list with no key twice is the list of entries of the map that it describes. -/
lemma entries_ofList {l : List (κ × ν)} (hl : (l.map Prod.fst).Nodup) : (ofList l).entries = l :=
  entries_insertMany hl fun _ _ => List.not_mem_nil

/-- A value that is there after writing a list was there before or is in the list. -/
lemma mem_values_insertMany {l : List (κ × ν)} {d : Dict κ ν} {v : ν}
    (h : v ∈ (d.insertMany l).values) : v ∈ d.values ∨ v ∈ l.map Prod.snd := by
  induction l generalizing d with
  | nil => exact .inl h
  | cons e l ih =>
    rcases ih (d := d.insert e.1 e.2) h with h | h
    · obtain ⟨k, hk⟩ := mem_values_iff.1 h
      rw [get?_insert] at hk
      split at hk
      · exact .inr (by simp_all)
      · exact .inl (mem_values_iff.2 ⟨k, hk⟩)
    · exact .inr (List.mem_cons_of_mem _ h)

/-- The values of a map come from the list that describes it. -/
lemma mem_values_ofList {l : List (κ × ν)} {v : ν} (h : v ∈ (ofList l).values) :
    v ∈ l.map Prod.snd := by
  rcases mem_values_insertMany h with h | h
  · exact absurd h (by simp [values, empty])
  · exact h

end Built

section Values

variable {κ ν μ : Type} {d d' : Dict κ ν} {g : ν → μ}

/-- A dictionary is its entries. -/
lemma eq_of_entries_eq (h : d.entries = d'.entries) : d = d' := by
  cases d
  cases d'
  cases h
  rfl

/-- The values of a changed dictionary are the changed values. -/
@[simp] lemma values_mapValues : (d.mapValues g).values = d.values.map g := by
  simp [mapValues, values, Function.comp_def]

variable [DecidableEq κ]

/-- Under each key, there is the changed value. -/
@[simp] lemma get?_mapValues (k : κ) : (d.mapValues g).get? k = (d.get? k).map g := by
  simp [mapValues, get?, List.find?_map, Function.comp_def]

/-- Maps with the same look-ups have the same entries, in some order. -/
lemma entries_perm_of_get?_eq (h : ∀ k, d.get? k = d'.get? k) : d.entries.Perm d'.entries := by
  apply (List.perm_ext_iff_of_nodup (.of_map _ d.nodup) (.of_map _ d'.nodup)).2
  rintro ⟨k, v⟩
  rw [← get?_eq_some_iff, ← get?_eq_some_iff, h]

/-- The order of the entries makes no difference to look-ups. -/
lemma get?_eq_of_entries_perm (h : d.entries.Perm d'.entries) (k : κ) : d.get? k = d'.get? k := by
  apply Option.ext
  intro v
  rw [get?_eq_some_iff, get?_eq_some_iff, h.mem_iff]

/-- Values can be changed before they are written. -/
lemma mapValues_insert (k : κ) (v : ν) : (d.insert k v).mapValues g = (d.mapValues g).insert k (g v) := by
  apply eq_of_entries_eq
  show (putEntry k v d.entries).map _ = putEntry k (g v) (d.entries.map _)
  induction d.entries with
  | nil => rfl
  | cons e rest ih =>
    by_cases hk : e.1 = k
    · simp [putEntry, hk]
    · simp [putEntry, hk, ih]

/-- Values may be changed before they are inserted or after that. -/
lemma mapValues_insertMany (l : List (κ × ν)) :
    (d.insertMany l).mapValues g = (d.mapValues g).insertMany (l.map fun e => (e.1, g e.2)) := by
  induction l generalizing d with
  | nil => rfl
  | cons e l ih =>
    show ((d.insert e.1 e.2).insertMany l).mapValues g =
      ((d.mapValues g).insert e.1 (g e.2)).insertMany _
    rw [ih, mapValues_insert]

/-- The values of a map can be changed in the list that describes it. -/
lemma mapValues_ofList (l : List (κ × ν)) :
    (ofList l).mapValues g = ofList (l.map fun e => (e.1, g e.2)) :=
  mapValues_insertMany l

end Values

end SdkGen.Dict
