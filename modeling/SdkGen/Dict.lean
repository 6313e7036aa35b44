/-!
# Insertion-ordered maps

`Dict κ ν` is a finite map that lists its entries in the order in which their keys first came in.
Writing a key again keeps its place and replaces its value, so a dictionary never holds a key twice
and its order never depends on how often a key was written.

Main statements: `Dict.get?_insert` and `Dict.keys_insert` say what a write does to look-ups and to
the order of the keys; `Dict.nodup` is the invariant.
-/

namespace SdkGen

/-- The entries after writing `v` under `k`: in place when the key is there, at the end otherwise. -/
def putEntry {κ ν : Type} [DecidableEq κ] (k : κ) (v : ν) : List (κ × ν) → List (κ × ν)
  | [] => [(k, v)]
  | (k', v') :: rest => if k' = k then (k, v) :: rest else (k', v') :: putEntry k v rest

/-- A write keeps the keys in place and adds a new key at the end. -/
theorem map_fst_putEntry {κ ν : Type} [DecidableEq κ] (k : κ) (v : ν) (l : List (κ × ν)) :
    (putEntry k v l).map Prod.fst =
      if k ∈ l.map Prod.fst then l.map Prod.fst else l.map Prod.fst ++ [k] := by
  induction l with
  | nil => simp [putEntry]
  | cons e rest ih =>
    obtain ⟨k', v'⟩ := e
    by_cases h : k' = k
    · simp [putEntry, h]
    · have h' : ¬ k = k' := fun e => h e.symm
      by_cases hm : k ∈ rest.map Prod.fst
      · rw [if_pos hm] at ih
        rw [if_pos (by simp only [List.map_cons, List.mem_cons]; exact .inr hm)]
        simp [putEntry, h, ih]
      · rw [if_neg hm] at ih
        rw [if_neg (by simp only [List.map_cons, List.mem_cons, not_or]; exact ⟨h', hm⟩)]
        simp [putEntry, h, ih]

/-- A finite map with its entries in the order of first insertion. -/
structure Dict (κ ν : Type) where
  /-- The entries, oldest key first. -/
  entries : List (κ × ν)
  /-- No key occurs twice. -/
  nodup : (entries.map Prod.fst).Nodup

namespace Dict

variable {κ ν : Type}

/-- The map without entries. -/
def empty : Dict κ ν := ⟨[], by simp⟩

instance : Inhabited (Dict κ ν) := ⟨empty⟩

/-- The keys, oldest first. -/
def keys (d : Dict κ ν) : List κ := d.entries.map Prod.fst

/-- The values, in the order of their keys. -/
def values (d : Dict κ ν) : List ν := d.entries.map Prod.snd

/-- The number of entries. -/
def size (d : Dict κ ν) : Nat := d.entries.length

/-- Applies a function to every value. -/
def mapValues {μ : Type} (f : ν → μ) (d : Dict κ ν) : Dict κ μ :=
  ⟨d.entries.map fun e => (e.1, f e.2), by
    have h := d.nodup
    simpa [List.map_map, Function.comp_def] using h⟩

variable [DecidableEq κ]

/-- The value under a key. -/
def get? (d : Dict κ ν) (k : κ) : Option ν := (d.entries.find? (·.1 = k)).map Prod.snd

/-- Whether a key has a value. -/
def contains (d : Dict κ ν) (k : κ) : Bool := (d.get? k).isSome

/-- Writes a value under a key. -/
def insert (d : Dict κ ν) (k : κ) (v : ν) : Dict κ ν :=
  ⟨putEntry k v d.entries, by
    rw [map_fst_putEntry]
    split
    · exact d.nodup
    · rename_i h
      rw [List.nodup_append]
      refine ⟨d.nodup, by simp, ?_⟩
      intro a ha b hb e
      rw [List.mem_singleton] at hb
      exact h (hb ▸ e ▸ ha)⟩

/-- Writes a list of entries one after the other. -/
def insertMany (d : Dict κ ν) (l : List (κ × ν)) : Dict κ ν :=
  l.foldl (fun d e => d.insert e.1 e.2) d

/-- The map that a list of entries describes: first place, last value. -/
def ofList (l : List (κ × ν)) : Dict κ ν := empty.insertMany l

/-- A write changes the look-up of its own key and of no other. -/
theorem get?_insert (d : Dict κ ν) (k k' : κ) (v : ν) :
    (d.insert k v).get? k' = if k = k' then some v else d.get? k' := by
  obtain ⟨l, hl⟩ := d
  simp only [get?, insert]
  clear hl
  induction l with
  | nil => by_cases h : k = k' <;> simp [putEntry, h]
  | cons e rest ih =>
    obtain ⟨a, b⟩ := e
    by_cases ha : a = k
    · subst ha
      by_cases h : a = k' <;> simp [putEntry, h]
    · by_cases h : a = k'
      · subst h
        have hk : ¬ k = a := fun e => ha e.symm
        simp [putEntry, ha, hk]
      · simpa [putEntry, ha, h] using ih

/-- What was just inserted is there. -/
@[simp] theorem get?_insert_self (d : Dict κ ν) (k : κ) (v : ν) :
    (d.insert k v).get? k = some v := by
  simp [get?_insert]

/-- A write keeps the order of the keys and puts a new key last. -/
theorem keys_insert (d : Dict κ ν) (k : κ) (v : ν) :
    (d.insert k v).keys = if k ∈ d.keys then d.keys else d.keys ++ [k] :=
  map_fst_putEntry k v d.entries

/-- A key has a value exactly when it is listed. -/
theorem contains_eq_true_iff (d : Dict κ ν) (k : κ) : d.contains k = true ↔ k ∈ d.keys := by
  simp only [contains, get?, keys, Option.isSome_map, List.find?_isSome, decide_eq_true_eq,
    List.mem_map]

end Dict

end SdkGen
