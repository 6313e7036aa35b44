import SdkGen.Pass.Resolve
import SdkGen.Proofs.Model.Rules
import SdkGen.Proofs.Pass.Run

/-!
# Demands on a pass

All that rendering does to the state of a pass comes down to a list of demands: a type is referenced, a derived type
is asked for, or a type is asked for that is missing. `Demand.serve` is what one demand does, `Demand.serveAll` what
a list of them does until one fails.

Main statements: `Pass.Sound.serveAll` (a pass keeps nothing but what the rules of its model make),
`Demand.counts_serveAll` (how often a type was referenced is how often it was demanded) and
`Demand.mem_derivedTypes_serveAll` (what was derived is what was asked for and can be made).
-/

namespace SdkGen

/-- What rendering asks of a pass. -/
inductive Demand where
  /-- A type is referenced; there may be none. -/
  | reference (type : Option TypeId)
  /-- A derived type is asked for. -/
  | derive (id : TypeId)
  /-- Something is asked of a type that is missing. -/
  | missing
deriving DecidableEq

/-- The event that reports the making of a type. -/
def TypeId.creation (id : TypeId) (name source : String) : Event :=
  match id with
  | .request _ => .createdRequest name source
  | _ => .createdWriteable name source

/-- The event that reports the making of a type by the rules of a model. -/
def Model.creation (m : Model) (id : TypeId) : Event := id.creation (m.declOf id).name (m.sourceName id)

namespace Pass

/-- One more reference. -/
def count (p : Pass) (type : Option TypeId) : Pass :=
  { p with counts := p.counts.bump type }

/-- One more event. -/
def note (p : Pass) (e : Event) : Pass :=
  { p with journal := p.journal.push e }

/-- What asking for a derived type gave, if it was asked for. -/
def kept? (p : Pass) : TypeId → Option (Option TypeDecl)
  | .declared _ => none
  | .request method => p.requests.get? method
  | .writeable source => p.writeables.get? source

/-- Keeps what asking for a derived type gave. -/
def keep (p : Pass) (id : TypeId) (made : Option TypeDecl) : Pass :=
  match id with
  | .declared _ => p
  | .request method => { p with requests := p.requests.insert method made }
  | .writeable source => { p with writeables := p.writeables.insert source made }

end Pass

namespace Demand

/-- What one demand does to a pass. -/
def serve (m : Model) (d : Demand) (p : Pass) : Except Failure Unit × Pass :=
  match d with
  | .reference type => (.ok (), p.count type)
  | .missing => (.error (.fault (.noValue "name")), p)
  | .derive id =>
    match p.kept? id, m.made? id with
    | some none, _ => (.ok (), p)
    | some (some _), _ => (.ok (), p.count (some id))
    | none, none => (.ok (), p.keep id none)
    | none, some t =>
      if p.nameTaken m t.name then (.error (.nameConflict t.name (m.sourceName id)), p)
      else
        (.ok (), ((p.note (id.creation t.name (m.sourceName id))).keep id (some t)).count (some id))

/-- What a list of demands does to a pass, up to the first one that fails. -/
def serveAll (m : Model) : List Demand → Pass → Except Failure Unit × Pass
  | [], p => (.ok (), p)
  | d :: ds, p =>
    match d.serve m p with
    | (.ok _, p') => serveAll m ds p'
    | (.error f, p') => (.error f, p')

/-- Whether a demand that is served counts as a reference to a type. -/
def touches (m : Model) (type : Option TypeId) : Demand → Bool
  | .reference r => r = type
  | .derive id => type = some id ∧ (m.made? id).isSome
  | .missing => false

/-- What asking for the request type of a method demands. -/
def ofRequest (wraps : Bool) (id : MethodId) : List Demand :=
  if wraps then [.derive (.request id)] else []

/-- What asking for the writeable variant of what is mentioned demands. -/
def ofVariant : Option TypeRef → List Demand
  | some (.named id) => [.derive (.writeable id)]
  | _ => []

/-- Whether a type is asked for that can be made. -/
def Makes (m : Model) (ds : List Demand) (id : TypeId) : Prop :=
  .derive id ∈ ds ∧ (m.made? id).isSome

end Demand

/-- A pass over a model: bound to it, with what the rules of the model make and nothing else. -/
structure Pass.Sound (m : Model) (wraps : Bool) (p : Pass) : Prop where
  bound : p.bound = true
  needs : p.needsRequestTypes = wraps
  made : ∀ id made, p.kept? id = some made → made = m.made? id

namespace Pass

variable {m : Model} {wraps : Bool} {p : Pass} {id : TypeId} {t : TypeDecl}

/-- A reference leaves all declarations as they are. -/
@[simp] lemma decl_count (type : Option TypeId) : (p.count type).decl m = p.decl m := by
  funext id
  cases id <;> rfl

/-- A reference leaves what was kept as it is. -/
@[simp] lemma kept?_count (type : Option TypeId) : (p.count type).kept? = p.kept? := by
  funext id
  cases id <;> rfl

/-- An event leaves what was kept as it is. -/
@[simp] lemma kept?_note (e : Event) : (p.note e).kept? = p.kept? := by
  funext id
  cases id <;> rfl

/-- Keeping a type leaves a pass bound to its model. -/
@[simp] lemma bound_keep (made : Option TypeDecl) : (p.keep id made).bound = p.bound := by
  cases id <;> rfl

/-- Keeping a type leaves it as it is whether request types are in use. -/
@[simp] lemma needsRequestTypes_keep (made : Option TypeDecl) :
    (p.keep id made).needsRequestTypes = p.needsRequestTypes := by
  cases id <;> rfl

/-- Keeping a type leaves all counts as they are. -/
@[simp] lemma counts_keep (made : Option TypeDecl) : (p.keep id made).counts = p.counts := by
  cases id <;> rfl

/-- Keeping a type reports nothing. -/
@[simp] lemma journal_keep (made : Option TypeDecl) : (p.keep id made).journal = p.journal := by
  cases id <;> rfl

/-- A reference counts once, for its type. -/
@[simp] lemma counts_count (type other : Option TypeId) :
    (p.count type).counts.get other =
      if type = other then p.counts.get other + 1 else p.counts.get other :=
  p.counts.get_bump type other

/-- Keeping something under one identity changes nothing under the others. -/
lemma kept?_keep_of_ne {made : Option TypeDecl} {id' : TypeId} (h : id' ≠ id) :
    (p.keep id made).kept? id' = p.kept? id' := by
  cases id <;> cases id' <;> simp only [keep, kept?, Dict.get?_insert]
  all_goals
    apply if_neg
    rintro rfl
    exact h rfl

/-- What is kept under the identity of a derived type is there. -/
lemma kept?_keep_self {made : Option TypeDecl} (h : (m.made? id).isSome) :
    (p.keep id made).kept? id = some made := by
  cases id with
  | declared _ => cases h
  | request _ => simp [keep, kept?]
  | writeable _ => simp [keep, kept?]

/-- Under one identity, nothing but what was kept last is there. -/
lemma eq_of_kept?_keep {made made' : Option TypeDecl} (h : (p.keep id made).kept? id = some made') :
    made' = made := by
  cases id with
  | declared _ => cases h
  | request _ => simpa [keep, kept?, eq_comm] using h
  | writeable _ => simpa [keep, kept?, eq_comm] using h

/-- The derived types are those under which something is kept. -/
lemma mem_derivedTypes_iff : id ∈ p.derivedTypes ↔ ∃ t, p.kept? id = some (some t) := by
  simp only [derivedTypes, List.mem_append, List.mem_filterMap, Option.map_eq_some_iff]
  constructor
  · rintro (⟨⟨k, d⟩, he, t, rfl, rfl⟩ | ⟨⟨k, d⟩, he, t, rfl, rfl⟩)
    · exact ⟨t, Dict.get?_eq_some_iff.2 he⟩
    · exact ⟨t, Dict.get?_eq_some_iff.2 he⟩
  · rintro ⟨t, h⟩
    cases id with
    | declared _ => cases h
    | request k => exact .inl ⟨_, Dict.get?_eq_some_iff.1 h, t, rfl, rfl⟩
    | writeable k => exact .inr ⟨_, Dict.get?_eq_some_iff.1 h, t, rfl, rfl⟩

/-- A derived type is declared as it was kept. -/
lemma decl_of_kept? (h : p.kept? id = some (some t)) : p.decl m id = t := by
  cases id with
  | declared _ => cases h
  | request k =>
    have h : p.requests.get? k = some (some t) := h
    simp [decl, h]
  | writeable k =>
    have h : p.writeables.get? k = some (some t) := h
    simp [decl, h]

/-- In a sound pass, a derived type is declared as the rules say. -/
lemma Sound.decl_of_mem (hp : p.Sound m wraps) (h : id ∈ p.derivedTypes) :
    p.decl m id = m.declOf id := by
  obtain ⟨t, ht⟩ := mem_derivedTypes_iff.1 h
  rw [decl_of_kept? ht, Model.declOf_of_made? (hp.made id _ ht).symm]

/-- A type that is not declared is what was kept for it. -/
lemma decl_eq_kept? (h : ∀ n, id ≠ .declared n) : p.decl m id = ((p.kept? id).join).getD default := by
  cases id with
  | declared n => exact absurd rfl (h n)
  | request _ => rfl
  | writeable _ => rfl

/-- What was not derived is declared as in a pass that has just begun. -/
lemma decl_of_notMem_derivedTypes (h : id ∉ p.derivedTypes) : p.decl m id = ({} : Pass).decl m id := by
  have hk : (p.kept? id).join = none := by
    apply Option.eq_none_iff_forall_ne_some.2
    intro t ht
    exact h (mem_derivedTypes_iff.2 ⟨t, Option.join_eq_some_iff.1 ht⟩)
  by_cases hid : ∃ n, id = .declared n
  · obtain ⟨n, rfl⟩ := hid
    rfl
  · have hid : ∀ n, id ≠ .declared n := fun n e => hid ⟨n, e⟩
    rw [decl_eq_kept? hid, decl_eq_kept? hid, hk]
    cases id <;> rfl

/-- In a sound pass, what is made from a type when its variant is asked for is what the rules make. -/
lemma Sound.map_sharing (hp : p.Sound m wraps) (id : TypeId) :
    (p.decl m id).writeable?.map (·.sharing id (p.decl m id)) = m.made? (.writeable id) := by
  have h (hd : ∀ n, id ≠ .declared n) : (p.decl m id).writeable? = none := by
    rw [decl_eq_kept? hd]
    cases hk : p.kept? id with
    | none => rfl
    | some made => exact hp.made id made hk ▸ Model.writeable?_getD_made? m id
  cases id with
  | declared n => rfl
  | request k => rw [h nofun]; rfl
  | writeable k => rw [h nofun]; rfl

/-- Only declared types have writeable variants. -/
lemma decl_of_made?_writeable (h : m.made? (.writeable id) = some t) : p.decl m id = m.declOf id := by
  cases id with
  | declared n => rfl
  | request _ => cases h
  | writeable _ => cases h

/-- A pass that has just begun is sound. -/
lemma Sound.fresh (m : Model) (wraps : Bool) : ({ needsRequestTypes := wraps } : Pass).Sound m wraps where
  bound := rfl
  needs := rfl
  made id made h := by cases id <;> cases h

/-- A sound pass stays sound with one more reference. -/
lemma Sound.count (hp : p.Sound m wraps) (type : Option TypeId) : (p.count type).Sound m wraps :=
  ⟨hp.bound, hp.needs, by simpa using hp.made⟩

/-- A sound pass stays sound with one more event. -/
lemma Sound.note (hp : p.Sound m wraps) (e : Event) : (p.note e).Sound m wraps :=
  ⟨hp.bound, hp.needs, by simpa using hp.made⟩

/-- A sound pass stays sound when it keeps what the rules make. -/
lemma Sound.keep (hp : p.Sound m wraps) (id : TypeId) : (p.keep id (m.made? id)).Sound m wraps where
  bound := by simpa using hp.bound
  needs := by simpa using hp.needs
  made id' made h := by
    by_cases e : id' = id
    · subst e
      exact eq_of_kept?_keep h
    · exact hp.made id' made (kept?_keep_of_ne e ▸ h)

/-- Keeping that nothing can be made derives no type. -/
lemma mem_derivedTypes_keep_none (h : p.kept? id = none) (x : TypeId) :
    x ∈ (p.keep id none).derivedTypes ↔ x ∈ p.derivedTypes := by
  simp only [mem_derivedTypes_iff]
  by_cases e : x = id
  · subst e
    constructor
    · rintro ⟨t, ht⟩
      cases eq_of_kept?_keep ht
    · rintro ⟨t, ht⟩
      rw [h] at ht
      cases ht
  · rw [kept?_keep_of_ne e]

/-- Keeping what was made derives one type. -/
lemma mem_derivedTypes_keep_some (h : (m.made? id).isSome) (x : TypeId) :
    x ∈ (p.keep id (some t)).derivedTypes ↔ x = id ∨ x ∈ p.derivedTypes := by
  simp only [mem_derivedTypes_iff]
  by_cases e : x = id
  · subst e
    exact ⟨fun _ => .inl rfl, fun _ => ⟨t, kept?_keep_self h⟩⟩
  · rw [kept?_keep_of_ne e]
    simp [e]

/-- A reference derives no type. -/
@[simp] lemma derivedTypes_count (type : Option TypeId) :
    (p.count type).derivedTypes = p.derivedTypes := rfl

/-- An event derives no type. -/
@[simp] lemma derivedTypes_note (e : Event) : (p.note e).derivedTypes = p.derivedTypes := rfl

end Pass

namespace Demand

variable {m : Model} {wraps : Bool} {p p' : Pass} {id : TypeId} {t : TypeDecl} {d : Demand}
  {ds es : List Demand} {f : Failure}

/-- A type that is derived already is referenced once more. -/
lemma serve_derive_of_mem (h : id ∈ p.derivedTypes) :
    (derive id).serve m p = (.ok (), p.count (some id)) := by
  obtain ⟨t, ht⟩ := Pass.mem_derivedTypes_iff.1 h
  simp [serve, ht]

/-- Where nothing can be made, nothing is derived and nothing is referenced. -/
lemma serve_derive_of_made?_eq_none (hp : p.Sound m wraps) (h : m.made? id = none) :
    ∃ p', (derive id).serve m p = (.ok (), p') ∧ p'.counts = p.counts ∧ p'.journal = p.journal ∧
      ∀ x, x ∈ p'.derivedTypes ↔ x ∈ p.derivedTypes := by
  cases hk : p.kept? id with
  | none =>
    refine ⟨p.keep id none, by simp [serve, hk, h], by simp, by simp, ?_⟩
    exact Pass.mem_derivedTypes_keep_none hk
  | some made =>
    obtain rfl : made = none := (hp.made id made hk).trans h
    exact ⟨p, by simp [serve, hk], rfl, rfl, fun _ => .rfl⟩

/-- A type that can be made is derived, unless its name is taken. -/
lemma serve_derive_of_not_mem (hp : p.Sound m wraps) (h : m.made? id = some t)
    (hn : id ∉ p.derivedTypes) :
    (derive id).serve m p =
      if p.nameTaken m t.name then (.error (.nameConflict t.name (m.sourceName id)), p)
      else
        (.ok (), ((p.note (id.creation t.name (m.sourceName id))).keep id (some t)).count (some id)) := by
  have hk : p.kept? id = none := by
    cases hk : p.kept? id with
    | none => rfl
    | some made =>
      obtain rfl : made = some t := (hp.made id made hk).trans h
      exact absurd (Pass.mem_derivedTypes_iff.2 ⟨t, hk⟩) hn
  simp [serve, hk, h]

/-- A demand that fails leaves no trace. -/
lemma serve_error (h : d.serve m p = (.error f, p')) : p' = p := by
  cases d with
  | reference _ => cases h
  | missing => cases h; rfl
  | derive id =>
    simp only [serve] at h
    split at h
    · cases h
    · cases h
    · cases h
    · split at h
      · cases h
        rfl
      · cases h

end Demand

namespace Pass

variable {m : Model} {wraps : Bool} {p : Pass}

/-- Serving a demand keeps a pass sound. -/
lemma Sound.serve (hp : p.Sound m wraps) (d : Demand) : (d.serve m p).2.Sound m wraps := by
  cases d with
  | reference type => exact hp.count type
  | missing => exact hp
  | derive id =>
    simp only [Demand.serve]
    split
    · exact hp
    · exact hp.count _
    · next _ h => exact h ▸ hp.keep id
    · next t _ h =>
      split
      · exact hp
      · exact Sound.count (h ▸ (hp.note _).keep id) _

/-- What every single demand keeps is kept by a list of demands, whether or not one of them fails. -/
lemma keeps_serveAll {I : Pass → Prop} {ds : List Demand} (hI : ∀ d ∈ ds, ∀ p, I p → I (d.serve m p).2)
    (h : I p) : I (Demand.serveAll m ds p).2 := by
  induction ds generalizing p with
  | nil => exact h
  | cons d ds ih =>
    have hd := hI d List.mem_cons_self p h
    simp only [Demand.serveAll]
    split
    · next e =>
      rw [e] at hd
      exact ih (fun d h => hI d (List.mem_cons_of_mem _ h)) hd
    · next e =>
      rw [e] at hd
      exact hd

/-- Serving demands keeps a pass sound, whether or not one of them fails. -/
theorem Sound.serveAll (hp : p.Sound m wraps) (ds : List Demand) :
    (Demand.serveAll m ds p).2.Sound m wraps :=
  keeps_serveAll (fun d _ _ h => h.serve d) hp

end Pass

namespace Demand

variable {m : Model} {wraps : Bool} {p p' : Pass} {d : Demand} {ds es : List Demand} {f : Failure}

/-- Demands are served one after the other. -/
lemma serveAll_append (ds es : List Demand) (p : Pass) :
    serveAll m (ds ++ es) p = match serveAll m ds p with
      | (.ok _, p') => serveAll m es p'
      | (.error f, p') => (.error f, p') := by
  induction ds generalizing p with
  | nil => rfl
  | cons d ds ih =>
    simp only [List.cons_append, serveAll]
    rcases d.serve m p with ⟨_ | _, p'⟩
    · rfl
    · exact ih p'

/-- What the rest of a list of demands begins with, when none of them fails. -/
lemma serveAll_cons_ok (h : serveAll m (d :: ds) p = (.ok (), p')) :
    ∃ p₁, d.serve m p = (.ok (), p₁) ∧ serveAll m ds p₁ = (.ok (), p') := by
  simp only [serveAll] at h
  split at h
  · next p₁ h₁ => exact ⟨p₁, h₁, h⟩
  · cases h

/-- A demand that is served counts as one reference or none. -/
lemma counts_serve (hp : p.Sound m wraps) (h : d.serve m p = (.ok (), p')) (x : Option TypeId) :
    p'.counts.get x = p.counts.get x + if d.touches m x then 1 else 0 := by
  cases d with
  | reference type =>
    cases h
    simp only [Pass.counts_count, touches, decide_eq_true_eq]
    split <;> rfl
  | missing => cases h
  | derive id =>
    cases hm : m.made? id with
    | none =>
      obtain ⟨p₁, h₁, hc, _⟩ := serve_derive_of_made?_eq_none hp hm
      rw [h₁] at h
      cases h
      simp [touches, hm, hc]
    | some t =>
      have hx : (derive id).touches m x = decide (some id = x) := by simp [touches, hm, eq_comm]
      rw [hx]
      by_cases hn : id ∈ p.derivedTypes
      · rw [serve_derive_of_mem hn] at h
        cases h
        simp only [Pass.counts_count, decide_eq_true_eq]
        split <;> rfl
      · rw [serve_derive_of_not_mem hp hm hn] at h
        split at h
        · cases h
        · cases h
          simp only [Pass.counts_count, Pass.counts_keep, decide_eq_true_eq]
          split <;> rfl

/-- A demand that is served derives the type that it asks for, if that can be made. -/
lemma mem_derivedTypes_serve (hp : p.Sound m wraps) (h : d.serve m p = (.ok (), p')) (x : TypeId) :
    x ∈ p'.derivedTypes ↔ x ∈ p.derivedTypes ∨ d = .derive x ∧ (m.made? x).isSome := by
  cases d with
  | reference type =>
    cases h
    simp
  | missing => cases h
  | derive id =>
    cases hm : m.made? id with
    | none =>
      obtain ⟨p₁, h₁, _, _, hd⟩ := serve_derive_of_made?_eq_none hp hm
      rw [h₁] at h
      cases h
      rw [hd]
      refine ⟨.inl, ?_⟩
      rintro (hx | ⟨⟨⟩, hx⟩)
      · exact hx
      · simp [hm] at hx
    | some t =>
      -- what can be made is there already or is made now
      by_cases hn : id ∈ p.derivedTypes
      · rw [serve_derive_of_mem hn] at h
        cases h
        refine ⟨.inl, ?_⟩
        rintro (hx | ⟨⟨⟩, _⟩)
        · exact hx
        · exact hn
      · rw [serve_derive_of_not_mem hp hm hn] at h
        split at h
        · cases h
        · cases h
          have hs : (m.made? id).isSome := by simp [hm]
          rw [Pass.derivedTypes_count, Pass.mem_derivedTypes_keep_some hs, Pass.derivedTypes_note,
            or_comm]
          apply or_congr_right
          constructor
          · rintro rfl
            exact ⟨rfl, hs⟩
          · rintro ⟨⟨⟩, _⟩
            rfl

/-- A derived type is reported when it is asked for and was not derived yet. -/
lemma journal_serve_derive {id : TypeId} (hp : p.Sound m wraps) (h : (derive id).serve m p = (.ok (), p')) :
    p'.journal =
      if id ∉ p.derivedTypes ∧ (m.made? id).isSome then p.journal.push (m.creation id) else p.journal := by
  cases hm : m.made? id with
  | none =>
    obtain ⟨p₁, h₁, _, hj, _⟩ := serve_derive_of_made?_eq_none hp hm
    rw [h₁] at h
    cases h
    simpa using hj
  | some t =>
    by_cases hn : id ∈ p.derivedTypes
    · rw [serve_derive_of_mem hn] at h
      cases h
      rw [if_neg fun hd => hd.1 hn]
      rfl
    · rw [serve_derive_of_not_mem hp hm hn] at h
      split at h
      · cases h
      · cases h
        rw [if_pos ⟨hn, rfl⟩, Model.creation, Model.declOf_of_made? hm]
        exact Pass.journal_keep (some t)

/-- What was derived stays derived, whether or not a demand fails. -/
lemma mem_derivedTypes_serveAll_of_mem (hp : p.Sound m wraps) (ds : List Demand) {x : TypeId}
    (h : x ∈ p.derivedTypes) : x ∈ (serveAll m ds p).2.derivedTypes := by
  have hstep (d : Demand) (p : Pass) (hp : p.Sound m wraps ∧ x ∈ p.derivedTypes) :
      (d.serve m p).2.Sound m wraps ∧ x ∈ (d.serve m p).2.derivedTypes := by
    refine ⟨hp.1.serve d, ?_⟩
    rcases hs : d.serve m p with ⟨f | u, p'⟩
    · rw [serve_error hs]
      exact hp.2
    · exact (mem_derivedTypes_serve hp.1 hs x).2 (.inl hp.2)
  exact (Pass.keeps_serveAll (fun d _ => hstep d) ⟨hp, h⟩).2

/-- What is derived was there before or is made by a demand, whether or not another demand fails. -/
lemma makes_of_mem_derivedTypes_serveAll (hp : p.Sound m wraps) {x : TypeId}
    (h : x ∈ (serveAll m ds p).2.derivedTypes) : x ∈ p.derivedTypes ∨ Makes m ds x := by
  have hstep (d : Demand) (hd : d ∈ ds) (q : Pass)
      (hq : q.Sound m wraps ∧ ∀ x ∈ q.derivedTypes, x ∈ p.derivedTypes ∨ Makes m ds x) :
      (d.serve m q).2.Sound m wraps ∧ ∀ x ∈ (d.serve m q).2.derivedTypes, x ∈ p.derivedTypes ∨ Makes m ds x := by
    refine ⟨hq.1.serve d, fun x hx => ?_⟩
    rcases hs : d.serve m q with ⟨f | u, q'⟩ <;> rw [hs] at hx
    · rw [serve_error hs] at hx
      exact hq.2 x hx
    · rw [mem_derivedTypes_serve hq.1 hs] at hx
      rcases hx with hx | ⟨rfl, hx⟩
      · exact hq.2 x hx
      · exact .inr ⟨hd, hx⟩
  exact (Pass.keeps_serveAll hstep ⟨hp, fun _ => .inl⟩).2 x h

/-- After demands that were served, each type has as many more references as there are demands that touch it. -/
theorem counts_serveAll (hp : p.Sound m wraps) (h : serveAll m ds p = (.ok (), p'))
    (x : Option TypeId) : p'.counts.get x = p.counts.get x + ds.countP (·.touches m x) := by
  induction ds generalizing p with
  | nil =>
    cases h
    rfl
  | cons d ds ih =>
    obtain ⟨p₁, h₁, h₂⟩ := serveAll_cons_ok h
    have hs : p₁.Sound m wraps := by simpa [h₁] using hp.serve d
    rw [ih hs h₂, counts_serve hp h₁ x, List.countP_cons]
    omega

/-- After demands that were served, the derived types are those from before and those that the demands make. -/
theorem mem_derivedTypes_serveAll (hp : p.Sound m wraps) (h : serveAll m ds p = (.ok (), p'))
    (x : TypeId) : x ∈ p'.derivedTypes ↔ x ∈ p.derivedTypes ∨ Makes m ds x := by
  induction ds generalizing p with
  | nil =>
    cases h
    simp [Makes]
  | cons d ds ih =>
    obtain ⟨p₁, h₁, h₂⟩ := serveAll_cons_ok h
    have hs : p₁.Sound m wraps := by simpa [h₁] using hp.serve d
    rw [ih hs h₂, mem_derivedTypes_serve hp h₁]
    simp only [Makes, List.mem_cons]
    tauto

end Demand
end SdkGen
