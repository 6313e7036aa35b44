import SdkGen.Generate
import SdkGen.Proofs.Pass.Names
import SdkGen.Proofs.Target.Texts

/-!
# Rounds of declarations

`Target.Declares` is the loop that declares types, as it is described: as long as some type has to be declared and no
declaration goes by its name, all such types are declared. The loop looks at all types again in every round.
`Target.declareRounds` looks at those that remain, which comes to the same, since a name belongs to one type.

Main statements: `Target.exists_declares` (the loop ends, and `declareRounds` is the loop), `Declares.mem_iff` (it
declares the types that have to be declared in the end), `Declares.nodup` (each of them once) and `Declares.least`
(nothing has to be declared in the end that does not have to be for a reason).
-/

namespace SdkGen

namespace Pass

variable {m : Model} {wraps : Bool} {p : Pass} {id : TypeId} {ids : List TypeId}
  {done : Dict String String}

/-- The types that have to be declared and of whose names there is no declaration. -/
def undeclared (p : Pass) (m : Model) (done : Dict String String) : List TypeId :=
  (p.referencedTypes m).filter fun id => !done.contains (p.decl m id).name

/-- The candidates of whose names there is no declaration. -/
def remaining (p : Pass) (m : Model) (done : Dict String String) : List TypeId :=
  (p.candidates m).filter fun id => !done.contains (p.decl m id).name

/-- The pass after a type was declared: what its properties mention was referenced. -/
def declare (m : Model) (p : Pass) (id : TypeId) : Pass :=
  (p.note (.declaring (p.decl m id).name)).countAll (p.decl m id).mentions

/-- The pass after types were declared. -/
def declareAll (m : Model) (p : Pass) (ids : List TypeId) : Pass :=
  ids.foldl (declare m) p

/-- Declaring a type leaves all declarations as they are. -/
@[simp] lemma decl_declare : (declare m p id).decl m = p.decl m := by
  rw [declare, decl_countAll]
  rfl

/-- References change nothing but counts. -/
lemma countAll_eq (ids : List TypeId) :
    ∃ counts, p.countAll ids = { p with counts := counts } := by
  induction ids generalizing p with
  | nil => exact ⟨p.counts, rfl⟩
  | cons id ids ih =>
    obtain ⟨counts, h⟩ := ih (p := p.count (some id))
    exact ⟨counts, h⟩

/-- Declaring types changes nothing of a pass but its counts and its journal. -/
lemma declareAll_eq (ids : List TypeId) :
    ∃ counts journal, declareAll m p ids = { p with counts := counts, journal := journal } := by
  induction ids generalizing p with
  | nil => exact ⟨p.counts, p.journal, rfl⟩
  | cons id ids ih =>
    obtain ⟨counts, journal, h⟩ := ih (p := declare m p id)
    obtain ⟨counts', h'⟩ := (p.note (.declaring (p.decl m id).name)).countAll_eq (p.decl m id).mentions
    refine ⟨counts, journal, h.trans ?_⟩
    rw [declare, h']
    rfl

/-- Declaring types leaves all declarations as they are. -/
@[simp] lemma decl_declareAll : (declareAll m p ids).decl m = p.decl m := by
  obtain ⟨counts, journal, h⟩ := declareAll_eq (m := m) (p := p) ids
  rw [h]
  funext id
  cases id <;> rfl

/-- Declaring types derives none. -/
@[simp] lemma derivedTypes_declareAll : (declareAll m p ids).derivedTypes = p.derivedTypes := by
  obtain ⟨counts, journal, h⟩ := declareAll_eq (m := m) (p := p) ids
  rw [h]
  rfl

/-- Declaring types leaves the candidates as they are. -/
@[simp] lemma candidates_declareAll : (declareAll m p ids).candidates m = p.candidates m := by
  have hb : (declareAll m p ids).bound = p.bound := by
    obtain ⟨counts, journal, h⟩ := declareAll_eq (m := m) (p := p) ids
    rw [h]
  simp only [candidates, sortByName, hb, decl_declareAll, derivedTypes_declareAll]

/-- Types are declared one after the other. -/
lemma declareAll_append (ids ids' : List TypeId) :
    declareAll m p (ids ++ ids') = declareAll m (declareAll m p ids) ids' :=
  List.foldl_append

/-- Each type has as many more references as the properties of the declared types mention it. -/
lemma counts_declareAll (ids : List TypeId) (x : Option TypeId) :
    (declareAll m p ids).counts.get x =
      p.counts.get x + (ids.flatMap fun id => (p.decl m id).mentions).countP (some · = x) := by
  induction ids generalizing p with
  | nil => rfl
  | cons id ids ih =>
    have hd : (declare m p id).counts.get x =
        p.counts.get x + (p.decl m id).mentions.countP (some · = x) := counts_countAll _ x
    show (declareAll m (declare m p id) ids).counts.get x = _
    rw [ih, decl_declare, hd, List.flatMap_cons, List.countP_append, Nat.add_assoc]

/-- A type has references after types were declared if it had some, or if one of the types mentions it. -/
lemma counts_declareAll_pos_iff {x : TypeId} :
    0 < (declareAll m p ids).counts.get (some x) ↔
      0 < p.counts.get (some x) ∨ ∃ id ∈ ids, x ∈ (p.decl m id).mentions := by
  rw [counts_declareAll, Nat.add_pos_iff_pos_or_pos, List.countP_pos_iff]
  simp only [List.mem_flatMap, Option.some.injEq, decide_eq_true_eq, exists_eq_right]

/-- Declaring types keeps a pass sound. -/
lemma Sound.declareAll (hp : p.Sound m wraps) (ids : List TypeId) :
    (declareAll m p ids).Sound m wraps := by
  obtain ⟨counts, journal, h⟩ := declareAll_eq (m := m) (p := p) ids
  rw [h]
  refine ⟨hp.bound, hp.needs, fun id made hk => hp.made id made ?_⟩
  cases id <;> exact hk

/-- The referenced types are the candidates with references that are no built-in types. -/
lemma mem_referencedTypes_iff :
    id ∈ p.referencedTypes m ↔
      id ∈ p.candidates m ∧ 0 < p.counts.get (some id) ∧ (p.decl m id).intrinsic = false := by
  simp [referencedTypes]

/-- What has to be declared has to be declared after other types were. -/
lemma mem_referencedTypes_declareAll (h : id ∈ p.referencedTypes m) (ids : List TypeId) :
    id ∈ (declareAll m p ids).referencedTypes m := by
  obtain ⟨hc, hn, hi⟩ := mem_referencedTypes_iff.1 h
  apply mem_referencedTypes_iff.2
  simp only [candidates_declareAll, decl_declareAll]
  exact ⟨hc, counts_declareAll_pos_iff.2 (.inl hn), hi⟩

/-- The undeclared types are the referenced ones without a declaration. -/
lemma mem_undeclared_iff :
    id ∈ p.undeclared m done ↔ id ∈ p.referencedTypes m ∧ (p.decl m id).name ∉ done.keys := by
  simp [undeclared, Dict.contains_eq_false_iff]

/-- The remaining types are the candidates without a declaration. -/
lemma mem_remaining_iff :
    id ∈ p.remaining m done ↔ id ∈ p.candidates m ∧ (p.decl m id).name ∉ done.keys := by
  simp [remaining, Dict.contains_eq_false_iff]

/-- What is pending among the types that remain is what is undeclared among all. -/
lemma pending_remaining : p.pending m done (p.remaining m done) = p.undeclared m done := by
  simp only [pending, remaining, undeclared, referencedTypes, List.filter_filter]
  apply List.filter_congr
  intro id _
  simp only [isPending]
  cases done.contains (p.decl m id).name <;> simp

/-- In an orderly pass, no candidate comes twice, a name belongs to one candidate, and all properties have types. -/
structure Orderly (p : Pass) (m : Model) : Prop where
  nodup : (p.candidates m).Nodup
  eq_of_name_eq : ∀ a ∈ p.candidates m, ∀ b ∈ p.candidates m,
    (p.decl m a).name = (p.decl m b).name → a = b
  typed : ∀ id ∈ p.candidates m, (p.decl m id).Typed

/-- A sound pass is orderly if its derived types are apart and the model has types everywhere. -/
lemma Sound.orderly (hp : p.Sound m wraps) (ha : m.Apart (· ∈ p.derivedTypes)) (hm : m.Keyed)
    (ht : m.Typed) : p.Orderly m where
  nodup := nodup_candidates hm p
  eq_of_name_eq a h b h' e := by
    have h := hp.mem_candidates_iff.1 h
    have h' := hp.mem_candidates_iff.1 h'
    rw [hp.decl_of_isCandidate hm h, hp.decl_of_isCandidate hm h'] at e
    exact Pass.eq_of_name_eq hm ha h h' e
  typed id h := by
    rw [hp.decl_of_isCandidate hm (hp.mem_candidates_iff.1 h)]
    exact ht.declOf id

/-- Declaring types keeps a pass orderly. -/
lemma Orderly.declareAll (hp : p.Orderly m) (ids : List TypeId) : (declareAll m p ids).Orderly m := by
  constructor
  · simpa using hp.nodup
  · simpa using hp.eq_of_name_eq
  · simpa using hp.typed

/-- An undeclared type is a candidate. -/
lemma mem_candidates_of_mem_undeclared (h : id ∈ p.undeclared m done) : id ∈ p.candidates m :=
  (mem_referencedTypes_iff.1 (mem_undeclared_iff.1 h).1).1

end Pass

namespace Target

/-- The loop that declares types: as long as there are types to declare, all of them are declared, and then all
types are looked at again. The list holds the types that were declared, in this order. -/
inductive Declares (t : Target) (m : Model) :
    Pass → Dict String String → List TypeId → Dict String String → Pass → Prop where
  | done {p done} :
    p.undeclared m done = [] →
    Declares t m p done [] done p
  | round {p done done₁ p₁ ids done' p'} :
    p.undeclared m done ≠ [] →
    ((p.undeclared m done).foldlM (t.declareNext m) done).runFrom p = (.ok done₁, p₁) →
    Declares t m p₁ done₁ ids done' p' →
    Declares t m p done (p.undeclared m done ++ ids) done' p'

variable {t : Target} {m : Model} {p p' p₁ : Pass} {id : TypeId} {ids : List TypeId}
  {done done' done₁ : Dict String String}

/-- The declaration of a type in a pass, with the name of the type. -/
def entry (t : Target) (m : Model) (p : Pass) (id : TypeId) : String × String :=
  ((p.decl m id).name, t.declText "" (p.decl m) (p.decl m id))

/-- Declaring types leaves the entries of all types as they are. -/
@[simp] lemma entry_declareAll : t.entry m (Pass.declareAll m p ids) = t.entry m p := by
  funext id
  simp [entry]

/-- Declaring one more type writes its declaration. -/
lemma runFrom_declareNext (h : (p.decl m id).Typed) :
    (t.declareNext m done id).runFrom p =
      (.ok (done.insert (t.entry m p id).1 (t.entry m p id).2), Pass.declare m p id) := by
  have hd : (t.declareDecl m "" (p.decl m id)).runFrom (p.note (.declaring (p.decl m id).name)) =
      (.ok (t.entry m p id).2, Pass.declare m p id) := runFrom_declareDecl h _
  rw [declareNext, Step.runFrom_bind_of_ok (Step.runFrom_get p),
    Step.runFrom_bind_of_ok (Step.runFrom_report _ p), Step.runFrom_bind_of_ok hd]
  rfl

/-- Declaring types one after the other writes all their declarations. -/
lemma runFrom_foldlM_declareNext (h : ∀ id ∈ ids, (p.decl m id).Typed) :
    (ids.foldlM (t.declareNext m) done).runFrom p =
      (.ok (done.insertMany (ids.map (t.entry m p))), Pass.declareAll m p ids) := by
  induction ids generalizing p done with
  | nil => rfl
  | cons id ids ih =>
    have he : t.entry m (Pass.declare m p id) = t.entry m p := by
      funext x
      simp [entry]
    rw [List.foldlM_cons, Step.runFrom_bind_of_ok (runFrom_declareNext (h id List.mem_cons_self)), ih]
    · rw [he]
      rfl
    · simpa using fun x hx => h x (List.mem_cons_of_mem _ hx)

/-- What a round comes to in an orderly pass. -/
lemma runFrom_round (hp : p.Orderly m) (done : Dict String String) :
    ((p.undeclared m done).foldlM (t.declareNext m) done).runFrom p =
      (.ok (done.insertMany ((p.undeclared m done).map (t.entry m p))),
        Pass.declareAll m p (p.undeclared m done)) := by
  apply runFrom_foldlM_declareNext
  exact fun id h => hp.typed id (Pass.mem_candidates_of_mem_undeclared h)

/-- A round declares the undeclared types, and does no more. -/
lemma round_eq (hp : p.Orderly m)
    (h : ((p.undeclared m done).foldlM (t.declareNext m) done).runFrom p = (.ok done₁, p₁)) :
    done₁ = done.insertMany ((p.undeclared m done).map (t.entry m p)) ∧
      p₁ = Pass.declareAll m p (p.undeclared m done) := by
  rw [runFrom_round hp] at h
  cases h
  exact ⟨rfl, rfl⟩

/-- The names of which there are declarations after a round. -/
lemma mem_keys_round {name : String} :
    name ∈ (done.insertMany ((p.undeclared m done).map (t.entry m p))).keys ↔
      name ∈ done.keys ∨ ∃ id ∈ p.undeclared m done, (p.decl m id).name = name := by
  rw [Dict.mem_keys_insertMany, List.map_map, List.mem_map]
  rfl

/-- After a round, those candidates remain that remained before and were not declared. -/
lemma waiting_remaining (hp : p.Orderly m) :
    p.waiting m done (p.remaining m done) =
      p.remaining m (done.insertMany ((p.undeclared m done).map (t.entry m p))) := by
  simp only [Pass.waiting, Pass.remaining, List.filter_filter]
  apply List.filter_congr
  intro id hid
  rw [Bool.eq_iff_iff]
  simp only [Bool.and_eq_true, Bool.not_eq_true', Dict.contains_eq_false_iff, mem_keys_round, not_or,
    not_exists, not_and]
  constructor
  · rintro ⟨hpend, hname⟩
    refine ⟨hname, fun x hx e => ?_⟩
    obtain rfl := hp.eq_of_name_eq x (Pass.mem_candidates_of_mem_undeclared hx) id hid e
    rw [← Pass.pending_remaining] at hx
    simp [Pass.pending, hpend] at hx
  · rintro ⟨hname, hother⟩
    refine ⟨?_, hname⟩
    rw [← Bool.not_eq_true]
    intro hpend
    apply hother id _ rfl
    rw [← Pass.pending_remaining]
    exact List.mem_filter.2 ⟨Pass.mem_remaining_iff.2 ⟨hid, hname⟩, hpend⟩

/-- The loop ends, and declaring in rounds what remains is the loop. -/
theorem exists_declares (hp : p.Orderly m) (done : Dict String String) :
    ∃ ids done' p', t.Declares m p done ids done' p' ∧
      (t.declareRounds m (p.remaining m done) done).runFrom p = (.ok done', p') := by
  -- every round leaves fewer candidates to be declared
  induction h : (p.remaining m done).length using Nat.strongRecOn generalizing p done with
  | ind n ih =>
    rw [declareRounds, Step.runFrom_bind_of_ok (Step.runFrom_get p)]
    by_cases hu : p.pending m done (p.remaining m done) = []
    · rw [dif_pos hu]
      rw [Pass.pending_remaining] at hu
      exact ⟨[], done, p, .done hu, rfl⟩
    · have hlt := Pass.length_waiting_lt hu
      have hr := runFrom_round (t := t) hp done
      have hw : p.waiting m done (p.remaining m done) =
          p.remaining m (done.insertMany ((p.undeclared m done).map (t.entry m p))) :=
        waiting_remaining hp
      rw [dif_neg hu, Pass.pending_remaining, Step.runFrom_bind_of_ok hr, hw]
      rw [hw, h] at hlt
      rw [Pass.pending_remaining] at hu
      have hrem : (Pass.declareAll m p (p.undeclared m done)).remaining m = p.remaining m := by
        funext d
        simp [Pass.remaining]
      obtain ⟨ids, done', p', hd, he⟩ := ih _ hlt (hp.declareAll _) _ (by rw [hrem])
      rw [hrem] at he
      exact ⟨_, done', p', .round hu hr hd, he⟩

namespace Declares

/-- After the loop, there is a declaration of every name that needs one. -/
lemma undeclared_eq_nil (h : t.Declares m p done ids done' p') : p'.undeclared m done' = [] := by
  induction h with
  | done h => exact h
  | round _ _ _ ih => exact ih

/-- The loop does nothing to a pass but declare its types. -/
lemma state_eq (h : t.Declares m p done ids done' p') (hp : p.Orderly m) :
    p' = Pass.declareAll m p ids := by
  induction h with
  | done _ => rfl
  | round _ hr _ ih =>
    obtain ⟨_, rfl⟩ := round_eq hp hr
    rw [Pass.declareAll_append]
    exact ih (hp.declareAll _)

/-- What the loop declares has to be declared, and there was no declaration of its name. -/
lemma of_mem (h : t.Declares m p done ids done' p') (hp : p.Orderly m) (hid : id ∈ ids) :
    id ∈ p'.referencedTypes m ∧ (p.decl m id).name ∉ done.keys := by
  induction h with
  | done _ => cases hid
  | @round p done _ _ _ _ p' hu hr hd ih =>
    obtain ⟨rfl, rfl⟩ := round_eq hp hr
    rcases List.mem_append.1 hid with hid | hid
    -- what a round declares had to be declared before, and references never go away
    · obtain ⟨hid, hn⟩ := Pass.mem_undeclared_iff.1 hid
      rw [hd.state_eq (hp.declareAll _), ← Pass.declareAll_append]
      exact ⟨Pass.mem_referencedTypes_declareAll hid _, hn⟩
    · obtain ⟨hid, hn⟩ := ih (hp.declareAll _) hid
      rw [Pass.decl_declareAll, mem_keys_round] at hn
      exact ⟨hid, fun hk => hn (.inl hk)⟩

/-- No type is declared twice. -/
theorem nodup (h : t.Declares m p done ids done' p') (hp : p.Orderly m) : ids.Nodup := by
  induction h with
  | done _ => exact List.nodup_nil
  | @round p done _ _ _ _ p' hu hr hd ih =>
    obtain ⟨rfl, rfl⟩ := round_eq hp hr
    apply List.nodup_append.2
    refine ⟨(hp.nodup.filter _).filter _, ih (hp.declareAll _), ?_⟩
    -- a later round declares nothing of whose name there is a declaration after this one
    rintro x hx y hy rfl
    obtain ⟨_, hn⟩ := hd.of_mem (hp.declareAll _) hy
    rw [Pass.decl_declareAll, mem_keys_round] at hn
    exact hn (.inr ⟨x, hx, rfl⟩)

/-- The declarations after the loop are those from before and those of the types that were declared. -/
lemma entries_eq (h : t.Declares m p done ids done' p') (hp : p.Orderly m) :
    done'.entries = done.entries ++ ids.map (t.entry m p) := by
  induction h with
  | done _ => simp
  | @round p done _ _ ids _ p' hu hr hd ih =>
    obtain ⟨rfl, rfl⟩ := round_eq hp hr
    have hnames : ((p.undeclared m done).map (t.entry m p)).map Prod.fst =
        (p.undeclared m done).map fun id => (p.decl m id).name := by
      rw [List.map_map]
      rfl
    rw [ih (hp.declareAll _), entry_declareAll, Dict.entries_insertMany, List.map_append,
      List.append_assoc]
    · rw [hnames]
      apply ((hp.nodup.filter _).filter _).map_on
      intro a ha b hb
      exact hp.eq_of_name_eq a (Pass.mem_candidates_of_mem_undeclared ha) b
        (Pass.mem_candidates_of_mem_undeclared hb)
    · rw [hnames]
      intro name hname
      obtain ⟨id, hid, rfl⟩ := List.mem_map.1 hname
      exact (Pass.mem_undeclared_iff.1 hid).2

variable (h : t.Declares m p .empty ids done' p')

include h

/-- From nothing, there are declarations of the types that were declared and of no others. -/
lemma keys_eq (hp : p.Orderly m) : done'.keys = ids.map fun id => (p.decl m id).name := by
  rw [Dict.keys, h.entries_eq hp, List.map_append, List.map_map]
  rfl

/-- From nothing, the loop declares the types that have to be declared in the end. -/
theorem mem_iff (hp : p.Orderly m) : id ∈ ids ↔ id ∈ p'.referencedTypes m := by
  constructor
  · exact fun hid => (h.of_mem hp hid).1
  · intro hid
    have hk : (p'.decl m id).name ∈ done'.keys := by
      by_contra hk
      have hu := Pass.mem_undeclared_iff.2 ⟨hid, hk⟩
      rw [h.undeclared_eq_nil] at hu
      cases hu
    have hs := h.state_eq hp
    rw [hs, Pass.decl_declareAll, h.keys_eq hp] at hk
    obtain ⟨x, hx, e⟩ := List.mem_map.1 hk
    have hxc := (Pass.mem_referencedTypes_iff.1 (h.of_mem hp hx).1).1
    have hc := (Pass.mem_referencedTypes_iff.1 hid).1
    rw [hs, Pass.candidates_declareAll] at hxc hc
    exact hp.eq_of_name_eq x hxc id hc e ▸ hx

/-- From nothing, the names of the declarations are the names that need one. -/
theorem mem_keys_iff (hp : p.Orderly m) (name : String) :
    name ∈ done'.keys ↔ name ∈ p'.referencedTypeNames m := by
  have hd : p'.decl m = p.decl m := by rw [h.state_eq hp, Pass.decl_declareAll]
  simp only [h.keys_eq hp, Pass.referencedTypeNames, List.mem_map, hd, h.mem_iff hp]

omit h

/-- A property of types that the references have before the loop, and that properties of candidates pass on, is one
that all references have after the loop. -/
theorem least (h : t.Declares m p done ids done' p') (hp : p.Orderly m) {R : TypeId → Prop}
    (hR : ∀ x, 0 < p.counts.get (some x) → R x)
    (hstep : ∀ id ∈ p.candidates m, (p.decl m id).intrinsic = false → R id →
      ∀ x ∈ (p.decl m id).mentions, R x) :
    ∀ x, 0 < p'.counts.get (some x) → R x := by
  induction h with
  | done _ => exact hR
  | @round p done _ _ _ _ p' hu hr hd ih =>
    obtain ⟨rfl, rfl⟩ := round_eq hp hr
    apply ih (hp.declareAll _)
    -- a reference that a round adds is one that a property of a type with references passes on
    · intro x hx
      rcases Pass.counts_declareAll_pos_iff.1 hx with hx | ⟨id, hid, hx⟩
      · exact hR x hx
      · obtain ⟨hc, hn, hi⟩ := Pass.mem_referencedTypes_iff.1 (Pass.mem_undeclared_iff.1 hid).1
        exact hstep id hc hi (hR id hn) x hx
    · simpa using hstep

end Declares

/-- Rendering declarations is the loop that starts from nothing. -/
theorem exists_renderDeclarations (hp : p.Orderly m) :
    ∃ ids decls p', t.Declares m p .empty ids decls p' ∧
      (t.renderDeclarations m).runFrom p = (.ok decls, p') := by
  have hr : p.remaining m .empty = p.candidates m := List.filter_eq_self.2 fun _ _ => rfl
  rw [renderDeclarations, Step.runFrom_bind_of_ok (Step.runFrom_get p), ← hr]
  exact exists_declares hp .empty

end Target

end SdkGen
