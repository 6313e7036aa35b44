import SdkGen.Proofs.Pass.History

/-!
# Passes that agree

Which types are known to a pass and which of them have to be declared depends on what was asked of it and not on the
order, nor on how often something was asked. The order only decides which of two calls is refused when both of them
ask for one name.

Main statements: `Pass.Sound.agrees` (passes with the same derived types and references to the same types agree) and
`Pass.afterCalls_agree` (two runs of the same calls go wrong together and agree if they do not).
-/

namespace SdkGen

namespace Demand

variable {m : Model} {wraps : Bool} {p p' : Pass} {ds es : List Demand}

/-- Whether demands can be served does not depend on their order or on repetitions. -/
lemma exists_serveAll_ok_congr (hp : p.Sound m wraps) (ha : m.Apart (· ∈ p.derivedTypes))
    (hd : .missing ∉ ds) (h : ∀ d, d ∈ ds ↔ d ∈ es) :
    (∃ p', serveAll m ds p = (.ok (), p')) ↔ ∃ p', serveAll m es p = (.ok (), p') := by
  rw [exists_serveAll_ok_iff hp ha hd, exists_serveAll_ok_iff hp ha (mt (h _).2 hd)]
  simp only [Makes, h]

/-- After demands that were served, a type has references if it had some or if a demand touches it. -/
lemma counts_serveAll_pos_iff (hp : p.Sound m wraps) (h : serveAll m ds p = (.ok (), p'))
    (x : Option TypeId) :
    0 < p'.counts.get x ↔ 0 < p.counts.get x ∨ ∃ d ∈ ds, d.touches m x = true := by
  rw [counts_serveAll hp h, Nat.add_pos_iff_pos_or_pos, List.countP_pos_iff]

end Demand

namespace Pass

variable {m : Model} {wraps : Bool} {p p' : Pass} {id : TypeId}

/-- Two passes agree: they declare the same types, and the names of derived types lead both to a type from the same
source with the same properties. -/
structure Agrees (p p' : Pass) (m : Model) : Prop where
  referencedTypeNames : p.referencedTypeNames m = p'.referencedTypeNames m
  derivedNames : ∀ name, name ∈ p.derivedNames m ↔ name ∈ p'.derivedNames m
  lookup : ∀ name ∈ p.derivedNames m, ∃ id,
    p.lookup m name = some id ∧ p'.lookup m name = some id ∧
      (p.decl m id).properties = (p'.decl m id).properties

section SameDerived

variable (hp : p.Sound m wraps) (hp' : p'.Sound m wraps)
  (hd : ∀ x, x ∈ p.derivedTypes ↔ x ∈ p'.derivedTypes)

include hp hp' hd

/-- Sound passes with the same derived types know the same declarations. -/
lemma Sound.decl_congr : p.decl m = p'.decl m := by
  funext id
  by_cases h : id ∈ p.derivedTypes
  · rw [hp.decl_of_mem h, hp'.decl_of_mem ((hd id).1 h)]
  · rw [decl_of_notMem_derivedTypes h, decl_of_notMem_derivedTypes (mt (hd id).2 h)]

/-- Sound passes with the same derived types have the same candidates, those with one name in any order. -/
lemma Sound.candidates_perm : (p.candidates m).Perm (p'.candidates m) := by
  have h : p.derivedTypes.Perm p'.derivedTypes :=
    (List.perm_ext_iff_of_nodup p.nodup_derivedTypes p'.nodup_derivedTypes).2 hd
  simp only [candidates, sortByName, hp.bound, hp'.bound, if_true]
  exact (List.mergeSort_perm _ _).trans ((h.append_left _).trans (List.mergeSort_perm _ _).symm)

/-- Sound passes with the same derived types and with references to the same types declare the same types. -/
lemma Sound.referencedTypeNames_congr
    (hc : ∀ x, 0 < p.counts.get (some x) ↔ 0 < p'.counts.get (some x)) :
    p.referencedTypeNames m = p'.referencedTypeNames m := by
  have hdecl := hp.decl_congr hp' hd
  have hsorted (q : Pass) : (q.referencedTypeNames m).Pairwise (· ≤ ·) := by
    rw [referencedTypeNames, List.pairwise_map]
    exact (q.pairwise_le_candidates m).filter _
  apply List.Perm.eq_of_pairwise (fun _ _ _ _ => String.le_antisymm) (hsorted p) (hsorted p')
  simp only [referencedTypeNames, referencedTypes, hdecl, hc]
  exact ((hp.candidates_perm hp' hd).filter _).map _

/-- Sound passes with the same derived types, whose names are apart, and with references to the same types agree. -/
theorem Sound.agrees (ha : m.Apart (· ∈ p.derivedTypes))
    (hc : ∀ x, 0 < p.counts.get (some x) ↔ 0 < p'.counts.get (some x)) : p.Agrees p' m where
  referencedTypeNames := hp.referencedTypeNames_congr hp' hd hc
  derivedNames name := by
    simp only [derivedNames, List.mem_map, hp.decl_congr hp' hd, hd]
  lookup name hn := by
    obtain ⟨id, hid, rfl⟩ := List.mem_map.1 hn
    rw [hp.decl_of_mem hid]
    refine ⟨id, lookup_of_mem_derivedTypes hp ha hid, ?_, by rw [hp.decl_congr hp' hd]⟩
    exact lookup_of_mem_derivedTypes hp' (ha.mono fun x => (hd x).2) ((hd id).1 hid)

end SameDerived

variable {calls calls' : List Call}

/-- Of two runs of the same calls over a model, in any order and with any repetitions, either both have a call that is
refused because a name is taken, or none has, and then both end with passes that agree. -/
theorem afterCalls_agree (m : Model) (wraps : Bool) (h : ∀ c, c ∈ calls ↔ c ∈ calls') :
    ((∃ e ∈ ({ needsRequestTypes := wraps } : Pass).history m calls, e.Conflicts) ↔
      ∃ e ∈ ({ needsRequestTypes := wraps } : Pass).history m calls', e.Conflicts) ∧
    ((∀ e ∈ ({ needsRequestTypes := wraps } : Pass).history m calls, ¬e.Conflicts) →
      (({ needsRequestTypes := wraps } : Pass).afterCalls m calls).Agrees
        (({ needsRequestTypes := wraps } : Pass).afterCalls m calls') m) := by
  have hp := Sound.fresh m wraps
  have hds (d : Demand) :
      d ∈ calls.flatMap (Call.demands wraps) ↔ d ∈ calls'.flatMap (Call.demands wraps) := by
    simp only [List.mem_flatMap, h]
  have hmissing : .missing ∉ calls.flatMap (Call.demands wraps) := by
    simp [List.mem_flatMap, Call.missing_notMem_demands]
  have hserved := Demand.exists_serveAll_ok_congr hp (apart_fresh m wraps) hmissing hds
  rcases hp.history calls with ⟨hn, hr⟩ | ⟨hx, hr⟩ <;>
    rcases hp.history calls' with ⟨hn', hr'⟩ | ⟨hx', hr'⟩
  · have hnot {l : List Exchange} (hl : ∀ e ∈ l, ¬e.Conflicts) : ¬∃ e ∈ l, e.Conflicts := by
      rintro ⟨e, he, hx⟩
      exact hl e he hx
    refine ⟨iff_of_false (hnot hn) (hnot hn'), fun _ => ?_⟩
    -- what is derived and what is referenced depends on which demands there are
    apply (hp.afterCalls calls).agrees (hp.afterCalls calls')
    · intro x
      rw [Demand.mem_derivedTypes_serveAll hp hr, Demand.mem_derivedTypes_serveAll hp hr',
        Demand.Makes, Demand.Makes, hds]
    · exact (sound_apart_afterCalls hp (apart_fresh m wraps) calls).2
    · intro x
      simp only [Demand.counts_serveAll_pos_iff hp hr, Demand.counts_serveAll_pos_iff hp hr', hds]
  · obtain ⟨p', hs⟩ := hserved.1 ⟨_, hr⟩
    exact absurd hs (hr' p')
  · obtain ⟨p', hs⟩ := hserved.2 ⟨_, hr'⟩
    exact absurd hs (hr p')
  · refine ⟨iff_of_true hx hx', fun hn => ?_⟩
    obtain ⟨e, he, hx⟩ := hx
    exact absurd hx (hn e he)

/-- Over the sample, asking for both request types goes wrong in either order, and a run that asks for one of them and
for a variant agrees with another one that goes the other way and asks twice. -/
theorem afterCalls_agree_sample :
    (∀ c, c ∈ [Call.requestTypeFor ⟨0⟩, .requestTypeFor ⟨1⟩] ↔
      c ∈ [Call.requestTypeFor ⟨1⟩, .requestTypeFor ⟨0⟩]) ∧
    (∃ e ∈ ({ needsRequestTypes := true } : Pass).history .sample
      [.requestTypeFor ⟨1⟩, .requestTypeFor ⟨0⟩], e.Conflicts) ∧
    (∀ c, c ∈ [Call.requestTypeFor ⟨0⟩, .writeableTypeFor (some (.named (.declared 1)))] ↔
      c ∈ [Call.writeableTypeFor (some (.named (.declared 1))), .requestTypeFor ⟨0⟩, .requestTypeFor ⟨0⟩]) ∧
    (({ needsRequestTypes := true } : Pass).afterCalls .sample
        [.requestTypeFor ⟨0⟩, .writeableTypeFor (some (.named (.declared 1)))]).Agrees
      (({ needsRequestTypes := true } : Pass).afterCalls .sample
        [.writeableTypeFor (some (.named (.declared 1))), .requestTypeFor ⟨0⟩, .requestTypeFor ⟨0⟩])
      .sample := by
  have hswap (c : Call) : c ∈ [Call.requestTypeFor ⟨0⟩, .requestTypeFor ⟨1⟩] ↔
      c ∈ [Call.requestTypeFor ⟨1⟩, .requestTypeFor ⟨0⟩] := by
    simp only [List.mem_cons, List.not_mem_nil, or_false]
    exact or_comm
  have htwice (c : Call) :
      c ∈ [Call.requestTypeFor ⟨0⟩, .writeableTypeFor (some (.named (.declared 1)))] ↔
        c ∈ [Call.writeableTypeFor (some (.named (.declared 1))), .requestTypeFor ⟨0⟩,
          .requestTypeFor ⟨0⟩] := by
    simp only [List.mem_cons, List.not_mem_nil, or_false, or_self]
    exact or_comm
  refine ⟨hswap, (afterCalls_agree .sample true hswap).1.1 ?_, htwice,
    (afterCalls_agree .sample true htwice).2 ?_⟩
  · have hout : (({ needsRequestTypes := true } : Pass).afterCall .sample (.requestTypeFor ⟨0⟩)).outcome .sample
        (.requestTypeFor ⟨1⟩) = .error (.nameConflict "RequestAddUser" "addUser") := rfl
    exact ⟨_, List.mem_cons_of_mem _ List.mem_cons_self, _, _, hout⟩
  · have hrun : ({ needsRequestTypes := true } : Pass).history .sample
        [.requestTypeFor ⟨0⟩, .writeableTypeFor (some (.named (.declared 1)))] =
          [⟨.requestTypeFor ⟨0⟩, .ok (.name (some "RequestAddUser"))⟩,
            ⟨.writeableTypeFor (some (.named (.declared 1))),
              .ok (.type (some (.named (.writeable (.declared 1)))))⟩] := rfl
    simp [hrun, Exchange.Conflicts]

end Pass

end SdkGen
