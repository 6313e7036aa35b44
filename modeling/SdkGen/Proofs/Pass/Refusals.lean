import SdkGen.Proofs.Pass.History

/-!
# Refused calls

`Pass.Refuses` says when a call is refused and with which failure: a derived type is asked for while no model is bound,
or one that was not derived yet would have to be made under a name that is taken.

Main statement: `Pass.refusesCleanly_afterCalls`. After any run of calls, with a model bound or without one, a call is
refused for these reasons only, a call that is refused leaves the pass as it is, and a call that is refused because a
name is taken is refused in the same way ever after.
-/

namespace SdkGen

namespace Demand

variable {m : Model} {p p' : Pass} {id : TypeId} {f : Failure}

/-- Asking for a derived type fails exactly if it was not asked for before with success, can be made, and would get a
name that is taken. -/
lemma serve_derive_error_iff :
    (derive id).serve m p = (.error f, p') ↔
      p' = p ∧ p.kept? id = none ∧
        ∃ t, m.made? id = some t ∧ p.nameTaken m t.name = true ∧
          f = .nameConflict t.name (m.sourceName id) := by
  simp only [serve]
  cases hk : p.kept? id with
  | some made => cases made <;> simp
  | none =>
    cases hm : m.made? id with
    | none => simp
    | some t =>
      by_cases hn : p.nameTaken m t.name = true
      · simp only [hn, if_true, Prod.mk.injEq, Except.error.injEq, Option.some.injEq, exists_eq_left',
          true_and]
        rw [and_comm, eq_comm, eq_comm (a := f)]
      · simp [hn]

end Demand

namespace Pass

variable {m : Model} {wraps : Bool} {p p' : Pass} {c : Call} {id : TypeId} {f : Failure}

/-- A name is that of a type of the model or of a type that was derived. -/
def Taken (p : Pass) (m : Model) (name : String) : Prop :=
  name ∈ m.types.keys ∨ name ∈ p.derivedNames m

/-- A name is found to be taken just if it is. -/
lemma nameTaken_eq_true_iff {name : String} : p.nameTaken m name = true ↔ p.Taken m name := by
  simp [nameTaken, Taken, Dict.contains_eq_true_iff]

/-- The calls that a pass refuses, each with the failure. -/
inductive Refuses (m : Model) (p : Pass) : Call → Failure → Prop where
  | unboundRequest {method} :
    p.needsRequestTypes = true →
    p.bound = false →
    Refuses m p (.requestTypeFor method) (.modelNotBound "request_type_for")
  | unboundVariant {r} :
    p.bound = false →
    Refuses m p (.writeableTypeFor (some r)) (.modelNotBound "writeable_type_for")
  | takenRequest {method t} :
    p.needsRequestTypes = true →
    p.bound = true →
    p.requests.get? method = none →
    (m.method method).requestType? = some t →
    p.Taken m t.name →
    Refuses m p (.requestTypeFor method) (.nameConflict t.name (m.method method).name)
  | takenVariant {id t} :
    p.bound = true →
    p.writeables.get? id = none →
    (m.declOf id).writeable? = some t →
    p.Taken m t.name →
    Refuses m p (.writeableTypeFor (some (.named id))) (.nameConflict t.name (m.declOf id).name)

/-- How a pass treats a call that it refuses: there is a reason, nothing is changed, and a name that is taken stays
taken. -/
structure RefusesCleanly (m : Model) (p : Pass) (c : Call) : Prop where
  refuses_iff : ∀ f, p.outcome m c = .error f ↔ p.Refuses m c f
  traceless : ∀ f, p.outcome m c = .error f → p.afterCall m c = p
  lasting : ∀ name source, p.outcome m c = .error (.nameConflict name source) →
    ∀ calls, (p.afterCalls m calls).outcome m c = .error (.nameConflict name source)

/-! ### Passes with a model -/

/-- In a sound pass, a call is refused exactly if serving its demands fails. -/
lemma Sound.outcome_eq_error_iff (hp : p.Sound m wraps) :
    p.outcome m c = .error f ↔ Demand.serveAll m (c.demands wraps) p = (.error f, p) := by
  rcases h : Demand.serveAll m (c.demands wraps) p with ⟨f' | u, p'⟩
  · obtain rfl := Call.serveAll_error h
    simp [(hp.outcome_of_error h).1]
  · simp [(hp.outcome_of_ok h).1]

/-- A single demand is all that there is to serve. -/
lemma serveAll_singleton_error_iff {d : Demand} :
    Demand.serveAll m [d] p = (.error f, p') ↔ d.serve m p = (.error f, p') := by
  simp only [Demand.serveAll]
  rcases d.serve m p with ⟨_ | _, _⟩ <;> simp

/-- In a sound pass, a call is refused for the stated reasons and no others. -/
lemma Sound.refuses_iff (hp : p.Sound m wraps) (c : Call) (f : Failure) :
    p.outcome m c = .error f ↔ p.Refuses m c f := by
  rw [hp.outcome_eq_error_iff]
  cases c with
  | reference r => exact iff_of_false nofun nofun
  | requestTypeFor method =>
    cases hw : wraps with
    | false =>
      refine iff_of_false nofun ?_
      rintro (⟨hn, _⟩ | _ | ⟨hn, _⟩)
      · exact absurd (hn.symm.trans (hp.needs.trans hw)) nofun
      · exact absurd (hn.symm.trans (hp.needs.trans hw)) nofun
    | true =>
      show Demand.serveAll m [.derive (.request method)] p = _ ↔ _
      rw [serveAll_singleton_error_iff, Demand.serve_derive_error_iff]
      constructor
      · rintro ⟨-, hk, t, ht, hn, rfl⟩
        exact .takenRequest (hp.needs.trans hw) hp.bound hk ht (nameTaken_eq_true_iff.1 hn)
      · rintro (⟨_, hb⟩ | _ | ⟨_, _, hk, ht, hn⟩)
        · exact absurd (hb.symm.trans hp.bound) nofun
        · exact ⟨rfl, hk, _, ht, nameTaken_eq_true_iff.2 hn, rfl⟩
  | writeableTypeFor r =>
    match r with
    | none => exact iff_of_false nofun nofun
    | some (.array e d) =>
      refine iff_of_false nofun ?_
      rintro (_ | hb)
      exact absurd (hb.symm.trans hp.bound) nofun
    | some (.named id) =>
      show Demand.serveAll m [.derive (.writeable id)] p = _ ↔ _
      rw [serveAll_singleton_error_iff, Demand.serve_derive_error_iff, Model.made?_writeable]
      constructor
      · rintro ⟨-, hk, t, ht, hn, rfl⟩
        obtain ⟨t', ht', rfl⟩ := Option.map_eq_some_iff.1 ht
        exact Refuses.takenVariant (t := t') hp.bound hk ht' (nameTaken_eq_true_iff.1 hn)
      · rintro (_ | hb | _ | ⟨_, hk, ht, hn⟩)
        · exact absurd (hb.symm.trans hp.bound) nofun
        · exact ⟨rfl, hk, _, Option.map_eq_some_iff.2 ⟨_, ht, rfl⟩, nameTaken_eq_true_iff.2 hn, rfl⟩

/-- A name that is taken stays taken. -/
lemma Sound.nameTaken_afterCall (hp : p.Sound m wraps) (c : Call) {name : String}
    (h : p.nameTaken m name = true) : (p.afterCall m c).nameTaken m name = true := by
  rw [hp.nameTaken_iff] at h
  rw [(hp.afterCall c).nameTaken_iff]
  rcases h with h | ⟨a, ha, e⟩
  · exact .inl h
  · exact .inr ⟨a, (hp.mem_derivedTypes_afterCall c a).2 (.inl ha), e⟩

/-- A demand that fails because a name is taken fails after every call. -/
lemma Sound.serve_derive_error_afterCall (hp : p.Sound m wraps)
    (h : (Demand.derive id).serve m p = (.error f, p)) (c : Call) :
    (Demand.derive id).serve m (p.afterCall m c) = (.error f, p.afterCall m c) := by
  obtain ⟨-, hk, t, ht, hn, rfl⟩ := Demand.serve_derive_error_iff.1 h
  have hd : id ∉ p.derivedTypes := by
    rw [mem_derivedTypes_iff]
    rintro ⟨t, hd⟩
    rw [hk] at hd
    cases hd
  -- a call could derive the type only by asking for it, and then it is refused itself
  have hd' : id ∉ (p.afterCall m c).derivedTypes := by
    rw [hp.mem_derivedTypes_afterCall]
    rintro (hd' | ⟨ho, hmem, -⟩)
    · exact hd hd'
    · have hc : c.demands wraps = [.derive id] := by
        rcases c.demands_cases wraps with e | ⟨d, e⟩
        · rw [e] at hmem
          cases hmem
        · rw [e, List.mem_singleton] at hmem
          rw [e, hmem]
      rw [hp.outcome_eq_error_iff.2 (hc ▸ serveAll_singleton_error_iff.2 h)] at ho
      cases ho
  rw [Demand.serve_derive_of_not_mem (hp.afterCall c) ht hd', if_pos (hp.nameTaken_afterCall c hn)]

/-- A call that is refused is refused after every other call. -/
lemma Sound.outcome_error_afterCall (hp : p.Sound m wraps) (h : p.outcome m c = .error f) (c' : Call) :
    (p.afterCall m c').outcome m c = .error f := by
  rw [hp.outcome_eq_error_iff] at h
  rw [(hp.afterCall c').outcome_eq_error_iff]
  rcases c.demands_cases wraps with e | ⟨d, e⟩
  · rw [e] at h
    cases h
  · rw [e, serveAll_singleton_error_iff] at h ⊢
    cases d with
    | reference _ => cases h
    | missing => exact absurd (e ▸ List.mem_singleton_self _) (c.missing_notMem_demands wraps)
    | derive id => exact hp.serve_derive_error_afterCall h c'

/-- A call that is refused is refused ever after. -/
lemma Sound.outcome_error_afterCalls (hp : p.Sound m wraps) (h : p.outcome m c = .error f)
    (calls : List Call) : (p.afterCalls m calls).outcome m c = .error f := by
  induction calls generalizing p with
  | nil => exact h
  | cons c' calls ih => exact ih (hp.afterCall c') (hp.outcome_error_afterCall h c')

/-- With a model, calls are refused cleanly. -/
lemma Sound.refusesCleanly (hp : p.Sound m wraps) (c : Call) : p.RefusesCleanly m c where
  refuses_iff := hp.refuses_iff c
  traceless _ h := (hp.outcome_of_error (hp.outcome_eq_error_iff.1 h)).2
  lasting _ _ h := hp.outcome_error_afterCalls h

/-! ### Passes without a model -/

/-- Without a model, a request type cannot be had where one is needed. -/
lemma runFrom_requestTypeFor_of_unbound (h : p.bound = false) (id : MethodId) :
    (Step.requestTypeFor m id).runFrom p =
      if p.needsRequestTypes then (.error (.modelNotBound "request_type_for"), p) else (.ok none, p) := by
  rw [Step.requestTypeFor, Step.runFrom_bind_of_ok (Step.runFrom_get p)]
  cases p.needsRequestTypes with
  | false => rfl
  | true =>
    simp only [if_true, pure_bind]
    exact Step.runFrom_bind_of_error (Step.runFrom_requireModel_of_unbound h _)

/-- Without a model, a writeable variant cannot be had of anything. -/
lemma runFrom_writeableTypeFor_of_unbound (h : p.bound = false) (r : TypeRef) :
    (Step.writeableTypeFor m (some r)).runFrom p = (.error (.modelNotBound "writeable_type_for"), p) := by
  cases r with
  | named id => exact Step.runFrom_bind_of_error (Step.runFrom_requireModel_of_unbound h _)
  | array e d => exact Step.runFrom_bind_of_error (Step.runFrom_requireModel_of_unbound h _)

/-- Without a model, a call is refused for want of it, or it gives something. -/
lemma outcome_of_unbound (h : p.bound = false) (c : Call) :
    p.outcome m c =
      match c with
      | .reference r => .ok (.type r)
      | .requestTypeFor _ =>
        if p.needsRequestTypes then .error (.modelNotBound "request_type_for") else .ok (.name none)
      | .writeableTypeFor none => .ok (.type none)
      | .writeableTypeFor (some _) => .error (.modelNotBound "writeable_type_for") := by
  cases c with
  | reference r => rfl
  | requestTypeFor id =>
    simp only [outcome, Call.answer, Step.runFrom_map, runFrom_requestTypeFor_of_unbound h]
    split <;> rfl
  | writeableTypeFor r =>
    cases r with
    | none => rfl
    | some r =>
      simp only [outcome, Call.answer, Step.runFrom_map, runFrom_writeableTypeFor_of_unbound h]
      rfl

/-- Without a model, a call does no more to a pass than to count a reference. -/
lemma afterCall_of_unbound (h : p.bound = false) (c : Call) :
    p.afterCall m c = match c with
      | .reference r => p.count (r.map TypeRef.root)
      | _ => p := by
  cases c with
  | reference r => rfl
  | requestTypeFor id =>
    simp only [afterCall, Call.step, Step.runFrom_map, runFrom_requestTypeFor_of_unbound h]
    split <;> rfl
  | writeableTypeFor r =>
    cases r with
    | none => rfl
    | some r => simp only [afterCall, Call.step, Step.runFrom_map, runFrom_writeableTypeFor_of_unbound h]

/-- No call binds a model. -/
lemma bound_afterCalls (h : p.bound = false) (calls : List Call) : (p.afterCalls m calls).bound = false := by
  induction calls generalizing p with
  | nil => exact h
  | cons c calls ih =>
    apply ih
    rw [afterCall_of_unbound h]
    split
    · exact h
    · exact h

/-- Without a model, a call is refused for want of it and for no other reason. -/
lemma refuses_iff_of_unbound (h : p.bound = false) (c : Call) (f : Failure) :
    p.outcome m c = .error f ↔ p.Refuses m c f := by
  have hb : p.bound ≠ true := by simp [h]
  rw [outcome_of_unbound h]
  cases c with
  | reference r => exact iff_of_false nofun nofun
  | requestTypeFor id =>
    cases hn : p.needsRequestTypes with
    | false =>
      refine iff_of_false nofun ?_
      rintro (⟨hn', _⟩ | _ | ⟨hn', _⟩)
      · exact absurd (hn.symm.trans hn') nofun
      · exact absurd (hn.symm.trans hn') nofun
    | true =>
      constructor
      · rintro ⟨⟩
        exact .unboundRequest hn h
      · rintro (_ | _ | ⟨_, hb', _⟩)
        · rfl
        · exact absurd hb' hb
  | writeableTypeFor r =>
    cases r with
    | none => exact iff_of_false nofun nofun
    | some r =>
      constructor
      · rintro ⟨⟩
        exact .unboundVariant h
      · rintro (_ | _ | _ | ⟨hb', _⟩)
        · rfl
        · exact absurd hb' hb

/-- Without a model, calls are refused cleanly: those that need one are refused, and the others do not fail. -/
lemma refusesCleanly_of_unbound (h : p.bound = false) (c : Call) : p.RefusesCleanly m c where
  refuses_iff := refuses_iff_of_unbound h c
  traceless f hf := by
    rw [outcome_of_unbound h] at hf
    rw [afterCall_of_unbound h]
    cases c with
    | reference r => cases hf
    | requestTypeFor id => rfl
    | writeableTypeFor r => rfl
  lasting name source hf := by
    rw [outcome_of_unbound h] at hf
    split at hf
    · cases hf
    · split at hf <;> cases hf
    · cases hf
    · cases hf

/-- After any run of calls, with a model bound or without one, calls are refused cleanly: for the stated reasons and no
others, without a trace, and, if a name is taken, ever after. -/
theorem refusesCleanly_afterCalls (m : Model) (bound wraps : Bool) (calls : List Call) (c : Call) :
    (({ bound, needsRequestTypes := wraps } : Pass).afterCalls m calls).RefusesCleanly m c := by
  cases bound with
  | true => exact ((Sound.fresh m wraps).afterCalls calls).refusesCleanly c
  | false => exact refusesCleanly_of_unbound (bound_afterCalls rfl calls) c

end Pass

end SdkGen
