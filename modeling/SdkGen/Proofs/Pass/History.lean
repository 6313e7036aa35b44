import SdkGen.Proofs.Pass.Calls

/-!
# What calls give

`Pass.outcome` is what one call gives and `Pass.history` what each call of a run gave. From a sound pass a call either
gives what the rules of the model make of it, `Call.due`, or is refused for a name that is taken and leaves the pass as
it is.

Main statements: `Pass.Sound.outcome` (the two ways in which a call ends) and `Pass.Sound.history` (a run in which
nothing is refused serves the demands of all its calls).
-/

namespace SdkGen

/-- What a call gives. -/
inductive Answer where
  /-- A type: the one that was referenced or a writeable variant, if there is one. -/
  | type (r : Option TypeRef)
  /-- The name of a request type, if there is one. -/
  | name (n : Option String)
deriving DecidableEq

namespace Call

/-- What a call does, with what it gives. -/
def answer (m : Model) : Call → Step Answer
  | .reference r => (fun _ => .type r) <$> Step.reference r
  | .requestTypeFor method => .name <$> Step.requestTypeFor m method
  | .writeableTypeFor r => .type <$> Step.writeableTypeFor m r

/-- What a call that is not refused gives, by the rules of the model. -/
def due (m : Model) (wraps : Bool) : Call → Answer
  | .reference r => .type r
  | .requestTypeFor method =>
    .name (if wraps then (m.made? (.request method)).map (·.name) else none)
  | .writeableTypeFor r => .type (m.variant? r)

variable {m : Model} {wraps : Bool} {p p' : Pass} {c : Call} {f : Failure}

/-- Every call serves its demands and gives what is due. -/
lemma gives_answer (c : Call) :
    (c.answer m).Gives m wraps (c.demands wraps) fun a => a = c.due m wraps := by
  cases c with
  | reference r => exact Step.Gives.map _ (Step.serves_reference r) fun _ _ => rfl
  | requestTypeFor method =>
    exact (Step.gives_requestTypeFor method).map Answer.name fun _ h => congrArg Answer.name h
  | writeableTypeFor r =>
    exact (Step.gives_writeableTypeFor r).map Answer.type fun _ h => congrArg Answer.type h

/-- A call demands one thing at most. -/
lemma demands_cases (wraps : Bool) (c : Call) : c.demands wraps = [] ∨ ∃ d, c.demands wraps = [d] := by
  cases c with
  | reference r => exact .inr ⟨_, rfl⟩
  | requestTypeFor method => cases wraps <;> simp [demands, Demand.ofRequest]
  | writeableTypeFor r =>
    rcases r with _ | _ | _
    · exact .inl rfl
    · exact .inr ⟨_, rfl⟩
    · exact .inl rfl

/-- A call asks for nothing that is missing. -/
lemma missing_notMem_demands (wraps : Bool) (c : Call) : .missing ∉ c.demands wraps := by
  cases c with
  | reference r => simp [demands]
  | requestTypeFor method => cases wraps <;> simp [demands, Demand.ofRequest]
  | writeableTypeFor r => rcases r with _ | _ | _ <;> simp [demands, Demand.ofVariant]

/-- Where the demands of a call fail, the pass stays as it is. -/
lemma serveAll_error (h : Demand.serveAll m (c.demands wraps) p = (.error f, p')) : p' = p := by
  rcases c.demands_cases wraps with e | ⟨d, e⟩
  · rw [e] at h
    cases h
  · rw [e] at h
    simp only [Demand.serveAll] at h
    split at h
    · cases h
    · next hd =>
      cases h
      exact Demand.serve_error hd

end Call

/-- A call with what it gave. -/
structure Exchange where
  /-- The call. -/
  call : Call
  /-- What it gave. -/
  outcome : Except Failure Answer

/-- A call was refused because a name was taken. -/
def Exchange.Conflicts (e : Exchange) : Prop := ∃ name source, e.outcome = .error (.nameConflict name source)

namespace Pass

variable {m : Model} {wraps : Bool} {p p' : Pass} {c : Call} {calls : List Call} {f : Failure}

/-- What a call gives. -/
def outcome (m : Model) (p : Pass) (c : Call) : Except Failure Answer := ((c.answer m).runFrom p).1

/-- The calls of a run, each with what it gave. -/
def history (m : Model) (p : Pass) : List Call → List Exchange
  | [] => []
  | c :: calls => ⟨c, p.outcome m c⟩ :: (p.afterCall m c).history m calls

/-- What a call gives makes no difference to the pass after it. -/
lemma afterCall_eq (m : Model) (p : Pass) (c : Call) : p.afterCall m c = ((c.answer m).runFrom p).2 := by
  cases c <;> simp [afterCall, Call.step, Call.answer]

/-- The first call of a run comes before the others. -/
lemma afterCalls_cons (m : Model) (p : Pass) (c : Call) (calls : List Call) :
    p.afterCalls m (c :: calls) = (p.afterCall m c).afterCalls m calls := rfl

/-- A call whose demands are served gives what is due. -/
lemma Sound.outcome_of_ok (hp : p.Sound m wraps)
    (h : Demand.serveAll m (c.demands wraps) p = (.ok (), p')) :
    p.outcome m c = .ok (c.due m wraps) ∧ p.afterCall m c = p' := by
  have hc := c.gives_answer p hp
  rw [h] at hc
  obtain ⟨a, ha, rfl⟩ := hc
  rw [afterCall_eq, outcome, ha]
  exact ⟨rfl, rfl⟩

/-- A call whose demands fail is refused and leaves the pass as it is. -/
lemma Sound.outcome_of_error (hp : p.Sound m wraps)
    (h : Demand.serveAll m (c.demands wraps) p = (.error f, p')) :
    p.outcome m c = .error f ∧ p.afterCall m c = p := by
  have hc := c.gives_answer p hp
  rw [h] at hc
  rw [afterCall_eq, outcome, hc]
  exact ⟨rfl, Call.serveAll_error h⟩

/-- A call gives what is due, or it is refused for a type that it asks for, whose name is taken. -/
theorem Sound.outcome (hp : p.Sound m wraps) (c : Call) :
    p.outcome m c = .ok (c.due m wraps) ∨
      ∃ id, Demand.Makes m (c.demands wraps) id ∧
        p.outcome m c = .error (.nameConflict (m.declOf id).name (m.sourceName id)) := by
  rcases h : Demand.serveAll m (c.demands wraps) p with ⟨f | u, p'⟩
  · obtain ⟨id, hid, rfl⟩ := Demand.serveAll_error_eq h (c.missing_notMem_demands wraps)
    exact .inr ⟨id, hid, (hp.outcome_of_error h).1⟩
  · exact .inl (hp.outcome_of_ok h).1

/-- A sound pass stays sound after a call. -/
lemma Sound.afterCall (hp : p.Sound m wraps) (c : Call) : (p.afterCall m c).Sound m wraps := by
  rw [Pass.afterCall, (c.serves_step m wraps).state_eq hp]
  exact hp.serveAll _

/-- A sound pass stays sound after a run of calls. -/
lemma Sound.afterCalls (hp : p.Sound m wraps) (calls : List Call) :
    (p.afterCalls m calls).Sound m wraps := by
  induction calls generalizing p with
  | nil => exact hp
  | cons c calls ih => exact ih (hp.afterCall c)

/-- A call that is not refused derives what it asks for and can be made, and nothing else is ever derived. -/
lemma Sound.mem_derivedTypes_afterCall (hp : p.Sound m wraps) (c : Call) (x : TypeId) :
    x ∈ (p.afterCall m c).derivedTypes ↔
      x ∈ p.derivedTypes ∨
        p.outcome m c = .ok (c.due m wraps) ∧ Demand.Makes m (c.demands wraps) x := by
  rcases h : Demand.serveAll m (c.demands wraps) p with ⟨f | u, p'⟩
  · obtain ⟨ho, hs⟩ := hp.outcome_of_error h
    simp [ho, hs]
  · obtain ⟨ho, rfl⟩ := hp.outcome_of_ok h
    rw [Demand.mem_derivedTypes_serveAll hp h]
    simp [ho]

/-- A derived type stays derived. -/
lemma Sound.mem_derivedTypes_afterCalls (hp : p.Sound m wraps) (calls : List Call) {x : TypeId}
    (h : x ∈ p.derivedTypes) : x ∈ (p.afterCalls m calls).derivedTypes := by
  induction calls generalizing p with
  | nil => exact h
  | cons c calls ih => exact ih (hp.afterCall c) ((hp.mem_derivedTypes_afterCall c x).2 (.inl h))

/-- Either nothing is refused in a run, and the demands of all its calls are served, or something is refused, and
they are not. -/
theorem Sound.history (hp : p.Sound m wraps) (calls : List Call) :
    (∀ e ∈ p.history m calls, ¬e.Conflicts) ∧
        Demand.serveAll m (calls.flatMap (Call.demands wraps)) p = (.ok (), p.afterCalls m calls) ∨
      (∃ e ∈ p.history m calls, e.Conflicts) ∧
        ∀ p', Demand.serveAll m (calls.flatMap (Call.demands wraps)) p ≠ (.ok (), p') := by
  induction calls generalizing p with
  | nil => exact .inl ⟨fun _ he => absurd he List.not_mem_nil, rfl⟩
  | cons c calls ih =>
    rw [List.flatMap_cons, Demand.serveAll_append, afterCalls_cons]
    rcases h : Demand.serveAll m (c.demands wraps) p with ⟨f | u, p'⟩
    · obtain ⟨id, _, rfl⟩ := Demand.serveAll_error_eq h (c.missing_notMem_demands wraps)
      exact .inr ⟨⟨_, List.mem_cons_self, _, _, (hp.outcome_of_error h).1⟩, nofun⟩
    · obtain ⟨ho, hs⟩ := hp.outcome_of_ok h
      have hc : ¬(⟨c, p.outcome m c⟩ : Exchange).Conflicts := by
        rintro ⟨_, _, e⟩
        rw [ho] at e
        cases e
      rcases ih (hp.afterCall c) with ⟨hn, hr⟩ | ⟨⟨e, he, hx⟩, hr⟩
      · refine .inl ⟨fun e he => ?_, hs ▸ hr⟩
        rcases List.mem_cons.1 he with rfl | he
        · exact hc
        · exact hn e he
      · exact .inr ⟨⟨e, List.mem_cons_of_mem _ he, hx⟩, hs ▸ hr⟩

end Pass

end SdkGen
