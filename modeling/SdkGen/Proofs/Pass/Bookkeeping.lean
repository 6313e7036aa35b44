import SdkGen.Proofs.Pass.History

/-!
# The books of a pass

The counts of a pass, the types that it derives and the events that it reports follow from what its calls gave.
`Pass.Books` says how.

Main statement: `Pass.books_afterCalls`. After any run of calls, also of calls that are refused, the books are in order:
a type was referenced as often as calls were given it, a call that is made again gives the same again, a type is made
once, counts never fall, and asking a pass about itself changes nothing.
-/

namespace SdkGen

/-- A call was answered with nothing. -/
def Answer.IsNothing (a : Answer) : Prop := a = .type none ∨ a = .name none

namespace Exchange

/-- A type was referenced, itself or by an array of it. -/
def references (r : Option TypeRef) (e : Exchange) : Bool :=
  match e with
  | ⟨.reference x, .ok _⟩ => x.map (fun t => .named t.root) = r
  | _ => false

/-- A call gave the name of a request type, which leads to the type. -/
def givesRequest (m : Model) (p : Pass) (r : Option TypeRef) (e : Exchange) : Bool :=
  match e with
  | ⟨.requestTypeFor _, .ok (.name (some name))⟩ => (p.lookup m name).any fun id => some (.named id) = r
  | _ => false

/-- A call gave a writeable variant. -/
def givesVariant (r : Option TypeRef) (e : Exchange) : Bool :=
  match e with
  | ⟨.writeableTypeFor _, .ok (.type (some v))⟩ => some v = r
  | _ => false

/-- A call counted as a reference to a type. -/
def adds (r : Option TypeRef) (e : Exchange) : Bool :=
  match e with
  | ⟨.reference x, .ok _⟩ => x.map (fun t => .named t.root) = r
  | ⟨.requestTypeFor method, .ok (.name (some _))⟩ => some (.named (.request method)) = r
  | ⟨.writeableTypeFor _, .ok (.type (some v))⟩ => some v = r
  | _ => false

variable {m : Model} {wraps : Bool} {p : Pass}

/-- A call that is refused does not count. -/
@[simp] lemma adds_error (r : Option TypeRef) (c : Call) (f : Failure) :
    (⟨c, .error f⟩ : Exchange).adds r = false := by
  cases c <;> rfl

/-- What a call demands is what it counts for when it gives what is due. -/
lemma countP_touches_demands (c : Call) (x : Option TypeId) :
    (c.demands wraps).countP (·.touches m x) =
      if (⟨c, .ok (c.due m wraps)⟩ : Exchange).adds (x.map .named) then 1 else 0 := by
  cases c with
  | reference r =>
    have h : r.map (fun t => TypeRef.named t.root) = x.map .named ↔ r.map TypeRef.root = x := by
      rw [← Option.map_inj_right (f := TypeRef.named) fun _ _ h => by cases h; rfl, Option.map_map]
      rfl
    simp [Call.demands, Demand.touches, adds, List.countP_cons, h]
  | requestTypeFor method =>
    have h : some (.named (.request method)) = x.map TypeRef.named ↔ x = some (.request method) := by
      cases x <;> simp [eq_comm]
    cases wraps with
    | false => rfl
    | true =>
      cases hm : m.made? (.request method) with
      | none => simp [Call.demands, Demand.ofRequest, Demand.touches, adds, Call.due, hm]
      | some t =>
        simp [Call.demands, Demand.ofRequest, Demand.touches, adds, Call.due, hm, List.countP_cons, h]
  | writeableTypeFor r =>
    rcases r with _ | id | _
    · rfl
    · have h : some (.named (.writeable id)) = x.map TypeRef.named ↔ x = some (.writeable id) := by
        cases x <;> simp [eq_comm]
      cases hm : m.made? (.writeable id) with
      | none => simp [Call.demands, Demand.ofVariant, Demand.touches, adds, Call.due, Model.variant?, hm]
      | some t =>
        simp [Call.demands, Demand.ofVariant, Demand.touches, adds, Call.due, Model.variant?, hm, List.countP_cons,
          h]
    · rfl

/-- No call counts for an array. -/
lemma adds_due_array (c : Call) (element : TypeRef) (description : String) :
    (⟨c, .ok (c.due m wraps)⟩ : Exchange).adds (some (.array element description)) = false := by
  cases c with
  | reference r => cases r <;> simp [adds]
  | requestTypeFor method =>
    simp only [adds, Call.due]
    split <;> simp_all
  | writeableTypeFor r =>
    match r with
    | none => rfl
    | some (.array _ _) => rfl
    | some (.named id) =>
      simp only [adds, Call.due, Model.variant?]
      cases m.made? (.writeable id) <;> simp

end Exchange

namespace Pass

variable {m : Model} {wraps : Bool} {p : Pass}

/-- A call counts as what it gave. -/
lemma Sound.refCount_afterCall (hp : p.Sound m wraps) (c : Call) (r : Option TypeRef) :
    (p.afterCall m c).refCount r =
      p.refCount r + if (⟨c, p.outcome m c⟩ : Exchange).adds r then 1 else 0 := by
  rcases h : Demand.serveAll m (c.demands wraps) p with ⟨f | u, p'⟩
  · obtain ⟨ho, hs⟩ := hp.outcome_of_error h
    simp [ho, hs]
  · obtain ⟨ho, rfl⟩ := hp.outcome_of_ok h
    have hc (x : Option TypeId) : (p.afterCall m c).counts.get x =
        p.counts.get x + if (⟨c, .ok (c.due m wraps)⟩ : Exchange).adds (x.map .named) then 1 else 0 := by
      rw [← Exchange.countP_touches_demands]
      exact Demand.counts_serveAll hp h x
    rw [ho]
    match r with
    | none => exact hc none
    | some (.named id) => exact hc (some id)
    | some (.array e d) => simp [refCount, Exchange.adds_due_array]

/-- The calls of a run count as what they gave. -/
lemma Sound.refCount_afterCalls (hp : p.Sound m wraps) (calls : List Call) (r : Option TypeRef) :
    (p.afterCalls m calls).refCount r = p.refCount r + (p.history m calls).countP (·.adds r) := by
  induction calls generalizing p with
  | nil => rfl
  | cons c calls ih =>
    rw [afterCalls_cons, ih (hp.afterCall c), hp.refCount_afterCall, Pass.history, List.countP_cons]
    omega

/-- A call of a run gave what is due, and then the types that it asks for and that can be made are derived, or it was
refused for one of these. -/
lemma Sound.of_mem_history (hp : p.Sound m wraps) {calls : List Call} {e : Exchange}
    (he : e ∈ p.history m calls) :
    (e.outcome = .ok (e.call.due m wraps) ∧
        ∀ x, Demand.Makes m (e.call.demands wraps) x → x ∈ (p.afterCalls m calls).derivedTypes) ∨
      ∃ f x, e.outcome = .error f ∧ Demand.Makes m (e.call.demands wraps) x := by
  induction calls generalizing p with
  | nil => cases he
  | cons c calls ih =>
    rcases List.mem_cons.1 he with rfl | he
    · rcases hp.outcome c with ho | ⟨x, hx, ho⟩
      · refine .inl ⟨ho, fun x hx => ?_⟩
        apply (hp.afterCall c).mem_derivedTypes_afterCalls
        exact (hp.mem_derivedTypes_afterCall c x).2 (.inr ⟨ho, hx⟩)
      · exact .inr ⟨_, x, ho, hx⟩
    · exact ih (hp.afterCall c) he

/-- A call that was answered gave what is due. -/
lemma Sound.eq_due (hp : p.Sound m wraps) {calls : List Call} {c : Call} {a : Answer}
    (he : ⟨c, .ok a⟩ ∈ p.history m calls) :
    a = c.due m wraps ∧
      ∀ x, Demand.Makes m (c.demands wraps) x → x ∈ (p.afterCalls m calls).derivedTypes := by
  rcases hp.of_mem_history he with ⟨e, hd⟩ | ⟨_, _, ⟨⟩, _⟩
  exact ⟨Except.ok.inj e, hd⟩

/-- The events of a pass report each type that it derived, once. -/
def ReportsMade (m : Model) (p : Pass) : Prop :=
  p.journal.toList.Perm (p.derivedTypes.map m.creation)

/-- A pass that has just begun has nothing to report. -/
lemma reportsMade_fresh (m : Model) (wraps : Bool) : ({ needsRequestTypes := wraps } : Pass).ReportsMade m :=
  List.Perm.nil

/-- A type that is derived for the first time is reported. -/
lemma ReportsMade.serve (h : p.ReportsMade m) (hp : p.Sound m wraps) (d : Demand) :
    (d.serve m p).2.ReportsMade m := by
  rcases hs : d.serve m p with ⟨f | u, p'⟩
  · exact Demand.serve_error hs ▸ h
  · have hd := Demand.mem_derivedTypes_serve hp hs
    cases d with
    | reference _ =>
      cases hs
      exact h
    | missing => cases hs
    | derive id =>
      have hj := Demand.journal_serve_derive hp hs
      by_cases hn : id ∉ p.derivedTypes ∧ (m.made? id).isSome
      · have hperm : p'.derivedTypes.Perm (id :: p.derivedTypes) := by
          apply (List.perm_ext_iff_of_nodup p'.nodup_derivedTypes
            (List.nodup_cons.2 ⟨hn.1, p.nodup_derivedTypes⟩)).2
          intro x
          rw [hd, List.mem_cons, or_comm, Demand.derive.injEq]
          apply or_congr_left
          exact ⟨fun e => e.1.symm, fun e => ⟨e.symm, e ▸ hn.2⟩⟩
        have hpush : (p.journal.push (m.creation id)).toList.Perm (m.creation id :: p.journal.toList) := by
          rw [Array.toList_push]
          exact List.perm_append_singleton _ _
        show p'.journal.toList.Perm _
        rw [hj, if_pos hn]
        exact hpush.trans ((h.cons _).trans (hperm.map m.creation).symm)
      · have hperm : p'.derivedTypes.Perm p.derivedTypes := by
          apply (List.perm_ext_iff_of_nodup p'.nodup_derivedTypes p.nodup_derivedTypes).2
          intro x
          rw [hd, or_iff_left_iff_imp, Demand.derive.injEq]
          rintro ⟨rfl, hm⟩
          by_contra hx
          exact hn ⟨hx, hm⟩
        show p'.journal.toList.Perm _
        rw [hj, if_neg hn]
        exact h.trans (hperm.map m.creation).symm

/-- A run of calls reports the types that it derives. -/
lemma ReportsMade.afterCalls (h : p.ReportsMade m) (hp : p.Sound m wraps) (calls : List Call) :
    (p.afterCalls m calls).ReportsMade m := by
  induction calls generalizing p with
  | nil => exact h
  | cons c calls ih =>
    refine ih ?_ (hp.afterCall c)
    rw [afterCall, (c.serves_step m wraps).state_eq hp]
    exact (keeps_serveAll (I := fun p => p.Sound m wraps ∧ p.ReportsMade m)
      (fun d _ _ h => ⟨h.1.serve d, h.2.serve h.1 d⟩) ⟨hp, h⟩).2

end Pass

/-- A call that is due nothing asks for nothing that can be made. -/
lemma Call.not_makes_of_isNothing {m : Model} {wraps : Bool} {c : Call} (h : (c.due m wraps).IsNothing)
    (x : TypeId) : ¬Demand.Makes m (c.demands wraps) x := by
  rintro ⟨hx, hs⟩
  cases c with
  | reference r => simp [demands] at hx
  | requestTypeFor method =>
    cases wraps with
    | false => cases hx
    | true =>
      obtain rfl : x = .request method := by simpa [demands, Demand.ofRequest] using hx
      rcases h with h | h
      · cases h
      · simp_all [due]
  | writeableTypeFor r =>
    rcases r with _ | id | _
    · cases hx
    · obtain rfl : x = .writeable id := by simpa [demands, Demand.ofVariant] using hx
      rcases h with h | h
      · simp_all [due, Model.variant?]
      · cases h
    · cases hx

/-- What a pass can be asked about itself. -/
inductive Query where
  /-- How often a type was referenced. -/
  | refCount (r : Option TypeRef)
  /-- The type of a name. -/
  | lookup (name : String)
  /-- The types that have to be declared. -/
  | referencedTypes
  /-- Whether a type of this name has to be declared. -/
  | declares (name : String)

namespace Query

/-- What an answer to a question is. -/
def Reply : Query → Type
  | refCount _ => Nat
  | lookup _ => Option TypeId
  | referencedTypes => List TypeId
  | declares _ => Bool

/-- The answer to a question. -/
def reply (m : Model) (p : Pass) : (q : Query) → q.Reply
  | refCount r => p.refCount r
  | lookup name => p.lookup m name
  | referencedTypes => p.referencedTypes m
  | declares name => decide (name ∈ p.referencedTypeNames m)

/-- Asks a pass about itself. -/
def ask (m : Model) (q : Query) : Step q.Reply := (fun p => q.reply m p) <$> get

end Query

namespace Pass

/-- The books of a pass are in order after a run of calls: they follow from what the calls gave. -/
structure Books (m : Model) (p : Pass) (h : List Exchange) : Prop where
  refCount_eq : ∀ r, p.refCount r =
    h.countP (·.references r) + h.countP (·.givesRequest m p r) + h.countP (·.givesVariant r)
  request_made : ∀ k name, ⟨.requestTypeFor k, .ok (.name (some name))⟩ ∈ h →
    ∃ t, (m.method k).requestType? = some t ∧ t.name = name ∧
      p.lookup m name = some (.request k) ∧ p.decl m (.request k) = t
  variant_made : ∀ r v, ⟨.writeableTypeFor r, .ok (.type (some v))⟩ ∈ h →
    ∃ id t, r = some (.named id) ∧ (m.declOf id).writeable? = some t ∧
      v = .named (.writeable id) ∧ p.lookup m t.name = some (.writeable id) ∧
      (p.decl m (.writeable id)).name = t.name ∧ (p.decl m (.writeable id)).properties = t.properties
  answers_due : ∀ c a, ⟨c, .ok a⟩ ∈ h → a = c.due m p.needsRequestTypes
  answers_eq : ∀ c a a', ⟨c, .ok a⟩ ∈ h → ⟨c, .ok a'⟩ ∈ h → a' = a
  declined : ∀ c a o, ⟨c, .ok a⟩ ∈ h → a.IsNothing → ⟨c, o⟩ ∈ h → o = .ok a
  made_once : p.journal.toList.Perm (p.derivedTypes.map m.creation)
  refCount_le : ∀ more r, p.refCount r ≤ (p.afterCalls m more).refCount r
  ask_eq : ∀ q : Query, (q.ask m).runFrom p = (.ok (q.reply m p), p)

variable {m : Model} {wraps : Bool} {p : Pass} {calls : List Call}

/-- The name of a request type that a call gave leads to the request type of the method. -/
lemma Sound.request_made (hp : p.Sound m wraps) (ha : m.Apart (· ∈ p.derivedTypes)) {k : MethodId} {name : String}
    (he : ⟨.requestTypeFor k, .ok (.name (some name))⟩ ∈ p.history m calls) :
    ∃ t, (m.method k).requestType? = some t ∧ t.name = name ∧
      (p.afterCalls m calls).lookup m name = some (.request k) ∧
      (p.afterCalls m calls).decl m (.request k) = t := by
  obtain ⟨e, hd⟩ := hp.eq_due he
  obtain ⟨hs, ha⟩ := sound_apart_afterCalls hp ha calls
  cases wraps with
  | false => cases e
  | true =>
    obtain ⟨t, ht, rfl⟩ := Option.map_eq_some_iff.1 (Answer.name.inj e).symm
    have hd := hd (.request k) ⟨List.mem_singleton_self _, by simp [ht]⟩
    have hk : m.declOf (.request k) = t := Model.declOf_of_made? ht
    exact ⟨t, ht, rfl, hk ▸ lookup_of_mem_derivedTypes hs ha hd, hk ▸ hs.decl_of_mem hd⟩

/-- A writeable variant that a call gave is the one of the type. -/
lemma Sound.variant_made (hp : p.Sound m wraps) (ha : m.Apart (· ∈ p.derivedTypes)) {r : Option TypeRef}
    {v : TypeRef} (he : ⟨.writeableTypeFor r, .ok (.type (some v))⟩ ∈ p.history m calls) :
    ∃ id t, r = some (.named id) ∧ (m.declOf id).writeable? = some t ∧ v = .named (.writeable id) ∧
      (p.afterCalls m calls).lookup m t.name = some (.writeable id) ∧
      ((p.afterCalls m calls).decl m (.writeable id)).name = t.name ∧
      ((p.afterCalls m calls).decl m (.writeable id)).properties = t.properties := by
  obtain ⟨e, hd⟩ := hp.eq_due he
  obtain ⟨hs, ha⟩ := sound_apart_afterCalls hp ha calls
  match r with
  | none => cases e
  | some (.array _ _) => cases e
  | some (.named id) =>
    obtain ⟨t', ht', rfl⟩ := Option.map_eq_some_iff.1 (Answer.type.inj e).symm
    have hd := hd (.writeable id) ⟨List.mem_singleton_self _, by simp [ht']⟩
    have hk : m.declOf (.writeable id) = t' := Model.declOf_of_made? ht'
    rw [m.made?_writeable id] at ht'
    obtain ⟨t, ht, rfl⟩ := Option.map_eq_some_iff.1 ht'
    have hl := lookup_of_mem_derivedTypes hs ha hd
    rw [hk] at hl
    refine ⟨id, t, rfl, ht, rfl, hl, ?_, ?_⟩
    · rw [hs.decl_of_mem hd, hk]
      rfl
    · rw [hs.decl_of_mem hd, hk]
      rfl

/-- A call that was answered with nothing is answered with nothing whenever it is made. -/
lemma Sound.declined (hp : p.Sound m wraps) {c : Call} {a : Answer} {o : Except Failure Answer}
    (he : ⟨c, .ok a⟩ ∈ p.history m calls) (ha : a.IsNothing) (ho : ⟨c, o⟩ ∈ p.history m calls) : o = .ok a := by
  obtain ⟨rfl, _⟩ := hp.eq_due he
  rcases hp.of_mem_history ho with ⟨e, _⟩ | ⟨_, x, _, hx⟩
  · exact e
  · exact absurd hx (Call.not_makes_of_isNothing ha x)

/-- A call counts in one way or in none: as a reference, for a request type or for a writeable variant. -/
lemma Sound.adds_eq (hp : p.Sound m wraps) (ha : m.Apart (· ∈ p.derivedTypes)) (r : Option TypeRef) {e : Exchange}
    (he : e ∈ p.history m calls) :
    (e.adds r).toNat =
      (e.references r).toNat + (e.givesRequest m (p.afterCalls m calls) r).toNat + (e.givesVariant r).toNat := by
  obtain ⟨c, _ | a⟩ := e
  · cases c <;> rfl
  · cases c with
    | reference _ => rfl
    | requestTypeFor k =>
      match a with
      | .type _ => rfl
      | .name none => rfl
      | .name (some name) =>
        obtain ⟨_, _, _, hl, _⟩ := hp.request_made ha he
        simp [Exchange.adds, Exchange.references, Exchange.givesRequest, Exchange.givesVariant, hl]
    | writeableTypeFor _ =>
      match a with
      | .type none => rfl
      | .name _ => rfl
      | .type (some v) => exact (Nat.zero_add _).symm

/-- A count falls together from the calls of each kind. -/
lemma Sound.refCount_eq (hp : p.Sound m wraps) (ha : m.Apart (· ∈ p.derivedTypes)) (r : Option TypeRef) :
    (p.history m calls).countP (·.adds r) =
      (p.history m calls).countP (·.references r) +
        (p.history m calls).countP (·.givesRequest m (p.afterCalls m calls) r) +
        (p.history m calls).countP (·.givesVariant r) := by
  have h := fun e (he : e ∈ p.history m calls) => hp.adds_eq ha r he
  have hn (b : Bool) : (if b = true then 1 else 0) = b.toNat := by cases b <;> rfl
  generalize p.history m calls = l at h
  induction l with
  | nil => rfl
  | cons e l ih =>
    have ih := ih fun e he => h e (List.mem_cons_of_mem _ he)
    have h := h e List.mem_cons_self
    simp only [List.countP_cons, hn] at ih ⊢
    omega

/-- In a pass that has just begun, nothing was referenced. -/
lemma refCount_fresh (wraps : Bool) (r : Option TypeRef) : ({ needsRequestTypes := wraps } : Pass).refCount r = 0 := by
  match r with
  | none => rfl
  | some (.named _) => rfl
  | some (.array _ _) => rfl

/-- After any run of calls, whichever of them were refused, the books are in order. -/
theorem books_afterCalls (m : Model) (wraps : Bool) (calls : List Call) :
    (({ needsRequestTypes := wraps } : Pass).afterCalls m calls).Books m
      (({ needsRequestTypes := wraps } : Pass).history m calls) := by
  have hp := Sound.fresh m wraps
  have ha := apart_fresh m wraps
  have hs := hp.afterCalls calls
  constructor
  case refCount_eq =>
    intro r
    rw [hp.refCount_afterCalls, hp.refCount_eq ha, refCount_fresh, Nat.zero_add]
  case request_made => exact fun _ _ => hp.request_made ha
  case variant_made => exact fun _ _ => hp.variant_made ha
  case answers_due => exact fun _ _ he => hs.needs.symm ▸ (hp.eq_due he).1
  case answers_eq => exact fun c a a' h h' => (hp.eq_due h').1.trans (hp.eq_due h).1.symm
  case declined => exact fun _ _ _ => hp.declined
  case made_once => exact (reportsMade_fresh m wraps).afterCalls hp calls
  case refCount_le =>
    intro more r
    rw [hs.refCount_afterCalls]
    exact Nat.le_add_right _ _
  case ask_eq => exact fun _ => rfl

end Pass

end SdkGen
