import SdkGen.Proofs.Pass.Names

/-!
# Runs of calls

Whoever holds a pass may call it in any order and go on after a call that failed. `Pass.afterCalls` is the state that
a run of calls leads to.

Main statement: `namesUnique_afterCalls`. After any run of calls over a model, the names of derived types are apart,
so every name leads to the type that has it, and the names of the types that have to be declared ascend strictly.
-/

namespace SdkGen

/-- A call of a pass. -/
inductive Call where
  /-- A type is referenced. -/
  | reference (r : Option TypeRef)
  /-- The request type of a method is asked for. -/
  | requestTypeFor (method : MethodId)
  /-- The writeable variant of a type is asked for. -/
  | writeableTypeFor (r : Option TypeRef)
deriving DecidableEq

namespace Call

/-- What a call does. -/
def step (m : Model) : Call → Step Unit
  | .reference r => Step.reference r
  | .requestTypeFor method => (fun _ => ()) <$> Step.requestTypeFor m method
  | .writeableTypeFor r => (fun _ => ()) <$> Step.writeableTypeFor m r

/-- What a call demands. -/
def demands (wraps : Bool) : Call → List Demand
  | .reference r => [.reference (r.map TypeRef.root)]
  | .requestTypeFor method => Demand.ofRequest wraps method
  | .writeableTypeFor r => Demand.ofVariant r

/-- Every call serves its demands. -/
lemma serves_step (m : Model) (wraps : Bool) (c : Call) :
    (c.step m).Serves m wraps (c.demands wraps) := by
  cases c with
  | reference r => exact Step.serves_reference r
  | requestTypeFor method => exact (Step.gives_requestTypeFor method).serves.map _
  | writeableTypeFor r => exact (Step.gives_writeableTypeFor r).serves.map _

end Call

namespace Pass

variable {m : Model} {wraps : Bool} {p : Pass}

/-- The state after a call, which may fail. -/
def afterCall (m : Model) (p : Pass) (c : Call) : Pass := ((c.step m).runFrom p).2

/-- The state after a run of calls, which goes on after those that fail. -/
def afterCalls (m : Model) (p : Pass) (calls : List Call) : Pass := calls.foldl (afterCall m) p

/-- A run of calls keeps a pass sound and its types apart. -/
lemma sound_apart_afterCalls (hp : p.Sound m wraps) (ha : m.Apart (· ∈ p.derivedTypes))
    (calls : List Call) :
    (p.afterCalls m calls).Sound m wraps ∧ m.Apart (· ∈ (p.afterCalls m calls).derivedTypes) := by
  induction calls generalizing p with
  | nil => exact ⟨hp, ha⟩
  | cons c calls ih =>
    obtain ⟨hs, hd⟩ := (c.serves_step m wraps).keepsApart p hp ha
    exact ih hs hd

/-- No two types that a pass knows have one name, and names lead to the types that have them. -/
structure NamesUnique (p : Pass) (m : Model) : Prop where
  derived_nodup : (p.derivedNames m).Nodup
  derived_free : ∀ name ∈ p.derivedNames m, name ∉ m.types.keys
  lookup_self : ∀ id, id ∈ m.types.values ∨ id ∈ p.derivedTypes →
    p.lookup m (p.decl m id).name = some id
  lookup_other : ∀ name,
    (∀ id, id ∈ m.types.values ∨ id ∈ p.derivedTypes → (p.decl m id).name ≠ name) →
    p.lookup m name = none
  ascending : (p.referencedTypeNames m).Pairwise (· < ·)

/-- Names are unique in a sound pass whose derived types are apart. -/
lemma Sound.namesUnique (hp : p.Sound m wraps) (ha : m.Apart (· ∈ p.derivedTypes)) (hm : m.Keyed) :
    p.NamesUnique m where
  derived_nodup := by
    apply p.nodup_derivedTypes.map_on
    intro a h b h' e
    rw [hp.decl_of_mem h, hp.decl_of_mem h'] at e
    exact ha.distinct a b h h' e
  derived_free name h := by
    obtain ⟨id, hid, rfl⟩ := List.mem_map.1 h
    rw [hp.decl_of_mem hid]
    exact ha.free id hid
  lookup_self id h := by
    apply (lookup_eq_some_iff hm hp ha).2
    exact ⟨h, by rw [hp.decl_of_isCandidate hm h]⟩
  lookup_other name h := by
    apply Option.eq_none_iff_forall_ne_some.2
    intro id hid
    obtain ⟨hc, e⟩ := (lookup_eq_some_iff hm hp ha).1 hid
    rw [← hp.decl_of_isCandidate hm hc] at e
    exact h id hc e
  ascending := pairwise_lt_referencedTypeNames hm hp ha

/-- After any run of calls over a model, whichever of them failed, names are unique. -/
theorem namesUnique_afterCalls (hm : m.Built) (wraps : Bool) (calls : List Call) :
    (({ needsRequestTypes := wraps } : Pass).afterCalls m calls).NamesUnique m := by
  obtain ⟨hp, ha⟩ := sound_apart_afterCalls (.fresh m wraps) (apart_fresh m wraps) calls
  exact hp.namesUnique ha hm.keyed

/-- A run that goes on after its second call, which asks for a request type whose name is taken. -/
theorem namesUnique_afterCalls_sample :
    Model.sample.Built ∧
    (({ needsRequestTypes := true } : Pass).afterCalls .sample
      [.requestTypeFor ⟨0⟩, .requestTypeFor ⟨1⟩, .writeableTypeFor (some (.named (.declared 1)))]).NamesUnique
      .sample :=
  ⟨Model.built_sample, namesUnique_afterCalls Model.built_sample true _⟩

end Pass

end SdkGen
