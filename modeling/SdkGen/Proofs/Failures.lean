import Mathlib.Tactic.Basic

/-!
# Computations that fail

A computation that works on a state leaves the state that its last part has left, also where that part fails.

Main statement: `runState_bind`.
-/

namespace SdkGen

variable {ε σ α β : Type}

/-- The second of two computations goes on where the first one ends, unless the first one fails. -/
theorem runState_bind (a : ExceptT ε (StateM σ) α) (k : α → ExceptT ε (StateM σ) β) (s : σ) :
    (a >>= k).run.run s = match a.run.run s with
      | (.ok x, s') => (k x).run.run s'
      | (.error f, s') => (.error f, s') := by
  show (match a s with | (r, s') => ExceptT.bindCont k r s') = _
  show _ = match a s with
    | (.ok x, s') => (k x).run.run s'
    | (.error f, s') => (.error f, s')
  rcases a s with ⟨_ | _, _⟩ <;> rfl

end SdkGen
