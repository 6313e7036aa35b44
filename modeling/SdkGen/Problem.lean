import SdkGen.Failure

/-!
# Problems of documents

A document is read into a value or has a problem: it is not well formed, or a part of it has a form
that nothing corresponds to, such as the thirtieth of February.
-/

namespace SdkGen

/-- What is wrong with a document. -/
inductive Problem where
  /-- It is no document of the format. -/
  | malformed
  /-- A part of it stands for nothing. -/
  | fault (f : Fault)
deriving DecidableEq, Repr

/-- A part of a document that is malformed when nothing is there. -/
def Problem.need {α : Type} : Option α → Except Problem α
  | some a => .ok a
  | none => .error .malformed

end SdkGen
