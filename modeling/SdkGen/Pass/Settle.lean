import SdkGen.Model.Rename
import SdkGen.Pass.Basic

/-!
# After a pass

A type that a pass derives lives as long as the pass. The model may mention it all the same, and then the
type has to outlive the pass: it becomes a declared type, to which no name leads. A later pass that derives
a type from the same source derives another one.
-/

namespace SdkGen.Pass

/-- The identity that a type has after a pass. -/
def settledId (p : Pass) (m : Model) (id : TypeId) : TypeId :=
  match p.derivedTypes.idxOf? id with
  | some place => .declared (m.decls.size + place)
  | none => id

/-- A model in which what a pass derived is declared. -/
def settled (p : Pass) (m : Model) : Model :=
  let derived := p.derivedTypes.map (p.decl m)
  { m with decls := m.decls ++ derived.toArray }.rename (p.settledId m)

end SdkGen.Pass
