import SdkGen.Console.Literal.Format
import SdkGen.Failure
import SdkGen.Text.Blank

/-!
# Literals in tags

A tag may have parameters: a literal, or the name of something with a list of literals in brackets. They
are looked at when the tag is closed.
-/

namespace SdkGen.Console

namespace Literal

/-- The kind of an expression that cannot be an item of a set or a key, if it is one. -/
def Shape.unhashable? : Shape → Option String
  | .set _ | .emptySet => some "set"
  | .dict _ => some "dict"
  | .tuple items => items.attach.findSome? fun s => s.1.unhashable?
  | _ => none
termination_by s => sizeOf s
decreasing_by
  have := List.sizeOf_lt_of_mem s.2
  simp
  omega

/-- What is wrong with an expression that is no literal. -/
def noLiteral : Problem := "malformed node or string on line 1"

/-- An item of a set or a key is not one of those that cannot be compared. -/
def hashable (s : Shape) : Except Problem Unit :=
  match s.unhashable? with
  | some kind => .error ("unhashable type: '" ++ kind ++ "'")
  | none => .ok ()

/-- Checks that an expression is a literal. -/
def check : Nat → Shape → Except Problem Unit
  | 0, _ => .error noLiteral
  | depth + 1, s =>
    match s with
    | .number _ _ | .constant _ | .emptySet => .ok ()
    | .tuple items => items.forM (check depth)
    | .set items => items.forM fun s => do
      check depth s
      hashable s
    | .dict entries => entries.forM fun e => do
      match e.1 with
      | none => throw "malformed node or string: None"
      | some key =>
        check depth key
        check depth e.2
        hashable key
    | .name _ | .other _ => .error noLiteral

end Literal

/-- The parameters in the brackets behind a name; nothing if there is neither a name nor brackets. -/
def behindName? (cs : List Char) : Option (List Char) :=
  match cs.dropWhile fun c => Text.isWordChar c || c = '.' with
  | [] => some ['(', ')']
  | '(' :: rest =>
    if rest.getLast? = some ')' && '\n' ∉ rest then some ('(' :: rest) else none
  | _ => none

/-- Checks the parameters of a tag. -/
def checkParameters (given : String) : Except Fault Unit :=
  let cs := Text.trim given.toList
  let cs := (behindName? cs).getD cs
  match Literal.ofText (cs.dropWhile fun c => c = ' ' || c = '\t') with
  | .error problem => .error (.badParameters (some (String.ofList cs)) given problem)
  | .ok s => (Literal.check (cs.length + 1) s).mapError (.badParameters none given)

end SdkGen.Console
