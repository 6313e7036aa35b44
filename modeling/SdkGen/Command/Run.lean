import SdkGen.Command.Steps
import SdkGen.Config.Standard
import SdkGen.Console.Layout
import SdkGen.Console.Markup

/-!
# Running the program by itself

By itself, the program runs on a host that is part of it: it reads documents, checks sources and shows
texts without any package. Half of a character cannot be shown.
-/

namespace SdkGen

namespace Terminal

/-- What is said where a terminal has no bytes for a text. -/
def encodingAdvice : String := "\n*** You may need to add PYTHONIOENCODING=utf-8 to your environment ***"

/-- A text as it is printed, where so many characters stand in front of it. -/
def encoded (before : Nat) (text : Text.HalvedText) : Except Fault String :=
  match text.storeProblemBehind? before with
  | some problem => .error (.raised "UnicodeEncodeError" (problem ++ encodingAdvice))
  | none => .ok text.text

/-- The columns before the message of an event: a time and a level, each with a blank behind it. -/
def eventIndent : Nat := 29

/-- A terminal of plain texts. -/
def standard : Terminal where
  marked t := do encoded 0 ⟨Console.shown (← Console.unmarked t.text).chars, t.halves⟩
  begins t := do discard (Console.unmarked t.text)
  remains t := do encoded Console.markIndent ⟨Console.besideMark (← Console.unmarked t.text), t.halves⟩
  event e halves := encoded 0 ⟨e.level.name ++ " " ++ Console.shownBelow eventIndent e.message.toList, halves⟩

end Terminal

/-- The host of a program that runs by itself. Documents may name what the modules hold. -/
def Host.standard (modules : Modules) : Host where
  readers := .standard (Loading.placesOf modules)
  compile := .balance
  terminal := .standard

/-- Runs the program by itself with some arguments. -/
def Command.runArguments (w : Workspace) (arguments : List String) : Outcome :=
  match Invocation.ofArguments? arguments with
  | none => { exitCode := 2, tree := w.tree }
  | some i => (Host.standard w.modules).run w i

end SdkGen
