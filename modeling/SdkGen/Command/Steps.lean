import SdkGen.Command.Host
import SdkGen.Command.Invocation
import SdkGen.Command.Workspace

/-!
# Running the program

An invocation works on a workspace. It prints lines, may change files,
and ends with an exit code: zero when all went well, one after a failure, two when the arguments mean
nothing. The targets of a configuration are published one after the other; the first that fails ends the
run, and what was written before stays. So does a text that cannot be printed.
-/

namespace SdkGen

/-- What an invocation comes to. -/
structure Outcome where
  exitCode : Int
  /-- The texts that were printed, each on lines of its own. -/
  printed : List String := []
  /-- The files afterwards. -/
  tree : Tree
  /-- A fault that is none of the failures that the program reports. -/
  escaped : Option Fault := none

def programVersion : String := "0.1.0"

namespace Command

/-- What changes while an invocation runs. -/
structure Progress where
  tree : Tree
  /-- The texts that were printed. -/
  printed : List String := []
  /-- Whether characters of what is printed may stand for halves of characters. -/
  halves : Bool := false

/-- A step of an invocation. -/
abbrev Run (α : Type) := ExceptT Failure (StateM Progress) α

/-- Goes on with a result. -/
def check {α : Type} : Except Failure α → Run α
  | .ok a => return a
  | .error f => throw f

/-- Prints a text, unless a fault has come up in its place. -/
def print : Except Fault String → Run Unit
  | .ok text => modify fun s => { s with printed := s.printed ++ [text] }
  | .error f => throw (.fault f)

/-- What is said of a target while its sources are made. -/
def startLine (t : Target) : String :=
  "[progress.description]Generating " ++ t.language.name ++ " code in " ++ t.codePath ++ t.package ++ "..."

/-- What is said of a target once its sources are written. -/
def endLine (t : Target) : String :=
  "[progress.description]Code generation completed for " ++ t.language.name ++ "!"

/-- What is said in front of the names of files. -/
def filesLine : String := "[dim]Generated files:[/dim]"

/-- What is said of a failure. -/
def failureLine (f : Failure) : String := "[red]Error:[/red] " ++ f.message

/-- The exit code of an interrupted program. -/
def interrupted : Int := 130

/-- How a run ends with a fault after some texts were printed. -/
def outcomeOf (s : Progress) (f : Fault) : Outcome :=
  match f with
  | .ended (some status) _ => { exitCode := status, printed := s.printed, tree := s.tree }
  | .ended none text => { exitCode := 1, printed := s.printed ++ [text], tree := s.tree }
  | f =>
    if f.isA "KeyboardInterrupt" then { exitCode := interrupted, printed := s.printed, tree := s.tree }
    else { exitCode := 1, printed := s.printed, tree := s.tree, escaped := some f }

end Command

namespace Host

open Command

/-- Prints a marked text. -/
def printMarked (h : Host) (text : String) : Run Unit := do
  print (h.terminal.marked ⟨text, (← get).halves⟩)

/-- Publishes a model for one target of a configuration. What is said of the target meanwhile is shown
before the work begins, and what is left of it is printed when the work is over. -/
def publish (h : Host) (m : Model) (verbose : Bool) (c : TargetConfig) : Run Unit := do
  let t ← check c.target
  let s ← get
  check ((h.terminal.begins ⟨startLine t, s.halves⟩).mapError .fault)
  let p := t.publish h.compile m c.halves s.tree
  -- what was written stays, even if none of what follows can be printed
  set { s with tree := p.tree }
  if verbose then p.journal.toList.forM fun e => print (h.terminal.event e s.halves)
  match p.files with
  | .error f =>
    print (h.terminal.remains ⟨startLine t, s.halves⟩)
    throw f
  | .ok files =>
    print (h.terminal.remains ⟨endLine t, s.halves⟩)
    h.printMarked filesLine
    files.forM fun name => h.printMarked ("  - " ++ name)

/-- Publishes the model of a configuration for all its targets. -/
def generate (h : Host) (w : Workspace) (o : GenerateOptions) : Run Unit := do
  let configuration ← check (h.readers.get w.tree w.environment w.cwd o.config)
  modify fun s => { s with halves := configuration.halves }
  let m ← check (Loading.load w.modules configuration.model)
  configuration.targets.forM (h.publish m o.verbose)

def steps (h : Host) (w : Workspace) : Invocation → Run Unit
  | .generate o => h.generate w o
  | .languages => Language.all.forM fun l => h.printMarked l.name
  | .version => h.printMarked ("polysdk version: " ++ programVersion)

/-- The steps of an invocation with the report of a failure at their end; tells whether there was
one. -/
def reported (h : Host) (w : Workspace) (i : Invocation) : Run Bool := do
  try
    h.steps w i
    return true
  catch f =>
    match f with
    | .fault _ => throw f
    | f =>
      h.printMarked (failureLine f)
      return false

def run (h : Host) (w : Workspace) (i : Invocation) : Outcome :=
  let (result, s) := (h.reported w i).run.run { tree := w.tree }
  let outcome : Outcome := { exitCode := 0, printed := s.printed, tree := s.tree }
  match result with
  | .ok true => outcome
  | .ok false => { outcome with exitCode := 1 }
  | .error (.fault f) => outcomeOf s f
  | .error _ => { outcome with exitCode := 1 }

end Host

end SdkGen
