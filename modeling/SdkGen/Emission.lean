import SdkGen.Generate
import SdkGen.Text.Balance
import SdkGen.Text.Halves
import SdkGen.Tree

/-!
# Emitting sources

The two sources of a pass are emitted under the file names of their target, the methods before the
models: into files, or into a collection of texts by name. A Python source that goes into a file is
compiled first, unless that is switched off; a compiler may accept a source, find it malformed or fail
for another reason. An emitter of files keeps a record of what it has written; a module that cannot be
written leaves that record and the texts of all files as they were, unless it has half of a character in
it, which can be stored in no file: the file is emptied by then.
-/

namespace SdkGen

/-- The base name of the methods module. -/
def methodsModule : String := "methods"

/-- The base name of the models module. -/
def modelsModule : String := "models"

/-! ## Checks and emitters -/

/-- What a check of a source comes to. -/
inductive Verdict where
  | accepted
  | malformed
  /-- The check itself fails. -/
  | fails (f : Fault)
deriving DecidableEq, Repr

/-- A check of sources. -/
abbrev Check := Text.HalvedText → Verdict

/-- An emitter of files. -/
structure Emitter where
  /-- The target, which names the files. -/
  target : Target
  /-- The check that a source has to pass. -/
  check : Check
  /-- Whether characters in its sources may stand for halves of characters. -/
  halves : Bool := false

/-- The emitter for a target. Python sources are compiled, unless checking is switched off. -/
def Target.emitterWith (t : Target) (compile : Check) (checking : Bool) : Emitter where
  target := t
  check :=
    match t.language with
    | .python => if checking then compile else fun _ => .accepted
    | .typescript => fun _ => .accepted

/-- A check for where there is no compiler: of a text with halves of characters there are no bytes to compile, and a
source without balance is malformed. -/
def Check.balance : Check := fun source =>
  match source.storeProblem? with
  | some problem => .fails (.raised "UnicodeEncodeError" problem)
  | none => if !source.text.toList.contains '\x00' && Text.isBalanced source.text then .accepted else .malformed

/-- The emitter for a target where there is no compiler. -/
def Target.emitter (t : Target) (checking : Bool) : Emitter := t.emitterWith .balance checking

/-! ## Steps of emitting -/

/-- What an emitter of files leaves behind. -/
structure Emission where
  tree : Tree
  /-- The names of all files that were written, in order. -/
  written : List String := []
  /-- What was reported. -/
  journal : Array Event := #[]

/-- A step of emitting. What was done before a failure stays done. -/
abbrev Emit (α : Type) := ExceptT Failure (StateM Emission) α

namespace Emit

/-- Runs a step from an emission. -/
def runFrom {α : Type} (a : Emit α) (s : Emission) : Except Failure α × Emission := a.run.run s

end Emit

namespace Emitter

/-- Whether a source passes the check. -/
def accepts (e : Emitter) (source : String) : Bool := e.check ⟨source, e.halves⟩ matches .accepted

/-- What is wrong with a text that is to be stored. -/
def storeFault? (e : Emitter) (text : String) : Option Fault :=
  (Text.HalvedText.mk text e.halves).storeProblem?.map (.raised "UnicodeEncodeError")

/-- Stores a source in a file. Where its directory cannot have that name, nothing is done; where the source cannot be
stored, an empty file is left. -/
def store (e : Emitter) (fileName source : String) (tree : Tree) : Except Fault Unit × Tree :=
  -- directories are made first, so what is wrong with their names comes before what is wrong with the source
  match e.storeFault? (Path.text (Path.ofLocation fileName).dropLast), e.storeFault? source with
  | some f, _ => (.error f, tree)
  | none, none => tree.write fileName source
  -- the file is opened before its text is encoded, so a text that cannot be encoded empties it
  | none, some f =>
    let (opened, tree) := tree.write fileName ""
    (opened.bind fun _ => .error f, tree)

/-- The failure to store a source; what is no failure of the system is not reported. -/
def storeFailure (fileName : String) (f : Fault) : Failure :=
  if f.isA "OSError" then .output fileName (some f) else .fault f

/-- Writes a module whose source has passed the check. -/
def writeModule (e : Emitter) (fileName source : String) : Emit String := do
  let s ← get
  let (stored, tree) := e.store fileName source s.tree
  match stored with
  | .error f =>
    set { s with tree }
    throw (storeFailure fileName f)
  | .ok () =>
    set { s with
      tree
      written := s.written ++ [fileName]
      journal := s.journal.push (.wrote fileName) }
    return fileName

/-- Emits one module by its base name; gives the name of its file. A check that fails is no matter of the module. -/
def emitModule (e : Emitter) (name source : String) : Emit String :=
  let fileName := e.target.fileName name
  match e.check ⟨source, e.halves⟩ with
  | .accepted => e.writeModule fileName source
  | .malformed => throw (.output fileName (some .malformedSource))
  | .fails f => throw (.fault f)

/-- Emits the sources of a pass; gives the names of their files. -/
def emit (e : Emitter) (s : Sources) : Emit (List String) := do
  let methods ← e.emitModule methodsModule s.methods
  let models ← e.emitModule modelsModule s.models
  return [methods, models]

end Emitter

namespace Target

/-- Puts one module into a collection of texts by file name. -/
def collectModule (t : Target) (name source : String) (files : Dict String String) :
    Dict String String := files.insert (t.fileName name) source

/-- Puts the sources of a pass into a collection of texts by file name. -/
def collect (t : Target) (s : Sources) (files : Dict String String) : Dict String String :=
  t.collectModule modelsModule s.models (t.collectModule methodsModule s.methods files)

end Target

/-- What generating and emitting the sources for one target comes to. -/
structure Publication where
  /-- The names of the files, or what went wrong. -/
  files : Except Failure (List String)
  /-- The files afterwards. -/
  tree : Tree
  /-- What was reported, in order. -/
  journal : Array Event

/-- Generates the sources of a model for a target and emits them into files, where Python sources are compiled;
`halves` tells whether characters in the texts of the target stand for halves of characters. Without sources, nothing is
emitted. -/
def Target.publish (t : Target) (compile : Check) (m : Model) (halves : Bool) (tree : Tree) : Publication :=
  match t.generate (some m) with
  | (.error f, journal) => { files := .error f, tree, journal }
  | (.ok s, journal) =>
    let (files, e) := { t.emitterWith compile true with halves }.emit s |>.runFrom { tree }
    { files, tree := e.tree, journal := journal ++ e.journal }

end SdkGen
