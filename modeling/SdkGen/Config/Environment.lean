import SdkGen.Config.ArgumentSupply
import SdkGen.Config.VariableFile
import SdkGen.Text.Encoding
import SdkGen.Tree

/-!
# Configurations and the environment

The fields of a configuration may be missing in its document where something else supplies them: the
arguments that the document lists, the environment, the files of variables and the directories of
secrets that it names. The arguments win over the document, and the document over all others, in this
order.

The names of the fields and of the variables may be written in any case, unless an option says
otherwise. A list in a variable is written in JSON; one that cannot be read is a mistake even where it is
not needed.
-/

namespace SdkGen

namespace Config

/-- The name that is taken by the configuration itself. -/
def ownerName : String := "__pydantic_self__"

namespace Variables

/-- The text of the variable of a field. -/
def text? (vs : Variables) (o : Options) (field : String) : Option Text.HalvedText :=
  (vs.get? (o.key field)).join

/-- Whether a name is that of a part of the targets. -/
def isPart (o : Options) (name : Text.HalvedText) : Bool :=
  o.partMark != "" && name.text.startsWith ((o.key "targets").text ++ o.partMark)

/-- The parts of the targets that variables give. -/
def parts (vs : Variables) (o : Options) : Except Fault (List Text.HalvedText) :=
  match vs.keys.filter (isPart o) with
  | [] => .ok []
  | names => o.partFault.elim (.ok names) .error

/-- The model that variables give. -/
def model (vs : Variables) (o : Options) : Option Value :=
  (vs.text? o "model").map fun t => if o.nullWord = some t.text then .null else .ofHalved t

/-- The targets that variables give. Parts alone make no list, and neither do parts beside a mapping. -/
def targets (vs : Variables) (o : Options) (supply : String) : Except Trouble (Option Value) := do
  match vs.text? o "targets" with
  | none => return if (← (vs.parts o).mapError .fault).isEmpty then none else some (.map [])
  | some t =>
    if o.nullWord = some t.text then return some .null
    let found ← (targetsOf supply t).mapError .mistake
    -- beside a mapping, parts are read and then left out; reading them may still fail
    if let some (.map _) := found then discard ((vs.parts o).mapError .fault)
    return found

/-- The variables with some text that are none of a field, and none of a part of the targets either. Names
that are those of fields by themselves are passed over. -/
def further (vs : Variables) (o : Options) : List (Text.HalvedText × Value) :=
  let fields : List Text.HalvedText := [{ text := "model" }, { text := "targets" }]
  vs.entries.filterMap fun e =>
    match e.2 with
    | none => none
    | some t =>
      if t.text = "" || e.1 ∈ fields ++ [o.key "model", o.key "targets"] || isPart o e.1 then none
      else some (e.1, .ofHalved t)

end Variables

/-- What the environment supplies. -/
def environmentSupply (o : Options) (env : Environment) : Except Trouble Supply := do
  let vs := o.collect (env.map fun e => ({ text := e.1 }, some { text := e.2 }))
  return { model := vs.model o, targets := ← vs.targets o "EnvSettingsSource" }

/-! ## Files of variables -/

/-- The encoding of the files of variables that a document names. -/
def encodingOf (v : Value) : Except Trouble Text.Encoding :=
  match v.field "_env_file_encoding" with
  | .null => .ok .utf8
  | .text name =>
    if '\x00' ∈ name.toList then .error (.mistake (.outside "embedded null character"))
    else
      match Text.Encoding.ofName? name with
      | some e => .ok e
      | none =>
        .error (.fault
          (if Text.Encoding.isTransform name then .notTextEncoding name else .unknownEncoding name))
  | .halved name =>
    .error (.mistake (.outside ((Text.HalvedText.mk name true).storeProblem?.getD "")))
  | w => .error (.fault (.encodingNotText w.kindName))

/-- What is wrong where bytes cannot be decoded. -/
def unread : Text.Undecodable → Trouble
  | .lost => .fault .lostInEncoding
  | u => .mistake (.outside u.message)

/-- The variables in the file that a path leads to. Where it leads to none, one is looked for above the working
directory; nothing is known of what is there. -/
def assignmentsAt (t : Tree) (env : Environment) (v : Value) (path : Text.HalvedText) :
    Except Trouble (List Assigned) := do
  let found ← withoutHome? env path
  match found.map fun p => t.look (Path.ofText p) with
  | some (.ok (.file text)) =>
    let read ← ((← encodingOf v).reread text).mapError unread
    return (VariableFile.assignments env (Text.unifiedLines read.text)).map fun a =>
      (read.part a.1, a.2.map read.part)
  | some (.error .tooLong) => throw (.fault (.nameTooLong (Path.ofText path.text).text))
  | _ =>
    checkFileDepth v
    return []

/-- The variables in the files that a document names. -/
def fileVariables (t : Tree) (env : Environment) (o : Options) (v : Value) :
    Except Trouble Variables := do
  let found ← (paths (v.field "_env_file")).mapM fun path => do
    assignmentsAt t env v (← path.mapError .fault)
  return found.foldl (fun vs assignments =>
    vs.insertMany (o.collect (Dict.ofList assignments).entries).entries) .empty

/-- What files of variables supply. What begins their names is compared at last. -/
def fileSupply (o : Options) (vs : Variables) : Except Trouble Supply := do
  let targets ← vs.targets o "DotEnvSettingsSource"
  match o.frontFault with
  | some fault => throw (.fault fault)
  | none => return { model := vs.model o, targets, further := vs.further o }

/-! ## Directories of secrets -/

/-- What a path leads to, and where it is, if it leads anywhere. -/
def entryAt (t : Tree) (path : String) : Except Fault (Option (Path × Entry)) :=
  match t.look (Path.ofText path) with
  | .ok entry => .ok ((t.place (Path.ofText path)).toOption.map (·, entry))
  | .error .tooLong => .error (.nameTooLong (Path.ofText path).text)
  | .error _ => .ok none

/-- The directories that a document names for secrets, as far as they are there. All that is there has to be
a directory. -/
def secretDirectories (t : Tree) (env : Environment) (v : Value) : Except Trouble (List Path) := do
  let places ← (paths (v.field "_secrets_dir")).mapM fun path => do
    withoutHome? env (← path.mapError .fault)
  let found ← ((places.filterMap id).mapM (entryAt t)).mapError .fault
  (found.filterMap id).mapM fun e =>
    match e.2 with
    | .directory => .ok e.1
    | .file _ => .error (.mistake (.outside "secrets_dir must reference a directory, not a file"))

/-- The secret of a field in a directory: the text of the file with the name of its variable. -/
def secretIn? (o : Options) (t : Tree) (directory : Path) (field : String) : Option String :=
  let within := t.entries.entries.filter fun e =>
    e.1.dropLast = directory && (e.1.getLast?.map o.name) = some (o.key field).text
  match within.head? with
  | some (_, .file text) => some (Text.stripped (Text.unifiedLines text))
  | _ => none

/-- What the directories of secrets supply that a document names; the last one counts. -/
def secretSupply (t : Tree) (env : Environment) (o : Options) (v : Value) : Except Trouble Supply := do
  let directories := (← secretDirectories t env v).reverse
  let secret? := fun field => directories.findSome? fun d => secretIn? o t d field
  return {
    model := (secret? "model").map .text
    targets := ← match secret? "targets" with
      | none => pure none
      | some text => (targetsOf "SecretsSettingsSource" { text }).mapError .mistake }

/-! ## All together -/

/-- The value of a field that a document gives under its name in any case; the first such name counts. -/
def givenField? (v : Value) (name : String) : Option Value :=
  (v.fields.find? fun f => Text.toLower f.1 = name).bind fun f => v.field? f.1

/-- What a document itself supplies: beside the fields of a configuration, all that is no option. -/
def documentSupply (v : Value) : Supply where
  model := givenField? v "model"
  targets := givenField? v "targets"
  further := match v with
    | .map entries =>
      (entries.filterMap fun e => e.1.halvedText?.map (·, e.2)).filter fun f =>
        f.1.text ∉ Options.names && Text.toLower f.1.text ∉ ["model", "targets"]
    | _ => []

/-- The document that supplies make, where earlier ones win. -/
def merged (supplies : List Supply) : Value :=
  let fields := fun (name : String) (found : Option Value) =>
    (found.map fun w => (Value.text name, w)).toList
  .map (fields "model" (supplies.findSome? (·.model)) ++ fields "targets" (supplies.findSome? (·.targets)) ++
    supplies.reverse.flatMap fun s => s.further.map fun f => (.ofHalved f.1, f.2))

/-- The document that a pair gives in place of all supplies. What its first part lists would have to be
run, which cannot be done with a value. -/
def ofPair (pair : Value) : Except Trouble Value :=
  match pair.elements? with
  | none => .error (.fault (.notAPair pair.kindName))
  | some [sources, _] =>
    if !sources.isTruthy then .ok (.map [])
    else
      match sources.elements? with
      | none => .error (.fault (.noItems sources.kindName))
      | some items => .error (.fault (.notRunnable ((items.headD .null).kindName)))
  | some items =>
    .error (.mistake (.outside
      (if 2 < items.length then "too many values to unpack (expected 2)"
      else "not enough values to unpack (expected 2, got " ++ toString items.length ++ ")")))

/-- The document and all that it refers to, taken together. -/
def gatherAll (t : Tree) (env : Environment) (v : Value) : Except Trouble Value := do
  (Options.checkDepth v).mapError .fault
  let front ← (Options.front? v).mapError .fault
  let v := Options.settled v
  let o := Options.ofValue v (front.getD { text := "" })
  let vs ← fileVariables t env o v
  let arguments ← argumentSupply v
  -- only now, names of variables are put together; files and arguments were read before
  if front.isNone then throw (.mistake (.unreachableModel "EnvSettingsSource"))
  let environment ← environmentSupply o env
  let files ← fileSupply o vs
  let secrets ← secretSupply t env o v
  return merged [arguments, documentSupply v, environment, files, secrets]

/-- The document and all that it refers to, unless an option gives something in their place. -/
def gather (t : Tree) (env : Environment) (v : Value) : Except Trouble Value :=
  match v.field "_build_sources" with
  | .null => gatherAll t env v
  | pair => ofPair pair

/-- The configuration that a document describes, together with what it refers to among some files and in
the environment. -/
def settings (t : Tree) (env : Environment) (v : Value) : Except Trouble Configuration :=
  match v with
  | .map entries => do
    if entries.any fun e => e.1.halvedText?.isNone then throw (.fault .keyNotText)
    if (v.field? ownerName).isSome then throw (.fault (.givenTwice "BaseSettings" ownerName))
    (configuration (← gather t env v)).mapError .mistake
  | _ => .error (.mistake (.notA "dictionary or instance of GeneratorConfig" []))

end Config

end SdkGen
