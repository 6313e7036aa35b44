import SdkGen.Config.FlagOptions
import SdkGen.Config.ItemList
import SdkGen.Config.Supply

/-!
# What arguments supply

The arguments that a document lists give the model and the targets. All of them have to be of use, unless the
document says otherwise; then a wrong one ends the program, or is a mistake.
-/

namespace SdkGen.Config

/-- The trouble with arguments: the program ends, unless an option says otherwise. -/
def flagTrouble (v : Value) : FlagProblem → Trouble
  | .help => .fault (.ended (some 0) "0")
  | .wrong text =>
    let w := v.field "_cli_exit_on_error"
    if w.isTruthy || w matches .null then .fault (.ended (some 2) "2")
    else .mistake (.outside ("error parsing CLI: " ++ text))

/-- Arguments with blanks between. -/
def joinedArguments (arguments : List Value) : Except Fault String := do
  let texts ← arguments.zipIdx.mapM fun a =>
    match a.1 with
    | .text s => .ok s
    | w => .error (.itemNotText a.2 w.kindName)
  return String.intercalate " " texts

/-- Reads the arguments that a document lists. All of them have to be of use, and if an option says so, none
of the fields may be missing. -/
def readArguments (v : Value) (fs : Flags) (arguments : List Value) : Except Trouble Given := do
  let wrong := fun (text : String) => throw (flagTrouble v (.wrong text))
  let given ← (fs.read arguments).mapError (flagTrouble v)
  let missing := (if given.model.isNone then [FlagUse.model] else []) ++
    (if given.targets.isEmpty then [.targets] else [])
  let missing := missing.filter fun use => fs.uses.any (·.2 = use)
  if (v.field "_cli_enforce_required").isTruthy && !missing.isEmpty then
    wrong ("the following arguments are required: " ++
      String.intercalate ", " (missing.map fs.spellings))
  if !given.strays.isEmpty && !(v.field "_cli_ignore_unknown_args").isTruthy then
    wrong ("unrecognized arguments: " ++ (← (joinedArguments given.strays).mapError .fault))
  return given

/-- What arguments supply. A list that is given for the model counts as its text. -/
def givenSupply (v : Value) (fs : Flags) (given : Given) : Except Mistake Supply := do
  let nullWord := flagNullWord v
  let listText := fun (field : String) (items : List Value) =>
    (listOf nullWord items).mapError fun problem =>
      .outside ("Parsing error encountered for " ++ fs.front ++ field ++ ": " ++ problem)
  let orNull := fun (text : String) (read : Except Mistake (Option Value)) =>
    if nullWord = some text then .ok (some .null) else read
  let model ← match given.model with
    | some (.list items) => pure (some (.text (← listText "model" items)))
    | model => pure model
  return {
    model := ← match model with
      | some (.text s) => orNull s (.ok (some (.text s)))
      | some .null | none => pure none
      | some w => pure (some w)
    targets := ← match given.targets with
      | [] => pure none
      | items => do
        let text ← listText "targets" items
        orNull text (targetsOf "CliSettingsSource"
          { text, halves := text.toList.any Text.standsForHalf }) }

/-- The arguments that a value lists, if it lists some. The program itself has none. -/
def listedArguments? (v : Value) : Except Mistake (Option (List Value)) :=
  match v with
  | .null => .ok none
  | .bool true => .ok (some [])
  | .sequence .list items | .sequence .tuple items => .ok (some items)
  | .bool _ | .int 0 => .ok none
  | v =>
    if (v matches .float _ | .complex _ _) && !v.isTruthy then .ok none
    else
      .error (.outside ("cli_parse_args must be a list or tuple of strings, received <class '" ++
        v.kindName ++ "'>"))

/-- What the arguments supply that a document lists. -/
def argumentSupply (v : Value) : Except Trouble Supply := do
  match v.field "_cli_parse_args" with
  | .null => return {}
  | listed =>
    let fs ← flagsOf v
    match ← (listedArguments? listed).mapError .mistake with
    | none => return {}
    | some arguments =>
      let given ← readArguments v fs (← (comparedArguments v fs arguments).mapError .fault)
      if let .bytes _ := v.field "_cli_prefix" then
        throw (.mistake (.unreachableModel "CliSettingsSource"))
      (givenSupply v fs given).mapError .mistake

end SdkGen.Config
