import SdkGen.Config.Flags
import SdkGen.Config.Options
import SdkGen.Text.Name

/-!
# The flags of a configuration document

A document may say how its flags are written: with another sign, with something in front of their names, and
under further names. All of this is looked at only if the document lists arguments.
-/

namespace SdkGen.Config

/-- What the names of flags begin with, as a word, or as nothing at all. -/
def flagFront (v : Value) : Except Trouble String :=
  match v.field "_cli_prefix" with
  | .null | .text "" => .ok ""
  | .text s =>
    if s.startsWith "." || s.endsWith "." || !Text.isName (s.toList.filter (· != '.')) then
      .error (.mistake (.outside ("CLI settings source prefix is invalid: " ++ s)))
    else .ok (s ++ ".")
  | w =>
    match w, w.isTruthy, w.length? with
    | .bytes _, true, _ => .error (.fault .textBeforeBytes)
    | w, true, _ => .error (.fault (.noMember w.kindName "startswith"))
    | w, false, some _ => .ok w.plainText
    | w, false, none => .error (.fault (.noLength w.kindName))

/-- What stops the sign of flags from being doubled: it is neither a sequence nor a number. -/
def signFault? (v : Value) : Option Fault :=
  match v.field "_cli_flag_prefix_char" with
  | .null | .text _ | .bytes _ | .sequence .list _ | .sequence .tuple _ => none
  | .int _ | .float _ | .bool _ | .complex _ _ => none
  | w => some (.noNumber "*" w.kindName)

/-- A problem with a sign that a flag does not begin with. -/
def unsigned (written : String) (sign : Value) : Trouble :=
  .mistake (.outside ("invalid option string " ++ Text.quoted written ++
    ": must start with a character " ++ sign.shown))

/-- The characters that flags begin with. All of them stand in front of a flag, twice, as far as its name is
long. -/
def flagSign (v : Value) : Except Trouble String :=
  match v.field "_cli_flag_prefix_char" with
  | .null => .ok "-"
  | .text "" => .error (.fault .noCharacter)
  | .text s => .ok s
  | .bytes _ => .error (.fault .textInBytes)
  | .sequence kind [] => .error (.fault (.noElement kind.name))
  | .sequence kind (first :: rest) =>
    let written := kind.enclose [first.shown] ++ "h"
    let begins := (first :: rest).any fun w => w.text? = some (written.take 1).toString
    .error (if begins then .fault .notCuttable else unsigned written (.sequence kind (first :: rest)))
  | w => .error (.fault (.noMembers w.kindName))

/-- Checks the options of a flag that have to be truth values, in their order. -/
def checkFlagOptions (v : Value) : Except Mistake Unit := do
  match v.field "_cli_prefix" with
  | .sequence _ _ | .map _ => throw (.notA "string" ["arg_prefix"])
  | _ => pure ()
  let check := fun (option : String) (field : List String) =>
    match v.field option with
    | .null => .ok ()
    | w => (truth field w).map fun _ => ()
  check "_case_sensitive" ["case_sensitive"]
  check "_cli_hide_none_type" ["hide_none_type"]
  if !([some "all", some "no_enums"].contains (v.textField? "_cli_kebab_case")) then
    check "_cli_kebab_case" ["kebab_case", "bool"]

/-- Whether two names of flags are the same. -/
def isSameName (a b : Value) : Bool :=
  match a.text?, b.text? with
  | some s, some t => s = t
  | none, none => a.kindName = b.kindName && a.shown = b.shown
  | _, _ => false

/-- The further names that a value gives to a flag. -/
def shortcutNames : Value → Except Fault (List Value)
  | .text s => .ok [.text s]
  | v => v.elements?.elim (.error (.noItems v.kindName)) .ok

/-- The shortcuts that a document gives to flags. -/
def shortcuts (v : Value) : Except Fault (List (Value × Value)) :=
  match v.field "_cli_shortcuts" with
  | .map entries => .ok entries
  | w => if w.isTruthy then .error (.noMember w.kindName "items") else .ok []

/-- The names of a flag: its own one, and the shortcuts that are given to it or to one of them, unless they are
taken. -/
def flagNames (shortcuts : List (Value × Value)) (taken : List Value) (name : String) :
    Except Fault (List Value) :=
  shortcuts.foldlM (fun names s => do
    if names.any (isSameName s.1) then
      return names ++ (← shortcutNames s.2).filter fun a => !taken.any (isSameName a)
    else return names)
    [.text name]

/-- A flag as it is written. -/
def writtenFlag (sign : String) (name : Value) : Except Fault String :=
  match name.length? with
  | none => .error (.noLength name.kindName)
  | some n => .ok (String.ofList ((sign.toList ++ sign.toList).take n) ++ name.plainText)

/-- Checks that ways to write a flag begin with a sign. -/
def checkSigned (sign : String) (written : List String) : Except Trouble Unit :=
  written.forM fun flag =>
    match flag.toList with
    | [] => .error (.fault .noCharacter)
    | c :: _ => if c ∈ sign.toList then .ok () else .error (unsigned flag (.text sign))

/-- The flag for help. It has to have a name behind its signs. -/
def helpFlags (sign : String) : Except Trouble (List (String × FlagUse)) := do
  let twice := sign.toList ++ sign.toList
  let short := String.ofList (twice.take 1) ++ "h"
  let long := String.ofList (twice.take 2) ++ "help"
  let isLong := fun (flag : String) => (flag.toList.drop 1).head?.any (· ∈ sign.toList)
  let named := if isLong short then short else if isLong long then long else short
  if named.toList.all (· ∈ sign.toList) then
    throw (.mistake (.outside ("dest= is required for options like " ++ Text.quoted long)))
  return [(short, .help), (long, .help)]

/-- The flags that there are, and one more with its names. -/
def addFlag (sign : String) (uses : List (String × FlagUse)) (use : FlagUse) (names : List Value) :
    Except Trouble (List (String × FlagUse)) := do
  let written ← (names.mapM (writtenFlag sign)).mapError .fault
  checkSigned sign written
  let taken := written.filter fun flag => (uses.lookup flag).isSome
  if !taken.isEmpty then throw (.fault (.flagTaken (String.intercalate "/" written) taken))
  return uses ++ written.map (·, use)

/-- The flags that a document has. -/
def flagsOf (v : Value) : Except Trouble Flags := do
  if let some fault := signFault? v then throw (.fault fault)
  let front ← flagFront v
  let sign ← flagSign v
  let help ← helpFlags sign
  (checkFlagOptions v).mapError .mistake
  let flagName := fun (field : String) =>
    if (v.field "_cli_kebab_case").isTruthy then
      String.ofList ((front ++ field).toList.map fun c => if c = '_' then '-' else c)
    else front ++ field
  let given ← (shortcuts v).mapError .fault
  let models ← (flagNames given [] (flagName "model")).mapError .fault
  let uses ← addFlag sign help .model models
  let isTaken := models.any fun name =>
    name.text? = some (front ++ "targets") || name.text? = some (flagName "targets")
  let uses ← if isTaken then pure uses
    else do addFlag sign uses .targets (← (flagNames given models (flagName "targets")).mapError .fault)
  return { signs := sign.toList, front, uses }

/-- The text of an argument that stands for no value. -/
def flagNullWord (v : Value) : Option String :=
  let environment := v.field "_env_parse_none_str"
  let own := v.field "_cli_parse_none_str"
  if environment.isTruthy then environment.text?
  else if own.isTruthy then own.text?
  else
    match v.field "_cli_avoid_json" with
    | .bool true => some "None"
    | _ => some "null"

/-- The arguments as they are compared with the flags. Where case does not count, they have to be texts. -/
def comparedArguments (v : Value) (fs : Flags) (arguments : List Value) : Except Fault (List Value) := do
  match v.field "_case_sensitive" with
  | .null | .bool false =>
    let texts ← argumentTexts arguments
    if texts.isEmpty then return []
    let parts ← (signParts fs.signs).mapError .malformedPattern
    return (fs.foldFlags parts texts).map .text
  | _ =>
    let looked := arguments.takeWhile fun a => !Flags.isEnd a
    match looked.findSome? (flagFault? fs.signs) with
    | some fault => throw fault
    | none => return arguments

end SdkGen.Config
