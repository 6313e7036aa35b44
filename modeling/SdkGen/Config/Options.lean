import SdkGen.Config.Schema
import SdkGen.Dict
import SdkGen.Text.Case
import SdkGen.Text.Halves
import SdkGen.Value.Shown

/-!
# Options in a configuration document

A document may hold options beside the fields of a configuration. They say how variables are looked at and
where else fields may come from: files of variables, directories of secrets, and arguments.
-/

namespace SdkGen.Config

/-- What variables are looked at. -/
structure Options where
  /-- What the names of the variables begin with. -/
  front : Text.HalvedText := { text := "POLYSDK_" }
  /-- Whether the case of the names counts. -/
  exactCase : Bool := false
  /-- Whether variables without text are passed over. -/
  ignoreEmpty : Bool := false
  /-- The text of a variable that stands for no value. -/
  nullWord : Option String := none
  /-- What stands between the name of a list and the name of a part of it; nothing if parts have no
  variables of their own. -/
  partMark : String := ""
  /-- What stops the reading of a variable that is named for a part. -/
  partFault : Option Fault := none
  /-- What stops the names of variables from being compared with what they begin with. -/
  frontFault : Option Fault := none

namespace Options

/-- The names of all options. Those that say nothing about the places of fields are passed over. -/
def names : List String :=
  ["_case_sensitive", "_nested_model_default_partial_update", "_env_prefix", "_env_prefix_target",
    "_env_file", "_env_file_depth", "_env_file_encoding", "_env_ignore_empty",
    "_env_nested_delimiter", "_env_nested_max_split", "_env_parse_none_str", "_env_parse_enums", "_cli_prog_name",
    "_cli_parse_args", "_cli_settings_source", "_cli_parse_none_str", "_cli_hide_none_type",
    "_cli_avoid_json", "_cli_enforce_required", "_cli_use_class_docs_for_groups",
    "_cli_exit_on_error", "_cli_prefix", "_cli_flag_prefix_char", "_cli_implicit_flags",
    "_cli_ignore_unknown_args", "_cli_kebab_case", "_cli_shortcuts", "_cli_show_env_vars",
    "_secrets_dir", "_build_sources"]

/-- The options that are texts of no fixed meaning, or hold some. -/
def textual : List String :=
  ["_env_nested_delimiter", "_env_parse_none_str", "_cli_parse_args", "_cli_prefix",
    "_cli_flag_prefix_char", "_cli_parse_none_str", "_cli_shortcuts"]

/-- A value in which halves of characters are taken for the characters that stand for them, down to a depth. -/
def withStandIns : Nat → Value → Value
  | _, .halved s => .text s
  | depth + 1, .sequence kind items => .sequence kind (items.map (withStandIns depth))
  | depth + 1, .map entries =>
    .map (entries.map fun e => (withStandIns depth e.1, withStandIns depth e.2))
  | _, v => v

/-- A document in whose textual options halves of characters are taken for the characters that stand for them. The
deepest options are lists of names for names. -/
def settled : Value → Value
  | .map entries =>
    .map (entries.map fun e =>
      (e.1, if e.1.text?.any (· ∈ textual) then withStandIns 2 e.2 else e.2))
  | v => v

/-- The greatest depth of parts, which has to be a number if there is one. -/
def checkDepth (v : Value) : Except Fault Unit :=
  match v.field "_env_nested_max_split" with
  | .int _ | .float _ | .complex _ _ | .bool _ => .ok ()
  | w => if w.isTruthy then .error (.noNumber "-" w.kindName) else .ok ()

/-- Whether the names of the variables of fields begin in a way of their own. -/
def hasFront (v : Value) : Bool :=
  match v.field "_env_prefix_target" with
  | .null => true
  | w => w.text? ∈ [some "variable", some "all"]

/-- What the names of variables begin with in a document; nothing if it is a sequence that is no text. -/
def front? (v : Value) : Except Fault (Option Text.HalvedText) :=
  let front : Option Text.HalvedText := if hasFront v then none else some { text := "" }
  let w := v.field "_env_prefix"
  match w, w.halvedText? with
  | .null, _ => .ok (front.or (some ({} : Options).front))
  | _, some t => .ok (front.or (some t))
  | .bytes _, none | .sequence _ _, none | .map _, none => .ok front
  | w, none => .error (.noLength w.kindName)

/-- What stops the beginning of names from being written in small letters: it is neither a text nor bytes. -/
def frontFault? (v : Value) : Option Fault :=
  match v.field "_env_prefix" with
  | .sequence kind _ => some (.noMember kind.name "lower")
  | .map _ => some (.noMember "dict" "lower")
  | _ => none

/-- What stands between the name of a list and the name of a part of it. -/
def markOf (v : Value) : String :=
  let w := v.field "_env_nested_delimiter"
  if w.isTruthy then w.plainText else ""

/-- What stops the reading of a variable that is named for a part: a depth that is no whole number or too
big for one, or a mark that is no text. -/
def partFault? (v : Value) : Option Fault :=
  let mark := v.field "_env_nested_delimiter"
  let markFault := if mark.text?.isSome then none else some (.noSeparator mark.kindName)
  match v.field "_env_nested_max_split" with
  | .float x => if x == 0 then markFault else some (.notWhole "float")
  | .complex re im => if re == 0 && im == 0 then markFault else some (.notWhole "complex")
  | .int n => if fitsWord (n - 1) then markFault else some .hugeCount
  | _ => markFault

/-- The options of a document where the names of variables begin with a text. -/
def ofValue (v : Value) (front : Text.HalvedText) : Options where
  front
  exactCase := (v.field "_case_sensitive").isTruthy
  ignoreEmpty := (v.field "_env_ignore_empty").isTruthy
  nullWord := v.textField? "_env_parse_none_str"
  partMark := markOf v
  partFault := partFault? v
  frontFault := if (v.field "_case_sensitive").isTruthy then none else frontFault? v

/-- A name as it is compared. -/
def name (o : Options) (s : String) : String := if o.exactCase then s else Text.toLower s

/-- The name of a variable as it is compared. -/
def variableName (o : Options) (t : Text.HalvedText) : Text.HalvedText := { t with text := o.name t.text }

/-- The name of the variable of a field as it is compared. -/
def key (o : Options) (field : String) : Text.HalvedText :=
  o.variableName { o.front with text := o.front.text ++ field }

end Options

/-- A variable and its text, if it has one. -/
abbrev Assigned := Text.HalvedText × Option Text.HalvedText

/-- Variables by their names as they are compared; some have no text. -/
abbrev Variables := Dict Text.HalvedText (Option Text.HalvedText)

/-- The variables that are looked at, the oldest first. -/
def Options.collect (o : Options) (assignments : List Assigned) : Variables :=
  .ofList ((assignments.filter fun a => !(o.ignoreEmpty && a.2.any (·.text = ""))).map fun a =>
    (o.variableName a.1, a.2))

def path (v : Value) : Except Fault Text.HalvedText :=
  match v, v.halvedText? with
  | _, some t => .ok t
  | .bytes _, none => .error .bytesAsPath
  | v, none => .error (.notAPath v.shortKindName)

/-- The paths that a value lists; a text is a path of its own. -/
def paths (v : Value) : List (Except Fault Text.HalvedText) :=
  match v, v.halvedText? with
  | .null, _ => []
  | _, some t => [.ok t]
  | v, none => v.elements?.elim [.error (.noItems v.kindName)] fun items => items.map path

/-- Checks how many directories upwards files of variables are looked for: a whole number, or none that is
above zero. -/
def checkFileDepth (v : Value) : Except Trouble Unit :=
  let ofNumber := fun (isFine : Bool) =>
    if isFine then .ok ()
    else
      .error (.mistake (.outside
        "Stop argument for islice() must be None or an integer: 0 <= x <= sys.maxsize."))
  match v.field "_env_file_depth" with
  | .null | .bool _ => .ok ()
  | .int n => ofNumber (n < Int.pow 2 63)
  | .float x => ofNumber (x ≤ 0)
  | w => .error (.fault (.notComparable w.kindName))

/-- The users that every system has by itself. Nothing that is looked for is in their home directories. -/
def systemUsers : List String :=
  ["root", "daemon", "bin", "sys", "sync", "games", "man", "lp", "mail", "news", "uucp", "proxy",
    "www-data", "backup", "list", "irc", "_apt", "nobody"]

/-- A path without the points in front of it that stand for where it begins. -/
def fromHere : List Char → List Char
  | '.' :: '/' :: rest => fromHere (rest.dropWhile (· = '/'))
  | cs => cs
termination_by cs => cs.length
decreasing_by
  have := (List.dropWhile_sublist (l := rest) (· = '/')).length_le
  simp only [List.length_cons]
  omega

/-- The halves of characters that bytes outside of all characters become where the names of users are read. -/
def isStrayByte (n : Nat) : Bool := 0xDC80 ≤ n && n ≤ 0xDCFF

/-- What is wrong with the name of a user that holds halves of characters. -/
def userProblem? (name : Text.HalvedText) : Option String :=
  if name.firstHalves?.any fun found => found.2.all isStrayByte then none else name.storeProblem?

/-- A path that may begin with a tilde for the home directory, which the environment tells; a path that leads to
no place of its own is none, and so is one from the root of all directories on. -/
def withoutHome? (environment : List (String × String)) (path : Text.HalvedText) :
    Except Trouble (Option String) :=
  let below := fun (path : String) => if path.startsWith "/" then none else some path
  let (front, rest) := (fromHere path.text.toList).span (· != '/')
  match front with
  | ['~'] =>
    match environment.lookup "HOME" with
    | none => .ok none
    | some home =>
      let home := (home.toList.reverse.dropWhile (· = '/')).reverse
      match home with
      | [] => .ok none
      | '~' :: _ => .error (.fault .noHome)
      | home => .ok (below (String.ofList (home ++ rest)))
  | '~' :: user =>
    if String.ofList user ∈ systemUsers then .ok none
    else
      match userProblem? (path.part (String.ofList user)) with
      | some problem => .error (.mistake (.outside problem))
      | none =>
        if '\x00' ∈ user then .error (.mistake (.outside "embedded null byte"))
        else .error (.fault .noHome)
  | _ => .ok (below path.text)

end SdkGen.Config
