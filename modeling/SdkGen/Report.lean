import SdkGen.Failure
import SdkGen.Value.Shown

/-!
# Reports

A failure may be reported by giving its fields, which may be any values. A report says what a failure of its
kind says, with the fields as they are shown; its own fields stay as they were given. A report needs some of
its fields and takes no others but those that it knows.
-/

namespace SdkGen

/-- The kinds of failures that can be reported. -/
inductive ReportKind where
  /-- Nothing but a message. -/
  | general
  | modelNotBound
  /-- The name of a derived type is taken. -/
  | nameConflict
  /-- A model cannot be loaded. -/
  | modelLoad
  /-- A configuration cannot be used. -/
  | configuration
  /-- A source cannot be written. -/
  | output
  /-- Something is not supported. -/
  | unsupported
deriving DecidableEq, Repr

namespace ReportKind

def name : ReportKind → String
  | general => "PolySDKError"
  | modelNotBound => "ModelNotBoundError"
  | nameConflict => "TypeNameConflictError"
  | modelLoad => "ModelLoadError"
  | configuration => "ConfigurationError"
  | output => "OutputError"
  | unsupported => "UnsupportedFeatureError"

def all : List ReportKind :=
  [general, modelNotBound, nameConflict, modelLoad, configuration, output, unsupported]

def ofName? (name : String) : Option ReportKind := all.find? (·.name = name)

/-- The fields that a report needs, in order. -/
def needed : ReportKind → List String
  | general => ["message"]
  | modelNotBound => ["operation"]
  | nameConflict => ["name", "source"]
  | modelLoad => ["import_path"]
  | configuration => ["message"]
  | output => ["output_path"]
  | unsupported => ["feature"]

/-- The fields that a report may do without, in order. -/
def optional : ReportKind → List String
  | modelLoad | output => ["cause"]
  | configuration => ["config_path", "field"]
  | unsupported => ["suggestion"]
  | general | modelNotBound | nameConflict => []

/-- The fields that a report keeps beside its message and its cause. -/
def kept (kind : ReportKind) : List String :=
  (kind.needed ++ kind.optional).filter (· ∉ ["message", "cause"])

/-- Checks the names of the fields that a report is made of: first each of them in order, then whether one is
missing. A report with nothing but a message sees only afterwards what it is given beside that. -/
def checkFields (kind : ReportKind) (names : List String) : Except Fault Unit := do
  let known := kind.needed ++ kind.optional
  for name in names do
    if name = "self" then throw (.givenTwice kind.name name)
    if kind != general && name ∉ known then throw (.unknownArgument kind.name name)
  let missing := kind.needed.filter (· ∉ names)
  if !missing.isEmpty then throw (.missingArguments kind.name missing)
  if names.any (· ∉ known) then throw (.namedArgument kind.name)

end ReportKind

/-- A failure that is reported by its fields. -/
structure Report where
  kind : ReportKind
  said : Value
  fields : List (String × Value)
  cause : Option Value

namespace Report

def message (r : Report) : String := r.said.plainText

/-- A value as the cause of a failure; one that says no is none. -/
def causeOf (v : Value) : Option Fault :=
  if v.isTruthy then some (.raised v.kindName v.plainText) else none

/-- What a report of a configuration says. A message without a place is kept as it is, and the name of a field
is put behind it as far as that can be done. -/
def configurationSaid (message path field : Value) : Except Fault Value :=
  let behind := if field.isTruthy then Failure.suffix (some field.plainText) " (field: " ")" else ""
  if path.isTruthy then
    .ok (.text (message.plainText ++ Failure.suffix (some path.plainText) " in '" "'" ++ behind))
  else if field.isTruthy then
    match message with
    | .text s => .ok (.text (s ++ behind))
    | .list items => .ok (.list (items ++ behind.toList.map fun c => .text (String.singleton c)))
    | w => .error (.notAddable w.kindName)
  else .ok message

/-- What a report of a kind says. -/
def saidOf (kind : ReportKind) (fields : Value) : Except Fault Value :=
  let shown := fun (name : String) => (fields.field name).plainText
  let wording := fun (f : Failure) => .ok (.text f.message)
  match kind with
  | .general => .ok (fields.field "message")
  | .modelNotBound => wording (.modelNotBound (shown "operation"))
  | .nameConflict => wording (.nameConflict (shown "name") (shown "source"))
  | .modelLoad => wording (.modelLoad (shown "import_path") (causeOf (fields.field "cause")))
  | .configuration =>
    configurationSaid (fields.field "message") (fields.field "config_path") (fields.field "field")
  | .output => wording (.output (shown "output_path") (causeOf (fields.field "cause")))
  | .unsupported =>
    let suggestion := fields.field "suggestion"
    wording (.unsupported (shown "feature")
      (if suggestion.isTruthy then some suggestion.plainText else none))

def ofFields (kind : ReportKind) (fields : Value) : Except Fault Report := do
  kind.checkFields (fields.fields.map (·.1))
  return {
    kind
    said := ← saidOf kind fields
    fields := kind.kept.map fun name => (name, fields.field name)
    cause := match fields.field "cause" with
      | .null => none
      | v => some v }

end Report

end SdkGen
