import SdkGen.Failure
import SdkGen.Text.Blank
import SdkGen.Value.Shown

/-!
# Failures in the code of a user

A factory may fail on its own account. Such a failure has a kind and some arguments, which decide
what it says: a single argument is the text, several are shown together. A failure of the system is
given a number and a text, and perhaps one or two files, and the number may make it one of a narrower
kind.
-/

namespace SdkGen.Loading

/-- The kinds of failures of the system. -/
def systemKinds : List String :=
  ["OSError", "BlockingIOError", "BrokenPipeError", "ChildProcessError", "ConnectionAbortedError",
    "ConnectionError", "ConnectionRefusedError", "ConnectionResetError", "FileExistsError",
    "FileNotFoundError", "InterruptedError", "IsADirectoryError", "NotADirectoryError",
    "PermissionError", "ProcessLookupError", "TimeoutError"]

/-- The older names of kinds. -/
def kindName (kind : String) : String :=
  if kind ∈ ["IOError", "EnvironmentError"] then "OSError" else kind

/-- The kind of a failure of the system with a number. -/
def numberedKind? (n : Int) : Option String :=
  if n ∈ [1, 13] then some "PermissionError"
  else if n = 2 then some "FileNotFoundError"
  else if n = 3 then some "ProcessLookupError"
  else if n = 4 then some "InterruptedError"
  else if n = 10 then some "ChildProcessError"
  else if n ∈ [11, 114, 115] then some "BlockingIOError"
  else if n = 17 then some "FileExistsError"
  else if n = 20 then some "NotADirectoryError"
  else if n = 21 then some "IsADirectoryError"
  else if n ∈ [32, 108] then some "BrokenPipeError"
  else if n = 103 then some "ConnectionAbortedError"
  else if n = 104 then some "ConnectionResetError"
  else if n = 110 then some "TimeoutError"
  else if n = 111 then some "ConnectionRefusedError"
  else none

/-- The number that a value is, where truth values count as numbers. -/
def wholeNumber? : Value → Option Int
  | .int n => some n
  | .bool b => some (if b then 1 else 0)
  | _ => none

/-- Whether a value is a number of any kind. -/
def isNumber : Value → Bool
  | .int _ | .bool _ | .float _ => true
  | _ => false

/-- The kind that a failure of the system turns out to be. -/
def systemKind (kind : String) (code : Value) : String :=
  if kind = "OSError" then ((wholeNumber? code).bind numberedKind?).getD kind else kind

/-- The text of several arguments. -/
def argumentsText (args : List Value) : String :=
  "(" ++ String.intercalate ", " (args.map Value.shown) ++ ")"

/-- The files that a failure of the system names, as they are shown. The third argument of a failure to
wait may also be a count. -/
def systemFiles (kind : String) : List Value → String
  | .null :: _ => ""
  | file :: more =>
    if kind = "BlockingIOError" && isNumber file then ""
    else
      match more with
      | [] | [_] | _ :: .null :: _ => ": " ++ file.shown
      | _ :: other :: _ => ": " ++ file.shown ++ " -> " ++ other.shown
  | [] => ""

/-- What is wrong with the count of a failure to wait, the first argument behind the text. -/
def countFault? (kind : String) (files : List Value) : Option Fault :=
  if kind = "BlockingIOError" then
    match files.headD .null with
    | .float _ =>
      some (.raised "TypeError" "'float' object cannot be interpreted as an integer")
    | .int n =>
      if -Int.pow 2 63 ≤ n && n < Int.pow 2 63 then none
      else some (.raised "ValueError" "cannot fit 'int' into an index-sized integer")
    | _ => none
  else none

/-- The text of a failure of the system. -/
def systemText (kind : String) (args : List Value) : String :=
  match args with
  | code :: text :: files =>
    if files.length ≤ 3 then
      "[Errno " ++ code.plainText ++ "] " ++ text.plainText ++ systemFiles kind files
    else argumentsText args
  | _ => argumentsText args

/-- A failure to make a failure, since an argument is not of its kind. -/
def misfit (text : String) : Fault := .raised "TypeError" text

/-- The items that a value can be taken apart into. -/
def partsOf? : Value → Option (List Value)
  | .sequence _ items => some items
  | .text s => some (s.toList.map fun c => .text (String.ofList [c]))
  | .map entries => some (entries.map Prod.fst)
  | _ => none

/-! ## Failures to read a source -/

/-- The kinds of failures to read a source. -/
def sourceKinds : List String := ["SyntaxError", "IndentationError", "TabError"]

/-- The name of a file without its directories. -/
def baseName (file : String) : String :=
  String.ofList ((Text.splitAtChar '/' file.toList).getLast?.getD [])

/-- The number of a line; one that does not fit into a word is not known. -/
def lineText (n : Int) : String :=
  toString (if -Int.pow 2 63 ≤ n && n < Int.pow 2 63 then n else -1)

/-- The text of a failure to read a source, from its file and line as far as they are known. -/
def placedText (text : Value) (file line : Value) : String :=
  let place := match file, line with
    | .text f, .int n => " (" ++ baseName f ++ ", line " ++ lineText n ++ ")"
    | .text f, _ => " (" ++ baseName f ++ ")"
    | _, .int n => " (line " ++ lineText n ++ ")"
    | _, _ => ""
  text.plainText ++ place

/-- A failure to read a source. Two arguments are a text and a place, which has four to six parts. -/
def sourceFailure (kind : String) (args : List Value) : Fault :=
  match args with
  | [] => .raised kind "None"
  | [text, place] =>
    match partsOf? place with
    | none => misfit s!"'{place.kindName}' object is not iterable"
    | some parts =>
      if parts.length < 4 then misfit s!"function takes at least 4 arguments ({parts.length} given)"
      else if 6 < parts.length then misfit s!"function takes at most 6 arguments ({parts.length} given)"
      else if parts.length = 5 then misfit "end_offset must be provided when end_lineno is provided"
      else .raised kind (placedText text (parts.getD 0 .null) (parts.getD 1 .null))
  | text :: _ => .raised kind text.plainText

/-! ## Groups of failures -/

def groupKinds : List String := ["ExceptionGroup", "BaseExceptionGroup"]

/-- The name of the kind of an argument. -/
def argumentKind : Value → String
  | .null => "None"
  | v => v.kindName

/-- A group of failures cannot be made of values that are none. -/
def groupFailure (args : List Value) : Fault :=
  let maker := "BaseExceptionGroup.__new__()"
  match args with
  | [.text _, items] =>
    match items, partsOf? items with
    | .map _, _ | _, none => misfit "second argument (exceptions) must be a sequence"
    | _, some [] => .raised "ValueError" "second argument (exceptions) must be a non-empty sequence"
    | _, some _ =>
      .raised "ValueError" "Item 0 of second argument (exceptions) is not an exception"
  | [other, _] => misfit s!"{maker} argument 1 must be str, not {argumentKind other}"
  | _ => misfit s!"{maker} takes exactly 2 arguments ({args.length} given)"

/-! ## Failures to encode -/

/-- An argument that has to be a text. -/
def textArgument (args : List Value) (i : Nat) : Except Fault String :=
  match args.getD i .null with
  | .text s => .ok s
  | v => .error (misfit s!"argument {i + 1} must be str, not {argumentKind v}")

/-- An argument that has to be a number that fits into a word. -/
def numberArgument (args : List Value) (i : Nat) : Except Fault Int :=
  let v := args.getD i .null
  match wholeNumber? v with
  | some n =>
    if -Int.pow 2 63 ≤ n && n < Int.pow 2 63 then .ok n
    else .error (.raised "OverflowError" "Python int too large to convert to C ssize_t")
  | none => .error (misfit s!"'{v.kindName}' object cannot be interpreted as an integer")

/-- What cannot be encoded of a text: one character, or a range of them. -/
def rangeText (text : String) (start stop : Int) : String :=
  match text.toList[start.toNat]? with
  | some c =>
    if stop = start + 1 then
      "character '" ++ String.ofList (Text.escapeCode c) ++ "' in position " ++ toString start
    else s!"characters in position {start}-{stop - 1}"
  | none => s!"characters in position {start}-{stop - 1}"

/-- A failure to encode a text. -/
def encodeFailure (args : List Value) : Except Fault String := do
  let encoding ← textArgument args 0
  let text ← textArgument args 1
  let start ← numberArgument args 2
  let stop ← numberArgument args 3
  let reason ← textArgument args 4
  return "'" ++ encoding ++ "' codec can't encode " ++ rangeText text start stop ++ ": " ++ reason

/-- A failure to decode bytes; no argument is bytes. -/
def decodeFailure (args : List Value) : Except Fault String := do
  let _ ← textArgument args 0
  let _ ← numberArgument args 2
  let _ ← numberArgument args 3
  let _ ← textArgument args 4
  throw (misfit s!"a bytes-like object is required, not '{(args.getD 1 .null).kindName}'")

/-- A failure to translate a text. -/
def translateFailure (args : List Value) : Except Fault String := do
  let text ← textArgument args 0
  let start ← numberArgument args 1
  let stop ← numberArgument args 2
  let reason ← textArgument args 3
  return "can't translate " ++ rangeText text start stop ++ ": " ++ reason

/-- The failures to encode by their kinds, with the number of their arguments. -/
def encoding? (kind : String) : Option (Nat × (List Value → Except Fault String)) :=
  match kind with
  | "UnicodeEncodeError" => some (5, encodeFailure)
  | "UnicodeDecodeError" => some (5, decodeFailure)
  | "UnicodeTranslateError" => some (4, translateFailure)
  | _ => none

/-! ## Ends -/

/-- The end of the program. A single whole number is its status; without arguments all is well. -/
def ending (args : List Value) : Fault :=
  match args with
  | [] => .ended (some 0) ""
  | [.null] => .ended (some 0) (Value.plainText .null)
  | [.int n] => .ended (some n) (toString n)
  | [v] => .ended none v.plainText
  | _ => .ended none (argumentsText args)

/-! ## All failures -/

/-- A failure in the code of a user, from its kind and arguments. A missing key is quoted. -/
def raised (kind : String) (args : List Value) : Fault :=
  let kind := kindName kind
  if kind ∈ sourceKinds then sourceFailure kind args
  else if kind ∈ groupKinds then groupFailure args
  else if kind = "SystemExit" then ending args
  else
    match encoding? kind with
    | some (n, make) =>
      if args.length = n then
        match make args with
        | .ok text => .raised kind text
        | .error f => f
      else misfit s!"function takes exactly {n} arguments ({args.length} given)"
    | none =>
      match args with
      | [] => .raised kind ""
      | [v] => .raised kind (if kind = "KeyError" then v.shown else v.plainText)
      | code :: _ =>
        if kind ∈ systemKinds && args.length ≤ 5 then
          let kind := systemKind kind code
          (countFault? kind (args.drop 2)).getD (.raised kind (systemText kind args))
        else .raised kind (argumentsText args)

end SdkGen.Loading
