import SdkGen.Text.Quoted

/-!
# Faults and failures

A *fault* is a single cause: a name taken twice, a file in the way, a module that is not there. A
*failure* is what an operation reports: either one of the failures of generating, configuring or
loading, which may have a fault as its cause, or a bare fault. `Fault.message` and `Failure.message`
are the only places where their wording is written down.
-/

namespace SdkGen

/-- The parts of a date or time that have bounds. -/
inductive CalendarPart where
  /-- The year. -/
  | year
  /-- The month of a year. -/
  | month
  /-- The day of a month. -/
  | day
  /-- The hour of a day. -/
  | hour
  /-- The minute of an hour. -/
  | minute
  /-- The second of a minute. -/
  | second
deriving DecidableEq, Repr

/-- What is said of a part of a date or time that is out of its bounds. -/
def CalendarPart.complaint : CalendarPart → String
  | year => "year 0 is out of range"
  | month => "month must be in 1..12"
  | day => "day is out of range for month"
  | hour => "hour must be in 0..23"
  | minute => "minute must be in 0..59"
  | second => "second must be in 0..59"

/-- What is wrong with a pattern; places are those of characters in it. -/
inductive PatternProblem where
  /-- No escape has that letter. -/
  | noEscape (letter : Char)
  /-- An escape has too few digits. -/
  | cutEscape (text : String)
  /-- No character has that name. -/
  | noSuchName (name : String)
  /-- A group refers to itself. -/
  | openGroup
  /-- There is no group of that number. -/
  | noSuchGroup (number : Nat)
  /-- There is nothing in front of a number of repetitions. -/
  | nothingRepeated (place : Nat)
  /-- A number of repetitions follows another one. -/
  | repeatedTwice (place : Nat)
deriving DecidableEq, Repr

/-- The wording of a problem with a pattern. -/
def PatternProblem.message : PatternProblem → String
  | noEscape letter => "bad escape \\" ++ String.singleton letter ++ " at position 2"
  | cutEscape text => "incomplete escape " ++ text ++ " at position 2"
  | noSuchName name => "undefined character name " ++ Text.quoted name ++ " at position 2"
  | openGroup => "cannot refer to an open group at position 2"
  | noSuchGroup number => s!"invalid group reference {number} at position 3"
  | nothingRepeated place => s!"nothing to repeat at position {place}"
  | repeatedTwice place => s!"multiple repeat at position {place}"

/-- A single cause of trouble. -/
inductive Fault where
  /-- A type of that name is in the model already. -/
  | duplicateType (name : String)
  /-- A method of that name is in the model already. -/
  | duplicateMethod (name : String)
  /-- No location of a parameter is written like that. -/
  | unknownLocation (shown : String)
  /-- Something that may be missing is missing, and a part of it is asked for. -/
  | noValue (member : String)
  /-- Nothing is kept under that name. -/
  | missingKey (name : String)
  /-- An import path lacks its module or its attribute. -/
  | emptyImportPart
  /-- The module of an import path is relative. -/
  | relativeImport (name : String)
  /-- A module cannot be found; `parent` is a module that has no parts and is asked for one. -/
  | missingModule (name : String) (parent : Option String)
  /-- A module has no attribute of that name; some modules have no name themselves. -/
  | missingAttribute (moduleName : Option String) (member : String)
  /-- Something other than a model came out of a factory. -/
  | notAModel (found : String)
  /-- A mapping that becomes named arguments has a key that is not a text. -/
  | keyNotText
  /-- A named argument is one that its owner has already. -/
  | givenTwice (owner name : String)
  /-- A named argument is none of those that its owner knows. -/
  | unknownArgument (owner name : String)
  /-- Arguments are missing that their owner needs. -/
  | missingArguments (owner : String) (names : List String)
  /-- Something that takes no named arguments is given one. -/
  | namedArgument (owner : String)
  /-- Something of that kind has no length. -/
  | noLength (kind : String)
  /-- Something of that kind is reckoned with as if it were a number. -/
  | noNumber (operator kind : String)
  /-- Something of that kind is compared with a number. -/
  | notComparable (kind : String)
  /-- Something of that kind is added to a text. -/
  | notAddable (kind : String)
  /-- Something of that kind has no items. -/
  | noItems (kind : String)
  /-- Something of that kind has no item of a number. -/
  | notIndexed (kind : String)
  /-- A text is searched for something of that kind. -/
  | notSearched (kind : String)
  /-- An item of texts is none but something of that kind. -/
  | itemNotText (place : Nat) (kind : String)
  /-- Something of that kind is no path. -/
  | notAPath (kind : String)
  /-- Bytes are no path. -/
  | bytesAsPath
  /-- Bytes are looked through as if they were a text. -/
  | bytesAsText
  /-- Bytes are searched for a text. -/
  | textInBytes
  /-- Bytes are asked whether they begin with a text. -/
  | textBeforeBytes
  /-- Something other than a text says what is to be cut off. -/
  | notCuttable
  /-- Something of that kind is no name of an encoding. -/
  | encodingNotText (kind : String)
  /-- No encoding has that name. -/
  | unknownEncoding (name : String)
  /-- A way to store bytes with that name is no encoding of texts. -/
  | notTextEncoding (name : String)
  /-- Something of that kind separates no texts. -/
  | noSeparator (kind : String)
  /-- Something of that kind is no whole number. -/
  | notWhole (kind : String)
  /-- A number of parts does not even fit into a word. -/
  | hugeCount
  /-- Something of that kind cannot be taken apart into two values. -/
  | notAPair (kind : String)
  /-- Something of that kind cannot be run. -/
  | notRunnable (kind : String)
  /-- Something of that kind has no member of that name. -/
  | noMember (kind member : String)
  /-- The home directory that a path begins with is not known. -/
  | noHome
  /-- Nothing is known of what the bytes of a file stand for in its encoding. -/
  | lostInEncoding
  /-- Something of that kind has no members. -/
  | noMembers (kind : String)
  /-- A text is asked for one of its fields. -/
  | fieldOfText
  /-- A sequence is asked for one of its fields. -/
  | fieldOfList
  /-- A file stands where a directory is to be made. -/
  | fileExists (path : String)
  /-- A file stands where a path goes on. -/
  | notADirectory (path : String)
  /-- A directory stands where a file is to be read or written. -/
  | isADirectory (path : String)
  /-- A part of a path, or a path, is too long. -/
  | nameTooLong (path : String)
  /-- A path holds the character that ends paths. -/
  | nullInPath
  /-- A text is no whole number in a base. -/
  | notInBase (base : Nat) (shown : String)
  /-- A whole number has too many digits. -/
  | tooManyDigits (count : Nat)
  /-- A text is no decimal number. -/
  | notDecimal (shown : String)
  /-- A text is no complex number. -/
  | notComplex
  /-- A complex number has an underscore that is not between digits. -/
  | strayUnderscore (shown : String)
  /-- A text without characters is asked for its first one. -/
  | noCharacter
  /-- A sequence without items, of that kind, is asked for its first one. -/
  | noElement (kind : String)
  /-- There is no such day or time. -/
  | noSuchMoment (part : CalendarPart)
  /-- The zone of a time is a day or more away. -/
  | zoneTooFar (days : Int) (seconds : Nat)
  /-- No character has that number. -/
  | noSuchCharacter
  /-- A number of a character does not even fit into a word. -/
  | hugeCharacter
  /-- Something of that kind cannot be part of a key. -/
  | notHashable (kind : String)
  /-- Something other than a text is looked through. -/
  | notAText (kind : String)
  /-- Ways to write a flag are those of another one. -/
  | flagTaken (flag : String) (taken : List String)
  /-- A pattern is not well formed. -/
  | malformedPattern (problem : PatternProblem)
  /-- A source text is not well formed. -/
  | malformedSource
  /-- A closing tag in console text closes nothing. -/
  | unmatchedTag (tag : String) (position : Nat)
  /-- A closing tag in console text comes when no tag is open. -/
  | nothingToClose (position : Nat)
  /-- The parameters of a tag cannot be used; `part` is the part of them that is not well formed. -/
  | badParameters (part : Option String) (parameters problem : String)
  /-- Code of the user ended the program with a status, or else with a text to print. -/
  | ended (status : Option Int) (text : String)
  /-- Code of the user failed; `kind` is the kind of failure it names. -/
  | raised (kind text : String)
  /-- Code of the user failed with a kind of its own, which is one of other kinds as well. -/
  | derived (kind : String) (others : List String) (text : String)
deriving DecidableEq, Repr

/-! ## Kinds of failures -/

namespace Kind

/-- The built-in kinds that are one of other kinds, beside those that all or nearly all of them are. -/
def narrower : List (List String × List String) :=
  [(["FloatingPointError", "OverflowError", "ZeroDivisionError"], ["ArithmeticError"]),
    (["ModuleNotFoundError"], ["ImportError"]),
    (["IndexError", "KeyError"], ["LookupError"]),
    (["UnboundLocalError"], ["NameError"]),
    (["BlockingIOError", "ChildProcessError", "ConnectionError", "FileExistsError", "FileNotFoundError",
      "InterruptedError", "IsADirectoryError", "NotADirectoryError", "PermissionError", "ProcessLookupError",
      "TimeoutError"], ["OSError"]),
    (["BrokenPipeError", "ConnectionAbortedError", "ConnectionRefusedError", "ConnectionResetError"],
      ["ConnectionError", "OSError"]),
    (["NotImplementedError", "RecursionError"], ["RuntimeError"]),
    (["IndentationError"], ["SyntaxError"]),
    (["TabError"], ["IndentationError", "SyntaxError"]),
    (["UnicodeError"], ["ValueError"]),
    (["UnicodeDecodeError", "UnicodeEncodeError", "UnicodeTranslateError"], ["UnicodeError", "ValueError"]),
    (["BytesWarning", "DeprecationWarning", "EncodingWarning", "FutureWarning", "ImportWarning",
      "PendingDeprecationWarning", "ResourceWarning", "RuntimeWarning", "SyntaxWarning", "UnicodeWarning",
      "UserWarning"], ["Warning"]),
    (["ExceptionGroup"], ["BaseExceptionGroup"])]

/-- The built-in kinds that end more than an operation. -/
def ending : List String :=
  ["BaseException", "BaseExceptionGroup", "GeneratorExit", "KeyboardInterrupt", "SystemExit"]

/-- The kinds that a built-in kind is one of, without itself. -/
def above (kind : String) : List String :=
  ((narrower.find? (kind ∈ ·.1)).map Prod.snd).getD [] ++
    (if kind ∈ ending then [] else ["Exception"]) ++ (if kind = "BaseException" then [] else ["BaseException"])

end Kind

namespace Fault

/-- The name of the kind of a fault. -/
def kind : Fault → String
  | duplicateType _ | duplicateMethod _ | unknownLocation _ | emptyImportPart | nullInPath | notInBase _ _
  | tooManyDigits _ | notDecimal _ | notComplex | strayUnderscore _ | noSuchMoment _ | zoneTooFar _ _
  | noSuchCharacter => "ValueError"
  | noValue _ | missingAttribute _ _ | noMember _ _ => "AttributeError"
  | missingKey _ => "KeyError"
  | missingModule _ _ => "ModuleNotFoundError"
  | fileExists _ => "FileExistsError"
  | notADirectory _ => "NotADirectoryError"
  | isADirectory _ => "IsADirectoryError"
  | nameTooLong _ => "OSError"
  | unknownEncoding _ | notTextEncoding _ => "LookupError"
  | noHome | lostInEncoding => "RuntimeError"
  | noCharacter | noElement _ => "IndexError"
  | flagTaken _ _ => "ArgumentError"
  | malformedPattern _ => "error"
  | hugeCharacter | hugeCount => "OverflowError"
  | malformedSource => "SyntaxError"
  | unmatchedTag _ _ | nothingToClose _ | badParameters _ _ _ => "MarkupError"
  | ended _ _ => "SystemExit"
  | raised kind _ | derived kind _ _ => kind
  | _ => "TypeError"

/-- Whether a fault is of some kind, be it a narrower one. -/
def isA (f : Fault) (kind : String) : Bool :=
  match f with
  | derived own others _ => kind = own || kind ∈ others
  | f => kind = f.kind || kind ∈ Kind.above f.kind

/-- Names in quotes, the last one behind a word. -/
def quotedNames : List String → String
  | [] => ""
  | [a] => Text.quoted a
  | [a, b] => Text.quoted a ++ " and " ++ Text.quoted b
  | names =>
    String.intercalate ", " (names.dropLast.map Text.quoted) ++ ", and " ++
      Text.quoted (names.getLast?.getD "")

/-- The ending of a word for so many things. -/
def plural (count : Nat) : String := if count = 1 then "" else "s"

/-- The wording of a fault. -/
def message : Fault → String
  | duplicateType name => s!"Type '{name}' is already defined"
  | duplicateMethod name => s!"Method '{name}' is already defined"
  | unknownLocation shown => s!"{shown} is not a valid ParamLocation"
  | noValue member => s!"'NoneType' object has no attribute '{member}'"
  | missingKey name => Text.quoted name
  | emptyImportPart => "expected module:callable"
  | relativeImport name =>
    s!"the 'package' argument is required to perform a relative import for {Text.quoted name}"
  | missingModule name none => s!"No module named {Text.quoted name}"
  | missingModule name (some parent) =>
    s!"No module named {Text.quoted name}; {Text.quoted parent} is not a package"
  | missingAttribute (some moduleName) member =>
    s!"module '{moduleName}' has no attribute '{member}'"
  | missingAttribute none member => s!"module has no attribute '{member}'"
  | notAModel found => s!"expected ApiModel, got {found}"
  | keyNotText => "keywords must be strings"
  | givenTwice owner name => s!"{owner}.__init__() got multiple values for argument '{name}'"
  | unknownArgument owner name =>
    s!"{owner}.__init__() got an unexpected keyword argument '{name}'"
  | missingArguments owner names =>
    s!"{owner}.__init__() missing {names.length} required positional argument" ++
      plural names.length ++ ": " ++ quotedNames names
  | namedArgument owner => s!"{owner}() takes no keyword arguments"
  | noLength kind => s!"object of type '{kind}' has no len()"
  | noNumber operator kind => s!"unsupported operand type(s) for {operator}: '{kind}' and 'int'"
  | notComparable kind => s!"'<=' not supported between instances of '{kind}' and 'int'"
  | notAddable kind => s!"unsupported operand type(s) for +=: '{kind}' and 'str'"
  | noItems kind => s!"'{kind}' object is not iterable"
  | notIndexed kind => s!"'{kind}' object is not subscriptable"
  | notSearched kind => s!"'in <string>' requires string as left operand, not {kind}"
  | itemNotText place kind => s!"sequence item {place}: expected str instance, {kind} found"
  | notAPath kind => s!"expected str, bytes or os.PathLike object, not {kind}"
  | bytesAsPath =>
    "argument should be a str object or an os.PathLike object returning str, not <class 'bytes'>"
  | bytesAsText => "cannot use a string pattern on a bytes-like object"
  | textInBytes => "a bytes-like object is required, not 'str'"
  | textBeforeBytes => "startswith first arg must be bytes or a tuple of bytes, not str"
  | notCuttable => "lstrip arg must be None or str"
  | encodingNotText kind => s!"open() argument 'encoding' must be str or None, not {kind}"
  | unknownEncoding name => s!"unknown encoding: {name}"
  | notTextEncoding name =>
    s!"'{name}' is not a text encoding; use codecs.open() to handle arbitrary codecs"
  | noSeparator kind => s!"must be str or None, not {kind}"
  | notWhole kind => s!"'{kind}' object cannot be interpreted as an integer"
  | hugeCount => "Python int too large to convert to C ssize_t"
  | notAPair kind => s!"cannot unpack non-iterable {kind} object"
  | notRunnable kind => s!"'{kind}' object is not callable"
  | noMember kind member => s!"'{kind}' object has no attribute '{member}'"
  | noHome => "Could not determine home directory."
  | lostInEncoding => "internal codec error"
  | noMembers kind => s!"argument of type '{kind}' is not iterable"
  | fieldOfText => "string indices must be integers, not 'str'"
  | fieldOfList => "list indices must be integers or slices, not str"
  | fileExists path => s!"[Errno 17] File exists: {Text.quoted path}"
  | notADirectory path => s!"[Errno 20] Not a directory: {Text.quoted path}"
  | isADirectory path => s!"[Errno 21] Is a directory: {Text.quoted path}"
  | nameTooLong path => s!"[Errno 36] File name too long: {Text.quoted path}"
  | nullInPath => "embedded null byte"
  | notInBase base shown => s!"invalid literal for int() with base {base}: {shown}"
  | tooManyDigits count =>
    "Exceeds the limit (4300 digits) for integer string conversion: value has " ++ toString count ++
      " digits; use sys.set_int_max_str_digits() to increase the limit"
  | notDecimal shown => s!"could not convert string to float: {shown}"
  | notComplex => "complex() arg is a malformed string"
  | strayUnderscore shown => s!"could not convert string to complex: {shown}"
  | noCharacter => "string index out of range"
  | noElement kind => s!"{kind} index out of range"
  | noSuchMoment part => part.complaint
  | zoneTooFar days seconds =>
    "offset must be a timedelta strictly between -timedelta(hours=24) and timedelta(hours=24), not " ++
      "datetime.timedelta(days=" ++ toString days ++
      (if seconds = 0 then "" else ", seconds=" ++ toString seconds) ++ ")."
  | noSuchCharacter => "chr() arg not in range(0x110000)"
  | hugeCharacter => "Python int too large to convert to C int"
  | notHashable kind => s!"unhashable type: '{kind}'"
  | notAText kind => s!"expected string or bytes-like object, got '{kind}'"
  | flagTaken flag taken =>
    s!"argument {flag}: conflicting option string" ++ plural taken.length ++ ": " ++
      String.intercalate ", " taken
  | malformedPattern problem => problem.message
  | malformedSource => "*"
  | unmatchedTag tag position =>
    s!"closing tag '{tag}' at position {position} doesn't match any open tag"
  | nothingToClose position =>
    s!"closing tag '[/]' at position {position} has nothing to close"
  | badParameters none parameters problem =>
    s!"error parsing {Text.quoted parameters}; {problem}"
  | badParameters (some part) parameters problem =>
    s!"error parsing {Text.quoted part} in {Text.quoted parameters}; {problem}"
  | ended _ text => text
  | raised _ text => text
  | derived _ _ text => text

end Fault

/-- What an operation reports when it fails. -/
inductive Failure where
  /-- A failure with nothing but a message. -/
  | general (message : String)
  /-- A derived type is asked for while no model is bound to the pass. -/
  | modelNotBound (operation : String)
  /-- A derived type would get a name that is taken. -/
  | nameConflict (name source : String)
  /-- The model that a configuration names cannot be loaded. -/
  | modelLoad (importPath : String) (cause : Option Fault)
  /-- A configuration is missing or cannot be used. -/
  | configuration (text : String) (path field : Option String)
  /-- A generated source cannot be written. -/
  | output (path : String) (cause : Option Fault)
  /-- Something is asked for that is not supported. -/
  | unsupported (feature : String) (suggestion : Option String)
  /-- Any other cause, as it is. -/
  | fault (f : Fault)
deriving DecidableEq, Repr

namespace Failure

/-- A part of a message that is left out when there is nothing to say. -/
def suffix (text : Option String) (before after : String) : String :=
  match text with
  | none => ""
  | some "" => ""
  | some t => before ++ t ++ after

/-- What a cause adds to a message. -/
def causeText : Option Fault → String
  | none => ""
  | some f => ": " ++ f.message

/-- The wording of a failure. -/
def message : Failure → String
  | general text => text
  | modelNotBound operation => s!"No API model is bound; cannot resolve '{operation}'"
  | nameConflict name source =>
    s!"Derived type '{name}' for '{source}' conflicts with an existing type"
  | modelLoad path cause => s!"Failed to load API model from '{path}'" ++ causeText cause
  | configuration text path field =>
    text ++ suffix path " in '" "'" ++ suffix field " (field: " ")"
  | output path cause => s!"Failed to write output to '{path}'" ++ causeText cause
  | unsupported feature suggestion =>
    s!"Unsupported feature: {feature}" ++ suffix suggestion ". " ""
  | fault f => f.message

end Failure

end SdkGen
