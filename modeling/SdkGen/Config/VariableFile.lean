import SdkGen.Text.Blank

/-!
# Files of variables

A file of variables is a sequence of statements: a name, an equals sign and a text, which may stand in
quotes and then go over several lines. A hash sign begins a remark. A name alone is a statement too; it
has no text. What is no statement is passed over up to the end of its line.

A text may name variables between `$` with a brace and the closing brace: those of the environment, and
those that were set before in the same file.
-/

namespace SdkGen.Config.VariableFile

/-- A variable and its text, if it has one. -/
abbrev Assignment := String × Option String

/-- A text without the blanks at its start that are on the same line. -/
def withoutSpaces (cs : List Char) : List Char :=
  cs.dropWhile fun c => Text.isBlank c && c != '\n'

/-- What comes behind the line. -/
def afterLine (cs : List Char) : List Char := (cs.dropWhile (· != '\n')).drop 1

/-- A statement without the word that marks it for export. -/
def withoutExport (cs : List Char) : List Char :=
  let word := "export".toList
  let rest := cs.drop word.length
  if word.isPrefixOf cs && (withoutSpaces rest).length < rest.length then withoutSpaces rest else cs

/-- Reads a name, which may stand in single quotes, and what follows it. -/
def name? : List Char → Option (List Char × List Char)
  | '\'' :: cs =>
    match cs.span (· != '\'') with
    | ([], _) | (_, []) => none
    | (name, _ :: rest) => some (name, rest)
  | cs =>
    match cs.span fun c => c != '=' && c != '#' && !Text.isBlank c with
    | ([], _) => none
    | found => some found

/-- Reads up to a quote and what follows it. A backslash takes the character behind it along, be it the
quote. -/
def enclosed? (quote : Char) : List Char → Option (List Char × List Char)
  | [] => none
  | '\\' :: c :: cs => (enclosed? quote cs).map fun found => ('\\' :: c :: found.1, found.2)
  | c :: cs =>
    if c = quote then some ([], cs)
    else (enclosed? quote cs).map fun found => (c :: found.1, found.2)

/-- What may stand behind a backslash in double quotes, and what it means. -/
def escapes : List (Char × Char) :=
  [('\\', '\\'), ('\'', '\''), ('"', '"'), ('a', '\x07'), ('b', '\x08'), ('f', '\x0c'),
    ('n', '\n'), ('r', '\r'), ('t', '\t'), ('v', '\x0b')]

/-- Puts characters in place of what stands for them behind a backslash. -/
def unescaped (meanings : List (Char × Char)) : List Char → List Char
  | '\\' :: c :: cs =>
    match meanings.lookup c with
    | some d => d :: unescaped meanings cs
    | none => '\\' :: unescaped meanings (c :: cs)
  | c :: cs => c :: unescaped meanings cs
  | [] => []

/-- A text up to the remark that follows it, which begins behind a blank. -/
def withoutRemark : List Char → List Char
  | [] => []
  | c :: cs =>
    if Text.isBlank c && (cs.dropWhile Text.isBlank).head? = some '#' then []
    else c :: withoutRemark cs

/-- Reads the text behind an equals sign and what follows it; there is none if a quote is missing. -/
def text? (behind : List Char) : Option (List Char × List Char) :=
  match withoutSpaces behind with
  | '\'' :: cs =>
    (enclosed? '\'' cs).map fun found => (unescaped (escapes.take 2) found.1, found.2)
  | '"' :: cs => (enclosed? '"' cs).map fun found => (unescaped escapes found.1, found.2)
  | _ =>
    let (line, rest) := behind.span (· != '\n')
    some (withoutSpaces (Text.trimRight (withoutRemark line)), rest)

/-- What comes behind the end of a line; only a remark may come before it. -/
def lineEnd? (cs : List Char) : Option (List Char) :=
  let cs := withoutSpaces cs
  match if cs.head? = some '#' then cs.dropWhile (· != '\n') else cs with
  | [] => some []
  | c :: rest => if c = '\n' then some rest else none

/-- Reads one statement and tells what follows it. A remark alone sets nothing, and neither does what is
no statement. -/
def statement (cs : List Char) : Option Assignment × List Char :=
  let cs := withoutExport cs
  match name? cs with
  | none => (none, afterLine cs)
  | some (name, rest) =>
    let found := match withoutSpaces rest with
      | '=' :: behind => (text? behind).map fun t => (some (String.ofList t.1), t.2)
      | rest => some (none, rest)
    match found with
    | none => (none, afterLine rest)
    | some (text, rest) =>
      match lineEnd? rest with
      | some rest => (some (String.ofList name, text), rest)
      | none => (none, afterLine rest)

/-- The statements of a file. -/
def statements (cs : List Char) : List Assignment :=
  let start := cs.dropWhile Text.isBlank
  if start.isEmpty then []
  else
    let (found, rest) := statement start
    found.toList ++ if _h : rest.length < cs.length then statements rest else []
termination_by cs.length

/-- Reads the name of a variable behind its opening brace, the text to take if there is none of that
name, and what follows the closing brace. -/
def reference? (cs : List Char) : Option (List Char × List Char × List Char) :=
  match cs.span fun c => c != '}' && c != ':' with
  | (name, '}' :: rest) => some (name, [], rest)
  | (name, ':' :: '-' :: behind) =>
    match behind.span (· != '}') with
    | (default, '}' :: rest) => some (name, default, rest)
    | _ => none
  | _ => none

/-- A text with the texts of the variables that it names. -/
def expanded (known : String → Option String) (cs : List Char) : List Char :=
  match cs with
  | [] => []
  | c :: rest =>
    match if c = '$' && rest.head? = some '{' then reference? (rest.drop 1) else none with
    | none => c :: expanded known rest
    | some (name, default, more) =>
      ((known (String.ofList name)).getD (String.ofList default)).toList ++
        if _h : more.length ≤ rest.length then expanded known more else []
termination_by cs.length

/-- The text of a variable that was set before, or else in the environment. One that was set without
text counts as empty. -/
def known (environment : List (String × String)) (set : List Assignment) (name : String) :
    Option String :=
  match set.reverse.lookup name with
  | some text => some (text.getD "")
  | none => environment.reverse.lookup name

/-- The characters of a file behind the mark of the byte order, which may stand at its start. -/
def withoutMark (file : String) : List Char :=
  match file.toList with
  | '\ufeff' :: cs => cs
  | cs => cs

/-- The variables that a file sets, with all names in their texts replaced. -/
def assignments (environment : List (String × String)) (file : String) : List Assignment :=
  (statements (withoutMark file)).foldl (fun set a =>
    set ++ [(a.1, a.2.map fun t =>
      String.ofList (expanded (known environment set) t.toList))]) []

end SdkGen.Config.VariableFile
