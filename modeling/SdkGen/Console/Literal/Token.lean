import SdkGen.Text.CharSet
import SdkGen.Text.Quoted
import SdkGen.Text.Word

/-!
# Tokens of literals

The parameters of a tag are read as a literal: numbers, texts and words, with brackets around several of
them. This module cuts their text into tokens. What is no token is a problem, and so is a bracket that
closes another one than the last that was opened.
-/

namespace SdkGen.Console.Literal

inductive TextKind where
  | plain
  | bytes
  /-- Characters with values among them. -/
  | format
deriving DecidableEq, Repr

/-- A problem, by its wording. -/
abbrev Problem := String

/-- A text as it is written. -/
structure Quotation where
  kind : TextKind
  /-- Whether its backslashes stand for themselves. -/
  raw : Bool
  /-- What stands between the quotes. -/
  body : List Char

inductive Token where
  | name (s : String)
  /-- A number, which may be imaginary. -/
  | number (imaginary : Bool)
  /-- A text, and what is wrong with what it holds. -/
  | text (kind : TextKind) (problem : Option Problem)
  /-- A sign or bracket. -/
  | mark (s : String)
  /-- The end of a line outside of brackets, also of the last one. -/
  | newline
  /-- Blanks at the start of a line outside of brackets. -/
  | indent
  /-- A backslash that does not end its line. Nothing is read behind it. -/
  | lineBroken
deriving DecidableEq, Repr

/-- Whether a character may be part of a word. Characters outside ASCII are looked at later. -/
def isWordPart (c : Char) : Bool := c.isAlphanum || c = '_' || 0x80 ≤ c.toNat

/-- A code point in four or more hexadecimal digits. -/
def codeText (c : Char) : String :=
  let digits := (Nat.toDigits 16 c.toNat).map Char.toUpper
  String.ofList (List.replicate (4 - digits.length) '0' ++ digits)

/-- What is wrong with a character that can be part of nothing. -/
def strayCharacter (c : Char) : Problem :=
  if Text.isPrintable c then
    "invalid character '" ++ String.singleton c ++ "' (U+" ++ codeText c ++ ")"
  else "invalid non-printable character U+" ++ codeText c

/-! ## Numbers -/

/-- The digits of a base at the start of a text, with single underscores between them, and what follows; none
if an underscore or a mark is not followed by a digit. -/
def digits? (isDigit : Char → Bool) : List Char → Option (List Char × List Char)
  | [] => some ([], [])
  | '_' :: c :: cs =>
    if isDigit c then (digits? isDigit cs).map fun found => (c :: found.1, found.2) else none
  | c :: cs =>
    if isDigit c then (digits? isDigit cs).map fun found => (c :: found.1, found.2)
    else if c = '_' then none
    else some ([], c :: cs)

/-- Whether a number may end in front of a text: no word in ASCII may follow, except for a few. -/
def endsNumber (cs : List Char) : Bool :=
  !cs.head?.any (fun c => c.isAlphanum || c = '_') ||
    ["and", "else", "for", "if", "in", "is", "or", "not"].any fun w => w.toList.isPrefixOf cs

/-- A number of a kind in front of a text, if it may end there. -/
def ended (kind : String) (imaginary : Bool) (cs : List Char) :
    Except Problem (Token × List Char) :=
  if endsNumber cs then .ok (.number imaginary, cs) else .error ("invalid " ++ kind ++ " literal")

/-- A number in a base other than ten behind its mark. -/
def baseNumber (kind : String) (isDigit : Char → Bool) (cs : List Char) :
    Except Problem (Token × List Char) :=
  let cs := if cs.head? = some '_' then cs.drop 1 else cs
  let wrong := fun (rest : List Char) =>
    match rest with
    | c :: _ =>
      if c.isDigit && kind != "hexadecimal" then
        "invalid digit '" ++ String.singleton c ++ "' in " ++ kind ++ " literal"
      else "invalid " ++ kind ++ " literal"
    | [] => "invalid " ++ kind ++ " literal"
  match digits? isDigit cs with
  | none => .error ("invalid " ++ kind ++ " literal")
  | some ([], rest) => .error (wrong rest)
  | some (_, rest) => if rest.head?.any Char.isDigit then .error (wrong rest) else ended kind false rest

/-- What follows the digits of a number: an exponent, and the mark of imaginary numbers. -/
def numberTail (cs : List Char) : Except Problem (Token × List Char) := do
  let rest ← match cs with
    | e :: rest =>
      if e.toLower = 'e' then
        let signed := rest.head?.any fun c => c = '+' || c = '-'
        let behind := if signed then rest.drop 1 else rest
        if behind.head?.any Char.isDigit then
          match digits? Char.isDigit behind with
          | some (_, rest) => pure rest
          | none => throw "invalid decimal literal"
        else if signed then throw "invalid decimal literal"
        else return ← ended "decimal" false cs
      else pure cs
    | [] => pure []
  match rest with
  | j :: more => if j.toLower = 'j' then ended "imaginary" true more else ended "decimal" false rest
  | [] => return (.number false, [])

/-- A number at the start of a text. -/
def number (cs : List Char) : Except Problem (Token × List Char) :=
  match cs with
  | '0' :: mark :: rest =>
    match mark.toLower with
    | 'x' => baseNumber "hexadecimal" (fun c => c.isDigit || ('a' ≤ c.toLower ∧ c.toLower ≤ 'f')) rest
    | 'o' => baseNumber "octal" (fun c => '0' ≤ c ∧ c ≤ '7') rest
    | 'b' => baseNumber "binary" (fun c => c = '0' ∨ c = '1') rest
    | _ => decimal
  | _ => decimal
where
  /-- A number in base ten. -/
  decimal : Except Problem (Token × List Char) :=
    match digits? Char.isDigit cs with
    | none => .error "invalid decimal literal"
    | some (whole, rest) =>
      match rest with
      | '.' :: behind =>
        match if behind.head? = some '_' then some ([], behind) else digits? Char.isDigit behind with
        | none => .error "invalid decimal literal"
        | some (_, rest) => numberTail rest
      | rest =>
        let marked := rest.head?.any fun c => c.toLower = 'e' || c.toLower = 'j'
        if whole.head? = some '0' && whole.any (· != '0') && !marked then
          .error ("leading zeros in decimal integer literals are not permitted; " ++
            "use an 0o prefix for octal integers")
        else numberTail rest

/-! ## Texts -/

/-- Reads a text up to its closing quotes, one or three, and what follows; none if they are missing. -/
def quotedRest? (quote : Char) (triple : Bool) : List Char → Option (List Char × List Char)
  | [] => none
  | '\\' :: c :: cs =>
    (quotedRest? quote triple cs).map fun found => ('\\' :: c :: found.1, found.2)
  | c :: cs =>
    if c = quote && !triple then some ([], cs)
    else if c = quote && cs.take 2 = [quote, quote] then some ([], cs.drop 2)
    else if c = '\n' && !triple then none
    else (quotedRest? quote triple cs).map fun found => (c :: found.1, found.2)

/-- The kind of a text with some letters in front, if they may stand there, and whether its backslashes stand
for themselves. -/
def textKind? (letters : List Char) : Option (TextKind × Bool) :=
  match String.ofList (letters.map Char.toLower) with
  | "" | "u" => some (.plain, false)
  | "r" => some (.plain, true)
  | "b" => some (.bytes, false)
  | "br" | "rb" => some (.bytes, true)
  | "f" => some (.format, false)
  | "fr" | "rf" => some (.format, true)
  | _ => none

/-- The number of lines that a text on one line goes on for, from behind its opening quote: each backslash at the
end of a line takes it to the next one. -/
def linesOn : List Char → Nat
  | '\\' :: c :: cs => (if c = '\n' then 1 else 0) + linesOn cs
  | c :: cs => if c = '\n' then 0 else linesOn cs
  | [] => 0

/-- A text from its opening quote on. `line` is the number of its line. -/
def quoted (kind : TextKind) (raw : Bool) (line : Nat) : List Char → Except Problem (Quotation × List Char)
  | [] => .error ""
  | quote :: cs =>
    let triple := cs.take 2 = [quote, quote]
    match quotedRest? quote triple (if triple then cs.drop 2 else cs) with
    | some (body, rest) => .ok (⟨kind, raw, body⟩, rest)
    | none =>
      if triple then
        let last := line + cs.count '\n'
        .error ("unterminated triple-quoted string literal (detected at line " ++ toString last ++ ")")
      else
        let last := line + linesOn cs
        .error ("unterminated string literal (detected at line " ++ toString last ++ ")")

/-! ## All tokens -/

/-- The signs of two and three characters. -/
def longMarks : List String :=
  ["...", "**=", "//=", "<<=", ">>=", "!=", "%=", "&=", "**", "*=", "+=", "-=", "->", "//", "/=", ":=",
    "<<", "<=", "<>", "==", ">=", ">>", "@=", "^=", "|="]

/-- The bracket that closes another one. -/
def closing (c : Char) : Char :=
  if c = '(' then ')' else if c = '[' then ']' else '\x7d'

/-- A word, with characters outside ASCII only where words may have them. -/
def word (cs : List Char) : Except Problem Token :=
  match cs.find? fun c => !Text.isWordChar c with
  | some c => .error (strayCharacter c)
  | none => .ok (.name (String.ofList cs))

/-- A bracket that is open at the end. -/
structure OpenBracket where
  bracket : Char
  line : Nat
  /-- The number of tokens up to the end of its line. -/
  before : Nat

/-- The number of brackets that may be open at once. -/
def deepest : Nat := 200

/-- The tokens of a text and the innermost bracket that is open at its end. `problem?` tells what is wrong with
what a text holds; `opened` holds the open brackets with their lines, innermost first; `fresh` tells whether a
line begins here; `fuel` bounds the number of steps. -/
def tokensFrom (problem? : Quotation → Option Problem) (line : Nat) (fresh : Bool) (opened : List (Char × Nat)) :
    Nat → List Char → Except Problem (List Token × Option OpenBracket)
  | 0, _ => .ok ([], none)
  | fuel + 1, cs =>
    let put := fun (t : Token) (found : List Token × Option OpenBracket) =>
      (t :: found.1, found.2.map fun o => if line ≤ o.line then { o with before := o.before + 1 } else o)
    let go := fun (t : Token) (opened : List (Char × Nat)) (rest : List Char) =>
      (tokensFrom problem? line false opened fuel rest).map (put t)
    let textBehind := fun (kind : TextKind) (raw : Bool) (cs : List Char) => do
      let (q, rest) ← quoted kind raw line cs
      let last := line + (cs.take (cs.length - rest.length)).count '\n'
      (tokensFrom problem? last false opened fuel rest).map (put (.text kind (problem? q)))
    match cs with
    | [] =>
      match opened with
      | [] => .ok ([.newline], none)
      | (bracket, line) :: _ => .ok ([], some ⟨bracket, line, 0⟩)
    | c :: rest =>
      if c = '\n' then
        let next := tokensFrom problem? (line + 1) opened.isEmpty opened fuel rest
        if opened.isEmpty && !fresh then next.map (put .newline) else next
      else if c ∈ [' ', '\t', '\x0c'] then
        let blanks := cs.takeWhile (· ∈ [' ', '\t', '\x0c'])
        let rest := cs.drop blanks.length
        if fresh && blanks.getLast? != some '\x0c' && rest.head?.any (· ∉ ['#', '\n']) then
          go .indent opened rest
        else tokensFrom problem? line fresh opened fuel rest
      else if c = '#' then tokensFrom problem? line fresh opened fuel (rest.dropWhile (· != '\n'))
      else if c.isDigit || (c = '.' && rest.head?.any Char.isDigit) then do
        let (t, rest) ← number cs
        go t opened rest
      else if c = '"' || c = '\'' then
        textBehind .plain false cs
      else if isWordPart c then do
        let letters := cs.takeWhile isWordPart
        let behind := cs.drop letters.length
        match if behind.head?.any (· ∈ ['"', '\'']) then textKind? letters else none with
        | some (kind, raw) => textBehind kind raw behind
        | none => go (← word letters) opened behind
      else if c = '\\' then
        if rest.head? = some '\n' && rest.length != 1 then
          tokensFrom problem? (line + 1) false opened fuel (rest.drop 1)
        else .ok ([.lineBroken], none)
      else if c ∈ ['(', '[', '{'] then
        if deepest ≤ opened.length then .error "too many nested parentheses"
        else go (.mark (String.singleton c)) ((c, line) :: opened) rest
      else if c ∈ [')', ']', '}'] then
        match opened with
        | [] => .error ("unmatched '" ++ String.singleton c ++ "'")
        | (o, place) :: others =>
          if c = closing o then go (.mark (String.singleton c)) others rest
          else
            .error ("closing parenthesis '" ++ String.singleton c ++
              "' does not match opening parenthesis '" ++ String.singleton o ++ "'" ++
              (if place = line then "" else " on line " ++ toString place))
      else
        match longMarks.find? fun m => m.toList.isPrefixOf cs with
        | some m => go (.mark m) opened (cs.drop m.length)
        | none =>
          if c.toNat < 0x20 || c.toNat = 0x7F then .error (strayCharacter c)
          else go (.mark (String.singleton c)) opened rest

/-- The tokens of a text and the innermost bracket that is open at its end. -/
def tokens (problem? : Quotation → Option Problem) (cs : List Char) :
    Except Problem (List Token × Option OpenBracket) :=
  tokensFrom problem? 1 true [] (cs.length + 1) cs

end SdkGen.Console.Literal
