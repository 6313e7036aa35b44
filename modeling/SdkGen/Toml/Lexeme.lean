import SdkGen.Decimal.Layout
import SdkGen.Problem
import SdkGen.Text.Numeral
import SdkGen.Value

/-!
# Keys and scalars of TOML

Readers for the parts of a TOML document that hold no other values: bare and quoted keys, the four
kinds of texts, numbers, dates and times. Readers take the characters that are left and return what
they read with the characters that remain, or nothing where the document is malformed; a number may
also have a problem of its own.
-/

namespace SdkGen.Toml

/-- Whether a character is a blank within a line. -/
def isSpace (c : Char) : Bool := c == ' ' || c == '\t'

/-- The characters behind blanks. -/
def skipSpace (cs : List Char) : List Char := cs.dropWhile isSpace

/-- Whether a character is a control character that may not stand in a document, tabs apart. -/
def isControl (c : Char) : Bool := (c.toNat < 0x20 && c != '\t') || c.toNat == 0x7F

/-- The characters behind a comment, if there is one. -/
def skipComment (cs : List Char) : Option (List Char) :=
  match cs with
  | '#' :: rest =>
    let text := rest.takeWhile (· != '\n')
    if text.any isControl then none else some (rest.drop text.length)
  | _ => some cs

/-- The characters behind blanks, ends of lines and comments. `fuel` bounds the number of comments. -/
def skipFiller : Nat → List Char → Option (List Char)
  | 0, cs => some cs
  | fuel + 1, cs =>
    let cs := cs.dropWhile fun c => isSpace c || c == '\n'
    match cs with
    | '#' :: _ => do skipFiller fuel (← skipComment cs)
    | _ => some cs

/-- The value of a hexadecimal digit. -/
def hexValue? (c : Char) : Option Nat :=
  if '0' ≤ c ∧ c ≤ '9' then some (c.toNat - 0x30)
  else if 'a' ≤ c ∧ c ≤ 'f' then some (c.toNat - 0x57)
  else if 'A' ≤ c ∧ c ≤ 'F' then some (c.toNat - 0x37)
  else none

/-- The character of an escape with a fixed number of hexadecimal digits. -/
def readCode (width : Nat) (cs : List Char) : Option (Char × List Char) := do
  let digits ← (cs.take width).mapM hexValue?
  let code := digits.foldl (fun n d => 16 * n + d) 0
  if digits.length = width ∧ (code < 0xD800 ∨ (0xDFFF < code ∧ code < 0x110000)) then
    some (Char.ofNat code, cs.drop width)
  else none

/-- The character that a short escape stands for. -/
def shortEscape? : Char → Option Char
  | 'b' => some '\x08'
  | 't' => some '\t'
  | 'n' => some '\n'
  | 'f' => some '\x0c'
  | 'r' => some '\r'
  | '"' => some '"'
  | '\\' => some '\\'
  | _ => none

/-- An escape behind its backslash. In a text of several lines, a backslash in front of the end of a
line takes away that end and all blanks behind it. -/
def readEscape (multiline : Bool) (cs : List Char) : Option (List Char × List Char) :=
  match cs with
  | [] => none
  | 'u' :: r => (readCode 4 r).map fun (c, r) => ([c], r)
  | 'U' :: r => (readCode 8 r).map fun (c, r) => ([c], r)
  | c :: r =>
    if multiline && (isSpace c || c == '\n') then
      match skipSpace cs with
      | [] => some ([], [])
      | '\n' :: r => some ([], r.dropWhile fun c => isSpace c || c == '\n')
      | _ => none
    else (shortEscape? c).map fun d => ([d], r)

/-- The body of a basic text up to its closing quotes; `acc` holds what was read, in reverse. -/
def readBasic (multiline : Bool) (acc : List Char) : Nat → List Char → Option (List Char × List Char)
  | 0, _ => none
  | fuel + 1, cs =>
    match cs with
    | [] => none
    | '"' :: r =>
      if !multiline then some (acc.reverse, r)
      else
        match r with
        | '"' :: '"' :: r => some (acc.reverse, r)
        | _ => readBasic multiline ('"' :: acc) fuel r
    | '\\' :: r =>
      match readEscape multiline r with
      | some (text, r) => readBasic multiline (text.reverse ++ acc) fuel r
      | none => none
    | c :: r =>
      if isControl c && !(multiline && c == '\n') then none else readBasic multiline (c :: acc) fuel r

/-- The body of a literal text up to its closing quotes. -/
def readLiteral (multiline : Bool) (acc : List Char) : List Char → Option (List Char × List Char)
  | [] => none
  | '\'' :: '\'' :: '\'' :: r =>
    if multiline then some (acc.reverse, r) else some (acc.reverse, '\'' :: '\'' :: r)
  | '\'' :: r => if multiline then readLiteral multiline ('\'' :: acc) r else some (acc.reverse, r)
  | c :: r =>
    if isControl c && !(multiline && c == '\n') then none else readLiteral multiline (c :: acc) r

/-- Up to two more quotes behind the closing quotes belong to a text of several lines. -/
def takeQuotes (quote : Char) (text cs : List Char) : String × List Char :=
  match cs with
  | a :: b :: r =>
    if a == quote && b == quote then (String.ofList (text ++ [quote, quote]), r)
    else if a == quote then (String.ofList (text ++ [quote]), b :: r)
    else (String.ofList text, cs)
  | [a] => if a == quote then (String.ofList (text ++ [quote]), []) else (String.ofList text, cs)
  | [] => (String.ofList text, [])

/-- The characters behind the end of a line, if it comes first. -/
def dropNewline : List Char → List Char
  | '\n' :: r => r
  | cs => cs

/-- A text from its first quote on. -/
def readText (cs : List Char) : Option (String × List Char) :=
  match cs with
  | '"' :: '"' :: '"' :: r => do
    let (text, r) ← readBasic true [] (cs.length + 1) (dropNewline r)
    some (takeQuotes '"' text r)
  | '\'' :: '\'' :: '\'' :: r => do
    let (text, r) ← readLiteral true [] (dropNewline r)
    some (takeQuotes '\'' text r)
  | '"' :: r => (readBasic false [] (cs.length + 1) r).map fun (t, r) => (String.ofList t, r)
  | '\'' :: r => (readLiteral false [] r).map fun (t, r) => (String.ofList t, r)
  | _ => none

/-- Whether a character may stand in a key without quotes. -/
def isBare (c : Char) : Bool := c.isAlphanum || c == '-' || c == '_'

def readKeyPart (cs : List Char) : Option (String × List Char) :=
  match cs with
  | '"' :: r => (readBasic false [] (cs.length + 1) r).map fun (t, r) => (String.ofList t, r)
  | '\'' :: r => (readLiteral false [] r).map fun (t, r) => (String.ofList t, r)
  | _ =>
    match cs.takeWhile isBare with
    | [] => none
    | part => some (String.ofList part, cs.dropWhile isBare)

/-- A key: parts joined by dots. -/
def readKey : Nat → List Char → Option ((List String) × List Char)
  | 0, _ => none
  | fuel + 1, cs => do
    let (part, r) ← readKeyPart cs
    match skipSpace r with
    | '.' :: r =>
      let (parts, r) ← readKey fuel (skipSpace r)
      some (part :: parts, r)
    | r => some ([part], r)

/-- The digits of a base at the start, with single underscores between them, as far as they go. -/
def takeDigits (isDigit : Char → Bool) : List Char → List Char × List Char
  | c :: '_' :: d :: r =>
    if isDigit c && isDigit d then
      let (ds, r) := takeDigits isDigit (d :: r)
      (c :: ds, r)
    else if isDigit c then ([c], '_' :: d :: r)
    else ([], c :: '_' :: d :: r)
  | c :: r =>
    if isDigit c then
      let (ds, r) := takeDigits isDigit r
      (c :: ds, r)
    else ([], c :: r)
  | [] => ([], [])
termination_by cs => cs.length

/-- The number that digits write. -/
def digitsIn (base : Nat) (ds : List Char) : Nat :=
  ds.foldl (fun n c => base * n + (hexValue? c).getD 0) 0

/-- Whether a character is a digit of a base. -/
def isDigitOf (base : Nat) (c : Char) : Bool := (hexValue? c).any (· < base)

/-- A whole number behind the mark of its base. -/
def readBased (base : Nat) (cs : List Char) : Option (Value × List Char) :=
  match takeDigits (isDigitOf base) cs with
  | ([], _) => none
  | (ds, r) => some (.int (digitsIn base ds), r)

/-- A number from its whole part on. A whole number may not have too many digits. -/
def readMagnitude (negative : Bool) (cs : List Char) : Except Problem (Value × List Char) :=
  let (whole, r) := match cs with
    | '0' :: r => (['0'], r)
    | _ => takeDigits Char.isDigit cs
  if whole.isEmpty then .error .malformed
  else
    let (fraction, r') := match r with
      | '.' :: s =>
        match takeDigits Char.isDigit s with
        | ([], _) => ([], r)
        | found => found
      | _ => ([], r)
    let exponent : Option (Int × List Char) := match r' with
      | e :: s =>
        if e == 'e' || e == 'E' then
          let (minus, s) := match s with
            | '-' :: s => (true, s)
            | '+' :: s => (false, s)
            | s => (false, s)
          match takeDigits Char.isDigit s with
          | ([], _) => none
          | (ds, s) => some (if minus then -(digitsIn 10 ds : Int) else digitsIn 10 ds, s)
        else none
      | [] => none
    match fraction.isEmpty, exponent with
    | true, none =>
      if Text.maxDigits < whole.length then .error (.fault (.tooManyDigits whole.length))
      else
        let n : Int := digitsIn 10 whole
        .ok (.int (if negative then -n else n), r')
    | _, _ =>
      let (e, r'') := exponent.getD (0, r')
      .ok (.float (Decimal.toFloat negative (digitsIn 10 (whole ++ fraction)) (e - fraction.length)), r'')

def readNumber (cs : List Char) : Except Problem (Value × List Char) :=
  match cs with
  | '0' :: 'x' :: r => .ok ((readBased 16 r).getD (.int 0, 'x' :: r))
  | '0' :: 'o' :: r => .ok ((readBased 8 r).getD (.int 0, 'o' :: r))
  | '0' :: 'b' :: r => .ok ((readBased 2 r).getD (.int 0, 'b' :: r))
  | '-' :: 'i' :: 'n' :: 'f' :: r => .ok (.float (-1 / 0), r)
  | '+' :: 'i' :: 'n' :: 'f' :: r | 'i' :: 'n' :: 'f' :: r => .ok (.float (1 / 0), r)
  | '-' :: 'n' :: 'a' :: 'n' :: r | '+' :: 'n' :: 'a' :: 'n' :: r | 'n' :: 'a' :: 'n' :: r =>
    .ok (.float (0 / 0), r)
  | '-' :: r => readMagnitude true r
  | '+' :: r => readMagnitude false r
  | _ => readMagnitude false cs

/-- A number of exactly so many digits between two bounds. -/
def fixedDigits (width least most : Nat) (cs : List Char) : Option (Nat × List Char) :=
  let ds := cs.take width
  let n := digitsIn 10 ds
  if ds.length = width ∧ ds.all Char.isDigit ∧ least ≤ n ∧ n ≤ most then some (n, cs.drop width)
  else none

/-- The characters behind a character, which has to come first. -/
def expect (c : Char) : List Char → Option (List Char)
  | d :: r => if c = d then some r else none
  | [] => none

/-- A time of day; fractions of a second have any number of digits. -/
def readTime (cs : List Char) : Option (DayTime × List Char) := do
  let (hour, r) ← fixedDigits 2 0 23 cs
  let (minute, r) ← fixedDigits 2 0 59 (← expect ':' r)
  let (second, r) ← fixedDigits 2 0 59 (← expect ':' r)
  let (fraction, r) := match r with
    | '.' :: s => if (s.takeWhile Char.isDigit).isEmpty then ([], r) else s.span Char.isDigit
    | _ => ([], r)
  let millionths := digitsIn 10 (fraction.take 6 ++ List.replicate (6 - fraction.length) '0')
  return ({ hour, minute, second, millionths }, r)

/-- The zone of a time, if there is one, and the characters behind it. -/
def readZone (cs : List Char) : Option Int × List Char :=
  let offset : Option (Option Int × List Char) := do
    let sign :: r := cs | none
    if sign != '+' && sign != '-' then none
    let (hours, r) ← fixedDigits 2 0 23 r
    let (minutes, r) ← fixedDigits 2 0 59 (← expect ':' r)
    let zone : Int := 60 * hours + minutes
    some (some (if sign = '-' then -zone else zone), r)
  match cs with
  | 'Z' :: r | 'z' :: r => (some 0, r)
  | _ => offset.getD (none, cs)

/-- A date, with the time behind it if there is one. The outer option says whether what follows has the
form of a date, the inner one whether there is such a day. -/
def readDate (cs : List Char) : Option (Option (Value × List Char)) := do
  let (year, r) ← fixedDigits 4 0 9999 cs
  let (month, r) ← fixedDigits 2 1 12 (← expect '-' r)
  let (day, r) ← fixedDigits 2 1 31 (← expect '-' r)
  if year = 0 ∨ daysIn year month < day then some none
  else
    let time : Option (DayTime × List Char) := match r with
      | 'T' :: s | 't' :: s | ' ' :: s => readTime s
      | _ => none
    match time with
    | some (t, s) =>
      let (zone, s) := readZone s
      some (some (.moment (.dateTime { year, month, day } { t with zone }), s))
    | none => some (some (.moment (.date { year, month, day }), r))

/-- A number, date or time, from its first character on. -/
def readScalar (cs : List Char) : Except Problem (Value × List Char) :=
  match readDate cs with
  | some found => Problem.need found
  | none =>
    match readTime cs with
    | some (t, r) => .ok (.moment (.time t), r)
    | none => readNumber cs

end SdkGen.Toml
