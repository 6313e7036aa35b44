import SdkGen.Console.Literal.Content
import SdkGen.Console.Literal.Reader
import SdkGen.Text.Blank

/-!
# Texts with values among them

Such a text holds expressions in braces among its characters; a brace that is written twice stands for itself.
Behind an expression may come an equals sign, a mark of conversion and a format, which may hold expressions
again, but none with a format of its own. What is wrong with an expression is told as what is wrong with the
text.
-/

namespace SdkGen.Console.Literal.Format

/-- Whether a character is a brace. -/
def isBrace (c : Char) : Bool := c = '{' || c = '}'

/-- The number of characters that a character takes along with it: a backslash takes the next one if that is no
brace, and a name in braces behind an `N`. -/
def taken (raw : Bool) (c : Char) (cs : List Char) : Nat :=
  if raw || c != '\\' then 0
  else
    match cs with
    | [] => 0
    | 'N' :: '{' :: rest => (rest.takeWhile (· != '}')).length + 3
    | 'N' :: _ => 2
    | next :: _ => if isBrace next then 0 else 1

/-- The characters up to the next brace and what follows. Outside of formats (`top`) a brace that is written
twice is one of the characters, and they end there; it is told if they do. -/
def characters (raw top : Bool) : List Char → Except Problem (List Char × Bool × List Char)
  | [] => .ok ([], false, [])
  | c :: cs =>
    if isBrace c then
      if top && cs.head? = some c then .ok ([c], true, cs.drop 1)
      else if top && c = '}' then .error "f-string: single '\x7d' is not allowed"
      else .ok ([], false, c :: cs)
    else
      let count := taken raw c cs
      (characters raw top (cs.drop count)).map fun found => (c :: cs.take count ++ found.1, found.2)
termination_by cs => cs.length
decreasing_by
  simp only [List.length_drop, List.length_cons]
  omega

/-- The expression at the start of a text and what follows: it ends where brackets are closed, in front of a
brace, a colon, an equals sign or an exclamation mark. `opened` holds the open brackets, innermost first, and
`quote` is the quote of the text that is open, with whether it is written three times. -/
def expression (opened : List Char) (quote : Option (Char × Bool)) :
    List Char → Except Problem (List Char × List Char)
  | [] =>
    match quote, opened with
    | some _, _ => .error "f-string: unterminated string"
    | none, bracket :: _ => .error ("f-string: unmatched '" ++ String.singleton bracket ++ "'")
    | none, [] => .ok ([], [])
  | c :: cs =>
    let go := fun (count : Nat) (opened : List Char) (quote : Option (Char × Bool)) =>
      (expression opened quote (cs.drop count)).map fun found => (c :: cs.take count ++ found.1, found.2)
    if c = '\\' then .error "f-string expression part cannot include a backslash"
    else
      match quote with
      | some (q, triple) =>
        if c = q && !triple then go 0 opened none
        else if c = q && cs.take 2 = [q, q] then go 2 opened none
        else go 0 opened quote
      | none =>
        if c = '\'' || c = '"' then
          if cs.take 2 = [c, c] then go 2 opened (some (c, true)) else go 0 opened (some (c, false))
        else if c ∈ ['(', '[', '{'] then
          if deepest ≤ opened.length then .error "f-string: too many nested parenthesis"
          else go 0 (c :: opened) none
        else if c = '#' then .error "f-string expression part cannot include '#'"
        else if opened.isEmpty && c ∈ ['!', '=', '<', '>'] && cs.head? = some '=' then go 1 opened none
        else if opened.isEmpty && c ∈ ['!', ':', '}', '='] then .ok ([], c :: cs)
        else if c ∈ [')', ']', '}'] then
          match opened with
          | [] => .error ("f-string: unmatched '" ++ String.singleton c ++ "'")
          | bracket :: opened =>
            if c = closing bracket then go 0 opened none
            else
              .error ("f-string: closing parenthesis '" ++ String.singleton c ++
                "' does not match opening parenthesis '" ++ String.singleton bracket ++ "'")
        else go 0 opened none
termination_by cs => cs.length
decreasing_by
  simp only [List.length_drop, List.length_cons]
  omega

/-- What is missing where an expression does not end. -/
def noEnd : Problem := "f-string: expecting '\x7d'"

/-- The blanks that may make up an expression. -/
def isBlank (c : Char) : Bool := c ∈ [' ', '\t', '\n', '\x0c']

/-- Fails where an expression is empty that ends in front of a character. -/
def filled (expression : List Char) (ending : Char) : Except Problem Unit :=
  if !expression.all isBlank then .ok ()
  else if ending = '}' then .error "f-string: empty expression not allowed"
  else .error ("f-string: expression required before '" ++ String.singleton ending ++ "'")

/-- What follows an expression behind its equals sign, if it has one. -/
def behindEquals : List Char → List Char
  | '=' :: cs => cs.dropWhile fun c => isBlank c || c = '\r' || c = '\x0b'
  | cs => cs

/-- What follows the mark of conversion, if there is one. -/
def behindConversion : List Char → Except Problem (List Char)
  | ['!'] => .error noEnd
  | '!' :: c :: cs =>
    if c ∈ ['s', 'r', 'a'] then .ok cs
    else .error "f-string: invalid conversion character: expected 's', 'r', or 'a'"
  | cs => .ok cs

/-- Looks at what a text holds, in formats up to their closing brace, and gives what follows. `inner?` tells
what is wrong with an expression in full, `front` stands in front of what is wrong otherwise, `depth` is the
number of formats around, and `fuel` bounds the number of steps. -/
def parts (inner? : List Char → Option Problem) (front : Problem) (raw : Bool) :
    Nat → Nat → List Char → Except Problem (List Char)
  | 0, _, _ => .ok []
  | fuel + 1, depth, cs => do
    let told := fun {α : Type} (e : Except Problem α) => e.mapError (front ++ ·)
    let (held, doubled, rest) ← told (characters raw (depth == 0) cs)
    match plainProblem? raw held, doubled, rest with
    | some problem, _, _ => told (.error problem)
    | none, true, rest => parts inner? front raw fuel depth rest
    | none, false, '{' :: rest => do
      if 2 ≤ depth then told (.error "f-string: expressions nested too deeply")
      let (held, rest) ← told (expression [] none rest)
      match rest with
      | [] => told (.error noEnd)
      | ending :: _ =>
        told (filled held ending)
        match inner? held with
        | some problem => throw problem
        | none =>
          let rest := behindEquals rest
          if rest.isEmpty then told (.error noEnd)
          let rest ← told (behindConversion rest)
          let rest ← match rest with
            | [':'] => told (.error noEnd)
            | ':' :: rest => parts inner? front raw fuel (depth + 1) rest
            | rest => pure rest
          match rest with
          | '}' :: rest => parts inner? front raw fuel depth rest
          | _ => told (.error noEnd)
    | none, false, rest => return rest

end Format

/-- What is wrong with what a text holds. `front` stands in front of what is said of the expression that the
text is part of, and `level` bounds the number of texts inside each other. -/
def problemAt : Nat → Problem → Quotation → Option Problem
  | 0, _, _ => none
  | level + 1, front, q =>
    let inner? := fun (cs : List Char) =>
      let around := "f-string: "
      match tokens (problemAt level around) ('(' :: cs ++ [')']) with
      | .error problem => some problem
      | .ok (ts, opened) =>
        match read around ts opened with
        | .error problem => some problem
        | .ok _ => none
    match q.kind with
    | .plain => (plainProblem? q.raw q.body).map (front ++ ·)
    | .bytes => (bytesProblem? q.raw q.body).map (front ++ ·)
    | .format =>
      match Format.parts inner? front q.raw (q.body.length + 1) 0 q.body with
      | .error problem => some problem
      | .ok _ => none

/-- The expression that a text makes. -/
def ofText (cs : List Char) : Except Problem Shape := do
  if '\x00' ∈ cs then throw "source code string cannot contain null bytes"
  let (ts, opened) ← tokens (problemAt (cs.length + 1) "") (Text.unifyLines cs)
  read "" ts opened

end SdkGen.Console.Literal
