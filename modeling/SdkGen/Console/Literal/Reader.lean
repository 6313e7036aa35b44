import SdkGen.Console.Literal.Token

/-!
# Reading literals

An expression is read from its tokens as far as it has to be known: which literal it is, or that it is
none. Where the tokens make no expression, the place where they stop to make one tells what is wrong:
two expressions side by side inside brackets lack a comma, an equals sign is no comparison, and so on.
-/

namespace SdkGen.Console.Literal

/-- What an expression is. -/
inductive Shape where
  /-- A word that names something. -/
  | name (s : String)
  | number (imaginary signed : Bool)
  /-- A text or a fixed value; `kind` is the kind of constant. -/
  | constant (kind : String)
  /-- Several expressions in order. -/
  | tuple (items : List Shape)
  /-- Several expressions, each once. -/
  | set (items : List Shape)
  /-- The set without items. -/
  | emptySet
  /-- Keys with their values; a key may be missing where entries are spread. -/
  | dict (entries : List (Option Shape × Shape))
  /-- An expression of a kind that is no literal. -/
  | other (kind : String)
deriving Inhabited

/-- What an expression is called. -/
def Shape.kindName : Shape → String
  | .name _ => "name"
  | .number false false | .number true false => "literal"
  | .number _ true => "expression"
  | .constant kind => kind
  | .tuple _ => "tuple"
  | .set _ => "set display"
  | .emptySet => "function call"
  | .dict _ => "dict literal"
  | .other kind => kind

/-- Where reading stops, and what is wrong there if it is known. -/
structure Stop where
  rest : List Token
  text : Option Problem := none
  /-- Whether it is known as soon as it is met, whatever stands around it. -/
  sure : Bool := false
  /-- Whether what is wrong is worded in full. -/
  full : Bool := false

/-- Whether nothing more can be read: at the end while a bracket is open, or at a backslash that does not end its
line. -/
def isOver (ts : List Token) : Bool := ts.isEmpty || ts.head? = some .lineBroken

/-- Stops for an unknown reason. -/
def stop {α : Type} (ts : List Token) : Except Stop (α × List Token) := .error { rest := ts }

/-- Stops for a known reason; at the end of the tokens, that is the reason. -/
def refuse {α : Type} (ts : List Token) (text : Problem) : Except Stop (α × List Token) :=
  .error { rest := ts, text := if isOver ts then none else some text }

/-- Stops because of texts, in front of what follows them. -/
def refuseTexts {α : Type} (ts : List Token) (text : Problem) (full : Bool) : Except Stop (α × List Token) :=
  let isText : Token → Bool := fun
    | .text _ _ => true
    | _ => false
  .error { rest := ts.dropWhile isText, text := some text, sure := true, full }

/-- Stops for a reason that is known as soon as it is met. -/
def refuseAtOnce {α : Type} (ts : List Token) (text : Problem) : Except Stop (α × List Token) :=
  if isOver ts then stop ts else .error { rest := ts, text := some text, sure := true }

/-- Words that are no names. -/
def keywords : List String :=
  ["False", "None", "True", "and", "as", "assert", "async", "await", "break", "class", "continue", "def",
    "del", "elif", "else", "except", "finally", "for", "from", "global", "if", "import", "in", "is",
    "lambda", "nonlocal", "not", "or", "pass", "raise", "return", "try", "while", "with", "yield"]

/-- Words that are names but for a few places. -/
def softKeywords : List String := ["_", "case", "match"]

/-- The signs between two expressions that make numbers of numbers. -/
def arithmetic : List String := ["+", "-", "*", "/", "//", "%", "@", "**", "|", "&", "^", "<<", ">>"]

/-- The signs that compare two expressions. -/
def comparisons : List String := ["==", "!=", "<", ">", "<=", ">="]

/-- A sign between two expressions: what it is called, whether `not` may follow it, and the tokens that
follow. -/
def betweenSign? (logic : Bool) : List Token → Option (String × Bool × List Token)
  | .name "not" :: .name "in" :: ts => if logic then some ("in", false, ts) else none
  | .name "is" :: .name "not" :: ts => if logic then some ("is", false, ts) else none
  | .name s :: ts =>
    if logic && s ∈ ["and", "or"] then some (s, true, ts)
    else if logic && s ∈ ["in", "is"] then some (s, false, ts)
    else none
  | .mark s :: ts =>
    if s ∈ arithmetic || (logic && s ∈ comparisons) then some (s, false, ts) else none
  | _ => none

/-- An expression with a sign in front. -/
def Shape.withSign (sign : String) : Shape → Shape
  | .number imaginary false =>
    if sign ∈ ["+", "-"] then .number imaginary true else .other "expression"
  | _ => .other "expression"

/-- Two expressions with a sign between them. A real number and an imaginary one make a number. -/
def Shape.between (sign : String) (left right : Shape) (single : Bool) : Shape :=
  match left, right with
  | .number false _, .number true false =>
    if single && sign ∈ ["+", "-"] then .constant "expression" else .other "expression"
  | _, _ => .other (if sign ∈ comparisons || sign ∈ ["in", "is"] then "comparison" else "expression")

/-- Whether the first token may begin an expression. -/
def mayBegin : List Token → Bool
  | .name s :: _ => s ∉ keywords || s ∈ ["False", "None", "True", "await", "lambda", "not"]
  | .number _ :: _ | .text _ _ :: _ => true
  | .mark s :: _ => s ∈ ["(", "\x7b", "+", "-", "~", "..."]
  | _ => false

/-- Goes on behind a star, where an expression has to begin. -/
def behindStar (ts : List Token) : Except Stop (Unit × List Token) :=
  if mayBegin ts then .ok ((), ts) else refuseAtOnce ts "Invalid star expression"

/-- Whether an expression begins in a way that two of them side by side are taken for something else than a
list without its comma. -/
def isUnlisted : List Token → Bool
  | .name s :: .text _ _ :: _ => s ∉ ["False", "None", "True", "not", "await", "lambda"]
  | .name s :: _ => s ∈ softKeywords
  | _ => false

/-- Words that are taken for calls without brackets. -/
def callWords : List String := ["print", "exec"]

/-- What is wrong with such a word in front of an expression. -/
def noCall (word : String) : Problem :=
  "Missing parentheses in call to '" ++ word ++ "'. Did you mean " ++ word ++ "(...)?"

/-- What is wrong with two expressions side by side. -/
def noComma : Problem := "invalid syntax. Perhaps you forgot a comma?"

/-- Whether an equals sign behind an expression is not looked at any further. -/
def Shape.takesNoValue : Shape → Bool
  | .tuple _ => true
  | .constant kind => kind ∈ ["None", "True", "False"]
  | .other kind => kind = "generator expression"
  | _ => false

/-- What is wrong with an equals sign behind an expression where none can be. -/
def equalsProblem (s : Shape) (ts : List Token) : Except Stop (Shape × List Token) :=
  let noPlace := fun (kind : String) =>
    refuse ts ("cannot assign to " ++ kind ++ " here. Maybe you meant '==' instead of '='?")
  match s with
  | .name _ => refuse ts "invalid syntax. Maybe you meant '==' or ':=' instead of '='?"
  | .other kind =>
    if kind ∈ ["comparison", "conditional expression", "lambda"] then stop ts else noPlace kind
  | s => noPlace s.kindName

/-- The end of something in brackets. -/
def closed (ts : List Token) (bracket : String) (s : Shape) : Except Stop (Shape × List Token) :=
  match ts with
  | .mark b :: rest => if b = bracket then .ok (s, rest) else stop ts
  | ts => stop ts

/-- Whether the first token is an expression of its own. -/
def beginsSimply : List Token → Bool
  | .name s :: _ => s ∉ keywords || s ∈ ["False", "None", "True"]
  | .number _ :: _ | .text _ _ :: _ => true
  | _ => false

/-- The texts that stand side by side, all of one kind. -/
def adjacentTexts (bytes format : Bool) : List Token → Except Stop (Shape × List Token)
  | .text kind problem :: ts =>
    let mixed := (kind = .bytes) != bytes
    match if mixed && kind = .format then none else problem with
    | some problem => refuseTexts ts problem true
    | none =>
      if mixed then refuseTexts ts "cannot mix bytes and nonbytes literals" false
      else adjacentTexts bytes (format || kind = .format) ts
  | ts => .ok (if format then .other "f-string expression" else .constant "literal", ts)

mutual

/-- Expressions with signs between them; `logic` admits comparisons and the words of logic, and `negation`
a `not` in front. Tells whether there is only one. -/
def chain (logic negation : Bool) : Nat → List Token → Except Stop ((Shape × Bool) × List Token)
  | 0, ts => stop ts
  | fuel + 1, ts => do
    let (first, ts) ← operand negation fuel ts
    match betweenSign? logic ts with
    | none => return ((first, true), ts)
    | some (sign, negation, ts) =>
      let ((right, single), ts) ← chain logic negation fuel ts
      return ((first.between sign right single, false), ts)

/-- An expression without signs behind it. -/
def operand (negation : Bool) : Nat → List Token → Except Stop (Shape × List Token)
  | 0, ts => stop ts
  | fuel + 1, ts =>
    match ts with
    | .name "not" :: rest =>
      if negation then do
        let (_, ts) ← operand true fuel rest
        return (.other "expression", ts)
      else stop ts
    | .name "await" :: rest => do
      let (_, ts) ← primary fuel rest
      return (.other "await expression", ts)
    | .mark sign :: rest =>
      if sign ∈ ["+", "-", "~"] then do
        let (inner, ts) ← operand false fuel rest
        return (inner.withSign sign, ts)
      else primary fuel ts
    | ts => primary fuel ts

/-- A word, a constant or something in brackets, with what belongs to it behind. -/
def primary : Nat → List Token → Except Stop (Shape × List Token)
  | 0, ts => stop ts
  | fuel + 1, ts =>
    match ts with
    | .name s :: rest =>
      if s ∈ ["False", "None", "True"] then members fuel (.constant s) rest
      else if s ∈ keywords then stop ts
      else members fuel (.name s) rest
    | .number imaginary :: rest => members fuel (.number imaginary false) rest
    | .text kind _ :: _ => do
      let (s, rest) ← adjacentTexts (kind = .bytes) false ts
      members fuel s rest
    | .mark "..." :: rest => members fuel (.constant "ellipsis") rest
    | .mark "(" :: rest => do
      let (s, rest) ← group fuel rest
      members fuel s rest
    | .mark "\x7b" :: rest => do
      let (s, rest) ← braces fuel rest
      members fuel s rest
    | ts => stop ts

/-- What belongs to an expression behind it: its members, and arguments. -/
def members : Nat → Shape → List Token → Except Stop (Shape × List Token)
  | 0, _, ts => stop ts
  | fuel + 1, s, ts =>
    match ts with
    | .mark "." :: .name member :: rest =>
      if member ∈ keywords then stop (.name member :: rest)
      else members fuel (.other "attribute") rest
    | .mark "." :: rest => stop rest
    | .mark "(" :: rest => do
      let (bare, rest) ← arguments fuel true false false rest
      let call := match s with
        | .name "set" => if bare then .emptySet else .other "function call"
        | _ => .other "function call"
      members fuel call rest
    | ts => .ok (s, ts)

/-- An expression; `inside` tells whether it stands in brackets, and `alone` whether another one may not
follow it. -/
def expressionOf (alone inside : Bool) : Nat → List Token → Except Stop (Shape × List Token)
  | 0, ts => stop ts
  | fuel + 1, ts =>
    match ts with
    | .name "lambda" :: rest => do
      let (_, ts) ← parameters inside fuel rest
      return (.other "lambda", ts)
    | start => do
      let ((s, _), ts) ← chain true true fuel start
      match ts with
      | .name "if" :: rest =>
        let (_, ts) ← chain true true fuel rest
        match ts with
        | .name "else" :: rest =>
          let (_, ts) ← expression inside fuel rest
          return (.other "conditional expression", ts)
        | .mark ":" :: _ => stop ts
        | ts => refuse ts "expected 'else' after 'if' expression"
      | ts =>
        if alone && mayBegin ts then sideBySide inside fuel start s ts else return (s, ts)

/-- An expression that no other one may follow. -/
def expression (inside : Bool) : Nat → List Token → Except Stop (Shape × List Token)
  | 0, ts => stop ts
  | fuel + 1, ts => expressionOf true inside fuel ts

/-- What is wrong with an expression right behind another one. -/
def sideBySide (inside : Bool) (fuel : Nat) (start : List Token) (first : Shape) (ts : List Token) :
    Except Stop (Shape × List Token) :=
  match fuel with
  | 0 => stop ts
  | fuel + 1 =>
    let second := expressionOf false inside fuel ts
    let stopped : Option Stop := match second with
      | .ok (_, rest) => if isOver rest then some { rest } else none
      | .error e => if isOver e.rest || e.sure then some e else none
    let follows := second.isOk || beginsSimply ts
    let unlisted := follows && inside && !isUnlisted start
    match stopped, first with
    | some e, _ => .error e
    | none, .name word =>
      if unlisted && word ∉ callWords then refuse ts noComma
      else
        match items inside fuel ts with
        | .error e =>
          if e.text.isSome || isOver e.rest then .error e
          else if follows && word ∈ callWords then refuse ts (noCall word)
          else stop ts
        | .ok _ => if word ∈ callWords then refuse ts (noCall word) else stop ts
    | none, _ => if unlisted then refuse ts noComma else stop ts

/-- An expression that may be given a name. -/
def named : Nat → List Token → Except Stop (Shape × List Token)
  | 0, ts => stop ts
  | fuel + 1, ts =>
    match ts with
    | .name s :: .mark ":=" :: rest =>
      if s ∈ keywords then stop ts
      else do
        let (_, ts) ← expression true fuel rest
        return (.other "named expression", ts)
    | start => do
      let (s, ts) ← expression true fuel start
      match ts with
      | .mark ":=" :: rest =>
        let _ ← expression true fuel rest
        refuse ts ("cannot use assignment expressions with " ++ s.kindName)
      | .mark "=" :: rest =>
        if s.takesNoValue then return ← stop ts
        let (_, behind) ← chain false false fuel rest
        if isOver behind then stop behind
        else if behind.head? ∈ [some (.mark "="), some (.mark ":=")] then stop ts
        else equalsProblem s ts
      | ts => return (s, ts)

/-- What stands in round brackets behind the opening one. -/
def group : Nat → List Token → Except Stop (Shape × List Token)
  | 0, ts => stop ts
  | fuel + 1, ts =>
    match ts with
    | .mark ")" :: rest => .ok (.tuple [], rest)
    | .name "yield" :: .name "from" :: rest => do
      let (_, ts) ← expression true fuel rest
      closed ts ")" (.other "yield expression")
    | .name "yield" :: .mark ")" :: rest => .ok (.other "yield expression", rest)
    | .name "yield" :: rest => do
      let (_, ts) ← items true fuel rest
      closed ts ")" (.other "yield expression")
    | .mark "**" :: rest => do
      let (_, ts) ← expression true fuel rest
      if ts.head? = some (.mark ")") then refuse ts "cannot use double starred expression here"
      else stop (.mark "**" :: rest)
    | .mark "*" :: rest => do
      let _ ← behindStar rest
      let (_, ts) ← chain false false fuel rest
      match ts with
      | .mark ")" :: _ => refuse ts "cannot use starred expression here"
      | .mark "," :: ts => do
        let (_, ts) ← items true fuel ts
        closed ts ")" (.other "tuple")
      | ts => stop ts
    | ts => do
      let (s, ts) ← named fuel ts
      match ts with
      | .mark ")" :: rest => return (s, rest)
      | .mark "," :: rest =>
        let (more, ts) ← items true fuel rest
        closed ts ")" (.tuple (s :: more))
      | ts =>
        let (_, ts) ← clauses fuel ts
        closed ts ")" (.other "generator expression")

/-- Expressions with commas between them up to a closing bracket. -/
def items (inside : Bool) : Nat → List Token → Except Stop (List Shape × List Token)
  | 0, ts => stop ts
  | fuel + 1, ts =>
    if ts.head? = some .newline && !inside then .ok ([], ts)
    else if ts.head? ∈ [some (.mark ")"), some (.mark "\x7d")] then .ok ([], ts)
    else do
      let (s, ts) ← item inside fuel ts
      match ts with
      | .mark "," :: rest =>
        let (ss, ts) ← items inside fuel rest
        return (s :: ss, ts)
      | ts => return ([s], ts)

/-- One of several expressions. -/
def item (inside : Bool) : Nat → List Token → Except Stop (Shape × List Token)
  | 0, ts => stop ts
  | fuel + 1, ts =>
    match inside, ts with
    | false, ts => expression false fuel ts
    | true, .mark "*" :: rest => do
      let (_, ts) ← chain false false fuel rest
      return (.other "starred", ts)
    | true, ts => named fuel ts

/-- What stands in braces behind the opening one. -/
def braces : Nat → List Token → Except Stop (Shape × List Token)
  | 0, ts => stop ts
  | fuel + 1, ts =>
    match ts with
    | .mark "\x7d" :: rest => .ok (.dict [], rest)
    | .mark "**" :: rest => do
      let ((s, _), ts) ← chain false false fuel rest
      furtherEntries [(none, s)] fuel ts
    | .mark "*" :: rest => do
      let _ ← behindStar rest
      let (_, ts) ← chain false false fuel rest
      furtherItems [.other "starred"] fuel ts
    | ts => do
      let (s, ts) ← named fuel ts
      match ts with
      | .mark ":" :: rest =>
        let (v, ts) ← entryValue fuel rest
        match ts with
        | .name w :: _ =>
          if w ∈ ["for", "async"] then
            let (_, ts) ← clauses fuel ts
            closed ts "\x7d" (.other "dict comprehension")
          else stop ts
        | ts => furtherEntries [(some s, v)] fuel ts
      | .name w :: _ =>
        if w ∈ ["for", "async"] then
          let (_, ts) ← clauses fuel ts
          closed ts "\x7d" (.other "set comprehension")
        else stop ts
      | ts => furtherItems [s] fuel ts

/-- The items of a set behind some others, which stand in reverse. -/
def furtherItems (found : List Shape) : Nat → List Token → Except Stop (Shape × List Token)
  | 0, ts => stop ts
  | fuel + 1, ts =>
    match ts with
    | .mark "\x7d" :: rest => .ok (.set found.reverse, rest)
    | .mark "," :: rest => do
      let (more, ts) ← items true fuel rest
      closed ts "\x7d" (.set (found.reverse ++ more))
    | ts => stop ts

/-- The value of an entry behind its colon. -/
def entryValue : Nat → List Token → Except Stop (Shape × List Token)
  | 0, ts => stop ts
  | fuel + 1, ts =>
    match ts with
    | .mark "\x7d" :: _ | .mark "," :: _ =>
      refuseAtOnce ts "expression expected after dictionary key and ':'"
    | .mark "*" :: rest => do
      let _ ← chain false false fuel rest
      refuseAtOnce ts "cannot use a starred expression in a dictionary value"
    | ts => expression true fuel ts

/-- The entries of a mapping behind some others, which stand in reverse. -/
def furtherEntries (found : List (Option Shape × Shape)) : Nat → List Token → Except Stop (Shape × List Token)
  | 0, ts => stop ts
  | fuel + 1, ts =>
    match ts with
    | .mark "\x7d" :: rest => .ok (.dict found.reverse, rest)
    | .mark "," :: .mark "\x7d" :: rest => .ok (.dict found.reverse, rest)
    | .mark "," :: .mark "**" :: rest => do
      let ((s, _), ts) ← chain false false fuel rest
      furtherEntries ((none, s) :: found) fuel ts
    | .mark "," :: rest => do
      let (k, ts) ← expression true fuel rest
      match ts with
      | .mark ":" :: rest =>
        let (v, ts) ← entryValue fuel rest
        furtherEntries ((some k, v) :: found) fuel ts
      | ts => refuseAtOnce ts "':' expected after dictionary key"
    | ts => stop ts

/-- The clauses that take expressions from others. -/
def clauses : Nat → List Token → Except Stop (Unit × List Token)
  | 0, ts => stop ts
  | fuel + 1, ts =>
    match ts with
    | .name "async" :: .name "for" :: rest | .name "for" :: rest => do
      let (_, ts) ← places fuel rest
      let (_, ts) ← chain true true fuel ts
      conditions fuel ts
    | ts => stop ts

/-- The places that take what is met, and the word behind them. -/
def places : Nat → List Token → Except Stop (Unit × List Token)
  | 0, ts => stop ts
  | fuel + 1, ts => do
    let ts := if ts.head? = some (.mark "*") then ts.drop 1 else ts
    let (_, ts) ← chain false false fuel ts
    match ts with
    | .name "in" :: rest => return ((), rest)
    | .mark "," :: .name "in" :: rest => return ((), rest)
    | .mark "," :: rest => places fuel rest
    | ts => stop ts

/-- The conditions of a clause, and further clauses. -/
def conditions : Nat → List Token → Except Stop (Unit × List Token)
  | 0, ts => stop ts
  | fuel + 1, ts =>
    match ts with
    | .name "if" :: rest => do
      let (_, ts) ← chain true true fuel rest
      conditions fuel ts
    | .name "for" :: _ | .name "async" :: _ => clauses fuel ts
    | ts => .ok ((), ts)

/-- Arguments behind their opening bracket; tells whether there are none. Arguments without names may not
follow those with names (`keyed`), nor arguments that are spread those that are spread with names
(`spread`). -/
def arguments : Nat → Bool → Bool → Bool → List Token → Except Stop (Bool × List Token)
  | 0, _, _, _, ts => stop ts
  | fuel + 1, bare, keyed, spread, ts =>
    match ts with
    | .mark ")" :: rest => .ok (bare, rest)
    | .mark "**" :: rest => do
      let (_, ts) ← expression true fuel rest
      furtherArguments fuel true true ts
    | .mark "*" :: rest =>
      if spread then refuse ts "iterable argument unpacking follows keyword argument unpacking"
      else do
        let _ ← behindStar rest
        let (_, ts) ← expression true fuel rest
        furtherArguments fuel keyed spread ts
    | .name s :: .mark "=" :: rest =>
      if s ∈ ["False", "None", "True"] then refuse (.mark "=" :: rest) ("cannot assign to " ++ s)
      else if s ∈ keywords then stop ts
      else do
        let (_, ts) ← expression true fuel rest
        match ts with
        | .name "for" :: _ =>
          refuse ts "invalid syntax. Maybe you meant '==' or ':=' instead of '='?"
        | ts => furtherArguments fuel true spread ts
    | .name s :: .mark ":=" :: rest =>
      if s ∈ keywords then stop ts
      else do
        let (_, ts) ← expression true fuel rest
        furtherArguments fuel keyed spread ts
    | ts => do
      let (_, ts) ← expression true fuel ts
      match ts with
      | .mark "=" :: _ => refuse ts "expression cannot contain assignment, perhaps you meant \"==\"?"
      | .name w :: _ =>
        if w ∈ ["for", "async"] then
          let (_, ts) ← clauses fuel ts
          if bare && ts.head? = some (.mark ")") then return (false, ts.drop 1)
          else refuse ts "Generator expression must be parenthesized"
        else stop ts
      | ts =>
        if keyed && ts.head? ∈ [some (.mark ","), some (.mark ")")] then
          refuse ts ("positional argument follows keyword argument" ++
            if spread then " unpacking" else "")
        else furtherArguments fuel keyed spread ts

/-- What follows an argument. -/
def furtherArguments : Nat → Bool → Bool → List Token → Except Stop (Bool × List Token)
  | 0, _, _, ts => stop ts
  | fuel + 1, keyed, spread, ts =>
    match ts with
    | .mark ")" :: rest => .ok (false, rest)
    | .mark "," :: rest => arguments fuel false keyed spread rest
    | ts => stop ts

/-- The parameters of a function without a name, and the expression that it gives. -/
def parameters (inside : Bool) : Nat → List Token → Except Stop (Unit × List Token)
  | 0, ts => stop ts
  | fuel + 1, ts =>
    match ts with
    | .mark ":" :: rest => do
      let (_, ts) ← expression inside fuel rest
      return ((), ts)
    | .mark "," :: rest => parameters inside fuel rest
    | .mark "=" :: rest => do
      let (_, ts) ← expression inside fuel rest
      parameters inside fuel ts
    | .mark s :: rest => if s ∈ ["*", "**", "/"] then parameters inside fuel rest else stop ts
    | .name s :: rest => if s ∈ keywords then stop ts else parameters inside fuel rest
    | ts => stop ts

end

/-- The tokens without the ends of lines at their start. -/
def dropNewlines (ts : List Token) : List Token := ts.dropWhile (· = .newline)

/-- The expression that tokens make. `opened` is the innermost bracket that is open at their end, and `front`
stands in front of what is said of them. Where reading stops at the end, or behind the line of an open bracket,
the bracket is what is wrong. -/
def read (front : String) (ts : List Token) (opened : Option OpenBracket) : Except Problem Shape :=
  let fuel := 10 * ts.length + 10
  let found : Except Stop (Shape × List Token) := do
    let (s, rest) ← expression false fuel ts
    let (s, rest) ← match rest with
      | .mark "," :: rest => do
        let (more, rest) ← items false fuel rest
        pure (Shape.tuple (s :: more), rest)
      | rest => pure (s, rest)
    match dropNewlines rest with
    | [] => return (s, [])
    | .indent :: _ => refuse rest "unexpected indent"
    | rest => stop rest
  match found with
  | .ok (s, _) => .ok s
  | .error e =>
    let unclosed := opened.filter fun o => e.rest.isEmpty || o.before + e.rest.length ≤ ts.length
    match e.rest, unclosed with
    | .lineBroken :: _, _ => .error (front ++ "unexpected character after line continuation character")
    | _, some o => .error (front ++ "'" ++ String.singleton o.bracket ++ "' was never closed")
    | _, none => .error (if e.full then e.text.getD "" else front ++ e.text.getD "invalid syntax")

end SdkGen.Console.Literal
