import SdkGen.Yaml.Lexer.Basic

/-!
# Block scalars of YAML

A block scalar is a header and the lines that are indented below it, kept line by line or folded. The
header may give the indentation and say what becomes of the ends of lines at the end of the text.
-/

namespace SdkGen.Yaml.Lexer

/-- Empty lines of a block scalar, with their indentation up to a column. -/
def blockBreaks (indent : Nat) (more : List Char) : Nat → Lexer → List Char × Lexer
  | 0, s => (more, s)
  | fuel + 1, s =>
    let blanks := (s.rest.takeWhile (· == ' ')).length
    let s := s.skip (min blanks (indent - s.column))
    match s.lineBreak with
    | ([], s) => (more, s)
    | (b, s) => blockBreaks indent (more ++ b) fuel s

/-- Empty lines at the start of a block scalar, and the greatest indentation among them and the first
line with text. -/
def blockIndent (more : List Char) (deepest : Nat) : Nat → Lexer → List Char × Nat × Lexer
  | 0, s => (more, deepest, s)
  | fuel + 1, s =>
    let (_, s) := s.span (· == ' ')
    let deepest := max deepest s.column
    match s.lineBreak with
    | ([], s) => (more, deepest, s)
    | (b, s) => blockIndent (more ++ b) deepest fuel s

/-- The header of a block scalar: whether the ends of lines at its end are kept (`true`), dropped
(`false`) or kept once, and its indentation, if it is given. -/
def blockHeader (s : Lexer) : Option (Option Bool × Option Nat × Lexer) := do
  let chomping := fun (c : Char) => if c == '+' then some true else if c == '-' then some false else none
  let digit := fun (c : Char) => if c.isDigit then some (c.toNat - 0x30) else none
  let (chomp, increment, count) ← match s.rest with
    | a :: b :: _ =>
      match chomping a, digit a with
      | some k, _ => some (some k, digit b, if (digit b).isSome then 2 else 1)
      | none, some n => some (chomping b, some n, if (chomping b).isSome then 2 else 1)
      | none, none => some (none, none, 0)
    | [a] => some (chomping a, digit a, if (chomping a).isSome || (digit a).isSome then 1 else 0)
    | [] => some (none, none, 0)
  let s := s.skip count
  if increment = some 0 || !(atLineEnd s.rest || s.rest.head? == some ' ') then none
  else
    let (_, s) := s.span (· == ' ')
    let s := if s.rest.head? == some '#' then (s.span (!isBreak ·)).2 else s
    if atLineEnd s.rest then some (chomp, increment, s.lineBreak.2) else none

/-- A block scalar, kept line by line or folded. -/
def blockScalar (s : Lexer) (folded : Bool) : Option Lexer := do
  let s ← { s with keyAllowed := true }.dropCandidate
  let (chomp, increment, s) ← s.next.blockHeader
  let size := s.room
  let least := (max (s.indent + 1) 1).toNat
  let (breaks, indent, s) := match increment with
    | some n =>
      let indent := least + n - 1
      let (breaks, s) := blockBreaks indent [] size s
      (breaks, indent, s)
    | none =>
      let (breaks, deepest, s) := blockIndent [] 0 size s
      (breaks, max least deepest, s)
  return lines chomp indent #[] breaks [] size s
where
  /-- Takes line after line; `pending` is the end of the last line, `breaks` the empty lines since. -/
  lines (chomp : Option Bool) (indent : Nat) (text : Array Char) (breaks pending : List Char) :
      Nat → Lexer → Lexer
    | 0, s => s
    | fuel + 1, s =>
      if s.column = indent && !s.rest.isEmpty then
        let text := text ++ breaks
        let opensPlain := fun (cs : List Char) => !(cs.head? == some ' ' || cs.head? == some '\t')
        let plainLine := opensPlain s.rest
        let (line, s) := s.span (!isBreak ·)
        let (pending, s) := s.lineBreak
        let (breaks, s) := blockBreaks indent [] s.room s
        let text := text ++ line
        if s.column = indent && !s.rest.isEmpty then
          let joint :=
            if folded && pending == ['\n'] && plainLine && opensPlain s.rest then
              if breaks.isEmpty then [' '] else []
            else pending
          lines chomp indent (text ++ joint) breaks [] fuel s
        else finish chomp text breaks pending s
      else finish chomp text breaks pending s
  /-- Adds what is kept of the end. -/
  finish (chomp : Option Bool) (text : Array Char) (breaks pending : List Char) (s : Lexer) : Lexer :=
    let text := if chomp = some false then text else text ++ pending
    let text := if chomp = some true then text ++ breaks else text
    s.push (.scalar { text := String.ofList text.toList } false)

end SdkGen.Yaml.Lexer
