import SdkGen.Yaml.Lexer.Block
import SdkGen.Yaml.Lexer.Mark
import SdkGen.Yaml.Lexer.Plain
import SdkGen.Yaml.Lexer.Quoted

/-!
# Splitting a YAML document into tokens

What follows in a document decides which step comes next, until the end is reached. A document that
holds characters which are never allowed has no tokens.
-/

namespace SdkGen.Yaml

namespace Lexer

/-- A directive. Versions other than `1` are refused; unknown directives are passed. -/
def directive (s : Lexer) : Option Lexer := do
  let s ← (s.unwindTo (-1)).dropCandidate
  let (name, s) := ({ s with keyAllowed := false }.next).span isNameChar
  let blanks := fun (s : Lexer) => (s.span (· == ' ')).2
  let atEnd := fun (s : Lexer) => atLineEnd s.rest || s.rest.head? == some ' '
  if name.isEmpty || !atEnd s then none
  else
    let s ← match String.ofList name with
      | "YAML" => do
        let (major, s) := (blanks s).span Char.isDigit
        if major.isEmpty || Text.digitsIn 10 major != 1 || s.rest.head? != some '.' then none
        let (minor, s) := s.next.span Char.isDigit
        if minor.isEmpty || !atEnd s then none
        some (s.push .version)
      | "TAG" => do
        let (handle, s) ← (blanks s).tagHandle
        if s.rest.head? != some ' ' then none
        let (front, s) ← (blanks s).tagText
        if !atEnd s then none
        some (s.push (.handle handle front))
      | _ => some ((s.span (!isBreak ·)).2.push .declaration)
    let s := blanks s
    let s := if s.rest.head? == some '#' then (s.span (!isBreak ·)).2 else s
    if atLineEnd s.rest then return s.lineBreak.2 else none

/-- Whether a plain scalar can begin here. -/
def plainStarts (s : Lexer) : Bool :=
  match s.rest with
  | [] => false
  | c :: cs =>
    if c ∈ ['-', '?', ':'] then !atGap cs && (c == '-' || s.level = 0)
    else !(atGap s.rest || c ∈ [',', '[', ']', '\x7b', '\x7d', '#', '&', '*', '!', '|', '>', '\'', '"',
      '%', '@', '\x60'])

/-- Passes one token, or gives the finished list at the end. -/
def step (s : Lexer) : Option (Lexer ⊕ Array Token) := do
  let s ← (s.settle.toToken s.room).dropStale
  -- blocks that are further in than the next token end in front of it
  let s := s.unwindTo s.column
  let go := fun (r : Option Lexer) => r.map Sum.inl
  match s.rest with
  | [] => do
    let s ← (s.unwindTo (-1)).dropCandidate
    return .inr s.tokens
  | c :: cs =>
    if c == '%' && s.column = 0 then go s.directive
    else if s.column = 0 && atDocumentMark s.rest then
      go (s.documentMark (if c == '-' then .documentStart else .documentEnd))
    else match c with
      | '[' => go (s.opening .openBracket)
      | '\x7b' => go (s.opening .openBrace)
      | ']' => go (s.closing .closeBracket)
      | '\x7d' => go (s.closing .closeBrace)
      | ',' => go s.commaMark
      | '*' => go (s.nodeName .mention)
      | '&' => go (s.nodeName .anchor)
      | '!' => go s.nodeTag
      | '\'' => go (s.quotedScalar false)
      | '"' => go (s.quotedScalar true)
      | _ =>
        if c == '-' && atGap cs then go s.itemDash
        else if c == '?' && (s.level != 0 || atGap cs) then go s.keyMark
        else if c == ':' && (s.level != 0 || atGap cs) then go s.valueColon
        else if c == '|' && s.level = 0 then go (s.blockScalar false)
        else if c == '>' && s.level = 0 then go (s.blockScalar true)
        else if s.plainStarts then go s.plain
        else none

/-- Passes token after token. -/
def run : Nat → Lexer → Option (Array Token)
  | 0, _ => none
  | fuel + 1, s =>
    match s.step with
    | some (.inl t) =>
      match t.fault with
      | some f => some (t.tokensWithFault f)
      | none => run fuel t
    | some (.inr tokens) => some tokens
    | none => none

end Lexer

/-- Whether a document may hold a character at all. -/
def isAllowed (c : Char) : Bool :=
  let n := c.toNat
  n == 9 || n == 10 || n == 13 || (0x20 ≤ n && n ≤ 0x7E) || n == 0x85 || (0xA0 ≤ n && n ≤ 0xD7FF) ||
    (0xE000 ≤ n && n ≤ 0xFFFD) || 0x10000 ≤ n

def tokens? (document : String) : Option (List Token) :=
  let cs := document.toList
  let room := cs.length + 2
  if cs.all isAllowed then (Lexer.run room { rest := cs, room }).map Array.toList else none

end SdkGen.Yaml
