import SdkGen.Yaml.Token

/-!
# The state of the YAML lexer

How far a document has been split into tokens, with the blocks that are open and the texts that may
turn out to be keys. Where a colon shows that the text before it was a key, the token for a key, and
perhaps the one for the start of a mapping, is put in front of that text afterwards.

A step that finds the document malformed gives nothing.
-/

namespace SdkGen.Yaml

/-- A text that may turn out to be a key. -/
structure Candidate where
  /-- The nesting of brackets around it. -/
  level : Nat
  /-- The number of tokens in front of it. -/
  place : Nat
  /-- Whether the document is malformed if it is no key. -/
  required : Bool
  /-- The number of characters in front of it. -/
  index : Nat
  line : Nat
  column : Nat

/-- How far a document has been split. -/
structure Lexer where
  rest : List Char
  /-- More than there are characters in the document, and so more than any reader takes steps. -/
  room : Nat
  /-- The number of characters that are behind. -/
  index : Nat := 0
  /-- The number of lines that are behind. -/
  line : Nat := 0
  /-- The number of characters of the line that are behind. -/
  column : Nat := 0
  /-- The nesting of brackets. -/
  level : Nat := 0
  /-- The column of the innermost block, `-1` outside all blocks. -/
  indent : Int := -1
  /-- The columns of the blocks around it, innermost first. -/
  outer : List Int := []
  /-- Whether a key may begin here. -/
  keyAllowed : Bool := true
  /-- The texts that may turn out to be keys, one for each nesting of brackets. -/
  candidates : List Candidate := []
  /-- The tokens so far. -/
  tokens : Array Token := #[]
  /-- The number of tokens that can be taken before another one is read. -/
  settled : Nat := 0
  /-- What is wrong with a character that the next token names; nothing is read behind it. -/
  fault : Option Fault := none

/-- Whether a character ends a line. -/
def isBreak (c : Char) : Bool :=
  c == '\n' || c == '\r' || c == '\x85' || c == '\u2028' || c == '\u2029'

/-- Whether what follows is the end, a blank or the end of a line. -/
def atGap : List Char → Bool
  | [] => true
  | c :: _ => c == ' ' || c == '\t' || isBreak c

/-- Whether what follows is the end or the end of a line. -/
def atLineEnd : List Char → Bool
  | [] => true
  | c :: _ => isBreak c

/-- Whether what follows is the mark between two documents or the one behind a document. -/
def atDocumentMark : List Char → Bool
  | '-' :: '-' :: '-' :: cs => atGap cs
  | '.' :: '.' :: '.' :: cs => atGap cs
  | _ => false

namespace Lexer

/-- Passes one character. -/
def next (s : Lexer) : Lexer :=
  match s.rest with
  | [] => s
  | c :: cs =>
    let s := { s with rest := cs, index := s.index + 1 }
    -- a carriage return and the line feed behind it end one line
    if isBreak c && !(c == '\r' && cs.head? == some '\n') then
      { s with line := s.line + 1, column := 0 }
    else if c == '\ufeff' then s
    else { s with column := s.column + 1 }

/-- Passes some characters. -/
def skip : Nat → Lexer → Lexer
  | 0, s => s
  | n + 1, s => skip n s.next

/-- Passes the characters of a kind, and gives them. -/
def span (s : Lexer) (p : Char → Bool) : List Char × Lexer :=
  let cs := s.rest.takeWhile p
  (cs, s.skip cs.length)

/-- Passes the end of a line, and gives what stands for it in a text. -/
def lineBreak (s : Lexer) : List Char × Lexer :=
  match s.rest with
  | '\r' :: '\n' :: _ => (['\n'], s.skip 2)
  | c :: _ =>
    if c == '\u2028' || c == '\u2029' then ([c], s.next)
    else if isBreak c then (['\n'], s.next)
    else ([], s)
  | [] => ([], s)

/-- Adds a token. -/
def push (s : Lexer) (t : Token) : Lexer := { s with tokens := s.tokens.push t }

/-- Puts a token in front of the one at a place. -/
def pushAt (s : Lexer) (place : Nat) (t : Token) : Lexer :=
  { s with tokens := s.tokens.insertIdxIfInBounds place t }

/-- Passes blanks, comments and ends of lines. -/
def toToken : Nat → Lexer → Lexer
  | 0, s => s
  | fuel + 1, s =>
    let s := if s.index = 0 && s.rest.head? == some '\ufeff' then s.next else s
    let (_, s) := s.span (· == ' ')
    let s := if s.rest.head? == some '#' then (s.span (!isBreak ·)).2 else s
    match s.lineBreak with
    | ([], s) => s
    | (_, s) => toToken fuel (if s.level = 0 then { s with keyAllowed := true } else s)

/-- Whether a text can no longer be a key: a key stays on its line and is not too long. -/
def isStale (s : Lexer) (k : Candidate) : Bool := k.line != s.line || s.index - k.index > 1024

/-- Forgets the texts that can no longer be keys. -/
def dropStale (s : Lexer) : Option Lexer :=
  if s.candidates.any fun k => s.isStale k && k.required then none
  else some { s with candidates := s.candidates.filter fun k => !s.isStale k }

/-- Counts the tokens that can be taken: those in front of every text that may still be a key. -/
def settle (s : Lexer) : Lexer :=
  let waiting := (s.candidates.filter fun k => !s.isStale k).map (·.place)
  { s with settled := waiting.foldl min s.tokens.size }

/-- The tokens in front of a fault, and one for it. What is read in the step that meets the fault comes too
late to settle what may be a key. -/
def tokensWithFault (s : Lexer) (f : Fault) : Array Token := (s.tokens.take s.settled).push (.broken f)

/-- Forgets the text that may be a key at this nesting of brackets. -/
def dropCandidate (s : Lexer) : Option Lexer :=
  if s.candidates.any fun k => k.level == s.level && k.required then none
  else some { s with candidates := s.candidates.filter (·.level != s.level) }

/-- Remembers that what begins here may be a key. -/
def saveCandidate (s : Lexer) : Option Lexer :=
  if s.keyAllowed then do
    let s ← s.dropCandidate
    let k : Candidate :=
      { level := s.level, place := s.tokens.size, index := s.index, line := s.line
        column := s.column, required := s.level = 0 && s.indent = s.column }
    return { s with candidates := k :: s.candidates }
  else some s

/-- Ends the blocks that are further in than a column. -/
def unwind (column : Int) : Nat → Lexer → Lexer
  | 0, s => s
  | fuel + 1, s =>
    if s.level = 0 && s.indent > column then
      unwind column fuel
        ({ s with indent := s.outer.headD (-1), outer := s.outer.tail }.push .blockEnd)
    else s

/-- Ends the blocks that are further in than a column. -/
def unwindTo (s : Lexer) (column : Int) : Lexer := unwind column (s.outer.length + 1) s

/-- Whether a block would begin at a column, and the state inside that block. -/
def deepen (s : Lexer) (column : Nat) : Bool × Lexer :=
  if s.indent < column then (true, { s with indent := column, outer := s.indent :: s.outer })
  else (false, s)

/-- Begins a block at the column, outside of brackets and if there is none yet. -/
def openBlock (s : Lexer) (t : Token) : Option Lexer :=
  if s.level = 0 then
    if s.keyAllowed then
      let (deeper, s) := s.deepen s.column
      some (if deeper then s.push t else s)
    else none
  else some s

end Lexer

end SdkGen.Yaml
