import SdkGen.Text.Numeral
import SdkGen.Yaml.Lexer.Basic

/-!
# Marks of a YAML document

The steps of the lexer for what structures a document: the marks between documents, dashes, the marks of
keys and values, brackets and commas, and the names and tags of nodes.
-/

namespace SdkGen.Yaml.Lexer

/-- A mark between documents. -/
def documentMark (s : Lexer) (t : Token) : Option Lexer := do
  let s ← (s.unwindTo (-1)).dropCandidate
  return ({ s with keyAllowed := false }.skip 3).push t

def itemDash (s : Lexer) : Option Lexer := do
  let s ← s.openBlock .sequenceStart
  let s ← { s with keyAllowed := true }.dropCandidate
  return s.next.push .item

def keyMark (s : Lexer) : Option Lexer := do
  let s ← s.openBlock .mappingStart
  let s ← { s with keyAllowed := s.level = 0 }.dropCandidate
  return s.next.push .key

def valueColon (s : Lexer) : Option Lexer := do
  -- a colon makes a key of the candidate at this nesting; without a candidate, the key is left out
  match s.candidates.find? (·.level == s.level) with
  | some k =>
    let s := { s with candidates := s.candidates.filter (·.level != s.level) }
    let s := s.pushAt k.place .key
    let (deeper, s) := if s.level = 0 then s.deepen k.column else (false, s)
    let s := if deeper then s.pushAt k.place .mappingStart else s
    return ({ s with keyAllowed := false }.next).push .value
  | none =>
    let s ← s.openBlock .mappingStart
    let s ← { s with keyAllowed := s.level = 0 }.dropCandidate
    return s.next.push .value

/-- An opening bracket or brace. -/
def opening (s : Lexer) (t : Token) : Option Lexer := do
  let s ← s.saveCandidate
  return ({ s with level := s.level + 1, keyAllowed := true }.next).push t

/-- A closing bracket or brace. -/
def closing (s : Lexer) (t : Token) : Option Lexer := do
  let s ← s.dropCandidate
  if s.level = 0 then none
  else return ({ s with level := s.level - 1, keyAllowed := false }.next).push t

def commaMark (s : Lexer) : Option Lexer := do
  let s ← { s with keyAllowed := true }.dropCandidate
  return s.next.push .comma

/-- Whether a character may stand in the name of a node or of a handle. -/
def isNameChar (c : Char) : Bool := c.isAlphanum || c == '-' || c == '_'

/-- The name of a node behind its sign. -/
def nodeName (s : Lexer) (t : String → Token) : Option Lexer := do
  let s ← s.saveCandidate
  let (name, s) := ({ s with keyAllowed := false }.next).span isNameChar
  let good := match s.rest with
    | [] => true
    | c :: _ => atGap s.rest || c ∈ ['?', ':', ',', ']', '\x7d', '%', '@', '\x60']
  if name.isEmpty || !good then none else return s.push (t (String.ofList name))

/-- Whether a character may stand in a tag. -/
def isTagChar (c : Char) : Bool :=
  c.isAlphanum || c ∈ ['-', ';', '/', '?', ':', '@', '&', '=', '+', '$', ',', '_', '.', '!', '~',
    '*', '\'', '(', ')', '[', ']', '%']

/-- The value of a hexadecimal digit. -/
def hexDigit? (c : Char) : Option Nat := Text.digitIn? 16 c

/-- The bytes at the start of a text that are written as a percent sign and two digits each, and what
follows. A percent sign without digits is refused. -/
def percentBytes : List Char → Option (List UInt8 × List Char)
  | '%' :: a :: b :: cs => do
    let n := 16 * (← hexDigit? a) + (← hexDigit? b)
    let (bs, rest) ← percentBytes cs
    return (UInt8.ofNat n :: bs, rest)
  | '%' :: _ => none
  | cs => some ([], cs)

/-- The characters of a tag, in which bytes may be written as numbers. -/
def unescaped : Nat → List Char → Option (List Char)
  | 0, _ => some []
  | _, [] => some []
  | fuel + 1, c :: cs =>
    if c = '%' then do
      let (bs, rest) ← percentBytes (c :: cs)
      let text ← String.fromUTF8? ⟨bs.toArray⟩
      return text.toList ++ (← unescaped fuel rest)
    else do return c :: (← unescaped fuel cs)

/-- The characters of a tag that come next; there have to be some. -/
def tagText (s : Lexer) : Option (String × Lexer) := do
  let (cs, s) := s.span isTagChar
  if cs.isEmpty then none
  else return (String.ofList (← unescaped cs.length cs), s)

/-- The handle of a tag that comes next: a mark of its own, a name between two, or two of them. -/
def tagHandle (s : Lexer) : Option (String × Lexer) :=
  match s.rest with
  | '!' :: cs =>
    let name := cs.takeWhile isNameChar
    if cs.head? = some ' ' then some ("!", s.next)
    else if (cs.drop name.length).head? = some '!' then
      some (String.ofList ('!' :: name ++ ['!']), s.skip (name.length + 2))
    else none
  | _ => none

def nodeTag (s : Lexer) : Option Lexer := do
  let s ← s.saveCandidate
  let s := { s with keyAllowed := false }
  let (t, s) ← match s.rest with
    | '!' :: '<' :: _ => do
      let (suffix, s) ← (s.skip 2).tagText
      if s.rest.head? = some '>' then some (Token.tag none suffix, s.next) else none
    | _ :: cs =>
      if atGap cs then some (Token.tag none "!", s.next)
      else do
        let word := cs.takeWhile fun c => c != ' ' && !isBreak c
        -- the first sign is a handle by itself unless another one follows in the word
        let (handle, s) ← if word.contains '!' then s.tagHandle else some ("!", s.next)
        let (suffix, s) ← s.tagText
        some (Token.tag (some handle) suffix, s)
    | [] => none
  if atLineEnd s.rest || s.rest.head? == some ' ' then return s.push t else none

end SdkGen.Yaml.Lexer
