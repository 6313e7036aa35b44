import SdkGen.Yaml.Lexer.Basic

/-!
# Plain YAML scalars in a document

A plain scalar goes on until a comment, a colon with a gap behind it, or a line that is not further in
than the block around it; inside brackets, commas and brackets end it as well. Its ends of lines are
folded: a single one becomes a blank, and of several the first is dropped.
-/

namespace SdkGen.Yaml.Lexer

/-- What separates the parts of a plain scalar: blanks, or ends of lines, which are folded. The end of
the document, of a block or a mark between documents gives nothing. -/
def plainGap (s : Lexer) : List Char × Lexer :=
  let (blanks, s) := s.span (· == ' ')
  match s.lineBreak with
  | ([], s) => (blanks, s)
  | (first, s) =>
    -- at the beginning of a line, there may be a key
    let s := { s with keyAllowed := true }
    if atDocumentMark s.rest then ([], s) else breaks first [] s.room s
where
  /-- Passes further ends of lines. -/
  breaks (first more : List Char) : Nat → Lexer → List Char × Lexer
    | 0, s => ([], s)
    | fuel + 1, s =>
      let (_, s) := s.span (· == ' ')
      match s.lineBreak with
      | ([], s) =>
        let front := if first != ['\n'] then first else if more.isEmpty then [' '] else []
        (front ++ more, s)
      | (b, s) => if atDocumentMark s.rest then ([], s) else breaks first (more ++ b) fuel s

/-- The characters of a plain scalar up to the next blank or to what ends the scalar. -/
def plainPart (inBrackets : Bool) : List Char → List Char
  | [] => []
  | c :: cs =>
    let closes := fun (d : Char) => [',', '[', ']', '\x7b', '\x7d'].contains d
    let ends := atGap (c :: cs) ||
      (c == ':' && (atGap cs || (inBrackets && (cs.head?.map closes).getD false))) ||
      (inBrackets && (closes c || c == '?'))
    if ends then [] else c :: plainPart inBrackets cs

/-- A plain scalar. -/
def plain (s : Lexer) : Option Lexer := do
  let s ← s.saveCandidate
  return parts #[] [] s.room { s with keyAllowed := false }
where
  /-- Takes part after part. -/
  parts (text : Array Char) (gap : List Char) : Nat → Lexer → Lexer
    | 0, s => s.push (.scalar { text := String.ofList text.toList } true)
    | fuel + 1, s =>
      let part := if s.rest.head? == some '#' then [] else plainPart (s.level != 0) s.rest
      if part.isEmpty then s.push (.scalar { text := String.ofList text.toList } true)
      else
        let text := text ++ gap ++ part
        let (gap, s) := ({ s with keyAllowed := false }.skip part.length).plainGap
        if gap.isEmpty || s.rest.head? == some '#' || (s.level = 0 && s.column < s.indent + 1) then
          s.push (.scalar { text := String.ofList text.toList } true)
        else parts text gap fuel s

end SdkGen.Yaml.Lexer
