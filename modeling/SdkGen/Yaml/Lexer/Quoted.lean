import SdkGen.Yaml.Lexer.Basic

/-!
# Quoted YAML scalars

A single-quoted scalar has no escapes except the doubled quote; a double-quoted one has escapes behind a
backslash, also by code point, and a backslash at the end of a line joins it with the next. Ends of lines
are folded as in plain scalars.
-/

namespace SdkGen.Yaml.Lexer

/-- The character that a short escape stands for. -/
def shortEscape? : Char → Option Char
  | '0' => some '\x00'
  | 'a' => some '\x07'
  | 'b' => some '\x08'
  | 't' => some '\t'
  | '\t' => some '\t'
  | 'n' => some '\n'
  | 'v' => some '\x0b'
  | 'f' => some '\x0c'
  | 'r' => some '\r'
  | 'e' => some '\x1b'
  | ' ' => some ' '
  | '"' => some '"'
  | '\\' => some '\\'
  | '/' => some '/'
  | 'N' => some '\x85'
  | '_' => some '\xa0'
  | 'L' => some '\u2028'
  | 'P' => some '\u2029'
  | _ => none

/-- The number of digits of an escape by code point. -/
def escapeWidth? : Char → Option Nat
  | 'x' => some 2
  | 'u' => some 4
  | 'U' => some 8
  | _ => none

/-- The value of a hexadecimal digit. -/
def hexValue? (c : Char) : Option Nat :=
  if '0' ≤ c ∧ c ≤ '9' then some (c.toNat - 0x30)
  else if 'a' ≤ c ∧ c ≤ 'f' then some (c.toNat - 0x57)
  else if 'A' ≤ c ∧ c ≤ 'F' then some (c.toNat - 0x37)
  else none

/-- The ends of lines inside a quoted scalar, behind the first one. -/
def quotedBreaks (more : List Char) : Nat → Lexer → Option (List Char × Lexer)
  | 0, _ => none
  | fuel + 1, s =>
    if atDocumentMark s.rest then none
    else
      let (_, s) := s.span fun c => c == ' ' || c == '\t'
      match s.lineBreak with
      | ([], s) => some (more, s)
      | (b, s) => quotedBreaks (more ++ b) fuel s

/-- The number that some hexadecimal digits write, if there are that many. -/
def hexNumber? (width : Nat) (cs : List Char) : Option Nat := do
  let digits ← (cs.take width).mapM hexValue?
  if digits.length = width then return digits.foldl (fun n d => 16 * n + d) 0 else none

/-- The least number that does not fit into a word for characters. -/
def wordLimit : Nat := Nat.pow 2 31

/-- The second half of a pair, if an escape writes one, and the length of that escape. -/
def secondHalf? : List Char → Option (Nat × Nat)
  | '\\' :: mark :: cs => do
    let width ← escapeWidth? mark
    let n ← hexNumber? width cs
    if Text.isSecondHalf n then return (n, 2 + width) else none
  | _ => none

/-- The number of what an escape by number writes, and the length of what has been read: two halves of a pair
are one character. -/
def numbered (n width : Nat) (behind : List Char) : Nat × Nat :=
  match Text.isFirstHalf n, secondHalf? behind with
  | true, some (m, more) => ((Text.ofHalves n m).toNat, 2 + width + more)
  | _, _ => (n, 2 + width)

/-- What a piece of a quoted scalar comes to. -/
inductive Piece where
  /-- The numbers of its characters and halves of characters, and the state behind it. -/
  | read (text : Array Nat) (s : Lexer)
  /-- It names a character that there is not. -/
  | broken (f : Fault)

/-- The numbers of some more characters. -/
def addNumbers (text : Array Nat) (cs : List Char) : Array Nat := cs.foldl (fun ns c => ns.push c.toNat) text

/-- The characters of a quoted scalar up to a blank or the closing quote. -/
def quotedPart (double : Bool) (text : Array Nat) : Nat → Lexer → Option Piece
  | 0, _ => none
  | fuel + 1, s =>
    let (run, s) := s.span fun c => !(c ∈ ['\'', '"', '\\', ' ', '\t'] || isBreak c)
    let text := addNumbers text run
    let go := fun (c : Char) (s : Lexer) => quotedPart double (addNumbers text [c]) fuel s
    match s.rest with
    | '\'' :: '\'' :: _ => go '\'' (if double then s.next else s.skip 2)
    | '\'' :: _ => if double then go '\'' s.next else some (.read text s)
    | '"' :: _ => if double then some (.read text s) else go '"' s.next
    | '\\' :: c :: cs =>
      if !double then go '\\' s.next
      else
        match shortEscape? c, escapeWidth? c with
        | some d, _ => go d (s.skip 2)
        | none, some width => do
          let n ← hexNumber? width cs
          if wordLimit ≤ n then some (.broken .hugeCharacter)
          else if 0x110000 ≤ n then some (.broken .noSuchCharacter)
          else
            let (n, length) := numbered n width (cs.drop width)
            quotedPart double (text.push n) fuel (s.skip length)
        | none, none =>
          if isBreak c then
            match quotedBreaks [] s.room s.next.lineBreak.2 with
            | some (more, s) => quotedPart double (addNumbers text more) fuel s
            | none => none
          else none
    | '\\' :: [] => if double then none else go '\\' s.next
    | _ => some (.read text s)

/-- A quoted scalar: ends of lines are folded. -/
def quotedScalar (s : Lexer) (double : Bool) : Option Lexer := do
  let s ← s.saveCandidate
  let size := s.room
  let s := { s with keyAllowed := false }.next
  match ← quotedPart double #[] size s with
  | .broken f => return { s with fault := some f }
  | .read text s => parts text size size s
where
  /-- Takes part after part. -/
  parts (text : Array Nat) (size : Nat) : Nat → Lexer → Option Lexer
    | 0, _ => none
    | fuel + 1, s =>
      match s.rest with
      | [] => none
      | c :: _ =>
        if c == (if double then '"' else '\'') then
          some (s.next.push (.scalar (.ofNumbers text.toList) false))
        else do
          let (blanks, s) := s.span fun c => c == ' ' || c == '\t'
          let (gap, s) ← match s.lineBreak with
            | ([], s) => if s.rest.isEmpty then none else some (blanks, s)
            | (first, s) => do
              let (more, s) ← quotedBreaks [] size s
              let front := if first != ['\n'] then first else if more.isEmpty then [' '] else []
              some (front ++ more, s)
          match ← quotedPart double (addNumbers text gap) size s with
          | .broken f => return { s with fault := some f }
          | .read text s => parts text size fuel s

end SdkGen.Yaml.Lexer
