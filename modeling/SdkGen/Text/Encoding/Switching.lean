import SdkGen.Text.Encoding.EastAsian
import SdkGen.Text.Encoding.Page

/-!
# Encodings that switch

Some encodings of East Asia are made of bytes below 128 alone, and sequences behind an escape tell which
characters the bytes behind them stand for, one by one or in pairs. A sequence sets the first, the second or the
third of the repertoires that are at hand: bytes stand for characters of the first one, between two marks for
those of the second one, and behind another mark for one of the third. An escape that begins no such sequence
stands for itself, with whatever follows up to a capital letter.
-/

namespace SdkGen.Text

/-- The characters that bytes below 128 may stand for. -/
inductive Repertoire where
  /-- ASCII. -/
  | ascii
  /-- The Latin letters that follow ASCII. -/
  | latin
  | greek
  /-- ASCII with a yen sign and an overline. -/
  | roman
  | kana
  /-- GB 2312. -/
  | hanzi
  /-- JIS X 0208. -/
  | kanji
  /-- JIS X 0212. -/
  | kanjiSupplement
  /-- The first square of JIS X 0213, with the places that were filled later or without them. -/
  | firstSquare (later : Bool)
  /-- The second square of JIS X 0213. -/
  | secondSquare
  /-- KS X 1001. -/
  | hanja
deriving DecidableEq, Repr

namespace Repertoire

/-- The Greek letters of the bytes from zero on, before signs were added to them. -/
def greekPage : CodePage :=
  .ofRows ["0+a1 2018+2 a3 -+2 a6+4 - ab+3 - 2015 b0+4 384+3 b7 388+3 bb 38c bd 38e+14 - 3a3+2c -"]

/-- Whether bytes come in pairs. -/
def isPaired : Repertoire → Bool
  | ascii | latin | greek | roman | kana => false
  | _ => true

/-- The place of a pair in a square of 94 rows of 94 places. -/
def place? (a b : Nat) : Option Nat := EastAsian.square? (a + 0x80) (b + 0x80)

/-- The place of the tilde in the first square of JIS X 0213. -/
def tilde : Nat := 111

/-- The characters of a byte, or of a pair of bytes. -/
def characters? (r : Repertoire) (a b : Nat) : Option (List Char) :=
  let one := fun (s : Sheet) => ((place? a b).bind s.at?).map ([·])
  match r with
  | ascii => some [Char.ofNat a]
  | latin | greek => none
  | roman => some [if a = 0x5C then '\u00a5' else if a = 0x7E then '\u203e' else Char.ofNat a]
  | kana => (EastAsian.narrow? (a + 0x80)).map ([·])
  | hanzi => one .hanzi
  | kanji => one .kanji
  | kanjiSupplement => one .kanjiSupplement
  | hanja => one .hanja
  | firstSquare later =>
    (place? a b).bind fun place =>
      if !later && place ∈ EastAsian.laterPlaces then none
      else if place = tilde then some ['~']
      else EastAsian.firstSquare? place
  | secondSquare => ((place? a b).bind (EastAsian.secondSquare? true)).map ([·])

/-- The character of a byte where the third repertoire is asked for one; none if the repertoire cannot be the
third one. -/
def third? (r : Repertoire) (b : UInt8) : Option (Option Char) :=
  match r with
  | ascii => some (if b < 0x80 then some (Char.ofNat b.toNat) else none)
  | latin => some (if b < 0x80 then some (Char.ofNat (b.toNat + 0x80)) else none)
  | greek => some (greekPage[(b ^^^ 0x80).toNat]?).join
  | _ => none

end Repertoire

/-- An encoding that switches. -/
structure Switching where
  name : String
  /-- The repertoires beside ASCII, with what tells them at the end of a sequence. -/
  repertoires : List (String × Repertoire)
  /-- Whether there are marks for the second repertoire. -/
  hasSecond : Bool := false
  /-- Whether there is a third repertoire. -/
  hasThird : Bool := false

namespace Switching

/-- The encoding of Korean texts. -/
def korean : Switching := { name := "iso2022_kr", repertoires := [("$C", .hanja)], hasSecond := true }

/-- The first encoding of Japanese texts. -/
def japanese : Switching :=
  { name := "iso2022_jp", repertoires := [("$B", .kanji), ("J", .roman), ("$@", .kanji)] }

/-- The encoding of Japanese texts with more kanji. -/
def japaneseOne : Switching :=
  { name := "iso2022_jp_1", repertoires := ("$D", .kanjiSupplement) :: japanese.repertoires }

/-- The encoding of texts in several scripts. -/
def japaneseTwo : Switching :=
  { name := "iso2022_jp_2"
    repertoires :=
      [("$C", .hanja), ("$A", .hanzi), ("A", .latin), ("F", .greek)] ++ japaneseOne.repertoires
    hasThird := true }

/-- The encoding of Japanese texts with the kanji of the year 2000. -/
def japaneseThree : Switching :=
  { name := "iso2022_jp_3"
    repertoires := [("$O", .firstSquare false), ("$B", .kanji), ("$P", .secondSquare)] }

/-- The encoding of Japanese texts with the kanji of the year 2004. -/
def japanese2004 : Switching :=
  { name := "iso2022_jp_2004"
    repertoires := [("$Q", .firstSquare true), ("$B", .kanji), ("$P", .secondSquare)] }

/-- The encoding of Japanese texts with narrow kana. -/
def japaneseExtended : Switching :=
  { name := "iso2022_jp_ext", repertoires := ("I", .kana) :: japaneseOne.repertoires }

/-- What has been switched to. -/
structure State where
  /-- The repertoire of bytes. -/
  first : Repertoire := .ascii
  /-- The repertoire of bytes between marks. -/
  second : Repertoire := .ascii
  /-- The repertoire of bytes behind a mark. -/
  third : Repertoire := .ascii
  /-- Whether bytes are between marks. -/
  shifted : Bool := false
  /-- Whether bytes stand for themselves up to a capital letter. -/
  through : Bool := false

/-- Whether a byte ends a sequence. -/
def endsSequence (b : UInt8) : Bool := (0x41 ≤ b && b ≤ 0x5A) || b = 0x40

/-- Whether a byte behind an escape begins a sequence. -/
def beginsSequence (b : UInt8) : Bool := b ∈ [0x28, 0x29, 0x24, 0x2E, 0x26]

/-- How long a sequence may be. -/
def longest : Nat := 16

/-- Where a sequence ends. -/
inductive Ending where
  /-- Behind so many bytes. -/
  | behind (count : Nat)
  | nowhere
  /-- Behind bytes that are missing. -/
  | missing

/-- Where a sequence ends whose next byte is at a place. Where there is no second repertoire, one sequence may
announce another one. -/
def ending (s : Switching) (place : Nat) : List UInt8 → Ending
  | [] => if longest ≤ place then .nowhere else .missing
  | b :: bs =>
    if longest ≤ place then .nowhere
    else if endsSequence b then .behind (place + 1)
    else if !s.hasSecond && b = 0x26 && bs.head? = some 0x40 then ending s (place + 3) (bs.drop 2)
    else ending s (place + 1) bs
termination_by bs => bs.length
decreasing_by
  all_goals
    simp only [List.length_drop, List.length_cons]
    omega

/-- What a sequence behind its escape switches, and to what. -/
def switched (s : Switching) (sequence : List Char) (state : State) : Option State :=
  let repertoire? := fun (mark : String) =>
    if mark = "B" then some Repertoire.ascii else s.repertoires.lookup mark
  let wide := fun (c : Char) => repertoire? (String.ofList ['$', c])
  let narrow := fun (c : Char) => repertoire? (String.singleton c)
  match sequence with
  | ['$', c] | ['$', '(', c] => (wide c).map fun r => { state with first := r }
  | ['(', c] => (narrow c).map fun r => { state with first := r }
  | [')', c] => (narrow c).map fun r => { state with second := r }
  | ['$', ')', c] => (wide c).map fun r => { state with second := r }
  | ['.', c] => if s.hasThird then (narrow c).map fun r => { state with third := r } else none
  | [_, _, '\x1b', '$', 'B'] =>
    if s.hasSecond then none else some { state with first := .kanji }
  | _ => none

/-- What some bytes begin with, and what is switched to behind that. -/
def start (s : Switching) (state : State) (a : UInt8) (rest : List UInt8) : EastAsian.Found × State :=
  let itself : EastAsian.Found := .characters [Char.ofNat a.toNat] 1
  if state.through then (itself, { state with through := !endsSequence a })
  else if a = 0x1B then
    match rest with
    | [] => (.unfinished, state)
    | b :: behind =>
      if beginsSequence b then
        match s.ending 1 rest with
        | .nowhere => (.stray 1, state)
        | .missing => (.unfinished, state)
        | .behind count =>
          match s.switched ((rest.take (count - 1)).map fun b => Char.ofNat b.toNat) state with
          | some state => (.characters [] count, state)
          | none => (.stray count, state)
      else if s.hasThird && b = 0x4E then
        match behind with
        | [] => (.unfinished, state)
        | c :: _ =>
          match state.third.third? c with
          | some (some c) => (.characters [c] 3, state)
          | some none => (.stray 3, state)
          | none => (.lost, state)
      else (itself, { state with through := true })
  else if a = 0x0F && s.hasSecond then (.characters [] 1, { state with shifted := false })
  else if a = 0x0E && s.hasSecond then (.characters [] 1, { state with shifted := true })
  else if a = 0x0A then (itself, { state with shifted := false })
  else if a < 0x20 then (itself, state)
  else if 0x80 ≤ a then (.stray 1, state)
  else
    let r := if state.shifted then state.second else state.first
    if r.isPaired then
      match rest with
      | [] => (.unfinished, state)
      | b :: _ => ((r.characters? a.toNat b.toNat).elim (.stray 2) (.characters · 2), state)
    else ((r.characters? a.toNat 0).elim (.stray 1) (.characters · 1), state)

/-- The characters of bytes, the first of which is at a place. -/
def decodeFrom (s : Switching) (state : State) (place : Nat) : List UInt8 → Except Undecodable (List Char)
  | [] => .ok []
  | a :: rest =>
    match s.start state a rest with
    | (.characters cs count, state) =>
      (decodeFrom s state (place + count) (rest.drop (count - 1))).map (cs ++ ·)
    | (.stray count, _) => .error (.stray s.name place count a "illegal multibyte sequence")
    | (.unfinished, _) => .error (.stray s.name place (rest.length + 1) a "incomplete multibyte sequence")
    | (.lost, _) => .error .lost
termination_by bs => bs.length
decreasing_by
  simp only [List.length_drop, List.length_cons]
  omega

/-- The characters of bytes. -/
def decode (s : Switching) (bs : List UInt8) : Except Undecodable (List Char) := s.decodeFrom {} 0 bs

end Switching

end SdkGen.Text
